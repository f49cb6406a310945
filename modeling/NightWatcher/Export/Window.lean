import Mathlib.Data.List.Nodup
import NightWatcher.Export.Runner

/-!
# The windows an export run reads

`readings_between` returns the newest rows of a window first and at most as many
as asked for. On a sensor whose readings were stored in the order of their
timestamps that is the reversed table, cut (`windowRows_eq`), and what a run takes
for fresh is the newest `kMaxRows` readings above the watermark
(`freshReadings_window`).
-/

namespace NightWatcher.Exporter

open TimeUtil Database

/-! ## Lists in order -/

/-- Filtering commutes with cutting a list that has what is kept in front. -/
theorem filter_take_of_pairwise {α : Type} {p : α → Bool} {l : List α}
    (h : l.Pairwise fun a b => p b = true → p a = true) (k : Nat) :
    (l.take k).filter p = (l.filter p).take k := by
  induction l generalizing k with
  | nil => simp
  | cons a l ih =>
    rw [List.pairwise_cons] at h
    cases k with
    | zero => simp
    | succ k =>
      rw [List.take_succ_cons]
      by_cases hp : p a = true
      · rw [List.filter_cons_of_pos hp, List.filter_cons_of_pos hp, List.take_succ_cons, ih h.2]
      · -- nothing behind `a` is kept either
        have hnone : ∀ l' : List α, l' ⊆ l → l'.filter p = [] := by
          intro l' hl'
          rw [List.filter_eq_nil_iff]
          exact fun b hb hpb => hp (h.1 b (hl' hb) hpb)
        rw [List.filter_cons_of_neg hp, List.filter_cons_of_neg hp,
          hnone _ (List.take_subset k l), hnone _ (List.Subset.refl l), List.take_nil]

/-! ## The readings of a sensor -/

variable (srv : Server)

/-- The stored readings of a sensor, in insertion order. -/
def storedReadings (db : Db) (sensorId : String) : List ReadingRow :=
  db.readings.filter fun r => srv.same r.sensorId sensorId

/-- Inserted with strictly increasing timestamps. -/
def Ordered (rows : List ReadingRow) : Prop := rows.Pairwise fun a b => a.tsUtc < b.tsUtc

/-- A timestamp as the server writes it. -/
def IsStamp (ts : String) : Prop := ∃ u, InYears u ∧ ts = fmtSqlUtc u

theorem IsStamp.datetime {ts : String} (h : IsStamp ts) : srv.datetime ts = some ts := by
  obtain ⟨u, hu, rfl⟩ := h
  exact srv.datetime_fmtSqlUtc u hu

theorem IsStamp.ne_empty {ts : String} (h : IsStamp ts) : ts ≠ "" := by
  obtain ⟨u, hu, rfl⟩ := h
  intro he
  have hl := congrArg String.toList he
  rw [fmtSqlUtc_toList hu] at hl
  have hlen := congrArg List.length hl
  simp [Columns.text] at hlen

theorem empty_lt {ts : String} (h : ts ≠ "") : "" < ts := by
  rw [String.lt_iff_toList_lt]
  cases hts : ts.toList with
  | nil => exact absurd (String.toList_injective (by rw [hts]; rfl)) h
  | cons c cs => exact List.nil_lt_cons c cs

theorem not_lt_empty (ts : String) : ¬ts < "" := by
  intro h
  exact List.not_lt_nil _ (String.lt_iff_toList_lt.mp h)

variable {srv}

theorem Ordered.filter {rows : List ReadingRow} (h : Ordered rows) (p : ReadingRow → Bool) :
    Ordered (rows.filter p) := List.Pairwise.filter p h

/-- No two of the readings share a timestamp. -/
theorem Ordered.eq_of_tsUtc {rows : List ReadingRow} (h : Ordered rows) {a b : ReadingRow}
    (ha : a ∈ rows) (hb : b ∈ rows) (hts : a.tsUtc = b.tsUtc) : a = b := by
  have hnodup : (rows.map ReadingRow.tsUtc).Nodup := by
    rw [List.Nodup, List.pairwise_map]
    exact h.imp fun {x y} hxy => ne_of_lt hxy
  exact List.inj_on_of_nodup_map hnodup ha hb hts

/-- Sorting newest first reverses rows stored in order. -/
theorem mergeSort_newerFirst {rows : List ReadingRow} (h : Ordered rows) :
    rows.mergeSort (newerFirst ReadingRow.tsUtc ReadingRow.id) = rows.reverse := by
  have htrans : ∀ a b c : ReadingRow, newerFirst ReadingRow.tsUtc ReadingRow.id a b = true →
      newerFirst ReadingRow.tsUtc ReadingRow.id b c = true →
      newerFirst ReadingRow.tsUtc ReadingRow.id a c = true := by
    intro a b c hab hbc
    simp only [newerFirst, Bool.or_eq_true, Bool.and_eq_true, decide_eq_true_eq] at hab hbc ⊢
    rcases hab with hab | ⟨hab, hab'⟩ <;> rcases hbc with hbc | ⟨hbc, hbc'⟩
    · exact Or.inl (hbc.trans hab)
    · exact Or.inl (hbc ▸ hab)
    · exact Or.inl (hab ▸ hbc)
    · exact Or.inr ⟨hab.trans hbc, hbc'.trans hab'⟩
  have htotal : ∀ a b : ReadingRow, (newerFirst ReadingRow.tsUtc ReadingRow.id a b
      || newerFirst ReadingRow.tsUtc ReadingRow.id b a) = true := by
    intro a b
    simp only [newerFirst, Bool.or_eq_true, Bool.and_eq_true, decide_eq_true_eq]
    rcases lt_trichotomy a.tsUtc b.tsUtc with hlt | heq | hgt
    · exact Or.inr (Or.inl hlt)
    · rcases Nat.le_total b.id a.id with hle | hle
      · exact Or.inl (Or.inr ⟨heq, hle⟩)
      · exact Or.inr (Or.inr ⟨heq.symm, hle⟩)
    · exact Or.inl (Or.inl hgt)
  have hrev : rows.reverse.Pairwise fun a b =>
      newerFirst ReadingRow.tsUtc ReadingRow.id a b = true := by
    rw [List.pairwise_reverse]
    refine h.imp fun {a b} hab => ?_
    simp only [newerFirst, Bool.or_eq_true, decide_eq_true_eq]
    exact Or.inl hab
  refine List.Perm.eq_of_pairwise (fun a b ha hb hab hba => ?_)
    (List.pairwise_mergeSort htrans htotal rows) hrev
    ((List.mergeSort_perm rows _).trans (List.reverse_perm rows).symm)
  -- the order is antisymmetric on these rows, because no two share a timestamp
  simp only [newerFirst, Bool.or_eq_true, Bool.and_eq_true, decide_eq_true_eq] at hab hba
  have hts : a.tsUtc = b.tsUtc := by
    rcases hab with hab | ⟨hab, -⟩
    · rcases hba with hba | ⟨hba, -⟩
      · exact absurd hba (lt_asymm hab)
      · exact hba.symm
    · exact hab
  exact h.eq_of_tsUtc (List.mem_mergeSort.mp ha) (List.mem_reverse.mp hb) hts

/-! ## What a run reads -/

/-- The rows `readingsBetween` reads. -/
def windowRows (srv : Server) (db : Db) (sensorId lo hi : String) (limit : Int) : List ReadingRow :=
  ((db.readings.filter fun r => srv.same r.sensorId sensorId && tsBetween srv lo hi r.tsUtc)
    |>.mergeSort (newerFirst ReadingRow.tsUtc ReadingRow.id)).take (clampLimit limit)

theorem readingsBetween_eq (sensorId lo hi : String) (limit : Int) :
    readingsBetween srv sensorId lo hi limit
      = select fun s => windowRows srv s.db sensorId lo hi limit := rfl

theorem mem_windowRows {db : Db} {sensorId lo hi : String} {limit : Int} {r : ReadingRow}
    (h : r ∈ windowRows srv db sensorId lo hi limit) :
    r ∈ storedReadings srv db sensorId ∧ tsBetween srv lo hi r.tsUtc = true := by
  have hmem := List.mem_filter.mp (List.mem_mergeSort.mp (List.mem_of_mem_take h))
  rw [Bool.and_eq_true] at hmem
  exact ⟨List.mem_filter.mpr ⟨hmem.1, hmem.2.1⟩, hmem.2.2⟩

/-- A window of a sensor stored in order: newest first, cut. -/
theorem windowRows_eq {db : Db} {sensorId : String} (h : Ordered (storedReadings srv db sensorId))
    (lo hi : String) (limit : Int) :
    windowRows srv db sensorId lo hi limit =
      (((storedReadings srv db sensorId).filter fun r => tsBetween srv lo hi r.tsUtc).reverse).take
        (clampLimit limit) := by
  have hsplit : (db.readings.filter fun r =>
      srv.same r.sensorId sensorId && tsBetween srv lo hi r.tsUtc)
      = (storedReadings srv db sensorId).filter fun r => tsBetween srv lo hi r.tsUtc := by
    rw [storedReadings, List.filter_filter]
    exact List.filter_congr fun r _ => Bool.and_comm _ _
  rw [windowRows, hsplit, mergeSort_newerFirst (h.filter _)]

theorem clampLimit_kMaxRows : clampLimit (kMaxRows : Int) = kMaxRows := by
  unfold clampLimit kMaxRows
  split
  · omega
  · rfl

/-- The readings above a watermark, in order. -/
def backlog (srv : Server) (db : Db) (sensorId watermark : String) : List ReadingRow :=
  (storedReadings srv db sensorId).filter fun r => decide (watermark < r.tsUtc)

/-- The readings a run can see: stored, and not after its own `now`. -/
def visible (srv : Server) (db : Db) (sensorId now : String) : List ReadingRow :=
  (storedReadings srv db sensorId).filter fun r => decide (r.tsUtc ≤ now)

/-- A run takes for fresh the newest `kMaxRows` visible readings above the watermark. -/
theorem freshReadings_visible {db : Db} {sensorId wm now : String}
    (hord : Ordered (storedReadings srv db sensorId))
    (hstamp : ∀ r ∈ storedReadings srv db sensorId, IsStamp r.tsUtc)
    (hwm : wm = "" ∨ IsStamp wm) (hnow : IsStamp now) :
    freshReadings wm (windowRows srv db sensorId wm now kMaxRows)
      = ((visible srv db sensorId now).filter fun r => decide (wm < r.tsUtc)).reverse.take
          kMaxRows := by
  -- the bounds of the window are timestamps, so the server compares them as texts
  have hbetween : ∀ r ∈ storedReadings srv db sensorId, tsBetween srv wm now r.tsUtc =
      ((wm = "" || decide (wm ≤ r.tsUtc)) && decide (r.tsUtc ≤ now)) := by
    intro r hr
    unfold tsBetween
    rw [hnow.datetime srv]
    have hne := hnow.ne_empty
    rcases hwm with rfl | hwm
    · simp [hne]
    · rw [hwm.datetime srv]
      simp [hne]
  -- with no watermark every reading is fresh
  have hfresh : ∀ rows : List ReadingRow, (∀ r ∈ rows, IsStamp r.tsUtc) →
      freshReadings wm rows = rows.filter fun r => decide (wm < r.tsUtc) := by
    intro rows hrows
    unfold freshReadings
    split
    next he =>
      subst he
      rw [List.filter_eq_self.mpr]
      intro r hr
      exact decide_eq_true (empty_lt (hrows r hr).ne_empty)
    next =>
      refine List.filter_congr fun r _ => ?_
      rw [← decide_not]
      exact decide_eq_decide.mpr not_le
  have hmem : ∀ r ∈ windowRows srv db sensorId wm now kMaxRows, IsStamp r.tsUtc := by
    intro r hr
    rw [windowRows_eq hord] at hr
    exact hstamp r (List.mem_of_mem_filter (List.mem_reverse.mp (List.mem_of_mem_take hr)))
  rw [hfresh _ hmem, windowRows_eq hord, clampLimit_kMaxRows]
  -- newest first, so those past the watermark are a front part
  have hdesc : (((storedReadings srv db sensorId).filter fun r =>
      tsBetween srv wm now r.tsUtc).reverse).Pairwise
        fun a b => decide (wm < b.tsUtc) = true → decide (wm < a.tsUtc) = true := by
    rw [List.pairwise_reverse]
    refine (hord.filter _).imp fun {a b} hab h => ?_
    rw [decide_eq_true_eq] at h ⊢
    exact h.trans hab
  rw [filter_take_of_pairwise hdesc, List.filter_reverse, List.filter_filter, visible,
    List.filter_filter]
  congr 2
  refine List.filter_congr fun r hr => ?_
  rw [hbetween r hr]
  by_cases hlt : wm < r.tsUtc
  · simp [hlt, le_of_lt hlt]
  · simp [hlt]

/-- With the clock not behind, it is the newest readings above the watermark. -/
theorem freshReadings_window {db : Db} {sensorId wm now : String}
    (hord : Ordered (storedReadings srv db sensorId))
    (hstamp : ∀ r ∈ storedReadings srv db sensorId, IsStamp r.tsUtc)
    (hwm : wm = "" ∨ IsStamp wm) (hnow : IsStamp now)
    (hclock : ∀ r ∈ storedReadings srv db sensorId, r.tsUtc ≤ now) :
    freshReadings wm (windowRows srv db sensorId wm now kMaxRows)
      = (backlog srv db sensorId wm).reverse.take kMaxRows := by
  have hall : visible srv db sensorId now = storedReadings srv db sensorId :=
    List.filter_eq_self.mpr fun r hr => decide_eq_true (hclock r hr)
  rw [freshReadings_visible hord hstamp hwm hnow, hall, backlog]

/-- The new watermark is one of the fresh timestamps and bounds them all. -/
theorem newestTs_spec {rows : List ReadingRow} (hne : rows ≠ [])
    (hstamp : ∀ r ∈ rows, IsStamp r.tsUtc) :
    (∃ r ∈ rows, newestTs rows = r.tsUtc) ∧ ∀ r ∈ rows, r.tsUtc ≤ newestTs rows := by
  suffices h : ∀ (rows : List ReadingRow) (start : String),
      let top := rows.foldl (fun newest r => if newest < r.tsUtc then r.tsUtc else newest) start
      (top = start ∨ ∃ r ∈ rows, top = r.tsUtc) ∧ start ≤ top ∧ ∀ r ∈ rows, r.tsUtc ≤ top by
    obtain ⟨htop, -, hle⟩ := h rows ""
    refine ⟨?_, hle⟩
    rcases htop with htop | htop
    · obtain ⟨r, rs, rfl⟩ := List.exists_cons_of_ne_nil hne
      have hr := hle r (by simp)
      rw [htop] at hr
      exact absurd (empty_lt (hstamp r (by simp)).ne_empty) (not_lt.mpr hr)
    · exact htop
  intro rows
  induction rows with
  | nil => intro start; simp
  | cons r rows ih =>
    intro start
    simp only [List.foldl_cons]
    split
    next hlt =>
      obtain ⟨htop, hstart, hle⟩ := ih r.tsUtc
      refine ⟨Or.inr ?_, le_trans (le_of_lt hlt) hstart, ?_⟩
      · rcases htop with htop | ⟨x, hx, htop⟩
        · exact ⟨r, by simp, htop⟩
        · exact ⟨x, by simp [hx], htop⟩
      · intro x hx
        rcases List.mem_cons.mp hx with rfl | hx
        · exact hstart
        · exact hle x hx
    next hlt =>
      obtain ⟨htop, hstart, hle⟩ := ih start
      refine ⟨?_, hstart, ?_⟩
      · rcases htop with htop | ⟨x, hx, htop⟩
        · exact Or.inl htop
        · exact Or.inr ⟨x, by simp [hx], htop⟩
      · intro x hx
        rcases List.mem_cons.mp hx with rfl | hx
        · exact le_trans (not_lt.mp hlt) hstart
        · exact hle x hx

/-- The new watermark of a run with something fresh: the newest visible reading. -/
theorem newest_visible {db : Db} {sensorId wm now : String}
    (hord : Ordered (storedReadings srv db sensorId))
    (hstamp : ∀ r ∈ storedReadings srv db sensorId, IsStamp r.tsUtc) {fresh : List ReadingRow}
    (hfresh : fresh = ((visible srv db sensorId now).filter fun r => decide (wm < r.tsUtc)).reverse.take
      kMaxRows) (hne : fresh ≠ []) :
    (∃ r ∈ visible srv db sensorId now, newestTs fresh = r.tsUtc) ∧ wm < newestTs fresh ∧
      ∀ r ∈ visible srv db sensorId now, r.tsUtc ≤ newestTs fresh := by
  have hmem : ∀ r ∈ fresh, r ∈ visible srv db sensorId now ∧ wm < r.tsUtc := by
    intro r hr
    rw [hfresh] at hr
    have hr := List.mem_filter.mp (List.mem_reverse.mp (List.mem_of_mem_take hr))
    exact ⟨hr.1, of_decide_eq_true hr.2⟩
  obtain ⟨⟨top, htop, hnewest⟩, hle⟩ := newestTs_spec hne fun r hr =>
    hstamp r (List.mem_of_mem_filter (hmem r hr).1)
  obtain ⟨hvisible, hlt⟩ := hmem top htop
  rw [← hnewest] at hlt
  refine ⟨⟨top, hvisible, hnewest⟩, hlt, fun r hr => ?_⟩
  by_cases hwm : wm < r.tsUtc
  · -- the cut keeps the newest, which is the first
    have hdesc : (((visible srv db sensorId now).filter fun r =>
        decide (wm < r.tsUtc)).reverse).Pairwise fun a b => b.tsUtc < a.tsUtc := by
      rw [List.pairwise_reverse]
      exact (hord.filter _).filter _
    have hr : r ∈ ((visible srv db sensorId now).filter fun r => decide (wm < r.tsUtc)).reverse :=
      List.mem_reverse.mpr (List.mem_filter.mpr ⟨hr, decide_eq_true hwm⟩)
    generalize ((visible srv db sensorId now).filter fun r => decide (wm < r.tsUtc)).reverse = l
      at hfresh hdesc hr
    cases l with
    | nil => cases hr
    | cons a l =>
      have ha : a ∈ fresh := by
        rw [hfresh, kMaxRows, List.take_succ_cons]
        exact List.mem_cons_self
      rcases List.mem_cons.mp hr with rfl | hr
      · exact hle _ ha
      · exact le_trans (le_of_lt ((List.pairwise_cons.mp hdesc).1 r hr)) (hle a ha)
  · exact le_trans (not_lt.mp hwm) (le_of_lt hlt)

end NightWatcher.Exporter
