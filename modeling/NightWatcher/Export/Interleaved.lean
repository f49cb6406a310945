import NightWatcher.Lib.Transcript
import NightWatcher.Export.Incremental

/-!
# Runs of one target that overlap

The scheduler's worker and every `POST /export-targets/{id}/run` call
`run_export` on threads and connections of their own. A run loads the target's
row, reads what is fresh up to its own `now`, pushes it, and writes the
watermark; anything may happen in between (`Exports`, `runExport_steps`).

The watermark a run writes is the newest reading it could see when it queried
(`newest_visible`), whatever the row says by the time it writes. So the
watermark moves backwards exactly if a run writes after one that had seen more
(`watermark_monotone_iff`).
-/

namespace NightWatcher.Exporter

open Throwing TimeUtil Database Transcript

/-! ## The machine -/

/-- How far a run has come; `seen` is what it could see when it queried. -/
inductive RunState where
  | idle
  | loaded (t : ExportTargetRow)
  | queried (t : ExportTargetRow) (work : Work) (seen : List ReadingRow)
  | pushed (t : ExportTargetRow) (work : Work) (seen : List ReadingRow)
  | marked (work : Work) (seen : List ReadingRow)
  | ended

/-- The run has not written the watermark. -/
def RunState.unmarked : RunState → Bool
  | .marked _ _ => false
  | _ => true

/-- The daemon's world and any number of runs of one target. -/
structure Exports where
  world : World
  runs : Nat → RunState := fun _ => .idle

/-- What happens next, and what the outside does meanwhile. -/
inductive Move where
  /-- a reading of the sensor is inserted -/
  | insert (o : Outside) (r : Reading) (tsUtc : String) (source : Source) (quality : Quality)
  | load (k : Nat) (o : Outside)
  | query (k : Nat) (o : Outside)
  | push (k : Nat) (o : Outside)
  | mark (k : Nat) (o : Outside)

namespace Exports

/-- Run `k` makes a step; what it throws ends it. -/
def step {α : Type} (s : Exports) (k : Nat) (o : Outside) (x : Act α) (after : α → RunState) :
    Exports :=
  match x (s.world.facing o) with
  | .ok a w' => { world := w', runs := Function.update s.runs k (after a) }
  | .error _ w' => { world := w', runs := Function.update s.runs k .ended }

/-- A run of a target that is gone ends. -/
def afterLoad : Option ExportTargetRow → RunState
  | none => .ended
  | some t => .loaded t

/-- So does one that finds nothing fresh. -/
def afterQuery (t : ExportTargetRow) (seen : List ReadingRow) : Option Work → RunState
  | none => .ended
  | some work => .queried t work seen

/-- The run loads its target. -/
def loadStep (d : Deps) (targetId : String) (s : Exports) (k : Nat) (o : Outside) : Exports :=
  s.step k o (ask (findExportTarget d.server targetId)) afterLoad

/-- The run queries the fresh readings. -/
def queryStep (d : Deps) (s : Exports) (k : Nat) (o : Outside) (t : ExportTargetRow) : Exports :=
  s.step k o (queryFresh d t)
    (afterQuery t (visible d.server s.world.db t.sensorId (fmtSqlUtc o.now)))

/-- The run posts them. -/
def pushStep (d : Deps) (s : Exports) (k : Nat) (o : Outside) (t : ExportTargetRow) (work : Work)
    (seen : List ReadingRow) : Exports :=
  s.step k o (Exporter.push d t work) fun _ => .pushed t work seen

/-- The run writes the watermark. -/
def markStep (d : Deps) (s : Exports) (k : Nat) (o : Outside) (t : ExportTargetRow) (work : Work)
    (seen : List ReadingRow) : Exports :=
  s.step k o (setExportWatermark d.server t.id (newestTs work.fresh)) fun _ => .marked work seen

/-- A run makes its steps in order; a move that is not its next step does nothing. -/
def next (d : Deps) (targetId sensorId : String) (s : Exports) : Move → Exports
  | .insert o r tsUtc source quality =>
    let run := insertReading d.server sensorId r tsUtc source quality (s.world.facing o)
    { s with world := endState run }
  | .load k o =>
    match s.runs k with
    | .idle => s.loadStep d targetId k o
    | _ => s
  | .query k o =>
    match s.runs k with
    | .loaded t => s.queryStep d k o t
    | _ => s
  | .push k o =>
    match s.runs k with
    | .queried t work seen => s.pushStep d k o t work seen
    | _ => s
  | .mark k o =>
    match s.runs k with
    | .pushed t work seen => s.markStep d k o t work seen
    | _ => s

/-- Readings are inserted with ever later timestamps, and clocks show years the
timestamp format has. -/
def Allowed (d : Deps) (sensorId : String) (s : Exports) : Move → Prop
  | .insert o _ tsUtc _ _ => ∃ u, InYears u ∧
      timestampOrNow d.server o.now tsUtc = some (fmtSqlUtc u) ∧
      ∀ x ∈ storedReadings d.server s.world.db sensorId, x.tsUtc < fmtSqlUtc u
  | .query _ o => InYears o.now
  | _ => True

/-- A run that writes the watermark has seen every reading that a run which wrote
before it had seen. -/
def InOrder (s : Exports) : Move → Prop
  | .mark k o => ∀ t work seen, s.runs k = .pushed t work seen → o.dbFaults.head? ≠ some true →
      ∀ j work' seen', s.runs j = .marked work' seen' → seen' ⊆ seen
  | _ => True

/-- The stored watermark. -/
def stored (d : Deps) (targetId : String) (s : Exports) : String :=
  watermark d.server s.world.db targetId

end Exports

/-! ## What a run knows -/

/-- What a run saw is what is stored up to the newest reading it is going to write, which
is later than the watermark at the start. -/
structure Knows (d : Deps) (sensorId start : String) (db : Db) (work : Work)
    (seen : List ReadingRow) : Prop where
  newest : ∃ r ∈ seen, r.tsUtc = newestTs work.fresh
  stored : seen ⊆ storedReadings d.server db sensorId
  whole : ∀ r ∈ storedReadings d.server db sensorId, r.tsUtc ≤ newestTs work.fresh → r ∈ seen
  bound : ∀ r ∈ seen, r.tsUtc ≤ newestTs work.fresh
  later : start < newestTs work.fresh

/-- The row a run loaded is the target's, though its watermark may be an old one. -/
structure OfTarget (d : Deps) (targetId sensorId : String) (db : Db) (t : ExportTargetRow) : Prop where
  row : ∃ t', targetRow d.server db targetId = some t' ∧ t'.id = t.id
  sensor : t.sensorId = sensorId

/-- What a run holds is of the target, and not older than the start. -/
def RunOk (d : Deps) (targetId sensorId start : String) (db : Db) : RunState → Prop
  | .idle | .ended => True
  | .loaded t => OfTarget d targetId sensorId db t ∧ start ≤ t.lastExportTs ∧
      (t.lastExportTs = "" ∨ IsStamp t.lastExportTs)
  | .queried t work seen | .pushed t work seen =>
      OfTarget d targetId sensorId db t ∧ Knows d sensorId start db work seen
  | .marked work seen => Knows d sensorId start db work seen

/-- What holds in every state: of the tables, and of what each run holds. -/
structure Good (d : Deps) (kind targetId sensorId start : String) (s : Exports) : Prop where
  tracked : Tracked d kind targetId sensorId s.world
  runs : ∀ k, RunOk d targetId sensorId start s.world.db (s.runs k)
  risen : start ≤ s.stored d targetId
  marked : ∀ j work seen, s.runs j = .marked work seen →
    newestTs work.fresh ≤ s.stored d targetId
  top : s.stored d targetId = start ∨
    ∃ j work seen, s.runs j = .marked work seen ∧ s.stored d targetId = newestTs work.fresh

variable {d : Deps} {kind targetId sensorId start : String} {s : Exports} {db db' : Db}

/-- What a run has seen does not depend on other tables. -/
theorem Knows.congr {work : Work} {seen : List ReadingRow} (h : Knows d sensorId start db work seen)
    (hr : storedReadings d.server db' sensorId = storedReadings d.server db sensorId) :
    Knows d sensorId start db' work seen :=
  ⟨h.newest, hr ▸ h.stored, hr ▸ h.whole, h.bound, h.later⟩

/-- A row is the target's as long as the targets stay. -/
theorem OfTarget.congr {t : ExportTargetRow} (h : OfTarget d targetId sensorId db t)
    (ht : db'.exportTargets = db.exportTargets) : OfTarget d targetId sensorId db' t := by
  refine ⟨?_, h.sensor⟩
  unfold targetRow
  rw [ht]
  exact h.row

/-- A run looks at the readings and the targets only. -/
theorem RunOk.congr {state : RunState} (h : RunOk d targetId sensorId start db state)
    (hr : storedReadings d.server db' sensorId = storedReadings d.server db sensorId)
    (ht : db'.exportTargets = db.exportTargets) :
    RunOk d targetId sensorId start db' state := by
  cases state with
  | idle => trivial
  | loaded t => exact ⟨h.1.congr ht, h.2⟩
  | queried t work seen => exact ⟨h.1.congr ht, h.2.congr hr⟩
  | pushed t work seen => exact ⟨h.1.congr ht, h.2.congr hr⟩
  | marked work seen => exact Knows.congr h hr
  | ended => trivial

/-- A later reading is not one that a run ought to have seen. -/
theorem Knows.append {work : Work} {seen : List ReadingRow} {row : ReadingRow}
    (h : Knows d sensorId start db work seen)
    (hnew : ∀ x ∈ storedReadings d.server db sensorId, x.tsUtc < row.tsUtc)
    (hr : storedReadings d.server db' sensorId = storedReadings d.server db sensorId ++ [row]) :
    Knows d sensorId start db' work seen := by
  refine ⟨h.newest, fun r hmem => ?_, fun r hmem hle => ?_, h.bound, h.later⟩
  · rw [hr]
    exact List.mem_append_left _ (h.stored hmem)
  · rw [hr] at hmem
    rcases List.mem_append.mp hmem with hmem | hmem
    · exact h.whole r hmem hle
    · obtain ⟨x, hx, hts⟩ := h.newest
      have hlt := hnew x (h.stored hx)
      rw [List.mem_singleton.mp hmem, ← hts] at hle
      exact absurd hle (not_le.mpr hlt)

/-- A reading that comes in takes nothing from what a run holds. -/
theorem RunOk.append {state : RunState} {row : ReadingRow}
    (h : RunOk d targetId sensorId start db state)
    (hnew : ∀ x ∈ storedReadings d.server db sensorId, x.tsUtc < row.tsUtc)
    (hr : storedReadings d.server db' sensorId = storedReadings d.server db sensorId ++ [row])
    (ht : db'.exportTargets = db.exportTargets) : RunOk d targetId sensorId start db' state := by
  cases state with
  | idle => trivial
  | loaded t => exact ⟨h.1.congr ht, h.2⟩
  | queried t work seen => exact ⟨h.1.congr ht, h.2.append hnew hr⟩
  | pushed t work seen => exact ⟨h.1.congr ht, h.2.append hnew hr⟩
  | marked work seen => exact Knows.append h hnew hr
  | ended => trivial

/-! ## What a move preserves -/

/-- What the program of a step brings about holds after the step. -/
theorem step_rule {α : Type} {k : Nat} {o : Outside} {x : Act α} {after : α → RunState}
    {P : Exports → Prop}
    (h : Meets x (s.world.facing o)
      (fun a w' => P { world := w', runs := Function.update s.runs k (after a) })
      fun _ w' => P { world := w', runs := Function.update s.runs k .ended }) :
    P (s.step k o x after) := by
  unfold Meets at h
  unfold Exports.step
  cases hx : x (s.world.facing o) with
  | ok a w' =>
    rw [hx] at h
    exact h
  | error e w' =>
    rw [hx] at h
    exact h

/-- The stored watermark depends on the targets only. -/
theorem stored_congr {w' : World} {runs : Nat → RunState}
    (ht : w'.db.exportTargets = s.world.db.exportTargets) :
    Exports.stored d targetId { world := w', runs := runs } = s.stored d targetId := by
  unfold Exports.stored watermark targetRow
  rw [ht]

/-- The readings of the sensor depend on the readings only. -/
theorem storedReadings_congr (hr : db'.readings = db.readings) :
    storedReadings d.server db' sensorId = storedReadings d.server db sensorId := by
  unfold storedReadings
  rw [hr]

/-- A run that moves on without writing the watermark. -/
theorem Good.advance (h : Good d kind targetId sensorId start s) {w' : World} {k : Nat}
    {state : RunState} (hr : w'.db.readings = s.world.db.readings)
    (ht : w'.db.exportTargets = s.world.db.exportTargets)
    (hold : (s.runs k).unmarked = true) (hnew : state.unmarked = true)
    (hok : RunOk d targetId sensorId start s.world.db state) :
    Good d kind targetId sensorId start
      { world := w', runs := Function.update s.runs k state } := by
  have hmarked : ∀ j work seen, Function.update s.runs k state j = .marked work seen ↔
      s.runs j = .marked work seen := by
    intro j work seen
    by_cases hj : j = k
    · subst hj
      rw [Function.update_self]
      constructor
      · intro he
        rw [he] at hnew
        cases hnew
      · intro he
        rw [he] at hold
        cases hold
    · rw [Function.update_of_ne hj]
  refine ⟨h.tracked.congr hr ht, fun j => ?_, ?_, fun j work seen hj => ?_, ?_⟩
  · show RunOk d targetId sensorId start w'.db (Function.update s.runs k state j)
    by_cases hj : j = k
    · subst hj
      rw [Function.update_self]
      exact hok.congr (storedReadings_congr hr) ht
    · rw [Function.update_of_ne hj]
      exact (h.runs j).congr (storedReadings_congr hr) ht
  · rw [stored_congr ht]
    exact h.risen
  · rw [stored_congr ht]
    exact h.marked j work seen ((hmarked j work seen).mp hj)
  · rw [stored_congr ht]
    rcases h.top with htop | ⟨j, work, seen, hj, htop⟩
    · exact Or.inl htop
    · exact Or.inr ⟨j, work, seen, (hmarked j work seen).mpr hj, htop⟩

/-- An insertion keeps the state good. -/
theorem good_insert (h : Good d kind targetId sensorId start s) {o : Outside} {r : Reading}
    {tsUtc : String} {source : Source} {quality : Quality}
    (hallowed : s.Allowed d sensorId (.insert o r tsUtc source quality)) :
    (s.next d targetId sensorId (.insert o r tsUtc source quality)).stored d targetId
        = s.stored d targetId ∧
      Good d kind targetId sensorId start
        (s.next d targetId sensorId (.insert o r tsUtc source quality)) := by
  obtain ⟨u, hu, hts, hnew⟩ := hallowed
  refine Meets.endState (P := fun w' => Exports.stored d targetId { s with world := w' }
      = s.stored d targetId ∧ Good d kind targetId sensorId start { s with world := w' })
    (meets_insertReading hts (fun row hrow next fs => ?_) fun next fs => ?_)
  · have hsame : Exports.stored d targetId { s with world := { s.world.facing o with
        db := { s.world.db with readings := s.world.db.readings ++ [row], next := next }
        dbFaults := fs } } = s.stored d targetId := rfl
    refine ⟨hsame, ?_⟩
    rw [← hrow] at hnew
    rcases storedReadings_append d.server s.world.db sensorId row next with hother | happ
    · -- the row belongs to another sensor
      exact ⟨⟨h.tracked.target, hother.symm ▸ h.tracked.ordered, hother.symm ▸ h.tracked.stamped,
        hother.symm ▸ h.tracked.marked⟩, fun k => (h.runs k).congr hother rfl, h.risen, h.marked, h.top⟩
    · exact ⟨h.tracked.append rfl ⟨u, hu, hrow⟩ hnew happ,
        fun k => (h.runs k).append hnew happ rfl, h.risen, h.marked, h.top⟩
  · refine ⟨rfl, h.tracked.congr rfl rfl, fun k => (h.runs k).congr rfl rfl, h.risen, h.marked, h.top⟩

/-- What a run's step preserves if it writes no watermark. -/
def Steady (d : Deps) (kind targetId sensorId start : String) (s s' : Exports) : Prop :=
  s'.stored d targetId = s.stored d targetId ∧ Good d kind targetId sensorId start s'

/-- Where nothing changes the watermark is steady. -/
theorem Steady.refl (h : Good d kind targetId sensorId start s) :
    Steady d kind targetId sensorId start s s := ⟨rfl, h⟩

/-- So it is where readings and targets stay. -/
theorem Good.steady (h : Good d kind targetId sensorId start s) {w' : World} {k : Nat}
    {state : RunState} (hr : w'.db.readings = s.world.db.readings)
    (ht : w'.db.exportTargets = s.world.db.exportTargets)
    (hold : (s.runs k).unmarked = true) (hnew : state.unmarked = true)
    (hok : RunOk d targetId sensorId start s.world.db state) :
    Steady d kind targetId sensorId start s
      { world := w', runs := Function.update s.runs k state } :=
  ⟨stored_congr ht, h.advance hr ht hold hnew hok⟩

/-- The row a run loads now is one to go on with. -/
theorem Good.loaded (h : Good d kind targetId sensorId start s) {t : ExportTargetRow}
    (hrow : targetRow d.server s.world.db targetId = some t) :
    RunOk d targetId sensorId start s.world.db (.loaded t) := by
  obtain ⟨t', hrow', -, hsensor⟩ := h.tracked.target
  obtain rfl : t = t' := Option.some.inj (hrow.symm.trans hrow')
  have hmark : watermark d.server s.world.db targetId = t.lastExportTs := by
    rw [watermark, hrow]
    rfl
  have hrisen : start ≤ watermark d.server s.world.db targetId := h.risen
  have hstamp := h.tracked.watermark_stamp
  rw [hmark] at hrisen hstamp
  exact ⟨⟨⟨t, hrow, rfl⟩, hsensor⟩, hrisen, hstamp⟩

/-- Loading finds the row as it is, or fails. -/
theorem meets_findTarget {w : World} {Q : Option ExportTargetRow → World → Prop}
    {E : String → World → Prop} (hok : ∀ fs, Q (targetRow d.server w.db targetId) (w.withFaults fs))
    (herr : ∀ fs, E "query failed" (w.withFaults fs)) :
    Meets (ask (findExportTarget d.server targetId)) w Q E :=
  meets_select hok herr

/-- Loading moves no watermark. -/
theorem steady_load (h : Good d kind targetId sensorId start s) {k : Nat} {o : Outside} :
    Steady d kind targetId sensorId start s (s.next d targetId sensorId (.load k o)) := by
  unfold Exports.next
  dsimp only
  cases hk : s.runs k with
  | idle =>
    have hold : (s.runs k).unmarked = true := by rw [hk]; rfl
    refine step_rule (P := Steady d kind targetId sensorId start s)
      (meets_findTarget (fun fs => ?_) fun fs => ?_)
    · cases hrow : targetRow d.server (s.world.facing o).db targetId with
      | none => exact h.steady rfl rfl hold rfl trivial
      | some t =>
        have hok := h.loaded hrow
        exact h.steady rfl rfl hold rfl hok
    · exact h.steady rfl rfl hold rfl trivial
  | loaded t => exact Steady.refl h
  | queried t work seen => exact Steady.refl h
  | pushed t work seen => exact Steady.refl h
  | marked work seen => exact Steady.refl h
  | ended => exact Steady.refl h

/-- What a run knows once it queried. -/
theorem knows_query (h : Good d kind targetId sensorId start s) {t : ExportTargetRow} {now : Int}
    (hnow : InYears now) (ht : RunOk d targetId sensorId start s.world.db (.loaded t)) {work : Work}
    (hfresh : work.fresh = freshOf d s.world.db now t) (hne : work.fresh ≠ []) :
    Knows d sensorId start s.world.db work
      (visible d.server s.world.db t.sensorId (fmtSqlUtc now)) := by
  obtain ⟨htarget, hstart, hstamp⟩ := ht
  rw [h.tracked.freshOf_visible htarget.sensor hstamp hnow] at hfresh
  obtain ⟨⟨top, htop, hnewest⟩, hlt, hle⟩ :=
    newest_visible h.tracked.ordered h.tracked.stamped hfresh hne
  rw [htarget.sensor]
  refine ⟨⟨top, htop, hnewest.symm⟩, fun r hr => List.mem_of_mem_filter hr, fun r hr hlast => ?_,
    hle, lt_of_le_of_lt hstart hlt⟩
  -- not after the newest, so not after `now`
  have hbefore : top.tsUtc ≤ fmtSqlUtc now := of_decide_eq_true (List.mem_filter.mp htop).2
  refine List.mem_filter.mpr ⟨hr, decide_eq_true (le_trans hlast ?_)⟩
  rw [hnewest]
  exact hbefore

/-- Querying moves no watermark. -/
theorem steady_query (h : Good d kind targetId sensorId start s) {k : Nat} {o : Outside}
    (hnow : InYears o.now) :
    Steady d kind targetId sensorId start s (s.next d targetId sensorId (.query k o)) := by
  unfold Exports.next
  dsimp only
  cases hk : s.runs k with
  | loaded t =>
    have hold : (s.runs k).unmarked = true := by rw [hk]; rfl
    have hok := h.runs k
    rw [hk] at hok
    refine step_rule (P := Steady d kind targetId sensorId start s)
      (meets_queryFresh (fun fs => ?_) (fun work fs hfresh hne => ?_) fun _ fs => ?_)
    · exact h.steady rfl rfl hold rfl trivial
    · exact h.steady rfl rfl hold rfl ⟨hok.1, knows_query h hnow hok hfresh hne⟩
    · exact h.steady rfl rfl hold rfl trivial
  | idle => exact Steady.refl h
  | queried t work seen => exact Steady.refl h
  | pushed t work seen => exact Steady.refl h
  | marked work seen => exact Steady.refl h
  | ended => exact Steady.refl h

/-- Posting moves no watermark. -/
theorem steady_push (h : Good d kind targetId sensorId start s) {k : Nat} {o : Outside} :
    Steady d kind targetId sensorId start s (s.next d targetId sensorId (.push k o)) := by
  unfold Exports.next
  dsimp only
  cases hk : s.runs k with
  | queried t work seen =>
    have hold : (s.runs k).unmarked = true := by rw [hk]; rfl
    have hok := h.runs k
    rw [hk] at hok
    refine step_rule (P := Steady d kind targetId sensorId start s)
      (((logging_push t work).meets _).mono (fun _ w' hw => ?_) fun _ w' hw => ?_)
    · have hsame := logging_untouched hw
      exact h.steady (untouched_readings hsame) (untouched_targets hsame) hold rfl hok
    · have hsame := logging_untouched hw
      exact h.steady (untouched_readings hsame) (untouched_targets hsame) hold rfl trivial
  | idle => exact Steady.refl h
  | loaded t => exact Steady.refl h
  | pushed t work seen => exact Steady.refl h
  | marked work seen => exact Steady.refl h
  | ended => exact Steady.refl h

/-- Whether the write of a watermark goes through shows in the fault that awaits it. -/
theorem meets_writeWatermark {id ts : String} {w : World} {Q E : World → Prop} (hts : IsStamp ts)
    (hok : w.dbFaults.head? ≠ some true → ∀ fs, Q { w with
      db := { w.db with exportTargets := markTarget d.server id ts w.db.exportTargets }
      dbFaults := fs })
    (herr : w.dbFaults.head? = some true → ∀ fs, E (w.withFaults fs)) :
    Meets (setExportWatermark d.server id ts) w (fun _ => Q) (fun _ => E) := by
  refine meets_statement_head (fun hhead a db' fs h => ?_) fun hfail e fs => herr ?_ fs
  · rw [hts.datetime] at h
    simp only [Option.bind_eq_bind, Option.bind_some, updateWhere_some, Option.pure_def,
      Option.some.injEq, Prod.mk.injEq] at h
    obtain ⟨-, rfl⟩ := h
    exact hok hhead fs
  · rcases hfail with hfail | hfail
    · exact hfail
    · rw [hts.datetime] at hfail
      simp [updateWhere_some] at hfail

/-- The row a run loaded stays the target's when another run writes the watermark. -/
theorem OfTarget.mark {t u : ExportTargetRow} {ts : String}
    (h : OfTarget d targetId sensorId db t) (hwriter : OfTarget d targetId sensorId db u)
    (ht : db'.exportTargets = markTarget d.server u.id ts db.exportTargets) :
    OfTarget d targetId sensorId db' t := by
  obtain ⟨⟨t', hrow, hid⟩, hsensor⟩ := h
  obtain ⟨⟨u', hrow', hid'⟩, -⟩ := hwriter
  obtain rfl : t' = u' := Option.some.inj (hrow.symm.trans hrow')
  rw [← hid'] at ht
  exact ⟨⟨{ t' with lastExportTs := ts }, targetRow_marked hrow ht, hid⟩, hsensor⟩

/-- A watermark written by one run keeps what another holds. -/
theorem RunOk.mark {state : RunState} {u : ExportTargetRow} {ts : String}
    (h : RunOk d targetId sensorId start db state) (hwriter : OfTarget d targetId sensorId db u)
    (hr : db'.readings = db.readings)
    (ht : db'.exportTargets = markTarget d.server u.id ts db.exportTargets) :
    RunOk d targetId sensorId start db' state := by
  have hstored : storedReadings d.server db' sensorId = storedReadings d.server db sensorId :=
    storedReadings_congr hr
  cases state with
  | idle => trivial
  | loaded t => exact ⟨h.1.mark hwriter ht, h.2⟩
  | queried t work seen => exact ⟨h.1.mark hwriter ht, h.2.congr hstored⟩
  | pushed t work seen => exact ⟨h.1.mark hwriter ht, h.2.congr hstored⟩
  | marked work seen => exact Knows.congr h hstored
  | ended => trivial

/-- Writing the watermark raises it exactly if the writer has seen what the earlier
writers have. -/
theorem rises_iff (h : Good d kind targetId sensorId start s) {work : Work} {seen : List ReadingRow}
    (hknows : Knows d sensorId start s.world.db work seen) :
    (∀ j work' seen', s.runs j = .marked work' seen' → seen' ⊆ seen) ↔
      s.stored d targetId ≤ newestTs work.fresh := by
  constructor
  · intro hseen
    rcases h.top with htop | ⟨j, work', seen', hj, htop⟩
    · rw [htop]
      exact le_of_lt hknows.later
    · have hknows' := h.runs j
      rw [hj] at hknows'
      obtain ⟨r, hr, hts⟩ := hknows'.newest
      rw [htop, ← hts]
      exact hknows.bound r (hseen j work' seen' hj hr)
  · intro hle j work' seen' hj r hr
    have hknows' := h.runs j
    rw [hj] at hknows'
    refine hknows.whole r (hknows'.stored hr) ?_
    exact le_trans (hknows'.bound r hr) (le_trans (h.marked j work' seen' hj) hle)

/-- A write of the watermark that goes through. -/
theorem Good.write (h : Good d kind targetId sensorId start s) {k : Nat} {t : ExportTargetRow}
    {work : Work} {seen : List ReadingRow} (hk : s.runs k = .pushed t work seen) {w' : World}
    (hr : w'.db.readings = s.world.db.readings)
    (ht : w'.db.exportTargets =
      markTarget d.server t.id (newestTs work.fresh) s.world.db.exportTargets) :
    let s' : Exports := { world := w', runs := Function.update s.runs k (.marked work seen) }
    s'.stored d targetId = newestTs work.fresh ∧
      (s.stored d targetId ≤ newestTs work.fresh → Good d kind targetId sensorId start s') := by
  intro s'
  have hok := h.runs k
  rw [hk] at hok
  obtain ⟨htarget, hknows⟩ := hok
  obtain ⟨t', hrow, hid⟩ := htarget.row
  obtain ⟨r, hr', hts⟩ := hknows.newest
  have hts' : ∃ r ∈ storedReadings d.server s.world.db sensorId, newestTs work.fresh = r.tsUtc :=
    ⟨r, hknows.stored hr', hts.symm⟩
  obtain ⟨htracked, hmark⟩ := h.tracked.mark hrow hts' hr (hid ▸ ht)
  have hstored : s'.stored d targetId = newestTs work.fresh := hmark
  refine ⟨hstored, fun hle => ⟨htracked, fun j => ?_, ?_, fun j work' seen' hj => ?_, ?_⟩⟩
  · show RunOk d targetId sensorId start w'.db (Function.update s.runs k (.marked work seen) j)
    by_cases hj : j = k
    · subst hj
      rw [Function.update_self]
      exact hknows.congr (storedReadings_congr hr)
    · rw [Function.update_of_ne hj]
      exact (h.runs j).mark htarget hr ht
  · rw [hstored]
    exact le_trans h.risen hle
  · rw [hstored]
    by_cases hjk : j = k
    · subst hjk
      have hsame : RunState.marked work seen = .marked work' seen' :=
        (Function.update_self j (RunState.marked work seen) s.runs).symm.trans hj
      obtain ⟨rfl, -⟩ := RunState.marked.inj hsame
      exact le_refl _
    · have hj : Function.update s.runs k (.marked work seen) j = .marked work' seen' := hj
      rw [Function.update_of_ne hjk] at hj
      exact le_trans (h.marked j work' seen' hj) hle
  · rw [hstored]
    exact Or.inr ⟨k, work, seen, Function.update_self _ _ _, rfl⟩

/-- The write moves the watermark back exactly when it is out of order. -/
theorem written_iff (h : Good d kind targetId sensorId start s) {k : Nat} {o : Outside}
    {t : ExportTargetRow} {work : Work} {seen : List ReadingRow}
    (hk : s.runs k = .pushed t work seen) (hhead : o.dbFaults.head? ≠ some true) {w' : World}
    (hr : w'.db.readings = s.world.db.readings)
    (ht : w'.db.exportTargets =
      markTarget d.server t.id (newestTs work.fresh) s.world.db.exportTargets) :
    let s' : Exports := { world := w', runs := Function.update s.runs k (.marked work seen) }
    (s.InOrder (.mark k o) ↔ s.stored d targetId ≤ s'.stored d targetId) ∧
      (s.stored d targetId ≤ s'.stored d targetId → Good d kind targetId sensorId start s') := by
  intro s'
  have hok := h.runs k
  rw [hk] at hok
  obtain ⟨hstored, hgood⟩ := h.write hk hr ht
  rw [hstored]
  refine ⟨?_, hgood⟩
  rw [← rises_iff h hok.2]
  constructor
  · intro horder
    exact horder t work seen hk hhead
  · intro hseen t' work' seen' hk' _
    obtain ⟨-, rfl, rfl⟩ := RunState.pushed.inj (hk.symm.trans hk')
    exact hseen

/-- The move that matters. -/
theorem mark_iff (h : Good d kind targetId sensorId start s) {k : Nat} {o : Outside} :
    (s.InOrder (.mark k o) ↔
        s.stored d targetId ≤ (s.next d targetId sensorId (.mark k o)).stored d targetId) ∧
      (s.stored d targetId ≤ (s.next d targetId sensorId (.mark k o)).stored d targetId →
        Good d kind targetId sensorId start (s.next d targetId sensorId (.mark k o))) := by
  have hidle : (∀ t work seen, s.runs k ≠ .pushed t work seen) →
      (s.InOrder (.mark k o) ↔ s.stored d targetId ≤ s.stored d targetId) ∧
        (s.stored d targetId ≤ s.stored d targetId → Good d kind targetId sensorId start s) :=
    fun hne => ⟨⟨fun _ => le_refl _, fun _ t work seen hk => absurd hk (hne t work seen)⟩, fun _ => h⟩
  unfold Exports.next
  dsimp only
  cases hk : s.runs k with
  | pushed t work seen =>
    have hok := h.runs k
    rw [hk] at hok
    obtain ⟨htarget, hknows⟩ := hok
    have hold : (s.runs k).unmarked = true := by rw [hk]; rfl
    obtain ⟨r, hr, hts⟩ := hknows.newest
    have hstored := hknows.stored hr
    have hstamp : IsStamp (newestTs work.fresh) := hts ▸ h.tracked.stamped r hstored
    refine step_rule (P := fun s' =>
      (s.InOrder (.mark k o) ↔ s.stored d targetId ≤ s'.stored d targetId)
      ∧ (s.stored d targetId ≤ s'.stored d targetId → Good d kind targetId sensorId start s'))
      (meets_writeWatermark hstamp (fun hhead fs => ?_) fun hhead fs => ?_)
    · exact written_iff h hk hhead rfl rfl
    · -- the statement was not sent
      have hsteady : Steady d kind targetId sensorId start s
          { world := (s.world.facing o).withFaults fs, runs := Function.update s.runs k .ended } :=
        h.steady rfl rfl hold rfl trivial
      refine ⟨⟨fun _ => ?_, fun _ t' work' seen' _ hhead' => absurd hhead hhead'⟩, fun _ => hsteady.2⟩
      rw [hsteady.1]
  | idle => exact hidle (by simp [hk])
  | loaded t => exact hidle (by simp [hk])
  | queried t work seen => exact hidle (by simp [hk])
  | marked work seen => exact hidle (by simp [hk])
  | ended => exact hidle (by simp [hk])

/-- A step keeps the watermark from going back exactly when it is in order. -/
theorem move_iff (h : Good d kind targetId sensorId start s) {m : Move}
    (hallowed : s.Allowed d sensorId m) :
    (s.InOrder m ↔ s.stored d targetId ≤ (s.next d targetId sensorId m).stored d targetId) ∧
      (s.stored d targetId ≤ (s.next d targetId sensorId m).stored d targetId →
        Good d kind targetId sensorId start (s.next d targetId sensorId m)) := by
  have hsteady : Steady d kind targetId sensorId start s (s.next d targetId sensorId m) →
      (True ↔ s.stored d targetId ≤ (s.next d targetId sensorId m).stored d targetId) ∧
      (s.stored d targetId ≤ (s.next d targetId sensorId m).stored d targetId →
        Good d kind targetId sensorId start (s.next d targetId sensorId m)) :=
    fun h => ⟨⟨fun _ => le_of_eq h.1.symm, fun _ => trivial⟩, fun _ => h.2⟩
  cases m with
  | insert o r tsUtc source quality => exact hsteady (good_insert h hallowed)
  | load k o => exact hsteady (steady_load h)
  | query k o => exact hsteady (steady_query h hallowed)
  | push k o => exact hsteady (steady_push h)
  | mark k o => exact mark_iff h

/-! ## Whole histories -/

/-- Nothing of the target is running yet. -/
theorem good_start {w : World} (hw : Tracked d kind targetId sensorId w) :
    Good d kind targetId sensorId (watermark d.server w.db targetId) { world := w } :=
  ⟨hw, fun _ => trivial, le_refl _, fun _ _ _ hj => (nomatch hj), Or.inl rfl⟩

/-- The watermark never moves backwards in a history, exactly if every run that writes it
has seen what the runs that wrote before it had. -/
theorem watermark_monotone_iff {w : World} (hw : Tracked d kind targetId sensorId w)
    {moves : List Move}
    (hallowed : Throughout (Exports.next d targetId sensorId) (Exports.Allowed d sensorId)
      { world := w } moves) :
    Throughout (Exports.next d targetId sensorId) Exports.InOrder { world := w } moves ↔
      Throughout (Exports.next d targetId sensorId)
        (fun s m => s.stored d targetId ≤ (s.next d targetId sensorId m).stored d targetId)
        { world := w } moves :=
  throughout_congr (fun _ _ hallowed h => move_iff h hallowed) hallowed (good_start hw)

/-! ### Two runs, the earlier one slower -/

/-- A move of the target `T` of sensor `S`. -/
abbrev hookNext : Exports → Move → Exports := Exports.next hookDeps "T" "S"

/-- A step whose program returns. -/
theorem step_ok {α : Type} {k : Nat} {o : Outside} {x : Act α} {after : α → RunState} {a : α}
    {w' : World} (h : x (s.world.facing o) = .ok a w') :
    s.step k o x after = { world := w', runs := Function.update s.runs k (after a) } := by
  unfold Exports.step
  rw [h]

/-- A query in which no call fails. -/
theorem next_query_calm {k : Nat} {o : Outside} {t : ExportTargetRow} {work : Work}
    (hk : s.runs k = .loaded t)
    (hquery : queryFresh d t (s.world.facing o) = .ok (some work) (s.world.facing o)) :
    s.next d targetId sensorId (.query k o) =
      { world := s.world.facing o
        runs := Function.update s.runs k
          (.queried t work (visible d.server s.world.db t.sensorId (fmtSqlUtc o.now))) } := by
  unfold Exports.next
  dsimp only
  rw [hk]
  exact step_ok hquery

/-- The webhook answers the one POST. -/
theorem next_push_hook {k : Nat} {o : Outside} {t : ExportTargetRow} {work : Work}
    {seen : List ReadingRow} (hk : s.runs k = .queried t work seen) (ho : o.dbFaults = [])
    {text : String} {rest : List (Except String (Nat × String))}
    (hanswers : o.answers = .ok (200, text) :: rest)
    (hexp : work.exporter = .webhook hookConfig) (hne : work.fresh ≠ [])
    (hlen : work.fresh.length ≤ kMaxRows) (hsite : work.sensor.site = "")
    (hstations : s.world.db.weatherStations = []) :
    ∃ w' : World, w'.db.exportTargets = s.world.db.exportTargets ∧ w'.db.weatherStations = [] ∧
      hookNext s (.push k o) =
        { world := w', runs := Function.update s.runs k (.pushed t work seen) } := by
  have hambient : ask (collectAmbient hookDeps work.sensor t.lastExportTs work.now)
      (s.world.facing o) = .ok [] (s.world.facing o) := collectAmbient_none hsite hstations ho
  obtain ⟨res, w', hpush, log, next, rfl⟩ :=
    (meets_push_hook hexp hne hlen (w := s.world.facing o) ho hanswers hambient).returns
  refine ⟨logged (posted (s.world.facing o) (hookBody work.sensor [] work.fresh.reverse) rest) log
    next [], rfl, hstations, ?_⟩
  unfold hookNext Exports.next
  dsimp only
  rw [hk]
  exact step_ok hpush

/-- The watermark is written. -/
theorem next_mark_hook {k : Nat} {o : Outside} {t : ExportTargetRow} {work : Work}
    {seen : List ReadingRow} (hk : s.runs k = .pushed t work seen) (ho : o.dbFaults = []) :
    hookNext s (.mark k o) =
      { world := { s.world.facing o with db := { s.world.db with
          exportTargets := markTarget hookDeps.server t.id (newestTs work.fresh)
            s.world.db.exportTargets } }
        runs := Function.update s.runs k (.marked work seen) } := by
  have hmark : setExportWatermark hookDeps.server t.id (newestTs work.fresh) (s.world.facing o) =
      .ok () { s.world.facing o with db := { s.world.db with
        exportTargets := markTarget hookDeps.server t.id (newestTs work.fresh)
          s.world.db.exportTargets } } := by
    have hcalm : (s.world.facing o).dbFaults = [] := ho
    have hrun : Meets (setExportWatermark Server.plain t.id (newestTs work.fresh)) (s.world.facing o)
        (fun _ w' => w' = { s.world.facing o with db := { s.world.db with
          exportTargets := markTarget hookDeps.server t.id (newestTs work.fresh)
            s.world.db.exportTargets } }) fun _ _ => False := (meets_mark_plain hcalm).mpr rfl
    obtain ⟨_, w', hrun, rfl⟩ := hrun.returns
    exact hrun
  unfold hookNext Exports.next
  dsimp only
  rw [hk]
  exact step_ok hmark

/-- What a run of the target has in hand. -/
def hookWork (fresh : List ReadingRow) : Work where
  sensor := hookSensor
  exporter := .webhook hookConfig
  tz := exportTimezone hookDeps hookSensor hookConfig
  now := fmtSqlUtc oneAnswer.now
  fresh := fresh

/-- What the query returns is what is fresh. -/
theorem queryFresh_hook {w : World} {fresh : List ReadingRow} (hfaults : w.dbFaults = [])
    (hnow : w.now = oneAnswer.now) (hsensors : w.db.sensors = [hookSensor])
    (hfresh : freshOf hookDeps w.db oneAnswer.now hookTarget = fresh) (hne : fresh ≠ []) :
    queryFresh hookDeps hookTarget w = .ok (some (hookWork fresh)) w := by
  have hfind : w.db.sensors.find? (fun r => hookDeps.server.same r.id hookTarget.sensorId)
      = some hookSensor := by
    rw [hsensors]
    rfl
  have hrun : Meets (queryFresh hookDeps hookTarget) w
      (fun r w' => r = some (hookWork fresh) ∧ w' = w) fun _ _ => False := by
    refine (meets_queryFresh_calm hfaults (by rw [hnow, hfresh]; exact hne) hfind rfl).mpr ⟨?_, rfl⟩
    rw [hnow, hfresh]
    rfl
  obtain ⟨r, w', hrun, rfl, rfl⟩ := hrun.returns
  exact hrun

/-- A reading comes in a minute after the first. -/
def minuteInsert : Move :=
  .insert oneAnswer { magArcsec2 := 21, tempC := 10 } "1970-01-01 00:01:00" .poll .ok

/-- Run 0 queries, a reading comes in, run 1 exports it, and run 0 goes on. -/
def overtaken : List Move :=
  [.load 0 oneAnswer, .query 0 oneAnswer, minuteInsert, .load 1 oneAnswer, .query 1 oneAnswer,
   .push 1 oneAnswer, .mark 1 oneAnswer, .push 0 oneAnswer, .mark 0 oneAnswer]

/-- The database once the second reading is stored. -/
def twoMinutes : Db :=
  { (stocked 1).db with
    readings := [minuteReading 0, { minuteReading 1 with id := 1 }], next := { readings := 2 } }

/-- After it there are two readings. -/
theorem minuteInsert_twoMinutes (runs : Nat → RunState) :
    hookNext { world := (stocked 1).facing oneAnswer, runs := runs } minuteInsert
      = { world := { (stocked 1).facing oneAnswer with db := twoMinutes }, runs := runs } := by
  have hcalm : ((stocked 1).facing oneAnswer).dbFaults = [] := rfl
  have hdb : (endState (insertReading hookDeps.server "S" { magArcsec2 := 21, tempC := 10 }
      "1970-01-01 00:01:00" .poll .ok ((stocked 1).facing oneAnswer))).db = twoMinutes := by
    decide +kernel
  have hworld : endState (insertReading hookDeps.server "S" { magArcsec2 := 21, tempC := 10 }
      "1970-01-01 00:01:00" .poll .ok ((stocked 1).facing oneAnswer))
      = { (stocked 1).facing oneAnswer with db := twoMinutes } := by
    rw [← hdb]
    exact statement_db hcalm
  exact congrArg (fun w => ({ world := w, runs := runs } : Exports)) hworld

/-- Both are fresh to a run without a watermark. -/
theorem twoMinutes_fresh :
    freshOf hookDeps twoMinutes oneAnswer.now hookTarget =
      [{ minuteReading 1 with id := 1 }, minuteReading 0] := by
  have hstored : storedReadings hookDeps.server twoMinutes "S" = twoMinutes.readings := by
    decide +kernel
  have hyears : InYears (60 * 0) ∧ InYears (60 * 1) := ⟨by decide, by decide⟩
  have hord : Ordered (storedReadings hookDeps.server twoMinutes "S") := by
    rw [hstored]
    refine List.pairwise_pair.mpr ?_
    exact (fmtSqlUtc_lt_iff hyears.1 hyears.2).mpr (by decide)
  have hstamp : ∀ r ∈ storedReadings hookDeps.server twoMinutes "S", IsStamp r.tsUtc := by
    intro r hr
    rw [hstored] at hr
    rcases List.mem_pair.mp hr with rfl | rfl
    · exact ⟨_, hyears.1, rfl⟩
    · exact ⟨_, hyears.2, rfl⟩
  show freshReadings "" (windowRows hookDeps.server twoMinutes "S" "" _ _) = _
  rw [freshReadings_visible hord hstamp (Or.inl rfl) ⟨oneAnswer.now, by decide, rfl⟩]
  decide +kernel

/-- Where run 0 stands once it has queried. -/
def firstQueried : Nat → RunState :=
  Function.update (fun _ => RunState.idle) 0
    (.queried hookTarget (hookWork [minuteReading 0]) [minuteReading 0])

/-- What run 1 has in hand then. -/
def secondWork : Work := hookWork [{ minuteReading 1 with id := 1 }, minuteReading 0]

/-- Run 0 has seen the first reading. -/
theorem run_firstQueried :
    run hookNext { world := stocked 1 } [.load 0 oneAnswer, .query 0 oneAnswer] =
      { world := (stocked 1).facing oneAnswer, runs := firstQueried } := by
  let loaded : Exports := Exports.mk ((stocked 1).facing oneAnswer)
    (Function.update (fun _ => RunState.idle) 0 (.loaded hookTarget))
  have hload : hookNext { world := stocked 1 } (.load 0 oneAnswer) = loaded := rfl
  have hfresh : freshOf hookDeps (stocked 1).db oneAnswer.now hookTarget = [minuteReading 0] := by
    rw [stocked_fresh (by decide)]
    rfl
  have hseen : visible hookDeps.server (stocked 1).db "S" (fmtSqlUtc oneAnswer.now)
      = [minuteReading 0] := by decide +kernel
  have hk : loaded.runs 0 = .loaded hookTarget := rfl
  have hquery : queryFresh hookDeps hookTarget (loaded.world.facing oneAnswer) =
      .ok (some (hookWork [minuteReading 0])) (loaded.world.facing oneAnswer) :=
    queryFresh_hook rfl rfl rfl hfresh (List.cons_ne_nil _ _)
  have hqueried : hookNext loaded (.query 0 oneAnswer) =
      Exports.mk (loaded.world.facing oneAnswer) (Function.update loaded.runs 0
        (.queried hookTarget (hookWork [minuteReading 0])
          (visible hookDeps.server (stocked 1).db "S" (fmtSqlUtc oneAnswer.now)))) :=
    next_query_calm hk hquery
  rw [run_cons, run_cons, run_nil, hload, hqueried, hseen]
  show Exports.mk _ (Function.update (Function.update _ 0 _) 0 _) = _
  rw [Function.update_idem]
  rfl

/-- The world after the second reading has come in. -/
abbrev twoMinutesWorld : World := { (stocked 1).facing oneAnswer with db := twoMinutes }

/-- Run 1 has seen both. -/
theorem run_secondQueried :
    run hookNext { world := stocked 1 } (overtaken.take 5) =
      { world := twoMinutesWorld
        runs := Function.update firstQueried 1
          (.queried hookTarget secondWork twoMinutes.readings) } := by
  let loaded : Exports := Exports.mk twoMinutesWorld
    (Function.update firstQueried 1 (.loaded hookTarget))
  have hload : hookNext { world := twoMinutesWorld, runs := firstQueried } (.load 1 oneAnswer) =
      loaded := rfl
  have hseen : visible hookDeps.server twoMinutes "S" (fmtSqlUtc oneAnswer.now)
      = twoMinutes.readings := by decide +kernel
  have hk : loaded.runs 1 = .loaded hookTarget := rfl
  have hquery : queryFresh hookDeps hookTarget (loaded.world.facing oneAnswer) =
      .ok (some secondWork) (loaded.world.facing oneAnswer) :=
    queryFresh_hook rfl rfl rfl twoMinutes_fresh (List.cons_ne_nil _ _)
  have hqueried : hookNext loaded (.query 1 oneAnswer) =
      Exports.mk (loaded.world.facing oneAnswer) (Function.update loaded.runs 1
        (.queried hookTarget secondWork
          (visible hookDeps.server twoMinutes "S" (fmtSqlUtc oneAnswer.now)))) :=
    next_query_calm hk hquery
  show run hookNext { world := stocked 1 }
    ([.load 0 oneAnswer, .query 0 oneAnswer] ++ [minuteInsert, .load 1 oneAnswer, .query 1 oneAnswer])
    = _
  rw [run_append, run_firstQueried, run_cons, run_cons, run_cons, run_nil, minuteInsert_twoMinutes,
    hload, hqueried, hseen]
  show Exports.mk _ (Function.update (Function.update _ 1 _) 1 _) = _
  rw [Function.update_idem]
  rfl

/-- Up to the last two moves: run 1 has written the watermark, run 0 holds its readings. -/
theorem run_secondMarked :
    ∃ w : World, w.db.exportTargets = [{ hookTarget with lastExportTs := "1970-01-01 00:01:00" }] ∧
      w.db.weatherStations = [] ∧
      run hookNext { world := stocked 1 } (overtaken.take 7) =
        { world := w
          runs := Function.update firstQueried 1 (.marked secondWork twoMinutes.readings) } := by
  let queried : Exports := Exports.mk twoMinutesWorld
    (Function.update firstQueried 1 (.queried hookTarget secondWork twoMinutes.readings))
  have hk : queried.runs 1 = .queried hookTarget secondWork twoMinutes.readings := rfl
  obtain ⟨w', htargets, hstations, hpush⟩ := next_push_hook (o := oneAnswer) hk rfl rfl rfl
    (List.cons_ne_nil _ _) (by decide) rfl rfl
  let pushed : Exports := Exports.mk w' (Function.update queried.runs 1
    (.pushed hookTarget secondWork twoMinutes.readings))
  have hpushed : pushed.runs 1 = .pushed hookTarget secondWork twoMinutes.readings := rfl
  have hmark := next_mark_hook hpushed (o := oneAnswer) rfl
  refine ⟨(hookNext pushed (.mark 1 oneAnswer)).world, ?_, ?_, ?_⟩
  · rw [hmark]
    show markTarget hookDeps.server "T" _ w'.db.exportTargets = _
    rw [htargets]
    decide +kernel
  · rw [hmark]
    exact hstations
  · show run hookNext { world := stocked 1 }
      (overtaken.take 5 ++ [.push 1 oneAnswer, .mark 1 oneAnswer]) = _
    rw [run_append, run_secondQueried, run_cons, run_cons, run_nil]
    refine (congrArg (hookNext · (.mark 1 oneAnswer)) hpush).trans ?_
    show hookNext pushed (.mark 1 oneAnswer) = _
    rw [hmark]
    show Exports.mk _ (Function.update (Function.update (Function.update _ 1 _) 1 _) 1 _) = _
    rw [Function.update_idem, Function.update_idem]

/-- The stored watermark is that of the one target. -/
theorem stored_hook {ts : String}
    (h : s.world.db.exportTargets = [{ hookTarget with lastExportTs := ts }]) :
    s.stored hookDeps "T" = ts := by
  unfold Exports.stored watermark targetRow
  rw [h]
  rfl

/-- What comes in and what the clock shows, up to where both runs have queried. -/
theorem allowed_secondQueried :
    Throughout hookNext (Exports.Allowed hookDeps "S") { world := stocked 1 } (overtaken.take 5) := by
  have hyears : InYears oneAnswer.now := by decide
  show Throughout hookNext _ _ ([.load 0 oneAnswer, .query 0 oneAnswer] ++ _)
  rw [throughout_append, run_firstQueried]
  have hstored : storedReadings hookDeps.server (stocked 1).db "S" = [minuteReading 0] := by
    decide +kernel
  refine ⟨⟨trivial, hyears, trivial⟩, ⟨60, by decide, rfl, fun x hx => ?_⟩, trivial, hyears, trivial⟩
  have hmem : x ∈ [minuteReading 0] := hstored ▸ hx
  rw [List.mem_singleton.mp hmem]
  exact (fmtSqlUtc_lt_iff (by decide) (by decide)).mpr (by decide)

/-- The later run raises the watermark, and then the earlier one lowers it again. -/
theorem watermark_lowered :
    Tracked hookDeps "webhook" "T" "S" (stocked 1) ∧
      Throughout hookNext (Exports.Allowed hookDeps "S") { world := stocked 1 } overtaken ∧
      ¬Throughout hookNext
        (fun s m => s.stored hookDeps "T" ≤ (hookNext s m).stored hookDeps "T")
        { world := stocked 1 } overtaken := by
  obtain ⟨w, htargets, hstations, hraised⟩ := run_secondMarked
  let raised : Exports := Exports.mk w
    (Function.update firstQueried 1 (.marked secondWork twoMinutes.readings))
  have hk : raised.runs 0 = .queried hookTarget (hookWork [minuteReading 0]) [minuteReading 0] := rfl
  obtain ⟨w', htargets', -, hpush⟩ := next_push_hook (o := oneAnswer) hk rfl rfl rfl
    (List.cons_ne_nil _ _) (by decide) rfl hstations
  let pushed : Exports := Exports.mk w' (Function.update raised.runs 0
    (.pushed hookTarget (hookWork [minuteReading 0]) [minuteReading 0]))
  have hpushed : pushed.runs 0 = .pushed hookTarget (hookWork [minuteReading 0]) [minuteReading 0] :=
    rfl
  have hmark := next_mark_hook hpushed (o := oneAnswer) rfl
  have hsplit : overtaken = overtaken.take 7 ++ [.push 0 oneAnswer, .mark 0 oneAnswer] := rfl
  refine ⟨(stocked_neverExported (by decide)).1, ?_, ?_⟩
  · have hqueried : overtaken = overtaken.take 5 ++ [.push 1 oneAnswer, .mark 1 oneAnswer,
        .push 0 oneAnswer, .mark 0 oneAnswer] := rfl
    rw [hqueried, throughout_append]
    exact ⟨allowed_secondQueried, trivial, trivial, trivial, trivial, trivial⟩
  · rw [hsplit, throughout_append, hraised]
    rintro ⟨-, -, hlower, -⟩
    have hle : pushed.stored hookDeps "T" ≤
        (hookNext pushed (.mark 0 oneAnswer)).stored hookDeps "T" := by
      have hs : hookNext raised (.push 0 oneAnswer) = pushed := hpush
      rw [← hs]
      exact hlower
    have htargets₁ : pushed.world.db.exportTargets =
        [{ hookTarget with lastExportTs := "1970-01-01 00:01:00" }] := htargets'.trans htargets
    have htargets₂ : (hookNext pushed (.mark 0 oneAnswer)).world.db.exportTargets =
        [{ hookTarget with lastExportTs := "1970-01-01 00:00:00" }] := by
      rw [hmark]
      show markTarget hookDeps.server "T" _ pushed.world.db.exportTargets = _
      rw [htargets₁]
      decide +kernel
    rw [stored_hook htargets₁, stored_hook htargets₂] at hle
    exact absurd hle (by decide)

/-- Both runs query, a reading between them, and then they write the watermark in the same order. -/
def inOrder : List Move :=
  overtaken.take 5 ++ [.push 0 oneAnswer, .mark 0 oneAnswer, .push 1 oneAnswer, .mark 1 oneAnswer]

/-- The later of two overlapping runs has seen what the earlier one has. -/
theorem watermark_monotone_inOrder :
    Throughout hookNext
      (fun s m => s.stored hookDeps "T" ≤ (hookNext s m).stored hookDeps "T")
      { world := stocked 1 } inOrder := by
  have hallowed : Throughout hookNext (Exports.Allowed hookDeps "S") { world := stocked 1 } inOrder :=
    throughout_append.mpr ⟨allowed_secondQueried, trivial, trivial, trivial, trivial, trivial⟩
  refine (watermark_monotone_iff (stocked_neverExported (by decide)).1 hallowed).mp ?_
  -- the queries and the insertion between them write no watermark
  have hqueries : Throughout hookNext Exports.InOrder { world := stocked 1 } (overtaken.take 5) :=
    ⟨trivial, trivial, trivial, trivial, trivial, trivial⟩
  refine throughout_append.mpr ⟨hqueries, ?_⟩
  rw [run_secondQueried]
  let queried : Exports := Exports.mk twoMinutesWorld
    (Function.update firstQueried 1 (.queried hookTarget secondWork twoMinutes.readings))
  have hk : queried.runs 0 = .queried hookTarget (hookWork [minuteReading 0]) [minuteReading 0] := rfl
  obtain ⟨w₁, -, hstations, hpush⟩ := next_push_hook (o := oneAnswer) hk rfl rfl rfl
    (List.cons_ne_nil _ _) (by decide) rfl rfl
  -- run 0 posts the first reading and writes its watermark
  let pushed : Exports := Exports.mk w₁ (Function.update queried.runs 0
    (.pushed hookTarget (hookWork [minuteReading 0]) [minuteReading 0]))
  have hpushed : hookNext queried (.push 0 oneAnswer) = pushed := hpush
  have hidle : ∀ j, j ≠ 0 → j ≠ 1 → pushed.runs j = .idle := fun j hj0 hj1 =>
    (Function.update_of_ne hj0 _ _).trans
      ((Function.update_of_ne hj1 _ _).trans (Function.update_of_ne hj0 _ _))
  let marked : Exports := hookNext pushed (.mark 0 oneAnswer)
  have hmarked : marked = _ := next_mark_hook (s := pushed) (k := 0) rfl (o := oneAnswer) rfl
  -- run 1 posts both readings after that
  have hstations₁ : marked.world.db.weatherStations = [] := by
    rw [hmarked]
    exact hstations
  have hk₁ : marked.runs 1 = .queried hookTarget secondWork twoMinutes.readings := by
    rw [hmarked]
    rfl
  obtain ⟨w₂, -, -, hpush₁⟩ := next_push_hook (o := oneAnswer) hk₁ rfl rfl rfl
    (List.cons_ne_nil _ _) (by decide) rfl hstations₁
  have hruns : marked.runs = Function.update pushed.runs 0
      (.marked (hookWork [minuteReading 0]) [minuteReading 0]) := congrArg Exports.runs hmarked
  refine ⟨trivial, ?_, trivial, ?_, trivial⟩
  · -- run 0 is the first to write
    show Exports.InOrder (hookNext queried (.push 0 oneAnswer)) (.mark 0 oneAnswer)
    rw [hpushed]
    intro t work seen _ _ j work' seen' hj
    obtain rfl | hj0 := eq_or_ne j 0
    · cases hj
    · obtain rfl | hj1 := eq_or_ne j 1
      · cases hj
      · rw [hidle j hj0 hj1] at hj
        cases hj
  · -- run 1 has seen the reading that run 0 saw
    show Exports.InOrder (hookNext (hookNext (hookNext queried (.push 0 oneAnswer)) (.mark 0 oneAnswer))
      (.push 1 oneAnswer)) (.mark 1 oneAnswer)
    rw [hpushed, hpush₁, hruns]
    intro t work seen hlast _ j work' seen' hj
    obtain ⟨-, -, rfl⟩ : _ ∧ _ ∧ twoMinutes.readings = seen := RunState.pushed.inj hlast
    obtain rfl | hj0 := eq_or_ne j 0
    · obtain ⟨-, rfl⟩ := RunState.marked.inj hj
      exact fun r hr => List.mem_cons.mpr (Or.inl (List.mem_singleton.mp hr))
    · obtain rfl | hj1 := eq_or_ne j 1
      · cases hj
      · have hj : Function.update (Function.update pushed.runs 0 _) 1 _ j = _ := hj
        rw [Function.update_of_ne hj1, Function.update_of_ne hj0, hidle j hj0 hj1] at hj
        cases hj

end NightWatcher.Exporter
