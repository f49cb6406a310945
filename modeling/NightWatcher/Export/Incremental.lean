import NightWatcher.Export.Steps
import NightWatcher.Lib.Watermark

/-!
# Incremental targets: what the watermark promises

A webhook target is a `Watermark.Relay`: its items are the stored readings, its
mark the watermark, and an item counts as sent once a body that carried it was
answered 2xx. Every step of the system is a step of the relay as long as no run
starts with more than `kMaxRows` readings above the watermark
(`Step.relay`), so no reading is lost (`acked_of_run`).

With more than that the query of the run returns only the newest `kMaxRows`, and
the watermark moves over the others: `oldest_reading_lost` is such a run.
-/

namespace NightWatcher.Exporter

open Throwing TimeUtil Database Relation Watermark

/-- The relay a webhook target implements. -/
def relayOf (d : Deps) (targetId sensorId : String) (w : World) : Relay ReadingRow String where
  stored := {r | r ∈ storedReadings d.server w.db sensorId}
  mark := watermark d.server w.db targetId
  sent := {r | Acked w r}

/-- Every stored reading at or below the watermark was part of a body that was
answered 2xx. -/
def AllAcked (d : Deps) (targetId sensorId : String) (w : World) : Prop :=
  ∀ r ∈ storedReadings d.server w.db sensorId,
    r.tsUtc ≤ watermark d.server w.db targetId → Acked w r

/-- A target that was never exported. -/
def NeverExported (d : Deps) (kind targetId sensorId : String) (w : World) : Prop :=
  Tracked d kind targetId sensorId w ∧ watermark d.server w.db targetId = ""

/-- No more readings wait than one query returns. -/
def BacklogFits (d : Deps) (targetId sensorId : String) (w : World) : Prop :=
  (backlog d.server w.db sensorId (watermark d.server w.db targetId)).length ≤ kMaxRows

/-! ## A run -/

/-- A run that went through: all that was fresh is acknowledged, and the mark is moved. -/
structure Exported (d : Deps) (targetId : String) (fresh : List ReadingRow) (w w' : World) :
    Prop where
  readings : w'.db.readings = w.db.readings
  targets : w'.db.exportTargets
    = markTarget d.server targetId (newestTs fresh) w.db.exportTargets
  effects : w.effects <+: w'.effects
  acked : ∀ r ∈ fresh, Acked w' r

section

variable {d : Deps} {targetId sensorId : String} {w w' : World}

theorem meets_runIncremental {t : ExportTargetRow} {sensor : SensorRow} {config now : String}
    {fresh : List ReadingRow} (hstamp : IsStamp (newestTs fresh)) (w : World) :
    Meets (runIncremental d t sensor (.webhook config) fresh now) w
      (fun _ w' => Exported d t.id fresh w w') (fun _ w' => untouched.rel w w') := by
  unfold runIncremental
  simp only [meets_bind, meets_pure]
  refine meets_ask (fun weather fs => ?_) (fun _ fs => untouched_withFaults w fs)
  -- neither the export log nor the faults show in what the push establishes
  have hpush : Meets (pushAndLog d t.id (.webhook config)
      ⟨sensor, fresh.reverse, weather, t.lastExportTs, now⟩) (w.withFaults fs)
      (fun _ w' => untouched.rel w w' ∧ ∀ r ∈ fresh.reverse, Acked w' r)
      (fun _ w' => untouched.rel w w') :=
    meets_pushAndLog (meets_runWebhook config _ _) (fun _ _ _ _ h => h) (fun _ _ _ _ h => h)
      (fun _ h => h.1)
  refine hpush.mono (fun res w₁ h₁ => ?_) (fun _ _ h => h)
  obtain ⟨hsame, hacked⟩ := h₁
  refine meets_setExportWatermark hstamp (fun fs' => ?_)
    (fun fs' => untouched.trans hsame (untouched_withFaults w₁ fs'))
  have hreadings := untouched_readings hsame
  have heffects := untouched_effects hsame
  refine ⟨hreadings, ?_, heffects, fun r hr => hacked r (List.mem_reverse.mpr hr)⟩
  rw [← untouched_targets hsame]

/-- A run of a webhook target goes through, or changes neither readings nor targets. -/
theorem meets_runExport_webhook {t : ExportTargetRow} (ht : t.target = "webhook") (w : World)
    (hstamp : freshOf d w.db w.now t ≠ [] → IsStamp (newestTs (freshOf d w.db w.now t))) :
    Meets (runExport d t) w
      (fun _ w' => untouched.rel w w' ∨
        freshOf d w.db w.now t ≠ [] ∧ Exported d t.id (freshOf d w.db w.now t) w w')
      (fun _ w' => untouched.rel w w') := by
  refine meets_runExport (E := fun w' => untouched.rel w w') (fun fs => untouched_withFaults w fs)
    (fun _ fs => Or.inl (untouched_withFaults w fs))
    (fun sensor exporter fs hne _ hexp => ?_)
  rw [ht] at hexp
  obtain rfl := makeExporter_webhook hexp
  exact (meets_runIncremental (hstamp hne) (w.withFaults fs)).mono
    (fun _ w' h => Or.inr ⟨hne, h.readings, h.targets, h.effects, h.acked⟩) (fun _ _ h => h)

/-! ## Steps of the relay -/

/-- Whatever leaves readings and targets as they are is an attempt of the relay. -/
theorem relay_attempt (hr : w'.db.readings = w.db.readings)
    (ht : w'.db.exportTargets = w.db.exportTargets) (he : w.effects <+: w'.effects) :
    Relay.Step ReadingRow.tsUtc (relayOf d targetId sensorId w) (relayOf d targetId sensorId w') := by
  have hstep : Relay.Step ReadingRow.tsUtc (relayOf d targetId sensorId w)
      { relayOf d targetId sensorId w with sent := {r | Acked w' r} } :=
    .attempt fun r hr => Acked.mono hr he
  have heq : relayOf d targetId sensorId w'
      = { relayOf d targetId sensorId w with sent := {r | Acked w' r} } := by
    simp only [relayOf, storedReadings, watermark, targetRow, hr, ht]
  rw [heq]
  exact hstep

theorem untouched_relay (h : untouched.rel w w') (hI : Tracked d "webhook" targetId sensorId w) :
    Tracked d "webhook" targetId sensorId w' ∧
      Relay.Step ReadingRow.tsUtc (relayOf d targetId sensorId w)
        (relayOf d targetId sensorId w') :=
  ⟨hI.congr (untouched_readings h) (untouched_targets h),
    relay_attempt (untouched_readings h) (untouched_targets h) (untouched_effects h)⟩

/-- An insertion keeps what is tracked and is a step of the relay. -/
theorem insert_relay {o : Outside} {r : Reading} {tsUtc : String} {source : Source}
    {quality : Quality} {u : Int}
    (hts : timestampOrNow d.server o.now tsUtc = some (fmtSqlUtc u)) (hu : InYears u)
    (hnew : ∀ x ∈ storedReadings d.server w.db sensorId, x.tsUtc < fmtSqlUtc u)
    (hI : Tracked d "webhook" targetId sensorId w) :
    let w' := endState (insertReading d.server sensorId r tsUtc source quality (w.facing o))
    Tracked d "webhook" targetId sensorId w' ∧
      Relay.Step ReadingRow.tsUtc (relayOf d targetId sensorId w)
        (relayOf d targetId sensorId w') := by
  refine Meets.endState (P := fun w' => Tracked d "webhook" targetId sensorId w' ∧
    Relay.Step ReadingRow.tsUtc (relayOf d targetId sensorId w) (relayOf d targetId sensorId w'))
    (meets_insertReading hts (fun row hrow next fs => ?_) (fun next fs => ?_))
  · have hstamp : IsStamp row.tsUtc := ⟨u, hu, hrow⟩
    rw [← hrow] at hnew
    rcases storedReadings_append d.server w.db sensorId row next with hsame | happ
    · -- the row belongs to another sensor
      refine ⟨⟨hI.target, hsame ▸ hI.ordered, hsame ▸ hI.stamped, ?_⟩, ?_⟩
      · exact hsame.symm ▸ hI.marked
      · have hstep : Relay.Step ReadingRow.tsUtc (relayOf d targetId sensorId w)
            { relayOf d targetId sensorId w with sent := {r | Acked w r} } :=
          .attempt (Set.Subset.refl _)
        have heq : relayOf d targetId sensorId { w.facing o with
            db := { w.db with readings := w.db.readings ++ [row], next := next }, dbFaults := fs }
            = { relayOf d targetId sensorId w with sent := {r | Acked w r} } := by
          simp only [relayOf, hsame]
          rfl
        exact heq ▸ hstep
    · refine ⟨hI.append rfl hstamp hnew happ, ?_⟩
      have hstep : Relay.Step ReadingRow.tsUtc (relayOf d targetId sensorId w)
          { relayOf d targetId sensorId w with
            stored := insert row (relayOf d targetId sensorId w).stored } :=
        .store (hI.watermark_lt hstamp hnew)
      have heq : relayOf d targetId sensorId { w.facing o with
          db := { w.db with readings := w.db.readings ++ [row], next := next }, dbFaults := fs }
          = { relayOf d targetId sensorId w with
              stored := insert row (relayOf d targetId sensorId w).stored } := by
        simp only [relayOf, happ]
        congr 1
        ext x
        simp [or_comm]
      exact heq ▸ hstep
  · exact ⟨hI.congr rfl rfl, relay_attempt rfl rfl (List.prefix_refl _)⟩

/-- Every step keeps what is tracked; it is a step of the relay if no run starts
with a larger backlog than a query returns. -/
theorem Step.relay (h : Step d targetId sensorId { start := BacklogFits d targetId sensorId } w w')
    (hI : Tracked d "webhook" targetId sensorId w) :
    Tracked d "webhook" targetId sensorId w' ∧
      Relay.Step ReadingRow.tsUtc (relayOf d targetId sensorId w)
        (relayOf d targetId sensorId w') := by
  -- an edit of the config moves nothing, a run may advance the mark
  cases h with
  | insert o r tsUtc source quality hts hu hnew => exact insert_relay hts hu hnew hI
  | @configure config _ =>
    obtain ⟨hI', hmark⟩ := hI.edit config
    refine ⟨hI', ?_⟩
    have hstep : Relay.Step ReadingRow.tsUtc (relayOf d targetId sensorId w)
        { relayOf d targetId sensorId w with sent := {r | Acked w r} } :=
      .attempt (Set.Subset.refl _)
    have heq : relayOf d targetId sensorId (configured d.server w targetId config)
        = { relayOf d targetId sensorId w with sent := {r | Acked w r} } := by
      simp only [relayOf, hmark]
      rfl
    exact heq ▸ hstep
  | @run o t hrow hnow hclock hfits =>
    obtain ⟨t', hrow', hkind, hsensor⟩ := hI.target
    obtain rfl : t = t' := Option.some.inj (hrow.symm.trans hrow')
    have hfresh := hI.freshOf_eq hrow hnow hclock
    have hnewest := hI.newest hfresh
    have hspec := meets_runExport_webhook (d := d) hkind (w.facing o) fun hne => by
      obtain ⟨⟨r, hr, htop⟩, -⟩ := hnewest hne
      exact htop ▸ hI.stamped r hr
    refine Meets.endState (P := fun w' => Tracked d "webhook" targetId sensorId w' ∧
      Relay.Step ReadingRow.tsUtc (relayOf d targetId sensorId w) (relayOf d targetId sensorId w'))
      (hspec.mono (fun _ w' h' => ?_) (fun _ w' h' => ?_))
    · rcases h' with hsame | ⟨hne, hexp⟩
      · exact untouched_relay hsame hI
      · obtain ⟨hstored, -⟩ := hnewest hne
        obtain ⟨hI', hmark⟩ := hI.mark hrow hstored hexp.readings hexp.targets
        refine ⟨hI', ?_⟩
        -- what lies between the old mark and the new one is acknowledged by this run
        have hall : ∀ r ∈ storedReadings d.server w.db sensorId,
            watermark d.server w.db targetId < r.tsUtc → Acked w' r := by
          intro r hr hlt
          refine hexp.acked r ?_
          show r ∈ freshOf d w.db o.now t
          rw [hfresh, List.take_of_length_le (by rw [List.length_reverse]; exact hfits)]
          exact List.mem_reverse.mpr (List.mem_filter.mpr ⟨hr, decide_eq_true hlt⟩)
        have hstep : Relay.Step ReadingRow.tsUtc (relayOf d targetId sensorId w)
            { relayOf d targetId sensorId w with
              mark := newestTs (freshOf d w.db o.now t), sent := {r | Acked w' r} } :=
          .advance (fun r hr => Acked.mono hr hexp.effects) fun r hr hlt _ => hall r hr hlt
        have heq : relayOf d targetId sensorId w'
            = { relayOf d targetId sensorId w with
                mark := newestTs (freshOf d w.db o.now t), sent := {r | Acked w' r} } := by
          simp only [relayOf, hmark, storedReadings, hexp.readings]
          rfl
        exact heq ▸ hstep
    · exact untouched_relay h' hI

/-- No reading is lost in a run of the system in which every export starts with at
most `kMaxRows` readings above the watermark. -/
theorem acked_of_run (h0 : NeverExported d "webhook" targetId sensorId w)
    (hrun : ReflTransGen (Step d targetId sensorId { start := BacklogFits d targetId sensorId }) w w') :
    AllAcked d targetId sensorId w' := by
  suffices h : Tracked d "webhook" targetId sensorId w' ∧
      ReflTransGen (Relay.Step ReadingRow.tsUtc) (relayOf d targetId sensorId w)
        (relayOf d targetId sensorId w') by
    refine Relay.safe_of_run h.2 ?_
    -- without a watermark there is no timestamp at or below it
    intro r hr hle
    have hempty : (relayOf d targetId sensorId w).mark = "" := h0.2
    rw [hempty] at hle
    exact absurd (empty_lt (h0.1.stamped r hr).ne_empty) (not_lt.mpr hle)
  induction hrun with
  | refl => exact ⟨h0.1, ReflTransGen.refl⟩
  | tail _ hstep ih =>
    obtain ⟨hI, hrelay⟩ := hstep.relay ih.1
    exact ⟨hI, ih.2.tail hrelay⟩

end

/-! ## A backlog larger than a query -/

/-- One reading a minute, from the epoch on. -/
def minuteReading (i : Nat) : ReadingRow :=
  { id := i + 1, sensorId := "S", tsUtc := fmtSqlUtc (60 * i), magArcsec2 := 21, freqHz := 0,
    periodCounts := 0, periodS := 0, tempC := 10 }

/-- A sensor with `n` readings and a webhook target that was never exported. -/
def stocked (n : Nat) : World :=
  { db := { sensors := [hookSensor], readings := (List.range n).map minuteReading,
            exportTargets := [hookTarget] } }

/-- The endpoint takes one body. -/
def oneAnswer : Outside := { now := 60 * 200001, answers := [.ok (200, "")] }

theorem inYears_minute {i : Nat} (h : i ≤ 200001) : InYears (60 * i) :=
  InYears.mono (s := 0) (u := 60 * 200001) (by decide) (by decide) (by omega) (by omega)

theorem storedReadings_stocked (n : Nat) :
    storedReadings hookDeps.server (stocked n).db "S" = (List.range n).map minuteReading := by
  refine List.filter_eq_self.mpr fun r hr => ?_
  obtain ⟨i, -, rfl⟩ := List.mem_map.mp hr
  rfl

theorem stocked_neverExported {n : Nat} (hn : n ≤ 200001) :
    NeverExported hookDeps "webhook" "T" "S" (stocked n) := by
  have hmem : ∀ i ∈ List.range n, InYears (60 * i) := by
    intro i hi
    have hlt := List.mem_range.mp hi
    exact inYears_minute (by omega)
  refine ⟨⟨⟨hookTarget, rfl, rfl, rfl⟩, ?_, ?_, Or.inl rfl⟩, rfl⟩
  · rw [storedReadings_stocked, Ordered, List.pairwise_map]
    refine List.pairwise_lt_range.imp_of_mem fun {i j} hi hj hij => ?_
    exact (fmtSqlUtc_lt_iff (hmem i hi) (hmem j hj)).mpr (by omega)
  · intro r hr
    rw [storedReadings_stocked] at hr
    obtain ⟨i, hi, rfl⟩ := List.mem_map.mp hr
    exact ⟨60 * i, hmem i hi, rfl⟩

theorem stocked_clock {n : Nat} (hn : n ≤ 200001) :
    ∀ x ∈ storedReadings hookDeps.server (stocked n).db "S", x.tsUtc ≤ fmtSqlUtc oneAnswer.now := by
  intro x hx
  rw [storedReadings_stocked] at hx
  obtain ⟨i, hi, rfl⟩ := List.mem_map.mp hx
  have hlt := List.mem_range.mp hi
  refine (fmtSqlUtc_le_iff (inYears_minute (by omega)) (by decide)).mpr ?_
  show (60 * (i : Int)) ≤ 60 * 200001
  omega

/-- Three waiting readings fit. -/
theorem acked_of_run_stocked :
    AllAcked hookDeps "T" "S" (endState (runExport hookDeps hookTarget
      ((stocked 3).facing oneAnswer))) := by
  have hfits : BacklogFits hookDeps "T" "S" (stocked 3) := by
    refine le_trans (List.length_filter_le _ _) ?_
    rw [storedReadings_stocked, List.length_map, List.length_range]
    decide
  exact acked_of_run (stocked_neverExported (by decide))
    (ReflTransGen.single (Step.run oneAnswer rfl (by decide) (stocked_clock (by decide)) hfits))

/-- What a run over them takes for fresh. -/
theorem stocked_fresh {n : Nat} (hn : n ≤ 200001) :
    freshOf hookDeps (stocked n).db oneAnswer.now hookTarget
      = (((List.range n).map minuteReading).reverse).take kMaxRows := by
  have hI := (stocked_neverExported hn).1
  rw [hI.freshOf_eq rfl (by decide) (stocked_clock hn)]
  have hall : backlog hookDeps.server (stocked n).db "S" "" = (List.range n).map minuteReading := by
    rw [backlog, storedReadings_stocked, List.filter_eq_self]
    intro r hr
    rw [← storedReadings_stocked] at hr
    exact decide_eq_true (empty_lt (hI.stamped r hr).ne_empty)
  show (backlog hookDeps.server (stocked n).db "S" "").reverse.take kMaxRows = _
  rw [hall]

theorem stocked_run {n : Nat} (h1 : 1 ≤ n) (hn : n ≤ 200001) :
    let fresh := (((List.range n).map minuteReading).reverse).take kMaxRows
    Meets (runExport hookDeps hookTarget) ((stocked n).facing oneAnswer)
      (fun _ w' => w'.db.readings = (stocked n).db.readings ∧
        watermark hookDeps.server w'.db "T" = newestTs fresh ∧
        ∃ body, body.member? "readings" = some (.arr (fresh.reverse.map readingJson)) ∧
          w'.effects = [.post "http://h/" body (some 200)])
      (fun _ _ => False) := by
  intro fresh
  have hfresh : freshOf hookDeps ((stocked n).facing oneAnswer).db
      ((stocked n).facing oneAnswer).now hookTarget = fresh := stocked_fresh hn
  have hne : fresh ≠ [] := by
    intro he
    have hlen := congrArg List.length he
    simp only [fresh, List.length_take, List.length_reverse, List.length_map, List.length_range,
      List.length_nil, kMaxRows] at hlen
    omega
  have hrun := meets_runExport_hook (w := (stocked n).facing oneAnswer) (t := hookTarget) rfl rfl rfl
    (hfresh.symm ▸ hne) rfl rfl (collectAmbient_none rfl rfl rfl)
  rw [hfresh] at hrun
  refine hrun.mono (fun _ w' h => ?_) fun _ _ h => h.elim
  obtain ⟨log, next, rfl⟩ := h
  exact ⟨rfl, rfl, _, webhookBody_readings _ _ _ _, rfl⟩

theorem take_reverse_map_range (k : Nat) (f : Nat → ReadingRow) :
    (((List.range (k + 1)).map f).reverse).take k = ((List.range' 1 k).map f).reverse := by
  rw [List.range_eq_range', List.range'_succ, List.map_cons, List.reverse_cons]
  exact List.take_left' (by simp)

/-- A run over one reading too many posts all but the oldest. -/
theorem stocked_loses {w' : World} {k : Nat} (hk : k = kMaxRows)
    (hreadings : w'.db.readings = (stocked (k + 1)).db.readings)
    (hmark : watermark hookDeps.server w'.db "T"
      = newestTs ((((List.range (k + 1)).map minuteReading).reverse).take kMaxRows))
    {body : Json} (hbody : body.member? "readings" = some (.arr
      (((((List.range (k + 1)).map minuteReading).reverse).take kMaxRows).reverse.map readingJson)))
    (heff : w'.effects = [.post "http://h/" body (some 200)]) : ¬AllAcked hookDeps "T" "S" w' := by
  intro hall
  have hyears : ∀ i ≤ k, InYears (60 * (i : Int)) := by
    intro i hi
    refine inYears_minute ?_
    rw [hk] at hi
    exact le_trans hi (by decide)
  have hstored : storedReadings hookDeps.server w'.db "S" = (List.range (k + 1)).map minuteReading := by
    rw [storedReadings, hreadings]
    exact storedReadings_stocked _
  have h0mem : minuteReading 0 ∈ storedReadings hookDeps.server w'.db "S" := by
    rw [hstored]
    exact List.mem_map_of_mem (List.mem_range.mpr (Nat.succ_pos k))
  rw [← hk, take_reverse_map_range] at hmark hbody
  -- the watermark is past the reading of minute 0
  have hle : (minuteReading 0).tsUtc ≤ watermark hookDeps.server w'.db "T" := by
    have h1mem : minuteReading 1 ∈ ((List.range' 1 k).map minuteReading).reverse := by
      rw [List.mem_reverse]
      refine List.mem_map_of_mem (List.mem_range'_1.mpr ⟨Nat.le_refl 1, ?_⟩)
      rw [hk]
      decide
    have hstamp : ∀ r ∈ ((List.range' 1 k).map minuteReading).reverse, IsStamp r.tsUtc := by
      intro r hr
      obtain ⟨i, hi, rfl⟩ := List.mem_map.mp (List.mem_reverse.mp hr)
      have hi' := List.mem_range'_1.mp hi
      exact ⟨_, hyears i (by omega), rfl⟩
    rw [hmark]
    refine le_trans ?_ ((newestTs_spec (List.ne_nil_of_mem h1mem) hstamp).2 _ h1mem)
    exact (fmtSqlUtc_le_iff (by decide) (by decide)).mpr (by decide)
  -- the only body has the readings of minutes 1 to k
  obtain ⟨body', ⟨url, status, -, -, hposted⟩, arr, harr, hmem⟩ := hall _ h0mem hle
  rw [heff, List.mem_singleton, Effect.post.injEq] at hposted
  obtain ⟨-, rfl, -⟩ := hposted
  rw [hbody, Option.some.injEq, Json.arr.injEq] at harr
  rw [← harr, List.reverse_reverse] at hmem
  obtain ⟨r, hr, hjson⟩ := List.mem_map.mp hmem
  obtain ⟨i, hi, rfl⟩ := List.mem_map.mp hr
  have hi' := List.mem_range'_1.mp hi
  have hts : (minuteReading i).tsUtc = (minuteReading 0).tsUtc := by
    have hmember := congrArg (fun j => j.member? "ts_utc") hjson
    simpa [readingJson, Json.member?_ofMembers] using hmember
  have hlt : (minuteReading 0).tsUtc < (minuteReading i).tsUtc :=
    (fmtSqlUtc_lt_iff (hyears 0 (Nat.zero_le k)) (hyears i (by omega))).mpr (by omega)
  exact absurd hts (ne_of_gt hlt)

/-- With one reading more than a query returns, the oldest one is never posted,
and the watermark is past it. -/
theorem oldest_reading_lost :
    NeverExported hookDeps "webhook" "T" "S" (stocked (kMaxRows + 1)) ∧
      ∃ w', Step hookDeps "T" "S" {} (stocked (kMaxRows + 1)) w' ∧
        ¬AllAcked hookDeps "T" "S" w' := by
  have hn : kMaxRows + 1 ≤ 200001 := Nat.le_refl _
  refine ⟨stocked_neverExported hn, _,
    Step.run oneAnswer rfl (by decide) (stocked_clock hn) trivial, ?_⟩
  refine Meets.endState (P := fun w' => ¬AllAcked hookDeps "T" "S" w') ?_
  refine (stocked_run (Nat.le_add_left 1 kMaxRows) hn).mono (fun _ w' h => ?_)
    (fun _ _ h => h.elim)
  obtain ⟨hreadings, hmark, body, hbody, heff⟩ := h
  exact stocked_loses rfl hreadings hmark hbody heff

end NightWatcher.Exporter
