import NightWatcher.Export.Delivery
import NightWatcher.Export.Interleaved
import NightWatcher.Daemon.Workers

/-!
# The two drivers of an export target

The target's worker loads its row at the head of a cycle, waits, and exports what
it loaded; a `POST /export-targets/{id}/run` loads the row and exports it. Here a
run is atomic, but what its driver holds may be old by then (`Drivers`).

A run posts what is newer than the watermark of the row it is given. So no
reading is posted twice as long as that is the stored watermark
(`posted_once`), and a worker whose row was loaded before a request exported
posts the request's readings again (`posted_again`).
-/

namespace NightWatcher.Daemon

open Throwing TimeUtil Database Exporter Transcript

/-! ## The machine -/

inductive Driver where
  | worker
  | request (k : Nat)
deriving DecidableEq

/-- The daemon's world, and the row each driver has loaded. -/
structure Drivers where
  world : World
  held : Driver → Option ExportTargetRow := fun _ => none

inductive Turn where
  /-- a reading of the sensor is inserted -/
  | insert (o : Outside) (r : Reading) (tsUtc : String) (source : Source) (quality : Quality)
  | load (who : Driver) (o : Outside)
  | run (who : Driver) (o : Outside)

/-- The row a driver goes on with: the worker with an active one only. -/
def Driver.accepts : Driver → Option ExportTargetRow → Option ExportTargetRow
  | .worker, row => activeRow row
  | .request _, row => row

/-- What a driver does with its row. -/
def Driver.run (d : Deps) : Driver → ExportTargetRow → World → World
  | .worker, t, w => endState (exportOnce d t w)
  | .request _, t, w => endState (runExport d t w)

namespace Drivers

def next (d : Deps) (targetId sensorId : String) (s : Drivers) : Turn → Drivers
  | .insert o r tsUtc source quality =>
    let inserted := insertReading d.server sensorId r tsUtc source quality (s.world.facing o)
    { s with world := endState inserted }
  | .load who o =>
    match ask (findExportTarget d.server targetId) (s.world.facing o) with
    | .ok row w' => { world := w', held := Function.update s.held who (who.accepts row) }
    | .error _ w' => { world := w', held := Function.update s.held who none }
  | .run who o =>
    match s.held who with
    | none => s
    | some t =>
      { world := who.run d t (s.world.facing o), held := Function.update s.held who none }

/-- Readings are inserted with ever later timestamps, clocks show years the timestamp
format has, and every POST is answered 2xx. -/
def Allowed (d : Deps) (sensorId : String) (s : Drivers) : Turn → Prop
  | .insert o _ tsUtc _ _ => ∃ u, InYears u ∧
      timestampOrNow d.server o.now tsUtc = some (fmtSqlUtc u) ∧
      ∀ x ∈ storedReadings d.server s.world.db sensorId, x.tsUtc < fmtSqlUtc u
  | .load _ _ => True
  | .run who o => InYears o.now ∧ ∀ t, s.held who = some t →
      ∀ e ∈ (who.run d t (s.world.facing o)).effects.drop s.world.effects.length,
        ∃ body, Effect.Took body e

/-- A run starts from the stored watermark, and the two statements after its POSTs go through. -/
def Current (d : Deps) (targetId : String) (s : Drivers) : Turn → Prop
  | .run who o => ∀ t, s.held who = some t →
      t.lastExportTs = watermark d.server s.world.db targetId ∧ LogAndMark d t (s.world.facing o)
  | _ => True

end Drivers

/-- No reading is carried by two POSTs. -/
def PostedOnce (w : World) : Prop :=
  ∀ r : ReadingRow, w.effects.Pairwise fun e e' =>
    ¬(readingJson r ∈ Effect.readings e ∧ readingJson r ∈ Effect.readings e')

/-! ## What a turn preserves -/

/-- What was posted are stored readings up to the watermark, none of them twice. -/
structure Posted (d : Deps) (targetId sensorId : String) (w : World) : Prop where
  sent : ∀ e ∈ w.effects, ∀ j ∈ Effect.readings e,
    ∃ r ∈ storedReadings d.server w.db sensorId,
      r.tsUtc ≤ watermark d.server w.db targetId ∧ readingJson r = j
  once : w.effects.Pairwise fun e e' => List.Disjoint (Effect.readings e) (Effect.readings e')

structure Sound (d : Deps) (targetId sensorId : String) (s : Drivers) : Prop where
  tracked : Exporter.Tracked d "webhook" targetId sensorId s.world
  held : ∀ who t, s.held who = some t →
    OfTarget d targetId sensorId s.world.db t ∧ t.target = "webhook"
  posted : Posted d targetId sensorId s.world

variable {d : Deps} {targetId sensorId : String} {s : Drivers}

theorem Posted.postedOnce {w : World} (h : Posted d targetId sensorId w) : PostedOnce w := by
  intro r
  exact h.once.imp fun hdisj hr => hdisj hr.1 hr.2

theorem Posted.congr {w w' : World} (h : Posted d targetId sensorId w)
    (hr : w'.db.readings = w.db.readings) (ht : w'.db.exportTargets = w.db.exportTargets)
    (he : w'.effects = w.effects) : Posted d targetId sensorId w' := by
  refine ⟨?_, he ▸ h.once⟩
  rw [he, storedReadings_congr hr]
  unfold watermark targetRow
  rw [ht]
  exact h.sent

theorem Posted.append {w w' : World} (h : Posted d targetId sensorId w) {row : ReadingRow}
    (ht : w'.db.exportTargets = w.db.exportTargets) (he : w'.effects = w.effects)
    (hr : storedReadings d.server w'.db sensorId = storedReadings d.server w.db sensorId ++ [row]) :
    Posted d targetId sensorId w' := by
  refine ⟨fun e hmem j hj => ?_, he ▸ h.once⟩
  obtain ⟨r, hstored, hle, hjson⟩ := h.sent e (he ▸ hmem) j hj
  unfold watermark targetRow
  rw [ht, hr]
  exact ⟨r, List.mem_append_left _ hstored, hle, hjson⟩

/-- A run from the stored watermark posts readings above it, and moves it past them. -/
theorem Posted.ran {w w' : World} (hI : Exporter.Tracked d "webhook" targetId sensorId w)
    (h : Posted d targetId sensorId w) {t : ExportTargetRow} (hnow : InYears w.now)
    (hrow : OfTarget d targetId sensorId w.db t)
    (hwm : t.lastExportTs = watermark d.server w.db targetId) (hne : freshOf d w.db w.now t ≠ [])
    (hran : Ran d t w w') :
    Exporter.Tracked d "webhook" targetId sensorId w' ∧ Posted d targetId sensorId w' := by
  obtain ⟨t', hfind, hid⟩ := hrow.row
  have hfresh := hI.freshOf_visible hrow.sensor (hwm ▸ hI.watermark_stamp) hnow
  rw [hwm] at hfresh
  obtain ⟨⟨top, htop, hnewest⟩, hlt, hle⟩ := newest_visible hI.ordered hI.stamped hfresh hne
  obtain ⟨log, next, hdb⟩ := hran.db
  obtain ⟨sensor, siteId, n, posts, -, heffects, htook⟩ := hran.posts
  generalize freshOf d w.db w.now t = fresh at *
  have hreadings : w'.db.readings = w.db.readings := by rw [hdb]
  -- what is posted now lies between the old watermark and the new one
  have hmem : ∀ r ∈ fresh, r ∈ visible d.server w.db sensorId (fmtSqlUtc w.now) ∧
      watermark d.server w.db targetId < r.tsUtc := by
    intro r hr
    rw [hfresh] at hr
    have hr := List.mem_filter.mp (List.mem_reverse.mp (List.mem_of_mem_take hr))
    exact ⟨hr.1, of_decide_eq_true hr.2⟩
  -- the query returns the newest first, the run posts the oldest first
  have hordered : Ordered fresh.reverse := by
    have hdesc : fresh.Pairwise fun a b => b.tsUtc < a.tsUtc := by
      rw [hfresh]
      exact (List.pairwise_reverse.mpr ((hI.ordered.filter _).filter _)).sublist (List.take_sublist _ _)
    exact List.pairwise_reverse.mpr hdesc
  obtain ⟨hI', hmark⟩ := hI.mark hfind ⟨top, List.mem_of_mem_filter htop, hnewest⟩ hreadings
    (by rw [hdb, hid])
  refine ⟨hI', ?_, ?_⟩
  · rw [heffects, hmark, storedReadings_congr hreadings]
    intro e he j hj
    rcases List.mem_append.mp he with he | he
    · -- what was posted before is below the old watermark
      obtain ⟨r, hstored, hr, hjson⟩ := h.sent e he j hj
      exact ⟨r, hstored, le_trans hr (le_of_lt hlt), hjson⟩
    · obtain ⟨r, hr, rfl⟩ := mem_readings_posts htook he hj
      have hr := List.mem_reverse.mp hr
      exact ⟨r, List.mem_of_mem_filter (hmem r hr).1, hle r (hmem r hr).1, rfl⟩
  · rw [heffects]
    refine List.pairwise_append.mpr ⟨h.once, posts_disjoint hordered htook, ?_⟩
    intro e he e' he' j hj hj'
    obtain ⟨r, -, hr, rfl⟩ := h.sent e he j hj
    obtain ⟨r', hr', hjson⟩ := mem_readings_posts htook he' hj'
    have habove := (hmem r' (List.mem_reverse.mp hr')).2
    rw [readingJson_tsUtc hjson] at habove
    exact absurd hr (not_le.mpr habove)

/-- What a run does to the world, its driver's event aside. -/
theorem run_rule {who : Driver} {t : ExportTargetRow} {w : World} {P : World → Prop}
    (hP : ∀ w' events next fs, P w' →
      P { w' with db := { w'.db with events := events, next := next }, dbFaults := fs })
    (h : Meets (runExport d t) w (fun _ => P) fun _ => P) : P (who.run d t w) := by
  cases who with
  | request k => exact Meets.endState h
  | worker =>
    have hevent : ∀ (level : Level) (event detail : String) (w' : World), P w' →
        Meets (insertEvent d.server "export" level event detail t.id) w' (fun _ => P) fun _ => P := by
      intro level event detail w' hw'
      refine meets_statement (fun a db' fs hrow => ?_) fun _ fs => hP w' _ _ fs hw'
      simp only [Option.bind_eq_bind, Option.bind_eq_some_iff, Option.pure_def, Option.some.injEq,
        Prod.mk.injEq] at hrow
      obtain ⟨_, -, _, -, _, -, _, -, -, rfl⟩ := hrow
      exact hP w' _ _ fs hw'
    refine Meets.endState (P := P) ?_
    unfold exportOnce
    simp only [meets_tryCatch, meets_bind, meets_ite, meets_pure]
    refine h.mono (fun res w' hw' => ⟨fun _ => ?_, fun _ => hw'⟩) fun e w' hw' => ?_
    · exact (hevent _ _ _ w' hw').mono (fun _ _ h => h) fun e w' hw' => hevent _ _ _ w' hw'
    · exact hevent _ _ _ w' hw'

/-- A driver posts what its run posts. -/
theorem run_effects (who : Driver) (t : ExportTargetRow) (w : World) :
    (who.run d t w).effects = (endState (runExport d t w)).effects := by
  refine run_rule (P := fun w' => w'.effects = (endState (runExport d t w)).effects)
    (fun _ _ _ _ h => h) ?_
  unfold Meets
  cases runExport d t w <;> rfl

/-- With every POST answered 2xx, a run that throws has posted nothing. -/
theorem effects_of_error (h : Sound d targetId sensorId s) {who : Driver} {o : Outside}
    {t : ExportTargetRow} (hheld : s.held who = some t) (hallowed : s.Allowed d sensorId (.run who o))
    (hcurrent : s.Current d targetId (.run who o)) {e : String} {w' : World}
    (herr : runExport d t (s.world.facing o) = .error e w') : w'.effects = s.world.effects := by
  have htarget := h.held who t hheld
  have hwm := (hcurrent t hheld).1
  have hlog := (hcurrent t hheld).2
  have htracked : Exporter.Tracked d "webhook" targetId sensorId (s.world.facing o) :=
    h.tracked.congr rfl rfl
  have hstart : t.lastExportTs = "" ∨ IsStamp t.lastExportTs := by
    rw [hwm]
    exact h.tracked.watermark_stamp
  have hwhole := @meets_runExport_whole d t htarget.2 (s.world.facing o) hallowed.1 hstart
    (htracked.newest_stamp htarget.1.sensor hstart hallowed.1) hlog
  refine (hwhole.of_error herr).resolve_right fun hrefused => ?_
  obtain ⟨sent, hsent, hno⟩ := hrefused
  have hsent' : sent ∈ (who.run d t (s.world.facing o)).effects.drop s.world.effects.length := by
    rw [run_effects, herr]
    exact hsent
  obtain ⟨body, htook⟩ := hallowed.2 t hheld sent hsent'
  exact hno body htook

/-- A run from the stored watermark keeps what is tracked and posted, and the rows the
other drivers hold. -/
theorem sound_run (h : Sound d targetId sensorId s) {who : Driver} {o : Outside}
    {t : ExportTargetRow} (hheld : s.held who = some t) (hnow : InYears o.now)
    (hwm : t.lastExportTs = watermark d.server s.world.db targetId)
    (hwhole : ∀ e w', runExport d t (s.world.facing o) = .error e w' →
      w'.effects = s.world.effects) :
    let w' := who.run d t (s.world.facing o)
    Exporter.Tracked d "webhook" targetId sensorId w' ∧ Posted d targetId sensorId w' ∧
      ∀ t', OfTarget d targetId sensorId s.world.db t' → OfTarget d targetId sensorId w'.db t' := by
  obtain ⟨htarget, hkind⟩ := h.held who t hheld
  have htracked : Exporter.Tracked d "webhook" targetId sensorId (s.world.facing o) :=
    h.tracked.congr rfl rfl
  have hposted : Posted d targetId sensorId (s.world.facing o) := h.posted.congr rfl rfl rfl
  have hstamp : freshOf d (s.world.facing o).db o.now t ≠ [] →
      IsStamp (newestTs (freshOf d (s.world.facing o).db o.now t)) :=
    htracked.newest_stamp htarget.sensor (hwm ▸ htracked.watermark_stamp) hnow
  refine run_rule (P := fun w' => Exporter.Tracked d "webhook" targetId sensorId w' ∧
    Posted d targetId sensorId w' ∧
      ∀ t', OfTarget d targetId sensorId s.world.db t' → OfTarget d targetId sensorId w'.db t')
    (fun w' events next fs hw' => ⟨hw'.1.congr rfl rfl, hw'.2.1.congr rfl rfl rfl,
      fun t' ht' => (hw'.2.2 t' ht').congr rfl⟩) ?_
  have hspec := ((meets_runExport_posts hkind hstamp).and
    (meets_runExport_webhook hkind (s.world.facing o) hstamp)).and (meets_error hwhole)
  refine hspec.mono (fun _ w' hw' => ?_) fun e w' hw' => ?_
  · obtain ⟨⟨⟨-, hdb, heffects⟩ | ⟨hne, hran⟩, -⟩, -⟩ := hw'
    · exact ⟨htracked.congr (by rw [hdb]) (by rw [hdb]),
        hposted.congr (by rw [hdb]) (by rw [hdb]) heffects, fun t' ht' => ht'.congr (by rw [hdb]; rfl)⟩
    · obtain ⟨htracked', hposted'⟩ := hposted.ran htracked hnow htarget hwm hne hran
      obtain ⟨log, next, hdb⟩ := hran.db
      exact ⟨htracked', hposted', fun t' ht' => ht'.mark htarget (by rw [hdb]; rfl)⟩
  · obtain ⟨⟨-, huntouched⟩, heffects⟩ := hw'
    have hr := untouched_readings huntouched
    have ht := untouched_targets huntouched
    exact ⟨htracked.congr hr ht, hposted.congr hr ht heffects, fun t' ht' => ht'.congr ht⟩

/-- A driver's row is the target's as it was loaded. -/
theorem Sound.accepts (h : Sound d targetId sensorId s) {who : Driver} {t : ExportTargetRow}
    (hrow : who.accepts (targetRow d.server s.world.db targetId) = some t) :
    OfTarget d targetId sensorId s.world.db t ∧ t.target = "webhook" := by
  have hfind : targetRow d.server s.world.db targetId = some t := by
    cases who with
    | request k => exact hrow
    | worker => exact (Option.filter_eq_some_iff.mp hrow).1
  obtain ⟨t', hfind', hkind, hsensor⟩ := h.tracked.target
  obtain rfl : t = t' := Option.some.inj (hfind.symm.trans hfind')
  exact ⟨⟨⟨t, hfind, rfl⟩, hsensor⟩, hkind⟩

/-- Every turn keeps what is sound, if runs start from the stored watermark. -/
theorem sound_next (h : Sound d targetId sensorId s) {turn : Turn}
    (hallowed : s.Allowed d sensorId turn) (hcurrent : s.Current d targetId turn) :
    Sound d targetId sensorId (s.next d targetId sensorId turn) := by
  -- a held row is the target's, whichever driver has just loaded or dropped one
  have hupdate : ∀ {w' : World} {who : Driver} {row : Option ExportTargetRow},
      (∀ t, OfTarget d targetId sensorId s.world.db t → OfTarget d targetId sensorId w'.db t) →
      (∀ t, row = some t → OfTarget d targetId sensorId s.world.db t ∧ t.target = "webhook") →
      ∀ who' t, Function.update s.held who row who' = some t →
        OfTarget d targetId sensorId w'.db t ∧ t.target = "webhook" := by
    intro w' who row hkeep hrow who' t ht
    by_cases hwho : who' = who
    · rw [hwho, Function.update_self] at ht
      exact ⟨hkeep t (hrow t ht).1, (hrow t ht).2⟩
    · rw [Function.update_of_ne hwho] at ht
      exact ⟨hkeep t (h.held who' t ht).1, (h.held who' t ht).2⟩
  cases turn with
  | insert o r tsUtc source quality =>
    obtain ⟨u, hu, hts, hnew⟩ := hallowed
    refine Meets.endState (P := fun w' => Sound d targetId sensorId { s with world := w' })
      (meets_insertReading hts (fun row hrow next fs => ?_) fun next fs => ?_)
    · rw [← hrow] at hnew
      have hheld := fun who t ht => (⟨(h.held who t ht).1.congr rfl, (h.held who t ht).2⟩ :
        OfTarget d targetId sensorId
          { s.world.db with readings := s.world.db.readings ++ [row], next := next } t ∧
          t.target = "webhook")
      rcases storedReadings_append d.server s.world.db sensorId row next with hother | happ
      · -- the row belongs to another sensor
        refine ⟨⟨h.tracked.target, hother.symm ▸ h.tracked.ordered, hother.symm ▸ h.tracked.stamped,
          hother.symm ▸ h.tracked.marked⟩, hheld, ⟨?_, h.posted.once⟩⟩
        exact hother.symm ▸ h.posted.sent
      · exact ⟨h.tracked.append rfl ⟨u, hu, hrow⟩ hnew happ, hheld, h.posted.append rfl rfl happ⟩
    · exact ⟨h.tracked.congr rfl rfl,
        fun who t ht => ⟨(h.held who t ht).1.congr rfl, (h.held who t ht).2⟩,
        h.posted.congr rfl rfl rfl⟩
  | load who o =>
    have hload : Meets (ask (findExportTarget d.server targetId)) (s.world.facing o)
        (fun row w' => Sound d targetId sensorId
          { world := w', held := Function.update s.held who (who.accepts row) })
        fun _ w' => Sound d targetId sensorId
          { world := w', held := Function.update s.held who none } := by
      refine meets_findTarget (fun fs => ?_) fun fs => ?_
      · exact ⟨h.tracked.congr rfl rfl,
          hupdate (fun t ht => ht.congr rfl) fun t ht => h.accepts ht, h.posted.congr rfl rfl rfl⟩
      · exact ⟨h.tracked.congr rfl rfl,
          hupdate (fun t ht => ht.congr rfl) (fun _ hnone => nomatch hnone), h.posted.congr rfl rfl rfl⟩
    unfold Meets at hload
    unfold Drivers.next
    cases hrow : ask (findExportTarget d.server targetId) (s.world.facing o) with
    | ok row w' =>
      rw [hrow] at hload
      dsimp only
      rw [hrow]
      exact hload
    | error e w' =>
      rw [hrow] at hload
      dsimp only
      rw [hrow]
      exact hload
  | run who o =>
    unfold Drivers.next
    dsimp only
    cases hheld : s.held who with
    | none => exact h
    | some t =>
      obtain ⟨htracked, hposted, hkeep⟩ := sound_run h hheld hallowed.1 (hcurrent t hheld).1
        fun e w' herr => effects_of_error h hheld hallowed hcurrent herr
      exact ⟨htracked, hupdate hkeep (fun _ h => nomatch h), hposted⟩

/-- Nothing is posted twice in a history in which every run starts from the stored watermark. -/
theorem posted_once {w : World} (hw : Exporter.Tracked d "webhook" targetId sensorId w)
    (hstart : w.effects = []) {turns : List Turn}
    (hallowed : Throughout (Drivers.next d targetId sensorId) (Drivers.Allowed d sensorId)
      { world := w } turns)
    (hcurrent : Throughout (Drivers.next d targetId sensorId) (Drivers.Current d targetId)
      { world := w } turns) :
    PostedOnce (run (Drivers.next d targetId sensorId) { world := w } turns).world := by
  have hposted : Posted d targetId sensorId w := by
    refine ⟨fun e he => ?_, ?_⟩
    · rw [hstart] at he
      cases he
    · rw [hstart]
      exact List.Pairwise.nil
  have h0 : Sound d targetId sensorId { world := w } := ⟨hw, fun _ _ hnone => (nomatch hnone), hposted⟩
  have hsound : Sound d targetId sensorId
      (run (Drivers.next d targetId sensorId) { world := w } turns) :=
    run_preserves (fun s t h hI => sound_next hI h.1 h.2) (throughout_and.mpr ⟨hallowed, hcurrent⟩) h0
  exact hsound.posted.postedOnce

/-! ### A worker with an old row -/

/-- A turn of the target `T` of sensor `S`. -/
abbrev hookTurn : Drivers → Turn → Drivers := Drivers.next hookDeps "T" "S"

/-- The body over the first reading. -/
def firstBody : Json := hookBody hookSensor [] [minuteReading 0]

/-- A target of which some readings were exported. -/
def hookTargetAt (ts : String) : ExportTargetRow := { hookTarget with lastExportTs := ts }

/-- Whoever exports one reading posts it and moves the watermark, whatever that was. -/
theorem run_hook (who : Driver) {w : World} {ts : String} {r : ReadingRow}
    (hsensors : w.db.sensors = [hookSensor]) (hstations : w.db.weatherStations = [])
    (hfresh : freshOf hookDeps w.db oneAnswer.now (hookTargetAt ts) = [r]) :
    let w' := who.run hookDeps (hookTargetAt ts) (w.facing oneAnswer)
    w'.effects = w.effects ++ [.post "http://h/" (hookBody hookSensor [] [r]) (some 200)] ∧
      w'.db.readings = w.db.readings ∧ w'.db.sensors = [hookSensor] ∧ w'.db.weatherStations = [] ∧
      w'.db.exportTargets = markTarget hookDeps.server "T" (newestTs [r]) w.db.exportTargets := by
  have hfind : (w.facing oneAnswer).db.sensors.find?
      (fun r => hookDeps.server.same r.id "S") = some hookSensor := by
    show w.db.sensors.find? _ = _
    rw [hsensors]
    rfl
  have hambient : ask (collectAmbient hookDeps hookSensor ts (fmtSqlUtc (w.facing oneAnswer).now))
      (w.facing oneAnswer) = .ok [] (w.facing oneAnswer) := collectAmbient_none rfl hstations rfl
  have hfresh' : freshOf hookDeps (w.facing oneAnswer).db (w.facing oneAnswer).now (hookTargetAt ts)
      = [r] := hfresh
  have hrun := meets_runExport_hook (t := hookTargetAt ts) rfl rfl hfind
    (by rw [hfresh']; exact List.cons_ne_nil _ _) rfl rfl hambient
  rw [hfresh'] at hrun
  refine run_rule (P := fun w' =>
    w'.effects = w.effects ++ [.post "http://h/" (hookBody hookSensor [] [r]) (some 200)] ∧
      w'.db.readings = w.db.readings ∧ w'.db.sensors = [hookSensor] ∧ w'.db.weatherStations = [] ∧
      w'.db.exportTargets = markTarget hookDeps.server "T" (newestTs [r]) w.db.exportTargets)
    (fun w' events next fs hw' => hw') (hrun.mono (fun _ w' h => ?_) fun _ _ h => h.elim)
  obtain ⟨log, next, rfl⟩ := h
  exact ⟨rfl, rfl, hsensors, hstations, rfl⟩

/-- The first reading is fresh as long as nothing is exported. -/
theorem first_fresh {w : World} (hreadings : w.db.readings = (stocked 1).db.readings) :
    freshOf hookDeps w.db oneAnswer.now (hookTargetAt "") = [minuteReading 0] :=
  (freshOf_congr hreadings _ _).trans ((stocked_fresh (by decide)).trans rfl)

theorem next_run {who : Driver} {o : Outside} {t : ExportTargetRow} (hheld : s.held who = some t) :
    s.next d targetId sensorId (.run who o) =
      { world := who.run d t (s.world.facing o), held := Function.update s.held who none } := by
  unfold Drivers.next
  dsimp only
  rw [hheld]

/-- Both drivers load the row, then the request exports, then the worker. -/
def staleTurns : List Turn :=
  [.load .worker oneAnswer, .load (.request 0) oneAnswer, .run (.request 0) oneAnswer,
   .run .worker oneAnswer]

/-- Every run posts what it takes for fresh and is answered. -/
theorem allowed_hook {s : Drivers} {who : Driver} {ts : String} {r : ReadingRow}
    (hheld : s.held who = some (hookTargetAt ts)) (hsensors : s.world.db.sensors = [hookSensor])
    (hstations : s.world.db.weatherStations = [])
    (hfresh : freshOf hookDeps s.world.db oneAnswer.now (hookTargetAt ts) = [r]) :
    s.Allowed hookDeps "S" (.run who oneAnswer) := by
  refine ⟨by decide, fun t ht e he => ?_⟩
  obtain rfl := Option.some.inj (hheld.symm.trans ht)
  rw [(run_hook who hsensors hstations hfresh).1, List.drop_left, List.mem_singleton] at he
  rw [he]
  exact ⟨hookBody hookSensor [] [r], rfl, by decide, by decide⟩

/-- The worker posts what the request has posted since the worker loaded its row. -/
theorem posted_again :
    Exporter.Tracked hookDeps "webhook" "T" "S" (stocked 1) ∧ (stocked 1).effects = [] ∧
      Throughout hookTurn (Drivers.Allowed hookDeps "S") { world := stocked 1 } staleTurns ∧
      ¬PostedOnce (run hookTurn { world := stocked 1 } staleTurns).world := by
  let loaded : Drivers := Drivers.mk ((stocked 1).facing oneAnswer) (Function.update
    (Function.update (fun _ => none) .worker (some (hookTargetAt ""))) (.request 0)
    (some (hookTargetAt "")))
  have hloaded : hookTurn (hookTurn { world := stocked 1 } (.load .worker oneAnswer))
      (.load (.request 0) oneAnswer) = loaded := rfl
  have hrequest : loaded.held (.request 0) = some (hookTargetAt "") := rfl
  let exported : Drivers := Drivers.mk
    ((Driver.request 0).run hookDeps (hookTargetAt "") (loaded.world.facing oneAnswer))
    (Function.update loaded.held (.request 0) none)
  have hexported : hookTurn loaded (.run (.request 0) oneAnswer) = exported := next_run hrequest
  have hworker : exported.held .worker = some (hookTargetAt "") := rfl
  have hfirst := first_fresh (w := loaded.world) rfl
  obtain ⟨heffects, hreadings, hsensors, hstations, -⟩ :=
    run_hook (.request 0) (w := loaded.world) rfl rfl hfirst
  have hagain : hookTurn exported (.run .worker oneAnswer) = _ := next_run hworker
  -- the watermark of the worker's row is the old one
  have hstale := first_fresh (w := exported.world) hreadings
  obtain ⟨heffects', -⟩ := run_hook .worker (w := exported.world) hsensors hstations hstale
  refine ⟨(stocked_neverExported (by decide)).1, rfl, ⟨trivial, trivial, ?_, ?_, trivial⟩, ?_⟩
  · rw [hloaded]
    exact allowed_hook hrequest rfl rfl hfirst
  · rw [hloaded, hexported]
    exact allowed_hook hworker hsensors hstations hstale
  · intro honce
    have hpair := honce (minuteReading 0)
    have hrun : (run hookTurn { world := stocked 1 } staleTurns).world.effects =
        [.post "http://h/" firstBody (some 200), .post "http://h/" firstBody (some 200)] := by
      unfold staleTurns
      rw [run_cons, run_cons, run_cons, run_cons, run_nil, hloaded, hexported, hagain]
      show (Driver.run hookDeps .worker (hookTargetAt "") (exported.world.facing oneAnswer)).effects = _
      rw [heffects']
      show (Driver.run hookDeps (.request 0) (hookTargetAt "")
        (loaded.world.facing oneAnswer)).effects ++ _ = _
      rw [heffects]
      rfl
    rw [hrun, List.pairwise_pair] at hpair
    have hcarried : readingJson (minuteReading 0) ∈
        Effect.readings (.post "http://h/" firstBody (some 200)) := by
      rw [show Effect.readings (.post "http://h/" firstBody (some 200)) = readingsIn firstBody from rfl]
      unfold readingsIn firstBody hookBody
      rw [webhookBody_readings]
      exact List.mem_singleton_self _
    exact hpair ⟨hcarried, hcarried⟩

/-! ### A reading between two drivers -/

/-- The worker exports, a reading comes in, and a request exports. -/
def inTurn : List Turn :=
  [.load .worker oneAnswer, .run .worker oneAnswer,
   .insert oneAnswer { magArcsec2 := 21, tempC := 10 } "1970-01-01 00:01:00" .poll .ok,
   .load (.request 0) oneAnswer, .run (.request 0) oneAnswer]

/-- A row of the sensor, of the second minute. -/
structure IsSecond (r : ReadingRow) : Prop where
  sensorId : r.sensorId = "S"
  tsUtc : r.tsUtc = "1970-01-01 00:01:00"

theorem insert_second {w : World} (hreadings : w.db.readings = [minuteReading 0])
    (hsensors : w.db.sensors = [hookSensor]) (hcalm : w.dbFaults = []) :
    ∃ r next, IsSecond r ∧ endState (insertReading hookDeps.server "S"
        { magArcsec2 := 21, tempC := 10 } "1970-01-01 00:01:00" .poll .ok w) =
      { w with db := { w.db with readings := [minuteReading 0, r], next } } := by
  have hnew : (w.db.readings.any (fun x => Server.plain.same x.sensorId "S" &&
        decide (x.tsUtc = "1970-01-01 00:01:00")) ||
      !w.db.sensors.any fun x => Server.plain.same x.id "S") = false := by
    rw [hreadings, hsensors]
    decide +kernel
  refine Meets.endState (P := fun w' => ∃ r next, IsSecond r ∧
    w' = { w with db := { w.db with readings := [minuteReading 0, r], next } }) ?_
  refine (meets_statement_calm hcalm
    ((if_neg fun hold => Bool.false_ne_true (hnew.symm.trans hold)).trans rfl)).mpr ?_
  exact ⟨_, _, ⟨rfl, rfl⟩, by rw [hreadings]; rfl⟩

/-- What the first run has exported is not fresh to the second. -/
theorem second_fresh {db : Db} {r : ReadingRow} (hr : IsSecond r)
    (hreadings : db.readings = [minuteReading 0, r]) :
    freshOf hookDeps db oneAnswer.now (hookTargetAt "1970-01-01 00:00:00") = [r] := by
  have hstored : storedReadings hookDeps.server db "S" = [minuteReading 0, r] := by
    unfold storedReadings
    rw [hreadings]
    refine List.filter_eq_self.mpr fun x hx => ?_
    rcases List.mem_pair.mp hx with rfl | rfl
    · rfl
    · rw [hr.sensorId]
      rfl
  have hfirst : (minuteReading 0).tsUtc = "1970-01-01 00:00:00" := by decide
  have hord : Ordered (storedReadings hookDeps.server db "S") := by
    rw [hstored, Ordered, List.pairwise_pair, hfirst, hr.tsUtc]
    decide
  have hstamp : ∀ x ∈ storedReadings hookDeps.server db "S", IsStamp x.tsUtc := by
    intro x hx
    rw [hstored] at hx
    rcases List.mem_pair.mp hx with rfl | rfl
    · exact ⟨60 * 0, by decide, rfl⟩
    · exact ⟨60 * 1, by decide, hr.tsUtc.trans (by decide)⟩
  have hwm : IsStamp "1970-01-01 00:00:00" := ⟨60 * 0, by decide, by decide⟩
  have hpast : "1970-01-01 00:01:00" ≤ fmtSqlUtc oneAnswer.now := by decide
  have hseen : visible hookDeps.server db "S" (fmtSqlUtc oneAnswer.now) = [minuteReading 0, r] := by
    unfold visible
    rw [hstored]
    refine List.filter_eq_self.mpr fun x hx => decide_eq_true ?_
    rcases List.mem_pair.mp hx with rfl | rfl
    · rw [hfirst]
      exact le_trans (by decide) hpast
    · rw [hr.tsUtc]
      exact hpast
  show freshReadings "1970-01-01 00:00:00"
    (windowRows hookDeps.server db "S" "1970-01-01 00:00:00" _ _) = _
  rw [freshReadings_visible hord hstamp (Or.inr hwm) ⟨oneAnswer.now, by decide, rfl⟩]
  rw [hseen, List.filter_cons_of_neg (by rw [hfirst]; decide),
    List.filter_cons_of_pos (by rw [hr.tsUtc]; decide)]
  rfl

theorem logAndMark_hook {t : ExportTargetRow} {w : World} (hcalm : w.dbFaults = []) :
    LogAndMark hookDeps t w := by
  intro sensor url _ _ _ calls _
  rw [hcalm]
  exact ⟨fun i _ => by rw [List.getElem?_nil]; exact nofun, ⟨rfl, rfl, rfl⟩⟩

/-- A driver loads the row of the target as it is then. -/
theorem load_hook {who : Driver} {ts : String}
    (htargets : s.world.db.exportTargets = [hookTargetAt ts]) :
    hookTurn s (.load who oneAnswer) = { world := s.world.facing oneAnswer
                                         held := Function.update s.held who
                                             (some (hookTargetAt ts)) } := by
  have hfind : Meets (ask (findExportTarget hookDeps.server "T")) (s.world.facing oneAnswer)
      (fun row w' => row = some (hookTargetAt ts) ∧ w' = s.world.facing oneAnswer)
      fun _ _ => False := by
    refine (meets_select_calm rfl).mpr ⟨?_, rfl⟩
    show s.world.db.exportTargets.find? _ = _
    rw [htargets]
    rfl
  obtain ⟨row, w', hload, rfl, rfl⟩ := hfind.returns
  have haccepts : who.accepts (some (hookTargetAt ts)) = some (hookTargetAt ts) := by
    cases who with
    | worker => rfl
    | request k => rfl
  unfold hookTurn Drivers.next
  dsimp only
  rw [hload]
  dsimp only
  rw [haccepts]

/-- Its run starts from the stored watermark. -/
theorem current_hook {who : Driver} {ts : String} (hheld : s.held who = some (hookTargetAt ts))
    (htargets : s.world.db.exportTargets = [hookTargetAt ts]) :
    s.Current hookDeps "T" (.run who oneAnswer) := by
  intro t ht
  obtain rfl := Option.some.inj (hheld.symm.trans ht)
  refine ⟨?_, logAndMark_hook rfl⟩
  unfold watermark targetRow
  rw [htargets]
  rfl

/-- Each driver posts one of the two readings. -/
theorem posted_once_inTurn : PostedOnce (run hookTurn { world := stocked 1 } inTurn).world := by
  -- the worker exports the first reading
  let loaded : Drivers := Drivers.mk ((stocked 1).facing oneAnswer)
    (Function.update (fun _ => none) .worker (some (hookTargetAt "")))
  have hloaded : hookTurn { world := stocked 1 } (.load .worker oneAnswer) = loaded := rfl
  have hworker : loaded.held .worker = some (hookTargetAt "") := rfl
  let exported : Drivers := Drivers.mk
    (Driver.worker.run hookDeps (hookTargetAt "") (loaded.world.facing oneAnswer))
    (Function.update loaded.held .worker none)
  have hexported : hookTurn loaded (.run .worker oneAnswer) = exported := next_run hworker
  have hfirst := first_fresh (w := loaded.world) rfl
  obtain ⟨-, hreadings, hsensors, hstations, htargets⟩ :=
    run_hook .worker (w := loaded.world) rfl rfl hfirst
  have hmarked : exported.world.db.exportTargets = [hookTargetAt "1970-01-01 00:00:00"] :=
    htargets.trans (by decide +kernel)
  have hone : exported.world.db.readings = [minuteReading 0] := hreadings
  -- the second one comes in, and the request exports it
  obtain ⟨r, next, hr, hinsert⟩ :=
    insert_second (w := exported.world.facing oneAnswer) hone hsensors rfl
  let grown : Drivers := Drivers.mk { exported.world.facing oneAnswer with
    db := { exported.world.db with readings := [minuteReading 0, r], next } } exported.held
  have hgrown : hookTurn exported (.insert oneAnswer { magArcsec2 := 21, tempC := 10 }
      "1970-01-01 00:01:00" .poll .ok) = grown := congrArg (Drivers.mk · exported.held) hinsert
  let again : Drivers := Drivers.mk (grown.world.facing oneAnswer)
    (Function.update grown.held (.request 0) (some (hookTargetAt "1970-01-01 00:00:00")))
  have hagain : hookTurn grown (.load (.request 0) oneAnswer) = again := load_hook hmarked
  have hrequest : again.held (.request 0) = some (hookTargetAt "1970-01-01 00:00:00") := rfl
  have hsecond : freshOf hookDeps again.world.db oneAnswer.now
      (hookTargetAt "1970-01-01 00:00:00") = [r] := second_fresh hr rfl
  have hallowed : Throughout hookTurn (Drivers.Allowed hookDeps "S") { world := stocked 1 } inTurn := by
    refine ⟨trivial, ?_, ?_, trivial, ?_, trivial⟩
    · exact allowed_hook hworker rfl rfl hfirst
    · rw [hloaded, hexported]
      refine ⟨60, by decide, rfl, fun x hx => ?_⟩
      have hmem : x ∈ exported.world.db.readings := List.mem_of_mem_filter hx
      rw [hone, List.mem_singleton] at hmem
      rw [hmem]
      exact (fmtSqlUtc_lt_iff (by decide) (by decide)).mpr (by decide)
    · rw [hloaded, hexported, hgrown, hagain]
      exact allowed_hook hrequest hsensors hstations hsecond
  have hcurrent : Throughout hookTurn (Drivers.Current hookDeps "T") { world := stocked 1 } inTurn := by
    refine ⟨trivial, ?_, trivial, trivial, ?_, trivial⟩
    · exact current_hook hworker rfl
    · rw [hloaded, hexported, hgrown, hagain]
      exact current_hook hrequest hmarked
  exact posted_once (stocked_neverExported (by decide)).1 rfl hallowed hcurrent

end NightWatcher.Daemon
