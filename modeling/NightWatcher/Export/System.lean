import Mathlib.Logic.Relation
import NightWatcher.Export.Push

/-!
# A target, its sensor, and time

The system around one export target: readings of its sensor are inserted, its
config is edited, and `run_export` is called on its current row (`Step`). Runs are
atomic with respect to insertions; what the database, the clock and the
destination do during a step is any `Outside`.

`Tracked` is what every such step preserves: the sensor's readings are stored in
the order of their timestamps, and the watermark is one of those timestamps or
not set yet. It makes a reading that is inserted next lie above the watermark.
-/

namespace NightWatcher.Exporter

open Throwing TimeUtil Database

/-! ## The target's row -/

def targetRow (srv : Server) (db : Db) (id : String) : Option ExportTargetRow :=
  db.exportTargets.find? fun r => srv.same r.id id

/-- `last_export_ts`, empty when it is NULL. -/
def watermark (srv : Server) (db : Db) (id : String) : String :=
  ((targetRow srv db id).map ExportTargetRow.lastExportTs).getD ""

/-- Marking the target by its own id marks the row that the id finds. -/
theorem targetRow_marked {srv : Server} {db db' : Db} {id ts : String} {t : ExportTargetRow}
    (hrow : targetRow srv db id = some t)
    (ht : db'.exportTargets = markTarget srv t.id ts db.exportTargets) :
    targetRow srv db' id = some { t with lastExportTs := ts } := by
  rw [targetRow, ht, markTarget, changeTarget_row hrow]
  exact find?_changeTarget (g := fun r => { r with lastExportTs := ts }) (fun _ => rfl) hrow

/-! ## Insertions -/

theorem meets_insertReading {srv : Server} {sensorId tsUtc ts : String} {r : Reading}
    {source : Source} {quality : Quality} {w : World} {Q : World → Prop}
    (hts : timestampOrNow srv w.now tsUtc = some ts)
    (hkept : ∀ row : ReadingRow, row.tsUtc = ts → ∀ next fs,
      Q { w with db := { w.db with readings := w.db.readings ++ [row], next := next }, dbFaults := fs })
    (hdropped : ∀ next fs, Q { w with db := { w.db with next := next }, dbFaults := fs }) :
    Meets (insertReading srv sensorId r tsUtc source quality) w (fun _ => Q) (fun _ => Q) := by
  refine meets_statement (fun a db' fs h => ?_) (fun _ fs => hdropped w.db.next fs)
  rw [hts] at h
  simp only [Option.getD_some] at h
  split at h
  next =>
    cases h
    exact hdropped _ fs
  next =>
    cases h
    exact hkept _ rfl _ fs

/-! ## Steps -/

/-- What is asked of a run of the system: which configs the target may be given,
and what holds when an export starts, of the state and of what the outside does next. -/
structure Terms where
  config : String → Prop := fun _ => True
  start : World → Prop := fun _ => True

/-- The target with another config. -/
def configured (srv : Server) (w : World) (targetId config : String) : World :=
  { w with db := { w.db with
    exportTargets := changeTarget srv targetId (fun r => { r with config := config })
      w.db.exportTargets } }

inductive Step (d : Deps) (targetId sensorId : String) (terms : Terms) : World → World → Prop
  /-- A reading of the sensor is inserted, with a timestamp later than all before it. -/
  | insert {w : World} (o : Outside) (r : Reading) (tsUtc : String) (source : Source)
      (quality : Quality) {u : Int}
      (hts : timestampOrNow d.server o.now tsUtc = some (fmtSqlUtc u)) (hu : InYears u)
      (hnew : ∀ x ∈ storedReadings d.server w.db sensorId, x.tsUtc < fmtSqlUtc u) :
      Step d targetId sensorId terms w
        (endState (insertReading d.server sensorId r tsUtc source quality (w.facing o)))
  /-- The target's config is edited. -/
  | configure {w : World} {config : String} (h : terms.config config) :
      Step d targetId sensorId terms w (configured d.server w targetId config)
  /-- The target is exported; the clock is not behind the newest reading. -/
  | run {w : World} (o : Outside) {t : ExportTargetRow}
      (hrow : targetRow d.server w.db targetId = some t) (hnow : InYears o.now)
      (hclock : ∀ x ∈ storedReadings d.server w.db sensorId, x.tsUtc ≤ fmtSqlUtc o.now)
      (hstart : terms.start (w.facing o)) :
      Step d targetId sensorId terms w (endState (runExport d t (w.facing o)))

/-- What every step preserves, for a target of the given kind. -/
structure Tracked (d : Deps) (kind targetId sensorId : String) (w : World) : Prop where
  target : ∃ t, targetRow d.server w.db targetId = some t ∧ t.target = kind ∧ t.sensorId = sensorId
  ordered : Ordered (storedReadings d.server w.db sensorId)
  stamped : ∀ r ∈ storedReadings d.server w.db sensorId, IsStamp r.tsUtc
  marked : watermark d.server w.db targetId = "" ∨
    ∃ r ∈ storedReadings d.server w.db sensorId, r.tsUtc = watermark d.server w.db targetId

section Invariant

variable {d : Deps} {kind targetId sensorId : String} {w : World}

theorem Tracked.watermark_stamp (h : Tracked d kind targetId sensorId w) :
    watermark d.server w.db targetId = "" ∨ IsStamp (watermark d.server w.db targetId) := by
  rcases h.marked with hempty | ⟨r, hr, hts⟩
  · exact Or.inl hempty
  · exact Or.inr (hts ▸ h.stamped r hr)

/-- A timestamp later than all stored ones is above the watermark. -/
theorem Tracked.watermark_lt (h : Tracked d kind targetId sensorId w) {ts : String}
    (hts : IsStamp ts) (hnew : ∀ x ∈ storedReadings d.server w.db sensorId, x.tsUtc < ts) :
    watermark d.server w.db targetId < ts := by
  rcases h.marked with hempty | ⟨r, hr, hmark⟩
  · rw [hempty]
    exact empty_lt hts.ne_empty
  · rw [← hmark]
    exact hnew r hr

/-- `Tracked` looks at the readings and the targets only. -/
theorem Tracked.congr (h : Tracked d kind targetId sensorId w) {w' : World}
    (hr : w'.db.readings = w.db.readings) (ht : w'.db.exportTargets = w.db.exportTargets) :
    Tracked d kind targetId sensorId w' := by
  have hstored : storedReadings d.server w'.db sensorId = storedReadings d.server w.db sensorId := by
    rw [storedReadings, hr, storedReadings]
  have hrow : targetRow d.server w'.db targetId = targetRow d.server w.db targetId := by
    rw [targetRow, ht, targetRow]
  have hmark : watermark d.server w'.db targetId = watermark d.server w.db targetId := by
    rw [watermark, hrow, watermark]
  exact ⟨hrow ▸ h.target, hstored ▸ h.ordered, hstored ▸ h.stamped, by
    rw [hmark, hstored]
    exact h.marked⟩

/-- The readings after an insertion: one more, or none. -/
theorem storedReadings_append (srv : Server) (db : Db) (sensorId : String) (row : ReadingRow)
    (next : Counters) :
    storedReadings srv { db with readings := db.readings ++ [row], next := next } sensorId
        = storedReadings srv db sensorId ∨
      storedReadings srv { db with readings := db.readings ++ [row], next := next } sensorId
        = storedReadings srv db sensorId ++ [row] := by
  unfold storedReadings
  simp only [List.filter_append]
  by_cases hsame : srv.same row.sensorId sensorId = true
  · exact Or.inr (by simp [hsame])
  · exact Or.inl (by simp [hsame])

theorem Tracked.append (h : Tracked d kind targetId sensorId w) {w' : World} {row : ReadingRow}
    (ht : w'.db.exportTargets = w.db.exportTargets) (hrow : IsStamp row.tsUtc)
    (hnew : ∀ x ∈ storedReadings d.server w.db sensorId, x.tsUtc < row.tsUtc)
    (hr : storedReadings d.server w'.db sensorId
      = storedReadings d.server w.db sensorId ++ [row]) :
    Tracked d kind targetId sensorId w' := by
  have hfind : targetRow d.server w'.db targetId = targetRow d.server w.db targetId := by
    rw [targetRow, ht, targetRow]
  have hmark : watermark d.server w'.db targetId = watermark d.server w.db targetId := by
    rw [watermark, hfind, watermark]
  refine ⟨hfind ▸ h.target, ?_, ?_, ?_⟩
  · rw [hr]
    refine List.pairwise_append.mpr ⟨h.ordered, List.pairwise_singleton _ _, fun a ha b hb => ?_⟩
    rw [List.mem_singleton.mp hb]
    exact hnew a ha
  · intro r hmem
    rw [hr] at hmem
    rcases List.mem_append.mp hmem with hmem | hmem
    · exact h.stamped r hmem
    · rw [List.mem_singleton.mp hmem]
      exact hrow
  · rw [hmark, hr]
    rcases h.marked with hempty | ⟨r, hmem, hts⟩
    · exact Or.inl hempty
    · exact Or.inr ⟨r, List.mem_append.mpr (Or.inl hmem), hts⟩

/-- What a run takes for fresh. -/
def freshOf (d : Deps) (db : Db) (now : Int) (t : ExportTargetRow) : List ReadingRow :=
  freshReadings t.lastExportTs
    (windowRows d.server db t.sensorId t.lastExportTs (fmtSqlUtc now) kMaxRows)

/-- It depends on the readings alone. -/
theorem freshOf_congr {db db' : Db} (h : db'.readings = db.readings) (now : Int)
    (t : ExportTargetRow) : freshOf d db' now t = freshOf d db now t := by
  unfold freshOf windowRows
  rw [h]

/-- A tracked target's run sees the newest `kMaxRows` readings above the watermark. -/
theorem Tracked.freshOf_eq (h : Tracked d kind targetId sensorId w) {t : ExportTargetRow}
    (hrow : targetRow d.server w.db targetId = some t) {now : Int} (hnow : InYears now)
    (hclock : ∀ x ∈ storedReadings d.server w.db sensorId, x.tsUtc ≤ fmtSqlUtc now) :
    freshOf d w.db now t
      = (backlog d.server w.db sensorId (watermark d.server w.db targetId)).reverse.take kMaxRows := by
  obtain ⟨t', hrow', -, hsensor⟩ := h.target
  obtain rfl : t = t' := Option.some.inj (hrow.symm.trans hrow')
  have hwm : watermark d.server w.db targetId = t.lastExportTs := by rw [watermark, hrow]; rfl
  have hstamp := h.watermark_stamp
  rw [hwm] at hstamp ⊢
  rw [freshOf, hsensor]
  exact freshReadings_window h.ordered h.stamped hstamp ⟨now, hnow, rfl⟩ hclock

/-- So does a run on a row with another watermark, of what it can see. -/
theorem Tracked.freshOf_visible (h : Tracked d kind targetId sensorId w) {t : ExportTargetRow}
    (hsensor : t.sensorId = sensorId) (hwm : t.lastExportTs = "" ∨ IsStamp t.lastExportTs) {now : Int}
    (hnow : InYears now) :
    freshOf d w.db now t = ((visible d.server w.db sensorId (fmtSqlUtc now)).filter
      fun r => decide (t.lastExportTs < r.tsUtc)).reverse.take kMaxRows := by
  rw [freshOf, hsensor]
  exact freshReadings_visible h.ordered h.stamped hwm ⟨now, hnow, rfl⟩

theorem Tracked.newest_stamp (h : Tracked d kind targetId sensorId w) {t : ExportTargetRow}
    (hsensor : t.sensorId = sensorId) (hwm : t.lastExportTs = "" ∨ IsStamp t.lastExportTs) {now : Int}
    (hnow : InYears now) (hne : freshOf d w.db now t ≠ []) :
    IsStamp (newestTs (freshOf d w.db now t)) := by
  obtain ⟨⟨r, hr, hts⟩, -⟩ :=
    newest_visible h.ordered h.stamped (h.freshOf_visible hsensor hwm hnow) hne
  rw [hts]
  exact h.stamped r (List.mem_of_mem_filter hr)

/-- The new watermark of a run: one of the backlog, and above none of the fresh. -/
theorem Tracked.newest (h : Tracked d kind targetId sensorId w) {k : Nat} {fresh : List ReadingRow}
    (hfresh : fresh = (backlog d.server w.db sensorId
      (watermark d.server w.db targetId)).reverse.take k) (hne : fresh ≠ []) :
    (∃ r ∈ storedReadings d.server w.db sensorId, newestTs fresh = r.tsUtc) ∧
      ∀ r ∈ fresh, r.tsUtc ≤ newestTs fresh := by
  have hsub : ∀ r ∈ fresh, r ∈ storedReadings d.server w.db sensorId := by
    intro r hr
    rw [hfresh] at hr
    exact List.mem_of_mem_filter (List.mem_reverse.mp (List.mem_of_mem_take hr))
  obtain ⟨⟨r, hr, htop⟩, hle⟩ := newestTs_spec hne fun r hr => h.stamped r (hsub r hr)
  exact ⟨⟨r, hsub r hr, htop⟩, hle⟩

/-- Moving the watermark to a stored timestamp. -/
theorem Tracked.mark (h : Tracked d kind targetId sensorId w) {t : ExportTargetRow}
    (hrow : targetRow d.server w.db targetId = some t) {w' : World} {ts : String}
    (hts : ∃ r ∈ storedReadings d.server w.db sensorId, ts = r.tsUtc)
    (hr : w'.db.readings = w.db.readings)
    (ht : w'.db.exportTargets = markTarget d.server t.id ts w.db.exportTargets) :
    Tracked d kind targetId sensorId w' ∧ watermark d.server w'.db targetId = ts := by
  have hstored : storedReadings d.server w'.db sensorId = storedReadings d.server w.db sensorId := by
    rw [storedReadings, hr, storedReadings]
  have hrow' : targetRow d.server w'.db targetId = some { t with lastExportTs := ts } :=
    targetRow_marked hrow ht
  have hmark : watermark d.server w'.db targetId = ts := by rw [watermark, hrow']; rfl
  obtain ⟨t', hfind, hkind, hsensor⟩ := h.target
  obtain rfl : t = t' := Option.some.inj (hrow.symm.trans hfind)
  refine ⟨⟨⟨_, hrow', hkind, hsensor⟩, hstored ▸ h.ordered, hstored ▸ h.stamped, ?_⟩, hmark⟩
  obtain ⟨r, hmem, rfl⟩ := hts
  exact Or.inr ⟨r, hstored ▸ hmem, hmark.symm⟩

/-- Editing the config changes neither the watermark nor what is stored. -/
theorem Tracked.edit (h : Tracked d kind targetId sensorId w) (config : String) :
    Tracked d kind targetId sensorId (configured d.server w targetId config) ∧
      watermark d.server (configured d.server w targetId config).db targetId
        = watermark d.server w.db targetId := by
  obtain ⟨t, hrow, hkind, hsensor⟩ := h.target
  have hrow' : targetRow d.server (configured d.server w targetId config).db targetId
      = some { t with config := config } :=
    find?_changeTarget (g := fun r => { r with config := config }) (fun _ => rfl) hrow
  have hmark : watermark d.server (configured d.server w targetId config).db targetId
      = watermark d.server w.db targetId := by
    rw [watermark, hrow', watermark, hrow]
    rfl
  exact ⟨⟨⟨_, hrow', hkind, hsensor⟩, h.ordered, h.stamped, hmark.symm ▸ h.marked⟩, hmark⟩

end Invariant

/-! ## The frame of a run -/

theorem makeExporter_webhook {d : Deps} {config : String} {e : IExporter}
    (h : makeExporter d "webhook" config = .ok e) : e = .webhook config := by
  unfold makeExporter at h
  split at h
  · cases h
  · exact (Except.ok.inj h).symm

theorem makeExporter_dsn {d : Deps} {config : String} {e : IExporter}
    (h : makeExporter d "dsn" config = .ok e) : e = .dsn config := by
  unfold makeExporter at h
  split at h
  · cases h
  · exact (Except.ok.inj h).symm

/-- A run fails early, finds nothing fresh, or is one of the two kinds of export. -/
theorem meets_runExport {d : Deps} {t : ExportTargetRow} {w : World} {Q E : World → Prop}
    (herr : ∀ fs, E (w.withFaults fs))
    (hnone : freshOf d w.db w.now t = [] → ∀ fs, Q (w.withFaults fs))
    (hsome : ∀ sensor exporter fs, freshOf d w.db w.now t ≠ [] →
      w.db.sensors.find? (fun r => d.server.same r.id t.sensorId) = some sensor →
      makeExporter d t.target t.config = .ok exporter →
      Meets (match exporter.windowing with
        | .incremental =>
          runIncremental d t sensor exporter (freshOf d w.db w.now t) (fmtSqlUtc w.now)
        | .monthly =>
          runMonthly d t sensor exporter (exportTimezone d sensor t.config)
            (freshOf d w.db w.now t))
        (w.withFaults fs) (fun _ => Q) (fun _ => E)) :
    Meets (runExport d t) w (fun _ => Q) (fun _ => E) := by
  unfold runExport
  rw [meets_bind]
  refine meets_select (fun fs₁ => ?_) (fun fs => herr fs)
  cases hsensor : w.db.sensors.find? (fun r => d.server.same r.id t.sensorId) with
  | none => exact herr fs₁
  | some sensor =>
    simp only [meets_bind, meets_get, readingsBetween_eq]
    refine meets_select (fun fs₂ => ?_) (fun fs => herr fs)
    show Meets (if freshOf d w.db w.now t = [] then _ else _) _ _ _
    rw [meets_ite]
    refine ⟨fun he => hnone he fs₂, fun hne => ?_⟩
    simp only [meets_bind, meets_liftExcept]
    exact ⟨fun exporter hexp => hsome sensor exporter fs₂ hne hsensor hexp, fun e _ => herr fs₂⟩

/-- With the database at hand, a run with something fresh is the export of it. -/
theorem meets_runExport_calm {d : Deps} {t : ExportTargetRow} {w : World} {sensor : SensorRow}
    {exporter : IExporter} {Q : ExportRunResult → World → Prop} {E : String → World → Prop}
    (hw : w.dbFaults = []) (hne : freshOf d w.db w.now t ≠ [])
    (hsensor : w.db.sensors.find? (fun r => d.server.same r.id t.sensorId) = some sensor)
    (hexp : makeExporter d t.target t.config = .ok exporter)
    (h : Meets (match exporter.windowing with
      | .incremental =>
        runIncremental d t sensor exporter (freshOf d w.db w.now t) (fmtSqlUtc w.now)
      | .monthly =>
        runMonthly d t sensor exporter (exportTimezone d sensor t.config)
          (freshOf d w.db w.now t)) w Q E) :
    Meets (runExport d t) w Q E := by
  unfold runExport
  rw [meets_bind]
  refine (meets_select_calm hw).mpr ?_
  rw [hsensor]
  simp only [meets_bind, meets_get, readingsBetween_eq]
  rw [meets_select_calm hw]
  show Meets (if freshOf d w.db w.now t = [] then _ else _) _ _ _
  rw [if_neg hne, hexp]
  exact h

end NightWatcher.Exporter
