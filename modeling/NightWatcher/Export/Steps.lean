import NightWatcher.Export.System

/-!
# The steps of a run

`run_export` reads what is fresh (`queryFresh`), pushes it (`push`), and writes
the watermark; `runExport_steps` puts it together again. Nothing but the export
log changes before the write.

The last section runs a webhook whose endpoint takes every body, on a database
that answers: the run posts one body and moves the watermark.
-/

namespace NightWatcher.Exporter

open Throwing TimeUtil Database

variable (d : Deps)

/-- What a run has in hand once it has read what is fresh. -/
structure Work where
  sensor : SensorRow
  exporter : IExporter
  tz : String
  now : String
  fresh : List ReadingRow

/-- Look the sensor up and read what is fresh; nothing to do if nothing is. -/
def queryFresh (t : ExportTargetRow) : Act (Option Work) := do
  match ← ask (findSensor d.server t.sensorId) with
  | none => throw ("export target " ++ t.id ++ ": no such sensor '" ++ t.sensorId ++ "'")
  | some sensor =>
    let now := fmtSqlUtc (← get).now
    let rows ← ask (readingsBetween d.server t.sensorId t.lastExportTs now kMaxRows)
    let fresh := freshReadings t.lastExportTs rows
    if fresh = [] then
      return none
    let exporter ← liftExcept (makeExporter d t.target t.config)
    return some { sensor, exporter, tz := exportTimezone d sensor t.config, now, fresh }

/-- Push and log everything. -/
def push (t : ExportTargetRow) (work : Work) : Act ExportRunResult :=
  match work.exporter.windowing with
  | .incremental => do
    let weather ← ask (collectAmbient d work.sensor t.lastExportTs work.now)
    let res ← pushAndLog d t.id work.exporter
      { sensor := work.sensor, readings := work.fresh.reverse, weather, fromTs := t.lastExportTs
        toTs := work.now }
    return { files := 1, rows := res.rowCount, fileNames := [res.fileName]
             lastTs := newestTs work.fresh }
  | .monthly => do
    let results ← (affectedMonths d work.tz work.fresh).mapM
      (rebuildMonth d t work.sensor work.exporter work.tz work.fresh)
    return { files := results.length
             rows := (results.map ExportResult.rowCount).sum
             fileNames := results.map ExportResult.fileName
             lastTs := newestTs work.fresh }

/-- `run_export` is these steps and the write of the watermark. -/
theorem runExport_steps (t : ExportTargetRow) : runExport d t = (do
    match ← queryFresh d t with
    | none => return {}
    | some work =>
      let res ← push d t work
      setExportWatermark d.server t.id (newestTs work.fresh)
      return res) := by
  unfold runExport queryFresh
  simp only [bind_assoc]
  refine bind_congr fun found => ?_
  cases found with
  | none => rfl
  | some sensor =>
    simp only [bind_assoc]
    refine bind_congr fun w => bind_congr fun rows => ?_
    split
    · simp only [pure_bind]
    · simp only [bind_assoc, pure_bind]
      refine bind_congr fun exporter => ?_
      unfold push
      cases exporter.windowing with
      | incremental => simp only [runIncremental, bind_assoc, pure_bind]
      | monthly => simp only [runMonthly, bind_assoc, pure_bind]

variable {d}

theorem logging_queryFresh (t : ExportTargetRow) : Keeps logging (queryFresh d t) := by
  refine keeps_bind (keeps_ask logging_ignoresFaults _) fun found => ?_
  cases found with
  | none => exact keeps_throw _
  | some sensor =>
    refine keeps_bind keeps_get fun w => keeps_bind (keeps_ask logging_ignoresFaults _) fun rows => ?_
    exact keeps_ite (keeps_pure _) (keeps_bind (keeps_liftExcept _) fun exporter => keeps_pure _)

theorem logging_push (t : ExportTargetRow) (work : Work) : Keeps logging (push d t work) := by
  unfold push
  cases work.exporter.windowing with
  | incremental =>
    exact keeps_bind (keeps_ask logging_ignoresFaults _) fun weather =>
      keeps_bind (logging_pushAndLog _ _ _) fun res => keeps_pure _
  | monthly =>
    refine keeps_bind (keeps_mapM fun ym _ => ?_) fun results => keeps_pure _
    exact keeps_bind (keeps_ask logging_ignoresFaults _) fun rows => logging_pushAndLog _ _ _

/-- What a query that found something found. -/
theorem meets_queryFresh {t : ExportTargetRow} {w : World} {Q : Option Work → World → Prop}
    {E : String → World → Prop} (hnone : ∀ fs, Q none (w.withFaults fs))
    (hsome : ∀ work fs, work.fresh = freshOf d w.db w.now t → work.fresh ≠ [] →
      Q (some work) (w.withFaults fs))
    (herr : ∀ e fs, E e (w.withFaults fs)) : Meets (queryFresh d t) w Q E := by
  unfold queryFresh
  rw [meets_bind]
  refine meets_select (fun fs => ?_) fun fs => herr _ fs
  cases w.db.sensors.find? (fun r => d.server.same r.id t.sensorId) with
  | none => exact herr _ fs
  | some sensor =>
    simp only [meets_bind, meets_get, readingsBetween_eq]
    refine meets_select (fun fs => ?_) fun fs => herr _ fs
    rw [meets_ite]
    refine ⟨fun _ => hnone fs, fun hne => ?_⟩
    simp only [meets_bind, meets_liftExcept, meets_pure]
    exact ⟨fun exporter _ => hsome _ fs rfl hne, fun e _ => herr e fs⟩

/-- With the database at hand, a query finds what is fresh. -/
theorem meets_queryFresh_calm {t : ExportTargetRow} {w : World} {sensor : SensorRow}
    {exporter : IExporter} {Q : Option Work → World → Prop} {E : String → World → Prop}
    (hw : w.dbFaults = []) (hne : freshOf d w.db w.now t ≠ [])
    (hsensor : w.db.sensors.find? (fun r => d.server.same r.id t.sensorId) = some sensor)
    (hexp : makeExporter d t.target t.config = .ok exporter) :
    Meets (queryFresh d t) w Q E ↔ Q (some
      { sensor, exporter, tz := exportTimezone d sensor t.config, now := fmtSqlUtc w.now
        fresh := freshOf d w.db w.now t }) w := by
  unfold queryFresh
  rw [meets_bind]
  unfold findSensor
  rw [meets_select_calm hw]
  dsimp only
  rw [hsensor]
  simp only [meets_bind, meets_get, readingsBetween_eq]
  rw [meets_select_calm hw]
  show Meets (if freshOf d w.db w.now t = [] then _ else _) w Q E ↔ _
  rw [if_neg hne, hexp]
  rfl

/-- On a server that takes every value the watermark is written. -/
theorem meets_mark_plain {id ts : String} {w : World} {Q : Unit → World → Prop}
    {E : String → World → Prop} (hw : w.dbFaults = []) :
    Meets (setExportWatermark Server.plain id ts) w Q E ↔ Q () { w with
      db := { w.db with exportTargets := markTarget Server.plain id ts w.db.exportTargets } } := by
  refine meets_statement_calm hw ?_
  show (updateWhere _ (fun r => some { r with lastExportTs := ts }) w.db.exportTargets).bind _ = _
  rw [updateWhere_some]
  rfl

/-! ## A webhook that takes every body -/

def hookConfig : String := "\x7b\"batch\":200000,\"url\":\"http://h/\"\x7d"

def hookDeps : Deps :=
  Deps.plain [(hookConfig, .obj [("batch", .int 200000), ("url", .str "http://h/")])]

def hookTarget : ExportTargetRow :=
  { id := "T", sensorId := "S", target := "webhook", config := hookConfig }

def hookSensor : SensorRow := { id := "S", transport := .tcp, address := "10.0.0.5:10001" }

/-- The body of a run over some readings and weather. -/
def hookBody (sensor : SensorRow) (weather : List WeatherReadingRow) (readings : List ReadingRow) :
    Json :=
  webhookBody sensor.id (webhookSensor sensor) (webhookWeather weather) readings

/-- `w` after the body was posted and answered. -/
def posted (w : World) (body : Json) (rest : List (Except String (Nat × String))) : World :=
  { w with answers := rest, effects := w.effects ++ [.post "http://h/" body (some 200)] }

section Hook

variable {w : World} {text : String} {rest : List (Except String (Nat × String))}

theorem meets_runWebhook_hook {ctx : ExportContext} (hne : ctx.readings ≠ [])
    (hlen : ctx.readings.length ≤ kMaxRows) (hanswers : w.answers = .ok (200, text) :: rest) :
    Meets (runWebhook hookDeps hookConfig ctx) w
      (fun _ w' => w' = posted w (hookBody ctx.sensor ctx.weather ctx.readings) rest)
      fun _ _ => False := by
  have hslices : slices 199999 ctx.readings = [ctx.readings] := slices_short hne hlen
  have hcfg : parseConfig hookDeps hookConfig
      = .ok (.obj [("batch", .int 200000), ("url", .str "http://h/")]) := rfl
  unfold runWebhook
  rw [hcfg]
  show Meets (do
    (slices 199999 ctx.readings).forM fun rs => postSlice "http://h/"
      (webhookBody ctx.sensor.id (webhookSensor ctx.sensor) (webhookWeather ctx.weather) rs)
    return (⟨"webhook", "http://h/", ctx.readings.length⟩ : ExportResult)) _ _ _
  rw [hslices]
  have hpost : ∀ body, postJson "http://h/" body w = .ok (200, text) (posted w body rest) := by
    intro body
    unfold postJson
    rw [hanswers]
    rfl
  rw [meets_bind]
  show Meets (postSlice "http://h/" (hookBody ctx.sensor ctx.weather ctx.readings)
    >>= fun _ => (pure PUnit.unit : Act PUnit)) w _ _
  unfold postSlice
  simp only [meets_bind, meets_tryCatch]
  unfold Meets
  rw [hpost]
  rfl

/-- A push with the database at hand. -/
theorem meets_push_hook {t : ExportTargetRow} {work : Work} {weather : List WeatherReadingRow}
    (hexp : work.exporter = .webhook hookConfig) (hne : work.fresh ≠ [])
    (hlen : work.fresh.length ≤ kMaxRows) (hfaults : w.dbFaults = [])
    (hanswers : w.answers = .ok (200, text) :: rest)
    (hambient : ask (collectAmbient hookDeps work.sensor t.lastExportTs work.now) w = .ok weather w) :
    Meets (push hookDeps t work) w
      (fun _ w' => ∃ log next, w' = logged
        (posted w (hookBody work.sensor weather work.fresh.reverse) rest) log next [])
      fun _ _ => False := by
  unfold push
  rw [hexp]
  show Meets (ask (collectAmbient hookDeps work.sensor t.lastExportTs work.now) >>= _) w _ _
  rw [meets_bind]
  unfold Meets
  rw [hambient]
  show Meets (pushAndLog hookDeps t.id (.webhook hookConfig) _ >>= _) w _ _
  simp only [meets_bind, pushAndLog, meets_tryCatch, IExporter.run]
  refine (meets_runWebhook_hook (by simpa using hne) (by simpa using hlen) hanswers).mono
    (fun res w₁ h₁ => ?_) fun _ _ h => h.elim
  subst h₁
  exact meets_insertExportLog_plain rfl hfaults fun a log next => ⟨log, next, rfl⟩

theorem freshOf_length (d : Deps) (db : Db) (now : Int) (t : ExportTargetRow) :
    (freshOf d db now t).length ≤ kMaxRows := by
  have hwindow : (windowRows d.server db t.sensorId t.lastExportTs (fmtSqlUtc now) kMaxRows).length
      ≤ kMaxRows := by
    unfold windowRows
    rw [clampLimit_kMaxRows, List.length_take]
    exact Nat.min_le_left _ _
  unfold freshOf freshReadings
  split
  · exact hwindow
  · exact le_trans (List.length_filter_le _ _) hwindow

/-- A run with something fresh posts it in one body and moves the watermark. -/
theorem meets_runExport_hook {t : ExportTargetRow} {sensor : SensorRow}
    {weather : List WeatherReadingRow} (ht : t.target = "webhook") (hconfig : t.config = hookConfig)
    (hsensor : w.db.sensors.find? (fun r => hookDeps.server.same r.id t.sensorId) = some sensor)
    (hne : freshOf hookDeps w.db w.now t ≠ []) (hfaults : w.dbFaults = [])
    (hanswers : w.answers = .ok (200, text) :: rest)
    (hambient : ask (collectAmbient hookDeps sensor t.lastExportTs (fmtSqlUtc w.now)) w
      = .ok weather w) :
    Meets (runExport hookDeps t) w
      (fun _ w' => ∃ log next, w' =
        { logged (posted w (hookBody sensor weather (freshOf hookDeps w.db w.now t).reverse) rest)
            log next [] with
          db := { w.db with
            exportTargets := markTarget hookDeps.server t.id
              (newestTs (freshOf hookDeps w.db w.now t)) w.db.exportTargets
            exportLog := log, next } })
      fun _ _ => False := by
  have hexp : makeExporter hookDeps t.target t.config = .ok (.webhook hookConfig) := by
    rw [ht, hconfig]
    rfl
  rw [runExport_steps, meets_bind]
  refine (meets_queryFresh_calm hfaults hne hsensor hexp).mpr ?_
  show Meets (push hookDeps t _ >>= _) w _ _
  rw [meets_bind]
  refine (meets_push_hook rfl hne (freshOf_length _ _ _ _) hfaults hanswers hambient).mono
    (fun res w₁ h₁ => ?_) fun _ _ h => h.elim
  obtain ⟨log, next, rfl⟩ := h₁
  rw [meets_bind]
  exact (meets_mark_plain rfl).mpr ⟨log, next, rfl⟩

end Hook

end NightWatcher.Exporter
