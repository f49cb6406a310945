import NightWatcher.Db.Database
import NightWatcher.Export.Exporter

/-!
# `export_runner.cpp`: one run of an export target

`runExport` reads what is newer than the target's watermark, hands it to the
exporter, and moves the watermark only after everything was pushed and logged.
An incremental exporter gets the fresh readings themselves; a monthly one gets
each local month a fresh reading falls in, whole.

Anything thrown on the way leaves the routine before the watermark is written.
-/

namespace NightWatcher.Exporter

open TimeUtil Database

variable (d : Deps)

/-- Rows a query may return. -/
def kMaxRows : Nat := 200000

structure ExportRunResult where
  files : Nat := 0
  rows : Nat := 0
  fileNames : List String := []
  lastTs : String := ""

/-- The weather of the window, from the station that shares the sensor's site or
else from the only active one. -/
def collectAmbient (sensor : SensorRow) (lo hi : String) : Query (List WeatherReadingRow) := do
  let bySite ←
    if sensor.site = "" then pure none
    else do
      let stations ← weatherStations d.server
      pure (stations.find? fun w => w.site = sensor.site)
  let stationId ←
    match bySite.map WeatherStationRow.id with
    | some id => if id ≠ "" then pure id else soleActive
    | none => soleActive
  if stationId = "" then
    return []
  weatherReadingsBetween d.server stationId lo hi kMaxRows
where
  soleActive : Query String := do
    match ← activeWeatherStations d.server with
    | [w] => pure w.id
    | _ => pure ""

/-- The zone months are cut in: any string the config names, else the sensor's. -/
def exportTimezone (sensor : SensorRow) (config : String) : String :=
  if config = "" then sensor.timezone
  else
    match d.json.parse config with
    | none => sensor.timezone
    | some cfg =>
      match cfg.member? "timezone" with
      | some (.str tz) => tz
      | _ => sensor.timezone

/-- What is newer than the watermark. -/
def freshReadings (watermark : String) (rows : List ReadingRow) : List ReadingRow :=
  if watermark = "" then rows else rows.filter fun r => !decide (r.tsUtc ≤ watermark)

/-- The greatest timestamp. -/
def newestTs (rows : List ReadingRow) : String :=
  rows.foldl (fun newest r => if newest < r.tsUtc then r.tsUtc else newest) ""

/-- Log a failed push, as far as that works, and rethrow. -/
def logFailure {α : Type} (log : ExportLogRow) (e : String) : Act α := do
  try
    let _ ← insertExportLog d.server { log with status := .error, detail := e }
  catch _ => pure ()
  throw e

/-- Run the exporter on a window and log the outcome. -/
def pushAndLog (targetId : String) (exporter : IExporter) (ctx : ExportContext) :
    Act ExportResult := do
  let log : ExportLogRow := { targetId, fromTs := ctx.fromTs, toTs := ctx.toTs }
  let res ← try exporter.run d ctx catch e => logFailure d log e
  let log := { log with
    rowCount := res.rowCount
    fileName := res.fileName
    remoteId := res.remoteId
    status := if 0 < res.rowCount then .ok else .empty }
  try
    let _ ← insertExportLog d.server log
  catch e => logFailure d log e
  return res

/-- Push the fresh readings, once, oldest first. -/
def runIncremental (t : ExportTargetRow) (sensor : SensorRow) (exporter : IExporter)
    (fresh : List ReadingRow) (now : String) : Act ExportRunResult := do
  let weather ← ask (collectAmbient d sensor t.lastExportTs now)
  let ctx : ExportContext :=
    { sensor, readings := fresh.reverse, weather, fromTs := t.lastExportTs, toTs := now }
  let res ← pushAndLog d t.id exporter ctx
  setExportWatermark d.server t.id (newestTs fresh)
  return { files := 1, rows := res.rowCount, fileNames := [res.fileName],
           lastTs := newestTs fresh }

/-- The distinct local months of some readings, in order. -/
def affectedMonths (tz : String) (fresh : List ReadingRow) : List String :=
  ((fresh.map fun r => localYm d.zones r.tsUtc tz).dedup).mergeSort fun a b => decide (a ≤ b)

/-- Rebuild one local month in full. -/
def rebuildMonth (t : ExportTargetRow) (sensor : SensorRow) (exporter : IExporter) (tz : String)
    (fresh : List ReadingRow) (ym : String) : Act ExportResult := do
  let ref := ((fresh.find? fun r => localYm d.zones r.tsUtc tz = ym).map ReadingRow.tsUtc).getD ""
  let (fromUtc, toUtc) := localMonthBoundsUtc d.zones ref tz
  let rows ← ask (readingsBetween d.server t.sensorId fromUtc toUtc kMaxRows)
  pushAndLog d t.id exporter
    { sensor, readings := rows.reverse, fromTs := fromUtc, toTs := toUtc }

/-- Rebuild each month a fresh reading falls in. -/
def runMonthly (t : ExportTargetRow) (sensor : SensorRow) (exporter : IExporter) (tz : String)
    (fresh : List ReadingRow) : Act ExportRunResult := do
  let results ← (affectedMonths d tz fresh).mapM (rebuildMonth d t sensor exporter tz fresh)
  setExportWatermark d.server t.id (newestTs fresh)
  return { files := results.length
           rows := (results.map ExportResult.rowCount).sum
           fileNames := results.map ExportResult.fileName
           lastTs := newestTs fresh }

def runExport (t : ExportTargetRow) : Act ExportRunResult := do
  match ← ask (findSensor d.server t.sensorId) with
  | none => throw ("export target " ++ t.id ++ ": no such sensor '" ++ t.sensorId ++ "'")
  | some sensor =>
    let tz := exportTimezone d sensor t.config
    let now := fmtSqlUtc (← get).now
    let rows ← ask (readingsBetween d.server t.sensorId t.lastExportTs now kMaxRows)
    let fresh := freshReadings t.lastExportTs rows
    if fresh = [] then
      return {}
    let exporter ← liftExcept (makeExporter d t.target t.config)
    match exporter.windowing with
    | .incremental => runIncremental d t sensor exporter fresh now
    | .monthly => runMonthly d t sensor exporter tz fresh

end NightWatcher.Exporter
