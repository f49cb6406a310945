import NightWatcher.Api.Sensors
import NightWatcher.Export.Runner
import NightWatcher.Weather.Provider

/-!
# Handlers: weather stations and export targets

The two tables with a config. The handlers of export targets ask for a reload as
soon as the row is written, before they read it back; those of weather stations
ask for none.
-/

namespace NightWatcher.Api

open Database Weather Exporter

variable (d : Deps) (cfg : ApiConfig)

/-- The config of a body that creates a row: an object, or none. -/
def givenConfig (body : Json) : Option String :=
  match body.member? "config" with
  | some (.obj ms) => some (d.json.dump (.obj ms))
  | _ => none

/-! ## Weather stations -/

/-- `GET /weather-stations` -/
def listWeatherStations : Act Response := dbRead do
  return send 200 (.arr ((← weatherStations d.server).map (weatherStationJson d)))

/-- `GET /weather-stations/{id}` -/
def getWeatherStation (id : String) : Act Response := dbRead do
  match ← findWeatherStation d.server id with
  | none => return sendErr 404 "no such weather station"
  | some w => return send 200 (weatherStationJson d w)

/-- `GET /weather-stations/{id}/readings` -/
def weatherStationReadings (req : Request) (id : String) : Act Response := dbRead do
  let rows ← weatherReadingsBetween d.server id (req.paramOr "from" "") (req.paramOr "to" "")
    (req.limitOr 100)
  return send 200 (.arr (rows.map fun r => Json.ofMembers (weatherReadingMembers r)))

/-- `POST /weather-stations` -/
def postWeatherStation (req : Request) : Act Response :=
  adminOnly d cfg req <| withBody d req fun body => do
    if !body.contains "id" then
      return sendErr 400 "missing 'id'"
    orError 500 do
      ask connect
      let id ← getMember body "id" Json.getString
      let f ← liftExcept (wxFieldsFromJson body)
      upsertWeatherStation d.server id { f with config := givenConfig d body }
      let w ← ask (findWeatherStation d.server id)
      return send 201 ((w.map (weatherStationJson d)).getD (Json.ofMembers [("id", .str id)]))

/-- `PATCH /weather-stations/{id}` -/
def patchWeatherStation (req : Request) (id : String) : Act Response :=
  adminOnly d cfg req <| withBody d req fun body => orError 500 do
    ask connect
    let f ← liftExcept (wxFieldsFromJson body)
    let missing := sendErr 404 "no such weather station"
    let update := fun (f : WeatherStationFields) => do
      if !(← updateWeatherStation d.server id f) then
        return missing
      let w ← ask (findWeatherStation d.server id)
      return send 200 ((w.map (weatherStationJson d)).getD (.obj []))
    match body.member? "config" with
    | none => update f
    | some incoming =>
      match ← ask (findWeatherStation d.server id) with
      | none => return missing
      | some existing => update { f with config := some (mergeConfig d existing.config incoming) }

/-- `DELETE /weather-stations/{id}` -/
def deleteWeatherStation (req : Request) (id : String) : Act Response :=
  adminOnly d cfg req <| orError 500 do
    ask connect
    removeWeatherStation d.server id
    return send 200 (Json.ofMembers [("deleted", .str id)])

/-- `POST /weather-stations/{id}/poll` -/
def pollWeatherStation (req : Request) (id : String) : Act Response :=
  adminOnly d cfg req <| orError 502 do
    ask connect
    match ← ask (findWeatherStation d.server id) with
    | none => return sendErr 404 "no such weather station"
    | some w =>
      if w.provider = "" then
        return sendErr 400 "no provider configured"
      let provider ← liftExcept (makeProvider d w.provider w.config)
      let r ← provider.fetch
      let r := { r with stationId := w.id }
      let stored ← insertWeatherReading d.server r
      return send 200 (Json.ofMembers (weatherReadingMembers r ++ [("stored_id", .int stored)]))

/-! ## Export targets -/

/-- `GET /export-targets` -/
def listExportTargets : Act Response := dbRead do
  return send 200 (.arr ((← exportTargets d.server).map (exportTargetJson d)))

/-- `GET /export-targets/{id}` -/
def getExportTarget (id : String) : Act Response := dbRead do
  match ← findExportTarget d.server id with
  | none => return sendErr 404 "no such export target"
  | some t => return send 200 (exportTargetJson d t)

/-- `GET /export-targets/{id}/log` -/
def exportTargetLog (req : Request) (id : String) : Act Response := dbRead do
  return send 200 (.arr ((← exportLog d.server id (req.limitOr 50)).map exportLogJson))

/-- `POST /export-targets` -/
def postExportTarget (req : Request) : Act Response :=
  adminOnly d cfg req <| withBody d req fun body => do
    if !body.contains "id" then
      return sendErr 400 "missing 'id'"
    orError 500 do
      ask connect
      let id ← getMember body "id" Json.getString
      let f ← liftExcept (exportFieldsFromJson body)
      if f.sensorId.isNone then
        return sendErr 400 "missing 'sensor_id'"
      if f.target.isNone then
        return sendErr 400 "missing 'target'"
      upsertExportTarget d.server id { f with config := givenConfig d body }
      reload cfg
      let t ← ask (findExportTarget d.server id)
      return send 201 ((t.map (exportTargetJson d)).getD (Json.ofMembers [("id", .str id)]))

/-- `PATCH /export-targets/{id}` -/
def patchExportTarget (req : Request) (id : String) : Act Response :=
  adminOnly d cfg req <| withBody d req fun body => orError 500 do
    ask connect
    let f ← liftExcept (exportFieldsFromJson body)
    let missing := sendErr 404 "no such export target"
    let update := fun (f : ExportTargetFields) => do
      if !(← updateExportTarget d.server id f) then
        return missing
      reload cfg
      let t ← ask (findExportTarget d.server id)
      return send 200 ((t.map (exportTargetJson d)).getD (.obj []))
    match body.member? "config" with
    | none => update f
    | some incoming =>
      match ← ask (findExportTarget d.server id) with
      | none => return missing
      | some existing => update { f with config := some (mergeConfig d existing.config incoming) }

/-- `DELETE /export-targets/{id}` -/
def deleteExportTarget (req : Request) (id : String) : Act Response :=
  adminOnly d cfg req <| orError 500 do
    ask connect
    removeExportTarget d.server id
    reload cfg
    return send 200 (Json.ofMembers [("deleted", .str id)])

/-- `POST /export-targets/{id}/run` -/
def runExportTarget (req : Request) (id : String) : Act Response :=
  adminOnly d cfg req <| orError 502 do
    ask connect
    match ← ask (findExportTarget d.server id) with
    | none => return sendErr 404 "no such export target"
    | some t =>
      let r ← runExport d t
      return send 200 (Json.ofMembers [("files", .int r.files), ("rows", .int r.rows),
        ("last_ts", .str r.lastTs), ("file_names", .arr (r.fileNames.map Json.str))])

end NightWatcher.Api
