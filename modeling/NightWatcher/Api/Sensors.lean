import NightWatcher.Api.Site
import NightWatcher.Export.DsnFormat

/-!
# Handlers: sensors and their calibration

Every writing handler starts with `require_auth(…, true)` (`adminOnly`). A
handler that changes what is polled asks the main loop to reload its device
lists (`reload`); which ones do, and when, is read off the source here.
-/

namespace NightWatcher.Api

open Database Sqm Exporter

variable (d : Deps) (cfg : ApiConfig)

/-- `if (on_reload) on_reload();` -/
def reload : Act Unit := if cfg.onReload then logEffect .reload else pure ()

/-! ## Reading -/

/-- `GET /sensors` -/
def listSensors : Act Response := dbRead do
  return send 200 (.arr ((← sensors d.server).map sensorJson))

/-- `GET /sensors/{id}` -/
def getSensor (id : String) : Act Response := dbRead do
  match ← findSensor d.server id with
  | none => return sendErr 404 "no such sensor"
  | some s => return send 200 (sensorJson s)

/-- `GET /sensors/{id}/readings` -/
def sensorReadings (req : Request) (id : String) : Act Response := dbRead do
  let rows ← readingsBetween d.server id (req.paramOr "from" "") (req.paramOr "to" "")
    (req.limitOr 100)
  return send 200 (.arr (rows.map readingRowJson))

/-- `GET /sensors/{id}/dsn` -/
def sensorDsn (req : Request) (id : String) : Act Response := dbRead do
  let lo := req.paramOr "from" ""
  let hi := req.paramOr "to" ""
  match ← findSensor d.server id with
  | none => return sendErr 404 "no such sensor"
  | some sensor =>
    let rows ← readingsBetween d.server id lo hi 500000
    -- the config of the sensor's first DSN target, if it has one
    let targets ← exportTargets d.server
    let config := ((targets.find? fun t => t.target = "dsn" ∧ t.sensorId = id).map
      ExportTargetRow.config).getD ""
    let ctx : ExportContext := { sensor, readings := rows.reverse, fromTs := lo, toTs := hi }
    match formatDsnDat d ctx config with
    | .error e => throw e
    | .ok content =>
      return { status := 200, content := .text "text/plain" content,
               headers := [("Content-Disposition", "attachment; filename=\""
                 ++ dsnDownloadName d id config lo hi ++ "\"")] }

/-! ## Writing -/

/-- `POST /sensors` -/
def postSensor (req : Request) : Act Response :=
  adminOnly d cfg req <| withBody d req fun body => do
    if !body.contains "id" then
      return sendErr 400 "missing 'id'"
    let id ← getMember body "id" Json.getString
    let f ← liftExcept (sensorFieldsFromJson body)
    let f := { f with status := f.status.orElse fun _ => some "inactive" }
    if f.transport.isNone || f.address.isNone then
      return sendErr 400 "missing transport/address (or 'tcp')"
    let probe ← if body.contains "probe" then getMember body "probe" Json.getBool else pure true
    let f ← if probe then probeFill d f else pure f
    orError 500 do
      ask connect
      upsertSensor d.server id f
      let s ← ask (findSensor d.server id)
      return send 201 ((s.map sensorJson).getD (Json.ofMembers [("id", .str id)]))

/-- Update a sensor and serve it; `false` where the handler ends early. -/
def updateAndServe (id : String) (f : Except String SensorFields) : Act (Response × Bool) :=
  tryCatch (do
    ask connect
    if !(← updateSensor d.server id (← liftExcept f)) then
      return (sendErr 404 "no such sensor", false)
    let s ← ask (findSensor d.server id)
    return (send 200 ((s.map sensorJson).getD (.obj [])), true))
    fun e => pure (sendErr 500 e, false)

/-- The members of a sensor edit that reach the running daemon. -/
def pollingKeys : List String := ["poll_interval_s", "transport", "address", "status"]

/-- `PATCH /sensors/{id}` -/
def patchSensor (req : Request) (id : String) : Act Response :=
  adminOnly d cfg req <| withBody d req fun body => do
    let (res, done) ← updateAndServe d id (sensorFieldsFromJson body)
    if done && pollingKeys.any body.contains then
      reload cfg
    return res

/-- `POST /sensors/{id}/enable` and `/disable` -/
def setStatus (req : Request) (id status : String) : Act Response := adminOnly d cfg req do
  let (res, done) ← updateAndServe d id (.ok { status := some status })
  if done then
    reload cfg
  return res

/-- `DELETE /sensors/{id}` -/
def deleteSensor (req : Request) (id : String) : Act Response := adminOnly d cfg req do
  let (res, done) ← tryCatch (do
    ask connect
    removeSensor d.server id
    return (send 200 (Json.ofMembers [("deleted", .str id)]), true))
    fun e => pure (sendErr 500 e, false)
  if done then
    reload cfg
  return res

/-- `DELETE /sensors/{id}/readings` -/
def deleteReadings (req : Request) (id : String) : Act Response := adminOnly d cfg req do
  if !req.hasParam "before" then
    return sendErr 400 "missing 'before' (YYYY-MM-DD[ HH:MM:SS])"
  orError 500 do
    ask connect
    let n ← deleteReadingsBefore d.server id (req.param "before")
    return send 200 (Json.ofMembers [("deleted", .int n)])

def qualityOf (r : Reading) : Quality := if r.magArcsec2 ≤ 0 then .saturated else .ok

/-- `POST /sensors/{id}/poll` -/
def pollSensor (req : Request) (id : String) : Act Response :=
  adminOnly d cfg req <| orError 502 do
    ask connect
    match ← ask (findSensor d.server id) with
    | none => return sendErr 404 "no such sensor"
    | some s =>
      let dev ← openDevice (SqlEnum.text s.transport) s.address
      let r ← dev.readAveraged d
      let stored ← insertReading d.server s.id r "" .poll (qualityOf r)
      return send 200 (Json.ofMembers [("stored_id", .int stored), ("mag_arcsec2", .dbl r.magArcsec2),
        ("temp_c", .dbl r.tempC), ("quality", jEnum (qualityOf r)), ("raw", .str r.raw)])

/-- One line of a self-test: what the device said, or that it failed. -/
def check (name : String) (x : Act (List (String × Json))) : Act (Json × Bool) :=
  tryCatch (do
    return (Json.ofMembers ([("name", .str name), ("ok", .bool true)] ++ (← x)), true))
    fun e => pure
      (Json.ofMembers [("name", .str name), ("ok", .bool false), ("detail", .str e)], false)

/-- `POST /sensors/{id}/test` -/
def testSensor (req : Request) (id : String) : Act Response := adminOnly d cfg req do
  let found ← tryCatch (do
    ask connect
    return Except.ok (← ask (findSensor d.server id))) fun e => pure (.error e)
  match found with
  | .error e => return sendErr 500 e
  | .ok none => return sendErr 404 "no such sensor"
  | .ok (some s) =>
    let report := fun (ok : Bool) (checks : List Json) => send 200 (Json.ofMembers
      [("id", .str s.id), ("address", .str s.address), ("ok", .bool ok), ("checks", .arr checks)])
    let opened ← tryCatch (Except.ok <$> openDevice (SqlEnum.text s.transport) s.address)
      fun e => pure (.error e)
    match opened with
    | .error e =>
      return report false
        [Json.ofMembers [("name", .str "connect"), ("ok", .bool false), ("detail", .str e)]]
    | .ok dev =>
      let connected := Json.ofMembers [("name", .str "connect"), ("ok", .bool true),
        ("detail", .str (SqlEnum.text s.transport ++ " " ++ s.address))]
      let (identify, ok₁) ← check "identify" do
        let u ← dev.info d
        return [("protocol", .int u.protocol), ("model", .int u.model), ("feature", .int u.feature),
            ("serial", .str u.serial), ("raw", .str u.raw)]
          ++ (if s.serialNumber = "" then [] else [("serial_match", .bool (u.serial = s.serialNumber))])
      let (reading, ok₂) ← check "reading" do
        let r ← dev.readAveraged d
        return [("mag_arcsec2", .dbl r.magArcsec2), ("freq_hz", .int r.freqHz),
          ("temp_c", .dbl r.tempC), ("quality", jEnum (qualityOf r)), ("raw", .str r.raw)]
      let (calibration, ok₃) ← check "calibration" do
        return (calJson (← dev.calibration d)).members
      return report (ok₁ && ok₂ && ok₃) [connected, identify, reading, calibration]

/-! ## Calibration -/

/-- Find a sensor, open it, and go on; failures are answered with 502. -/
def withDevice (id : String) (k : SensorRow → SqmDevice → Act Response) : Act Response :=
  orError 502 do
    ask connect
    match ← ask (findSensor d.server id) with
    | none => return sendErr 404 "no such sensor"
    | some s => k s (← openDevice (SqlEnum.text s.transport) s.address)

/-- `GET /sensors/{id}/calibration` -/
def getCalibration (id : String) : Act Response := withDevice d id fun _ dev => do
  return send 200 (calJson (← dev.calibration d))

/-- `GET /sensors/{id}/calibration/history` -/
def calibrationHistory (req : Request) (id : String) : Act Response := dbRead do
  return send 200 (.arr ((← configLog d.server id (req.limitOr 50)).map configLogJson))

/-- `POST /sensors/{id}/calibration/record` -/
def recordCalibration (req : Request) (id : String) : Act Response :=
  adminOnly d cfg req <| withDevice d id fun s dev => do
    let c ← dev.calibration d
    insertCalibration d.server s.id c "" .calibration (← authUser d cfg req) "recorded snapshot"
    return send 200 (calJson c)

/-- `POST /sensors/{id}/calibration/arm` -/
def armCalibration (req : Request) (id : String) : Act Response :=
  adminOnly d cfg req <| withBody d req fun body => do
    let mode ← liftExcept (body.valueOr "mode" Json.getString "")
    if mode ≠ "light" ∧ mode ≠ "dark" then
      return sendErr 400 "mode must be 'light' or 'dark'"
    withDevice d id fun s dev => do
      let st ← if mode = "light" then dev.armLightCalibration d else dev.armDarkCalibration d
      insertEvent d.server "sqm" .info "calibration_arm" mode s.id
      return send 200 (calStatusJson st)

/-- `POST /sensors/{id}/calibration/disarm` -/
def disarmCalibration (req : Request) (id : String) : Act Response :=
  adminOnly d cfg req <| withDevice d id fun _ dev => do
    return send 200 (calStatusJson (← dev.disarmCalibration d))

/-- The values that can be set, in the order they are written. -/
def calibrationSetters : List (String × (SqmDevice → ℚ → Act CalSetEcho)) :=
  [("light_offset", SqmDevice.setLightOffset d), ("light_temp", SqmDevice.setLightTemp d),
   ("dark_period", SqmDevice.setDarkPeriod d), ("dark_temp", SqmDevice.setDarkTemp d)]

/-- Write one value if the body has it as a number, and note that. -/
def applySetter (body : Json) (dev : SqmDevice)
    (setter : String × (SqmDevice → ℚ → Act CalSetEcho)) : Act String := do
  match body.member? setter.1 with
  | some v =>
    if v.isNumber then
      let _ ← setter.2 dev (← liftExcept v.getDouble)
      return " " ++ setter.1
    return ""
  | none => return ""

/-- `POST /sensors/{id}/calibration/set` -/
def setCalibration (req : Request) (id : String) : Act Response :=
  adminOnly d cfg req <| withBody d req fun body => withDevice d id fun s dev => do
    let notes ← (calibrationSetters d).mapM (applySetter body dev)
    let note := "manual set:" ++ String.join notes
    if note = "manual set:" then
      return sendErr 400 "no calibration fields to set"
    let c ← dev.calibration d
    insertCalibration d.server s.id c "" .configChange (← authUser d cfg req) note
    return send 200 (calJson c)

end NightWatcher.Api
