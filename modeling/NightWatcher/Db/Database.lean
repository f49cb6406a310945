import NightWatcher.Lib.Rounding
import NightWatcher.Lib.TextLines
import NightWatcher.World

/-!
# `database.cpp`: the methods of `Database`

Each method is the statements it sends, in order. A SELECT reads the tables as
they are when it runs; INSERT, UPDATE and DELETE are refused as a whole when the
server refuses one of their values, so a method that throws on a statement leaves
the tables as the previous statement left them.

Keys and names are compared by the schema's collation (`Server.same`), also in
foreign keys. A number enters a statement as the text the code prints:
`std::to_string` has six decimals, an `ostream` six significant digits.
-/

namespace NightWatcher.Database

open Rounding TextLines Throwing TimeUtil

variable (srv : Server)

/-! ## Rows and columns -/

section Columns

variable {ρ : Type}

/-- `UPDATE … SET … WHERE p`; `none` from an assignment refuses the statement. -/
def updateWhere (p : ρ → Bool) (assign : ρ → Option ρ) : List ρ → Option (List ρ)
  | [] => some []
  | r :: rest => do
    let r' ← if p r then assign r else some r
    let rest' ← updateWhere p assign rest
    return r' :: rest'

/-- Assignments that all go through change the rows they are for. -/
theorem updateWhere_some (p : ρ → Bool) (g : ρ → ρ) (rows : List ρ) :
    updateWhere p (fun r => some (g r)) rows = some (rows.map fun r => if p r then g r else r) := by
  induction rows with
  | nil => rfl
  | cons r rows ih =>
    unfold updateWhere
    rw [ih]
    by_cases hp : p r = true
    · simp [hp]
    · simp [hp]

/-- `INSERT … ON DUPLICATE KEY UPDATE` of the given columns, `p` being the key.
Without a given column there is no update clause and a duplicate is an error. -/
def upsertRow (p : ρ → Bool) (fresh : ρ) (noUpdates : Bool) (assign : ρ → Option ρ)
    (rows : List ρ) : Option (List ρ) :=
  if rows.any p then
    if noUpdates then none else updateWhere p assign rows
  else
    (assign fresh).map fun r => rows ++ [r]

/-- A text column takes what is given, and keeps its value without. -/
def setText (ty : ColumnType) (given : Option String) (old : String) : Option String :=
  match given with
  | none => some old
  | some s => srv.storeText ty s

/-- So does an ENUM column. -/
def setEnum {α : Type} [SqlEnum α] (given : Option String) (old : α) : Option α :=
  match given with
  | none => some old
  | some s => srv.storeEnum α s

/-- A DECIMAL column given a `double`. -/
def setDecimal (precision scale : Nat) (given : Option ℚ) (old : Option ℚ) : Option (Option ℚ) :=
  match given with
  | none => some old
  | some q => (srv.storeNum (.decimal precision scale) (toDecimals 6 q)).map some

/-- A DATETIME column given a text, the empty text being NULL. -/
def datetimeOrNull (s : String) : Option String := if s = "" then some "" else srv.datetime s

/-- A nullable text column given a text, the empty text being NULL. -/
def textOrNull (ty : ColumnType) (s : String) : Option String :=
  if s = "" then some "" else srv.storeText ty s

/-- `ts_utc` given as text, the empty text being `UTC_TIMESTAMP()`. -/
def timestampOrNow (now : Int) (s : String) : Option String :=
  if s = "" then some (fmtSqlUtc now) else srv.datetime s

/-- A column value printed by an `ostream`. -/
def streamDecimal (precision scale : Nat) (q : ℚ) : Option ℚ :=
  srv.storeNum (.decimal precision scale) (toSignificant 6 q)

/-- The bounds `ts >= from AND ts <= to`, an empty text being no bound; no
timestamp compares with a text that is none. -/
def tsBetween (lo hi ts : String) : Bool :=
  (lo = "" || (srv.datetime lo).any (fun d => decide (d ≤ ts))) &&
    (hi = "" || (srv.datetime hi).any (fun d => decide (ts ≤ d)))

/-- `ORDER BY ts_utc DESC, id DESC`, as a comparison. -/
def newerFirst (ts : ρ → String) (id : ρ → Nat) (a b : ρ) : Bool :=
  decide (ts b < ts a) || decide (ts a = ts b) && decide (id b ≤ id a)

/-- `LIMIT`, which the code raises to 1. -/
def clampLimit (limit : Int) : Nat := if limit < 1 then 1 else limit.toNat

end Columns

/-! ## Sensors -/

/-- The columns of a sensor that a request gives. -/
def assignSensor (f : SensorFields) (r : SensorRow) : Option SensorRow := do
  let name ← setText srv (.varchar 128) f.name r.name
  let site ← setText srv (.varchar 64) f.site r.site
  let serialNumber ← setText srv (.varchar 16) f.serialNumber r.serialNumber
  let model ← setText srv (.varchar 32) f.model r.model
  let latitude ← setDecimal srv 9 6 f.latitude r.latitude
  let longitude ← setDecimal srv 9 6 f.longitude r.longitude
  let elevationM ← setDecimal srv 7 1 f.elevationM r.elevationM
  let timezone ← setText srv (.varchar 64) f.timezone r.timezone
  let transport ← setEnum srv f.transport r.transport
  let address ← setText srv (.varchar 128) f.address r.address
  let status ← setEnum srv f.status r.status
  let installedAt ← setText srv .date f.installedAt r.installedAt
  let notes ← setText srv .text f.notes r.notes
  return { r with
    name, site, serialNumber, model, latitude, longitude, elevationM, timezone, transport,
    address, status, installedAt, notes
    protocolVer := f.protocolVer <|> r.protocolVer
    featureVer := f.featureVer <|> r.featureVer
    pollIntervalS := f.pollIntervalS.getD r.pollIntervalS }

/-- `address` has no default, so a statement without it is refused before any
key is looked at; `transport`, an ENUM, starts as its first label. -/
def upsertSensor (id : String) (f : SensorFields) : Act Unit := statement fun s => do
  guard f.address.isSome
  let id' ← srv.storeText (.varchar 32) id
  let fresh : SensorRow :=
    { id := id', transport := .tcp, address := "", createdAt := srv.currentTimestamp s.now }
  let rows ← upsertRow (fun r => srv.same r.id id') fresh (decide (f = {})) (assignSensor srv f)
    s.db.sensors
  return ((), { s.db with sensors := rows })

/-- `sensors` -/
def sensors : Query (List SensorRow) := select fun s => srv.orderBy SensorRow.id s.db.sensors

/-- `find_sensor` -/
def findSensor (id : String) : Query (Option SensorRow) :=
  select fun s => s.db.sensors.find? fun r => srv.same r.id id

/-- `update_sensor` -/
def updateSensor (id : String) (f : SensorFields) : Act Bool := do
  if (← ask (findSensor srv id)).isNone then
    return false
  if f = {} then
    return true
  statement fun s => do
    let rows ← updateWhere (fun r => srv.same r.id id) (assignSensor srv f) s.db.sensors
    return ((), { s.db with sensors := rows })
  return true

/-- The rows that reference a deleted sensor go with it. -/
def removeSensor (id : String) : Act Unit := statement fun s =>
  some ((), { s.db with
    sensors := s.db.sensors.filter fun r => !srv.same r.id id
    readings := s.db.readings.filter fun r => !srv.same r.sensorId id
    configLog := s.db.configLog.filter fun r => !srv.same r.sensorId id
    exportTargets := s.db.exportTargets.filter fun r => !srv.same r.sensorId id })

/-- `active_sensors` -/
def activeSensors : Query (List SensorRow) :=
  select fun s => srv.orderBy SensorRow.id (s.db.sensors.filter fun r => r.status = .active)

/-! ## Events -/

/-- `insert_event` -/
def insertEvent (source : String) (level : Level) (event detail deviceId : String) : Act Unit :=
  statement fun s => do
    let source ← srv.storeText (.varchar 32) source
    let event ← srv.storeText (.varchar 64) event
    let deviceId ← textOrNull srv (.varchar 32) deviceId
    let detail ← textOrNull srv .text detail
    let row : EventRow :=
      { id := s.db.next.events, tsUtc := fmtSqlUtc s.now, source, level, event, deviceId, detail }
    return ((), { s.db with
      events := s.db.events ++ [row]
      next := { s.db.next with events := s.db.next.events + 1 } })

/-- `recent_events` -/
def recentEvents (limit : Int) : Query (List EventRow) :=
  select fun s => (s.db.events.mergeSort fun a b => decide (b.id ≤ a.id)).take (clampLimit limit)

/-! ## Readings -/

/-- INSERT IGNORE: a second reading of a sensor for one second, or one of an
unknown sensor, is dropped. -/
def insertReading (sensorId : String) (r : Reading) (tsUtc : String) (source : Source)
    (quality : Quality) : Act Nat := statement fun s => do
  let sensorId := srv.ignoreText (.varchar 32) sensorId
  let tsUtc := (timestampOrNow srv s.now tsUtc).getD "0000-00-00 00:00:00"
  let next := { s.db.next with readings := s.db.next.readings + 1 }
  let dropped := s.db.readings.any (fun x => srv.same x.sensorId sensorId && decide (x.tsUtc = tsUtc))
    || !s.db.sensors.any fun x => srv.same x.id sensorId
  if dropped then
    return (0, { s.db with next })
  let row : ReadingRow :=
    { id := s.db.next.readings
      sensorId
      tsUtc
      magArcsec2 := srv.ignoreNum (.decimal 6 3) (toSignificant 6 r.magArcsec2)
      freqHz := r.freqHz
      periodCounts := r.periodCounts
      periodS := srv.ignoreNum (.decimal 12 3) (toSignificant 6 r.periodS)
      tempC := srv.ignoreNum (.decimal 5 1) (toSignificant 6 r.tempC)
      quality
      source
      rawLine := srv.ignoreText (.varchar 128) r.raw }
  return (row.id, { s.db with readings := s.db.readings ++ [row], next })

/-- `readings_between`: the newest ones of the window, newest first. -/
def readingsBetween (sensorId lo hi : String) (limit : Int) : Query (List ReadingRow) :=
  select fun s =>
    ((s.db.readings.filter fun r => srv.same r.sensorId sensorId && tsBetween srv lo hi r.tsUtc)
      |>.mergeSort (newerFirst ReadingRow.tsUtc ReadingRow.id)).take (clampLimit limit)

/-- `readings` -/
def readings (sensorId : String) (limit : Int) : Query (List ReadingRow) :=
  readingsBetween srv sensorId "" "" limit

/-- `delete_readings_before` -/
def deleteReadingsBefore (sensorId tsUtc : String) : Act Nat := statement fun s => do
  let bound ← srv.datetime tsUtc
  let gone := fun r : ReadingRow => srv.same r.sensorId sensorId && decide (r.tsUtc < bound)
  return ((s.db.readings.filter gone).length,
    { s.db with readings := s.db.readings.filter fun r => !gone r })

/-! ## Calibration history -/

/-- `insert_calibration` -/
def insertCalibration (sensorId : String) (c : Calibration) (tsUtc : String)
    (eventType : EventType) (changedBy note : String) : Act Unit := statement fun s => do
  let sensorId ← srv.storeText (.varchar 32) sensorId
  guard (s.db.sensors.any fun x => srv.same x.id sensorId)
  let tsUtc ← timestampOrNow srv s.now tsUtc
  let lightCalOffset ← streamDecimal srv 8 2 c.lightCalOffset
  let darkCalPeriodS ← streamDecimal srv 12 3 c.darkCalPeriodS
  let tempLightC ← streamDecimal srv 5 1 c.tempLightC
  let sensorOffset ← streamDecimal srv 8 2 c.sensorOffset
  let tempDarkC ← streamDecimal srv 5 1 c.tempDarkC
  let raw ← srv.storeText (.varchar 255) c.raw
  let changedBy ← textOrNull srv (.varchar 64) changedBy
  let note ← textOrNull srv .text note
  let row : ConfigLogRow :=
    { id := s.db.next.configLog, sensorId, tsUtc, eventType, lightCalOffset, darkCalPeriodS,
      tempLightC, sensorOffset, tempDarkC, raw, changedBy, note }
  return ((), { s.db with
    configLog := s.db.configLog ++ [row]
    next := { s.db.next with configLog := s.db.next.configLog + 1 } })

/-- `config_log` -/
def configLog (sensorId : String) (limit : Int) : Query (List ConfigLogRow) :=
  select fun s =>
    ((s.db.configLog.filter fun r => srv.same r.sensorId sensorId).mergeSort
      fun a b => decide (b.id ≤ a.id)).take (clampLimit limit)

/-! ## Weather stations -/

/-- The columns of a station that a request gives. -/
def assignWeatherStation (f : WeatherStationFields) (r : WeatherStationRow) :
    Option WeatherStationRow := do
  let name ← setText srv (.varchar 128) f.name r.name
  let site ← setText srv (.varchar 64) f.site r.site
  let model ← setText srv (.varchar 64) f.model r.model
  let provider ← setText srv (.varchar 32) f.provider r.provider
  let config ← setText srv .text f.config r.config
  let transport ← setText srv (.varchar 16) f.transport r.transport
  let address ← setText srv (.varchar 255) f.address r.address
  let latitude ← setDecimal srv 9 6 f.latitude r.latitude
  let longitude ← setDecimal srv 9 6 f.longitude r.longitude
  let elevationM ← setDecimal srv 7 1 f.elevationM r.elevationM
  let timezone ← setText srv (.varchar 64) f.timezone r.timezone
  let status ← setEnum srv f.status r.status
  let installedAt ← setText srv .date f.installedAt r.installedAt
  let notes ← setText srv .text f.notes r.notes
  return { r with
    name, site, model, provider, config, transport, address, latitude, longitude, elevationM,
    timezone, status, installedAt, notes
    pollIntervalS := f.pollIntervalS.getD r.pollIntervalS }

/-- `upsert_weather_station` -/
def upsertWeatherStation (id : String) (f : WeatherStationFields) : Act Unit :=
  statement fun s => do
    let id' ← srv.storeText (.varchar 32) id
    let fresh : WeatherStationRow := { id := id', createdAt := srv.currentTimestamp s.now }
    let rows ← upsertRow (fun r => srv.same r.id id') fresh (decide (f = {}))
      (assignWeatherStation srv f) s.db.weatherStations
    return ((), { s.db with weatherStations := rows })

/-- `weather_stations` -/
def weatherStations : Query (List WeatherStationRow) :=
  select fun s => srv.orderBy WeatherStationRow.id s.db.weatherStations

/-- `find_weather_station` -/
def findWeatherStation (id : String) : Query (Option WeatherStationRow) :=
  select fun s => s.db.weatherStations.find? fun r => srv.same r.id id

/-- `update_weather_station` -/
def updateWeatherStation (id : String) (f : WeatherStationFields) : Act Bool := do
  if (← ask (findWeatherStation srv id)).isNone then
    return false
  if f = {} then
    return true
  statement fun s => do
    let rows ← updateWhere (fun r => srv.same r.id id) (assignWeatherStation srv f)
      s.db.weatherStations
    return ((), { s.db with weatherStations := rows })
  return true

/-- `remove_weather_station`, with its readings. -/
def removeWeatherStation (id : String) : Act Unit := statement fun s =>
  some ((), { s.db with
    weatherStations := s.db.weatherStations.filter fun r => !srv.same r.id id
    weatherReadings := s.db.weatherReadings.filter fun r => !srv.same r.stationId id })

/-- `active_weather_stations` -/
def activeWeatherStations : Query (List WeatherStationRow) :=
  select fun s =>
    srv.orderBy WeatherStationRow.id (s.db.weatherStations.filter fun r => r.status = .active)

/-- `insert_weather_reading` -/
def insertWeatherReading (r : WeatherReadingRow) : Act Nat := statement fun s => do
  let stationId := srv.ignoreText (.varchar 32) r.stationId
  let tsUtc := (timestampOrNow srv s.now r.tsUtc).getD "0000-00-00 00:00:00"
  let next := { s.db.next with weatherReadings := s.db.next.weatherReadings + 1 }
  let dropped := s.db.weatherReadings.any
      (fun x => srv.same x.stationId stationId && decide (x.tsUtc = tsUtc))
    || !s.db.weatherStations.any fun x => srv.same x.id stationId
  if dropped then
    return (0, { s.db with next })
  let dec := fun (p sc : Nat) (v : Option ℚ) =>
    v.map fun q => srv.ignoreNum (.decimal p sc) (toDecimals 6 q)
  let row : WeatherReadingRow :=
    { id := s.db.next.weatherReadings
      stationId
      tsUtc
      tempC := dec 5 1 r.tempC
      humidityPct := dec 5 1 r.humidityPct
      dewPointC := dec 5 1 r.dewPointC
      pressureHpa := dec 7 2 r.pressureHpa
      pressureAbsHpa := dec 7 2 r.pressureAbsHpa
      windSpeedMs := dec 6 2 r.windSpeedMs
      windGustMs := dec 6 2 r.windGustMs
      windDirDeg := r.windDirDeg.map fun i => ⌊srv.ignoreNum .smallint i⌋
      rainRateMmh := dec 6 2 r.rainRateMmh
      rainDailyMm := dec 7 2 r.rainDailyMm
      uvIndex := dec 4 1 r.uvIndex
      solarWm2 := dec 7 1 r.solarWm2
      cloudCoverPct := dec 5 1 r.cloudCoverPct
      source := srv.ignoreText (.varchar 32) (if r.source = "" then "poll" else r.source)
      raw := if r.raw = "" then "" else srv.ignoreText .text r.raw }
  return (row.id, { s.db with weatherReadings := s.db.weatherReadings ++ [row], next })

/-- `weather_readings_between` -/
def weatherReadingsBetween (stationId lo hi : String) (limit : Int) :
    Query (List WeatherReadingRow) :=
  select fun s =>
    ((s.db.weatherReadings.filter fun r =>
        srv.same r.stationId stationId && tsBetween srv lo hi r.tsUtc)
      |>.mergeSort (newerFirst WeatherReadingRow.tsUtc WeatherReadingRow.id)).take
        (clampLimit limit)

/-- `weather_readings` -/
def weatherReadings (stationId : String) (limit : Int) : Query (List WeatherReadingRow) :=
  weatherReadingsBetween srv stationId "" "" limit

/-! ## Export targets -/

/-- The columns of a target that a request gives. -/
def assignExportTarget (f : ExportTargetFields) (r : ExportTargetRow) : Option ExportTargetRow := do
  let sensorId ← setText srv (.varchar 32) f.sensorId r.sensorId
  let name ← setText srv (.varchar 128) f.name r.name
  let target ← setText srv (.varchar 32) f.target r.target
  let config ← setText srv .text f.config r.config
  let schedule ← setEnum srv f.schedule r.schedule
  let scheduleTime ← setText srv (.varchar 5) f.scheduleTime r.scheduleTime
  let status ← setEnum srv f.status r.status
  let notes ← setText srv .text f.notes r.notes
  return { r with
    sensorId, name, target, config, schedule, scheduleTime, status, notes
    intervalS := f.intervalS <|> r.intervalS
    scheduleDay := f.scheduleDay <|> r.scheduleDay }

/-- The assignment together with the foreign key on `sensor_id`. -/
def assignExportTargetChecked (db : Db) (f : ExportTargetFields) (r : ExportTargetRow) :
    Option ExportTargetRow := do
  let r' ← assignExportTarget srv f r
  guard (db.sensors.any fun x => srv.same x.id r'.sensorId)
  return r'

/-- `sensor_id` and `target` have no default. -/
def upsertExportTarget (id : String) (f : ExportTargetFields) : Act Unit := statement fun s => do
  guard (f.sensorId.isSome && f.target.isSome)
  let id' ← srv.storeText (.varchar 32) id
  let fresh : ExportTargetRow :=
    { id := id', sensorId := "", target := "", createdAt := srv.currentTimestamp s.now }
  let rows ← upsertRow (fun r => srv.same r.id id') fresh (decide (f = {}))
    (assignExportTargetChecked srv s.db f) s.db.exportTargets
  return ((), { s.db with exportTargets := rows })

/-- `export_targets` -/
def exportTargets : Query (List ExportTargetRow) :=
  select fun s => srv.orderBy ExportTargetRow.id s.db.exportTargets

/-- `active_export_targets` -/
def activeExportTargets : Query (List ExportTargetRow) :=
  select fun s =>
    srv.orderBy ExportTargetRow.id (s.db.exportTargets.filter fun r => r.status = .active)

/-- `find_export_target` -/
def findExportTarget (id : String) : Query (Option ExportTargetRow) :=
  select fun s => s.db.exportTargets.find? fun r => srv.same r.id id

/-- `update_export_target` -/
def updateExportTarget (id : String) (f : ExportTargetFields) : Act Bool := do
  if (← ask (findExportTarget srv id)).isNone then
    return false
  if f = {} then
    return true
  statement fun s => do
    let rows ← updateWhere (fun r => srv.same r.id id) (assignExportTargetChecked srv s.db f)
      s.db.exportTargets
    return ((), { s.db with exportTargets := rows })
  return true

/-- `remove_export_target` -/
def removeExportTarget (id : String) : Act Unit := statement fun s =>
  some ((), { s.db with exportTargets := s.db.exportTargets.filter fun r => !srv.same r.id id })

/-- `set_export_watermark` -/
def setExportWatermark (id lastExportTs : String) : Act Unit := statement fun s => do
  let ts ← srv.datetime lastExportTs
  let rows ← updateWhere (fun r => srv.same r.id id) (fun r => some { r with lastExportTs := ts })
    s.db.exportTargets
  return ((), { s.db with exportTargets := rows })

/-- `insert_export_log` -/
def insertExportLog (r : ExportLogRow) : Act Nat := statement fun s => do
  let targetId ← srv.storeText (.varchar 32) r.targetId
  let tsUtc ← timestampOrNow srv s.now r.tsUtc
  let fromTs ← datetimeOrNull srv r.fromTs
  let toTs ← datetimeOrNull srv r.toTs
  let fileName ← textOrNull srv (.varchar 255) r.fileName
  let remoteId ← textOrNull srv (.varchar 255) r.remoteId
  let detail ← textOrNull srv .text r.detail
  let row : ExportLogRow :=
    { r with id := s.db.next.exportLog, targetId, tsUtc, fromTs, toTs, fileName, remoteId, detail }
  return (row.id, { s.db with
    exportLog := s.db.exportLog ++ [row]
    next := { s.db.next with exportLog := s.db.next.exportLog + 1 } })

/-- `export_log` -/
def exportLog (targetId : String) (limit : Int) : Query (List ExportLogRow) :=
  select fun s =>
    ((s.db.exportLog.filter fun r => srv.same r.targetId targetId)
      |>.mergeSort (newerFirst ExportLogRow.tsUtc ExportLogRow.id)).take (clampLimit limit)

/-! ## Settings -/

/-- `get_setting` -/
def getSetting (name : String) : Query (Option String) :=
  select fun s => (s.db.settings.find? fun kv => srv.same kv.1 name).map Prod.snd

/-- `set_setting` -/
def setSetting (name value : String) : Act Unit := statement fun s => do
  let name ← srv.storeText (.varchar 64) name
  let value ← srv.storeText .text value
  let rows ← upsertRow (fun kv => srv.same kv.1 name) (name, value) false
    (fun kv => some (kv.1, value)) s.db.settings
  return ((), { s.db with settings := rows })

/-- `delete_setting` -/
def deleteSetting (name : String) : Act Unit := statement fun s =>
  some ((), { s.db with settings := s.db.settings.filter fun kv => !srv.same kv.1 name })

/-! ## The schema -/

/-- The known tables and how many rows each has. -/
def knownTables : List (String × (Db → Nat)) :=
  [("sensors", fun d => d.sensors.length), ("readings", fun d => d.readings.length),
   ("config_log", fun d => d.configLog.length), ("events", fun d => d.events.length),
   ("weather_stations", fun d => d.weatherStations.length),
   ("weather_readings", fun d => d.weatherReadings.length),
   ("users", fun d => d.users.length), ("sessions", fun d => d.sessions.length),
   ("export_targets", fun d => d.exportTargets.length),
   ("export_log", fun d => d.exportLog.length), ("settings", fun d => d.settings.length),
   ("extensions", fun d => d.extensions.length)]

/-- All tables are there: a `Db` is a database with the schema loaded. -/
def schemaStatus : Query (List TableCount) := do
  select fun _ => ()
  knownTables.mapM fun (table, count) => do
    let rows ← select fun s => count s.db
    return { table, present := true, rows }

/-- Cut a line at the first `--`. -/
def stripComment : List Char → List Char
  | [] => []
  | c :: cs =>
    if c = '-' && cs.head? = some '-' then [] else c :: stripComment cs

/-- The statements of a script: comments stripped, cut at `;`, trimmed, the blank
ones dropped. -/
def scriptStatements (sql : String) : List String :=
  let cleaned := (getlines '\n' sql.toList).flatMap fun l => stripComment l ++ ['\n']
  let blank := fun c : Char => c = ' ' || c = '\t' || c = '\r' || c = '\n'
  ((cleaned.splitOn ';').map (trim blank)).filterMap fun s =>
    if s = [] then none else some (String.ofList s)

/-- `run_schema_script`: one statement after the other. -/
def runSchemaScript (sql : String) : Act Unit :=
  (scriptStatements sql).forM fun stmt =>
    statement fun s => (srv.execSchema stmt s.db).map fun db => ((), db)

/-! ## Users and sessions -/

/-- `count_users` -/
def countUsers : Query Nat := select fun s => s.db.users.length

/-- `create_user` -/
def createUser (username passwordHash role : String) (mustChangePassword : Bool) : Act Unit :=
  statement fun s => do
    let username ← srv.storeText (.varchar 64) username
    let passwordHash ← srv.storeText (.varchar 255) passwordHash
    let role ← srv.storeEnum Role role
    guard (!s.db.users.any fun u => srv.same u.username username)
    let row : UserRow :=
      { id := s.db.next.users, username, passwordHash, role, mustChangePassword,
        createdAt := srv.currentTimestamp s.now }
    return ((), { s.db with
      users := s.db.users ++ [row]
      next := { s.db.next with users := s.db.next.users + 1 } })

/-- `find_user` -/
def findUser (username : String) : Query (Option UserRow) :=
  select fun s => s.db.users.find? fun u => srv.same u.username username

/-- `users` -/
def users : Query (List UserRow) := select fun s => srv.orderBy UserRow.username s.db.users

/-- `set_user_password` -/
def setUserPassword (username passwordHash : String) (mustChangePassword : Bool) : Act Bool := do
  if (← ask (findUser srv username)).isNone then
    return false
  statement fun s => do
    let passwordHash ← srv.storeText (.varchar 255) passwordHash
    let rows ← updateWhere (fun u => srv.same u.username username)
      (fun u => some { u with passwordHash, mustChangePassword }) s.db.users
    return ((), { s.db with users := rows })
  return true

/-- The sessions of a deleted user go with it. -/
def deleteUser (username : String) : Act Bool := statement fun s =>
  let gone := s.db.users.filter fun u => srv.same u.username username
  some (!gone.isEmpty, { s.db with
    users := s.db.users.filter fun u => !srv.same u.username username
    sessions := s.db.sessions.filter fun x => !gone.any fun u => u.id = x.userId })

/-- `create_session` -/
def createSession (token : String) (userId : Nat) (ttlSeconds : Int) : Act Unit :=
  statement fun s => do
    let token ← srv.storeText (.varchar 64) token
    guard (!s.db.sessions.any fun x => srv.same x.token token)
    guard (s.db.users.any fun u => u.id = userId)
    let row : SessionRow := { token, userId, expiresAt := s.now + ttlSeconds }
    return ((), { s.db with sessions := s.db.sessions ++ [row] })

/-- The user of a session that has not expired. -/
def liveSession (token : String) (s : Snapshot) : Option SessionInfo :=
  (s.db.sessions.filter fun x => srv.same x.token token && decide (s.now < x.expiresAt)).findSome?
    fun x => (s.db.users.find? fun u => u.id = x.userId).map fun u =>
      { userId := u.id, username := u.username, role := u.role }

/-- `validate_session` -/
def validateSession (token : String) : Query (Option SessionInfo) := select (liveSession srv token)

/-- `delete_session` -/
def deleteSession (token : String) : Act Unit := statement fun s =>
  some ((), { s.db with sessions := s.db.sessions.filter fun x => !srv.same x.token token })

/-- `delete_expired_sessions` -/
def deleteExpiredSessions : Act Unit := statement fun s =>
  some ((), { s.db with sessions := s.db.sessions.filter fun x => decide (s.now < x.expiresAt) })

/-! ## Extensions -/

/-- A row and the age of its heartbeat in seconds. -/
def extensions : Query (List (ExtensionRow × Int)) := select fun s =>
  (srv.orderBy ExtensionRow.name s.db.extensions).map fun e => (e, s.now - e.lastHeartbeat)

/-- `find_extension`, with the seconds since its last heartbeat. -/
def findExtension (name : String) : Query (Option (ExtensionRow × Int)) := select fun s =>
  (s.db.extensions.find? fun e => srv.same e.name name).map fun e => (e, s.now - e.lastHeartbeat)

/-- `query_recent` -/
def queryRecent (table : String) (limit : Int) : Query TableData := do
  let limit := if limit < 1 then 1 else if 5000 < limit then 5000 else limit
  let data ← select fun s => srv.selectRecent s.db table limit.toNat
  match data with
  | some d => return d
  | none => throw "query failed"

/-! ## What a statement changes -/

section Frames

variable {srv : Server} {F : Frame World} (hF : IgnoresFaults F)
include hF

/-- An insertion changes the readings and their counter, or the counter alone. -/
theorem insertReading_frame {sensorId tsUtc : String} {r : Reading} {source : Source}
    {quality : Quality}
    (h : ∀ w next readings, F.rel w { w with db := { w.db with next, readings } }) :
    Keeps F (insertReading srv sensorId r tsUtc source quality) := by
  refine keeps_statement hF fun w a db' hdone => ?_
  dsimp only at hdone
  split at hdone
  · cases hdone
    exact h w _ w.db.readings
  · cases hdone
    exact h w _ _

/-- What an insertion changes of the tables. -/
theorem insertWeatherReading_frame {r : WeatherReadingRow}
    (h : ∀ w next weatherReadings, F.rel w { w with db := { w.db with next, weatherReadings } }) :
    Keeps F (insertWeatherReading srv r) := by
  refine keeps_statement hF fun w a db' hdone => ?_
  dsimp only at hdone
  split at hdone
  · cases hdone
    exact h w _ w.db.weatherReadings
  · cases hdone
    exact h w _ _

/-- What a deletion of readings changes. -/
theorem deleteReadingsBefore_frame {sensorId tsUtc : String}
    (h : ∀ w readings, F.rel w { w with db := { w.db with readings } }) :
    Keeps F (deleteReadingsBefore srv sensorId tsUtc) := by
  refine keeps_statement hF fun w a db' hdone => ?_
  obtain ⟨bound, -, hdone⟩ := Option.bind_eq_some_iff.mp hdone
  cases hdone
  exact h w _

end Frames

end NightWatcher.Database
