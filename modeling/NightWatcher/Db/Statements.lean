import NightWatcher.Api.Rendering
import NightWatcher.Db.Tables
import NightWatcher.Lib.SqlStatement
import NightWatcher.Sqm.Protocol

/-!
# `database.cpp`: the texts of the statements

`Call` is a call of a method of `Database`, `Call.statements` the statements it sends, piece
by piece as the code streams them. `statements_read` is what the server makes of them:
every text that came with the call is one value to it, whatever is in the text, and
nothing else of the statement depends on it.
-/

namespace NightWatcher.Statements

open NumberText SqlText

/-! ## Pieces -/

/-- A literal of the code. -/
def code (s : String) (plain : plainCode s.toList = true := by decide +kernel)
    (nonempty : s.toList ≠ [] := by decide +kernel) : Code := ⟨s.toList, plain, nonempty⟩

/-- `"'" + esc(s) + "'"` -/
def text (s : String) : Part := .value s.toList

/-- `'…'`, or `NULL` for the empty text. -/
def textOrNull (s : String) : Part := if s = "" then .code (code "NULL") else text s

/-- `'…'`, or the server's clock for the empty text. -/
def timestampOrNow (s : String) : Part := if s = "" then .code (code "UTC_TIMESTAMP()") else text s

/-- A whole number, as code. -/
def int (n : Int) : Part := .code (.int n)

/-- `std::to_string` of a `double`. -/
def double (q : ℚ) : Part := .code (.fixed (.num q))

/-- A `double` put into the stream. -/
def streamed (d : Double) : Part := .code (.streamed d)

/-- `sql_opt`: a number, or `NULL`. -/
def sqlOpt {α : Type} (number : α → Part) : Option α → Part
  | none => .code (code "NULL")
  | some v => number v

/-- A limit below 1 is 1. -/
def clamped (limit : Int) : Part := int (if limit < 1 then 1 else limit)

/-- A bool as 1 or 0. -/
def flag (b : Bool) : Part := int (if b then 1 else 0)

/-! ## Partial updates -/

/-- The columns given, with their values. -/
abbrev Columns := List (Code × Part)

def comma : Code := code ", "

/-- A column that is in the statement if its field is given. -/
def given {α : Type} (column : Code) (value : α → Part) (v : Option α) : Columns :=
  (v.map fun v => (column, value v)).toList

/-- The columns that `upsert_sensor` and `update_sensor` set. -/
def sensorColumns (f : SensorFields) : Columns :=
  given (code "name") text f.name ++ given (code "site") text f.site ++
  given (code "serial_number") text f.serialNumber ++ given (code "model") text f.model ++
  given (code "protocol_ver") int f.protocolVer ++ given (code "feature_ver") int f.featureVer ++
  given (code "latitude") double f.latitude ++ given (code "longitude") double f.longitude ++
  given (code "elevation_m") double f.elevationM ++ given (code "timezone") text f.timezone ++
  given (code "transport") text f.transport ++ given (code "address") text f.address ++
  given (code "poll_interval_s") int f.pollIntervalS ++ given (code "status") text f.status ++
  given (code "installed_at") text f.installedAt ++ given (code "notes") text f.notes

/-- The columns that `upsert_weather_station` and `update_weather_station` set. -/
def weatherColumns (f : WeatherStationFields) : Columns :=
  given (code "name") text f.name ++ given (code "site") text f.site ++
  given (code "model") text f.model ++ given (code "provider") text f.provider ++
  given (code "config") text f.config ++ given (code "transport") text f.transport ++
  given (code "address") text f.address ++ given (code "latitude") double f.latitude ++
  given (code "longitude") double f.longitude ++ given (code "elevation_m") double f.elevationM ++
  given (code "timezone") text f.timezone ++ given (code "poll_interval_s") int f.pollIntervalS ++
  given (code "status") text f.status ++ given (code "installed_at") text f.installedAt ++
  given (code "notes") text f.notes

/-- The columns that `upsert_export_target` and `update_export_target` set. -/
def exportColumns (f : ExportTargetFields) : Columns :=
  given (code "sensor_id") text f.sensorId ++ given (code "name") text f.name ++
  given (code "target") text f.target ++ given (code "config") text f.config ++
  given (code "schedule") text f.schedule ++ given (code "schedule_time") text f.scheduleTime ++
  given (code "interval_s") int f.intervalS ++ given (code "schedule_day") int f.scheduleDay ++
  given (code "status") text f.status ++ given (code "notes") text f.notes

/-- Pieces with commas between them. -/
def listed (first : Code) (rest : List Code) : Code := rest.foldl (fun q c => q ++ comma ++ c) first

/-- One assignment of `ON DUPLICATE KEY UPDATE`. -/
def valuesOf (column : Code) : Code := column ++ code "=VALUES(" ++ column ++ code ")"

/-- INSERT of the columns given, which are updated where the row is there. -/
def upsert (table : Code) (id : String) (columns : Columns) : Statement where
  slots :=
    (code "INSERT INTO " ++ table ++ code " (" ++ listed (code "id") (columns.map Prod.fst) ++
      code ") VALUES (", text id) ::
    columns.map fun c => (comma, c.2)
  tail := match columns.map fun c => valuesOf c.1 with
    | [] => code ")"
    | first :: rest => code ")" ++ code " ON DUPLICATE KEY UPDATE " ++ listed first rest

/-- UPDATE of the columns given, if there are any. -/
def update (table : Code) (id : String) : Columns → List Statement
  | [] => []
  | first :: rest => [{
      slots :=
        (code "UPDATE " ++ table ++ code " SET " ++ first.1 ++ code "=", first.2) ::
        (rest.map fun c => (comma ++ c.1 ++ code "=", c.2)) ++ [(code " WHERE id=", text id)] }]

/-! ## Lists of columns -/

def kSensorCols : Code :=
  code "id, name, site, serial_number, model, protocol_ver, feature_ver, latitude, " ++
  code "longitude, elevation_m, timezone, transport, address, poll_interval_s, status, " ++
  code "installed_at, notes, created_at"

def kWeatherCols : Code :=
  code "id, name, site, model, provider, config, transport, address, latitude, longitude, " ++
  code "elevation_m, timezone, poll_interval_s, status, installed_at, notes, created_at"

def kWxReadingCols : Code :=
  code "id, station_id, ts_utc, temp_c, humidity_pct, dew_point_c, pressure_hpa, pressure_abs_hpa, " ++
  code "wind_speed_ms, wind_gust_ms, wind_dir_deg, rain_rate_mmh, rain_daily_mm, uv_index, solar_wm2, " ++
  code "cloud_cover_pct, source, raw"

def kExportCols : Code :=
  code "id, sensor_id, name, target, config, schedule, schedule_time, interval_s, " ++
  code "last_export_ts, status, notes, created_at, schedule_day"

def kUserCols : Code := code "id, username, password_hash, role, must_change_password, created_at"

def kExtCols : Code :=
  code "name, label, version, data_table, host, pid, status, last_heartbeat, started_at, " ++
  code "TIMESTAMPDIFF(SECOND, last_heartbeat, UTC_TIMESTAMP())"

/-- The tables that `schema_status` asks for. -/
def kKnown : List Name := [
  ⟨"sensors".toList, by decide⟩, ⟨"readings".toList, by decide⟩, ⟨"config_log".toList, by decide⟩,
  ⟨"events".toList, by decide⟩, ⟨"weather_stations".toList, by decide⟩,
  ⟨"weather_readings".toList, by decide⟩, ⟨"users".toList, by decide⟩, ⟨"sessions".toList, by decide⟩,
  ⟨"export_targets".toList, by decide⟩, ⟨"export_log".toList, by decide⟩,
  ⟨"settings".toList, by decide⟩,
  ⟨"extensions".toList, by decide⟩]

/-! ## Selections by id and time -/

/-- All rows of a table, in the order of a column. -/
def selectAll (columns table order : Code) : Statement where
  slots := []
  tail := code "SELECT " ++ columns ++ code " FROM " ++ table ++ code " ORDER BY " ++ order

/-- The active rows of a table. -/
def selectActive (columns table : Code) : Statement where
  slots := [(code "SELECT " ++ columns ++ code " FROM " ++ table ++ code " WHERE status=",
      text "active")]
  tail := code " ORDER BY id"

/-- `SELECT … WHERE column='…' LIMIT 1` -/
def selectOne (columns table column : Code) (key : String) : Statement where
  slots := [(code "SELECT " ++ columns ++ code " FROM " ++ table ++ code " WHERE " ++ column ++ code
      "=", text key)]
  tail := code " LIMIT 1"

/-- The rows of one key are deleted. -/
def deleteWhere (table column : Code) (key : String) : Statement where
  slots := [(code "DELETE FROM " ++ table ++ code " WHERE " ++ column ++ code "=", text key)]

/-- The rows of a device between two times, of which either may be open. -/
def selectBetween (columns table column : Code) (id lo hi : String) (limit : Int) : Statement where
  slots :=
    [(code "SELECT " ++ columns ++ code " FROM " ++ table ++ code " WHERE " ++ column ++ code "=",
        text id)] ++
    (if lo = "" then [] else [(code " AND ts_utc >= ", text lo)]) ++
    (if hi = "" then [] else [(code " AND ts_utc <= ", text hi)]) ++
    [(code " ORDER BY ts_utc DESC, id DESC LIMIT ", clamped limit)]

/-! ## The calls -/

/-- A call of a method that sends statements of its own; an update and `set_user_password`
look for their row first and send the second statement where it is there. -/
inductive Call where
  | upsertSensor (id : String) (f : SensorFields)
  | updateSensor (id : String) (f : SensorFields)
  | sensors
  | findSensor (id : String)
  | removeSensor (id : String)
  | activeSensors
  | insertEvent (source level event detail deviceId : String)
  | recentEvents (limit : Int)
  | insertReading (sensorId : String) (r : Sqm.Protocol.Reading) (tsUtc source quality : String)
  | readingsBetween (sensorId lo hi : String) (limit : Int)
  | insertCalibration (sensorId : String) (c : Sqm.Protocol.Calibration)
      (tsUtc eventType changedBy note : String)
  | configLog (sensorId : String) (limit : Int)
  | upsertWeatherStation (id : String) (f : WeatherStationFields)
  | updateWeatherStation (id : String) (f : WeatherStationFields)
  | weatherStations
  | findWeatherStation (id : String)
  | removeWeatherStation (id : String)
  | activeWeatherStations
  | insertWeatherReading (r : WeatherReadingRow)
  | weatherReadingsBetween (stationId lo hi : String) (limit : Int)
  | upsertExportTarget (id : String) (f : ExportTargetFields)
  | updateExportTarget (id : String) (f : ExportTargetFields)
  | exportTargets
  | activeExportTargets
  | findExportTarget (id : String)
  | removeExportTarget (id : String)
  | setExportWatermark (id lastExportTs : String)
  | insertExportLog (targetId tsUtc fromTs toTs : String) (rowCount : Int)
      (fileName remoteId status detail : String)
  | exportLog (targetId : String) (limit : Int)
  | deleteReadingsBefore (sensorId tsUtc : String)
  | getSetting (name : String)
  | setSetting (name value : String)
  | deleteSetting (name : String)
  | schemaStatus
  | countUsers
  | createUser (username passwordHash role : String) (mustChangePassword : Bool)
  | findUser (username : String)
  | users
  | setUserPassword (username passwordHash : String) (mustChangePassword : Bool)
  | deleteUser (username : String)
  | createSession (token : String) (userId ttlSeconds : Int)
  | validateSession (token : String)
  | deleteSession (token : String)
  | deleteExpiredSessions
  | extensions
  | findExtension (name : String)
  /-- with a name its caller has looked at -/
  | queryRecent (table : String) (h : Api.validIdentifier table = true) (limit : Int)

/-- What passes for an identifier has no character that SQL takes for more than a letter. -/
theorem identifier_plain {s : String} (h : Api.validIdentifier s = true) :
    s.toList.all SqlText.plainChar = true := by
  have hplain : ∀ c : Char, (c.isAlphanum || c == '_') = true → SqlText.plainChar c = true := by
    intro c hc
    unfold SqlText.plainChar
    rw [decide_eq_true_iff]
    intro hmem
    fin_cases hmem <;> cases hc
  unfold Api.validIdentifier at h
  cases hs : s.toList with
  | nil => rfl
  | cons c cs =>
    rw [hs] at h
    dsimp only at h
    rw [decide_eq_true_iff] at h
    obtain ⟨-, hc, hcs⟩ := h
    rw [List.all_cons, Bool.and_eq_true]
    refine ⟨hplain c ?_, List.all_eq_true.mpr fun d hd => hplain d (List.all_eq_true.mp hcs d hd)⟩
    rw [Bool.or_eq_true] at hc ⊢
    refine hc.imp_left fun halpha => ?_
    rw [Char.isAlphanum, halpha]
    rfl

/-- `find_sensor` -/
def findSensorSql (id : String) : Statement := selectOne kSensorCols (code "sensors") (code "id") id

/-- `find_weather_station` -/
def findWeatherStationSql (id : String) : Statement :=
  selectOne kWeatherCols (code "weather_stations") (code "id") id

/-- `find_export_target` -/
def findExportTargetSql (id : String) : Statement :=
  selectOne kExportCols (code "export_targets") (code "id") id

/-- `find_user` -/
def findUserSql (username : String) : Statement :=
  selectOne kUserCols (code "users") (code "username") username

/-! ### Events, readings, calibrations -/

/-- `insert_event` -/
def insertEventSql (source level event detail deviceId : String) : Statement where
  slots := [
    (code "INSERT INTO events (ts_utc, device_id, source, level, event, detail) VALUES (" ++
      code "UTC_TIMESTAMP(), ", textOrNull deviceId),
    (comma, text source), (comma, text level), (comma, text event), (comma, textOrNull detail)]
  tail := code ")"

/-- `recent_events` -/
def recentEventsSql (limit : Int) : Statement where
  slots := [
    (code "SELECT id, ts_utc, device_id, source, level, event, detail FROM events " ++
      code "ORDER BY id DESC LIMIT ", clamped limit)]

/-- `insert_reading` -/
def insertReadingSql (sensorId : String) (r : Sqm.Protocol.Reading) (tsUtc source quality : String) :
    Statement where
  slots := [
    (code "INSERT IGNORE INTO readings " ++
      code "(sensor_id, ts_utc, mag_arcsec2, freq_hz, period_counts, period_s, temp_c, " ++
      code "quality, source, raw_line) VALUES (", text sensorId),
    (comma, timestampOrNow tsUtc), (comma, streamed r.magArcsec2), (comma, int r.freqHz),
    (comma, int r.periodCounts), (comma, streamed r.periodS), (comma, streamed r.tempC),
    (comma, text quality), (comma, text source), (comma, .value r.raw)]
  tail := code ")"

/-- `readings_between` -/
def readingsBetweenSql (sensorId lo hi : String) (limit : Int) : Statement :=
  selectBetween
    (code "id, sensor_id, ts_utc, mag_arcsec2, freq_hz, period_counts, period_s, " ++
      code "temp_c, quality, source, raw_line")
    (code "readings") (code "sensor_id") sensorId lo hi limit

/-- `delete_readings_before` -/
def deleteReadingsBeforeSql (sensorId tsUtc : String) : Statement where
  slots := [(code "DELETE FROM readings WHERE sensor_id=", text sensorId),
      (code " AND ts_utc < ", text tsUtc)]

/-- `insert_calibration` -/
def insertCalibrationSql (sensorId : String) (c : Sqm.Protocol.Calibration)
    (tsUtc eventType changedBy note : String) : Statement where
  slots := [
    (code "INSERT INTO config_log " ++
      code "(sensor_id, ts_utc, event_type, light_cal_offset, dark_cal_period_s, " ++
      code "temp_light_c, sensor_offset, temp_dark_c, raw, changed_by, note) VALUES (", text sensorId),
    (comma, timestampOrNow tsUtc),
    (comma, text (if eventType = "config_change" then "config_change" else "calibration")),
    (comma, streamed c.lightCalOffset), (comma, streamed c.darkCalPeriodS),
    (comma, streamed c.tempLightC), (comma, streamed c.sensorOffset), (comma, streamed c.tempDarkC),
    (comma, .value c.raw), (comma, textOrNull changedBy), (comma, textOrNull note)]
  tail := code ")"

/-- `config_log` -/
def configLogSql (sensorId : String) (limit : Int) : Statement where
  slots := [
    (code "SELECT id, ts_utc, event_type, light_cal_offset, dark_cal_period_s, temp_light_c, " ++
      code "sensor_offset, temp_dark_c, interval_s, threshold, raw, changed_by, note " ++
      code "FROM config_log WHERE sensor_id=", text sensorId),
    (code " ORDER BY id DESC LIMIT ", clamped limit)]

/-- `insert_weather_reading` -/
def insertWeatherReadingSql (r : WeatherReadingRow) : Statement where
  slots := [
    (code "INSERT IGNORE INTO weather_readings " ++
      code "(station_id, ts_utc, temp_c, humidity_pct, dew_point_c, pressure_hpa, pressure_abs_hpa, " ++
      code "wind_speed_ms, wind_gust_ms, wind_dir_deg, rain_rate_mmh, rain_daily_mm, uv_index, " ++
      code "solar_wm2, cloud_cover_pct, source, raw) VALUES (", text r.stationId),
    (comma, timestampOrNow r.tsUtc),
    (comma, sqlOpt double r.tempC), (comma, sqlOpt double r.humidityPct),
    (comma, sqlOpt double r.dewPointC),
    (comma, sqlOpt double r.pressureHpa), (comma, sqlOpt double r.pressureAbsHpa),
    (comma, sqlOpt double r.windSpeedMs), (comma, sqlOpt double r.windGustMs),
    (comma, sqlOpt int r.windDirDeg), (comma, sqlOpt double r.rainRateMmh),
    (comma, sqlOpt double r.rainDailyMm), (comma, sqlOpt double r.uvIndex),
    (comma, sqlOpt double r.solarWm2), (comma, sqlOpt double r.cloudCoverPct),
    (comma, text (if r.source = "" then "poll" else r.source)), (comma, textOrNull r.raw)]
  tail := code ")"

/-! ### Exports and settings -/

/-- `set_export_watermark` -/
def setExportWatermarkSql (id lastExportTs : String) : Statement where
  slots := [(code "UPDATE export_targets SET last_export_ts=", text lastExportTs),
      (code " WHERE id=", text id)]

/-- `insert_export_log` -/
def insertExportLogSql (targetId tsUtc fromTs toTs : String) (rowCount : Int)
    (fileName remoteId status detail : String) : Statement where
  slots := [
    (code "INSERT INTO export_log (target_id, ts_utc, from_ts, to_ts, row_count, file_name, " ++
      code "remote_id, status, detail) VALUES (", text targetId),
    (comma, timestampOrNow tsUtc), (comma, textOrNull fromTs), (comma, textOrNull toTs),
    (comma, int rowCount), (comma, textOrNull fileName), (comma, textOrNull remoteId),
    (comma, text (if status = "" then "ok" else status)), (comma, textOrNull detail)]
  tail := code ")"

/-- `export_log` -/
def exportLogSql (targetId : String) (limit : Int) : Statement where
  slots := [
    (code "SELECT id, target_id, ts_utc, from_ts, to_ts, row_count, file_name, remote_id, status, detail " ++
      code "FROM export_log WHERE target_id=", text targetId),
    (code " ORDER BY ts_utc DESC, id DESC LIMIT ", clamped limit)]

/-- `set_setting` -/
def setSettingSql (name value : String) : Statement where
  slots := [(code "INSERT INTO settings (name, value) VALUES (", text name), (comma, text value)]
  tail := code ") ON DUPLICATE KEY UPDATE value=VALUES(value)"

/-- `delete_setting` -/
def deleteSettingSql (name : String) : Statement where
  slots := [(code "DELETE FROM settings WHERE name = ", text name)]

/-! ### Users, sessions, extensions -/

/-- `create_user` -/
def createUserSql (username passwordHash role : String) (mustChangePassword : Bool) : Statement where
  slots := [
    (code "INSERT INTO users (username, password_hash, role, must_change_password) VALUES (",
        text username),
    (comma, text passwordHash), (comma, text role), (comma, flag mustChangePassword)]
  tail := code ")"

/-- `set_user_password` -/
def setUserPasswordSql (username passwordHash : String) (mustChangePassword : Bool) : Statement where
  slots := [(code "UPDATE users SET password_hash=", text passwordHash),
    (code ", must_change_password=", flag mustChangePassword), (code " WHERE username=", text username)]

/-- `create_session` -/
def createSessionSql (token : String) (userId ttlSeconds : Int) : Statement where
  slots := [(code "INSERT INTO sessions (token, user_id, expires_at) VALUES (", text token),
    (comma, int userId), (code ", UTC_TIMESTAMP() + INTERVAL ", int ttlSeconds)]
  tail := code " SECOND)"

/-- `validate_session` -/
def validateSessionSql (token : String) : Statement where
  slots := [
    (code "SELECT u.id, u.username, u.role FROM sessions s JOIN users u ON u.id = s.user_id " ++
      code "WHERE s.token=", text token)]
  tail := code " AND s.expires_at > UTC_TIMESTAMP() LIMIT 1"

/-- `delete_expired_sessions` -/
def deleteExpiredSessionsSql : Statement where
  slots := []
  tail := code "DELETE FROM sessions WHERE expires_at <= UTC_TIMESTAMP()"

/-- `find_extension` -/
def findExtensionSql (name : String) : Statement where
  slots := [(code "SELECT " ++ kExtCols ++ code " FROM extensions WHERE name=", text name)]

/-- `query_recent`, which is given no table that is not an identifier. -/
def queryRecentSql (table : String) (h : Api.validIdentifier table = true)
    (limit : Int) : Statement where
  slots := [(code "SELECT * FROM ", .name ⟨table.toList, identifier_plain h⟩),
    (code " ORDER BY id DESC LIMIT ",
        int (if limit < 1 then 1 else if 5000 < limit then 5000 else limit))]

/-- The names of the tables, then a count of every known table that is among them. -/
def schemaStatusSql : List Statement :=
  { slots := []
    tail := code "SELECT table_name FROM information_schema.tables WHERE table_schema = DATABASE()" } ::
  kKnown.map fun t => { slots := [(code "SELECT COUNT(*) FROM ", .name t)] }

/-- The statements the call may send, in order. -/
def Call.statements : Call → List Statement
  | .upsertSensor id f => [upsert (code "sensors") id (sensorColumns f)]
  | .updateSensor id f => findSensorSql id :: update (code "sensors") id (sensorColumns f)
  | .sensors => [selectAll kSensorCols (code "sensors") (code "id")]
  | .findSensor id => [findSensorSql id]
  | .removeSensor id => [deleteWhere (code "sensors") (code "id") id]
  | .activeSensors => [selectActive kSensorCols (code "sensors")]
  | .insertEvent source level event detail deviceId =>
      [insertEventSql source level event detail deviceId]
  | .recentEvents limit => [recentEventsSql limit]
  | .insertReading sensorId r tsUtc source quality => [insertReadingSql sensorId r tsUtc source quality]
  | .readingsBetween sensorId lo hi limit => [readingsBetweenSql sensorId lo hi limit]
  | .insertCalibration sensorId c tsUtc eventType changedBy note =>
    [insertCalibrationSql sensorId c tsUtc eventType changedBy note]
  | .configLog sensorId limit => [configLogSql sensorId limit]
  | .upsertWeatherStation id f => [upsert (code "weather_stations") id (weatherColumns f)]
  | .updateWeatherStation id f =>
    findWeatherStationSql id :: update (code "weather_stations") id (weatherColumns f)
  | .weatherStations => [selectAll kWeatherCols (code "weather_stations") (code "id")]
  | .findWeatherStation id => [findWeatherStationSql id]
  | .removeWeatherStation id => [deleteWhere (code "weather_stations") (code "id") id]
  | .activeWeatherStations => [selectActive kWeatherCols (code "weather_stations")]
  | .insertWeatherReading r => [insertWeatherReadingSql r]
  | .weatherReadingsBetween stationId lo hi limit =>
    [selectBetween kWxReadingCols (code "weather_readings") (code "station_id") stationId lo hi limit]
  | .upsertExportTarget id f => [upsert (code "export_targets") id (exportColumns f)]
  | .updateExportTarget id f => findExportTargetSql id ::
        update (code "export_targets") id (exportColumns f)
  | .exportTargets => [selectAll kExportCols (code "export_targets") (code "id")]
  | .activeExportTargets => [selectActive kExportCols (code "export_targets")]
  | .findExportTarget id => [findExportTargetSql id]
  | .removeExportTarget id => [deleteWhere (code "export_targets") (code "id") id]
  | .setExportWatermark id lastExportTs => [setExportWatermarkSql id lastExportTs]
  | .insertExportLog targetId tsUtc fromTs toTs rowCount fileName remoteId status detail =>
    [insertExportLogSql targetId tsUtc fromTs toTs rowCount fileName remoteId status detail]
  | .exportLog targetId limit => [exportLogSql targetId limit]
  | .deleteReadingsBefore sensorId tsUtc => [deleteReadingsBeforeSql sensorId tsUtc]
  | .getSetting name => [selectOne (code "value") (code "settings") (code "name") name]
  | .setSetting name value => [setSettingSql name value]
  | .deleteSetting name => [deleteSettingSql name]
  | .schemaStatus => schemaStatusSql
  | .countUsers => [{ slots := [], tail := code "SELECT COUNT(*) FROM users" }]
  | .createUser username passwordHash role mustChangePassword =>
    [createUserSql username passwordHash role mustChangePassword]
  | .findUser username => [findUserSql username]
  | .users => [selectAll kUserCols (code "users") (code "username")]
  | .setUserPassword username passwordHash mustChangePassword =>
    [findUserSql username, setUserPasswordSql username passwordHash mustChangePassword]
  | .deleteUser username => [deleteWhere (code "users") (code "username") username]
  | .createSession token userId ttlSeconds => [createSessionSql token userId ttlSeconds]
  | .validateSession token => [validateSessionSql token]
  | .deleteSession token => [deleteWhere (code "sessions") (code "token") token]
  | .deleteExpiredSessions => [deleteExpiredSessionsSql]
  | .extensions => [selectAll kExtCols (code "extensions") (code "name")]
  | .findExtension name => [findExtensionSql name]
  | .queryRecent table h limit => [queryRecentSql table h limit]

/-! ## Other texts in the same call -/

section Texts

variable (f : String → String)

/-- The raw line of a response, with its text replaced. -/
def rawTexts (raw : List Char) : List Char := (f (String.ofList raw)).toList

/-- The fields of a sensor, with their texts replaced. -/
def sensorTexts (s : SensorFields) : SensorFields :=
  { s with
    name := s.name.map f, site := s.site.map f, serialNumber := s.serialNumber.map f
    model := s.model.map f, timezone := s.timezone.map f, transport := s.transport.map f
    address := s.address.map f, status := s.status.map f, installedAt := s.installedAt.map f
    notes := s.notes.map f }

/-- The fields of a station, with their texts replaced. -/
def weatherTexts (s : WeatherStationFields) : WeatherStationFields :=
  { s with
    name := s.name.map f, site := s.site.map f, model := s.model.map f, provider := s.provider.map f
    config := s.config.map f, transport := s.transport.map f, address := s.address.map f
    timezone := s.timezone.map f, status := s.status.map f, installedAt := s.installedAt.map f
    notes := s.notes.map f }

/-- The fields of a target, with their texts replaced. -/
def exportTexts (s : ExportTargetFields) : ExportTargetFields :=
  { s with
    sensorId := s.sensorId.map f, name := s.name.map f, target := s.target.map f
    config := s.config.map f, schedule := s.schedule.map f, scheduleTime := s.scheduleTime.map f
    status := s.status.map f, notes := s.notes.map f }

/-- The same call with other texts; a table's name stays. -/
def Call.mapTexts : Call → Call
  | .upsertSensor id s => .upsertSensor (f id) (sensorTexts f s)
  | .updateSensor id s => .updateSensor (f id) (sensorTexts f s)
  | .sensors => .sensors
  | .findSensor id => .findSensor (f id)
  | .removeSensor id => .removeSensor (f id)
  | .activeSensors => .activeSensors
  | .insertEvent source level event detail deviceId =>
    .insertEvent (f source) (f level) (f event) (f detail) (f deviceId)
  | .recentEvents limit => .recentEvents limit
  | .insertReading sensorId r tsUtc source quality =>
    .insertReading (f sensorId) { r with raw := rawTexts f r.raw } (f tsUtc) (f source) (f quality)
  | .readingsBetween sensorId lo hi limit => .readingsBetween (f sensorId) (f lo) (f hi) limit
  | .insertCalibration sensorId c tsUtc eventType changedBy note =>
    .insertCalibration (f sensorId) { c with raw := rawTexts f c.raw } (f tsUtc) (f eventType)
        (f changedBy)
      (f note)
  | .configLog sensorId limit => .configLog (f sensorId) limit
  | .upsertWeatherStation id s => .upsertWeatherStation (f id) (weatherTexts f s)
  | .updateWeatherStation id s => .updateWeatherStation (f id) (weatherTexts f s)
  | .weatherStations => .weatherStations
  | .findWeatherStation id => .findWeatherStation (f id)
  | .removeWeatherStation id => .removeWeatherStation (f id)
  | .activeWeatherStations => .activeWeatherStations
  | .insertWeatherReading r => .insertWeatherReading
    { r with stationId := f r.stationId, tsUtc := f r.tsUtc, source := f r.source, raw := f r.raw }
  | .weatherReadingsBetween stationId lo hi limit =>
      .weatherReadingsBetween (f stationId) (f lo) (f hi) limit
  | .upsertExportTarget id s => .upsertExportTarget (f id) (exportTexts f s)
  | .updateExportTarget id s => .updateExportTarget (f id) (exportTexts f s)
  | .exportTargets => .exportTargets
  | .activeExportTargets => .activeExportTargets
  | .findExportTarget id => .findExportTarget (f id)
  | .removeExportTarget id => .removeExportTarget (f id)
  | .setExportWatermark id lastExportTs => .setExportWatermark (f id) (f lastExportTs)
  | .insertExportLog targetId tsUtc fromTs toTs rowCount fileName remoteId status detail =>
    .insertExportLog (f targetId) (f tsUtc) (f fromTs) (f toTs) rowCount (f fileName) (f remoteId)
        (f status)
      (f detail)
  | .exportLog targetId limit => .exportLog (f targetId) limit
  | .deleteReadingsBefore sensorId tsUtc => .deleteReadingsBefore (f sensorId) (f tsUtc)
  | .getSetting name => .getSetting (f name)
  | .setSetting name value => .setSetting (f name) (f value)
  | .deleteSetting name => .deleteSetting (f name)
  | .schemaStatus => .schemaStatus
  | .countUsers => .countUsers
  | .createUser username passwordHash role mustChangePassword =>
    .createUser (f username) (f passwordHash) (f role) mustChangePassword
  | .findUser username => .findUser (f username)
  | .users => .users
  | .setUserPassword username passwordHash mustChangePassword =>
    .setUserPassword (f username) (f passwordHash) mustChangePassword
  | .deleteUser username => .deleteUser (f username)
  | .createSession token userId ttlSeconds => .createSession (f token) userId ttlSeconds
  | .validateSession token => .validateSession (f token)
  | .deleteSession token => .deleteSession (f token)
  | .deleteExpiredSessions => .deleteExpiredSessions
  | .extensions => .extensions
  | .findExtension name => .findExtension (f name)
  | .queryRecent table h limit => .queryRecent table h limit

end Texts

/-! ## What the server reads -/

/-- The slots as they are with placeholders. -/
def form (slots : List (Code × Part)) : List (Code × Text) :=
  slots.map fun slot => (slot.1, slot.2.preparedText)

theorem form_append (a b : List (Code × Part)) : form (a ++ b) = form a ++ form b := List.map_append

/-- The same code around the same placeholders. -/
structure Alike (st st' : Statement) : Prop where
  slots : form st.slots = form st'.slots
  tail : st.tail = st'.tail

/-- Statements that are alike are prepared as the same text. -/
theorem Alike.preparedText {st st' : Statement} (h : Alike st st') :
    st.preparedText = st'.preparedText := by
  have hform : ∀ slots : List (Code × Part),
      (slots.flatMap fun slot => slot.1.text ++ slot.2.preparedText) =
        (form slots).flatMap fun slot => slot.1.text ++ slot.2 := by
    intro slots
    unfold form
    rw [List.flatMap_map]
  unfold Statement.preparedText Statement.textBy
  rw [hform, hform, h.slots, h.tail]

section Alike

variable {f : String → String} (hf : ∀ s, f s = "" ↔ s = "")
include hf

/-- An empty text stays empty, so that `NULL` stays `NULL`. -/
theorem textOrNull_alike (s : String) :
    (textOrNull (f s)).preparedText = (textOrNull s).preparedText := by
  unfold textOrNull
  by_cases hs : s = ""
  · rw [if_pos hs, if_pos ((hf s).mpr hs)]
  · rw [if_neg hs, if_neg (mt (hf s).mp hs)]
    rfl

/-- And the server's clock stays the server's clock. -/
theorem timestampOrNow_alike (s : String) :
    (timestampOrNow (f s)).preparedText = (timestampOrNow s).preparedText := by
  unfold timestampOrNow
  by_cases hs : s = ""
  · rw [if_pos hs, if_pos ((hf s).mpr hs)]
  · rw [if_neg hs, if_neg (mt (hf s).mp hs)]
    rfl

/-- A bound that is left out is left out in both. -/
theorem selectBetween_alike (columns table column : Code) (id lo hi : String) (limit : Int) :
    Alike (selectBetween columns table column id lo hi limit)
      (selectBetween columns table column (f id) (f lo) (f hi) limit) := by
  have hbound : ∀ (op : Code) (s : String),
      form (if s = "" then [] else [(op, text s)]) =
          form (if f s = "" then [] else [(op, text (f s))]) := by
    intro op s
    by_cases hs : s = ""
    · rw [if_pos hs, if_pos ((hf s).mpr hs)]
    · rw [if_neg hs, if_neg (mt (hf s).mp hs)]
      rfl
  refine ⟨?_, rfl⟩
  unfold selectBetween
  simp only [form_append, ← hbound]
  rfl

end Alike

/-- Replacing a text gives a column that is in the statement as before. -/
theorem given_alike (f : String → String) (column : Code) (v : Option String) :
    form (given column text (v.map f)) = form (given column text v) := by
  cases v <;> rfl

theorem sensorColumns_alike (f : String → String) (s : SensorFields) :
    form (sensorColumns (sensorTexts f s)) = form (sensorColumns s) := by
  simp only [sensorColumns, sensorTexts, form_append, given_alike]

theorem weatherColumns_alike (f : String → String) (s : WeatherStationFields) :
    form (weatherColumns (weatherTexts f s)) = form (weatherColumns s) := by
  simp only [weatherColumns, weatherTexts, form_append, given_alike]

theorem exportColumns_alike (f : String → String) (s : ExportTargetFields) :
    form (exportColumns (exportTexts f s)) = form (exportColumns s) := by
  simp only [exportColumns, exportTexts, form_append, given_alike]

section Columns

variable {columns columns' : Columns} (h : form columns' = form columns)
include h

/-- The same columns are named. -/
theorem names_alike : columns'.map Prod.fst = columns.map Prod.fst := by
  have hnames : ∀ cs : Columns, cs.map Prod.fst = (form cs).map Prod.fst := by
    intro cs
    unfold form
    rw [List.map_map]
    rfl
  rw [hnames, hnames, h]

/-- So an upsert has the same names, placeholders and assignments. -/
theorem upsert_alike (table : Code) (id id' : String) :
    Alike (upsert table id columns) (upsert table id' columns') := by
  have hvalues : ∀ cs : Columns,
      form (cs.map fun c => (comma, c.2)) = (form cs).map fun c => (comma, c.2) := by
    intro cs
    unfold form
    rw [List.map_map, List.map_map]
    rfl
  have hupdates : ∀ cs : Columns, cs.map (fun c => valuesOf c.1) = (cs.map Prod.fst).map valuesOf := by
    intro cs
    rw [List.map_map]
    rfl
  constructor
  · unfold upsert
    rw [names_alike h]
    show _ :: form _ = _ :: form _
    rw [hvalues, hvalues, h]
    rfl
  · unfold upsert
    dsimp only
    rw [hupdates, hupdates, names_alike h]

/-- So has an update, which is no statement at all when no column is given. -/
theorem update_alike (table : Code) (id id' : String) :
    List.Forall₂ Alike (update table id columns) (update table id' columns') := by
  cases columns with
  | nil =>
    cases columns' with
    | nil => exact .nil
    | cons first' rest' => cases h
  | cons first rest =>
    cases columns' with
    | nil => cases h
    | cons first' rest' =>
      obtain ⟨hfirst, hrest⟩ := List.cons.inj h
      have hset : ∀ cs : Columns, form (cs.map fun c => (comma ++ c.1 ++ code "=", c.2)) =
          (form cs).map fun c => (comma ++ c.1 ++ code "=", c.2) := by
        intro cs
        unfold form
        rw [List.map_map, List.map_map]
        rfl
      refine .cons ⟨?_, rfl⟩ .nil
      show form (_ :: _ ++ _) = form (_ :: _ ++ _)
      rw [List.cons_append, List.cons_append]
      show (_, _) :: form (_ ++ _) = (_, _) :: form (_ ++ _)
      rw [form_append, form_append, hset, hset, (Prod.mk.inj hfirst).1, (Prod.mk.inj hfirst).2,
        show form rest' = form rest from hrest]
      rfl

end Columns

/-- With other texts the code of a call's statements is the same, as long as an empty text stays
the only one that is left out. -/
theorem statements_alike {f : String → String} (hf : ∀ s, f s = "" ↔ s = "") (call : Call) :
    List.Forall₂ Alike call.statements (call.mapTexts f).statements := by
  have hone : ∀ {st st' : Statement}, Alike st st' → List.Forall₂ Alike [st] [st'] :=
    fun h => .cons h .nil
  have hself : ∀ sts : List Statement, List.Forall₂ Alike sts sts := fun sts =>
    List.forall₂_same.mpr fun st _ => ⟨rfl, rfl⟩
  cases call with
  | upsertSensor id s => exact hone (upsert_alike (sensorColumns_alike f s) _ _ _)
  | updateSensor id s => exact .cons ⟨rfl, rfl⟩ (update_alike (sensorColumns_alike f s) _ _ _)
  | upsertWeatherStation id s => exact hone (upsert_alike (weatherColumns_alike f s) _ _ _)
  | updateWeatherStation id s => exact .cons ⟨rfl, rfl⟩ (update_alike (weatherColumns_alike f s) _ _ _)
  | upsertExportTarget id s => exact hone (upsert_alike (exportColumns_alike f s) _ _ _)
  | updateExportTarget id s => exact .cons ⟨rfl, rfl⟩ (update_alike (exportColumns_alike f s) _ _ _)
  | sensors | activeSensors | recentEvents | weatherStations | activeWeatherStations | exportTargets
  | activeExportTargets | schemaStatus | countUsers | users | deleteExpiredSessions | extensions
  | queryRecent => exact hself _
  | insertEvent source level event detail deviceId =>
    refine hone ⟨?_, rfl⟩
    simp only [insertEventSql, form, List.map_cons, textOrNull_alike hf]
    rfl
  | insertReading sensorId r tsUtc source quality =>
    refine hone ⟨?_, rfl⟩
    simp only [insertReadingSql, form, List.map_cons, timestampOrNow_alike hf]
    rfl
  | insertCalibration sensorId c tsUtc eventType changedBy note =>
    refine hone ⟨?_, rfl⟩
    simp only [insertCalibrationSql, form, List.map_cons, timestampOrNow_alike hf, textOrNull_alike hf]
    rfl
  | insertWeatherReading r =>
    refine hone ⟨?_, rfl⟩
    simp only [insertWeatherReadingSql, form, List.map_cons, timestampOrNow_alike hf,
        textOrNull_alike hf]
    rfl
  | insertExportLog targetId tsUtc fromTs toTs rowCount fileName remoteId status detail =>
    refine hone ⟨?_, rfl⟩
    simp only [insertExportLogSql, form, List.map_cons, timestampOrNow_alike hf, textOrNull_alike hf]
    rfl
  | readingsBetween sensorId lo hi limit => exact hone (selectBetween_alike hf _ _ _ _ _ _ _)
  | weatherReadingsBetween stationId lo hi limit => exact hone (selectBetween_alike hf _ _ _ _ _ _ _)
  | setUserPassword => exact .cons ⟨rfl, rfl⟩ (hone ⟨rfl, rfl⟩)
  | findSensor | removeSensor | configLog | findWeatherStation | removeWeatherStation | findExportTarget
  | removeExportTarget | setExportWatermark | exportLog | deleteReadingsBefore | getSetting | setSetting
  | deleteSetting | createUser | findUser | deleteUser | createSession | validateSession | deleteSession
  | findExtension => exact hone ⟨rfl, rfl⟩

/-- The server reads every statement as prepared with placeholders and then given its values, and
other texts in the call are other values to the same statement. -/
theorem statements_read {f : String → String} (hf : ∀ s, f s = "" ↔ s = "") (call : Call) :
    List.Forall₂ (fun st st' => ∃ tokens, read st.preparedText = some tokens ∧
        read (cString st.text) = some (bindValues tokens st.values) ∧
        read (cString st'.text) = some (bindValues tokens st'.values))
      call.statements (call.mapTexts f).statements := by
  refine (statements_alike hf call).imp fun st st' halike => ?_
  obtain ⟨tokens, htokens⟩ : ∃ tokens, read st.preparedText = some tokens :=
    ⟨_, read_textBy behind_prepared st⟩
  refine ⟨tokens, htokens, ?_, ?_⟩
  · rw [st.cString_text, read_prepared, htokens]
    rfl
  · rw [st'.cString_text, read_prepared, ← halike.preparedText, htokens]
    rfl

/-- A name from a request, and one that would drop a table. -/
def hostile (s : String) : String := if s = "" then "" else "x' OR 1=1; DROP TABLE users; -- "

/-- The name that would drop a table is one value of the same statement. -/
theorem statements_read_hostile :
    (Call.findUser "bob").mapTexts hostile = .findUser "x' OR 1=1; DROP TABLE users; -- " ∧
    List.Forall₂ (fun st st' => ∃ tokens, read st.preparedText = some tokens ∧
        read (cString st.text) = some (bindValues tokens st.values) ∧
        read (cString st'.text) = some (bindValues tokens st'.values))
      (Call.findUser "bob").statements ((Call.findUser "bob").mapTexts hostile).statements := by
  have hempty : ∀ s, hostile s = "" ↔ s = "" := by
    intro s
    unfold hostile
    by_cases hs : s = ""
    · rw [if_pos hs]
      exact iff_of_true rfl hs
    · rw [if_neg hs]
      exact iff_of_false (by decide) hs
  exact ⟨rfl, statements_read hempty (.findUser "bob")⟩

end NightWatcher.Statements
