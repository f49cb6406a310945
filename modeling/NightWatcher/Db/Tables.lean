import Mathlib.Data.Rat.Defs
import Mathlib.Data.String.Basic

/-!
# The schema: rows and tables

`schema.sql` as types. A row has the fields of the struct the daemon reads it
into (`database.hpp`); a nullable text column that is NULL reads as the empty
string there, so it is the empty string here, and a nullable number is an
`Option`. ENUM columns are inductive types: no table can hold a status, a role or
a schedule outside the schema's list. Timestamps are texts as the server returns
them, except a session's expiry, which only the server's clock is compared with.

A table is the list of its rows in insertion order. `created_at` columns are kept
only where a struct reads them.
-/

namespace NightWatcher

/-! ## ENUM columns -/

/-- How a device is reached. -/
inductive Transport where
  | tcp | serial
deriving DecidableEq, Repr

/-- The status of a sensor, a station or a target. -/
inductive Status where
  | active | inactive | retired
deriving DecidableEq, Repr

/-- What a reading is worth. -/
inductive Quality where
  | ok | saturated | suspect
deriving DecidableEq, Repr

/-- What a reading was taken for. -/
inductive Source where
  | poll | interval
deriving DecidableEq, Repr

/-- The level of an event. -/
inductive Level where
  | info | warning | error
deriving DecidableEq, Repr

/-- What a row of the calibration log records. -/
inductive EventType where
  | calibration | configChange
deriving DecidableEq, Repr

/-- What a user may do. -/
inductive Role where
  | admin | viewer
deriving DecidableEq, Repr

/-- When a target is exported. -/
inductive Schedule where
  | nightly | manual | interval | weekly | monthly
deriving DecidableEq, Repr

/-- What became of an export. -/
inductive LogStatus where
  | ok | error | empty
deriving DecidableEq, Repr

/-- The labels of an ENUM column, in the order of `schema.sql`. -/
class SqlEnum (α : Type) where
  labels : List (String × α)
  text : α → String

instance : SqlEnum Transport where
  labels := [("tcp", .tcp), ("serial", .serial)]
  text | .tcp => "tcp" | .serial => "serial"

instance : SqlEnum Status where
  labels := [("active", .active), ("inactive", .inactive), ("retired", .retired)]
  text | .active => "active" | .inactive => "inactive" | .retired => "retired"

instance : SqlEnum Quality where
  labels := [("ok", .ok), ("saturated", .saturated), ("suspect", .suspect)]
  text | .ok => "ok" | .saturated => "saturated" | .suspect => "suspect"

instance : SqlEnum Source where
  labels := [("poll", .poll), ("interval", .interval)]
  text | .poll => "poll" | .interval => "interval"

instance : SqlEnum Level where
  labels := [("info", .info), ("warning", .warning), ("error", .error)]
  text | .info => "info" | .warning => "warning" | .error => "error"

instance : SqlEnum EventType where
  labels := [("calibration", .calibration), ("config_change", .configChange)]
  text | .calibration => "calibration" | .configChange => "config_change"

instance : SqlEnum Role where
  labels := [("admin", .admin), ("viewer", .viewer)]
  text | .admin => "admin" | .viewer => "viewer"

instance : SqlEnum Schedule where
  labels := [("nightly", .nightly), ("manual", .manual), ("interval", .interval),
    ("weekly", .weekly), ("monthly", .monthly)]
  text
    | .nightly => "nightly" | .manual => "manual" | .interval => "interval"
    | .weekly => "weekly" | .monthly => "monthly"

instance : SqlEnum LogStatus where
  labels := [("ok", .ok), ("error", .error), ("empty", .empty)]
  text | .ok => "ok" | .error => "error" | .empty => "empty"

/-! ## Rows -/

/-- `sensors` -/
structure SensorRow where
  id : String
  name : String := ""
  site : String := ""
  serialNumber : String := ""
  model : String := ""
  protocolVer : Option Int := none
  featureVer : Option Int := none
  latitude : Option ℚ := none
  longitude : Option ℚ := none
  elevationM : Option ℚ := none
  timezone : String := ""
  transport : Transport
  address : String
  pollIntervalS : Int := 300
  status : Status := .active
  installedAt : String := ""
  notes : String := ""
  createdAt : String := ""
deriving DecidableEq

/-- `readings` -/
structure ReadingRow where
  id : Nat := 0
  sensorId : String
  tsUtc : String
  magArcsec2 : ℚ
  freqHz : Int
  periodCounts : Int
  periodS : ℚ
  tempC : ℚ
  quality : Quality := .ok
  source : Source := .poll
  rawLine : String := ""
deriving DecidableEq

/-- `config_log`: the calibration of a sensor at a time. -/
structure ConfigLogRow where
  id : Nat
  sensorId : String
  tsUtc : String
  eventType : EventType
  lightCalOffset : Option ℚ := none
  darkCalPeriodS : Option ℚ := none
  tempLightC : Option ℚ := none
  sensorOffset : Option ℚ := none
  tempDarkC : Option ℚ := none
  intervalS : Option Int := none
  threshold : Option ℚ := none
  raw : String := ""
  changedBy : String := ""
  note : String := ""
deriving DecidableEq

/-- `events` -/
structure EventRow where
  id : Nat
  tsUtc : String
  deviceId : String := ""
  source : String
  level : Level := .info
  event : String
  detail : String := ""
deriving DecidableEq

/-- `weather_stations` -/
structure WeatherStationRow where
  id : String
  name : String := ""
  site : String := ""
  model : String := ""
  provider : String := ""
  config : String := ""
  transport : String := ""
  address : String := ""
  latitude : Option ℚ := none
  longitude : Option ℚ := none
  elevationM : Option ℚ := none
  timezone : String := ""
  pollIntervalS : Int := 300
  status : Status := .active
  installedAt : String := ""
  notes : String := ""
  createdAt : String := ""
deriving DecidableEq

/-- `weather_readings`, in the units of the schema. -/
structure WeatherReadingRow where
  id : Nat := 0
  stationId : String := ""
  tsUtc : String := ""
  tempC : Option ℚ := none
  humidityPct : Option ℚ := none
  dewPointC : Option ℚ := none
  pressureHpa : Option ℚ := none
  pressureAbsHpa : Option ℚ := none
  windSpeedMs : Option ℚ := none
  windGustMs : Option ℚ := none
  windDirDeg : Option Int := none
  rainRateMmh : Option ℚ := none
  rainDailyMm : Option ℚ := none
  uvIndex : Option ℚ := none
  solarWm2 : Option ℚ := none
  cloudCoverPct : Option ℚ := none
  source : String := ""
  raw : String := ""
deriving DecidableEq

/-- `users` -/
structure UserRow where
  id : Nat
  username : String
  passwordHash : String
  role : Role := .admin
  mustChangePassword : Bool := false
  createdAt : String := ""
deriving DecidableEq

/-- `sessions` -/
structure SessionRow where
  token : String
  userId : Nat
  /-- seconds since the epoch -/
  expiresAt : Int
deriving DecidableEq

/-- `export_targets` -/
structure ExportTargetRow where
  id : String
  sensorId : String
  name : String := ""
  target : String
  config : String := ""
  schedule : Schedule := .nightly
  scheduleTime : String := ""
  intervalS : Option Int := none
  scheduleDay : Option Int := none
  lastExportTs : String := ""
  status : Status := .active
  notes : String := ""
  createdAt : String := ""
deriving DecidableEq

/-- `export_log` -/
structure ExportLogRow where
  id : Nat := 0
  targetId : String
  tsUtc : String := ""
  fromTs : String := ""
  toTs : String := ""
  rowCount : Nat := 0
  fileName : String := ""
  remoteId : String := ""
  status : LogStatus := .ok
  detail : String := ""
deriving DecidableEq

/-- `extensions`: data tables of other programs that the API shows. -/
structure ExtensionRow where
  name : String
  label : String
  version : String := ""
  dataTable : String := ""
  host : String := ""
  pid : Option Int := none
  status : String := "active"
  /-- seconds since the epoch, for the heartbeat's age -/
  lastHeartbeat : Int
  startedAt : String := ""
deriving DecidableEq

/-! ## The database -/

/-- The next AUTO_INCREMENT value of each table that has one. -/
structure Counters where
  readings : Nat := 1
  configLog : Nat := 1
  events : Nat := 1
  weatherReadings : Nat := 1
  users : Nat := 1
  exportLog : Nat := 1
deriving DecidableEq

/-- The tables, each with its rows in the order they were inserted. -/
structure Db where
  sensors : List SensorRow := []
  readings : List ReadingRow := []
  configLog : List ConfigLogRow := []
  events : List EventRow := []
  weatherStations : List WeatherStationRow := []
  weatherReadings : List WeatherReadingRow := []
  users : List UserRow := []
  sessions : List SessionRow := []
  exportTargets : List ExportTargetRow := []
  exportLog : List ExportLogRow := []
  settings : List (String × String) := []
  extensions : List ExtensionRow := []
  next : Counters := {}
deriving DecidableEq

/-! ## Partial updates -/

/-- The editable columns of a sensor; `none` leaves a column alone. -/
structure SensorFields where
  name : Option String := none
  site : Option String := none
  serialNumber : Option String := none
  model : Option String := none
  protocolVer : Option Int := none
  featureVer : Option Int := none
  latitude : Option ℚ := none
  longitude : Option ℚ := none
  elevationM : Option ℚ := none
  timezone : Option String := none
  transport : Option String := none
  address : Option String := none
  pollIntervalS : Option Int := none
  status : Option String := none
  installedAt : Option String := none
  notes : Option String := none
deriving DecidableEq

/-- What a request gives of a station; an update leaves a field alone that is `none`. -/
structure WeatherStationFields where
  name : Option String := none
  site : Option String := none
  model : Option String := none
  provider : Option String := none
  config : Option String := none
  transport : Option String := none
  address : Option String := none
  latitude : Option ℚ := none
  longitude : Option ℚ := none
  elevationM : Option ℚ := none
  timezone : Option String := none
  pollIntervalS : Option Int := none
  status : Option String := none
  installedAt : Option String := none
  notes : Option String := none
deriving DecidableEq

/-- What a request gives of a target; an update leaves a field alone that is `none`. -/
structure ExportTargetFields where
  sensorId : Option String := none
  name : Option String := none
  target : Option String := none
  config : Option String := none
  schedule : Option String := none
  scheduleTime : Option String := none
  intervalS : Option Int := none
  scheduleDay : Option Int := none
  status : Option String := none
  notes : Option String := none
deriving DecidableEq

/-- `SELECT *` of any table: column names and null-aware cells. -/
structure TableData where
  columns : List String
  rows : List (List (Option String))

/-- A table of the schema, whether it is there, and how many rows it has. -/
structure TableCount where
  table : String
  present : Bool
  rows : Nat

/-- The user behind a valid session. -/
structure SessionInfo where
  userId : Nat
  username : String
  role : Role
deriving DecidableEq

end NightWatcher
