import NightWatcher.Api.Targets

/-!
# The server: gate, files, routes

`serve` is what the HTTP library does with a request: the pre-routing gate (set
when the server is exposed), a file of the web root, the handler of the route.
What a handler throws is answered with 500 by the library.

The routes are the regular expressions of the source, matched against the decoded
path: `[^/]+` is a non-empty segment, and `(.*)` any text without a line end.
-/

namespace NightWatcher.Api

variable (d : Deps) (cfg : ApiConfig)

/-- The routes, with what their expressions capture. -/
inductive Endpoint where
  | version | health | getSettings | putSettings | applySettings
  | events | dbStatus | dbInit | extensions | extensionData (name : String)
  | platform (path : String) | discover | discoverUsb
  | listSensors | getSensor (id : String) | sensorReadings (id : String) | sensorDsn (id : String)
  | postSensor | patchSensor (id : String) | setStatus (id status : String)
  | deleteSensor (id : String) | deleteReadings (id : String) | pollSensor (id : String)
  | testSensor (id : String) | getCalibration (id : String) | calibrationHistory (id : String)
  | recordCalibration (id : String) | armCalibration (id : String) | disarmCalibration (id : String)
  | setCalibration (id : String)
  | listWeatherStations | getWeatherStation (id : String) | weatherStationReadings (id : String)
  | postWeatherStation | patchWeatherStation (id : String) | deleteWeatherStation (id : String)
  | pollWeatherStation (id : String)
  | listExportTargets | getExportTarget (id : String) | exportTargetLog (id : String)
  | postExportTarget | patchExportTarget (id : String) | deleteExportTarget (id : String)
  | runExportTarget (id : String)
  | login | logout | me | mePassword | listUsers | postUser | deleteUser (name : String)

/-! ## Routes -/

/-- The parts of a path between its slashes. -/
def splitSlash : List Char → List (List Char)
  | [] => [[]]
  | c :: cs =>
    if c = '/' then [] :: splitSlash cs
    else
      match splitSlash cs with
      | [] => [[c]]
      | part :: parts => (c :: part) :: parts

/-- The segments of a path under `/api/v1`. -/
def apiSegments (path : String) : Option (List String) :=
  match (splitSlash path.toList).map String.ofList with
  | "" :: "api" :: "v1" :: rest => some rest
  | _ => none

/-- What `(.*)` captures behind a prefix. -/
def captureAny (before path : String) : Option String :=
  if before.toList <+: path.toList then
    let rest := path.toList.drop before.toList.length
    if rest.any (fun c => c = '\n' || c = '\r') then none else some (String.ofList rest)
  else none

/-- The route of an id below a collection; the id is not empty. -/
def withId (id : String) (e : String → Endpoint) : Option Endpoint :=
  if id = "" then none else some (e id)

def getRoute : List String → Option Endpoint
  | ["version"] => some .version
  | ["health"] => some .health
  | ["settings"] => some .getSettings
  | ["sensors"] => some .listSensors
  | ["sensors", id] => withId id .getSensor
  | ["sensors", id, "readings"] => withId id .sensorReadings
  | ["sensors", id, "dsn"] => withId id .sensorDsn
  | ["events"] => some .events
  | ["extensions"] => some .extensions
  | ["extensions", name, "data"] => withId name .extensionData
  | ["platform"] => some (.platform "/")
  | ["weather-stations"] => some .listWeatherStations
  | ["weather-stations", id] => withId id .getWeatherStation
  | ["weather-stations", id, "readings"] => withId id .weatherStationReadings
  | ["db", "status"] => some .dbStatus
  | ["discover"] => some .discover
  | ["discover", "usb"] => some .discoverUsb
  | ["sensors", id, "calibration"] => withId id .getCalibration
  | ["sensors", id, "calibration", "history"] => withId id .calibrationHistory
  | ["export-targets"] => some .listExportTargets
  | ["export-targets", id, "log"] => withId id .exportTargetLog
  | ["export-targets", id] => withId id .getExportTarget
  | ["me"] => some .me
  | ["users"] => some .listUsers
  | _ => none

def postRoute : List String → Option Endpoint
  | ["settings", "apply"] => some .applySettings
  | ["sensors"] => some .postSensor
  | ["sensors", id, "poll"] => withId id .pollSensor
  | ["sensors", id, "test"] => withId id .testSensor
  | ["sensors", id, "enable"] => withId id fun id => .setStatus id "active"
  | ["sensors", id, "disable"] => withId id fun id => .setStatus id "inactive"
  | ["sensors", id, "calibration", "record"] => withId id .recordCalibration
  | ["sensors", id, "calibration", "arm"] => withId id .armCalibration
  | ["sensors", id, "calibration", "disarm"] => withId id .disarmCalibration
  | ["sensors", id, "calibration", "set"] => withId id .setCalibration
  | ["weather-stations"] => some .postWeatherStation
  | ["weather-stations", id, "poll"] => withId id .pollWeatherStation
  | ["export-targets"] => some .postExportTarget
  | ["export-targets", id, "run"] => withId id .runExportTarget
  | ["db", "init"] => some .dbInit
  | ["login"] => some .login
  | ["logout"] => some .logout
  | ["me", "password"] => some .mePassword
  | ["users"] => some .postUser
  | _ => none

def patchRoute : List String → Option Endpoint
  | ["sensors", id] => withId id .patchSensor
  | ["weather-stations", id] => withId id .patchWeatherStation
  | ["export-targets", id] => withId id .patchExportTarget
  | _ => none

def deleteRoute : List String → Option Endpoint
  | ["sensors", id, "readings"] => withId id .deleteReadings
  | ["sensors", id] => withId id .deleteSensor
  | ["weather-stations", id] => withId id .deleteWeatherStation
  | ["export-targets", id] => withId id .deleteExportTarget
  | ["users", name] => withId name .deleteUser
  | _ => none

/-- The route below `/api/v1/platform/`. -/
def platformRoute (path : String) : Option Endpoint :=
  (captureAny "/api/v1/platform/" path).map fun rest => .platform ("/" ++ rest)

/-- The first route that matches; a HEAD request takes those of GET. -/
def route (req : Request) : Option Endpoint :=
  let segments := apiSegments req.path
  match req.method with
  | .get | .head => (platformRoute req.path).orElse fun _ => segments.bind getRoute
  | .post => (platformRoute req.path).orElse fun _ => segments.bind postRoute
  | .put => segments.bind fun segs => if segs = ["settings"] then some .putSettings else none
  | .patch => segments.bind patchRoute
  | .delete => segments.bind deleteRoute
  | .options | .other => none

/-! ## Handlers -/

def handle (e : Endpoint) (req : Request) : Act Response :=
  match e with
  | .version => version d
  | .health => health d
  | .getSettings => getSettings d cfg req
  | .putSettings => putSettings d cfg req
  | .applySettings => applySettings d cfg req
  | .events => events req
  | .dbStatus => dbStatus
  | .dbInit => dbInit d cfg req
  | .extensions => listExtensions d
  | .extensionData name => extensionData d req name
  | .platform path => platform d cfg req path
  | .discover => discover req
  | .discoverUsb => discoverUsb
  | .listSensors => listSensors d
  | .getSensor id => getSensor d id
  | .sensorReadings id => sensorReadings d req id
  | .sensorDsn id => sensorDsn d req id
  | .postSensor => postSensor d cfg req
  | .patchSensor id => patchSensor d cfg req id
  | .setStatus id status => setStatus d cfg req id status
  | .deleteSensor id => deleteSensor d cfg req id
  | .deleteReadings id => deleteReadings d cfg req id
  | .pollSensor id => pollSensor d cfg req id
  | .testSensor id => testSensor d cfg req id
  | .getCalibration id => getCalibration d id
  | .calibrationHistory id => calibrationHistory d req id
  | .recordCalibration id => recordCalibration d cfg req id
  | .armCalibration id => armCalibration d cfg req id
  | .disarmCalibration id => disarmCalibration d cfg req id
  | .setCalibration id => setCalibration d cfg req id
  | .listWeatherStations => listWeatherStations d
  | .getWeatherStation id => getWeatherStation d id
  | .weatherStationReadings id => weatherStationReadings d req id
  | .postWeatherStation => postWeatherStation d cfg req
  | .patchWeatherStation id => patchWeatherStation d cfg req id
  | .deleteWeatherStation id => deleteWeatherStation d cfg req id
  | .pollWeatherStation id => pollWeatherStation d cfg req id
  | .listExportTargets => listExportTargets d
  | .getExportTarget id => getExportTarget d id
  | .exportTargetLog id => exportTargetLog d req id
  | .postExportTarget => postExportTarget d cfg req
  | .patchExportTarget id => patchExportTarget d cfg req id
  | .deleteExportTarget id => deleteExportTarget d cfg req id
  | .runExportTarget id => runExportTarget d cfg req id
  | .login => login d req
  | .logout => logout d req
  | .me => me d cfg req
  | .mePassword => mePassword d req
  | .listUsers => listUsers d cfg req
  | .postUser => postUser d cfg req
  | .deleteUser name => deleteUserNamed d cfg req name

/-! ## A request -/

/-- Paths that stay open on an exposed server: signing in and liveness. -/
def publicPaths : List String :=
  ["/api/v1/login", "/api/v1/logout", "/api/v1/me", "/api/v1/version", "/api/v1/health"]

/-- The pre-routing gate: a refusal, or none. -/
def gate (req : Request) : Act (Option Response) :=
  if !cfg.requireAuthReads then pure none
  else if ¬"/api/v1/".toList <+: req.path.toList then pure none
  else if req.path ∈ publicPaths then pure none
  else requireAuth d cfg req false

/-- A file of the web root. -/
def webFile (req : Request) : Option Response :=
  match req.method with
  | .get | .head => (cfg.webRoot req.path).map fun text =>
      { status := 200, content := .text "" text }
  | _ => none

def serve (req : Request) : Act Response :=
  tryCatch (do
    match ← gate d cfg req with
    | some refusal => return refusal
    | none =>
      match webFile cfg req with
      | some res => return res
      | none =>
        match route req with
        | none => return { status := if req.method = .other then 400 else 404 }
        | some e => handle d cfg e req)
    fun e => pure { status := 500, headers := [("EXCEPTION_WHAT", e)] }

end NightWatcher.Api
