import NightWatcher.Export.DsnFormat

/-!
# `exporter.cpp`: the export targets

`makeExporter` picks the exporter of a target row; its `run` formats the readings
it is handed and pushes them, and throws on any failure. `dsn` writes one file
and replaces what the destination had under that name; `webhook` posts the
readings in slices of the configured size and stops at the first slice that is
not answered 2xx.

The DSN destination is a directory or a Google Drive folder. A transfer is one
exchange with it here (`transferFile`): the Drive client looks the name up and
updates the file it is shown or creates one. Which file that is, and how much of
what was written a directory keeps, `FileKey.hit` and `FileKey.keeps` say.
-/

namespace NightWatcher.Exporter

variable (d : Deps)

/-- What an exporter says of a run. -/
structure ExportResult where
  fileName : String := ""
  remoteId : String := ""
  rowCount : Nat := 0

/-- What a run hands to its exporter: what is new, or whole months. -/
inductive Windowing where
  | monthly | incremental
deriving DecidableEq

/-! ## DSN -/

/-- How the Drive client gets its token. -/
structure DriveAuth where
  mode : String
  clientEmail : String := ""
  privateKey : String := ""
  clientId : String := ""
  clientSecret : String := ""
  refreshToken : String := ""
  tokenUri : String := "https://oauth2.googleapis.com/token"

/-- `drive_auth_from_config`: the keys may stand in an object `auth` or beside the rest. -/
def driveAuthFromConfig (configJson : String) : Except String DriveAuth := do
  let cfg ← parseConfig d configJson
  let a := match cfg.member? "auth" with
    | some (.obj ms) => Json.obj ms
    | _ => cfg
  let given ← a.valueOr "mode" Json.getString ""
  let mode :=
    if given ≠ "" then given
    else if a.contains "private_key" then "service_account"
    else if a.contains "refresh_token" then "oauth"
    else ""
  let tokenUri := cfgOr a "token_uri" "https://oauth2.googleapis.com/token"
  if mode = "service_account" then
    let clientEmail ← a.valueOr "client_email" Json.getString ""
    let privateKey ← a.valueOr "private_key" Json.getString ""
    if clientEmail = "" || privateKey = "" then
      throw "service_account auth requires client_email and private_key"
    return { mode, tokenUri, clientEmail, privateKey }
  else if mode = "oauth" then
    let clientId ← a.valueOr "client_id" Json.getString ""
    let clientSecret ← a.valueOr "client_secret" Json.getString ""
    let refreshToken ← a.valueOr "refresh_token" Json.getString ""
    if clientId = "" || clientSecret = "" || refreshToken = "" then
      throw "oauth auth requires client_id, client_secret, and refresh_token"
    return { mode, tokenUri, clientId, clientSecret, refreshToken }
  else
    throw "drive auth: set \"mode\" to service_account or oauth"

/-- Where a config sends its files. -/
def dsnDestination (config : String) (fileName : String) : Except String FileKey := do
  let cfg ← parseConfig d config
  let outbox ← cfg.valueOr "outbox_dir" Json.getString ""
  if outbox ≠ "" then
    return .outbox (outbox ++ "/" ++ fileName)
  let folder ← cfg.valueOr "drive_folder_id" Json.getString ""
  if folder ≠ "" then
    let _ ← driveAuthFromConfig d config
    return .drive folder fileName
  throw "dsn export has no destination: set drive_folder_id or outbox_dir"

/-- `DsnExporter::run` -/
def runDsn (config : String) (ctx : ExportContext) : Act ExportResult := do
  let content ← liftExcept (formatDsnDat d ctx config)
  let fileName ← liftExcept (dsnFileName d ctx config)
  let rowCount := ctx.readings.length
  let key ← liftExcept (dsnDestination d config fileName)
  let remoteId ← transferFile key ctx content
  match key with
  | .outbox path => return { fileName, rowCount, remoteId := "file://" ++ path }
  | .drive _ _ => return { fileName, rowCount, remoteId }

/-! ## Webhook -/

/-- A number, or `null`. -/
def optNumber : Option ℚ → Json
  | some q => .dbl q
  | none => .null

/-- The sensor as every body carries it. -/
def webhookSensor (s : SensorRow) : Json :=
  Json.ofMembers
    ([("id", .str s.id)]
      ++ (if s.name = "" then [] else [("name", .str s.name)])
      ++ [("latitude", optNumber s.latitude), ("longitude", optNumber s.longitude),
          ("elevation_m", optNumber s.elevationM)]
      ++ (if s.timezone = "" then [] else [("timezone", .str s.timezone)]))

/-- A reading as it is posted. -/
def readingJson (r : ReadingRow) : Json :=
  Json.ofMembers [("ts_utc", .str r.tsUtc), ("mag_arcsec2", .dbl r.magArcsec2),
    ("temp_c", .dbl r.tempC), ("quality", .str (SqlEnum.text r.quality))]

/-- The ambient temperatures of the window. -/
def webhookWeather (weather : List WeatherReadingRow) : List Json :=
  weather.filterMap fun w =>
    w.tempC.map fun t => Json.ofMembers [("ts_utc", .str w.tsUtc), ("temp_c", .dbl t)]

/-- The body of one POST; without weather there is no such member. -/
def webhookBody (siteId : String) (sensor : Json) (warr : List Json) (rs : List ReadingRow) : Json :=
  Json.ofMembers
    ([("site_id", .str siteId), ("sensor", sensor), ("readings", .arr (rs.map readingJson))]
      ++ (if warr = [] then [] else [("weather", .arr warr)]))

/-- Post one slice. -/
def postSlice (url : String) (body : Json) : Act Unit := do
  let (status, text) ←
    tryCatch (postJson url body) fun e => throw ("webhook POST to " ++ url ++ " failed: " ++ e)
  if status < 200 || 300 ≤ status then
    throw ("webhook POST returned HTTP " ++ toString status ++ ": " ++ text)

/-- Rows in slices of `n + 1`. -/
def slices {α : Type} (n : Nat) : List α → List (List α)
  | [] => []
  | a :: as => (a :: as.take n) :: slices n (as.drop n)
termination_by rows => rows.length

/-- `WebhookExporter::run` -/
def runWebhook (config : String) (ctx : ExportContext) : Act ExportResult := do
  let cfg ← liftExcept (parseConfig d config)
  let url ← liftExcept (cfg.valueOr "url" Json.getString "")
  if url = "" then
    throw "webhook export requires a 'url'"
  -- `token` and `insecure` only set up the connection, but a member of another type throws
  let _ ← liftExcept (cfg.valueOr "token" Json.getString "")
  let siteId ← liftExcept (cfg.valueOr "site_id" Json.getString ctx.sensor.id)
  let _ ← liftExcept (cfg.valueOr "insecure" Json.getBool false)
  let given ← liftExcept (cfg.valueOr "batch" Json.getInt 2000)
  let batch : Nat := if given < 1 then 2000 else given.toNat
  (slices (batch - 1) ctx.readings).forM fun rs =>
    postSlice url
      (webhookBody siteId (webhookSensor ctx.sensor) (webhookWeather ctx.weather) rs)
  return { fileName := "webhook", remoteId := url, rowCount := ctx.readings.length }

/-! ## The factory -/

/-- The two exporters that there are, with their configs. -/
inductive IExporter where
  | dsn (config : String)
  | webhook (config : String)
deriving DecidableEq

/-- `windowing` -/
def IExporter.windowing : IExporter → Windowing
  | .dsn _ => .monthly
  | .webhook _ => .incremental

/-- `run` -/
def IExporter.run : IExporter → ExportContext → Act ExportResult
  | .dsn config => runDsn d config
  | .webhook config => runWebhook d config

/-- `make_exporter` -/
def makeExporter (target config : String) : Except String IExporter :=
  if config ≠ "" ∧ d.json.parse config = none then .error (target ++ ": invalid config JSON")
  else if target = "dsn" then .ok (.dsn config)
  else if target = "webhook" then .ok (.webhook config)
  else if target = "globeatnight" then .error "globeatnight exporter is not implemented yet"
  else .error ("unknown export target: " ++ target)

end NightWatcher.Exporter
