import NightWatcher.Api.Auth
import NightWatcher.Api.Rendering

/-!
# Handlers: settings, events, extensions, the platform helper, discovery

The endpoints that belong to no single device. Each handler is the C++ lambda of
its route: what it checks, in which order, and what it answers. What is thrown
inside a handler's `try` is answered with 500 (502 or 400 where the source says
so); what is thrown outside it leaves the handler.
-/

namespace NightWatcher.Api

open Database Sqm

variable (d : Deps) (cfg : ApiConfig)

/-- A handler that only reads the database. -/
def dbRead (q : Query Response) : Act Response := orError 500 do
  ask connect
  ask q

/-! ## Liveness -/

/-- `GET /version` -/
def version : Act Response := pure (send 200 (Json.ofMembers [("version", .str d.version)]))

/-- `GET /health` -/
def health : Act Response := do
  let db ← tryCatch (do
    ask connect
    return [("db", Json.str "ok")]) fun e => pure [("db", .str "error"), ("db_error", .str e)]
  return send 200 (Json.ofMembers ([("status", .str "ok"), ("version", .str d.version)] ++ db))

/-! ## Settings -/

def listenerJson (bind : String) (port : Int) (tls : Bool) : Json :=
  Json.ofMembers [("bind", .str bind), ("port", .int port), ("tls", .bool tls)]

/-- The running and the configured listener. -/
def settingsMembers : Query (List (String × Json)) := do
  let cbind ← do
    match ← getSetting d.server "api_bind" with
    | some v => pure (if v = "" then cfg.bind else v)
    | none => pure cfg.bind
  let cport ← do
    match ← getSetting d.server "api_port" with
    | some v => pure (if v = "" then cfg.port else atoi v)
    | none => pure cfg.port
  let ctls ← do
    match ← getSetting d.server "api_tls" with
    | some v => pure (decide (v = "on"))
    | none => pure cfg.runTls
  return [("running", listenerJson cfg.bind cfg.port cfg.runTls),
    ("configured", listenerJson cbind cport ctls),
    ("restart_required", .bool (cbind ≠ cfg.bind ∨ cport ≠ cfg.port ∨ ctls ≠ cfg.runTls))]

/-- `GET /settings` -/
def getSettings (req : Request) : Act Response := adminOnly d cfg req <| dbRead do
  return send 200 (Json.ofMembers (← settingsMembers d cfg))

/-- The port a settings body asks for; 0 when it is neither a number nor a text. -/
def portOf : Json → Except String Int
  | .str s => .ok (atoi s)
  | j => if j.isNumber then j.getInt else .ok 0

/-- Is TLS asked for? -/
def tlsOf : Json → Bool
  | .bool b => b
  | .str s => s = "on" || s = "true" || s = "1" || s = "yes"
  | _ => false

/-- `PUT /settings`: one setting after the other, up to the first that is refused. -/
def putSettings (req : Request) : Act Response :=
  adminOnly d cfg req <| withBody d req fun body => orError 500 do
    ask connect
    if let some (.str b) := body.member? "bind" then
      if !validBind b then
        return sendErr 400 "invalid bind address"
      setSetting d.server "api_bind" b
    if let some v := body.member? "port" then
      let p ← liftExcept (portOf v)
      if p < 1 ∨ 65535 < p then
        return sendErr 400 "port out of range (1-65535)"
      setSetting d.server "api_port" (toString p)
    if let some v := body.member? "tls" then
      setSetting d.server "api_tls" (if tlsOf v then "on" else "off")
    return send 200 (Json.ofMembers (← ask (settingsMembers d cfg)))

/-- `POST /settings/apply`: answer first, then ask the daemon to restart the server. -/
def applySettings (req : Request) : Act Response := adminOnly d cfg req do
  let (res, done) ← tryCatch (do
    ask connect
    let members ← ask (settingsMembers d cfg)
    return (send 200 (Json.ofMembers (members ++ [("applying", .bool cfg.onApply)])), true))
    fun e => pure (sendErr 500 e, false)
  if done && cfg.onApply then
    logEffect .apply
  return res

/-! ## Events, schema, extensions -/

/-- `GET /events` -/
def events (req : Request) : Act Response := dbRead do
  return send 200 (.arr ((← recentEvents (req.limitOr 50)).map eventJson))

/-- `GET /db/status` -/
def dbStatus : Act Response := dbRead do
  return send 200 (Json.ofMembers [("tables", .arr ((← schemaStatus).map tableCountJson))])

/-- `POST /db/init` -/
def dbInit (req : Request) : Act Response := adminOnly d cfg req do
  if cfg.schemaFile = "" then
    return sendErr 503 "schema_file not configured"
  match cfg.schemaText with
  | none => return sendErr 500 ("cannot open schema file: " ++ cfg.schemaFile)
  | some text =>
    orError 500 do
      ask connect
      runSchemaScript d.server text
      let tables := (← ask schemaStatus).map tableCountJson
      return send 200 (Json.ofMembers [("initialized", .bool true), ("tables", .arr tables)])

/-- `GET /extensions` -/
def listExtensions : Act Response := dbRead do
  return send 200 (.arr ((← extensions d.server).map extensionJson))

/-- A row of any table, by its column names. -/
def cellsJson (columns : List String) (cells : List (Option String)) : Json :=
  Json.ofMembers ((columns.zip cells).map fun p => (p.1, (p.2.map Json.str).getD .null))

/-- `GET /extensions/{name}/data` -/
def extensionData (req : Request) (name : String) : Act Response := dbRead do
  match ← findExtension d.server name with
  | none => return sendErr 404 "no such extension"
  | some (ext, _) =>
    if ext.dataTable = "" || !validIdentifier ext.dataTable then
      return sendErr 400 "extension has no valid data table"
    let data ← queryRecent d.server ext.dataTable (req.limitOr 200)
    return send 200 (Json.ofMembers [("extension", .str ext.name), ("label", .str ext.label),
      ("columns", .arr (data.columns.map Json.str)),
      ("rows", .arr (data.rows.map (cellsJson data.columns)))])

/-! ## The platform helper -/

/-- One request to the helper: status, content type and body of its answer. -/
def askHelper (method target body : String) : Act (Option (Nat × String × String)) := fun w =>
  let effects := w.effects ++ [Effect.helper method target body]
  match w.helperAnswers with
  | [] => .ok none { w with effects }
  | answer :: rest => .ok answer { w with helperAnswers := rest, effects }

/-- Forward a request to the helper at a path of its own. -/
def platformProxy (req : Request) (path : String) : Act Response := do
  if !(← get).helperPresent then
    return sendErr 404 "no platform helper on this system"
  if path.toList.head? ≠ some '/' ∨ ['.', '.'] <:+: path.toList then
    return sendErr 400 "invalid platform path"
  -- the query goes along as it was sent
  let target := path ++ String.ofList (req.target.toList.dropWhile (· ≠ '?'))
  let answer ←
    if req.method = .post then askHelper "POST" target req.body else askHelper "GET" target ""
  match answer with
  | none => return sendErr 502 "platform helper unreachable"
  | some (status, ctype, body) =>
    return { status, content := .text (if ctype = "" then "application/json" else ctype) body }

/-- `GET /platform` and both of `/platform/…` -/
def platform (req : Request) (path : String) : Act Response :=
  adminOnly d cfg req (platformProxy req path)

/-! ## Discovery -/

def foundJson (key : String) (p : String × UnitInfo) : Json :=
  Json.ofMembers [(key, .str p.1), ("serial", .str p.2.serial), ("model", .int p.2.model),
    ("feature", .int p.2.feature), ("protocol", .int p.2.protocol)]

/-- `GET /discover` -/
def discover (req : Request) : Act Response := do
  if !req.hasParam "cidr" then
    return sendErr 400 "missing 'cidr' query parameter"
  orError 400 do
    return send 200 (.arr ((← scan (req.param "cidr")).map (foundJson "ip")))

/-- `GET /discover/usb` -/
def discoverUsb : Act Response := orError 500 do
  return send 200 (.arr ((← scan "usb").map (foundJson "device")))

end NightWatcher.Api
