import NightWatcher.Api.Accounts
import NightWatcher.Daemon.Connection
import NightWatcher.Daemon.Main
import NightWatcher.Db.Writes

/-!
# What each route and each worker writes

`Endpoint.touches` lists, for every route, the kinds of statements its handler may
make; `writes_serve` says that a request makes no others, whoever sends it and
whatever fails on the way. The cycles of the workers and the start of the daemon
have their own short lists.
-/

namespace NightWatcher.Api

open Throwing Database Sqm Weather Exporter Daemon

variable {d : Deps} {cfg : ApiConfig} {req : Request} {ks : List Write}

/-! ## Routines that write nothing -/

section Nothing

variable {α : Type} {srv : Server}

/-- A program that leaves the tables alone writes nothing of any kind. -/
theorem writes_quiet {x : Act α} (h : Keeps Quiet x) : Keeps (Writes srv ks) x :=
  writes_of_same (h.weaken fun _ _ hq => Prod.ext hq.db hq.now)

/-- So does one that only talks to the world outside. -/
theorem writes_outward {x : Act α} (h : Outward x) : Keeps (Writes srv ks) x := by
  refine writes_of_same (h.keeps.weaken fun w w' hsame => ?_)
  obtain ⟨hdb, hrest⟩ := Prod.mk.inj hsame
  exact Prod.ext hdb (congrArg Prod.fst hrest)

/-- Drawing a random value writes no table. -/
theorem writes_draw : Keeps (Writes srv ks) draw := writes_of_same fun _ => rfl

theorem writes_logEffect (e : Effect) : Keeps (Writes srv ks) (logEffect e) :=
  writes_of_same fun _ => rfl

theorem writes_reload : Keeps (Writes srv ks) (reload cfg) :=
  keeps_ite (writes_logEffect _) (keeps_pure _)

/-- The platform helper is another process; asking it writes no table. -/
theorem writes_askHelper (method target body : String) :
    Keeps (Writes srv ks) (askHelper method target body) := by
  refine writes_of_same fun w => ?_
  unfold askHelper
  cases w.helperAnswers with
  | nil => rfl
  | cons answer rest => rfl

/-- Neither does handing a file over, whatever becomes of it. -/
theorem writes_transferFile (key : FileKey) (ctx : ExportContext) (text : String) :
    Keeps (Writes srv ks) (transferFile key ctx text) := by
  refine writes_of_same fun w => ?_
  unfold transferFile
  cases w.transfers with
  | nil => rfl
  | cons transfer rest => cases transfer <;> rfl

/-- Nor a POST, answered or not. -/
theorem writes_postJson (url : String) (body : Json) : Keeps (Writes srv ks) (postJson url body) := by
  refine writes_of_same fun w => ?_
  unfold postJson
  cases w.answers with
  | nil => rfl
  | cons answer rest => cases answer <;> rfl

/-- A command to a sensor writes no table, however its answer is parsed. -/
theorem writes_command (dev : SqmDevice) (cmd : String) (parse : String → Except String α) :
    Keeps (Writes srv ks) (dev.queryRaw cmd >>= fun line => liftExcept (parse line)) :=
  keeps_bind (writes_outward (outward_queryRaw dev cmd)) fun _ => keeps_liftExcept _

theorem writes_setCalValue (dev : SqmDevice) (which : Char) (value : ℚ) (decimals : Nat) :
    Keeps (Writes srv ks) (dev.setCalValue d which value decimals) :=
  keeps_bind (writes_outward (outward_queryRaw dev _)) fun _ => keeps_bind (keeps_liftExcept _) fun _ =>
    keeps_ite (keeps_throw _) (keeps_pure _)

/-- Each setter of a calibration speaks to the device only. -/
theorem writes_applySetter (body : Json) (dev : SqmDevice)
    {setter : String × (SqmDevice → ℚ → Act CalSetEcho)} (hsetter : setter ∈ calibrationSetters d) :
    Keeps (Writes srv ks) (applySetter body dev setter) := by
  have hwrite : ∀ v, Keeps (Writes srv ks) (setter.2 dev v) := by
    intro v
    simp only [calibrationSetters, List.mem_cons, List.not_mem_nil, or_false] at hsetter
    rcases hsetter with rfl | rfl | rfl | rfl <;> exact writes_setCalValue dev _ v _
  unfold applySetter
  cases body.member? setter.1 with
  | none => exact keeps_pure _
  | some v =>
    exact keeps_ite (keeps_bind (keeps_liftExcept _) fun x => keeps_bind (hwrite x) fun _ =>
      keeps_pure _) (keeps_pure _)

/-- Probing a new sensor fills the fields in; they are stored later. -/
theorem writes_probeFill (f : SensorFields) : Keeps (Writes srv ks) (probeFill d f) := by
  unfold probeFill
  cases f.transport with
  | none => exact keeps_pure _
  | some transport =>
    cases f.address with
    | none => exact keeps_pure _
    | some address =>
      refine keeps_tryCatch (keeps_bind (writes_outward (outward_openDevice _ _)) fun dev => ?_)
        fun _ => keeps_pure _
      exact keeps_bind (writes_quiet (quiet_info dev)) fun _ => keeps_pure _

/-- Behind the check of the role a handler writes what it writes. -/
theorem writes_adminOnly {k : Act Response} (hk : Keeps (Writes srv ks) k) :
    Keeps (Writes srv ks) (adminOnly d cfg req k) := by
  refine keeps_bind (writes_quiet (quiet_requireAuth req true)) fun refusal => ?_
  cases refusal with
  | none => exact hk
  | some res => exact keeps_pure _

/-- A handler that turns an exception into a status writes what its body writes. -/
theorem writes_orError {status : Nat} {x : Act Response} (h : Keeps (Writes srv ks) x) :
    Keeps (Writes srv ks) (orError status x) :=
  keeps_tryCatch h fun _ => keeps_pure _

/-- Parsing the body writes nothing, so a handler writes what it does with it. -/
theorem writes_withBody {k : Json → Act Response} (hk : ∀ body, Keeps (Writes srv ks) (k body)) :
    Keeps (Writes srv ks) (withBody d req k) := by
  unfold withBody
  cases d.json.parse req.body with
  | none => exact keeps_pure _
  | some body => exact hk body

/-- A handler of a device opens it and writes what it does with it. -/
theorem writes_withDevice {id : String} {k : SensorRow → SqmDevice → Act Response}
    (hk : ∀ s dev, Keeps (Writes srv ks) (k s dev)) : Keeps (Writes srv ks) (withDevice d id k) := by
  refine writes_orError (keeps_bind (writes_ask _) fun _ => keeps_bind (writes_ask _) fun found => ?_)
  cases found with
  | none => exact keeps_pure _
  | some s => exact keeps_bind (writes_outward (outward_openDevice _ _)) fun dev => hk s dev

/-- Who asks is found out by reading. -/
theorem writes_authUser : Keeps (Writes srv ks) (authUser d cfg req) :=
  keeps_ite (keeps_pure _) (keeps_bind (writes_quiet (quiet_sessionInfo _)) fun _ => keeps_pure _)

end Nothing

/-! ## An export run -/

/-- A push that failed leaves a row in the export log. -/
theorem writes_logFailure {α : Type} (hlog : .exportLog ∈ ks) (log : ExportLogRow) (e : String) :
    Keeps (Writes d.server ks) (logFailure d log e : Act α) :=
  keeps_bind (keeps_tryCatch (keeps_bind (writes_insertExportLog hlog) fun _ => keeps_pure _)
    fun _ => keeps_pure _) fun _ => keeps_throw _

/-- The DSN exporter writes a file, and no table. -/
theorem writes_runDsn (config : String) (ctx : ExportContext) :
    Keeps (Writes d.server ks) (runDsn d config ctx) := by
  refine keeps_bind (keeps_liftExcept _) fun content => keeps_bind (keeps_liftExcept _) fun name =>
    keeps_bind (keeps_liftExcept _) fun key => keeps_bind (writes_transferFile _ _ _) fun remoteId => ?_
  cases key with
  | outbox path => exact keeps_pure _
  | drive folder name => exact keeps_pure _

/-- A slice goes out with a POST. -/
theorem writes_postSlice (url : String) (body : Json) :
    Keeps (Writes d.server ks) (postSlice url body) := by
  refine keeps_bind (keeps_tryCatch (writes_postJson url body) fun _ => keeps_throw _)
    fun answer => ?_
  exact keeps_ite (keeps_throw _) (keeps_pure _)

/-- So does all that the webhook exporter hands over. -/
theorem writes_runWebhook (config : String) (ctx : ExportContext) :
    Keeps (Writes d.server ks) (runWebhook d config ctx) := by
  refine keeps_bind (keeps_liftExcept _) fun cfg => keeps_bind (keeps_liftExcept _) fun url => ?_
  refine keeps_ite (keeps_throw _) ?_
  refine keeps_bind (keeps_liftExcept _) fun _ => keeps_bind (keeps_liftExcept _) fun siteId =>
    keeps_bind (keeps_liftExcept _) fun _ => keeps_bind (keeps_liftExcept _) fun given => ?_
  exact keeps_bind (keeps_forM (fun rs => writes_postSlice _ _) _) fun _ => keeps_pure _

/-- A push writes the export log, whatever the exporter comes to. -/
theorem writes_pushAndLog (hlog : .exportLog ∈ ks) (targetId : String) (exporter : IExporter)
    (ctx : ExportContext) : Keeps (Writes d.server ks) (pushAndLog d targetId exporter ctx) := by
  have hrun : Keeps (Writes d.server ks) (exporter.run d ctx) := by
    cases exporter with
    | dsn config => exact writes_runDsn config ctx
    | webhook config => exact writes_runWebhook config ctx
  refine keeps_bind (keeps_tryCatch hrun fun e => writes_logFailure hlog _ e) fun res => ?_
  exact keeps_bind (keeps_tryCatch (keeps_bind (writes_insertExportLog hlog) fun _ => keeps_pure _)
    fun e => writes_logFailure hlog _ e) fun _ => keeps_pure _

/-- A run writes the export log and the watermark of its target. -/
theorem writes_runExport (hlog : .exportLog ∈ ks) (hmark : .watermark ∈ ks) (t : ExportTargetRow) :
    Keeps (Writes d.server ks) (runExport d t) := by
  refine keeps_bind (writes_ask _) fun found => ?_
  cases found with
  | none => exact keeps_throw _
  | some sensor =>
    refine keeps_bind keeps_get fun w => keeps_bind (writes_ask _) fun rows => ?_
    refine keeps_ite (keeps_pure _) (keeps_bind (keeps_liftExcept _) fun exporter => ?_)
    cases exporter.windowing with
    | incremental =>
      exact keeps_bind (writes_ask _) fun weather => keeps_bind (writes_pushAndLog hlog _ _ _)
        fun res => keeps_bind (writes_setExportWatermark hmark) fun _ => keeps_pure _
    | monthly =>
      refine keeps_bind (keeps_mapM fun ym _ => ?_) fun results =>
        keeps_bind (writes_setExportWatermark hmark) fun _ => keeps_pure _
      exact keeps_bind (writes_ask _) fun rows => writes_pushAndLog hlog _ _ _

/-! ## Routes -/

/-- The statements of the schema script. -/
def schemaWrites (cfg : ApiConfig) : List Write :=
  ((cfg.schemaText.map scriptStatements).getD []).map Write.schema

/-- The statements a route's handler may make. -/
def Endpoint.touches (cfg : ApiConfig) (req : Request) : Endpoint → List Write
  | .postSensor | .patchSensor _ | .setStatus _ _ => [.sensor]
  | .deleteSensor id => [.sensorGone id]
  | .deleteReadings id => [.readingsGone id (req.param "before")]
  | .pollSensor _ => [.reading]
  | .recordCalibration _ | .setCalibration _ => [.calibration]
  | .armCalibration _ => [.event]
  | .postWeatherStation | .patchWeatherStation _ => [.station]
  | .deleteWeatherStation id => [.stationGone id]
  | .pollWeatherStation _ => [.weatherReading]
  | .postExportTarget | .patchExportTarget _ => [.target]
  | .deleteExportTarget id => [.targetGone id]
  | .runExportTarget _ => [.exportLog, .watermark]
  | .putSettings => [.setting]
  | .dbInit => schemaWrites cfg
  | .login => [.session sessionTtl]
  | .logout => [.sessionGone (sessionToken req)]
  | .mePassword => [.password]
  | .postUser => [.user]
  | .deleteUser name => [.userGone name]
  | _ => []

section Handlers

/-- What follows the bind address in a settings body. -/
theorem writes_putPort (hk : .setting ∈ ks) (body : Json) : Keeps (Writes d.server ks) (do
    if let some v := body.member? "port" then
      let p ← liftExcept (portOf v)
      if p < 1 ∨ 65535 < p then
        return sendErr 400 "port out of range (1-65535)"
      setSetting d.server "api_port" (toString p)
    if let some v := body.member? "tls" then
      setSetting d.server "api_tls" (if tlsOf v then "on" else "off")
    return send 200 (Json.ofMembers (← ask (settingsMembers d cfg)))) := by
  have hlast : Keeps (Writes d.server ks) (do
      return send 200 (Json.ofMembers (← ask (settingsMembers d cfg)))) :=
    keeps_bind (writes_ask _) fun _ => keeps_pure _
  have htls : Keeps (Writes d.server ks) (do
      if let some v := body.member? "tls" then
        setSetting d.server "api_tls" (if tlsOf v then "on" else "off")
      return send 200 (Json.ofMembers (← ask (settingsMembers d cfg)))) := by
    cases body.member? "tls" with
    | none => exact hlast
    | some v => exact keeps_bind (writes_setSetting hk) fun _ => hlast
  cases body.member? "port" with
  | none => exact htls
  | some v =>
    exact keeps_bind (keeps_liftExcept _) fun p =>
      keeps_ite (keeps_pure _) (keeps_bind (writes_setSetting hk) fun _ => htls)

/-- PUT /settings writes settings. -/
theorem writes_putSettings (hk : .setting ∈ ks) :
    Keeps (Writes d.server ks) (putSettings d cfg req) := by
  refine writes_adminOnly (writes_withBody fun body => writes_orError (keeps_bind (writes_ask _)
    fun _ => ?_))
  have hport := @writes_putPort d cfg ks hk body
  cases body.member? "bind" with
  | none => exact hport
  | some j =>
    cases j with
    | str b => exact keeps_ite (keeps_pure _) (keeps_bind (writes_setSetting hk) fun _ => hport)
    | _ => exact hport

/-- POST /settings/apply asks for a restart. -/
theorem writes_applySettings : Keeps (Writes d.server ks) (applySettings d cfg req) := by
  refine writes_adminOnly (keeps_bind (keeps_tryCatch (keeps_bind (writes_ask _) fun _ =>
    keeps_bind (writes_ask _) fun _ => keeps_pure _) fun _ => keeps_pure _) fun answer => ?_)
  exact keeps_ite (keeps_bind (writes_logEffect _) fun _ => keeps_pure _) (keeps_pure _)

/-- POST /db/init runs the schema script. -/
theorem writes_dbInit (hk : schemaWrites cfg ⊆ ks) : Keeps (Writes d.server ks) (dbInit d cfg req) := by
  refine writes_adminOnly (keeps_ite (keeps_pure _) ?_)
  unfold schemaWrites at hk
  cases hscript : cfg.schemaText with
  | none => exact keeps_pure _
  | some text =>
    rw [hscript] at hk
    have hstmts : ∀ stmt ∈ scriptStatements text, Write.schema stmt ∈ ks := fun stmt hstmt =>
      hk (List.mem_map_of_mem hstmt)
    exact writes_orError (keeps_bind (writes_ask _) fun _ => keeps_bind (writes_runSchemaScript hstmts)
      fun _ => keeps_bind (writes_ask _) fun _ => keeps_pure _)

/-- The platform routes ask the helper. -/
theorem writes_platform (path : String) : Keeps (Writes d.server ks) (platform d cfg req path) := by
  refine writes_adminOnly (keeps_bind keeps_get fun w => keeps_ite (keeps_pure _)
    (keeps_ite (keeps_pure _) ?_))
  refine keeps_ite (keeps_bind (writes_askHelper _ _ _) fun answer => ?_)
    (keeps_bind (writes_askHelper _ _ _) fun answer => ?_)
  all_goals
    cases answer with
    | none => exact keeps_pure _
    | some found =>
      obtain ⟨status, ctype, body⟩ := found
      exact keeps_pure _

/-- An update of a sensor writes its row and then reads it back. -/
theorem writes_updateAndServe (hk : .sensor ∈ ks) (id : String) (f : Except String SensorFields) :
    Keeps (Writes d.server ks) (updateAndServe d id f) := by
  refine keeps_tryCatch (keeps_bind (writes_ask _) fun _ => keeps_bind (keeps_liftExcept _) fun f => ?_)
    fun _ => keeps_pure _
  exact keeps_bind (writes_updateSensor hk) fun found => keeps_ite (keeps_pure _)
    (keeps_bind (writes_ask _) fun _ => keeps_pure _)

/-- PATCH /sensors/{id} -/
theorem writes_patchSensor (hk : .sensor ∈ ks) (id : String) :
    Keeps (Writes d.server ks) (patchSensor d cfg req id) := by
  refine writes_adminOnly (writes_withBody fun body => keeps_bind (writes_updateAndServe hk id _)
    fun answer => ?_)
  exact keeps_ite (keeps_bind writes_reload fun _ => keeps_pure _) (keeps_pure _)

/-- POST /sensors/{id}/enable and /disable -/
theorem writes_setStatus (hk : .sensor ∈ ks) (id status : String) :
    Keeps (Writes d.server ks) (setStatus d cfg req id status) := by
  refine writes_adminOnly (keeps_bind (writes_updateAndServe hk id _) fun answer => ?_)
  exact keeps_ite (keeps_bind writes_reload fun _ => keeps_pure _) (keeps_pure _)

/-- POST /sensors: one row, after a probe if it was asked for. -/
theorem writes_postSensor (hk : .sensor ∈ ks) : Keeps (Writes d.server ks) (postSensor d cfg req) := by
  refine writes_adminOnly (writes_withBody fun body => keeps_ite (keeps_pure _) ?_)
  refine keeps_bind (keeps_liftExcept _) fun id => keeps_bind (keeps_liftExcept _) fun f => ?_
  refine keeps_ite (keeps_pure _) ?_
  have hstore : ∀ f' : SensorFields, Keeps (Writes d.server ks) (orError 500 do
      ask connect
      upsertSensor d.server id f'
      let s ← ask (findSensor d.server id)
      return send 201 ((s.map sensorJson).getD (Json.ofMembers [("id", .str id)]))) := by
    intro f'
    exact writes_orError (keeps_bind (writes_ask _) fun _ => keeps_bind (writes_upsertSensor hk)
      fun _ => keeps_bind (writes_ask _) fun _ => keeps_pure _)
  have hprobe : ∀ probe : Bool, Keeps (Writes d.server ks) (do
      let f ← if probe then probeFill d { f with status := f.status.orElse fun _ => some "inactive" }
        else pure { f with status := f.status.orElse fun _ => some "inactive" }
      orError 500 do
        ask connect
        upsertSensor d.server id f
        let s ← ask (findSensor d.server id)
        return send 201 ((s.map sensorJson).getD (Json.ofMembers [("id", .str id)]))) := by
    intro probe
    exact keeps_ite (keeps_bind (writes_probeFill _) hstore) (hstore _)
  exact keeps_ite (keeps_bind (keeps_liftExcept _) hprobe) (hprobe true)

/-- DELETE /sensors/{id} takes the sensor and what refers to it. -/
theorem writes_deleteSensor {id : String} (hk : .sensorGone id ∈ ks) :
    Keeps (Writes d.server ks) (deleteSensor d cfg req id) := by
  refine writes_adminOnly (keeps_bind (keeps_tryCatch (keeps_bind (writes_ask _) fun _ =>
    keeps_bind (writes_removeSensor hk) fun _ => keeps_pure _) fun _ => keeps_pure _) fun answer => ?_)
  exact keeps_ite (keeps_bind writes_reload fun _ => keeps_pure _) (keeps_pure _)

/-- POST /sensors/{id}/poll stores one reading. -/
theorem writes_pollSensor (hk : .reading ∈ ks) (id : String) :
    Keeps (Writes d.server ks) (pollSensor d cfg req id) := by
  refine writes_adminOnly (writes_orError (keeps_bind (writes_ask _) fun _ =>
    keeps_bind (writes_ask _) fun found => ?_))
  cases found with
  | none => exact keeps_pure _
  | some s =>
    exact keeps_bind (writes_outward (outward_openDevice _ _)) fun dev =>
      keeps_bind (writes_quiet (quiet_readAveraged dev)) fun r =>
        keeps_bind (writes_insertReading hk) fun _ => keeps_pure _

/-- POST /sensors/{id}/calibration/record -/
theorem writes_recordCalibration (hk : .calibration ∈ ks) (id : String) :
    Keeps (Writes d.server ks) (recordCalibration d cfg req id) :=
  writes_adminOnly (writes_withDevice fun _ dev =>
    keeps_bind (writes_quiet (quiet_calibration dev)) fun _ => keeps_bind writes_authUser fun _ =>
      keeps_bind (writes_insertCalibration hk) fun _ => keeps_pure _)

/-- POST /sensors/{id}/calibration/arm leaves an event. -/
theorem writes_armCalibration (hk : .event ∈ ks) (id : String) :
    Keeps (Writes d.server ks) (armCalibration d cfg req id) := by
  refine writes_adminOnly (writes_withBody fun body => keeps_bind (keeps_liftExcept _) fun mode =>
    keeps_ite (keeps_pure _) (writes_withDevice fun s dev => ?_))
  exact keeps_ite
    (keeps_bind (writes_command dev _ _) fun _ => keeps_bind (writes_insertEvent hk) fun _ =>
      keeps_pure _)
    (keeps_bind (writes_command dev _ _) fun _ => keeps_bind (writes_insertEvent hk) fun _ =>
      keeps_pure _)

/-- POST /sensors/{id}/calibration/set records what was set. -/
theorem writes_setCalibration (hk : .calibration ∈ ks) (id : String) :
    Keeps (Writes d.server ks) (setCalibration d cfg req id) := by
  refine writes_adminOnly (writes_withBody fun body => writes_withDevice fun s dev =>
    keeps_bind (keeps_mapM fun setter hsetter => writes_applySetter body dev hsetter) fun notes => ?_)
  exact keeps_ite (keeps_pure _) (keeps_bind (writes_quiet (quiet_calibration dev)) fun c =>
    keeps_bind writes_authUser fun who => keeps_bind (writes_insertCalibration hk) fun _ =>
      keeps_pure _)

/-- POST /weather-stations -/
theorem writes_postWeatherStation (hk : .station ∈ ks) :
    Keeps (Writes d.server ks) (postWeatherStation d cfg req) := by
  refine writes_adminOnly (writes_withBody fun body => keeps_ite (keeps_pure _) ?_)
  exact writes_orError (keeps_bind (writes_ask _) fun _ => keeps_bind (keeps_liftExcept _) fun id =>
    keeps_bind (keeps_liftExcept _) fun f => keeps_bind (writes_upsertWeatherStation hk) fun _ =>
      keeps_bind (writes_ask _) fun _ => keeps_pure _)

/-- PATCH /weather-stations/{id} writes the row, whatever it changes of it. -/
theorem writes_patchWeatherStation (hk : .station ∈ ks) (id : String) :
    Keeps (Writes d.server ks) (patchWeatherStation d cfg req id) := by
  refine writes_adminOnly (writes_withBody fun body => writes_orError (keeps_bind (writes_ask _)
    fun _ => keeps_bind (keeps_liftExcept _) fun f => ?_))
  have hupdate : ∀ f : WeatherStationFields, Keeps (Writes d.server ks) (do
      if !(← updateWeatherStation d.server id f) then
        return sendErr 404 "no such weather station"
      let w ← ask (findWeatherStation d.server id)
      return send 200 ((w.map (weatherStationJson d)).getD (.obj []))) := by
    intro f
    exact keeps_bind (writes_updateWeatherStation hk) fun found => keeps_ite (keeps_pure _)
      (keeps_bind (writes_ask _) fun _ => keeps_pure _)
  cases body.member? "config" with
  | none => exact hupdate f
  | some incoming =>
    refine keeps_bind (writes_ask _) fun found => ?_
    cases found with
    | none => exact keeps_pure _
    | some existing => exact hupdate _

/-- POST /weather-stations/{id}/poll stores one reading of the weather. -/
theorem writes_pollWeatherStation (hk : .weatherReading ∈ ks) (id : String) :
    Keeps (Writes d.server ks) (pollWeatherStation d cfg req id) := by
  refine writes_adminOnly (writes_orError (keeps_bind (writes_ask _) fun _ =>
    keeps_bind (writes_ask _) fun found => ?_))
  cases found with
  | none => exact keeps_pure _
  | some s =>
    exact keeps_ite (keeps_pure _) (keeps_bind (keeps_liftExcept _) fun provider =>
      keeps_bind (writes_outward (outward_fetch provider)) fun r =>
        keeps_bind (writes_insertWeatherReading hk) fun _ => keeps_pure _)

/-- POST /export-targets -/
theorem writes_postExportTarget (hk : .target ∈ ks) :
    Keeps (Writes d.server ks) (postExportTarget d cfg req) := by
  refine writes_adminOnly (writes_withBody fun body => keeps_ite (keeps_pure _) ?_)
  refine writes_orError (keeps_bind (writes_ask _) fun _ => keeps_bind (keeps_liftExcept _) fun id =>
    keeps_bind (keeps_liftExcept _) fun f => keeps_ite (keeps_pure _) (keeps_ite (keeps_pure _) ?_))
  exact keeps_bind (writes_upsertExportTarget hk) fun _ => keeps_bind writes_reload fun _ =>
    keeps_bind (writes_ask _) fun _ => keeps_pure _

/-- PATCH /export-targets/{id} writes the row, with or without a new config. -/
theorem writes_patchExportTarget (hk : .target ∈ ks) (id : String) :
    Keeps (Writes d.server ks) (patchExportTarget d cfg req id) := by
  refine writes_adminOnly (writes_withBody fun body => writes_orError (keeps_bind (writes_ask _)
    fun _ => keeps_bind (keeps_liftExcept _) fun f => ?_))
  have hupdate : ∀ f : ExportTargetFields, Keeps (Writes d.server ks) (do
      if !(← updateExportTarget d.server id f) then
        return sendErr 404 "no such export target"
      reload cfg
      let t ← ask (findExportTarget d.server id)
      return send 200 ((t.map (exportTargetJson d)).getD (.obj []))) := by
    intro f
    exact keeps_bind (writes_updateExportTarget hk) fun found => keeps_ite (keeps_pure _)
      (keeps_bind writes_reload fun _ => keeps_bind (writes_ask _) fun _ => keeps_pure _)
  cases body.member? "config" with
  | none => exact hupdate f
  | some incoming =>
    refine keeps_bind (writes_ask _) fun found => ?_
    cases found with
    | none => exact keeps_pure _
    | some existing => exact hupdate _

/-- POST /export-targets/{id}/run is one run. -/
theorem writes_runExportTarget (hlog : .exportLog ∈ ks) (hmark : .watermark ∈ ks) (id : String) :
    Keeps (Writes d.server ks) (runExportTarget d cfg req id) := by
  refine writes_adminOnly (writes_orError (keeps_bind (writes_ask _) fun _ =>
    keeps_bind (writes_ask _) fun found => ?_))
  cases found with
  | none => exact keeps_pure _
  | some t => exact keeps_bind (writes_runExport hlog hmark t) fun _ => keeps_pure _

/-- A login opens a session, for the time that sessions last. -/
theorem writes_login (hk : .session sessionTtl ∈ ks) : Keeps (Writes d.server ks) (login d req) := by
  refine writes_withBody fun body => keeps_ite (keeps_pure _) (writes_orError ?_)
  refine keeps_bind (writes_ask _) fun _ => keeps_bind (keeps_liftExcept _) fun username =>
    keeps_bind (writes_ask _) fun found => ?_
  cases found with
  | none => exact keeps_pure _
  | some u =>
    refine keeps_bind (keeps_liftExcept _) fun password => keeps_bind (keeps_liftExcept _) fun right =>
      keeps_ite (keeps_pure _) ?_
    exact keeps_bind (keeps_bind writes_draw fun _ => keeps_pure _) fun sess =>
      keeps_bind (writes_createSession hk) fun _ => keeps_pure _

/-- A logout closes the session that was presented. -/
theorem writes_logout (hk : .sessionGone (sessionToken req) ∈ ks) :
    Keeps (Writes d.server ks) (logout d req) :=
  keeps_bind (keeps_tryCatch (keeps_ite (keeps_bind (writes_ask _) fun _ => writes_deleteSession hk)
    (keeps_pure _)) fun _ => keeps_pure _) fun _ => keeps_pure _

/-- POST /me/password writes the hash of the user's own row. -/
theorem writes_mePassword (hk : .password ∈ ks) : Keeps (Writes d.server ks) (mePassword d req) := by
  refine writes_withBody fun body => keeps_ite (keeps_pure _) (writes_orError ?_)
  -- without a session in the request there is nobody to look up
  refine keeps_bind (writes_ask _) fun _ => keeps_ite (keeps_pure _)
    (keeps_bind (writes_ask _) fun found => ?_)
  cases found with
  | none => exact keeps_pure _
  | some si =>
    refine keeps_bind (writes_ask _) fun user => ?_
    cases user with
    | none => exact keeps_pure _
    | some u =>
      refine keeps_bind (keeps_liftExcept _) fun current => keeps_bind (keeps_liftExcept _)
        fun right => keeps_ite (keeps_pure _) ?_
      exact keeps_bind (keeps_liftExcept _) fun password =>
        keeps_bind (keeps_bind writes_draw fun _ => keeps_pure _) fun hash =>
          keeps_bind (writes_setUserPassword hk) fun _ => keeps_pure _

/-- POST /users adds an account. -/
theorem writes_postUser (hk : .user ∈ ks) : Keeps (Writes d.server ks) (postUser d cfg req) := by
  refine writes_adminOnly (writes_withBody fun body => keeps_ite (keeps_pure _) ?_)
  have hcreate : ∀ role : String, Keeps (Writes d.server ks) (orError 500 do
      ask connect
      let uname ← getMember body "username" Json.getString
      if (← ask (findUser d.server uname)).isSome then
        return sendErr 409 "user already exists"
      let hash ← newHash d (← getMember body "password" Json.getString)
      createUser d.server uname hash role false
      return send 201 (Json.ofMembers [("username", .str uname), ("role", .str role)])) := by
    intro role
    refine writes_orError (keeps_bind (writes_ask _) fun _ => keeps_bind (keeps_liftExcept _)
      fun uname => keeps_bind (writes_ask _) fun found => keeps_ite (keeps_pure _) ?_)
    exact keeps_bind (keeps_liftExcept _) fun password => keeps_bind (keeps_bind writes_draw
      fun _ => keeps_pure _) fun hash => keeps_bind (writes_createUser hk) fun _ => keeps_pure _
  exact keeps_ite (keeps_bind (keeps_liftExcept _) hcreate) (hcreate "viewer")

/-- DELETE /users/{name} takes an account and its sessions. -/
theorem writes_deleteUserNamed {uname : String} (hk : .userGone uname ∈ ks) :
    Keeps (Writes d.server ks) (deleteUserNamed d cfg req uname) := by
  refine writes_adminOnly (writes_orError (keeps_bind (writes_ask _) fun _ =>
    keeps_bind (writes_ask _) fun found => ?_))
  have hdelete : Keeps (Writes d.server ks) (do
      let _ ← deleteUser d.server uname
      return send 200 (Json.ofMembers [("deleted", .str uname)])) :=
    keeps_bind (writes_deleteUser hk) fun _ => keeps_pure _
  cases found with
  | none => exact keeps_pure _
  | some u =>
    exact keeps_ite (keeps_bind (writes_ask _) fun us => keeps_ite (keeps_pure _) hdelete) hdelete

end Handlers

/-- A handler makes the statements of its route. -/
theorem writes_handle (e : Endpoint) :
    Keeps (Writes d.server (e.touches cfg req)) (handle d cfg e req) := by
  -- one endpoint at a time; those that only read are last
  cases e with
  | getSettings => exact writes_quiet (quiet_adminOnly (quiet_dbRead _))
  | listUsers =>
    exact writes_adminOnly (writes_orError (keeps_bind (writes_ask _) fun _ =>
      keeps_bind (writes_ask _) fun _ => keeps_pure _))
  | testSensor id => exact writes_quiet (quiet_testSensor req id)
  | putSettings => exact writes_putSettings (by simp [Endpoint.touches])
  | applySettings => exact writes_applySettings
  | dbInit => exact writes_dbInit fun _ h => h
  | platform path => exact writes_platform path
  | postSensor => exact writes_postSensor (by simp [Endpoint.touches])
  | patchSensor id => exact writes_patchSensor (by simp [Endpoint.touches]) id
  | setStatus id status => exact writes_setStatus (by simp [Endpoint.touches]) id status
  | deleteSensor id => exact writes_deleteSensor (by simp [Endpoint.touches])
  | deleteReadings id =>
    exact writes_adminOnly (keeps_ite (keeps_pure _) (writes_orError (keeps_bind (writes_ask _)
      fun _ => keeps_bind (writes_deleteReadingsBefore (by simp [Endpoint.touches]))
        fun _ => keeps_pure _)))
  | pollSensor id => exact writes_pollSensor (by simp [Endpoint.touches]) id
  | recordCalibration id => exact writes_recordCalibration (by simp [Endpoint.touches]) id
  | armCalibration id => exact writes_armCalibration (by simp [Endpoint.touches]) id
  | disarmCalibration id =>
    exact writes_adminOnly (writes_withDevice fun s dev =>
      keeps_bind (writes_command dev _ _) fun _ => keeps_pure _)
  | setCalibration id => exact writes_setCalibration (by simp [Endpoint.touches]) id
  | postWeatherStation => exact writes_postWeatherStation (by simp [Endpoint.touches])
  | patchWeatherStation id => exact writes_patchWeatherStation (by simp [Endpoint.touches]) id
  | deleteWeatherStation id =>
    exact writes_adminOnly (writes_orError (keeps_bind (writes_ask _) fun _ =>
      keeps_bind (writes_removeWeatherStation (by simp [Endpoint.touches])) fun _ => keeps_pure _))
  | pollWeatherStation id => exact writes_pollWeatherStation (by simp [Endpoint.touches]) id
  | postExportTarget => exact writes_postExportTarget (by simp [Endpoint.touches])
  | patchExportTarget id => exact writes_patchExportTarget (by simp [Endpoint.touches]) id
  | deleteExportTarget id =>
    exact writes_adminOnly (writes_orError (keeps_bind (writes_ask _) fun _ =>
      keeps_bind (writes_removeExportTarget (by simp [Endpoint.touches])) fun _ =>
        keeps_bind writes_reload fun _ => keeps_pure _))
  | runExportTarget id =>
    exact writes_runExportTarget (by simp [Endpoint.touches]) (by simp [Endpoint.touches]) id
  | login => exact writes_login (by simp [Endpoint.touches])
  | logout => exact writes_logout (by simp [Endpoint.touches])
  | mePassword => exact writes_mePassword (by simp [Endpoint.touches])
  | postUser => exact writes_postUser (by simp [Endpoint.touches])
  | deleteUser name => exact writes_deleteUserNamed (by simp [Endpoint.touches])
  | version | health | events | dbStatus | extensions | extensionData | discover | discoverUsb
  | listSensors | getSensor | sensorReadings | sensorDsn | getCalibration | calibrationHistory
  | listWeatherStations | getWeatherStation | weatherStationReadings | listExportTargets
  | getExportTarget | exportTargetLog | me => exact writes_quiet (quiet_handle rfl req)

/-- The statements a request may make. -/
def touchedBy (cfg : ApiConfig) (req : Request) : List Write :=
  ((route req).map (Endpoint.touches cfg req)).getD []

/-- A request makes the statements of its route and no others. -/
theorem writes_serve (req : Request) :
    Keeps (Writes d.server (touchedBy cfg req)) (serve d cfg req) := by
  unfold serve
  refine keeps_tryCatch (keeps_bind ?_ fun refusal => ?_) fun _ => keeps_pure _
  · unfold gate
    refine keeps_ite (keeps_pure _) (keeps_ite (keeps_pure _) (keeps_ite (keeps_pure _) ?_))
    exact writes_quiet (quiet_requireAuth req false)
  · cases refusal with
    | some refusal => exact keeps_pure _
    | none =>
      cases webFile cfg req with
      | some res => exact keeps_pure _
      | none =>
        unfold touchedBy
        cases route req with
        | none => exact keeps_pure _
        | some e => exact writes_handle e

end NightWatcher.Api
