import NightWatcher.Api.Accounts
import NightWatcher.Daemon.Main

/-!
# What requests do to the device lists

`Shows g` is the frame of everything `g` reads off the tables. The handlers that
write no device table keep `Shows pollable` (`shows_handle`); for the others
there is one lemma each, which says what becomes of the polled ids and whether a
reload was asked for.
-/

namespace NightWatcher.Api

open Throwing Database Sqm Weather Exporter Daemon

variable {d : Deps} {cfg : ApiConfig} {req : Request} {w : World}

/-! ## Handlers that leave the tables' view alone -/

section Shows

variable {τ α : Type} {g : Db → τ}

/-- What `g` reads off the tables stays. -/
def Shows (g : Db → τ) : Frame World := Frame.same fun w => g w.db

/-- Faults are none of what the tables show. -/
theorem shows_ignoresFaults : IgnoresFaults (Shows g) := fun _ _ => rfl

/-- A program that leaves the tables alone shows the same of them. -/
theorem Quiet.shows {x : Act α} (h : Keeps Quiet x) : Keeps (Shows g) x :=
  h.weaken fun _ _ hq => congrArg g hq.db

/-- A routine that leaves the tables as they are. -/
theorem shows_of_db {x : Act α} (h : ∀ w, (endState (x w)).db = w.db) : Keeps (Shows g) x :=
  fun w => congrArg g (h w)

/-- A statement need only keep what is shown where it goes through. -/
theorem shows_statement {f : Snapshot → Option (α × Db)}
    (hf : ∀ s a db', f s = some (a, db') → g db' = g s.db) : Keeps (Shows g) (statement f) :=
  keeps_statement shows_ignoresFaults fun _ a db' h => hf _ a db' h

/-- A query writes nothing. -/
theorem shows_ask (q : Query α) : Keeps (Shows g) (ask q) := keeps_ask shows_ignoresFaults q

/-- Neither does a command to a sensor. -/
theorem shows_queryRaw (dev : SqmDevice) (cmd : String) : Keeps (Shows g) (dev.queryRaw cmd) := by
  refine shows_of_db fun w => ?_
  unfold SqmDevice.queryRaw
  match w.turns with
  | [] => rfl
  | turn :: rest =>
    simp only
    cases turn.answer <;> rfl

/-- Nor a random value. -/
theorem shows_draw : Keeps (Shows g) draw := shows_of_db fun _ => rfl

/-- Nor a question to the platform helper. -/
theorem shows_askHelper (method target body : String) :
    Keeps (Shows g) (askHelper method target body) := by
  refine shows_of_db fun w => ?_
  unfold askHelper
  match w.helperAnswers with
  | [] => rfl
  | answer :: rest => rfl

/-- Nor a fetch from a weather service. -/
theorem shows_fetch (p : IWeatherProvider) : Keeps (Shows g) p.fetch := by
  refine shows_of_db fun w => ?_
  unfold IWeatherProvider.fetch
  match w.fetches with
  | [] => rfl
  | .error e :: rest => rfl
  | .ok r :: rest => rfl

/-- Nor a file that is handed over. -/
theorem shows_transferFile (key : FileKey) (ctx : ExportContext) (text : String) :
    Keeps (Shows g) (transferFile key ctx text) := by
  refine shows_of_db fun w => ?_
  unfold transferFile
  match w.transfers with
  | [] => rfl
  | .done remoteId cut shown :: rest => rfl
  | .failed msg left shown :: rest => rfl

/-- Nor a POST. -/
theorem shows_postJson (url : String) (body : Json) : Keeps (Shows g) (postJson url body) := by
  refine shows_of_db fun w => ?_
  unfold postJson
  match w.answers with
  | [] => rfl
  | .error e :: rest => rfl
  | .ok (status, text) :: rest => rfl

/-- Behind the check of the role a handler keeps what it keeps. -/
theorem shows_adminOnly {k : Act Response} (hk : Keeps (Shows g) k) :
    Keeps (Shows g) (adminOnly d cfg req k) := by
  refine keeps_bind (Quiet.shows (quiet_requireAuth req true)) fun refusal => ?_
  cases refusal with
  | none => exact hk
  | some res => exact keeps_pure _

/-- An exception that becomes a status changes nothing. -/
theorem shows_orError {status : Nat} {x : Act Response} (h : Keeps (Shows g) x) :
    Keeps (Shows g) (orError status x) :=
  keeps_tryCatch h fun _ => keeps_pure _

/-- What a handler does with its body is what counts. -/
theorem shows_withBody {k : Json → Act Response} (hk : ∀ body, Keeps (Shows g) (k body)) :
    Keeps (Shows g) (withBody d req k) := by
  unfold withBody
  cases d.json.parse req.body with
  | none => exact keeps_pure _
  | some body => exact hk body

/-- Opening the device changes no table. -/
theorem shows_withDevice {id : String} {k : SensorRow → SqmDevice → Act Response}
    (hk : ∀ s dev, Keeps (Shows g) (k s dev)) : Keeps (Shows g) (withDevice d id k) := by
  refine shows_orError (keeps_bind (shows_ask _) fun _ => keeps_bind (shows_ask _) fun found => ?_)
  cases found with
  | none => exact keeps_pure _
  | some s => exact keeps_bind (Quiet.shows (quiet_openDevice _ _)) fun dev => hk s dev

/-- Who asks is found out by reading. -/
theorem shows_authUser : Keeps (Shows g) (authUser d cfg req) :=
  keeps_ite (keeps_pure _) (keeps_bind (Quiet.shows (quiet_sessionInfo _)) fun _ => keeps_pure _)

/-- The commands of calibration go to the device, not to the tables. -/
theorem shows_command (dev : SqmDevice) (cmd : String) (parse : String → Except String α) :
    Keeps (Shows g) (dev.queryRaw cmd >>= fun line => liftExcept (parse line)) :=
  keeps_bind (shows_queryRaw dev cmd) fun _ => keeps_liftExcept _

end Shows

/-! ## The ids of some rows -/

section Ids

variable {ρ τ : Type} {polled : ρ → Bool} {id : ρ → τ} {p : ρ → Bool} {assign : ρ → Option ρ}
  {rows rows' : List ρ}

/-- An update goes through the rows one by one. -/
theorem updateWhere_cons {r : ρ} : updateWhere p assign (r :: rows) = some rows' ↔
    ∃ r' rest', (if p r then assign r else some r) = some r' ∧
      updateWhere p assign rows = some rest' ∧ r' :: rest' = rows' := by
  rw [updateWhere]
  by_cases hp : p r = true
  · simp [hp, Option.bind_eq_some_iff]
  · simp [hp, Option.bind_eq_some_iff]

/-- An update that leaves every row's id, and whether it is polled, leaves the polled ids. -/
theorem polledIds_updateWhere (h : updateWhere p assign rows = some rows')
    (hkeep : ∀ r ∈ rows, p r = true → ∀ r', assign r = some r' → polled r' = polled r ∧ id r' = id r) :
    (rows'.filter polled).map id = (rows.filter polled).map id := by
  induction rows generalizing rows' with
  | nil =>
    cases h
    rfl
  | cons r rows ih =>
    obtain ⟨r', rest', hr', hrest', rfl⟩ := updateWhere_cons.mp h
    have hrow : polled r' = polled r ∧ id r' = id r := by
      by_cases hp : p r = true
      · rw [if_pos hp] at hr'
        exact hkeep r List.mem_cons_self hp r' hr'
      · rw [if_neg hp] at hr'
        obtain rfl := Option.some.inj hr'
        exact ⟨rfl, rfl⟩
    have hrest := ih hrest' fun x hx => hkeep x (List.mem_cons_of_mem _ hx)
    by_cases hr : polled r = true
    · rw [List.filter_cons_of_pos (hrow.1.trans hr), List.filter_cons_of_pos hr, List.map_cons,
        List.map_cons, hrow.2, hrest]
    · have hr'' : ¬polled r' = true := fun h => hr (hrow.1.symm.trans h)
      rw [List.filter_cons_of_neg hr'', List.filter_cons_of_neg hr, hrest]

/-- An upsert keeps the polled ids if it leaves old rows polled as they were and adds none that is
polled. -/
theorem polledIds_upsertRow {fresh : ρ} {noUpdates : Bool}
    (h : upsertRow p fresh noUpdates assign rows = some rows')
    (hkeep : ∀ r ∈ rows, p r = true → ∀ r', assign r = some r' → polled r' = polled r ∧ id r' = id r)
    (hfresh : rows.any p = false → ∀ r', assign fresh = some r' → polled r' = false) :
    (rows'.filter polled).map id = (rows.filter polled).map id := by
  unfold upsertRow at h
  by_cases hany : rows.any p = true
  · rw [if_pos hany] at h
    cases noUpdates with
    | true => cases h
    | false => exact polledIds_updateWhere h hkeep
  · rw [if_neg hany] at h
    obtain ⟨r', hr', rfl⟩ := Option.map_eq_some_iff.mp h
    have hnot := hfresh (Bool.not_eq_true _ ▸ hany) r' hr'
    rw [List.filter_append, List.filter_cons_of_neg (by rw [hnot]; simp), List.filter_nil,
      List.append_nil]

/-- Deleting rows that are not polled keeps the polled ids. -/
theorem polledIds_filter {gone : ρ → Bool} (h : ∀ r ∈ rows, gone r = true → polled r = false) :
    ((rows.filter fun r => !gone r).filter polled).map id = (rows.filter polled).map id := by
  rw [List.filter_filter]
  refine congrArg (List.map id) (List.filter_congr fun r hr => ?_)
  by_cases hgone : gone r = true
  · simp [hgone, h r hr hgone]
  · simp [hgone]

end Ids

/-! ## Statements on other tables -/

/-- An event is nothing that is polled. -/
theorem polls_insertEvent {srv : Server} {source event detail deviceId : String} {level : Level} :
    Keeps (Shows pollable) (insertEvent srv source level event detail deviceId) := by
  refine shows_statement fun s a db' h => ?_
  simp only [Option.bind_eq_bind, Option.bind_eq_some_iff, Option.pure_def, Option.some.injEq,
    Prod.mk.injEq] at h
  obtain ⟨_, -, _, -, _, -, _, -, -, rfl⟩ := h
  rfl

/-- A reading is nothing that is polled. -/
theorem polls_insertReading {srv : Server} {sensorId tsUtc : String} {r : Reading} {source : Source}
    {quality : Quality} : Keeps (Shows pollable) (insertReading srv sensorId r tsUtc source quality) :=
  insertReading_frame shows_ignoresFaults fun _ _ _ => rfl

/-- Nor is one that is deleted. -/
theorem polls_deleteReadingsBefore {srv : Server} {sensorId tsUtc : String} :
    Keeps (Shows pollable) (deleteReadingsBefore srv sensorId tsUtc) :=
  deleteReadingsBefore_frame shows_ignoresFaults fun _ _ => rfl

/-- A calibration adds to the log of its sensor only. -/
theorem polls_insertCalibration {srv : Server} {sensorId tsUtc changedBy note : String}
    {c : Calibration} {eventType : EventType} :
    Keeps (Shows pollable) (insertCalibration srv sensorId c tsUtc eventType changedBy note) := by
  refine shows_statement fun s a db' h => ?_
  simp only [Option.bind_eq_bind, Option.bind_eq_some_iff, Option.pure_def, Option.some.injEq,
    Prod.mk.injEq, Option.guard_eq_some'] at h
  obtain ⟨_, -, _, -, _, -, _, -, _, -, _, -, _, -, _, -, _, -, _, -, _, -, -, rfl⟩ := h
  rfl

/-- A reading of the weather adds to those of its station only. -/
theorem polls_insertWeatherReading {srv : Server} {r : WeatherReadingRow} :
    Keeps (Shows pollable) (insertWeatherReading srv r) :=
  insertWeatherReading_frame shows_ignoresFaults fun _ _ _ => rfl

/-- No device is listed in the settings. -/
theorem polls_setSetting {srv : Server} {name value : String} :
    Keeps (Shows pollable) (setSetting srv name value) := by
  refine shows_statement fun s a db' h => ?_
  simp only [Option.bind_eq_bind, Option.bind_eq_some_iff, Option.pure_def, Option.some.injEq,
    Prod.mk.injEq] at h
  obtain ⟨_, -, _, -, _, -, -, rfl⟩ := h
  rfl

/-- The log of the exports lists no target anew. -/
theorem polls_insertExportLog {srv : Server} {r : ExportLogRow} :
    Keeps (Shows pollable) (insertExportLog srv r) := by
  refine shows_statement fun s a db' h => ?_
  simp only [Option.bind_eq_bind, Option.bind_eq_some_iff, Option.pure_def, Option.some.injEq,
    Prod.mk.injEq] at h
  obtain ⟨_, -, _, -, _, -, _, -, _, -, _, -, _, -, -, rfl⟩ := h
  rfl

/-- The watermark is no part of what is polled. -/
theorem polls_setExportWatermark {srv : Server} {id ts : String} :
    Keeps (Shows pollable) (setExportWatermark srv id ts) := by
  refine shows_statement fun s a db' h => ?_
  simp only [Option.bind_eq_bind, Option.bind_eq_some_iff, Option.pure_def, Option.some.injEq,
    Prod.mk.injEq] at h
  obtain ⟨ts', -, rows, hrows, -, rfl⟩ := h
  have htargets : (rows.filter polledTarget).map ExportTargetRow.id =
      (s.db.exportTargets.filter polledTarget).map ExportTargetRow.id :=
    polledIds_updateWhere hrows fun r _ _ r' hr' => by
      obtain rfl := Option.some.inj hr'
      exact ⟨rfl, rfl⟩
  unfold pollable
  rw [htargets]

/-! ## An export run moves the watermark only -/

/-- A push that failed is logged and no more. -/
theorem polls_logFailure {α : Type} (log : ExportLogRow) (e : String) :
    Keeps (Shows pollable) (logFailure d log e : Act α) :=
  keeps_bind (keeps_tryCatch (keeps_bind polls_insertExportLog fun _ => keeps_pure _)
    fun _ => keeps_pure _) fun _ => keeps_throw _

/-- The DSN exporter writes a file. -/
theorem polls_runDsn (config : String) (ctx : ExportContext) :
    Keeps (Shows pollable) (runDsn d config ctx) := by
  refine keeps_bind (keeps_liftExcept _) fun content => keeps_bind (keeps_liftExcept _) fun name =>
    keeps_bind (keeps_liftExcept _) fun key => keeps_bind (shows_transferFile _ _ _) fun remoteId => ?_
  cases key with
  | outbox path => exact keeps_pure _
  | drive folder name => exact keeps_pure _

theorem polls_postSlice (url : String) (body : Json) :
    Keeps (Shows pollable) (postSlice url body) := by
  refine keeps_bind (keeps_tryCatch (shows_postJson url body) fun _ => keeps_throw _)
    fun answer => ?_
  exact keeps_ite (keeps_throw _) (keeps_pure _)

/-- The webhook exporter posts. -/
theorem polls_runWebhook (config : String) (ctx : ExportContext) :
    Keeps (Shows pollable) (runWebhook d config ctx) := by
  refine keeps_bind (keeps_liftExcept _) fun cfg => keeps_bind (keeps_liftExcept _) fun url => ?_
  refine keeps_ite (keeps_throw _) ?_
  refine keeps_bind (keeps_liftExcept _) fun _ => keeps_bind (keeps_liftExcept _) fun siteId =>
    keeps_bind (keeps_liftExcept _) fun _ => keeps_bind (keeps_liftExcept _) fun given => ?_
  exact keeps_bind (keeps_forM (fun rs => polls_postSlice _ _) _) fun _ => keeps_pure _

/-- A push adds to the export log. -/
theorem polls_pushAndLog (targetId : String) (exporter : IExporter) (ctx : ExportContext) :
    Keeps (Shows pollable) (pushAndLog d targetId exporter ctx) := by
  have hrun : Keeps (Shows pollable) (exporter.run d ctx) := by
    cases exporter with
    | dsn config => exact polls_runDsn config ctx
    | webhook config => exact polls_runWebhook config ctx
  refine keeps_bind (keeps_tryCatch hrun fun e => polls_logFailure _ e) fun res => ?_
  exact keeps_bind (keeps_tryCatch (keeps_bind polls_insertExportLog fun _ => keeps_pure _)
    fun e => polls_logFailure _ e) fun _ => keeps_pure _

/-- A run moves a watermark, by which no target comes or goes. -/
theorem polls_runExport (t : ExportTargetRow) : Keeps (Shows pollable) (runExport d t) := by
  refine keeps_bind (shows_ask _) fun found => ?_
  cases found with
  | none => exact keeps_throw _
  | some sensor =>
    refine keeps_bind keeps_get fun w => keeps_bind (shows_ask _) fun rows => ?_
    refine keeps_ite (keeps_pure _) (keeps_bind (keeps_liftExcept _) fun exporter => ?_)
    cases exporter.windowing with
    | incremental =>
      exact keeps_bind (shows_ask _) fun weather => keeps_bind (polls_pushAndLog _ _ _) fun res =>
        keeps_bind polls_setExportWatermark fun _ => keeps_pure _
    | monthly =>
      refine keeps_bind (keeps_mapM fun ym _ => ?_) fun results =>
        keeps_bind polls_setExportWatermark fun _ => keeps_pure _
      exact keeps_bind (shows_ask _) fun rows => polls_pushAndLog _ _ _

/-! ## The handlers that write no device table -/

/-- The endpoints that write a device table. -/
def Endpoint.writesDevices : Endpoint → Bool
  | .postSensor | .patchSensor _ | .setStatus _ _ | .deleteSensor _
  | .postWeatherStation | .patchWeatherStation _ | .deleteWeatherStation _
  | .postExportTarget | .patchExportTarget _ | .deleteExportTarget _ => true
  | _ => false

/-- The settings of the API are written one after the other; this is the last of them. -/
theorem polls_putTls (body : Json) : Keeps (Shows pollable) (do
    if let some v := body.member? "tls" then
      setSetting d.server "api_tls" (if tlsOf v then "on" else "off")
    return send 200 (Json.ofMembers (← ask (settingsMembers d cfg)))) := by
  have hlast : Keeps (Shows pollable) (do
      return send 200 (Json.ofMembers (← ask (settingsMembers d cfg)))) :=
    keeps_bind (shows_ask _) fun _ => keeps_pure _
  cases body.member? "tls" with
  | none => exact hlast
  | some v => exact keeps_bind polls_setSetting fun _ => hlast

/-- The port is checked before it is written. -/
theorem polls_putPort (body : Json) : Keeps (Shows pollable) (do
    if let some v := body.member? "port" then
      let p ← liftExcept (portOf v)
      if p < 1 ∨ 65535 < p then
        return sendErr 400 "port out of range (1-65535)"
      setSetting d.server "api_port" (toString p)
    if let some v := body.member? "tls" then
      setSetting d.server "api_tls" (if tlsOf v then "on" else "off")
    return send 200 (Json.ofMembers (← ask (settingsMembers d cfg)))) := by
  have htls := @polls_putTls d cfg body
  cases body.member? "port" with
  | none => exact htls
  | some v =>
    exact keeps_bind (keeps_liftExcept _) fun p =>
      keeps_ite (keeps_pure _) (keeps_bind polls_setSetting fun _ => htls)

theorem polls_putSettings : Keeps (Shows pollable) (putSettings d cfg req) := by
  refine shows_adminOnly (shows_withBody fun body => shows_orError (keeps_bind (shows_ask _)
    fun _ => ?_))
  have hport := @polls_putPort d cfg body
  cases body.member? "bind" with
  | none => exact hport
  | some j =>
    cases j with
    | str b => exact keeps_ite (keeps_pure _) (keeps_bind polls_setSetting fun _ => hport)
    | _ => exact hport

theorem polls_applySettings : Keeps (Shows pollable) (applySettings d cfg req) := by
  refine shows_adminOnly (keeps_bind (keeps_tryCatch (keeps_bind (shows_ask _) fun _ =>
    keeps_bind (shows_ask _) fun _ => keeps_pure _) fun _ => keeps_pure _) fun answer => ?_)
  exact keeps_ite (keeps_bind (keeps_modify fun _ => rfl) fun _ => keeps_pure _) (keeps_pure _)

/-- The platform routes ask the helper. -/
theorem polls_platform (path : String) : Keeps (Shows pollable) (platform d cfg req path) := by
  refine shows_adminOnly (keeps_bind keeps_get fun w => keeps_ite (keeps_pure _)
    (keeps_ite (keeps_pure _) ?_))
  refine keeps_ite (keeps_bind (shows_askHelper _ _ _) fun answer => ?_)
    (keeps_bind (shows_askHelper _ _ _) fun answer => ?_)
  all_goals
    match answer with
    | none => exact keeps_pure _
    | some (status, ctype, body) => exact keeps_pure _

/-- A poll on request stores a reading. -/
theorem polls_pollSensor (id : String) : Keeps (Shows pollable) (pollSensor d cfg req id) := by
  refine shows_adminOnly (shows_orError (keeps_bind (shows_ask _) fun _ =>
    keeps_bind (shows_ask _) fun found => ?_))
  cases found with
  | none => exact keeps_pure _
  | some s =>
    exact keeps_bind (Quiet.shows (quiet_openDevice _ _)) fun dev =>
      keeps_bind (Quiet.shows (quiet_readAveraged dev)) fun r =>
        keeps_bind polls_insertReading fun _ => keeps_pure _

/-- So does one of the weather. -/
theorem polls_pollWeatherStation (id : String) :
    Keeps (Shows pollable) (pollWeatherStation d cfg req id) := by
  refine shows_adminOnly (shows_orError (keeps_bind (shows_ask _) fun _ =>
    keeps_bind (shows_ask _) fun found => ?_))
  cases found with
  | none => exact keeps_pure _
  | some s =>
    exact keeps_ite (keeps_pure _) (keeps_bind (keeps_liftExcept _) fun provider =>
      keeps_bind (shows_fetch provider) fun r => keeps_bind polls_insertWeatherReading fun _ =>
        keeps_pure _)

/-- Arming a calibration leaves an event. -/
theorem polls_armCalibration (id : String) :
    Keeps (Shows pollable) (armCalibration d cfg req id) := by
  refine shows_adminOnly (shows_withBody fun body => keeps_bind (keeps_liftExcept _) fun mode =>
    keeps_ite (keeps_pure _) (shows_withDevice fun s dev => ?_))
  exact keeps_ite
    (keeps_bind (shows_command dev _ _) fun _ => keeps_bind polls_insertEvent fun _ => keeps_pure _)
    (keeps_bind (shows_command dev _ _) fun _ => keeps_bind polls_insertEvent fun _ => keeps_pure _)

theorem shows_setCalValue {τ : Type} {g : Db → τ} (dev : SqmDevice) (which : Char) (value : ℚ)
    (decimals : Nat) : Keeps (Shows g) (dev.setCalValue d which value decimals) :=
  keeps_bind (shows_queryRaw dev _) fun _ => keeps_bind (keeps_liftExcept _) fun _ =>
    keeps_ite (keeps_throw _) (keeps_pure _)

/-- Each setter of a calibration speaks to the device only. -/
theorem shows_applySetter {τ : Type} {g : Db → τ} (body : Json) (dev : SqmDevice)
    {setter : String × (SqmDevice → ℚ → Act CalSetEcho)} (hsetter : setter ∈ calibrationSetters d) :
    Keeps (Shows g) (applySetter body dev setter) := by
  have hwrite : ∀ v, Keeps (Shows g) (setter.2 dev v) := by
    intro v
    simp only [calibrationSetters, List.mem_cons, List.not_mem_nil, or_false] at hsetter
    rcases hsetter with rfl | rfl | rfl | rfl <;> exact shows_setCalValue dev _ v _
  unfold applySetter
  cases body.member? setter.1 with
  | none => exact keeps_pure _
  | some v =>
    exact keeps_ite (keeps_bind (keeps_liftExcept _) fun x => keeps_bind (hwrite x) fun _ =>
      keeps_pure _) (keeps_pure _)

/-- Setting a calibration adds to its log. -/
theorem polls_setCalibration (id : String) :
    Keeps (Shows pollable) (setCalibration d cfg req id) := by
  refine shows_adminOnly (shows_withBody fun body => shows_withDevice fun s dev =>
    keeps_bind (keeps_mapM fun setter hsetter => shows_applySetter body dev hsetter) fun notes => ?_)
  exact keeps_ite (keeps_pure _) (keeps_bind (Quiet.shows (quiet_calibration dev)) fun c =>
    keeps_bind shows_authUser fun who => keeps_bind polls_insertCalibration fun _ => keeps_pure _)

/-- Accounts are nothing that is polled. -/
theorem polls_postUser : Keeps (Shows pollable) (postUser d cfg req) := by
  refine shows_adminOnly (shows_withBody fun body => keeps_ite (keeps_pure _) ?_)
  have hcreate : ∀ role : String, Keeps (Shows pollable) (orError 500 do
      ask connect
      let uname ← getMember body "username" Json.getString
      if (← ask (findUser d.server uname)).isSome then
        return sendErr 409 "user already exists"
      let hash ← newHash d (← getMember body "password" Json.getString)
      createUser d.server uname hash role false
      return send 201 (Json.ofMembers [("username", .str uname), ("role", .str role)])) := by
    intro role
    refine shows_orError (keeps_bind (shows_ask _) fun _ => keeps_bind (keeps_liftExcept _)
      fun uname => keeps_bind (shows_ask _) fun found => keeps_ite (keeps_pure _) ?_)
    refine keeps_bind (keeps_liftExcept _) fun password => keeps_bind (keeps_bind shows_draw
      fun _ => keeps_pure _) fun hash => keeps_bind (shows_statement fun s a db' h => ?_)
      fun _ => keeps_pure _
    simp only [Option.bind_eq_bind, Option.bind_eq_some_iff, Option.pure_def, Option.some.injEq,
      Prod.mk.injEq] at h
    obtain ⟨_, -, _, -, _, -, _, -, -, rfl⟩ := h
    rfl
  exact keeps_ite (keeps_bind (keeps_liftExcept _) hcreate) (hcreate "viewer")

theorem polls_deleteUserNamed (uname : String) :
    Keeps (Shows pollable) (deleteUserNamed d cfg req uname) := by
  refine shows_adminOnly (shows_orError (keeps_bind (shows_ask _) fun _ =>
    keeps_bind (shows_ask _) fun found => ?_))
  have hdelete : Keeps (Shows pollable) (do
      let _ ← deleteUser d.server uname
      return send 200 (Json.ofMembers [("deleted", .str uname)])) := by
    refine keeps_bind (shows_statement fun s a db' h => ?_) fun _ => keeps_pure _
    cases h
    rfl
  cases found with
  | none => exact keeps_pure _
  | some u =>
    exact keeps_ite (keeps_bind (shows_ask _) fun us => keeps_ite (keeps_pure _) hdelete) hdelete

/-- Only the schema script, which may be any script, is left out. -/
theorem polls_handle {e : Endpoint} (hdevices : e.writesDevices = false) (hinit : e ≠ .dbInit)
    (hwrites : e.writes req = true) : Keeps (Shows pollable) (handle d cfg e req) := by
  cases e with
  | putSettings => exact polls_putSettings
  | applySettings => exact polls_applySettings
  | dbInit => exact absurd rfl hinit
  | platform path => exact polls_platform path
  | deleteReadings id =>
    exact shows_adminOnly (keeps_ite (keeps_pure _) (shows_orError (keeps_bind (shows_ask _)
      fun _ => keeps_bind polls_deleteReadingsBefore fun _ => keeps_pure _)))
  | pollSensor id => exact polls_pollSensor id
  | recordCalibration id =>
    exact shows_adminOnly (shows_withDevice fun s dev =>
      keeps_bind (Quiet.shows (quiet_calibration dev)) fun c => keeps_bind shows_authUser fun who =>
        keeps_bind polls_insertCalibration fun _ => keeps_pure _)
  | armCalibration id => exact polls_armCalibration id
  | disarmCalibration id =>
    exact shows_adminOnly (shows_withDevice fun s dev =>
      keeps_bind (shows_command dev _ _) fun _ => keeps_pure _)
  | setCalibration id => exact polls_setCalibration id
  | pollWeatherStation id => exact polls_pollWeatherStation id
  | runExportTarget id =>
    refine shows_adminOnly (shows_orError (keeps_bind (shows_ask _) fun _ =>
      keeps_bind (shows_ask _) fun found => ?_))
    cases found with
    | none => exact keeps_pure _
    | some t => exact keeps_bind (polls_runExport t) fun _ => keeps_pure _
  | postUser => exact polls_postUser
  | deleteUser name => exact polls_deleteUserNamed name
  | postSensor | patchSensor | setStatus | deleteSensor | postWeatherStation
  | patchWeatherStation | deleteWeatherStation | postExportTarget | patchExportTarget
  | deleteExportTarget => cases hdevices
  | _ => cases hwrites

end NightWatcher.Api
