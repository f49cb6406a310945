import NightWatcher.Api.Server

/-!
# What a request may do

`Quiet` is the frame of a request that changes nothing: no table, no file, and
nothing outside but questions (a scan, a calibration read-out). Every handler
that is not behind `require_auth` keeps it, login, logout and the change of one's
own password apart; a handler behind it keeps it for a request without admin
credentials, since all it does then is refuse (`meets_adminOnly`).
-/

namespace NightWatcher.Api

open Throwing Database Sqm

variable {d : Deps} {cfg : ApiConfig}

/-! ## Credentials -/

/-- The user whose live session the request presents. -/
def presentedUser (d : Deps) (req : Request) (w : World) : Option SessionInfo :=
  if sessionToken req = "" then none else liveSession d.server (sessionToken req) ⟨w.db, w.now⟩

/-- The request carries the API token or an administrator's live session. -/
def HasAdmin (d : Deps) (cfg : ApiConfig) (req : Request) (w : World) : Prop :=
  presentsToken cfg req = true ∨ ∃ si, presentedUser d req w = some si ∧ si.role = .admin

/-- An administrator is somebody. -/
theorem HasAdmin.isKnown {req : Request} {w : World} (h : HasAdmin d cfg req w) :
    presentsToken cfg req = true ∨ (presentedUser d req w).isSome = true := by
  rcases h with htoken | ⟨si, hsi, -⟩
  · exact Or.inl htoken
  · rw [hsi]
    exact Or.inr rfl

/-- An administrator may do what needs one, and what does not. -/
theorem HasAdmin.mayDo {req : Request} {w : World} (h : HasAdmin d cfg req w) (needAdmin : Bool) :
    presentsToken cfg req = true ∨ ∃ si, presentedUser d req w = some si ∧
      (needAdmin = true → si.role = .admin) := by
  rcases h with htoken | ⟨si, hsi, hrole⟩
  · exact Or.inl htoken
  · exact Or.inr ⟨si, hsi, fun _ => hrole⟩

/-- A lookup of the session tells who it is, or fails. -/
theorem meets_sessionInfo {req : Request} {w : World} {Q : Option SessionInfo → World → Prop}
    {E : String → World → Prop}
    (hfound : ∀ fs, Q (presentedUser d req w) (w.withFaults fs))
    (hfailed : ∀ fs, Q none (w.withFaults fs)) :
    Meets (sessionInfo d (sessionToken req)) w Q E := by
  unfold sessionInfo
  rw [meets_ite]
  refine ⟨fun hempty => hfailed w.dbFaults, fun hne => ?_⟩
  simp only [meets_tryCatch, meets_bind, meets_pure]
  refine meets_ask (fun _ fs => ?_) (fun _ fs => hfailed fs)
  refine meets_select (fun fs' => ?_) (fun fs' => hfailed fs')
  have hpresented : presentedUser d req w
      = liveSession d.server (sessionToken req) ⟨w.db, w.now⟩ := if_neg hne
  exact hpresented ▸ hfound fs'

/-- `require_auth` refuses with 401 or 403, or the caller is who it has to be. -/
theorem meets_requireAuth_status {req : Request} {needAdmin : Bool} {w : World}
    {Q : Option Response → World → Prop} {E : String → World → Prop}
    (hpass : ∀ fs, (presentsToken cfg req = true ∨ ∃ si, presentedUser d req w = some si ∧
      (needAdmin = true → si.role = .admin)) → Q none (w.withFaults fs))
    (hrefuse : ∀ status msg fs, status = 401 ∨ status = 403 →
      Q (some (sendErr status msg)) (w.withFaults fs)) :
    Meets (requireAuth d cfg req needAdmin) w Q E := by
  unfold requireAuth
  by_cases htoken : presentsToken cfg req = true
  · rw [if_pos htoken]
    exact hpass w.dbFaults (Or.inl htoken)
  · rw [if_neg htoken]
    simp only [meets_bind]
    refine meets_sessionInfo (fun fs => ?_) (fun fs => hrefuse _ _ fs (Or.inl rfl))
    cases hsi : presentedUser d req w with
    | none => exact hrefuse _ _ fs (Or.inl rfl)
    | some si =>
      simp only [meets_ite, meets_pure]
      refine ⟨fun _ => hrefuse _ _ fs (Or.inr rfl), fun hrole =>
        hpass fs (Or.inr ⟨si, hsi, fun hneed => ?_⟩)⟩
      by_contra hne
      exact hrole ⟨hneed, hne⟩

/-- Who passes the check of a role has the token or a session that is good enough. -/
theorem meets_requireAuth {req : Request} {needAdmin : Bool} {w : World}
    {Q : Option Response → World → Prop} {E : String → World → Prop}
    (hpass : ∀ fs, (presentsToken cfg req = true ∨ ∃ si, presentedUser d req w = some si ∧
      (needAdmin = true → si.role = .admin)) → Q none (w.withFaults fs))
    (hrefuse : ∀ status msg fs, Q (some (sendErr status msg)) (w.withFaults fs)) :
    Meets (requireAuth d cfg req needAdmin) w Q E :=
  meets_requireAuth_status hpass fun status msg fs _ => hrefuse status msg fs

/-- A handler behind `require_auth(…, true)` runs only for an administrator. -/
theorem meets_adminOnly {req : Request} {k : Act Response} {w : World}
    {Q : Response → World → Prop} {E : String → World → Prop}
    (hpass : ∀ fs, HasAdmin d cfg req w → Meets k (w.withFaults fs) Q E)
    (hrefuse : ∀ res fs, Q res (w.withFaults fs)) : Meets (adminOnly d cfg req k) w Q E := by
  unfold adminOnly
  rw [meets_bind]
  refine meets_requireAuth (fun fs hauth => ?_) (fun _ _ fs => hrefuse _ fs)
  refine hpass fs ?_
  rcases hauth with htoken | ⟨si, hsi, hrole⟩
  · exact Or.inl htoken
  · exact Or.inr ⟨si, hsi, hrole rfl⟩

/-! ## Quiet handlers -/

/-- What asks and changes nothing: scans, read-outs of a device, and what a helper is
asked with GET. -/
def Question : Effect → Prop
  | .scan _ => True
  | .command _ cmd => cmd ∈ ["rx", "ix", "cx"]
  | .helper method _ _ => method = "GET"
  | _ => False

/-- Nothing changed; outside there were questions only. -/
structure IsQuiet (w w' : World) : Prop where
  db : w'.db = w.db
  files : w'.files = w.files
  now : w'.now = w.now
  asked : ∃ new, w'.effects = w.effects ++ new ∧ ∀ e ∈ new, Question e

/-- The tables are left alone, and what is done outside is reading. -/
def Quiet : Frame World where
  rel := IsQuiet
  refl w := ⟨rfl, rfl, rfl, [], by simp, by simp⟩
  trans h h' := by
    obtain ⟨new, hnew, hq⟩ := h.asked
    obtain ⟨new', hnew', hq'⟩ := h'.asked
    refine ⟨h'.db.trans h.db, h'.files.trans h.files, h'.now.trans h.now, new ++ new', ?_, ?_⟩
    · rw [hnew', hnew, List.append_assoc]
    · intro e he
      rcases List.mem_append.mp he with he | he
      · exact hq e he
      · exact hq' e he

theorem quiet_ignoresFaults : IgnoresFaults Quiet := fun w fs =>
  ⟨rfl, rfl, rfl, [], by simp, by simp⟩

/-- An exception that becomes a status does nothing. -/
theorem quiet_orError {status : Nat} {x : Act Response} (h : Keeps Quiet x) :
    Keeps Quiet (orError status x) :=
  keeps_tryCatch h fun _ => keeps_pure _

/-- A query is quiet. -/
theorem quiet_dbRead (q : Query Response) : Keeps Quiet (dbRead q) :=
  quiet_orError (keeps_bind (keeps_ask quiet_ignoresFaults _) fun _ =>
    keeps_ask quiet_ignoresFaults _)

/-- So is finding out who asks. -/
theorem quiet_sessionInfo (sess : String) : Keeps Quiet (sessionInfo d sess) :=
  keeps_ite (keeps_pure _) (keeps_tryCatch (keeps_bind (keeps_ask quiet_ignoresFaults _)
    fun _ => keeps_ask quiet_ignoresFaults _) fun _ => keeps_pure _)

/-- A scan asks devices for their names. -/
theorem quiet_scan (what : String) : Keeps Quiet (scan what) := by
  intro w
  unfold scan
  match w.scans with
  | [] => exact ⟨rfl, rfl, rfl, [.scan what], rfl, by simp [Question]⟩
  | .error e :: rest => exact ⟨rfl, rfl, rfl, [], by simp, by simp⟩
  | .ok found :: rest => exact ⟨rfl, rfl, rfl, [.scan what], rfl, by simp [Question]⟩

/-- A device that is opened is as it was. -/
theorem quiet_openDevice (transport address : String) :
    Keeps Quiet (openDevice transport address) := by
  intro w
  unfold openDevice
  split
  · exact Quiet.refl w
  · match w.opens with
    | [] => exact Quiet.refl w
    | .error e :: rest => exact ⟨rfl, rfl, rfl, [], by simp, by simp⟩
    | .ok () :: rest => exact ⟨rfl, rfl, rfl, [], by simp, by simp⟩

/-- The commands that read a device change nothing of it. -/
theorem quiet_queryRaw (dev : SqmDevice) {cmd : String} (hcmd : cmd ∈ ["rx", "ix", "cx"]) :
    Keeps Quiet (dev.queryRaw cmd) := by
  intro w
  unfold SqmDevice.queryRaw
  match w.turns with
  | [] => exact Quiet.refl w
  | turn :: rest =>
    have hq : Quiet.rel w { w with
        turns := rest
        effects := if turn.received then w.effects ++ [.command dev.address cmd]
          else w.effects } := by
      by_cases hr : turn.received = true
      · exact ⟨rfl, rfl, rfl, [.command dev.address cmd], by simp [hr], by simpa [Question] using hcmd⟩
      · exact ⟨rfl, rfl, rfl, [], by simp [hr], by simp⟩
    cases hans : turn.answer with
    | ok line => simpa [hans] using hq
    | error e => simpa [hans] using hq

/-- The read-outs of a device are questions. -/
theorem quiet_calibration (dev : SqmDevice) : Keeps Quiet (dev.calibration d) :=
  keeps_bind (quiet_queryRaw dev (by simp)) fun _ => keeps_liftExcept _

theorem quiet_readAveraged (dev : SqmDevice) : Keeps Quiet (dev.readAveraged d) :=
  keeps_bind (quiet_queryRaw dev (by simp)) fun _ => keeps_liftExcept _

theorem quiet_info (dev : SqmDevice) : Keeps Quiet (dev.info d) :=
  keeps_bind (quiet_queryRaw dev (by simp)) fun _ => keeps_liftExcept _

/-- A handler of a device is as quiet as what it does with it. -/
theorem quiet_withDevice {id : String} {k : SensorRow → SqmDevice → Act Response}
    (hk : ∀ s dev, Keeps Quiet (k s dev)) : Keeps Quiet (withDevice d id k) := by
  refine quiet_orError (keeps_bind (keeps_ask quiet_ignoresFaults _) fun _ =>
    keeps_bind (keeps_ask quiet_ignoresFaults _) fun found => ?_)
  cases found with
  | none => exact keeps_pure _
  | some s => exact keeps_bind (quiet_openDevice _ _) fun dev => hk s dev

theorem quiet_health : Keeps Quiet (health d) :=
  keeps_bind (keeps_tryCatch (keeps_bind (keeps_ask quiet_ignoresFaults _) fun _ => keeps_pure _)
    fun _ => keeps_pure _) fun _ => keeps_pure _

theorem quiet_discover (req : Request) : Keeps Quiet (discover req) :=
  keeps_ite (keeps_pure _) (quiet_orError (keeps_bind (quiet_scan _) fun _ => keeps_pure _))

theorem quiet_me (req : Request) : Keeps Quiet (me d cfg req) := by
  refine keeps_ite (keeps_pure _) (keeps_bind (quiet_sessionInfo _) fun found => ?_)
  cases found with
  | none => exact keeps_pure _
  | some si => exact keeps_pure _

/-- The endpoints that anyone may ask, and that only read. -/
def Endpoint.readsOnly : Endpoint → Bool
  | .version | .health | .events | .dbStatus | .extensions | .extensionData _ | .discover
  | .discoverUsb | .listSensors | .getSensor _ | .sensorReadings _ | .sensorDsn _
  | .getCalibration _ | .calibrationHistory _ | .listWeatherStations | .getWeatherStation _
  | .weatherStationReadings _ | .listExportTargets | .getExportTarget _ | .exportTargetLog _
  | .me => true
  | _ => false

/-- The requests that change more than the caller's own login. -/
def Endpoint.writes (e : Endpoint) (req : Request) : Bool :=
  match e with
  | .platform _ => req.method = .post
  | .getSettings | .listUsers | .testSensor _ | .login | .logout | .mePassword => false
  | e => !e.readsOnly

/-- An endpoint that only reads is quiet. -/
theorem quiet_handle {e : Endpoint} (he : e.readsOnly = true) (req : Request) :
    Keeps Quiet (handle d cfg e req) := by
  cases e with
  | version => exact keeps_pure _
  | health => exact quiet_health
  | discover => exact quiet_discover req
  | discoverUsb => exact quiet_orError (keeps_bind (quiet_scan _) fun _ => keeps_pure _)
  | getCalibration id =>
    exact quiet_withDevice fun _ dev => keeps_bind (quiet_calibration dev) fun _ => keeps_pure _
  | me => exact quiet_me req
  | events | dbStatus | extensions | extensionData | listSensors | getSensor | sensorReadings
  | sensorDsn | calibrationHistory | listWeatherStations | getWeatherStation
  | weatherStationReadings | listExportTargets | getExportTarget | exportTargetLog =>
    exact quiet_dbRead _
  | _ => cases he

/-! ## Quiet handlers behind the guard -/

theorem quiet_requireAuth (req : Request) (needAdmin : Bool) :
    Keeps Quiet (requireAuth d cfg req needAdmin) :=
  keeps_of_meets fun w => meets_requireAuth (fun fs _ => quiet_ignoresFaults w fs)
    fun _ _ fs => quiet_ignoresFaults w fs

/-- The check of the role is quiet. -/
theorem quiet_adminOnly {req : Request} {k : Act Response} (hk : Keeps Quiet k) :
    Keeps Quiet (adminOnly d cfg req k) := by
  refine keeps_bind (quiet_requireAuth req true) fun refusal => ?_
  cases refusal with
  | none => exact hk
  | some res => exact keeps_pure _

/-- A GET of the helper changes nothing. -/
theorem quiet_askHelper (target body : String) : Keeps Quiet (askHelper "GET" target body) := by
  intro w
  unfold askHelper
  match w.helperAnswers with
  | [] => exact ⟨rfl, rfl, rfl, [.helper "GET" target body], rfl, by simp [Question]⟩
  | answer :: rest => exact ⟨rfl, rfl, rfl, [.helper "GET" target body], rfl, by simp [Question]⟩

/-- So does a GET that goes through to it. -/
theorem quiet_platform {req : Request} (hmethod : req.method ≠ .post) (path : String) :
    Keeps Quiet (platform d cfg req path) := by
  refine quiet_adminOnly (keeps_bind keeps_get fun w => keeps_ite (keeps_pure _) ?_)
  refine keeps_ite (keeps_pure _) ?_
  dsimp only
  rw [if_neg hmethod]
  refine keeps_bind (quiet_askHelper _ _) fun answer => ?_
  match answer with
  | none => exact keeps_pure _
  | some (status, ctype, body) => exact keeps_pure _

/-- A check of the health is as quiet as what it looks at. -/
theorem quiet_check (name : String) {x : Act (List (String × Json))} (hx : Keeps Quiet x) :
    Keeps Quiet (check name x) :=
  keeps_tryCatch (keeps_bind hx fun _ => keeps_pure _) fun _ => keeps_pure _

/-- A self-test asks the device three things. -/
theorem quiet_testSensor (req : Request) (id : String) : Keeps Quiet (testSensor d cfg req id) := by
  refine quiet_adminOnly (keeps_bind (keeps_tryCatch (keeps_bind (keeps_ask quiet_ignoresFaults _)
    fun _ => keeps_bind (keeps_ask quiet_ignoresFaults _) fun _ => keeps_pure _)
    fun _ => keeps_pure _) fun found => ?_)
  match found with
  | .error e => exact keeps_pure _
  | .ok none => exact keeps_pure _
  | .ok (some s) =>
    refine keeps_bind (keeps_tryCatch (keeps_map (quiet_openDevice _ _)) fun _ => keeps_pure _)
      fun opened => ?_
    cases opened with
    | error e => exact keeps_pure _
    | ok dev =>
      refine keeps_bind (quiet_check _ ?_) fun _ => keeps_bind (quiet_check _ ?_) fun _ =>
        keeps_bind (quiet_check _ ?_) fun _ => keeps_pure _
      · exact keeps_bind (quiet_info dev) fun _ => keeps_pure _
      · exact keeps_bind (quiet_readAveraged dev) fun _ => keeps_pure _
      · exact keeps_bind (quiet_calibration dev) fun _ => keeps_pure _

end NightWatcher.Api
