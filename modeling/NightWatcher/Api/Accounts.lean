import NightWatcher.Api.Guard

/-!
# What became of a request

`Outcome` inverts `serve`: a request changed nothing, or it was a login with a
right password, a logout, a change of the caller's own password with the current
one, or it carried admin credentials. Every invariant about who can change what
is read off these cases (`serve_outcome`).
-/

namespace NightWatcher.Api

open Throwing Database

variable {d : Deps} {cfg : ApiConfig} {req : Request} {w : World}

/-! ## The statements about accounts -/

/-- `create_session` adds one row of the user, or nothing. -/
theorem meets_createSession {srv : Server} {token : String} {userId : Nat} {ttl : Int}
    {Q : World → Prop} {E : String → World → Prop}
    (hok : ∀ row : SessionRow, row.userId = userId → ∀ fs,
      Q { w with db := { w.db with sessions := w.db.sessions ++ [row] }, dbFaults := fs })
    (herr : ∀ e fs, E e (w.withFaults fs)) :
    Meets (createSession srv token userId ttl) w (fun _ => Q) E := by
  refine meets_statement (fun a db' fs h => ?_) herr
  simp only [Option.bind_eq_bind, Option.bind_eq_some_iff, Option.pure_def, Option.some.injEq,
    Prod.mk.injEq] at h
  obtain ⟨_, -, _, -, _, -, -, rfl⟩ := h
  exact hok _ rfl fs

/-- `delete_session` takes the rows of the token away, or nothing. -/
theorem meets_deleteSession {srv : Server} {token : String} {Q : World → Prop}
    {E : String → World → Prop}
    (hok : ∀ fs, Q { w with
      db := { w.db with sessions := w.db.sessions.filter fun x => !srv.same x.token token }
      dbFaults := fs })
    (herr : ∀ e fs, E e (w.withFaults fs)) :
    Meets (deleteSession srv token) w (fun _ => Q) E := by
  refine meets_statement (fun a db' fs h => ?_) herr
  cases h
  exact hok fs

/-- The users with one name given another hash and flag. -/
def rehash (srv : Server) (username hash : String) (flag : Bool) (users : List UserRow) :
    List UserRow :=
  users.map fun u =>
    if srv.same u.username username then { u with passwordHash := hash, mustChangePassword := flag }
    else u

/-- `set_user_password` writes hash and flag of the user, or nothing. -/
theorem meets_setUserPassword {srv : Server} {username hash : String} {flag : Bool}
    {Q : World → Prop} {E : String → World → Prop}
    (hok : ∀ hash' fs, Q { w with
      db := { w.db with users := rehash srv username hash' flag w.db.users }, dbFaults := fs })
    (hnone : ∀ fs, Q (w.withFaults fs))
    (herr : ∀ e fs, E e (w.withFaults fs)) :
    Meets (setUserPassword srv username hash flag) w (fun _ => Q) E := by
  unfold setUserPassword
  simp only [meets_bind, meets_ite, meets_pure]
  refine meets_select (fun fs => ⟨fun _ => hnone fs, fun _ => ?_⟩) (fun fs => herr _ fs)
  refine meets_statement (fun a db' fs' h => ?_) (fun e fs' => herr e fs')
  simp only [Option.bind_eq_bind, Option.bind_eq_some_iff, Option.pure_def, Option.some.injEq,
    Prod.mk.injEq, updateWhere_some] at h
  obtain ⟨hash', -, rows, rfl, -, rfl⟩ := h
  exact hok hash' fs'

/-! ## The cases -/

/-- The request's body has the user's name and the user's password. -/
def PasswordPresented (d : Deps) (req : Request) (w : World) (u : UserRow) : Prop :=
  ∃ body username password, d.json.parse req.body = some body ∧
    body.member? "username" = some (.str username) ∧
    body.member? "password" = some (.str password) ∧
    w.db.users.find? (fun x => d.server.same x.username username) = some u ∧
    d.verifyPassword password u.passwordHash = .ok true

/-- The request presents a live session, and its body the current password of the user
of that name. -/
def OwnPasswordPresented (d : Deps) (req : Request) (w : World) (si : SessionInfo) (u : UserRow) :
    Prop :=
  presentedUser d req w = some si ∧
    w.db.users.find? (fun x => d.server.same x.username si.username) = some u ∧
    ∃ body password, d.json.parse req.body = some body ∧
      body.member? "current_password" = some (.str password) ∧
      d.verifyPassword password u.passwordHash = .ok true

/-- Nothing outside the tables happened. -/
def SameOutside (w w' : World) : Prop :=
  w'.files = w.files ∧ w'.now = w.now ∧ w'.effects = w.effects

/-- What a request can do to users and sessions, by who sent it. -/
inductive Outcome (d : Deps) (cfg : ApiConfig) (req : Request) (w w' : World) : Prop
  | quiet (h : IsQuiet w w')
  | loggedIn (u : UserRow) (hu : PasswordPresented d req w u)
      (row : SessionRow) (hrow : row.userId = u.id)
      (hdb : w'.db = { w.db with sessions := w.db.sessions ++ [row] }) (hout : SameOutside w w')
  | loggedOut
      (hdb : w'.db = { w.db with
        sessions := w.db.sessions.filter fun x => !d.server.same x.token (sessionToken req) })
      (hout : SameOutside w w')
  | passwordChanged (si : SessionInfo) (u : UserRow)
      (hu : OwnPasswordPresented d req w si u) (hash : String)
      (hdb : w'.db = { w.db with users := rehash d.server si.username hash false w.db.users })
      (hout : SameOutside w w')
  | privileged (e : Endpoint) (hroute : route req = some e) (hwrites : e.writes req = true)
      (h : HasAdmin d cfg req w)

/-- A request that only made calls did nothing to them. -/
theorem outcome_withFaults {fs : List Bool} : Outcome d cfg req w (w.withFaults fs) :=
  .quiet (quiet_ignoresFaults w fs)

/-- Faults used up before the handler ran make no difference. -/
theorem Outcome.of_withFaults {fs : List Bool} {w' : World}
    (h : Outcome d cfg req (w.withFaults fs) w') : Outcome d cfg req w w' := by
  cases h with
  | quiet h => exact .quiet ⟨h.db, h.files, h.now, h.asked⟩
  | loggedIn u hu row hrow hdb hout => exact .loggedIn u hu row hrow hdb hout
  | loggedOut hdb hout => exact .loggedOut hdb hout
  | passwordChanged si u hu hash hdb hout => exact .passwordChanged si u hu hash hdb hout
  | privileged e hroute hwrites h => exact .privileged e hroute hwrites h

/-! ## One lemma per kind of handler -/

/-- Neither did one whose calls are quiet. -/
theorem outcome_of_quiet {x : Act Response} (hx : Keeps Quiet x) :
    Meets x w (fun _ => Outcome d cfg req w) (fun _ => Outcome d cfg req w) :=
  (hx.meets w).mono (fun _ _ h => .quiet h) fun _ _ h => .quiet h

/-- Behind the guard of a writing handler only an administrator's request goes on. -/
theorem outcome_adminOnly {e : Endpoint} {k : Act Response} (hroute : route req = some e)
    (hwrites : e.writes req = true) :
    Meets (adminOnly d cfg req k) w (fun _ => Outcome d cfg req w) fun _ => Outcome d cfg req w :=
  meets_adminOnly
    (fun _ hadmin => meets_always (fun _ _ => .privileged e hroute hwrites hadmin)
      fun _ _ => .privileged e hroute hwrites hadmin)
    fun _ _ => outcome_withFaults

/-- A text member of a body, or an error. -/
theorem meets_getString {body : Json} {key : String} {Q : String → World → Prop}
    {E : String → World → Prop} (hok : ∀ s, body.member? key = some (.str s) → Q s w)
    (herr : ∀ e, E e w) : Meets (getMember body key Json.getString) w Q E := by
  unfold getMember
  rw [meets_liftExcept]
  refine ⟨fun s hs => hok s ?_, fun e _ => herr e⟩
  cases hmember : body.member? key with
  | none => simp [hmember, Json.getString] at hs
  | some j =>
    rw [hmember] at hs
    cases j with
    | str t => exact congrArg (fun x => some (Json.str x)) (Except.ok.inj hs)
    | _ => cases hs

/-- What a handler reads, draws and answers leaves nothing behind. -/
theorem outcome_unchanged {w' : World} (hdb : w'.db = w.db) (hout : SameOutside w w') :
    Outcome d cfg req w w' :=
  .quiet ⟨hdb, hout.1, hout.2.1, [], by rw [hout.2.2, List.append_nil], by simp⟩

/-- `POST /login` adds a session of the user whose password it presents, or nothing. -/
theorem outcome_login : Meets (login d req) w
    (fun _ => Outcome d cfg req w) fun _ => Outcome d cfg req w := by
  have hsame : SameOutside w w := ⟨rfl, rfl, rfl⟩
  unfold login withBody
  cases hbody : d.json.parse req.body with
  | none => exact outcome_unchanged rfl hsame
  | some body =>
    rw [meets_ite]
    refine ⟨fun _ => outcome_unchanged rfl hsame, fun _ => ?_⟩
    simp only [orError, meets_tryCatch, meets_bind, meets_pure]
    refine meets_ask (fun _ fs => ?_) fun _ fs => outcome_unchanged rfl hsame
    refine meets_getString (fun username husername => ?_) fun _ => outcome_unchanged rfl hsame
    refine meets_select (fun fs => ?_) fun fs => outcome_unchanged rfl hsame
    cases hfind : w.db.users.find? (fun x => d.server.same x.username username) with
    | none => exact outcome_unchanged rfl hsame
    | some u =>
      simp only [meets_bind]
      refine meets_getString (fun password hpassword => ?_) fun _ => outcome_unchanged rfl hsame
      rw [meets_liftExcept]
      refine ⟨fun verified hverified => ?_, fun _ _ => outcome_unchanged rfl hsame⟩
      cases verified with
      | false => exact outcome_unchanged rfl hsame
      | true =>
        have hu : PasswordPresented d req w u :=
          ⟨body, username, password, hbody, husername, hpassword, hfind, hverified⟩
        simp only [Bool.not_true, Bool.false_eq_true, if_false, newSessionToken, draw, meets_bind,
          meets_modifyGet, meets_pure]
        exact meets_createSession (fun row hrow fs => .loggedIn u hu row hrow rfl hsame)
          fun _ fs => outcome_unchanged rfl hsame

/-- `POST /logout` deletes the sessions of its own cookie, or nothing. -/
theorem outcome_logout : Meets (logout d req) w
    (fun _ => Outcome d cfg req w) fun _ => Outcome d cfg req w := by
  have hsame : SameOutside w w := ⟨rfl, rfl, rfl⟩
  unfold logout
  simp only [meets_bind, meets_tryCatch, meets_ite, meets_pure]
  refine ⟨fun _ => ?_, fun _ => outcome_unchanged rfl hsame⟩
  refine meets_ask (fun _ fs => ?_) fun _ fs => outcome_unchanged rfl hsame
  exact meets_deleteSession (fun fs => .loggedOut rfl hsame) fun _ fs => outcome_unchanged rfl hsame

/-- `POST /me/password` changes the password of the session's own user, or nothing. -/
theorem outcome_mePassword : Meets (mePassword d req) w
    (fun _ => Outcome d cfg req w) fun _ => Outcome d cfg req w := by
  have hsame : SameOutside w w := ⟨rfl, rfl, rfl⟩
  unfold mePassword withBody
  cases hbody : d.json.parse req.body with
  | none => exact outcome_unchanged rfl hsame
  | some body =>
    rw [meets_ite]
    refine ⟨fun _ => outcome_unchanged rfl hsame, fun _ => ?_⟩
    simp only [orError, meets_tryCatch, meets_bind, meets_pure]
    refine meets_ask (fun _ fs => ?_) fun _ fs => outcome_unchanged rfl hsame
    rw [meets_ite]
    refine ⟨fun _ => outcome_unchanged rfl hsame, fun hpresents => ?_⟩
    rw [meets_bind]
    refine meets_select (fun fs => ?_) fun fs => outcome_unchanged rfl hsame
    cases hlive : liveSession d.server (sessionToken req) ⟨w.db, w.now⟩ with
    | none => exact outcome_unchanged rfl hsame
    | some si =>
      simp only [meets_bind]
      refine meets_select (fun fs => ?_) fun fs => outcome_unchanged rfl hsame
      cases hfind : w.db.users.find? (fun x => d.server.same x.username si.username) with
      | none => exact outcome_unchanged rfl hsame
      | some u =>
        simp only [meets_bind]
        refine meets_getString (fun current hcurrent => ?_) fun _ => outcome_unchanged rfl hsame
        rw [meets_liftExcept]
        refine ⟨fun verified hverified => ?_, fun _ _ => outcome_unchanged rfl hsame⟩
        cases verified with
        | false => exact outcome_unchanged rfl hsame
        | true =>
          have hsi : presentedUser d req w = some si := by
            unfold presentedUser
            rw [if_neg hpresents, hlive]
          have hu : OwnPasswordPresented d req w si u :=
            ⟨hsi, hfind, body, current, hbody, hcurrent, hverified⟩
          simp only [Bool.not_true, Bool.false_eq_true, if_false, newHash, draw, meets_bind,
            meets_modifyGet, meets_pure]
          refine meets_getString (fun password _ => ?_) fun _ => outcome_unchanged rfl hsame
          exact meets_setUserPassword (fun hash' fs => .passwordChanged si u hu hash' rfl hsame)
            (fun fs => outcome_unchanged rfl hsame) fun _ fs => outcome_unchanged rfl hsame

/-! ## Every request -/

/-- Every handler has one of the outcomes. -/
theorem outcome_handle {e : Endpoint} (hroute : route req = some e) :
    Meets (handle d cfg e req) w (fun _ => Outcome d cfg req w) fun _ => Outcome d cfg req w := by
  cases e with
  | login => exact outcome_login
  | logout => exact outcome_logout
  | mePassword => exact outcome_mePassword
  | testSensor id => exact outcome_of_quiet (quiet_testSensor req id)
  | getSettings => exact outcome_of_quiet (quiet_adminOnly (quiet_dbRead _))
  | listUsers =>
    exact outcome_of_quiet (quiet_adminOnly (quiet_orError (keeps_bind
      (keeps_ask quiet_ignoresFaults _) fun _ => keeps_bind (keeps_ask quiet_ignoresFaults _)
      fun _ => keeps_pure _)))
  | platform path =>
    by_cases hmethod : req.method = .post
    · exact outcome_adminOnly hroute (decide_eq_true hmethod)
    · exact outcome_of_quiet (quiet_platform hmethod path)
  | version | health | events | dbStatus | extensions | extensionData | discover | discoverUsb
  | listSensors | getSensor | sensorReadings | sensorDsn | getCalibration | calibrationHistory
  | listWeatherStations | getWeatherStation | weatherStationReadings | listExportTargets
  | getExportTarget | exportTargetLog | me => exact outcome_of_quiet (quiet_handle rfl req)
  | _ => exact outcome_adminOnly hroute rfl

/-- The gate asks who is calling and changes nothing. -/
theorem meets_gate_status {Q : Option Response → World → Prop} {E : String → World → Prop}
    (hpass : ∀ fs, Q none (w.withFaults fs))
    (hrefuse : ∀ status msg fs, status = 401 ∨ status = 403 →
      Q (some (sendErr status msg)) (w.withFaults fs)) :
    Meets (gate d cfg req) w Q E := by
  unfold gate
  simp only [meets_ite, meets_pure]
  refine ⟨fun _ => hpass w.dbFaults, fun _ => ⟨fun _ => hpass w.dbFaults, fun _ => ?_⟩⟩
  refine ⟨fun _ => hpass w.dbFaults, fun _ => ?_⟩
  exact meets_requireAuth_status (fun fs _ => hpass fs) hrefuse

/-- The gate passes the request or answers it, and only makes calls. -/
theorem meets_gate {Q : Option Response → World → Prop} {E : String → World → Prop}
    (hpass : ∀ fs, Q none (w.withFaults fs))
    (hrefuse : ∀ status msg fs, Q (some (sendErr status msg)) (w.withFaults fs)) :
    Meets (gate d cfg req) w Q E :=
  meets_gate_status hpass fun status msg fs _ => hrefuse status msg fs

/-- What can have become of a request. -/
theorem serve_outcome (d : Deps) (cfg : ApiConfig) (req : Request) (w : World) :
    Outcome d cfg req w (endState (serve d cfg req w)) := by
  refine Meets.endState (P := Outcome d cfg req w) ?_
  unfold serve
  simp only [meets_tryCatch, meets_bind, meets_pure]
  refine meets_gate (fun fs => ?_) fun _ _ fs => outcome_withFaults
  cases webFile cfg req with
  | some res => exact outcome_withFaults
  | none =>
    cases hroute : route req with
    | none => exact outcome_withFaults
    | some e =>
      refine (outcome_handle (w := w.withFaults fs) hroute).mono (fun _ _ h => ?_) fun _ _ h => ?_
      · exact h.of_withFaults
      · exact h.of_withFaults

end NightWatcher.Api
