import NightWatcher.Daemon.Activity

/-!
# The life of a session

A session is opened by a login with the user's password (`opened_by`), lasts for
`sessionTtl`, and is closed by a logout with its token or with its user
(`closed_by`). Over a run of the daemon this adds up to: whoever is let in by a
session token has logged in with their password less than `sessionTtl` ago, and the
session has not been closed since (`session_from_login`); a session that nobody
closes lets its user in until its time is over (`session_lasts`); a token that was
logged out lets nobody in until another login is given the same one
(`logout_final`); and the id of a deleted user is not heard of again
(`deleted_user_gone`).
-/

namespace NightWatcher.Daemon

open Throwing Transcript Database Api

variable {d : Deps} {cfg : ApiConfig} {w : World} {m : Moment} {x : SessionRow}

/-! ## One turn -/

/-- The login that opens a session. -/
def OpenedBy (d : Deps) (x : SessionRow) (w : World) (m : Moment) : Prop :=
  ∃ req u, m.activity = .request req ∧ route req = some .login ∧
    PasswordPresented d req (w.facing m.outside) u ∧ x.userId = u.id ∧
    x.expiresAt = m.outside.now + sessionTtl

theorem presented_mem {req : Request} {u : UserRow} (h : PasswordPresented d req w u) :
    u ∈ w.db.users := by
  obtain ⟨_, username, _, -, -, -, hfind, -⟩ := h
  exact List.mem_of_find?_eq_some hfind

theorem request_outcome (d : Deps) (cfg : ApiConfig) (w : World) {req : Request}
    (h : m.activity = .request req) :
    Api.Outcome d cfg req (w.facing m.outside) (next d cfg w m) := by
  rw [next_request h]
  exact serve_outcome d cfg req (w.facing m.outside)

theorem opened_by (hschema : SchemaInert d.server cfg) (hnone : x ∉ w.db.sessions)
    (hx : x ∈ (next d cfg w m).db.sessions) : OpenedBy d x w m := by
  obtain ⟨k, hk, hnot, db, db', hstep, hout, hin⟩ :=
    next_loses hschema (Q := (x ∉ Db.sessions ·)) hnone fun h => h hx
  obtain ⟨ttl, rfl, hexpires⟩ := hstep.opens_session hnot hout (not_not.mp hin)
  obtain ⟨req, e, hactivity, hroute, hmem⟩ := touches_route hk (by simp [workerWrites])
  obtain ⟨rfl, rfl⟩ := (route_of_touches hmem).2.2.2.2.1 ttl rfl
  cases request_outcome d cfg w hactivity with
  | quiet h =>
    rw [h.db] at hx
    exact absurd hx hnone
  | loggedIn u hu row hrow hdb hsame =>
    rw [hdb] at hx
    rcases List.mem_append.mp hx with hold | hlast
    · exact absurd hold hnone
    · obtain rfl := List.mem_singleton.mp hlast
      exact ⟨req, u, hactivity, hroute, hu, hrow, hexpires⟩
  | loggedOut hdb hsame =>
    rw [hdb] at hx
    exact absurd (List.mem_filter.mp hx).1 hnone
  | passwordChanged si u hu hash hdb hsame =>
    rw [hdb] at hx
    exact absurd hx hnone
  | privileged e' hroute' hwrites h =>
    -- the login route writes for its sender only
    obtain rfl := Option.some.inj (hroute.symm.trans hroute')
    cases hwrites

/-- The logout with its token, or the deletion of its user, that closes a session. -/
def ClosedBy (d : Deps) (cfg : ApiConfig) (x : SessionRow) (w : World) (m : Moment) : Prop :=
  ∃ req, (m.activity = .request req ∧ route req = some .logout ∧
      d.server.same x.token (sessionToken req) = true) ∨
    ∃ name, AdminRequest d cfg (.deleteUser name) req w m

theorem closed_by (hschema : SchemaInert d.server cfg) (hx : x ∈ w.db.sessions)
    (hgone : x ∉ (next d cfg w m).db.sessions) : ClosedBy d cfg x w m := by
  obtain ⟨k, hk, hnot, db, db', hstep, hin, hout⟩ :=
    next_loses hschema (Q := (x ∈ Db.sessions ·)) hx hgone
  rcases hstep.loses_session hnot hin hout with ⟨token, rfl, hsame⟩ | ⟨name, rfl, -⟩
  · obtain ⟨req, e, hactivity, hroute, hmem⟩ := touches_route hk (by simp [workerWrites])
    obtain ⟨rfl, rfl⟩ := (route_of_touches hmem).2.2.2.2.2 token rfl
    exact ⟨req, Or.inl ⟨hactivity, hroute, hsame⟩⟩
  · obtain ⟨req, e, hactivity, hroute, hmem⟩ := touches_route hk (by simp [workerWrites])
    obtain rfl := (route_of_touches hmem).2.2.2.1 name rfl
    exact ⟨req, Or.inr ⟨name,
        ordered_of_changed hactivity hroute rfl (Q := (x ∈ Db.sessions ·)) hx hgone⟩⟩

/-! ## Who is let in -/

/-- The row behind a session token. -/
theorem liveSession_row {srv : Server} {token : String} {s : Snapshot} {si : SessionInfo}
    (h : liveSession srv token s = some si) :
    ∃ x ∈ s.db.sessions, srv.same x.token token = true ∧ s.now < x.expiresAt ∧
      ∃ u ∈ s.db.users, u.id = x.userId ∧
          si = { userId := u.id, username := u.username, role := u.role } := by
  unfold liveSession at h
  obtain ⟨x, hx, hfound⟩ := List.exists_of_findSome?_eq_some h
  obtain ⟨u, hu, rfl⟩ := Option.map_eq_some_iff.mp hfound
  obtain ⟨hmem, hlive⟩ := List.mem_filter.mp hx
  rw [Bool.and_eq_true, decide_eq_true_iff] at hlive
  have hid := List.find?_some hu
  rw [decide_eq_true_iff] at hid
  exact ⟨x, hmem, hlive.1, hlive.2, u, List.mem_of_find?_eq_some hu, hid, rfl⟩

/-- A session that is open at the end of a run and was not at first has been open since its login. -/
theorem open_since (hschema : SchemaInert d.server cfg) {moments : List Moment}
    (hnone : x ∉ w.db.sessions) (hx : x ∈ (run (next d cfg) w moments).db.sessions) :
    ∃ before m after, moments = before ++ m :: after ∧ OpenedBy d x (run (next d cfg) w before) m ∧
      ∀ done rest, after = done ++ rest →
        x ∈ (run (next d cfg) (next d cfg (run (next d cfg) w before) m) done).db.sessions := by
  rcases run_since (Q := fun w : World => x ∈ w.db.sessions) hx
      with hall | ⟨before, m, after, rfl, hnot, hsince⟩
  · exact absurd (hall [] moments rfl) hnone
  · exact ⟨before, m, after, rfl, opened_by hschema hnot (hsince [] after rfl), hsince⟩

/-- A user whom a session token lets in logged in with the password of the account less than
`sessionTtl` before, and the session has been in the table ever since. -/
theorem session_from_login (hschema : SchemaInert d.server cfg) (hI : Integrity d.server w.db)
    (hnone : w.db.sessions = []) (moments : List Moment) (o : Outside) {req : Request}
    {si : SessionInfo}
    (hsi : presentedUser d req ((run (next d cfg) w moments).facing o) = some si) :
    ∃ before m after signIn u x, moments = before ++ m :: after ∧ m.activity = .request signIn ∧
      route signIn = some .login ∧
      PasswordPresented d signIn ((run (next d cfg) w before).facing m.outside) u ∧
      si = { userId := u.id, username := u.username, role := u.role } ∧
      o.now < m.outside.now + sessionTtl ∧ d.server.same x.token (sessionToken req) = true ∧
      ∀ done rest, after = done ++ rest →
        x ∈ (run (next d cfg) (next d cfg (run (next d cfg) w before) m) done).db.sessions := by
  obtain ⟨x, hx, hsame, hlive, v, hv, hid, rfl⟩ := liveSession_row (presentedUser_live hsi)
  have hfirst : x ∉ w.db.sessions := by
    rw [hnone]
    exact List.not_mem_nil
  obtain ⟨before, m, after, rfl, ⟨signIn, u, hactivity, hroute, hu, huser, hexpires⟩, hsince⟩ :=
    open_since hschema hfirst hx
  refine ⟨before, m, after, signIn, u, x, rfl, hactivity, hroute, hu, ?_, ?_, hsame, hsince⟩
  · -- the id of the session's user named the same account then and now
    have hthen : Integrity d.server (run (next d cfg) w before).db :=
      run_invariant (integrity_next hschema) hI
    have hrecords := (archive_run hschema _ (m :: after)).sameRecords hthen
    rw [← run_append] at hrecords
    have haccount := hrecords.accounts u (presented_mem hu) v hv (hid.trans huser)
    obtain ⟨hid, hname, hrole, -⟩ : v.id = u.id ∧ v.username = u.username ∧ v.role = u.role ∧
        v.createdAt = u.createdAt := by
      simpa [account] using haccount
    rw [hid, hname, hrole]
  · rw [← hexpires]
    exact hlive

/-- The administrator of the first day asks with the session of the first login. -/
theorem session_from_login_firstDay :
    ∃ before m after signIn u x, firstDay = before ++ m :: after ∧ m.activity = .request signIn ∧
      route signIn = some .login ∧
      PasswordPresented firstDeps signIn ((run (next firstDeps {}) {} before).facing m.outside) u ∧
      adminSession = { userId := u.id, username := u.username, role := u.role } ∧
      (0 : Int) < m.outside.now + sessionTtl ∧
      firstDeps.server.same x.token (sessionToken setsListener.req) = true ∧
      ∀ done rest, after = done ++ rest →
        x ∈ (run (next firstDeps {}) (next firstDeps {} (run (next firstDeps {}) {} before) m)
            done).db.sessions :=
  session_from_login (schemaInert_plain _ _) (integrity_empty _) rfl firstDay {} (by decide +kernel)

/-- A session that nobody closes lets its user in until its time is over. -/
theorem session_lasts (hschema : SchemaInert d.server cfg) (hI : Integrity d.server w.db)
    (hx : x ∈ w.db.sessions) (after : List Moment)
    (hopen : Throughout (next d cfg) (fun w m => ¬ClosedBy d cfg x w m) w after) (o : Outside)
    (hnow : o.now < x.expiresAt) {req : Request} (hpresents : sessionToken req ≠ "")
    (hsame : d.server.same x.token (sessionToken req) = true) :
    ∃ si, presentedUser d req ((run (next d cfg) w after).facing o) = some si ∧
        si.userId = x.userId := by
  have hkept : x ∈ (run (next d cfg) w after).db.sessions :=
    run_preserves (I := fun w => x ∈ w.db.sessions)
      (fun w m hno hin => by_contra fun hgone => hno (closed_by hschema hin hgone)) hopen hx
  have hend : Integrity d.server (run (next d cfg) w after).db :=
    run_invariant (integrity_next hschema) hI
  obtain ⟨u, hu, hid⟩ := hend.sessionUsers x hkept
  unfold presentedUser
  rw [if_neg hpresents]
  cases hlive : liveSession d.server (sessionToken req)
      ⟨((run (next d cfg) w after).facing o).db, ((run (next d cfg) w after).facing o).now⟩ with
  | none =>
    -- the row is found, and so is its user
    exfalso
    have hrow := List.findSome?_eq_none_iff.mp hlive x (List.mem_filter.mpr ⟨hkept, by
      rw [hsame, Bool.true_and]
      exact decide_eq_true hnow⟩)
    rw [Option.map_eq_none_iff, List.find?_eq_none] at hrow
    exact hrow u hu (decide_eq_true hid)
  | some si =>
    obtain ⟨y, hy, hysame, -, v, -, hvid, rfl⟩ := liveSession_row hlive
    -- the token names one session
    have htoken : d.server.collate y.token = d.server.collate x.token :=
      (same_collate.mp hysame).trans (same_collate.mp hsame).symm
    obtain rfl := List.inj_on_of_nodup_map hend.tokens hy hkept htoken
    exact ⟨_, rfl, hvid⟩

def askEvents : Moment where
  activity := .request { method := .get, path := "/api/v1/events" }

/-- The session that the first login opens. -/
def firstSession : SessionRow where
  token := firstDeps.randomHex 1 32
  userId := 1
  expiresAt := sessionTtl

theorem session_lasts_firstDay :
    ∃ si, presentedUser firstDeps setsListener.req
      ((run (next firstDeps {}) (run (next firstDeps {}) {} firstDay) [askEvents]).facing
          { now := 1000 }) =
        some si ∧ si.userId = 1 := by
  have hopen : Throughout (next firstDeps {}) (fun w m => ¬ClosedBy firstDeps {} firstSession w m)
      (run (next firstDeps {}) {} firstDay) [askEvents] := ⟨?_, trivial⟩
  · exact session_lasts (schemaInert_plain _ _)
      (run_invariant (integrity_next (schemaInert_plain _ _)) (integrity_empty _)) (by decide +kernel) _
      hopen { now := 1000 } (by decide) (by decide +kernel) (by decide +kernel)
  rintro ⟨req, ⟨hactivity, hroute, -⟩ | ⟨name, hactivity, hroute, -⟩⟩
  · obtain rfl := Activity.request.inj hactivity
    cases hroute
  · obtain rfl := Activity.request.inj hactivity
    cases hroute

/-! ## What ends a session -/

/-- A logout that reaches the database. -/
structure LogsOut (req : Request) (m : Moment) : Prop where
  activity : m.activity = .request req
  post : req.method = .post
  path : req.path = "/api/v1/logout"
  presents : sessionToken req ≠ ""
  answered : Clean 2 m.outside.dbFaults

theorem LogsOut.sessions {req : Request} (h : LogsOut req m) :
    (next d cfg w m).db.sessions =
      w.db.sessions.filter fun x => !d.server.same x.token (sessionToken req) := by
  have hroute : route req = some .logout := by
    unfold route
    rw [h.post, h.path]
    rfl
  rw [next_request h.activity]
  refine Meets.endState (P := fun w' : World => w'.db.sessions =
    w.db.sessions.filter fun x => !d.server.same x.token (sessionToken req)) ?_
  unfold serve
  simp only [meets_tryCatch, meets_bind, meets_pure]
  have hgate : gate d cfg req = pure none := by
    unfold gate
    rw [h.path]
    have hpublic : "/api/v1/logout" ∈ publicPaths := by simp [publicPaths]
    rw [if_pos hpublic]
    split
    · rfl
    · split
      · rfl
      · rfl
  have hweb : webFile cfg req = none := by
    unfold webFile
    rw [h.post]
  rw [hgate, meets_pure, hweb, hroute]
  show Meets (logout d req) (w.facing m.outside) _ _
  unfold logout
  simp only [meets_bind, meets_tryCatch, meets_ite, meets_pure]
  refine ⟨fun _ => ?_, fun hempty => absurd h.presents hempty⟩
  refine meets_connect_answered (k := 0) rfl (fun i hi => h.answered i (by omega)) ?_
  exact meets_statement_answered (k := 1) rfl h.answered rfl rfl

/-- A login that is given this token. -/
def GivesToken (d : Deps) (token : String) (w : World) (m : Moment) : Prop :=
  ∃ x, d.server.same x.token token = true ∧ OpenedBy d x w m

/-- After a logout its token lets nobody in, whatever is done, until a login is given it. -/
theorem logout_final (hschema : SchemaInert d.server cfg) {req : Request} (h : LogsOut req m)
    (after : List Moment) (o : Outside)
    (hnot : Throughout (next d cfg) (fun w m => ¬GivesToken d (sessionToken req) w m)
        (next d cfg w m) after) :
    presentedUser d req ((run (next d cfg) (next d cfg w m) after).facing o) = none := by
  have hclosed : ∀ x ∈ (next d cfg w m).db.sessions,
      ¬d.server.same x.token (sessionToken req) = true := by
    intro x hx hsame
    rw [h.sessions, List.mem_filter, hsame] at hx
    cases hx.2
  have hkept := run_preserves
    (I := fun w => ∀ x ∈ w.db.sessions, ¬d.server.same x.token (sessionToken req) = true)
    (fun w m hno hclosed x hx hsame => by
      by_cases hold : x ∈ w.db.sessions
      · exact hclosed x hold hsame
      · exact hno ⟨x, hsame, opened_by hschema hold hx⟩) hnot hclosed
  rw [Option.eq_none_iff_forall_ne_some]
  intro si hsi
  obtain ⟨x, hx, hsame, -⟩ := liveSession_row (presentedUser_live hsi)
  exact hkept x hx hsame

/-- The administrator of the first day logs out. -/
def signsOut : Moment where
  activity := .request (signedInRequest .post "/api/v1/logout" "").req

theorem logsOut_signsOut : LogsOut (signedInRequest .post "/api/v1/logout" "").req signsOut where
  activity := rfl
  post := rfl
  path := rfl
  presents := by decide +kernel
  answered i _ := by simp [signsOut]

theorem logout_final_firstDay :
    presentedUser firstDeps (signedInRequest .post "/api/v1/logout" "").req
      ((run (next firstDeps {}) (next firstDeps {} (run (next firstDeps {}) {} firstDay) signsOut)
        [askEvents]).facing {}) = none := by
  refine logout_final (schemaInert_plain _ _) logsOut_signsOut _ {} ⟨?_, trivial⟩
  rintro ⟨x, -, req, u, hactivity, hroute, -⟩
  obtain rfl := Activity.request.inj hactivity
  cases hroute

/-- The id of a user who is gone is not given again, and no session is the user's. -/
theorem deleted_user_gone (hschema : SchemaInert d.server cfg) (hI : Integrity d.server w.db)
    {u : UserRow} (hu : u ∈ w.db.users) (hgone : ∀ v ∈ (next d cfg w m).db.users, v.id ≠ u.id)
    (after : List Moment) :
    (∀ v ∈ (run (next d cfg) (next d cfg w m) after).db.users, v.id ≠ u.id) ∧
      ∀ x ∈ (run (next d cfg) (next d cfg w m) after).db.sessions, x.userId ≠ u.id := by
  have hnever : ∀ v ∈ (run (next d cfg) (next d cfg w m) after).db.users, v.id ≠ u.id := by
    intro v hv hid
    have hbelow := hI.userIds.below u.id (List.mem_map_of_mem hu)
    have hlater := (archive_next hschema w m).nextUser
    obtain ⟨kept, new, hsplit, hkept, hnew⟩ := (archive_run hschema (next d cfg w m) after).accounts
    have hmem := List.mem_map_of_mem (f := account) hv
    rw [hsplit] at hmem
    rcases List.mem_append.mp hmem with hold | hyoung
    · obtain ⟨v', hv', heq⟩ := List.mem_map.mp (hkept.subset hold)
      exact hgone v' hv' ((congrArg Prod.fst heq).trans hid)
    · have hfrom : (next d cfg w m).db.next.users ≤ v.id := hnew (account v) hyoung
      omega
  refine ⟨hnever, fun x hx hid => ?_⟩
  have hend : Integrity d.server (run (next d cfg) (next d cfg w m) after).db :=
    run_invariant (integrity_next hschema) (integrity_next hschema w m hI)
  obtain ⟨v, hv, hvid⟩ := hend.sessionUsers x hx
  exact hnever v hv (hvid.trans hid)

/-- An administrator deletes the viewer. -/
def deletesViewer : Moment where
  activity := .request
    { method := .delete, path := "/api/v1/users/viewer", headers := [("Authorization", "Bearer key")] }

/-- The viewer's site, its ids given. -/
def viewerDay : World := { viewerSite with db := { viewerSite.db with next := { users := 3 } } }

theorem integrity_viewerDay : Integrity viewerDeps.server viewerDay.db :=
  { integrity_empty viewerDeps.server with
    userNames := by
      unfold Keyed
      decide
    tokens := by
      unfold Keyed
      decide
    sessionUsers := by decide
    userIds := ⟨by decide, by decide⟩ }

theorem deleted_user_gone_viewer :
    (∀ v ∈ (run (next viewerDeps { token := "key" })
        (next viewerDeps { token := "key" } viewerDay deletesViewer) firstDay).db.users, v.id ≠ 2) ∧
      ∀ x ∈ (run (next viewerDeps { token := "key" })
        (next viewerDeps { token := "key" } viewerDay deletesViewer) firstDay).db.sessions,
        x.userId ≠ 2 :=
  deleted_user_gone (u := ⟨2, "viewer", "night", .viewer, false, ""⟩) (schemaInert_plain _ _)
    integrity_viewerDay (by decide) (by decide +kernel) firstDay

end NightWatcher.Daemon
