import NightWatcher.Auth.Password
import NightWatcher.Daemon.Sessions

/-!
# The life of a password

A password is set by its user (`POST /me/password`) or with the account (`POST /users`), and what is
stored is its hash (`holds_of_set`). A turn after which the account no longer has that hash was a change
by its user or a deletion of the account (`replaced_by`). Over a run of the daemon: as long as there is
no such turn, a login with the password goes through and a login with one of another key is refused
(`password_works`).
-/

namespace NightWatcher.Daemon

open Throwing Transcript Database Api

variable {d : Deps} {cfg : ApiConfig} {w : World} {m : Moment} {req : Request}

/-! ## What is stored -/

/-- `password.cpp` with the salts in the order they are drawn, and a server that keeps what fits. -/
structure Hashes (d : Deps) (k : Auth.Kdf) (salts : Nat → Auth.Salt) : Prop where
  hash : ∀ n p, Auth.hashPassword k (some (salts n)) p.toList = .ok (d.hashPassword n p).toList
  verify : ∀ p h, d.verifyPassword p h = Auth.verifyPassword k p.toList h.toList
  fits : ∀ s, s.length ≤ 255 → d.server.storeText (.varchar 255) s = some s
  keeps : ∀ s s', d.server.storeText (.varchar 64) s = some s' → d.server.same s' s = true

/-- Passwords that PBKDF2 makes one key of. -/
def SameKey (k : Auth.Kdf) (salt : Auth.Salt) (p q : String) : Prop :=
  k.derive q.toList salt.bytes Auth.kIterations Auth.kHashLen
    = k.derive p.toList salt.bytes Auth.kIterations Auth.kHashLen

section Hashing

variable {k : Auth.Kdf} {salts : Nat → Auth.Salt}

/-- A hash is accepted for the passwords of its key. -/
theorem Hashes.verdict (h : Hashes d k salts) (n : Nat) (p q : String) :
    ∃ accepted, d.verifyPassword q (d.hashPassword n p) = .ok accepted ∧
      (accepted = true ↔ SameKey k (salts n) p q) := by
  obtain ⟨encoded, hencoded, -, hall⟩ := Auth.hash_verify k p.toList (salts n)
  obtain rfl := Except.ok.inj (hencoded.symm.trans (h.hash n p))
  rw [h.verify]
  exact hall q.toList

/-- A hash fits its column. -/
theorem Hashes.stored (h : Hashes d k salts) (n : Nat) (p : String) :
    d.server.storeText (.varchar 255) (d.hashPassword n p) = some (d.hashPassword n p) := by
  refine h.fits _ ?_
  have hhash : Auth.stored Auth.kIterations (salts n).bytes
      (k.derive p.toList (salts n).bytes Auth.kIterations Auth.kHashLen) =
          (d.hashPassword n p).toList :=
    Except.ok.inj (h.hash n p)
  have hlength := congrArg List.length hhash
  have hscheme : Auth.scheme.length = 13 := by decide
  have hdigits : (Nat.toDigits 10 Auth.kIterations).length = 6 := by decide
  have hsalt : (salts n).bytes.length = 16 := (salts n).length_bytes
  have hkey : (k.derive p.toList (salts n).bytes Auth.kIterations Auth.kHashLen).length = 32 :=
    k.length_derive _ _ _ _
  unfold Auth.stored at hlength
  simp only [List.length_append, List.length_cons, Auth.toHex_length, hscheme, hdigits, hsalt, hkey,
    String.length_toList] at hlength
  omega

end Hashing

/-- The account of the name has the hash. -/
def Holds (srv : Server) (name hash : String) (db : Db) : Prop :=
  ∃ u ∈ db.users, srv.same u.username name = true ∧ u.passwordHash = hash

/-- Texts that the server takes for equal to a third are equal to it. -/
theorem same_trans {srv : Server} {a b c : String} (hab : srv.same a b = true)
    (hbc : srv.same b c = true) :
    srv.same a c = true :=
  same_collate.mpr ((same_collate.mp hab).trans (same_collate.mp hbc))

theorem same_symm {srv : Server} {a b : String} (h : srv.same a b = true) : srv.same b a = true :=
  same_collate.mpr (same_collate.mp h).symm

/-- Writing a hash makes the account hold it. -/
theorem holds_rehash {srv : Server} {name hash : String} {flag : Bool} {db : Db} {u : UserRow}
    (hu : u ∈ db.users)
    (hname : srv.same u.username name = true) :
    Holds srv name hash { db with users := rehash srv name hash flag db.users } := by
  refine ⟨{ u with passwordHash := hash, mustChangePassword := flag }, ?_, hname, rfl⟩
  refine List.mem_map.mpr ⟨u, hu, ?_⟩
  rw [if_pos hname]

/-! ## A turn that sets a password -/

/-- A POST of a route is refused by the gate, or is its handler's to answer. -/
theorem meets_serve_routed {e : Endpoint} (hroute : route req = some e) (hpost : req.method = .post)
    {P : Response → World → Prop} (hrefused : ∀ res w', res.status ∈ [401, 403, 500] → P res w')
    (h : ∀ fs, Meets (handle d cfg e req) (w.withFaults fs) P fun _ _ => True) :
    Meets (serve d cfg req) w P fun _ _ => False := by
  unfold serve
  simp only [meets_tryCatch, meets_bind, meets_pure]
  have hfile : webFile cfg req = none := by
    unfold webFile
    rw [hpost]
  refine meets_gate_status (fun fs => ?_) fun status msg fs hstatus => ?_
  · rw [hfile, hroute]
    exact (h fs).mono (fun _ _ hP => hP) fun _ w' _ => hrefused _ w' (by simp)
  · have hsent : (sendErr status msg).status = status := rfl
    refine hrefused _ _ ?_
    rw [hsent]
    rcases hstatus with rfl | rfl
    · exact List.mem_cons_self
    · exact List.mem_cons_of_mem _ List.mem_cons_self

section Sets

variable {k : Auth.Kdf} {salts : Nat → Auth.Salt}

/-- A password that is changed is hashed and written to the own account. -/
theorem meets_mePassword (hd : Hashes d k salts) : Meets (mePassword d req) w
    (fun res w' => res.status = 200 → ∃ si body new, presentedUser d req w = some si ∧
      d.json.parse req.body = some body ∧ body.member? "new_password" = some (.str new) ∧
      Holds d.server si.username (d.hashPassword w.draws new) w'.db) fun _ _ => True := by
  have hno : ∀ {status : Nat} {msg : String} {P : Prop}, status ≠ 200 →
      (sendErr status msg).status = 200 → P :=
    fun hne heq => absurd heq hne
  unfold mePassword withBody
  cases hbody : d.json.parse req.body with
  | none => exact hno (by decide)
  | some body =>
    rw [meets_ite]
    refine ⟨fun _ => hno (by decide), fun _ => ?_⟩
    simp only [orError, meets_tryCatch, meets_bind, meets_pure]
    refine meets_ask (fun _ fs => ?_) fun _ fs => hno (by decide)
    rw [meets_ite]
    refine ⟨fun _ => hno (by decide), fun hpresents => ?_⟩
    rw [meets_bind]
    refine meets_select (fun fs => ?_) fun fs => hno (by decide)
    cases hlive : liveSession d.server (sessionToken req) ⟨w.db, w.now⟩ with
    | none => exact hno (by decide)
    | some si =>
      simp only [meets_bind]
      refine meets_select (fun fs => ?_) fun fs => hno (by decide)
      cases hfind : w.db.users.find? (fun x => d.server.same x.username si.username) with
      | none => exact hno (by decide)
      | some u =>
        simp only [meets_bind]
        refine meets_getString (fun current _ => ?_) fun _ => hno (by decide)
        rw [meets_liftExcept]
        refine ⟨fun verified _ => ?_, fun _ _ => hno (by decide)⟩
        cases verified with
        | false => exact hno (by decide)
        | true =>
          have hsi : presentedUser d req w = some si := by
            unfold presentedUser
            rw [if_neg hpresents, hlive]
          have hu := List.mem_of_find?_eq_some hfind
          have hname := List.find?_some hfind
          simp only [Bool.not_true, Bool.false_eq_true, if_false, newHash, draw, meets_bind,
            meets_modifyGet, meets_pure]
          refine meets_getString (fun new hnew => ?_) fun _ => hno (by decide)
          -- the row that was found is found again, so that the statement is made
          unfold setUserPassword
          simp only [meets_bind, meets_ite, meets_pure]
          refine meets_select (fun fs => ⟨fun hgone => ?_, fun _ => ?_⟩) fun fs => hno (by decide)
          · have hsome : (w.db.users.find? fun x => d.server.same x.username si.username).isNone =
                true := hgone
            rw [hfind] at hsome
            cases hsome
          · refine meets_statement (fun a db' fs' hdb => ?_) fun e fs' => hno (by decide)
            simp only [Option.bind_eq_bind, Option.bind_eq_some_iff, Option.pure_def, Option.some.injEq,
              Prod.mk.injEq, updateWhere_some] at hdb
            obtain ⟨hash, hstored, rows, rfl, -, rfl⟩ := hdb
            obtain rfl := Option.some.inj ((hd.stored _ _).symm.trans hstored)
            intro _
            exact ⟨si, body, new, hsi, rfl, hnew, holds_rehash hu hname⟩

/-- An account that is created holds the hash of its password. -/
theorem meets_postUser (hd : Hashes d k salts) : Meets (postUser d cfg req) w
    (fun res w' => res.status = 201 → ∃ body name new, d.json.parse req.body = some body ∧
      body.member? "username" = some (.str name) ∧ body.member? "password" = some (.str new) ∧
      Holds d.server name (d.hashPassword w.draws new) w'.db) fun _ _ => True := by
  have hno : ∀ {status : Nat} {msg : String} {P : Prop}, status ≠ 201 →
      (sendErr status msg).status = 201 → P :=
    fun hne heq => absurd heq hne
  unfold postUser adminOnly
  rw [meets_bind]
  refine meets_requireAuth_status (fun fs _ => ?_) fun status msg fs hstatus => ?_
  · show Meets (withBody d req _) _ _ _
    unfold withBody
    cases hbody : d.json.parse req.body with
    | none => exact hno (by decide)
    | some body =>
      rw [meets_ite]
      refine ⟨fun _ => hno (by decide), fun _ => ?_⟩
      -- whatever role is asked for, the hash stored is that of the password
      have hcreate : ∀ role : String, Meets (orError 500 do
          ask connect
          let uname ← getMember body "username" Json.getString
          if (← ask (findUser d.server uname)).isSome then
            return sendErr 409 "user already exists"
          let hash ← newHash d (← getMember body "password" Json.getString)
          createUser d.server uname hash role false
          return send 201 (Json.ofMembers [("username", .str uname), ("role", .str role)]))
              (w.withFaults fs)
        (fun res w' => res.status = 201 → ∃ body' name new, some body = some body' ∧
          body'.member? "username" = some (.str name) ∧ body'.member? "password" = some (.str new) ∧
          Holds d.server name (d.hashPassword w.draws new) w'.db) fun _ _ => True := by
        intro role
        simp only [orError, meets_tryCatch, meets_bind, meets_pure]
        refine meets_ask (fun _ fs => ?_) fun _ fs => hno (by decide)
        refine meets_getString (fun name hname => ?_) fun _ => hno (by decide)
        refine meets_select (fun fs => ?_) fun fs => hno (by decide)
        rw [meets_ite]
        refine ⟨fun _ => hno (by decide), fun _ => ?_⟩
        rw [meets_bind]
        refine meets_getString (fun new hnew => ?_) fun _ => hno (by decide)
        simp only [newHash, draw, meets_bind, meets_modifyGet, meets_pure]
        refine meets_statement (fun a db' fs' hdb => ?_) fun e fs' => hno (by decide)
        simp only [Option.bind_eq_bind, Option.bind_eq_some_iff, Option.pure_def, Option.some.injEq,
          Prod.mk.injEq] at hdb
        -- the INSERT went through, so the name fits its column
        obtain ⟨username, husername, hash, hstored, role', -, -, -, -, rfl⟩ := hdb
        obtain rfl := Option.some.inj ((hd.stored _ _).symm.trans hstored)
        intro _
        exact ⟨body, name, new, rfl, hname, hnew, _,
          List.mem_append_right _ (List.mem_singleton_self _), hd.keeps _ _ husername, rfl⟩
      rw [meets_ite]
      refine ⟨fun _ => ?_, fun _ => hcreate "viewer"⟩
      rw [meets_bind]
      unfold getMember
      rw [meets_liftExcept]
      exact ⟨fun role _ => hcreate role, fun _ _ => trivial⟩
  -- a refusal of the gate is no 201
  · have hsent : (sendErr status msg).status = status := rfl
    intro hcreated
    rw [hsent] at hcreated
    rcases hstatus with rfl | rfl
    · exact absurd hcreated (by decide)
    · exact absurd hcreated (by decide)

/-- A turn that gives the account of the name this password: its user's change of it, or the
account's creation, each of them answered as done. -/
inductive PasswordSet (d : Deps) (cfg : ApiConfig) (w : World) (m : Moment)
    (name password : String) : Prop
  | changed (req : Request) (res : Response) (w' : World) (si : SessionInfo) (body : Json)
    (activity : m.activity = .request req) (post : req.method = .post)
    (routed : route req = some .mePassword)
    (served : serve d cfg req (w.facing m.outside) = .ok res w') (done : res.status = 200)
    (caller : presentedUser d req (w.facing m.outside) = some si) (named : si.username = name)
    (parsed : d.json.parse req.body = some body)
    (given : body.member? "new_password" = some (.str password))
  | created (req : Request) (res : Response) (w' : World) (body : Json)
    (activity : m.activity = .request req) (post : req.method = .post)
    (routed : route req = some .postUser)
    (served : serve d cfg req (w.facing m.outside) = .ok res w') (done : res.status = 201)
    (parsed : d.json.parse req.body = some body) (named : body.member? "username" = some (.str name))
    (given : body.member? "password" = some (.str password))

theorem next_served {res : Response} {w' : World} (h : m.activity = .request req)
    (hserved : serve d cfg req (w.facing m.outside) = .ok res w') : next d cfg w m = w' := by
  rw [next_request h, hserved]
  rfl

/-- The hash is stored. -/
theorem holds_of_set (hd : Hashes d k salts) {name password : String}
    (h : PasswordSet d cfg w m name password) :
    Holds d.server name (d.hashPassword w.draws password) (next d cfg w m).db := by
  cases h with
  | changed req res w' si body activity post routed served done caller named parsed given =>
    have hmeets := @meets_serve_routed d cfg (w.facing m.outside) _ _ routed post
      (fun res w' => res.status = 200 → ∃ si body new,
          presentedUser d req (w.facing m.outside) = some si ∧
        d.json.parse req.body = some body ∧ body.member? "new_password" = some (.str new) ∧
        Holds d.server si.username (d.hashPassword w.draws new) w'.db)
      (fun res w' hstatus hok => absurd (hok ▸ hstatus) (by decide)) fun fs => meets_mePassword hd
    rw [next_served activity served]
    obtain ⟨si', body', new, hsi, hbody, hnew, hholds⟩ := (meets_of_ok_iff served).mp hmeets done
    obtain rfl := Option.some.inj (caller.symm.trans hsi)
    obtain rfl := Option.some.inj (parsed.symm.trans hbody)
    obtain rfl := Json.str.inj (Option.some.inj (given.symm.trans hnew))
    rwa [← named]
  | created req res w' body activity post routed served done parsed named given =>
    have hmeets := @meets_serve_routed d cfg (w.facing m.outside) _ _ routed post
      (fun res w' => res.status = 201 → ∃ body name new, d.json.parse req.body = some body ∧
        body.member? "username" = some (.str name) ∧ body.member? "password" = some (.str new) ∧
        Holds d.server name (d.hashPassword w.draws new) w'.db)
      (fun res w' hstatus hok => absurd (hok ▸ hstatus) (by decide)) fun fs => meets_postUser hd
    rw [next_served activity served]
    obtain ⟨body', name', new, hbody, hname, hnew, hholds⟩ := (meets_of_ok_iff served).mp hmeets done
    obtain rfl := Option.some.inj (parsed.symm.trans hbody)
    obtain rfl := Json.str.inj (Option.some.inj (named.symm.trans hname))
    obtain rfl := Json.str.inj (Option.some.inj (given.symm.trans hnew))
    exact hholds

end Sets

/-! ## A turn that ends it -/

/-- A change of the password by the account's user, or the deletion of the account. -/
def ReplacedBy (d : Deps) (cfg : ApiConfig) (name : String) (w : World) (m : Moment) : Prop :=
  ∃ req, (m.activity = .request req ∧ route req = some .mePassword ∧
      ∃ si u, OwnPasswordPresented d req (w.facing m.outside) si u ∧
          d.server.same si.username name = true) ∨
    ∃ deleted, d.server.same name deleted = true ∧ AdminRequest d cfg (.deleteUser deleted) req w m

/-- A hash goes when it is written over or its account is deleted. -/
theorem step_loses_hash {srv : Server} {now : Int} {db db' : Db} {k : Write} {name hash : String}
    (h : Database.Step srv now db k db') (hk : ∀ stmt, k ≠ .schema stmt) (hin : Holds srv name hash db)
    (hout : ¬Holds srv name hash db') :
    k = .password ∨ ∃ deleted, k = .userGone deleted ∧ srv.same name deleted = true := by
  obtain ⟨u, hu, hname, hhash⟩ := hin
  cases h with
  | schema stmt h => exact absurd rfl (hk stmt)
  | user row hid hnew => exact absurd ⟨u, List.mem_append_left _ hu, hname, hhash⟩ hout
  | password username hash flag => exact Or.inl rfl
  | userGone deleted =>
    refine Or.inr ⟨deleted, rfl, ?_⟩
    by_contra hother
    have hkept : u ∈ db.users.filter fun u => !srv.same u.username deleted := by
      refine List.mem_filter.mpr ⟨hu, ?_⟩
      rw [Bool.not_eq_true']
      refine Bool.eq_false_iff.mpr fun hsame => hother ?_
      exact same_trans (same_symm hname) hsame
    exact hout ⟨u, hkept, hname, hhash⟩
  | _ => exact absurd ⟨u, hu, hname, hhash⟩ hout

/-- Whatever the daemon does, a hash that is gone was replaced by a request. -/
theorem replaced_by (hschema : SchemaInert d.server cfg) {name hash : String}
    (hin : Holds d.server name hash w.db)
    (hout : ¬Holds d.server name hash (next d cfg w m).db) : ReplacedBy d cfg name w m := by
  obtain ⟨k, hk, hnot, db, db', hstep, hdb, hdb'⟩ :=
    next_loses hschema (Q := Holds d.server name hash) hin hout
  rcases step_loses_hash hstep hnot hdb hdb' with rfl | ⟨deleted, rfl, hsame⟩
  · obtain ⟨req, e, hactivity, hroute, hmem⟩ := touches_route hk (by simp [workerWrites])
    have hpassword : e = .mePassword := by
      cases e
      case dbInit =>
        obtain ⟨_, stmt, -, -, hschema⟩ := mem_schemaWrites hmem
        cases hschema
      all_goals simp_all [Endpoint.touches]
    subst hpassword
    refine ⟨req, Or.inl ⟨hactivity, hroute, ?_⟩⟩
    obtain ⟨u, hu, hname, hhash⟩ := hin
    have hkept : (next d cfg w m).db.users = w.db.users → False := fun hsame =>
      hout ⟨u, hsame ▸ hu, hname, hhash⟩
    cases request_outcome d cfg w hactivity with
    | quiet h => exact (hkept (by rw [h.db]; rfl)).elim
    | loggedIn v hv row hrow hdb hsame => exact (hkept (by rw [hdb]; rfl)).elim
    | loggedOut hdb hsame => exact (hkept (by rw [hdb]; rfl)).elim
    | passwordChanged si v hv hash' hdb hsame =>
      refine ⟨si, v, hv, ?_⟩
      by_contra hother
      -- the change was of another account
      have hunlike : ¬d.server.same u.username si.username = true := fun h =>
        hother (same_trans (same_symm h) hname)
      refine hout ⟨u, ?_, hname, hhash⟩
      rw [hdb]
      exact List.mem_map.mpr ⟨u, hu, if_neg hunlike⟩
    | privileged e' hroute' hwrites h =>
      obtain rfl := Option.some.inj (hroute.symm.trans hroute')
      cases hwrites
  · obtain ⟨req, e, hactivity, hroute, hmem⟩ := touches_route hk (by simp [workerWrites])
    obtain rfl := (route_of_touches hmem).2.2.2.1 deleted rfl
    exact ⟨req, Or.inr ⟨deleted, hsame,
      ordered_of_changed hactivity hroute rfl (Q := Holds d.server name hash) hin hout⟩⟩

/-! ## A login -/

/-- A login with this name and password. -/
structure SignsIn (d : Deps) (req : Request) (username password : String) : Prop where
  post : req.method = .post
  path : req.path = "/api/v1/login"
  body : ∃ body, d.json.parse req.body = some body ∧ body.member? "username" = some (.str username) ∧
    body.member? "password" = some (.str password)

/-- The token that is drawn next is one that can be stored, and no session has it. -/
def FreshToken (d : Deps) (w : World) : Prop :=
  ∃ token, d.server.storeText (.varchar 64) (d.randomHex w.draws 32) = some token ∧
    ∀ x ∈ w.db.sessions, ¬d.server.same x.token token = true

theorem contains_member {j a : Json} {key : String}
    (h : j.member? key = some a) : j.contains key = true := by
  unfold Json.contains
  rw [h]
  rfl

/-- A login compares the password with the hash the account holds. -/
theorem SignsIn.served {username password : String} (h : SignsIn d req username password)
    (hclean : Clean 3 w.dbFaults) (hfresh : FreshToken d w) {u : UserRow}
    (hfind : w.db.users.find? (fun x => d.server.same x.username username) = some u) {accepted : Bool}
    (hverify : d.verifyPassword password u.passwordHash = .ok accepted) :
    ∃ res w', serve d cfg req w = .ok res w' ∧
      if accepted then
        res.status = 200 ∧ ∃ x, x.userId = u.id ∧ x.expiresAt = w.now + sessionTtl ∧
          w'.db = { w.db with sessions := w.db.sessions ++ [x] }
      else res.status = 401 ∧ w'.db = w.db := by
  obtain ⟨body, hbody, husername, hpassword⟩ := h.body
  have hroute : route req = some .login := by
    unfold route
    rw [h.post, h.path]
    rfl
  have hfile : webFile cfg req = none := by
    unfold webFile
    rw [h.post]
  -- a login needs no credentials, so the gate makes no call
  have hgate : gate d cfg req = pure none := by
    unfold gate
    rw [h.path]
    have hpublic : "/api/v1/login" ∈ publicPaths := by simp [publicPaths]
    rw [if_pos hpublic]
    split
    · rfl
    · split
      · rfl
      · rfl
  refine Meets.returns ?_
  unfold serve
  simp only [meets_tryCatch, meets_bind, meets_pure]
  rw [hgate, meets_pure, hfile, hroute]
  show Meets (login d req) w _ _
  unfold login withBody
  rw [hbody]
  simp only [contains_member husername, contains_member hpassword, Bool.not_true, Bool.or_self,
    Bool.false_eq_true, if_false, orError, meets_tryCatch, meets_bind, meets_pure]
  -- the first of the three calls: the connection
  refine meets_connect_answered (k := 0) rfl (fun i hi => hclean i (by omega)) ?_
  unfold getMember
  rw [husername, hpassword]
  simp only [Option.getD_some, Json.getString, meets_liftExcept]
  refine ⟨fun name hname => ?_, fun _ herror => by cases herror⟩
  obtain rfl := Except.ok.inj hname
  -- the second: the user of the name
  refine meets_select_answered (k := 1) rfl (fun i hi => hclean i (by omega)) ?_
  dsimp only
  rw [hfind]
  simp only [meets_bind, meets_liftExcept, meets_ite, meets_pure]
  refine ⟨fun given hgiven => ⟨fun right hright => ?_, fun e herror => ?_⟩, fun _ herror => by
    cases herror⟩
  · obtain rfl := Except.ok.inj hgiven
    obtain rfl := Except.ok.inj (hverify.symm.trans hright)
    cases accepted with
    | false => exact ⟨fun _ => ⟨rfl, trivial⟩, fun hno => absurd rfl hno⟩
    | true =>
      refine ⟨fun hno => (by cases hno), fun _ => ?_⟩
      obtain ⟨token, htoken, hnew⟩ := hfresh
      simp only [newSessionToken, draw, meets_bind, meets_modifyGet, meets_pure]
      have hany : (w.db.sessions.any fun x => d.server.same x.token token) = false :=
        List.any_eq_false.mpr hnew
      have huser : (w.db.users.any fun v => decide (v.id = u.id)) = true :=
        List.any_eq_true.mpr ⟨u, List.mem_of_find?_eq_some hfind, decide_eq_true rfl⟩
      -- the third: the session, under a token that is not in use
      refine @meets_statement_answered _ _ _ 2 _ ()
        { w.db with sessions := w.db.sessions ++ [⟨token, u.id, w.now + sessionTtl⟩] } _ _ rfl
            hclean ?_ ?_
      · simp only [htoken, hany, huser, Option.bind_eq_bind, Option.bind_some, Bool.not_false,
            guard, if_true]
        rfl
      · exact ⟨rfl, ⟨token, u.id, w.now + sessionTtl⟩, rfl, rfl, rfl⟩
  · obtain rfl := Except.ok.inj hgiven
    rw [hverify] at herror
    cases herror

/-- The account a name finds, while the key of the table holds. -/
theorem find_of_holds (hI : Integrity d.server w.db) {name username hash : String}
    (h : Holds d.server name hash w.db)
    (hname : d.server.same username name = true) :
    ∃ u, w.db.users.find? (fun x => d.server.same x.username username) = some u ∧
        u.passwordHash = hash := by
  obtain ⟨u, hu, huname, hhash⟩ := h
  have hsame : d.server.same u.username username = true := same_trans huname (same_symm hname)
  cases hfind : w.db.users.find? (fun x => d.server.same x.username username) with
  | none => exact absurd hsame (List.find?_eq_none.mp hfind u hu)
  | some v =>
    have hvsame := List.find?_some hfind
    have hkey : d.server.collate v.username = d.server.collate u.username :=
      (same_collate.mp hvsame).trans (same_collate.mp hsame).symm
    obtain rfl := List.inj_on_of_nodup_map hI.userNames (List.mem_of_find?_eq_some hfind) hu hkey
    exact ⟨v, rfl, hhash⟩

/-- From the turn that sets an account's password on, as long as no turn replaces it or deletes the
account, a login with it goes through, and a login with a password of another key is refused and
changes nothing. -/
theorem password_works {k : Auth.Kdf} {salts : Nat → Auth.Salt} (hd : Hashes d k salts)
    (hschema : SchemaInert d.server cfg) (hI : Integrity d.server w.db) {name password : String}
    (hset : PasswordSet d cfg w m name password) (after : List Moment)
    (hkept : Throughout (next d cfg) (fun w m => ¬ReplacedBy d cfg name w m) (next d cfg w m) after)
    (o : Outside)
    (hclean : Clean 3 o.dbFaults) (hfresh : FreshToken d (run (next d cfg) (next d cfg w m) after))
    {username given : String} (hreq : SignsIn d req username given)
    (hname : d.server.same username name = true) :
    ∃ res w', serve d cfg req ((run (next d cfg) (next d cfg w m) after).facing o) = .ok res w' ∧
      (SameKey k (salts w.draws) password given → res.status = 200 ∧ ∃ x,
          x.expiresAt = o.now + sessionTtl ∧
        w'.db.sessions = (run (next d cfg) (next d cfg w m) after).db.sessions ++ [x]) ∧
      (¬SameKey k (salts w.draws) password given → res.status = 401 ∧
        w'.db = (run (next d cfg) (next d cfg w m) after).db) := by
  have hholds : Holds d.server name (d.hashPassword w.draws password)
      (run (next d cfg) (next d cfg w m) after).db :=
    run_preserves (I := fun w' : World => Holds d.server name (d.hashPassword w.draws password) w'.db)
      (fun w m hno hin => by_contra fun hout => hno (replaced_by hschema hin hout)) hkept
          (holds_of_set hd hset)
  have hend : Integrity d.server (run (next d cfg) (next d cfg w m) after).db :=
    run_invariant (integrity_next hschema) (integrity_next hschema w m hI)
  obtain ⟨u, hfind, hhash⟩ := find_of_holds hend hholds hname
  obtain ⟨accepted, hverify, hkey⟩ := hd.verdict w.draws password given
  rw [← hhash] at hverify
  obtain ⟨res, w', hserve, hanswer⟩ :=
    @SignsIn.served d cfg ((run (next d cfg) (next d cfg w m) after).facing o) _ _ _ hreq hclean
        hfresh _ hfind _ hverify
  refine ⟨res, w', hserve, fun hsame => ?_, fun hother => ?_⟩
  · rw [if_pos (hkey.mpr hsame)] at hanswer
    obtain ⟨hstatus, x, -, hexpires, hdb⟩ := hanswer
    exact ⟨hstatus, x, hexpires, by rw [hdb]; rfl⟩
  · rw [if_neg fun h => hother (hkey.mp h)] at hanswer
    exact hanswer

/-! ### A new account signs in -/

/-- A function whose keys are the passwords. -/
def plainKdf : Auth.Kdf where
  derive pw _ _ n := (pw.map (fun c => BitVec.ofNat 8 c.toNat) ++ List.replicate n 0#8).take n
  length_derive pw salt iters n := by
    rw [List.length_take, List.length_append, List.length_replicate]
    omega

def zeroSalt : Auth.Salt := ⟨List.replicate 16 0#8, by decide⟩

/-- The body that names an account and its password. -/
def accountBody : String := "eve and her password"

def accountDeps : Deps :=
  { Deps.plain [(accountBody, Json.ofMembers [("username", .str "eve"), ("password", .str "owl")])] with
    hashPassword := fun _ p => String.ofList (Auth.stored Auth.kIterations zeroSalt.bytes
      (plainKdf.derive p.toList zeroSalt.bytes Auth.kIterations Auth.kHashLen))
    verifyPassword := fun p h => Auth.verifyPassword plainKdf p.toList h.toList }

/-- Its hashes are made by the key derivation that compares them. -/
theorem hashes_accountDeps : Hashes accountDeps plainKdf fun _ => zeroSalt where
  hash n p := by
    have htext : (accountDeps.hashPassword n p).toList = Auth.stored Auth.kIterations zeroSalt.bytes
        (plainKdf.derive p.toList zeroSalt.bytes Auth.kIterations Auth.kHashLen) := String.toList_ofList
    rw [htext]
    rfl
  verify _ _ := rfl
  fits _ _ := rfl
  keeps s s' h := by
    obtain rfl := Option.some.inj h
    exact same_collate.mpr rfl

/-- A server with a token. -/
def keyConfig : ApiConfig := { token := "key" }

theorem schemaInert_accounts : SchemaInert accountDeps.server keyConfig :=
  schemaInert_plain [] keyConfig

/-- Somebody with the token creates an account. -/
def createsEve : Request :=
  { method := .post, path := "/api/v1/users", headers := [("Authorization", "Bearer key")],
    body := accountBody }

def eveCreated : Moment where
  activity := .request createsEve

/-- Its owner signs in. -/
def eveSignsIn : Request := { method := .post, path := "/api/v1/login", body := accountBody }

/-- The status of an answer. -/
def statusOf : EStateM.Result String World Response → Option Nat
  | .ok res _ => some res.status
  | .error _ _ => none

/-- The creation sets the password. -/
theorem eveCreated_sets : PasswordSet accountDeps keyConfig {} eveCreated "eve" "owl" := by
  have hcreated : ∃ res w', serve accountDeps keyConfig createsEve (World.facing {} {}) = .ok res w' ∧
      res.status = 201 := by
    refine Meets.returns ?_
    have hstatus : statusOf (serve accountDeps keyConfig createsEve (World.facing {} {})) =
        some 201 := by
      decide +kernel
    unfold Meets
    cases hserve : serve accountDeps keyConfig createsEve (World.facing {} {}) with
    | ok res w' =>
      rw [hserve] at hstatus
      exact Option.some.inj hstatus
    | error e w' =>
      rw [hserve] at hstatus
      cases hstatus
  obtain ⟨res, w', hserve, hstatus⟩ := hcreated
  exact .created createsEve res w' _ rfl rfl rfl hserve hstatus rfl rfl rfl

theorem password_works_eve : ∃ res w', serve accountDeps keyConfig eveSignsIn
    ((run (next accountDeps keyConfig) (next accountDeps keyConfig {} eveCreated)
      [askEvents]).facing {}) = .ok res w' ∧ res.status = 200 := by
  have hkept : Throughout (next accountDeps keyConfig)
      (fun w m => ¬ReplacedBy accountDeps keyConfig "eve" w m)
      (next accountDeps keyConfig {} eveCreated) [askEvents] := by
    refine ⟨?_, trivial⟩
    rintro ⟨req, ⟨hactivity, hroute, -⟩ | ⟨deleted, -, hactivity, hroute, -⟩⟩
    · obtain rfl := Activity.request.inj hactivity
      cases hroute
    · obtain rfl := Activity.request.inj hactivity
      cases hroute
  have hsessions : (run (next accountDeps keyConfig) (next accountDeps keyConfig {} eveCreated)
      [askEvents]).db.sessions = [] := by decide +kernel
  have hfresh : FreshToken accountDeps (run (next accountDeps keyConfig)
      (next accountDeps keyConfig {} eveCreated) [askEvents]) :=
    ⟨_, rfl, by rw [hsessions]; exact fun x hx => absurd hx List.not_mem_nil⟩
  have hreq : SignsIn accountDeps eveSignsIn "eve" "owl" := ⟨rfl, rfl, _, rfl, rfl, rfl⟩
  obtain ⟨res, w', hserve, hsame, -⟩ := password_works hashes_accountDeps schemaInert_accounts
    (integrity_empty _) eveCreated_sets [askEvents] hkept {} (fun i _ => by simp) hfresh hreq
        (same_collate.mpr rfl)
  exact ⟨res, w', hserve, (hsame rfl).1⟩

end NightWatcher.Daemon
