import Mathlib.Data.List.Nodup
import NightWatcher.Lib.Transcript
import NightWatcher.Api.Accounts

/-!
# Requests without admin credentials

A run of the server is a list of exchanges: each request comes with what the
outside does while it is served. `OwnLoginOnly` is all that one request without
admin credentials can do (`serve_without_admin`); over a run of such requests it
adds up to `LoginsOnly` (`only_logins_change`).

That the user of a session is the row whose password changes rests on the unique
keys of the users table (`KeyedUsers`).
-/

namespace NightWatcher.Api

open Throwing Database Transcript

/-- A request, and what the outside does while it is served. -/
structure Exchange where
  outside : Outside := {}
  req : Request

/-- The world once a request was served. -/
def exchange (d : Deps) (cfg : ApiConfig) (w : World) (x : Exchange) : World :=
  endState (serve d cfg x.req (w.facing x.outside))

variable {d : Deps} {cfg : ApiConfig} {req : Request} {w w' : World}

/-! ## The unique keys of the users table -/

/-- `PRIMARY KEY (id)` and `UNIQUE KEY (username)`. -/
structure KeyedUsers (srv : Server) (users : List UserRow) : Prop where
  ids : (users.map UserRow.id).Nodup
  names : (users.map fun u => srv.collate u.username).Nodup

/-- Two texts are the same exactly when their collation keys are equal. -/
theorem same_iff {srv : Server} {a b : String} :
    srv.same a b = true ↔ srv.collate a = srv.collate b := by
  unfold Server.same
  rw [decide_eq_true_iff]

/-- A live session names its user. -/
theorem liveSession_user {srv : Server} {token : String} {s : Snapshot} {si : SessionInfo}
    (h : liveSession srv token s = some si) :
    ∃ u ∈ s.db.users, u.id = si.userId ∧ u.username = si.username ∧ u.role = si.role := by
  unfold liveSession at h
  obtain ⟨x, -, hx⟩ := List.exists_of_findSome?_eq_some h
  obtain ⟨u, hu, rfl⟩ := Option.map_eq_some_iff.mp hx
  exact ⟨u, List.mem_of_find?_eq_some hu, rfl, rfl, rfl⟩

/-- A presented user is that of a live session. -/
theorem presentedUser_live {si : SessionInfo} (h : presentedUser d req w = some si) :
    liveSession d.server (sessionToken req) ⟨w.db, w.now⟩ = some si := by
  unfold presentedUser at h
  split at h
  · cases h
  · exact h

/-- The user whose current password was given is the one whose session was presented. -/
theorem OwnPasswordPresented.own {si : SessionInfo} {u : UserRow}
    (h : OwnPasswordPresented d req w si u) (hkeyed : KeyedUsers d.server w.db.users) :
    u ∈ w.db.users ∧ u.id = si.userId ∧ u.username = si.username := by
  obtain ⟨hsi, hfind, -⟩ := h
  obtain ⟨v, hv, hid, hname, -⟩ := liveSession_user (presentedUser_live hsi)
  have hu : u ∈ w.db.users := List.mem_of_find?_eq_some hfind
  have hsame : d.server.same u.username si.username = true := by
    simpa using List.find?_some hfind
  rw [← hname, same_iff] at hsame
  obtain rfl := List.inj_on_of_nodup_map hkeyed.names hu hv hsame
  exact ⟨hu, hid, hname⟩

/-- Under the keys a change by name is a change of one row. -/
theorem rehash_keyed {srv : Server} {users : List UserRow} (hkeyed : KeyedUsers srv users)
    {u : UserRow} (hu : u ∈ users) (hash : String) (flag : Bool) :
    rehash srv u.username hash flag users = users.map fun v =>
      if v.id = u.id then { v with passwordHash := hash, mustChangePassword := flag } else v := by
  unfold rehash
  refine List.map_congr_left fun v hv => ?_
  by_cases hid : v.id = u.id
  · obtain rfl := List.inj_on_of_nodup_map hkeyed.ids hv hu hid
    rw [if_pos (same_iff.mpr rfl), if_pos rfl]
  · have hname : ¬srv.same v.username u.username = true := fun hsame =>
      hid (congrArg UserRow.id (List.inj_on_of_nodup_map hkeyed.names hv hu (same_iff.mp hsame)))
    rw [if_neg hname, if_neg hid]

/-! ## One request -/

/-- A user row without what its owner may change. -/
def withoutPassword (u : UserRow) : UserRow :=
  { u with passwordHash := "", mustChangePassword := false }

/-- Every other table is the same. -/
def SameApartFromLogins (db db' : Db) : Prop :=
  { db' with users := db.users, sessions := db.sessions } = db

/-- The settings are among what stays. -/
theorem SameApartFromLogins.settings {db db' : Db} (h : SameApartFromLogins db db') :
    db'.settings = db.settings := by
  unfold SameApartFromLogins at h
  rw [← h]

/-- All that a request without admin credentials does: it may change the password of
the user whose live session and current password it presents, open a session for a user
whose password it presents, close sessions, and ask questions. -/
structure OwnLoginOnly (d : Deps) (req : Request) (w w' : World) : Prop where
  tables : SameApartFromLogins w.db w'.db
  users : w'.db.users = w.db.users ∨ ∃ si u hash, OwnPasswordPresented d req w si u ∧
    u ∈ w.db.users ∧ u.id = si.userId ∧
    w'.db.users = w.db.users.map fun v =>
      if v.id = u.id then { v with passwordHash := hash, mustChangePassword := false } else v
  sessions : List.Sublist w'.db.sessions w.db.sessions ∨
    ∃ u row, PasswordPresented d req w u ∧ u ∈ w.db.users ∧ row.userId = u.id ∧
      w'.db.sessions = w.db.sessions ++ [row]
  files : w'.files = w.files
  asked : ∃ new, w'.effects = w.effects ++ new ∧ ∀ e ∈ new, Question e

/-- Without an admin's credentials a request changes its own login at most. -/
theorem serve_without_admin (hkeyed : KeyedUsers d.server w.db.users)
    (hno : ¬HasAdmin d cfg req w) : OwnLoginOnly d req w (endState (serve d cfg req w)) := by
  have hsame {db : Db} : SameApartFromLogins db db := rfl
  have hnone : ∃ new, w.effects = w.effects ++ new ∧ ∀ e ∈ new, Question e := ⟨[], by simp, by simp⟩
  cases serve_outcome d cfg req w with
  | quiet h =>
    refine ⟨?_, Or.inl ?_, Or.inl ?_, h.files, h.asked⟩
    · rw [h.db]
      exact hsame
    · rw [h.db]
    · rw [h.db]
  | loggedIn u hu row hrow hdb hout =>
    have hmem : u ∈ w.db.users := by
      obtain ⟨_, username, _, -, -, -, hfind, -⟩ := hu
      exact List.mem_of_find?_eq_some hfind
    refine ⟨?_, Or.inl ?_, Or.inr ⟨u, row, hu, hmem, hrow, ?_⟩, hout.1, ?_⟩
    · rw [hdb]
      rfl
    · rw [hdb]
    · rw [hdb]
    · rw [hout.2.2]
      exact hnone
  | loggedOut hdb hout =>
    refine ⟨?_, Or.inl ?_, Or.inl ?_, hout.1, ?_⟩
    · rw [hdb]
      rfl
    · rw [hdb]
    · rw [hdb]
      exact List.filter_sublist
    · rw [hout.2.2]
      exact hnone
  | passwordChanged si u hu hash hdb hout =>
    obtain ⟨hmem, hid, hname⟩ := hu.own hkeyed
    refine ⟨?_, Or.inr ⟨si, u, hash, hu, hmem, hid, ?_⟩, Or.inl ?_, hout.1, ?_⟩
    · rw [hdb]
      rfl
    · rw [hdb, ← rehash_keyed hkeyed hmem hash false, hname]
    · rw [hdb]
    · rw [hout.2.2]
      exact hnone
  | privileged e hroute hwrites hadmin => exact absurd hadmin hno

/-! ## A run of requests -/

/-- A login as the user of an id, with that user's password. -/
def LogsIn (d : Deps) (id : Nat) (w : World) (x : Exchange) : Prop :=
  ∃ u, PasswordPresented d x.req (w.facing x.outside) u ∧ u.id = id

/-- The user of an id presents a live session and the current password. -/
def GivesOwnPassword (d : Deps) (id : Nat) (w : World) (x : Exchange) : Prop :=
  ∃ si u, OwnPasswordPresented d x.req (w.facing x.outside) si u ∧ u.id = id ∧ si.userId = id

/-- Nothing changed but passwords and sessions, and outside there were questions only. -/
structure PasswordsAside (w w' : World) : Prop where
  tables : SameApartFromLogins w.db w'.db
  users : w'.db.users.map withoutPassword = w.db.users.map withoutPassword
  files : w'.files = w.files
  asked : ∃ new, w'.effects = w.effects ++ new ∧ ∀ e ∈ new, Question e

/-- All that a run of requests without admin credentials does. -/
structure LoginsOnly (d : Deps) (cfg : ApiConfig) (w : World) (xs : List Exchange) (w' : World) :
    Prop where
  aside : PasswordsAside w w'
  passwords : ∀ u ∈ w'.db.users, u ∈ w.db.users ∨
    Sometime (exchange d cfg) (GivesOwnPassword d u.id) w xs
  sessions : ∀ s ∈ w'.db.sessions, s ∈ w.db.sessions ∨
    Sometime (exchange d cfg) (LogsIn d s.userId) w xs

/-- Nothing changed but passwords where nothing did. -/
theorem PasswordsAside.refl (w : World) : PasswordsAside w w :=
  ⟨rfl, rfl, rfl, [], by simp, by simp⟩

/-- Changes of passwords compose. -/
theorem PasswordsAside.trans {w₁ w₂ w₃ : World} (h : PasswordsAside w₁ w₂)
    (h' : PasswordsAside w₂ w₃) : PasswordsAside w₁ w₃ := by
  obtain ⟨new, hnew, hq⟩ := h.asked
  obtain ⟨new', hnew', hq'⟩ := h'.asked
  refine ⟨?_, h'.users.trans h.users, h'.files.trans h.files, new ++ new', ?_, ?_⟩
  · have hback := congrArg
      (fun db : Db => { db with users := w₁.db.users, sessions := w₁.db.sessions }) h'.tables
    exact hback.trans h.tables
  · rw [hnew', hnew, List.append_assoc]
  · intro e he
    rcases List.mem_append.mp he with he | he
    · exact hq e he
    · exact hq' e he

/-- The users keep all but their passwords, the ids and names among it. -/
theorem OwnLoginOnly.withoutPassword (h : OwnLoginOnly d req w w') :
    w'.db.users.map withoutPassword = w.db.users.map withoutPassword := by
  rcases h.users with hsame | ⟨si, u, hash, -, -, -, hchange⟩
  · rw [hsame]
  · rw [hchange, List.map_map]
    refine List.map_congr_left fun v _ => ?_
    by_cases hid : v.id = u.id
    · simp [hid, Api.withoutPassword]
    · simp [hid]

/-- The keys of the users do not depend on their passwords. -/
theorem KeyedUsers.congr {srv : Server} {users users' : List UserRow} (h : KeyedUsers srv users)
    (hsame : users'.map withoutPassword = users.map withoutPassword) : KeyedUsers srv users' := by
  have hids : users'.map UserRow.id = users.map UserRow.id := by
    simpa [Function.comp_def, withoutPassword] using congrArg (List.map UserRow.id) hsame
  have hnames : users'.map UserRow.username = users.map UserRow.username := by
    simpa [Function.comp_def, withoutPassword] using congrArg (List.map UserRow.username) hsame
  refine ⟨hids ▸ h.ids, ?_⟩
  have hkeys := congrArg (List.map srv.collate) hnames
  rw [List.map_map, List.map_map] at hkeys
  exact hkeys ▸ h.names

/-- One exchange without admin credentials. -/
theorem exchange_without_admin {x : Exchange} (hkeyed : KeyedUsers d.server w.db.users)
    (hno : ¬HasAdmin d cfg x.req (w.facing x.outside)) :
    OwnLoginOnly d x.req (w.facing x.outside) (exchange d cfg w x) :=
  serve_without_admin (w := w.facing x.outside) hkeyed hno

/-- A request that changes its own login changes passwords at most. -/
theorem OwnLoginOnly.aside {x : Exchange} (h : OwnLoginOnly d x.req (w.facing x.outside) w') :
    PasswordsAside w w' :=
  ⟨h.tables, h.withoutPassword, h.files, h.asked⟩

/-- It keeps the keys of the users. -/
theorem OwnLoginOnly.keyed (h : OwnLoginOnly d req w w') (hkeyed : KeyedUsers d.server w.db.users) :
    KeyedUsers d.server w'.db.users := hkeyed.congr h.withoutPassword

/-- A row that was not there before is the row whose owner changed the password. -/
theorem OwnLoginOnly.password_origin {x : Exchange} {w' : World}
    (h : OwnLoginOnly d x.req (w.facing x.outside) w') {u : UserRow} (hu : u ∈ w'.db.users) :
    u ∈ w.db.users ∨ GivesOwnPassword d u.id w x := by
  rcases h.users with hsame | ⟨si, u₀, hash, hown, -, hid, hchange⟩
  · rw [hsame] at hu
    exact Or.inl hu
  · rw [hchange] at hu
    obtain ⟨v, hv, hvu⟩ := List.mem_map.mp hu
    by_cases hvid : v.id = u₀.id
    · rw [if_pos hvid] at hvu
      have huid : u.id = u₀.id := by rw [← hvu, ← hvid]
      exact Or.inr ⟨si, u₀, hown, huid.symm, hid.symm.trans huid.symm⟩
    · rw [if_neg hvid] at hvu
      exact Or.inl (hvu ▸ hv)

/-- A session after it was there before or comes from a login. -/
theorem OwnLoginOnly.session_origin {x : Exchange} {w' : World}
    (h : OwnLoginOnly d x.req (w.facing x.outside) w') {s : SessionRow} (hs : s ∈ w'.db.sessions) :
    s ∈ w.db.sessions ∨ LogsIn d s.userId w x := by
  rcases h.sessions with hsub | ⟨u, row, hpassword, -, hrow, hnew⟩
  · exact Or.inl (hsub.subset hs)
  · rw [hnew] at hs
    rcases List.mem_append.mp hs with hold | hlast
    · exact Or.inl hold
    · obtain rfl := List.mem_singleton.mp hlast
      exact Or.inr ⟨u, hpassword, hrow.symm⟩

def viewerBody : String := "the viewer's new password"

def viewerDeps : Deps := Deps.plain
  [(viewerBody, Json.ofMembers [("current_password", .str "night"), ("new_password", .str "owl")])]

/-- An administrator and a viewer, who is logged in. -/
def viewerSite : World where
  db :=
    { users :=
        [{ id := 1, username := "admin", passwordHash := "secret", role := .admin,
           mustChangePassword := false, createdAt := "" },
         { id := 2, username := "viewer", passwordHash := "night", role := .viewer,
           mustChangePassword := false, createdAt := "" }]
      sessions := [{ token := "s2", userId := 2, expiresAt := 1000 }] }

def changesPassword : Exchange where
  req :=
    { method := .post, path := "/api/v1/me/password", body := viewerBody
      headers := [("Authorization", "Bearer s2")] }

def deletesAdmin : Exchange where
  req := { method := .delete, path := "/api/v1/users/admin" }

/-- Without a cookie the session is that of the `Authorization` header. -/
theorem cookieless {req : Request} (h : req.header "Cookie" = "") :
    sessionToken req = (bearer (req.header "Authorization")).getD "" := by
  unfold sessionToken getCookie
  rw [h]
  simp

/-- With neither no user is presented. -/
theorem anonymous {req : Request} (hcookie : req.header "Cookie" = "")
    (hbearer : req.header "Authorization" = "") : presentedUser d req w = none := by
  unfold presentedUser
  rw [if_pos]
  rw [cookieless hcookie, hbearer]
  rfl

end NightWatcher.Api
