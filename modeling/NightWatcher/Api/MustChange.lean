import NightWatcher.Api.NoAdmin
import NightWatcher.Daemon.Main

/-!
# The must-change flag

The seeded administrator has to change the password `admin`. No check of the
server reads that flag: `require_auth` looks at the role alone, so the flag has
force exactly as long as its bearer asks for nothing an administrator may do
(`flag_obeyed`), and a flagged administrator who does not gets what was asked
for (`flagged_admin_writes`).
-/

namespace NightWatcher.Api

open Throwing Database Transcript Daemon

variable {d : Deps} {cfg : ApiConfig} {req : Request} {w w' : World}

/-- A user whose flag is set, or whose password is still the one it was set for. No
request sets the flag, so that is the password the user of id `seeded` began with. -/
def MustChange (d : Deps) (seeded : Nat) (u : UserRow) : Prop :=
  u.mustChangePassword = true ∨
    (u.id = seeded ∧ d.verifyPassword "admin" u.passwordHash = .ok true)

/-- The request presents a live session of a user who must change the password. -/
def FromMustChange (d : Deps) (seeded : Nat) (req : Request) (w : World) (si : SessionInfo) : Prop :=
  presentedUser d req w = some si ∧
    ∃ u ∈ w.db.users, u.id = si.userId ∧ MustChange d seeded u

/-- Nothing changed but sessions and the password and flag of the user of that name; the
name is the unique key of the table. -/
structure Confined (d : Deps) (username : String) (w w' : World) : Prop where
  tables : SameApartFromLogins w.db w'.db
  users : w'.db.users = w.db.users ∨ ∃ hash flag,
    w'.db.users = rehash d.server username hash flag w.db.users
  files : w'.files = w.files
  asked : ∃ new, w'.effects = w.effects ++ new ∧ ∀ e ∈ new, Question e

/-- The flag has force in a turn: who must change the password changes nothing else. -/
def FlagHasForce (d : Deps) (cfg : ApiConfig) (seeded : Nat) (w : World) (x : Exchange) : Prop :=
  ∀ si, FromMustChange d seeded x.req (w.facing x.outside) si →
    Confined d si.username w (exchange d cfg w x)

/-- An administrator who must change the password does not ask for anything that needs
an administrator. -/
def WaitsForChange (d : Deps) (seeded : Nat) (w : World) (x : Exchange) : Prop :=
  ∀ si e, FromMustChange d seeded x.req (w.facing x.outside) si → si.role = .admin →
    route x.req = some e → e.writes x.req = false

/-- Without a static token, what a request can do is up to the session it presents. -/
theorem serve_confined (htoken : cfg.token = "") {si : SessionInfo}
    (hsi : presentedUser d req w = some si)
    (hwaits : ∀ e, si.role = .admin → route req = some e → e.writes req = false) :
    Confined d si.username w (endState (serve d cfg req w)) := by
  have hnone : ∃ new, w.effects = w.effects ++ new ∧ ∀ e ∈ new, Question e := ⟨[], by simp, by simp⟩
  have hasked {w' : World} (hout : SameOutside w w') :
      ∃ new, w'.effects = w.effects ++ new ∧ ∀ e ∈ new, Question e := by
    rw [hout.2.2]
    exact hnone
  cases serve_outcome d cfg req w with
  | quiet h =>
    refine ⟨?_, Or.inl ?_, h.files, h.asked⟩
    · rw [h.db]
      rfl
    · rw [h.db]
  | loggedIn u hu row hrow hdb hout =>
    refine ⟨?_, Or.inl ?_, hout.1, hasked hout⟩
    · rw [hdb]
      rfl
    · rw [hdb]
  | loggedOut hdb hout =>
    refine ⟨?_, Or.inl ?_, hout.1, hasked hout⟩
    · rw [hdb]
      rfl
    · rw [hdb]
  | passwordChanged si' u hu hash hdb hout =>
    -- the session is the one presented, whoever the password was checked for
    obtain rfl := Option.some.inj (hsi.symm.trans hu.1)
    refine ⟨?_, Or.inr ⟨hash, false, ?_⟩, hout.1, hasked hout⟩
    · rw [hdb]
      rfl
    · rw [hdb]
  | privileged e hroute hwrites hadmin =>
    exfalso
    rcases hadmin with hstatic | ⟨si', hsi', hrole⟩
    · simp [presentsToken, htoken] at hstatic
    · obtain rfl := Option.some.inj (hsi.symm.trans hsi')
      rw [hwaits e hrole hroute] at hwrites
      cases hwrites

/-- From a freshly seeded database the flag has force in every turn, as long as the
administrator whose password is to be changed asks for nothing else first. -/
theorem flag_obeyed (d : Deps) (cfg : ApiConfig) (htoken : cfg.token = "") (w : World)
    (xs : List Exchange)
    (hwaits : Throughout (exchange d cfg) (WaitsForChange d w.db.next.users)
      (endState (seedAdmin d w)) xs) :
    Throughout (exchange d cfg) (FlagHasForce d cfg w.db.next.users) (endState (seedAdmin d w)) xs := by
  refine throughout_of (I := fun _ => True) (fun w' x hwait _ => ⟨fun si hsi => ?_, trivial⟩) hwaits
    trivial
  have h := serve_confined (w := w'.facing x.outside) htoken hsi.1
    fun e hrole hroute => hwait si e hsi hrole hroute
  exact ⟨h.tables, h.users, h.files, h.asked⟩

/-! ### The first login -/

def signInBody : String := "admin signs in"

def passwordBody : String := "admin changes the password"

def settingsBody : String := "the listener's settings"

def firstDeps : Deps := Deps.plain
  [(signInBody, Json.ofMembers [("username", .str "admin"), ("password", .str "admin")]),
   (passwordBody, Json.ofMembers [("current_password", .str "admin"), ("new_password", .str "owl")]),
   (settingsBody, Json.ofMembers [("tls", .bool true)])]

/-- The site after its first start. -/
def firstStart : World := endState (seedAdmin firstDeps {})

/-- The seeded row, with a password and a flag. -/
def adminRow (password : String) (flag : Bool) : UserRow where
  id := 1
  username := "admin"
  passwordHash := password
  role := .admin
  mustChangePassword := flag
  createdAt := "1970-01-01 00:00:00"

def adminSession : SessionInfo := { userId := 1, username := "admin", role := .admin }

def signsIn : Exchange where
  req := { method := .post, path := "/api/v1/login", body := signInBody }

/-- A request with the session of the first login. -/
def signedInRequest (method : Method) (path body : String) : Exchange where
  req :=
    { method, path, body
      headers := [("Authorization", "Bearer " ++ firstDeps.randomHex 1 32)] }

def newPassword : Exchange := signedInRequest .post "/api/v1/me/password" passwordBody

def setsListener : Exchange := signedInRequest .put "/api/v1/settings" settingsBody

def signedIn : World := exchange firstDeps {} firstStart signsIn

/-- The password was never changed, and the settings were. -/
theorem flagged_admin_writes :
    ¬Throughout (exchange firstDeps {}) (FlagHasForce firstDeps {} 1) firstStart
      [signsIn, setsListener] := by
  rintro ⟨-, hforce, -⟩
  have husers : signedIn.db.users = [adminRow "admin" true] := by decide +kernel
  have hmem : adminRow "admin" true ∈ signedIn.db.users := husers ▸ List.mem_singleton_self _
  have hpresented : presentedUser firstDeps setsListener.req (signedIn.facing {}) =
      some adminSession := by decide +kernel
  have hconfined := hforce adminSession ⟨hpresented, adminRow "admin" true, hmem, rfl, Or.inl rfl⟩
  have hsettings : (exchange firstDeps {} signedIn setsListener).db.settings =
      signedIn.db.settings := hconfined.tables.settings
  have hbefore : signedIn.db.settings = [] := by decide +kernel
  have hafter : (exchange firstDeps {} signedIn setsListener).db.settings = [("api_tls", "on")] := by
    decide +kernel
  rw [hbefore, hafter] at hsettings
  cases hsettings

/-- The password is changed before the settings. -/
theorem flag_obeyed_changed :
    Throughout (exchange firstDeps {}) (FlagHasForce firstDeps {} 1) firstStart
      [signsIn, newPassword, setsListener] := by
  refine flag_obeyed firstDeps {} rfl {} [signsIn, newPassword, setsListener]
    ⟨fun si e _ _ hroute => ?_, fun si e _ _ hroute => ?_, fun si e hsi _ _ => ?_, trivial⟩
  · have hlogin : route signsIn.req = some .login := rfl
    obtain rfl := Option.some.inj (hlogin.symm.trans hroute)
    rfl
  · have hpassword : route newPassword.req = some .mePassword := rfl
    obtain rfl := Option.some.inj (hpassword.symm.trans hroute)
    rfl
  · -- by now the flag is cleared and the password another one
    exfalso
    obtain ⟨-, u, hu, -, hmust⟩ := hsi
    have husers : (exchange firstDeps {} signedIn newPassword).db.users = [adminRow "owl" false] := by
      decide +kernel
    have hrow : u ∈ [adminRow "owl" false] := husers ▸ hu
    obtain rfl := List.mem_singleton.mp hrow
    rcases hmust with hflag | ⟨-, hverify⟩
    · cases hflag
    · exact absurd hverify (by decide +kernel)

end NightWatcher.Api
