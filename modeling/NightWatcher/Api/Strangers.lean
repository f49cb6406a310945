import NightWatcher.Lib.TwoRuns
import NightWatcher.Api.Accounts

/-!
# An exposed server and strangers

With `require_auth_reads` set, a request without credentials gets to the five
public paths only, and to the web files. What is answered there depends on the
users and the sessions and on no other table (`SameAccounts`), and nothing outside
is contacted.
-/

namespace NightWatcher.Api

open Throwing Database

variable {d : Deps} {cfg : ApiConfig} {req : Request} {w w' : World}

/-! ## Which endpoints are public -/

/-- The endpoints behind the public paths. -/
def Endpoint.isPublic : Endpoint → Bool
  | .version | .health | .login | .logout | .me => true
  | _ => false

/-- The paths that the gate lets through are those of the public endpoints. -/
theorem public_route {e : Endpoint} (hpath : req.path ∈ publicPaths) (hroute : route req = some e) :
    e.isPublic = true := by
  -- only the method and the path matter
  have hbare : route req = route { method := req.method, path := req.path } := rfl
  suffices h : (route { method := req.method, path := req.path }).all Endpoint.isPublic = true by
    rw [← hbare, hroute] at h
    exact h
  simp only [publicPaths, List.mem_cons, List.not_mem_nil, or_false] at hpath
  generalize req.method = method
  rcases hpath with h | h | h | h | h <;> rw [h] <;> cases method <;> decide +kernel

theorem splitSlash_ne_nil (cs : List Char) : splitSlash cs ≠ [] := by
  cases cs with
  | nil => exact List.cons_ne_nil _ _
  | cons c cs =>
    unfold splitSlash
    split
    · exact List.cons_ne_nil _ _
    · split
      · exact List.cons_ne_nil _ _
      · exact List.cons_ne_nil _ _

/-- The parts between the slashes make up the path. -/
theorem intercalate_splitSlash (cs : List Char) : ['/'].intercalate (splitSlash cs) = cs := by
  induction cs with
  | nil => rfl
  | cons c cs ih =>
    unfold splitSlash
    by_cases hc : c = '/'
    · rw [if_pos hc, hc]
      cases hsplit : splitSlash cs with
      | nil => exact absurd hsplit (splitSlash_ne_nil cs)
      | cons part parts =>
        rw [hsplit] at ih
        rw [List.intercalate_cons_cons, ih]
        rfl
    · rw [if_neg hc]
      cases hsplit : splitSlash cs with
      | nil => exact absurd hsplit (splitSlash_ne_nil cs)
      | cons part parts =>
        rw [hsplit] at ih
        cases parts with
        | nil =>
          simp only [List.intercalate_singleton] at ih ⊢
          rw [ih]
        | cons part' parts =>
          simp only [List.intercalate_cons_cons] at ih ⊢
          rw [← ih]
          rfl

/-- A path with a segment under `/api/v1` starts so. -/
theorem apiSegments_below_api {path first : String} {rest : List String}
    (h : apiSegments path = some (first :: rest)) : "/api/v1/".toList <+: path.toList := by
  unfold apiSegments at h
  split at h
  next rest' hsplit =>
    obtain rfl := Option.some.inj h
    have hjoin := intercalate_splitSlash path.toList
    obtain ⟨p₀, parts, hparts, h₀, hmap⟩ := List.map_eq_cons_iff.mp hsplit
    obtain ⟨p₁, parts₁, rfl, h₁, hmap⟩ := List.map_eq_cons_iff.mp hmap
    obtain ⟨p₂, parts₂, rfl, h₂, hmap⟩ := List.map_eq_cons_iff.mp hmap
    obtain ⟨p₃, parts₃, rfl, -, -⟩ := List.map_eq_cons_iff.mp hmap
    have hlist : ∀ {p : List Char} {s : String}, String.ofList p = s → p = s.toList := by
      rintro p s rfl
      simp
    rw [hparts, hlist h₀, hlist h₁, hlist h₂] at hjoin
    rw [← hjoin]
    simp only [List.intercalate_cons_cons]
    exact ⟨_, rfl⟩
  next => cases h

/-- Every route is below `/api/v1/`. -/
theorem route_below_api {e : Endpoint} (hroute : route req = some e) :
    "/api/v1/".toList <+: req.path.toList := by
  have hplatform : ∀ {e}, platformRoute req.path = some e → "/api/v1/".toList <+: req.path.toList := by
    intro e h
    obtain ⟨rest, hrest, -⟩ := Option.map_eq_some_iff.mp h
    unfold captureAny at hrest
    split at hrest
    next hpre =>
      have hshort : "/api/v1/".toList <+: "/api/v1/platform/".toList := by decide
      exact hshort.trans hpre
    next => cases hrest
  have hsegments : ∀ {f : List String → Option Endpoint} {e}, f [] = none →
      (apiSegments req.path).bind f = some e → "/api/v1/".toList <+: req.path.toList := by
    intro f e hf h
    obtain ⟨segs, hsegs, hseg⟩ := Option.bind_eq_some_iff.mp h
    cases segs with
    | nil =>
      rw [hf] at hseg
      cases hseg
    | cons first rest => exact apiSegments_below_api hsegs
  have hboth : ∀ {f : List String → Option Endpoint} {e}, f [] = none →
      ((platformRoute req.path).orElse fun _ => (apiSegments req.path).bind f) = some e →
      "/api/v1/".toList <+: req.path.toList := by
    intro f e hf h
    cases hp : platformRoute req.path with
    | some e' => exact hplatform hp
    | none =>
      rw [hp] at h
      exact hsegments hf h
  unfold route at hroute
  split at hroute
  · exact hboth rfl hroute
  · exact hboth rfl hroute
  · exact hboth rfl hroute
  · exact hsegments rfl hroute
  · exact hsegments rfl hroute
  · exact hsegments rfl hroute
  · cases hroute
  · cases hroute

/-! ## Two databases with the same accounts -/

/-- The same daemon on another database. -/
def OtherDb (S : Snapshot → Snapshot → Prop) (w w' : World) : Prop :=
  ∃ db, w' = { w with db } ∧ S ⟨w.db, w.now⟩ ⟨db, w.now⟩

section OtherDb

variable {S : Snapshot → Snapshot → Prop} {α : Type}

/-- A read-only method that does not see the difference. -/
theorem blind_ask {q : Query α} (hq : ∀ s s' fs, S s s' → q s' fs = q s fs) :
    Blind (OtherDb S) (ask q) := by
  rintro w _ ⟨db, rfl, hS⟩
  unfold Alike ask
  rw [hq _ _ w.dbFaults hS]
  cases q ⟨w.db, w.now⟩ w.dbFaults with
  | ok a fs => exact ⟨rfl, db, rfl, hS⟩
  | error e fs => exact ⟨rfl, db, rfl, hS⟩

/-- A connection is made or refused, whatever the tables hold. -/
theorem blind_connect : Blind (OtherDb S) (ask connect) := blind_ask fun _ _ _ _ => rfl

/-- Both statements are refused, or both change the tables and keep what differs apart. -/
def StatedAlike (S : Snapshot → Snapshot → Prop) (now : Int) : Option (α × Db) → Option (α × Db) → Prop
  | some p, some p' => p.1 = p'.1 ∧ S ⟨p.2, now⟩ ⟨p'.2, now⟩
  | none, none => True
  | _, _ => False

/-- A value that is computed from what is given is the same in both. -/
theorem statedAlike_bind {β : Type} {now : Int} {x : Option β} {f g : β → Option (α × Db)}
    (h : ∀ b, StatedAlike S now (f b) (g b)) : StatedAlike S now (x >>= f) (x >>= g) := by
  cases x with
  | none => trivial
  | some b => exact h b

/-- A statement that does the same to both shows nothing of the difference. -/
theorem blind_statement {f : Snapshot → Option (α × Db)}
    (hf : ∀ s s', S s s' → StatedAlike S s.now (f s) (f s')) :
    Blind (OtherDb S) (statement f) := by
  rintro w _ ⟨db, rfl, hS⟩
  unfold Alike statement
  cases roundTrip "query failed" w.dbFaults with
  | error e fs => exact ⟨rfl, db, rfl, hS⟩
  | ok u fs =>
    have hboth := hf _ _ hS
    simp only
    cases hx : f ⟨w.db, w.now⟩ with
    | none =>
      cases hy : f ⟨db, w.now⟩ with
      | none => exact ⟨rfl, db, rfl, hS⟩
      | some p' =>
        rw [hx, hy] at hboth
        exact hboth.elim
    | some p =>
      cases hy : f ⟨db, w.now⟩ with
      | none =>
        rw [hx, hy] at hboth
        exact hboth.elim
      | some p' =>
        rw [hx, hy] at hboth
        exact ⟨hboth.1, p'.2, rfl, hboth.2⟩

theorem blind_liftExcept (x : Except String α) : Blind (OtherDb S) (liftExcept x) := by
  cases x with
  | ok a => exact blind_pure a
  | error e => exact blind_throw e

/-- A random value has nothing to do with the tables. -/
theorem blind_draw : Blind (OtherDb S) draw := by
  rintro w _ ⟨db, rfl, hS⟩
  exact ⟨rfl, db, rfl, hS⟩

/-- An exception that is the same becomes the same status. -/
theorem blind_orError {status : Nat} {x : Act Response} (hx : Blind (OtherDb S) x) :
    Blind (OtherDb S) (orError status x) :=
  blind_tryCatch hx fun _ => blind_pure _

/-- The body of the request is the same. -/
theorem blind_withBody {k : Json → Act Response} (hk : ∀ body, Blind (OtherDb S) (k body)) :
    Blind (OtherDb S) (withBody d req k) := by
  unfold withBody
  cases d.json.parse req.body with
  | none => exact blind_pure _
  | some body => exact hk body

end OtherDb

/-- The users and the sessions are the same. -/
def SameAccounts (s s' : Snapshot) : Prop :=
  s'.now = s.now ∧ s'.db.users = s.db.users ∧ s'.db.sessions = s.db.sessions

/-- A session is looked up among the sessions and the users. -/
theorem liveSession_same {srv : Server} {token : String} {s s' : Snapshot} (h : SameAccounts s s') :
    liveSession srv token s' = liveSession srv token s := by
  unfold liveSession
  rw [h.1, h.2.1, h.2.2]

/-- So whether one is valid is the same. -/
theorem blind_validateSession {token : String} :
    Blind (OtherDb SameAccounts) (ask (validateSession d.server token)) := by
  refine blind_ask fun s s' fs h => ?_
  unfold validateSession select
  simp only [liveSession_same h]

/-- An account is looked up among the users. -/
theorem blind_findUser {username : String} :
    Blind (OtherDb SameAccounts) (ask (findUser d.server username)) := by
  refine blind_ask fun s s' fs h => ?_
  unfold findUser select
  simp only [h.2.1]

theorem blind_sessionInfo {token : String} :
    Blind (OtherDb SameAccounts) (sessionInfo d token) :=
  blind_ite (blind_pure _) (blind_tryCatch (blind_bind blind_connect fun _ => blind_validateSession)
    fun _ => blind_pure _)

/-- A session is added to the same sessions. -/
theorem blind_createSession {token : String} {userId : Nat} {ttl : Int} :
    Blind (OtherDb SameAccounts) (createSession d.server token userId ttl) := by
  refine blind_statement fun s s' h => ?_
  obtain ⟨db, now⟩ := s
  obtain ⟨db', now'⟩ := s'
  obtain ⟨rfl, husers, hsessions⟩ := h
  dsimp only at husers hsessions ⊢
  rw [husers, hsessions]
  refine statedAlike_bind fun t => statedAlike_bind fun _ => statedAlike_bind fun _ => ?_
  exact ⟨rfl, rfl, rfl, rfl⟩

/-- It is taken from the same ones. -/
theorem blind_deleteSession {token : String} :
    Blind (OtherDb SameAccounts) (deleteSession d.server token) := by
  refine blind_statement fun s s' h => ?_
  obtain ⟨hnow, husers, hsessions⟩ := h
  exact ⟨rfl, rfl, husers, by dsimp only; rw [hsessions]⟩

/-! ## The public handlers -/

/-- The health check reads no table. -/
theorem blind_health {S : Snapshot → Snapshot → Prop} : Blind (OtherDb S) (health d) :=
  blind_bind (blind_tryCatch (blind_bind blind_connect fun _ => blind_pure _) fun _ => blind_pure _)
    fun _ => blind_pure _

/-- Who one is depends on the accounts. -/
theorem blind_me : Blind (OtherDb SameAccounts) (me d cfg req) := by
  refine blind_ite (blind_pure _) (blind_bind blind_sessionInfo fun found => ?_)
  cases found with
  | none => exact blind_pure _
  | some si => exact blind_pure _

/-- So does what a logout closes. -/
theorem blind_logout : Blind (OtherDb SameAccounts) (logout d req) :=
  blind_bind (blind_tryCatch (blind_ite (blind_bind blind_connect fun _ => blind_deleteSession)
    (blind_pure _)) fun _ => blind_pure _) fun _ => blind_pure _

/-- So does whether a password is right. -/
theorem blind_login : Blind (OtherDb SameAccounts) (login d req) := by
  refine blind_withBody fun body => blind_ite (blind_pure _) (blind_orError
    (blind_bind blind_connect fun _ => blind_bind (blind_liftExcept _) fun username =>
      blind_bind blind_findUser fun found => ?_))
  cases found with
  | none => exact blind_pure _
  | some u =>
    refine blind_bind (blind_liftExcept _) fun password => blind_bind (blind_liftExcept _) fun ok =>
      blind_ite (blind_pure _) ?_
    exact blind_bind (blind_bind blind_draw fun _ => blind_pure _) fun sess =>
      blind_bind blind_createSession fun _ => blind_pure _

/-- What is served without a login shows nothing but the accounts. -/
theorem blind_public {e : Endpoint} (he : e.isPublic = true) :
    Blind (OtherDb SameAccounts) (handle d cfg e req) := by
  cases e with
  | version => exact blind_pure _
  | health => exact blind_health
  | login => exact blind_login
  | logout => exact blind_logout
  | me => exact blind_me
  | _ => cases he

/-! ## The gate -/

/-- The check of a role reads the sessions. -/
theorem blind_requireAuth {S : Snapshot → Snapshot → Prop} {needAdmin : Bool}
    (hsession : Blind (OtherDb S) (sessionInfo d (sessionToken req))) :
    Blind (OtherDb S) (requireAuth d cfg req needAdmin) := by
  refine blind_ite (blind_pure _) (blind_bind hsession fun found => ?_)
  cases found with
  | none => exact blind_pure _
  | some si => exact blind_ite (blind_pure _) (blind_pure _)

/-- So does the gate. -/
theorem blind_gate {S : Snapshot → Snapshot → Prop}
    (hsession : Blind (OtherDb S) (sessionInfo d (sessionToken req))) :
    Blind (OtherDb S) (gate d cfg req) :=
  blind_ite (blind_pure _) (blind_ite (blind_pure _) (blind_ite (blind_pure _)
    (blind_requireAuth hsession)))

/-- The request is none that the gate looks at. -/
def Ungated (req : Request) : Prop := ¬"/api/v1/".toList <+: req.path.toList ∨ req.path ∈ publicPaths

/-- Without the API token a request gets past the gate of an exposed server only where that
does not look, or with a live session. -/
theorem meets_gate_passed (htoken : presentsToken cfg req = false) :
    Meets (gate d cfg req) w
      (fun refusal _ => refusal = none → cfg.requireAuthReads = true →
        Ungated req ∨ (presentedUser d req w).isSome = true)
      fun _ _ => True := by
  unfold gate
  simp only [meets_ite, meets_pure]
  refine ⟨fun hclosed _ hexposed => ?_, fun _ => ⟨fun hprefix _ _ => Or.inl (Or.inl hprefix), fun _ =>
    ⟨fun hpublic _ _ => Or.inl (Or.inr hpublic), fun _ => ?_⟩⟩⟩
  · rw [hexposed] at hclosed
    cases hclosed
  · refine meets_requireAuth (fun fs hauth _ _ => Or.inr ?_) fun _ _ _ h =>
      absurd h (Option.some_ne_none _)
    rcases hauth with h | ⟨si, hsi, -⟩
    · rw [htoken] at h
      cases h
    · rw [hsi]
      rfl

/-- The gate lets a stranger through to nothing but what is public. -/
theorem meets_gate_stranger (hexposed : cfg.requireAuthReads = true)
    (htoken : presentsToken cfg req = false) (hsession : presentedUser d req w = none) :
    Meets (gate d cfg req) w (fun refusal _ => refusal = none → Ungated req) fun _ _ => True := by
  refine (meets_gate_passed htoken).mono (fun refusal _ h hnone => ?_) fun _ _ h => h
  rcases h hnone hexposed with hungated | hsome
  · exact hungated
  · rw [hsession] at hsome
    cases hsome

/-- What lies behind an ungated path is public. -/
theorem ungated_route {e : Endpoint} (h : Ungated req) (hroute : route req = some e) :
    e.isPublic = true := by
  rcases h with hprefix | hpublic
  · exact absurd (route_below_api hroute) hprefix
  · exact public_route hpublic hroute

/-! ## Nothing is contacted -/

/-- Only the database was used, and the random generator. -/
def inward : Frame World := Frame.same fun w => { w with db := {}, dbFaults := [], draws := 0 }

/-- A failing call is nothing that is seen outside. -/
theorem inward_ignoresFaults : IgnoresFaults inward := fun _ _ => rfl

/-- Nor is a statement. -/
theorem inward_statement {α : Type} {f : Snapshot → Option (α × Db)} : Keeps inward (statement f) :=
  keeps_statement inward_ignoresFaults fun _ _ _ _ => rfl

theorem inward_draw : Keeps inward draw := fun _ => rfl

theorem inward_ask {α : Type} (q : Query α) : Keeps inward (ask q) := keeps_ask inward_ignoresFaults q

theorem inward_sessionInfo {token : String} : Keeps inward (sessionInfo d token) :=
  keeps_ite (keeps_pure _) (keeps_tryCatch (keeps_bind (inward_ask _) fun _ => inward_ask _)
    fun _ => keeps_pure _)

/-- A login only talks to the database. -/
theorem inward_login : Keeps inward (login d req) := by
  unfold login withBody
  cases d.json.parse req.body with
  | none => exact keeps_pure _
  | some body =>
    refine keeps_ite (keeps_pure _) (keeps_tryCatch (keeps_bind (inward_ask _) fun _ =>
      keeps_bind (keeps_liftExcept _) fun username => keeps_bind (inward_ask _) fun found => ?_)
      fun _ => keeps_pure _)
    cases found with
    | none => exact keeps_pure _
    | some u =>
      refine keeps_bind (keeps_liftExcept _) fun _ => keeps_bind (keeps_liftExcept _) fun _ =>
        keeps_ite (keeps_pure _) ?_
      exact keeps_bind (keeps_bind inward_draw fun _ => keeps_pure _) fun _ =>
        keeps_bind inward_statement fun _ => keeps_pure _

/-- So does all that is served without one. -/
theorem inward_public {e : Endpoint} (he : e.isPublic = true) : Keeps inward (handle d cfg e req) := by
  cases e with
  | version => exact keeps_pure _
  | health =>
    exact keeps_bind (keeps_tryCatch (keeps_bind (inward_ask _) fun _ => keeps_pure _)
      fun _ => keeps_pure _) fun _ => keeps_pure _
  | login => exact inward_login
  | logout =>
    exact keeps_bind (keeps_tryCatch (keeps_ite (keeps_bind (inward_ask _) fun _ => inward_statement)
      (keeps_pure _)) fun _ => keeps_pure _) fun _ => keeps_pure _
  | me =>
    refine keeps_ite (keeps_pure _) (keeps_bind inward_sessionInfo fun found => ?_)
    cases found with
    | none => exact keeps_pure _
    | some si => exact keeps_pure _
  | _ => cases he

/-! ## Strangers -/

/-- What the client gets. -/
def reply (d : Deps) (cfg : ApiConfig) (req : Request) (w : World) : Response :=
  match serve d cfg req w with
  | .ok res _ => res
  | .error e _ => { status := 500, headers := [("EXCEPTION_WHAT", e)] }

/-- Runs that are alike send the same reply. -/
theorem reply_eq {R : World → World → Prop}
    (h : Alike (serve d cfg req) (serve d cfg req) w w' (fun _ => R) fun _ => R) :
    reply d cfg req w' = reply d cfg req w := by
  unfold reply
  rcases alike_iff.mp h with ⟨a, s', t', hs, ht, -⟩ | ⟨e, s', t', hs, ht, -⟩
  · rw [hs, ht]
  · rw [hs, ht]

/-- An exposed server answers a stranger from the accounts alone, and contacts no one. -/
theorem strangers_shut_out (hexposed : cfg.requireAuthReads = true)
    (htoken : presentsToken cfg req = false) (hsession : presentedUser d req w = none) {db : Db}
    (husers : db.users = w.db.users) (hsessions : db.sessions = w.db.sessions) :
    reply d cfg req { w with db } = reply d cfg req w ∧
      inward.rel w (endState (serve d cfg req w)) := by
  -- two runs that differ in the tables alone
  constructor
  · refine reply_eq (R := OtherDb SameAccounts) (alike_tryCatch (alike_bind ?_))
    have hother : OtherDb SameAccounts w { w with db } := ⟨db, rfl, rfl, husers, hsessions⟩
    refine ((blind_gate blind_sessionInfo _ _ hother).and_meets
      (meets_gate_stranger hexposed htoken hsession)).mono
      (fun refusal s t h => ?_) fun e s t h => alike_pure h.1
    obtain ⟨hst, hpassed⟩ := h
    cases refusal with
    | some res => exact alike_pure hst
    | none =>
      dsimp only
      cases webFile cfg req with
      | some res => exact alike_pure hst
      | none =>
        dsimp only
        -- past the gate only the public routes are left
        cases hroute : route req with
        | none => exact alike_pure hst
        | some e =>
          exact (blind_public (ungated_route (hpassed rfl) hroute) s t hst).mono (fun _ _ _ h => h)
            fun e s t h => alike_pure h
  · refine Meets.endState (P := inward.rel w) ?_
    unfold serve
    simp only [meets_tryCatch, meets_bind, meets_pure]
    have hgate : Meets (gate d cfg req) w (fun refusal w' => inward.rel w w' ∧
        (refusal = none → Ungated req)) fun _ w' => inward.rel w w' :=
      ((meets_gate (fun fs => inward_ignoresFaults w fs) fun _ _ fs => inward_ignoresFaults w fs).and
        (meets_gate_stranger hexposed htoken hsession)).mono (fun _ _ h => h) fun _ _ h => h.1
    refine hgate.mono (fun refusal s h => ?_) fun _ _ h => h
    obtain ⟨hs, hpassed⟩ := h
    cases refusal with
    | some res => exact hs
    | none =>
      dsimp only
      cases webFile cfg req with
      | some res => exact hs
      | none =>
        dsimp only
        cases hroute : route req with
        | none => exact hs
        | some e =>
          -- they write nothing that is not the caller's
          have hkeeps : Keeps inward (handle d cfg e req) :=
            inward_public (ungated_route (hpassed rfl) hroute)
          exact (hkeeps.meets s).mono (fun _ _ h => inward.trans hs h) fun _ _ h => inward.trans hs h

/-- A server whose reads are for users only. -/
def exposedConfig : ApiConfig := { token := "t", requireAuthReads := true }

/-- A stranger asks for the sensors, with a token that is not the configured one. -/
def asksForSensors : Request where
  method := .get
  path := "/api/v1/sensors"
  headers := [("Authorization", "Bearer x")]

/-- A stranger is refused the sensors, where there are any and where there are none. -/
theorem sensors_hidden :
    reply (Deps.plain []) exposedConfig asksForSensors
        { db := { sensors := [{ id := "s1", transport := .tcp, address := "10.0.0.7" }] } }
      = reply (Deps.plain []) exposedConfig asksForSensors {} ∧
    inward.rel {} (endState (serve (Deps.plain []) exposedConfig asksForSensors {})) :=
  strangers_shut_out (w := {}) rfl (by decide +kernel) (by decide +kernel) rfl rfl

end NightWatcher.Api
