import NightWatcher.Api.NoAdmin

/-!
# Concurrent requests on users

Each request runs on a thread and a connection of its own, so the database calls
of several requests interleave. A `Caller` is what one request still has to do
and what it read so far; `Site` is the database and all requests in flight, and
a turn lets one of them make its next call.

`DELETE /users/{name}` keeps the last administrator by counting them first and
deleting after. What it counted can be outdated by the time it deletes: an
administrator remains in every run where nobody acts on an outdated read
(`admin_remains`), and two requests that do delete each other's last
administrator (`both_admins_deleted`).
-/

namespace NightWatcher.Api

open Throwing Database Transcript

/-! ## The requests, call by call -/

/-- What a `DELETE` read before it deletes. -/
inductive Seen where
  /-- a user without the role -/
  | viewer (u : UserRow)
  /-- the administrators, more than one -/
  | admins (us : List UserRow)

/-- Where a request is: before which of its database calls. -/
inductive Caller where
  | finding (name : String)
  | counting (name : String)
  | deleting (name : String) (seen : Seen)
  | checking (name hash role : String)
  | creating (name hash role : String)
  | answered

/-- A request's next database call. -/
def Caller.call (srv : Server) : Caller → Act Caller
  | .finding name => do
    match ← ask (findUser srv name) with
    | none => return .answered
    | some u => if u.role = .admin then return .counting name else return .deleting name (.viewer u)
  | .counting name => do
    let admins := (← ask (users srv)).filter fun x => x.role = .admin
    if admins.length ≤ 1 then return .answered else return .deleting name (.admins admins)
  | .deleting name _ => do
    let _ ← deleteUser srv name
    return .answered
  | .checking name hash role => do
    if (← ask (findUser srv name)).isSome then return .answered else return .creating name hash role
  | .creating name hash role => do
    createUser srv name hash role false
    return .answered
  | .answered => return .answered

/-- All the calls of a request, one after the other. -/
def Caller.finish (srv : Server) : Nat → Caller → Act Unit
  | 0, _ => pure ()
  | n + 1, c => do
    let c ← c.call srv
    c.finish srv n

/-- The database and the requests in flight; those that are still to come are at
their first call. -/
structure Site where
  world : World
  callers : List Caller

/-- Who makes a call, when, and whether the database fails it. -/
structure Move where
  caller : Nat
  now : Int := 0
  fails : Bool := false

/-- One call; a failure answers the request with an error. -/
def move (srv : Server) (s : Site) (m : Move) : Site :=
  match s.callers[m.caller]? with
  | none => s
  | some c =>
    match c.call srv (s.world.facing { now := m.now, dbFaults := [m.fails] }) with
    | .ok c' w => { world := w, callers := s.callers.set m.caller c' }
    | .error _ w => { world := w, callers := s.callers.set m.caller .answered }

/-! ## What a call does -/

variable {srv : Server}

/-- What a request remembers was so when it was read. -/
def Caller.Remembers (srv : Server) : Caller → Prop
  | .deleting name (.viewer u) => srv.same u.username name = true ∧ u.role ≠ .admin
  | .deleting _ (.admins us) => us.Nodup ∧ 2 ≤ us.length ∧ ∀ u ∈ us, u.role = .admin
  | _ => True

/-- `UNIQUE KEY (username)` -/
def KeyedNames (srv : Server) (us : List UserRow) : Prop :=
  (us.map fun u => srv.collate u.username).Nodup

/-- The users before and after a call, and where the request is then. -/
inductive Called (srv : Server) (c : Caller) (us : List UserRow) : Caller → List UserRow → Prop
  | reads {c' : Caller} (h : KeyedNames srv us → c'.Remembers srv) : Called srv c us c' us
  | deletes (name : String) (seen : Seen) (hc : c = .deleting name seen) :
    Called srv c us .answered (us.filter fun u => !srv.same u.username name)
  | creates (row : UserRow) (hnew : us.any (fun u => srv.same u.username row.username) = false) :
    Called srv c us .answered (us ++ [row])

theorem KeyedNames.admins_nodup {us : List UserRow} (h : KeyedNames srv us) :
    ((srv.orderBy UserRow.username us).filter fun x => x.role = .admin).Nodup := by
  have hnodup : us.Nodup := h.of_map _
  unfold Server.orderBy
  exact ((List.mergeSort_perm _ _).nodup_iff.mpr hnodup).filter _

/-- A call reads, or deletes, or creates, or fails and changes nothing. -/
theorem meets_call (srv : Server) (c : Caller) (w : World) :
    Meets (c.call srv) w (fun c' w' => Called srv c w.db.users c' w'.db.users)
      fun _ w' => w'.db.users = w.db.users := by
  -- where the handler stands between two calls
  cases c with
  | finding name =>
    unfold Caller.call
    rw [meets_bind]
    refine meets_select (fun fs => ?_) fun _ => rfl
    cases hfind : w.db.users.find? fun u => srv.same u.username name with
    | none => exact .reads fun _ => trivial
    | some u =>
      have hsame : srv.same u.username name = true := by simpa using List.find?_some hfind
      simp only [meets_ite, meets_pure]
      exact ⟨fun _ => .reads fun _ => trivial, fun hrole => .reads fun _ => ⟨hsame, hrole⟩⟩
  | counting name =>
    unfold Caller.call
    rw [meets_bind]
    refine meets_select (fun fs => ?_) fun _ => rfl
    simp only [meets_ite, meets_pure]
    refine ⟨fun _ => .reads fun _ => trivial, fun hcount => .reads fun hkeyed => ⟨?_, ?_, ?_⟩⟩
    · exact hkeyed.admins_nodup
    · omega
    · intro u hu
      exact of_decide_eq_true (List.mem_filter.mp hu).2
  | deleting name seen =>
    unfold Caller.call
    rw [meets_bind]
    refine meets_statement (fun a db' fs h => ?_) fun _ _ => rfl
    cases h
    exact .deletes name seen rfl
  | checking name hash role =>
    unfold Caller.call
    rw [meets_bind]
    refine meets_select (fun fs => ?_) fun _ => rfl
    simp only [meets_ite, meets_pure]
    exact ⟨fun _ => .reads fun _ => trivial, fun _ => .reads fun _ => trivial⟩
  | creating name hash role =>
    unfold Caller.call
    rw [meets_bind]
    refine meets_statement (fun a db' fs h => ?_) fun _ _ => rfl
    simp only [Option.bind_eq_bind, Option.bind_eq_some_iff, Option.pure_def, Option.some.injEq,
      Prod.mk.injEq, Option.guard_eq_some', Bool.not_eq_true'] at h
    obtain ⟨username, -, _, -, _, -, _, hnew, -, rfl⟩ := h
    exact .creates _ hnew
  | answered => exact .reads fun _ => trivial

/-! ## An administrator remains -/

def SomeAdmin (us : List UserRow) : Prop := ∃ u ∈ us, u.role = .admin

/-- What a `DELETE` read is still so: of the administrators it counted none is gone, and
the user of the name, if there is one, is still the one it found. -/
def Caller.StillSo (srv : Server) (us : List UserRow) : Caller → Prop
  | .deleting name (.viewer u) => ∀ v ∈ us, srv.same v.username name = true → v = u
  | .deleting _ (.admins seen) => ∀ u ∈ seen, u ∈ us
  | _ => True

/-- Nobody acts on an outdated read in this move. -/
def ActsOnCurrent (srv : Server) (s : Site) (m : Move) : Prop :=
  ∀ c, s.callers[m.caller]? = some c → c.StillSo srv s.world.db.users

structure Governed (srv : Server) (s : Site) : Prop where
  keyed : KeyedNames srv s.world.db.users
  admin : SomeAdmin s.world.db.users
  callers : ∀ c ∈ s.callers, c.Remembers srv

/-- Of two users at most one has the name. -/
theorem someone_else {us : List UserRow} (hkeyed : KeyedNames srv us) (name : String)
    {a b : UserRow} (ha : a ∈ us) (hb : b ∈ us) (hne : a ≠ b) :
    srv.same a.username name = false ∨ srv.same b.username name = false := by
  by_contra hboth
  simp only [not_or, Bool.not_eq_false, same_iff] at hboth
  exact hne (List.inj_on_of_nodup_map hkeyed ha hb (hboth.1.trans hboth.2.symm))

/-- A deletion on a current read leaves an administrator. -/
theorem someAdmin_deletes {us : List UserRow} (hkeyed : KeyedNames srv us) (hadmin : SomeAdmin us)
    {name : String} {seen : Seen} (hseen : (Caller.deleting name seen).Remembers srv)
    (hstill : (Caller.deleting name seen).StillSo srv us) :
    SomeAdmin (us.filter fun u => !srv.same u.username name) := by
  cases seen with
  | viewer u =>
    -- the deleted row is the one found, and that is no administrator
    obtain ⟨a, ha, hrole⟩ := hadmin
    refine ⟨a, List.mem_filter.mpr ⟨ha, ?_⟩, hrole⟩
    rw [Bool.not_eq_true', ← Bool.not_eq_true]
    intro hsame
    obtain rfl := hstill a ha hsame
    exact hseen.2 hrole
  | admins seen =>
    -- two of those counted are still there, and only one can have the name
    obtain ⟨hnodup, hlength, hroles⟩ := hseen
    match seen, hlength with
    | a :: b :: rest, _ =>
      have hne : a ≠ b := fun h => (List.nodup_cons.mp hnodup).1 (h ▸ List.mem_cons_self)
      have ha := hstill a List.mem_cons_self
      have hb := hstill b (List.mem_cons_of_mem _ List.mem_cons_self)
      rcases someone_else hkeyed name ha hb hne with hother | hother
      · exact ⟨a, List.mem_filter.mpr ⟨ha, by rw [hother]; rfl⟩, hroles a List.mem_cons_self⟩
      · exact ⟨b, List.mem_filter.mpr ⟨hb, by rw [hother]; rfl⟩,
          hroles b (List.mem_cons_of_mem _ List.mem_cons_self)⟩

theorem Called.keyed {c c' : Caller} {us us' : List UserRow} (h : Called srv c us c' us')
    (hkeyed : KeyedNames srv us) : KeyedNames srv us' := by
  cases h with
  | reads _ => exact hkeyed
  | deletes name seen _ => exact hkeyed.sublist (List.filter_sublist.map _)
  | creates row hnew =>
    unfold KeyedNames
    rw [List.map_append, List.map_singleton]
    refine List.nodup_append.mpr ⟨hkeyed, List.nodup_singleton _, fun x hx y hy => ?_⟩
    obtain ⟨u, hu, rfl⟩ := List.mem_map.mp hx
    obtain rfl := List.mem_singleton.mp hy
    intro hsame
    have hany := List.any_eq_false.mp hnew u hu
    exact hany (same_iff.mpr hsame)

theorem Called.someAdmin {c c' : Caller} {us us' : List UserRow} (h : Called srv c us c' us')
    (hkeyed : KeyedNames srv us) (hadmin : SomeAdmin us) (hc : c.Remembers srv)
    (hstill : c.StillSo srv us) : SomeAdmin us' := by
  cases h with
  | reads _ => exact hadmin
  | deletes name seen hdeletes =>
    subst hdeletes
    exact someAdmin_deletes hkeyed hadmin hc hstill
  | creates row _ =>
    obtain ⟨a, ha, hrole⟩ := hadmin
    exact ⟨a, List.mem_append_left _ ha, hrole⟩

theorem Called.remembers {c c' : Caller} {us us' : List UserRow} (h : Called srv c us c' us')
    (hkeyed : KeyedNames srv us) : c'.Remembers srv := by
  cases h with
  | reads h => exact h hkeyed
  | deletes name seen _ => trivial
  | creates row _ => trivial

/-- One move on a current read. -/
theorem Governed.move {s : Site} (h : Governed srv s) {m : Move} (hcurrent : ActsOnCurrent srv s m) :
    Governed srv (move srv s m) := by
  unfold Api.move
  cases hc : s.callers[m.caller]? with
  | none => exact h
  | some c =>
    have hmem : c ∈ s.callers := List.mem_of_getElem? hc
    have hset : ∀ c', c'.Remembers srv → ∀ x ∈ s.callers.set m.caller c', x.Remembers srv := by
      intro c' hc' x hx
      rcases List.mem_or_eq_of_mem_set hx with hold | rfl
      · exact h.callers x hold
      · exact hc'
    have hcall := meets_call srv c (s.world.facing { now := m.now, dbFaults := [m.fails] })
    simp only
    cases hrun : c.call srv (s.world.facing { now := m.now, dbFaults := [m.fails] }) with
    | ok c' w =>
      have hdone := hcall.of_ok hrun
      exact ⟨hdone.keyed h.keyed,
        hdone.someAdmin h.keyed h.admin (h.callers c hmem) (hcurrent c hc),
        hset c' (hdone.remembers h.keyed)⟩
    | error e w =>
      have hsame : w.db.users = s.world.db.users := hcall.of_error hrun
      exact ⟨by rw [hsame]; exact h.keyed, by rw [hsame]; exact h.admin, hset .answered trivial⟩

/-- At its first call. -/
def Caller.Fresh : Caller → Prop
  | .finding _ | .checking _ _ _ => True
  | _ => False

/-- In every run in which nobody acts on an outdated read an administrator remains. -/
theorem admin_remains (srv : Server) (s : Site) (hkeyed : KeyedNames srv s.world.db.users)
    (hadmin : SomeAdmin s.world.db.users) (hfresh : ∀ c ∈ s.callers, c.Fresh) (ms : List Move)
    (hcurrent : Throughout (move srv) (ActsOnCurrent srv) s ms) :
    SomeAdmin (run (move srv) s ms).world.db.users := by
  have hstart : Governed srv s := by
    refine ⟨hkeyed, hadmin, fun c hc => ?_⟩
    have hf := hfresh c hc
    cases c with
    | finding name => trivial
    | checking name hash role => trivial
    | _ => exact hf.elim
  exact (run_preserves (I := Governed srv) (fun s m hm h => h.move hm) hcurrent hstart).admin

/-! ### Two administrators -/

/-- The administrators a `DELETE` counts. -/
def countedAdmins (srv : Server) (us : List UserRow) : List UserRow :=
  (srv.orderBy UserRow.username us).filter fun x => x.role = .admin

theorem countedAdmins_perm (us : List UserRow) :
    (countedAdmins srv us).Perm (us.filter fun x => x.role = .admin) :=
  (List.mergeSort_perm _ _).filter _

/-- Two administrators or more: the count lets the request go on. -/
theorem move_counting (name : String) {s : Site} {m : Move}
    (hc : s.callers[m.caller]? = some (.counting name)) (hfails : m.fails = false)
    (htwo : 2 ≤ (s.world.db.users.filter fun x => x.role = .admin).length) :
    move srv s m =
      { world := s.world.facing { now := m.now }
        callers := s.callers.set m.caller
          (.deleting name (.admins (countedAdmins srv s.world.db.users))) } := by
  have hcount : ¬(countedAdmins srv s.world.db.users).length ≤ 1 := by
    rw [(countedAdmins_perm _).length_eq]
    omega
  unfold move
  rw [hc, hfails]
  show (match (if (countedAdmins srv s.world.db.users).length ≤ 1 then _ else _ : Act Caller) _ with
    | .ok c' w => _ | .error _ w => _) = _
  rw [if_neg hcount]
  rfl

def adminNamed (id : Nat) (username : String) : UserRow :=
  { id, username, passwordHash := "", role := .admin }

/-- Two administrators, and a request to delete each. -/
def twoAdmins : Site where
  world := { db := { users := [adminNamed 1 "ann", adminNamed 2 "bob"] } }
  callers := [.finding "ann", .finding "bob"]

/-- Both have looked and counted. -/
def bothCounted : Site where
  world := twoAdmins.world
  callers :=
    let seen := countedAdmins Server.plain twoAdmins.world.db.users
    [.deleting "ann" (.admins seen), .deleting "bob" (.admins seen)]

theorem run_bothCounted : run (move Server.plain) twoAdmins
    [{ caller := 0 }, { caller := 1 }, { caller := 0 }, { caller := 1 }] = bothCounted := by
  have hlooked : run (move Server.plain) twoAdmins [{ caller := 0 }, { caller := 1 }] =
      { twoAdmins with callers := [.counting "ann", .counting "bob"] } := rfl
  show run (move Server.plain)
    (run (move Server.plain) twoAdmins [{ caller := 0 }, { caller := 1 }]) _ = _
  rw [hlooked, run_cons, move_counting "ann" rfl rfl (by decide), run_cons,
    move_counting "bob" rfl rfl (by decide)]
  rfl

theorem twoAdmins_fresh : ∀ c ∈ twoAdmins.callers, c.Fresh := by
  intro c hc
  rcases List.mem_cons.mp hc with rfl | hc
  · trivial
  · obtain rfl := List.mem_singleton.mp hc
    trivial

theorem twoAdmins_keyed : KeyedNames Server.plain twoAdmins.world.db.users := by
  unfold KeyedNames
  decide

/-- Each counts two and deletes one. -/
theorem both_admins_deleted :
    KeyedNames Server.plain twoAdmins.world.db.users ∧ SomeAdmin twoAdmins.world.db.users ∧
      (∀ c ∈ twoAdmins.callers, c.Fresh) ∧
      ¬SomeAdmin (run (move Server.plain) twoAdmins
        [{ caller := 0 }, { caller := 1 }, { caller := 0 }, { caller := 1 }, { caller := 0 },
          { caller := 1 }]).world.db.users := by
  refine ⟨twoAdmins_keyed, ⟨adminNamed 1 "ann", by decide, rfl⟩, twoAdmins_fresh, ?_⟩
  have hempty : (run (move Server.plain) bothCounted
      [{ caller := 0 }, { caller := 1 }]).world.db.users = [] := rfl
  show ¬SomeAdmin (run (move Server.plain) (run (move Server.plain) twoAdmins
    [{ caller := 0 }, { caller := 1 }, { caller := 0 }, { caller := 1 }]) _).world.db.users
  rw [run_bothCounted, hempty]
  rintro ⟨u, hu, -⟩
  cases hu

/-- One after the other: the second request looks its user up when the first has deleted. -/
theorem admin_remains_in_turn :
    SomeAdmin (run (move Server.plain) twoAdmins
      [{ caller := 0 }, { caller := 0 }, { caller := 0 }, { caller := 1 }]).world.db.users := by
  have hcounted := @move_counting Server.plain "ann" (move Server.plain twoAdmins { caller := 0 })
    { caller := 0 } rfl rfl (by decide)
  refine admin_remains Server.plain twoAdmins twoAdmins_keyed ⟨adminNamed 1 "ann", by decide, rfl⟩
    twoAdmins_fresh _ ⟨?_, ?_, ?_, ?_, trivial⟩
  · intro c hc
    obtain rfl : Caller.finding "ann" = c := Option.some.inj hc
    trivial
  · intro c hc
    obtain rfl : Caller.counting "ann" = c := Option.some.inj hc
    trivial
  · rw [hcounted]
    intro c hc
    obtain rfl := Option.some.inj hc
    intro u hu
    exact (List.mem_filter.mp ((countedAdmins_perm _).subset hu)).1
  · rw [hcounted]
    intro c hc
    obtain rfl : Caller.finding "bob" = c := Option.some.inj hc
    trivial

/-! ## One request alone -/

section Alone

variable {d : Deps} {cfg : ApiConfig} {req : Request} {w : World}

theorem finish_ok {c c' : Caller} {w' : World} (h : c.call srv w = .ok c' w') (n : Nat) :
    c.finish srv (n + 1) w = c'.finish srv n w' := by
  show EStateM.bind (c.call srv) _ w = _
  unfold EStateM.bind
  rw [h]

theorem finish_answered (n : Nat) : Caller.answered.finish srv n w = .ok () w := by
  induction n with
  | zero => rfl
  | succ n ih => exact (finish_ok rfl n).trans ih

/-- A request at its last statement ends with it. -/
theorem finish_last {α : Type} {x : Act α} {c : Caller}
    (hc : c.call srv = x >>= fun _ => pure .answered) (n : Nat) :
    endState (c.finish srv (n + 1) w) = endState (x w) := by
  cases hrun : x w with
  | ok a w' =>
    have hcall : c.call srv w = .ok .answered w' := by
      rw [hc]
      show EStateM.bind x _ w = _
      unfold EStateM.bind
      rw [hrun]
      rfl
    rw [finish_ok hcall, finish_answered]
    rfl
  | error e w' =>
    show endState (EStateM.bind (c.call srv) _ w) = _
    rw [hc]
    show endState (EStateM.bind (EStateM.bind x _) _ w) = _
    unfold EStateM.bind
    rw [hrun]
    rfl

theorem call_finding {name : String} {u : UserRow} {fs : List Bool}
    (hfind : w.db.users.find? (fun u => srv.same u.username name) = some u) :
    (Caller.finding name).call srv (w.withFaults (false :: fs)) = .ok
      (if u.role = .admin then .counting name else .deleting name (.viewer u)) (w.withFaults fs) := by
  show (match w.db.users.find? (fun u => srv.same u.username name) with
    | none => _
    | some u => _ : Act Caller) (w.withFaults fs) = _
  rw [hfind]
  by_cases hrole : u.role = .admin
  · simp only [hrole, if_true]
    rfl
  · simp only [hrole, if_false]
    rfl

theorem call_counting {name : String} {fs : List Bool}
    (hcount : ¬(countedAdmins srv w.db.users).length ≤ 1) :
    (Caller.counting name).call srv (w.withFaults (false :: fs)) =
      .ok (.deleting name (.admins (countedAdmins srv w.db.users))) (w.withFaults fs) := by
  show (if (countedAdmins srv w.db.users).length ≤ 1 then _ else _ : Act Caller) (w.withFaults fs) = _
  rw [if_neg hcount]
  rfl

/-- The database is as after the calls of one request, up to the first that fails. -/
def EndsAs (srv : Server) (n : Nat) (c : Caller) (w w' : World) : Prop :=
  ∃ fs, w'.db = (endState (c.finish srv n (w.withFaults fs))).db

theorem endsAs_finding_nothing {name : String} {fs : List Bool} :
    EndsAs srv 3 (.finding name) w (w.withFaults fs) := ⟨[true], rfl⟩

theorem meets_endState {ε σ α : Type} (x : EStateM ε σ α) (s : σ) :
    Meets x s (fun _ s' => s' = endState (x s)) fun _ s' => s' = endState (x s) := by
  unfold Meets
  cases x s with
  | ok a s' => rfl
  | error e s' => rfl

/-- The handler of `DELETE /users/{name}` makes the calls of its caller. -/
theorem deleteUserNamed_calls (uname : String) :
    EndsAs d.server 3 (.finding uname) w (endState (deleteUserNamed d cfg req uname w)) := by
  refine Meets.endState (P := EndsAs d.server 3 (.finding uname) w) ?_
  refine meets_adminOnly (fun fs _ => ?_) fun _ fs => endsAs_finding_nothing
  simp only [orError, meets_tryCatch, meets_bind, meets_pure]
  refine meets_ask (fun _ fs => ?_) fun _ fs => endsAs_finding_nothing
  refine meets_select (fun fs => ?_) fun fs => endsAs_finding_nothing
  cases hfind : w.db.users.find? fun u => d.server.same u.username uname with
  | none => exact endsAs_finding_nothing
  | some u =>
    by_cases hrole : u.role = .admin
    · simp only [hrole, if_true, meets_bind]
      refine meets_select (fun fs => ?_) fun fs => endsAs_finding_nothing
      rw [meets_ite]
      refine ⟨fun _ => endsAs_finding_nothing, fun hcount => ?_⟩
      have hends : ∀ w', w' = endState (deleteUser d.server uname (w.withFaults fs)) →
          EndsAs d.server 3 (.finding uname) w w' := by
        intro w' hw'
        refine ⟨false :: false :: fs, ?_⟩
        rw [finish_ok (call_finding hfind), if_pos hrole, finish_ok (call_counting hcount),
          finish_last rfl, hw']
      rw [meets_bind]
      exact (meets_endState _ _).mono (fun _ => hends) fun _ => hends
    · simp only [hrole, if_false, meets_bind]
      have hends : ∀ w', w' = endState (deleteUser d.server uname (w.withFaults fs)) →
          EndsAs d.server 3 (.finding uname) w w' := by
        intro w' hw'
        refine ⟨false :: fs, ?_⟩
        rw [finish_ok (call_finding hfind), if_neg hrole, finish_last rfl, hw']
      exact (meets_endState _ _).mono (fun _ => hends) fun _ => hends

/-- A statement does not see how many random values were drawn. -/
theorem statement_draws {α : Type} (f : Snapshot → Option (α × Db)) (n : Nat) :
    (endState (statement f { w with draws := n })).db = (endState (statement f w)).db := by
  unfold statement
  cases roundTrip "query failed" w.dbFaults with
  | error e fs => rfl
  | ok a fs =>
    simp only
    cases f ⟨w.db, w.now⟩ with
    | none => rfl
    | some p => rfl

theorem call_checking {name hash role : String} {fs : List Bool}
    (hfind : w.db.users.find? (fun u => srv.same u.username name) = none) :
    (Caller.checking name hash role).call srv (w.withFaults (false :: fs)) =
      .ok (.creating name hash role) (w.withFaults fs) := by
  show (if (w.db.users.find? fun u => srv.same u.username name).isSome then _ else _ : Act Caller)
    (w.withFaults fs) = _
  rw [hfind]
  rfl

/-- The handler of `POST /users` makes the calls of its caller. -/
theorem postUser_calls : ∃ name hash role,
    EndsAs d.server 2 (.checking name hash role) w (endState (postUser d cfg req w)) := by
  let Ends (w' : World) := ∃ name hash role, EndsAs d.server 2 (.checking name hash role) w w'
  have hnothing : ∀ w' : World, w'.db = w.db → Ends w' := fun w' hw' => ⟨"", "", "", [true], hw'⟩
  refine Meets.endState (P := Ends) ?_
  refine meets_adminOnly (fun fs _ => ?_) fun _ fs => hnothing _ rfl
  unfold withBody
  cases d.json.parse req.body with
  | none => exact hnothing _ rfl
  | some body =>
    simp only [orError, meets_tryCatch, meets_bind, meets_pure, meets_ite]
    refine ⟨fun _ => hnothing _ rfl, fun _ => ?_⟩
    have hbody : ∀ role : String, Meets (do
        ask connect
        let uname ← getMember body "username" Json.getString
        if (← ask (findUser d.server uname)).isSome then
          return sendErr 409 "user already exists"
        let hash ← newHash d (← getMember body "password" Json.getString)
        createUser d.server uname hash role false
        return send 201 (Json.ofMembers [("username", .str uname), ("role", .str role)]))
        (w.withFaults fs) (fun _ => Ends) fun _ => Ends := by
      intro role
      simp only [meets_bind, meets_ite, meets_pure]
      refine meets_ask (fun _ fs => ?_) fun _ fs => hnothing _ rfl
      refine meets_getString (fun name _ => ?_) fun _ => hnothing _ rfl
      refine meets_select (fun fs => ?_) fun fs => hnothing _ rfl
      refine ⟨fun _ => hnothing _ rfl, fun hnew => ?_⟩
      refine meets_getString (fun password _ => ?_) fun _ => hnothing _ rfl
      simp only [newHash, draw, meets_bind, meets_modifyGet, meets_pure]
      have hfind : w.db.users.find? (fun u => d.server.same u.username name) = none :=
        Option.not_isSome_iff_eq_none.mp hnew
      have hends : ∀ w', w' = endState (createUser d.server name (d.hashPassword w.draws password)
          role false { w.withFaults fs with draws := w.draws + 1 }) → Ends w' := by
        intro w' hw'
        refine ⟨name, d.hashPassword w.draws password, role, false :: fs, ?_⟩
        rw [finish_ok (call_checking hfind), finish_last rfl, hw']
        exact statement_draws (w := w.withFaults fs) _ _
      exact (meets_endState _ _).mono (fun _ => hends) fun _ => hends
    simp only [meets_bind, meets_ite, meets_pure] at hbody
    exact ⟨fun _ => meets_getString (fun role _ => hbody role) fun _ => hnothing _ rfl,
      fun _ => hbody "viewer"⟩

end Alone

end NightWatcher.Api
