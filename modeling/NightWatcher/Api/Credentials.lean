import NightWatcher.Api.Strangers
import NightWatcher.Daemon.Reload

/-!
# Reads and credentials

Two databases that differ in password hashes and session tokens only
(`CredentialsApart`). A GET of a caller who is no administrator answers from the
rest: none of the handlers it can reach reads the two columns, but for one, which
serves any table that the registry of extensions names (`Exposes`).
-/

namespace NightWatcher.Api

open Throwing Database Sqm Exporter Daemon

variable {d : Deps} {cfg : ApiConfig} {req : Request} {w w' : World}

/-! ## Databases that differ in credentials -/

/-- The user without the password hash. -/
def dropHash (u : UserRow) : UserRow := { u with passwordHash := "" }

/-- The session without the token. -/
def dropToken (x : SessionRow) : SessionRow := { x with token := "" }

/-- The same but for password hashes and session tokens, and the session that the request
presents is one of the same user in both, or of none. -/
structure BarCredentials (d : Deps) (req : Request) (s s' : Snapshot) : Prop where
  now : s'.now = s.now
  tables : ∃ users sessions, s'.db = { s.db with users, sessions } ∧
    users.map dropHash = s.db.users.map dropHash ∧
    sessions.map dropToken = s.db.sessions.map dropToken
  user : presentedUser d req { db := s'.db, now := s'.now }
    = presentedUser d req { db := s.db, now := s.now }

/-- No administrator's credentials. -/
def Unprivileged (d : Deps) (cfg : ApiConfig) (req : Request) (s : Snapshot) : Prop :=
  ¬HasAdmin d cfg req { db := s.db, now := s.now }

/-- Two databases apart in credentials, for a caller who is no administrator. -/
def Apart (d : Deps) (cfg : ApiConfig) (req : Request) (s s' : Snapshot) : Prop :=
  BarCredentials d req s s' ∧ Unprivileged d cfg req s

/-- A sequence of queries whose parts give the same gives the same. -/
theorem query_bind_congr {α β : Type} {q : Query α} {f : α → Query β} {s s' : Snapshot}
    (hq : q s' = q s) (hf : ∀ a, f a s' = f a s) : (q >>= f) s' = (q >>= f) s := by
  show EStateM.bind (q s') (fun a => f a s') = EStateM.bind (q s) fun a => f a s
  rw [hq, funext hf]

/-- So does a loop of them. -/
theorem query_mapM_congr {α β : Type} {f : β → Query α} {s s' : Snapshot} {l : List β}
    (hf : ∀ b ∈ l, f b s' = f b s) : (l.mapM f) s' = (l.mapM f) s := by
  induction l with
  | nil => rfl
  | cons b l ih =>
    rw [List.mapM_cons]
    refine query_bind_congr (hf b List.mem_cons_self) fun a => query_bind_congr ?_ fun _ => rfl
    exact ih fun x hx => hf x (List.mem_cons_of_mem _ hx)

/-- The query reads neither users nor sessions. -/
def Unread {α : Type} (q : Query α) : Prop :=
  ∀ db users sessions now, q ⟨{ db with users := users, sessions := sessions }, now⟩ = q ⟨db, now⟩

/-- A sequence of queries that do not read the credentials does not read them. -/
theorem unread_bind {α β : Type} {q : Query α} {f : α → Query β} (hq : Unread q)
    (hf : ∀ a, Unread (f a)) : Unread (q >>= f) := fun db users sessions now =>
  query_bind_congr (hq db users sessions now) fun a => hf a db users sessions now

/-- Such a query runs the same on databases that differ in them. -/
theorem blind_unread {α : Type} {q : Query α} (hq : Unread q) :
    Blind (OtherDb (Apart d cfg req)) (ask q) := by
  refine blind_ask fun s s' fs h => ?_
  obtain ⟨db, now⟩ := s
  obtain ⟨db', now'⟩ := s'
  obtain ⟨⟨hnow, ⟨users, sessions, hdb, -, -⟩, -⟩, -⟩ := h
  dsimp only at hnow hdb
  subst hnow hdb
  exact congrFun (hq db users sessions _) fs

/-- So does the handler that sends its answer. -/
theorem blind_dbRead {q : Query Response} (hq : Unread q) :
    Blind (OtherDb (Apart d cfg req)) (dbRead q) :=
  blind_orError (blind_bind blind_connect fun _ => blind_unread hq)

/-! ## Handlers -/

/-- The request's own session is among what is the same. -/
theorem blind_sessionInfo_apart :
    Blind (OtherDb (Apart d cfg req)) (sessionInfo d (sessionToken req)) := by
  unfold sessionInfo
  by_cases hempty : sessionToken req = ""
  · rw [if_pos hempty]
    exact blind_pure _
  · rw [if_neg hempty]
    refine blind_tryCatch (blind_bind blind_connect fun _ => blind_ask fun s s' fs h => ?_)
      fun _ => blind_pure _
    have huser := h.1.user
    unfold presentedUser at huser
    rw [if_neg hempty, if_neg hempty] at huser
    have huser : liveSession d.server (sessionToken req) s' =
        liveSession d.server (sessionToken req) s :=
      huser
    unfold validateSession select
    simp only [huser]

/-- Behind the guard of an administrator there is nothing to see. -/
theorem blind_adminOnly {k : Act Response} :
    Blind (OtherDb (Apart d cfg req)) (adminOnly d cfg req k) := by
  intro s t hst
  have hstranger : ¬HasAdmin d cfg req s := by
    obtain ⟨db, -, hapart⟩ := hst
    exact hapart.2
  have hrequire : Blind (OtherDb (Apart d cfg req)) (requireAuth d cfg req true) :=
    blind_requireAuth blind_sessionInfo_apart
  have hrefused : Meets (requireAuth d cfg req true) s (fun refusal _ => refusal ≠ none)
      fun _ _ => True := by
    refine meets_requireAuth (fun fs hauth => absurd ?_ hstranger) fun _ _ _ => nofun
    rcases hauth with htoken | ⟨si, hsi, hrole⟩
    · exact Or.inl htoken
    · exact Or.inr ⟨si, hsi, hrole rfl⟩
  refine alike_bind (((hrequire s t hst).and_meets hrefused).mono (fun refusal s' t' h => ?_)
    fun _ _ _ h => h.1)
  cases refusal with
  | none => exact absurd rfl h.2
  | some res => exact alike_pure h.1

/-- The end of a run, on another database. -/
def onDb {α : Type} (db : Db) : EStateM.Result String World α → EStateM.Result String World α
  | .ok a w => .ok a { w with db }
  | .error e w => .error e { w with db }

/-- What only talks to the outside. -/
theorem blind_outside {α : Type} {S : Snapshot → Snapshot → Prop} {x : Act α}
    (hx : ∀ w db, x { w with db } = onDb db (x w)) (hkeeps : Keeps Quiet x) : Blind (OtherDb S) x := by
  rintro w _ ⟨db, rfl, hS⟩
  have hquiet : IsQuiet w (endState (x w)) := hkeeps w
  unfold Alike
  rw [hx w db]
  cases hend : x w with
  | ok a w' =>
    rw [hend] at hquiet
    have hdb : w'.db = w.db := hquiet.db
    have hnow : w'.now = w.now := hquiet.now
    refine ⟨rfl, db, rfl, ?_⟩
    rw [hdb, hnow]
    exact hS
  | error e w' =>
    rw [hend] at hquiet
    have hdb : w'.db = w.db := hquiet.db
    have hnow : w'.now = w.now := hquiet.now
    refine ⟨rfl, db, rfl, ?_⟩
    rw [hdb, hnow]
    exact hS

/-- Opening a device reads no table. -/
theorem blind_openDevice {S : Snapshot → Snapshot → Prop} (transport address : String) :
    Blind (OtherDb S) (openDevice transport address) := by
  refine blind_outside (fun w db => ?_) (quiet_openDevice transport address)
  unfold openDevice
  by_cases hunknown : transport ≠ "tcp" ∧ transport ≠ "serial"
  · rw [if_pos hunknown, if_pos hunknown]
    rfl
  · rw [if_neg hunknown, if_neg hunknown]
    obtain ⟨_, _, _, _, opens, _⟩ := w
    match opens with
    | [] => rfl
    | .error e :: rest => rfl
    | .ok () :: rest => rfl

/-- Neither does asking it. -/
theorem blind_queryRaw {S : Snapshot → Snapshot → Prop} (dev : SqmDevice) {cmd : String}
    (hcmd : cmd ∈ ["rx", "ix", "cx"]) : Blind (OtherDb S) (dev.queryRaw cmd) := by
  refine blind_outside (fun w db => ?_) (quiet_queryRaw dev hcmd)
  unfold SqmDevice.queryRaw
  obtain ⟨_, _, _, _, _, turns, _⟩ := w
  match turns with
  | [] => rfl
  | turn :: rest =>
    simp only
    cases turn.answer <;> rfl

/-- Neither does a scan. -/
theorem blind_scan {S : Snapshot → Snapshot → Prop} (what : String) :
    Blind (OtherDb S) (scan what) := by
  refine blind_outside (fun w db => ?_) (quiet_scan what)
  unfold scan
  obtain ⟨_, _, _, _, _, _, scans, _⟩ := w
  match scans with
  | [] => rfl
  | .error e :: rest => rfl
  | .ok found :: rest => rfl

/-- The handler of the calibration reads the sensors only. -/
theorem blind_getCalibration {id : String} :
    Blind (OtherDb (Apart d cfg req)) (getCalibration d id) := by
  refine blind_orError (blind_bind blind_connect fun _ =>
    blind_bind (blind_unread fun _ _ _ _ => rfl) fun found => ?_)
  cases found with
  | none => exact blind_pure _
  | some s =>
    exact blind_bind (blind_openDevice _ _) fun dev => blind_bind (blind_bind (blind_queryRaw dev
      (by simp)) fun _ => blind_liftExcept _) fun _ => blind_pure _

/-- The counts of the tables' rows. -/
theorem blind_schemaStatus : Blind (OtherDb (Apart d cfg req)) (ask schemaStatus) := by
  refine blind_ask fun s s' fs h => congrFun ?_ fs
  unfold schemaStatus
  refine query_bind_congr rfl fun _ => ?_
  obtain ⟨⟨-, ⟨users, sessions, hdb, husers, hsessions⟩, -⟩, -⟩ := h
  have hu : users.length = s.db.users.length := by simpa using congrArg List.length husers
  have hs : sessions.length = s.db.sessions.length := by simpa using congrArg List.length hsessions
  refine query_mapM_congr fun p hp => ?_
  have hcount : p.2 s'.db = p.2 s.db := by
    rw [hdb]
    simp only [knownTables, List.mem_cons, List.not_mem_nil, or_false] at hp
    rcases hp with rfl | rfl | rfl | rfl | rfl | rfl | rfl | rfl | rfl | rfl | rfl | rfl <;>
      first | rfl | exact hu | exact hs
  obtain ⟨table, count⟩ := p
  have hselect : (select fun s => count s.db : Query Nat) s'
      = (select fun s => count s.db : Query Nat) s := by
    show (roundTrip "query failed" >>= fun _ => pure (count s'.db)) =
      roundTrip "query failed" >>= fun _ => pure (count s.db)
    rw [show count s'.db = count s.db from hcount]
  exact query_bind_congr hselect fun _ => rfl

/-- The handlers that only read do not read the credentials, extensions apart. -/
theorem blind_reads {e : Endpoint} (he : e.readsOnly = true) (hext : ∀ name, e ≠ .extensionData name) :
    Blind (OtherDb (Apart d cfg req)) (handle d cfg e req) := by
  cases e with
  | version => exact blind_pure _
  | health => exact blind_health
  | discover =>
    exact blind_ite (blind_pure _) (blind_orError (blind_bind (blind_scan _) fun _ => blind_pure _))
  | discoverUsb => exact blind_orError (blind_bind (blind_scan _) fun _ => blind_pure _)
  | getCalibration id => exact blind_getCalibration
  | me =>
    refine blind_ite (blind_pure _) (blind_bind blind_sessionInfo_apart fun found => ?_)
    cases found with
    | none => exact blind_pure _
    | some si => exact blind_pure _
  | extensionData name => exact absurd rfl (hext name)
  | dbStatus =>
    refine blind_orError (blind_bind blind_connect fun _ => ?_)
    rw [ask_bind]
    exact blind_bind blind_schemaStatus fun _ => blind_pure _
  | getSensor | getWeatherStation | getExportTarget =>
    refine blind_dbRead (unread_bind (fun _ _ _ _ => rfl) fun found => ?_)
    cases found with
    | none => exact fun _ _ _ _ => rfl
    | some row => exact fun _ _ _ _ => rfl
  | sensorDsn id =>
    refine blind_dbRead (unread_bind (fun _ _ _ _ => rfl) fun found => ?_)
    cases found with
    | none => exact fun _ _ _ _ => rfl
    | some sensor =>
      refine unread_bind (fun _ _ _ _ => rfl) fun rows =>
        unread_bind (fun _ _ _ _ => rfl) fun targets => ?_
      dsimp only
      split
      · exact fun _ _ _ _ => rfl
      · exact fun _ _ _ _ => rfl
  | events | extensions | listSensors | sensorReadings | calibrationHistory | listWeatherStations
  | weatherStationReadings | listExportTargets | exportTargetLog =>
    exact blind_dbRead (unread_bind (fun _ _ _ _ => rfl) fun _ _ _ _ _ => rfl)
  | _ => cases he

/-! ## The table of an extension -/

/-- The row of a user as an extension's table shows it. -/
def userCells (u : UserRow) : List (Option String) :=
  [some (toString u.id), some u.username, some u.passwordHash, some (SqlEnum.text u.role),
   some (if u.mustChangePassword then "1" else "0"), some u.createdAt]

/-- `SELECT * FROM users ORDER BY id DESC LIMIT n` -/
def recentUsers (users : List UserRow) (n : Nat) : TableData where
  columns := ["id", "username", "password_hash", "role", "must_change_password", "created_at"]
  rows := ((users.mergeSort fun a b => decide (b.id ≤ a.id)).take n).map userCells

/-- What the server answers to a SELECT by `id` from a table named at run time: the users for
the names `isUsers` of that table; for any other table what does not depend on credentials (the
sessions have no `id`, so that the statement is refused). -/
structure ServesTables (srv : Server) (isUsers : String → Prop) : Prop where
  users : ∀ db table n, isUsers table → srv.selectRecent db table n = some (recentUsers db.users n)
  others : ∀ (db : Db) users sessions table n, ¬isUsers table →
    users.map dropHash = db.users.map dropHash → sessions.map dropToken = db.sessions.map dropToken →
    srv.selectRecent { db with users, sessions } table n = srv.selectRecent db table n

/-- The request is served the users by the name of an extension. -/
def Exposes (d : Deps) (cfg : ApiConfig) (isUsers : String → Prop) (req : Request) (w : World) : Prop :=
  ∃ name ext, route req = some (.extensionData name) ∧ webFile cfg req = none ∧
    (cfg.requireAuthReads = true → (presentedUser d req w).isSome = true) ∧
    Clean (gateCalls cfg req + 3) w.dbFaults ∧
    w.db.extensions.find? (fun e => d.server.same e.name name) = some ext ∧
    validIdentifier ext.dataTable = true ∧ isUsers ext.dataTable ∧ w.db.users ≠ []

/-- A SELECT on two databases, `k` calls into a request: it fails on both, or the database
answers on both. -/
theorem alike_select_at {α : Type} {f : Snapshot → α} {faults : List Bool} {k : Nat} {db : Db}
    {Q : α → World → World → Prop} {E : String → World → World → Prop}
    (hw : w.dbFaults = faults.drop k) (hclean : Clean k faults)
    (hok : Clean (k + 1) faults → f ⟨db, w.now⟩ = f ⟨w.db, w.now⟩ ∧
      Q (f ⟨w.db, w.now⟩) (w.withFaults (faults.drop (k + 1)))
        { w with db, dbFaults := faults.drop (k + 1) })
    (herr : ∀ e fs, E e (w.withFaults fs) { w with db, dbFaults := fs }) :
    Alike (ask (select f)) (ask (select f)) w { w with db } Q E := by
  obtain ⟨htail, hgood, -⟩ := next_call hw hclean
  rw [← htail] at hok
  unfold Alike ask select roundTrip
  dsimp only
  generalize w.dbFaults = fs at hok hgood ⊢
  match fs with
  | [] =>
    obtain ⟨heq, hQ⟩ := hok (hgood nofun)
    exact ⟨heq.symm, hQ⟩
  | false :: rest =>
    obtain ⟨heq, hQ⟩ := hok (hgood nofun)
    exact ⟨heq.symm, hQ⟩
  | true :: rest => exact ⟨rfl, herr _ rest⟩

/-- The connection is made, or refused, in both runs alike. -/
theorem alike_connect_at {faults : List Bool} {k : Nat} {db : Db} {Q : Unit → World → World → Prop}
    {E : String → World → World → Prop} (hw : w.dbFaults = faults.drop k) (hclean : Clean k faults)
    (hok : Clean (k + 1) faults → Q () (w.withFaults (faults.drop (k + 1)))
      { w with db, dbFaults := faults.drop (k + 1) })
    (herr : ∀ e fs, E e (w.withFaults fs) { w with db, dbFaults := fs }) :
    Alike (ask connect) (ask connect) w { w with db } Q E := by
  obtain ⟨htail, hgood, -⟩ := next_call hw hclean
  rw [← htail] at hok
  unfold Alike ask connect roundTrip
  dsimp only
  generalize w.dbFaults = fs at hok hgood ⊢
  match fs with
  | [] => exact ⟨rfl, hok (hgood nofun)⟩
  | false :: rest => exact ⟨rfl, hok (hgood nofun)⟩
  | true :: rest => exact ⟨rfl, herr _ rest⟩

/-- The data of an extension, where the table it names is served alike. -/
theorem alike_extensionData {name : String} {db : Db} {Q : World → World → Prop}
    (hQ : ∀ fs, Q (w.withFaults fs) { w with db, dbFaults := fs })
    (hclean : Clean (gateCalls cfg req) w.dbFaults)
    (hext : db.extensions = w.db.extensions)
    (hdata : ∀ ext n, Clean (gateCalls cfg req + 3) w.dbFaults →
      w.db.extensions.find? (fun e => d.server.same e.name name) = some ext →
      validIdentifier ext.dataTable = true →
      d.server.selectRecent db ext.dataTable n = d.server.selectRecent w.db ext.dataTable n) :
    Alike (extensionData d req name) (extensionData d req name) (admitted cfg req w)
      { admitted cfg req w with db } (fun _ => Q) fun _ => Q := by
  refine alike_tryCatch (alike_bind ?_)
  -- the calls before the last read tables that are the same in both
  refine alike_connect_at rfl hclean (fun hclean => ?_) fun e fs => alike_pure (hQ fs)
  rw [ask_bind]
  refine alike_bind ?_
  refine alike_select_at rfl hclean (fun hclean => ?_) fun e fs => alike_pure (hQ fs)
  dsimp only
  rw [show (admitted cfg req w).db = w.db from rfl, hext]
  refine ⟨rfl, ?_⟩
  -- the table of the extension is read only if its name is an identifier
  cases hfind : w.db.extensions.find? fun e => d.server.same e.name name with
  | none => exact alike_pure (hQ _)
  | some ext =>
    simp only [Option.map_some]
    by_cases hvalid : (ext.dataTable = "" || !validIdentifier ext.dataTable) = true
    · simp only [hvalid, if_true]
      exact alike_pure (hQ _)
    · have hident : validIdentifier ext.dataTable = true := by
        simp only [Bool.or_eq_true, not_or] at hvalid
        simpa using hvalid.2
      simp only [hvalid, Bool.false_eq_true, if_false]
      rw [ask_bind]
      unfold queryRecent
      rw [ask_bind]
      refine alike_bind (alike_bind ?_)
      refine alike_select_at rfl hclean (fun hclean => ?_) fun e fs => alike_pure (hQ fs)
      refine ⟨hdata ext _ hclean hfind hident, ?_⟩
      dsimp only
      rw [show (admitted cfg req w).db = w.db from rfl]
      cases d.server.selectRecent w.db ext.dataTable _ with
      | none =>
        refine alike_throw ?_
        exact alike_pure (hQ _)
      | some data =>
        refine alike_pure ?_
        exact alike_pure (hQ _)

/-! ## Every GET -/

/-- The two worlds of the statement: one daemon, two databases. -/
def CredentialsApart (d : Deps) (req : Request) (w w' : World) : Prop :=
  OtherDb (BarCredentials d req) w w'

/-- What a GET request can reach. -/
theorem getRoute_guarded {e : Endpoint} (hget : req.method = .get ∨ req.method = .head)
    (hroute : route req = some e) :
    e.readsOnly = true ∨ e = .getSettings ∨ e = .listUsers ∨ ∃ path, e = .platform path := by
  have hwithId : ∀ {id : String} {f : String → Endpoint}, (∀ id, (f id).readsOnly = true) →
      withId id f = some e → e.readsOnly = true := by
    intro id f hf h
    unfold withId at h
    split at h
    · cases h
    · cases h
      exact hf id
  have hroute : ((platformRoute req.path).orElse fun _ => (apiSegments req.path).bind getRoute) =
      some e := by
    unfold route at hroute
    rcases hget with h | h
    · rw [h] at hroute
      exact hroute
    · rw [h] at hroute
      exact hroute
  cases hp : platformRoute req.path with
  | some e' =>
    rw [hp] at hroute
    cases hroute
    obtain ⟨rest, -, rfl⟩ := Option.map_eq_some_iff.mp hp
    exact Or.inr (Or.inr (Or.inr ⟨_, rfl⟩))
  | none =>
    rw [hp] at hroute
    obtain ⟨segs, -, hroute⟩ := Option.bind_eq_some_iff.mp hroute
    unfold getRoute at hroute
    split at hroute <;> first
      | exact Or.inl (hwithId (fun _ => rfl) hroute)
      | (cases hroute; exact Or.inl rfl)
      | (cases hroute; exact Or.inr (Or.inl rfl))
      | (cases hroute; exact Or.inr (Or.inr (Or.inl rfl)))
      | (cases hroute; exact Or.inr (Or.inr (Or.inr ⟨_, rfl⟩)))
      | cases hroute

/-- No web file stands in the way of a request that a GET route does not take. -/
theorem webFile_none {e : Endpoint} (hroute : route req = some e)
    (hwrites : ¬(e.readsOnly = true ∨ e = .getSettings ∨ e = .listUsers ∨ ∃ path, e = .platform path)) :
    webFile cfg req = none := by
  have hnot : ¬(req.method = .get ∨ req.method = .head) := fun hget =>
    hwrites (getRoute_guarded hget hroute)
  rw [not_or] at hnot
  unfold webFile
  split
  · exact absurd ‹_› hnot.1
  · exact absurd ‹_› hnot.2
  · rfl

/-- The handler of a GET that was let in. -/
theorem alike_handle {e : Endpoint} {t : World} (hget : req.method = .get) (hroute : route req = some e)
    (hweb : webFile cfg req = none)
    (hpassed : cfg.requireAuthReads = true → Ungated req ∨ (presentedUser d req w).isSome = true)
    {isUsers : String → Prop} (hserves : ServesTables d.server isUsers)
    (hsafe : ¬Exposes d cfg isUsers req w) (hclean : Clean (gateCalls cfg req) w.dbFaults)
    (happart : OtherDb (Apart d cfg req) (admitted cfg req w) t) :
    Alike (handle d cfg e req) (handle d cfg e req) (admitted cfg req w) t
      (fun _ => OtherDb (Apart d cfg req)) fun _ => OtherDb (Apart d cfg req) := by
  rcases getRoute_guarded (Or.inl hget) hroute with hreads | rfl | rfl | ⟨path, rfl⟩
  · by_cases hext : ∃ name, e = .extensionData name
    · obtain ⟨name, rfl⟩ := hext
      obtain ⟨db, rfl, hS⟩ := happart
      obtain ⟨users, sessions, hdb, husers, hsessions⟩ := hS.1.tables
      dsimp only at hdb husers hsessions
      refine alike_extensionData (fun fs => ⟨db, rfl, hS⟩) hclean (by rw [hdb]; rfl) ?_
      intro ext n hanswered hfind hvalid
      by_cases hisUsers : isUsers ext.dataTable
      · -- there are no users to serve
        have hnone : w.db.users = [] := by
          by_contra hsome
          refine hsafe ⟨name, ext, hroute, hweb, fun hexposed => ?_, hanswered, hfind, hvalid,
            hisUsers, hsome⟩
          rcases hpassed hexposed with hungated | hsession
          · cases ungated_route hungated hroute
          · exact hsession
        have hnone' : users = [] := by
          rw [show (admitted cfg req w).db = w.db from rfl, hnone] at husers
          exact List.map_eq_nil_iff.mp husers
        rw [hserves.users _ _ n hisUsers, hserves.users _ _ n hisUsers, hdb, hnone, hnone']
      · rw [hdb]
        exact hserves.others w.db users sessions _ n hisUsers husers hsessions
    · exact blind_reads hreads (fun name h => hext ⟨name, h⟩) _ _ happart
  · exact blind_adminOnly _ _ happart
  · exact blind_adminOnly _ _ happart
  · exact blind_adminOnly _ _ happart

/-- Where it serves no users, a GET answers from the rest. -/
theorem alike_get (hget : req.method = .get) {isUsers : String → Prop}
    (hserves : ServesTables d.server isUsers) (hsafe : ¬Exposes d cfg isUsers req w)
    (happart : OtherDb (Apart d cfg req) w w') :
    Alike (serve d cfg req) (serve d cfg req) w w' (fun _ => OtherDb (Apart d cfg req))
      fun _ => OtherDb (Apart d cfg req) := by
  refine alike_tryCatch (alike_bind ?_)
  have hstranger : ¬HasAdmin d cfg req w := by
    obtain ⟨db, -, hS⟩ := happart
    exact hS.2
  have htoken : presentsToken cfg req = false := by
    cases hpresents : presentsToken cfg req with
    | false => rfl
    | true => exact absurd (Or.inl hpresents) hstranger
  have hat : Meets (gate d cfg req) w (fun refusal s => refusal = none →
      Clean (gateCalls cfg req) w.dbFaults ∧ s = admitted cfg req w) fun _ _ => True :=
    meets_gate_at (fun hclean _ => ⟨hclean, rfl⟩) fun _ _ => nofun
  refine (((blind_gate blind_sessionInfo_apart _ _ happart).and_meets hat).and_meets
    (meets_gate_passed htoken)).mono (fun refusal s t h => ?_) fun e s t h => alike_pure h.1.1
  obtain ⟨⟨hst, hat⟩, hpassed⟩ := h
  cases refusal with
  | some res => exact alike_pure hst
  | none =>
    obtain ⟨hclean, rfl⟩ := hat rfl
    dsimp only
    cases hweb : webFile cfg req with
    | some res => exact alike_pure hst
    | none =>
      dsimp only
      cases hroute : route req with
      | none => exact alike_pure hst
      | some e =>
        exact (alike_handle hget hroute hweb (hpassed rfl) hserves hsafe hclean hst).mono
            (fun _ _ _ h => h)
          fun e s t h => alike_pure h

/-! ## The users as an extension -/

/-- The checks let a request through where the database answers. -/
theorem meets_requireAuth_admits {faults : List Bool} {k : Nat} {needAdmin : Bool}
    (hw : w.dbFaults = faults.drop k) (hclean : Clean (k + authCalls cfg req) faults)
    (hauth : presentsToken cfg req = true ∨ ∃ si, presentedUser d req w = some si ∧
      (needAdmin = true → si.role = .admin)) :
    Meets (requireAuth d cfg req needAdmin) w
      (fun refusal s => refusal = none ∧ s = w.withFaults (faults.drop (k + authCalls cfg req)))
      fun _ _ => False := by
  unfold requireAuth
  unfold authCalls at hclean ⊢
  by_cases htoken : presentsToken cfg req = true
  · rw [if_pos htoken, if_pos htoken, Nat.add_zero, ← hw]
    exact ⟨rfl, rfl⟩
  · rw [if_neg htoken] at hclean ⊢
    rw [if_neg htoken]
    obtain ⟨si, hsi, hrole⟩ := hauth.resolve_left htoken
    unfold presentedUser at hsi
    unfold sessionInfo
    by_cases hempty : sessionToken req = ""
    · rw [if_pos hempty] at hsi
      cases hsi
    · rw [if_neg hempty] at hsi ⊢
      simp only [meets_bind, meets_tryCatch]
      refine meets_connect_answered hw (fun i hi => hclean i (by omega)) ?_
      refine meets_select_answered rfl hclean ?_
      simp only [World.withFaults] at hsi ⊢
      rw [hsi]
      dsimp only
      by_cases hrefuse : needAdmin = true ∧ si.role ≠ .admin
      · exact absurd (hrole hrefuse.1) hrefuse.2
      · rw [if_neg hrefuse]
        exact ⟨rfl, rfl⟩

/-- A request with the token or a live session gets past the gate where the database answers. -/
theorem meets_gate_admits (hclean : Clean (gateCalls cfg req) w.dbFaults)
    (hauth : cfg.requireAuthReads = true → presentsToken cfg req = true ∨
      (presentedUser d req w).isSome = true) :
    Meets (gate d cfg req) w (fun refusal s => refusal = none ∧ s = admitted cfg req w)
      fun _ _ => False := by
  unfold gate
  unfold admitted
  unfold gateCalls at hclean ⊢
  simp only [meets_ite, meets_pure]
  refine ⟨fun h => ?_, fun h => ⟨fun h' => ?_, fun h' => ⟨fun h'' => ?_, fun h'' => ?_⟩⟩⟩
  · rw [if_pos h]
    exact ⟨trivial, rfl⟩
  · rw [if_neg h, if_pos h']
    exact ⟨trivial, rfl⟩
  · rw [if_neg h, if_neg h', if_pos h'']
    exact ⟨trivial, rfl⟩
  · rw [if_neg h, if_neg h', if_neg h''] at hclean ⊢
    have hexposed : cfg.requireAuthReads = true := by simpa using h
    rw [← Nat.zero_add (authCalls cfg req)] at hclean ⊢
    refine meets_requireAuth_admits rfl hclean ?_
    rcases hauth hexposed with htoken | hsession
    · exact Or.inl htoken
    · obtain ⟨si, hsi⟩ := Option.isSome_iff_exists.mp hsession
      exact Or.inr ⟨si, hsi, fun hadmin => absurd hadmin Bool.false_ne_true⟩

/-- How many rows of its table the data of an extension has. -/
def extensionRows (req : Request) : Nat :=
  (if req.limitOr 200 < 1 then 1 else if 5000 < req.limitOr 200 then 5000 else req.limitOr 200).toNat

/-- At least one row is asked for. -/
theorem extensionRows_pos (req : Request) : 0 < extensionRows req := by
  unfold extensionRows
  split
  · decide
  · split
    · decide
    · omega

/-- The data of an extension whose table is that of the users. -/
def usersAsExtension (ext : ExtensionRow) (req : Request) (users : List UserRow) : Response :=
  let data := recentUsers users (extensionRows req)
  send 200 (Json.ofMembers [("extension", .str ext.name), ("label", .str ext.label),
    ("columns", .arr (data.columns.map Json.str)),
    ("rows", .arr (data.rows.map (cellsJson data.columns)))])

/-- What such a request gets is a listing of the users. -/
theorem reply_users {name : String} {ext : ExtensionRow} {isUsers : String → Prop}
    (hserves : ServesTables d.server isUsers) (hroute : route req = some (.extensionData name))
    (hweb : webFile cfg req = none)
    (hsession : cfg.requireAuthReads = true → (presentedUser d req w).isSome = true)
    (hclean : Clean (gateCalls cfg req + 3) w.dbFaults)
    (hfind : w.db.extensions.find? (fun e => d.server.same e.name name) = some ext)
    (hvalid : validIdentifier ext.dataTable = true) (hisUsers : isUsers ext.dataTable) :
    reply d cfg req w = usersAsExtension ext req w.db.users := by
  suffices h : Meets (serve d cfg req) w (fun res _ => res = usersAsExtension ext req w.db.users)
      fun _ _ => False by
    obtain ⟨res, s, hres, rfl⟩ := h.returns
    unfold reply
    rw [hres]
  unfold serve
  simp only [meets_tryCatch, meets_bind]
  refine (meets_gate_admits (fun i hi => hclean i (by omega)) fun h => Or.inr (hsession h)).mono
    (fun refusal s h => ?_) fun _ _ h => h.elim
  obtain ⟨rfl, rfl⟩ := h
  rw [hweb, hroute]
  have hempty : (ext.dataTable = "" || !validIdentifier ext.dataTable) = false := by
    rw [hvalid]
    have hne : ext.dataTable ≠ "" := by
      intro h
      rw [h] at hvalid
      exact absurd hvalid (by decide)
    simp [hne]
  show Meets (extensionData d req name) _ _ _
  unfold extensionData dbRead orError
  simp only [meets_tryCatch, meets_bind]
  refine meets_connect_answered (k := gateCalls cfg req) rfl (fun i hi => hclean i (by omega)) ?_
  rw [ask_bind, meets_bind]
  refine meets_select_answered (k := gateCalls cfg req + 1) rfl (fun i hi => hclean i (by omega)) ?_
  dsimp only [World.withFaults, admitted]
  rw [hfind]
  simp only [Option.map_some, hempty, Bool.false_eq_true, if_false]
  rw [ask_bind, meets_bind]
  unfold queryRecent
  rw [ask_bind, meets_bind]
  refine meets_select_answered (k := gateCalls cfg req + 2) rfl hclean ?_
  dsimp only [World.withFaults]
  rw [hserves.users _ _ _ hisUsers]
  rfl

/-- Another password hash. -/
def reHash (u : UserRow) : UserRow := { u with passwordHash := u.passwordHash ++ "x" }

/-- The database with other hashes. -/
def reHashed (db : Db) : Db := { db with users := db.users.map reHash }

/-- The sessions do not depend on the hashes. -/
theorem liveSession_reHashed {srv : Server} {token : String} (db : Db) (now : Int) :
    liveSession srv token ⟨reHashed db, now⟩ = liveSession srv token ⟨db, now⟩ := by
  unfold liveSession
  refine congrArg (List.findSome? · _) (funext fun x => ?_)
  have hfind : (reHashed db).users.find? (fun u => u.id = x.userId)
      = (db.users.find? fun u => u.id = x.userId).map reHash := by
    show (db.users.map reHash).find? _ = _
    rw [List.find?_map]
    rfl
  dsimp only
  rw [hfind, Option.map_map]
  rfl

/-- The two databases differ in credentials only. -/
theorem reHashed_apart (w : World) : CredentialsApart d req w { w with db := reHashed w.db } := by
  refine ⟨reHashed w.db, rfl, rfl, ⟨_, _, rfl, ?_, rfl⟩, ?_⟩
  · show (w.db.users.map reHash).map dropHash = w.db.users.map dropHash
    rw [List.map_map]
    rfl
  · unfold presentedUser
    rw [liveSession_reHashed]

/-- The newest users, with other hashes. -/
theorem recentUsers_reHash (users : List UserRow) (n : Nat) :
    (recentUsers (users.map reHash) n).rows
      = ((users.mergeSort fun a b => decide (b.id ≤ a.id)).take n).map fun u =>
        userCells (reHash u) := by
  unfold recentUsers
  dsimp only
  rw [← List.map_mergeSort (r := fun a b => decide (b.id ≤ a.id)) fun a _ b _ => rfl, ← List.map_take,
    List.map_map]
  rfl

/-- The listing shows the hashes. -/
theorem usersAsExtension_reHash {ext : ExtensionRow} {users : List UserRow} (hsome : users ≠ []) :
    usersAsExtension ext req (users.map reHash) ≠ usersAsExtension ext req users := by
  intro h
  have hrows : ∀ us, (match (usersAsExtension ext req us).content with
      | .json j => j.member? "rows"
      | _ => none) = some (Json.arr ((recentUsers us (extensionRows req)).rows.map
        (cellsJson (recentUsers us (extensionRows req)).columns))) := by
    intro us
    unfold usersAsExtension send
    dsimp only
    rw [Json.member?_ofMembers]
    rfl
  have hsame := (hrows (users.map reHash)).symm.trans (h ▸ hrows users)
  have hlist := Json.arr.inj (Option.some.inj hsame)
  rw [recentUsers_reHash, List.map_map] at hlist
  unfold recentUsers at hlist
  dsimp only at hlist
  rw [List.map_map] at hlist
  -- the first of the rows
  obtain ⟨u, hu⟩ : ∃ u,
      u ∈ (users.mergeSort fun a b => decide (b.id ≤ a.id)).take (extensionRows req) := by
    refine List.exists_mem_of_length_pos ?_
    have hlen : 0 < users.length := List.length_pos_iff.mpr hsome
    have hpos := extensionRows_pos req
    rw [List.length_take, List.length_mergeSort]
    omega
  have hcell := List.map_inj_left.mp hlist u hu
  have hhash := congrArg (Json.member? · "password_hash") hcell
  dsimp only [Function.comp, cellsJson] at hhash
  rw [Json.member?_ofMembers, Json.member?_ofMembers] at hhash
  have hlonger : u.passwordHash ++ "x" = u.passwordHash := Json.str.inj (Option.some.inj hhash)
  have hlength := congrArg String.length hlonger
  rw [String.length_append, show "x".length = 1 from rfl] at hlength
  omega

/-- A server that has the users' table, and no other by a name. -/
def usersOnly : Server :=
  { Server.plain with
    selectRecent := fun db table n => if table = "users" then some (recentUsers db.users n) else none }

/-- The server serves the one table. -/
theorem usersOnly_serves : ServesTables usersOnly (· = "users") where
  users _ _ _ h := if_pos h
  others _ _ _ _ _ h _ _ := (if_neg h).trans (if_neg h).symm

def usersDeps : Deps := { Deps.plain [] with server := usersOnly }

def asksForExtension : Request := { method := .get, path := "/api/v1/extensions/x/data" }

def extensionOn (dataTable : String) : ExtensionRow :=
  { name := "x", label := "X", dataTable, lastHeartbeat := 0 }

/-- One user, and an extension that names its table. -/
def withExtension (dataTable : String) : World where
  db :=
    { users := [{ id := 1, username := "ann", passwordHash := "h" }]
      extensions := [extensionOn dataTable] }

/-- The request has no credentials. -/
theorem asksForExtension_stranger (w : World) : ¬HasAdmin usersDeps {} asksForExtension w := by
  rintro (htoken | ⟨si, hsi, -⟩)
  · exact absurd htoken (by decide +kernel)
  · have hnone : sessionToken asksForExtension = "" := by decide +kernel
    unfold presentedUser at hsi
    rw [if_pos hnone] at hsi
    cases hsi

end NightWatcher.Api
