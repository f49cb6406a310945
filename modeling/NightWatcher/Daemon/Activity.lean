import NightWatcher.Api.MustChange
import NightWatcher.Api.Touches
import NightWatcher.Daemon.Workers
import NightWatcher.Db.Archive
import NightWatcher.Sqm.Protocol

/-!
# The daemon at work

What writes the tables is the API server, the workers of the three schedulers and
the daemon itself, when it starts and when it stops. A `Moment` is one turn of one of
them, with what the clock shows and the outside does meanwhile: a request answered, a
cycle of a worker. The turns come in any order (`next`), for any sensor, station and
target.

In every state such a run reaches the schema's constraints hold (`integrity_kept`)
and no record has been rewritten (`records_kept`). A record that is gone was deleted
by an administrator (`lost_by_deletion`).
-/

namespace NightWatcher.Daemon

open Throwing Transcript Database Sqm Weather Exporter Api

variable {d : Deps} {cfg : ApiConfig}

/-- A turn of one of the daemon's threads. -/
inductive Activity where
  | request (req : Request)
  /-- the start of the daemon -/
  | start
  /-- the end of it -/
  | stop
  /-- a cycle of the worker of a sensor -/
  | poll (s : SensorRow) (st : PollState)
  /-- a cycle of the worker of a weather station -/
  | fetch (s : WeatherStationRow) (provider : IWeatherProvider) (st : PollState)
  /-- a station whose config is refused -/
  | refuse (s : WeatherStationRow) (e : String)
  /-- the export at the end of a cycle of a target's worker -/
  | push (t : ExportTargetRow)

/-- What the daemon does in the activity. -/
def Activity.act (d : Deps) (cfg : ApiConfig) : Activity → Act Unit
  | .request req => do
    let _ ← serve d cfg req
  | .start => startUp d cfg.schemaFile cfg.schemaText
  | .stop => shutDown d
  | .poll s st => do
    let _ ← (sensorPoller d s).cycle st
  | .fetch s provider st => do
    let _ ← (weatherPoller d s provider).cycle st
  | .refuse s e => tryCatch (insertEvent d.server "weather" .error "config_error" e s.id) fun _ =>
      pure ()
  | .push t => exportOnce d t

/-- The statements a turn may make. -/
def Activity.touches (cfg : ApiConfig) : Activity → List Write
  | .request req => touchedBy cfg req
  | .start => .user :: .event :: schemaWrites cfg
  | .stop => [.event]
  | .poll _ _ => [.reading, .event]
  | .fetch _ _ _ => [.weatherReading, .event]
  | .refuse _ _ => [.event]
  | .push _ => [.exportLog, .watermark, .event]

section Turns

variable {ks : List Write}

/-- A cycle writes what its calls write. -/
theorem writes_cycle {α : Type} {p : Poller α} (hacquire : Keeps (Writes d.server ks) p.acquire)
    (hfailed : ∀ e, Keeps (Writes d.server ks) (p.readFailed e))
    (hstore : ∀ r, Keeps (Writes d.server ks) (p.store r))
    (hconnected : Keeps (Writes d.server ks) p.connected) (st : PollState) :
    Keeps (Writes d.server ks) (p.cycle st) := by
  unfold Poller.cycle
  refine keeps_bind (keeps_tryCatch (keeps_map hacquire) fun _ => keeps_pure _) fun got => ?_
  cases got with
  | error e =>
    exact keeps_ite (keeps_bind (keeps_tryCatch (hfailed e) fun _ => keeps_pure _) fun _ =>
      keeps_pure _) (keeps_pure _)
  | ok r =>
    exact keeps_tryCatch (keeps_bind (hstore r) fun _ => keeps_ite (keeps_bind hconnected fun _ =>
      keeps_pure _) (keeps_pure _)) fun _ => keeps_pure _

/-- A poll writes a reading and events at most. -/
theorem writes_pollCycle (s : SensorRow) (st : PollState) (hreading : .reading ∈ ks)
    (hevent : .event ∈ ks) : Keeps (Writes d.server ks) ((sensorPoller d s).cycle st) := by
  refine writes_cycle ?_ (fun e => writes_insertEvent hevent) (fun r => ?_)
      (writes_insertEvent hevent) st
  · exact keeps_bind (writes_outward (outward_openDevice _ _)) fun dev =>
      writes_quiet (quiet_readAveraged dev)
  · exact keeps_bind (writes_insertReading hreading) fun _ => keeps_pure _

/-- A fetch writes a weather reading and events at most. -/
theorem writes_fetchCycle (s : WeatherStationRow) (provider : IWeatherProvider) (st : PollState)
    (hreading : .weatherReading ∈ ks) (hevent : .event ∈ ks) :
    Keeps (Writes d.server ks) ((weatherPoller d s provider).cycle st) := by
  refine writes_cycle ?_ (fun e => writes_insertEvent hevent) (fun r => ?_)
      (writes_insertEvent hevent) st
  · exact keeps_bind (writes_outward (outward_fetch provider)) fun r => keeps_pure _
  · exact keeps_bind (writes_insertWeatherReading hreading) fun _ => keeps_pure _

/-- `seedAdmin` writes a user at most. -/
theorem writes_seedAdmin (huser : .user ∈ ks) : Keeps (Writes d.server ks) (seedAdmin d) := by
  refine keeps_tryCatch (keeps_bind (writes_ask _) fun _ => keeps_bind (writes_ask _) fun n =>
    keeps_ite ?_ (keeps_pure _)) fun _ => keeps_pure _
  exact keeps_bind writes_draw fun salt => writes_createUser huser

/-- The schema script writes its own statements. -/
theorem writes_ensureSchema (hschema : schemaWrites cfg ⊆ ks) :
    Keeps (Writes d.server ks) (ensureSchema d cfg.schemaFile cfg.schemaText) := by
  unfold schemaWrites at hschema
  unfold ensureSchema
  refine keeps_ite (keeps_pure _) ?_
  cases htext : cfg.schemaText with
  | none => exact keeps_pure _
  | some text =>
    rw [htext] at hschema
    have hstmts : ∀ stmt ∈ scriptStatements text, Write.schema stmt ∈ ks := fun stmt hstmt =>
      hschema (List.mem_map_of_mem hstmt)
    exact keeps_tryCatch (keeps_bind (writes_ask _) fun _ => writes_runSchemaScript hstmts)
      fun _ => keeps_pure _

/-- A turn makes no other statements. -/
theorem writes_act (a : Activity) : Keeps (Writes d.server (a.touches cfg)) (a.act d cfg) := by
  cases a with
  | request req => exact keeps_bind (writes_serve req) fun _ => keeps_pure _
  | start =>
    have hschema : schemaWrites cfg ⊆ Activity.touches cfg .start := fun k hk =>
      List.mem_cons_of_mem _ (List.mem_cons_of_mem _ hk)
    exact keeps_bind (writes_ensureSchema hschema) fun _ => keeps_bind (writes_ask _) fun _ =>
      keeps_bind (writes_insertEvent (by simp [Activity.touches])) fun _ =>
        writes_seedAdmin List.mem_cons_self
  | stop =>
    exact keeps_tryCatch (keeps_bind (writes_ask _) fun _ => writes_insertEvent List.mem_cons_self)
      fun _ => keeps_pure _
  | poll s st =>
    exact keeps_bind (writes_pollCycle s st (by simp [Activity.touches]) (by simp [Activity.touches]))
      fun _ => keeps_pure _
  | fetch s provider st =>
    exact keeps_bind (writes_fetchCycle s provider st (by simp [Activity.touches])
      (by simp [Activity.touches])) fun _ => keeps_pure _
  | refuse s e => exact keeps_tryCatch (writes_insertEvent List.mem_cons_self) fun _ => keeps_pure _
  | push t =>
    have hevent : Write.event ∈ Activity.touches cfg (.push t) := by simp [Activity.touches]
    refine keeps_tryCatch (keeps_bind (writes_runExport (by simp [Activity.touches])
      (by simp [Activity.touches]) t) fun res => ?_) fun e => ?_
    · exact keeps_ite (writes_insertEvent hevent) (keeps_pure _)
    · exact keeps_tryCatch (writes_insertEvent hevent) fun _ => keeps_pure _

end Turns

/-! ## Runs -/

/-- A turn, and what the outside does meanwhile. -/
structure Moment where
  outside : Outside := {}
  activity : Activity

/-- The world after a turn. -/
def next (d : Deps) (cfg : ApiConfig) (w : World) (m : Moment) : World :=
  endState (m.activity.act d cfg (w.facing m.outside))

/-- The schema script finds its tables there: run again, it changes nothing. -/
def SchemaInert (srv : Server) (cfg : ApiConfig) : Prop :=
  ∀ text, cfg.schemaText = some text → ∀ stmt ∈ scriptStatements text, ∀ db db',
    srv.execSchema stmt db = some db' → db' = db

/-- A schema write is a statement of the file. -/
theorem mem_schemaWrites {k : Write} (hk : k ∈ schemaWrites cfg) :
    ∃ text stmt, cfg.schemaText = some text ∧ stmt ∈ scriptStatements text ∧ k = .schema stmt := by
  unfold schemaWrites at hk
  cases htext : cfg.schemaText with
  | none => simp [htext] at hk
  | some text =>
    rw [htext, Option.map_some, Option.getD_some] at hk
    obtain ⟨stmt, hstmt, rfl⟩ := List.mem_map.mp hk
    exact ⟨text, stmt, rfl, hstmt, rfl⟩

/-- The statements of the workers and of the daemon itself, besides the schema script. -/
def workerWrites : List Write := [.user, .reading, .weatherReading, .event, .exportLog, .watermark]

/-- Any other statement is of a request, and of its route. -/
theorem touches_route {a : Activity} {k : Write} (hk : k ∈ a.touches cfg)
    (hother : k ∉ workerWrites ∧ ∀ stmt, k ≠ .schema stmt) :
    ∃ req e, a = .request req ∧ route req = some e ∧ k ∈ e.touches cfg req := by
  obtain ⟨hworker, hnot⟩ := hother
  have hnone : ∀ ks : List Write, k ∈ ks → ks ⊆ workerWrites → False := fun ks h hks =>
    hworker (hks h)
  cases a with
  | request req =>
    cases hroute : route req with
    | none => simp [Activity.touches, touchedBy, hroute] at hk
    | some e =>
      refine ⟨req, e, rfl, hroute, ?_⟩
      simpa [Activity.touches, touchedBy, hroute] using hk
  | start =>
    rcases List.mem_cons.mp hk with rfl | hk
    · exact (hworker List.mem_cons_self).elim
    rcases List.mem_cons.mp hk with rfl | hk
    · exact (hworker (by decide)).elim
    obtain ⟨_, stmt, -, -, heq⟩ := mem_schemaWrites hk
    exact (hnot stmt heq).elim
  | _ => exact (hnone _ hk (by simp [Activity.touches, workerWrites])).elim

/-- A statement of a schema script is one of the configured script. -/
theorem schemaWrites_of_touches {a : Activity} {stmt : String} (h : .schema stmt ∈ a.touches cfg) :
    .schema stmt ∈ schemaWrites cfg := by
  cases a with
  | request req =>
    cases hroute : route req with
    | none => simp [Activity.touches, touchedBy, hroute] at h
    | some e =>
      have h : Write.schema stmt ∈ e.touches cfg req := by
        simpa [Activity.touches, touchedBy, hroute] using h
      cases e <;> first | exact h | simp [Endpoint.touches] at h
  | start => simpa [Activity.touches] using h
  | _ => simp [Activity.touches] at h

/-- A statement of the schema changes nothing. -/
theorem SchemaInert.step {srv : Server} {now : Int} {db db' : Db} {stmt : String} {a : Activity}
    (h : SchemaInert srv cfg) (hmem : .schema stmt ∈ a.touches cfg)
    (hstep : Database.Step srv now db (.schema stmt) db') : db' = db := by
  obtain ⟨text, stmt', htext, hstmt, heq⟩ := mem_schemaWrites (schemaWrites_of_touches hmem)
  obtain rfl := Write.schema.inj heq
  cases hstep with
  | schema _ hexec => exact h text htext stmt hstmt db db' hexec

/-- A turn is a sequence of statements of its kinds. -/
theorem next_steps (w : World) (m : Moment) :
    Steps d.server m.outside.now (m.activity.touches cfg) w.db (next d cfg w m).db :=
  (writes_act m.activity (w.facing m.outside)).2

/-- Every activity keeps the database sound. -/
theorem integrity_next (hschema : SchemaInert d.server cfg) (w : World) (m : Moment)
    (h : Integrity d.server w.db) : Integrity d.server (next d cfg w m).db := by
  refine (next_steps w m).preserves (fun db k db' hk hstep hI => ?_) h
  refine integrity_step hstep (fun stmt heq => ?_) hI
  subst heq
  exact hschema.step hk hstep

/-- Every activity leaves an archive. -/
theorem archive_next (hschema : SchemaInert d.server cfg) (w : World) (m : Moment) :
    Archive w.db (next d cfg w m).db := by
  refine (next_steps w m).related Archive.refl Archive.trans fun db k db' hk hstep => ?_
  refine archive_step hstep fun stmt heq => ?_
  subst heq
  exact hschema.step hk hstep

/-- The schema's constraints hold in every state the daemon can reach. -/
theorem integrity_kept (hschema : SchemaInert d.server cfg) {w : World} (moments : List Moment)
    (h : Integrity d.server w.db) : Integrity d.server (run (next d cfg) w moments).db :=
  run_invariant (integrity_next hschema) h

/-- The plain server runs no statement of the schema. -/
theorem schemaInert_plain (texts : List (String × Json)) (cfg : ApiConfig) :
    SchemaInert (Deps.plain texts).server cfg := by
  intro text _ stmt _ db db' h
  exact (Option.some.inj h).symm

/-- The first start, the first login, and a schema script that is run again. -/
def firstDay : List Moment :=
  [{ activity := .start }, { activity := .request signsIn.req },
   { activity := .request { method := .post, path := "/api/v1/db/init" } }]

/-- The first day of a new daemon. -/
theorem integrity_kept_firstDay : Integrity firstDeps.server
    (run (next firstDeps { schemaFile := "schema.sql"
                           schemaText := some "CREATE TABLE IF NOT EXISTS a (b INT);" })
      {} firstDay).db :=
  integrity_kept (schemaInert_plain _ _) firstDay (integrity_empty _)

/-- Every run leaves an archive. -/
theorem archive_run (hschema : SchemaInert d.server cfg) (w : World) (moments : List Moment) :
    Archive w.db (run (next d cfg) w moments).db :=
  run_related (I := fun _ => True) (P := fun _ _ => True) (R := fun w w' : World => Archive w.db w'.db)
    (fun w => Archive.refl w.db) Archive.trans
    (fun w m _ _ => ⟨archive_next hschema w m, trivial⟩) (throughout_trivial fun _ _ => trivial) trivial

/-- Whatever the daemon did in between, an id names the same record. -/
theorem records_kept (hschema : SchemaInert d.server cfg) {w : World} (moments : List Moment)
    (h : Integrity d.server w.db) : SameRecords w.db (run (next d cfg) w moments).db :=
  (archive_run hschema w moments).sameRecords h

/-! ### A reading of the night -/

def nightReading : ReadingRow where
  id := 1
  sensorId := "S"
  tsUtc := "2024-05-01 00:00:00"
  magArcsec2 := 20
  freqHz := 1
  periodCounts := 1
  periodS := 1
  tempC := 1

def nightSensor : SensorRow := { id := "S", transport := .serial, address := "/dev/ttyUSB0" }

def nightEvent : EventRow where
  id := 1
  tsUtc := "2024-05-01 00:00:00"
  deviceId := "S"
  source := "sensor"
  event := "connected"

def nightSite : World where
  db :=
    { sensors := [nightSensor], readings := [nightReading], events := [nightEvent]
      next := { readings := 2, events := 2 } }

/-- The site whose unit is read as the protocol says. -/
def nightDeps : Deps := { firstDeps with codec := Protocol.codec }

/-- The next reading of the sensor. -/
def pollsNight : Moment where
  outside :=
    { now := 1714521900, opens := [.ok ()]
      turns := [{ answer := .ok "r, 06.70m,0000022921Hz,0000000020c,0000000.000s, 039.4C" }] }
  activity := .poll nightSensor { backoff := 5 }

/-- The tables of the site are sound. -/
theorem integrity_nightSite (srv : Server) : Integrity srv nightSite.db :=
  { integrity_empty srv with
    sensorKeys := List.nodup_singleton _
    readingTimes := List.nodup_singleton _
    readingSensors := fun r hr => by
      rw [List.mem_singleton.mp hr]
      exact List.any_eq_true.mpr ⟨nightSensor, List.mem_singleton_self _, decide_eq_true rfl⟩
    calibrationSensors := fun _ h => absurd h List.not_mem_nil
    targetSensors := fun _ h => absurd h List.not_mem_nil
    readingIds := ⟨by decide, by decide⟩
    eventIds := ⟨by decide, by decide⟩ }

/-- The site's server runs no statement of the schema. -/
theorem schemaInert_night (cfg : ApiConfig) : SchemaInert nightDeps.server cfg :=
  schemaInert_plain [] cfg

/-- A second reading is stored. -/
theorem night_readings :
    (run (next nightDeps {}) nightSite (firstDay ++ [pollsNight])).db.readings.map ReadingRow.id
      = [1, 2] := by
  decide +kernel

/-- The daemon is started and polls the sensor: there are two readings, and the first is as it was. -/
theorem records_kept_night :
    (run (next nightDeps {}) nightSite (firstDay ++ [pollsNight])).db.readings.map ReadingRow.id
        = [1, 2] ∧
      SameRecords nightSite.db (run (next nightDeps {}) nightSite (firstDay ++ [pollsNight])).db :=
  ⟨night_readings, records_kept (schemaInert_night _) _ (integrity_nightSite _)⟩

/-! ## What is lost -/

/-- An administrator's request of this route. -/
def AdminRequest (d : Deps) (cfg : ApiConfig) (e : Endpoint) (req : Request) (w : World)
    (m : Moment) : Prop :=
  m.activity = .request req ∧ route req = some e ∧ HasAdmin d cfg req (w.facing m.outside)

/-- A turn after which something no longer holds made a statement that ended it. -/
theorem next_loses (hschema : SchemaInert d.server cfg) {Q : Db → Prop} {w : World} {m : Moment}
    (hQ : Q w.db) (hlost : ¬Q (next d cfg w m).db) :
    ∃ k ∈ m.activity.touches cfg, (∀ stmt, k ≠ .schema stmt) ∧
      ∃ db db', Database.Step d.server m.outside.now db k db' ∧ Q db ∧ ¬Q db' := by
  obtain ⟨k, hk, db, db', hstep, hdb, hdb'⟩ := (next_steps w m).loses hQ hlost
  refine ⟨k, hk, fun stmt heq => hdb' ?_, db, db', hstep, hdb, hdb'⟩
  subst heq
  rw [hschema.step hk hstep]
  exact hdb

/-- The activity of a request is its whole handling. -/
theorem next_request {w : World} {m : Moment} {req : Request} (h : m.activity = .request req) :
    next d cfg w m = endState (serve d cfg req (w.facing m.outside)) := by
  unfold next
  rw [h]
  exact endState_bind_pure _ _ _

/-- A request of a writing route changes nothing unless an administrator sent it. -/
theorem quiet_or_admin (d : Deps) (cfg : ApiConfig) {req : Request} {e : Endpoint} {w : World}
    (hroute : route req = some e)
    (hwrites : e.writes req = true) :
    IsQuiet w (endState (serve d cfg req w)) ∨ HasAdmin d cfg req w := by
  refine Meets.endState (P := fun w' => IsQuiet w w' ∨ HasAdmin d cfg req w) ?_
  have hquiet : ∀ fs, IsQuiet w (w.withFaults fs) := fun fs => quiet_ignoresFaults w fs
  unfold serve
  simp only [meets_tryCatch, meets_bind, meets_pure]
  refine meets_gate (fun fs => ?_) fun _ _ fs => Or.inl (hquiet fs)
  cases webFile cfg req with
  | some res => exact Or.inl (hquiet fs)
  | none =>
    simp only [hroute]
    have hadmin : ∀ k : Act Response, Meets (adminOnly d cfg req k) (w.withFaults fs)
        (fun _ w' => IsQuiet w w' ∨ HasAdmin d cfg req w) fun _ w' => IsQuiet w w' ∨
            HasAdmin d cfg req w :=
      fun k => meets_adminOnly
        (fun _ h => meets_always (fun _ _ => Or.inr h) fun _ _ => Or.inr h)
        fun _ fs' => Or.inl (hquiet fs')
    cases e with
    | version | health | events | dbStatus | extensions | extensionData | discover | discoverUsb
    | listSensors | getSensor | sensorReadings | sensorDsn | getCalibration | calibrationHistory
    | listWeatherStations | getWeatherStation | weatherStationReadings | listExportTargets
    | getExportTarget | exportTargetLog | me | getSettings | listUsers | testSensor | login | logout
    | mePassword => cases hwrites
    | _ => exact hadmin _

/-- What a request of a writing route changes, an administrator ordered. -/
theorem ordered_of_changed {w : World} {m : Moment} {req : Request} {e : Endpoint}
    (hactivity : m.activity = .request req) (hroute : route req = some e)
    (hwrites : e.writes req = true)
    {Q : Db → Prop} (hQ : Q w.db) (hlost : ¬Q (next d cfg w m).db) : AdminRequest d cfg e req w m := by
  refine ⟨hactivity, hroute, ?_⟩
  rcases quiet_or_admin d cfg (w := w.facing m.outside) hroute hwrites with h | h
  · rw [next_request hactivity, h.db] at hlost
    exact absurd hQ hlost
  · exact h

/-- The route of each statement that takes rows away or opens a session. -/
theorem route_of_touches {req : Request} {e : Endpoint} {k : Write} (hk : k ∈ e.touches cfg req) :
    (∀ id, k = .sensorGone id → e = .deleteSensor id) ∧
    (∀ id before, k = .readingsGone id before → e = .deleteReadings id ∧ before = req.param "before") ∧
    (∀ id, k = .stationGone id → e = .deleteWeatherStation id) ∧
    (∀ name, k = .userGone name → e = .deleteUser name) ∧
    (∀ ttl, k = .session ttl → e = .login ∧ ttl = sessionTtl) ∧
    ∀ token, k = .sessionGone token → e = .logout ∧ token = sessionToken req := by
  cases e
  case dbInit =>
    obtain ⟨_, stmt, -, -, rfl⟩ := mem_schemaWrites hk
    simp
  case runExportTarget id =>
    rcases List.mem_pair.mp hk with rfl | rfl <;> simp
  all_goals simp_all [Endpoint.touches]

/-- An administrator's deletion that takes this reading. -/
def DeletesReading (d : Deps) (cfg : ApiConfig) (r : ReadingRow) (w : World) (m : Moment) : Prop :=
  ∃ req id, d.server.same r.sensorId id = true ∧
    (AdminRequest d cfg (.deleteSensor id) req w m ∨
      AdminRequest d cfg (.deleteReadings id) req w m ∧
        ∃ bound, d.server.datetime (req.param "before") = some bound ∧ r.tsUtc < bound)

/-- The request deletes the sensor of the row. -/
def DeletesCalibration (d : Deps) (cfg : ApiConfig) (r : ConfigLogRow) (w : World)
    (m : Moment) : Prop :=
  ∃ req id, d.server.same r.sensorId id = true ∧ AdminRequest d cfg (.deleteSensor id) req w m

/-- The request deletes the station of the row. -/
def DeletesWeatherReading (d : Deps) (cfg : ApiConfig) (r : WeatherReadingRow) (w : World)
    (m : Moment) :
    Prop :=
  ∃ req id, d.server.same r.stationId id = true ∧ AdminRequest d cfg (.deleteWeatherStation id) req w m

/-- The request deletes the user by name. -/
def DeletesUser (d : Deps) (cfg : ApiConfig) (u : UserRow) (w : World) (m : Moment) : Prop :=
  ∃ req name, d.server.same u.username name = true ∧ AdminRequest d cfg (.deleteUser name) req w m

section Losses

variable {w : World} {m : Moment}

/-- An activity that loses a reading is a request that deletes it. -/
theorem next_loses_reading (hschema : SchemaInert d.server cfg) {r : ReadingRow}
    (hr : r ∈ w.db.readings) (hgone : r ∉ (next d cfg w m).db.readings) : DeletesReading d cfg r
        w m := by
  obtain ⟨k, hk, hnot, db, db', hstep, hin, hout⟩ :=
    next_loses hschema (Q := (r ∈ Db.readings ·)) hr hgone
  rcases hstep.loses_reading hnot hin hout with
    ⟨id, rfl, hsame⟩ | ⟨id, before, bound, rfl, hsame, hbound, hlt⟩
  · obtain ⟨req, e, hactivity, hroute, hmem⟩ := touches_route hk (by simp [workerWrites])
    obtain rfl := (route_of_touches hmem).1 id rfl
    have hordered := ordered_of_changed hactivity hroute rfl (Q := (r ∈ Db.readings ·)) hr hgone
    exact ⟨req, id, hsame, Or.inl hordered⟩
  · obtain ⟨req, e, hactivity, hroute, hmem⟩ := touches_route hk (by simp [workerWrites])
    obtain ⟨rfl, rfl⟩ := (route_of_touches hmem).2.1 id before rfl
    have hordered := ordered_of_changed hactivity hroute rfl (Q := (r ∈ Db.readings ·)) hr hgone
    exact ⟨req, id, hsame, Or.inr ⟨hordered, bound, hbound, hlt⟩⟩

/-- An activity that loses a calibration log row is a request that deletes it. -/
theorem next_loses_calibration (hschema : SchemaInert d.server cfg) {r : ConfigLogRow}
    (hr : r ∈ w.db.configLog) (hgone : r ∉ (next d cfg w m).db.configLog) :
    DeletesCalibration d cfg r w m := by
  obtain ⟨k, hk, hnot, db, db', hstep, hin, hout⟩ :=
    next_loses hschema (Q := (r ∈ Db.configLog ·)) hr hgone
  obtain ⟨id, rfl, hsame⟩ := hstep.loses_calibration hnot hin hout
  obtain ⟨req, e, hactivity, hroute, hmem⟩ := touches_route hk (by simp [workerWrites])
  obtain rfl := (route_of_touches hmem).1 id rfl
  exact ⟨req, id, hsame, ordered_of_changed hactivity hroute rfl (Q := (r ∈ Db.configLog ·)) hr hgone⟩

/-- An activity that loses a weather reading is a request that deletes it. -/
theorem next_loses_weatherReading (hschema : SchemaInert d.server cfg) {r : WeatherReadingRow}
    (hr : r ∈ w.db.weatherReadings) (hgone : r ∉ (next d cfg w m).db.weatherReadings) :
    DeletesWeatherReading d cfg r w m := by
  obtain ⟨k, hk, hnot, db, db', hstep, hin, hout⟩ :=
    next_loses hschema (Q := (r ∈ Db.weatherReadings ·)) hr hgone
  obtain ⟨id, rfl, hsame⟩ := hstep.loses_weatherReading hnot hin hout
  obtain ⟨req, e, hactivity, hroute, hmem⟩ := touches_route hk (by simp [workerWrites])
  obtain rfl := (route_of_touches hmem).2.2.1 id rfl
  exact ⟨req, id, hsame,
    ordered_of_changed hactivity hroute rfl (Q := (r ∈ Db.weatherReadings ·)) hr hgone⟩

/-- An activity that loses an account is a request that deletes it. -/
theorem next_loses_account (hschema : SchemaInert d.server cfg) {u : UserRow}
    (hu : account u ∈ w.db.users.map account)
    (hgone : account u ∉ (next d cfg w m).db.users.map account) : DeletesUser d cfg u w m := by
  obtain ⟨k, hk, hnot, db, db', hstep, hin, hout⟩ :=
    next_loses hschema (Q := fun db => account u ∈ db.users.map account) hu hgone
  obtain ⟨name, rfl, hsame⟩ := hstep.loses_account hnot hin hout
  obtain ⟨req, e, hactivity, hroute, hmem⟩ := touches_route hk (by simp [workerWrites])
  obtain rfl := (route_of_touches hmem).2.2.2.1 name rfl
  exact ⟨req, name, hsame,
    ordered_of_changed hactivity hroute rfl (Q := fun db => account u ∈ db.users.map account) hu hgone⟩

/-- What was so and no longer is, some turn ended. -/
theorem run_loses {Q : Db → Prop} {E : World → Moment → Prop} {moments : List Moment}
    (hstep : ∀ w m, Q w.db → ¬Q (next d cfg w m).db → E w m) (hQ : Q w.db)
    (hlost : ¬Q (run (next d cfg) w moments).db) : Sometime (next d cfg) E w moments := by
  have horigin : ¬Q w.db ∨ Sometime (next d cfg) E w moments :=
    run_origin (P := fun _ _ => True) (I := fun _ : World => True) (Q := fun w : World => ¬Q w.db)
      (fun w m _ _ => ⟨fun hnot => (em (Q w.db)).elim (fun h => Or.inr (hstep w m h hnot)) Or.inl,
          trivial⟩)
      (throughout_trivial fun _ _ => trivial) trivial hlost
  exact horigin.resolve_left fun hnot => hnot hQ

/-- A record or an account that is gone was deleted by an administrator: a reading with its sensor
or with all the sensor's readings before a later time, a calibration with its sensor, a
weather reading with its station. -/
theorem lost_by_deletion (hschema : SchemaInert d.server cfg) (w : World) (moments : List Moment) :
    (∀ r ∈ w.db.readings, r ∉ (run (next d cfg) w moments).db.readings →
      Sometime (next d cfg) (DeletesReading d cfg r) w moments) ∧
    (∀ r ∈ w.db.configLog, r ∉ (run (next d cfg) w moments).db.configLog →
      Sometime (next d cfg) (DeletesCalibration d cfg r) w moments) ∧
    (∀ r ∈ w.db.weatherReadings, r ∉ (run (next d cfg) w moments).db.weatherReadings →
      Sometime (next d cfg) (DeletesWeatherReading d cfg r) w moments) ∧
    ∀ u ∈ w.db.users, account u ∉ (run (next d cfg) w moments).db.users.map account →
      Sometime (next d cfg) (DeletesUser d cfg u) w moments := by
  refine ⟨fun r hr => ?_, fun r hr => ?_, fun r hr => ?_, fun u hu => ?_⟩
  · exact run_loses (Q := (r ∈ Db.readings ·)) (fun _ _ => next_loses_reading hschema) hr
  · exact run_loses (Q := (r ∈ Db.configLog ·)) (fun _ _ => next_loses_calibration hschema) hr
  · exact run_loses (Q := (r ∈ Db.weatherReadings ·)) (fun _ _ => next_loses_weatherReading hschema) hr
  · exact run_loses (Q := fun db => account u ∈ db.users.map account)
      (fun _ _ => next_loses_account hschema) (List.mem_map_of_mem hu)

end Losses

/-! ### An administrator clears the readings of a year -/

def clearsReadings : Moment where
  activity := .request
    { method := .delete, path := "/api/v1/sensors/S/readings", params := [("before", "2025-01-01")]
      headers := [("Authorization", "Bearer key")] }

/-- The deletion of the night's readings, as a client asks for it. -/
theorem lost_by_deletion_night :
    Sometime (next (Deps.plain []) { token := "key" })
      (DeletesReading (Deps.plain []) { token := "key" } nightReading) nightSite [clearsReadings] :=
  (lost_by_deletion (schemaInert_plain [] { token := "key" }) nightSite [clearsReadings]).1 nightReading
    (by decide +kernel) (by decide +kernel)

end NightWatcher.Daemon
