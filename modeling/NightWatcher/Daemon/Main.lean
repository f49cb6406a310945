import NightWatcher.Db.Database

/-!
# `main.cpp`: start, the device lists, stop

At start the daemon ensures the schema, records that it was started and seeds an
administrator into an empty users table. Its main loop reads the three device lists
and runs one worker for each pollable row; SIGHUP makes it stop all workers and start
over, and a failure to read the lists ends the daemon. At its end it records that.
-/

namespace NightWatcher.Daemon

open Throwing Database

variable (d : Deps)

/-- The administrator of an empty users table: user `admin`, password `admin`, to be
changed. A failure is logged and the daemon goes on. -/
def seedAdmin : Act Unit :=
  tryCatch (do
    ask connect
    if (← ask countUsers) = 0 then
      let salt ← draw
      createUser d.server "admin" (d.hashPassword salt "admin") "admin" true)
    fun _ => pure ()

/-- The script of `schema_file`, if one is configured and can be read. A failure is logged and
the daemon goes on. -/
def ensureSchema (schemaFile : String) (schemaText : Option String) : Act Unit :=
  if schemaFile = "" then pure ()
  else match schemaText with
    | none => pure ()
    | some text =>
      tryCatch (do
        ask connect
        runSchemaScript d.server text)
        fun _ => pure ()

/-- What the daemon writes before it serves. The event of its start is the check that the
database can be reached: if it fails, the daemon ends. -/
def startUp (schemaFile : String) (schemaText : Option String) : Act Unit := do
  ensureSchema d schemaFile schemaText
  ask connect
  insertEvent d.server "daemon" .info "started" ("nightwatcherd " ++ d.version) ""
  seedAdmin d

/-- The event of its end, best effort. -/
def shutDown : Act Unit :=
  tryCatch (do
    ask connect
    insertEvent d.server "daemon" .info "stopped" "" "")
    fun _ => pure ()

/-- The ids that have a worker. -/
structure Running where
  sensors : List String
  stations : List String
  targets : List String
deriving DecidableEq

/-- `Scheduler::start`: every transport of the schema is supported. -/
def startSensors (rows : List SensorRow) : List String := rows.map SensorRow.id

/-- `WeatherScheduler::start`: a station without a provider is skipped. -/
def startStations (rows : List WeatherStationRow) : List String :=
  (rows.filter fun s => s.provider ≠ "").map WeatherStationRow.id

/-- `ExportScheduler::start`: a target on the manual schedule is skipped. -/
def startTargets (rows : List ExportTargetRow) : List String :=
  (rows.filter fun t => t.schedule ≠ .manual).map ExportTargetRow.id

/-- One turn of the main loop: read the device lists and start the workers. -/
def loadDevices : Query Running := do
  connect
  let sensors ← activeSensors d.server
  let stations ← activeWeatherStations d.server
  let exports ← activeExportTargets d.server
  return { sensors := startSensors sensors, stations := startStations stations
           targets := startTargets exports }

/-! ## What ought to be running -/

def polledSensor (r : SensorRow) : Bool := r.status = .active

def polledStation (r : WeatherStationRow) : Bool := r.status = .active && r.provider ≠ ""

def polledTarget (r : ExportTargetRow) : Bool := r.status = .active && r.schedule ≠ .manual

/-- The ids of the pollable rows. -/
def pollable (db : Db) : Running where
  sensors := (db.sensors.filter polledSensor).map SensorRow.id
  stations := (db.weatherStations.filter polledStation).map WeatherStationRow.id
  targets := (db.exportTargets.filter polledTarget).map ExportTargetRow.id

/-- The same ids, in any order. -/
structure Running.Matches (r r' : Running) : Prop where
  sensors : r.sensors.Perm r'.sensors
  stations : r.stations.Perm r'.stations
  targets : r.targets.Perm r'.targets

/-- What the main loop starts from a state of the tables. -/
def started (db : Db) : Running where
  sensors := startSensors (d.server.orderBy SensorRow.id
    (db.sensors.filter fun r => r.status = .active))
  stations := startStations (d.server.orderBy WeatherStationRow.id
    (db.weatherStations.filter fun r => r.status = .active))
  targets := startTargets (d.server.orderBy ExportTargetRow.id
    (db.exportTargets.filter fun r => r.status = .active))

theorem started_matches (db : Db) : (started d db).Matches (pollable db) := by
  refine ⟨?_, ?_, ?_⟩
  · exact (List.mergeSort_perm _ _).map _
  · have hfilter : db.weatherStations.filter polledStation =
        (db.weatherStations.filter fun r => r.status = .active).filter fun s => s.provider ≠ "" := by
      rw [List.filter_filter]
      refine List.filter_congr fun r _ => ?_
      simp [polledStation, Bool.and_comm]
    show List.Perm _ ((db.weatherStations.filter polledStation).map _)
    rw [hfilter]
    exact ((List.mergeSort_perm _ _).filter _).map _
  · have hfilter : db.exportTargets.filter polledTarget =
        (db.exportTargets.filter fun r => r.status = .active).filter
          fun t => t.schedule ≠ .manual := by
      rw [List.filter_filter]
      refine List.filter_congr fun r _ => ?_
      simp [polledTarget, Bool.and_comm]
    show List.Perm _ ((db.exportTargets.filter polledTarget).map _)
    rw [hfilter]
    exact ((List.mergeSort_perm _ _).filter _).map _

/-- A turn of the main loop that reads its lists starts the pollable rows. -/
theorem meets_loadDevices {w : World} {Q : Running → World → Prop} {E : String → World → Prop}
    (hok : ∀ fs, Q (started d w.db) (w.withFaults fs)) (herr : ∀ e fs, E e (w.withFaults fs)) :
    Meets (ask (loadDevices d)) w Q E := by
  unfold loadDevices
  simp only [ask_bind, ask_pure, meets_bind, meets_pure]
  refine meets_ask (fun _ fs => ?_) herr
  refine meets_select (fun fs => ?_) fun fs => herr _ fs
  refine meets_select (fun fs => ?_) fun fs => herr _ fs
  exact meets_select (fun fs => hok fs) fun fs => herr _ fs

end NightWatcher.Daemon
