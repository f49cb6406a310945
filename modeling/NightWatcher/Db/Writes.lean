import Mathlib.Logic.Relation
import Mathlib.Data.List.Forall2
import NightWatcher.Db.Database

/-!
# The database as a state machine

Everything the daemon does to its tables it does with the statements of
`database.cpp`, one at a time. `Step` says once what each kind of statement does
to the tables: which rows come, go or change, and what the server checked before
it let the statement through. `Writes srv ks` is the frame of a routine that makes
statements of the kinds `ks` only, however it ends, and there is one lemma for
each method of `Database`. What holds of the tables in every state the daemon can
reach is then read off the steps, not off the methods.
-/

namespace NightWatcher.Database

open Throwing TimeUtil

/-! ## Kinds of statements -/

/-- The statements that change a table, a deletion with what it deletes by and a session with
its time to live. -/
inductive Write where
  | sensor | sensorGone (id : String)
  | event | reading | readingsGone (sensorId before : String) | calibration
  | station | stationGone (id : String) | weatherReading
  | target | targetGone (id : String) | watermark | exportLog
  | setting | schema (stmt : String)
  | user | password | userGone (name : String)
  | session (ttl : Int) | sessionGone (token : String)
deriving DecidableEq

/-- A table after an UPDATE or an upsert: every row is as it was or an edit of what it was,
or there is one more row, of a new key. -/
inductive Edited {ρ : Type} (srv : Server) (key : ρ → String) (Edit : ρ → ρ → Prop)
    (Fresh : ρ → Prop) (rows : List ρ) : List ρ → Prop
  | updated {rows' : List ρ} (h : List.Forall₂ (fun r r' => r' = r ∨ Edit r r') rows rows') :
    Edited srv key Edit Fresh rows rows'
  | appended (row : ρ) (hnew : rows.any (fun r => srv.same (key r) (key row)) = false)
    (hrow : Fresh row) : Edited srv key Edit Fresh rows (rows ++ [row])

/-- What an edit of a sensor leaves. -/
def SensorEdit (r r' : SensorRow) : Prop := r'.id = r.id ∧ r'.createdAt = r.createdAt

/-- An edit of a station keeps its id and when it was created. -/
def StationEdit (r r' : WeatherStationRow) : Prop := r'.id = r.id ∧ r'.createdAt = r.createdAt

/-- The foreign key of a row on its sensor. -/
def HasSensor (srv : Server) (db : Db) (sensorId : String) : Prop :=
  db.sensors.any (fun x => srv.same x.id sensorId) = true

/-- There is a station of this id. -/
def HasStation (srv : Server) (db : Db) (stationId : String) : Prop :=
  db.weatherStations.any (fun x => srv.same x.id stationId) = true

/-- An edit of an export target leaves its key and its watermark, and may move it to another
sensor. -/
structure TargetEdit (srv : Server) (db : Db) (r r' : ExportTargetRow) : Prop where
  id : r'.id = r.id
  createdAt : r'.createdAt = r.createdAt
  watermark : r'.lastExportTs = r.lastExportTs
  sensor : HasSensor srv db r'.sensorId

/-- The targets of one id with another watermark. -/
def withWatermark (srv : Server) (id ts : String)
    (rows : List ExportTargetRow) : List ExportTargetRow :=
  rows.map fun r => if srv.same r.id id then { r with lastExportTs := ts } else r

/-- The users of one name with another password. -/
def withPassword (srv : Server) (username hash : String) (flag : Bool) (users : List UserRow) :
    List UserRow :=
  users.map fun u =>
    if srv.same u.username username then { u with passwordHash := hash, mustChangePassword := flag }
    else u

/-- What one statement of the daemon does to the tables, at a time `now` of the server. -/
inductive Step (srv : Server) (now : Int) (db : Db) : Write → Db → Prop
  | sensor {rows : List SensorRow}
    (h : Edited srv SensorRow.id SensorEdit (fun _ => True) db.sensors rows) :
    Step srv now db .sensor { db with sensors := rows }
  | sensorGone (id : String) :
    Step srv now db (.sensorGone id) { db with
      sensors := db.sensors.filter fun r => !srv.same r.id id
      readings := db.readings.filter fun r => !srv.same r.sensorId id
      configLog := db.configLog.filter fun r => !srv.same r.sensorId id
      exportTargets := db.exportTargets.filter fun r => !srv.same r.sensorId id }
  | event (row : EventRow) (hid : row.id = db.next.events) (hts : row.tsUtc = fmtSqlUtc now) :
    Step srv now db .event { db with
      events := db.events ++ [row], next := { db.next with events := db.next.events + 1 } }
  | reading (row : ReadingRow) (hid : row.id = db.next.readings)
        (hsensor : HasSensor srv db row.sensorId)
    (hnew : db.readings.any
      (fun x => srv.same x.sensorId row.sensorId && decide (x.tsUtc = row.tsUtc)) = false) :
    Step srv now db .reading { db with
      readings := db.readings ++ [row], next := { db.next with readings := db.next.readings + 1 } }
  | readingDropped :
    Step srv now db .reading { db with next := { db.next with readings := db.next.readings + 1 } }
  | readingsGone (sensorId before bound : String) (hbound : srv.datetime before = some bound) :
    Step srv now db (.readingsGone sensorId before) { db with
      readings := db.readings.filter fun r =>
        !(srv.same r.sensorId sensorId && decide (r.tsUtc < bound)) }
  | calibration (row : ConfigLogRow) (hid : row.id = db.next.configLog)
    (hsensor : HasSensor srv db row.sensorId) :
    Step srv now db .calibration { db with
      configLog := db.configLog ++ [row], next := { db.next with configLog := db.next.configLog + 1 } }
  | station {rows : List WeatherStationRow}
    (h : Edited srv WeatherStationRow.id StationEdit (fun _ => True) db.weatherStations rows) :
    Step srv now db .station { db with weatherStations := rows }
  | stationGone (id : String) :
    Step srv now db (.stationGone id) { db with
      weatherStations := db.weatherStations.filter fun r => !srv.same r.id id
      weatherReadings := db.weatherReadings.filter fun r => !srv.same r.stationId id }
  | weatherReading (row : WeatherReadingRow) (hid : row.id = db.next.weatherReadings)
    (hstation : HasStation srv db row.stationId)
    (hnew : db.weatherReadings.any
      (fun x => srv.same x.stationId row.stationId && decide (x.tsUtc = row.tsUtc)) = false) :
    Step srv now db .weatherReading { db with
      weatherReadings := db.weatherReadings ++ [row]
      next := { db.next with weatherReadings := db.next.weatherReadings + 1 } }
  | weatherReadingDropped :
    Step srv now db .weatherReading
      { db with next := { db.next with weatherReadings := db.next.weatherReadings + 1 } }
  | target {rows : List ExportTargetRow}
    (h : Edited srv ExportTargetRow.id (TargetEdit srv db)
      (fun r => HasSensor srv db r.sensorId ∧ r.lastExportTs = "") db.exportTargets rows) :
    Step srv now db .target { db with exportTargets := rows }
  | targetGone (id : String) :
    Step srv now db (.targetGone id)
      { db with exportTargets := db.exportTargets.filter fun r => !srv.same r.id id }
  | watermark (id ts : String) :
    Step srv now db .watermark { db with exportTargets := withWatermark srv id ts db.exportTargets }
  | exportLog (row : ExportLogRow) (hid : row.id = db.next.exportLog) :
    Step srv now db .exportLog { db with
      exportLog := db.exportLog ++ [row], next := { db.next with exportLog := db.next.exportLog + 1 } }
  | setting {rows : List (String × String)}
    (h : Edited srv Prod.fst (fun kv kv' => kv'.1 = kv.1) (fun _ => True) db.settings rows) :
    Step srv now db .setting { db with settings := rows }
  | schema (stmt : String) {db' : Db} (h : srv.execSchema stmt db = some db') :
    Step srv now db (.schema stmt) db'
  | user (row : UserRow) (hid : row.id = db.next.users)
    (hnew : db.users.any (fun u => srv.same u.username row.username) = false) :
    Step srv now db .user { db with
      users := db.users ++ [row], next := { db.next with users := db.next.users + 1 } }
  | password (username hash : String) (flag : Bool) :
    Step srv now db .password { db with users := withPassword srv username hash flag db.users }
  | userGone (name : String) :
    Step srv now db (.userGone name) { db with
      users := db.users.filter fun u => !srv.same u.username name
      sessions := db.sessions.filter fun x =>
        !(db.users.filter fun u => srv.same u.username name).any fun u => u.id = x.userId }
  | session (row : SessionRow) (ttl : Int) (hexpires : row.expiresAt = now + ttl)
    (hnew : db.sessions.any (fun x => srv.same x.token row.token) = false)
    (huser : db.users.any (fun u => u.id = row.userId) = true) :
    Step srv now db (.session ttl) { db with sessions := db.sessions ++ [row] }
  | sessionGone (token : String) :
    Step srv now db (.sessionGone token)
      { db with sessions := db.sessions.filter fun x => !srv.same x.token token }

/-- Statements of the given kinds, one after the other. -/
def Steps (srv : Server) (now : Int) (ks : List Write) : Db → Db → Prop :=
  Relation.ReflTransGen fun db db' => ∃ k ∈ ks, Step srv now db k db'

/-- The frame of a routine that makes statements of these kinds only. -/
def Writes (srv : Server) (ks : List Write) : Frame World where
  rel w w' := w'.now = w.now ∧ Steps srv w.now ks w.db w'.db
  refl _ := ⟨rfl, .refl⟩
  trans h h' := ⟨h'.1.trans h.1, h.2.trans (h.1 ▸ h'.2)⟩

section Frames

variable {srv : Server} {ks : List Write} {α : Type}

/-- Writes of some kinds are writes of more kinds. -/
theorem Steps.weaken {now : Int} {ks' : List Write} {db db' : Db} (h : Steps srv now ks db db')
    (hks : ks ⊆ ks') : Steps srv now ks' db db' :=
  Relation.ReflTransGen.mono (fun _ _ ⟨k, hk, hstep⟩ => ⟨k, hks hk, hstep⟩) _ _ h

/-- What every step of the kinds preserves, the steps together preserve. -/
theorem Steps.preserves {now : Int} {P : Db → Prop} {db db' : Db} (h : Steps srv now ks db db')
    (step : ∀ db k db', k ∈ ks → Step srv now db k db' → P db → P db') (hP : P db) : P db' := by
  induction h with
  | refl => exact hP
  | tail _ hlast ih =>
    obtain ⟨k, hk, hstep⟩ := hlast
    exact step _ k _ hk hstep ih

/-- A reflexive and transitive relation that every step of the kinds is in. -/
theorem Steps.related {now : Int} {R : Db → Db → Prop} {db db' : Db} (h : Steps srv now ks db db')
    (hrefl : ∀ db, R db db) (htrans : ∀ {a b c}, R a b → R b c → R a c)
    (step : ∀ db k db', k ∈ ks → Step srv now db k db' → R db db') : R db db' := by
  induction h with
  | refl => exact hrefl db
  | tail _ hlast ih =>
    obtain ⟨k, hk, hstep⟩ := hlast
    exact htrans ih (step _ k _ hk hstep)

/-- Steps after which something no longer holds include one after which it no longer holds. -/
theorem Steps.loses {now : Int} {Q : Db → Prop} {db db' : Db} (h : Steps srv now ks db db')
    (hQ : Q db) (hlost : ¬Q db') : ∃ k ∈ ks, ∃ db₁ db₂, Step srv now db₁ k db₂ ∧ Q db₁ ∧ ¬Q db₂ := by
  by_contra hnone
  refine hlost (h.preserves (fun db₁ k db₂ hk hstep hQ₁ => ?_) hQ)
  by_contra hQ₂
  exact hnone ⟨k, hk, db₁, db₂, hstep, hQ₁, hQ₂⟩

/-- A call that fails writes nothing. -/
theorem writes_ignoresFaults : IgnoresFaults (Writes srv ks) := fun _ _ => ⟨rfl, .refl⟩

/-- A routine that leaves the tables and the clock writes nothing. -/
theorem writes_of_same {x : Act α} (h : Keeps (Frame.same fun w : World => (w.db, w.now)) x) :
    Keeps (Writes srv ks) x := by
  refine h.weaken fun w w' hsame => ?_
  obtain ⟨hdb, hnow⟩ := Prod.mk.inj hsame
  exact ⟨hnow, hdb ▸ .refl⟩

/-- A query writes nothing. -/
theorem writes_ask (q : Query α) : Keeps (Writes srv ks) (ask q) := keeps_ask writes_ignoresFaults q

/-- A statement is a step of its kind. -/
theorem writes_statement {f : Snapshot → Option (α × Db)} {k : Write} (hk : k ∈ ks)
    (hf : ∀ s a db', f s = some (a, db') → Step srv s.now s.db k db') :
    Keeps (Writes srv ks) (statement f) :=
  keeps_statement writes_ignoresFaults fun w a db' h =>
    ⟨rfl, .single ⟨k, hk, hf ⟨w.db, w.now⟩ a db' h⟩⟩

end Frames

/-! ## Edited tables -/

section Edits

variable {ρ : Type} {srv : Server} {key : ρ → String} {Edit : ρ → ρ → Prop} {Fresh : ρ → Prop}
  {p : ρ → Bool} {assign : ρ → Option ρ} {rows rows' : List ρ}

/-- An update edits some rows and leaves the others. -/
theorem edited_updateWhere (h : updateWhere p assign rows = some rows')
    (hedit : ∀ r r', assign r = some r' → Edit r r') :
    List.Forall₂ (fun r r' => r' = r ∨ Edit r r') rows rows' := by
  induction rows generalizing rows' with
  | nil =>
    cases h
    exact .nil
  | cons r rows ih =>
    unfold updateWhere at h
    by_cases hp : p r = true
    · rw [if_pos hp] at h
      obtain ⟨r', hr', h⟩ := Option.bind_eq_some_iff.mp h
      obtain ⟨rest', hrest', h⟩ := Option.bind_eq_some_iff.mp h
      cases h
      exact .cons (Or.inr (hedit r r' hr')) (ih hrest')
    · rw [if_neg hp] at h
      obtain ⟨r', hr', h⟩ := Option.bind_eq_some_iff.mp h
      obtain ⟨rest', hrest', h⟩ := Option.bind_eq_some_iff.mp h
      cases h
      exact .cons (Or.inl (Option.some.inj hr').symm) (ih hrest')

/-- An upsert by key edits the row of the key, or appends one. -/
theorem edited_upsertRow {fresh : ρ} {noUpdates : Bool} {id : String}
    (h : upsertRow (fun r => srv.same (key r) id) fresh noUpdates assign rows = some rows')
    (hedit : ∀ r r', assign r = some r' → Edit r r')
    (hfresh : ∀ r', assign fresh = some r' → key r' = id ∧ Fresh r') :
    Edited srv key Edit Fresh rows rows' := by
  unfold upsertRow at h
  by_cases hany : rows.any (fun r => srv.same (key r) id) = true
  · rw [if_pos hany] at h
    cases noUpdates with
    | true => cases h
    | false => exact .updated (edited_updateWhere h hedit)
  · rw [if_neg hany] at h
    obtain ⟨r', hr', rfl⟩ := Option.map_eq_some_iff.mp h
    obtain ⟨hkey, hrow⟩ := hfresh r' hr'
    refine .appended r' ?_ hrow
    rw [hkey]
    exact Bool.eq_false_iff.mpr hany

end Edits

/-! ## One lemma for each method -/

section Methods

variable {srv : Server} {ks : List Write}

/-- What a request gives of a sensor is an edit of it. -/
theorem assignSensor_edit {f : SensorFields} {r r' : SensorRow} (h : assignSensor srv f r = some r') :
    SensorEdit r r' := by
  unfold assignSensor at h
  iterate 13 obtain ⟨_, -, h⟩ := Option.bind_eq_some_iff.mp h
  cases h
  exact ⟨rfl, rfl⟩

/-- `upsert_sensor` adds a sensor or edits it. -/
theorem writes_upsertSensor {id : String} {f : SensorFields} (hk : .sensor ∈ ks) :
    Keeps (Writes srv ks) (upsertSensor srv id f) := by
  refine writes_statement hk fun s a db' h => ?_
  simp only [Option.bind_eq_bind, Option.bind_eq_some_iff, Option.pure_def, Option.some.injEq,
    Prod.mk.injEq] at h
  obtain ⟨-, -, id', -, rows, hrows, -, rfl⟩ := h
  refine .sensor (edited_upsertRow hrows (fun r r' hr => assignSensor_edit hr) fun r' hr => ?_)
  exact ⟨(assignSensor_edit hr).1, trivial⟩

/-- `update_sensor` edits one that is there. -/
theorem writes_updateSensor {id : String} {f : SensorFields} (hk : .sensor ∈ ks) :
    Keeps (Writes srv ks) (updateSensor srv id f) := by
  refine keeps_bind (writes_ask _) fun found => keeps_ite (keeps_pure _) (keeps_ite (keeps_pure _) ?_)
  refine keeps_bind (writes_statement hk fun s a db' h => ?_) fun _ => keeps_pure _
  simp only [Option.bind_eq_bind, Option.bind_eq_some_iff, Option.pure_def, Option.some.injEq,
    Prod.mk.injEq] at h
  obtain ⟨rows, hrows, -, rfl⟩ := h
  exact .sensor (.updated (edited_updateWhere hrows fun r r' hr => assignSensor_edit hr))

/-- `remove_sensor` takes it with what refers to it. -/
theorem writes_removeSensor {id : String} (hk : .sensorGone id ∈ ks) :
    Keeps (Writes srv ks) (removeSensor srv id) := by
  refine writes_statement hk fun s a db' h => ?_
  cases h
  exact .sensorGone id

/-- `insert_event` adds an event. -/
theorem writes_insertEvent {source event detail deviceId : String} {level : Level}
    (hk : .event ∈ ks) :
    Keeps (Writes srv ks) (insertEvent srv source level event detail deviceId) := by
  refine writes_statement hk fun s a db' h => ?_
  simp only [Option.bind_eq_bind, Option.bind_eq_some_iff, Option.pure_def, Option.some.injEq,
    Prod.mk.injEq] at h
  obtain ⟨_, -, _, -, _, -, _, -, -, rfl⟩ := h
  exact .event _ rfl rfl

/-- `insert_reading` adds a reading of a sensor that is there, at a time it has none of, or
nothing. -/
theorem writes_insertReading {sensorId tsUtc : String} {r : Reading} {source : Source}
    {quality : Quality} (hk : .reading ∈ ks) :
    Keeps (Writes srv ks) (insertReading srv sensorId r tsUtc source quality) := by
  refine writes_statement hk fun s a db' h => ?_
  dsimp only at h
  split at h
  · cases h
    exact .readingDropped
  next hkept =>
    cases h
    simp only [Bool.or_eq_true, not_or, Bool.not_eq_true', Bool.not_eq_false, Bool.not_eq_true] at hkept
    exact .reading _ rfl hkept.2 hkept.1

/-- `delete_readings_before` takes the readings of one sensor before a time. -/
theorem writes_deleteReadingsBefore {sensorId tsUtc : String}
    (hk : .readingsGone sensorId tsUtc ∈ ks) :
    Keeps (Writes srv ks) (deleteReadingsBefore srv sensorId tsUtc) := by
  refine writes_statement hk fun s a db' h => ?_
  obtain ⟨bound, hbound, h⟩ := Option.bind_eq_some_iff.mp h
  cases h
  exact .readingsGone sensorId tsUtc bound hbound

/-- `insert_calibration` adds a calibration of a sensor that is there. -/
theorem writes_insertCalibration {sensorId tsUtc changedBy note : String} {c : Calibration}
    {eventType : EventType} (hk : .calibration ∈ ks) :
    Keeps (Writes srv ks) (insertCalibration srv sensorId c tsUtc eventType changedBy note) := by
  refine writes_statement hk fun s a db' h => ?_
  simp only [Option.bind_eq_bind, Option.bind_eq_some_iff, Option.pure_def, Option.some.injEq,
    Prod.mk.injEq, Option.guard_eq_some'] at h
  obtain ⟨_, -, _, hsensor, _, -, _, -, _, -, _, -, _, -, _, -, _, -, _, -, _, -, -, rfl⟩ := h
  exact .calibration _ rfl hsensor

/-- What a request gives of a station is an edit of it. -/
theorem assignWeatherStation_edit {f : WeatherStationFields} {r r' : WeatherStationRow}
    (h : assignWeatherStation srv f r = some r') : StationEdit r r' := by
  unfold assignWeatherStation at h
  iterate 14 obtain ⟨_, -, h⟩ := Option.bind_eq_some_iff.mp h
  cases h
  exact ⟨rfl, rfl⟩

/-- `upsert_weather_station` adds a station or edits it. -/
theorem writes_upsertWeatherStation {id : String} {f : WeatherStationFields} (hk : .station ∈ ks) :
    Keeps (Writes srv ks) (upsertWeatherStation srv id f) := by
  refine writes_statement hk fun s a db' h => ?_
  simp only [Option.bind_eq_bind, Option.bind_eq_some_iff, Option.pure_def, Option.some.injEq,
    Prod.mk.injEq] at h
  obtain ⟨id', -, rows, hrows, -, rfl⟩ := h
  refine .station (edited_upsertRow hrows (fun r r' hr => assignWeatherStation_edit hr) fun r' hr => ?_)
  exact ⟨(assignWeatherStation_edit hr).1, trivial⟩

/-- `update_weather_station` edits one that is there. -/
theorem writes_updateWeatherStation {id : String} {f : WeatherStationFields} (hk : .station ∈ ks) :
    Keeps (Writes srv ks) (updateWeatherStation srv id f) := by
  refine keeps_bind (writes_ask _) fun found => keeps_ite (keeps_pure _) (keeps_ite (keeps_pure _) ?_)
  refine keeps_bind (writes_statement hk fun s a db' h => ?_) fun _ => keeps_pure _
  simp only [Option.bind_eq_bind, Option.bind_eq_some_iff, Option.pure_def, Option.some.injEq,
    Prod.mk.injEq] at h
  obtain ⟨rows, hrows, -, rfl⟩ := h
  exact .station (.updated (edited_updateWhere hrows fun r r' hr => assignWeatherStation_edit hr))

/-- `remove_weather_station` takes it with its readings. -/
theorem writes_removeWeatherStation {id : String} (hk : .stationGone id ∈ ks) :
    Keeps (Writes srv ks) (removeWeatherStation srv id) := by
  refine writes_statement hk fun s a db' h => ?_
  cases h
  exact .stationGone id

/-- `insert_weather_reading` adds a reading of a station that is there, or nothing. -/
theorem writes_insertWeatherReading {r : WeatherReadingRow} (hk : .weatherReading ∈ ks) :
    Keeps (Writes srv ks) (insertWeatherReading srv r) := by
  refine writes_statement hk fun s a db' h => ?_
  dsimp only at h
  split at h
  · cases h
    exact .weatherReadingDropped
  next hkept =>
    cases h
    simp only [Bool.or_eq_true, not_or, Bool.not_eq_true', Bool.not_eq_false, Bool.not_eq_true] at hkept
    exact .weatherReading _ rfl hkept.2 hkept.1

/-- What a request gives of a target is an edit of it, if its sensor is there. -/
theorem assignExportTarget_edit {db : Db} {f : ExportTargetFields} {r r' : ExportTargetRow}
    (h : assignExportTargetChecked srv db f r = some r') : TargetEdit srv db r r' := by
  unfold assignExportTargetChecked at h
  obtain ⟨r₁, hr₁, h⟩ := Option.bind_eq_some_iff.mp h
  obtain ⟨_, hsensor, h⟩ := Option.bind_eq_some_iff.mp h
  cases h
  unfold assignExportTarget at hr₁
  iterate 8 obtain ⟨_, -, hr₁⟩ := Option.bind_eq_some_iff.mp hr₁
  cases hr₁
  rw [Option.guard_eq_some'] at hsensor
  exact ⟨rfl, rfl, rfl, hsensor⟩

/-- `upsert_export_target` adds a target or edits it. -/
theorem writes_upsertExportTarget {id : String} {f : ExportTargetFields} (hk : .target ∈ ks) :
    Keeps (Writes srv ks) (upsertExportTarget srv id f) := by
  refine writes_statement hk fun s a db' h => ?_
  simp only [Option.bind_eq_bind, Option.bind_eq_some_iff, Option.pure_def, Option.some.injEq,
    Prod.mk.injEq] at h
  obtain ⟨-, -, id', -, rows, hrows, -, rfl⟩ := h
  refine .target (edited_upsertRow hrows (fun r r' hr => assignExportTarget_edit hr) fun r' hr => ?_)
  have hedit := assignExportTarget_edit hr
  exact ⟨hedit.id, hedit.sensor, hedit.watermark⟩

/-- `update_export_target` edits one that is there. -/
theorem writes_updateExportTarget {id : String} {f : ExportTargetFields} (hk : .target ∈ ks) :
    Keeps (Writes srv ks) (updateExportTarget srv id f) := by
  refine keeps_bind (writes_ask _) fun found => keeps_ite (keeps_pure _) (keeps_ite (keeps_pure _) ?_)
  refine keeps_bind (writes_statement hk fun s a db' h => ?_) fun _ => keeps_pure _
  simp only [Option.bind_eq_bind, Option.bind_eq_some_iff, Option.pure_def, Option.some.injEq,
    Prod.mk.injEq] at h
  obtain ⟨rows, hrows, -, rfl⟩ := h
  exact .target (.updated (edited_updateWhere hrows fun r r' hr => assignExportTarget_edit hr))

/-- `remove_export_target` takes it. -/
theorem writes_removeExportTarget {id : String} (hk : .targetGone id ∈ ks) :
    Keeps (Writes srv ks) (removeExportTarget srv id) := by
  refine writes_statement hk fun s a db' h => ?_
  cases h
  exact .targetGone id

/-- `set_export_watermark` moves the watermark of a target. -/
theorem writes_setExportWatermark {id ts : String} (hk : .watermark ∈ ks) :
    Keeps (Writes srv ks) (setExportWatermark srv id ts) := by
  refine writes_statement hk fun s a db' h => ?_
  simp only [Option.bind_eq_bind, Option.bind_eq_some_iff, Option.pure_def, Option.some.injEq,
    Prod.mk.injEq, updateWhere_some] at h
  obtain ⟨ts', -, rows, rfl, -, rfl⟩ := h
  exact .watermark id ts'

/-- `insert_export_log` adds a row to the log. -/
theorem writes_insertExportLog {r : ExportLogRow} (hk : .exportLog ∈ ks) :
    Keeps (Writes srv ks) (insertExportLog srv r) := by
  refine writes_statement hk fun s a db' h => ?_
  simp only [Option.bind_eq_bind, Option.bind_eq_some_iff, Option.pure_def, Option.some.injEq,
    Prod.mk.injEq] at h
  obtain ⟨_, -, _, -, _, -, _, -, _, -, _, -, _, -, -, rfl⟩ := h
  exact .exportLog _ rfl

/-- `set_setting` writes one setting. -/
theorem writes_setSetting {name value : String} (hk : .setting ∈ ks) :
    Keeps (Writes srv ks) (setSetting srv name value) := by
  refine writes_statement hk fun s a db' h => ?_
  simp only [Option.bind_eq_bind, Option.bind_eq_some_iff, Option.pure_def, Option.some.injEq,
    Prod.mk.injEq] at h
  obtain ⟨name', -, value', -, rows, hrows, -, rfl⟩ := h
  refine .setting (edited_upsertRow hrows (fun r r' hr => ?_) fun r' hr => ?_)
  · obtain rfl := Option.some.inj hr
    rfl
  · obtain rfl := Option.some.inj hr
    exact ⟨rfl, trivial⟩

/-- `run_schema_script` does what the statements of the script do. -/
theorem writes_runSchemaScript {sql : String} (hk : ∀ stmt ∈ scriptStatements sql, .schema stmt ∈ ks) :
    Keeps (Writes srv ks) (runSchemaScript srv sql) := by
  refine keeps_forM_mem fun stmt hstmt => writes_statement (hk stmt hstmt) fun s a db' h => ?_
  obtain ⟨db, hdb, hpair⟩ := Option.map_eq_some_iff.mp h
  cases hpair
  exact .schema stmt hdb

/-- `create_user` adds an account. -/
theorem writes_createUser {username hash role : String} {flag : Bool} (hk : .user ∈ ks) :
    Keeps (Writes srv ks) (createUser srv username hash role flag) := by
  refine writes_statement hk fun s a db' h => ?_
  simp only [Option.bind_eq_bind, Option.bind_eq_some_iff, Option.pure_def, Option.some.injEq,
    Prod.mk.injEq, Option.guard_eq_some', Bool.not_eq_true'] at h
  obtain ⟨_, -, _, -, _, -, _, hnew, -, rfl⟩ := h
  exact .user _ rfl hnew

/-- `set_user_password` writes the hash of one. -/
theorem writes_setUserPassword {username hash : String} {flag : Bool} (hk : .password ∈ ks) :
    Keeps (Writes srv ks) (setUserPassword srv username hash flag) := by
  refine keeps_bind (writes_ask _) fun found => keeps_ite (keeps_pure _) ?_
  refine keeps_bind (writes_statement hk fun s a db' h => ?_) fun _ => keeps_pure _
  simp only [Option.bind_eq_bind, Option.bind_eq_some_iff, Option.pure_def, Option.some.injEq,
    Prod.mk.injEq, updateWhere_some] at h
  obtain ⟨hash', -, rows, rfl, -, rfl⟩ := h
  exact .password username hash' flag

/-- `delete_user` takes it with its sessions. -/
theorem writes_deleteUser {username : String} (hk : .userGone username ∈ ks) :
    Keeps (Writes srv ks) (deleteUser srv username) := by
  refine writes_statement hk fun s a db' h => ?_
  cases h
  exact .userGone username

/-- `create_session` adds a session of an account that is there. -/
theorem writes_createSession {token : String} {userId : Nat} {ttl : Int} (hk : .session ttl ∈ ks) :
    Keeps (Writes srv ks) (createSession srv token userId ttl) := by
  refine writes_statement hk fun s a db' h => ?_
  simp only [Option.bind_eq_bind, Option.bind_eq_some_iff, Option.pure_def, Option.some.injEq,
    Prod.mk.injEq, Option.guard_eq_some', Bool.not_eq_true'] at h
  obtain ⟨token', -, _, hnew, _, huser, -, rfl⟩ := h
  exact .session _ ttl rfl hnew huser

/-- `delete_session` takes one. -/
theorem writes_deleteSession {token : String} (hk : .sessionGone token ∈ ks) :
    Keeps (Writes srv ks) (deleteSession srv token) := by
  refine writes_statement hk fun s a db' h => ?_
  cases h
  exact .sessionGone token

end Methods

end NightWatcher.Database
