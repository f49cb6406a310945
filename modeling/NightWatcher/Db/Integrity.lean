import Mathlib.Data.List.Nodup
import NightWatcher.Db.Writes

/-!
# Keys, references and row numbers

`Integrity` is what `schema.sql` asks of the tables: no two rows of one key, no row
that refers to a missing one, and AUTO_INCREMENT ids that only go up. Every
statement of the daemon keeps it (`integrity_step`), a deletion because the rows
that refer to the deleted ones go with them.
-/

namespace NightWatcher.Database

/-! ## Keys -/

section Keys

variable {ρ : Type} {srv : Server} {key : ρ → String} {Edit : ρ → ρ → Prop} {Fresh : ρ → Prop}
  {rows rows' : List ρ}

/-- Two texts are the same under the collation exactly when their keys are equal. -/
theorem same_collate {a b : String} : srv.same a b = true ↔ srv.collate a = srv.collate b := by
  unfold Server.same
  rw [decide_eq_true_iff]

/-- PRIMARY KEY or UNIQUE KEY on a text column, under the collation. -/
def Keyed (srv : Server) (key : ρ → String) (rows : List ρ) : Prop :=
  (rows.map fun r => srv.collate (key r)).Nodup

/-- A key that no row has can be appended. -/
theorem nodup_append_new {τ : Type} {g : ρ → τ} {row : ρ} (h : (rows.map g).Nodup)
    (hnew : ∀ r ∈ rows, g r ≠ g row) : ((rows ++ [row]).map g).Nodup := by
  rw [List.map_append, List.map_singleton, List.nodup_append]
  refine ⟨h, List.nodup_singleton _, ?_⟩
  intro a ha b hb
  obtain ⟨r, hr, rfl⟩ := List.mem_map.mp ha
  obtain rfl := List.mem_singleton.mp hb
  exact hnew r hr

/-- A row under a new key keeps the keys unique. -/
theorem Keyed.append {row : ρ} (h : Keyed srv key rows)
    (hnew : rows.any (fun r => srv.same (key r) (key row)) = false) : Keyed srv key
        (rows ++ [row]) := by
  refine nodup_append_new h fun r hr heq => ?_
  have hno := List.any_eq_false.mp hnew r hr
  exact hno (same_collate.mpr heq)

/-- Rows taken away keep the keys unique. -/
theorem Keyed.filter (h : Keyed srv key rows) (p : ρ → Bool) : Keyed srv key (rows.filter p) :=
  List.Nodup.sublist (List.filter_sublist.map _) h

/-- An edit leaves the keys where they are. -/
theorem map_key_of_edits {τ : Type} {g : ρ → τ} (hkey : ∀ r r', Edit r r' → g r' = g r)
    (h : List.Forall₂ (fun r r' => r' = r ∨ Edit r r') rows rows') : rows'.map g = rows.map g := by
  induction h with
  | nil => rfl
  | cons hrow _ ih =>
    rw [List.map_cons, List.map_cons, ih]
    rcases hrow with rfl | hedit
    · rfl
    · rw [hkey _ _ hedit]

/-- An edit that keeps the keys keeps them unique. -/
theorem Edited.keyed (h : Edited srv key Edit Fresh rows rows')
    (hkey : ∀ r r', Edit r r' → key r' = key r) (hkeyed : Keyed srv key rows) :
    Keyed srv key rows' := by
  cases h with
  | updated h =>
    unfold Keyed
    rw [map_key_of_edits (fun r r' he => congrArg srv.collate (hkey r r' he)) h]
    exact hkeyed
  | appended row hnew hrow => exact hkeyed.append hnew

/-- A row that is referred to by its key is still there. -/
theorem Edited.any_key (h : Edited srv key Edit Fresh rows rows')
    (hkey : ∀ r r', Edit r r' → key r' = key r) {id : String}
    (hany : rows.any (fun r => srv.same (key r) id) = true) :
    rows'.any (fun r => srv.same (key r) id) = true := by
  cases h with
  | appended row hnew hrow =>
    rw [List.any_append, hany, Bool.true_or]
  | updated h =>
    have hmap : ∀ l : List ρ, l.any (fun r => srv.same (key r) id)
        = (l.map key).any fun k => srv.same k id := fun l => by
      rw [List.any_map]
      rfl
    rw [hmap, map_key_of_edits hkey h, ← hmap]
    exact hany

end Keys

/-! ## Row numbers -/

/-- AUTO_INCREMENT: ids in the order of insertion, all of them below the next. -/
structure Numbered (ids : List Nat) (next : Nat) : Prop where
  ordered : ids.Pairwise (· < ·)
  below : ∀ i ∈ ids, i < next

/-- No ids are below any next one. -/
theorem numbered_nil (next : Nat) : Numbered [] next :=
  ⟨List.Pairwise.nil, fun _ h => absurd h List.not_mem_nil⟩

/-- The next id may be given out. -/
theorem Numbered.append {ids : List Nat} {next i : Nat} (h : Numbered ids next) (hi : i = next) :
    Numbered (ids ++ [i]) (next + 1) := by
  subst hi
  constructor
  · rw [List.pairwise_append]
    refine ⟨h.ordered, List.pairwise_singleton _ _, fun a ha b hb => ?_⟩
    rw [List.mem_singleton.mp hb]
    exact h.below a ha
  · intro a ha
    rcases List.mem_append.mp ha with hold | hlast
    · have := h.below a hold
      omega
    · rw [List.mem_singleton.mp hlast]
      omega

/-- The next id may also be skipped. -/
theorem Numbered.skip {ids : List Nat} {next : Nat}
    (h : Numbered ids next) : Numbered ids (next + 1) := by
  refine ⟨h.ordered, fun i hi => ?_⟩
  have := h.below i hi
  omega

/-- Rows taken away keep the numbering. -/
theorem Numbered.sublist {ids ids' : List Nat} {next : Nat} (h : Numbered ids next)
    (hsub : ids'.Sublist ids) : Numbered ids' next :=
  ⟨h.ordered.sublist hsub, fun i hi => h.below i (hsub.subset hi)⟩

/-- So do rows filtered. -/
theorem Numbered.filter {ρ : Type} {id : ρ → Nat} {rows : List ρ} {next : Nat}
    (h : Numbered (rows.map id) next) (p : ρ → Bool) : Numbered ((rows.filter p).map id) next :=
  h.sublist (List.filter_sublist.map _)

/-- Numbered ids are different. -/
theorem Numbered.nodup {ids : List Nat} {next : Nat} (h : Numbered ids next) : ids.Nodup :=
  h.ordered.imp fun hlt => Nat.ne_of_lt hlt

/-! ## The schema's constraints -/

/-- What the keys, the counters and the foreign keys of the schema promise. -/
structure Integrity (srv : Server) (db : Db) : Prop where
  sensorKeys : Keyed srv SensorRow.id db.sensors
  stationKeys : Keyed srv WeatherStationRow.id db.weatherStations
  targetKeys : Keyed srv ExportTargetRow.id db.exportTargets
  userNames : Keyed srv UserRow.username db.users
  tokens : Keyed srv SessionRow.token db.sessions
  settingNames : Keyed srv Prod.fst db.settings
  readingTimes : (db.readings.map fun r => (srv.collate r.sensorId, r.tsUtc)).Nodup
  weatherTimes : (db.weatherReadings.map fun r => (srv.collate r.stationId, r.tsUtc)).Nodup
  readingSensors : ∀ r ∈ db.readings, HasSensor srv db r.sensorId
  calibrationSensors : ∀ r ∈ db.configLog, HasSensor srv db r.sensorId
  targetSensors : ∀ r ∈ db.exportTargets, HasSensor srv db r.sensorId
  weatherStations : ∀ r ∈ db.weatherReadings, HasStation srv db r.stationId
  sessionUsers : ∀ x ∈ db.sessions, ∃ u ∈ db.users, u.id = x.userId
  readingIds : Numbered (db.readings.map ReadingRow.id) db.next.readings
  calibrationIds : Numbered (db.configLog.map ConfigLogRow.id) db.next.configLog
  eventIds : Numbered (db.events.map EventRow.id) db.next.events
  weatherIds : Numbered (db.weatherReadings.map WeatherReadingRow.id) db.next.weatherReadings
  userIds : Numbered (db.users.map UserRow.id) db.next.users
  exportLogIds : Numbered (db.exportLog.map ExportLogRow.id) db.next.exportLog

/-- Tables without rows. -/
theorem integrity_empty (srv : Server) : Integrity srv {} where
  sensorKeys := List.nodup_nil
  stationKeys := List.nodup_nil
  targetKeys := List.nodup_nil
  userNames := List.nodup_nil
  tokens := List.nodup_nil
  settingNames := List.nodup_nil
  readingTimes := List.nodup_nil
  weatherTimes := List.nodup_nil
  readingSensors _ h := absurd h List.not_mem_nil
  calibrationSensors _ h := absurd h List.not_mem_nil
  targetSensors _ h := absurd h List.not_mem_nil
  weatherStations _ h := absurd h List.not_mem_nil
  sessionUsers _ h := absurd h List.not_mem_nil
  readingIds := numbered_nil _
  calibrationIds := numbered_nil _
  eventIds := numbered_nil _
  weatherIds := numbered_nil _
  userIds := numbered_nil _
  exportLogIds := numbered_nil _

section Steps

variable {srv : Server} {now : Int} {db db' : Db} {k : Write}

/-- A row whose sensor stays when the sensors of one id go. -/
theorem hasSensor_filter {sensorId id : String} (h : HasSensor srv db sensorId)
    (hkept : srv.same sensorId id = false) :
    (db.sensors.filter fun x => !srv.same x.id id).any (fun x => srv.same x.id sensorId) = true := by
  obtain ⟨x, hx, hsame⟩ := List.any_eq_true.mp h
  refine List.any_eq_true.mpr ⟨x, List.mem_filter.mpr ⟨hx, ?_⟩, hsame⟩
  rw [Bool.not_eq_true', ← Bool.not_eq_true, same_collate]
  rw [same_collate] at hsame
  rw [← Bool.not_eq_true, same_collate] at hkept
  rw [hsame]
  exact hkept

/-- A station other than the deleted one is still there. -/
theorem hasStation_filter {stationId id : String} (h : HasStation srv db stationId)
    (hkept : srv.same stationId id = false) :
    (db.weatherStations.filter fun x => !srv.same x.id id).any
      (fun x => srv.same x.id stationId) = true := by
  obtain ⟨x, hx, hsame⟩ := List.any_eq_true.mp h
  refine List.any_eq_true.mpr ⟨x, List.mem_filter.mpr ⟨hx, ?_⟩, hsame⟩
  rw [Bool.not_eq_true', ← Bool.not_eq_true, same_collate]
  rw [same_collate] at hsame
  rw [← Bool.not_eq_true, same_collate] at hkept
  rw [hsame]
  exact hkept

/-- A pair of keys that no row has. -/
theorem pair_new {ρ : Type} {rows : List ρ} {key ts : ρ → String} {row : ρ}
    (hnew : rows.any (fun x => srv.same (key x) (key row) && decide (ts x = ts row)) = false) :
    ∀ r ∈ rows, (srv.collate (key r), ts r) ≠ (srv.collate (key row), ts row) := by
  intro r hr heq
  obtain ⟨hkey, hts⟩ := Prod.mk.inj heq
  have hno := List.any_eq_false.mp hnew r hr
  rw [same_collate.mpr hkey, decide_eq_true hts] at hno
  exact hno rfl

/-- What holds of a list and of one more element holds of the longer list. -/
theorem mem_append_singleton {α : Type} {P : α → Prop} {l : List α} {a : α} (hl : ∀ x ∈ l, P x)
    (ha : P a) : ∀ x ∈ l ++ [a], P x := by
  intro x hx
  rcases List.mem_append.mp hx with hold | hlast
  · exact hl x hold
  · rw [List.mem_singleton.mp hlast]
    exact ha

/-- Every target of an edited table has a sensor. -/
theorem targets_edited {rows : List ExportTargetRow}
    (h : Edited srv ExportTargetRow.id (TargetEdit srv db)
      (fun r => HasSensor srv db r.sensorId ∧ r.lastExportTs = "") db.exportTargets rows)
    (hold : ∀ r ∈ db.exportTargets, HasSensor srv db r.sensorId) :
    ∀ r ∈ rows, HasSensor srv db r.sensorId := by
  cases h with
  | appended row hnew hrow => exact mem_append_singleton hold hrow.1
  | updated h =>
    intro r' hr'
    obtain ⟨i, hi, rfl⟩ := List.mem_iff_getElem.mp hr'
    have hlen := h.length_eq
    rcases (List.forall₂_iff_get.mp h).2 i (by omega) hi with heq | hedit
    · have hmem : db.exportTargets.get ⟨i, by omega⟩ ∈ db.exportTargets := List.get_mem _ _
      rw [← heq] at hmem
      exact hold _ hmem
    · exact hedit.sensor

/-- Every statement keeps the schema's constraints; of a schema statement it is asked that it
changes nothing. -/
theorem integrity_step (h : Step srv now db k db') (hschema : ∀ stmt, k = .schema stmt → db' = db)
    (hI : Integrity srv db) : Integrity srv db' := by
  cases h with
  | schema stmt h =>
    rw [hschema stmt rfl]
    exact hI
  | sensor h =>
    have hkey : ∀ r r', SensorEdit r r' → r'.id = r.id := fun _ _ he => he.1
    exact { hI with
      sensorKeys := h.keyed hkey hI.sensorKeys
      readingSensors := fun r hr => h.any_key hkey (hI.readingSensors r hr)
      calibrationSensors := fun r hr => h.any_key hkey (hI.calibrationSensors r hr)
      targetSensors := fun r hr => h.any_key hkey (hI.targetSensors r hr) }
  | sensorGone id =>
    have hkept : ∀ {ρ : Type} {rows : List ρ} {key : ρ → String} {r : ρ},
        r ∈ rows.filter (fun r => !srv.same (key r) id) → r ∈ rows ∧ srv.same (key r) id = false := by
      intro ρ rows key r hr
      rw [List.mem_filter, Bool.not_eq_true'] at hr
      exact hr
    exact { hI with
      sensorKeys := hI.sensorKeys.filter _
      targetKeys := hI.targetKeys.filter _
      readingTimes := hI.readingTimes.sublist (List.filter_sublist.map _)
      readingSensors := fun r hr => hasSensor_filter (hI.readingSensors r (hkept hr).1) (hkept hr).2
      calibrationSensors := fun r hr =>
        hasSensor_filter (hI.calibrationSensors r (hkept hr).1) (hkept hr).2
      targetSensors := fun r hr => hasSensor_filter (hI.targetSensors r (hkept hr).1) (hkept hr).2
      readingIds := hI.readingIds.filter _
      calibrationIds := hI.calibrationIds.filter _ }
  | event row hid hts =>
    refine { hI with eventIds := ?_ }
    rw [List.map_append]
    exact hI.eventIds.append hid
  | reading row hid hsensor hnew =>
    refine { hI with
      readingTimes := nodup_append_new hI.readingTimes (pair_new hnew)
      readingSensors := mem_append_singleton hI.readingSensors hsensor
      readingIds := ?_ }
    rw [List.map_append]
    exact hI.readingIds.append hid
  | readingDropped => exact { hI with readingIds := hI.readingIds.skip }
  | readingsGone sensorId before bound hbound =>
    exact { hI with
      readingTimes := hI.readingTimes.sublist (List.filter_sublist.map _)
      readingSensors := fun r hr => hI.readingSensors r (List.mem_filter.mp hr).1
      readingIds := hI.readingIds.filter _ }
  | calibration row hid hsensor =>
    refine { hI with
      calibrationSensors := mem_append_singleton hI.calibrationSensors hsensor
      calibrationIds := ?_ }
    rw [List.map_append]
    exact hI.calibrationIds.append hid
  | station h =>
    have hkey : ∀ r r', StationEdit r r' → r'.id = r.id := fun _ _ he => he.1
    exact { hI with
      stationKeys := h.keyed hkey hI.stationKeys
      weatherStations := fun r hr => h.any_key hkey (hI.weatherStations r hr) }
  | stationGone id =>
    refine { hI with
      stationKeys := hI.stationKeys.filter _
      weatherTimes := hI.weatherTimes.sublist (List.filter_sublist.map _)
      weatherStations := fun r hr => ?_
      weatherIds := hI.weatherIds.filter _ }
    rw [List.mem_filter, Bool.not_eq_true'] at hr
    exact hasStation_filter (hI.weatherStations r hr.1) hr.2
  | weatherReading row hid hstation hnew =>
    refine { hI with
      weatherTimes := nodup_append_new hI.weatherTimes (pair_new hnew)
      weatherStations := mem_append_singleton hI.weatherStations hstation
      weatherIds := ?_ }
    rw [List.map_append]
    exact hI.weatherIds.append hid
  | weatherReadingDropped => exact { hI with weatherIds := hI.weatherIds.skip }
  | target h =>
    have hkeys := h.keyed (fun _ _ he => he.id) hI.targetKeys
    have hsensors := targets_edited h hI.targetSensors
    exact { hI with targetKeys := hkeys, targetSensors := hsensors }
  | targetGone id =>
    exact { hI with
      targetKeys := hI.targetKeys.filter _
      targetSensors := fun r hr => hI.targetSensors r (List.mem_filter.mp hr).1 }
  | watermark id ts =>
    have hids : ∀ r : ExportTargetRow,
        (if srv.same r.id id then { r with lastExportTs := ts } else r).id = r.id ∧
        (if srv.same r.id id then { r with lastExportTs := ts } else r).sensorId = r.sensorId := by
      intro r
      split
      · exact ⟨rfl, rfl⟩
      · exact ⟨rfl, rfl⟩
    refine { hI with targetKeys := ?_, targetSensors := fun r hr => ?_ }
    · show ((withWatermark srv id ts db.exportTargets).map _).Nodup
      unfold withWatermark
      rw [List.map_map]
      have hsame : ((fun r : ExportTargetRow => srv.collate r.id) ∘ fun r : ExportTargetRow =>
          if srv.same r.id id then { r with lastExportTs := ts } else r) = fun r => srv.collate r.id :=
        funext fun r => congrArg srv.collate (hids r).1
      rw [hsame]
      exact hI.targetKeys
    · obtain ⟨r₀, hr₀, rfl⟩ := List.mem_map.mp hr
      rw [(hids r₀).2]
      exact hI.targetSensors r₀ hr₀
  | exportLog row hid =>
    refine { hI with exportLogIds := ?_ }
    rw [List.map_append]
    exact hI.exportLogIds.append hid
  | setting h => exact { hI with settingNames := h.keyed (fun _ _ he => he) hI.settingNames }
  | user row hid hnew =>
    refine { hI with
      userNames := hI.userNames.append hnew
      sessionUsers := fun x hx => ?_
      userIds := ?_ }
    · obtain ⟨u, hu, hid'⟩ := hI.sessionUsers x hx
      exact ⟨u, List.mem_append_left _ hu, hid'⟩
    · rw [List.map_append]
      exact hI.userIds.append hid
  | password username hash flag =>
    have hsame : ∀ u : UserRow, (if srv.same u.username username then
          { u with passwordHash := hash, mustChangePassword := flag } else u).username = u.username ∧
        (if srv.same u.username username then
          { u with passwordHash := hash, mustChangePassword := flag } else u).id = u.id := by
      intro u
      split
      · exact ⟨rfl, rfl⟩
      · exact ⟨rfl, rfl⟩
    have hmap : ∀ {τ : Type} (g : UserRow → τ), (∀ u : UserRow, g (if srv.same u.username username then
          { u with passwordHash := hash, mustChangePassword := flag } else u) = g u) →
        (withPassword srv username hash flag db.users).map g = db.users.map g := by
      intro τ g hg
      unfold withPassword
      rw [List.map_map]
      exact List.map_congr_left fun u _ => hg u
    refine { hI with userNames := ?_, sessionUsers := fun x hx => ?_, userIds := ?_ }
    · show ((withPassword srv username hash flag db.users).map _).Nodup
      rw [hmap _ fun u => congrArg srv.collate (hsame u).1]
      exact hI.userNames
    · obtain ⟨u, hu, hid⟩ := hI.sessionUsers x hx
      exact ⟨_, List.mem_map.mpr ⟨u, hu, rfl⟩, (hsame u).2.trans hid⟩
    · show Numbered ((withPassword srv username hash flag db.users).map UserRow.id) db.next.users
      rw [hmap _ fun u => (hsame u).2]
      exact hI.userIds
  | userGone name =>
    refine { hI with
      userNames := hI.userNames.filter _
      tokens := hI.tokens.filter _
      sessionUsers := fun x hx => ?_
      userIds := hI.userIds.filter _ }
    rw [List.mem_filter, Bool.not_eq_true'] at hx
    obtain ⟨u, hu, hid⟩ := hI.sessionUsers x hx.1
    refine ⟨u, List.mem_filter.mpr ⟨hu, ?_⟩, hid⟩
    -- had the user gone, so would the session
    rw [Bool.not_eq_true', ← Bool.not_eq_true]
    intro hgone
    exact List.any_eq_false.mp hx.2 u (List.mem_filter.mpr ⟨hu, hgone⟩) (decide_eq_true hid)
  | session row ttl hexpires hnew huser =>
    refine { hI with
      tokens := hI.tokens.append hnew
      sessionUsers := mem_append_singleton hI.sessionUsers ?_ }
    obtain ⟨u, hu, hid⟩ := List.any_eq_true.mp huser
    exact ⟨u, hu, of_decide_eq_true hid⟩
  | sessionGone token =>
    exact { hI with
      tokens := hI.tokens.filter _
      sessionUsers := fun x hx => hI.sessionUsers x (List.mem_filter.mp hx).1 }

end Steps

end NightWatcher.Database
