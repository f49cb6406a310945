import NightWatcher.Db.Integrity

/-!
# Records are never rewritten

A table of records only grows at its end and loses rows: `Archived` says so of a
table now and later on, with the ids that had been given until now. It composes
(`Archived.trans`), so what one statement does to a table (`archive_step`) carries
over to any number of them. Where ids are given in order, an id names one record
for ever (`Archived.same_of_id`).

`Step.loses_reading` and its like say which statements take a row away.
-/

namespace NightWatcher.Database

/-! ## One table -/

section Table

variable {ρ : Type} {id : ρ → Nat} {next next' : Nat} {rows rows' rows'' : List ρ}

/-- A table later on: rows may have gone, no row has changed, and the rows that came have
ids that had not been given. -/
def Archived (id : ρ → Nat) (next : Nat) (rows rows' : List ρ) : Prop :=
  ∃ kept new, rows' = kept ++ new ∧ List.Sublist kept rows ∧ ∀ r ∈ new, next ≤ id r

/-- Rows that stay are archived. -/
theorem Archived.refl (id : ρ → Nat) (next : Nat) (rows : List ρ) : Archived id next rows rows :=
  ⟨rows, [], (List.append_nil rows).symm, List.Sublist.refl rows, fun _ h => absurd h List.not_mem_nil⟩

/-- What is left of the rows that came is newer than what had been given before. -/
theorem Archived.trans (h : Archived id next rows rows') (hnext : next ≤ next')
    (h' : Archived id next' rows' rows'') : Archived id next rows rows'' := by
  obtain ⟨kept, new, rfl, hkept, hnew⟩ := h
  obtain ⟨kept', new', rfl, hkept', hnew'⟩ := h'
  obtain ⟨old, young, rfl, hold, hyoung⟩ := List.sublist_append_iff.mp hkept'
  refine ⟨old, young ++ new', List.append_assoc .., hold.trans hkept, fun r hr => ?_⟩
  rcases List.mem_append.mp hr with hr | hr
  · exact hnew r (hyoung.subset hr)
  · have := hnew' r hr
    omega

/-- A row appended under the next id is archived. -/
theorem archived_append {row : ρ} (hid : id row = next) : Archived id next rows (rows ++ [row]) := by
  refine ⟨rows, [row], rfl, List.Sublist.refl rows, fun r hr => ?_⟩
  rw [List.mem_singleton.mp hr, hid]

/-- Rows taken away leave archived ones. -/
theorem archived_sublist (h : List.Sublist rows' rows) : Archived id next rows rows' :=
  ⟨rows', [], (List.append_nil rows').symm, h, fun _ h => absurd h List.not_mem_nil⟩

/-- An id names one record, now and later. -/
theorem Archived.same_of_id (h : Archived id next rows rows') (hnum : Numbered (rows.map id) next)
    {r r' : ρ} (hr : r ∈ rows) (hr' : r' ∈ rows') (hid : id r' = id r) : r' = r := by
  obtain ⟨kept, new, rfl, hkept, hnew⟩ := h
  rcases List.mem_append.mp hr' with hold | hlate
  · exact List.inj_on_of_nodup_map hnum.nodup (hkept.subset hold) hr hid
  · have hbelow := hnum.below (id r) (List.mem_map_of_mem hr)
    have hfrom := hnew r' hlate
    omega

end Table

/-! ## The tables of records -/

/-- What of a user no statement changes. -/
def account (u : UserRow) : Nat × String × Role × String := (u.id, u.username, u.role, u.createdAt)

/-- Nothing that carries an id is changed, brought back or numbered twice. -/
structure Archive (db db' : Db) : Prop where
  readings : Archived ReadingRow.id db.next.readings db.readings db'.readings
  calibrations : Archived ConfigLogRow.id db.next.configLog db.configLog db'.configLog
  weather : Archived WeatherReadingRow.id db.next.weatherReadings db.weatherReadings db'.weatherReadings
  accounts : Archived Prod.fst db.next.users (db.users.map account) (db'.users.map account)
  events : db.events <+: db'.events
  exportLog : db.exportLog <+: db'.exportLog
  nextReading : db.next.readings ≤ db'.next.readings
  nextCalibration : db.next.configLog ≤ db'.next.configLog
  nextWeather : db.next.weatherReadings ≤ db'.next.weatherReadings
  nextUser : db.next.users ≤ db'.next.users

/-- A database is an archive of itself. -/
theorem Archive.refl (db : Db) : Archive db db where
  readings := .refl ..
  calibrations := .refl ..
  weather := .refl ..
  accounts := .refl ..
  events := List.prefix_rfl
  exportLog := List.prefix_rfl
  nextReading := le_rfl
  nextCalibration := le_rfl
  nextWeather := le_rfl
  nextUser := le_rfl

/-- Archives compose. -/
theorem Archive.trans {db db' db'' : Db} (h : Archive db db') (h' : Archive db' db'') :
    Archive db db'' where
  readings := h.readings.trans h.nextReading h'.readings
  calibrations := h.calibrations.trans h.nextCalibration h'.calibrations
  weather := h.weather.trans h.nextWeather h'.weather
  accounts := h.accounts.trans h.nextUser h'.accounts
  events := h.events.trans h'.events
  exportLog := h.exportLog.trans h'.exportLog
  nextReading := h.nextReading.trans h'.nextReading
  nextCalibration := h.nextCalibration.trans h'.nextCalibration
  nextWeather := h.nextWeather.trans h'.nextWeather
  nextUser := h.nextUser.trans h'.nextUser

/-- A new password leaves every account's id and name. -/
theorem account_withPassword (srv : Server) (username hash : String) (flag : Bool)
    (users : List UserRow) :
    (withPassword srv username hash flag users).map account = users.map account := by
  unfold withPassword
  rw [List.map_map]
  refine List.map_congr_left fun u _ => ?_
  show account (if srv.same u.username username then
    { u with passwordHash := hash, mustChangePassword := flag } else u) = account u
  split
  · rfl
  · rfl

/-- No statement rewrites a record; a schema statement is asked to change nothing. -/
theorem archive_step {srv : Server} {now : Int} {db db' : Db} {k : Write}
    (h : Step srv now db k db') (hschema : ∀ stmt, k = .schema stmt → db' = db) : Archive db db' := by
  have hsame := Archive.refl db
  -- a step touches one table, and adds rows to it or takes some away
  cases h with
  | schema stmt h =>
    rw [hschema stmt rfl]
    exact hsame
  | sensor h => exact { hsame with }
  | station h => exact { hsame with }
  | target h => exact { hsame with }
  | targetGone id => exact { hsame with }
  | watermark id ts => exact { hsame with }
  | setting h => exact { hsame with }
  | session row ttl hexpires hnew huser => exact { hsame with }
  | sessionGone token => exact { hsame with }
  | sensorGone id =>
    exact { hsame with
      readings := archived_sublist List.filter_sublist
      calibrations := archived_sublist List.filter_sublist }
  | event row hid hts => exact { hsame with events := List.prefix_append _ _ }
  | exportLog row hid => exact { hsame with exportLog := List.prefix_append _ _ }
  | reading row hid hsensor hnew =>
    exact { hsame with readings := archived_append hid, nextReading := Nat.le_succ _ }
  | readingDropped => exact { hsame with nextReading := Nat.le_succ _ }
  | readingsGone sensorId before bound hbound =>
    exact { hsame with readings := archived_sublist List.filter_sublist }
  | calibration row hid hsensor =>
    exact { hsame with calibrations := archived_append hid, nextCalibration := Nat.le_succ _ }
  | stationGone id => exact { hsame with weather := archived_sublist List.filter_sublist }
  | weatherReading row hid hstation hnew =>
    exact { hsame with weather := archived_append hid, nextWeather := Nat.le_succ _ }
  | weatherReadingDropped => exact { hsame with nextWeather := Nat.le_succ _ }
  | user row hid hnew =>
    refine { hsame with accounts := ?_, nextUser := Nat.le_succ _ }
    rw [List.map_append]
    exact archived_append hid
  | password username hash flag =>
    refine { hsame with accounts := ?_ }
    show Archived Prod.fst db.next.users (db.users.map account)
      ((withPassword srv username hash flag db.users).map account)
    rw [account_withPassword]
    exact .refl ..
  | userGone name =>
    exact { hsame with accounts := archived_sublist (List.filter_sublist.map _) }

/-- An id of a record table or of the users names the same record in both states, and what was
logged is still there, in its place. -/
structure SameRecords (db db' : Db) : Prop where
  readings : ∀ r ∈ db.readings, ∀ r' ∈ db'.readings, r'.id = r.id → r' = r
  calibrations : ∀ r ∈ db.configLog, ∀ r' ∈ db'.configLog, r'.id = r.id → r' = r
  weather : ∀ r ∈ db.weatherReadings, ∀ r' ∈ db'.weatherReadings, r'.id = r.id → r' = r
  accounts : ∀ u ∈ db.users, ∀ u' ∈ db'.users, u'.id = u.id → account u' = account u
  events : db.events <+: db'.events
  exportLog : db.exportLog <+: db'.exportLog

/-- From a sound database an archive keeps every record that stays. -/
theorem Archive.sameRecords {srv : Server} {db db' : Db} (h : Archive db db') (hI : Integrity srv db) :
    SameRecords db db' where
  readings _ hr _ hr' hid := h.readings.same_of_id hI.readingIds hr hr' hid
  calibrations _ hr _ hr' hid := h.calibrations.same_of_id hI.calibrationIds hr hr' hid
  weather _ hr _ hr' hid := h.weather.same_of_id hI.weatherIds hr hr' hid
  accounts u hu u' hu' hid := by
    have hnum : Numbered ((db.users.map account).map Prod.fst) db.next.users := by
      rw [List.map_map]
      exact hI.userIds
    exact h.accounts.same_of_id hnum (List.mem_map_of_mem hu) (List.mem_map_of_mem hu') hid
  events := h.events
  exportLog := h.exportLog

/-! ## What takes a row away -/

section Loss

variable {srv : Server} {now : Int} {db db' : Db} {k : Write}

/-- A row that a filter drops does not pass it. -/
theorem dropped {ρ : Type} {rows : List ρ} {r : ρ} {p : ρ → Bool} (hr : r ∈ rows)
    (hgone : r ∉ rows.filter fun r => !p r) : p r = true := by
  by_contra hkept
  refine hgone (List.mem_filter.mpr ⟨hr, ?_⟩)
  rw [Bool.not_eq_true', ← Bool.not_eq_true]
  exact hkept

/-- A reading is lost with its sensor or by a deletion of readings that names it. -/
theorem Step.loses_reading (h : Step srv now db k db') (hk : ∀ stmt, k ≠ .schema stmt) {r : ReadingRow}
    (hr : r ∈ db.readings) (hgone : r ∉ db'.readings) :
    (∃ id, k = .sensorGone id ∧ srv.same r.sensorId id = true) ∨
      ∃ id before bound, k = .readingsGone id before ∧ srv.same r.sensorId id = true ∧
        srv.datetime before = some bound ∧ r.tsUtc < bound := by
  cases h with
  | schema stmt h => exact absurd rfl (hk stmt)
  | reading row hid hsensor hnew => exact absurd (List.mem_append_left _ hr) hgone
  | sensorGone id =>
    have hsame := dropped hr hgone
    exact Or.inl ⟨id, rfl, hsame⟩
  | readingsGone id before bound hbound =>
    have hboth := dropped hr hgone
    rw [Bool.and_eq_true, decide_eq_true_iff] at hboth
    exact Or.inr ⟨id, before, bound, rfl, hboth.1, hbound, hboth.2⟩
  | _ => exact absurd hr hgone

/-- A calibration log row is lost with its sensor only. -/
theorem Step.loses_calibration (h : Step srv now db k db') (hk : ∀ stmt, k ≠ .schema stmt)
    {r : ConfigLogRow} (hr : r ∈ db.configLog) (hgone : r ∉ db'.configLog) :
    ∃ id, k = .sensorGone id ∧ srv.same r.sensorId id = true := by
  cases h with
  | schema stmt h => exact absurd rfl (hk stmt)
  | calibration row hid hsensor => exact absurd (List.mem_append_left _ hr) hgone
  | sensorGone id =>
    have hsame := dropped hr hgone
    exact ⟨id, rfl, hsame⟩
  | _ => exact absurd hr hgone

/-- A weather reading is lost with its station only. -/
theorem Step.loses_weatherReading (h : Step srv now db k db') (hk : ∀ stmt, k ≠ .schema stmt)
    {r : WeatherReadingRow} (hr : r ∈ db.weatherReadings) (hgone : r ∉ db'.weatherReadings) :
    ∃ id, k = .stationGone id ∧ srv.same r.stationId id = true := by
  cases h with
  | schema stmt h => exact absurd rfl (hk stmt)
  | weatherReading row hid hstation hnew => exact absurd (List.mem_append_left _ hr) hgone
  | stationGone id =>
    have hsame := dropped hr hgone
    exact ⟨id, rfl, hsame⟩
  | _ => exact absurd hr hgone

/-- An account: a user whatever the password. -/
theorem Step.loses_account (h : Step srv now db k db') (hk : ∀ stmt, k ≠ .schema stmt) {u : UserRow}
    (hu : account u ∈ db.users.map account) (hgone : account u ∉ db'.users.map account) :
    ∃ name, k = .userGone name ∧ srv.same u.username name = true := by
  cases h with
  | schema stmt h => exact absurd rfl (hk stmt)
  | user row hid hnew =>
    rw [List.map_append] at hgone
    exact absurd (List.mem_append_left _ hu) hgone
  | password username hash flag =>
    rw [← account_withPassword srv username hash flag] at hu
    exact absurd hu hgone
  | userGone name =>
    refine ⟨name, rfl, ?_⟩
    obtain ⟨v, hv, heq⟩ := List.mem_map.mp hu
    have hvgone : v ∉ db.users.filter fun u => !srv.same u.username name := fun hmem =>
      hgone (heq ▸ List.mem_map_of_mem hmem)
    have hname : v.username = u.username := congrArg (fun a => a.2.1) heq
    have hsame := dropped hv hvgone
    rw [← hname]
    exact hsame
  | _ => exact absurd hu hgone

/-- A session is lost by its own deletion or with its user. -/
theorem Step.loses_session (h : Step srv now db k db') (hk : ∀ stmt, k ≠ .schema stmt) {x : SessionRow}
    (hx : x ∈ db.sessions) (hgone : x ∉ db'.sessions) :
    (∃ token, k = .sessionGone token ∧ srv.same x.token token = true) ∨
      ∃ name, k = .userGone name ∧ ∃ u ∈ db.users, srv.same u.username name = true ∧
          u.id = x.userId := by
  cases h with
  | schema stmt h => exact absurd rfl (hk stmt)
  | session row ttl hexpires hnew huser => exact absurd (List.mem_append_left _ hx) hgone
  | sessionGone token =>
    have hsame := dropped hx hgone
    exact Or.inl ⟨token, rfl, hsame⟩
  | userGone name =>
    have hany := dropped hx hgone
    obtain ⟨u, hu, hid⟩ := List.any_eq_true.mp hany
    obtain ⟨hu, hname⟩ := List.mem_filter.mp hu
    exact Or.inr ⟨name, rfl, u, hu, hname, of_decide_eq_true hid⟩
  | _ => exact absurd hx hgone

/-- Only a session statement opens a session, and it ends when its time to live is over. -/
theorem Step.opens_session (h : Step srv now db k db') (hk : ∀ stmt, k ≠ .schema stmt) {x : SessionRow}
    (hnone : x ∉ db.sessions) (hx : x ∈ db'.sessions) :
    ∃ ttl, k = .session ttl ∧ x.expiresAt = now + ttl := by
  cases h with
  | schema stmt h => exact absurd rfl (hk stmt)
  | session row ttl hexpires hnew huser =>
    rcases List.mem_append.mp hx with hold | hlast
    · exact absurd hold hnone
    · rw [List.mem_singleton.mp hlast]
      exact ⟨ttl, rfl, hexpires⟩
  | sessionGone token => exact absurd (List.mem_filter.mp hx).1 hnone
  | userGone name => exact absurd (List.mem_filter.mp hx).1 hnone
  | _ => exact absurd hx hnone

end Loss

end NightWatcher.Database
