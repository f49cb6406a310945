import NightWatcher.Lib.Transcript
import NightWatcher.Api.NoAdmin
import NightWatcher.Api.Polling

/-!
# The workers follow the device tables

`Service` is the server with its database, the workers that run, and whether a
reload is pending. A request that changes which devices are to be polled has to
ask for a reload after it wrote (`Followed`); where every request does, the
running workers are the pollable rows whenever no reload is pending
(`workers_follow`).

Not every handler does. `POST /sensors` and the handlers of weather stations
never ask, and an edit of a sensor does not when reading the row back fails.
`PollingKept` says of a request that it does not run into one of these with a
write that changes what is polled.
-/

namespace NightWatcher.Daemon

open Throwing Database Api Transcript

variable {d : Deps} {cfg : ApiConfig} {req : Request} {w w' : World}

/-! ## Requests that keep what is polled, or ask for a reload -/

/-- A reload was asked for on the way from `w` to `w'`. -/
def Reloaded (w w' : World) : Prop := Effect.reload ∈ w'.effects.drop w.effects.length

/-- What is polled is the same, or a reload was asked for. -/
def Followed (w w' : World) : Prop := pollable w'.db = pollable w.db ∨ Reloaded w w'

/-- The status an edit writes leaves a sensor polled as it was. -/
def SensorKept (srv : Server) (f : SensorFields) (status : Status) (polled : Bool) : Prop :=
  ∀ st, setEnum srv f.status status = some st → decide (st = .active) = polled

/-- So do the status and the provider an edit writes for a weather station. -/
def StationKept (srv : Server) (f : WeatherStationFields) (r : WeatherStationRow) : Prop :=
  ∀ st provider, setEnum srv f.status r.status = some st →
    setText srv (.varchar 32) f.provider r.provider = some provider →
    (decide (st = .active) && provider ≠ "") = polledStation r

/-- A sensor is created as not polled, or overwritten as polled as it was. -/
def SensorPostKept (srv : Server) (db : Db) (id : String) (f : SensorFields) : Prop :=
  (∀ r ∈ db.sensors, srv.same r.id id = true → SensorKept srv f r.status (polledSensor r)) ∧
    (db.sensors.any (fun r => srv.same r.id id) = false → SensorKept srv f .active false)

/-- An upsert of a station polls what was polled. -/
def StationPostKept (srv : Server) (db : Db) (id : String) (f : WeatherStationFields) : Prop :=
  (∀ r ∈ db.weatherStations, srv.same r.id id = true → StationKept srv f r) ∧
    (db.weatherStations.any (fun r => srv.same r.id id) = false → StationKept srv f { id })

/-! ### Which calls an edit of a sensor makes -/

/-- The database calls of `require_auth`. -/
def authCalls (cfg : ApiConfig) (req : Request) : Nat := if presentsToken cfg req then 0 else 2

/-- The database calls of the gate. -/
def gateCalls (cfg : ApiConfig) (req : Request) : Nat :=
  if !cfg.requireAuthReads then 0
  else if ¬"/api/v1/".toList <+: req.path.toList then 0
  else if req.path ∈ publicPaths then 0
  else authCalls cfg req

/-- The database answers the checks of a request and its first `n` calls. -/
def Answered (cfg : ApiConfig) (req : Request) (w : World) (n : Nat) : Prop :=
  Clean (gateCalls cfg req + authCalls cfg req + n) w.dbFaults

/-- An edit of a sensor connects, looks the sensor up, and writes; then reading it back fails. -/
def ReadBackFails (cfg : ApiConfig) (req : Request) (w : World) : Prop :=
  Answered cfg req w 3 ∧ w.dbFaults[gateCalls cfg req + authCalls cfg req + 3]? = some true

/-- A request that writes without asking for a reload leaves what is polled: a `POST` of a
sensor, an edit of a sensor whose reading back fails, and every write to weather stations. -/
def PollingKept (d : Deps) (cfg : ApiConfig) (req : Request) (w : World) : Prop :=
  HasAdmin d cfg req w → match route req with
  | some .postSensor => ∀ body id id' f, d.json.parse req.body = some body →
      body.member? "id" = some (.str id) → d.server.storeText (.varchar 32) id = some id' →
      sensorFieldsFromJson body = .ok f → f.transport.isSome → f.address.isSome →
      Answered cfg req w 2 →
      SensorPostKept d.server w.db id' { f with status := f.status.orElse fun _ => some "inactive" }
  | some (.patchSensor id) => ReadBackFails cfg req w → ∀ body f,
      d.json.parse req.body = some body → sensorFieldsFromJson body = .ok f →
      ∀ r ∈ w.db.sensors, d.server.same r.id id = true →
        SensorKept d.server f r.status (polledSensor r)
  | some (.setStatus id status) => ReadBackFails cfg req w →
      ∀ r ∈ w.db.sensors, d.server.same r.id id = true →
        SensorKept d.server { status := some status } r.status (polledSensor r)
  | some .postWeatherStation => ∀ body id id' f, d.json.parse req.body = some body →
      body.member? "id" = some (.str id) → d.server.storeText (.varchar 32) id = some id' →
      wxFieldsFromJson body = .ok f → Answered cfg req w 2 → StationPostKept d.server w.db id' f
  | some (.patchWeatherStation id) => ∀ body f, d.json.parse req.body = some body →
      wxFieldsFromJson body = .ok f →
      Answered cfg req w (if body.contains "config" then 4 else 3) →
      ∀ r ∈ w.db.weatherStations, d.server.same r.id id = true → StationKept d.server f r
  | some (.deleteWeatherStation id) => Answered cfg req w 2 →
      ∀ r ∈ w.db.weatherStations, d.server.same r.id id = true → polledStation r = false
  | _ => True

/-! ## The checks, call by call -/

section Calls

variable {faults : List Bool} {k : Nat}

/-- The check of a role after `k` other calls. -/
theorem meets_requireAuth_at {needAdmin : Bool} {Q : Option Response → World → Prop}
    {E : String → World → Prop} (hw : w.dbFaults = faults.drop k) (hclean : Clean k faults)
    (hpass : Clean (k + authCalls cfg req) faults →
      (presentsToken cfg req = true ∨ ∃ si, presentedUser d req w = some si ∧
        (needAdmin = true → si.role = .admin)) →
      Q none (w.withFaults (faults.drop (k + authCalls cfg req))))
    (hrefuse : ∀ res fs, Q (some res) (w.withFaults fs)) :
    Meets (requireAuth d cfg req needAdmin) w Q E := by
  unfold requireAuth
  unfold authCalls at hpass
  by_cases htoken : presentsToken cfg req = true
  · rw [if_pos htoken]
    rw [if_pos htoken, Nat.add_zero, ← hw] at hpass
    exact hpass hclean (Or.inl htoken)
  · rw [if_neg htoken]
    rw [if_neg htoken] at hpass
    simp only [meets_bind]
    unfold sessionInfo
    rw [meets_ite]
    refine ⟨fun _ => hrefuse _ w.dbFaults, fun hne => ?_⟩
    simp only [meets_tryCatch, meets_bind, meets_pure]
    refine meets_connect_at hw hclean (fun hclean => ?_) fun _ fs => hrefuse _ fs
    refine meets_select_at rfl hclean (fun hclean => ?_) fun _ _ fs => hrefuse _ fs
    have hpresented : presentedUser d req w =
        liveSession d.server (sessionToken req) ⟨w.db, w.now⟩ := if_neg hne
    rw [← hpresented]
    cases hsi : presentedUser d req w with
    | none => exact hrefuse _ _
    | some si =>
      simp only [meets_ite, meets_pure]
      refine ⟨fun _ => hrefuse _ _, fun hrole => hpass hclean (Or.inr ⟨si, hsi, fun hneed => ?_⟩)⟩
      by_contra hne
      exact hrole ⟨hneed, hne⟩

/-- A handler behind it. -/
theorem meets_adminOnly_at {k' : Act Response} {Q : Response → World → Prop}
    {E : String → World → Prop} (hw : w.dbFaults = faults.drop k) (hclean : Clean k faults)
    (hpass : Clean (k + authCalls cfg req) faults → HasAdmin d cfg req w →
      Meets k' (w.withFaults (faults.drop (k + authCalls cfg req))) Q E)
    (hrefuse : ∀ res fs, Q res (w.withFaults fs)) : Meets (adminOnly d cfg req k') w Q E := by
  unfold adminOnly
  rw [meets_bind]
  refine meets_requireAuth_at hw hclean (fun hclean hauth => hpass hclean ?_)
    fun res fs => hrefuse res fs
  rcases hauth with htoken | ⟨si, hsi, hrole⟩
  · exact Or.inl htoken
  · exact Or.inr ⟨si, hsi, hrole rfl⟩

/-- The gate comes first. -/
theorem meets_gate_at {Q : Option Response → World → Prop} {E : String → World → Prop}
    (hpass : Clean (gateCalls cfg req) w.dbFaults →
      Q none (w.withFaults (w.dbFaults.drop (gateCalls cfg req))))
    (hrefuse : ∀ res fs, Q (some res) (w.withFaults fs)) :
    Meets (gate d cfg req) w Q E := by
  unfold gate
  unfold gateCalls at hpass
  simp only [meets_ite, meets_pure]
  refine ⟨fun h => ?_, fun h => ⟨fun h' => ?_, fun h' => ⟨fun h'' => ?_, fun h'' => ?_⟩⟩⟩
  · rw [if_pos h] at hpass
    exact hpass (clean_zero _)
  · rw [if_neg h, if_pos h'] at hpass
    exact hpass (clean_zero _)
  · rw [if_neg h, if_neg h', if_pos h''] at hpass
    exact hpass (clean_zero _)
  · rw [if_neg h, if_neg h', if_neg h''] at hpass
    refine meets_requireAuth_at (k := 0) rfl (clean_zero _) (fun hclean _ => ?_) hrefuse
    rw [Nat.zero_add] at hclean ⊢
    exact hpass hclean

end Calls

/-! ## Writes that keep what is polled -/

section Writes

variable {srv : Server} {db : Db}

/-- Of a sensor only its status decides whether it is polled. -/
theorem assignSensor_spec {f : SensorFields} {r r' : SensorRow} (h : assignSensor srv f r = some r') :
    setEnum srv f.status r.status = some r'.status ∧ r'.id = r.id := by
  unfold assignSensor at h
  -- ten columns come before the status
  iterate 10 obtain ⟨_, -, h⟩ := Option.bind_eq_some_iff.mp h
  obtain ⟨st, hst, h⟩ := Option.bind_eq_some_iff.mp h
  iterate 2 obtain ⟨_, -, h⟩ := Option.bind_eq_some_iff.mp h
  cases h
  exact ⟨hst, rfl⟩

/-- Of a station it is the status and the provider. -/
theorem assignWeatherStation_spec {f : WeatherStationFields} {r r' : WeatherStationRow}
    (h : assignWeatherStation srv f r = some r') :
    setEnum srv f.status r.status = some r'.status ∧
      setText srv (.varchar 32) f.provider r.provider = some r'.provider ∧ r'.id = r.id := by
  unfold assignWeatherStation at h
  iterate 3 obtain ⟨_, -, h⟩ := Option.bind_eq_some_iff.mp h
  obtain ⟨provider, hprovider, h⟩ := Option.bind_eq_some_iff.mp h
  iterate 7 obtain ⟨_, -, h⟩ := Option.bind_eq_some_iff.mp h
  obtain ⟨st, hst, h⟩ := Option.bind_eq_some_iff.mp h
  iterate 2 obtain ⟨_, -, h⟩ := Option.bind_eq_some_iff.mp h
  cases h
  exact ⟨hst, hprovider, rfl⟩

/-- A row that is kept is polled as it was. -/
theorem SensorKept.row {f : SensorFields} {r r' : SensorRow} {polled : Bool}
    (h : SensorKept srv f r.status polled) (hassign : assignSensor srv f r = some r') :
    polledSensor r' = polled ∧ r'.id = r.id := by
  obtain ⟨hst, hid⟩ := assignSensor_spec hassign
  exact ⟨h _ hst, hid⟩

/-- So is a station's. -/
theorem StationKept.row {f : WeatherStationFields} {r r' : WeatherStationRow}
    (h : StationKept srv f r) (hassign : assignWeatherStation srv f r = some r') :
    polledStation r' = polledStation r ∧ r'.id = r.id := by
  obtain ⟨hst, hprovider, hid⟩ := assignWeatherStation_spec hassign
  exact ⟨h _ _ hst hprovider, hid⟩

/-- The lists are the same if the polled sensors are. -/
theorem pollable_sensors {rows : List SensorRow}
    (h : (rows.filter polledSensor).map SensorRow.id =
      (db.sensors.filter polledSensor).map SensorRow.id) :
    pollable { db with sensors := rows } = pollable db := by
  unfold pollable
  rw [h]

theorem pollable_stations {rows : List WeatherStationRow} {readings : List WeatherReadingRow}
    (h : (rows.filter polledStation).map WeatherStationRow.id =
      (db.weatherStations.filter polledStation).map WeatherStationRow.id) :
    pollable { db with weatherStations := rows, weatherReadings := readings } = pollable db := by
  unfold pollable
  rw [h]

/-- Only the status matters to whether a sensor is polled. -/
theorem SensorPostKept.of_status {id : String} {f f' : SensorFields}
    (h : SensorPostKept srv db id f) (hstatus : f'.status = f.status) :
    SensorPostKept srv db id f' := by
  unfold SensorPostKept SensorKept at h ⊢
  rw [hstatus]
  exact h

/-- An upsert that keeps the rows keeps the lists. -/
theorem pollable_upsertSensor {f : SensorFields} {id createdAt : String} {noUpdates : Bool}
    {rows : List SensorRow}
    (h : upsertRow (fun r => srv.same r.id id)
      { id, transport := .tcp, address := "", createdAt } noUpdates (assignSensor srv f)
      db.sensors = some rows)
    (hkept : SensorPostKept srv db id f) : pollable { db with sensors := rows } = pollable db := by
  obtain ⟨hold, hnew⟩ := hkept
  refine pollable_sensors (polledIds_upsertRow h (fun r hr hid _ hassign => ?_)
    fun hany r' hassign => ?_)
  · exact (hold r hr hid).row hassign
  · -- a fresh row is active by default
    have hkept : SensorKept srv f Status.active false := hnew hany
    exact (hkept.row hassign).1

/-- An UPDATE of a sensor that leaves it polled as it was. -/
theorem pollable_updateSensor {f : SensorFields} {id : String} {rows : List SensorRow}
    (h : updateWhere (fun r => srv.same r.id id) (assignSensor srv f) db.sensors = some rows)
    (hkept : ∀ r ∈ db.sensors, srv.same r.id id = true → SensorKept srv f r.status (polledSensor r)) :
    pollable { db with sensors := rows } = pollable db :=
  pollable_sensors (polledIds_updateWhere h fun r hr hid _ hassign => (hkept r hr hid).row hassign)

/-- So does an update. -/
theorem pollable_updateStation {f : WeatherStationFields} {id : String}
    {rows : List WeatherStationRow}
    (h : updateWhere (fun r => srv.same r.id id) (assignWeatherStation srv f) db.weatherStations =
      some rows)
    (hkept : ∀ r ∈ db.weatherStations, srv.same r.id id = true → StationKept srv f r) :
    pollable { db with weatherStations := rows } = pollable db :=
  pollable_stations (polledIds_updateWhere h fun r hr hid _ hassign => (hkept r hr hid).row hassign)

end Writes

/-! ## One lemma per handler

Each runs from the world the gate left: `w` with the gate's calls answered. -/

section Handlers

/-- The world after the gate. -/
def admitted (cfg : ApiConfig) (req : Request) (w : World) : World :=
  w.withFaults (w.dbFaults.drop (gateCalls cfg req))

/-- Where the tables are the same, nothing is to be reloaded. -/
theorem followed_same {w' : World} (hdb : w'.db = w.db) : Followed w w' :=
  Or.inl (congrArg pollable hdb)

/-- A handler that asked for a reload at the end. -/
theorem followed_reload {effects : List Effect} (h : w'.effects = w.effects ++ .reload :: effects) :
    Followed w w' := by
  refine Or.inr ?_
  unfold Reloaded
  rw [h, List.drop_left]
  exact List.mem_cons_self

/-- The UPDATE of an edit of a sensor, if its fields were read. -/
def Updated (srv : Server) (id : String) (f : Except String SensorFields) (db db' : Db) : Prop :=
  ∃ fields rows, f = .ok fields ∧
    updateWhere (fun r => srv.same r.id id) (assignSensor srv fields) db.sensors = some rows ∧
    db' = { db with sensors := rows }

/-- An edit of a sensor: nothing was written, or it was and the row was served, or it was
and reading it back failed. -/
theorem meets_updateAndServe {id : String} {f : Except String SensorFields}
    {Q : Response × Bool → World → Prop} {E : String → World → Prop}
    (hclean : Clean (gateCalls cfg req + authCalls cfg req) w.dbFaults)
    (hnothing : ∀ res fs, Q (res, false) (w.withFaults fs))
    (hserved : ∀ res db' fs, (db' = w.db ∨ Updated d.server id f w.db db') →
      Q (res, true) { w with db := db', dbFaults := fs })
    (hunread : ∀ res db' fs, Updated d.server id f w.db db' → ReadBackFails cfg req w →
      Q (res, false) { w with db := db', dbFaults := fs }) :
    Meets (updateAndServe d id f)
      (w.withFaults (w.dbFaults.drop (gateCalls cfg req + authCalls cfg req))) Q E := by
  unfold updateAndServe updateSensor
  simp only [meets_tryCatch, meets_bind, meets_pure]
  refine meets_connect_at rfl hclean (fun hclean => ?_) fun _ fs => hnothing _ fs
  rw [meets_liftExcept]
  refine ⟨fun fields hfields => ?_, fun _ _ => hnothing _ _⟩
  simp only [meets_bind, meets_ite, meets_pure]
  refine meets_select_at rfl hclean (fun hclean => ?_) fun _ _ fs => hnothing _ fs
  refine ⟨fun _ => ⟨fun _ => hnothing _ _, fun h => absurd rfl h⟩, fun _ => ⟨fun _ => ?_, fun _ => ?_⟩⟩
  · -- without a column to set there is no statement
    refine ⟨fun h => absurd h (by simp), fun _ => ?_⟩
    exact meets_select (fun fs => hserved _ _ fs (Or.inl rfl)) fun fs => hnothing _ fs
  · refine meets_statement_at rfl hclean (fun _ db' h hclean => ?_) fun _ fs => hnothing _ fs
    simp only [Option.bind_eq_bind, Option.bind_eq_some_iff, Option.pure_def, Option.some.injEq,
      Prod.mk.injEq] at h
    obtain ⟨rows, hrows, -, rfl⟩ := h
    have hupdated : Updated d.server id f w.db { w.db with sensors := rows } :=
      ⟨fields, rows, hfields, hrows, rfl⟩
    refine ⟨fun h => absurd h (by simp), fun _ => ?_⟩
    exact meets_select_at rfl hclean (fun _ => hserved _ _ _ (Or.inr hupdated))
      fun hfail _ fs => hunread _ _ fs hupdated ⟨hclean, hfail⟩

/-- A body without a status leaves the status alone. -/
theorem sensorFields_status {body : Json} {f : SensorFields} (h : sensorFieldsFromJson body = .ok f)
    (hstatus : body.contains "status" = false) : f.status = none := by
  have hmissing : body.member? "status" = none := by
    simpa [Json.contains] using hstatus
  have hunset : ¬Sets body "status" := by
    unfold Sets Json.given?
    rw [hmissing]
    exact Bool.false_ne_true
  exact Option.not_isSome_iff_eq_none.mp ((sensorFields_of h).status.not.mpr hunset)

/-- Without a status a sensor is kept. -/
theorem sensorKept_unset {srv : Server} {f : SensorFields} (h : f.status = none) (r : SensorRow) :
    SensorKept srv f r.status (polledSensor r) := by
  intro st hst
  rw [h] at hst
  cases hst
  rfl

/-- An update that keeps its row keeps the lists. -/
theorem Updated.pollable {srv : Server} {id : String} {f : Except String SensorFields} {db db' : Db}
    (h : Updated srv id f db db')
    (hkept : ∀ fields, f = .ok fields → ∀ r ∈ db.sensors, srv.same r.id id = true →
      SensorKept srv fields r.status (polledSensor r)) : pollable db' = pollable db := by
  obtain ⟨fields, rows, hfields, hrows, rfl⟩ := h
  exact pollable_updateSensor hrows (hkept fields hfields)

/-- An update of a target: there is none, or it is done, or the call fails. -/
theorem meets_updateExportTarget {id : String} {f : ExportTargetFields} {Q : Bool → World → Prop}
    {E : String → World → Prop} (hmissing : ∀ fs, Q false (w.withFaults fs))
    (hdone : ∀ db' fs, Q true { w with db := db', dbFaults := fs })
    (herr : ∀ e fs, E e (w.withFaults fs)) : Meets (updateExportTarget d.server id f) w Q E := by
  unfold updateExportTarget
  simp only [meets_bind, meets_ite, meets_pure]
  refine meets_select (fun fs => ⟨fun _ => hmissing fs, fun _ => ⟨fun _ => hdone w.db fs, fun _ => ?_⟩⟩)
    fun fs => herr _ fs
  exact meets_statement (fun _ db' fs _ => hdone db' fs) herr

section Asking

variable (hreload : cfg.onReload = true)

include hreload

/-- DELETE /sensors/{id} reloads. -/
theorem followed_deleteSensor {id : String} :
    Meets (deleteSensor d cfg req id) (admitted cfg req w) (fun _ => Followed w)
      fun _ => Followed w := by
  refine meets_adminOnly (fun fs _ => ?_) fun _ fs => followed_same rfl
  simp only [meets_bind, meets_tryCatch, meets_pure]
  refine meets_ask (fun _ fs => ?_) fun _ fs => followed_same rfl
  refine meets_statement (fun _ db' fs _ => ?_) fun _ fs => followed_same rfl
  unfold reload
  simp only [if_true, hreload, logEffect, meets_bind, meets_modify, meets_pure]
  exact followed_reload rfl

/-- POST /export-targets reloads. -/
theorem followed_postExportTarget :
    Meets (postExportTarget d cfg req) (admitted cfg req w) (fun _ => Followed w)
      fun _ => Followed w := by
  refine meets_adminOnly (fun fs _ => ?_) fun _ fs => followed_same rfl
  unfold withBody
  cases d.json.parse req.body with
  | none => exact followed_same rfl
  | some body =>
    rw [meets_ite]
    refine ⟨fun _ => followed_same rfl, fun _ => ?_⟩
    simp only [orError, meets_tryCatch, meets_bind, meets_pure]
    refine meets_ask (fun _ fs => ?_) fun _ fs => followed_same rfl
    refine meets_getString (fun id _ => ?_) fun _ => followed_same rfl
    rw [meets_liftExcept]
    refine ⟨fun f _ => ?_, fun _ _ => followed_same rfl⟩
    simp only [meets_ite, meets_pure]
    refine ⟨fun _ => followed_same rfl, fun _ => ⟨fun _ => followed_same rfl, fun _ => ?_⟩⟩
    simp only [meets_bind]
    refine meets_statement (fun _ db' fs _ => ?_) fun _ fs => followed_same rfl
    unfold reload
    simp only [if_true, hreload, logEffect, meets_modify, meets_pure]
    exact meets_select (fun fs => followed_reload rfl) fun fs => followed_reload rfl

/-- PATCH /export-targets/{id} reloads. -/
theorem followed_patchExportTarget {id : String} :
    Meets (patchExportTarget d cfg req id) (admitted cfg req w) (fun _ => Followed w)
      fun _ => Followed w := by
  refine meets_adminOnly (fun fs _ => ?_) fun _ fs => followed_same rfl
  unfold withBody
  cases d.json.parse req.body with
  | none => exact followed_same rfl
  | some body =>
    simp only [orError, meets_tryCatch, meets_bind, meets_pure]
    refine meets_ask (fun _ fs => ?_) fun _ fs => followed_same rfl
    rw [meets_liftExcept]
    refine ⟨fun f _ => ?_, fun _ _ => followed_same rfl⟩
    -- the update, whichever config it carries
    have hupdate : ∀ (f : ExportTargetFields) (fs : List Bool), Meets (do
        if !(← updateExportTarget d.server id f) then
          return sendErr 404 "no such export target"
        reload cfg
        let t ← ask (findExportTarget d.server id)
        return send 200 ((t.map (exportTargetJson d)).getD (.obj [])))
        (w.withFaults fs) (fun _ => Followed w) fun _ => Followed w := by
      intro f fs
      rw [meets_bind]
      refine meets_updateExportTarget (fun fs => followed_same rfl) (fun db' fs => ?_)
        fun _ fs => followed_same rfl
      unfold reload
      simp only [Bool.not_true, Bool.false_eq_true, if_false, if_true, hreload, logEffect,
        meets_bind, meets_modify, meets_pure]
      exact meets_select (fun fs => followed_reload rfl) fun fs => followed_reload rfl
    cases body.member? "config" with
    | none => exact hupdate f _
    | some incoming =>
      simp only [meets_bind]
      refine meets_select (fun fs => ?_) fun fs => followed_same rfl
      generalize List.find? _ _ = found
      cases found with
      | none => exact followed_same rfl
      | some existing => exact hupdate _ fs

/-- DELETE /export-targets/{id} reloads. -/
theorem followed_deleteExportTarget {id : String} :
    Meets (deleteExportTarget d cfg req id) (admitted cfg req w) (fun _ => Followed w)
      fun _ => Followed w := by
  refine meets_adminOnly (fun fs _ => ?_) fun _ fs => followed_same rfl
  simp only [orError, meets_bind, meets_tryCatch, meets_pure]
  refine meets_ask (fun _ fs => ?_) fun _ fs => followed_same rfl
  refine meets_statement (fun _ db' fs _ => ?_) fun _ fs => followed_same rfl
  unfold reload
  simp only [if_true, hreload, logEffect, meets_modify]
  exact followed_reload rfl

end Asking

section Sensors

variable (hreload : cfg.onReload = true) (hclean : Clean (gateCalls cfg req) w.dbFaults)
  (hkept : PollingKept d cfg req w)

include hreload hclean hkept

/-- Enabling and disabling does not reload, so the row has to be kept. -/
theorem followed_setStatus {id status : String} (hroute : route req = some (.setStatus id status)) :
    Meets (setStatus d cfg req id status) (admitted cfg req w) (fun _ => Followed w)
      fun _ => Followed w := by
  refine meets_adminOnly_at rfl hclean (fun hclean hadmin => ?_) fun _ fs => followed_same rfl
  have hsafe := hkept hadmin
  rw [hroute] at hsafe
  rw [meets_bind]
  refine meets_updateAndServe hclean (fun res fs => followed_same rfl) (fun res db' fs _ => ?_)
    fun res db' fs hupdated hfails => ?_
  · -- served: a reload is asked for
    unfold reload
    simp only [if_true, hreload, logEffect, meets_bind, meets_modify, meets_pure]
    exact followed_reload rfl
  · refine Or.inl (hupdated.pollable fun fields hfields => ?_)
    obtain rfl := Except.ok.inj hfields
    exact hsafe hfails

/-- PATCH /sensors/{id} reloads if the edit is one of those it looks for. -/
theorem followed_patchSensor {id : String} (hroute : route req = some (.patchSensor id)) :
    Meets (patchSensor d cfg req id) (admitted cfg req w) (fun _ => Followed w)
      fun _ => Followed w := by
  refine meets_adminOnly_at rfl hclean (fun hclean hadmin => ?_) fun _ fs => followed_same rfl
  have hsafe := hkept hadmin
  rw [hroute] at hsafe
  unfold withBody
  cases hbody : d.json.parse req.body with
  | none => exact followed_same rfl
  | some body =>
    simp only [meets_bind]
    refine meets_updateAndServe hclean (fun res fs => followed_same rfl) (fun res db' fs hdb => ?_)
      fun res db' fs hupdated hfails => ?_
    · by_cases hkeys : pollingKeys.any body.contains = true
      · unfold reload
        simp only [if_true, hkeys, hreload, logEffect, meets_bind, meets_modify, meets_pure,
          Bool.and_self]
        exact followed_reload rfl
      · -- no status in the body, so none in the statement
        have hstatus : body.contains "status" = false := by
          simp only [pollingKeys, List.any_cons, List.any_nil, Bool.or_false, Bool.or_eq_true,
            not_or, Bool.not_eq_true] at hkeys
          exact hkeys.2.2.2
        simp only [hkeys, Bool.true_and, Bool.false_eq_true, if_false, meets_pure]
        rcases hdb with rfl | hupdated
        · exact followed_same rfl
        · exact Or.inl (hupdated.pollable fun fields hfields r _ _ =>
            sensorKept_unset (sensorFields_status hfields hstatus) r)
    · simp only [Bool.false_and, Bool.false_eq_true, if_false, meets_pure]
      exact Or.inl (hupdated.pollable fun fields hfields => hsafe hfails body fields hbody hfields)

end Sensors

/-- The UPDATE of an edit of a station is the second call after the `k` before it. -/
theorem meets_updateWeatherStation_at {id : String} {f : WeatherStationFields} {faults : List Bool}
    {k : Nat} {Q : Bool → World → Prop} {E : String → World → Prop}
    (hclean : Clean k faults) (hmissing : ∀ fs, Q false (w.withFaults fs))
    (hsame : ∀ fs, Q true (w.withFaults fs))
    (hdone : ∀ rows fs, updateWhere (fun r => d.server.same r.id id)
        (assignWeatherStation d.server f) w.db.weatherStations = some rows →
      Clean (k + 2) faults →
      Q true { w with db := { w.db with weatherStations := rows }, dbFaults := fs })
    (herr : ∀ e fs, E e (w.withFaults fs)) :
    Meets (updateWeatherStation d.server id f) (w.withFaults (faults.drop k)) Q E := by
  unfold updateWeatherStation
  simp only [meets_bind, meets_ite, meets_pure]
  refine meets_select_at rfl hclean (fun hclean => ?_) fun _ => herr
  refine ⟨fun _ => hmissing _, fun _ => ⟨fun _ => hsame _, fun _ => ?_⟩⟩
  refine meets_statement_at rfl hclean (fun _ db' h hclean => ?_) herr
  simp only [Option.bind_eq_bind, Option.bind_eq_some_iff, Option.pure_def, Option.some.injEq,
    Prod.mk.injEq] at h
  obtain ⟨rows, hrows, -, rfl⟩ := h
  exact hdone rows _ hrows hclean

section Stations

variable (hclean : Clean (gateCalls cfg req) w.dbFaults) (hkept : PollingKept d cfg req w)

include hclean hkept

/-- The handlers of the stations never reload. -/
theorem followed_postWeatherStation (hroute : route req = some .postWeatherStation) :
    Meets (postWeatherStation d cfg req) (admitted cfg req w) (fun _ => Followed w)
      fun _ => Followed w := by
  refine meets_adminOnly_at rfl hclean (fun hclean hadmin => ?_) fun _ fs => followed_same rfl
  have hsafe := hkept hadmin
  rw [hroute] at hsafe
  unfold withBody
  cases hbody : d.json.parse req.body with
  | none => exact followed_same rfl
  | some body =>
    rw [meets_ite]
    refine ⟨fun _ => followed_same rfl, fun _ => ?_⟩
    simp only [orError, meets_tryCatch, meets_bind, meets_pure]
    refine meets_connect_at rfl hclean (fun hclean => ?_) fun _ fs => followed_same rfl
    refine meets_getString (fun id hid => ?_) fun _ => followed_same rfl
    rw [meets_liftExcept]
    refine ⟨fun f hf => ?_, fun _ _ => followed_same rfl⟩
    refine meets_statement_at rfl hclean (fun _ db' h hclean => ?_) fun _ fs => followed_same rfl
    have hdb' : pollable db' = pollable w.db := by
      simp only [Option.bind_eq_bind, Option.bind_eq_some_iff, Option.pure_def, Option.some.injEq,
        Prod.mk.injEq] at h
      obtain ⟨id', hid', rows, hrows, -, rfl⟩ := h
      obtain ⟨hold, hnew⟩ := hsafe body id id' f hbody hid hid' hf hclean
      refine pollable_stations (polledIds_upsertRow hrows (fun r hr hid _ hassign => ?_)
        fun hany r' hassign => ?_)
      · exact StationKept.row (f := { f with config := givenConfig d body }) (hold r hr hid) hassign
      · -- a fresh row is not polled before its provider is set
        have hrow := StationKept.row (f := { f with config := givenConfig d body })
          (r := { id := id', createdAt := d.server.currentTimestamp w.now }) (hnew hany) hassign
        exact hrow.1
    exact meets_select (fun fs => Or.inl hdb') fun fs => Or.inl hdb'

theorem followed_deleteWeatherStation {id : String}
    (hroute : route req = some (.deleteWeatherStation id)) :
    Meets (deleteWeatherStation d cfg req id) (admitted cfg req w) (fun _ => Followed w)
      fun _ => Followed w := by
  refine meets_adminOnly_at rfl hclean (fun hclean hadmin => ?_) fun _ fs => followed_same rfl
  have hsafe := hkept hadmin
  rw [hroute] at hsafe
  simp only [orError, meets_tryCatch, meets_bind, meets_pure]
  refine meets_connect_at rfl hclean (fun hclean => ?_) fun _ fs => followed_same rfl
  refine meets_statement_at rfl hclean (fun _ db' h hclean => ?_) fun _ fs => followed_same rfl
  cases h
  exact Or.inl (pollable_stations (polledIds_filter (hsafe hclean)))

theorem followed_patchWeatherStation {id : String}
    (hroute : route req = some (.patchWeatherStation id)) :
    Meets (patchWeatherStation d cfg req id) (admitted cfg req w) (fun _ => Followed w)
      fun _ => Followed w := by
  refine meets_adminOnly_at rfl hclean (fun hclean hadmin => ?_) fun _ fs => followed_same rfl
  have hsafe := hkept hadmin
  rw [hroute] at hsafe
  unfold withBody
  cases hbody : d.json.parse req.body with
  | none => exact followed_same rfl
  | some body =>
    simp only [orError, meets_tryCatch, meets_bind, meets_pure]
    refine meets_connect_at rfl hclean (fun hclean => ?_) fun _ fs => followed_same rfl
    rw [meets_liftExcept]
    refine ⟨fun f hf => ?_, fun _ _ => followed_same rfl⟩
    -- the update, `k` calls into the request and whichever config it carries
    have hupdate : ∀ (config : Option String) (k : Nat), Clean k w.dbFaults →
        (Clean (k + 2) w.dbFaults → Answered cfg req w (if body.contains "config" then 4 else 3)) →
        Meets (do
          if !(← updateWeatherStation d.server id { f with config }) then
            return sendErr 404 "no such weather station"
          let w ← ask (findWeatherStation d.server id)
          return send 200 ((w.map (weatherStationJson d)).getD (.obj [])))
        (w.withFaults (w.dbFaults.drop k)) (fun _ => Followed w) fun _ => Followed w := by
      intro config k hclean hanswered
      have hserve : ∀ db' fs, pollable db' = pollable w.db → Meets (do
          let w ← ask (findWeatherStation d.server id)
          return send 200 ((w.map (weatherStationJson d)).getD (.obj [])))
          { w with db := db', dbFaults := fs } (fun _ => Followed w) fun _ => Followed w := by
        intro db' fs hdb'
        rw [meets_bind]
        exact meets_select (fun fs => Or.inl hdb') fun fs => Or.inl hdb'
      rw [meets_bind]
      refine meets_updateWeatherStation_at hclean (fun fs => followed_same rfl)
        (fun fs => hserve _ fs rfl) (fun rows fs hrows hclean => hserve _ fs ?_)
        fun _ fs => followed_same rfl
      exact pollable_updateStation hrows fun r hr hid st provider hst hprovider =>
        hsafe body f hbody hf (hanswered hclean) r hr hid st provider hst hprovider
    cases hconfig : body.member? "config" with
    | none =>
      have hno : body.contains "config" = false := by simp [Json.contains, hconfig]
      refine hupdate f.config _ hclean fun hclean => ?_
      rw [hno]
      exact hclean
    | some incoming =>
      have hyes : body.contains "config" = true := by simp [Json.contains, hconfig]
      simp only [meets_bind]
      refine meets_select_at rfl hclean (fun hclean => ?_) fun _ _ fs => followed_same rfl
      generalize List.find? _ _ = found
      cases found with
      | none => exact followed_same rfl
      | some existing =>
        refine hupdate _ _ hclean fun hclean => ?_
        rw [hyes]
        exact hclean

end Stations

/-- The frame of a talk with a device. -/
def dbAndFaults : Frame World := Frame.same fun w => (w.db, w.dbFaults)

theorem dbAndFaults_openDevice (transport address : String) :
    Keeps dbAndFaults (Sqm.openDevice transport address) := by
  intro w
  unfold Sqm.openDevice
  split
  · exact dbAndFaults.refl w
  · match w.opens with
    | [] => rfl
    | .error e :: rest => rfl
    | .ok () :: rest => rfl

theorem dbAndFaults_info (dev : Sqm.SqmDevice) : Keeps dbAndFaults (dev.info d) := by
  refine keeps_bind (fun w => ?_) fun line => keeps_liftExcept _
  unfold Sqm.SqmDevice.queryRaw
  match w.turns with
  | [] => rfl
  | turn :: rest =>
    simp only
    cases turn.answer <;> rfl

/-- Probing a new sensor may fill in what the device says of itself. -/
theorem meets_probeFill {f : SensorFields} {Q : SensorFields → World → Prop}
    {E : String → World → Prop}
    (h : ∀ f' w', w'.db = w.db → w'.dbFaults = w.dbFaults → f'.status = f.status → Q f' w') :
    Meets (probeFill d f) w Q E := by
  have hsame : ∀ f' w', dbAndFaults.rel w w' → f'.status = f.status → Q f' w' := fun f' w' hw hf =>
    h f' w' (congrArg Prod.fst hw) (congrArg Prod.snd hw) hf
  unfold probeFill
  match f.transport, f.address with
  | none, _ => exact hsame f w rfl rfl
  | some _, none => exact hsame f w rfl rfl
  | some transport, some address =>
    simp only [meets_tryCatch, meets_bind, meets_pure]
    refine ((dbAndFaults_openDevice _ _).meets w).mono (fun dev w₁ hw₁ => ?_)
      fun _ _ hw₁ => hsame f _ hw₁ rfl
    exact ((dbAndFaults_info dev).meets w₁).mono
      (fun u w₂ hw₂ => hsame _ _ (dbAndFaults.trans hw₁ hw₂) rfl)
      fun _ _ hw₂ => hsame f _ (dbAndFaults.trans hw₁ hw₂) rfl

/-- Nor does POST /sensors. -/
theorem followed_postSensor (hclean : Clean (gateCalls cfg req) w.dbFaults)
    (hkept : PollingKept d cfg req w) (hroute : route req = some .postSensor) :
    Meets (postSensor d cfg req) (admitted cfg req w) (fun _ => Followed w)
      fun _ => Followed w := by
  refine meets_adminOnly_at rfl hclean (fun hclean hadmin => ?_) fun _ fs => followed_same rfl
  have hsafe := hkept hadmin
  rw [hroute] at hsafe
  unfold withBody
  cases hbody : d.json.parse req.body with
  | none => exact followed_same rfl
  | some body =>
    rw [meets_ite]
    refine ⟨fun _ => followed_same rfl, fun _ => ?_⟩
    rw [meets_bind]
    refine meets_getString (fun id hid => ?_) fun _ => followed_same rfl
    rw [meets_bind, meets_liftExcept]
    refine ⟨fun f hf => ?_, fun _ _ => followed_same rfl⟩
    dsimp only
    rw [meets_ite]
    refine ⟨fun _ => followed_same rfl, fun hplace => ?_⟩
    have hplaced : f.transport.isSome ∧ f.address.isSome := by
      simpa [Option.isSome_iff_ne_none] using hplace
    -- the write, `k` calls into the request, of what the body or the device says
    have hwrite : ∀ f' w', w'.db = w.db →
        w'.dbFaults = w.dbFaults.drop (gateCalls cfg req + authCalls cfg req) →
        f'.status = f.status.orElse (fun _ => some "inactive") →
        Meets (orError 500 do
          ask connect
          upsertSensor d.server id f'
          let s ← ask (findSensor d.server id)
          return send 201 ((s.map sensorJson).getD (Json.ofMembers [("id", .str id)])))
          w' (fun _ => Followed w) fun _ => Followed w := by
      intro f' w' hdb hfaults hstatus
      simp only [orError, meets_tryCatch, meets_bind, meets_pure]
      refine meets_connect_at hfaults hclean (fun hclean => ?_) fun _ fs => followed_same hdb
      refine meets_statement_at rfl hclean (fun _ db' h hclean => ?_) fun _ fs => followed_same hdb
      have hdb' : pollable db' = pollable w.db := by
        simp only [Option.bind_eq_bind, Option.bind_eq_some_iff, Option.pure_def, Option.some.injEq,
          Prod.mk.injEq] at h
        obtain ⟨-, -, id', hid', rows, hrows, -, rfl⟩ := h
        have hpost := hsafe body id id' f hbody hid hid' hf hplaced.1 hplaced.2 hclean
        rw [hdb] at hrows ⊢
        exact pollable_upsertSensor hrows (hpost.of_status hstatus)
      exact meets_select (fun fs => Or.inl hdb') fun fs => Or.inl hdb'
    -- both uses of `if probe` come down to this
    have hprobed : Meets (probeFill d { f with status := f.status.orElse fun _ => some "inactive" })
        (w.withFaults (w.dbFaults.drop (gateCalls cfg req + authCalls cfg req)))
        (fun f' w' => Meets (orError 500 do
          ask connect
          upsertSensor d.server id f'
          let s ← ask (findSensor d.server id)
          return send 201 ((s.map sensorJson).getD (Json.ofMembers [("id", .str id)])))
          w' (fun _ => Followed w) fun _ => Followed w)
        fun _ => Followed w :=
      meets_probeFill fun f' w' hdb hfaults hstatus => hwrite f' w' hdb hfaults hstatus
    rw [meets_ite]
    refine ⟨fun _ => ?_, fun _ => ?_⟩
    · rw [meets_bind]
      unfold getMember
      rw [meets_liftExcept]
      refine ⟨fun probe _ => ?_, fun _ _ => followed_same rfl⟩
      simp only [meets_ite, meets_bind, meets_pure]
      exact ⟨fun _ => hprobed, fun _ => hwrite _ _ rfl rfl rfl⟩
    · simp only [meets_ite, meets_bind, meets_pure]
      exact ⟨fun _ => hprobed, fun _ => hwrite _ _ rfl rfl rfl⟩

end Handlers

/-! ## Every request -/

/-- Every handler that writes a device list is followed, or keeps the lists. -/
theorem followed_handle {e : Endpoint} (hreload : cfg.onReload = true)
    (hclean : Clean (gateCalls cfg req) w.dbFaults) (hkept : PollingKept d cfg req w)
    (hroute : route req = some e) (hdevices : e.writesDevices = true) :
    Meets (handle d cfg e req) (admitted cfg req w) (fun _ => Followed w) fun _ => Followed w := by
  cases e with
  | postSensor => exact followed_postSensor hclean hkept hroute
  | patchSensor id => exact followed_patchSensor hreload hclean hkept hroute
  | setStatus id status => exact followed_setStatus hreload hclean hkept hroute
  | deleteSensor id => exact followed_deleteSensor hreload
  | postWeatherStation => exact followed_postWeatherStation hclean hkept hroute
  | patchWeatherStation id => exact followed_patchWeatherStation hclean hkept hroute
  | deleteWeatherStation id => exact followed_deleteWeatherStation hclean hkept hroute
  | postExportTarget => exact followed_postExportTarget hreload
  | patchExportTarget id => exact followed_patchExportTarget hreload
  | deleteExportTarget id => exact followed_deleteExportTarget hreload
  | _ => cases hdevices

/-- A handler that writes no device table, among them logins and the ones that only read. -/
theorem polls_calm {e : Endpoint} (hroute : route req = some e) (hinit : e ≠ .dbInit)
    (hdevices : e.writesDevices = false) :
    Meets (handle d cfg e req) w (fun _ w' => pollable w'.db = pollable w.db)
      fun _ w' => pollable w'.db = pollable w.db := by
  cases hwrites : e.writes req with
  | true => exact (polls_handle hdevices hinit hwrites).meets w
  | false =>
    have hsame : ∀ w', Outcome d cfg req w w' → pollable w'.db = pollable w.db := by
      intro w' h
      cases h with
      | quiet h => rw [h.db]
      | loggedIn u hu row hrow hdb hout => rw [hdb]; rfl
      | loggedOut hdb hout => rw [hdb]; rfl
      | passwordChanged si u hu hash hdb hout => rw [hdb]; rfl
      | privileged e' hroute' hwrites' h =>
        obtain rfl : e' = e := Option.some.inj (hroute'.symm.trans hroute)
        rw [hwrites] at hwrites'
        cases hwrites'
    exact (outcome_handle hroute).mono (fun _ _ h => hsame _ h) fun _ _ h => hsame _ h

/-- So is every request. -/
theorem serve_followed (hreload : cfg.onReload = true) (hinit : route req ≠ some .dbInit)
    (hkept : PollingKept d cfg req w) : Followed w (endState (serve d cfg req w)) := by
  refine Meets.endState (P := Followed w) ?_
  unfold serve
  simp only [meets_tryCatch, meets_bind, meets_pure]
  refine meets_gate_at (fun hclean => ?_) fun res fs => followed_same rfl
  cases webFile cfg req with
  | some res => exact followed_same rfl
  | none =>
    cases hroute : route req with
    | none => exact followed_same rfl
    | some e =>
      cases hdevices : e.writesDevices with
      | true => exact followed_handle hreload hclean hkept hroute hdevices
      | false =>
        have hne : e ≠ .dbInit := fun h => hinit (h ▸ hroute)
        exact (polls_calm hroute hne hdevices).mono (fun _ _ h => Or.inl h) fun _ _ h => Or.inl h

/-! ## The daemon over a run -/

/-- Whether something done outside is the reload signal. -/
def isReload : Effect → Bool
  | .reload => true
  | _ => false

/-- The daemon: the world, the workers that run (none once it ended), and whether a
reload is pending. -/
structure Service where
  world : World
  running : Option Running
  pending : Bool := false

/-- What can happen to the service. -/
inductive Event where
  | request (x : Exchange)
  /-- the main loop takes the pending signal, with what the database does then -/
  | reload (o : Outside)

/-- Read the device lists and start over; the daemon ends where that fails. -/
def Service.load (d : Deps) (w : World) : Service :=
  match ask (loadDevices d) w with
  | .ok running w' => { world := w', running := some running }
  | .error _ w' => { world := w', running := none }

/-- A request is served, and may ask for a reload. -/
def Service.serve (d : Deps) (cfg : ApiConfig) (s : Service) (x : Exchange) : Service :=
  if s.running.isNone then s
  else
    let w' := exchange d cfg s.world x
    { s with
      world := w'
      pending := s.pending || (w'.effects.drop s.world.effects.length).any isReload }

/-- The main loop takes the signal and starts the workers over. -/
def Service.takeReload (d : Deps) (s : Service) (o : Outside) : Service :=
  if s.running.isSome && s.pending then Service.load d (s.world.facing o) else s

/-- One event. -/
def Service.next (d : Deps) (cfg : ApiConfig) (s : Service) : Event → Service
  | .request x => s.serve d cfg x
  | .reload o => s.takeReload d o

/-- The workers are the pollable rows, unless a reload is pending. -/
def Service.Follows (s : Service) : Prop :=
  ∀ r, s.running = some r → s.pending = false → r.Matches (pollable s.world.db)

/-- A request is not the schema script and keeps what is polled, or else a reload is
pending anyway. -/
def Service.Kept (d : Deps) (cfg : ApiConfig) (s : Service) : Event → Prop
  | .request x => s.pending = true ∨
      route x.req ≠ some .dbInit ∧ PollingKept d cfg x.req (s.world.facing x.outside)
  | .reload _ => True

/-- Right after a load the workers follow the tables. -/
theorem Service.load_follows (w : World) : (Service.load d w).Follows := by
  have h : Meets (ask (loadDevices d)) w (fun r w' => r.Matches (pollable w'.db)) fun _ _ => True :=
    meets_loadDevices d (fun _ => started_matches d w.db) fun _ _ => trivial
  unfold Service.load
  cases hload : ask (loadDevices d) w with
  | ok running w' =>
    intro r hr _
    obtain rfl := Option.some.inj hr
    exact h.of_ok hload
  | error e w' =>
    intro r hr _
    cases hr

/-- A request keeps that, up to the reload it asked for. -/
theorem Service.serve_follows (hreload : cfg.onReload = true) {s : Service} {x : Exchange}
    (hkept : s.Kept d cfg (.request x)) (hs : s.Follows) : (s.serve d cfg x).Follows := by
  unfold Service.serve
  by_cases hended : s.running.isNone = true
  · rw [if_pos hended]
    exact hs
  · rw [if_neg hended]
    intro r hr hpending
    obtain ⟨hidle, hquiet⟩ := Bool.or_eq_false_iff.mp hpending
    rcases hkept with hbusy | ⟨hinit, hkept⟩
    · rw [hidle] at hbusy
      cases hbusy
    · rcases serve_followed hreload hinit hkept with hsame | hasked
      · have hbefore : r.Matches (pollable s.world.db) := hs r hr hidle
        show r.Matches (pollable (exchange d cfg s.world x).db)
        unfold exchange
        rw [hsame]
        exact hbefore
      · -- what asked for a reload has left one pending
        have hany : ((exchange d cfg s.world x).effects.drop s.world.effects.length).any
            isReload = true := List.any_eq_true.mpr ⟨_, hasked, rfl⟩
        rw [hany] at hquiet
        cases hquiet

/-- And a reload brings it back. -/
theorem Service.takeReload_follows {s : Service} {o : Outside} (hs : s.Follows) :
    (s.takeReload d o).Follows := by
  unfold Service.takeReload
  split
  · exact Service.load_follows _
  · exact hs

theorem Service.load_calm (db : Db) :
    Service.load d { db } = { world := { db }, running := some (started d db) } := rfl

/-- The body of a request that adds a station. -/
def stationBody : String := "a station and its provider"

def stationDeps : Deps := Deps.plain
  [(stationBody, Json.ofMembers [("id", .str "w1"), ("provider", .str "openmeteo")])]

def tokenConfig : ApiConfig := { token := "t" }

/-- It is sent by somebody who has the token. -/
def addsStation : Exchange where
  req :=
    { method := .post, path := "/api/v1/weather-stations", body := stationBody
      headers := [("Authorization", "t")] }

/-- A sensor that is active is enabled. -/
def enablesSensor : Exchange where
  req :=
    { method := .post, path := "/api/v1/sensors/s1/enable", headers := [("Authorization", "t")] }

def sensorSite : World where
  db := { sensors := [{ id := "s1", transport := .tcp, address := "10.0.0.7", status := .inactive }] }

end NightWatcher.Daemon
