import NightWatcher.Api.Http
import NightWatcher.Sqm.Device

/-!
# Bodies of requests and responses

The rows as the API serves them, and the editable columns as a request body
gives them. A config is served with its secrets redacted (`maskConfig`), and an
edited one is merged into the stored one so that a redacted or blank secret
keeps its value (`mergeConfig`).
-/

namespace NightWatcher.Api

open Sqm

/-! ## Rows -/

/-- A number, or `null`. -/
def jOpt : Option ℚ → Json
  | some q => .dbl q
  | none => .null

/-- A whole number, or `null`. -/
def jOptInt : Option Int → Json
  | some i => .int i
  | none => .null

/-- A label. -/
def jEnum {α : Type} [SqlEnum α] (a : α) : Json := .str (SqlEnum.text a)

/-- A calibration, as the device has it. -/
def calJson (c : Calibration) : Json :=
  Json.ofMembers [("light_cal_offset", .dbl c.lightCalOffset),
    ("dark_cal_period_s", .dbl c.darkCalPeriodS), ("temp_light_c", .dbl c.tempLightC),
    ("sensor_offset", .dbl c.sensorOffset), ("temp_dark_c", .dbl c.tempDarkC),
    ("raw", .str c.raw)]

/-- What is armed and what is locked. -/
def calStatusJson (s : CalStatus) : Json :=
  Json.ofMembers [("mode", .str s.mode.toString), ("armed", .bool s.armed),
    ("locked", .bool s.locked), ("raw", .str s.raw)]

/-- A row of the calibration log. -/
def configLogJson (r : ConfigLogRow) : Json :=
  Json.ofMembers [("id", .int r.id), ("ts_utc", .str r.tsUtc), ("event_type", jEnum r.eventType),
    ("light_cal_offset", jOpt r.lightCalOffset), ("dark_cal_period_s", jOpt r.darkCalPeriodS),
    ("temp_light_c", jOpt r.tempLightC), ("sensor_offset", jOpt r.sensorOffset),
    ("temp_dark_c", jOpt r.tempDarkC), ("interval_s", jOptInt r.intervalS),
    ("threshold", jOpt r.threshold), ("raw", .str r.raw), ("changed_by", .str r.changedBy),
    ("note", .str r.note)]

/-- A sensor. -/
def sensorJson (s : SensorRow) : Json :=
  Json.ofMembers [("id", .str s.id), ("name", .str s.name), ("site", .str s.site),
    ("serial_number", .str s.serialNumber), ("model", .str s.model),
    ("protocol_ver", jOptInt s.protocolVer), ("feature_ver", jOptInt s.featureVer),
    ("latitude", jOpt s.latitude), ("longitude", jOpt s.longitude),
    ("elevation_m", jOpt s.elevationM), ("timezone", .str s.timezone),
    ("transport", jEnum s.transport), ("address", .str s.address),
    ("poll_interval_s", .int s.pollIntervalS), ("status", jEnum s.status),
    ("installed_at", .str s.installedAt), ("notes", .str s.notes),
    ("created_at", .str s.createdAt)]

/-- A reading. -/
def readingRowJson (r : ReadingRow) : Json :=
  Json.ofMembers [("id", .int r.id), ("sensor_id", .str r.sensorId), ("ts_utc", .str r.tsUtc),
    ("mag_arcsec2", .dbl r.magArcsec2), ("freq_hz", .int r.freqHz),
    ("period_counts", .int r.periodCounts), ("period_s", .dbl r.periodS),
    ("temp_c", .dbl r.tempC), ("quality", jEnum r.quality), ("source", jEnum r.source),
    ("raw_line", .str r.rawLine)]

/-! ## Secrets in configs -/

/-- `is_secret_key` -/
def isSecretKey (k : String) : Bool :=
  let lk := k.toList.map Char.toLower
  ["key", "secret", "password", "token"].any fun s => decide (s.toList <:+: lk)

mutual

/-- Secret string values redacted, in nested objects too. -/
def maskConfigJson : Json → Json
  | .obj ms => .obj (maskMembers ms)
  | j => j

/-- The members of a config, those of secret keys masked. -/
def maskMembers : List (String × Json) → List (String × Json)
  | [] => []
  | (k, v) :: rest =>
    let v' :=
      if v.isObject then maskConfigJson v
      else
        match v with
        | .str s => if isSecretKey k ∧ s ≠ "" then .str "***" else v
        | _ => v
    (k, v') :: maskMembers rest

end

/-- `mask_config`: what is no object becomes an empty one. -/
def maskConfig (d : Deps) (configJson : String) : Json :=
  if configJson = "" then .obj []
  else
    match d.json.parse configJson with
    | some (.obj ms) => maskConfigJson (.obj ms)
    | _ => .obj []

mutual

/-- Incoming members over existing ones; blank and masked secrets change nothing. -/
def mergeConfigJson (existing : Json) : Json → Json
  | .obj ms => mergeMembers existing.members ms
  | _ => .obj existing.members

/-- One member of an edit after the other goes into the config. -/
def mergeMembers (existing : List (String × Json)) : List (String × Json) → Json
  | [] => .obj existing
  | (k, v) :: rest =>
    let existing' :=
      if v.isObject then
        Json.setMember k (mergeConfigJson ((Json.findMember k existing).getD (.obj [])) v) existing
      else
        match v with
        | .str s =>
          if isSecretKey k ∧ (s = "" ∨ s = "***") then existing
          else Json.setMember k v existing
        | _ => Json.setMember k v existing
    mergeMembers existing' rest

end

/-- `merge_config`: an edited config in which a mask stands for what it hides. -/
def mergeConfig (d : Deps) (existingJson : String) (incoming : Json) : String :=
  let existing :=
    if existingJson = "" then Json.obj []
    else (d.json.parse existingJson).getD (.obj [])
  d.json.dump (mergeConfigJson existing incoming)

/-! ## Rows with a config, and the rest -/

/-- A station, its config masked. -/
def weatherStationJson (d : Deps) (w : WeatherStationRow) : Json :=
  Json.ofMembers [("id", .str w.id), ("name", .str w.name), ("site", .str w.site),
    ("model", .str w.model), ("provider", .str w.provider), ("config", maskConfig d w.config),
    ("transport", .str w.transport), ("address", .str w.address), ("latitude", jOpt w.latitude),
    ("longitude", jOpt w.longitude), ("elevation_m", jOpt w.elevationM),
    ("timezone", .str w.timezone), ("poll_interval_s", .int w.pollIntervalS),
    ("status", jEnum w.status), ("installed_at", .str w.installedAt), ("notes", .str w.notes),
    ("created_at", .str w.createdAt)]

/-- A reading of the weather. -/
def weatherReadingMembers (r : WeatherReadingRow) : List (String × Json) :=
  [("id", .int r.id), ("station_id", .str r.stationId), ("ts_utc", .str r.tsUtc),
    ("temp_c", jOpt r.tempC), ("humidity_pct", jOpt r.humidityPct),
    ("dew_point_c", jOpt r.dewPointC), ("pressure_hpa", jOpt r.pressureHpa),
    ("pressure_abs_hpa", jOpt r.pressureAbsHpa), ("wind_speed_ms", jOpt r.windSpeedMs),
    ("wind_gust_ms", jOpt r.windGustMs), ("wind_dir_deg", jOptInt r.windDirDeg),
    ("rain_rate_mmh", jOpt r.rainRateMmh), ("rain_daily_mm", jOpt r.rainDailyMm),
    ("uv_index", jOpt r.uvIndex), ("solar_wm2", jOpt r.solarWm2),
    ("cloud_cover_pct", jOpt r.cloudCoverPct), ("source", .str r.source)]

/-- A line of the database status. -/
def tableCountJson (t : TableCount) : Json :=
  Json.ofMembers [("table", .str t.table), ("present", .bool t.present), ("rows", .int t.rows)]

/-- An event. -/
def eventJson (e : EventRow) : Json :=
  Json.ofMembers [("id", .int e.id), ("ts_utc", .str e.tsUtc), ("device_id", .str e.deviceId),
    ("source", .str e.source), ("level", jEnum e.level), ("event", .str e.event),
    ("detail", .str e.detail)]

/-- A target, its config masked. -/
def exportTargetJson (d : Deps) (t : ExportTargetRow) : Json :=
  Json.ofMembers [("id", .str t.id), ("sensor_id", .str t.sensorId), ("name", .str t.name),
    ("target", .str t.target), ("config", maskConfig d t.config), ("schedule", jEnum t.schedule),
    ("schedule_time", .str t.scheduleTime), ("interval_s", jOptInt t.intervalS),
    ("schedule_day", jOptInt t.scheduleDay), ("last_export_ts", .str t.lastExportTs),
    ("status", jEnum t.status), ("notes", .str t.notes), ("created_at", .str t.createdAt)]

/-- A row of the export log. -/
def exportLogJson (l : ExportLogRow) : Json :=
  Json.ofMembers [("id", .int l.id), ("target_id", .str l.targetId), ("ts_utc", .str l.tsUtc),
    ("from_ts", .str l.fromTs), ("to_ts", .str l.toTs), ("row_count", .int l.rowCount),
    ("file_name", .str l.fileName), ("remote_id", .str l.remoteId), ("status", jEnum l.status),
    ("detail", .str l.detail)]

/-- A heartbeat older than this is no sign of life. -/
def kExtensionActiveMaxAgeS : Int := 180

/-- A row and its heartbeat's age. -/
def extensionJson (e : ExtensionRow × Int) : Json :=
  let active := e.1.status = "active" ∧ 0 ≤ e.2 ∧ e.2 ≤ kExtensionActiveMaxAgeS
  Json.ofMembers [("name", .str e.1.name), ("label", .str e.1.label), ("version", .str e.1.version),
    ("data_table", .str e.1.dataTable), ("host", .str e.1.host), ("pid", jOptInt e.1.pid),
    ("status", .str e.1.status), ("last_heartbeat", .str (TimeUtil.fmtSqlUtc e.1.lastHeartbeat)),
    ("started_at", .str e.1.startedAt), ("heartbeat_age_s", .int e.2), ("active", .bool active)]

/-! ## Checked texts -/

/-- `valid_bind` -/
def validBind (b : String) : Bool :=
  b ≠ "" ∧ b.utf8ByteSize ≤ 64 ∧
    b.toList.all fun c => c.isAlphanum || c == '.' || c == ':' || c == '-' || c == '_'

/-- A table name that can be put into a statement as it is. -/
def validIdentifier (s : String) : Bool :=
  match s.toList with
  | [] => false
  | c :: cs =>
    s.utf8ByteSize ≤ 64 ∧ (c.isAlpha || c == '_') ∧ cs.all fun c => c.isAlphanum || c == '_'

/-- The name under which a browser saves an ad-hoc export. -/
def dsnDownloadName (d : Deps) (id config lo hi : String) : String :=
  let site :=
    match (if config = "" then none else d.json.parse config) with
    | some c =>
      match c.member? "site_id" with
      | some (.str s) => if s = "" then id else s
      | _ => id
    | none => id
  let date := fun (s dflt : String) =>
    if 10 ≤ s.length then String.ofList (s.toList.take 10) else dflt
  let name := site ++ "_" ++ date lo "start" ++ "_" ++ date hi "end" ++ ".dat"
  String.ofList (name.toList.map fun c =>
    if c.isAlphanum || c == '-' || c == '_' || c == '.' then c else '_')

/-! ## Columns in a request body -/

/-- `sensor_fields_from_json` -/
def sensorFieldsFromJson (b : Json) : Except String SensorFields := do
  let name ← b.optional "name" Json.getString
  let site ← b.optional "site" Json.getString
  let serialNumber ← b.optional "serial_number" Json.getString
  let model ← b.optional "model" Json.getString
  let protocolVer ← b.optional "protocol_ver" Json.getInt
  let featureVer ← b.optional "feature_ver" Json.getInt
  let latitude ← b.optional "latitude" Json.getDouble
  let longitude ← b.optional "longitude" Json.getDouble
  let elevationM ← b.optional "elevation_m" Json.getDouble
  let timezone ← b.optional "timezone" Json.getString
  let transport ← b.optional "transport" Json.getString
  let address ← b.optional "address" Json.getString
  let pollIntervalS ← b.optional "poll_interval_s" Json.getInt
  let status ← b.optional "status" Json.getString
  let installedAt ← b.optional "installed_at" Json.getString
  let notes ← b.optional "notes" Json.getString
  let f : SensorFields :=
    { name, site, serialNumber, model, protocolVer, featureVer, latitude, longitude, elevationM,
      timezone, transport, address, pollIntervalS, status, installedAt, notes }
  -- the shorthands win over `transport` and `address`, and `serial` over `tcp`
  let f ← match b.given? "tcp" with
    | some v => pure { f with transport := some "tcp", address := some (← v.getString) }
    | none => pure f
  match b.given? "serial" with
  | some v => return { f with transport := some "serial", address := some (← v.getString) }
  | none => return f

/-! ### Which columns a sensor's body sets -/

/-- A column is set by a member of its name that is not null. -/
def Sets (body : Json) (key : String) : Prop := (body.given? key).isSome = true

instance (body : Json) (key : String) : Decidable (Sets body key) :=
  inferInstanceAs (Decidable (_ = true))

/-- The place of a sensor is set by its own members and by the shorthands. -/
def SetsTransport (body : Json) : Prop := Sets body "transport" ∨ Sets body "tcp" ∨ Sets body "serial"

/-- The body gives an address, or one of the two short forms of it. -/
def SetsAddress (body : Json) : Prop := Sets body "address" ∨ Sets body "tcp" ∨ Sets body "serial"

section SensorFields

variable {body : Json} {f : SensorFields}

/-- The fields that are read from a body: those that it sets. -/
structure FieldsOf (body : Json) (f : SensorFields) : Prop where
  name : f.name.isSome = true ↔ Sets body "name"
  site : f.site.isSome = true ↔ Sets body "site"
  serialNumber : f.serialNumber.isSome = true ↔ Sets body "serial_number"
  model : f.model.isSome = true ↔ Sets body "model"
  protocolVer : f.protocolVer.isSome = true ↔ Sets body "protocol_ver"
  featureVer : f.featureVer.isSome = true ↔ Sets body "feature_ver"
  latitude : f.latitude.isSome = true ↔ Sets body "latitude"
  longitude : f.longitude.isSome = true ↔ Sets body "longitude"
  elevationM : f.elevationM.isSome = true ↔ Sets body "elevation_m"
  timezone : f.timezone.isSome = true ↔ Sets body "timezone"
  transport : f.transport.isSome = true ↔ SetsTransport body
  address : f.address.isSome = true ↔ SetsAddress body
  pollIntervalS : f.pollIntervalS.isSome = true ↔ Sets body "poll_interval_s"
  status : f.status.isSome = true ↔ Sets body "status"
  installedAt : f.installedAt.isSome = true ↔ Sets body "installed_at"
  notes : f.notes.isSome = true ↔ Sets body "notes"

/-- A field that is read is set if and only if the body has it. -/
theorem optional_set {α : Type} {key : String} {get : Json → Except String α} {o : Option α}
    (h : body.optional key get = .ok o) : o.isSome = true ↔ Sets body key := by
  unfold Json.optional at h
  unfold Sets
  cases hgiven : body.given? key with
  | none =>
    rw [hgiven] at h
    obtain rfl := Except.ok.inj h
    exact Iff.rfl
  | some v =>
    rw [hgiven] at h
    dsimp only at h
    cases hget : get v with
    | error e =>
      rw [hget] at h
      cases h
    | ok a =>
      rw [hget] at h
      obtain rfl := Except.ok.inj h
      exact Iff.rfl

/-- What is read of a body is what the body gives. -/
theorem sensorFields_of (h : sensorFieldsFromJson body = .ok f) : FieldsOf body f := by
  -- one step of the parser at a time, in the order of the fields
  unfold sensorFieldsFromJson at h
  obtain ⟨name, hname, h⟩ := except_bind_eq_ok.mp h
  obtain ⟨site, hsite, h⟩ := except_bind_eq_ok.mp h
  obtain ⟨serialNumber, hserialNumber, h⟩ := except_bind_eq_ok.mp h
  obtain ⟨model, hmodel, h⟩ := except_bind_eq_ok.mp h
  obtain ⟨protocolVer, hprotocolVer, h⟩ := except_bind_eq_ok.mp h
  obtain ⟨featureVer, hfeatureVer, h⟩ := except_bind_eq_ok.mp h
  obtain ⟨latitude, hlatitude, h⟩ := except_bind_eq_ok.mp h
  obtain ⟨longitude, hlongitude, h⟩ := except_bind_eq_ok.mp h
  obtain ⟨elevationM, helevationM, h⟩ := except_bind_eq_ok.mp h
  obtain ⟨timezone, htimezone, h⟩ := except_bind_eq_ok.mp h
  obtain ⟨transport, htransport, h⟩ := except_bind_eq_ok.mp h
  obtain ⟨address, haddress, h⟩ := except_bind_eq_ok.mp h
  obtain ⟨pollIntervalS, hpollIntervalS, h⟩ := except_bind_eq_ok.mp h
  obtain ⟨status, hstatus, h⟩ := except_bind_eq_ok.mp h
  obtain ⟨installedAt, hinstalledAt, h⟩ := except_bind_eq_ok.mp h
  obtain ⟨notes, hnotes, h⟩ := except_bind_eq_ok.mp h
  let read (transport address : Option String) : SensorFields :=
    { name, site, serialNumber, model, protocolVer, featureVer, latitude, longitude, elevationM,
      timezone, transport, address, pollIntervalS, status, installedAt, notes }
  -- all fields but the two of the place are set as the body has them
  have hplace : ∀ transport address : Option String, (transport.isSome = true ↔ SetsTransport body) →
      (address.isSome = true ↔ SetsAddress body) → FieldsOf body (read transport address) :=
    fun transport address htransport haddress => ⟨optional_set hname, optional_set hsite,
      optional_set hserialNumber, optional_set hmodel, optional_set hprotocolVer,
      optional_set hfeatureVer, optional_set hlatitude, optional_set hlongitude,
      optional_set helevationM, optional_set htimezone, htransport, haddress,
      optional_set hpollIntervalS, optional_set hstatus,
      optional_set hinstalledAt,
      optional_set hnotes⟩
  have hgiven : ∀ transport address : String, Sets body "tcp" ∨ Sets body "serial" →
      FieldsOf body (read (some transport) (some address)) := fun _ _ hset =>
    hplace _ _ (iff_of_true rfl (Or.inr hset)) (iff_of_true rfl (Or.inr hset))
  have hset : ∀ {key : String} {v : Json}, body.given? key = some v → Sets body key := fun h => by
    unfold Sets
    rw [h]
    rfl
  have hunset : ∀ {key : String}, body.given? key = none → ¬Sets body key := fun h => by
    unfold Sets
    rw [h]
    exact Bool.false_ne_true
  -- `tcp` counts before `serial`, and each sets both fields of the place
  cases htcp : body.given? "tcp" with
  | none =>
    cases hserial : body.given? "serial" with
    | none =>
      simp only [htcp, hserial] at h
      cases h
      have hneither : ¬(Sets body "tcp" ∨ Sets body "serial") :=
        not_or.mpr ⟨hunset htcp, hunset hserial⟩
      exact hplace _ _ ((optional_set htransport).trans (or_iff_left hneither).symm)
        ((optional_set haddress).trans (or_iff_left hneither).symm)
    | some v =>
      simp only [htcp, hserial] at h
      obtain ⟨_, hf, h⟩ := except_bind_eq_ok.mp h
      obtain ⟨_, -, h⟩ := except_bind_eq_ok.mp h
      cases hf
      cases h
      exact hgiven _ _ (Or.inr (hset hserial))
  | some t =>
    simp only [htcp] at h
    obtain ⟨_, -, h⟩ := except_bind_eq_ok.mp h
    cases hserial : body.given? "serial" with
    | none =>
      simp only [hserial] at h
      cases h
      exact hgiven _ _ (Or.inl (hset htcp))
    | some v =>
      simp only [hserial] at h
      obtain ⟨_, hf, h⟩ := except_bind_eq_ok.mp h
      obtain ⟨_, -, h⟩ := except_bind_eq_ok.mp h
      cases hf
      cases h
      exact hgiven _ _ (Or.inl (hset htcp))

end SensorFields

/-! ### Other bodies -/

/-- `wx_fields_from_json` -/
def wxFieldsFromJson (b : Json) : Except String WeatherStationFields := do
  let name ← b.optional "name" Json.getString
  let site ← b.optional "site" Json.getString
  let model ← b.optional "model" Json.getString
  let provider ← b.optional "provider" Json.getString
  let transport ← b.optional "transport" Json.getString
  let address ← b.optional "address" Json.getString
  let latitude ← b.optional "latitude" Json.getDouble
  let longitude ← b.optional "longitude" Json.getDouble
  let elevationM ← b.optional "elevation_m" Json.getDouble
  let timezone ← b.optional "timezone" Json.getString
  let pollIntervalS ← b.optional "poll_interval_s" Json.getInt
  let status ← b.optional "status" Json.getString
  let installedAt ← b.optional "installed_at" Json.getString
  let notes ← b.optional "notes" Json.getString
  return { name, site, model, provider, transport, address, latitude, longitude, elevationM,
           timezone, pollIntervalS, status, installedAt, notes }

/-- `export_fields_from_json` -/
def exportFieldsFromJson (b : Json) : Except String ExportTargetFields := do
  let sensorId ← b.optional "sensor_id" Json.getString
  let name ← b.optional "name" Json.getString
  let target ← b.optional "target" Json.getString
  let schedule ← b.optional "schedule" Json.getString
  let scheduleTime ← b.optional "schedule_time" Json.getString
  let intervalS ← b.optional "interval_s" Json.getInt
  let scheduleDay ← b.optional "schedule_day" Json.getInt
  let status ← b.optional "status" Json.getString
  let notes ← b.optional "notes" Json.getString
  return { sensorId, name, target, schedule, scheduleTime, intervalS, scheduleDay, status, notes }

/-- Fill serial number and versions from the device, as far as it answers. -/
def probeFill (d : Deps) (f : SensorFields) : Act SensorFields :=
  match f.transport, f.address with
  | some transport, some address =>
    tryCatch (do
      let dev ← openDevice transport address
      let u ← dev.info d
      return { f with
        serialNumber := f.serialNumber.orElse fun _ => some u.serial
        protocolVer := f.protocolVer.orElse fun _ => some u.protocol
        featureVer := f.featureVer.orElse fun _ => some u.feature }) fun _ => pure f
  | _, _ => pure f

end NightWatcher.Api
