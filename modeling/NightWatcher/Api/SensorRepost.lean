import NightWatcher.Api.SensorEdits

/-!
# A sensor that is posted again

`POST /sensors` is the one way to create a sensor and also updates one that is there: the INSERT
has an ON DUPLICATE KEY UPDATE of the columns that `SensorFields` has. Between the reading of the
body and the INSERT the handler fills in the status of a new sensor, and does so for a sensor that
is there as well. All other columns that the body leaves out are kept (`assigned_unset`); the
status is kept if and only if the body has one or the sensor has the filled-in one already
(`repost_keeps_iff`).
-/

namespace NightWatcher.Api

open Throwing Database Daemon

variable {d : Deps} {cfg : ApiConfig} {req : Request} {w : World} {id : String} {body : Json}
  {f : SensorFields}

/-! ## Which columns a body sets -/

/-- The columns that a body does not set have the same values in the second row. -/
structure UnsetKept (body : Json) (r r' : SensorRow) : Prop where
  id : r'.id = r.id
  name : ¬Sets body "name" → r'.name = r.name
  site : ¬Sets body "site" → r'.site = r.site
  serialNumber : ¬Sets body "serial_number" → r'.serialNumber = r.serialNumber
  model : ¬Sets body "model" → r'.model = r.model
  protocolVer : ¬Sets body "protocol_ver" → r'.protocolVer = r.protocolVer
  featureVer : ¬Sets body "feature_ver" → r'.featureVer = r.featureVer
  latitude : ¬Sets body "latitude" → r'.latitude = r.latitude
  longitude : ¬Sets body "longitude" → r'.longitude = r.longitude
  elevationM : ¬Sets body "elevation_m" → r'.elevationM = r.elevationM
  timezone : ¬Sets body "timezone" → r'.timezone = r.timezone
  transport : ¬SetsTransport body → r'.transport = r.transport
  address : ¬SetsAddress body → r'.address = r.address
  pollIntervalS : ¬Sets body "poll_interval_s" → r'.pollIntervalS = r.pollIntervalS
  status : ¬Sets body "status" → r'.status = r.status
  installedAt : ¬Sets body "installed_at" → r'.installedAt = r.installedAt
  notes : ¬Sets body "notes" → r'.notes = r.notes
  createdAt : r'.createdAt = r.createdAt

theorem UnsetKept.refl (body : Json) (r : SensorRow) : UnsetKept body r r where
  id := rfl
  name _ := rfl
  site _ := rfl
  serialNumber _ := rfl
  model _ := rfl
  protocolVer _ := rfl
  featureVer _ := rfl
  latitude _ := rfl
  longitude _ := rfl
  elevationM _ := rfl
  timezone _ := rfl
  transport _ := rfl
  address _ := rfl
  pollIntervalS _ := rfl
  status _ := rfl
  installedAt _ := rfl
  notes _ := rfl
  createdAt := rfl

/-! ## Which columns an assignment sets -/

theorem setText_none {srv : Server} {ty : ColumnType} {given : Option String} {old new : String}
    (h : setText srv ty given old = some new) (hnone : given = none) : new = old := by
  subst given
  exact (Option.some.inj h).symm

theorem setEnum_none {α : Type} [SqlEnum α] {srv : Server} {given : Option String} {old new : α}
    (h : setEnum srv given old = some new) (hnone : given = none) : new = old := by
  subst given
  exact (Option.some.inj h).symm

theorem setDecimal_none {srv : Server} {precision scale : Nat} {given old new : Option ℚ}
    (h : setDecimal srv precision scale given old = some new) (hnone : given = none) : new = old := by
  subst given
  exact (Option.some.inj h).symm

/-- The columns of a row that is assigned fields in which the status is filled in. -/
theorem assigned_unset {srv : Server} {r r' : SensorRow} {filled : Option String} (hf : FieldsOf body f)
    (h : assignSensor srv { f with status := filled } r = some r') :
    UnsetKept body r r' ↔ Sets body "status" ∨ r'.status = r.status := by
  have hnone : ∀ {α : Type} {o : Option α} {P : Prop}, (o.isSome = true ↔ P) → ¬P → o = none :=
    fun hset hnot => Option.not_isSome_iff_eq_none.mp (hset.not.mpr hnot)
  -- one assignment at a time, in the order of the columns
  unfold assignSensor at h
  obtain ⟨name, hname, h⟩ := Option.bind_eq_some_iff.mp h
  obtain ⟨site, hsite, h⟩ := Option.bind_eq_some_iff.mp h
  obtain ⟨serialNumber, hserialNumber, h⟩ := Option.bind_eq_some_iff.mp h
  obtain ⟨model, hmodel, h⟩ := Option.bind_eq_some_iff.mp h
  obtain ⟨latitude, hlatitude, h⟩ := Option.bind_eq_some_iff.mp h
  obtain ⟨longitude, hlongitude, h⟩ := Option.bind_eq_some_iff.mp h
  obtain ⟨elevationM, helevationM, h⟩ := Option.bind_eq_some_iff.mp h
  obtain ⟨timezone, htimezone, h⟩ := Option.bind_eq_some_iff.mp h
  obtain ⟨transport, htransport, h⟩ := Option.bind_eq_some_iff.mp h
  obtain ⟨address, haddress, h⟩ := Option.bind_eq_some_iff.mp h
  obtain ⟨status, -, h⟩ := Option.bind_eq_some_iff.mp h
  obtain ⟨installedAt, hinstalledAt, h⟩ := Option.bind_eq_some_iff.mp h
  obtain ⟨notes, hnotes, h⟩ := Option.bind_eq_some_iff.mp h
  cases h
  constructor
  · intro hkept
    by_cases hset : Sets body "status"
    · exact Or.inl hset
    · exact Or.inr (hkept.status hset)
  -- a field the body leaves out is no assignment, so its column stays
  · intro hstatus
    exact {
      id := rfl
      name := fun hset => setText_none hname (hnone hf.name hset)
      site := fun hset => setText_none hsite (hnone hf.site hset)
      serialNumber := fun hset => setText_none hserialNumber (hnone hf.serialNumber hset)
      model := fun hset => setText_none hmodel (hnone hf.model hset)
      protocolVer := fun hset => by rw [hnone hf.protocolVer hset]; rfl
      featureVer := fun hset => by rw [hnone hf.featureVer hset]; rfl
      latitude := fun hset => setDecimal_none hlatitude (hnone hf.latitude hset)
      longitude := fun hset => setDecimal_none hlongitude (hnone hf.longitude hset)
      elevationM := fun hset => setDecimal_none helevationM (hnone hf.elevationM hset)
      timezone := fun hset => setText_none htimezone (hnone hf.timezone hset)
      transport := fun hset => setEnum_none htransport (hnone hf.transport hset)
      address := fun hset => setText_none haddress (hnone hf.address hset)
      pollIntervalS := fun hset => by rw [hnone hf.pollIntervalS hset]; rfl
      status := fun hset => hstatus.resolve_left hset
      installedAt := fun hset => setText_none hinstalledAt (hnone hf.installedAt hset)
      notes := fun hset => setText_none hnotes (hnone hf.notes hset)
      createdAt := rfl }

/-! ## The row of a sensor that is there -/

/-- The row has the key that an id is stored as. -/
def HasKey (srv : Server) (id : String) (r : SensorRow) : Prop :=
  ∃ id', srv.storeText (.varchar 32) id = some id' ∧ srv.same r.id id' = true

section Rows

variable {ρ : Type} {p : ρ → Bool} {assign : ρ → Option ρ} {rows rows' : List ρ} {r : ρ} {i : Nat}

theorem updateWhere_get (h : updateWhere p assign rows = some rows') (hr : rows[i]? = some r) :
    ∃ r', rows'[i]? = some r' ∧ (if p r then assign r else some r) = some r' := by
  induction rows generalizing rows' i with
  | nil => exact nomatch hr
  | cons first rest ih =>
    obtain ⟨first', rest', hfirst, hrest, rfl⟩ := updateWhere_cons.mp h
    cases i with
    | zero =>
      obtain rfl : first = r := Option.some.inj hr
      exact ⟨first', rfl, hfirst⟩
    | succ i => exact ih (i := i) hrest hr

/-- An upsert leaves the rows in their places, and assigns where the key is. -/
theorem upsertRow_get {fresh : ρ} {noUpdates : Bool}
    (h : upsertRow p fresh noUpdates assign rows = some rows') (hr : rows[i]? = some r) :
    ∃ r', rows'[i]? = some r' ∧ (if p r then assign r else some r) = some r' := by
  unfold upsertRow at h
  by_cases hany : rows.any p = true
  · rw [if_pos hany] at h
    cases noUpdates with
    | true => exact nomatch h
    | false => exact updateWhere_get h hr
  · rw [if_neg hany] at h
    obtain ⟨row, -, rfl⟩ := Option.map_eq_some_iff.mp h
    have hlen : i < rows.length := (List.getElem?_eq_some_iff.mp hr).1
    have hother : p r ≠ true := fun hp => hany (List.any_eq_true.mpr ⟨r, List.mem_of_getElem? hr, hp⟩)
    refine ⟨r, ?_, if_neg hother⟩
    rw [List.getElem?_append_left hlen]
    exact hr

end Rows

/-! ## The handler -/

/-- The status that the handler writes: the body's, or the one of a new sensor. -/
def filledStatus (f : SensorFields) : Option String := f.status.orElse fun _ => some "inactive"

/-- The rows after an accepted request. -/
def Reposted (srv : Server) (id : String) (body : Json) (before after : List SensorRow) : Prop :=
  ∃ f id' fresh noUpdates, sensorFieldsFromJson body = .ok f ∧
      srv.storeText (.varchar 32) id = some id' ∧
    upsertRow (fun r => srv.same r.id id') fresh noUpdates
      (assignSensor srv { f with status := filledStatus f }) before = some after

theorem serve_postSensor (hroute : route req = some .postSensor)
    (hparsed : d.json.parse req.body = some body)
    (hid : body.member? "id" = some (.str id)) (hprobe : body.member? "probe" = some (.bool false)) :
    Meets (serve d cfg req) w
      (fun res w' => res.status = 201 → Reposted d.server id body w.db.sensors w'.db.sensors)
      fun _ _ => False := by
  have hweb : webFile cfg req = none := webFile_none hroute (by simp [Endpoint.readsOnly])
  have hcontains : body.contains "id" = true := by
    unfold Json.contains
    rw [hid]
    rfl
  have hasked : body.contains "probe" = true := by
    unfold Json.contains
    rw [hprobe]
    rfl
  have hnot : ∀ status, status ≠ 201 → ∀ {P : Prop}, status = 201 → P :=
    fun _ hne _ heq => absurd heq hne
  unfold serve
  simp only [meets_tryCatch, meets_bind]
  -- an answer other than 201 says nothing about the rows
  refine meets_gate_status (fun fs => ?_) fun status _ fs hres => hnot status (by omega)
  rw [hweb, hroute]
  show Meets (postSensor d cfg req) _ _ _
  unfold postSensor adminOnly withBody
  rw [hparsed, meets_bind]
  refine meets_requireAuth_status (fun fs' _ => ?_) fun status _ fs' hres => hnot status (by omega)
  simp only [hcontains, hasked, Bool.not_true, Bool.false_eq_true, if_false, if_true, meets_bind]
  refine meets_getString (fun key hkey => ?_) fun e => hnot 500 (by decide)
  obtain rfl : id = key := by
    rw [hid] at hkey
    exact Json.str.inj (Option.some.inj hkey)
  rw [meets_liftExcept]
  refine ⟨fun f hf => ?_, fun e _ => hnot 500 (by decide)⟩
  rw [meets_ite]
  refine ⟨fun _ => hnot _ (by decide), fun _ => ?_⟩
  -- `probe` is false, so the unit is not asked
  have hno : getMember body "probe" Json.getBool = pure false := by
    unfold getMember
    rw [hprobe]
    rfl
  simp only [hno, meets_bind, meets_pure, Bool.false_eq_true, if_false, orError, meets_tryCatch]
  refine meets_ask (fun _ fs => ?_) fun e fs => hnot 500 (by decide)
  refine meets_statement (fun _ db' fs hdb => ?_) fun e fs => hnot 500 (by decide)
  obtain ⟨_, -, hdb⟩ := Option.bind_eq_some_iff.mp hdb
  obtain ⟨id', hid', hdb⟩ := Option.bind_eq_some_iff.mp hdb
  obtain ⟨rows, hrows, hdb⟩ := Option.bind_eq_some_iff.mp hdb
  cases hdb
  have hreposted : Reposted d.server id body w.db.sensors rows := ⟨f, id', _, _, hf, hid', hrows⟩
  -- the row was written before it is read back
  exact meets_ask (fun _ _ _ => hreposted) fun _ _ => hnot 500 (by decide)

/-! ## What a sensor keeps -/

/-- Where an assignment with a filled-in status keeps the stored one. -/
theorem assigned_status {srv : Server} {r r' : SensorRow} (hf : FieldsOf body f)
    (hunset : ¬Sets body "status") (h : assignSensor srv { f with status := filledStatus f } r =
        some r') :
    r'.status = r.status ↔ srv.storeEnum Status "inactive" = some r.status := by
  have hnone : f.status = none := Option.not_isSome_iff_eq_none.mp (hf.status.not.mpr hunset)
  have hfilled : filledStatus f = some "inactive" := by
    unfold filledStatus
    rw [hnone]
    rfl
  unfold assignSensor at h
  iterate 10 obtain ⟨_, -, h⟩ := Option.bind_eq_some_iff.mp h
  obtain ⟨status, hstatus, h⟩ := Option.bind_eq_some_iff.mp h
  iterate 2 obtain ⟨_, -, h⟩ := Option.bind_eq_some_iff.mp h
  cases h
  dsimp only at hstatus
  rw [hfilled] at hstatus
  have hstored : srv.storeEnum Status "inactive" = some status := hstatus
  rw [hstored, Option.some.injEq]

/-- An accepted request with the id of a sensor that is there keeps what the body does not set
exactly if the body sets the status, or the sensor has the one of a new sensor. -/
theorem repost_keeps_iff (hroute : route req = some .postSensor)
    (hparsed : d.json.parse req.body = some body)
    (hid : body.member? "id" = some (.str id)) (hprobe : body.member? "probe" = some (.bool false))
    (haccepted : (reply d cfg req w).status = 201) :
    (∀ (i : Nat) (r : SensorRow), w.db.sensors[i]? = some r → d.server.same r.id id = true →
        ∃ r', (endState (serve d cfg req w)).db.sensors[i]? = some r' ∧ UnsetKept body r r') ↔
      (Sets body "status" ∨ ∀ r ∈ w.db.sensors, d.server.same r.id id = true → HasKey d.server id r →
        d.server.storeEnum Status "inactive" = some r.status) := by
  obtain ⟨res, s, hserve, hcase⟩ :=
    (@serve_postSensor d cfg req w id body hroute hparsed hid hprobe).returns
  unfold reply at haccepted
  rw [hserve] at haccepted ⊢
  obtain ⟨f, id', fresh, noUpdates, hfields, hid', hrows⟩ := hcase haccepted
  have hf := sensorFields_of hfields
  dsimp only [endState]
  -- the INSERT finds the row by the id as it is stored
  have hkey : ∀ r, HasKey d.server id r ↔ d.server.same r.id id' = true := by
    intro r
    unfold HasKey
    rw [hid']
    exact ⟨fun ⟨key, hkey, hsame⟩ => Option.some.inj hkey ▸ hsame, fun hsame => ⟨id', rfl, hsame⟩⟩
  constructor
  -- the one field the handler fills in is the status
  · intro hkept
    by_cases hset : Sets body "status"
    · exact Or.inl hset
    · refine Or.inr fun r hr hsame hhas => ?_
      obtain ⟨i, hi⟩ := List.mem_iff_getElem?.mp hr
      obtain ⟨r', hr', hkeep⟩ := hkept i r hi hsame
      obtain ⟨r'', hr'', hassign⟩ := upsertRow_get hrows hi
      obtain rfl : r'' = r' := Option.some.inj (hr''.symm.trans hr')
      rw [if_pos ((hkey r).mp hhas)] at hassign
      exact (assigned_status hf hset hassign).mp (hkeep.status hset)
  · intro hcond i r hi hsame
    obtain ⟨r', hr', hassign⟩ := upsertRow_get hrows hi
    refine ⟨r', hr', ?_⟩
    by_cases hhas : d.server.same r.id id' = true
    · rw [if_pos hhas] at hassign
      refine (assigned_unset hf hassign).mpr ?_
      by_cases hset : Sets body "status"
      · exact Or.inl hset
      · have hstored := hcond.resolve_left hset r (List.mem_of_getElem? hi) hsame ((hkey r).mpr hhas)
        exact Or.inr ((assigned_status hf hset hassign).mpr hstored)
    · rw [if_neg hhas] at hassign
      obtain rfl : r = r' := Option.some.inj hassign
      exact UnsetKept.refl body r

def sensorPost : String := "a sensor that is there"

/-- A new address for a sensor, and what else the body has. -/
def repostDeps (others : List (String × Json)) : Deps :=
  Deps.plain [(sensorPost, Json.ofMembers
    ([("id", .str "s1"), ("tcp", .str "10.0.0.9"), ("probe", .bool false)] ++ others))]

def postsSensor : Request where
  method := .post
  path := "/api/v1/sensors"
  body := sensorPost
  headers := [("Authorization", "t")]

def activeSite : World where
  db := { sensors := [{ id := "s1", name := "Roof", transport := .tcp, address := "10.0.0.7" }] }

def statusGiven : Deps := repostDeps [("status", .str "active")]

/-- With the status in the body. -/
theorem status_given_kept : ∃ r', (endState (serve statusGiven tokenConfig postsSensor
      activeSite)).db.sensors[0]? = some r' ∧ r'.name = "Roof" := by
  have hkept :=
    (@repost_keeps_iff statusGiven tokenConfig postsSensor activeSite "s1" _ (by rfl) (by rfl)
    (by rfl) (by rfl) (by decide +kernel)).mpr (Or.inl (by decide))
  obtain ⟨r', hr', hunset⟩ := hkept 0 _ rfl (by decide)
  exact ⟨r', hr', hunset.name (by decide)⟩

/-- A new address of an active sensor: it is not polled any more. -/
theorem reposted_inactive : ¬∀ (d : Deps) (cfg : ApiConfig) (req : Request) (w : World) (id : String)
    (body : Json), route req = some .postSensor → d.json.parse req.body = some body →
      body.member? "id" = some (.str id) → body.member? "probe" = some (.bool false) →
        (reply d cfg req w).status = 201 →
        ∀ (i : Nat) (r : SensorRow), w.db.sensors[i]? = some r → d.server.same r.id id = true →
          ∃ r', (endState (serve d cfg req w)).db.sensors[i]? = some r' ∧ UnsetKept body r r' := by
  intro h
  obtain ⟨r', hr', hunset⟩ :=
    h (repostDeps []) tokenConfig postsSensor activeSite "s1" _ (by rfl) (by rfl)
    (by rfl) (by rfl) (by decide +kernel) 0 _ rfl (by decide)
  have hinactive :
      ((endState (serve (repostDeps []) tokenConfig postsSensor activeSite)).db.sensors[0]?.map
      SensorRow.status) = some .inactive := by decide +kernel
  rw [hr'] at hinactive
  have hstatus := hunset.status (by decide)
  exact absurd (hstatus.symm.trans (Option.some.inj hinactive)) (by decide)

end NightWatcher.Api
