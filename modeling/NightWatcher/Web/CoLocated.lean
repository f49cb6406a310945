import NightWatcher.Api.Views
import NightWatcher.Export.Delivery

/-!
# `app.js`: the station a sensor's graph is overlaid with

The page picks the co-located station by a rule of its own (`coLocatedStation`),
from the list `GET /weather-stations` serves. The webhook picks one in
`collect_ambient`. Both look for the sensor's site first; for want of a match the
page takes the only station that is not retired, the webhook the only active one.
-/

namespace NightWatcher.Web

open Throwing Database Api Exporter

/-! ## Values of a parsed response (`none`: `undefined`) -/

/-- `!!v` -/
def truthy : Option Json → Bool
  | none | some .null => false
  | some (.bool b) => b
  | some (.int i) => i ≠ 0
  | some (.dbl q) => q ≠ 0
  | some (.str s) => s ≠ ""
  | some (.arr _) | some (.obj _) => true

/-- `a === b`, of values from two objects: arrays and objects are compared by identity. -/
def strictEq : Option Json → Option Json → Bool
  | none, none | some .null, some .null => true
  | some (.bool a), some (.bool b) => a = b
  | some (.int a), some (.int b) => a = b
  | some (.int a), some (.dbl b) | some (.dbl b), some (.int a) => (a : ℚ) = b
  | some (.dbl a), some (.dbl b) => a = b
  | some (.str a), some (.str b) => a = b
  | _, _ => false

/-! ## The page's rule -/

/-- `coLocatedStation` of the page, over the rows the API sent it. -/
def coLocatedStation (stations : List Json) (sensor : Option Json) : Option Json :=
  match sensor with
  | none => none
  | some sensor =>
    let bySite :=
      if truthy (sensor.member? "site") then
        stations.filter fun w =>
          truthy (w.member? "site") && strictEq (w.member? "site") (sensor.member? "site")
      else []
    if bySite.length ≠ 0 then bySite[0]?
    else
      let active := stations.filter fun w =>
        !strictEq (w.member? "status") (some (.str "retired"))
      if active.length = 1 then active[0]? else none

/-- `station.id` -/
def stationId (station : Json) : String :=
  match station.member? "id" with
  | some (.str id) => id
  | _ => ""

/-- The observations the page draws for a sensor that has this station. -/
def overlay (srv : Server) (db : Db) (station : Option Json) (lo hi : String) :
    List WeatherReadingRow :=
  match station with
  | none => []
  | some w => windowWeather srv db (stationId w) lo hi kMaxRows

/-! ## The page's rule on rows -/

variable {d : Deps}

/-- The first station on the sensor's site. -/
def siteStation (rows : List WeatherStationRow) (sensor : SensorRow) : Option WeatherStationRow :=
  if sensor.site = "" then none else rows.find? fun w => w.site = sensor.site

/-- The element of a list of one. -/
def sole {α : Type} : List α → Option α
  | [a] => some a
  | _ => none

/-- What `coLocatedStation` picks, as a row. -/
def pageStation (rows : List WeatherStationRow) (sensor : SensorRow) : Option WeatherStationRow :=
  (siteStation rows sensor).or (sole (rows.filter fun w => w.status ≠ .retired))

/-- The only element of a mapped list. -/
theorem sole_map {α β : Type} (f : α → β) (l : List α) :
    (if (l.map f).length = 1 then (l.map f)[0]? else none) = (sole l).map f :=
  match l with
  | [] | [_] | _ :: _ :: _ => rfl

/-- The site the row of a station shows. -/
theorem member_site (w : WeatherStationRow) :
    (weatherStationJson d w).member? "site" = some (.str w.site) := by
  unfold weatherStationJson
  rw [Json.member?_ofMembers]
  simp

/-- The status the row of a station shows. -/
theorem member_status (w : WeatherStationRow) :
    (weatherStationJson d w).member? "status" = some (jEnum w.status) := by
  unfold weatherStationJson
  rw [Json.member?_ofMembers]
  simp

/-- The id the row of a station shows. -/
theorem stationId_row (w : WeatherStationRow) : stationId (weatherStationJson d w) = w.id := by
  have h : (weatherStationJson d w).member? "id" = some (.str w.id) := by
    unfold weatherStationJson
    rw [Json.member?_ofMembers]
    simp
  unfold stationId
  rw [h]

/-- The site the row of a sensor shows. -/
theorem sensor_site (s : SensorRow) : (sensorJson s).member? "site" = some (.str s.site) := by
  unfold sensorJson
  rw [Json.member?_ofMembers]
  simp

/-- Filtering the objects of rows is filtering the rows. -/
theorem filter_rows {p : Json → Bool} {q : WeatherStationRow → Bool}
    (h : ∀ w, p (weatherStationJson d w) = q w) (rows : List WeatherStationRow) :
    (rows.map (weatherStationJson d)).filter p = (rows.filter q).map (weatherStationJson d) := by
  rw [List.filter_map]
  congr 1
  refine List.filter_congr fun w _ => ?_
  rw [Function.comp_apply]
  exact h w

/-- The page's test for the sensor's site is on the station's site. -/
theorem sharing_row {site : String} (h : site ≠ "") (w : WeatherStationRow) :
    (truthy ((weatherStationJson d w).member? "site") &&
      strictEq ((weatherStationJson d w).member? "site") (some (.str site))) =
      decide (w.site = site) := by
  rw [member_site]
  by_cases hw : w.site = site
  · simp [truthy, strictEq, hw, h]
  · simp [strictEq, hw]

/-- The page's test for the status is on the station's status. -/
theorem retired_row (w : WeatherStationRow) :
    (!strictEq ((weatherStationJson d w).member? "status") (some (.str "retired"))) =
      decide (w.status ≠ .retired) := by
  rw [member_status]
  cases w.status <;> decide

/-- The rows of the sensor's site, as the page filters them. -/
theorem filter_sharing {site : String} (h : site ≠ "") (rows : List WeatherStationRow) :
    ((rows.map (weatherStationJson d)).filter fun w =>
      truthy (w.member? "site") && strictEq (w.member? "site") (some (.str site))) =
      (rows.filter fun w => w.site = site).map (weatherStationJson d) :=
  filter_rows (p := fun w =>
    truthy (w.member? "site") && strictEq (w.member? "site") (some (.str site)))
    (q := fun w => decide (w.site = site)) (sharing_row h) rows

/-- The rows not retired, as the page filters them. -/
theorem filter_used (rows : List WeatherStationRow) :
    ((rows.map (weatherStationJson d)).filter fun w =>
      !strictEq (w.member? "status") (some (.str "retired"))) =
      (rows.filter fun w => w.status ≠ .retired).map (weatherStationJson d) :=
  filter_rows (p := fun w => !strictEq (w.member? "status") (some (.str "retired")))
    (q := fun w => decide (w.status ≠ .retired)) retired_row rows

/-- On the rows of the API the page chooses the row of `pageStation`. -/
theorem coLocatedStation_rows (rows : List WeatherStationRow) (sensor : SensorRow) :
    coLocatedStation (rows.map (weatherStationJson d)) (some (sensorJson sensor)) =
      (pageStation rows sensor).map (weatherStationJson d) := by
  unfold coLocatedStation pageStation siteStation
  dsimp only
  have htruthy : truthy (some (.str sensor.site)) = decide (sensor.site ≠ "") := rfl
  rw [sensor_site, filter_used, sole_map, htruthy]
  by_cases hsite : sensor.site = ""
  · rw [decide_eq_false (not_not.mpr hsite), if_neg Bool.false_ne_true, if_pos hsite,
      Option.none_or, List.length_nil, if_neg (not_not.mpr rfl)]
  · rw [decide_eq_true hsite, if_pos rfl, if_neg hsite, filter_sharing hsite, ← List.head?_filter]
    generalize (rows.filter fun w => decide (w.site = sensor.site)) = sharing
    cases sharing with
    | nil =>
      rw [List.map_nil, List.length_nil, if_neg (not_not.mpr rfl), List.head?_nil, Option.none_or]
    | cons w rest =>
      rw [List.map_cons, List.length_cons, if_pos (Nat.succ_ne_zero _), List.getElem?_cons_zero,
        List.head?_cons, Option.some_or, Option.map_some]

/-! ## The list that was served -/

/-- The page gets the rows in the order of their ids. -/
theorem served_rows {w w' : World} {served : List Json}
    (h : listWeatherStations d w = .ok (send 200 (.arr served)) w') :
    served = (d.server.orderBy WeatherStationRow.id w.db.weatherStations).map
      (weatherStationJson d) := by
  have hlist : Meets (listWeatherStations d) w
      (fun res _ => ∀ l, res = send 200 (.arr l) →
        l = (d.server.orderBy WeatherStationRow.id w.db.weatherStations).map (weatherStationJson d))
      fun _ _ => True := by
    have hfail : ∀ e l, sendErr 500 e ≠ send 200 (.arr l) := by
      intro e l hsend
      have hstatus : 500 = 200 := congrArg Response.status hsend
      omega
    unfold listWeatherStations
    refine meets_dbRead (fun fs => ?_) fun e fs l hl => absurd hl (hfail e l)
    unfold weatherStations
    rw [ask_bind, meets_bind]
    refine meets_select (fun fs' l hl => ?_) fun fs' l hl => absurd hl (hfail _ l)
    have hbody := congrArg Response.content hl
    injection hbody with hbody
    injection hbody with hbody
    exact hbody.symm
  unfold Meets at hlist
  rw [h] at hlist
  exact hlist served rfl

/-- A database that answers serves it. -/
theorem serves {w : World} (hw : w.dbFaults = []) :
    listWeatherStations d w = .ok (send 200 (.arr
      ((d.server.orderBy WeatherStationRow.id w.db.weatherStations).map (weatherStationJson d))))
          w := by
  obtain ⟨db, now, faults⟩ := w
  cases hw
  rfl

/-! ## Agreement -/

/-- The first station of the site, in the order of the ids. -/
def sharesSite (srv : Server) (stations : List WeatherStationRow) (sensor : SensorRow) :
    Option WeatherStationRow :=
  siteStation (srv.orderBy WeatherStationRow.id stations) sensor

/-- With these stations in the table, whatever else the database holds, the webhook takes the
observations of the station the page picks from the list it is served, and none if it
picks none. -/
def Agree (d : Deps) (stations : List WeatherStationRow) (sensor : SensorRow) : Prop :=
  ∀ w w' served, w.db.weatherStations = stations →
    listWeatherStations d w = .ok (send 200 (.arr served)) w' →
      ∀ lo hi, Meets (ask (collectAmbient d sensor lo hi)) w
        (fun rows _ => rows =
          overlay d.server w.db (coLocatedStation served (some (sensorJson sensor))) lo hi)
        fun _ _ => True

/-- Some station shares the site, and the first of them has an id; or none does, and there
is a single station that is not retired exactly if there is a single active one, with an id. -/
def OneRule (srv : Server) (stations : List WeatherStationRow) (sensor : SensorRow) : Prop :=
  match sharesSite srv stations sensor with
  | some w => w.id ≠ ""
  | none =>
    (∃ w, stations.filter (fun w => w.status ≠ .retired) = [w]) ↔
      ∃ w, stations.filter (fun w => w.status = .active) = [w] ∧ w.id ≠ ""

/-! ## The station of the webhook -/

/-- What `collect_ambient` picks: a row without an id is as good as none. -/
def webhookStation (srv : Server) (stations : List WeatherStationRow) (sensor : SensorRow) :
    Option WeatherStationRow :=
  ((sharesSite srv stations sensor).filter fun w => w.id ≠ "").or
    ((sole (stations.filter fun w => w.status = .active)).filter fun w => w.id ≠ "")

/-- An only element is all of the list. -/
theorem sole_eq_some {α : Type} {l : List α} {a : α} : sole l = some a ↔ l = [a] := by
  match l with
  | [] => simp [sole]
  | [b] => simp [sole]
  | _ :: _ :: _ => simp [sole]

/-- The only element does not depend on the order. -/
theorem sole_perm {α : Type} {l l' : List α} (h : l.Perm l') : sole l = sole l' := by
  refine Option.ext fun a => ?_
  rw [sole_eq_some, sole_eq_some]
  constructor
  · intro hl
    rw [hl] at h
    exact (List.singleton_perm.mp h).symm
  · intro hl
    rw [hl] at h
    exact List.perm_singleton.mp h

/-- A query in order returns the same rows. -/
theorem orderBy_perm (srv : Server) (rows : List WeatherStationRow) :
    (srv.orderBy WeatherStationRow.id rows).Perm rows := List.mergeSort_perm _ _

/-- `ambientStation` names the station of `webhookStation`. -/
theorem ambientStation_webhook (srv : Server) (db : Db) (sensor : SensorRow) :
    ambientStation srv db sensor =
      ((webhookStation srv db.weatherStations sensor).map WeatherStationRow.id).getD "" := by
  have hsole : ambientStation.sole srv db =
      (((sole (db.weatherStations.filter fun w => w.status = .active)).filter fun w =>
        w.id ≠ "").map WeatherStationRow.id).getD "" := by
    rw [← sole_perm (orderBy_perm srv _)]
    unfold ambientStation.sole
    match srv.orderBy WeatherStationRow.id (db.weatherStations.filter fun r => r.status = .active) with
    | [] | _ :: _ :: _ => rfl
    | [w] =>
      by_cases hid : w.id = ""
      · simp [sole, Option.filter_some, hid]
      · simp [sole, Option.filter_some, hid]
  unfold ambientStation webhookStation sharesSite siteStation
  dsimp only
  generalize (if sensor.site = "" then none
    else (srv.orderBy WeatherStationRow.id db.weatherStations).find?
      fun w => w.site = sensor.site) = bySite
  cases bySite with
  | none => exact hsole
  | some w =>
    by_cases hid : w.id = ""
    · rw [Option.map_some, hsole]
      simp [Option.filter_some, hid]
    · simp [Option.filter_some, hid]

/-- The observations of a station, if there is one. -/
def windowOf (srv : Server) (db : Db) (station : Option WeatherStationRow) (lo hi : String) :
    List WeatherReadingRow :=
  match station with
  | none => []
  | some w => windowWeather srv db w.id lo hi kMaxRows

/-- The page's overlay is the window of its station. -/
theorem overlay_rows (db : Db) (station : Option WeatherStationRow) (lo hi : String) :
    overlay d.server db (station.map (weatherStationJson d)) lo hi =
      windowOf d.server db station lo hi := by
  cases station with
  | none => rfl
  | some w =>
    show windowWeather _ _ (stationId _) _ _ _ = _
    rw [stationId_row]
    rfl

/-- The station has an id. -/
theorem webhookStation_named {srv : Server} {stations : List WeatherStationRow}
    {sensor : SensorRow} {w : WeatherStationRow}
    (h : webhookStation srv stations sensor = some w) : w.id ≠ "" := by
  unfold webhookStation at h
  rcases Option.or_eq_some_iff.mp h with h | ⟨-, h⟩
  · simpa using (Option.filter_eq_some_iff.mp h).2
  · simpa using (Option.filter_eq_some_iff.mp h).2

/-- `collect_ambient` reads the window of its station. -/
theorem ambientOf_webhook (srv : Server) (db : Db) (sensor : SensorRow) (lo hi : String) :
    ambientOf srv db sensor lo hi =
      windowOf srv db (webhookStation srv db.weatherStations sensor) lo hi := by
  unfold ambientOf
  rw [ambientStation_webhook]
  cases h : webhookStation srv db.weatherStations sensor with
  | none => rfl
  | some w => exact if_neg (webhookStation_named h)

/-! ## When the two rules are one -/

/-- One reading of one station. -/
def observation (id : String) : WeatherReadingRow := { stationId := id }

/-- The one observation is in the window exactly of its own station. -/
theorem windowOf_observation (srv : Server) (stations : List WeatherStationRow) (a : String)
    (b : WeatherStationRow) :
    windowOf srv { weatherStations := stations, weatherReadings := [observation a] } (some b) "" "" =
      if srv.same a b.id then [observation a] else [] := by
  unfold windowOf windowWeather
  dsimp only
  by_cases h : srv.same a b.id = true
  · have hkept : ([observation a].filter fun r =>
        srv.same r.stationId b.id && tsBetween srv "" "" r.tsUtc) = [observation a] :=
      List.filter_cons_of_pos (by simp [observation, h, tsBetween])
    rw [hkept, if_pos h, List.mergeSort_singleton]
    rfl
  · have hdropped : ([observation a].filter fun r =>
        srv.same r.stationId b.id && tsBetween srv "" "" r.tsUtc) = [] :=
      List.filter_cons_of_neg (by simp [observation, h])
    rw [hdropped, if_neg h, List.mergeSort_nil]
    rfl

/-- An only element of a filtered list is one of the list. -/
theorem sole_filter_mem {stations : List WeatherStationRow} {p : WeatherStationRow → Bool}
    {w : WeatherStationRow} (h : sole (stations.filter p) = some w) : w ∈ stations := by
  have hmem : w ∈ stations.filter p := by
    rw [sole_eq_some.mp h]
    exact List.mem_singleton_self w
  exact List.mem_of_mem_filter hmem

/-- The station of the site is one of the stations. -/
theorem siteStation_mem {rows : List WeatherStationRow} {sensor : SensorRow} {w : WeatherStationRow}
    (h : siteStation rows sensor = some w) : w ∈ rows := by
  unfold siteStation at h
  by_cases hsite : sensor.site = ""
  · rw [if_pos hsite] at h
    cases h
  · rw [if_neg hsite] at h
    exact List.mem_of_find?_eq_some h

/-- The page's station is one of the stations. -/
theorem pageStation_mem {rows : List WeatherStationRow} {sensor : SensorRow} {w : WeatherStationRow}
    (h : pageStation rows sensor = some w) : w ∈ rows := by
  unfold pageStation at h
  rcases Option.or_eq_some_iff.mp h with h | ⟨-, h⟩
  · exact siteStation_mem h
  · exact sole_filter_mem h

/-- The webhook's station is one of the stations. -/
theorem webhookStation_mem {srv : Server} {stations : List WeatherStationRow} {sensor : SensorRow}
    {w : WeatherStationRow} (h : webhookStation srv stations sensor = some w) : w ∈ stations := by
  unfold webhookStation at h
  rcases Option.or_eq_some_iff.mp h with h | ⟨-, h⟩
  · exact (orderBy_perm srv stations).mem_iff.mp
      (siteStation_mem (Option.filter_eq_some_iff.mp h).1)
  · exact sole_filter_mem (Option.filter_eq_some_iff.mp h).1

/-- `PRIMARY KEY (id)` -/
def KeyedStations (srv : Server) (stations : List WeatherStationRow) : Prop :=
  (stations.map fun w => srv.collate w.id).Nodup

/-- Where both choose the same station they show the same readings. -/
theorem agree_of_station {stations : List WeatherStationRow} {sensor : SensorRow}
    (h : pageStation (d.server.orderBy WeatherStationRow.id stations) sensor =
      webhookStation d.server stations sensor) : Agree d stations sensor := by
  intro w w' served hstations hserved lo hi
  refine meets_collectAmbient (fun fs => ?_) fun _ _ => trivial
  rw [served_rows hserved, hstations, coLocatedStation_rows, overlay_rows, h, ambientOf_webhook,
    hstations]

/-- Whatever the site gave, a station is settled on and read. -/
theorem collectFrom_calm (lo hi : String) (bySite : Option WeatherStationRow) : Calm (do
    let stationId ←
      match bySite.map WeatherStationRow.id with
      | some id => if id ≠ "" then pure id else collectAmbient.soleActive d
      | none => collectAmbient.soleActive d
    if stationId = "" then pure [] else
      weatherReadingsBetween d.server stationId lo hi kMaxRows) := by
  have hsole : Calm (collectAmbient.soleActive d) := by
    refine calm_bind (calm_select _) fun active => ?_
    split
    · exact calm_pure _
    · exact calm_pure _
  have hread : ∀ id, Calm (if id = "" then pure [] else
      weatherReadingsBetween d.server id lo hi kMaxRows) := by
    intro id
    split
    · exact calm_pure _
    · exact calm_select _
  dsimp only
  split
  · split
    · exact hread _
    · exact calm_bind hsole hread
  · exact calm_bind hsole hread

/-- `collect_ambient` changes nothing but the faults still to come. -/
theorem collectAmbient_calm (sensor : SensorRow) (lo hi : String) :
    Calm (collectAmbient d sensor lo hi) := by
  unfold collectAmbient
  dsimp only
  by_cases hsite : sensor.site = ""
  · rw [if_pos hsite]
    exact collectFrom_calm lo hi none
  · rw [if_neg hsite]
    exact calm_bind (calm_select _) fun _ => collectFrom_calm lo hi _

/-- Stations on which the page and the webhook differ can be told apart by a reading. -/
theorem station_of_agree {stations : List WeatherStationRow} {sensor : SensorRow}
    (hkey : KeyedStations d.server stations) (h : Agree d stations sensor) :
    pageStation (d.server.orderBy WeatherStationRow.id stations) sensor =
      webhookStation d.server stations sensor := by
  have hseen : ∀ rs,
      windowOf d.server { weatherStations := stations, weatherReadings := rs }
        (webhookStation d.server stations sensor) "" "" =
      windowOf d.server { weatherStations := stations, weatherReadings := rs }
        (pageStation (d.server.orderBy WeatherStationRow.id stations) sensor) "" "" := by
    intro rs
    have hpage := h { db := { weatherStations := stations, weatherReadings := rs } } _ _ rfl
      (serves rfl) "" ""
    have hhook : Meets (ask (collectAmbient d sensor "" ""))
        { db := { weatherStations := stations, weatherReadings := rs } } (fun rows _ => rows = _)
        fun _ _ => True :=
      meets_collectAmbient (fun fs => rfl) fun _ _ => trivial
    obtain ⟨rows, w', hrun⟩ := (collectAmbient_calm (d := d) sensor "" "").asked
      (w := { db := { weatherStations := stations, weatherReadings := rs } }) rfl
    have heq := (hhook.of_ok hrun).symm.trans (hpage.of_ok hrun)
    rw [ambientOf_webhook, coLocatedStation_rows, overlay_rows] at heq
    exact heq
  -- a reading of the one station shows whether it is the other
  have hreads : ∀ a : WeatherStationRow, windowOf d.server
      { weatherStations := stations, weatherReadings := [observation a.id] } (some a) "" "" =
      [observation a.id] := by
    intro a
    rw [windowOf_observation, if_pos (by simp [Server.same])]
  cases hhook : webhookStation d.server stations sensor with
  | none =>
    cases hpage : pageStation (d.server.orderBy WeatherStationRow.id stations) sensor with
    | none => rfl
    | some a =>
      have h := hseen [observation a.id]
      rw [hhook, hpage, hreads] at h
      exact absurd h.symm (List.cons_ne_nil _ _)
  | some b =>
    have h := hseen [observation b.id]
    rw [hhook, hreads] at h
    cases hpage : pageStation (d.server.orderBy WeatherStationRow.id stations) sensor with
    | none =>
      rw [hpage] at h
      exact absurd h (List.cons_ne_nil _ _)
    | some a =>
      rw [hpage, windowOf_observation] at h
      have hsame : d.server.same b.id a.id = true := by
        by_contra hne
        rw [if_neg hne] at h
        exact absurd h (List.cons_ne_nil _ _)
      have ha : a ∈ stations := (orderBy_perm d.server stations).mem_iff.mp (pageStation_mem hpage)
      have hb : b ∈ stations := webhookStation_mem hhook
      exact congrArg some
        (List.inj_on_of_nodup_map hkey ha hb (of_decide_eq_true hsame).symm)

/-- The only active station is the only one that is not retired, if there is such a one. -/
theorem active_used {stations : List WeatherStationRow} {a w : WeatherStationRow}
    (hactive : stations.filter (fun w => w.status = .active) = [a])
    (hused : stations.filter (fun w => w.status ≠ .retired) = [w]) : a = w := by
  have ha : a ∈ stations.filter fun w => w.status = .active := by
    rw [hactive]
    exact List.mem_singleton_self a
  obtain ⟨hmem, hstatus⟩ := List.mem_filter.mp ha
  have hin : a ∈ stations.filter fun w => w.status ≠ .retired := by
    refine List.mem_filter.mpr ⟨hmem, ?_⟩
    rw [of_decide_eq_true hstatus]
    rfl
  rw [hused] at hin
  exact List.mem_singleton.mp hin

/-- Both choose the same station exactly where one of the rules of `OneRule` holds. -/
theorem station_iff (srv : Server) (stations : List WeatherStationRow) (sensor : SensorRow) :
    pageStation (srv.orderBy WeatherStationRow.id stations) sensor =
      webhookStation srv stations sensor ↔ OneRule srv stations sensor := by
  -- the order of the rows does not matter where there is one station only
  have hused : sole ((srv.orderBy WeatherStationRow.id stations).filter fun w =>
      w.status ≠ .retired) = sole (stations.filter fun w => w.status ≠ .retired) :=
    sole_perm ((orderBy_perm srv stations).filter _)
  have hnamed : ∀ w, (sole (stations.filter fun w => w.status = .active)).filter
      (fun w => w.id ≠ "") = some w ↔
      stations.filter (fun w => w.status = .active) = [w] ∧ w.id ≠ "" := by
    intro w
    rw [Option.filter_eq_some_iff, sole_eq_some, decide_eq_true_iff]
  unfold pageStation webhookStation OneRule
  show (sharesSite srv stations sensor).or _ = _ ↔ _
  rw [hused]
  -- a station at the sensor's site, or none
  cases sharesSite srv stations sensor with
  | some w =>
    rw [Option.some_or, Option.filter_some]
    by_cases hid : w.id = ""
    · rw [if_neg (by simp [hid]), Option.none_or]
      constructor
      · intro h
        exact ((hnamed w).mp h.symm).2
      · intro hne
        exact absurd hid hne
    · rw [if_pos (by simp [hid]), Option.some_or]
      exact iff_of_true rfl hid
  | none =>
    rw [Option.none_or, Option.filter_none, Option.none_or]
    constructor
    · intro h
      constructor
      · rintro ⟨w, hw⟩
        exact ⟨w, (hnamed w).mp (h.symm.trans (sole_eq_some.mpr hw))⟩
      · rintro ⟨w, hw⟩
        exact ⟨w, sole_eq_some.mp (h.trans ((hnamed w).mpr hw))⟩
    · intro h
      refine Option.ext fun w => ?_
      rw [hnamed, sole_eq_some]
      constructor
      · intro hw
        obtain ⟨a, ha, hid⟩ := h.mp ⟨w, hw⟩
        cases active_used ha hw
        exact ⟨ha, hid⟩
      · intro ha
        obtain ⟨w', hw'⟩ := h.mpr ⟨w, ha⟩
        cases active_used ha.1 hw'
        exact hw'

/-- The page and the webhook agree on the co-located station exactly under `OneRule`. -/
theorem agree_iff (d : Deps) (stations : List WeatherStationRow)
    (hkey : KeyedStations d.server stations) (sensor : SensorRow) :
    Agree d stations sensor ↔ OneRule d.server stations sensor :=
  ⟨fun h => (station_iff d.server stations sensor).mp (station_of_agree hkey h),
    fun h => agree_of_station ((station_iff d.server stations sensor).mpr h)⟩

/-- A sensor without a site, of which nothing else matters here. -/
def siteless : SensorRow := { id := "S", transport := .tcp, address := "10.0.0.5:10001" }

/-- An active station beside one that is not polled. -/
def beside (status : Status) : List WeatherStationRow := [{ id := "W1" }, { id := "W2", status }]

/-- The two stations have different ids. -/
theorem beside_keyed (status : Status) : KeyedStations Server.plain (beside status) := by
  show ["W1", "W2"].Nodup
  decide

/-- A retired station stands in nobody's way. -/
theorem retired_agree : Agree (Deps.plain []) (beside .retired) siteless := by
  refine (agree_iff (Deps.plain []) (beside .retired) (beside_keyed .retired) siteless).mpr ?_
  exact iff_of_true ⟨{ id := "W1" }, rfl⟩ ⟨{ id := "W1" }, rfl, by decide⟩

/-- Beside an inactive station the page draws nothing, and the webhook takes the active one. -/
theorem inactive_differ : ¬Agree (Deps.plain []) (beside .inactive) siteless := by
  intro h
  have hrule : OneRule Server.plain (beside .inactive) siteless :=
    (station_iff _ _ _).mp (station_of_agree (beside_keyed .inactive) h)
  obtain ⟨w, hw⟩ := Iff.mpr hrule ⟨{ id := "W1" }, rfl, by decide⟩
  have hlength : 2 = 1 := congrArg List.length hw
  omega

end NightWatcher.Web
