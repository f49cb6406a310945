import NightWatcher.Export.DriveRequests
import NightWatcher.Lib.Doubles
import NightWatcher.Weather.Provider
import Mathlib.Data.Option.Basic

/-!
# `provider.cpp`: what a weather service is asked, and what is made of the answer

A provider asks its service for one account or one station over HTTPS (`fetchOver`) and turns the
answer into a row in the units of the database (`parseAmbient`, `parseWunderground`), in doubles.
What answers the request is a parameter. If it is the documented document of the account or the
station (`Documents`), with an observation in it that is shown in the service's units
(`ShowsAmbient`, `ShowsWunderground`), the row is that observation: the instant exactly, and every
value to a millionth (`fetch_close`).
-/

namespace NightWatcher.Weather

open PercentCode Exporter TimeUtil Doubles

variable (d : Deps)

/-! ## The program -/

/-- The status and the body of an answer, or the text of the client's error. -/
abbrev HttpGet := String → List Char → Except String (Nat × String)

/-- `https_get` -/
def httpsGet (get : HttpGet) (host : String) (pathAndQuery : List Char) : Except String String :=
  match get host (Httplib.encodeUrl pathAndQuery) with
  | .error e => .error ("request to " ++ host ++ " failed: " ++ e)
  | .ok (status, body) =>
    if status < 200 ∨ 300 ≤ status then
      .error ("HTTP " ++ toString status ++ " from " ++ host ++ ": " ++
        String.ofList (body.toList.take 200))
    else .ok body

/-- A member that is a number, as a double. -/
def jnum (j : Json) (key : String) : Option ℚ :=
  match j.member? key with
  | some (.int i) => some (nearest i)
  | some (.dbl q) => some q
  | _ => none

/-- The first 19 characters, with a blank for the `T`. -/
def isoToSql (j : Json) (key : String) : String :=
  match j.member? key with
  | some (.str dt) =>
    if 19 ≤ dt.length then String.ofList ((dt.toList.take 19).set 10 ' ') else ""
  | _ => ""

/-- `f2c`: Fahrenheit to Celsius, rounded at each operation. -/
def f2c (f : ℚ) : ℚ := nearest (nearest (nearest (f - 32) * 5) / 9)

/-- A product with a constant of the program. -/
def times (k v : ℚ) : ℚ := nearest (v * nearest k)

/-- A division by a constant of the source, both rounded. -/
def dividedBy (k v : ℚ) : ℚ := nearest (v / nearest k)

/-- `std::lround` cast to `int`. -/
def lroundInt (v : ℚ) : Int := Json.toInt32 (lround v)

/-- `parse_ambient` -/
def parseAmbient (j : Json) : WeatherReadingRow where
  raw := d.json.dump j
  tsUtc := isoToSql j "date"
  tempC := (jnum j "tempf").map f2c
  humidityPct := jnum j "humidity"
  dewPointC := (jnum j "dewPoint").map f2c
  pressureHpa := (jnum j "baromrelin").map (times 33.8639)
  pressureAbsHpa := (jnum j "baromabsin").map (times 33.8639)
  windSpeedMs := (jnum j "windspeedmph").map (times 0.44704)
  windGustMs := (jnum j "windgustmph").map (times 0.44704)
  windDirDeg := (jnum j "winddir").map lroundInt
  rainRateMmh := (jnum j "hourlyrainin").map (times 25.4)
  rainDailyMm := (jnum j "dailyrainin").map (times 25.4)
  uvIndex := jnum j "uv"
  solarWm2 := jnum j "solarradiation"

/-- `parse_wunderground` -/
def parseWunderground (obs : Json) : WeatherReadingRow :=
  let r : WeatherReadingRow :=
    { raw := d.json.dump obs
      tsUtc := isoToSql obs "obsTimeUtc"
      humidityPct := jnum obs "humidity"
      windDirDeg := (jnum obs "winddir").map lroundInt
      uvIndex := jnum obs "uv"
      solarWm2 := jnum obs "solarRadiation" }
  match obs.member? "metric" with
  | some (.obj ms) =>
    { r with
      tempC := jnum (.obj ms) "temp"
      dewPointC := jnum (.obj ms) "dewpt"
      pressureHpa := jnum (.obj ms) "pressure"
      windSpeedMs := (jnum (.obj ms) "windSpeed").map (dividedBy 3.6)
      windGustMs := (jnum (.obj ms) "windGust").map (dividedBy 3.6)
      rainRateMmh := jnum (.obj ms) "precipRate"
      rainDailyMm := jnum (.obj ms) "precipTotal" }
  | _ => r

/-- The first device of this MAC address. -/
def findDevice (mac : String) : List Json → Except String Json
  | [] => .error ("Ambient: device MAC " ++ mac ++ " not found")
  | v :: rest => do
    if (← v.valueOr "macAddress" Json.getString "") = mac then return v
    findDevice mac rest

/-- `AmbientProvider::fetch` -/
def fetchAmbient (get : HttpGet) (appKey apiKey mac : String) : Except String WeatherReadingRow := do
  let path := "/v1/devices?applicationKey=".toList ++ Gdrive.urlEncode appKey ++
    "&apiKey=".toList ++ Gdrive.urlEncode apiKey
  let body ← httpsGet get "api.ambientweather.net" path
  match ← parseJson d body with
  | .arr (first :: rest) =>
    let dev ← if mac = "" then .ok first else findDevice mac (first :: rest)
    match dev.member? "lastData" with
    | some lastData => return parseAmbient d lastData
    | none => throw "Ambient: device has no lastData"
  | _ => throw "Ambient: no devices returned"

/-- `WundergroundProvider::fetch` -/
def fetchWunderground (get : HttpGet) (stationId apiKey : String) :
    Except String WeatherReadingRow := do
  let path := "/v2/pws/observations/current?stationId=".toList ++ Gdrive.urlEncode stationId ++
    "&format=json&units=m&apiKey=".toList ++ Gdrive.urlEncode apiKey
  let body ← httpsGet get "api.weather.com" path
  let j ← parseJson d body
  match j.member? "observations" with
  | some (.arr (obs :: _)) => return parseWunderground d obs
  | _ => throw "Wunderground: no observations returned"

/-- `fetch`, over HTTPS. -/
def fetchOver (get : HttpGet) : IWeatherProvider → Except String WeatherReadingRow
  | .ambient appKey apiKey mac => fetchAmbient d get appKey apiKey mac
  | .wunderground stationId apiKey => fetchWunderground d get stationId apiKey

/-! ## Weather, and how it is shown -/

/-- The weather at a station at one time, in the units of the database. -/
structure Observation where
  instant : Int
  tempC : Option ℚ := none
  humidityPct : Option ℚ := none
  dewPointC : Option ℚ := none
  pressureHpa : Option ℚ := none
  pressureAbsHpa : Option ℚ := none
  windSpeedMs : Option ℚ := none
  windGustMs : Option ℚ := none
  windDirDeg : Option Int := none
  rainRateMmh : Option ℚ := none
  rainDailyMm : Option ℚ := none
  uvIndex : Option ℚ := none
  solarWm2 : Option ℚ := none

/-- The values of the observation that are numbers with a point. -/
def Observation.measures (o : Observation) : List (Option ℚ) :=
  [o.tempC, o.humidityPct, o.dewPointC, o.pressureHpa, o.pressureAbsHpa, o.windSpeedMs,
    o.windGustMs, o.rainRateMmh, o.rainDailyMm, o.uvIndex, o.solarWm2]

/-- It has a date with a year of four digits, and its values are none that no weather has. -/
structure Observation.Moderate (o : Observation) : Prop where
  inYears : InYears o.instant
  measures : ∀ x ∈ o.measures, ∀ v ∈ x, |v| ≤ 100000
  direction : ∀ deg ∈ o.windDirDeg, 0 ≤ deg ∧ deg ≤ 360

/-- The number a member shows, whole or with a fraction. -/
def number (j : Json) (key : String) : Option ℚ :=
  match j.member? key with
  | some (.int i) => some i
  | some (.dbl q) => some q
  | _ => none

/-- The time as the services write it, with or without milliseconds. -/
def isoText (t : Int) (fraction : String) : String :=
  String.ofList (fmtColumns 'T' (Gregorian.gmtime t)) ++ fraction ++ "Z"

/-- The last data of a device show an observation in Fahrenheit, inches and miles; a member
that is missing or no number shows nothing. There may be other members. -/
structure ShowsAmbient (j : Json) (o : Observation) : Prop where
  date : ∃ fraction, j.member? "date" = some (.str (isoText o.instant fraction))
  tempf : number j "tempf" = o.tempC.map fun c => c * 9 / 5 + 32
  humidity : number j "humidity" = o.humidityPct
  dewPoint : number j "dewPoint" = o.dewPointC.map fun c => c * 9 / 5 + 32
  baromrelin : number j "baromrelin" = o.pressureHpa.map (· / 33.8639)
  baromabsin : number j "baromabsin" = o.pressureAbsHpa.map (· / 33.8639)
  windspeedmph : number j "windspeedmph" = o.windSpeedMs.map (· / 0.44704)
  windgustmph : number j "windgustmph" = o.windGustMs.map (· / 0.44704)
  winddir : number j "winddir" = o.windDirDeg.map Int.cast
  hourlyrainin : number j "hourlyrainin" = o.rainRateMmh.map (· / 25.4)
  dailyrainin : number j "dailyrainin" = o.rainDailyMm.map (· / 25.4)
  uv : number j "uv" = o.uvIndex
  solarradiation : number j "solarradiation" = o.solarWm2

/-- An observation of a station: Celsius, hectopascals, millimetres and kilometres an hour, most
of them in an object of their own, and no absolute pressure. -/
structure ShowsWunderground (j : Json) (o : Observation) : Prop where
  obsTimeUtc : ∃ fraction, j.member? "obsTimeUtc" = some (.str (isoText o.instant fraction))
  humidity : number j "humidity" = o.humidityPct
  winddir : number j "winddir" = o.windDirDeg.map Int.cast
  uv : number j "uv" = o.uvIndex
  solarRadiation : number j "solarRadiation" = o.solarWm2
  pressureAbs : o.pressureAbsHpa = none
  metric : ∃ ms, j.member? "metric" = some (.obj ms) ∧
    number (.obj ms) "temp" = o.tempC ∧ number (.obj ms) "dewpt" = o.dewPointC ∧
    number (.obj ms) "pressure" = o.pressureHpa ∧
    number (.obj ms) "windSpeed" = o.windSpeedMs.map (· * 3.6) ∧
    number (.obj ms) "windGust" = o.windGustMs.map (· * 3.6) ∧
    number (.obj ms) "precipRate" = o.rainRateMmh ∧ number (.obj ms) "precipTotal" = o.rainDailyMm

/-- The same value to a millionth, or none in both. -/
def CloseTo : Option ℚ → Option ℚ → Prop := Option.Rel fun x y => |x - y| ≤ 1 / 1000000

/-- A row that says what was observed. -/
structure Close (row : WeatherReadingRow) (o : Observation) : Prop where
  tsUtc : row.tsUtc = fmtSqlUtc o.instant
  tempC : CloseTo row.tempC o.tempC
  humidityPct : CloseTo row.humidityPct o.humidityPct
  dewPointC : CloseTo row.dewPointC o.dewPointC
  pressureHpa : CloseTo row.pressureHpa o.pressureHpa
  pressureAbsHpa : CloseTo row.pressureAbsHpa o.pressureAbsHpa
  windSpeedMs : CloseTo row.windSpeedMs o.windSpeedMs
  windGustMs : CloseTo row.windGustMs o.windGustMs
  windDirDeg : row.windDirDeg = o.windDirDeg
  rainRateMmh : CloseTo row.rainRateMmh o.rainRateMmh
  rainDailyMm : CloseTo row.rainDailyMm o.rainDailyMm
  uvIndex : CloseTo row.uvIndex o.uvIndex
  solarWm2 : CloseTo row.solarWm2 o.solarWm2

/-! ### What is shown is read -/

/-- A timestamp of the service becomes one of the database. -/
theorem isoToSql_date {j : Json} {key : String} {t : Int} {fraction : String} (ht : InYears t)
    (h : j.member? key = some (.str (isoText t fraction))) : isoToSql j key = fmtSqlUtc t := by
  have hcolumns : ∀ sep, fmtColumns sep (Gregorian.gmtime t) = (columnsOf t).text sep :=
    fmtColumns_gmtime ht
  -- ten columns of a date and eight of a time, and one between them that depends on the format
  obtain ⟨date, time, hdate, htime, htext⟩ : ∃ date time, date.length = 10 ∧ time.length = 8 ∧
      ∀ sep, (columnsOf t).text sep = date ++ sep :: time := by
    refine ⟨DecimalText.fixedDigits 4 (columnsOf t).year ++
        '-' :: (DecimalText.fixedDigits 2 (columnsOf t).mon ++
          '-' :: DecimalText.fixedDigits 2 (columnsOf t).day),
      DecimalText.fixedDigits 2 (columnsOf t).hour ++
        ':' :: (DecimalText.fixedDigits 2 (columnsOf t).min ++
          ':' :: DecimalText.fixedDigits 2 (columnsOf t).sec),
      by simp, by simp, fun sep => ?_⟩
    unfold Columns.text
    simp only [List.append_assoc, List.cons_append]
  have htake : (isoText t fraction).toList.take 19 = date ++ 'T' :: time := by
    unfold isoText
    rw [String.toList_append, String.toList_append, String.toList_ofList, List.append_assoc,
        hcolumns, htext]
    refine List.take_left' ?_
    rw [List.length_append, List.length_cons, hdate, htime]
  have hlong : 19 ≤ (isoText t fraction).length := by
    have hlength := congrArg List.length htake
    rw [List.length_take, List.length_append, List.length_cons, hdate, htime,
        String.length_toList] at hlength
    omega
  have hset : (date ++ 'T' :: time).set 10 ' ' = date ++ ' ' :: time := by
    rw [← hdate, List.set_append_right _ _ (Nat.le_refl _), Nat.sub_self]
    rfl
  unfold isoToSql
  rw [h]
  show (if 19 ≤ (isoText t fraction).length then _ else "") = _
  rw [if_pos hlong, htake, hset]
  unfold fmtSqlUtc fmtSql
  rw [hcolumns, htext]

section

variable {j : Json} {key : String} {x : Option ℚ}

/-- Whole numbers of weather are doubles, so a number is read as it is shown. -/
theorem jnum_eq (hbound : ∀ v ∈ number j key, |v| ≤ 10000000) : jnum j key = number j key := by
  unfold number at hbound
  unfold jnum number
  split
  next i h =>
    rw [h] at hbound
    have hi : |i| ≤ 10000000 := by exact_mod_cast hbound i rfl
    rw [nearest_intCast (hi.trans (by norm_num))]
  next => rfl
  next => rfl

/-- A value is close to itself. -/
theorem closeTo_refl (x : Option ℚ) : CloseTo x x := by
  cases x with
  | none => exact .none
  | some v =>
    refine .some ?_
    rw [sub_self, abs_zero]
    norm_num

/-- A value shown as it is comes out close to it. -/
theorem close_shown (hx : ∀ v ∈ x, |v| ≤ 100000) (h : number j key = x) : CloseTo (jnum j key) x := by
  have hbound : ∀ v ∈ number j key, |v| ≤ 10000000 := by
    intro v hv
    have hv := hx v (h ▸ hv)
    linarith
  rw [jnum_eq hbound, h]
  exact closeTo_refl x

/-- A value that was converted is converted back, to a millionth. -/
theorem close_converted {shown read : ℚ → ℚ} (hx : ∀ v ∈ x, |v| ≤ 100000)
    (hshown : ∀ v, |v| ≤ 100000 → |shown v| ≤ 10000000)
    (hread : ∀ v, |v| ≤ 100000 → |read (shown v) - v| ≤ 1 / 1000000)
    (h : number j key = x.map shown) : CloseTo ((jnum j key).map read) x := by
  have hbound : ∀ v ∈ number j key, |v| ≤ 10000000 := by
    intro v hv
    rw [h] at hv
    obtain ⟨w, hw, rfl⟩ := Option.mem_map.mp hv
    exact hshown w (hx w hw)
  rw [jnum_eq hbound, h]
  cases x with
  | none => exact .none
  | some v => exact .some (hread v (hx v rfl))

/-- A value shown in Fahrenheit comes out close to it. -/
theorem close_fahrenheit (hx : ∀ v ∈ x, |v| ≤ 100000)
    (h : number j key = x.map fun c => c * 9 / 5 + 32) : CloseTo ((jnum j key).map f2c) x := by
  refine close_converted hx (fun c hc => ?_) (fun c hc => ?_) h
  · obtain ⟨hlow, hhigh⟩ := abs_le.mp hc
    exact abs_le.mpr ⟨by linarith, by linarith⟩
  · -- three operations, each of which loses a little
    obtain ⟨hlow, hhigh⟩ := abs_le.mp hc
    have hdiff : |nearest (c * 9 / 5 + 32 - 32) - c * 9 / 5| ≤ 0 + 1 / 100000000 :=
      near_nearest (by simp) (abs_le.mpr ⟨by linarith, by linarith⟩)
    obtain ⟨hd₁, hd₂⟩ := abs_le.mp hdiff
    have hprod : |nearest
        (nearest (c * 9 / 5 + 32 - 32) * 5) - c * 9| ≤ 5 / 100000000 + 1 / 100000000 :=
      near_nearest (abs_le.mpr ⟨by linarith, by linarith⟩) (abs_le.mpr ⟨by linarith, by linarith⟩)
    obtain ⟨hp₁, hp₂⟩ := abs_le.mp hprod
    have hquot : |f2c (c * 9 / 5 + 32) - c| ≤ 1 / 100000000 + 1 / 100000000 :=
      near_nearest (abs_le.mpr ⟨by linarith, by linarith⟩) (abs_le.mpr ⟨by linarith, by linarith⟩)
    linarith

/-- A value shown in a smaller unit and multiplied comes out close to it. -/
theorem close_times {k : ℚ} (hk : 1 / 10 ≤ k ∧ k ≤ 40) (hx : ∀ v ∈ x, |v| ≤ 100000)
    (h : number j key = x.map (· / k)) : CloseTo ((jnum j key).map (times k)) x := by
  have hpos : 0 < k := by linarith [hk.1]
  have hshown : ∀ v : ℚ, |v| ≤ 100000 → |v / k| ≤ 1000000 := by
    intro v hv
    rw [abs_div, abs_of_pos hpos, div_le_iff₀ hpos]
    linarith [hk.1]
  refine close_converted hx (fun v hv => (hshown v hv).trans (by norm_num)) (fun v hv => ?_) h
  have hnear := near_mul (hshown v hv) (abs_le.mpr ⟨by linarith, hk.2⟩) (div_mul_cancel₀ v hpos.ne')
    (hv.trans (by norm_num))
  exact hnear.trans (by norm_num)

/-- A value shown in a smaller unit and divided comes out close to it. -/
theorem close_dividedBy {k : ℚ} (hk : 1 ≤ k ∧ k ≤ 40) (hx : ∀ v ∈ x, |v| ≤ 100000)
    (h : number j key = x.map (· * k)) : CloseTo ((jnum j key).map (dividedBy k)) x := by
  have hpos : 0 < k := by linarith [hk.1]
  refine close_converted hx (fun v hv => ?_) (fun v hv => ?_) h
  · have hle : |v| * k ≤ 100000 * 40 := mul_le_mul hv hk.2 hpos.le (by norm_num)
    rw [abs_mul, abs_of_pos hpos]
    linarith
  · exact (near_div hk rfl (hv.trans (by norm_num))).trans (by norm_num)

/-- A whole direction is rounded to itself. -/
theorem lroundInt_int {deg : Int} (h : 0 ≤ deg ∧ deg ≤ 360) : lroundInt deg = deg := by
  have hround : lround (deg : ℚ) = deg := by
    have hpos : (0 : ℚ) ≤ deg := by exact_mod_cast h.1
    unfold lround
    rw [if_pos hpos, Int.floor_eq_iff]
    constructor
    · linarith
    · linarith
  unfold lroundInt
  rw [hround]
  exact Int.bmod_eq_of_le (by omega) (by omega)

/-- The direction comes out as it is. -/
theorem direction_shown {dir : Option Int} (hdir : ∀ deg ∈ dir, 0 ≤ deg ∧ deg ≤ 360)
    (h : number j key = dir.map Int.cast) : (jnum j key).map lroundInt = dir := by
  have hbound : ∀ v ∈ number j key, |v| ≤ 10000000 := by
    intro v hv
    rw [h] at hv
    obtain ⟨deg, hdeg, rfl⟩ := Option.mem_map.mp hv
    obtain ⟨hlow, hhigh⟩ := hdir deg hdeg
    have hlow : (0 : ℚ) ≤ deg := by exact_mod_cast hlow
    have hhigh : (deg : ℚ) ≤ 360 := by exact_mod_cast hhigh
    exact abs_le.mpr ⟨by linarith, by linarith⟩
  rw [jnum_eq hbound, h]
  cases dir with
  | none => rfl
  | some deg => exact congrArg some (lroundInt_int (hdir deg rfl))

end

section

variable {j : Json} {o : Observation}

/-- `parse_ambient` brings out every value close to the one shown. -/
theorem parseAmbient_close (ho : o.Moderate) (h : ShowsAmbient j o) : Close (parseAmbient d j) o := by
  have hm := ho.measures
  simp only [Observation.measures, List.forall_mem_cons] at hm
  obtain ⟨htemp, hhum, hdew, hpres, habs, hwind, hgust, hrate, hdaily, huv, hsolar, -⟩ := hm
  obtain ⟨fraction, hdate⟩ := h.date
  exact
    { tsUtc := isoToSql_date ho.inYears hdate
      tempC := close_fahrenheit htemp h.tempf
      humidityPct := close_shown hhum h.humidity
      dewPointC := close_fahrenheit hdew h.dewPoint
      pressureHpa := close_times (by norm_num) hpres h.baromrelin
      pressureAbsHpa := close_times (by norm_num) habs h.baromabsin
      windSpeedMs := close_times (by norm_num) hwind h.windspeedmph
      windGustMs := close_times (by norm_num) hgust h.windgustmph
      windDirDeg := direction_shown ho.direction h.winddir
      rainRateMmh := close_times (by norm_num) hrate h.hourlyrainin
      rainDailyMm := close_times (by norm_num) hdaily h.dailyrainin
      uvIndex := close_shown huv h.uv
      solarWm2 := close_shown hsolar h.solarradiation }

/-- `parse_wunderground` brings out every value close to the one shown. -/
theorem parseWunderground_close (ho : o.Moderate) (h : ShowsWunderground j o) :
    Close (parseWunderground d j) o := by
  have hm := ho.measures
  simp only [Observation.measures, List.forall_mem_cons] at hm
  obtain ⟨htemp, hhum, hdew, hpres, -, hwind, hgust, hrate, hdaily, huv, hsolar, -⟩ := hm
  obtain ⟨fraction, hdate⟩ := h.obsTimeUtc
  obtain ⟨ms, hmetric, t, dew, pres, wind, gust, rate, total⟩ := h.metric
  unfold parseWunderground
  rw [hmetric]
  exact
    { tsUtc := isoToSql_date ho.inYears hdate
      tempC := close_shown htemp t
      humidityPct := close_shown hhum h.humidity
      dewPointC := close_shown hdew dew
      pressureHpa := close_shown hpres pres
      pressureAbsHpa := h.pressureAbs ▸ .none
      windSpeedMs := close_dividedBy (by norm_num) hwind wind
      windGustMs := close_dividedBy (by norm_num) hgust gust
      windDirDeg := direction_shown ho.direction h.winddir
      rainRateMmh := close_shown hrate rate
      rainDailyMm := close_shown hdaily total
      uvIndex := close_shown huv h.uv
      solarWm2 := close_shown hsolar h.solarRadiation }

end

/-! ## Requests -/

/-- A parameter of a request, as it is received. -/
def parameter (target : List Char) (name : String) : Option String :=
  ((GdriveAuth.formFields ((target.dropWhile (· ≠ '?')).drop 1)).bind (Gdrive.field name)).bind ofOctets

/-- A request for what belongs to the provider: its keys and its station arrive as they are in the
config, whatever characters they have. -/
def IWeatherProvider.Asks (host : String) (target : List Char) : IWeatherProvider → Prop
  | .ambient appKey apiKey _ => host = "api.ambientweather.net" ∧
    target.takeWhile (· ≠ '?') = "/v1/devices".toList ∧
    parameter target "applicationKey" = some appKey ∧ parameter target "apiKey" = some apiKey
  | .wunderground stationId apiKey => host = "api.weather.com" ∧
    target.takeWhile (· ≠ '?') = "/v2/pws/observations/current".toList ∧
    parameter target "stationId" = some stationId ∧ parameter target "format" = some "json" ∧
    parameter target "units" = some "m" ∧ parameter target "apiKey" = some apiKey

/-- The request of `fetchAmbient`. -/
def ambientTarget (appKey apiKey : String) : List Char :=
  "/v1/devices?applicationKey=".toList ++ Gdrive.urlEncode appKey ++
    "&apiKey=".toList ++ Gdrive.urlEncode apiKey

/-- The request of `fetchWunderground`. -/
def wundergroundTarget (stationId apiKey : String) : List Char :=
  "/v2/pws/observations/current?stationId=".toList ++ Gdrive.urlEncode stationId ++
    "&format=json&units=m&apiKey=".toList ++ Gdrive.urlEncode apiKey

/-- A request that carries two values is sent as it is. -/
theorem encodeUrl_request {first second : String} (a b : String)
    (hfirst : (first.toList.all fun c => c.toNat ≠ 0 ∧ Httplib.encodedChar c = [c]) = true)
    (hsecond : (second.toList.all fun c => c.toNat ≠ 0 ∧ Httplib.encodedChar c = [c]) = true) :
    Httplib.encodeUrl (first.toList ++ Gdrive.urlEncode a ++ second.toList ++ Gdrive.urlEncode b)
      = first.toList ++ Gdrive.urlEncode a ++ second.toList ++ Gdrive.urlEncode b := by
  refine Httplib.encodeUrl_plain fun c hc => ?_
  simp only [List.mem_append] at hc
  rcases hc with ((hc | hc) | hc) | hc
  · exact Httplib.plainInUrl_literal hfirst c hc
  · exact Gdrive.plain_urlEncode c hc
  · exact Httplib.plainInUrl_literal hsecond c hc
  · exact Gdrive.plain_urlEncode c hc

/-- httplib sends the request as it is. -/
theorem encodeUrl_ambientTarget (appKey apiKey : String) :
    Httplib.encodeUrl (ambientTarget appKey apiKey) = ambientTarget appKey apiKey :=
  encodeUrl_request appKey apiKey rfl rfl

/-- httplib sends the request as it is. -/
theorem encodeUrl_wundergroundTarget (stationId apiKey : String) :
    Httplib.encodeUrl (wundergroundTarget stationId apiKey) = wundergroundTarget stationId apiKey :=
  encodeUrl_request stationId apiKey rfl rfl

/-- The path and the fields of a request. -/
theorem target_parts {path : List Char} {fields : List (List Char × List Char)} (hpath : '?' ∉ path)
    (hne : fields ≠ [])
    (hnames : ∀ f ∈ fields, ∀ c ∈ f.1, GdriveAuth.unreserved c = true)
    (hvalues : ∀ f ∈ fields, ∀ c ∈ f.2, c.toNat < 256) :
    (path ++ '?' :: GdriveAuth.form fields).takeWhile (· ≠ '?') = path ∧
      GdriveAuth.formFields (((path ++ '?' :: GdriveAuth.form fields).dropWhile (· ≠ '?')).drop 1) =
          some fields := by
  have hstop : ∀ c ∈ path, decide (c ≠ '?') = true := by
    intro c hc
    exact decide_eq_true fun heq => hpath (heq ▸ hc)
  rw [List.takeWhile_append_of_pos hstop, List.dropWhile_append_of_pos hstop,
    List.takeWhile_cons_of_neg (by decide), List.dropWhile_cons_of_neg (by decide), List.append_nil]
  exact ⟨rfl, GdriveAuth.formFields_form hne hnames hvalues⟩

/-- The parameter the service reads in the request. -/
theorem parameter_eq {target : List Char} {fields : List (List Char × List Char)} {name value : String}
    (hfields : GdriveAuth.formFields ((target.dropWhile (· ≠ '?')).drop 1) = some fields)
    (hfield : Gdrive.field name fields = some (octets value)) : parameter target name = some value := by
  unfold parameter
  rw [hfields, Option.bind_some, hfield]
  exact ofOctets_octets value

/-- The keys arrive as they are in the config. -/
theorem ambientTarget_asks (appKey apiKey mac : String) :
    (IWeatherProvider.ambient appKey apiKey mac).Asks "api.ambientweather.net"
      (ambientTarget appKey apiKey) := by
  have htarget : ambientTarget appKey apiKey = "/v1/devices".toList ++ '?' :: GdriveAuth.form
      [("applicationKey".toList, octets appKey), ("apiKey".toList, octets apiKey)] := by
    have hfirst : "/v1/devices?applicationKey=".toList
        = "/v1/devices".toList ++ '?' :: ("applicationKey".toList ++ ['=']) := rfl
    have hsecond : "&apiKey=".toList = '&' :: ("apiKey".toList ++ ['=']) := rfl
    unfold ambientTarget
    rw [hfirst, hsecond]
    simp only [GdriveAuth.form_cons_cons, GdriveAuth.form_singleton, GdriveAuth.urlEncode_octets,
      List.append_assoc, List.cons_append, List.nil_append]
  have hmark : '?' ∉ "/v1/devices".toList := by decide
  obtain ⟨hpath, hfields⟩ :=
    @target_parts _ [("applicationKey".toList, octets appKey), ("apiKey".toList, octets apiKey)]
    hmark (List.cons_ne_nil _ _)
    (by
      simp only [List.forall_mem_cons]
      exact ⟨GdriveAuth.plain_literal rfl, GdriveAuth.plain_literal rfl, fun _ hmem =>
        absurd hmem List.not_mem_nil⟩)
    (by
      simp only [List.forall_mem_cons]
      exact ⟨octets_lt _, octets_lt _, fun _ hmem => absurd hmem List.not_mem_nil⟩)
  rw [← htarget] at hpath hfields
  exact ⟨rfl, hpath, parameter_eq hfields rfl, parameter_eq hfields rfl⟩

/-- The request asks for the station with the key. -/
theorem wundergroundTarget_asks (stationId apiKey : String) :
    (IWeatherProvider.wunderground stationId apiKey).Asks "api.weather.com"
      (wundergroundTarget stationId apiKey) := by
  have htarget : wundergroundTarget stationId apiKey =
      "/v2/pws/observations/current".toList ++ '?' :: GdriveAuth.form
      [("stationId".toList, octets stationId), ("format".toList, "json".toList),
        ("units".toList, "m".toList), ("apiKey".toList, octets apiKey)] := by
    have hfirst : "/v2/pws/observations/current?stationId=".toList
        = "/v2/pws/observations/current".toList ++ '?' :: ("stationId".toList ++ ['=']) := rfl
    have hformat : GdriveAuth.urlEncode "json".toList = "json".toList := rfl
    have hunits : GdriveAuth.urlEncode "m".toList = "m".toList := rfl
    have hmiddle : "&format=json&units=m&apiKey=".toList = '&' ::
        ("format".toList ++ '=' :: ("json".toList ++
        '&' :: ("units".toList ++ '=' :: ("m".toList ++ '&' :: ("apiKey".toList ++ ['=']))))) := rfl
    unfold wundergroundTarget
    rw [hfirst, hmiddle]
    simp only [GdriveAuth.form_cons_cons, GdriveAuth.form_singleton, GdriveAuth.urlEncode_octets,
      hformat, hunits, List.append_assoc, List.cons_append, List.nil_append]
  have hmark : '?' ∉ "/v2/pws/observations/current".toList := by decide
  obtain ⟨hpath, hfields⟩ :=
      @target_parts _ [("stationId".toList, octets stationId), ("format".toList, "json".toList),
          ("units".toList, "m".toList), ("apiKey".toList, octets apiKey)] hmark (List.cons_ne_nil _ _)
    (by
      simp only [List.forall_mem_cons]
      exact ⟨GdriveAuth.plain_literal rfl, GdriveAuth.plain_literal rfl, GdriveAuth.plain_literal rfl,
        GdriveAuth.plain_literal rfl, fun _ hmem => absurd hmem List.not_mem_nil⟩)
    (by
      simp only [List.forall_mem_cons]
      exact ⟨octets_lt _, GdriveAuth.bytes_literal rfl, GdriveAuth.bytes_literal rfl, octets_lt _,
        fun _ hmem => absurd hmem List.not_mem_nil⟩)
  rw [← htarget] at hpath hfields
  have hformat : octets "json" = "json".toList := rfl
  have hunits : octets "m" = "m".toList := rfl
  exact ⟨rfl, hpath, parameter_eq hfields rfl, parameter_eq hfields (congrArg some hformat.symm),
    parameter_eq hfields (congrArg some hunits.symm), parameter_eq hfields rfl⟩

/-! ## Answers -/

/-- The device of a MAC address, or the first one. -/
def ChosenDevice (mac : String) (devices : List Json) (dev : Json) : Prop :=
  if mac = "" then devices.head? = some dev
  else ∃ before after, devices = before ++ dev :: after ∧
    (∀ v ∈ before, ∃ other, v.member? "macAddress" = some (.str other) ∧ other ≠ mac) ∧
    dev.member? "macAddress" = some (.str mac)

/-- The document of an account or a station, with the data of the provider's device, or of the
station's last observation, in it. -/
def IWeatherProvider.Documents (j data : Json) : IWeatherProvider → Prop
  | .ambient _ _ mac => ∃ devices dev, j = .arr devices ∧ ChosenDevice mac devices dev ∧
    dev.member? "lastData" = some data
  | .wunderground _ _ => ∃ rest, j.member? "observations" = some (.arr (data :: rest))

/-- The answer shows the observation in the provider's own units. -/
def IWeatherProvider.Shows (data : Json) (o : Observation) : IWeatherProvider → Prop
  | .ambient _ _ _ => ShowsAmbient data o
  | .wunderground _ _ => ShowsWunderground data o

/-- A document that answers a request of the provider. -/
structure IWeatherProvider.Answers (get : HttpGet) (host : String) (target : List Char)
    (data : Json) (p : IWeatherProvider) : Prop where
  answered : ∃ status body j, get host target = .ok (status, body) ∧ 200 ≤ status ∧ status < 300 ∧
    d.json.parse body = some j ∧ p.Documents j data

/-- `value` of a member that is there reads it. -/
theorem valueOr_member {α : Type} {j v : Json} {key : String} (h : j.member? key = some v)
    (get : Json → Except String α) (dflt : α) : j.valueOr key get dflt = get v := by
  cases j with
  | obj ms =>
    have hfound : Json.findMember key ms = some v := h
    simp only [Json.valueOr, hfound]
  | _ => cases h

/-- Of the devices the first with the MAC address is taken. -/
theorem findDevice_chosen {mac : String} {dev : Json} {after : List Json} (before : List Json)
    (hbefore : ∀ v ∈ before, ∃ other, v.member? "macAddress" = some (.str other) ∧ other ≠ mac)
    (hdev : dev.member? "macAddress" = some (.str mac)) :
    findDevice mac (before ++ dev :: after) = .ok dev := by
  induction before with
  | nil =>
    have hmac : dev.valueOr "macAddress" Json.getString "" = .ok mac :=
      valueOr_member hdev Json.getString ""
    rw [List.nil_append, findDevice, hmac]
    exact if_pos rfl
  | cons v before ih =>
    obtain ⟨other, hv, hne⟩ := hbefore v List.mem_cons_self
    have hmac : v.valueOr "macAddress" Json.getString "" = .ok other :=
      valueOr_member hv Json.getString ""
    rw [List.cons_append, findDevice, hmac]
    show (if other = mac then Except.ok v else findDevice mac (before ++ dev :: after)) = _
    rw [if_neg hne]
    exact ih fun x hx => hbefore x (List.mem_cons_of_mem v hx)

section

variable {d} {get : HttpGet} {data : Json}

/-- An answer with a status of 2xx is the body. -/
theorem httpsGet_answered {host body : String} {target : List Char} {status : Nat}
    (hplain : Httplib.encodeUrl target = target) (hget : get host target = .ok (status, body))
    (hlow : 200 ≤ status) (hhigh : status < 300) : httpsGet get host target = .ok body := by
  unfold httpsGet
  rw [hplain, hget]
  exact if_neg (by omega)

/-- `fetchAmbient` returns what `parse_ambient` makes of the answer. -/
theorem fetchAmbient_answered {appKey apiKey mac : String}
    (h : (IWeatherProvider.ambient appKey apiKey mac).Answers d get "api.ambientweather.net"
      (ambientTarget appKey apiKey) data) :
    fetchAmbient d get appKey apiKey mac = .ok (parseAmbient d data) := by
  obtain ⟨status, body, j, hget, hlow, hhigh, hparsed, devices, dev, rfl, hchosen, hdata⟩ := h.answered
  have hbody := httpsGet_answered (encodeUrl_ambientTarget appKey apiKey) hget hlow hhigh
  unfold ambientTarget at hbody
  unfold fetchAmbient parseJson
  simp only [hbody, bind, Except.bind, hparsed]
  unfold ChosenDevice at hchosen
  by_cases hmac : mac = ""
  · rw [if_pos hmac] at hchosen
    obtain ⟨rest, rfl⟩ := List.head?_eq_some_iff.mp hchosen
    simp only [hmac, if_true, hdata]
    rfl
  · rw [if_neg hmac] at hchosen
    obtain ⟨before, after, hdevices, hbefore, hdev⟩ := hchosen
    have hfound := @findDevice_chosen mac dev after before hbefore hdev
    rw [← hdevices] at hfound
    obtain ⟨first, rest, rfl⟩ : ∃ first rest, devices = first :: rest := by
      cases devices with
      | nil => exact absurd hdevices (by simp)
      | cons first rest => exact ⟨first, rest, rfl⟩
    simp only [hmac, if_false, hfound, hdata]
    rfl

/-- `fetchWunderground` returns what `parse_wunderground` makes of the answer. -/
theorem fetchWunderground_answered {stationId apiKey : String}
    (h : (IWeatherProvider.wunderground stationId apiKey).Answers d get "api.weather.com"
      (wundergroundTarget stationId apiKey) data) :
    fetchWunderground d get stationId apiKey = .ok (parseWunderground d data) := by
  obtain ⟨status, body, j, hget, hlow, hhigh, hparsed, rest, hobs⟩ := h.answered
  have hbody := httpsGet_answered (encodeUrl_wundergroundTarget stationId apiKey) hget hlow hhigh
  unfold wundergroundTarget at hbody
  unfold fetchWunderground parseJson
  simp only [hbody, bind, Except.bind, hparsed, hobs]
  rfl

variable (d)

/-- A provider makes a request for what belongs to it; and whatever answers that with a document
that shows an observation, what is fetched is the observation. -/
theorem fetch_close (get : HttpGet) (p : IWeatherProvider) : ∃ host target, p.Asks host target ∧
    ∀ data o, p.Answers d get host target data → p.Shows data o → o.Moderate →
      ∃ row, fetchOver d get p = .ok row ∧ row.raw = d.json.dump data ∧ Close row o := by
  cases p with
  | ambient appKey apiKey mac =>
    refine ⟨_, _, ambientTarget_asks appKey apiKey mac, fun data o hanswer hshows ho => ?_⟩
    exact ⟨_, fetchAmbient_answered hanswer, rfl, parseAmbient_close d ho hshows⟩
  | wunderground stationId apiKey =>
    refine ⟨_, _, wundergroundTarget_asks stationId apiKey, fun data o hanswer hshows ho => ?_⟩
    have hraw : (parseWunderground d data).raw = d.json.dump data := by
      unfold parseWunderground
      dsimp only
      split
      · rfl
      · rfl
    exact ⟨_, fetchWunderground_answered hanswer, hraw, parseWunderground_close d ho hshows⟩

end

/-! ### Two devices of an account -/

def gardenWeather : Observation where
  instant := 1767225600
  tempC := some (-5)
  windDirDeg := some 270

/-- The weather is moderate. -/
theorem gardenWeather_moderate : gardenWeather.Moderate where
  inYears := by decide
  measures := by
    have hnone : ∀ v ∈ (none : Option ℚ), |v| ≤ 100000 := fun _ h => absurd h (Option.not_mem_none _)
    have htemp : ∀ v ∈ some (-5 : ℚ), |v| ≤ 100000 := by norm_num
    simp only [Observation.measures, gardenWeather, List.forall_mem_cons]
    exact ⟨htemp, hnone, hnone, hnone, hnone, hnone, hnone, hnone, hnone, hnone, hnone,
      fun _ h => absurd h List.not_mem_nil⟩
  direction := by
    intro deg hdeg
    obtain rfl := Option.some.inj hdeg
    decide

def gardenData : Json :=
  .obj [("date", .str "2026-01-01T00:00:00.000Z"), ("dateutc", .int 1767225600000),
    ("tempf", .int 23), ("winddir", .int 270)]

def gardenDevice (mac : String) : Json := .obj [("lastData", gardenData), ("macAddress", .str mac)]

def gardenText : String :=
  "[\x7b\"macAddress\":\"AA\",\"lastData\":\x7b\"dateutc\":1767225600000,\"tempf\":23," ++
    "\"winddir\":270,\"date\":\"2026-01-01T00:00:00.000Z\"\x7d\x7d," ++
    "\x7b\"macAddress\":\"BB\",\"lastData\":\x7b\"dateutc\":1767225600000,\"tempf\":23," ++
    "\"winddir\":270,\"date\":\"2026-01-01T00:00:00.000Z\"\x7d\x7d]"

def gardenDeps : Deps := Deps.plain [(gardenText, .arr [gardenDevice "AA", gardenDevice "BB"])]

/-- The service of an account that has the two. -/
def gardenGet : HttpGet := fun host target =>
  if host = "api.ambientweather.net" ∧ parameter target "applicationKey" = some "a&p" then
    .ok (200, gardenText)
  else .error "Connection"

/-- The data shows the weather. -/
theorem gardenData_shows : ShowsAmbient gardenData gardenWeather where
  date := ⟨".000", congrArg (fun s => some (Json.str s)) (by decide)⟩
  tempf := by
    show some ((23 : Int) : ℚ) = some (-5 * 9 / 5 + 32)
    norm_num
  humidity := rfl
  dewPoint := rfl
  baromrelin := rfl
  baromabsin := rfl
  windspeedmph := rfl
  windgustmph := rfl
  winddir := rfl
  hourlyrainin := rfl
  dailyrainin := rfl
  uv := rfl
  solarradiation := rfl

/-- The service answers with the data to the request for the device. -/
theorem gardenGet_answers {host : String} {target : List Char}
    (h : (IWeatherProvider.ambient "a&p" "k" "BB").Asks host target) :
    (IWeatherProvider.ambient "a&p" "k" "BB").Answers gardenDeps gardenGet host target gardenData where
  answered := by
    obtain ⟨hhost, -, happ, -⟩ := h
    have hparsed : gardenDeps.json.parse gardenText =
        some (.arr [gardenDevice "AA", gardenDevice "BB"]) := by
      simp [gardenDeps, Deps.plain]
    refine ⟨200, gardenText, _, if_pos ⟨hhost, happ⟩, by decide, by decide, hparsed,
      [gardenDevice "AA", gardenDevice "BB"], gardenDevice "BB", rfl, ?_, rfl⟩
    unfold ChosenDevice
    rw [if_neg (by decide)]
    refine ⟨[gardenDevice "AA"], [], rfl, fun v hv => ?_, rfl⟩
    rw [List.mem_singleton.mp hv]
    exact ⟨"AA", rfl, by decide⟩

/-- The second one's weather. -/
theorem fetch_close_garden : ∃ row,
    fetchOver gardenDeps gardenGet (.ambient "a&p" "k" "BB") = .ok row ∧ Close row gardenWeather := by
  obtain ⟨host, target, hasks, hfetch⟩ := fetch_close gardenDeps gardenGet (.ambient "a&p" "k" "BB")
  obtain ⟨row, hrow, -, hclose⟩ :=
    hfetch gardenData gardenWeather (gardenGet_answers hasks) gardenData_shows gardenWeather_moderate
  exact ⟨row, hrow, hclose⟩

end NightWatcher.Weather
