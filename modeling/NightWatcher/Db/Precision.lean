import NightWatcher.Db.Database
import NightWatcher.Sqm.Columns

/-!
# What the database keeps of a response

A measurement goes from the columns of a response through a `double` and the text of an
`ostream`, which has six significant digits, into a DECIMAL column. The columns of a response
have up to ten digits, so that what is kept of a number is `keptDigits 6` of it.
-/

namespace NightWatcher.Database

open Throwing Rounding Sqm.Protocol

variable {srv : Server}

/-- How the server stores what is given to it: a number with no more decimals than the column as
it is, unless it has too many digits for it, and a text that is short enough as it is. -/
structure StoresColumns (srv : Server) : Prop where
  ignoreNum : ∀ (precision scale : Nat) (k : Int), |k| < 10 ^ precision →
    srv.ignoreNum (.decimal precision scale) (k / 10 ^ scale) = k / 10 ^ scale
  storeNum : ∀ (precision scale : Nat) (k : Int),
    srv.storeNum (.decimal precision scale) (k / 10 ^ scale)
      = if |k| < 10 ^ precision then some ((k : ℚ) / 10 ^ scale) else none
  ignoreText : ∀ (n : Nat) (s : String), s.length ≤ n → srv.ignoreText (.varchar n) s = s
  storeText : ∀ (n : Nat) (s : String), s.length ≤ n → srv.storeText (.varchar n) s = some s

/-! ## A column of a response as an `ostream` prints it -/

/-- The number with the sign of its column. -/
def signedInt (negative : Bool) (k : Int) : Int := if negative then -k else k

theorem signedValue_eq (negative : Bool) (n s : Nat) :
    signedValue negative ((n : ℚ) / 10 ^ s) = (signedInt negative n : ℚ) / 10 ^ s := by
  unfold signedValue signedInt
  cases negative
  · simp
  · simp [neg_div]

theorem toSignificant_signed (negative : Bool) (p n s : Nat) :
    toSignificant p (signedValue negative (n / 10 ^ s))
      = (signedInt negative (keptDigits p n) : ℚ) / 10 ^ s := by
  unfold signedValue signedInt
  cases negative
  · simp [toSignificant_scaled]
  · simp [toSignificant_neg, toSignificant_scaled, neg_div]

theorem signedInt_inj {negative : Bool} {a b : Int} :
    signedInt negative a = signedInt negative b ↔ a = b := by
  unfold signedInt
  cases negative
  · simp
  · simp

theorem abs_signedInt (negative : Bool) (k : Int) : |signedInt negative k| = |k| := by
  unfold signedInt
  cases negative
  · simp
  · simp

/-- Nothing is lost where the digits are significant. -/
theorem stored_eq_iff {negative : Bool} {n s : Nat} :
    (signedInt negative (keptDigits 6 n) : ℚ) / 10 ^ s = signedValue negative (n / 10 ^ s) ↔
      Significant 6 n := by
  have hpow : (10 : ℚ) ^ s ≠ 0 := by positivity
  rw [signedValue_eq, div_left_inj' hpow, Int.cast_inj, signedInt_inj, keptDigits_eq_iff]

/-! ## Readings -/

/-- A stored row has the values of a reading. -/
structure HoldsReading (row : ReadingRow) (r : Reading) : Prop where
  magArcsec2 : row.magArcsec2 = r.magArcsec2
  freqHz : row.freqHz = r.freqHz
  periodCounts : row.periodCounts = r.periodCounts
  periodS : row.periodS = r.periodS
  tempC : row.tempC = r.tempC

/-- A reading can be stored under a timestamp: its sensor exists, and has no reading there yet. -/
structure Storable (srv : Server) (w : World) (sensorId tsUtc ts : String) : Prop where
  answered : w.dbFaults.head? ≠ some true
  id_length : sensorId.length ≤ 32
  sensor : ∃ s ∈ w.db.sensors, srv.same s.id sensorId = true
  timestamp : timestampOrNow srv w.now tsUtc = some ts
  free : ∀ x ∈ w.db.readings, srv.same x.sensorId sensorId = true → x.tsUtc ≠ ts

/-- Whoever asks for the readings of the sensor, this timestamp among them, gets one row for it,
and that row has the values of the reading. -/
def ReadingKept (srv : Server) (sensorId ts : String) (r : Reading) (w : World) : Prop :=
  ∀ lo hi (limit : Int) rows fs, tsBetween srv lo hi ts = true → (w.db.readings.length : Int) ≤ limit →
    readingsBetween srv sensorId lo hi limit ⟨w.db, w.now⟩ [] = .ok rows fs →
    ∃ row, rows.filter (fun x => x.tsUtc = ts) = [row] ∧ HoldsReading row r

/-- The row that a reading is stored as. -/
def readingRow (srv : Server) (db : Db) (sensorId ts : String) (r : Reading) (source : Source)
    (quality : Quality) : ReadingRow where
  id := db.next.readings
  sensorId := sensorId
  tsUtc := ts
  magArcsec2 := srv.ignoreNum (.decimal 6 3) (toSignificant 6 r.magArcsec2)
  freqHz := r.freqHz
  periodCounts := r.periodCounts
  periodS := srv.ignoreNum (.decimal 12 3) (toSignificant 6 r.periodS)
  tempC := srv.ignoreNum (.decimal 5 1) (toSignificant 6 r.tempC)
  quality := quality
  source := source
  rawLine := srv.ignoreText (.varchar 128) r.raw

section Readings

variable {w : World} {sensorId tsUtc ts : String} {r : Reading} {source : Source} {quality : Quality}

theorem meets_insertReading_stores (hid : srv.ignoreText (.varchar 32) sensorId = sensorId)
    (h : Storable srv w sensorId tsUtc ts) :
    Meets (insertReading srv sensorId r tsUtc source quality) w
      (fun _ w' => w'.db.readings = w.db.readings ++ [readingRow srv w.db sensorId ts r source quality])
      fun _ _ => False := by
  have hfree : w.db.readings.any (fun x => srv.same x.sensorId sensorId && decide (x.tsUtc = ts))
      = false := by
    rw [List.any_eq_false]
    intro x hx hboth
    rw [Bool.and_eq_true, decide_eq_true_eq] at hboth
    exact h.free x hx hboth.1 hboth.2
  have hthere : w.db.sensors.any (fun x => srv.same x.id sensorId) = true := by
    rw [List.any_eq_true]
    exact h.sensor
  unfold insertReading
  refine meets_statement_head (fun _ a db' fs hrow => ?_) fun hbad => ?_
  · simp only [hid, h.timestamp, Option.getD_some, hfree, hthere, Bool.not_true, Bool.or_self,
      Bool.false_eq_true, if_false, Option.pure_def, Option.some.injEq, Prod.mk.injEq] at hrow
    rw [← hrow.2]
    rfl
  · have hnone := hbad.resolve_left h.answered
    simp only [hid, h.timestamp, Option.getD_some, hfree, hthere, Bool.not_true, Bool.or_self,
      Bool.false_eq_true, if_false, Option.pure_def] at hnone
    cases hnone

/-- What is asked for is every row of the sensor, and one of them has this timestamp. -/
theorem readingsBetween_filter {db : Db} {old : List ReadingRow} {row : ReadingRow} {now limit : Int}
    {lo hi : String} {rows : List ReadingRow} {fs : List Bool} (hdb : db.readings = old ++ [row])
    (hrow : srv.same row.sensorId sensorId = true)
    (hfree : ∀ x ∈ old, srv.same x.sensorId sensorId = true → x.tsUtc ≠ row.tsUtc)
    (hbetween : tsBetween srv lo hi row.tsUtc = true) (hlimit : (db.readings.length : Int) ≤ limit)
    (h : readingsBetween srv sensorId lo hi limit ⟨db, now⟩ [] = .ok rows fs) :
    rows.filter (fun x => x.tsUtc = row.tsUtc) = [row] := by
  obtain ⟨rfl, -⟩ := EStateM.Result.ok.inj h
  dsimp only
  rw [List.take_of_length_le]
  · refine List.perm_singleton.mp (((List.mergeSort_perm _ _).filter _).trans ?_)
    rw [hdb, List.filter_append, List.filter_append]
    have hold : ((old.filter fun r => srv.same r.sensorId sensorId &&
        tsBetween srv lo hi r.tsUtc).filter
        fun x => decide (x.tsUtc = row.tsUtc)) = [] := by
      rw [List.filter_filter, List.filter_eq_nil_iff]
      intro x hx hall
      simp only [Bool.and_eq_true, decide_eq_true_eq] at hall
      exact hfree x hx hall.2.1 hall.1
    rw [hold]
    simp [hrow, hbetween]
  · rw [List.length_mergeSort]
    refine (List.length_filter_le _ _).trans ?_
    unfold clampLimit
    have hpos : 0 < db.readings.length := by
      rw [hdb]
      simp
    split
    · omega
    · omega

/-- What the daemon makes of a reading in its columns. -/
def exactReading (c : ReadingColumns) : Reading where
  magArcsec2 := signedValue c.magNegative (c.mag / 10 ^ 2)
  freqHz := c.freq
  periodCounts := c.counts
  periodS := signedValue false (c.period / 10 ^ 3)
  tempC := signedValue c.tempNegative (c.temp / 10 ^ 1)
  serial := String.ofList (c.serialDigits.getD [])
  raw := String.ofList c.line

theorem codec_parseReading (c : ReadingColumns) (cr : Bool) :
    codec.parseReading (String.ofList (c.line ++ lineEnd cr)) = .ok (exactReading c) := by
  unfold codec
  dsimp only
  rw [String.toList_ofList, c.parse_line]
  rfl

/-- A column of a response in a DECIMAL column of at least as many decimals. -/
theorem ignoreNum_column (hserver : StoresColumns srv) {precision part more n : Nat} {negative : Bool}
    (h : |keptDigits 6 n| * 10 ^ more < 10 ^ precision) :
    srv.ignoreNum (.decimal precision (part + more))
        (toSignificant 6 (signedValue negative (n / 10 ^ part)))
      = (signedInt negative (keptDigits 6 n) : ℚ) / 10 ^ part := by
  have hscaled : (signedInt negative (keptDigits 6 n) : ℚ) / 10 ^ part
      = ((signedInt negative (keptDigits 6 n) * 10 ^ more : Int) : ℚ) / 10 ^ (part + more) := by
    push_cast
    rw [pow_add, mul_div_mul_right _ _ (by positivity)]
  rw [toSignificant_signed, hscaled]
  refine hserver.ignoreNum _ _ _ ?_
  rw [abs_mul, abs_signedInt, abs_of_pos (by positivity : (0 : Int) < 10 ^ more)]
  exact h

/-- Of the numbers of a reading, the period alone can have too many digits. -/
theorem holdsReading_iff (hserver : StoresColumns srv) {c : ReadingColumns} {cr : Bool} {db : Db}
    (h : codec.parseReading (String.ofList (c.line ++ lineEnd cr)) = .ok r) :
    HoldsReading (readingRow srv db sensorId ts r source quality) r ↔ Significant 6 c.period := by
  obtain rfl := Except.ok.inj ((codec_parseReading c cr).symm.trans h)
  have hshort : ∀ {n : Nat}, n < 10 ^ 4 → keptDigits 6 n = n := fun hn =>
    keptDigits_eq_iff.mpr (significant_of_lt (by omega))
  have hstoredMag : srv.ignoreNum (.decimal 6 3) (toSignificant 6 (exactReading c).magArcsec2)
      = (exactReading c).magArcsec2 := by
    have hlt := c.mag_lt
    unfold exactReading
    dsimp only
    rw [@ignoreNum_column _ hserver 6 2 1, stored_eq_iff]
    · exact significant_of_lt (by omega)
    · rw [hshort hlt, Nat.abs_cast]
      omega
  have hstoredTemp : srv.ignoreNum (.decimal 5 1) (toSignificant 6 (exactReading c).tempC)
      = (exactReading c).tempC := by
    have hlt := c.temp_lt
    unfold exactReading
    dsimp only
    rw [@ignoreNum_column _ hserver 5 1 0, stored_eq_iff]
    · exact significant_of_lt (by omega)
    · rw [hshort hlt, Nat.abs_cast]
      omega
  have hstoredPeriod : srv.ignoreNum (.decimal 12 3) (toSignificant 6 (exactReading c).periodS)
      = (exactReading c).periodS ↔ Significant 6 c.period := by
    have hlt := c.period_lt
    have hle := abs_keptDigits_le (p := 6) (by decide) c.period
    unfold exactReading
    dsimp only
    rw [@ignoreNum_column _ hserver 12 3 0 _ _ (by omega), stored_eq_iff]
  exact ⟨fun hrow => hstoredPeriod.mp hrow.periodS,
    fun hperiod => ⟨hstoredMag, rfl, rfl, hstoredPeriod.mpr hperiod, hstoredTemp⟩⟩

theorem readingKept_iff (hserver : StoresColumns srv) {c : ReadingColumns} {cr : Bool}
    (hparsed : codec.parseReading (String.ofList (c.line ++ lineEnd cr)) = .ok r)
    (h : Storable srv w sensorId tsUtc ts) :
    ReadingKept srv sensorId ts r (endState (insertReading srv sensorId r tsUtc source quality w)) ↔
      Significant 6 c.period := by
  have hid := hserver.ignoreText 32 sensorId h.id_length
  have hstored := @meets_insertReading_stores srv w sensorId tsUtc ts r source quality hid h
  obtain ⟨a, w', hresult, hrows⟩ := hstored.returns
  rw [hresult]
  dsimp only [endState]
  have hholds : HoldsReading (readingRow srv w.db sensorId ts r source quality) r ↔
      Significant 6 c.period :=
    holdsReading_iff hserver hparsed
  rw [← hholds]
  have hreturned : ∀ {lo hi limit rows fs}, tsBetween srv lo hi ts = true →
      (w'.db.readings.length : Int) ≤ limit →
      readingsBetween srv sensorId lo hi limit ⟨w'.db, w'.now⟩ [] = .ok rows fs →
      rows.filter (fun x => x.tsUtc = ts) = [readingRow srv w.db sensorId ts r source quality] :=
    fun hbetween hlimit hresult =>
      readingsBetween_filter hrows (by simp [Server.same, readingRow]) h.free hbetween hlimit hresult
  constructor
  · intro hkept
    obtain ⟨row, hrow, hholds⟩ := hkept "" "" w'.db.readings.length _ [] rfl le_rfl rfl
    rw [@hreturned "" "" _ _ [] rfl le_rfl rfl] at hrow
    obtain rfl := List.singleton_inj.mp hrow
    exact hholds
  · intro hholds lo hi limit rows fs hbetween hlimit hresult
    exact ⟨_, hreturned hbetween hlimit hresult, hholds⟩

end Readings

/-! ## Calibrations -/

structure HoldsCalibration (row : ConfigLogRow) (c : Calibration) : Prop where
  lightCalOffset : row.lightCalOffset = some c.lightCalOffset
  darkCalPeriodS : row.darkCalPeriodS = some c.darkCalPeriodS
  tempLightC : row.tempLightC = some c.tempLightC
  sensorOffset : row.sensorOffset = some c.sensorOffset
  tempDarkC : row.tempDarkC = some c.tempDarkC

/-- The row of an insert that the server takes. -/
def calibrationRow (srv : Server) (now : Int) (db : Db) (sensorId : String) (c : Calibration)
    (tsUtc : String)
    (eventType : EventType) (changedBy note : String) : Option ConfigLogRow := do
  let sensorId ← srv.storeText (.varchar 32) sensorId
  guard (db.sensors.any fun x => srv.same x.id sensorId)
  let tsUtc ← timestampOrNow srv now tsUtc
  let lightCalOffset ← streamDecimal srv 8 2 c.lightCalOffset
  let darkCalPeriodS ← streamDecimal srv 12 3 c.darkCalPeriodS
  let tempLightC ← streamDecimal srv 5 1 c.tempLightC
  let sensorOffset ← streamDecimal srv 8 2 c.sensorOffset
  let tempDarkC ← streamDecimal srv 5 1 c.tempDarkC
  let raw ← srv.storeText (.varchar 255) c.raw
  let changedBy ← textOrNull srv (.varchar 64) changedBy
  let note ← textOrNull srv .text note
  return { id := db.next.configLog, sensorId, tsUtc, eventType, lightCalOffset, darkCalPeriodS,
           tempLightC, sensorOffset, tempDarkC, raw, changedBy, note }

def addConfigLog (db : Db) (row : ConfigLogRow) : Db :=
  { db with
    configLog := db.configLog ++ [row]
    next := { db.next with configLog := db.next.configLog + 1 } }

section Calibrations

variable {w : World} {sensorId tsUtc changedBy note : String} {c : Calibration} {eventType : EventType}

theorem insertCalibration_eq : insertCalibration srv sensorId c tsUtc eventType changedBy note
    = statement fun s =>
      (calibrationRow srv s.now s.db sensorId c tsUtc eventType changedBy note).map fun row =>
        ((), addConfigLog s.db row) := by
  unfold insertCalibration calibrationRow
  congr 1
  funext s
  simp only [Option.bind_eq_bind, Option.map_bind, Option.pure_def, Function.comp_def, Option.map_some]
  rfl

/-- A row of the log has the numbers as the columns take them. -/
theorem calibrationRow_some {now : Int} {db : Db} {row : ConfigLogRow}
    (h : calibrationRow srv now db sensorId c tsUtc eventType changedBy note = some row) :
    srv.storeText (.varchar 32) sensorId = some row.sensorId ∧
      row.lightCalOffset = streamDecimal srv 8 2 c.lightCalOffset ∧
      row.darkCalPeriodS = streamDecimal srv 12 3 c.darkCalPeriodS ∧
      row.tempLightC = streamDecimal srv 5 1 c.tempLightC ∧
      row.sensorOffset = streamDecimal srv 8 2 c.sensorOffset ∧
      row.tempDarkC = streamDecimal srv 5 1 c.tempDarkC := by
  obtain ⟨id, hid, h⟩ := Option.bind_eq_some_iff.mp h
  obtain ⟨_, -, h⟩ := Option.bind_eq_some_iff.mp h
  obtain ⟨ts, -, h⟩ := Option.bind_eq_some_iff.mp h
  obtain ⟨light, hlight, h⟩ := Option.bind_eq_some_iff.mp h
  obtain ⟨dark, hdark, h⟩ := Option.bind_eq_some_iff.mp h
  obtain ⟨tempLight, htempLight, h⟩ := Option.bind_eq_some_iff.mp h
  obtain ⟨offset, hoffset, h⟩ := Option.bind_eq_some_iff.mp h
  obtain ⟨tempDark, htempDark, h⟩ := Option.bind_eq_some_iff.mp h
  iterate 3 obtain ⟨_, -, h⟩ := Option.bind_eq_some_iff.mp h
  cases h
  exact ⟨hid, hlight.symm, hdark.symm, htempLight.symm, hoffset.symm, htempDark.symm⟩

/-- The insert adds its row, or the server refuses it and leaves the log. -/
theorem insertCalibration_log (hanswered : w.dbFaults.head? ≠ some true) :
    (endState (insertCalibration srv sensorId c tsUtc eventType changedBy note w)).db.configLog
      = w.db.configLog ++
        (calibrationRow srv w.now w.db sensorId c tsUtc eventType changedBy note).toList := by
  rw [insertCalibration_eq]
  have hinsert : Meets (statement fun s =>
      (calibrationRow srv s.now s.db sensorId c tsUtc eventType changedBy note).map fun row =>
        ((), addConfigLog s.db row)) w
      (fun _ w' => w'.db.configLog = w.db.configLog ++
        (calibrationRow srv w.now w.db sensorId c tsUtc eventType changedBy note).toList)
      fun _ w' => w'.db.configLog = w.db.configLog ++
        (calibrationRow srv w.now w.db sensorId c tsUtc eventType changedBy note).toList := by
    refine meets_statement_head (fun _ a db' fs hdone => ?_) fun hbad e fs => ?_
    · obtain ⟨row, hrow, hdb⟩ := Option.map_eq_some_iff.mp hdone
      obtain ⟨-, rfl⟩ := Prod.mk.inj hdb
      dsimp only at hrow ⊢
      rw [hrow]
      rfl
    · rw [Option.map_eq_none_iff.mp (hbad.resolve_left hanswered)]
      exact (List.append_nil _).symm
  exact hinsert.endState

/-- What the daemon makes of a calibration in its columns. -/
def exactCalibration (k : CalibrationColumns) : Calibration where
  lightCalOffset := signedValue false (k.lightOffset / 10 ^ 2)
  darkCalPeriodS := signedValue false (k.darkPeriod / 10 ^ 3)
  tempLightC := signedValue k.tempLightNegative (k.tempLight / 10 ^ 1)
  sensorOffset := signedValue false (k.sensorOffset / 10 ^ 2)
  tempDarkC := signedValue k.tempDarkNegative (k.tempDark / 10 ^ 1)
  raw := String.ofList k.line

theorem codec_parseCalibration (k : CalibrationColumns) (cr : Bool) :
    codec.parseCalibration (String.ofList (k.line ++ lineEnd cr)) = .ok (exactCalibration k) := by
  unfold codec
  dsimp only
  rw [String.toList_ofList, k.parse_line]
  rfl

theorem calibration_line_length (c : CalibrationColumns) : (String.ofList c.line).length ≤ 255 := by
  have hlength : c.line.length = 56 := by
    simp [CalibrationColumns.line, CalibrationColumns.fields, joined, signed, NumberText.pointColumn,
      List.intercalate, DecimalText.fixedDigits_length]
  rw [String.length_ofList, hlength]
  decide

/-- A column of a response in a DECIMAL column with the same decimals. -/
theorem column_kept_iff (hserver : StoresColumns srv) {precision part n : Nat} {negative : Bool} :
    streamDecimal srv precision part (signedValue negative (n / 10 ^ part))
        = some (signedValue negative (n / 10 ^ part)) ↔ n < 10 ^ precision ∧ Significant 6 n := by
  unfold streamDecimal
  rw [toSignificant_signed, hserver.storeNum, abs_signedInt]
  constructor
  · intro h
    split at h
    · rename_i hrange
      have hkept := stored_eq_iff.mp (Option.some.inj h)
      rw [keptDigits_eq_iff.mpr hkept, Nat.abs_cast] at hrange
      exact ⟨by exact_mod_cast hrange, hkept⟩
    · cases h
  · rintro ⟨hrange, hkept⟩
    rw [stored_eq_iff.mpr hkept, keptDigits_eq_iff.mpr hkept, Nat.abs_cast,
        if_pos (by exact_mod_cast hrange)]

/-- The offsets are below a million magnitudes, and the offsets and the period have six
significant digits at most. -/
structure CalibrationFits (c : CalibrationColumns) : Prop where
  lightOffset_lt : c.lightOffset < 10 ^ 8
  lightOffset : Significant 6 c.lightOffset
  darkPeriod : Significant 6 c.darkPeriod
  sensorOffset_lt : c.sensorOffset < 10 ^ 8
  sensorOffset : Significant 6 c.sensorOffset

/-- A calibration can be recorded: its sensor exists, and the server takes the texts around it. -/
structure Recordable (srv : Server) (w : World) (sensorId tsUtc changedBy note : String) : Prop where
  answered : w.dbFaults.head? ≠ some true
  id_length : sensorId.length ≤ 32
  sensor : ∃ s ∈ w.db.sensors, srv.same s.id sensorId = true
  timestamp : (timestampOrNow srv w.now tsUtc).isSome
  changedBy : (textOrNull srv (.varchar 64) changedBy).isSome
  note : (textOrNull srv .text note).isSome

/-- Whoever asks for the log of the sensor gets the new row, and it has the values of the
calibration. -/
def CalibrationKept (srv : Server) (sensorId : String) (k : Calibration) (w w' : World) : Prop :=
  ∀ (limit : Int) rows fs, (w'.db.configLog.length : Int) ≤ limit →
    configLog srv sensorId limit ⟨w'.db, w'.now⟩ [] = .ok rows fs →
    ∃ row ∈ rows, w'.db.configLog = w.db.configLog ++ [row] ∧ HoldsCalibration row k

section Columns

variable {k : CalibrationColumns} {cr : Bool}

/-- The five columns take the values of a calibration just where these fit. -/
theorem columns_take_iff (hserver : StoresColumns srv)
    (hparsed : codec.parseCalibration (String.ofList (k.line ++ lineEnd cr)) = .ok c) :
    (streamDecimal srv 8 2 c.lightCalOffset = some c.lightCalOffset ∧
      streamDecimal srv 12 3 c.darkCalPeriodS = some c.darkCalPeriodS ∧
      streamDecimal srv 5 1 c.tempLightC = some c.tempLightC ∧
      streamDecimal srv 8 2 c.sensorOffset = some c.sensorOffset ∧
      streamDecimal srv 5 1 c.tempDarkC = some c.tempDarkC) ↔ CalibrationFits k := by
  obtain rfl := Except.ok.inj ((codec_parseCalibration k cr).symm.trans hparsed)
  unfold exactCalibration
  simp only [column_kept_iff hserver]
  have hdark := k.darkPeriod_lt
  have htempLight := k.tempLight_lt
  have htempDark := k.tempDark_lt
  constructor
  · rintro ⟨⟨hlt, hlight⟩, ⟨-, hdark⟩, -, ⟨hlt', hoffset⟩, -⟩
    exact ⟨hlt, hlight, hdark, hlt', hoffset⟩
  · intro h
    exact ⟨⟨h.lightOffset_lt, h.lightOffset⟩, ⟨by omega, h.darkPeriod⟩,
      ⟨by omega, significant_of_lt (by omega)⟩, ⟨h.sensorOffset_lt, h.sensorOffset⟩,
      by omega, significant_of_lt (by omega)⟩

theorem calibrationKept_iff (hserver : StoresColumns srv)
    (hparsed : codec.parseCalibration (String.ofList (k.line ++ lineEnd cr)) = .ok c)
    (h : Recordable srv w sensorId tsUtc changedBy note) :
    CalibrationKept srv sensorId c w
        (endState (insertCalibration srv sensorId c tsUtc eventType changedBy note w)) ↔
      CalibrationFits k := by
  have hid := hserver.storeText 32 sensorId h.id_length
  have hlog := @insertCalibration_log srv w sensorId tsUtc changedBy note c eventType h.answered
  rw [← columns_take_iff hserver hparsed]
  generalize endState (insertCalibration srv sensorId c tsUtc eventType changedBy note w) = w' at hlog ⊢
  constructor
  -- from the row that was found back: it is the one that was added
  · intro hkept
    obtain ⟨row, -, hadded, hholds⟩ := hkept w'.db.configLog.length _ [] le_rfl rfl
    rw [hadded] at hlog
    have hrow : calibrationRow srv w.now w.db sensorId c tsUtc eventType changedBy note = some row := by
      have hone := List.append_cancel_left hlog
      cases hcase : calibrationRow srv w.now w.db sensorId c tsUtc eventType changedBy note with
      | none =>
        rw [hcase] at hone
        cases hone
      | some row' =>
        rw [hcase] at hone
        rw [List.singleton_inj.mp hone]
    obtain ⟨-, hlight, hdark, htempLight, hoffset, htempDark⟩ := calibrationRow_some hrow
    exact ⟨hlight ▸ hholds.lightCalOffset, hdark ▸ hholds.darkCalPeriodS,
      htempLight ▸ hholds.tempLightC, hoffset ▸ hholds.sensorOffset, htempDark ▸ hholds.tempDarkC⟩
  -- from the columns: the row is accepted, and found among the newest
  · rintro ⟨hlight, hdark, htempLight, hoffset, htempDark⟩ limit rows fs hlimit hresult
    obtain ⟨ts, hts⟩ := Option.isSome_iff_exists.mp h.timestamp
    obtain ⟨who, hwho⟩ := Option.isSome_iff_exists.mp h.changedBy
    obtain ⟨text, htext⟩ := Option.isSome_iff_exists.mp h.note
    have hthere : (w.db.sensors.any fun x => srv.same x.id sensorId) = true :=
      List.any_eq_true.mpr h.sensor
    have hraw := hserver.storeText 255 c.raw (by
      obtain rfl := Except.ok.inj ((codec_parseCalibration k cr).symm.trans hparsed)
      exact calibration_line_length k)
    have hrow : ∃ row, calibrationRow srv w.now w.db sensorId c tsUtc eventType changedBy note =
        some row := by
      unfold calibrationRow
      simp only [hid, hthere, hts, hlight, hdark, htempLight, hoffset, htempDark, hraw, hwho, htext,
        Option.bind_eq_bind, Option.bind_some, guard_true, Option.pure_def]
      exact ⟨_, rfl⟩
    obtain ⟨row, hrow⟩ := hrow
    obtain ⟨hid', hlight', hdark', htempLight', hoffset', htempDark'⟩ := calibrationRow_some hrow
    rw [hrow] at hlog
    refine ⟨row, ?_, hlog, hlight'.trans hlight, hdark'.trans hdark, htempLight'.trans htempLight,
      hoffset'.trans hoffset, htempDark'.trans htempDark⟩
    obtain ⟨rfl, -⟩ := EStateM.Result.ok.inj hresult
    dsimp only
    rw [List.take_of_length_le, List.mem_mergeSort, List.mem_filter, hlog]
    · refine ⟨List.mem_append_right _ List.mem_cons_self, ?_⟩
      rw [← Option.some.inj (hid.symm.trans hid')]
      simp [Server.same]
    · rw [List.length_mergeSort]
      refine (List.length_filter_le _ _).trans ?_
      unfold clampLimit
      have hpos : 0 < w'.db.configLog.length := by
        rw [hlog]
        simp
      split
      · omega
      · omega

end Columns

end Calibrations

/-! ## What survives -/

/-- A reading in its columns survives in the database just where its period has six significant
digits, and a calibration where its numbers fit. -/
theorem measurements_survive_iff (hserver : StoresColumns srv) (w : World) (cr : Bool)
    (sensorId tsUtc : String) :
    (∀ (c : ReadingColumns) (r : Reading) (ts : String) (source : Source) (quality : Quality),
      codec.parseReading (String.ofList (c.line ++ lineEnd cr)) = .ok r →
      Storable srv w sensorId tsUtc ts →
        (ReadingKept srv sensorId ts r
            (endState (insertReading srv sensorId r tsUtc source quality w)) ↔
          Significant 6 c.period)) ∧
    (∀ (k : CalibrationColumns) (c : Calibration) (eventType : EventType) (changedBy note : String),
      codec.parseCalibration (String.ofList (k.line ++ lineEnd cr)) = .ok c →
      Recordable srv w sensorId tsUtc changedBy note →
        (CalibrationKept srv sensorId c w
            (endState (insertCalibration srv sensorId c tsUtc eventType changedBy note w)) ↔
          CalibrationFits k)) :=
  ⟨fun _ _ _ _ _ hparsed h => readingKept_iff hserver hparsed h,
    fun _ _ _ _ _ hparsed h => calibrationKept_iff hserver hparsed h⟩

/-- A server with DECIMAL columns: it rounds to their decimals, and a number with too many digits
is refused, or taken for the largest one. -/
def decimalServer : Server :=
  { Server.plain with
    storeNum := fun ty q => match ty with
      | .decimal precision scale =>
        let k := roundHalfEven (q * 10 ^ scale)
        if |k| < 10 ^ precision then some (k / 10 ^ scale) else none
      | _ => some q
    ignoreNum := fun ty q => match ty with
      | .decimal precision scale =>
        let k := roundHalfEven (q * 10 ^ scale)
        max (-(10 ^ precision - 1)) (min (10 ^ precision - 1) k) / 10 ^ scale
      | _ => q }

theorem decimalServer_stores : StoresColumns decimalServer where
  ignoreNum precision scale k hk := by
    have hround : roundHalfEven ((k : ℚ) / 10 ^ scale * 10 ^ scale) = k := by
      rw [div_mul_cancel₀ _ (by positivity), roundHalfEven_intCast]
    obtain ⟨hlow, hhigh⟩ := abs_lt.mp hk
    have hmin : min (10 ^ precision - 1) k = k := min_eq_right (by omega)
    have hmax : max (-(10 ^ precision - 1)) k = k := max_eq_right (by omega)
    unfold decimalServer
    dsimp only
    rw [hround, hmin, hmax]
  storeNum precision scale k := by
    have hround : roundHalfEven ((k : ℚ) / 10 ^ scale * 10 ^ scale) = k := by
      rw [div_mul_cancel₀ _ (by positivity), roundHalfEven_intCast]
    unfold decimalServer
    dsimp only
    rw [hround]
  ignoreText n s _ := rfl
  storeText n s _ := rfl

def oneSensor : World where
  db := { sensors := [{ id := "s1", transport := .tcp, address := "10.0.0.7" }] }

/-- A dark sky: 1234.567 seconds for one period. -/
def darkReading : ReadingColumns :=
  ⟨false, false, 2150, 0, 568888473, 1234567, false, 100, none,
      by decide, by decide, by decide, by decide,
    by decide⟩

def moonReading : ReadingColumns :=
  ⟨false, false, 1750, 12, 38400, 83, false, 100, none,
      by decide, by decide, by decide, by decide, by decide⟩

theorem oneSensor_storable : Storable decimalServer oneSensor "s1" "2026-01-01 00:00:00"
    "2026-01-01 00:00:00" where
  answered := nofun
  id_length := by decide
  sensor := ⟨_, List.mem_cons_self, by decide⟩
  timestamp := rfl
  free _ hx := absurd hx List.not_mem_nil

theorem moonlit_survives :
    ReadingKept decimalServer "s1" "2026-01-01 00:00:00" (exactReading moonReading)
    (endState (insertReading decimalServer "s1" (exactReading moonReading) "2026-01-01 00:00:00"
        .poll .ok
      oneSensor)) :=
  ((measurements_survive_iff decimalServer_stores oneSensor true "s1" "2026-01-01 00:00:00").1
      moonReading
    _ _ _ _ (codec_parseReading moonReading true) oneSensor_storable).mpr
        (significant_of_lt (by decide))

/-- The period of the dark sky is stored as 1234.570 seconds. -/
theorem dark_period_rounded : ¬∀ (srv : Server), StoresColumns srv →
    ∀ (w : World) (cr : Bool) (sensorId tsUtc : String),
      (∀ (c : ReadingColumns) (r : Reading) (ts : String) (source : Source) (quality : Quality),
        codec.parseReading (String.ofList (c.line ++ lineEnd cr)) = .ok r →
        Storable srv w sensorId tsUtc ts →
          ReadingKept srv sensorId ts r
              (endState (insertReading srv sensorId r tsUtc source quality w))) ∧
      (∀ (k : CalibrationColumns) (c : Calibration) (eventType : EventType) (changedBy note : String),
        codec.parseCalibration (String.ofList (k.line ++ lineEnd cr)) = .ok c →
        Recordable srv w sensorId tsUtc changedBy note →
          CalibrationKept srv sensorId c w
            (endState (insertCalibration srv sensorId c tsUtc eventType changedBy note w))) := by
  intro h
  have hkept :=
    (h decimalServer decimalServer_stores oneSensor true "s1" "2026-01-01 00:00:00").1 darkReading
    _ _ .poll .ok (codec_parseReading darkReading true) oneSensor_storable
  have hsignificant := (readingKept_iff decimalServer_stores (codec_parseReading darkReading true)
    oneSensor_storable).mp hkept
  rw [significant_iff_dvd] at hsignificant
  exact absurd hsignificant (by decide +kernel)

end NightWatcher.Database
