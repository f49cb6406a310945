import Mathlib
import NightWatcher.Sqm.Protocol

/-!
# What the parsers accept

`stod` and `stoll` read a number from the front of a field and say nothing about what is
left of it, so that a parser that accepts a line may have read a part of a field only. It
has read whole fields exactly where the scanner leaves nothing, the number is written as a
decimal, and its unit stands directly behind it (`ReadWhole`).
-/

namespace NightWatcher.Sqm.Protocol

open NumberText DecimalText TextLines

/-! ## Numeric fields -/

/-- Blanks apart, the field is a decimal number and unit letters, and `v` is that number. -/
def NumberField (field : List Char) (v : Double) : Prop :=
  ∃ (n : Numeral) (unit : List Char), trim field = n.text ++ unit ∧ (∀ c ∈ unit, c.isAlpha = true) ∧
    v = .num n.value

/-- The same of an integer. -/
def IntegerField (field : List Char) (v : Int) : Prop :=
  ∃ (n : Numeral) (unit : List Char), n.part = none ∧ trim field = n.text ++ unit ∧
    (∀ c ∈ unit, c.isAlpha = true) ∧ v = n.intValue

/-- No blank stands between the number of a field and its unit. -/
def UnitBehind (field : List Char) : Prop :=
  numericPart field = (trim field).rdropWhile Char.isAlpha

/-- The scanner reads all of the number, and it is written in digits with a sign and a point at
most. -/
def ReadWhole (field : List Char) : Prop :=
  UnitBehind field ∧ (∀ c ∈ numericPart field, plainChar c = true) ∧
    ∀ v rest, strtod (numericPart field) = some (v, rest) → rest = []

/-- The scanner reads all of the integer. -/
def ReadWholeInteger (field : List Char) : Prop :=
  UnitBehind field ∧ ∀ v rest, strtoll (numericPart field) = some (v, rest) → rest = []

/-- No character of a plain number is a letter. -/
theorem plainChar_notAlpha {c : Char} (h : plainChar c = true) : c.isAlpha = false := by
  simp only [plainChar, Bool.or_eq_true, beq_iff_eq] at h
  rcases h with ((hdigit | rfl) | rfl) | rfl
  · by_contra halpha
    rw [Bool.not_eq_false] at halpha
    simp only [Char.isDigit, Char.isAlpha, Char.isUpper, Char.isLower, Bool.and_eq_true,
      Bool.or_eq_true, decide_eq_true_eq, UInt32.le_iff_toNat_le, ge_iff_le] at hdigit halpha
    have h48 : '0'.val.toNat = 48 := rfl
    have h57 : '9'.val.toNat = 57 := rfl
    have h65 : 'A'.val.toNat = 65 := rfl
    have h97 : 'a'.val.toNat = 97 := rfl
    omega
  all_goals decide

/-- The number of a field with its unit behind it, and with no blank between them. -/
theorem numericPart_numeral {field : List Char} {n : Numeral} {unit : List Char}
    (hfield : trim field = n.text ++ unit) (hunit : ∀ c ∈ unit, c.isAlpha = true) :
    (trim field).rdropWhile Char.isAlpha = n.text ∧ numericPart field = n.text := by
  have hstrip : (trim field).rdropWhile Char.isAlpha = n.text := by
    rw [hfield]
    exact rdropWhile_append hunit fun c hc =>
      plainChar_notAlpha (n.text_plain c (List.mem_of_getLast? hc))
  refine ⟨hstrip, ?_⟩
  unfold numericPart
  rw [hstrip]
  exact trim_eq_self (fun c hc => (plainChar_lower (n.text_plain c (List.mem_of_mem_head? hc))).1)
    fun c hc => (plainChar_lower (n.text_plain c (List.mem_of_getLast? hc))).1

/-- What is cut off behind the number is its unit. -/
theorem UnitBehind.split {field : List Char} (h : UnitBehind field) :
    ∃ unit, trim field = numericPart field ++ unit ∧ ∀ c ∈ unit, c.isAlpha = true := by
  refine ⟨(trim field).rtakeWhile Char.isAlpha, ?_, fun c hc => List.mem_rtakeWhile_imp hc⟩
  rw [h, List.rdropWhile_append_rtakeWhile]

/-- `to_double` returns the number at the front of the numeric part. -/
theorem toDouble_inv {field : List Char} {v : Double} (h : toDouble field = .ok v) :
    ∃ rest, strtod (numericPart field) = some (v, rest) := by
  unfold toDouble at h
  dsimp only at h
  split at h
  · cases h
  · unfold stod at h
    split at h
    · cases h
    · split at h
      · cases h
        exact ⟨_, ‹_›⟩
      · cases h
    · cases h
      exact ⟨_, ‹_›⟩

/-- A field that is converted is a number exactly if it was read whole. -/
theorem numberField_iff {field : List Char} {v : Double} (h : toDouble field = .ok v) :
    NumberField field v ↔ ReadWhole field := by
  obtain ⟨rest, hscan⟩ := toDouble_inv h
  constructor
  · rintro ⟨n, unit, hfield, hunit, -⟩
    obtain ⟨hstrip, hpart⟩ := numericPart_numeral hfield hunit
    refine ⟨hpart.trans hstrip.symm, ?_, ?_⟩
    · rw [hpart]
      exact n.text_plain
    · intro v' rest' hscan'
      rw [hpart, strtod_numeral] at hscan'
      exact (Prod.mk.inj (Option.some.inj hscan')).2.symm
  · rintro ⟨hbehind, hplain, hwhole⟩
    obtain ⟨unit, hsplit, hunit⟩ := hbehind.split
    obtain rfl := hwhole v rest hscan
    obtain ⟨n, htext, hv⟩ := strtod_plain hplain hscan
    exact ⟨n, unit, by rw [htext, hsplit], hunit, hv⟩

/-- `to_ll` returns the integer at the front of the numeric part. -/
theorem toLl_inv {field : List Char} {v : Int} (h : toLl field = .ok v) :
    ∃ rest, strtoll (numericPart field) = some (v, rest) := by
  unfold toLl at h
  dsimp only at h
  split at h
  · cases h
  · unfold stoll at h
    split at h
    · cases h
    · split at h
      · cases h
        exact ⟨_, ‹_›⟩
      · cases h

/-- The value returned is the field's exactly when the scanner read all of it. -/
theorem integerField_iff {field : List Char} {v : Int} (h : toLl field = .ok v) :
    IntegerField field v ↔ ReadWholeInteger field := by
  obtain ⟨rest, hscan⟩ := toLl_inv h
  constructor
  · rintro ⟨n, unit, hn, hfield, hunit, -⟩
    obtain ⟨hstrip, hpart⟩ := numericPart_numeral hfield hunit
    refine ⟨hpart.trans hstrip.symm, fun v' rest' hscan' => ?_⟩
    rw [hpart, strtoll_numeral hn] at hscan'
    exact (Prod.mk.inj (Option.some.inj hscan')).2.symm
  · rintro ⟨hbehind, hwhole⟩
    obtain ⟨unit, hsplit, hunit⟩ := hbehind.split
    obtain rfl := hwhole v rest hscan
    have hhead : ∀ c ∈ (numericPart field).head?, isSpace c = false := trim_head isSpace _
    obtain ⟨n, hn, htext, hv⟩ := strtoll_whole hhead hscan
    exact ⟨n, unit, hn, by rw [htext, hsplit], hunit, hv⟩

/-! ## Lines -/

/-- The `i`-th of the fields between the commas of a line, empty where there is none. -/
def field (line : List Char) (i : Nat) : List Char := ((trim line).splitOn ',').getD i []

/-- The fields the parsers look at are those of the trimmed line. -/
theorem split_getD (line : List Char) (i : Nat) : (split (trim line) ',').getD i [] = field line i := by
  unfold field
  rcases splitOn_getlines ',' (trim line) with h | h
  · rw [h]
    rfl
  · rw [h]
    show (getlines ',' (trim line)).getD i [] = _
    rw [List.getD_eq_getElem?_getD, List.getD_eq_getElem?_getD, List.getElem?_append]
    split
    · rfl
    · rename_i hlen
      rw [List.getElem?_eq_none (not_lt.mp hlen)]
      cases i - (getlines ',' (trim line)).length <;> rfl

/-- `parse_reading` accepts a line exactly when it has the fields and they convert. -/
theorem parseReading_ok {line : List Char} {r : Reading} : parseReading line = .ok r ↔
    6 ≤ (split (trim line) ',').length ∧ (trim (field line 0) = ['r'] ∨ trim (field line 0) = ['u']) ∧
      toDouble (field line 1) = .ok r.magArcsec2 ∧ toLl (field line 2) = .ok r.freqHz ∧
      toLl (field line 3) = .ok r.periodCounts ∧ toDouble (field line 4) = .ok r.periodS ∧
      toDouble (field line 5) = .ok r.tempC ∧ r.serial = trim (field line 6) ∧ r.raw = trim line := by
  unfold parseReading
  simp only [← split_getD]
  generalize split (trim line) ',' = fs
  match fs with
  | [] | [_] | [_, _] | [_, _, _] | [_, _, _, _] | [_, _, _, _, _] => simp
  | f₀ :: f₁ :: f₂ :: f₃ :: f₄ :: f₅ :: rest =>
    have hserial : (rest.head?.map trim).getD [] = trim (rest.getD 0 []) := by cases rest <;> rfl
    dsimp only
    rw [hserial]
    by_cases hletter : trim f₀ ≠ ['r'] ∧ trim f₀ ≠ ['u']
    · rw [if_pos hletter]
      refine ⟨nofun, fun ⟨_, h, _⟩ => ?_⟩
      exact (h.elim hletter.1 hletter.2).elim
    · rw [if_neg hletter]
      simp only [except_bind_eq_ok]
      constructor
      · rintro ⟨mag, hmag, freq, hfreq, counts, hcounts, period, hperiod, temp, htemp, hr⟩
        cases hr
        refine ⟨by simp, ?_, hmag, hfreq, hcounts, hperiod, htemp, rfl, rfl⟩
        by_contra hneither
        exact hletter (not_or.mp hneither)
      · rintro ⟨-, -, hmag, hfreq, hcounts, hperiod, htemp, hserial', hraw⟩
        refine ⟨_, hmag, _, hfreq, _, hcounts, _, hperiod, _, htemp, ?_⟩
        cases r
        subst hserial' hraw
        rfl

/-- `parse_calibration` accepts a line exactly when it has the fields and they convert. -/
theorem parseCalibration_ok {line : List Char} {c : Calibration} : parseCalibration line = .ok c ↔
    6 ≤ (split (trim line) ',').length ∧ trim (field line 0) = ['c'] ∧
      toDouble (field line 1) = .ok c.lightCalOffset ∧ toDouble (field line 2) = .ok c.darkCalPeriodS ∧
      toDouble (field line 3) = .ok c.tempLightC ∧ toDouble (field line 4) = .ok c.sensorOffset ∧
      toDouble (field line 5) = .ok c.tempDarkC ∧ c.raw = trim line := by
  unfold parseCalibration
  simp only [← split_getD]
  generalize split (trim line) ',' = fs
  match fs with
  | [] | [_] | [_, _] | [_, _, _] | [_, _, _, _] | [_, _, _, _, _] => simp
  | f₀ :: f₁ :: f₂ :: f₃ :: f₄ :: f₅ :: rest =>
    dsimp only
    by_cases hletter : trim f₀ ≠ ['c']
    · rw [if_pos hletter]
      exact ⟨nofun, fun ⟨_, h, _⟩ => absurd h hletter⟩
    · rw [if_neg hletter]
      simp only [except_bind_eq_ok]
      constructor
      · rintro ⟨light, hlight, dark, hdark, tempLight, htempLight, offset, hoffset, tempDark,
            htempDark, hc⟩
        cases hc
        exact ⟨by simp, not_not.mp hletter, hlight, hdark, htempLight, hoffset, htempDark, rfl⟩
      · rintro ⟨-, -, hlight, hdark, htempLight, hoffset, htempDark, hraw⟩
        refine ⟨_, hlight, _, hdark, _, htempLight, _, hoffset, _, htempDark, ?_⟩
        cases c
        subst hraw
        rfl

/-- `parse_unit_info` accepts a line exactly when it has the fields and they convert. -/
theorem parseUnitInfo_ok {line : List Char} {u : UnitInfo} : parseUnitInfo line = .ok u ↔
    5 ≤ (split (trim line) ',').length ∧ trim (field line 0) = ['i'] ∧
      ∃ protocol model feature, toLl (field line 1) = .ok protocol ∧ toLl (field line 2) = .ok model ∧
        toLl (field line 3) = .ok feature ∧ u.protocol = toInt protocol ∧ u.model = toInt model ∧
        u.feature = toInt feature ∧ u.serial = trim (field line 4) ∧ u.raw = trim line := by
  unfold parseUnitInfo
  simp only [← split_getD]
  generalize split (trim line) ',' = fs
  match fs with
  | [] | [_] | [_, _] | [_, _, _] | [_, _, _, _] => simp
  | f₀ :: f₁ :: f₂ :: f₃ :: f₄ :: rest =>
    dsimp only
    by_cases hletter : trim f₀ ≠ ['i']
    · rw [if_pos hletter]
      exact ⟨nofun, fun ⟨_, h, _⟩ => absurd h hletter⟩
    · rw [if_neg hletter]
      simp only [except_bind_eq_ok]
      constructor
      · rintro ⟨protocol, hprotocol, model, hmodel, feature, hfeature, hu⟩
        cases hu
        exact ⟨by simp, not_not.mp hletter, protocol, model, feature,
          hprotocol, hmodel, hfeature, rfl, rfl, rfl, rfl, rfl⟩
      · rintro ⟨-, -, protocol, model, feature, hprotocol, hmodel, hfeature, hp, hm, hf, hserial, hraw⟩
        refine ⟨_, hprotocol, _, hmodel, _, hfeature, ?_⟩
        cases u
        subst hp hm hf hserial hraw
        rfl

/-- `parse_cal_set_echo` accepts a line exactly when it has the fields and they convert. -/
theorem parseCalSetEcho_ok {line : List Char} {e : CalSetEcho} : parseCalSetEcho line = .ok e ↔
    3 ≤ (split (trim line) ',').length ∧ trim (field line 0) = ['z'] ∧
      toDouble (field line 2) = .ok e.value ∧ e.which = (trim (field line 1)).headD '\x00' ∧
      e.raw = trim line := by
  unfold parseCalSetEcho
  simp only [← split_getD]
  generalize split (trim line) ',' = fs
  match fs with
  | [] | [_] | [_, _] => simp
  | f₀ :: f₁ :: f₂ :: rest =>
    dsimp only
    by_cases hletter : trim f₀ ≠ ['z']
    · rw [if_pos hletter]
      exact ⟨nofun, fun ⟨_, h, _⟩ => absurd h hletter⟩
    · rw [if_neg hletter]
      simp only [except_bind_eq_ok]
      constructor
      · rintro ⟨value, hvalue, he⟩
        cases he
        exact ⟨by simp, not_not.mp hletter, hvalue, rfl, rfl⟩
      · rintro ⟨-, -, hvalue, hwhich, hraw⟩
        refine ⟨_, hvalue, ?_⟩
        cases e
        subst hwhich hraw
        rfl

/-- `parse_cal_status` accepts a line exactly by its first four characters. -/
theorem parseCalStatus_ok {line : List Char} {s : CalStatus} : parseCalStatus line = .ok s ↔
    ∃ mode state lock rest, trim line = 'z' :: mode :: state :: lock :: rest ∧
      s = { mode, armed := state = 'a', locked := lock ≠ 'U', raw := trim line } := by
  unfold parseCalStatus
  dsimp only
  generalize trim line = text
  split
  · rename_i mode state lock rest
    constructor
    · intro h
      exact ⟨mode, state, lock, rest, rfl, (Except.ok.inj h).symm⟩
    · rintro ⟨mode', state', lock', rest', htext, rfl⟩
      cases htext
      rfl
  · rename_i hnot
    refine ⟨nofun, ?_⟩
    rintro ⟨mode, state, lock, rest, htext, -⟩
    exact (hnot mode state lock rest htext).elim

/-! ## Responses -/

/-- A reading response with the numbers of `r`. -/
def ReadingLine (line : List Char) (r : Reading) : Prop :=
  6 ≤ ((trim line).splitOn ',').length ∧ (trim (field line 0) = ['r'] ∨ trim (field line 0) = ['u']) ∧
    NumberField (field line 1) r.magArcsec2 ∧ IntegerField (field line 2) r.freqHz ∧
    IntegerField (field line 3) r.periodCounts ∧ NumberField (field line 4) r.periodS ∧
    NumberField (field line 5) r.tempC

/-- The line is a calibration, and the values are those it shows. -/
def CalibrationLine (line : List Char) (c : Calibration) : Prop :=
  6 ≤ ((trim line).splitOn ',').length ∧ trim (field line 0) = ['c'] ∧
    NumberField (field line 1) c.lightCalOffset ∧ NumberField (field line 2) c.darkCalPeriodS ∧
    NumberField (field line 3) c.tempLightC ∧ NumberField (field line 4) c.sensorOffset ∧
    NumberField (field line 5) c.tempDarkC

/-- The line is a unit information, and the values are those it shows. -/
def UnitInfoLine (line : List Char) (u : UnitInfo) : Prop :=
  5 ≤ ((trim line).splitOn ',').length ∧ trim (field line 0) = ['i'] ∧
    IntegerField (field line 1) u.protocol ∧ IntegerField (field line 2) u.model ∧
    IntegerField (field line 3) u.feature

/-- The line is an echo, and the values are those it shows. -/
def CalSetEchoLine (line : List Char) (e : CalSetEcho) : Prop :=
  3 ≤ ((trim line).splitOn ',').length ∧ trim (field line 0) = ['z'] ∧
      NumberField (field line 2) e.value

/-- `z`, a mode, a state and the position of the lock switch. -/
def CalStatusLine (line : List Char) : Prop :=
  ∃ mode ∈ ['A', 'B', 'x'], ∃ state ∈ ['a', 'd'], ∃ lock ∈ ['L', 'U'],
      trim line = ['z', mode, state, lock]

/-- A line with one of the letters, enough fields, and numbers at the front of the numeric ones. -/
structure Converts (line : List Char) (letters : List (List Char)) (count : Nat)
    (doubles integers : List Nat) : Prop where
  count : count ≤ (split (trim line) ',').length
  letter : trim (field line 0) ∈ letters
  doubles : ∀ i ∈ doubles, ∃ v, toDouble (field line i) = .ok v
  integers : ∀ i ∈ integers, ∃ v, toLl (field line i) = .ok v

/-- The numeric fields of a line that converts are read whole. -/
def FieldsWhole (line : List Char) (letters : List (List Char)) (count : Nat)
    (doubles integers : List Nat) : Prop :=
  Converts line letters count doubles integers →
    (∀ i ∈ doubles, ReadWhole (field line i)) ∧ ∀ i ∈ integers, ReadWholeInteger (field line i)

/-- `split` never finds more fields than there are between the commas. -/
theorem split_length_le (line : List Char) :
    (split (trim line) ',').length ≤ ((trim line).splitOn ',').length := by
  rcases splitOn_getlines ',' (trim line) with h | h
  · rw [h]
    rfl
  · rw [h, List.length_append]
    exact Nat.le_add_right _ _

/-- `parse_reading` accepts nothing but readings exactly when the fields are read whole. -/
theorem reading_iff (line : List Char) : (∀ r, parseReading line = .ok r → ReadingLine line r) ↔
    FieldsWhole line [['r'], ['u']] 6 [1, 4, 5] [2, 3] := by
  constructor
  · rintro hall ⟨hcount, hletter, hdoubles, hintegers⟩
    obtain ⟨mag, hmag⟩ := hdoubles 1 (by decide)
    obtain ⟨period, hperiod⟩ := hdoubles 4 (by decide)
    obtain ⟨temp, htemp⟩ := hdoubles 5 (by decide)
    obtain ⟨freq, hfreq⟩ := hintegers 2 (by decide)
    obtain ⟨counts, hcounts⟩ := hintegers 3 (by decide)
    have hok : parseReading line = .ok ⟨mag, freq, counts, period, temp, trim (field line 6),
        trim line⟩ :=
      parseReading_ok.mpr ⟨hcount,
          by simpa using hletter, hmag, hfreq, hcounts, hperiod, htemp, rfl, rfl⟩
    obtain ⟨-, -, h₁, h₂, h₃, h₄, h₅⟩ := hall _ hok
    rw [numberField_iff hmag] at h₁
    rw [integerField_iff hfreq] at h₂
    rw [integerField_iff hcounts] at h₃
    rw [numberField_iff hperiod] at h₄
    rw [numberField_iff htemp] at h₅
    simp [h₁, h₂, h₃, h₄, h₅]
  · intro hwhole r hr
    obtain ⟨hcount, hletter, hmag, hfreq, hcounts, hperiod, htemp, -, -⟩ := parseReading_ok.mp hr
    obtain ⟨hdoubles, hintegers⟩ :=
      hwhole ⟨hcount, by simpa using hletter, by simp [hmag, hperiod, htemp],
      by simp [hfreq, hcounts]⟩
    exact ⟨hcount.trans (split_length_le line), hletter,
      (numberField_iff hmag).mpr (hdoubles 1 (by decide)),
      (integerField_iff hfreq).mpr (hintegers 2 (by decide)),
      (integerField_iff hcounts).mpr (hintegers 3 (by decide)),
      (numberField_iff hperiod).mpr (hdoubles 4 (by decide)),
      (numberField_iff htemp).mpr (hdoubles 5 (by decide))⟩

/-- The same of `parse_calibration`. -/
theorem calibration_iff (line : List Char) :
    (∀ c, parseCalibration line = .ok c → CalibrationLine line c) ↔
      FieldsWhole line [['c']] 6 [1, 2, 3, 4, 5] [] := by
  constructor
  · rintro hall ⟨hcount, hletter, hdoubles, -⟩
    obtain ⟨light, hlight⟩ := hdoubles 1 (by decide)
    obtain ⟨dark, hdark⟩ := hdoubles 2 (by decide)
    obtain ⟨tempLight, htempLight⟩ := hdoubles 3 (by decide)
    obtain ⟨offset, hoffset⟩ := hdoubles 4 (by decide)
    obtain ⟨tempDark, htempDark⟩ := hdoubles 5 (by decide)
    have hok : parseCalibration line = .ok ⟨light, dark, tempLight, offset, tempDark, trim line⟩ :=
      parseCalibration_ok.mpr ⟨hcount,
        by simpa using hletter, hlight, hdark, htempLight, hoffset, htempDark, rfl⟩
    obtain ⟨-, -, h₁, h₂, h₃, h₄, h₅⟩ := hall _ hok
    rw [numberField_iff hlight] at h₁
    rw [numberField_iff hdark] at h₂
    rw [numberField_iff htempLight] at h₃
    rw [numberField_iff hoffset] at h₄
    rw [numberField_iff htempDark] at h₅
    simp [h₁, h₂, h₃, h₄, h₅]
  · intro hwhole c hc
    obtain ⟨hcount, hletter, hlight, hdark, htempLight, hoffset, htempDark, -⟩ :=
      parseCalibration_ok.mp hc
    obtain ⟨hdoubles, -⟩ := hwhole ⟨hcount, by simpa using hletter,
      by simp [hlight, hdark, htempLight, hoffset, htempDark], nofun⟩
    exact ⟨hcount.trans (split_length_le line), hletter,
      (numberField_iff hlight).mpr (hdoubles 1 (by decide)),
      (numberField_iff hdark).mpr (hdoubles 2 (by decide)),
      (numberField_iff htempLight).mpr (hdoubles 3 (by decide)),
      (numberField_iff hoffset).mpr (hdoubles 4 (by decide)),
      (numberField_iff htempDark).mpr (hdoubles 5 (by decide))⟩

/-- The same of `parse_cal_set_echo`. -/
theorem calSetEcho_iff (line : List Char) :
    (∀ e, parseCalSetEcho line = .ok e → CalSetEchoLine line e) ↔
        FieldsWhole line [['z']] 3 [2] [] := by
  constructor
  · rintro hall ⟨hcount, hletter, hdoubles, -⟩
    obtain ⟨value, hvalue⟩ := hdoubles 2 (by decide)
    have hok : parseCalSetEcho line = .ok ⟨(trim (field line 1)).headD '\x00', value, trim line⟩ :=
      parseCalSetEcho_ok.mpr ⟨hcount, by simpa using hletter, hvalue, rfl, rfl⟩
    obtain ⟨-, -, h⟩ := hall _ hok
    rw [numberField_iff hvalue] at h
    simp [h]
  · intro hwhole e he
    obtain ⟨hcount, hletter, hvalue, -, -⟩ := parseCalSetEcho_ok.mp he
    obtain ⟨hdoubles, -⟩ := hwhole ⟨hcount, by simpa using hletter, by simp [hvalue], nofun⟩
    exact ⟨hcount.trans (split_length_le line), hletter,
      (numberField_iff hvalue).mpr (hdoubles 2 (by decide))⟩

/-! ### Unit information -/

/-- The numbers of unit information fit into an `int`. -/
def IntsFit (line : List Char) : Prop :=
  ∀ i ∈ [1, 2, 3], ∀ v, toLl (field line i) = .ok v → -2 ^ 31 ≤ v ∧ v < 2 ^ 31

/-- The cast to `int` keeps exactly the numbers of its range. -/
theorem toInt_eq_iff {v : Int} : toInt v = v ↔ -2 ^ 31 ≤ v ∧ v < 2 ^ 31 := by
  unfold toInt
  rw [Int.bmod_def]
  constructor
  · intro h
    split at h <;> omega
  · intro h
    split <;> omega

/-- The number that is returned is the whole one if it was read whole and fits. -/
theorem integerField_toInt {field : List Char} {v : Int} (h : toLl field = .ok v) :
    IntegerField field (toInt v) ↔ ReadWholeInteger field ∧ -2 ^ 31 ≤ v ∧ v < 2 ^ 31 := by
  rw [← integerField_iff h, ← toInt_eq_iff]
  constructor
  · rintro ⟨n, unit, hn, hfield, hunit, hv⟩
    obtain ⟨rest, hscan⟩ := toLl_inv h
    rw [(numericPart_numeral hfield hunit).2, strtoll_numeral hn] at hscan
    obtain ⟨hvalue, -⟩ := Prod.mk.inj (Option.some.inj hscan)
    exact ⟨⟨n, unit, hn, hfield, hunit, hvalue.symm⟩, hv.trans hvalue⟩
  · rintro ⟨hfield, hfits⟩
    rw [hfits]
    exact hfield

/-- The same of `parse_unit_info`, whose numbers are also cut to `int`. -/
theorem unitInfo_iff (line : List Char) : (∀ u, parseUnitInfo line = .ok u → UnitInfoLine line u) ↔
    (Converts line [['i']] 5 [] [1, 2, 3] → IntsFit line) ∧
        FieldsWhole line [['i']] 5 [] [1, 2, 3] := by
  constructor
  · intro hall
    have hboth : Converts line [['i']] 5 [] [1, 2, 3] → IntsFit line ∧
        ∀ i ∈ [1, 2, 3], ReadWholeInteger (field line i) := by
      rintro ⟨hcount, hletter, -, hintegers⟩
      obtain ⟨protocol, hprotocol⟩ := hintegers 1 (by decide)
      obtain ⟨model, hmodel⟩ := hintegers 2 (by decide)
      obtain ⟨feature, hfeature⟩ := hintegers 3 (by decide)
      have hok : parseUnitInfo line
          = .ok ⟨toInt protocol, toInt model, toInt feature, trim (field line 4), trim line⟩ :=
        parseUnitInfo_ok.mpr ⟨hcount,
          by simpa using hletter, protocol, model, feature,
          hprotocol, hmodel, hfeature, rfl, rfl, rfl, rfl, rfl⟩
      obtain ⟨-, -, h₁, h₂, h₃⟩ := hall _ hok
      rw [integerField_toInt hprotocol] at h₁
      rw [integerField_toInt hmodel] at h₂
      rw [integerField_toInt hfeature] at h₃
      refine ⟨?_, by simp [h₁.1, h₂.1, h₃.1]⟩
      unfold IntsFit
      simp only [List.forall_mem_cons, hprotocol, hmodel, hfeature, Except.ok.injEq, forall_eq']
      exact ⟨h₁.2, h₂.2, h₃.2, nofun⟩
    exact ⟨fun h => (hboth h).1, fun h => ⟨nofun, (hboth h).2⟩⟩
  · rintro ⟨hfit, hwhole⟩ u hu
    obtain ⟨hcount, hletter, protocol, model, feature, hprotocol, hmodel, hfeature, hp, hm, hf, -, -⟩ :=
      parseUnitInfo_ok.mp hu
    have hconverts : Converts line [['i']] 5 [] [1, 2, 3] :=
      ⟨hcount, by simpa using hletter, nofun, by simp [hprotocol, hmodel, hfeature]⟩
    have hints := hfit hconverts
    have hread := (hwhole hconverts).2
    refine ⟨hcount.trans (split_length_le line), hletter, ?_, ?_, ?_⟩
    · rw [hp]
      exact (integerField_toInt hprotocol).mpr ⟨hread 1 (by decide), hints 1 (by decide) _ hprotocol⟩
    · rw [hm]
      exact (integerField_toInt hmodel).mpr ⟨hread 2 (by decide), hints 2 (by decide) _ hmodel⟩
    · rw [hf]
      exact (integerField_toInt hfeature).mpr ⟨hread 3 (by decide), hints 3 (by decide) _ hfeature⟩

/-! ### The state of a calibration -/

/-- A line that begins with `z` and is long enough is one of the twelve. -/
def StatusWhole (line : List Char) : Prop :=
  4 ≤ (trim line).length → (trim line).head? = some 'z' → CalStatusLine line

/-- The same of `parse_cal_status`, where the line is to be the status and no more. -/
theorem calStatus_iff (line : List Char) :
    (∀ s, parseCalStatus line = .ok s → CalStatusLine line) ↔ StatusWhole line := by
  constructor
  · intro hall hlength hletter
    match htext : trim line with
    | [] | [_] | [_, _] | [_, _, _] => simp [htext] at hlength
    | letter :: mode :: state :: lock :: rest =>
      rw [htext] at hletter
      obtain rfl := Option.some.inj hletter
      exact hall _ (parseCalStatus_ok.mpr ⟨mode, state, lock, rest, htext, rfl⟩)
  · intro hwhole s hs
    obtain ⟨mode, state, lock, rest, htext, -⟩ := parseCalStatus_ok.mp hs
    exact hwhole (by simp [htext]) (by simp [htext])

/-! ### All parsers -/

/-- What a parser accepts is a response with the numbers that it returns, exactly where it read
whole fields. -/
theorem responses_accepted (line : List Char) :
    ((∀ r, parseReading line = .ok r → ReadingLine line r) ↔
      FieldsWhole line [['r'], ['u']] 6 [1, 4, 5] [2, 3]) ∧
    ((∀ c, parseCalibration line = .ok c → CalibrationLine line c) ↔
      FieldsWhole line [['c']] 6 [1, 2, 3, 4, 5] []) ∧
    ((∀ u, parseUnitInfo line = .ok u → UnitInfoLine line u) ↔
      (Converts line [['i']] 5 [] [1, 2, 3] → IntsFit line) ∧ FieldsWhole line [['i']] 5 [] [1, 2, 3]) ∧
    ((∀ e, parseCalSetEcho line = .ok e → CalSetEchoLine line e) ↔ FieldsWhole line [['z']] 3 [2] []) ∧
    ((∀ s, parseCalStatus line = .ok s → CalStatusLine line) ↔ StatusWhole line) :=
  ⟨reading_iff line, calibration_iff line, unitInfo_iff line, calSetEcho_iff line, calStatus_iff line⟩

/-- A reading with noise in its frequency. -/
def noisyLine : List Char := "r, 06.70m,0000022#21Hz,0000000020c,0000000.000s, 039.4C".toList

/-- The fields of the line with noise in it convert. -/
theorem noisyLine_converts : Converts noisyLine [['r'], ['u']] 6 [1, 4, 5] [2, 3] where
  count := by decide +kernel
  letter := by decide +kernel
  doubles := by
    simp only [List.forall_mem_cons]
    exact ⟨⟨.num (67 / 10), by decide +kernel⟩, ⟨.num 0, by decide +kernel⟩,
      ⟨.num (197 / 5), by decide +kernel⟩, nofun⟩
  integers := by
    simp only [List.forall_mem_cons]
    exact ⟨⟨22, by decide +kernel⟩, ⟨20, by decide +kernel⟩, nofun⟩

/-- It is read up to the noise. -/
theorem noisyLine_accepted : ¬∀ line : List Char,
    (∀ r, parseReading line = .ok r → ReadingLine line r) ∧
    (∀ c, parseCalibration line = .ok c → CalibrationLine line c) ∧
    (∀ u, parseUnitInfo line = .ok u → UnitInfoLine line u) ∧
    (∀ e, parseCalSetEcho line = .ok e → CalSetEchoLine line e) ∧
    (∀ s, parseCalStatus line = .ok s → CalStatusLine line) := by
  intro h
  obtain ⟨-, hintegers⟩ := (reading_iff noisyLine).mp (h noisyLine).1 noisyLine_converts
  have hscan : strtoll (numericPart (field noisyLine 2)) = some (22, "#21".toList) := by decide +kernel
  exact nomatch (hintegers 2 (by decide)).2 _ _ hscan

end NightWatcher.Sqm.Protocol
