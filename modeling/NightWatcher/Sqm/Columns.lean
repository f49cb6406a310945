import NightWatcher.Sqm.Acceptance

/-!
# The columns of a response

A unit writes its responses in fixed columns (`docs/sqm-protocol.md`). The parsers do not
look at columns, and still give back the numbers of every line that is written in them:
a field is blanks, a numeral and unit letters, and what the parsers cut off is just that.
-/

namespace NightWatcher.Sqm.Protocol

open NumberText DecimalText TextLines

/-! ## Fields with a numeral -/

/-- Blanks before a numeral, and unit letters behind it. -/
structure FieldText where
  blanks : List Char := []
  number : Numeral
  unit : List Char := []
  isBlank : ∀ c ∈ blanks, isSpace c = true
  isUnit : ∀ c ∈ unit, c.isAlpha = true

/-- The field as it stands in the line. -/
def FieldText.text (f : FieldText) : List Char := f.blanks ++ (f.number.text ++ f.unit)

/-- A letter is no blank and no comma. -/
theorem alpha_notSpace {c : Char} (h : c.isAlpha = true) : isSpace c = false ∧ c ≠ ',' := by
  have hne : ∀ d : Char, d.isAlpha = false → c ≠ d := by
    rintro d hd rfl
    rw [h] at hd
    cases hd
  refine ⟨?_, hne ',' (by decide)⟩
  simp only [isSpace, decide_eq_false_iff_not, not_or]
  exact ⟨hne _ (by decide), hne _ (by decide), hne _ (by decide), hne _ (by decide), hne _ (by decide),
    hne _ (by decide)⟩

/-- A number has a character. -/
theorem numeral_ne_nil (n : Numeral) : n.text ≠ [] := by
  intro hnil
  obtain ⟨-, hbody⟩ := List.append_eq_nil_iff.mp hnil
  obtain ⟨hwhole, hpoint⟩ := List.append_eq_nil_iff.mp hbody
  refine n.hasDigit ?_
  cases hpart : n.part with
  | none => simp [hwhole]
  | some ds =>
    rw [hpart] at hpoint
    cases hpoint

namespace FieldText

variable (f : FieldText)

/-- Neither the number nor the unit has a blank or a comma in it. -/
theorem core_notSpace : ∀ c ∈ f.number.text ++ f.unit, isSpace c = false ∧ c ≠ ',' := by
  intro c hc
  rcases List.mem_append.mp hc with hnumber | hunit
  · have hplain := f.number.text_plain c hnumber
    refine ⟨(plainChar_lower hplain).1, ?_⟩
    rintro rfl
    exact absurd hplain (by decide)
  · exact alpha_notSpace (f.isUnit c hunit)

/-- So trimming takes the blanks in front and nothing else. -/
theorem trim_text : trim f.text = f.number.text ++ f.unit := by
  have h := @trim_append Char isSpace f.blanks (f.number.text ++ f.unit) [] f.isBlank nofun
    (fun c hc => (f.core_notSpace c (List.mem_of_mem_head? hc)).1)
    fun c hc => (f.core_notSpace c (List.mem_of_getLast? hc)).1
  rwa [List.append_nil] at h

/-- And splitting leaves the field whole. -/
theorem no_comma : ',' ∉ f.text := by
  intro hc
  rcases List.mem_append.mp hc with hblank | hcore
  · exact absurd (f.isBlank _ hblank) (by decide)
  · exact (f.core_notSpace _ hcore).2 rfl

/-- A number that fits a double is read as it is, whatever unit is behind it. -/
theorem toDouble_text (h : inDouble f.number.value = true) :
    toDouble f.text = .ok (.num f.number.value) := by
  have hpart := (numericPart_numeral f.trim_text f.isUnit).2
  unfold toDouble stod
  rw [hpart]
  dsimp only
  rw [if_neg (numeral_ne_nil f.number), strtod_numeral]
  dsimp only
  rw [h]
  rfl

/-- A number without a point that fits is read as an integer. -/
theorem toLl_text (hpoint : f.number.part = none) (h : inLongLong f.number.intValue = true) :
    toLl f.text = .ok f.number.intValue := by
  have hpart := (numericPart_numeral f.trim_text f.isUnit).2
  unfold toLl stoll
  rw [hpart]
  dsimp only
  rw [if_neg (numeral_ne_nil f.number), strtoll_numeral hpoint]
  dsimp only
  rw [h]
  rfl

end FieldText

/-! ## Lines of fields -/

/-- Fields as they come one after the other in a line: no comma in them, and neither the first
nor the last character of the line a blank. -/
structure LineFields (fields : List (List Char)) : Prop where
  no_comma : ∀ f ∈ fields, ',' ∉ f
  first : ∃ f ∈ fields.head?, ∃ c ∈ f.head?, isSpace c = false
  last : ∃ f ∈ fields.getLast?, ∃ c ∈ f.getLast?, isSpace c = false

/-- Fields with commas between them. -/
def joined (fields : List (List Char)) : List Char := [','].intercalate fields

/-- The end of a line as it is delivered: a CR, or none. -/
def lineEnd (cr : Bool) : List Char := if cr then ['\r'] else []

section Lines

variable {fields : List (List Char)}

/-- The line end is trimmed and nothing else. -/
theorem LineFields.trim_joined (h : LineFields fields) (cr : Bool) :
    trim (joined fields ++ lineEnd cr) = joined fields := by
  obtain ⟨f, hf, c, hc, hblank⟩ := h.first
  obtain ⟨g, hg, e, he, hblank'⟩ := h.last
  have hne : f ≠ [] := by
    rintro rfl
    cases hc
  have hne' : g ≠ [] := by
    rintro rfl
    cases he
  obtain ⟨rest, rfl⟩ : ∃ rest, fields = f :: rest := by
    cases fields with
    | nil => cases hf
    | cons f' rest =>
      cases hf
      exact ⟨rest, rfl⟩
  have hhead : (joined (f :: rest)).head? = f.head? := head?_intercalate hne
  have hlast : (joined (f :: rest)).getLast? = g.getLast? := getLast?_intercalate hg hne'
  refine @trim_append Char isSpace [] (joined (f :: rest)) (lineEnd cr) nofun ?_ ?_ ?_
  · cases cr
    · exact nofun
    · intro d hd
      rw [List.mem_singleton.mp hd]
      decide
  · intro d hd
    rw [hhead, hc] at hd
    cases hd
    exact hblank
  · intro d hd
    rw [hlast, he] at hd
    cases hd
    exact hblank'

/-- The fields of a line are found again. -/
theorem LineFields.split_joined (h : LineFields fields) (cr : Bool) :
    split (trim (joined fields ++ lineEnd cr)) ',' = fields := by
  rw [h.trim_joined]
  refine getlines_intercalate h.no_comma fun f hf => ?_
  obtain ⟨g, hg, e, he, -⟩ := h.last
  rw [hg] at hf
  cases hf
  rintro rfl
  cases he

/-- Each is found at its place. -/
theorem LineFields.field_joined (h : LineFields fields) (cr : Bool) (i : Nat) :
    field (joined fields ++ lineEnd cr) i = fields.getD i [] := by
  rw [← split_getD, h.split_joined]

end Lines

/-! ## The columns -/

/-- A column for the sign, a minus or a blank. -/
def signed (negative : Bool) (column : List Char) : List Char :=
  (if negative then '-' else ' ') :: column

/-- The number behind a sign. -/
def signedValue (negative : Bool) (q : ℚ) : ℚ := (if negative then -1 else 1) * q

theorem isAlpha_of_unit {unit : List Char} (h : unit.all Char.isAlpha = true) :
    ∀ c ∈ unit, c.isAlpha = true := List.all_eq_true.mp h

/-- A column with a sign as a field. -/
def signedField (negative : Bool) (whole part n : Nat) (unit : List Char) (h : 0 < whole)
    (hunit : unit.all Char.isAlpha = true) : FieldText where
  blanks := if negative then [] else [' ']
  number := pointNumeral (if negative then some true else none) whole part n h
  unit := unit
  isBlank := by
    cases negative
    · intro c hc
      obtain rfl := List.mem_singleton.mp hc
      rfl
    · exact nofun
  isUnit := isAlpha_of_unit hunit

/-- A column with a sign and a point, as a field. -/
theorem signedField_text (negative : Bool) (whole part n : Nat) (unit : List Char) (h : 0 < whole)
    (hunit : unit.all Char.isAlpha = true) :
    (signedField negative whole part n unit h hunit).text
      = signed negative (pointColumn whole part n) ++ unit := by
  cases negative <;> rfl

/-- Its number is the number of the column. -/
theorem signedField_value {negative : Bool} {whole part n : Nat} {unit : List Char} (h : 0 < whole)
    (hunit : unit.all Char.isAlpha = true) (hn : n < 10 ^ (whole + part)) :
    (signedField negative whole part n unit h hunit).number.value =
        signedValue negative (n / 10 ^ part) := by
  refine (pointNumeral_value h hn).trans ?_
  cases negative <;> rfl

/-- A column without one. -/
def pointField (whole part n : Nat) (unit : List Char) (h : 0 < whole)
    (hunit : unit.all Char.isAlpha = true) : FieldText where
  number := pointNumeral none whole part n h
  unit := unit
  isBlank _ hc := absurd hc List.not_mem_nil
  isUnit := isAlpha_of_unit hunit

/-- A column of digits, as a field. -/
def digitsField (whole n : Nat) (unit : List Char) (h : 0 < whole)
    (hunit : unit.all Char.isAlpha = true) : FieldText where
  number := digitsNumeral whole n h
  unit := unit
  isBlank _ hc := absurd hc List.not_mem_nil
  isUnit := isAlpha_of_unit hunit

/-- The numbers of columns are of ordinary size. -/
theorem inDouble_column {negative : Bool} {part n : Nat} (hpart : part ≤ 12) (hn : n < 10 ^ 12) :
    inDouble (signedValue negative (n / 10 ^ part)) = true := by
  have habs : |signedValue negative ((n : ℚ) / 10 ^ part)| = n / 10 ^ part := by
    unfold signedValue
    cases negative
    · simp [div_nonneg]
    · simp [div_nonneg]
  have hpos : (0 : ℚ) < 10 ^ part := by positivity
  have hone : (1 : ℚ) ≤ 10 ^ part := one_le_pow₀ (by norm_num)
  have hbound : (n : ℚ) ≤ 10 ^ 12 := by exact_mod_cast hn.le
  refine inDouble_of ?_ ?_
  · rw [habs]
    exact (div_le_self (Nat.cast_nonneg n) hone).trans hbound
  · rcases Nat.eq_zero_or_pos n with rfl | hpos'
    · left
      unfold signedValue
      simp
    · right
      rw [habs]
      have hn1 : (1 : ℚ) ≤ n := by exact_mod_cast hpos'
      have hle : (10 : ℚ) ^ part ≤ 10 ^ 12 := pow_le_pow_right₀ (by norm_num) hpart
      exact div_le_div₀ (Nat.cast_nonneg n) hn1 hpos hle

/-! ## Readings -/

/-- What fits the columns of `rx` and `ux`: magnitudes in units of the last place. -/
structure ReadingColumns where
  unaveraged : Bool
  magNegative : Bool
  mag : Nat
  freq : Nat
  counts : Nat
  period : Nat
  tempNegative : Bool
  temp : Nat
  /-- of an interval report -/
  serial : Option Nat
  mag_lt : mag < 10 ^ 4
  freq_lt : freq < 10 ^ 10
  counts_lt : counts < 10 ^ 10
  period_lt : period < 10 ^ 10
  temp_lt : temp < 10 ^ 4

namespace ReadingColumns

variable (c : ReadingColumns)

def serialDigits : Option (List Char) := c.serial.map (fixedDigits 8)

def fields : List (List Char) :=
  [if c.unaveraged then ['u'] else ['r'],
    signed c.magNegative (pointColumn 2 2 c.mag) ++ ['m'],
    fixedDigits 10 c.freq ++ ['H', 'z'],
    fixedDigits 10 c.counts ++ ['c'],
    pointColumn 7 3 c.period ++ ['s'],
    signed c.tempNegative (pointColumn 3 1 c.temp) ++ ['C']] ++ c.serialDigits.toList

def line : List Char := joined c.fields

/-- The values in the columns. -/
def reading : Reading where
  magArcsec2 := .num (signedValue c.magNegative (c.mag / 10 ^ 2))
  freqHz := c.freq
  periodCounts := c.counts
  periodS := .num (signedValue false (c.period / 10 ^ 3))
  tempC := .num (signedValue c.tempNegative (c.temp / 10 ^ 1))
  serial := c.serialDigits.getD []
  raw := c.line

end ReadingColumns

theorem fixedDigits_notBlank {w n : Nat} : ∀ c ∈ fixedDigits w n, isSpace c = false ∧ c ≠ ',' := by
  intro c hc
  have hplain := digit_plain (fixedDigits_isDigit w n c hc)
  refine ⟨(plainChar_lower hplain).1, ?_⟩
  rintro rfl
  exact absurd hplain (by decide)

/-- A column with a sign and a point is read as its number. -/
theorem toDouble_signed {negative : Bool} {whole part n : Nat} {unit : List Char} (h : 0 < whole)
    (hpart : part ≤ 12) (hunit : unit.all Char.isAlpha = true) (hn : n < 10 ^ (whole + part))
    (hsize : n < 10 ^ 12) :
    toDouble (signed negative (pointColumn whole part n) ++ unit)
      = .ok (.num (signedValue negative (n / 10 ^ part))) := by
  have hvalue := @signedField_value negative whole part n unit h hunit hn
  rw [← signedField_text negative whole part n unit h hunit, FieldText.toDouble_text, hvalue]
  rw [hvalue]
  exact inDouble_column hpart hsize

/-- So is one without a sign. -/
theorem toDouble_point {whole part n : Nat} {unit : List Char} (h : 0 < whole)
    (hpart : part ≤ 12) (hunit : unit.all Char.isAlpha = true) (hn : n < 10 ^ (whole + part))
    (hsize : n < 10 ^ 12) :
    toDouble (pointColumn whole part n ++ unit) = .ok (.num (signedValue false (n / 10 ^ part))) := by
  have hvalue : (pointField whole part n unit h hunit).number.value =
      signedValue false (n / 10 ^ part) :=
    pointNumeral_value h hn
  have htext : (pointField whole part n unit h hunit).text = pointColumn whole part n ++ unit := rfl
  rw [← htext, FieldText.toDouble_text, hvalue]
  rw [hvalue]
  exact inDouble_column hpart hsize

/-- A column of digits is read as its number. -/
theorem toLl_digits {whole n : Nat} {unit : List Char} (h : 0 < whole) (hsmall : whole ≤ 18)
    (hunit : unit.all Char.isAlpha = true) (hn : n < 10 ^ whole) :
    toLl (fixedDigits whole n ++ unit) = .ok n := by
  have hvalue : (digitsField whole n unit h hunit).number.intValue = n := digitsNumeral_value h hn
  have htext : (digitsField whole n unit h hunit).text = fixedDigits whole n ++ unit := by
    show [] ++ ((digitsNumeral whole n h).text ++ unit) = _
    rw [digitsNumeral_text]
    rfl
  have hlt : n < 10 ^ 18 := lt_of_lt_of_le hn (Nat.pow_le_pow_right (by decide) hsmall)
  rw [← htext, FieldText.toLl_text _ rfl, hvalue]
  rw [hvalue]
  unfold inLongLong
  rw [decide_eq_true_eq]
  constructor <;> omega

/-- No column has a comma in it. -/
theorem signed_no_comma {negative : Bool} {whole part n : Nat} {unit : List Char} (h : 0 < whole)
    (hunit : unit.all Char.isAlpha = true) : ',' ∉ signed negative
        (pointColumn whole part n) ++ unit := by
  rw [← signedField_text negative whole part n unit h hunit]
  exact FieldText.no_comma _

theorem point_no_comma {whole part n : Nat} {unit : List Char} (h : 0 < whole)
    (hunit : unit.all Char.isAlpha = true) : ',' ∉ pointColumn whole part n ++ unit :=
  FieldText.no_comma (pointField whole part n unit h hunit)

theorem digits_no_comma {whole n : Nat} {unit : List Char} (hunit : unit.all Char.isAlpha = true) :
    ',' ∉ fixedDigits whole n ++ unit := by
  intro hc
  rcases List.mem_append.mp hc with hdigit | hletter
  · exact (fixedDigits_notBlank _ hdigit).2 rfl
  · exact absurd (isAlpha_of_unit hunit _ hletter) (by decide)

namespace ReadingColumns

variable (c : ReadingColumns)

theorem lineFields : LineFields c.fields where
  no_comma := by
    have hserial : ∀ f ∈ c.serialDigits.toList, ',' ∉ f := by
      intro f hf
      obtain ⟨n, -, rfl⟩ := Option.map_eq_some_iff.mp (Option.mem_toList.mp hf)
      exact fun hc => (fixedDigits_notBlank _ hc).2 rfl
    have hletter : ',' ∉ (if c.unaveraged then ['u'] else ['r'] : List Char) := by
      cases c.unaveraged <;> decide
    unfold fields
    rw [List.forall_mem_append]
    refine ⟨?_, hserial⟩
    simp only [List.forall_mem_cons]
    exact ⟨hletter, signed_no_comma (by decide) (by decide), digits_no_comma (by decide),
      digits_no_comma (by decide), point_no_comma (by decide) (by decide),
      signed_no_comma (by decide) (by decide), nofun⟩
  first := by
    refine ⟨_, rfl, ?_⟩
    cases c.unaveraged
    · exact ⟨'r', rfl, by decide⟩
    · exact ⟨'u', rfl, by decide⟩
  last := by
    unfold fields
    cases hserial : c.serialDigits with
    | none =>
      refine ⟨signed c.tempNegative (pointColumn 3 1 c.temp) ++ ['C'], rfl, 'C', ?_, by decide⟩
      exact List.getLast?_concat
    | some ds =>
      obtain ⟨n, -, rfl⟩ := Option.map_eq_some_iff.mp hserial
      refine ⟨fixedDigits 8 n, by simp, digitOf n, List.getLast?_concat, ?_⟩
      exact (digit_not_blank (digitOf_isDigit n)).1

/-- A reading in its columns, with a CR behind it or without, is parsed to the values in them. -/
theorem parse_line (cr : Bool) : parseReading (c.line ++ lineEnd cr) = .ok c.reading := by
  have h := c.lineFields
  refine parseReading_ok.mpr ⟨?_, ?_, ?_, ?_, ?_, ?_, ?_, ?_, (h.trim_joined cr).symm⟩
  · rw [line, h.split_joined]
    simp [fields]
  · rw [line, h.field_joined]
    show trim (if c.unaveraged then ['u'] else ['r']) = ['r'] ∨
      trim (if c.unaveraged then ['u'] else ['r']) = ['u']
    cases c.unaveraged
    · exact Or.inl (by decide)
    · exact Or.inr (by decide)
  · rw [line, h.field_joined]
    exact toDouble_signed (by decide) (by decide) (by decide) c.mag_lt (by have := c.mag_lt; omega)
  · rw [line, h.field_joined]
    exact toLl_digits (by decide) (by decide) (by decide) c.freq_lt
  · rw [line, h.field_joined]
    exact toLl_digits (by decide) (by decide) (by decide) c.counts_lt
  · rw [line, h.field_joined]
    exact toDouble_point (by decide) (by decide) (by decide) c.period_lt (by have := c.period_lt; omega)
  · rw [line, h.field_joined]
    exact toDouble_signed (by decide) (by decide) (by decide) c.temp_lt (by have := c.temp_lt; omega)
  · rw [line, h.field_joined]
    show c.serialDigits.getD [] = trim (c.serialDigits.toList.getD 0 [])
    cases hserial : c.serialDigits with
    | none => rfl
    | some ds =>
      obtain ⟨n, -, rfl⟩ := Option.map_eq_some_iff.mp hserial
      refine (trim_eq_self (fun d hd => ?_) fun d hd => ?_).symm
      · exact (fixedDigits_notBlank d (List.mem_of_mem_head? hd)).1
      · exact (fixedDigits_notBlank d (List.mem_of_getLast? hd)).1

end ReadingColumns

/-! ## Unit information -/

/-- What fits the columns of `ix`. -/
structure UnitInfoColumns where
  protocol : Nat
  model : Nat
  feature : Nat
  serial : Nat
  protocol_lt : protocol < 10 ^ 8
  model_lt : model < 10 ^ 8
  feature_lt : feature < 10 ^ 8

namespace UnitInfoColumns

variable (c : UnitInfoColumns)

def fields : List (List Char) :=
  [['i'], fixedDigits 8 c.protocol, fixedDigits 8 c.model, fixedDigits 8 c.feature,
      fixedDigits 8 c.serial]

def line : List Char := joined c.fields

def unitInfo : UnitInfo where
  protocol := c.protocol
  model := c.model
  feature := c.feature
  serial := fixedDigits 8 c.serial
  raw := c.line

theorem lineFields : LineFields c.fields where
  no_comma := by
    have hdigits : ∀ n, ',' ∉ fixedDigits 8 n := fun n hc => (fixedDigits_notBlank _ hc).2 rfl
    unfold fields
    simp only [List.forall_mem_cons]
    exact ⟨by decide, hdigits _, hdigits _, hdigits _, hdigits _, nofun⟩
  first := ⟨['i'], rfl, 'i', rfl, by decide⟩
  last := ⟨fixedDigits 8 c.serial, rfl, digitOf c.serial, List.getLast?_concat,
    (digit_not_blank (digitOf_isDigit c.serial)).1⟩

/-- A column of eight digits fits an `int`. -/
theorem toInt_of_lt {n : Nat} (h : n < 10 ^ 8) : toInt n = n :=
  toInt_eq_iff.mpr ⟨by omega, by omega⟩

theorem toLl_column {n : Nat} (h : n < 10 ^ 8) : toLl (fixedDigits 8 n) = .ok n := by
  have hfield := @toLl_digits 8 n [] (by decide) (by decide) (by decide) h
  rwa [List.append_nil] at hfield

theorem parse_line (cr : Bool) : parseUnitInfo (c.line ++ lineEnd cr) = .ok c.unitInfo := by
  have h := c.lineFields
  refine parseUnitInfo_ok.mpr ⟨?_, ?_, c.protocol, c.model, c.feature, ?_, ?_, ?_,
    (toInt_of_lt c.protocol_lt).symm, (toInt_of_lt c.model_lt).symm,
    (toInt_of_lt c.feature_lt).symm, ?_,
    (h.trim_joined cr).symm⟩
  · rw [line, h.split_joined]
    exact le_rfl
  · rw [line, h.field_joined]
    show trim ['i'] = ['i']
    decide
  · rw [line, h.field_joined]
    exact toLl_column c.protocol_lt
  · rw [line, h.field_joined]
    exact toLl_column c.model_lt
  · rw [line, h.field_joined]
    exact toLl_column c.feature_lt
  · rw [line, h.field_joined]
    refine (trim_eq_self (fun d hd => ?_) fun d hd => ?_).symm
    · exact (fixedDigits_notBlank d (List.mem_of_mem_head? hd)).1
    · exact (fixedDigits_notBlank d (List.mem_of_getLast? hd)).1

end UnitInfoColumns

/-! ## Calibrations -/

/-- What fits the columns of `cx`. -/
structure CalibrationColumns where
  lightOffset : Nat
  darkPeriod : Nat
  tempLightNegative : Bool
  tempLight : Nat
  sensorOffset : Nat
  tempDarkNegative : Bool
  tempDark : Nat
  lightOffset_lt : lightOffset < 10 ^ 10
  darkPeriod_lt : darkPeriod < 10 ^ 10
  tempLight_lt : tempLight < 10 ^ 4
  sensorOffset_lt : sensorOffset < 10 ^ 10
  tempDark_lt : tempDark < 10 ^ 4

namespace CalibrationColumns

variable (c : CalibrationColumns)

def fields : List (List Char) :=
  [['c'],
    pointColumn 8 2 c.lightOffset ++ ['m'],
    pointColumn 7 3 c.darkPeriod ++ ['s'],
    signed c.tempLightNegative (pointColumn 3 1 c.tempLight) ++ ['C'],
    pointColumn 8 2 c.sensorOffset ++ ['m'],
    signed c.tempDarkNegative (pointColumn 3 1 c.tempDark) ++ ['C']]

def line : List Char := joined c.fields

def calibration : Calibration where
  lightCalOffset := .num (signedValue false (c.lightOffset / 10 ^ 2))
  darkCalPeriodS := .num (signedValue false (c.darkPeriod / 10 ^ 3))
  tempLightC := .num (signedValue c.tempLightNegative (c.tempLight / 10 ^ 1))
  sensorOffset := .num (signedValue false (c.sensorOffset / 10 ^ 2))
  tempDarkC := .num (signedValue c.tempDarkNegative (c.tempDark / 10 ^ 1))
  raw := c.line

theorem lineFields : LineFields c.fields where
  no_comma := by
    unfold fields
    simp only [List.forall_mem_cons]
    exact ⟨by decide, point_no_comma (by decide) (by decide), point_no_comma (by decide) (by decide),
      signed_no_comma (by decide) (by decide), point_no_comma (by decide) (by decide),
      signed_no_comma (by decide) (by decide), nofun⟩
  first := ⟨['c'], rfl, 'c', rfl, by decide⟩
  last := ⟨signed c.tempDarkNegative (pointColumn 3 1 c.tempDark) ++ ['C'], rfl, 'C',
      List.getLast?_concat,
    by decide⟩

theorem parse_line (cr : Bool) : parseCalibration (c.line ++ lineEnd cr) = .ok c.calibration := by
  have h := c.lineFields
  refine parseCalibration_ok.mpr ⟨?_, ?_, ?_, ?_, ?_, ?_, ?_, (h.trim_joined cr).symm⟩
  · rw [line, h.split_joined]
    exact le_rfl
  · rw [line, h.field_joined]
    show trim ['c'] = ['c']
    decide
  · rw [line, h.field_joined]
    exact toDouble_point (by decide) (by decide) (by decide) c.lightOffset_lt
      (by have := c.lightOffset_lt; omega)
  · rw [line, h.field_joined]
    exact toDouble_point (by decide) (by decide) (by decide) c.darkPeriod_lt
      (by have := c.darkPeriod_lt; omega)
  · rw [line, h.field_joined]
    exact toDouble_signed (by decide) (by decide) (by decide) c.tempLight_lt
      (by have := c.tempLight_lt; omega)
  · rw [line, h.field_joined]
    exact toDouble_point (by decide) (by decide) (by decide) c.sensorOffset_lt
      (by have := c.sensorOffset_lt; omega)
  · rw [line, h.field_joined]
    exact toDouble_signed (by decide) (by decide) (by decide) c.tempDark_lt
      (by have := c.tempDark_lt; omega)

end CalibrationColumns

/-- The parsers give back the values in the columns of a response. -/
theorem parsers_undo_columns (cr : Bool) :
    (∀ c : ReadingColumns, parseReading (c.line ++ lineEnd cr) = .ok c.reading) ∧
    (∀ c : UnitInfoColumns, parseUnitInfo (c.line ++ lineEnd cr) = .ok c.unitInfo) ∧
    ∀ c : CalibrationColumns, parseCalibration (c.line ++ lineEnd cr) = .ok c.calibration :=
  ⟨fun c => c.parse_line cr, fun c => c.parse_line cr, fun c => c.parse_line cr⟩

/-- 39.4 degrees and a time of zero, as in the examples of the protocol. -/
theorem exampleTemp_lt : 394 < 10 ^ 4 := by decide

/-- The columns of the examples are not too wide. -/
theorem exampleTime_lt : 0 < 10 ^ 10 := by decide

example : ReadingColumns.line ⟨false, false, 670, 22921, 20, 0, false, 394, none, by decide, by decide,
    by decide, exampleTime_lt, exampleTemp_lt⟩
      = "r, 06.70m,0000022921Hz,0000000020c,0000000.000s, 039.4C".toList := by decide

end NightWatcher.Sqm.Protocol
