import NightWatcher.Export.DsnFormat
import NightWatcher.Export.Window

/-!
# The structure of a Dark Sky Network file

A reader of the archive cuts a file at its line ends and trusts the header's count of 35 lines
(`DatLines`). The rows are made of timestamps and numbers, in which no separator can occur. The
header takes texts from the config and the sensor's row as they are, so the file has the structure
if and only if none of these contains a CR or an LF (`dat_structure_iff`): each one that does adds
line ends to the file, and their number is fixed by the structure.
-/

namespace NightWatcher.Exporter

open TimeUtil DecimalText

/-! ## Lines -/

/-- A text that can stand in a line. -/
structure CleanText (s : String) : Prop where
  noCr : '\r' ∉ s.toList
  noLf : '\n' ∉ s.toList

theorem cleanText_append {s t : String} : CleanText (s ++ t) ↔ CleanText s ∧ CleanText t := by
  constructor
  · intro h
    have hcr := h.noCr
    have hlf := h.noLf
    rw [String.toList_append, List.mem_append, not_or] at hcr hlf
    exact ⟨⟨hcr.1, hlf.1⟩, ⟨hcr.2, hlf.2⟩⟩
  · intro h
    obtain ⟨hs, ht⟩ := h
    constructor
    · rw [String.toList_append, List.mem_append, not_or]
      exact ⟨hs.noCr, ht.noCr⟩
    · rw [String.toList_append, List.mem_append, not_or]
      exact ⟨hs.noLf, ht.noLf⟩

/-- A text of printable characters; a literal is one of this form. -/
theorem cleanText_of_printable {cs : List Char} (h : (cs.all fun c => Nat.ble 32 c.toNat) = true) :
    CleanText (String.ofList cs) := by
  rw [List.all_eq_true] at h
  constructor
  · rw [String.toList_ofList]
    exact fun hmem => absurd (h _ hmem) (by decide)
  · rw [String.toList_ofList]
    exact fun hmem => absurd (h _ hmem) (by decide)

/-- The file with these lines. -/
def crlfLines (lines : List String) : String := String.join (lines.map fun l => l ++ "\r\n")

theorem count_crlfLines (c : Char) (lines : List String) :
    (crlfLines lines).toList.count c =
      (lines.map fun l => l.toList.count c).sum + lines.length * "\r\n".toList.count c := by
  induction lines with
  | nil => simp [crlfLines]
  | cons l lines ih =>
    unfold crlfLines at ih ⊢
    rw [List.map_cons, String.join_cons, String.toList_append, String.toList_append, List.count_append,
      List.count_append, ih, List.map_cons, List.sum_cons, List.length_cons, Nat.succ_mul]
    omega

theorem crlfLines_ne_empty {lines : List String} (h : lines ≠ []) : crlfLines lines ≠ "" := by
  intro hempty
  have hcount := count_crlfLines '\r' lines
  have hcr : "\r\n".toList.count '\r' = 1 := by decide
  have hpos := List.length_pos_of_ne_nil h
  rw [hempty, hcr, show "".toList.count '\r' = 0 from rfl] at hcount
  omega

/-- A file is cut into lines in one way at most: the number of line ends tells. -/
theorem clean_of_same {lines lines' : List String} (hsame : crlfLines lines = crlfLines lines')
    (hlength : lines.length = lines'.length) (hclean : ∀ l ∈ lines', CleanText l) :
    ∀ l ∈ lines, CleanText l := by
  have hfree : ∀ c, (∀ l ∈ lines', c ∉ l.toList) → ∀ l ∈ lines, c ∉ l.toList := by
    intro c hnone
    have hzero : (lines'.map fun l => l.toList.count c).sum = 0 := by
      refine List.sum_eq_zero_iff_forall_eq_nat.mpr fun n hn => ?_
      obtain ⟨l, hl, rfl⟩ := List.mem_map.mp hn
      exact List.count_eq_zero_of_not_mem (hnone l hl)
    have hcount := congrArg (fun s : String => s.toList.count c) hsame
    simp only [count_crlfLines, hlength, hzero] at hcount
    have hsum : (lines.map fun l => l.toList.count c).sum = 0 := by omega
    intro l hl
    exact List.count_eq_zero.mp (List.sum_eq_zero_iff_forall_eq_nat.mp hsum _ (List.mem_map_of_mem hl))
  intro l hl
  exact ⟨hfree '\r' (fun l hl => (hclean l hl).noCr) l hl,
      hfree '\n' (fun l hl => (hclean l hl).noLf) l hl⟩

/-! ## Rows -/

/-- The characters of the fields of a row. -/
def fieldChar (c : Char) : Bool := c.isDigit || c == '-' || c == 'T' || c == ':' || c == '.'

/-- A text made of such characters. -/
def FieldText (s : String) : Prop := ∀ c ∈ s.toList, fieldChar c = true

theorem FieldText.notMem {s : String} (h : FieldText s) {c : Char}
    (hc : fieldChar c = false) : c ∉ s.toList := by
  intro hmem
  rw [h c hmem] at hc
  exact Bool.noConfusion hc

theorem FieldText.clean {s : String} (h : FieldText s) : CleanText s :=
  ⟨h.notMem (by decide), h.notMem (by decide)⟩

theorem fieldChar_of_isDigit {c : Char} (h : c.isDigit = true) : fieldChar c = true := by
  unfold fieldChar
  rw [h]
  rfl

theorem fieldText_empty : FieldText "" := fun _ hc => absurd hc List.not_mem_nil

theorem fieldChar_printfPadded {w : Nat} {n : Int} : ∀ c ∈ printfPadded w n, fieldChar c = true := by
  intro c hc
  unfold printfPadded at hc
  by_cases hn : 0 ≤ n
  · rw [if_pos hn] at hc
    exact fieldChar_of_isDigit (column_isDigit w n.toNat c hc)
  · rw [if_neg hn] at hc
    rcases List.mem_cons.mp hc with rfl | hc
    · rfl
    · exact fieldChar_of_isDigit (column_isDigit (w - 1) n.natAbs c hc)

/-- A timestamp, of whatever date. -/
theorem fieldText_fmtIsoMs (tm : Gregorian.Tm) : FieldText (fmtIsoMs tm) := by
  intro c hc
  unfold fmtIsoMs fmtColumns at hc
  rw [String.toList_ofList] at hc
  simp only [List.mem_append, List.mem_cons, List.not_mem_nil, or_false] at hc
  have hcolumn : ∀ {w : Nat} {n : Int}, c ∈ printfPadded w n → fieldChar c = true :=
    fun hmem => fieldChar_printfPadded c hmem
  rcases hc with (h | rfl | h | rfl | h | rfl | h | rfl | h | rfl | h) | rfl | rfl | rfl | rfl
  all_goals first | exact hcolumn h | rfl

/-- The month in a file's name. -/
theorem fieldText_month (zones : Zones) {ts : String} (hts : IsStamp ts) (tz : String) :
    FieldText (yymm (localYm zones ts tz)) := by
  obtain ⟨t, ht, rfl⟩ := hts
  have hmonth : FieldText (localYm zones (fmtSqlUtc t) tz) := by
    unfold localYm
    rw [parseSqlUtc_fmtSqlUtc ht]
    intro c hc
    unfold ymText at hc
    rw [String.toList_ofList] at hc
    rcases List.mem_append.mp hc with hyear | hc
    · exact fieldChar_printfPadded c hyear
    · rcases List.mem_cons.mp hc with rfl | hmon
      · rfl
      · exact fieldChar_printfPadded c hmon
  intro c hc
  unfold yymm at hc
  split at hc
  · rw [String.toList_ofList] at hc
    exact hmonth c (List.mem_of_mem_drop hc)
  · have hall : "00-00".toList.all fieldChar = true := by decide
    exact List.all_eq_true.mp hall c hc

theorem fieldText_toString (i : Int) : FieldText (toString i) := by
  have hnat : ∀ n : Nat, FieldText (toString n) := by
    intro n c hc
    have hmem : c ∈ Nat.toDigits 10 n := by simpa [Nat.repr] using hc
    exact fieldChar_of_isDigit (Nat.isDigit_of_mem_toDigits (by decide) (by decide) hmem)
  cases i with
  | ofNat n => exact hnat n
  | negSucc n =>
    intro c hc
    have htext : toString (Int.negSucc n) = "-" ++ toString (n + 1) := rfl
    rw [htext, String.toList_append] at hc
    rcases List.mem_append.mp hc with hsign | hdigit
    · rw [show "-".toList = ['-'] from rfl, List.mem_singleton] at hsign
      rw [hsign]
      rfl
    · exact hnat (n + 1) c hdigit

theorem fieldText_trimZeros {s : String} (h : FieldText s) : FieldText (trimZeros s) := by
  unfold trimZeros
  dsimp only
  split
  · intro c hc
    rw [String.toList_ofList, List.mem_reverse] at hc
    have hkept : c ∈ s.toList.reverse.dropWhile (· = '0') := by
      split at hc
      · exact List.mem_of_mem_tail hc
      · exact hc
    exact h c (List.mem_reverse.mp ((List.dropWhile_suffix _).subset hkept))
  · exact h

variable {d : Deps}

/-- `printf` writes a number with digits, a sign and a point. -/
def PlainNumbers (d : Deps) : Prop :=
  ∀ decimals q, ∀ c ∈ (d.printfFixed decimals q).toList, c.isDigit = true ∨ c = '-' ∨ c = '.'

theorem PlainNumbers.fieldText (h : PlainNumbers d) (decimals : Nat) (q : ℚ) :
    FieldText (d.printfFixed decimals q) := by
  intro c hc
  rcases h decimals q c hc with hdigit | rfl | rfl
  · exact fieldChar_of_isDigit hdigit
  · rfl
  · rfl

/-- The row of a reading: six fields, of which the first two are its instant in UTC and in a zone. -/
structure RowFor (zones : Zones) (tz : String) (r : ReadingRow) (row : String) : Prop where
  unmarked : row.toList.head? ≠ some '#'
  fields : ∃ t temp counts freq msas, InYears t ∧ r.tsUtc = fmtSqlUtc t ∧
    row.toList.splitOn ';' = [(fmtIsoMs (Gregorian.gmtime t)).toList,
      (fmtIsoMs (localTm zones t tz)).toList, temp, counts, freq, msas]

/-- What `dsnLine` writes for a reading with a timestamp of the server. -/
theorem dsnLine_fields (hnumbers : PlainNumbers d) (tz : String) (includeCountsFreq : Bool)
    {r : ReadingRow}
    (hstamp : IsStamp r.tsUtc) :
    ∃ t, InYears t ∧ r.tsUtc = fmtSqlUtc t ∧ ∃ temp counts freq msas : String,
      (∀ f ∈ [fmtIsoMs (Gregorian.gmtime t), fmtIsoMs (localTm d.zones t tz), temp, counts, freq, msas],
        FieldText f) ∧
      (dsnLine d tz includeCountsFreq r).toList = [';'].intercalate
        [(fmtIsoMs (Gregorian.gmtime t)).toList, (fmtIsoMs (localTm d.zones t tz)).toList, temp.toList,
          counts.toList, freq.toList, msas.toList] := by
  obtain ⟨t, ht, hts⟩ := hstamp
  have hnumber : ∀ i : Int, FieldText (if includeCountsFreq = true then toString i else "") := by
    intro i
    split
    · exact fieldText_toString i
    · exact fieldText_empty
  refine ⟨t, ht, hts, d.printfFixed 1 r.tempC, if includeCountsFreq then toString r.periodCounts
      else "",
    if includeCountsFreq then toString r.freqHz else "", fmtMsas d r.magArcsec2, ?_, ?_⟩
  · simp only [List.forall_mem_cons]
    exact ⟨fieldText_fmtIsoMs _, fieldText_fmtIsoMs _, hnumbers.fieldText 1 _, hnumber _, hnumber _,
      fieldText_trimZeros (hnumbers.fieldText 2 _), fun _ hmem => absurd hmem List.not_mem_nil⟩
  · unfold dsnLine
    rw [hts, parseSqlUtc_fmtSqlUtc ht]
    dsimp only
    simp [List.intercalate]

/-- A row of fields joined by a separator that is in none of them. -/
theorem dsnLine_row (hnumbers : PlainNumbers d) (tz : String) (includeCountsFreq : Bool)
    {r : ReadingRow}
    (hstamp : IsStamp r.tsUtc) :
    RowFor d.zones tz r (dsnLine d tz includeCountsFreq r) ∧
        CleanText (dsnLine d tz includeCountsFreq r) := by
  obtain ⟨t, ht, hts, temp, counts, freq, msas, hfields, hrow⟩ :=
    dsnLine_fields hnumbers tz includeCountsFreq hstamp
  have hchars : ∀ c ∈ (dsnLine d tz includeCountsFreq r).toList, fieldChar c = true ∨ c = ';' := by
    intro c hc
    rw [hrow] at hc
    simp only [List.forall_mem_cons] at hfields
    obtain ⟨hutc, hloc, htemp, hcounts, hfreq, hmsas, -⟩ := hfields
    simp only [List.intercalate, List.intersperse, List.flatten_cons, List.flatten_nil, List.append_nil,
      List.mem_append, List.mem_singleton] at hc
    rcases hc with h | h | h | h | h | h | h | h | h | h | h
    exacts [Or.inl (hutc c h), Or.inr h, Or.inl (hloc c h), Or.inr h, Or.inl (htemp c h), Or.inr h,
      Or.inl (hcounts c h), Or.inr h, Or.inl (hfreq c h), Or.inr h, Or.inl (hmsas c h)]
  have hnone : ∀ {c : Char}, fieldChar c = false → c ≠ ';' →
      c ∉ (dsnLine d tz includeCountsFreq r).toList := by
    intro c hfield hsep hmem
    rcases hchars c hmem with h | h
    · rw [h] at hfield
      exact Bool.noConfusion hfield
    · exact hsep h
  refine ⟨⟨?_, t, temp.toList, counts.toList, freq.toList, msas.toList, ht, hts, ?_⟩, ?_⟩
  · intro hhead
    exact hnone (by decide) (by decide) (List.mem_of_mem_head? hhead)
  · rw [hrow]
    refine List.splitOn_intercalate ';' ?_ (List.cons_ne_nil _ _)
    simp only [List.forall_mem_cons] at hfields ⊢
    obtain ⟨hutc, hloc, htemp, hcounts, hfreq, hmsas, -⟩ := hfields
    exact ⟨hutc.notMem (by decide), hloc.notMem (by decide), htemp.notMem (by decide),
      hcounts.notMem (by decide), hfreq.notMem (by decide), hmsas.notMem (by decide), fun _ hmem =>
        absurd hmem List.not_mem_nil⟩
  · exact ⟨hnone (by decide) (by decide), hnone (by decide) (by decide)⟩

/-! ## The header -/

/-- The texts that the header takes from the config, or from the sensor's row where the config has
none. -/
def dsnTexts (s : SensorRow) (cfg : Json) : List String :=
  [cfgOr cfg "device_type" (orIfEmpty s.model "SQM-LE/LU"), cfgOr cfg "instrument_id" s.id,
   cfgOr cfg "data_supplier" "", cfgOr cfg "location_name" (orIfEmpty s.site s.name),
   cfgOr cfg "timezone" s.timezone, cfgOr cfg "time_sync" "NTP", cfgOr cfg "filter" "HOYA CM-500",
   cfgOr cfg "fov" "20", s.serialNumber, cfgOr cfg "firmware" "", cfgOr cfg "cover_offset" "0",
   cfgOr cfg "ix_test" "", cfgOr cfg "rx_test" "", cfgOr cfg "cx_test" "",
   cfgOr cfg "comment" "Data acquired by NightWatcher2"]

/-- Only a text of digits is changed. -/
theorem cleanText_serialInt (s : String) : CleanText (serialInt s) ↔ CleanText s := by
  unfold serialInt
  by_cases hempty : s = ""
  · rw [if_pos hempty]
  · rw [if_neg hempty]
    by_cases hdigits : s.toList.all Char.isDigit = true
    · rw [if_pos hdigits]
      rw [List.all_eq_true] at hdigits
      have hfield : FieldText s := fun c hc => fieldChar_of_isDigit (hdigits c hc)
      refine iff_of_true ?_ hfield.clean
      dsimp only
      split
      · exact cleanText_of_printable rfl
      · refine FieldText.clean fun c hc => ?_
        rw [String.toList_ofList] at hc
        exact hfield c ((List.dropWhile_suffix _).subset hc)
    · rw [if_neg hdigits]

theorem cleanText_position (hnumbers : PlainNumbers d) (s : SensorRow) :
    CleanText (fmtSigned d (s.latitude.getD 0) ++ ", " ++ fmtSigned d (s.longitude.getD 0) ++ ", "
      ++ fmtSignedInt (lround (s.elevationM.getD 0))) := by
  have hplus : CleanText "+" := cleanText_of_printable rfl
  have hcomma : CleanText ", " := cleanText_of_printable rfl
  have hsigned : ∀ q, CleanText (fmtSigned d q) := by
    intro q
    have hnumber := (hnumbers.fieldText 4 q).clean
    unfold fmtSigned
    dsimp only
    split
    · exact hnumber
    · exact cleanText_append.mpr ⟨hplus, hnumber⟩
  have hint : ∀ i, CleanText (fmtSignedInt i) := by
    intro i
    have hnumber := (fieldText_toString i).clean
    unfold fmtSignedInt
    split
    · exact hnumber
    · exact cleanText_append.mpr ⟨hplus, hnumber⟩
  simp only [cleanText_append]
  exact ⟨⟨⟨⟨hsigned _, hcomma⟩, hsigned _⟩, hcomma⟩, hint _⟩

/-- What every text of one line has, and a text with such a front if the text itself has it, the
lines of the header have if and only if the texts that are put into it have it. -/
theorem dsnHeader_forall_iff {P : String → Prop} (hline : ∀ {s}, CleanText s → P s)
    (happend : ∀ {s t}, CleanText s → (P (s ++ t) ↔ P t)) (hserial : ∀ s, P (serialInt s) ↔ P s)
    (hnumbers : PlainNumbers d) (s : SensorRow) (cfg : Json) :
    (∀ l ∈ dsnHeader d s cfg (cfgOr cfg "timezone" s.timezone), P l) ↔
      ∀ text ∈ dsnTexts s cfg, P text := by
  have hposition := hline (cleanText_position hnumbers s)
  unfold dsnHeader dsnTexts
  generalize fmtSigned d (s.latitude.getD 0) ++ ", " ++ fmtSigned d (s.longitude.getD 0) ++ ", "
    ++ fmtSignedInt (lround (s.elevationM.getD 0)) = position at hposition ⊢
  simp (disch := exact cleanText_of_printable rfl) only [List.forall_mem_cons, happend, hserial]
  constructor
  · intro h
    obtain ⟨-, -, -, -, h₁, h₂, h₃, h₄, -, h₅, h₆, -, -, -, h₇, -, h₈, -, h₉, h₁₀, h₁₁, h₁₂, h₁₃,
        h₁₄, h₁₅, -⟩ := h
    exact ⟨h₁, h₂, h₃, h₄, h₅, h₆, h₇, h₈, h₉, h₁₀, h₁₁, h₁₂, h₁₃, h₁₄, h₁₅,
      fun _ hmem => absurd hmem List.not_mem_nil⟩
  · intro h
    obtain ⟨h₁, h₂, h₃, h₄, h₅, h₆, h₇, h₈, h₉, h₁₀, h₁₁, h₁₂, h₁₃, h₁₄, h₁₅, hnil⟩ := h
    and_intros
    all_goals first | with_reducible assumption | exact hline (cleanText_of_printable rfl)

/-- The fixed parts of the header are in order. -/
theorem dsnHeader_clean_iff (hnumbers : PlainNumbers d) (s : SensorRow) (cfg : Json) :
    (∀ l ∈ dsnHeader d s cfg (cfgOr cfg "timezone" s.timezone), CleanText l) ↔
      ∀ text ∈ dsnTexts s cfg, CleanText text :=
  dsnHeader_forall_iff id (fun hs => cleanText_append.trans (and_iff_right hs)) cleanText_serialInt
    hnumbers s cfg

theorem dsnHeader_marked (s : SensorRow) (cfg : Json) (tz : String) :
    ∀ l ∈ dsnHeader d s cfg tz, l.toList.head? = some '#' := by
  have hliteral : ∀ {cs : List Char}, (String.ofList ('#' :: cs)).toList.head? = some '#' := by
    intro cs
    rw [String.toList_ofList]
    rfl
  have hlabel : ∀ {cs : List Char} {text : String},
      (String.ofList ('#' :: cs) ++ text).toList.head? = some '#' := by
    intro cs text
    rw [String.toList_append, List.head?_append, hliteral]
    rfl
  unfold dsnHeader
  simp only [List.forall_mem_cons]
  and_intros
  all_goals first
    | with_reducible exact hliteral
    | with_reducible exact hlabel
    | exact fun _ hmem => absurd hmem List.not_mem_nil

/-! ## The file -/

/-- The lines of a file, in a time zone: 35 of a header that names the zone, and one for each
reading. -/
structure DatLines (zones : Zones) (readings : List ReadingRow) (tz : String)
    (header rows : List String) :
    Prop where
  clean : ∀ l ∈ header ++ rows, CleanText l
  header_length : header.length = 35
  marked : ∀ l ∈ header, l.toList.head? = some '#'
  ended : header.getLast? = some "# END OF HEADER"
  zone : header[9]? = some ("# Local timezone: " ++ tz)
  rows : List.Forall₂ (RowFor zones tz) readings rows

/-- A file of such lines. -/
def DatFile (zones : Zones) (readings : List ReadingRow) (out : String) : Prop :=
  ∃ tz header rows, DatLines zones readings tz header rows ∧ out = crlfLines (header ++ rows)

theorem dsnRows_for (hnumbers : PlainNumbers d) (tz : String) (includeCountsFreq : Bool)
    {readings : List ReadingRow} (hstamps : ∀ r ∈ readings, IsStamp r.tsUtc) :
    List.Forall₂ (RowFor d.zones tz) readings (readings.map (dsnLine d tz includeCountsFreq)) := by
  induction readings with
  | nil => exact .nil
  | cons r readings ih =>
    exact .cons (dsnLine_row hnumbers tz includeCountsFreq (hstamps r List.mem_cons_self)).1
      (ih fun r' hr' => hstamps r' (List.mem_cons_of_mem _ hr'))

/-- What `formatDsnDat` writes has the structure if and only if its header has no line end too many. -/
theorem dsnLines_structure_iff (hnumbers : PlainNumbers d) (sensor : SensorRow) (cfg : Json)
    (includeCountsFreq : Bool) {readings : List ReadingRow} (hstamps : ∀ r ∈ readings,
        IsStamp r.tsUtc) :
    DatFile d.zones readings (crlfLines (dsnHeader d sensor cfg (cfgOr cfg "timezone" sensor.timezone)
        ++ readings.map (dsnLine d (cfgOr cfg "timezone" sensor.timezone) includeCountsFreq))) ↔
      ∀ text ∈ dsnTexts sensor cfg, CleanText text := by
  rw [← dsnHeader_clean_iff hnumbers]
  generalize cfgOr cfg "timezone" sensor.timezone = tz
  constructor
  · intro h
    obtain ⟨tz', header, rows, hlines, hsame⟩ := h
    have hlength : (dsnHeader d sensor cfg tz ++ readings.map (dsnLine d tz includeCountsFreq)).length
        = (header ++ rows).length := by
      rw [List.length_append, List.length_append, dsnHeader_length, hlines.header_length,
        List.length_map, hlines.rows.length_eq]
    intro l hl
    exact clean_of_same hsame hlength hlines.clean l (List.mem_append_left _ hl)
  · intro hclean
    refine ⟨tz, _, _, ⟨?_, dsnHeader_length d sensor cfg tz, dsnHeader_marked sensor cfg tz, rfl, rfl,
      dsnRows_for hnumbers tz includeCountsFreq hstamps⟩, rfl⟩
    intro l hl
    rcases List.mem_append.mp hl with hheader | hrow
    · exact hclean l hheader
    · obtain ⟨r, hr, rfl⟩ := List.mem_map.mp hrow
      exact (dsnLine_row hnumbers tz includeCountsFreq (hstamps r hr)).2

/-- The text is the file of these readings under a config: the header, then one data line for each
reading, in their order. -/
def DatOf (d : Deps) (sensor : SensorRow) (config : String) (rows : List ReadingRow)
    (text : String) : Prop :=
  ∃ cfg includeCountsFreq, parseConfig d config = .ok cfg ∧
    cfg.valueOr "include_counts_freq" Json.getBool false = .ok includeCountsFreq ∧
    text = crlfLines (dsnHeader d sensor cfg (cfgOr cfg "timezone" sensor.timezone) ++
      rows.map (dsnLine d (cfgOr cfg "timezone" sensor.timezone) includeCountsFreq))

theorem datOf_formatDsnDat {ctx : ExportContext} {config text : String}
    (h : formatDsnDat d ctx config = .ok text) : DatOf d ctx.sensor config ctx.readings text := by
  unfold formatDsnDat at h
  obtain ⟨cfg, hcfg, h⟩ := except_bind_eq_ok.mp h
  obtain ⟨includeCountsFreq, hflag, h⟩ := except_bind_eq_ok.mp h
  exact ⟨cfg, includeCountsFreq, hcfg, hflag, (Except.ok.inj h).symm⟩

theorem formatDsnDat_lines {ctx : ExportContext} {configJson out : String} {cfg : Json}
    (hcfg : parseConfig d configJson = .ok cfg) (hout : formatDsnDat d ctx configJson = .ok out) :
    ∃ includeCountsFreq, out = crlfLines
      (dsnHeader d ctx.sensor cfg (cfgOr cfg "timezone" ctx.sensor.timezone) ++
        ctx.readings.map (dsnLine d (cfgOr cfg "timezone" ctx.sensor.timezone) includeCountsFreq)) := by
  obtain ⟨cfg', includeCountsFreq, hcfg', -, htext⟩ := datOf_formatDsnDat hout
  obtain rfl := Except.ok.inj (hcfg.symm.trans hcfg')
  exact ⟨includeCountsFreq, htext⟩

/-- A file has the prescribed structure if and only if no text of its header contains a CR or an LF. -/
theorem dat_structure_iff (hnumbers : PlainNumbers d) {ctx : ExportContext}
    {configJson out : String} {cfg : Json}
    (hcfg : parseConfig d configJson = .ok cfg) (hout : formatDsnDat d ctx configJson = .ok out)
    (hstamps : ∀ r ∈ ctx.readings, IsStamp r.tsUtc) :
    DatFile d.zones ctx.readings out ↔ ∀ text ∈ dsnTexts ctx.sensor cfg, CleanText text := by
  obtain ⟨includeCountsFreq, rfl⟩ := formatDsnDat_lines hcfg hout
  exact dsnLines_structure_iff hnumbers ctx.sensor cfg includeCountsFreq hstamps

/-! ### A clean sensor, and a comment of two lines -/

theorem plainNumbers_plain (texts : List (String × Json)) : PlainNumbers (Deps.plain texts) := by
  intro decimals q c hc
  have hdigits : ∀ n : Nat, c ∈ (toString n).toList → c.isDigit = true := by
    intro n hmem
    have hdigit : c ∈ Nat.toDigits 10 n := by simpa [Nat.repr] using hmem
    exact Nat.isDigit_of_mem_toDigits (by decide) (by decide) hdigit
  change c ∈ (printFixed decimals q).toList at hc
  unfold printFixed at hc
  dsimp only at hc
  have hwhole : ∀ n : Nat, c ∈ ((if q < 0 then "-" else "") ++ toString n).toList →
      c.isDigit = true ∨ c = '-' ∨ c = '.' := by
    intro n hmem
    rw [String.toList_append] at hmem
    rcases List.mem_append.mp hmem with hsign | hdigit
    · split at hsign
      · exact Or.inr (Or.inl (List.mem_singleton.mp hsign))
      · exact absurd hsign List.not_mem_nil
    · exact Or.inl (hdigits n hdigit)
  split at hc
  · exact hwhole _ hc
  · rw [String.toList_append, String.toList_append] at hc
    rcases List.mem_append.mp hc with hfront | hfraction
    · rcases List.mem_append.mp hfront with hfront | hpoint
      · exact hwhole _ hfront
      · exact Or.inr (Or.inr (List.mem_singleton.mp hpoint))
    · rw [String.toList_ofList] at hfraction
      exact Or.inl (fixedDigits_isDigit _ _ c hfraction)

def darkSiteReading : ReadingRow where
  sensorId := "S"
  tsUtc := "2026-01-01 00:00:00"
  magArcsec2 := 21
  freqHz := 0
  periodCounts := 0
  periodS := 0
  tempC := 0

def darkSite : ExportContext where
  sensor := { id := "S", transport := .tcp, address := "10.0.0.7", timezone := "UTC" }
  readings := [darkSiteReading]

theorem darkSite_stamps : ∀ r ∈ darkSite.readings, IsStamp r.tsUtc := by
  intro r hr
  obtain rfl := List.mem_singleton.mp hr
  exact ⟨1767225600, by decide, by decide⟩

/-- The file of a sensor without texts of its own. -/
theorem darkSite_structure : ∃ out, formatDsnDat (Deps.plain []) darkSite "" = .ok out ∧
    DatFile (Deps.plain []).zones darkSite.readings out := by
  have hout : formatDsnDat (Deps.plain []) darkSite "" = .ok (crlfLines
      (dsnHeader (Deps.plain []) darkSite.sensor (.obj []) "UTC" ++
        darkSite.readings.map (dsnLine (Deps.plain []) "UTC" false))) := rfl
  refine ⟨_, hout, (dat_structure_iff (plainNumbers_plain []) rfl hout darkSite_stamps).mpr ?_⟩
  unfold dsnTexts
  simp only [List.forall_mem_cons]
  and_intros
  all_goals first | exact cleanText_of_printable rfl | exact fun _ hmem => absurd hmem List.not_mem_nil

/-- A comment of two lines. -/
def remarkConfig : String := "\x7b\"comment\":\"roof\\ncoast\"\x7d"

def remarkDeps : Deps := Deps.plain [(remarkConfig, .obj [("comment", .str "roof\ncoast")])]

/-- Its second line is a line of the file that belongs neither to the header nor to a reading. -/
theorem remark_breaks_structure : ∃ out, formatDsnDat remarkDeps darkSite remarkConfig = .ok out ∧
    ¬DatFile remarkDeps.zones darkSite.readings out := by
  refine ⟨_, rfl, fun h => ?_⟩
  have hclean := (dsnLines_structure_iff (plainNumbers_plain _) darkSite.sensor
    (.obj [("comment", .str "roof\ncoast")]) false darkSite_stamps).mp h
  have hcomment := hclean "roof\ncoast" (by simp [dsnTexts, cfgOr, Json.member?, Json.findMember])
  exact hcomment.noLf (by decide)

end NightWatcher.Exporter
