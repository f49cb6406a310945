import Mathlib.Data.List.Induction
import Mathlib.Data.List.TakeWhile
import NightWatcher.Lib.DecimalText
import NightWatcher.Lib.Rounding

/-!
# Numbers in C text

`strtod` and `strtoll` as scanners over character lists: what is read and what is
left. Both take the longest prefix that is a number and leave the rest, in every
notation C knows. A text of digits, a sign and a point that is read whole is a
`Numeral` (`strtod_plain`). In the other direction `printfFixed` is `%0w.nf`: a
number that fits its column is written as a `Numeral` of that number
(`printfFixed_numeral`), so that it is read back.

A `double` is an exact number here, an infinity, or not a number.
-/

namespace NumberText

open DecimalText Rounding

/-- What `strtod` can return. -/
inductive Double where
  | num (q : ℚ)
  | inf (negative : Bool)
  | nan
deriving DecidableEq

/-- The double with the other sign. -/
def Double.neg : Double → Double
  | .num q => .num (-q)
  | .inf negative => .inf (!negative)
  | .nan => .nan

/-! ## Scanning -/

/-- A sign, if there is one, and what is behind it. -/
def scanSign : List Char → Bool × List Char
  | '-' :: cs => (true, cs)
  | '+' :: cs => (false, cs)
  | cs => (false, cs)

/-- What is behind a word, in whichever case. -/
def scanWord (word : String) (cs : List Char) : Option (List Char) :=
  if (cs.take word.length).map Char.toLower = word.toList then some (cs.drop word.length) else none

/-- An exponent behind its mark; without a digit there is none. -/
def scanExponent (mark : Char) (cs : List Char) : Int × List Char :=
  match cs with
  | c :: rest =>
    let (negative, ds) := scanSign rest
    let digits := ds.takeWhile Char.isDigit
    if c.toLower = mark ∧ digits ≠ [] then
      (if negative then -(digitsValue digits : Int) else digitsValue digits,
        ds.dropWhile Char.isDigit)
    else (0, cs)
  | [] => (0, [])

/-- `std::isxdigit`. -/
def isHexDigit (c : Char) : Bool := c.isDigit || ('a' ≤ c.toLower && c.toLower ≤ 'f')

/-- The value of a hexadecimal digit. -/
def hexDigit (c : Char) : Nat := if c.isDigit then c.toNat - 48 else c.toLower.toNat - 87

/-- The value of hexadecimal digits. -/
def hexValue (ds : List Char) : Nat := ds.foldl (fun a c => 16 * a + hexDigit c) 0

/-- Digits with a point among them or behind them: those before it, those behind it, the rest. -/
def scanDigits (digit : Char → Bool) (cs : List Char) : Option (List Char × List Char × List Char) :=
  let whole := cs.takeWhile digit
  match cs.dropWhile digit with
  | '.' :: rest =>
    let part := rest.takeWhile digit
    if whole = [] ∧ part = [] then none else some (whole, part, rest.dropWhile digit)
  | rest => if whole = [] then none else some (whole, [], rest)

/-- `0x` and a number; without a digit it is no hexadecimal number. -/
def scanHex : List Char → Option (ℚ × List Char)
  | '0' :: x :: cs =>
    if x.toLower = 'x' then
      (scanDigits isHexDigit cs).map fun (whole, part, rest) =>
        let (e, rest) := scanExponent 'p' rest
        ((hexValue (whole ++ part) : ℚ) / 16 ^ part.length * 2 ^ e, rest)
    else none
  | _ => none

/-- A decimal number without its sign: digits, a point and an exponent. -/
def scanDec (cs : List Char) : Option (ℚ × List Char) :=
  (scanDigits Char.isDigit cs).map fun (whole, part, rest) =>
    let (e, rest) := scanExponent 'e' rest
    ((digitsValue (whole ++ part) : ℚ) / 10 ^ part.length * 10 ^ e, rest)

/-- `nan`, with a parenthesis of its own or without. -/
def scanNan (cs : List Char) : Option (List Char) :=
  (scanWord "nan" cs).map fun rest =>
    match rest with
    | '(' :: inner =>
      match inner.dropWhile fun c => c.isAlphanum || c == '_' with
      | ')' :: behind => behind
      | _ => rest
    | _ => rest

/-- What may stand behind the sign of a double, infinity and NaN among it. -/
def scanUnsigned (cs : List Char) : Option (Double × List Char) :=
  ((scanWord "infinity" cs).orElse fun _ => scanWord "inf" cs).map (fun rest => (.inf false, rest))
    |>.orElse fun _ => (scanNan cs).map (fun rest => (.nan, rest))
    |>.orElse fun _ => ((scanHex cs).orElse fun _ => scanDec cs).map fun (q, rest) => (.num q, rest)

/-- `strtod`: the number at the start of a text and what is behind it. -/
def strtod (cs : List Char) : Option (Double × List Char) :=
  let (negative, body) := scanSign (cs.dropWhile isSpace)
  (scanUnsigned body).map fun (v, rest) => (if negative then v.neg else v, rest)

/-- `strtoll` in base ten. -/
def strtoll (cs : List Char) : Option (Int × List Char) := scanInt cs

/-- Neither overflow nor underflow: `errno` stays as it is. -/
def inDouble (q : ℚ) : Bool :=
  decide (|q| < 2 ^ 1024 - 2 ^ 970) &&
    (decide (q = 0) || decide ((1 : ℚ) / 2 ^ 1022 ≤ |q|) || decide ((q * 2 ^ 1074).den = 1))

/-- The number fits a `long long`. -/
def inLongLong (n : Int) : Bool := decide (-2 ^ 63 ≤ n ∧ n < 2 ^ 63)

/-- `std::stod` on a text; a number out of range is an error. -/
def stod (cs : List Char) : Except String Double :=
  match strtod cs with
  | none => .error "stod"
  | some (.num q, _) => if inDouble q then .ok (.num q) else .error "stod"
  | some (v, _) => .ok v

/-- `std::stoll` on a text. -/
def stoll (cs : List Char) : Except String Int :=
  match strtoll cs with
  | none => .error "stoll"
  | some (n, _) => if inLongLong n then .ok n else .error "stoll"

/-- The number fits an `int`. -/
def inInt (n : Int) : Bool := decide (-2 ^ 31 ≤ n ∧ n < 2 ^ 31)

/-- `std::stoi` on a text. -/
def stoi (cs : List Char) : Except String Int :=
  match strtoll cs with
  | none => .error "stoi"
  | some (n, _) => if inInt n then .ok n else .error "stoi"

/-- A hexadecimal number behind its `0x`, if it has one. -/
def dropHexMark : List Char → List Char
  | '0' :: x :: d :: rest => if x.toLower = 'x' ∧ isHexDigit d then d :: rest else '0' :: x :: d :: rest
  | cs => cs

/-- `strtol` in base sixteen. -/
def strtolHex (cs : List Char) : Option (Int × List Char) :=
  let (negative, body) := scanSign (cs.dropWhile isSpace)
  let digits := (dropHexMark body).takeWhile isHexDigit
  if digits = [] then none
  else some ((if negative then -1 else 1) * (hexValue digits : Int),
    (dropHexMark body).dropWhile isHexDigit)

/-- `std::stoi` on a hexadecimal text. -/
def stoiHex (cs : List Char) : Except String Int :=
  match strtolHex cs with
  | none => .error "stoi"
  | some (n, _) => if inInt n then .ok n else .error "stoi"

/-! ## Numerals -/

/-- A decimal number as it is written: a sign or none, digits, and a point with digits behind it
or none. -/
structure Numeral where
  /-- a minus, or a plus -/
  sign : Option Bool := none
  whole : List Char
  part : Option (List Char) := none
  isDigits : ∀ c ∈ whole ++ part.getD [], c.isDigit = true
  hasDigit : whole ++ part.getD [] ≠ []

namespace Numeral

def signText : Option Bool → List Char
  | none => []
  | some true => ['-']
  | some false => ['+']

def pointText : Option (List Char) → List Char
  | none => []
  | some ds => '.' :: ds

variable (n : Numeral)

/-- The numeral as it is written. -/
def text : List Char := signText n.sign ++ (n.whole ++ pointText n.part)

/-- Its value without the sign. -/
def magnitude : ℚ := (digitsValue (n.whole ++ n.part.getD []) : ℚ) / 10 ^ (n.part.getD []).length

/-- Its value. -/
def value : ℚ := if n.sign = some true then -n.magnitude else n.magnitude

/-- The value of one without a point. -/
def intValue : Int :=
  if n.sign = some true then -(digitsValue n.whole : Int) else digitsValue n.whole

end Numeral

/-- The characters of a numeral. -/
def plainChar (c : Char) : Bool := c.isDigit || c == '+' || c == '-' || c == '.'

/-- A plain character begins no word, exponent or hexadecimal number. -/
theorem plainChar_lower {c : Char} (h : plainChar c = true) :
    isSpace c = false ∧ c.toLower ≠ 'i' ∧ c.toLower ≠ 'n' ∧ c.toLower ≠ 'x' ∧ c.toLower ≠ 'e' := by
  simp only [plainChar, Bool.or_eq_true, beq_iff_eq] at h
  rcases h with ((hdigit | rfl) | rfl) | rfl
  · have hrange : 48 ≤ c.toNat ∧ c.toNat ≤ 57 := by
      simp only [Char.isDigit, Bool.and_eq_true, decide_eq_true_eq, UInt32.le_iff_toNat_le] at hdigit
      exact hdigit
    have hlower : c.toLower = c := by
      unfold Char.toLower
      rw [dif_neg]
      intro hupper
      have h65 : (65 : Nat) ≤ c.toNat := UInt32.le_iff_toNat_le.mp hupper.1
      omega
    rw [hlower]
    refine ⟨(digit_not_blank hdigit).1, ?_, ?_, ?_, ?_⟩
    all_goals
      rintro rfl
      exact absurd hdigit (by decide)
  all_goals decide

/-- A digit is plain. -/
theorem digit_plain {c : Char} (h : c.isDigit = true) : plainChar c = true := by
  simp [plainChar, h]

/-! ### Reading the digits -/

/-- The front part that satisfies `p`, and the rest. -/
theorem takeWhile_append_dropWhile_spec {α : Type} (p : α → Bool) (cs : List α) :
    cs = cs.takeWhile p ++ cs.dropWhile p ∧ ∀ c ∈ cs.takeWhile p, p c = true :=
  ⟨(List.takeWhile_append_dropWhile).symm, fun _ hc => List.mem_takeWhile_imp hc⟩

/-- What the scanner of digits has read. -/
theorem scanDigits_inv {digit : Char → Bool} {cs whole part rest : List Char}
    (h : scanDigits digit cs = some (whole, part, rest)) :
    (∀ c ∈ whole ++ part, digit c = true) ∧ whole ++ part ≠ [] ∧
      (cs = whole ++ rest ∧ part = [] ∨ cs = whole ++ '.' :: (part ++ rest)) := by
  obtain ⟨hcs, hwhole⟩ := takeWhile_append_dropWhile_spec digit cs
  unfold scanDigits at h
  dsimp only at h
  generalize cs.takeWhile digit = ds at h hcs hwhole
  generalize cs.dropWhile digit = left at h hcs
  subst hcs
  split at h
  · rename_i after
    obtain ⟨hafter, hpart⟩ := takeWhile_append_dropWhile_spec digit after
    split at h
    · cases h
    · rename_i hne
      simp only [Option.some.injEq, Prod.mk.injEq] at h
      obtain ⟨rfl, rfl, rfl⟩ := h
      refine ⟨fun c hc => (List.mem_append.mp hc).elim (hwhole c) (hpart c), fun h => hne ?_, Or.inr ?_⟩
      · exact List.append_eq_nil_iff.mp h
      · rw [← hafter]
  · split at h
    · cases h
    · rename_i hne
      simp only [Option.some.injEq, Prod.mk.injEq] at h
      obtain ⟨rfl, rfl, rfl⟩ := h
      exact ⟨by simpa using hwhole, by simpa using hne, Or.inl ⟨rfl, rfl⟩⟩

/-- Digits with a point between them are read to their end. -/
theorem scanDigits_point {whole : List Char} {part : Option (List Char)}
    (hdigits : ∀ c ∈ whole ++ part.getD [], c.isDigit = true) (hsome : whole ++ part.getD [] ≠ []) :
    scanDigits Char.isDigit (whole ++ Numeral.pointText part) = some (whole, part.getD [], []) := by
  have hwhole : ∀ c ∈ whole, c.isDigit = true := fun c hc => hdigits c (List.mem_append_left _ hc)
  cases part with
  | none =>
    obtain ⟨htake, hdrop⟩ := @takeWhile_digits _ [] hwhole nofun
    unfold scanDigits Numeral.pointText
    rw [htake, hdrop]
    dsimp only
    rw [if_neg (by simpa using hsome)]
    rfl
  | some ds =>
    obtain ⟨htake, hdrop⟩ := @takeWhile_digits _ ('.' :: ds) hwhole (by
      intro c hc
      cases hc
      decide)
    obtain ⟨htake', hdrop'⟩ := @takeWhile_digits _ []
      (fun c hc => hdigits c (List.mem_append_right _ hc)) nofun
    rw [Option.getD_some, List.append_nil] at htake' hdrop'
    unfold scanDigits Numeral.pointText
    rw [htake, hdrop]
    show (if whole = [] ∧ ds.takeWhile Char.isDigit = [] then none
      else some (whole, ds.takeWhile Char.isDigit, ds.dropWhile Char.isDigit)) = _
    rw [htake', hdrop', if_neg fun h => hsome (by simp [h.1, h.2])]
    rfl

/-! ### Reading a numeral -/

/-- The characters at which the other notations begin are not those of numerals. -/
theorem scanWord_plain {word : String} {w : Char} {cs : List Char} (hword : word.toList.head? = some w)
    (hw : ∀ c, plainChar c = true → c.toLower ≠ w) (hcs : ∀ c ∈ cs, plainChar c = true) :
    scanWord word cs = none := by
  unfold scanWord
  rw [if_neg]
  intro heq
  have hhead := congrArg List.head? heq
  rw [hword, List.head?_map, List.head?_take, Option.map_eq_some_iff] at hhead
  obtain ⟨c, hc, hlower⟩ := hhead
  split at hc
  · cases hc
  · exact hw c (hcs c (List.mem_of_mem_head? hc)) hlower

/-- Plain characters have no exponent. -/
theorem scanExponent_plain {mark : Char} {cs : List Char}
    (hmark : ∀ c, plainChar c = true → c.toLower ≠ mark)
    (hcs : ∀ c ∈ cs, plainChar c = true) : scanExponent mark cs = (0, cs) := by
  cases cs with
  | nil => rfl
  | cons c cs =>
    unfold scanExponent
    dsimp only
    rw [if_neg fun h => hmark c (hcs c List.mem_cons_self) h.1]

/-- On plain characters the scanner reads digits and a point. -/
theorem scanUnsigned_plain {cs : List Char} (hcs : ∀ c ∈ cs, plainChar c = true) :
    scanUnsigned cs = (scanDigits Char.isDigit cs).map fun (whole, part, rest) =>
      (.num ((digitsValue (whole ++ part) : ℚ) / 10 ^ part.length), rest) := by
  have hinf : scanWord "infinity" cs = none :=
    scanWord_plain (w := 'i') rfl (fun c hc => (plainChar_lower hc).2.1) hcs
  have hinf' : scanWord "inf" cs = none :=
    scanWord_plain (w := 'i') rfl (fun c hc => (plainChar_lower hc).2.1) hcs
  have hnan : scanNan cs = none := by
    unfold scanNan
    rw [scanWord_plain (w := 'n') rfl (fun c hc => (plainChar_lower hc).2.2.1) hcs]
    rfl
  have hhex : scanHex cs = none := by
    unfold scanHex
    split
    · rename_i x cs'
      rw [if_neg]
      exact (plainChar_lower (hcs x (by simp))).2.2.2.1
    · rfl
  have hdec : scanDec cs = (scanDigits Char.isDigit cs).map fun (whole, part, rest) =>
      ((digitsValue (whole ++ part) : ℚ) / 10 ^ part.length, rest) := by
    unfold scanDec
    cases hscan : scanDigits Char.isDigit cs with
    | none => rfl
    | some x =>
      obtain ⟨whole, part, rest⟩ := x
      have hrest : ∀ c ∈ rest, plainChar c = true := by
        intro c hc
        obtain ⟨-, -, ⟨rfl, -⟩ | rfl⟩ := scanDigits_inv hscan
        · exact hcs c (by simp [hc])
        · exact hcs c (by simp [hc])
      simp only [Option.map_some]
      rw [scanExponent_plain (fun c hc => (plainChar_lower hc).2.2.2.2) hrest]
      simp
  unfold scanUnsigned
  rw [hinf, hinf', hnan, hhex, hdec]
  cases scanDigits Char.isDigit cs with
  | none => rfl
  | some x => rfl

/-- A numeral is written in plain characters. -/
theorem Numeral.text_plain (n : Numeral) : ∀ c ∈ n.text, plainChar c = true := by
  have hdigits : ∀ c ∈ n.whole ++ n.part.getD [], plainChar c = true :=
    fun c hc => digit_plain (n.isDigits c hc)
  intro c hc
  rcases List.mem_append.mp hc with hsign | hbody
  · match hs : n.sign with
    | none => rw [hs] at hsign; cases hsign
    | some true => rw [hs] at hsign; cases List.mem_singleton.mp hsign; decide
    | some false => rw [hs] at hsign; cases List.mem_singleton.mp hsign; decide
  · rcases List.mem_append.mp hbody with hwhole | hpoint
    · exact hdigits c (List.mem_append_left _ hwhole)
    · match hp : n.part with
      | none => rw [hp] at hpoint; cases hpoint
      | some ds =>
        rw [hp] at hpoint hdigits
        rcases List.mem_cons.mp hpoint with rfl | hmem
        · decide
        · exact hdigits c (List.mem_append_right _ hmem)

/-- The sign written is the sign read. -/
theorem scanSign_signText {sign : Option Bool} {body : List Char}
    (hbody : ∀ c ∈ body.head?, c ≠ '-' ∧ c ≠ '+') :
    scanSign (Numeral.signText sign ++ body) = (decide (sign = some true), body) := by
  match sign with
  | some true => rfl
  | some false => rfl
  | none =>
    cases body with
    | nil => rfl
    | cons c cs =>
      obtain ⟨hminus, hplus⟩ := hbody c rfl
      show scanSign (c :: cs) = _
      unfold scanSign
      split
      · exact absurd (List.cons.inj ‹_›).1 hminus
      · exact absurd (List.cons.inj ‹_›).1 hplus
      · rfl

/-- The sign read is the one written. -/
theorem scanSign_inv (cs : List Char) :
    ∃ sign, cs = Numeral.signText sign ++ (scanSign cs).2 ∧
        (scanSign cs).1 = decide (sign = some true) := by
  unfold scanSign
  split
  · exact ⟨some true, rfl, rfl⟩
  · exact ⟨some false, rfl, rfl⟩
  · exact ⟨none, rfl, rfl⟩

/-- Behind the sign of a numeral stands no second one. -/
theorem Numeral.body_head (n : Numeral) :
    ∀ c ∈ (n.whole ++ pointText n.part).head?, c ≠ '-' ∧ c ≠ '+' := by
  intro c hc
  cases hwhole : n.whole with
  | cons d ds =>
    rw [hwhole] at hc
    cases hc
    exact (digit_not_blank (n.isDigits c (by simp [hwhole]))).2
  | nil =>
    cases hpart : n.part with
    | none => exact absurd (by simp [hwhole, hpart]) n.hasDigit
    | some ds =>
      rw [hwhole, hpart] at hc
      cases hc
      decide

/-- Plain characters are no blanks. -/
theorem dropBlanks_plain {cs : List Char} (hcs : ∀ c ∈ cs, plainChar c = true) :
    cs.dropWhile isSpace = cs := by
  cases cs with
  | nil => rfl
  | cons c cs =>
    rw [List.dropWhile_cons, if_neg]
    rw [(plainChar_lower (hcs c List.mem_cons_self)).1]
    exact Bool.false_ne_true

/-- A numeral is read whole. -/
theorem strtod_numeral (n : Numeral) : strtod n.text = some (.num n.value, []) := by
  have hbody : ∀ c ∈ n.whole ++ Numeral.pointText n.part, plainChar c = true :=
    fun c hc => n.text_plain c (List.mem_append_right _ hc)
  have hsign : scanSign n.text = (decide (n.sign = some true), n.whole ++ Numeral.pointText n.part) :=
    scanSign_signText n.body_head
  unfold strtod
  rw [dropBlanks_plain n.text_plain, hsign]
  dsimp only
  rw [scanUnsigned_plain hbody, scanDigits_point n.isDigits n.hasDigit]
  unfold Numeral.value Numeral.magnitude
  by_cases hneg : n.sign = some true
  · simp [hneg, Double.neg]
  · simp [hneg]

/-- What is read whole and has only the characters of numerals is a numeral. -/
theorem strtod_plain {cs : List Char} {v : Double} (hcs : ∀ c ∈ cs, plainChar c = true)
    (h : strtod cs = some (v, [])) : ∃ n : Numeral, n.text = cs ∧ v = .num n.value := by
  unfold strtod at h
  rw [dropBlanks_plain hcs] at h
  obtain ⟨sign, htext, hneg⟩ := scanSign_inv cs
  generalize scanSign cs = scanned at h htext hneg
  obtain ⟨negative, body⟩ := scanned
  dsimp only at h htext hneg
  subst hneg
  have hbody : ∀ c ∈ body, plainChar c = true := fun c hc => hcs c (htext ▸ List.mem_append_right _ hc)
  rw [scanUnsigned_plain hbody, Option.map_map] at h
  obtain ⟨⟨whole, part, rest⟩, hscan, hv⟩ := Option.map_eq_some_iff.mp h
  obtain ⟨hdigits, hsome, hsplit⟩ := scanDigits_inv hscan
  obtain ⟨hvalue, rfl⟩ := Prod.mk.inj hv
  rcases hsplit with ⟨rfl, rfl⟩ | rfl
  · refine ⟨⟨sign, whole, none, by simpa using hdigits, by simpa using hsome⟩, ?_, ?_⟩
    · rw [htext]
      simp [Numeral.text, Numeral.pointText]
    · rw [← hvalue]
      unfold Numeral.value Numeral.magnitude
      by_cases hneg : sign = some true
      · simp [hneg, Double.neg]
      · simp [hneg]
  · refine ⟨⟨sign, whole, some part, hdigits, hsome⟩, ?_, ?_⟩
    · rw [htext]
      simp [Numeral.text, Numeral.pointText]
    · rw [← hvalue]
      unfold Numeral.value Numeral.magnitude
      by_cases hneg : sign = some true
      · simp [hneg, Double.neg]
      · simp [hneg]

/-- The characters of a numeral without a point. -/
def IntegerText (cs : List Char) (v : Int) : Prop :=
  ∃ n : Numeral, n.part = none ∧ n.text = cs ∧ v = n.intValue

/-- `strtoll` without its range: blanks, a sign and digits. -/
theorem scanInt_eq (cs : List Char) : scanInt cs =
    let (negative, body) := scanSign (cs.dropWhile isSpace)
    if body.takeWhile Char.isDigit = [] then none
    else some ((if negative then -1 else 1) * (digitsValue (body.takeWhile Char.isDigit) : Int),
      body.dropWhile Char.isDigit) := by
  unfold scanInt
  generalize cs.dropWhile isSpace = body
  dsimp only
  split
  · rfl
  · rfl
  · rename_i hminus hplus
    have hsign : scanSign body = (false, body) := by
      unfold scanSign
      split
      · exact (hminus _ rfl).elim
      · exact (hplus _ rfl).elim
      · rfl
    rw [hsign]
    rfl

/-- An integer numeral is read to its end. -/
theorem strtoll_numeral {n : Numeral} (hn : n.part = none) :
    strtoll n.text = some (n.intValue, []) := by
  have hwhole : ∀ c ∈ n.whole, c.isDigit = true := fun c hc => n.isDigits c (by simp [hc])
  have hne : n.whole ≠ [] := by simpa [hn] using n.hasDigit
  obtain ⟨htake, hdrop⟩ := @takeWhile_digits _ [] hwhole nofun
  rw [List.append_nil] at htake hdrop
  have htext : n.text = Numeral.signText n.sign ++ n.whole := by
    simp [Numeral.text, hn, Numeral.pointText]
  have hhead : ∀ c ∈ n.whole.head?, c ≠ '-' ∧ c ≠ '+' := fun c hc =>
    (digit_not_blank (hwhole c (List.mem_of_mem_head? hc))).2
  unfold strtoll
  rw [scanInt_eq, dropBlanks_plain n.text_plain, htext, scanSign_signText hhead]
  dsimp only
  rw [htake, hdrop, if_neg hne]
  unfold Numeral.intValue
  by_cases hneg : n.sign = some true
  · simp [hneg]
  · simp [hneg]

/-- What is read whole is a numeral without a point, behind blanks perhaps. -/
theorem strtoll_whole {cs : List Char} {v : Int} (hblank : ∀ c ∈ cs.head?, isSpace c = false)
    (h : strtoll cs = some (v, [])) : IntegerText cs v := by
  have hdrop : cs.dropWhile isSpace = cs := by
    cases cs with
    | nil => rfl
    | cons c cs => rw [List.dropWhile_cons, if_neg (by simp [hblank c rfl])]
  unfold strtoll at h
  rw [scanInt_eq, hdrop] at h
  obtain ⟨sign, htext, hneg⟩ := scanSign_inv cs
  generalize scanSign cs = scanned at h htext hneg
  obtain ⟨negative, body⟩ := scanned
  dsimp only at h htext hneg
  subst hneg
  obtain ⟨hbody, hdigits⟩ := takeWhile_append_dropWhile_spec Char.isDigit body
  split at h
  · cases h
  · rename_i hne
    obtain ⟨hv, hrest⟩ := Prod.mk.inj (Option.some.inj h)
    rw [hrest, List.append_nil] at hbody
    rw [← hbody] at hv hne hdigits
    refine ⟨⟨sign, body, none, by simpa using hdigits, by simpa using hne⟩, rfl, ?_, ?_⟩
    · rw [htext]
      simp [Numeral.text, Numeral.pointText]
    · rw [← hv]
      unfold Numeral.intValue
      by_cases hneg : sign = some true
      · simp [hneg]
      · simp [hneg]

/-! ## Columns -/

/-- A number of `whole` places before the point and `part` behind it, given in units of the last. -/
def pointColumn (whole part n : Nat) : List Char :=
  fixedDigits whole (n / 10 ^ part) ++ '.' :: fixedDigits part (n % 10 ^ part)

/-- The numeral in such a column. -/
def pointNumeral (sign : Option Bool) (whole part n : Nat) (h : 0 < whole) : Numeral where
  sign := sign
  whole := fixedDigits whole (n / 10 ^ part)
  part := some (fixedDigits part (n % 10 ^ part))
  isDigits c hc := (List.mem_append.mp hc).elim (fixedDigits_isDigit _ _ c) (fixedDigits_isDigit _ _ c)
  hasDigit hnil := by
    have hlength := congrArg List.length (List.append_eq_nil_iff.mp hnil).1
    rw [fixedDigits_length] at hlength
    exact absurd hlength h.ne'

/-- The numeral in a column of digits. -/
def digitsNumeral (whole n : Nat) (h : 0 < whole) : Numeral where
  whole := fixedDigits whole n
  isDigits c hc := fixedDigits_isDigit whole n c (by simpa using hc)
  hasDigit hnil := by
    have hlength := congrArg List.length (List.append_eq_nil_iff.mp hnil).1
    rw [fixedDigits_length] at hlength
    exact absurd hlength h.ne'

/-- The value of digits put together. -/
theorem digitsValue_append (ds es : List Char) :
    digitsValue (ds ++ es) = digitsValue ds * 10 ^ es.length + digitsValue es := by
  induction es using List.reverseRecOn with
  | nil => simp [digitsValue]
  | append_singleton es c ih =>
    rw [← List.append_assoc, digitsValue_concat, digitsValue_concat, ih, List.length_append,
      List.length_singleton, Nat.pow_succ]
    ring

/-- The value of a numeral with a point. -/
theorem pointNumeral_value {sign : Option Bool} {whole part n : Nat} (h : 0 < whole)
    (hn : n < 10 ^ (whole + part)) :
    (pointNumeral sign whole part n h).value =
        (if sign = some true then -1 else 1) * (n / 10 ^ part) := by
  have hdigits : digitsValue
      (fixedDigits whole (n / 10 ^ part) ++ fixedDigits part (n % 10 ^ part)) = n := by
    have hquot : n / 10 ^ part < 10 ^ whole := by
      rw [Nat.div_lt_iff_lt_mul (by positivity), ← Nat.pow_add]
      exact hn
    rw [digitsValue_append, digitsValue_fixedDigits, digitsValue_fixedDigits, fixedDigits_length,
      Nat.mod_eq_of_lt hquot, Nat.mod_mod, Nat.div_add_mod']
  unfold Numeral.value Numeral.magnitude pointNumeral
  dsimp only [Option.getD_some]
  rw [hdigits, fixedDigits_length]
  split
  · ring
  · ring

/-- Digits alone are written in their width. -/
theorem digitsNumeral_text (whole n : Nat) (h : 0 < whole) :
    (digitsNumeral whole n h).text = fixedDigits whole n := List.append_nil _

/-- Digits alone have the value of the number. -/
theorem digitsNumeral_value {whole n : Nat} (h : 0 < whole) (hn : n < 10 ^ whole) :
    (digitsNumeral whole n h).intValue = n := by
  unfold Numeral.intValue digitsNumeral
  dsimp only
  rw [digitsValue_fixedDigits, Nat.mod_eq_of_lt hn]
  rfl

/-- Numbers of ordinary size do not overflow. -/
theorem inDouble_of {q : ℚ} (hbound : |q| ≤ 10 ^ 12) (hsmall : q = 0 ∨ 1 / 10 ^ 12 ≤ |q|) :
    inDouble q = true := by
  have hlarge : (10 : ℚ) ^ 12 < 2 ^ 1024 - 2 ^ 970 := by
    have hsplit : (2 : ℚ) ^ 1024 = 2 ^ 54 * 2 ^ 970 := by rw [← pow_add]
    have hone : (1 : ℚ) ≤ 2 ^ 970 := one_le_pow₀ (by norm_num)
    rw [hsplit]
    generalize (2 : ℚ) ^ 970 = x at hone ⊢
    linarith
  have htiny : (1 : ℚ) / 2 ^ 1022 ≤ 1 / 10 ^ 12 := by
    have hpow : (2 : ℚ) ^ 40 ≤ 2 ^ 1022 := pow_le_pow_right₀ (by norm_num) (by decide)
    refine one_div_le_one_div_of_le (by norm_num) (le_trans ?_ hpow)
    norm_num
  unfold inDouble
  simp only [Bool.and_eq_true, Bool.or_eq_true, decide_eq_true_eq]
  refine ⟨lt_of_le_of_lt hbound hlarge, Or.inl ?_⟩
  rcases hsmall with h | h
  · exact Or.inl h
  · exact Or.inr (htiny.trans h)

/-! ## Printing -/

/-- `printf` with zero padding to a width and a number of decimals, a positive number taking a
blank for its sign or none. -/
def printfFixed (blank : Bool) (width decimals : Nat) (q : ℚ) : List Char :=
  let scaled := (roundHalfEven (|q| * 10 ^ decimals)).toNat
  let sign := if q < 0 then ['-'] else if blank then [' '] else []
  let digits := Nat.toDigits 10 (scaled / 10 ^ decimals)
  let point := if decimals = 0 then [] else '.' :: fixedDigits decimals (scaled % 10 ^ decimals)
  sign ++ (List.replicate (width - (sign ++ digits ++ point).length) '0' ++ digits) ++ point

/-- The same of a `double`; what is no number gets blanks in front. -/
def printfDouble (blank : Bool) (width decimals : Nat) : Double → List Char
  | .num q => printfFixed blank width decimals q
  | .inf negative =>
    (if negative then "-inf" else if blank then " inf" else "inf").toList.leftpad width ' '
  | .nan => (if blank then " nan" else "nan").toList.leftpad width ' '

/-- The digits of a number have its value. -/
theorem digitsValue_toDigits (n : Nat) : digitsValue (Nat.toDigits 10 n) = n :=
  Nat.ofDigitChars_ten_toDigits

/-- The digits of a number, without a sign. -/
def decimalNumeral (n : Nat) : Numeral where
  whole := Nat.toDigits 10 n
  isDigits := by
    intro c hc
    rw [Option.getD_none, List.append_nil] at hc
    exact Nat.isDigit_of_mem_toDigits (b := 10) (by decide) (by decide) hc
  hasDigit := by
    rw [Option.getD_none, List.append_nil]
    exact Nat.toDigits_ne_nil

/-- `stoi` reads what `to_string` writes. -/
theorem stoi_toDigits {n : Nat} (h : n < 2 ^ 31) : stoi (Nat.toDigits 10 n) = .ok n := by
  have hread := @strtoll_numeral (decimalNumeral n) rfl
  have htext : (decimalNumeral n).text = Nat.toDigits 10 n := List.append_nil _
  have hvalue : (decimalNumeral n).intValue = n := congrArg Nat.cast (digitsValue_toDigits n)
  rw [htext, hvalue] at hread
  have hint : inInt n = true := by
    unfold inInt
    rw [decide_eq_true_eq]
    omega
  unfold stoi
  rw [hread]
  exact if_pos hint

/-- Zeros have the value zero. -/
theorem digitsValue_zeros (k : Nat) : digitsValue (List.replicate k '0') = 0 := by
  induction k with
  | zero => rfl
  | succ k ih =>
    rw [List.replicate_succ', digitsValue_concat, ih]
    rfl

/-- The column of the sign. -/
def signPlaces (blank : Bool) (q : ℚ) : Nat := if q < 0 ∨ blank = true then 1 else 0

/-- The width is kept by the numbers whose whole part fits the places left for it. -/
theorem printfFixed_length {blank : Bool} {width places decimals : Nat} {q : ℚ}
    (hwidth : signPlaces blank q + places + 1 + decimals = width) (hplaces : 0 < places)
    (hdecimals : decimals ≠ 0) :
    (printfFixed blank width decimals q).length = width ↔ |toDecimals decimals q| < 10 ^ places := by
  have hnonneg : 0 ≤ roundHalfEven (|q| * 10 ^ decimals) := roundHalfEven_nonneg (by positivity)
  have habs : |toDecimals decimals q| = toDecimals decimals |q| := by
    have hpos : 0 ≤ toDecimals decimals |q| := div_nonneg (by exact_mod_cast hnonneg) (by positivity)
    rcases abs_cases q with ⟨h, -⟩ | ⟨h, -⟩
    · rw [h] at hpos ⊢
      exact abs_of_nonneg hpos
    · rw [h, toDecimals_neg] at hpos ⊢
      rw [abs_of_nonpos (by linarith)]
  have hsign : (if q < 0 then ['-'] else if blank then [' '] else []).length = signPlaces blank q := by
    unfold signPlaces
    by_cases hneg : q < 0
    · simp [hneg]
    · cases blank <;> simp [hneg]
  rw [habs]
  unfold printfFixed toDecimals
  dsimp only
  rw [if_neg hdecimals]
  obtain ⟨scaled, hscaled⟩ := Int.eq_ofNat_of_zero_le hnonneg
  rw [hscaled, Int.toNat_natCast, Int.cast_natCast, div_lt_iff₀ (by positivity), ← pow_add]
  generalize (if q < 0 then ['-'] else if blank = true then [' '] else []) = sign at hsign ⊢
  simp only [List.length_append, List.length_replicate, List.length_cons, fixedDigits_length, hsign]
  have hdigits : (Nat.toDigits 10 (scaled / 10 ^ decimals)).length ≤ places ↔
      scaled < 10 ^ (places + decimals) := by
    rw [Nat.length_toDigits_le_iff (by decide) hplaces, Nat.div_lt_iff_lt_mul (by positivity),
        ← Nat.pow_add]
  have hcast : (scaled : ℚ) < 10 ^ (places + decimals) ↔ scaled < 10 ^ (places + decimals) := by
    exact_mod_cast Iff.rfl
  rw [hcast, ← hdigits]
  omega

/-- Behind its padding a number has the length it has without any. -/
theorem printfFixed_length_max (blank : Bool) (width decimals : Nat) (q : ℚ) :
    (printfFixed blank width decimals q).length =
        max width (printfFixed blank 0 decimals q).length := by
  unfold printfFixed
  dsimp only
  generalize (if q < 0 then ['-'] else if blank = true then [' '] else []) = sign
  generalize (if decimals = 0 then [] else '.' :: fixedDigits decimals _) = point
  simp only [List.length_append, List.length_replicate]
  omega

/-- Zeros, whole digits and decimals together have the scaled value. -/
theorem digitsValue_fixed (k decimals scaled : Nat) :
    digitsValue ((List.replicate k '0' ++ Nat.toDigits 10 (scaled / 10 ^ decimals)) ++
      fixedDigits decimals (scaled % 10 ^ decimals)) = scaled := by
  rw [digitsValue_append, digitsValue_append, digitsValue_zeros, digitsValue_toDigits,
    digitsValue_fixedDigits, fixedDigits_length, Nat.zero_mul, Nat.zero_add, Nat.mod_mod]
  exact Nat.div_add_mod' scaled (10 ^ decimals)

/-- A printed number is a numeral, behind a blank perhaps. -/
theorem printfFixed_numeral {blank : Bool} {width decimals : Nat} {q : ℚ} (hdecimals : decimals ≠ 0) :
    ∃ n : Numeral, printfFixed blank width decimals q
        = (if 0 ≤ q ∧ blank = true then [' '] else []) ++ n.text ∧
      n.value = toDecimals decimals q := by
  -- the digits are those of the number scaled by its decimals
  have hscaled : (((roundHalfEven (|q| * 10 ^ decimals)).toNat : ℕ) : ℚ) / 10 ^ decimals
      = toDecimals decimals |q| := by
    have hnonneg : 0 ≤ roundHalfEven (|q| * 10 ^ decimals) := roundHalfEven_nonneg (by positivity)
    unfold toDecimals
    rw [← Int.cast_natCast, Int.toNat_of_nonneg hnonneg]
  unfold printfFixed
  dsimp only
  rw [if_neg hdecimals]
  generalize (roundHalfEven (|q| * 10 ^ decimals)).toNat = scaled at hscaled ⊢
  generalize width - _ = k
  have hdigits : ∀ c ∈ (List.replicate k '0' ++ Nat.toDigits 10 (scaled / 10 ^ decimals)) ++
      fixedDigits decimals (scaled % 10 ^ decimals), c.isDigit = true := by
    intro c hc
    rcases List.mem_append.mp hc with hc | hc
    · rcases List.mem_append.mp hc with hc | hc
      · rw [(List.mem_replicate.mp hc).2]
        decide
      · exact Nat.isDigit_of_mem_toDigits (by decide) (by decide) hc
    · exact fixedDigits_isDigit _ _ c hc
  have hsome : (List.replicate k '0' ++ Nat.toDigits 10 (scaled / 10 ^ decimals)) ++
      fixedDigits decimals (scaled % 10 ^ decimals) ≠ [] := by
    simp
  have hmagnitude : (digitsValue ((List.replicate k '0' ++ Nat.toDigits 10 (scaled / 10 ^ decimals)) ++
      fixedDigits decimals (scaled % 10 ^ decimals)) : ℚ)
        / 10 ^ (fixedDigits decimals (scaled % 10 ^ decimals)).length = toDecimals decimals |q| := by
    rw [digitsValue_fixed, fixedDigits_length, hscaled]
  -- the sign is written for negative numbers only
  by_cases hneg : q < 0
  · refine ⟨⟨some true, _, some _, hdigits, hsome⟩, ?_, ?_⟩
    · rw [if_pos hneg, if_neg (by simp [not_le.mpr hneg])]
      simp [Numeral.text, Numeral.signText, Numeral.pointText]
    · unfold Numeral.value Numeral.magnitude
      rw [if_pos rfl]
      dsimp only [Option.getD_some]
      rw [hmagnitude, abs_of_neg hneg, toDecimals_neg, neg_neg]
  · have hpos : 0 ≤ q := not_lt.mp hneg
    refine ⟨⟨none, _, some _, hdigits, hsome⟩, ?_, ?_⟩
    · rw [if_neg hneg]
      simp [Numeral.text, Numeral.signText, Numeral.pointText, hpos]
    · unfold Numeral.value Numeral.magnitude
      rw [if_neg nofun]
      dsimp only [Option.getD_some]
      rw [hmagnitude, abs_of_nonneg hpos]

/-! ## Two hexadecimal digits -/

/-- A hexadecimal digit is below 16. -/
theorem hexDigit_lt {c : Char} (h : isHexDigit c = true) : hexDigit c < 16 := by
  unfold isHexDigit at h
  unfold hexDigit
  by_cases hdigit : c.isDigit = true
  · have hle : c.toNat ≤ 57 := (Bool.and_eq_true_iff.mp hdigit).2 |> of_decide_eq_true
    rw [if_pos hdigit]
    omega
  · rw [Bool.eq_false_iff.mpr hdigit, Bool.false_or, Bool.and_eq_true] at h
    have hle : c.toLower.toNat ≤ 102 := of_decide_eq_true h.2
    rw [if_neg hdigit]
    omega

/-- It is no blank and no sign. -/
theorem hexDigit_not_blank {c : Char} (h : isHexDigit c = true) :
    isSpace c = false ∧ c ≠ '-' ∧ c ≠ '+' := by
  have hne : ∀ d : Char, isHexDigit d = false → c ≠ d := by
    intro d hd heq
    rw [heq, hd] at h
    cases h
  refine ⟨?_, hne '-' (by decide), hne '+' (by decide)⟩
  simp only [isSpace, decide_eq_false_iff_not, not_or]
  exact ⟨hne _ (by decide), hne _ (by decide), hne _ (by decide), hne _ (by decide),
    hne _ (by decide), hne _ (by decide)⟩

/-- Two characters of which the first is a digit, or a blank or a sign in front of one. -/
def HexPair (a b : Char) : Prop :=
  isHexDigit a = true ∨ ((isSpace a = true ∨ a = '-' ∨ a = '+') ∧ isHexDigit b = true)

instance (a b : Char) : Decidable (HexPair a b) := by unfold HexPair; infer_instance

/-- Two characters are no mark with a digit behind it. -/
theorem dropHexMark_short {cs : List Char} (h : cs.length ≤ 2) : dropHexMark cs = cs := by
  unfold dropHexMark
  split
  · simp only [List.length_cons] at h
    omega
  · rfl

/-- At most two characters behind blanks and a sign: they are a number if a digit comes first. -/
theorem stoiHex_short {cs body : List Char} {negative : Bool}
    (hsign : scanSign (cs.dropWhile isSpace) = (negative, body)) (hshort : body.length ≤ 2) :
    (∃ n, stoiHex cs = .ok n) ↔ body.takeWhile isHexDigit ≠ [] := by
  have hscan : strtolHex cs = if body.takeWhile isHexDigit = [] then none
      else some ((if negative then -1 else 1) * (hexValue (body.takeWhile isHexDigit) : Int),
        body.dropWhile isHexDigit) := by
    unfold strtolHex
    rw [hsign]
    dsimp only
    rw [dropHexMark_short hshort]
  -- at most two digits
  have hvalue : hexValue (body.takeWhile isHexDigit) < 256 := by
    have hdigits : ∀ c ∈ body.takeWhile isHexDigit, hexDigit c < 16 := fun c hc =>
      hexDigit_lt (List.mem_takeWhile_imp hc)
    have hlength := (List.takeWhile_prefix isHexDigit (l := body)).length_le
    generalize body.takeWhile isHexDigit = ds at hdigits hlength ⊢
    match ds, hdigits, hlength with
    | [], _, _ => decide
    | [x], hdigits, _ =>
      have hx := hdigits x (by simp)
      show 16 * 0 + hexDigit x < 256
      omega
    | [x, y], hdigits, _ =>
      have hx := hdigits x (by simp)
      have hy := hdigits y (by simp)
      show 16 * (16 * 0 + hexDigit x) + hexDigit y < 256
      omega
    | _ :: _ :: _ :: _, _, hlength =>
      simp only [List.length_cons] at hlength
      omega
  unfold stoiHex
  rw [hscan]
  by_cases hnone : body.takeWhile isHexDigit = []
  · rw [if_pos hnone]
    exact iff_of_false (fun ⟨n, hn⟩ => by cases hn) (not_not.mpr hnone)
  · rw [if_neg hnone]
    refine iff_of_true ⟨_, if_pos ?_⟩ hnone
    unfold inInt
    rw [decide_eq_true_eq]
    cases negative with
    | true =>
      rw [if_pos rfl]
      omega
    | false =>
      rw [if_neg Bool.false_ne_true]
      omega

/-- The front part is not empty when the first character belongs to it. -/
theorem takeWhile_ne_nil {p : Char → Bool} {c : Char} {cs : List Char} :
    (c :: cs).takeWhile p ≠ [] ↔ p c = true := by
  by_cases h : p c = true
  · rw [List.takeWhile_cons_of_pos h]
    exact iff_of_true (List.cons_ne_nil _ _) h
  · rw [List.takeWhile_cons_of_neg h]
    exact iff_of_false (fun hne => hne rfl) h

/-- A character that is no sign is none. -/
theorem scanSign_other {c : Char} (hminus : c ≠ '-') (hplus : c ≠ '+') (cs : List Char) :
    scanSign (c :: cs) = (false, c :: cs) := by
  unfold scanSign
  split
  next h => exact absurd (List.cons.inj h).1 hminus
  next h => exact absurd (List.cons.inj h).1 hplus
  next => rfl

/-- `std::stoi` to base 16 accepts exactly these pairs of characters. -/
theorem stoiHex_pair {a b : Char} : (∃ n, stoiHex [a, b] = .ok n) ↔ HexPair a b := by
  have hdigit : isHexDigit a = true → isSpace a = false ∧ a ≠ '-' ∧ a ≠ '+' := hexDigit_not_blank
  -- the first character is a blank, a sign or neither
  unfold HexPair
  by_cases hblank : isSpace a = true
  · -- what counts is the second character
    have hnot : isHexDigit a ≠ true := fun h => by
      rw [(hdigit h).1] at hblank
      cases hblank
    rw [or_iff_right hnot, and_iff_right (Or.inl hblank)]
    by_cases hblank' : isSpace b = true
    · have hdrop : scanSign ([a, b].dropWhile isSpace) = (false, []) := by
        rw [List.dropWhile_cons_of_pos hblank, List.dropWhile_cons_of_pos hblank']
        rfl
      refine (stoiHex_short hdrop (Nat.zero_le 2)).trans (iff_of_false (fun h => h rfl) fun h => ?_)
      rw [(hexDigit_not_blank h).1] at hblank'
      cases hblank'
    · have hdrop : [a, b].dropWhile isSpace = [b] := by
        rw [List.dropWhile_cons_of_pos hblank, List.dropWhile_cons_of_neg hblank']
      by_cases hsign : b = '-' ∨ b = '+'
      -- a blank and a sign leave no digit
      · obtain ⟨negative, hscan⟩ : ∃ negative,
            scanSign ([a, b].dropWhile isSpace) = (negative, []) := by
          rw [hdrop]
          rcases hsign with rfl | rfl
          · exact ⟨_, rfl⟩
          · exact ⟨_, rfl⟩
        refine (stoiHex_short hscan (Nat.zero_le 2)).trans (iff_of_false (fun h => h rfl) fun h => ?_)
        rcases hsign with hb | hb
        · exact (hexDigit_not_blank h).2.1 hb
        · exact (hexDigit_not_blank h).2.2 hb
      · rw [not_or] at hsign
        have hscan := scanSign_other hsign.1 hsign.2 []
        rw [← hdrop] at hscan
        exact (stoiHex_short hscan (by simp [hdrop])).trans (by rw [hdrop]; exact takeWhile_ne_nil)
  · have hdrop : [a, b].dropWhile isSpace = [a, b] := List.dropWhile_cons_of_neg hblank
    by_cases hsign : a = '-' ∨ a = '+'
    · obtain ⟨negative, hscan⟩ : ∃ negative, scanSign ([a, b].dropWhile isSpace) = (negative, [b]) := by
        rw [hdrop]
        rcases hsign with rfl | rfl
        · exact ⟨_, rfl⟩
        · exact ⟨_, rfl⟩
      have hnot : isHexDigit a ≠ true := fun h => by
        rcases hsign with ha | ha
        · exact (hdigit h).2.1 ha
        · exact (hdigit h).2.2 ha
      rw [or_iff_right hnot, and_iff_right (Or.inr hsign)]
      exact (stoiHex_short hscan (by simp)).trans takeWhile_ne_nil
    · have hnot : ¬(isSpace a = true ∨ a = '-' ∨ a = '+') := not_or.mpr ⟨hblank, hsign⟩
      rw [or_iff_left fun h => hnot h.1]
      rw [not_or] at hsign
      have hscan := scanSign_other hsign.1 hsign.2 [b]
      rw [← hdrop] at hscan
      exact (stoiHex_short hscan (by simp [hdrop])).trans (by rw [hdrop]; exact takeWhile_ne_nil)

/-- Sixteen characters that write the hexadecimal digits. -/
def HexAlphabet (digit : Nat → Char) : Prop :=
  ∀ n < 16, isHexDigit (digit n) = true ∧ hexDigit (digit n) = n

/-- Two digits are read as their number. -/
theorem stoiHex_digits {a b : Char} (ha : isHexDigit a = true) (hb : isHexDigit b = true) :
    stoiHex [a, b] = .ok (16 * hexDigit a + hexDigit b : Nat) := by
  have hlt := hexDigit_lt ha
  have hlt' := hexDigit_lt hb
  obtain ⟨hblank, hminus, hplus⟩ := hexDigit_not_blank ha
  have hdrop : [a, b].dropWhile isSpace = [a, b] :=
    List.dropWhile_cons_of_neg (by rw [hblank]; exact Bool.false_ne_true)
  have hdigits : [a, b].takeWhile isHexDigit = [a, b] := by
    rw [List.takeWhile_cons_of_pos ha, List.takeWhile_cons_of_pos hb, List.takeWhile_nil]
  have hvalue : hexValue [a, b] = 16 * hexDigit a + hexDigit b := by
    show 16 * (16 * 0 + hexDigit a) + hexDigit b = _
    omega
  have hscan : strtolHex [a, b] =
      some (((16 * hexDigit a + hexDigit b : Nat) : Int), [a, b].dropWhile isHexDigit) := by
    unfold strtolHex
    rw [hdrop, scanSign_other hminus hplus]
    dsimp only
    rw [dropHexMark_short le_rfl, hdigits, if_neg (List.cons_ne_nil a [b]), if_neg Bool.false_ne_true,
      one_mul, hvalue]
  unfold stoiHex
  rw [hscan]
  refine if_pos ?_
  unfold inInt
  rw [decide_eq_true_eq]
  omega

/-- A byte in two digits of an alphabet is read back. -/
theorem HexAlphabet.stoiHex_byte {digit : Nat → Char} (h : HexAlphabet digit) {n : Nat} (hn : n < 256) :
    stoiHex [digit (n / 16), digit (n % 16)] = .ok n := by
  obtain ⟨hhigh, hvalue⟩ := h (n / 16) (by omega)
  obtain ⟨hlow, hvalue'⟩ := h (n % 16) (by omega)
  rw [stoiHex_digits hhigh hlow, hvalue, hvalue', Nat.div_add_mod]

end NumberText
