import Mathlib
import NightWatcher.Lib.NumberText
import NightWatcher.Lib.SqlText

/-!
# The text of a statement, and the server's reading of it

A statement is code of the program's own with arguments in between: values within quotes,
names within backquotes, numbers (`Statement`). `Reader` is the server's lexer as far as
quotes and comments go: where a value begins and ends, what it is, and what is code.

Code is plain by its type, so the reader sees it as it was written, and every value as the
one value it is, whatever bytes it has (`read_statement`). It reads what it would read of the
statement prepared with placeholders, once the values are bound (`read_prepared`).
-/

namespace SqlText

open DecimalText NumberText Rounding

/-! ## Statements -/

/-- A character that begins and ends no value, name or comment, and is no placeholder. -/
def plainChar (c : Char) : Bool :=
  c ∉ ['\'', '"', '`', '#', '/', '\\', '-', '?', '\x00', '\n', '\r']

/-- No quotes, no comments; a dash is a sign. -/
def plainCode : Text → Bool
  | [] => true
  | c :: cs => (plainChar c || c == '-' && cs.head?.any plainChar) && plainCode cs

/-- What a program writes itself: no quotes, comments or placeholders. -/
structure Code where
  text : Text
  plain : plainCode text = true
  nonempty : text ≠ []

/-- A name that may stand between backticks. -/
structure Name where
  text : Text
  plain : text.all plainChar = true

/-- What is put between the code. -/
inductive Part where
  | code (code : Code)
  | value (v : Text)
  | name (n : Name)

/-- Code and an argument, over and over, and some code at the end. -/
structure Statement where
  slots : List (Code × Part)
  tail : Option Code := none

/-- A part as it is written: a value escaped between quotes, a name between backticks. -/
def Part.text : Part → Text
  | .code c => c.text
  | .value v => '\'' :: escapeString v ++ ['\'']
  | .name n => '`' :: n.text ++ ['`']

/-- What a prepared statement has in its place. -/
def Part.preparedText : Part → Text
  | .value _ => ['?']
  | part => part.text

/-- The values of a part. -/
def Part.values : Part → List Text
  | .value v => [v]
  | _ => []

/-- The statement with its arguments written by `f`. -/
def Statement.textBy (f : Part → Text) (st : Statement) : Text :=
  (st.slots.flatMap fun slot => slot.1.text ++ f slot.2) ++ st.tail.elim [] Code.text

/-- The statement as it is sent. -/
def Statement.text : Statement → Text := Statement.textBy Part.text

/-- The same with a placeholder for every value. -/
def Statement.preparedText : Statement → Text := Statement.textBy Part.preparedText

/-- The values, in the order of their placeholders. -/
def Statement.values (st : Statement) : List Text := st.slots.flatMap fun slot => slot.2.values

/-! ## The reader -/

/-- What a server reads: characters of code, values and names. -/
inductive Token where
  | char (c : Char)
  | value (v : Text)
  | name (n : Text)
deriving DecidableEq

/-- Where the reader is. -/
inductive Place where
  | code
  | quoted (quote : Char) (v : Text)
  | escape (quote : Char) (v : Text)
  /-- behind a quote: the end of the value, unless the same quote follows -/
  | closed (quote : Char) (v : Text)
  | named (n : Text)
  | nameClosed (n : Text)
  | dash
  | dashes
  | slash
  | lineComment
  | comment
  | commentStar

/-- How far a server has read. -/
structure Reader where
  tokens : List Token := []
  place : Place := .code

/-- A character that is in no value, name or comment. -/
def Reader.outside (tokens : List Token) (c : Char) : Reader :=
  if c = '\'' ∨ c = '"' then ⟨tokens, .quoted c []⟩
  else if c = '`' then ⟨tokens, .named []⟩
  else if c = '#' then ⟨tokens, .lineComment⟩
  else if c = '-' then ⟨tokens, .dash⟩
  else if c = '/' then ⟨tokens, .slash⟩
  else ⟨tokens ++ [.char c], .code⟩

/-- What it makes of the next character. -/
def Reader.next (r : Reader) (c : Char) : Reader :=
  match r.place with
  | .code => outside r.tokens c
  | .quoted q v =>
    if c = '\\' then ⟨r.tokens, .escape q v⟩
    else if c = q then ⟨r.tokens, .closed q v⟩
    else ⟨r.tokens, .quoted q (v ++ [c])⟩
  | .escape q v => ⟨r.tokens, .quoted q (v ++ unescape c)⟩
  | .closed q v =>
    if c = q then ⟨r.tokens, .quoted q (v ++ [q])⟩ else outside (r.tokens ++ [.value v]) c
  | .named n => if c = '`' then ⟨r.tokens, .nameClosed n⟩ else ⟨r.tokens, .named (n ++ [c])⟩
  | .nameClosed n =>
    if c = '`' then ⟨r.tokens, .named (n ++ ['`'])⟩ else outside (r.tokens ++ [.name n]) c
  | .dash => if c = '-' then ⟨r.tokens, .dashes⟩ else outside (r.tokens ++ [.char '-']) c
  | .dashes =>
    -- two dashes are a comment before a blank or a control character only
    if c.toNat ≤ 32 then ⟨r.tokens, .lineComment⟩
    else outside (r.tokens ++ [.char '-', .char '-']) c
  | .slash => if c = '*' then ⟨r.tokens, .comment⟩ else outside (r.tokens ++ [.char '/']) c
  | .lineComment => if c = '\n' then ⟨r.tokens, .code⟩ else r
  | .comment => if c = '*' then ⟨r.tokens, .commentStar⟩ else r
  | .commentStar =>
    if c = '/' then ⟨r.tokens, .code⟩ else if c = '*' then r else ⟨r.tokens, .comment⟩

/-- The tokens at the end of the text; a value, a name or a comment may not be open. -/
def Reader.finish (r : Reader) : Option (List Token) :=
  match r.place with
  | .code | .dashes | .lineComment => some r.tokens
  | .closed _ v => some (r.tokens ++ [.value v])
  | .nameClosed n => some (r.tokens ++ [.name n])
  | .dash => some (r.tokens ++ [.char '-'])
  | .slash => some (r.tokens ++ [.char '/'])
  | .quoted _ _ | .escape _ _ | .named _ | .comment | .commentStar => none

/-- The tokens of a text, if its quotes are closed. -/
def read (text : Text) : Option (List Token) := (text.foldl Reader.next {}).finish

/-- What the parts are to the reader. -/
def Part.tokens : Part → List Token
  | .code c => c.text.map Token.char
  | .value v => [.value v]
  | .name n => [.name n.text]

/-- The tokens of a part in a prepared statement, where a value is a placeholder. -/
def Part.preparedTokens : Part → List Token
  | .value _ => [.char '?']
  | part => part.tokens

/-- The tokens of a row of parts, each with the code in front of it. -/
def slotsTokens (g : Part → List Token) (slots : List (Code × Part)) : List Token :=
  slots.flatMap fun slot => slot.1.text.map Token.char ++ g slot.2

/-- The tokens of a statement, by those of its parts. -/
def Statement.tokensBy (g : Part → List Token) (st : Statement) : List Token :=
  slotsTokens g st.slots ++ (st.tail.elim [] Code.text).map Token.char

/-! ## Plain code -/

/-- A plain character stands for itself. -/
theorem outside_plain {c : Char} (h : plainChar c = true) (tokens : List Token) :
    Reader.outside tokens c = ⟨tokens ++ [.char c], .code⟩ := by
  unfold plainChar at h
  simp only [List.mem_cons, List.not_mem_nil, or_false, not_or, decide_eq_true_eq] at h
  obtain ⟨hq, hd, hn, hh, hs, -, hm, -⟩ := h
  unfold Reader.outside
  rw [if_neg (by rintro (h | h); exacts [hq h, hd h]), if_neg hn, if_neg hh, if_neg hm, if_neg hs]

/-- Plain code is read as it is. -/
theorem read_plainCode {text : Text} (h : plainCode text = true) (tokens : List Token) :
    text.foldl Reader.next ⟨tokens, .code⟩ = ⟨tokens ++ text.map Token.char, .code⟩ := by
  induction text generalizing tokens with
  | nil =>
    rw [List.map_nil, List.append_nil]
    rfl
  | cons c cs ih =>
    unfold plainCode at h
    rw [Bool.and_eq_true, Bool.or_eq_true, Bool.and_eq_true, beq_iff_eq] at h
    obtain ⟨hc | ⟨rfl, hnext⟩, hcs⟩ := h
    · show cs.foldl Reader.next (Reader.outside tokens c) = _
      rw [outside_plain hc, ih hcs, List.map_cons, List.append_assoc, List.singleton_append]
    · cases cs with
      | nil => cases hnext
      | cons d rest =>
        -- the character behind it shows that the dash begins no comment
        have hne : d ≠ '-' := fun heq => by
          rw [heq] at hnext
          cases hnext
        have hdash : Reader.next ⟨tokens, .dash⟩ d = Reader.next ⟨tokens ++ [.char '-'], .code⟩ d := by
          show (if d = '-' then _ else _) = _
          rw [if_neg hne]
          rfl
        show rest.foldl Reader.next (Reader.next ⟨tokens, .dash⟩ d) = _
        rw [hdash, ← List.foldl_cons, ih hcs, List.append_assoc, List.singleton_append]
        rfl

/-- Code can be put together. -/
theorem plainCode_append {a b : Text} (ha : plainCode a = true) (hb : plainCode b = true) :
    plainCode (a ++ b) = true := by
  induction a with
  | nil => exact hb
  | cons c cs ih =>
    unfold plainCode at ha
    rw [Bool.and_eq_true, Bool.or_eq_true, Bool.and_eq_true] at ha
    show ((plainChar c || c == '-' && (cs ++ b).head?.any plainChar) && plainCode (cs ++ b)) = true
    rw [ih ha.2, Bool.and_true, Bool.or_eq_true, Bool.and_eq_true]
    refine ha.1.imp_right fun hdash => ⟨hdash.1, ?_⟩
    cases cs with
    | nil => cases hdash.2
    | cons d rest => exact hdash.2

/-- Plain characters are code. -/
theorem plainCode_of_all {text : Text} (h : text.all plainChar = true) : plainCode text = true := by
  induction text with
  | nil => rfl
  | cons c cs ih =>
    rw [List.all_cons, Bool.and_eq_true] at h
    unfold plainCode
    rw [h.1, ih h.2]
    rfl

/-- A sign may stand before what is plain. -/
theorem plainCode_signed {text : Text} (h : text.all plainChar = true) (hne : text ≠ []) :
    plainCode ('-' :: text) = true := by
  cases text with
  | nil => exact absurd rfl hne
  | cons c cs =>
    unfold plainCode
    rw [plainCode_of_all h, Bool.and_true]
    rw [List.all_cons, Bool.and_eq_true] at h
    exact Bool.or_eq_true_iff.mpr (Or.inr h.1)

/-- Two pieces of code, one behind the other. -/
def Code.append (a b : Code) : Code where
  text := a.text ++ b.text
  plain := plainCode_append a.plain b.plain
  nonempty := List.append_ne_nil_of_left_ne_nil a.nonempty b.text

instance : Append Code := ⟨Code.append⟩

/-! ## Numbers -/

/-- Digits, points and letters, a point not first. -/
structure Word (text : Text) : Prop where
  head : ∃ c ∈ text.head?, c ≠ '.'
  all : ∀ c ∈ text, (c.isAlphanum || c == '.') = true

/-- Letters, digits and points are plain. -/
theorem plainChar_word {c : Char} (h : (c.isAlphanum || c == '.') = true) : plainChar c = true := by
  unfold plainChar
  rw [decide_eq_true_iff]
  intro hmem
  fin_cases hmem <;> cases h

/-- So a word is. -/
theorem Word.all_plain {text : Text} (h : Word text) : text.all plainChar = true :=
  List.all_eq_true.mpr fun c hc => plainChar_word (h.all c hc)

theorem Word.ne_nil {text : Text} (h : Word text) : text ≠ [] := by
  rintro rfl
  obtain ⟨c, hc, -⟩ := h.head
  cases hc

/-- A word may go on. -/
theorem Word.append {a b : Text} (ha : Word a) (hb : ∀ c ∈ b, (c.isAlphanum || c == '.') = true) :
    Word (a ++ b) where
  head := by
    obtain ⟨c, hc, hne⟩ := ha.head
    exact ⟨c, by rw [List.head?_append, Option.mem_def.mp hc]; rfl, hne⟩
  all c hc := (List.mem_append.mp hc).elim (ha.all c) (hb c)

/-- A word, with a sign or without. -/
def signed (negative : Bool) (text : Text) (h : Word text) : Code where
  text := if negative then '-' :: text else text
  plain := by
    cases negative with
    | false => exact plainCode_of_all h.all_plain
    | true => exact plainCode_signed h.all_plain h.ne_nil
  nonempty := by
    cases negative with
    | false => exact h.ne_nil
    | true => exact List.cons_ne_nil _ _

theorem digit_alphanum {c : Char} (h : c.isDigit = true) : (c.isAlphanum || c == '.') = true := by
  rw [Char.isAlphanum, h, Bool.or_true, Bool.true_or]

/-- The digits of a number are a word. -/
theorem digits_word (n : Nat) : Word (Nat.toDigits 10 n) := by
  have hdigit : ∀ c ∈ Nat.toDigits 10 n, c.isDigit = true := fun c hc =>
    Nat.isDigit_of_mem_toDigits (by decide) (by decide) hc
  refine ⟨?_, fun c hc => digit_alphanum (hdigit c hc)⟩
  obtain ⟨c, rest, hcons⟩ := List.exists_cons_of_ne_nil (Nat.toDigits_ne_nil (b := 10) (n := n))
  rw [hcons] at hdigit ⊢
  refine ⟨c, rfl, ?_⟩
  rintro rfl
  exact absurd (hdigit '.' List.mem_cons_self) (by decide)

/-- `to_string` of a whole number. -/
def Code.int (n : Int) : Code :=
  signed (decide (n < 0)) (Nat.toDigits 10 n.natAbs) (digits_word n.natAbs)

/-- Digits of a fixed number are letters of a word. -/
theorem fixedDigits_word (decimals n : Nat) :
    ∀ c ∈ fixedDigits decimals n, (c.isAlphanum || c == '.') = true := by
  intro c hc
  exact digit_alphanum (fixedDigits_isDigit decimals n c hc)

/-- A number with decimals, without its sign. -/
theorem printfFixed_word {q : ℚ} (h : 0 ≤ q) (decimals : Nat) :
    Word (printfFixed false 0 decimals q) := by
  unfold printfFixed
  dsimp only
  rw [if_neg (not_lt.mpr h), if_neg Bool.false_ne_true, List.nil_append, Nat.zero_sub,
    List.replicate_zero, List.nil_append]
  refine (digits_word _).append fun c hc => ?_
  by_cases hzero : decimals = 0
  · rw [if_pos hzero] at hc
    cases hc
  · rw [if_neg hzero] at hc
    rcases List.mem_cons.mp hc with rfl | hc
    · rfl
    · exact fixedDigits_word _ _ c hc

/-- A negative number is written with a minus in front. -/
theorem printfFixed_neg {q : ℚ} (h : q < 0) (decimals : Nat) :
    printfFixed false 0 decimals q = '-' :: printfFixed false 0 decimals (-q) := by
  unfold printfFixed
  dsimp only
  rw [if_pos h, if_neg (not_lt.mpr (neg_nonneg.mpr h.le)), if_neg Bool.false_ne_true, abs_neg,
    Nat.zero_sub, Nat.zero_sub, List.nil_append, List.append_assoc, List.append_assoc]
  rfl

/-- `to_string` of a `double`. -/
def fixedText (d : Double) : Text := printfDouble false 0 6 d

/-- Zeros at the end of a number with decimals. -/
def dropZeros (text : Text) : Text :=
  if '.' ∈ text then (text.rdropWhile (· == '0')).rdropWhile (· == '.') else text

/-- `printf("%g")` of a number that is not negative. -/
def generalBody (q : ℚ) : Text :=
  let r := toSignificant 6 q
  let e := Int.log 10 r
  if r = 0 then ['0']
  else if -4 ≤ e ∧ e < 6 then dropZeros (printfFixed false 0 (5 - e).toNat r)
  else
    dropZeros (printfFixed false 0 5 (r / 10 ^ e)) ++
      'e' :: (if e < 0 then '-' else '+') :: printfPadded 2 e.natAbs

/-- What an `ostream` makes of a `double`. -/
def streamText : Double → Text
  | .num q => if q < 0 then '-' :: generalBody (-q) else generalBody q
  | .inf negative => if negative then "-inf".toList else "inf".toList
  | .nan => "nan".toList

/-- What is left of a word once its end is dropped is a word. -/
theorem Word.rdropWhile {text : Text} (h : Word text) {p : Char → Bool} (hne : text.rdropWhile p ≠ []) :
    Word (text.rdropWhile p) := by
  obtain ⟨ended, hended⟩ := List.rdropWhile_prefix p text
  obtain ⟨d, rest, hcons⟩ := List.exists_cons_of_ne_nil hne
  obtain ⟨c, hc, hpoint⟩ := h.head
  rw [← hended, hcons] at hc
  refine ⟨⟨c, ?_, hpoint⟩, fun x hx => h.all x ?_⟩
  · rw [hcons]
    exact hc
  · rw [← hended]
    exact List.mem_append_left _ hx

/-- Without the zeros at its end a word is still one. -/
theorem dropZeros_word {text : Text} (h : Word text) : Word (dropZeros text) := by
  unfold dropZeros
  by_cases hpoint : '.' ∈ text
  · rw [if_pos hpoint]
    -- the point stops the zeros, the first character stops the point
    have hzeros : Word (text.rdropWhile (· == '0')) := h.rdropWhile fun hnil =>
      absurd (List.rdropWhile_eq_nil_iff.mp hnil '.' hpoint) (by decide)
    refine hzeros.rdropWhile fun hnil => ?_
    obtain ⟨c, hc, hne⟩ := hzeros.head
    exact hne (eq_of_beq (List.rdropWhile_eq_nil_iff.mp hnil c (List.mem_of_mem_head? hc)))
  · rw [if_neg hpoint]
    exact h

/-- Rounding keeps the sign. -/
theorem toSignificant_nonneg {q : ℚ} (h : 0 ≤ q) (p : Nat) : 0 ≤ toSignificant p q := by
  unfold toSignificant
  by_cases hzero : q = 0
  · rw [if_pos hzero]
  · rw [if_neg hzero]
    have hunit : (0 : ℚ) < 10 ^ (Int.log 10 |q| + 1 - p) := by positivity
    have hround : 0 ≤ roundHalfEven (q / 10 ^ (Int.log 10 |q| + 1 - p)) :=
      roundHalfEven_nonneg (div_nonneg h hunit.le)
    exact mul_nonneg (by exact_mod_cast hround) hunit.le

/-- A padded number is digits. -/
theorem printfPadded_digits (w n : Nat) : ∀ c ∈ printfPadded w n, c.isDigit = true := by
  unfold printfPadded
  rw [if_pos (Int.natCast_nonneg n), Int.toNat_natCast]
  exact column_isDigit w n

theorem printfPadded_ne_nil {w : Nat} (h : 0 < w) (n : Nat) : printfPadded w n ≠ [] := by
  unfold printfPadded
  rw [if_pos (Int.natCast_nonneg n), Int.toNat_natCast]
  by_cases hfits : n < 10 ^ w
  · rw [if_pos hfits]
    intro hnil
    have hlength := congrArg List.length hnil
    rw [fixedDigits_length] at hlength
    exact h.ne' hlength
  · rw [if_neg hfits]
    exact Nat.toDigits_ne_nil

/-- An exponent is code. -/
theorem exponent_plain (e : Int) :
    plainCode ('e' :: (if e < 0 then '-' else '+') :: printfPadded 2 e.natAbs) = true := by
  have hdigits : (printfPadded 2 e.natAbs).all plainChar = true :=
    List.all_eq_true.mpr fun c hc => plainChar_word (digit_alphanum (printfPadded_digits 2 _ c hc))
  by_cases hneg : e < 0
  · rw [if_pos hneg]
    exact plainCode_append (a := ['e']) rfl
      (plainCode_signed hdigits (printfPadded_ne_nil (by decide) _))
  · rw [if_neg hneg]
    exact plainCode_append (a := ['e', '+']) rfl (plainCode_of_all hdigits)

/-- A body of `%g` may stand behind a sign. -/
theorem generalBody_plain {q : ℚ} (h : 0 ≤ q) :
    ∃ word rest, generalBody q = word ++ rest ∧ Word word ∧ plainCode rest = true := by
  have hr := toSignificant_nonneg h 6
  unfold generalBody
  dsimp only
  by_cases hzero : toSignificant 6 q = 0
  · rw [if_pos hzero]
    exact ⟨['0'], [], rfl, digits_word 0, rfl⟩
  rw [if_neg hzero]
  by_cases hfixed : -4 ≤ Int.log 10 (toSignificant 6 q) ∧ Int.log 10 (toSignificant 6 q) < 6
  · rw [if_pos hfixed]
    exact ⟨_, [], (List.append_nil _).symm, dropZeros_word (printfFixed_word hr _), rfl⟩
  · rw [if_neg hfixed]
    have hmantissa : 0 ≤ toSignificant 6 q / 10 ^ Int.log 10 (toSignificant 6 q) := by positivity
    exact ⟨_, _, rfl, dropZeros_word (printfFixed_word hmantissa _), exponent_plain _⟩

/-- A number, with a sign or without, is code. -/
theorem Word.code {word rest : Text} (h : Word word) (hrest : plainCode rest = true) (negative : Bool) :
    plainCode (if negative then '-' :: (word ++ rest) else word ++ rest) = true := by
  cases negative with
  | false => exact plainCode_append (plainCode_of_all h.all_plain) hrest
  | true => exact plainCode_append (plainCode_signed h.all_plain h.ne_nil) hrest

/-- So whatever `std::to_string` makes of a double is code. -/
theorem fixedText_plain (d : Double) : plainCode (fixedText d) = true ∧ fixedText d ≠ [] := by
  cases d with
  | num q =>
    show plainCode (printfFixed false 0 6 q) = true ∧ printfFixed false 0 6 q ≠ []
    by_cases hneg : q < 0
    · have hword := printfFixed_word (neg_nonneg.mpr hneg.le) 6
      rw [printfFixed_neg hneg]
      exact ⟨plainCode_signed hword.all_plain hword.ne_nil, List.cons_ne_nil _ _⟩
    · have hword := printfFixed_word (not_lt.mp hneg) 6
      exact ⟨plainCode_of_all hword.all_plain, hword.ne_nil⟩
  | inf negative => cases negative <;> decide
  | nan => decide

/-- What a stream makes of one is code. -/
theorem streamText_plain (d : Double) : plainCode (streamText d) = true ∧ streamText d ≠ [] := by
  cases d with
  | num q =>
    unfold streamText
    by_cases hneg : q < 0
    · obtain ⟨word, rest, heq, hword, hrest⟩ := generalBody_plain (neg_nonneg.mpr hneg.le)
      dsimp only
      rw [if_pos hneg, heq]
      exact ⟨hword.code hrest true, List.cons_ne_nil _ _⟩
    · obtain ⟨word, rest, heq, hword, hrest⟩ := generalBody_plain (not_lt.mp hneg)
      dsimp only
      rw [if_neg hneg, heq]
      exact ⟨hword.code hrest false, List.append_ne_nil_of_left_ne_nil hword.ne_nil rest⟩
  | inf negative => cases negative <;> decide
  | nan => decide

/-- `std::to_string` of a double, as code. -/
def Code.fixed (d : Double) : Code := ⟨fixedText d, (fixedText_plain d).1, (fixedText_plain d).2⟩

/-- A double put into a stream, as code. -/
def Code.streamed (d : Double) : Code := ⟨streamText d, (streamText_plain d).1, (streamText_plain d).2⟩

/-! ## What is written is read back -/

/-- Between quotes an escaped character is read as the character. -/
theorem read_escapeChar (tokens : List Token) (v : Text) (c : Char) :
    (escapeChar c).foldl Reader.next ⟨tokens, .quoted '\'' v⟩ = ⟨tokens, .quoted '\'' (v ++ [c])⟩ := by
  unfold escapeChar
  by_cases h₀ : c = '\x00'
  · rw [if_pos h₀, h₀]
    rfl
  by_cases hn : c = '\n'
  · rw [if_neg h₀, if_pos hn, hn]
    rfl
  by_cases hr : c = '\r'
  · rw [if_neg h₀, if_neg hn, if_pos hr, hr]
    rfl
  by_cases hz : c = '\x1a'
  · rw [if_neg h₀, if_neg hn, if_neg hr, if_pos hz, hz]
    rfl
  rw [if_neg h₀, if_neg hn, if_neg hr, if_neg hz]
  by_cases hq : c = '\\' ∨ c = '\'' ∨ c = '"'
  · rw [if_pos hq]
    rcases hq with rfl | rfl | rfl <;> rfl
  · rw [if_neg hq]
    simp only [not_or] at hq
    show (if c = '\\' then _ else if c = '\'' then _ else _) = _
    rw [if_neg hq.1, if_neg hq.2.1]

/-- An escaped value is read back. -/
theorem read_escapeString (tokens : List Token) (v s : Text) :
    (escapeString s).foldl Reader.next ⟨tokens, .quoted '\'' v⟩ = ⟨tokens, .quoted '\'' (v ++ s)⟩ := by
  induction s generalizing v with
  | nil =>
    rw [List.append_nil]
    rfl
  | cons c s ih =>
    unfold escapeString at ih ⊢
    rw [List.flatMap_cons, List.foldl_append, read_escapeChar, ih, List.append_assoc,
      List.singleton_append]

/-- Between backticks a plain character is. -/
theorem read_name {n : Text} (h : n.all plainChar = true) (tokens : List Token) (m : Text) :
    n.foldl Reader.next ⟨tokens, .named m⟩ = ⟨tokens, .named (m ++ n)⟩ := by
  induction n generalizing m with
  | nil =>
    rw [List.append_nil]
    rfl
  | cons c cs ih =>
    rw [List.all_cons, Bool.and_eq_true] at h
    have hc : c ≠ '`' := fun heq => by
      rw [heq] at h
      cases h.1
    show cs.foldl Reader.next (if c = '`' then _ else _) = _
    rw [if_neg hc, ih h.2, List.append_assoc, List.singleton_append]

/-- The reader behind these tokens, of which the last may be a value or a name whose end the next
character confirms. -/
def Behind (tokens : List Token) (touching : Option Char) (r : Reader) : Prop :=
  touching ∈ [none, some '\'', some '`'] ∧
    r.finish = some tokens ∧
    ∀ c, some c ≠ touching → r.next c = Reader.outside tokens c

/-- Code leaves nothing open. -/
theorem behind_code (tokens : List Token) : Behind tokens none ⟨tokens, .code⟩ :=
  ⟨by decide, rfl, fun _ _ => rfl⟩

/-- A quote that closes a value could be the first of two. -/
theorem behind_value (tokens : List Token) (v : Text) :
    Behind (tokens ++ [.value v]) (some '\'') ⟨tokens, .closed '\'' v⟩ := by
  refine ⟨by decide, rfl, fun c hc => ?_⟩
  show (if c = '\'' then _ else _) = _
  rw [if_neg fun heq => hc (congrArg some heq)]

/-- So could a backtick. -/
theorem behind_name (tokens : List Token) (n : Text) :
    Behind (tokens ++ [.name n]) (some '`') ⟨tokens, .nameClosed n⟩ := by
  refine ⟨by decide, rfl, fun c hc => ?_⟩
  show (if c = '`' then _ else _) = _
  rw [if_neg fun heq => hc (congrArg some heq)]

/-- Code shows that what is behind it has ended. -/
theorem Behind.plainCode {tokens : List Token} {touching : Option Char} {r : Reader}
    (hr : Behind tokens touching r) {c : Char} {cs : Text} (h : plainCode (c :: cs) = true) :
    (c :: cs).foldl Reader.next r = ⟨tokens ++ (c :: cs).map Token.char, .code⟩ := by
  have hne : some c ≠ touching := by
    intro heq
    have hmem : some c ∈ [none, some '\'', some '`'] := heq ▸ hr.1
    simp only [List.mem_cons, List.not_mem_nil, Option.some.injEq, or_false, reduceCtorEq,
      false_or] at hmem
    rcases hmem with rfl | rfl <;> cases h
  rw [← read_plainCode h tokens, List.foldl_cons, List.foldl_cons, hr.2.2 c hne]
  rfl

/-- Code decides it: it never begins with a quote. -/
theorem Behind.code {tokens : List Token} {touching : Option Char} {r : Reader}
    (hr : Behind tokens touching r) (code : Code) :
    code.text.foldl Reader.next r = ⟨tokens ++ code.text.map Token.char, .code⟩ := by
  obtain ⟨text, hplain, hne⟩ := code
  cases text with
  | nil => exact absurd rfl hne
  | cons c cs => exact hr.plainCode hplain

/-- A part is read as its tokens. -/
theorem behind_part (tokens : List Token) (part : Part) :
    ∃ touching, Behind (tokens ++ part.tokens) touching
        (part.text.foldl Reader.next ⟨tokens, .code⟩) := by
  cases part with
  | code code =>
    refine ⟨none, ?_⟩
    show Behind _ _ (code.text.foldl Reader.next _)
    rw [(behind_code tokens).code code]
    exact behind_code _
  | value v =>
    refine ⟨some '\'', ?_⟩
    show Behind _ _ ((escapeString v ++ ['\'']).foldl Reader.next ⟨tokens, .quoted '\'' []⟩)
    rw [List.foldl_append, read_escapeString, List.nil_append]
    exact behind_value tokens v
  | name n =>
    refine ⟨some '`', ?_⟩
    show Behind _ _ ((n.text ++ ['`']).foldl Reader.next ⟨tokens, .named []⟩)
    rw [List.foldl_append, read_name n.plain, List.nil_append]
    exact behind_name tokens n.text

/-- So is a part of a prepared statement. -/
theorem behind_prepared (tokens : List Token) (part : Part) :
    ∃ touching, Behind (tokens ++ part.preparedTokens) touching
      (part.preparedText.foldl Reader.next ⟨tokens, .code⟩) := by
  cases part with
  | code c => exact behind_part tokens (.code c)
  | value v => exact ⟨none, behind_code _⟩
  | name n => exact behind_part tokens (.name n)

section Slots

variable {f : Part → Text} {g : Part → List Token}
  (hpart : ∀ tokens part, ∃ touching,
    Behind (tokens ++ g part) touching ((f part).foldl Reader.next ⟨tokens, .code⟩))
include hpart

/-- One slot after the other: code shows where the argument before it ended. -/
theorem behind_slots (slots : List (Code × Part)) {tokens : List Token} {touching : Option Char}
    {r : Reader} (hr : Behind tokens touching r) :
    ∃ touching', Behind (tokens ++ slotsTokens g slots) touching'
      ((slots.flatMap fun slot => slot.1.text ++ f slot.2).foldl Reader.next r) := by
  induction slots generalizing tokens touching r with
  | nil =>
    unfold slotsTokens
    rw [List.flatMap_nil, List.append_nil]
    exact ⟨touching, hr⟩
  | cons slot slots ih =>
    unfold slotsTokens at ih ⊢
    rw [List.flatMap_cons, List.flatMap_cons, List.foldl_append, List.foldl_append, hr.code]
    obtain ⟨touching', hslot⟩ := hpart (tokens ++ slot.1.text.map Token.char) slot.2
    rw [List.append_assoc] at hslot
    rw [← List.append_assoc]
    exact ih hslot

/-- A statement is read part by part. -/
theorem read_textBy (st : Statement) : read (st.textBy f) = some (st.tokensBy g) := by
  obtain ⟨slots, tail⟩ := st
  obtain ⟨touching, hslots⟩ := behind_slots hpart slots (behind_code [])
  rw [List.nil_append] at hslots
  unfold read Statement.textBy Statement.tokensBy
  rw [List.foldl_append]
  cases tail with
  | none => exact hslots.2.1.trans (congrArg some (List.append_nil _).symm)
  | some code =>
    show (code.text.foldl Reader.next _).finish = _
    rw [hslots.code code]
    rfl

end Slots

/-- What is sent is read as the tokens that are meant. -/
theorem read_statement (st : Statement) : read st.text = some (st.tokensBy Part.tokens) :=
  read_textBy behind_part st

/-! ## Prepared statements -/

/-- The values in place of the placeholders, in order. -/
def bindValues : List Token → List Text → List Token
  | [], _ => []
  | token :: tokens, [] => token :: bindValues tokens []
  | token :: tokens, v :: vs =>
    if token = .char '?' then .value v :: bindValues tokens vs
    else token :: bindValues tokens (v :: vs)

/-- Binding passes over what is no placeholder. -/
theorem bindValues_cons {token : Token} (h : token ≠ .char '?') (tokens : List Token) (vs : List Text) :
    bindValues (token :: tokens) vs = token :: bindValues tokens vs := by
  cases vs with
  | nil => rfl
  | cons v vs => exact if_neg h

/-- So it passes over code. -/
theorem bindValues_code {text : Text} (h : plainCode text = true) (tokens : List Token)
    (vs : List Text) :
    bindValues (text.map Token.char ++ tokens) vs = text.map Token.char ++ bindValues tokens vs := by
  induction text with
  | nil => rfl
  | cons c cs ih =>
    unfold plainCode at h
    rw [Bool.and_eq_true, Bool.or_eq_true, Bool.and_eq_true, beq_iff_eq] at h
    have hne : Token.char c ≠ .char '?' := by
      intro heq
      cases heq
      obtain ⟨h | ⟨h, -⟩, -⟩ := h <;> cases h
    rw [List.map_cons, List.cons_append, List.cons_append, ← ih h.2]
    exact bindValues_cons hne _ _

/-- The values of a part are bound to its placeholders. -/
theorem bindValues_part (part : Part) (tokens : List Token) (vs : List Text) :
    bindValues (part.preparedTokens ++ tokens) (part.values ++ vs) = part.tokens ++ bindValues
        tokens vs := by
  cases part with
  | code c => exact bindValues_code c.plain tokens vs
  | value v => exact if_pos rfl
  | name n => exact bindValues_cons Token.noConfusion tokens vs

/-- Those of a row of parts are bound to theirs. -/
theorem bindValues_slots (slots : List (Code × Part)) (tokens : List Token) (vs : List Text) :
    bindValues (slotsTokens Part.preparedTokens slots ++ tokens)
        (slots.flatMap (fun slot => slot.2.values) ++ vs) =
      slotsTokens Part.tokens slots ++ bindValues tokens vs := by
  induction slots with
  | nil => rfl
  | cons slot slots ih =>
    unfold slotsTokens at ih ⊢
    simp only [List.flatMap_cons, List.append_assoc]
    rw [bindValues_code slot.1.plain, bindValues_part, ih]

/-- A prepared statement with its values bound is the statement with the values in it. -/
theorem bindValues_tokens (st : Statement) :
    bindValues (st.tokensBy Part.preparedTokens) st.values = st.tokensBy Part.tokens := by
  have htail : bindValues ((st.tail.elim [] Code.text).map Token.char) [] =
      (st.tail.elim [] Code.text).map Token.char := by
    have hcode := @bindValues_code (st.tail.elim [] Code.text) ?_ [] []
    · rw [List.append_nil] at hcode
      exact hcode.trans (List.append_nil _)
    · cases st.tail with
      | none => rfl
      | some code => exact code.plain
  have hslots := bindValues_slots st.slots ((st.tail.elim [] Code.text).map Token.char) []
  rw [List.append_nil, htail] at hslots
  exact hslots

/-- The server reads what it reads of the prepared statement, each value in its place. -/
theorem read_prepared (st : Statement) :
    read st.text = (read st.preparedText).map fun tokens => bindValues tokens st.values := by
  rw [read_statement, show read st.preparedText = _ from read_textBy behind_prepared st,
    Option.map_some, bindValues_tokens]

/-! ## Statements as C strings -/

/-- What `c_str()` passes on. -/
def cString (text : Text) : Text := text.takeWhile (· ≠ '\x00')

/-- A plain character is no line break. -/
theorem plainChar_inLine {c : Char} (h : plainChar c = true) : InLine c := by
  unfold plainChar at h
  rw [decide_eq_true_iff] at h
  refine ⟨?_, ?_, ?_⟩ <;> rintro rfl <;> exact h (by decide)

/-- Code takes one line. -/
theorem plainCode_onOneLine {text : Text} (h : plainCode text = true) : OnOneLine text := by
  induction text with
  | nil =>
    intro c hc
    cases hc
  | cons c cs ih =>
    unfold plainCode at h
    rw [Bool.and_eq_true, Bool.or_eq_true, Bool.and_eq_true, beq_iff_eq] at h
    refine OnOneLine.cons (h.1.elim plainChar_inLine ?_) (ih h.2)
    rintro ⟨rfl, -⟩
    decide

/-- So does a part, since values are escaped. -/
theorem Part.text_onOneLine (part : Part) : OnOneLine part.text := by
  cases part with
  | code code => exact plainCode_onOneLine code.plain
  | value v => exact valueText_onOneLine (some v)
  | name n =>
    exact OnOneLine.append (OnOneLine.cons (by decide) (plainCode_onOneLine (plainCode_of_all n.plain)))
      (by decide)

/-- So does a statement. -/
theorem Statement.text_onOneLine (st : Statement) : OnOneLine st.text := by
  refine OnOneLine.append (onOneLine_flatMap fun slot _ => ?_) ?_
  · exact OnOneLine.append (plainCode_onOneLine slot.1.plain) slot.2.text_onOneLine
  · cases st.tail with
    | none =>
      intro c hc
      cases hc
    | some code => exact plainCode_onOneLine code.plain

/-- A statement has no NUL: it is passed on whole. -/
theorem Statement.cString_text (st : Statement) : cString st.text = st.text := by
  unfold cString
  rw [List.takeWhile_eq_self_iff]
  intro c hc
  exact decide_eq_true (st.text_onOneLine c hc).2.2

end SqlText
