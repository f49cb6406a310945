import Mathlib.Data.String.Basic
import Mathlib.Tactic.Ring

/-!
# Decimal numbers as text

The integer conversions of `printf` and `scanf` over character lists, the two
directions of a fixed-column number. `printfPadded` is `%0wd`; a number that
fits its column is written by `fixedDigits`, which always fills the column, so
columns can be cut, compared and read back by position. Three facts carry every
use: a column reads back as its number (`scanInt_fixedDigits`), columns of one
width are ordered as their numbers (`fixedDigits_lt_iff`), and a text made of
columns is ordered column by column (`append_lt_append_iff`).
-/

namespace DecimalText

/-- The last digit of `n`. -/
def digitOf (n : Nat) : Char := Nat.digitChar (n % 10)

/-- The last `w` digits of `n`, leading zeros included. -/
def fixedDigits : Nat → Nat → List Char
  | 0, _ => []
  | w + 1, n => fixedDigits w (n / 10) ++ [digitOf n]

/-- `printf("%0wd", n)`. The sign takes one place of the column. -/
def printfPadded (w : Nat) (n : Int) : List Char :=
  if 0 ≤ n then
    if n.toNat < 10 ^ w then fixedDigits w n.toNat else Nat.toDigits 10 n.toNat
  else
    '-' :: (if n.natAbs < 10 ^ (w - 1) then fixedDigits (w - 1) n.natAbs
      else Nat.toDigits 10 n.natAbs)

/-- The number a digit string denotes. -/
def digitsValue (ds : List Char) : Nat := ds.foldl (fun a c => 10 * a + (c.toNat - 48)) 0

/-- The blanks that `isspace` accepts. -/
def isSpace (c : Char) : Bool :=
  c = ' ' ∨ c = '\t' ∨ c = '\n' ∨ c = '\r' ∨ c = Char.ofNat 11 ∨ c = Char.ofNat 12

/-- `scanf("%d")`: leading blanks, an optional sign, at least one digit. -/
def scanInt (cs : List Char) : Option (Int × List Char) :=
  let body := fun (sign : Int) (cs : List Char) =>
    let ds := cs.takeWhile Char.isDigit
    if ds = [] then none else some (sign * (digitsValue ds : Int), cs.dropWhile Char.isDigit)
  match cs.dropWhile isSpace with
  | '-' :: rest => body (-1) rest
  | '+' :: rest => body 1 rest
  | rest => body 1 rest

/-- A literal character of a `scanf` format. -/
def scanChar (c : Char) : List Char → Option (List Char)
  | [] => none
  | d :: rest => if d = c then some rest else none

/-! ## Columns -/

theorem digitOf_cases (n : Nat) (P : Nat → Char → Prop)
    (h : ∀ d < 10, P d (Nat.digitChar d)) : P (n % 10) (digitOf n) :=
  h (n % 10) (Nat.mod_lt _ (by decide))

theorem digitOf_isDigit (n : Nat) : (digitOf n).isDigit = true :=
  digitOf_cases n (fun _ c => c.isDigit = true) (by decide)

theorem digitOf_toNat (n : Nat) : (digitOf n).toNat - 48 = n % 10 :=
  digitOf_cases n (fun d c => c.toNat - 48 = d) (by decide)

@[simp] theorem fixedDigits_length (w n : Nat) : (fixedDigits w n).length = w := by
  induction w generalizing n with
  | zero => rfl
  | succ w ih => simp [fixedDigits, ih]

theorem fixedDigits_isDigit (w n : Nat) : ∀ c ∈ fixedDigits w n, c.isDigit = true := by
  induction w generalizing n with
  | zero => simp [fixedDigits]
  | succ w ih =>
    intro c hc
    rcases List.mem_append.mp hc with h | h
    · exact ih _ c h
    · rw [List.mem_singleton.mp h]
      exact digitOf_isDigit n

theorem digitsValue_concat (ds : List Char) (c : Char) :
    digitsValue (ds ++ [c]) = 10 * digitsValue ds + (c.toNat - 48) := by
  simp [digitsValue]

/-- A column holds its number modulo its width. -/
theorem digitsValue_fixedDigits (w n : Nat) : digitsValue (fixedDigits w n) = n % 10 ^ w := by
  induction w generalizing n with
  | zero => simp [fixedDigits, digitsValue, Nat.mod_one]
  | succ w ih =>
    rw [fixedDigits, digitsValue_concat, ih, digitOf_toNat, Nat.pow_succ, Nat.mul_comm (10 ^ w),
      Nat.mod_mul]
    omega

theorem fixedDigits_inj {w n m : Nat} (hn : n < 10 ^ w) (hm : m < 10 ^ w)
    (h : fixedDigits w n = fixedDigits w m) : n = m := by
  have hv := congrArg digitsValue h
  rwa [digitsValue_fixedDigits, digitsValue_fixedDigits, Nat.mod_eq_of_lt hn,
    Nat.mod_eq_of_lt hm] at hv

theorem printfPadded_eq {w : Nat} {n : Int} (h0 : 0 ≤ n) (hw : n < 10 ^ w) :
    printfPadded w n = fixedDigits w n.toNat := by
  have hlt : n.toNat < 10 ^ w := by
    rw [Int.toNat_lt h0]
    exact_mod_cast hw
  rw [printfPadded, if_pos h0, if_pos hlt]

/-- The digits of a printed number are its magnitude, whether they fit the column or not. -/
theorem digitsValue_column (w n : Nat) :
    digitsValue (if n < 10 ^ w then fixedDigits w n else Nat.toDigits 10 n) = n := by
  by_cases hw : n < 10 ^ w
  · rw [if_pos hw, digitsValue_fixedDigits, Nat.mod_eq_of_lt hw]
  · rw [if_neg hw]
    exact Nat.ofDigitChars_ten_toDigits

theorem column_isDigit (w n : Nat) :
    ∀ c ∈ (if n < 10 ^ w then fixedDigits w n else Nat.toDigits 10 n), c.isDigit = true := by
  intro c hc
  by_cases hw : n < 10 ^ w
  · rw [if_pos hw] at hc
    exact fixedDigits_isDigit w n c hc
  · rw [if_neg hw] at hc
    exact Nat.isDigit_of_mem_toDigits (by decide) (by decide) hc

/-- Different numbers are printed differently, out of range as well. -/
theorem printfPadded_inj {w : Nat} {n m : Int} (h : printfPadded w n = printfPadded w m) : n = m := by
  have hsign : ∀ {k j : Int}, 0 ≤ k → j < 0 → printfPadded w k ≠ printfPadded w j := by
    intro k j hk hj heq
    rw [printfPadded, if_pos hk, printfPadded, if_neg (not_le.mpr hj)] at heq
    have hminus := column_isDigit w k.toNat '-' (heq ▸ List.mem_cons_self)
    exact absurd hminus (by decide)
  rcases lt_or_ge n 0 with hn | hn
  · rcases lt_or_ge m 0 with hm | hm
    · rw [printfPadded, if_neg (not_le.mpr hn), printfPadded, if_neg (not_le.mpr hm)] at h
      have hvalue := congrArg digitsValue (List.cons.inj h).2
      rw [digitsValue_column, digitsValue_column] at hvalue
      omega
    · exact absurd h.symm (hsign hm hn)
  · rcases lt_or_ge m 0 with hm | hm
    · exact absurd h (hsign hn hm)
    · rw [printfPadded, if_pos hn, printfPadded, if_pos hm] at h
      have hvalue := congrArg digitsValue h
      rw [digitsValue_column, digitsValue_column] at hvalue
      omega

/-! ## Reading a column back -/

/-- What follows a column of digits: nothing, or something that is not a digit. -/
def EndsDigits (rest : List Char) : Prop := ∀ c ∈ rest.head?, c.isDigit = false

theorem takeWhile_digits {ds rest : List Char} (hds : ∀ c ∈ ds, c.isDigit = true)
    (hrest : EndsDigits rest) :
    (ds ++ rest).takeWhile Char.isDigit = ds ∧ (ds ++ rest).dropWhile Char.isDigit = rest := by
  induction ds with
  | nil =>
    cases rest with
    | nil => exact ⟨rfl, rfl⟩
    | cons c rest =>
      have hc : c.isDigit = false := hrest c (by simp)
      simp [hc]
  | cons d ds ih =>
    have hd : d.isDigit = true := hds d (by simp)
    obtain ⟨h1, h2⟩ := ih fun c hc => hds c (List.mem_cons_of_mem _ hc)
    simp [hd, h1, h2]

/-- A digit is neither a blank nor a sign. -/
theorem digit_not_blank {c : Char} (h : c.isDigit = true) :
    isSpace c = false ∧ c ≠ '-' ∧ c ≠ '+' := by
  have hne : ∀ d : Char, d.isDigit = false → c ≠ d := by
    rintro d hd rfl
    rw [h] at hd
    exact absurd hd (by decide)
  refine ⟨?_, hne '-' (by decide), hne '+' (by decide)⟩
  simp only [isSpace, decide_eq_false_iff_not, not_or]
  exact ⟨hne _ (by decide), hne _ (by decide), hne _ (by decide), hne _ (by decide),
    hne _ (by decide), hne _ (by decide)⟩

/-- A column of at least one place reads back as its number. -/
theorem scanInt_fixedDigits {w n : Nat} {rest : List Char} (hw : 0 < w) (hn : n < 10 ^ w)
    (hrest : EndsDigits rest) :
    scanInt (fixedDigits w n ++ rest) = some ((n : Int), rest) := by
  obtain ⟨htake, hdrop⟩ := takeWhile_digits (fixedDigits_isDigit w n) hrest
  have hval : digitsValue (fixedDigits w n) = n := by
    rw [digitsValue_fixedDigits, Nat.mod_eq_of_lt hn]
  obtain ⟨c, cs, hcs⟩ : ∃ c cs, fixedDigits w n = c :: cs := by
    cases hd : fixedDigits w n with
    | nil =>
      have hlen := fixedDigits_length w n
      rw [hd] at hlen
      simp at hlen
      omega
    | cons c cs => exact ⟨c, cs, rfl⟩
  have hc : c.isDigit = true := fixedDigits_isDigit w n c (by rw [hcs]; simp)
  obtain ⟨hsp, hminus, hplus⟩ := digit_not_blank hc
  have hblank : (fixedDigits w n ++ rest).dropWhile isSpace = fixedDigits w n ++ rest := by
    rw [hcs, List.cons_append, List.dropWhile_cons, hsp]
    rfl
  unfold scanInt
  rw [hblank]
  split
  next r hr => rw [hcs] at hr; exact absurd (List.cons.inj hr).1 hminus
  next r hr => rw [hcs] at hr; exact absurd (List.cons.inj hr).1 hplus
  next r _ _ =>
    simp only [htake, hdrop, hval]
    rw [if_neg (by rw [hcs]; simp)]
    simp

/-! ## Order -/

/-- Texts whose heads have one length are ordered by the heads first. -/
theorem append_lt_append_iff {a a' b b' : List Char} (h : a.length = a'.length) :
    a ++ b < a' ++ b' ↔ a < a' ∨ a = a' ∧ b < b' := by
  induction a generalizing a' with
  | nil =>
    obtain rfl : a' = [] := by cases a' with
      | nil => rfl
      | cons _ _ => simp at h
    simp
  | cons x xs ih =>
    cases a' with
    | nil => simp at h
    | cons y ys =>
      simp only [List.cons_append, List.cons_lt_cons_iff, List.cons.injEq]
      rw [ih (by simpa using h)]
      constructor
      · rintro (hxy | ⟨rfl, hlt | ⟨rfl, hb⟩⟩)
        · exact Or.inl (Or.inl hxy)
        · exact Or.inl (Or.inr ⟨rfl, hlt⟩)
        · exact Or.inr ⟨⟨rfl, rfl⟩, hb⟩
      · rintro ((hxy | ⟨rfl, hlt⟩) | ⟨⟨rfl, rfl⟩, hb⟩)
        · exact Or.inl hxy
        · exact Or.inr ⟨rfl, Or.inl hlt⟩
        · exact Or.inr ⟨rfl, Or.inr ⟨rfl, hb⟩⟩

theorem digitChar_lt_iff : ∀ d < 10, ∀ e < 10, Nat.digitChar d < Nat.digitChar e ↔ d < e := by
  decide

/-- Columns of one width are ordered as their numbers. -/
theorem fixedDigits_lt_iff {w n m : Nat} (hn : n < 10 ^ w) (hm : m < 10 ^ w) :
    fixedDigits w n < fixedDigits w m ↔ n < m := by
  induction w generalizing n m with
  | zero =>
    rw [Nat.pow_zero] at hn hm
    simp [fixedDigits, show n = m by omega]
  | succ w ih =>
    rw [Nat.pow_succ] at hn hm
    have hn' : n / 10 < 10 ^ w := by omega
    have hm' : m / 10 < 10 ^ w := by omega
    have hlast : [digitOf n] < [digitOf m] ↔ n % 10 < m % 10 := by
      rw [List.cons_lt_cons_iff]
      simpa [digitOf] using
        digitChar_lt_iff _ (Nat.mod_lt n (by decide)) _ (Nat.mod_lt m (by decide))
    rw [fixedDigits, fixedDigits, append_lt_append_iff (by simp), ih hn' hm', hlast]
    constructor
    · rintro (hlt | ⟨heq, hlt⟩)
      · omega
      · have := fixedDigits_inj hn' hm' heq
        omega
    · intro hlt
      by_cases hq : n / 10 = m / 10
      · exact Or.inr ⟨by rw [hq], by omega⟩
      · exact Or.inl (by omega)

end DecimalText
