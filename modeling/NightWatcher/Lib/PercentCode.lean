import Mathlib.Data.List.Basic
import Mathlib.Data.String.Basic

/-!
# Percent encoding

A byte is a character below 256 here, as in a C++ string; `octets` are the bytes of a text. `encode`
keeps the bytes it is told to keep and writes every other as a percent sign and two hex digits. What
it wrote decodes to what it was given (`decode_encode`), and besides what is kept it has only percent
signs and hex digits (`mem_encode`), so it can be cut out of a query string again.
-/

namespace PercentCode

/-- The bytes of a text. -/
def octets (s : String) : List Char := s.toUTF8.data.toList.map fun b => Char.ofNat b.toNat

/-- The text of some bytes, if they are UTF-8. -/
def ofOctets (cs : List Char) : Option String :=
  String.fromUTF8? ⟨(cs.map fun c => UInt8.ofNat c.toNat).toArray⟩

/-- A byte is the code of its character. -/
theorem toNat_ofNat_lt {n : Nat} (h : n < 256) : (Char.ofNat n).toNat = n := by
  have hvalid : n.isValidChar := Or.inl (by omega)
  unfold Char.ofNat
  rw [dif_pos hvalid]
  rfl

/-- The octets of a text are bytes. -/
theorem octets_lt (s : String) : ∀ c ∈ octets s, c.toNat < 256 := by
  intro c hc
  obtain ⟨b, -, rfl⟩ := List.mem_map.mp hc
  rw [toNat_ofNat_lt b.toNat_lt]
  exact b.toNat_lt

/-- The octets of a text read back to it. -/
theorem ofOctets_octets (s : String) : ofOctets (octets s) = some s := by
  have hbytes : (octets s).map (fun c => UInt8.ofNat c.toNat) = s.toUTF8.data.toList := by
    unfold octets
    rw [List.map_map]
    refine List.map_id'' (fun b => ?_) _
    show UInt8.ofNat (Char.ofNat b.toNat).toNat = b
    rw [toNat_ofNat_lt b.toNat_lt, UInt8.ofNat_toNat]
  unfold ofOctets
  rw [hbytes, Array.toArray_toList]
  exact dif_pos s.isValidUTF8

/-! ## Hex digits -/

/-- The hexadecimal digit of a number below 16, in capitals. -/
def hexDigit (n : Nat) : Char := "0123456789ABCDEF".toList.getD n '0'

/-- The value of a hexadecimal digit, capital or small. -/
def hexValue (c : Char) : Option Nat :=
  if c.isDigit then some (c.toNat - 48)
  else if 'A' ≤ c ∧ c ≤ 'F' then some (c.toNat - 55)
  else if 'a' ≤ c ∧ c ≤ 'f' then some (c.toNat - 87)
  else none

/-- A written digit has its value. -/
theorem hexValue_hexDigit {n : Nat} (h : n < 16) : hexValue (hexDigit n) = some n := by
  have hall : ∀ n < 16, hexValue (hexDigit n) = some n := by decide
  exact hall n h

/-- A written digit is a letter or a digit. -/
theorem isAlphanum_hexDigit {n : Nat} (h : n < 16) : (hexDigit n).isAlphanum = true := by
  have hall : ∀ n < 16, (hexDigit n).isAlphanum = true := by decide
  exact hall n h

/-! ## Encoding and decoding -/

/-- A byte as a percent sign and two digits. -/
def encodeOctet (c : Char) : List Char := ['%', hexDigit (c.toNat / 16), hexDigit (c.toNat % 16)]

/-- Percent-encoding: the kept characters stay, the others are escaped. -/
def encode (keep : Char → Bool) (cs : List Char) : List Char :=
  cs.flatMap fun c => if keep c then [c] else encodeOctet c

/-- The value of a parameter of a query string: a plus sign is a blank, a malformed escape an error. -/
def decode : List Char → Option (List Char)
  | [] => some []
  | '%' :: h :: l :: rest => do
    let high ← hexValue h
    let low ← hexValue l
    return Char.ofNat (16 * high + low) :: (← decode rest)
  | '%' :: _ => none
  | '+' :: rest => (decode rest).map (' ' :: ·)
  | c :: rest => (decode rest).map (c :: ·)

variable {keep : Char → Bool}

/-- An escaped byte decodes to itself. -/
theorem decode_encodeOctet {c : Char} (hc : c.toNat < 256) (rest : List Char) :
    decode (encodeOctet c ++ rest) = (decode rest).map (c :: ·) := by
  have hvalue : 16 * (c.toNat / 16) + c.toNat % 16 = c.toNat := Nat.div_add_mod _ _
  unfold encodeOctet
  rw [List.cons_append, List.cons_append, List.cons_append, List.nil_append, decode,
    hexValue_hexDigit (by omega), hexValue_hexDigit (by omega)]
  simp only [Option.bind_eq_bind, Option.bind_some, hvalue, Char.ofNat_toNat, Option.pure_def]
  cases decode rest <;> rfl

/-- A character other than `%` and `+` stays. -/
theorem decode_kept {c : Char} (hpercent : c ≠ '%') (hplus : c ≠ '+') (rest : List Char) :
    decode (c :: rest) = (decode rest).map (c :: ·) := by
  rw [decode]
  · exact fun _ _ _ h _ => hpercent h
  · exact hpercent
  · exact hplus

/-- A decoder, which can fail in some way or not at all, that reads an escaped byte and leaves alone
what is kept. -/
structure Undoes {m : Type → Type} [Monad m] (keep : Char → Bool) (dec : List Char → m (List Char)) :
    Prop where
  nil : dec [] = pure []
  octet : ∀ {c : Char}, c.toNat < 256 → ∀ rest, dec (encodeOctet c ++ rest) = (c :: ·) <$> dec rest
  kept : ∀ {c : Char}, keep c = true → ∀ rest, dec (c :: rest) = (c :: ·) <$> dec rest

/-- It reads back what was encoded. -/
theorem Undoes.encode {m : Type → Type} [Monad m] [LawfulMonad m] {dec : List Char → m (List Char)}
    (h : Undoes keep dec) {cs : List Char} (hcs : ∀ c ∈ cs, c.toNat < 256) :
    dec (encode keep cs) = pure cs := by
  induction cs with
  | nil => exact h.nil
  | cons c rest ih =>
    have hrest := ih fun x hx => hcs x (List.mem_cons_of_mem _ hx)
    unfold PercentCode.encode at hrest ⊢
    rw [List.flatMap_cons]
    by_cases hc : keep c = true
    · rw [if_pos hc, List.singleton_append, h.kept hc, hrest, map_pure]
    · rw [if_neg hc, h.octet (hcs c List.mem_cons_self), hrest, map_pure]

/-- It leaves alone what is kept. -/
theorem Undoes.plain {m : Type → Type} [Monad m] [LawfulMonad m] {dec : List Char → m (List Char)}
    (h : Undoes keep dec) {cs : List Char} (hcs : ∀ c ∈ cs, keep c = true) : dec cs = pure cs := by
  induction cs with
  | nil => exact h.nil
  | cons c rest ih =>
    rw [h.kept (hcs c List.mem_cons_self), ih fun x hx => hcs x (List.mem_cons_of_mem _ hx), map_pure]

/-- `decode` undoes every encoding that escapes `%` and `+`. -/
theorem undoes_decode (hpercent : keep '%' = false)
    (hplus : keep '+' = false) : Undoes keep decode where
  nil := rfl
  octet hc rest := decode_encodeOctet hc rest
  kept {c} hc rest := by
    refine decode_kept (fun h => ?_) (fun h => ?_) rest
    · rw [h, hpercent] at hc
      cases hc
    · rw [h, hplus] at hc
      cases hc

/-- What is encoded decodes to what it was. -/
theorem decode_encode (hpercent : keep '%' = false) (hplus : keep '+' = false) {cs : List Char}
    (hcs : ∀ c ∈ cs, c.toNat < 256) : decode (encode keep cs) = some cs :=
  (undoes_decode hpercent hplus).encode hcs

/-- An escaped byte is made of percent sign, letters and digits. -/
theorem mem_encodeOctet {c x : Char} (hc : c.toNat < 256) (h : x ∈ encodeOctet c) :
    x = '%' ∨ x.isAlphanum = true := by
  unfold encodeOctet at h
  simp only [List.mem_cons, List.not_mem_nil, or_false] at h
  rcases h with rfl | rfl | rfl
  · exact Or.inl rfl
  · exact Or.inr (isAlphanum_hexDigit (by omega))
  · exact Or.inr (isAlphanum_hexDigit (by omega))

/-- What stands in an encoded text. -/
theorem mem_encode {cs : List Char} (hcs : ∀ c ∈ cs, c.toNat < 256) {c : Char}
    (h : c ∈ encode keep cs) :
    keep c = true ∨ c = '%' ∨ c.isAlphanum = true := by
  obtain ⟨x, hx, hmem⟩ := List.mem_flatMap.mp h
  have hlt := hcs x hx
  by_cases hkeep : keep x = true
  · rw [if_pos hkeep] at hmem
    obtain rfl := List.mem_singleton.mp hmem
    exact Or.inl hkeep
  · rw [if_neg hkeep] at hmem
    exact Or.inr (mem_encodeOctet hlt hmem)

/-- Nor is there anything else. -/
theorem notMem_encode {cs : List Char} (hcs : ∀ c ∈ cs, c.toNat < 256) {d : Char}
    (hkeep : keep d = false)
    (hpercent : d ≠ '%') (halnum : d.isAlphanum = false) : d ∉ encode keep cs := by
  intro h
  rcases mem_encode hcs h with hd | hd | hd
  · rw [hkeep] at hd
    cases hd
  · exact hpercent hd
  · rw [halnum] at hd
    cases hd

end PercentCode
