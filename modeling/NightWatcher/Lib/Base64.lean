import Mathlib.Data.List.Basic

/-!
# Base64 without padding

Three bytes are four digits of six bits; one or two bytes at the end are two or three digits. A
byte is a character below 256 here. `encode` and `decode` take the alphabet as a parameter
(`Alphabet`); what is encoded decodes to what it was (`decode_encode`), and is made of digits only
(`mem_encode`). `encodePadded` fills the last group up.
-/

namespace Base64

/-- 64 digits, and how they are read. -/
structure Alphabet where
  digit : Nat → Char
  value : Char → Option Nat
  value_digit : ∀ n < 64, value (digit n) = some n

variable (A : Alphabet)

def encode : List Char → List Char
  | a :: b :: c :: rest =>
    A.digit (a.toNat / 4) :: A.digit (a.toNat % 4 * 16 + b.toNat / 16) ::
      A.digit (b.toNat % 16 * 4 + c.toNat / 64) :: A.digit (c.toNat % 64) :: encode rest
  | [a, b] =>
    [A.digit (a.toNat / 4), A.digit (a.toNat % 4 * 16 + b.toNat / 16), A.digit (b.toNat % 16 * 4)]
  | [a] => [A.digit (a.toNat / 4), A.digit (a.toNat % 4 * 16)]
  | [] => []

/-- Every group of four digits, the last one filled up. -/
def encodePadded : List Char → List Char
  | a :: b :: c :: rest =>
    A.digit (a.toNat / 4) :: A.digit (a.toNat % 4 * 16 + b.toNat / 16) ::
      A.digit (b.toNat % 16 * 4 + c.toNat / 64) :: A.digit (c.toNat % 64) :: encodePadded rest
  | [a, b] =>
    [A.digit (a.toNat / 4), A.digit (a.toNat % 4 * 16 + b.toNat / 16), A.digit (b.toNat % 16 * 4), '=']
  | [a] => [A.digit (a.toNat / 4), A.digit (a.toNat % 4 * 16), '=', '=']
  | [] => []

/-- Bits that are left over have to be zero. -/
def decode : List Char → Option (List Char)
  | w :: x :: y :: z :: rest => do
    let w ← A.value w
    let x ← A.value x
    let y ← A.value y
    let z ← A.value z
    return Char.ofNat (w * 4 + x / 16) :: Char.ofNat (x % 16 * 16 + y / 4) ::
        Char.ofNat (y % 4 * 64 + z) ::
      (← decode rest)
  | [w, x, y] => do
    let w ← A.value w
    let x ← A.value x
    let y ← A.value y
    if y % 4 = 0 then return [Char.ofNat (w * 4 + x / 16), Char.ofNat (x % 16 * 16 + y / 4)] else none
  | [w, x] => do
    let w ← A.value w
    let x ← A.value x
    if x % 16 = 0 then return [Char.ofNat (w * 4 + x / 16)] else none
  | [_] => none
  | [] => some []

variable {A}

/-- What is encoded decodes to what it was. -/
theorem decode_encode {cs : List Char} (hcs : ∀ c ∈ cs, c.toNat < 256) :
    decode A (encode A cs) = some cs := by
  induction cs using encode.induct with
  | case1 a b c rest ih =>
    have ha := hcs a (by simp)
    have hb := hcs b (by simp)
    have hc := hcs c (by simp)
    have hrest := ih fun x hx => hcs x (by simp [hx])
    have hfirst : a.toNat / 4 * 4 + (a.toNat % 4 * 16 + b.toNat / 16) / 16 = a.toNat := by omega
    have hsecond : (a.toNat % 4 * 16 + b.toNat / 16) %
        16 * 16 + (b.toNat % 16 * 4 + c.toNat / 64) / 4 = b.toNat := by
      omega
    have hthird : (b.toNat % 16 * 4 + c.toNat / 64) % 4 * 64 + c.toNat % 64 = c.toNat := by omega
    unfold encode decode
    rw [A.value_digit _ (by omega), A.value_digit _ (by omega), A.value_digit _ (by omega),
      A.value_digit _ (by omega), hrest]
    simp only [Option.bind_eq_bind, Option.bind_some, Option.pure_def, hfirst, hsecond, hthird,
        Char.ofNat_toNat]
  | case2 a b =>
    have ha := hcs a (by simp)
    have hb := hcs b (by simp)
    have hfirst : a.toNat / 4 * 4 + (a.toNat % 4 * 16 + b.toNat / 16) / 16 = a.toNat := by omega
    have hsecond : (a.toNat % 4 * 16 + b.toNat / 16) % 16 * 16 + b.toNat % 16 * 4 / 4 =
        b.toNat := by omega
    unfold encode decode
    rw [A.value_digit _ (by omega), A.value_digit _ (by omega), A.value_digit _ (by omega)]
    simp only [Option.bind_eq_bind, Option.bind_some, Option.pure_def, hfirst, hsecond,
      Char.ofNat_toNat, Nat.mul_mod_left, if_true]
  | case3 a =>
    have ha := hcs a (by simp)
    have hfirst : a.toNat / 4 * 4 + a.toNat % 4 * 16 / 16 = a.toNat := by omega
    unfold encode decode
    rw [A.value_digit _ (by omega), A.value_digit _ (by omega)]
    simp only [Option.bind_eq_bind, Option.bind_some, Option.pure_def, hfirst, Char.ofNat_toNat,
      Nat.mul_mod_left, if_true]
  | case4 => rfl

/-- Another alphabet writes the same text in its own digits. -/
theorem encode_map {B : Alphabet} {f : Char → Char} (h : ∀ n < 64, f (A.digit n) = B.digit n)
    {cs : List Char}
    (hcs : ∀ c ∈ cs, c.toNat < 256) : (encode A cs).map f = encode B cs := by
  induction cs using encode.induct with
  | case1 a b c rest ih =>
    have ha := hcs a (by simp)
    have hb := hcs b (by simp)
    have hc := hcs c (by simp)
    have hrest := ih fun x hx => hcs x (by simp [hx])
    unfold encode
    rw [List.map_cons, List.map_cons, List.map_cons, List.map_cons, h _ (by omega), h _ (by omega),
      h _ (by omega), h _ (by omega), hrest]
  | case2 a b =>
    have ha := hcs a (by simp)
    have hb := hcs b (by simp)
    unfold encode
    rw [List.map_cons, List.map_cons, List.map_cons, List.map_nil, h _ (by omega), h _ (by omega),
        h _ (by omega)]
  | case3 a =>
    have ha := hcs a (by simp)
    unfold encode
    rw [List.map_cons, List.map_cons, List.map_nil, h _ (by omega), h _ (by omega)]
  | case4 => rfl

/-- A text is made of digits. -/
theorem mem_encode {cs : List Char} (hcs : ∀ c ∈ cs, c.toNat < 256) {x : Char} (hx : x ∈ encode A cs) :
    ∃ n < 64, x = A.digit n := by
  induction cs using encode.induct with
  | case1 a b c rest ih =>
    have ha := hcs a (by simp)
    have hb := hcs b (by simp)
    unfold encode at hx
    rcases List.mem_cons.mp hx with rfl | hx
    · exact ⟨_, by omega, rfl⟩
    rcases List.mem_cons.mp hx with rfl | hx
    · exact ⟨_, by omega, rfl⟩
    rcases List.mem_cons.mp hx with rfl | hx
    · have hc := hcs c (by simp)
      exact ⟨_, by omega, rfl⟩
    rcases List.mem_cons.mp hx with rfl | hx
    · exact ⟨_, by omega, rfl⟩
    · exact ih (fun y hy => hcs y (by simp [hy])) hx
  | case2 a b =>
    have ha := hcs a (by simp)
    have hb := hcs b (by simp)
    unfold encode at hx
    rcases List.mem_cons.mp hx with rfl | hx
    · exact ⟨_, by omega, rfl⟩
    rcases List.mem_cons.mp hx with rfl | hx
    · exact ⟨_, by omega, rfl⟩
    · rw [List.mem_singleton.mp hx]
      exact ⟨_, by omega, rfl⟩
  | case3 a =>
    have ha := hcs a (by simp)
    unfold encode at hx
    rcases List.mem_cons.mp hx with rfl | hx
    · exact ⟨_, by omega, rfl⟩
    · rw [List.mem_singleton.mp hx]
      exact ⟨_, by omega, rfl⟩
  | case4 => exact absurd hx List.not_mem_nil

/-- The padding is at the end, and is all there is besides. -/
theorem encodePadded_eq (cs : List Char) :
    ∃ n, encodePadded A cs = encode A cs ++ List.replicate n '=' := by
  induction cs using encode.induct with
  | case1 a b c rest ih =>
    obtain ⟨n, hn⟩ := ih
    refine ⟨n, ?_⟩
    unfold encodePadded encode
    rw [hn]
    rfl
  | case2 a b => exact ⟨1, rfl⟩
  | case3 a => exact ⟨2, rfl⟩
  | case4 => exact ⟨0, rfl⟩

end Base64
