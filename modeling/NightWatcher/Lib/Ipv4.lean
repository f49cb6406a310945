import Mathlib
import NightWatcher.Lib.DecimalText

/-!
# IPv4 addresses

An address is 32 bits, its text four numbers with points between them (`inetNtop`, `inetPton`).
A block of addresses is given by the leading bits they share; `mask_and` and `mask_or` say which
numbers its first and its last address are.
-/

namespace Ipv4

open DecimalText

/-! ## The text of an address -/

/-- The four bytes, the leading one first. -/
def octets (v : BitVec 32) : List Nat :=
  [v.toNat / 2 ^ 24, v.toNat / 2 ^ 16 % 256, v.toNat / 2 ^ 8 % 256, v.toNat % 256]

/-- `inet_ntop` -/
def inetNtop (v : BitVec 32) : List Char :=
  ['.'].intercalate ((octets v).map (Nat.toDigits 10))

/-- One number of an address: no sign, no leading zero, at most 255. -/
def octet (ds : List Char) : Option Nat :=
  if ds ≠ [] ∧ (∀ c ∈ ds, c.isDigit = true) ∧ (ds.head? = some '0' → ds = ['0']) ∧
      digitsValue ds < 256 then
    some (digitsValue ds)
  else none

/-- `inet_pton` -/
def inetPton (cs : List Char) : Option (BitVec 32) :=
  match (cs.splitOn '.').mapM octet with
  | some [a, b, c, d] => some (BitVec.ofNat 32 (((a * 256 + b) * 256 + c) * 256 + d))
  | _ => none

/-- Only zero is written with a zero in front. -/
theorem toDigits_head {n : Nat} (h : (Nat.toDigits 10 n).head? = some '0') :
    Nat.toDigits 10 n = ['0'] := by
  by_cases hlt : n < 10
  · rw [Nat.toDigits_of_lt_base hlt] at h ⊢
    exact congrArg (· :: []) (Option.some.inj h)
  · exfalso
    induction n using Nat.strong_induction_on with
    | _ n ih =>
      have hstep := Nat.toDigits_append_toDigits (b := 10) (n := n / 10) (d := n % 10)
        (by decide) (by omega) (Nat.mod_lt _ (by decide))
      rw [Nat.div_add_mod] at hstep
      rw [← hstep] at h
      have hhead : (Nat.toDigits 10 (n / 10)).head? = some '0' := by
        obtain ⟨c, rest, hcons⟩ :=
          List.exists_cons_of_ne_nil (Nat.toDigits_ne_nil (b := 10) (n := n / 10))
        rw [hcons] at h ⊢
        exact h
      by_cases hsmall : n / 10 < 10
      · rw [Nat.toDigits_of_lt_base hsmall] at hhead
        have hzero := Option.some.inj hhead
        have hpos : ∀ d < 10, d ≠ 0 → Nat.digitChar d ≠ '0' := by decide
        exact hpos _ hsmall (by omega) hzero
      · exact ih (n / 10) (by omega) hhead hsmall

theorem octet_toDigits {n : Nat} (h : n < 256) : octet (Nat.toDigits 10 n) = some n := by
  have hvalue : digitsValue (Nat.toDigits 10 n) = n := Nat.ofDigitChars_ten_toDigits
  unfold octet
  rw [hvalue]
  refine if_pos ⟨Nat.toDigits_ne_nil, fun c hc => ?_, toDigits_head, h⟩
  exact Nat.isDigit_of_mem_toDigits (by decide) (by decide) hc

theorem octets_lt (v : BitVec 32) : ∀ n ∈ octets v, n < 256 := by
  intro n hn
  have hv := v.isLt
  unfold octets at hn
  simp only [List.mem_cons, List.not_mem_nil, or_false] at hn
  rcases hn with h | h | h | h
  all_goals omega

theorem mapM_octet {ns : List Nat} (h : ∀ n ∈ ns, n < 256) :
    (ns.map (Nat.toDigits 10)).mapM octet = some ns := by
  induction ns with
  | nil => rfl
  | cons n ns ih =>
    rw [List.map_cons, List.mapM_cons, octet_toDigits (h n List.mem_cons_self),
      ih fun m hm => h m (List.mem_cons_of_mem n hm)]
    rfl

/-- What is written is read back. -/
theorem inetPton_inetNtop (v : BitVec 32) : inetPton (inetNtop v) = some v := by
  have hpoint : ∀ part ∈ (octets v).map (Nat.toDigits 10), '.' ∉ part := by
    intro part hpart hmem
    obtain ⟨n, -, rfl⟩ := List.mem_map.mp hpart
    exact absurd (Nat.isDigit_of_mem_toDigits (b := 10) (by decide) (by decide) hmem) (by decide)
  have hsplit : (inetNtop v).splitOn '.' = (octets v).map (Nat.toDigits 10) :=
    List.splitOn_intercalate '.' hpoint (List.cons_ne_nil _ _)
  have hv := v.isLt
  unfold inetPton
  rw [hsplit, mapM_octet (octets_lt v)]
  show some (BitVec.ofNat 32 (((v.toNat / 2 ^ 24 * 256 + v.toNat / 2 ^ 16 % 256) * 256 +
    v.toNat / 2 ^ 8 % 256) * 256 + v.toNat % 256)) = some v
  have hjoin : ((v.toNat / 2 ^ 24 * 256 + v.toNat / 2 ^ 16 % 256) * 256 +
      v.toNat / 2 ^ 8 % 256) * 256 + v.toNat % 256 = v.toNat := by omega
  rw [hjoin, BitVec.ofNat_toNat, BitVec.setWidth_eq]

theorem inetNtop_injective {v w : BitVec 32} (h : inetNtop v = inetNtop w) : v = w := by
  have hread := inetPton_inetNtop v
  rw [h, inetPton_inetNtop] at hread
  exact (Option.some.inj hread).symm

/-- An address is written with digits and points. -/
theorem mem_inetNtop {v : BitVec 32} {c : Char} (h : c ∈ inetNtop v) : c = '.' ∨ c.isDigit = true := by
  have hall : ∀ parts : List (List Char), (∀ part ∈ parts, ∀ x ∈ part, x.isDigit = true) →
      ∀ x ∈ ['.'].intercalate parts, x = '.' ∨ x.isDigit = true := by
    intro parts
    induction parts with
    | nil => exact fun _ x hx => absurd hx List.not_mem_nil
    | cons part rest ih =>
      intro hparts x hx
      have hpart := hparts part List.mem_cons_self
      have hrest := ih fun p hp => hparts p (List.mem_cons_of_mem part hp)
      cases rest with
      | nil =>
        rw [List.intercalate_singleton] at hx
        exact Or.inr (hpart x hx)
      | cons next rest =>
        rw [List.intercalate_cons_cons] at hx
        rcases List.mem_append.mp hx with hx | hx
        · rcases List.mem_append.mp hx with hx | hx
          · exact Or.inr (hpart x hx)
          · exact Or.inl (List.mem_singleton.mp hx)
        · exact hrest x hx
  refine hall _ (fun part hpart x hx => ?_) c h
  obtain ⟨n, -, rfl⟩ := List.mem_map.mp hpart
  exact Nat.isDigit_of_mem_toDigits (by decide) (by decide) hx

/-! ## Blocks of addresses -/

/-- The mask of the leading `len` bits. The shift by 32 is undefined, so it is not made. -/
def netmask (len : Nat) : BitVec 32 := if len = 0 then 0 else 0xFFFFFFFF#32 <<< (32 - len)

/-- As many leading bits as the length says, then none. -/
theorem netmask_eq {len : Nat} (h : len ≤ 32) : netmask len = BitVec.allOnes 32 <<< (32 - len) := by
  have hall : ∀ n < 33, netmask n = BitVec.allOnes 32 <<< (32 - n) := by decide
  exact hall len (by omega)

/-- The first address of the block. -/
theorem mask_and (v : BitVec 32) {len : Nat} (h : len ≤ 32) :
    (v &&& netmask len).toNat = v.toNat / 2 ^ (32 - len) * 2 ^ (32 - len) := by
  have hv := v.isLt
  have hle := Nat.div_mul_le_self v.toNat (2 ^ (32 - len))
  rw [netmask_eq h, ← BitVec.shiftLeft_ushiftRight, BitVec.toNat_shiftLeft, BitVec.toNat_ushiftRight,
    Nat.shiftRight_eq_div_pow, Nat.shiftLeft_eq]
  exact Nat.mod_eq_of_lt (by omega)

/-- What the mask leaves out, all ones. -/
theorem not_netmask {len : Nat} (h : len ≤ 32) : (~~~netmask len).toNat = 2 ^ (32 - len) - 1 := by
  have hall : ∀ n < 33, (~~~netmask n).toNat = 2 ^ (32 - n) - 1 := by decide
  exact hall len (by omega)

/-- The last address of the block. -/
theorem mask_or (v : BitVec 32) {len : Nat} (h : len ≤ 32) :
    (v &&& netmask len ||| ~~~netmask len).toNat =
      v.toNat / 2 ^ (32 - len) * 2 ^ (32 - len) + (2 ^ (32 - len) - 1) := by
  have hlt : 2 ^ (32 - len) - 1 < 2 ^ (32 - len) := Nat.sub_lt (Nat.two_pow_pos _) Nat.one_pos
  rw [BitVec.toNat_or, mask_and v h, not_netmask h, Nat.mul_comm]
  exact (Nat.two_pow_add_eq_or_of_lt hlt _).symm

end Ipv4
