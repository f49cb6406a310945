import NightWatcher.Lib.NumberText
import NightWatcher.Lib.TextLines

/-!
# `password.cpp`: hashing and verifying a password

A stored password is the text `pbkdf2_sha256$<iterations>$<salt_hex>$<hash_hex>`. `verifyPassword`
takes it apart with `std::getline` and `std::stoi`, which accept more than that, and `std::stoi`
throws on what is no number: inside its `try` for the iterations, outside of it for the two fields of
hexadecimal digits. `verify_iff` says for which texts it does neither more nor less than refuse what
is malformed. What `hashPassword` writes is among them, and verifies for the passwords that have its
key (`hash_verify`).

PBKDF2 is any total function (`Kdf`). A `std::string` is a list of characters.
-/

namespace NightWatcher.Auth

open NumberText DecimalText TextLines

abbrev Byte := BitVec 8

/-- `PKCS5_PBKDF2_HMAC` with SHA-256: the password, the salt, the iterations and the length of the
key. -/
structure Kdf where
  derive : List Char → List Byte → Int → Nat → List Byte
  length_derive : ∀ pw salt iters outlen, (derive pw salt iters outlen).length = outlen

/-- `static_cast<int>` of a `size_t`. -/
def toInt (n : Nat) : Int := ((n : Int) + 2 ^ 31) % 2 ^ 32 - 2 ^ 31

/-- `kIterations`. -/
def kIterations : Nat := 120000

/-- `kSaltLen`. -/
def kSaltLen : Nat := 16

/-- `kHashLen`. -/
def kHashLen : Nat := 32

/-- The digits of `to_hex`. -/
def kHex (n : Nat) : Char := "0123456789abcdef".toList.getD n '0'

/-- `to_hex`: two digits a byte. -/
def toHex (data : List Byte) : List Char :=
  data.flatMap fun (b : Byte) => [kHex (b >>> 4).toNat, kHex (b &&& 0x0f#8).toNat]

/-- `from_hex`: two characters through `std::stoi`, an odd one at the end ignored. -/
def fromHex : List Char → Except String (List Byte)
  | a :: b :: rest => do
    let v ← stoiHex [a, b]
    let more ← fromHex rest
    return BitVec.ofInt 8 v :: more
  | _ => return []

/-- `pbkdf2`: the key derivation, or its failure thrown. -/
def pbkdf2 (k : Kdf) (pw : List Char) (salt : List Byte) (iters outlen : Int) :
    Except String (List Byte) :=
  -- a negative length is a huge one for the vector
  if outlen < 0 then .error "cannot create std::vector larger than max_size()"
  else .ok (k.derive pw salt iters outlen.toNat)

/-- The name of the scheme in the first field. -/
def scheme : List Char := "pbkdf2_sha256".toList

/-- What `RAND_bytes` fills in. -/
structure Salt where
  bytes : List Byte
  length_bytes : bytes.length = kSaltLen

/-- The text of a stored password. -/
def stored (iters : Nat) (salt hash : List Byte) : List Char :=
  scheme ++ '$' :: (Nat.toDigits 10 iters ++ '$' :: (toHex salt ++ '$' :: toHex hash))

/-- `random` is `none` where `RAND_bytes` fails. -/
def hashPassword (k : Kdf) (random : Option Salt) (password : List Char) :
    Except String (List Char) :=
  match random with
  | none => .error "RAND_bytes failed"
  | some salt => do
    let hash ← pbkdf2 k password salt.bytes kIterations kHashLen
    return stored kIterations salt.bytes hash

/-- `verify_password`: fields, digits, derivation and a comparison of all bytes. -/
def verifyPassword (k : Kdf) (password encoded : List Char) : Except String Bool :=
  match getlines '$' encoded with
  | [name, iterations, saltHex, hashHex] =>
    if name ≠ scheme then return false
    else
      match stoi iterations with
      | .error _ => return false
      | .ok iters =>
        if iters < 1 then return false
        else do
          let salt ← fromHex saltHex
          let expected ← fromHex hashHex
          if salt = [] ∨ expected = [] then return false
          let actual ← pbkdf2 k password salt iters (toInt expected.length)
          if actual.length ≠ expected.length then return false
          let diff := (List.zipWith (· ^^^ ·) actual expected).foldl (· ||| ·) 0#8
          return diff = 0#8
  | _ => return false

/-! ## What is asked of it -/

/-- A non-empty field of whole bytes. -/
structure HexField (cs : List Char) : Prop where
  some : cs ≠ []
  even : cs.length % 2 = 0
  digits : ∀ c ∈ cs, isHexDigit c = true

/-- A decimal number of at least one. -/
structure Iterations (cs : List Char) : Prop where
  some : cs ≠ []
  digits : ∀ c ∈ cs, c.isDigit = true
  positive : 1 ≤ digitsValue cs

/-- The form of a stored password. -/
def WellFormed (encoded : List Char) : Prop :=
  ∃ iterations salt hash, encoded = scheme ++ '$' :: (iterations ++ '$' :: (salt ++ '$' :: hash)) ∧
    Iterations iterations ∧ HexField salt ∧ HexField hash

/-- It answers, and does not accept what is malformed. -/
def Sound (k : Kdf) (password encoded : List Char) : Prop :=
  ∃ accepted, verifyPassword k password encoded = .ok accepted ∧
    (accepted = true → WellFormed encoded)

/-! ## The fields -/

/-- Every two characters are read as a number. -/
def HexPairs : List Char → Prop
  | a :: b :: rest => HexPair a b ∧ HexPairs rest
  | _ => True

instance : ∀ cs : List Char, Decidable (HexPairs cs)
  | a :: b :: rest =>
    have := instDecidableHexPairs rest
    inferInstanceAs (Decidable (HexPair a b ∧ HexPairs rest))
  | [] => isTrue trivial
  | [_] => isTrue trivial

/-- Pairs that `std::stoi` accepts are read. -/
theorem fromHex_ok : ∀ {cs : List Char}, HexPairs cs →
    ∃ bytes, fromHex cs = .ok bytes ∧ bytes.length = cs.length / 2
  | [], _ => ⟨[], rfl, rfl⟩
  | [_], _ => ⟨[], rfl, by simp⟩
  | a :: b :: rest, ⟨hpair, hrest⟩ => by
    obtain ⟨v, hv⟩ := stoiHex_pair.mpr hpair
    obtain ⟨bytes, hbytes, hlength⟩ := fromHex_ok hrest
    refine ⟨BitVec.ofInt 8 v :: bytes, ?_, ?_⟩
    · rw [fromHex, hv, hbytes]
      rfl
    · rw [List.length_cons, List.length_cons, List.length_cons, hlength]
      omega

/-- Others throw. -/
theorem fromHex_error : ∀ {cs : List Char}, ¬HexPairs cs → ∃ e, fromHex cs = .error e
  | [], h => absurd trivial h
  | [_], h => absurd trivial h
  | a :: b :: rest, h => by
    rw [fromHex]
    cases hv : stoiHex [a, b] with
    | error e => exact ⟨e, rfl⟩
    | ok v =>
      have hpair : HexPair a b := stoiHex_pair.mp ⟨v, hv⟩
      obtain ⟨e, he⟩ := fromHex_error fun hrest => h ⟨hpair, hrest⟩
      rw [he]
      exact ⟨e, rfl⟩

/-- Digits are such pairs. -/
theorem hexPairs_of_digits : ∀ {cs : List Char}, (∀ c ∈ cs, isHexDigit c = true) → HexPairs cs
  | [], _ => trivial
  | [_], _ => trivial
  | a :: b :: rest, h => by
    refine ⟨Or.inl (h a List.mem_cons_self), hexPairs_of_digits fun c hc => ?_⟩
    exact h c (List.mem_cons_of_mem a (List.mem_cons_of_mem b hc))

/-! ## The comparison -/

/-- The collected difference is zero exactly when every one is. -/
theorem foldl_or_eq_zero (bytes : List Byte) (acc : Byte) :
    bytes.foldl (· ||| ·) acc = 0#8 ↔ acc = 0#8 ∧ ∀ b ∈ bytes, b = 0#8 := by
  induction bytes generalizing acc with
  | nil => simp
  | cons b rest ih => rw [List.foldl_cons, ih, BitVec.or_eq_zero_iff, List.forall_mem_cons, and_assoc]

/-- It finds no difference exactly between equal texts. -/
theorem diff_eq_zero {actual expected : List Byte} (h : actual.length = expected.length) :
    (List.zipWith (· ^^^ ·) actual expected).foldl (· ||| ·) 0#8 = 0#8 ↔ actual = expected := by
  rw [foldl_or_eq_zero, and_iff_right rfl]
  induction actual generalizing expected with
  | nil =>
    rw [List.eq_nil_of_length_eq_zero h.symm]
    simp
  | cons a rest ih =>
    cases expected with
    | nil => cases h
    | cons e more =>
      rw [List.zipWith_cons_cons, List.forall_mem_cons, ih (Nat.succ.inj h), BitVec.xor_eq_zero_iff,
        List.cons.injEq]

/-! ## The whole -/

/-- A sequence whose first part succeeds. -/
theorem ok_bind {α β : Type} (a : α) (f : α → Except String β) : (Except.ok a >>= f) = f a := rfl

/-- The fields are there, and the number of iterations is one. -/
structure Fields (encoded iterations salt hash : List Char) (iters : Int) : Prop where
  parts : getlines '$' encoded = [scheme, iterations, salt, hash]
  read : stoi iterations = .ok iters
  positive : 1 ≤ iters

/-- Without them the answer is no. -/
theorem verify_refuses (k : Kdf) (password : List Char) {encoded : List Char}
    (h : ∀ iterations salt hash iters, ¬Fields encoded iterations salt hash iters) :
    verifyPassword k password encoded = .ok false := by
  unfold verifyPassword
  split
  next name iterations salt hash hparts =>
    by_cases hname : name = scheme
    · rw [if_neg (not_not.mpr hname)]
      cases hread : stoi iterations with
      | error e => rfl
      | ok iters =>
        by_cases hpos : iters < 1
        · exact if_pos hpos
        · exact absurd ⟨hname ▸ hparts, hread, by omega⟩ (h iterations salt hash iters)
    · exact if_pos hname
  next => rfl

section Fields

variable {encoded iterations salt hash : List Char} {iters : Int}
  (hfields : Fields encoded iterations salt hash iters) (k : Kdf) (password : List Char)
include hfields

/-- `verify_password` past the checks of its fields. -/
theorem verify_fields : verifyPassword k password encoded = (do
    let salt ← fromHex salt
    let expected ← fromHex hash
    if salt = [] ∨ expected = [] then return false
    let actual ← pbkdf2 k password salt iters (toInt expected.length)
    if actual.length ≠ expected.length then return false
    let diff := (List.zipWith (· ^^^ ·) actual expected).foldl (· ||| ·) 0#8
    return diff = 0#8) := by
  have hpos := hfields.positive
  unfold verifyPassword
  rw [hfields.parts]
  dsimp only
  rw [if_neg (not_not.mpr rfl), hfields.read]
  dsimp only
  rw [if_neg (by omega)]

/-- A pair that is no number is an error. -/
theorem verify_throws (h : ¬(HexPairs salt ∧ HexPairs hash)) :
    ∃ e, verifyPassword k password encoded = .error e := by
  rw [verify_fields hfields]
  by_cases hsalt : HexPairs salt
  · obtain ⟨bytes, hbytes, -⟩ := fromHex_ok hsalt
    obtain ⟨e, he⟩ := fromHex_error fun hhash => h ⟨hsalt, hhash⟩
    rw [hbytes, he]
    exact ⟨e, rfl⟩
  · obtain ⟨e, he⟩ := fromHex_error hsalt
    rw [he]
    exact ⟨e, rfl⟩

/-- Fields that are read leave an empty one, a length that is no `int`, or the comparison. -/
theorem verify_compares {bytes expected : List Byte} (hbytes : fromHex salt = .ok bytes)
    (hexpected : fromHex hash = .ok expected) (hlength : bytes.length = salt.length / 2)
    (hlength' : expected.length = hash.length / 2) :
    verifyPassword k password encoded =
      if salt.length < 2 ∨ hash.length < 2 then .ok false
      else if toInt (hash.length / 2) < 0 then
        .error "cannot create std::vector larger than max_size()"
      else .ok (decide (k.derive password bytes iters (toInt (hash.length / 2)).toNat = expected)) := by
  rw [verify_fields hfields, hbytes, ok_bind, hexpected, ok_bind]
  have hempty : (bytes = [] ∨ expected = []) ↔ (salt.length < 2 ∨ hash.length < 2) := by
    rw [← List.length_eq_zero_iff, ← List.length_eq_zero_iff, hlength, hlength']
    omega
  by_cases hshort : salt.length < 2 ∨ hash.length < 2
  · rw [if_pos (hempty.mpr hshort), if_pos hshort]
    rfl
  · rw [if_neg (mt hempty.mp hshort), if_neg hshort]
    unfold pbkdf2
    rw [hlength']
    generalize toInt (hash.length / 2) = outlen
    by_cases hneg : outlen < 0
    · rw [if_pos hneg, if_pos hneg]
      rfl
    · rw [if_neg hneg, if_neg hneg, ok_bind]
      generalize k.derive password bytes iters outlen.toNat = actual
      by_cases hlen : actual.length = expected.length
      · rw [← hlength', if_neg (not_not.mpr hlen)]
        exact congrArg Except.ok (decide_eq_decide.mpr (diff_eq_zero hlen))
      · rw [← hlength', if_pos hlen, decide_eq_false fun heq => hlen (congrArg List.length heq)]
        rfl

end Fields

/-! ## When it is sound -/

/-- A text that the parsers read as they should: it is refused for its fields; or all its pairs of
digits are read, and it is well-formed unless one of the two fields has less than a pair or the
hash has 2 GiB. -/
def ReadsSoundly (encoded : List Char) : Prop :=
  ∀ iterations salt hash iters, Fields encoded iterations salt hash iters →
    (HexPairs salt ∧ HexPairs hash) ∧ (2 ≤ salt.length → 2 ≤ hash.length →
      0 ≤ toInt (hash.length / 2) ∧
          (toInt (hash.length / 2) = (hash.length / 2 : Nat) → WellFormed encoded))

/-- A function that gives one key to all. -/
def constantKdf (key : List Byte) : Kdf where
  derive _ _ _ n := if n = key.length then key else List.replicate n 0#8
  length_derive _ _ _ n := by
    by_cases h : n = key.length
    · rw [if_pos h, h]
    · rw [if_neg h, List.length_replicate]

/-- Exactly for these texts every password is answered, and accepted for well-formed ones only. -/
theorem verify_iff (encoded : List Char) :
    (∀ k password, Sound k password encoded) ↔ ReadsSoundly encoded := by
  constructor
  · intro h iterations salt hash iters hfields
    have hpairs : HexPairs salt ∧ HexPairs hash := by
      by_contra hnot
      obtain ⟨accepted, hok, -⟩ := h (constantKdf []) []
      obtain ⟨e, he⟩ := verify_throws hfields (constantKdf []) [] hnot
      rw [he] at hok
      cases hok
    obtain ⟨bytes, hbytes, hlength⟩ := fromHex_ok hpairs.1
    obtain ⟨expected, hexpected, hlength'⟩ := fromHex_ok hpairs.2
    have hverify := fun k => verify_compares hfields k [] hbytes hexpected hlength hlength'
    refine ⟨hpairs, fun hsalt hhash => ?_⟩
    have hlong : ¬(salt.length < 2 ∨ hash.length < 2) := by omega
    -- a function that gives the expected key
    obtain ⟨accepted, hok, hwell⟩ := h (constantKdf expected) []
    rw [hverify, if_neg hlong] at hok
    by_cases hneg : toInt (hash.length / 2) < 0
    · rw [if_pos hneg] at hok
      cases hok
    · rw [if_neg hneg] at hok
      refine ⟨not_lt.mp hneg, fun hint => hwell ?_⟩
      rw [← Except.ok.inj hok, hint, Int.toNat_natCast]
      exact decide_eq_true (if_pos hlength'.symm)
  · intro h k password
    by_cases hsome : ∃ iterations salt hash iters, Fields encoded iterations salt hash iters
    · obtain ⟨iterations, salt, hash, iters, hfields⟩ := hsome
      obtain ⟨⟨hsalt, hhash⟩, hrest⟩ := h iterations salt hash iters hfields
      obtain ⟨bytes, hbytes, hlength⟩ := fromHex_ok hsalt
      obtain ⟨expected, hexpected, hlength'⟩ := fromHex_ok hhash
      unfold Sound
      rw [verify_compares hfields k password hbytes hexpected hlength hlength']
      by_cases hshort : salt.length < 2 ∨ hash.length < 2
      · rw [if_pos hshort]
        exact ⟨false, rfl, fun h => by cases h⟩
      · obtain ⟨hnonneg, hwell⟩ := hrest (by omega) (by omega)
        rw [if_neg hshort, if_neg (not_lt.mpr hnonneg)]
        refine ⟨_, rfl, fun haccepted => hwell ?_⟩
        -- what was derived has the length of the hash
        have hkey := congrArg List.length (of_decide_eq_true haccepted)
        rw [k.length_derive, hlength'] at hkey
        omega
    · refine ⟨false, verify_refuses k password fun iterations salt hash iters hfields => ?_,
        fun h => by cases h⟩
      exact hsome ⟨iterations, salt, hash, iters, hfields⟩

/-- A salt that is no number throws, where the answer should be no. -/
theorem damaged_salt_throws :
    ¬∀ k password, Sound k password "pbkdf2_sha256$1$zz$00".toList := by
  intro h
  have hfields : Fields "pbkdf2_sha256$1$zz$00".toList "1".toList "zz".toList "00".toList 1 :=
    ⟨by decide, @stoi_toDigits 1 (by omega), by decide⟩
  obtain ⟨e, he⟩ := verify_throws hfields (constantKdf []) [] (by decide)
  obtain ⟨accepted, hok, -⟩ := h (constantKdf []) []
  rw [he] at hok
  cases hok

/-! ## What was hashed -/

/-- The digits are those of a hexadecimal alphabet. -/
theorem kHex_alphabet : HexAlphabet kHex := by
  unfold HexAlphabet
  decide

/-- The two halves of a byte. -/
theorem toNat_halves (b : Byte) :
    (b >>> 4).toNat = b.toNat / 16 ∧ (b &&& 0x0f#8).toNat = b.toNat % 16 := by
  refine ⟨?_, ?_⟩
  · rw [BitVec.toNat_ushiftRight, Nat.shiftRight_eq_div_pow]
  · rw [BitVec.toNat_and]
    exact Nat.and_two_pow_sub_one_eq_mod b.toNat 4

/-- A byte is its two digits. -/
theorem toHex_cons (b : Byte) (rest : List Byte) :
    toHex (b :: rest) = kHex (b.toNat / 16) :: kHex (b.toNat % 16) :: toHex rest := by
  obtain ⟨hhigh, hlow⟩ := toNat_halves b
  unfold toHex
  rw [List.flatMap_cons, hhigh, hlow]
  rfl

/-- The digits are twice the bytes. -/
theorem toHex_length (data : List Byte) : (toHex data).length = 2 * data.length := by
  induction data with
  | nil => rfl
  | cons b rest ih =>
    rw [toHex_cons, List.length_cons, List.length_cons, List.length_cons, ih]
    omega

/-- What is written are digits. -/
theorem toHex_digits (data : List Byte) : ∀ c ∈ toHex data, isHexDigit c = true := by
  induction data with
  | nil => exact fun c hc => absurd hc List.not_mem_nil
  | cons b rest ih =>
    have hlt := b.isLt
    rw [toHex_cons, List.forall_mem_cons, List.forall_mem_cons]
    exact ⟨(kHex_alphabet _ (by omega)).1, (kHex_alphabet _ (by omega)).1, ih⟩

/-- The bytes come back. -/
theorem fromHex_toHex (data : List Byte) : fromHex (toHex data) = .ok data := by
  induction data with
  | nil => rfl
  | cons b rest ih =>
    rw [toHex_cons, fromHex, kHex_alphabet.stoiHex_byte b.isLt, ok_bind, ih, ok_bind,
      BitVec.ofInt_natCast, BitVec.ofNat_toNat, BitVec.setWidth_eq]
    rfl

/-- Bytes written are a field that is read. -/
theorem hexField_toHex {data : List Byte} (h : data ≠ []) : HexField (toHex data) where
  some := by
    rw [← List.length_pos_iff, toHex_length]
    have hpos := List.length_pos_iff.mpr h
    omega
  even := by
    rw [toHex_length]
    exact Nat.mul_mod_right 2 _
  digits := toHex_digits data

section Stored

variable {iters : Nat} (hpos : 1 ≤ iters) (hint : iters < 2 ^ 31) {salt hash : List Byte}
  (hsalt : salt ≠ []) (hhash : hash ≠ [])

include hpos hsalt hhash in
/-- What `hash_password` stores is well formed. -/
theorem stored_wellFormed : WellFormed (stored iters salt hash) := by
  refine ⟨_, _, _, rfl, ⟨Nat.toDigits_ne_nil, fun c hc => ?_, ?_⟩, hexField_toHex hsalt,
      hexField_toHex hhash⟩
  · exact Nat.isDigit_of_mem_toDigits (by decide) (by decide) hc
  · rw [digitsValue_toDigits]
    exact hpos

include hpos hint hhash in
/-- It splits into what was put together. -/
theorem stored_fields :
    Fields (stored iters salt hash) (Nat.toDigits 10 iters) (toHex salt) (toHex hash) iters := by
  -- the separator is in none of the fields
  have hhex : ∀ data, '$' ∉ toHex data := fun data hmem =>
    absurd (toHex_digits data _ hmem) (by decide)
  have hdigits : '$' ∉ Nat.toDigits 10 iters := fun hmem =>
    absurd (Nat.isDigit_of_mem_toDigits (by decide) (by decide) hmem) (by decide)
  refine ⟨?_, stoi_toDigits hint, by omega⟩
  unfold stored
  rw [getlines_append (by decide), getlines_append hdigits, getlines_append (hhex salt),
    getlines_eq_singleton (hhex hash) (hexField_toHex hhash).some]

include hpos hint hsalt hhash in
/-- It verifies for the passwords whose key is the hash. -/
theorem verify_stored (hlength : hash.length < 2 ^ 31) (k : Kdf) (password : List Char) :
    verifyPassword k password (stored iters salt hash) =
      .ok (decide (k.derive password salt iters hash.length = hash)) := by
  have hsome := List.length_pos_iff.mpr hsalt
  have hsome' := List.length_pos_iff.mpr hhash
  have hfields := @stored_fields iters hpos hint salt hash hhash
  rw [verify_compares hfields k password (fromHex_toHex salt) (fromHex_toHex hash)
    (by rw [toHex_length]; omega) (by rw [toHex_length]; omega), toHex_length, toHex_length,
    if_neg (by omega)]
  -- two digits a byte, and no wrap of the length
  have hint : toInt (2 * hash.length / 2) = hash.length := by
    unfold toInt
    omega
  rw [hint, if_neg (by omega), Int.toNat_natCast]

end Stored

/-- A password verifies against what was hashed, and so does every other one with its key. -/
theorem hash_verify (k : Kdf) (password : List Char) (salt : Salt) :
    ∃ encoded, hashPassword k (some salt) password = .ok encoded ∧
      verifyPassword k password encoded = .ok true ∧
      ∀ other, ∃ accepted, verifyPassword k other encoded = .ok accepted ∧
        (accepted = true ↔
          k.derive other salt.bytes kIterations kHashLen =
            k.derive password salt.bytes kIterations kHashLen) := by
  have hlength := k.length_derive password salt.bytes kIterations kHashLen
  have hsalt : salt.bytes ≠ [] := by
    rw [← List.length_pos_iff, salt.length_bytes]
    decide
  have hhash : k.derive password salt.bytes kIterations kHashLen ≠ [] := by
    rw [← List.length_pos_iff, hlength]
    decide
  have hverify := verify_stored (by decide : 1 ≤ kIterations) (by decide) hsalt hhash
    (by rw [hlength]; decide) k
  rw [hlength] at hverify
  refine ⟨stored kIterations salt.bytes (k.derive password salt.bytes kIterations kHashLen), rfl, ?_,
    fun other => ⟨_, hverify other, decide_eq_true_iff⟩⟩
  rw [hverify password, decide_eq_true rfl]

end NightWatcher.Auth
