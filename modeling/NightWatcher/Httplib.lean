import Mathlib
import NightWatcher.Lib.PercentCode
import NightWatcher.Lib.TextLines

/-!
# `httplib.h`: URLs on the wire

What the client does to a path it is asked for (`encodeUrl`) and what the server makes of the
target it is sent (`parseTarget`). A `std::string` is a list of characters below 256 here.

The client re-encodes a few bytes and leaves percent signs alone, so the server decodes what it
is sent as if nothing had been encoded (`decodeUrl_encodeUrl`).
-/

namespace NightWatcher.Httplib

open PercentCode

/-- What `encode_url` writes for a byte. -/
def encodedChar : Char → List Char
  | ' ' => "%20".toList
  | '+' => "%2B".toList
  | '\r' => "%0D".toList
  | '\n' => "%0A".toList
  | '\'' => "%27".toList
  | ',' => "%2C".toList
  | ';' => "%3B".toList
  | c => if 0x80 ≤ c.toNat then encodeOctet c else [c]

/-- `encode_url`, which takes a NUL for the end. -/
def encodeUrl : List Char → List Char
  | [] => []
  | c :: rest => if c.toNat = 0 then [] else encodedChar c ++ encodeUrl rest

/-- The characters `encode_url` leaves alone. -/
def PlainInUrl (c : Char) : Prop := c.toNat ≠ 0 ∧ encodedChar c = [c]

/-- The characters of a literal are checked one by one. -/
theorem plainInUrl_literal {s : String}
    (h : (s.toList.all fun c => c.toNat ≠ 0 ∧ encodedChar c = [c]) = true) :
    ∀ c ∈ s.toList, PlainInUrl c := by
  intro c hc
  have hplain := List.all_eq_true.mp h c hc
  rwa [decide_eq_true_eq] at hplain

/-- A text of plain characters is sent as it is. -/
theorem encodeUrl_plain {cs : List Char} (h : ∀ c ∈ cs, PlainInUrl c) : encodeUrl cs = cs := by
  induction cs with
  | nil => rfl
  | cons c rest ih =>
    obtain ⟨hnul, hc⟩ := h c List.mem_cons_self
    rw [encodeUrl, if_neg hnul, hc, ih fun x hx => h x (List.mem_cons_of_mem c hx)]
    rfl

/-- Letters and digits are ASCII. -/
theorem alphanum_range {c : Char} (h : c.isAlphanum = true) : 48 ≤ c.toNat ∧ c.toNat < 0x80 := by
  simp only [Char.isAlphanum, Char.isAlpha, Char.isUpper, Char.isLower, Char.isDigit, Bool.or_eq_true,
    Bool.and_eq_true, decide_eq_true_eq, UInt32.le_iff_toNat_le, ge_iff_le] at h
  change ((65 ≤ c.toNat ∧ c.toNat ≤ 90) ∨ (97 ≤ c.toNat ∧ c.toNat ≤ 122)) ∨
      (48 ≤ c.toNat ∧ c.toNat ≤ 57) at h
  omega

/-- Letters and digits are plain. -/
theorem plainInUrl_of_alphanum {c : Char} (h : c.isAlphanum = true) : PlainInUrl c := by
  have hrange := alphanum_range h
  refine ⟨by omega, ?_⟩
  unfold encodedChar
  split
  case h_8 => exact if_neg (by omega)
  all_goals exact absurd h (by decide)

/-- Every other byte is written as an escape. -/
theorem encodedChar_cases {c : Char} (hc : c.toNat < 256) :
    encodedChar c = [c] ∨ encodedChar c = encodeOctet c := by
  unfold encodedChar
  split
  case h_8 =>
    split
    · exact Or.inr rfl
    · exact Or.inl rfl
  all_goals exact Or.inr (by decide)

/-! ## `decode_url` -/

/-- `from_hex_to_i`, of `n` digits. -/
def fromHexToI : Nat → List Char → Nat → Option Nat
  | 0, _, val => some val
  | _ + 1, [], _ => none
  | n + 1, c :: rest, val => (hexValue c).bind fun v => fromHexToI n rest (val * 16 + v)

/-- `to_utf8`: nothing for half of a surrogate pair. -/
def toUtf8 (code : Nat) : List Char :=
  if code < 0x80 then [Char.ofNat code]
  else if code < 0x800 then [Char.ofNat (0xC0 + code / 64), Char.ofNat (0x80 + code % 64)]
  else if 0xD800 ≤ code ∧ code < 0xE000 then []
  else [Char.ofNat (0xE0 + code / 4096), Char.ofNat (0x80 + code / 64 % 64),
    Char.ofNat (0x80 + code % 64)]

/-- The escape behind a percent sign: what it stands for and how long it is. -/
def escape : List Char → Option (List Char × Nat)
  | [] => none
  | 'u' :: rest => (fromHexToI 4 rest 0).map fun v => (toUtf8 v, 5)
  | rest => (fromHexToI 2 rest 0).map fun v => ([Char.ofNat v], 2)

/-- `decode_url`. The first `skip` characters belong to an escape that was decoded. -/
def decodeFrom (plusToSpace : Bool) : Nat → List Char → List Char
  | _, [] => []
  | skip + 1, _ :: rest => decodeFrom plusToSpace skip rest
  | 0, c :: rest =>
    if c = '%' then
      match escape rest with
      | some (bytes, n) => bytes ++ decodeFrom plusToSpace n rest
      | none => c :: decodeFrom plusToSpace 0 rest
    else if plusToSpace ∧ c = '+' then ' ' :: decodeFrom plusToSpace 0 rest
    else c :: decodeFrom plusToSpace 0 rest

/-- `decode_url`: the escapes of the text decoded. -/
def decodeUrl (plusToSpace : Bool) (cs : List Char) : List Char := decodeFrom plusToSpace 0 cs

/-- A hexadecimal digit is plain. -/
theorem plainInUrl_of_hex {c : Char} {v : Nat} (h : hexValue c = some v) : PlainInUrl c := by
  refine plainInUrl_of_alphanum ?_
  unfold hexValue at h
  unfold Char.isAlphanum Char.isAlpha Char.isUpper Char.isLower
  by_cases hdigit : c.isDigit = true
  · rw [hdigit, Bool.or_true]
  · rw [if_neg hdigit] at h
    by_cases hupper : 'A' ≤ c ∧ c ≤ 'F'
    · have h1 : 65 ≤ c.val := hupper.1
      have h2 : c.val ≤ 90 := Nat.le_trans hupper.2 (by decide)
      simp [h1, h2]
    · rw [if_neg hupper] at h
      by_cases hlower : 'a' ≤ c ∧ c ≤ 'f'
      · have h1 : 97 ≤ c.val := hlower.1
        have h2 : c.val ≤ 122 := Nat.le_trans hlower.2 (by decide)
        simp [h1, h2]
      · rw [if_neg hlower] at h
        cases h

/-- The digits read are plain. -/
theorem fromHexToI_plain {n : Nat} {cs : List Char} {val v : Nat}
    (h : fromHexToI n cs val = some v) : ∀ c ∈ cs.take n, PlainInUrl c := by
  induction n generalizing cs val with
  | zero => exact fun c hc => absurd hc List.not_mem_nil
  | succ n ih =>
    cases cs with
    | nil => cases h
    | cons x rest =>
      obtain ⟨digit, hdigit, hrest⟩ := Option.bind_eq_some_iff.mp h
      intro c hc
      rw [List.take_succ_cons] at hc
      rcases List.mem_cons.mp hc with rfl | hc
      · exact plainInUrl_of_hex hdigit
      · exact ih hrest c hc

/-- A plain character is sent as it is. -/
theorem encodeUrl_cons_plain {c : Char} (h : PlainInUrl c) (rest : List Char) :
    encodeUrl (c :: rest) = c :: encodeUrl rest := by
  rw [encodeUrl, if_neg h.1, h.2, List.singleton_append]

/-- Where a byte is re-encoded there is a percent sign in its place. -/
theorem encodeUrl_cons_cases {c : Char} (hc : c.toNat < 256) (hnul : c.toNat ≠ 0)
    (rest : List Char) :
    PlainInUrl c ∨ encodeUrl (c :: rest) = encodeOctet c ++ encodeUrl rest := by
  rcases encodedChar_cases hc with h | h
  · exact Or.inl ⟨hnul, h⟩
  · refine Or.inr ?_
    rw [encodeUrl, if_neg hnul, h]

/-- A run of hex digits is found in the encoded text if it is found in the text. -/
theorem fromHexToI_encodeUrl (n : Nat) {cs : List Char}
    (hcs : ∀ c ∈ cs, c.toNat < 256 ∧ c.toNat ≠ 0) (val : Nat) :
    fromHexToI n (encodeUrl cs) val = fromHexToI n cs val := by
  induction n generalizing cs val with
  | zero => rfl
  | succ n ih =>
    cases cs with
    | nil => rfl
    | cons c rest =>
      obtain ⟨hc, hnul⟩ := hcs c List.mem_cons_self
      have hrest := fun x hx => hcs x (List.mem_cons_of_mem c hx)
      rcases encodeUrl_cons_cases hc hnul rest with hplain | henc
      · rw [encodeUrl_cons_plain hplain, fromHexToI, fromHexToI]
        exact congrArg _ (funext fun v => ih hrest _)
      · -- neither the percent sign nor the byte is a digit
        have hpercent : hexValue '%' = none := by decide
        have hbyte : hexValue c = none := by
          by_contra h
          obtain ⟨v, hv⟩ := Option.ne_none_iff_exists'.mp h
          have hsame := encodeUrl_cons_plain (plainInUrl_of_hex hv) rest
          rw [henc] at hsame
          injection hsame with hc _
          rw [← hc, hpercent] at hv
          cases hv
        rw [henc]
        unfold encodeOctet
        rw [List.cons_append, fromHexToI, fromHexToI, hpercent, hbyte]
        rfl

/-- An escape that is no `%uXXXX`. -/
theorem escape_two {cs : List Char} (h : cs.head? ≠ some 'u') :
    escape cs = (fromHexToI 2 cs 0).map fun v => ([Char.ofNat v], 2) := by
  unfold escape
  split
  next => rfl
  next => exact absurd rfl h
  next => rfl

/-- The characters of an escape are plain. -/
theorem escape_plain {cs bytes : List Char} {n : Nat} (h : escape cs = some (bytes, n)) :
    ∀ c ∈ cs.take n, PlainInUrl c := by
  unfold escape at h
  split at h
  next => cases h
  next rest =>
    obtain ⟨v, hv, heq⟩ := Option.map_eq_some_iff.mp h
    cases heq
    intro c hc
    rw [List.take_succ_cons] at hc
    rcases List.mem_cons.mp hc with rfl | hc
    · exact plainInUrl_of_alphanum (by decide)
    · exact fromHexToI_plain hv c hc
  next =>
    obtain ⟨v, hv, heq⟩ := Option.map_eq_some_iff.mp h
    cases heq
    exact fromHexToI_plain hv

/-- Encoding leaves the escapes in the text. -/
theorem escape_encodeUrl {cs : List Char} (hcs : ∀ c ∈ cs, c.toNat < 256 ∧ c.toNat ≠ 0) :
    escape (encodeUrl cs) = escape cs := by
  by_cases hu : cs.head? = some 'u'
  · cases cs with
    | nil => cases hu
    | cons c rest =>
      cases hu
      rw [encodeUrl_cons_plain (plainInUrl_of_alphanum (by decide)), escape, escape,
        fromHexToI_encodeUrl 4 fun x hx => hcs x (List.mem_cons_of_mem _ hx)]
  · have hu' : (encodeUrl cs).head? ≠ some 'u' := by
      cases cs with
      | nil => exact hu
      | cons c rest =>
        obtain ⟨hc, hnul⟩ := hcs c List.mem_cons_self
        rcases encodeUrl_cons_cases hc hnul rest with hplain | henc
        · rw [encodeUrl_cons_plain hplain]
          exact hu
        · rw [henc]
          exact fun h => absurd (Option.some.inj h) (by decide)
    rw [escape_two hu, escape_two hu', fromHexToI_encodeUrl 2 hcs]

/-- A byte that was encoded decodes to itself. -/
theorem decodeFrom_encodeOctet {c : Char} (hc : c.toNat < 256) (plus : Bool) (rest : List Char) :
    decodeFrom plus 0 (encodeOctet c ++ rest) = c :: decodeFrom plus 0 rest := by
  have hhead : hexDigit (c.toNat / 16) ≠ 'u' := by
    have hall : ∀ n < 16, hexDigit n ≠ 'u' := by decide
    exact hall _ (by omega)
  have hescape : escape (hexDigit (c.toNat / 16) :: hexDigit (c.toNat % 16) :: rest) =
      some ([c], 2) := by
    have hnotu : (hexDigit (c.toNat / 16) :: hexDigit (c.toNat % 16) :: rest).head? ≠ some 'u' :=
      fun h => hhead (Option.some.inj h)
    rw [escape_two hnotu, fromHexToI, hexValue_hexDigit (by omega),
      Option.bind_some, fromHexToI, hexValue_hexDigit (by omega), Option.bind_some, fromHexToI]
    have hvalue : (0 * 16 + c.toNat / 16) * 16 + c.toNat % 16 = c.toNat := by omega
    rw [hvalue, Option.map_some, Char.ofNat_toNat]
  unfold encodeOctet
  rw [List.cons_append, List.cons_append, List.cons_append, List.nil_append, decodeFrom, if_pos rfl,
    hescape]
  rfl

/-- What is encoded decodes as the text does, with its plus signs kept. -/
theorem decodeFrom_encodeUrl (plus : Bool) {cs : List Char}
    (hcs : ∀ c ∈ cs, c.toNat < 256 ∧ c.toNat ≠ 0) {skip : Nat}
    (hskip : ∀ c ∈ cs.take skip, PlainInUrl c) :
    decodeFrom plus skip (encodeUrl cs) = decodeFrom false skip cs := by
  induction cs generalizing skip with
  | nil => rfl
  | cons c rest ih =>
    obtain ⟨hc, hnul⟩ := hcs c List.mem_cons_self
    have hrest := fun x hx => hcs x (List.mem_cons_of_mem c hx)
    cases skip with
    | succ k =>
      rw [List.take_succ_cons] at hskip
      rw [encodeUrl_cons_plain (hskip c List.mem_cons_self), decodeFrom, decodeFrom]
      exact ih hrest fun x hx => hskip x (List.mem_cons_of_mem c hx)
    | zero =>
      have hnone : ∀ c ∈ rest.take 0, PlainInUrl c := fun c h => absurd h List.not_mem_nil
      have hfalse : ¬((false : Bool) = true ∧ c = '+') := fun h => Bool.false_ne_true h.1
      by_cases hplain : PlainInUrl c
      · -- a plus sign would have been encoded
        have hplus : ¬(plus = true ∧ c = '+') := by
          intro h
          have hsame := hplain.2
          rw [h.2] at hsame
          exact absurd hsame (by decide)
        rw [encodeUrl_cons_plain hplain, decodeFrom, decodeFrom, escape_encodeUrl hrest]
        by_cases hpercent : c = '%'
        · rw [if_pos hpercent, if_pos hpercent]
          cases hescape : escape rest with
          | none => exact congrArg _ (ih hrest hnone)
          | some p => exact congrArg _ (ih hrest (escape_plain hescape))
        · rw [if_neg hpercent, if_neg hpercent, if_neg hplus, if_neg hfalse, ih hrest hnone]
      · have hbyte : c ≠ '%' := fun h => hplain (h ▸ ⟨by decide, by decide⟩)
        have henc := (encodeUrl_cons_cases hc hnul rest).resolve_left hplain
        rw [henc, decodeFrom_encodeOctet hc, ih hrest hnone, decodeFrom, if_neg hbyte, if_neg hfalse]

/-- What the client encodes makes no difference to the server, except that a plus sign is one
there. -/
theorem decodeUrl_encodeUrl (plus : Bool) {cs : List Char}
    (hcs : ∀ c ∈ cs, c.toNat < 256 ∧ c.toNat ≠ 0) :
    decodeUrl plus (encodeUrl cs) = decodeUrl false cs :=
  decodeFrom_encodeUrl plus hcs fun _ h => absurd h List.not_mem_nil

/-! ### What is decoded is bytes again -/

/-- A hexadecimal digit is below 16. -/
theorem hexValue_lt {c : Char} {v : Nat} (h : hexValue c = some v) : v < 16 := by
  unfold hexValue at h
  by_cases hdigit : c.isDigit = true
  · rw [if_pos hdigit] at h
    have hle : c.val.toNat ≤ 57 := (Bool.and_eq_true_iff.mp hdigit).2 |> of_decide_eq_true
    have hv := Option.some.inj h
    change c.toNat ≤ 57 at hle
    omega
  · rw [if_neg hdigit] at h
    by_cases hupper : 'A' ≤ c ∧ c ≤ 'F'
    · rw [if_pos hupper] at h
      have hle : c.toNat ≤ 70 := hupper.2
      have hv := Option.some.inj h
      omega
    · rw [if_neg hupper] at h
      by_cases hlower : 'a' ≤ c ∧ c ≤ 'f'
      · rw [if_pos hlower] at h
        have hle : c.toNat ≤ 102 := hlower.2
        have hv := Option.some.inj h
        omega
      · rw [if_neg hlower] at h
        cases h

/-- Digits read are a number of their length. -/
theorem fromHexToI_lt {n : Nat} {cs : List Char} {val v : Nat} (h : fromHexToI n cs val = some v) :
    v < (val + 1) * 16 ^ n := by
  induction n generalizing cs val with
  | zero =>
    cases h
    omega
  | succ n ih =>
    cases cs with
    | nil => cases h
    | cons c rest =>
      obtain ⟨digit, hdigit, hrest⟩ := Option.bind_eq_some_iff.mp h
      have hlt := hexValue_lt hdigit
      calc v < (val * 16 + digit + 1) * 16 ^ n := ih hrest
        _ ≤ ((val + 1) * 16) * 16 ^ n := Nat.mul_le_mul_right _ (by omega)
        _ = (val + 1) * 16 ^ (n + 1) := by rw [Nat.mul_assoc, Nat.pow_succ']

/-- UTF-8 is bytes. -/
theorem toUtf8_lt {code : Nat} (h : code < 65536) : ∀ c ∈ toUtf8 code, c.toNat < 256 := by
  intro c hc
  unfold toUtf8 at hc
  have hbyte : ∀ n < 256, c = Char.ofNat n → c.toNat < 256 := by
    intro n hn hcn
    rw [hcn, toNat_ofNat_lt hn]
    exact hn
  split at hc
  next h1 =>
    rw [List.mem_singleton] at hc
    exact hbyte _ (by omega) hc
  next =>
    split at hc
    next h1 =>
      simp only [List.mem_cons, List.not_mem_nil, or_false] at hc
      rcases hc with hc | hc
      · exact hbyte _ (by omega) hc
      · exact hbyte _ (by omega) hc
    next =>
      split at hc
      next => exact absurd hc List.not_mem_nil
      next =>
        simp only [List.mem_cons, List.not_mem_nil, or_false] at hc
        rcases hc with hc | hc | hc
        · exact hbyte _ (by omega) hc
        · exact hbyte _ (by omega) hc
        · exact hbyte _ (by omega) hc

/-- An escape decodes to bytes. -/
theorem escape_lt {cs bytes : List Char} {n : Nat} (h : escape cs = some (bytes, n)) :
    ∀ c ∈ bytes, c.toNat < 256 := by
  unfold escape at h
  split at h
  next => cases h
  next rest =>
    obtain ⟨v, hv, heq⟩ := Option.map_eq_some_iff.mp h
    cases heq
    exact toUtf8_lt (fromHexToI_lt hv)
  next =>
    obtain ⟨v, hv, heq⟩ := Option.map_eq_some_iff.mp h
    cases heq
    have hlt : v < 256 := fromHexToI_lt hv
    intro c hc
    rw [List.mem_singleton.mp hc, toNat_ofNat_lt hlt]
    exact hlt

/-- Bytes decode to bytes. -/
theorem decodeFrom_lt {plus : Bool} {cs : List Char} (hcs : ∀ c ∈ cs, c.toNat < 256) {skip : Nat} :
    ∀ c ∈ decodeFrom plus skip cs, c.toNat < 256 := by
  induction cs generalizing skip with
  | nil => exact fun c hc => absurd hc List.not_mem_nil
  | cons x rest ih =>
    have hx := hcs x List.mem_cons_self
    have hrest : ∀ {skip}, ∀ c ∈ decodeFrom plus skip rest, c.toNat < 256 :=
      ih fun y hy => hcs y (List.mem_cons_of_mem x hy)
    cases skip with
    | succ k => exact hrest
    | zero =>
      have hcons : ∀ {y : Char}, y.toNat < 256 →
          ∀ c ∈ y :: decodeFrom plus 0 rest, c.toNat < 256 := by
        intro y hy c hc
        rcases List.mem_cons.mp hc with rfl | hc
        · exact hy
        · exact hrest c hc
      rw [decodeFrom]
      split
      · split
        next bytes n hescape =>
          intro c hc
          rcases List.mem_append.mp hc with hc | hc
          · exact escape_lt hescape c hc
          · exact hrest c hc
        next => exact hcons hx
      · split
        · exact hcons (by decide)
        · exact hcons hx

/-! ## `parse_request_line` -/

/-- `is_space_or_tab` -/
def isBlank (c : Char) : Bool := c = ' ' || c = '\t'

/-- The pieces before and behind the first question mark, of which those are handed on that are
more than blanks. -/
def splitQuery (target : List Char) : List (List Char) :=
  let pieces :=
    if '?' ∈ target then
      [target.takeWhile (· ≠ '?'), (target.dropWhile (· ≠ '?')).tail]
    else [target]
  (pieces.map (TextLines.trim isBlank)).filter (· ≠ [])

/-- The pieces between separators that are more than blanks. -/
def split (d : Char) (cs : List Char) : List (List Char) :=
  ((cs.splitOn d).map (TextLines.trim isBlank)).filter (· ≠ [])

/-- The name and the value of a piece of a query, as they are written: of several values the
last one. -/
def nameValue (kv : List Char) : Option (List Char × List Char) :=
  match split '=' kv with
  | [] => none
  | key :: vals => some (key, vals.getLastD [])

/-- `params.emplace`, in a `std::multimap`. -/
def emplace (p : List Char × List Char) : List (List Char × List Char) → List (List Char × List Char)
  | [] => [p]
  | q :: rest => if p.1 < q.1 then p :: q :: rest else q :: emplace p rest

/-- `parse_query_text`: of pieces that are the same text the first one counts. -/
def parseQueryText (query : List Char) : List (List Char × List Char) :=
  ((split '&' query).eraseDups.filterMap nameValue).foldl
    (fun params p => emplace (decodeUrl true p.1, decodeUrl true p.2) params) []

/-- `req.target`, `req.path` and `req.params` -/
structure RequestTarget where
  target : List Char
  path : List Char := []
  params : List (List Char × List Char) := []

/-- The second piece of a request line, without its fragment, and what is in it. -/
def parseTarget (piece : List Char) : RequestTarget :=
  let target := (TextLines.trim isBlank piece).takeWhile (· ≠ '#')
  match splitQuery target with
  | [] => { target }
  | [path] => { target, path := decodeUrl false path }
  | path :: query :: _ => { target, path := decodeUrl false path, params := parseQueryText query }

/-- The part of a path that is still a path when it was sent: up to what a server takes for a
query, a fragment or the end, without the tabs in front of that. -/
def visible (path : List Char) : List Char :=
  (path.takeWhile fun c => c ≠ '?' && c ≠ '#' && c.toNat ≠ 0).rdropWhile (· = '\t')

/-- The pieces of a target are made of its characters. -/
theorem splitQuery_subset {target piece : List Char} (h : piece ∈ splitQuery target) :
    ∀ c ∈ piece, c ∈ target := by
  unfold splitQuery at h
  obtain ⟨x, hx, rfl⟩ := List.mem_map.mp (List.mem_of_mem_filter h)
  intro c hc
  have hmem : c ∈ x :=
    (List.dropWhile_suffix _).subset ((List.rdropWhile_prefix _ _).subset hc)
  split at hx
  · rcases List.mem_cons.mp hx with rfl | hx
    · exact List.takeWhile_subset _ hmem
    · rw [List.mem_singleton.mp hx] at hmem
      exact (List.dropWhile_suffix _).subset (List.mem_of_mem_tail hmem)
  · rw [List.mem_singleton.mp hx] at hmem
    exact hmem

/-- The target of bytes is bytes. -/
theorem parseTarget_target_lt {piece : List Char} (h : ∀ c ∈ piece, c.toNat < 256) :
    ∀ c ∈ (parseTarget piece).target, c.toNat < 256 := by
  have htarget : (parseTarget piece).target =
      (TextLines.trim isBlank piece).takeWhile (· ≠ '#') := by
    unfold parseTarget
    dsimp only
    split <;> rfl
  rw [htarget]
  intro c hc
  exact h c ((List.dropWhile_suffix _).subset ((List.rdropWhile_prefix _ _).subset
    (List.takeWhile_subset _ hc)))

/-- So is the path. -/
theorem parseTarget_path_lt {piece : List Char} (h : ∀ c ∈ piece, c.toNat < 256) :
    ∀ c ∈ (parseTarget piece).path, c.toNat < 256 := by
  have hpieces : ∀ x ∈ splitQuery ((TextLines.trim isBlank piece).takeWhile (· ≠ '#')),
      ∀ c ∈ x, c.toNat < 256 := by
    intro x hx c hc
    exact h c ((List.dropWhile_suffix _).subset ((List.rdropWhile_prefix _ _).subset
      (List.takeWhile_subset _ (splitQuery_subset hx c hc))))
  unfold parseTarget
  dsimp only
  split
  next => exact fun c hc => absurd hc List.not_mem_nil
  next path hsplit => exact decodeFrom_lt (hpieces path (by rw [hsplit]; exact List.mem_cons_self))
  next path _ _ hsplit =>
    exact decodeFrom_lt (hpieces path (by rw [hsplit]; exact List.mem_cons_self))

/-- Cutting the end first makes no difference to what is cut after. -/
theorem rdropWhile_takeWhile {α : Type} {p b : α → Bool} (h : ∀ x, b x = true → p x = true)
    (l : List α) : ((l.rdropWhile b).takeWhile p).rdropWhile b = (l.takeWhile p).rdropWhile b := by
  induction l using List.reverseRecOn with
  | nil => rfl
  | append_singleton l x ih =>
    by_cases hx : b x = true
    · rw [List.rdropWhile_concat_pos _ _ _ hx, ih, List.takeWhile_append]
      split
      next hall =>
        rw [List.takeWhile_cons_of_pos (h x hx), List.takeWhile_nil,
          List.rdropWhile_concat_pos _ _ _ hx]
        rw [(List.takeWhile_prefix p).eq_of_length hall]
      next => rfl
    · rw [List.rdropWhile_concat_neg _ _ _ hx]

/-- What an escape is written with is no separator and no blank. -/
theorem encodeOctet_clean {c x : Char} (hc : c.toNat < 256) (hx : x ∈ encodeOctet c) :
    (x ≠ '?' ∧ x ≠ '#') ∧ isBlank x = false := by
  rcases mem_encodeOctet hc hx with rfl | halpha
  · exact ⟨⟨by decide, by decide⟩, by decide⟩
  · refine ⟨⟨?_, ?_⟩, ?_⟩
    · rintro rfl
      exact absurd halpha (by decide)
    · rintro rfl
      exact absurd halpha (by decide)
    · by_contra hblank
      rcases Bool.or_eq_true_iff.mp (Bool.not_eq_false _ ▸ hblank) with h | h
      · rw [of_decide_eq_true h] at halpha
        exact absurd halpha (by decide)
      · rw [of_decide_eq_true h] at halpha
        exact absurd halpha (by decide)

/-- A cut in front of characters that the client leaves alone commutes with its encoding. -/
theorem takeWhile_encodeUrl_of {p : Char → Bool} (hstop : ∀ {c}, p c = false → encodedChar c = [c])
    (hgo : ∀ {c}, c.toNat < 256 → p c = true → ∀ x ∈ encodedChar c, p x = true) {cs : List Char}
    (hcs : ∀ c ∈ cs, c.toNat < 256) :
    (encodeUrl cs).takeWhile p = encodeUrl (cs.takeWhile fun c => p c && c.toNat ≠ 0) := by
  induction cs with
  | nil => rfl
  | cons c rest ih =>
    have hrest := ih fun x hx => hcs x (List.mem_cons_of_mem c hx)
    by_cases hnul : c.toNat = 0
    · rw [encodeUrl, if_pos hnul, List.takeWhile_cons_of_neg (by simp [hnul])]
      rfl
    · rw [encodeUrl, if_neg hnul]
      cases hc : p c with
      | true =>
        rw [List.takeWhile_append_of_pos (hgo (hcs c List.mem_cons_self) hc),
          List.takeWhile_cons_of_pos (by simp [hc, hnul]), encodeUrl, if_neg hnul, hrest]
      | false =>
        rw [hstop hc, List.singleton_append, List.takeWhile_cons_of_neg (by simp [hc]),
          List.takeWhile_cons_of_neg (by simp [hc])]
        rfl

/-- The path ends at the same mark in the encoded text, or at a NUL. -/
theorem takeWhile_encodeUrl {cs : List Char} (hcs : ∀ c ∈ cs, c.toNat < 256) :
    (encodeUrl cs).takeWhile (fun c => c ≠ '?' && c ≠ '#') =
      encodeUrl (cs.takeWhile fun c => c ≠ '?' && c ≠ '#' && c.toNat ≠ 0) := by
  refine takeWhile_encodeUrl_of (fun {c} hc => ?_) (fun {c} hlt hc x hx => ?_) hcs
  · simp only [Bool.and_eq_false_iff, decide_eq_false_iff_not, not_not] at hc
    rcases hc with rfl | rfl
    · decide
    · decide
  · rcases encodedChar_cases hlt with hplain | henc
    · rw [hplain] at hx
      rw [List.mem_singleton.mp hx]
      exact hc
    · rw [henc] at hx
      simpa using (encodeOctet_clean hlt hx).1

/-- The encoding of two texts without a NUL. -/
theorem encodeUrl_append {cs : List Char} (hcs : ∀ c ∈ cs, c.toNat ≠ 0) (ds : List Char) :
    encodeUrl (cs ++ ds) = encodeUrl cs ++ encodeUrl ds := by
  induction cs with
  | nil => rfl
  | cons c rest ih =>
    have hc := hcs c List.mem_cons_self
    rw [List.cons_append, encodeUrl, if_neg hc, encodeUrl, if_neg hc,
      ih fun x hx => hcs x (List.mem_cons_of_mem c hx), List.append_assoc]

/-- Of the blanks only a tab survives the encoding. -/
theorem rdropWhile_encodeUrl {cs : List Char} (hcs : ∀ c ∈ cs, c.toNat < 256 ∧ c.toNat ≠ 0) :
    (encodeUrl cs).rdropWhile isBlank = encodeUrl (cs.rdropWhile (· = '\t')) := by
  induction cs using List.reverseRecOn with
  | nil => rfl
  | append_singleton cs c ih =>
    have hcs' : ∀ x ∈ cs, x.toNat < 256 ∧ x.toNat ≠ 0 := fun x hx =>
      hcs x (List.mem_append_left _ hx)
    obtain ⟨hc, hnul⟩ := hcs c (List.mem_append_right _ (List.mem_singleton_self c))
    rw [encodeUrl_append fun x hx => (hcs' x hx).2]
    by_cases htab : c = '\t'
    · have hlast : encodeUrl [c] = [c] := by
        rw [htab]
        decide
      rw [hlast, List.rdropWhile_concat_pos _ _ _ (by rw [htab]; decide),
        List.rdropWhile_concat_pos _ _ _ (by simp [htab]), ih hcs']
    · rw [List.rdropWhile_concat_neg _ _ _ (by simpa using htab),
        encodeUrl_append fun x hx => (hcs' x hx).2]
      by_cases hplain : PlainInUrl c
      · have hblank : ¬isBlank c = true := by
          intro h
          rcases Bool.or_eq_true_iff.mp h with h | h
          · have hspace : encodedChar c = [c] := hplain.2
            rw [of_decide_eq_true h] at hspace
            exact absurd hspace (by decide)
          · exact htab (of_decide_eq_true h)
        rw [encodeUrl_cons_plain hplain]
        exact List.rdropWhile_concat_neg _ _ _ hblank
      · rw [(encodeUrl_cons_cases hc hnul []).resolve_left hplain]
        have hlast : ¬isBlank (hexDigit (c.toNat % 16)) = true := by
          rw [(encodeOctet_clean hc (x := hexDigit (c.toNat % 16)) (by simp [encodeOctet])).2]
          exact Bool.false_ne_true
        have hsplit : encodeUrl cs ++ (encodeOctet c ++ encodeUrl []) =
            (encodeUrl cs ++ ['%', hexDigit (c.toNat / 16)]) ++ [hexDigit (c.toNat % 16)] := by
          simp [encodeOctet, encodeUrl]
        rw [hsplit, List.rdropWhile_concat_neg _ _ _ hlast]

/-- A query behind a path hides none of it. -/
theorem visible_append (path : List Char) {query : List Char}
    (hquery : ∀ c, query.head? = some c → c = '?') : visible (path ++ query) = visible path := by
  have hstop : query.takeWhile (fun c => c ≠ '?' && c ≠ '#' && c.toNat ≠ 0) = [] := by
    cases query with
    | nil => rfl
    | cons c rest =>
      obtain rfl := hquery c rfl
      rfl
  unfold visible
  rw [List.takeWhile_append, hstop, List.append_nil]
  split
  next hall => rw [(List.takeWhile_prefix _).eq_of_length hall]
  next => rfl

/-! ### A target that begins with a slash -/

/-- A path keeps its slash. -/
theorem rdropWhile_slash {blank : Char → Bool} (hblank : blank '/' = false) (cs : List Char) :
    ∃ rest, ('/' :: cs).rdropWhile blank = '/' :: rest := by
  have hne : ('/' :: cs).rdropWhile blank ≠ [] := by
    intro h
    have hslash := List.rdropWhile_eq_nil_iff.mp h '/' List.mem_cons_self
    rw [hblank] at hslash
    cases hslash
  obtain ⟨c, rest, hcons⟩ := List.exists_cons_of_ne_nil hne
  obtain ⟨more, hprefix⟩ := List.rdropWhile_prefix blank (l := '/' :: cs)
  rw [hcons, List.cons_append] at hprefix
  injection hprefix with hc _
  exact ⟨rest, by rw [hcons, hc]⟩

/-- What is seen of a path begins with its slash. -/
theorem visible_slash (cs : List Char) : ∃ rest, visible ('/' :: cs) = '/' :: rest :=
  @rdropWhile_slash (· = '\t') (by decide) (cs.takeWhile fun c => c ≠ '?' && c ≠ '#' && c.toNat ≠ 0)

/-- A path has no blanks in front. -/
theorem trim_slash (cs : List Char) :
    TextLines.trim isBlank ('/' :: cs) = ('/' :: cs).rdropWhile isBlank := rfl

/-- The piece in front of the question mark is the path. -/
theorem splitQuery_slash (cs : List Char) : ∃ more, splitQuery ('/' :: cs) =
    (('/' :: cs).takeWhile (· ≠ '?')).rdropWhile isBlank :: more := by
  have htake : ('/' :: cs).takeWhile (· ≠ '?') = '/' :: cs.takeWhile (· ≠ '?') :=
    List.takeWhile_cons_of_pos (by decide)
  obtain ⟨rest, hrest⟩ := @rdropWhile_slash isBlank (by decide) (cs.takeWhile (· ≠ '?'))
  unfold splitQuery
  dsimp only
  by_cases hquery : '?' ∈ '/' :: cs
  · rw [if_pos hquery, List.map_cons, htake, trim_slash, hrest]
    exact ⟨_, List.filter_cons_of_pos (by simp)⟩
  · have hall : cs.takeWhile (· ≠ '?') = cs := by
      refine List.takeWhile_eq_self_iff.mpr fun x hx => decide_eq_true ?_
      rintro rfl
      exact hquery (List.mem_cons_of_mem _ hx)
    rw [hall] at hrest
    rw [if_neg hquery, List.map_cons, htake, hall, trim_slash, hrest]
    exact ⟨_, List.filter_cons_of_pos (by simp)⟩

/-- What a server decodes of a path that the client was asked for. -/
theorem parseTarget_encodeUrl {rest : List Char} (hrest : ∀ c ∈ rest, c.toNat < 256) :
    (parseTarget (encodeUrl ('/' :: rest))).path = decodeUrl false (visible ('/' :: rest)) := by
  have hbytes : ∀ c ∈ '/' :: rest, c.toNat < 256 := by
    intro c hc
    rcases List.mem_cons.mp hc with rfl | hc
    · decide
    · exact hrest c hc
  have hkept : ∀ c ∈ ('/' :: rest).takeWhile (fun c => c ≠ '?' && c ≠ '#' && c.toNat ≠ 0),
      c.toNat < 256 ∧ c.toNat ≠ 0 := by
    intro c hc
    have hkeep := List.mem_takeWhile_imp hc
    simp only [Bool.and_eq_true, decide_eq_true_eq] at hkeep
    exact ⟨hbytes c (List.takeWhile_subset _ hc), hkeep.2⟩
  have hslash : encodeUrl ('/' :: rest) = '/' :: encodeUrl rest :=
    encodeUrl_cons_plain ⟨by decide, by decide⟩ rest
  obtain ⟨more, hmore⟩ := @rdropWhile_slash isBlank (by decide) (encodeUrl rest)
  have htarget : ('/' :: more).takeWhile (· ≠ '#') = '/' :: more.takeWhile (· ≠ '#') :=
    List.takeWhile_cons_of_pos (by decide)
  obtain ⟨others, hsplit⟩ := splitQuery_slash (more.takeWhile (· ≠ '#'))
  -- the two cuts and the blanks, on what was sent
  have hpath : (('/' :: more.takeWhile (· ≠ '#')).takeWhile (· ≠ '?')).rdropWhile isBlank =
      encodeUrl (visible ('/' :: rest)) := by
    have hcut : (('/' :: more.takeWhile (· ≠ '#')).takeWhile (· ≠ '?')) =
        ('/' :: more).takeWhile fun c => c ≠ '?' && c ≠ '#' := by
      rw [← htarget, List.takeWhile_takeWhile]
      congr 1
      funext c
      simp
    rw [hcut, ← hmore, rdropWhile_takeWhile (fun c hc => ?_), ← hslash, takeWhile_encodeUrl hbytes,
      rdropWhile_encodeUrl hkept]
    · rfl
    · rcases Bool.or_eq_true_iff.mp hc with h | h
      · rw [of_decide_eq_true h]
        decide
      · rw [of_decide_eq_true h]
        decide
  have hvisible : ∀ c ∈ visible ('/' :: rest), c.toNat < 256 ∧ c.toNat ≠ 0 := fun c hc =>
    hkept c ((List.rdropWhile_prefix _ _).subset hc)
  unfold parseTarget
  dsimp only
  rw [hslash, trim_slash, hmore, htarget, hsplit, hpath]
  rw [← decodeUrl_encodeUrl false hvisible]
  cases others with
  | nil => rfl
  | cons query more => rfl

end NightWatcher.Httplib
