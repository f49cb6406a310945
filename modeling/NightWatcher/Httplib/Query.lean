import Mathlib
import NightWatcher.Httplib
import NightWatcher.Lib.Pieces

/-!
# `httplib.h`: a query that is sent on

What a server reads out of a query that its client took from another request as it was. The
pieces between `&` and `=` are the same ones, each re-encoded. A plus sign, a blank in the first
query, is a plus sign in the second; and two pieces that encode to one text are one parameter.
So the parameters are the same exactly for a `PlainQuery`.
-/

namespace NightWatcher.Httplib

open PercentCode Pieces

/-! ## Splitting what was encoded -/

/-- A separator that is neither encoded nor part of an escape. -/
structure Separator (d : Char) : Prop where
  plain : PlainInUrl d
  percent : d ≠ '%'
  digit : d.isAlphanum = false

/-- Pairs are separated by `&`. -/
theorem separator_and : Separator '&' := ⟨⟨by decide, by decide⟩, by decide, by decide⟩

/-- A name is separated from its value by `=`. -/
theorem separator_eq : Separator '=' := ⟨⟨by decide, by decide⟩, by decide, by decide⟩

/-- An escape has no separator in it. -/
theorem Separator.not_mem_octet {d c : Char} (hd : Separator d) (hc : c.toNat < 256) :
    d ∉ encodeOctet c := by
  intro h
  rcases mem_encodeOctet hc h with h | h
  · exact hd.percent h
  · rw [hd.digit] at h
    cases h

theorem map_modifyHead {α β : Type} (f : α → β) {g : α → α} {g' : β → β} (h : ∀ a, f (g a) = g' (f a))
    (l : List α) : (l.modifyHead g).map f = (l.map f).modifyHead g' := by
  cases l with
  | nil => rfl
  | cons a l => exact congrArg (· :: l.map f) (h a)

/-- So encoding goes piece by piece. -/
theorem splitOn_encodeUrl {d : Char} (hd : Separator d) {cs : List Char}
    (hcs : ∀ c ∈ cs, c.toNat < 256 ∧ c.toNat ≠ 0) :
    (encodeUrl cs).splitOn d = (cs.splitOn d).map encodeUrl := by
  induction cs with
  | nil => rfl
  | cons c rest ih =>
    obtain ⟨hc, hnul⟩ := hcs c List.mem_cons_self
    have hrest := ih fun x hx => hcs x (List.mem_cons_of_mem c hx)
    by_cases hsep : c = d
    · rw [hsep, encodeUrl_cons_plain hd.plain, splitOn_cons_self, splitOn_cons_self, hrest]
      rfl
    · have hnot : d ∉ encodedChar c := by
        rcases encodedChar_cases hc with h | h
        · rw [h, List.mem_singleton]
          exact fun heq => hsep heq.symm
        · rw [h]
          exact hd.not_mem_octet hc
      rw [encodeUrl, if_neg hnul, splitOn_append hnot, hrest, splitOn_cons_ne hsep]
      refine (map_modifyHead encodeUrl (fun a => ?_) _).symm
      rw [encodeUrl, if_neg hnul]

/-! ## The pieces of a query without blanks -/

/-- The bytes of a request line between its blanks. -/
def OnWire (cs : List Char) : Prop := ∀ c ∈ cs, (c.toNat < 256 ∧ c.toNat ≠ 0) ∧ c ≠ ' '

instance (cs : List Char) : Decidable (OnWire cs) := List.decidableBAll _ _

/-- What arrives over the wire has no NUL and no wide character. -/
theorem OnWire.bytes {cs : List Char} (h : OnWire cs) : ∀ c ∈ cs, c.toNat < 256 ∧ c.toNat ≠ 0 :=
  fun c hc => (h c hc).1

/-- Nor has any part of it. -/
theorem OnWire.subset {cs ds : List Char} (h : OnWire cs) (hsub : ∀ c ∈ ds, c ∈ cs) : OnWire ds :=
  fun c hc => h c (hsub c hc)

/-- What is trimmed to nothing was blank. -/
theorem blank_of_trim {cs : List Char} (h : TextLines.trim isBlank cs = []) :
    ∀ c ∈ cs, isBlank c = true := by
  have hall := List.rdropWhile_eq_nil_iff.mp h
  refine List.dropWhile_eq_nil_iff.mp ?_
  by_contra hne
  obtain ⟨x, rest, hcons⟩ := List.exists_cons_of_ne_nil hne
  have hx := List.head?_dropWhile_not isBlank cs
  rw [hcons] at hx hall
  have hblank := hall x List.mem_cons_self
  simp [hblank] at hx

/-- Trimming adds nothing. -/
theorem mem_trim {cs : List Char} : ∀ c ∈ TextLines.trim isBlank cs, c ∈ cs := fun _ hc =>
  (List.dropWhile_suffix _).subset ((List.rdropWhile_prefix _ _).subset hc)

/-- Nor does splitting. -/
theorem mem_split {d : Char} {cs piece : List Char} (h : piece ∈ split d cs) : ∀ c ∈ piece, c ∈ cs := by
  obtain ⟨x, hx, rfl⟩ := List.mem_map.mp (List.mem_of_mem_filter h)
  exact fun c hc => mem_splitOn_piece hx c (mem_trim c hc)

/-- The only blank that can arrive in a target is a tab. -/
theorem OnWire.tabs {cs : List Char} (h : OnWire cs) {c : Char} (hc : c ∈ cs) :
    isBlank c = decide (c = '\t') := by
  unfold isBlank
  rw [decide_eq_false (h c hc).2, Bool.false_or]

/-- Tabs are not encoded, so that the blanks in front are the same. -/
theorem dropWhile_encodeUrl {cs : List Char} (hcs : OnWire cs) :
    (encodeUrl cs).dropWhile isBlank = encodeUrl (cs.dropWhile isBlank) := by
  induction cs with
  | nil => rfl
  | cons c rest ih =>
    have hrest := ih (hcs.subset fun x hx => List.mem_cons_of_mem c hx)
    obtain ⟨⟨hc, hnul⟩, hspace⟩ := hcs c List.mem_cons_self
    by_cases htab : c = '\t'
    · have hplain : PlainInUrl c := htab ▸ ⟨by decide, by decide⟩
      have hblank : isBlank c = true := htab ▸ rfl
      rw [encodeUrl_cons_plain hplain, List.dropWhile_cons_of_pos hblank,
        List.dropWhile_cons_of_pos hblank, hrest]
    · have hblank : ¬isBlank c = true := by
        rw [hcs.tabs List.mem_cons_self, decide_eq_true_iff]
        exact htab
      rw [List.dropWhile_cons_of_neg hblank]
      by_cases hplain : PlainInUrl c
      · rw [encodeUrl_cons_plain hplain, List.dropWhile_cons_of_neg hblank]
      · rw [(encodeUrl_cons_cases hc hnul rest).resolve_left hplain]
        exact List.dropWhile_cons_of_neg (by decide)

/-- The blanks at the end are tabs too. -/
theorem rdropWhile_tabs {cs : List Char} (hcs : OnWire cs) :
    cs.rdropWhile (· = '\t') = cs.rdropWhile isBlank := by
  have h : cs.reverse.dropWhile (fun c => decide (c = '\t')) = cs.reverse.dropWhile isBlank := by
    have hall : ∀ l : List Char, (∀ c ∈ l, c ∈ cs) →
        l.dropWhile (fun c => decide (c = '\t')) = l.dropWhile isBlank := by
      intro l
      induction l with
      | nil => exact fun _ => rfl
      | cons c rest ih =>
        intro hl
        rw [List.dropWhile_cons, List.dropWhile_cons, hcs.tabs (hl c List.mem_cons_self),
          ih fun x hx => hl x (List.mem_cons_of_mem c hx)]
    exact hall _ fun c hc => List.mem_reverse.mp hc
  unfold List.rdropWhile
  rw [h]

/-- Trimming and encoding can be done in either order. -/
theorem trim_encodeUrl {cs : List Char} (hcs : OnWire cs) :
    TextLines.trim isBlank (encodeUrl cs) = encodeUrl (TextLines.trim isBlank cs) := by
  have hfront : OnWire (cs.dropWhile isBlank) := hcs.subset fun c hc =>
    (List.dropWhile_suffix _).subset hc
  unfold TextLines.trim
  rw [dropWhile_encodeUrl hcs, rdropWhile_encodeUrl hfront.bytes, rdropWhile_tabs hfront]

/-- Nothing is encoded to nothing. -/
theorem encodeUrl_eq_nil {cs : List Char} (hcs : ∀ c ∈ cs, c.toNat < 256 ∧ c.toNat ≠ 0) :
    encodeUrl cs = [] ↔ cs = [] := by
  cases cs with
  | nil => exact iff_of_true rfl rfl
  | cons c rest =>
    obtain ⟨hc, hnul⟩ := hcs c List.mem_cons_self
    refine iff_of_false (fun h => ?_) (List.cons_ne_nil c rest)
    rcases encodeUrl_cons_cases hc hnul rest with hplain | henc
    · rw [encodeUrl_cons_plain hplain] at h
      cases h
    · rw [henc] at h
      cases h

/-- Splitting and encoding can be done in either order. -/
theorem split_encodeUrl {d : Char} (hd : Separator d) {cs : List Char} (hcs : OnWire cs) :
    split d (encodeUrl cs) = (split d cs).map encodeUrl := by
  have hpiece : ∀ x ∈ cs.splitOn d, OnWire x := fun x hx => hcs.subset (mem_splitOn_piece hx)
  unfold split
  rw [splitOn_encodeUrl hd hcs.bytes, List.map_map]
  have hmap : (cs.splitOn d).map (TextLines.trim isBlank ∘ encodeUrl) =
      ((cs.splitOn d).map (TextLines.trim isBlank)).map encodeUrl := by
    rw [List.map_map]
    exact List.map_congr_left fun x hx => trim_encodeUrl (hpiece x hx)
  rw [hmap, List.filter_map]
  congr 1
  refine List.filter_congr fun y hy => ?_
  obtain ⟨x, hx, rfl⟩ := List.mem_map.mp hy
  have hbytes := ((hpiece x hx).subset mem_trim).bytes
  exact decide_eq_decide.mpr (not_congr (encodeUrl_eq_nil hbytes))

/-- The name and the value of an encoded pair are encoded. -/
theorem nameValue_encodeUrl {kv : List Char} (hkv : OnWire kv) :
    nameValue (encodeUrl kv) = (nameValue kv).map fun nv => (encodeUrl nv.1, encodeUrl nv.2) := by
  unfold nameValue
  rw [split_encodeUrl separator_eq hkv]
  cases split '=' kv with
  | nil => rfl
  | cons key vals =>
    show some (encodeUrl key, (vals.map encodeUrl).getLastD []) = some (encodeUrl key, _)
    congr 2
    induction vals using List.reverseRecOn with
    | nil => rfl
    | append_singleton vals v _ => simp

/-- They are parts of what arrived. -/
theorem nameValue_onWire {kv : List Char} (hkv : OnWire kv) {nv : List Char × List Char}
    (h : nameValue kv = some nv) : OnWire nv.1 ∧ OnWire nv.2 := by
  unfold nameValue at h
  cases hsplit : split '=' kv with
  | nil =>
    rw [hsplit] at h
    cases h
  | cons key vals =>
    rw [hsplit] at h
    cases h
    have hpiece : ∀ x ∈ key :: vals, OnWire x := fun x hx => hkv.subset (mem_split (hsplit ▸ hx))
    refine ⟨hpiece key List.mem_cons_self, ?_⟩
    show OnWire (vals.getLastD [])
    cases vals using List.reverseRecOn with
    | nil => exact fun c hc => absurd hc List.not_mem_nil
    | append_singleton vals v =>
      rw [List.getLastD_concat]
      exact hpiece v (List.mem_cons_of_mem _ (List.mem_append_right _ (List.mem_singleton_self v)))

/-! ## Plus signs -/

/-- A plus sign is encoded. -/
theorem plain_ne_plus {c : Char} (h : PlainInUrl c) : c ≠ '+' := by
  intro heq
  have hsame := h.2
  rw [heq] at hsame
  exact absurd hsame (by decide)

/-- Where plus signs are blanks, there are that many more blanks. -/
theorem count_decodeFrom (cs : List Char) {skip : Nat} :
    (decodeFrom true skip cs).count ' ' =
      (decodeFrom false skip cs).count ' ' + (cs.drop skip).count '+' := by
  induction cs generalizing skip with
  | nil => cases skip <;> rfl
  | cons c rest ih =>
    cases skip with
    | succ k =>
      rw [decodeFrom, decodeFrom, List.drop_succ_cons]
      exact ih
    | zero =>
      have hzero := @ih 0
      rw [List.drop_zero] at hzero
      have hfalse : ¬((false : Bool) = true ∧ c = '+') := fun h => Bool.false_ne_true h.1
      rw [List.drop_zero, decodeFrom, decodeFrom]
      by_cases hpercent : c = '%'
      · rw [if_pos hpercent, if_pos hpercent,
          List.count_cons_of_ne (by rw [hpercent]; decide)]
        cases hescape : escape rest with
        | none =>
          show ((c :: decodeFrom true 0 rest).count ' ') = (c :: decodeFrom false 0 rest).count ' ' + _
          rw [List.count_cons, List.count_cons, hzero]
          omega
        | some p =>
          obtain ⟨bytes, n⟩ := p
          -- the digits of an escape are no plus signs
          have hnone : (rest.take n).count '+' = 0 := List.count_eq_zero.mpr fun hmem =>
            plain_ne_plus (escape_plain hescape '+' hmem) rfl
          have hsplit : rest.count '+' = (rest.take n).count '+' + (rest.drop n).count '+' := by
            rw [← List.count_append, List.take_append_drop]
          show ((bytes ++ decodeFrom true n rest).count ' ') =
            (bytes ++ decodeFrom false n rest).count ' ' + _
          rw [List.count_append, List.count_append, ih, hsplit, hnone]
          omega
      · rw [if_neg hpercent, if_neg hpercent, if_neg hfalse]
        by_cases hplus : c = '+'
        · rw [if_pos ⟨rfl, hplus⟩, hplus, List.count_cons_self, List.count_cons_self,
            List.count_cons_of_ne (by decide), hzero]
          omega
        · rw [if_neg fun h => hplus h.2, List.count_cons, List.count_cons, List.count_cons, hzero,
            if_neg (show ¬(c == '+') = true by simpa using hplus)]
          omega

/-- Without a plus sign it does not matter what a plus sign is read as. -/
theorem decodeFrom_no_plus {cs : List Char} (h : '+' ∉ cs) {skip : Nat} :
    decodeFrom true skip cs = decodeFrom false skip cs := by
  induction cs generalizing skip with
  | nil => cases skip <;> rfl
  | cons c rest ih =>
    have hrest : ∀ k, decodeFrom true k rest = decodeFrom false k rest :=
      fun k => ih fun hm => h (List.mem_cons_of_mem c hm)
    cases skip with
    | succ k => exact hrest k
    | zero =>
      have hplus : ∀ b : Bool, ¬(b = true ∧ c = '+') := fun _ hc => h (hc.2 ▸ List.mem_cons_self)
      rw [decodeFrom, decodeFrom, if_neg (hplus true), if_neg (hplus false), hrest 0]
      cases escape rest with
      | none => rfl
      | some p =>
        dsimp only
        rw [hrest p.2]

/-! ## Equal pieces -/

section Weights

variable {α β : Type} [BEq α] [LawfulBEq α] [BEq β] [LawfulBEq β]

omit [LawfulBEq α] in
/-- Induction along `List.eraseDups`. -/
theorem eraseDups_induction {P : List α → Prop} (nil : P [])
    (cons : ∀ a rest, P (rest.filter fun b => !b == a) → P (a :: rest)) (l : List α) : P l := by
  induction hn : l.length using Nat.strong_induction_on generalizing l with
  | _ n ih =>
    cases l with
    | nil => exact nil
    | cons a rest =>
      refine cons a rest (ih _ ?_ _ rfl)
      rw [← hn, List.length_cons]
      exact Nat.lt_succ_of_le (List.length_filter_le _ _)

/-- Nothing is left twice. -/
theorem nodup_eraseDups (l : List α) : l.eraseDups.Nodup := by
  induction l using eraseDups_induction with
  | nil => exact List.nodup_nil
  | cons a rest ih =>
    rw [List.eraseDups_cons]
    refine List.nodup_cons.mpr ⟨fun h => ?_, ih⟩
    have hne := (List.mem_filter.mp (List.mem_eraseDups.mp h)).2
    simp at hne

/-- Where nothing is twice, all is left. -/
theorem eraseDups_of_nodup {l : List α} (h : l.Nodup) : l.eraseDups = l := by
  induction l with
  | nil => rfl
  | cons a rest ih =>
    obtain ⟨hnot, hrest⟩ := List.nodup_cons.mp h
    have hkept : (rest.filter fun b => !b == a) = rest := List.filter_eq_self.mpr fun b hb =>
      by simpa using fun heq : b = a => hnot (heq ▸ hb)
    rw [List.eraseDups_cons, hkept, ih hrest]

/-- What has the same image may be left out before or after, among what is looked at. -/
theorem eraseDups_map_filter (f : α → β) (l : List α) (p : β → Bool) :
    ((l.map f).filter p).eraseDups = ((l.eraseDups.map f).filter p).eraseDups := by
  induction l using eraseDups_induction generalizing p with
  | nil => rfl
  | cons a rest ih =>
    -- what equals the first element is filtered out with it
    have hdrop : ∀ q : β → Bool, q (f a) = false → (rest.map f).filter q =
        ((rest.filter fun b => !b == a).map f).filter q := by
      intro q hq
      rw [List.filter_map, List.filter_map, List.filter_filter]
      congr 1
      refine List.filter_congr fun b _ => ?_
      by_cases hb : b = a
      · simp [hb, hq]
      · simp [hb]
    rw [List.eraseDups_cons, List.map_cons, List.map_cons]
    by_cases hp : p (f a) = true
    · rw [List.filter_cons_of_pos hp, List.filter_cons_of_pos hp, List.eraseDups_cons,
        List.eraseDups_cons, List.filter_filter, List.filter_filter, hdrop _ (by simp), ih]
    · rw [List.filter_cons_of_neg hp, List.filter_cons_of_neg hp,
        hdrop p (Bool.eq_false_iff.mpr hp), ih]

/-- What has the same image may be left out before or after. -/
theorem eraseDups_map (f : α → β) (l : List α) :
    (l.map f).eraseDups = (l.eraseDups.map f).eraseDups := by
  have h := eraseDups_map_filter f l fun _ => true
  rw [List.filter_eq_self.mpr fun _ _ => rfl, List.filter_eq_self.mpr fun _ _ => rfl] at h
  exact h

/-- The weight of one element apart from that of the others. -/
theorem sum_filter_ne (w : α → Nat) (a : α) (l : List α) :
    (l.map w).sum = ((l.filter fun b => !b == a).map w).sum + l.count a * w a := by
  induction l with
  | nil => simp
  | cons b rest ih =>
    by_cases h : b = a
    · rw [h, List.filter_cons_of_neg (by simp), List.map_cons, List.sum_cons, List.count_cons_self,
        ih, Nat.succ_mul]
      omega
    · rw [List.filter_cons_of_pos (by simpa using h), List.map_cons, List.sum_cons, List.map_cons,
        List.sum_cons, List.count_cons_of_ne h, ih]
      omega

/-- Leaving out repeated elements makes a sum smaller, unless only elements without weight are
repeated. -/
theorem sum_eraseDups_le (w : α → Nat) (l : List α) :
    (l.eraseDups.map w).sum ≤ (l.map w).sum ∧
      ((l.eraseDups.map w).sum = (l.map w).sum → ∀ x, 0 < w x → l.count x ≤ 1) := by
  induction l using eraseDups_induction with
  | nil => exact ⟨Nat.le_refl _, fun _ x _ => Nat.zero_le _⟩
  | cons a rest ih =>
    obtain ⟨hle, heq⟩ := ih
    have hrest := sum_filter_ne w a rest
    rw [List.eraseDups_cons, List.map_cons, List.sum_cons, List.map_cons, List.sum_cons]
    refine ⟨by omega, fun h x hx => ?_⟩
    by_cases hxa : x = a
    · have hzero : rest.count a * w a = 0 := by omega
      have hcount : rest.count a = 0 := by
        rcases Nat.mul_eq_zero.mp hzero with h | h
        · exact h
        · rw [hxa] at hx
          omega
      rw [hxa, List.count_cons_self, hcount]
    · have hkept : (rest.filter fun b => !b == a).count x = rest.count x :=
        List.count_filter (by simpa using hxa)
      rw [List.count_cons_of_ne fun h => hxa h.symm, ← hkept]
      exact heq (by omega) x hx

end Weights

/-! ## The parameters -/

/-- A parameter is put beside the others. -/
theorem emplace_perm (p : List Char × List Char) (l : List (List Char × List Char)) :
    (emplace p l).Perm (p :: l) := by
  induction l with
  | nil => exact List.Perm.refl _
  | cons q rest ih =>
    unfold emplace
    split
    · exact List.Perm.refl _
    · exact (List.Perm.cons q ih).trans (List.Perm.swap p q rest)

/-- A parameter as it is decoded. -/
def decodePair (nv : List Char × List Char) : List Char × List Char :=
  (decodeUrl true nv.1, decodeUrl true nv.2)

/-- The parameters in the order of the text. -/
def paramList (query : List Char) : List (List Char × List Char) :=
  ((split '&' query).eraseDups.filterMap nameValue).map decodePair

/-- The parameters are those of the pairs, put in one by one. -/
theorem parseQueryText_eq (query : List Char) :
    parseQueryText query = (paramList query).foldl (fun params p => emplace p params) [] := by
  unfold parseQueryText paramList
  rw [List.foldl_map]
  rfl

/-- Their order is the only difference. -/
theorem parseQueryText_perm (query : List Char) : (parseQueryText query).Perm (paramList query) := by
  have h : ∀ ps qs : List (List Char × List Char),
      (ps.foldl (fun params p => emplace p params) qs).Perm (ps ++ qs) := by
    intro ps
    induction ps with
    | nil => exact fun qs => List.Perm.refl _
    | cons p rest ih =>
      intro qs
      exact (ih _).trans ((List.Perm.append_left rest (emplace_perm p qs)).trans List.perm_middle)
  rw [parseQueryText_eq]
  have hall := h (paramList query) []
  rw [List.append_nil] at hall
  exact hall

/-- A query that names no parameter. -/
def Nameless (query : List Char) : Prop := ∀ kv ∈ split '&' query, nameValue kv = none

/-- No parameter comes of a query without a name, and only of such a one. -/
theorem parseQueryText_eq_nil {query : List Char} : parseQueryText query = [] ↔ Nameless query := by
  have hlist : paramList query = [] ↔ Nameless query := by
    unfold paramList
    rw [List.map_eq_nil_iff, List.filterMap_eq_nil_iff]
    exact forall_congr' fun kv => imp_congr_left List.mem_eraseDups
  rw [← hlist]
  constructor
  · exact fun h => (h ▸ parseQueryText_perm query).nil_eq.symm
  · exact fun h => (h ▸ parseQueryText_perm query).eq_nil

/-- One for a parameter and one for each of its blanks. -/
def pairWeight (p : List Char × List Char) : Nat := 1 + p.1.count ' ' + p.2.count ' '

/-- What a piece of a query adds to the weight of the parameters. -/
def pieceWeight (kv : List Char) : Nat :=
  match nameValue kv with
  | none => 0
  | some nv => pairWeight (decodePair nv)

/-- What the parameters weigh is what the different pieces weigh. -/
theorem sum_paramList (query : List Char) : ((paramList query).map pairWeight).sum =
    ((split '&' query).eraseDups.map pieceWeight).sum := by
  unfold paramList
  induction (split '&' query).eraseDups with
  | nil => rfl
  | cons kv rest ih =>
    rw [List.map_cons, List.sum_cons, ← ih, List.filterMap_cons]
    unfold pieceWeight
    cases nameValue kv with
    | none => exact (Nat.zero_add _).symm
    | some nv => rfl

/-- Nothing is lost of a query on the way: the texts of its parameters have no plus sign, and
no two different pieces encode to the same text. -/
structure PlainQuery (query : List Char) : Prop where
  plus : ∀ kv ∈ split '&' query, ∀ nv, nameValue kv = some nv → '+' ∉ nv.1 ∧ '+' ∉ nv.2
  apart : ∀ kv ∈ split '&' query, ∀ kv' ∈ split '&' query, encodeUrl kv = encodeUrl kv' → kv = kv'

/-- A piece weighs less when it is sent on, by its plus signs. -/
theorem pieceWeight_encodeUrl {kv : List Char} (hkv : OnWire kv) :
    pieceWeight kv = pieceWeight (encodeUrl kv) +
      match nameValue kv with
      | none => 0
      | some nv => nv.1.count '+' + nv.2.count '+' := by
  unfold pieceWeight
  rw [nameValue_encodeUrl hkv]
  cases h : nameValue kv with
  | none => rfl
  | some nv =>
    obtain ⟨hname, hvalue⟩ := nameValue_onWire hkv h
    have hcount : ∀ cs : List Char, (decodeUrl true cs).count ' ' =
        (decodeUrl false cs).count ' ' + cs.count '+' := fun cs => @count_decodeFrom cs 0
    show pairWeight (decodePair nv) = pairWeight (decodePair (encodeUrl nv.1, encodeUrl nv.2)) +
      (nv.1.count '+' + nv.2.count '+')
    unfold pairWeight decodePair
    dsimp only
    rw [decodeUrl_encodeUrl true hname.bytes, decodeUrl_encodeUrl true hvalue.bytes, hcount, hcount]
    omega

/-- A piece without a parameter is only separators. -/
theorem encodeUrl_of_nameless {kv : List Char} (hkv : OnWire kv) (h : nameValue kv = none) :
    encodeUrl kv = kv := by
  have hpieces : ∀ x ∈ kv.splitOn '=', TextLines.trim isBlank x = [] := by
    intro x hx
    by_contra hne
    have hmem : TextLines.trim isBlank x ∈ split '=' kv :=
      List.mem_filter.mpr ⟨List.mem_map.mpr ⟨x, hx, rfl⟩, decide_eq_true hne⟩
    unfold nameValue at h
    cases hsplit : split '=' kv with
    | nil =>
      rw [hsplit] at hmem
      exact absurd hmem List.not_mem_nil
    | cons key vals =>
      rw [hsplit] at h
      cases h
  refine encodeUrl_plain fun c hc => ?_
  rcases mem_of_splitOn '=' hc with rfl | ⟨x, hx, hcx⟩
  · exact ⟨by decide, by decide⟩
  · have hblank := blank_of_trim (hpieces x hx) c hcx
    rw [hkv.tabs hc] at hblank
    rw [of_decide_eq_true hblank]
    exact ⟨by decide, by decide⟩

/-- Numbers that are at most others with the same sum are the same. -/
theorem eq_of_sum_eq {α : Type} {f g : α → Nat} {l : List α} (hle : ∀ x ∈ l, f x ≤ g x)
    (hsum : (l.map f).sum = (l.map g).sum) : ∀ x ∈ l, f x = g x := by
  induction l with
  | nil => exact fun x hx => absurd hx List.not_mem_nil
  | cons a rest ih =>
    have hrest : ∀ x ∈ rest, f x ≤ g x := fun x hx => hle x (List.mem_cons_of_mem a hx)
    have ha := hle a List.mem_cons_self
    have hall : (rest.map f).sum ≤ (rest.map g).sum := List.sum_le_sum hrest
    rw [List.map_cons, List.map_cons, List.sum_cons, List.sum_cons] at hsum
    intro x hx
    rcases List.mem_cons.mp hx with rfl | hx
    · omega
    · exact ih hrest (by omega) x hx

/-- Two elements that are mapped to one are counted twice there. -/
theorem two_le_count_map {α β : Type} [DecidableEq α] [BEq β] [LawfulBEq β] {f : α → β} {l : List α}
    {x y : α} (hx : x ∈ l) (hy : y ∈ l) (hne : x ≠ y) (h : f x = f y) : 2 ≤ (l.map f).count (f x) := by
  have hperm := (List.perm_cons_erase hx).map f
  have hy' : f x ∈ (l.erase x).map f :=
    List.mem_map.mpr ⟨y, (List.mem_erase_of_ne hne.symm).mpr hy, h.symm⟩
  have hpos := List.count_pos_iff.mpr hy'
  rw [hperm.count_eq, List.map_cons, List.count_cons_self]
  omega

/-- Encoding keeps the parameters of a query if and only if the query is plain. -/
theorem parseQueryText_encodeUrl_iff {query : List Char} (hquery : OnWire query) :
    parseQueryText (encodeUrl query) = parseQueryText query ↔ PlainQuery query := by
  have hpiece : ∀ kv ∈ split '&' query, OnWire kv := fun kv hkv => hquery.subset (mem_split hkv)
  have hsplit : (split '&' (encodeUrl query)).eraseDups =
      ((split '&' query).eraseDups.map encodeUrl).eraseDups := by
    rw [split_encodeUrl separator_and hquery, eraseDups_map]
  constructor
  · intro h
    -- the same parameters weigh the same
    have hweight : (((split '&' query).eraseDups.map encodeUrl).eraseDups.map pieceWeight).sum =
        ((split '&' query).eraseDups.map pieceWeight).sum := by
      have hperm := (parseQueryText_perm (encodeUrl query)).symm.trans
        (h ▸ parseQueryText_perm query)
      have hsum := (hperm.map pairWeight).sum_eq
      rw [sum_paramList, sum_paramList, hsplit] at hsum
      exact hsum
    have hless : ∀ kv ∈ (split '&' query).eraseDups, pieceWeight (encodeUrl kv) ≤ pieceWeight kv := by
      intro kv hkv
      have := pieceWeight_encodeUrl (hpiece kv (List.mem_eraseDups.mp hkv))
      omega
    have hmapped : ((split '&' query).eraseDups.map (pieceWeight ∘ encodeUrl)).sum ≤
        ((split '&' query).eraseDups.map pieceWeight).sum := List.sum_le_sum hless
    obtain ⟨hdups, honce⟩ := sum_eraseDups_le pieceWeight ((split '&' query).eraseDups.map encodeUrl)
    rw [List.map_map] at hdups honce
    have hsame := @eq_of_sum_eq _ (pieceWeight ∘ encodeUrl) pieceWeight _ hless (by omega)
    refine ⟨fun kv hkv nv hnv => ?_, fun kv hkv kv' hkv' henc => ?_⟩
    · have heq : pieceWeight (encodeUrl kv) = pieceWeight kv :=
        hsame kv (List.mem_eraseDups.mpr hkv)
      have hplus : pieceWeight kv =
          pieceWeight (encodeUrl kv) + (nv.1.count '+' + nv.2.count '+') := by
        have hpiece := pieceWeight_encodeUrl (hpiece kv hkv)
        rw [hnv] at hpiece
        exact hpiece
      exact ⟨List.count_eq_zero.mp (by omega), List.count_eq_zero.mp (by omega)⟩
    · by_contra hne
      have htwo := two_le_count_map (List.mem_eraseDups.mpr hkv) (List.mem_eraseDups.mpr hkv') hne henc
      by_cases hname : nameValue kv = none
      · -- nothing but separators: the texts were the same before
        have hname' : nameValue kv' = none := by
          have hsent := nameValue_encodeUrl (hpiece kv hkv)
          rw [henc, nameValue_encodeUrl (hpiece kv' hkv'), hname] at hsent
          exact Option.map_eq_none_iff.mp hsent
        rw [encodeUrl_of_nameless (hpiece kv hkv) hname,
          encodeUrl_of_nameless (hpiece kv' hkv') hname'] at henc
        exact hne henc
      · obtain ⟨nv, hnv⟩ := Option.ne_none_iff_exists'.mp hname
        have hpos : 0 < pieceWeight (encodeUrl kv) := by
          unfold pieceWeight
          rw [nameValue_encodeUrl (hpiece kv hkv), hnv]
          show 0 < pairWeight _
          unfold pairWeight
          omega
        have hone := honce (by omega) _ hpos
        omega
  · intro h
    have hinj : ((split '&' query).eraseDups.map encodeUrl).Nodup :=
      List.Nodup.map_on (fun kv hkv kv' hkv' henc => h.apart kv (List.mem_eraseDups.mp hkv) kv'
        (List.mem_eraseDups.mp hkv') henc) (nodup_eraseDups _)
    have hlist : paramList (encodeUrl query) = paramList query := by
      unfold paramList
      rw [hsplit, eraseDups_of_nodup hinj, List.filterMap_map, List.map_filterMap, List.map_filterMap]
      refine List.filterMap_congr fun kv hkv => ?_
      have hkv := List.mem_eraseDups.mp hkv
      rw [Function.comp_apply, nameValue_encodeUrl (hpiece kv hkv)]
      cases hnv : nameValue kv with
      | none => rfl
      | some nv =>
        obtain ⟨hname, hvalue⟩ := nameValue_onWire (hpiece kv hkv) hnv
        obtain ⟨hplus, hplus'⟩ := h.plus kv hkv nv hnv
        show some (decodePair (encodeUrl nv.1, encodeUrl nv.2)) = some (decodePair nv)
        unfold decodePair
        dsimp only
        rw [decodeUrl_encodeUrl true hname.bytes, decodeUrl_encodeUrl true hvalue.bytes]
        unfold decodeUrl
        rw [decodeFrom_no_plus hplus, decodeFrom_no_plus hplus']
    rw [parseQueryText_eq, parseQueryText_eq, hlist]

/-! ## The query of a target -/

/-- What stands behind the first question mark. -/
def afterMark (target : List Char) : List Char := (target.dropWhile (· ≠ '?')).tail

/-- The query a server reads in a target the client was asked for, as it was asked. -/
def sentQuery (target : List Char) : List Char :=
  afterMark (target.takeWhile fun c => c ≠ '#' && c.toNat ≠ 0)

theorem separator_mark : Separator '?' := ⟨⟨by decide, by decide⟩, by decide, by decide⟩

theorem separator_number : Separator '#' := ⟨⟨by decide, by decide⟩, by decide, by decide⟩

theorem Separator.isNot_encodedChar {d c : Char} (hd : Separator d) (hc : c.toNat < 256) (hne : c ≠ d) :
    ∀ x ∈ encodedChar c, x ≠ d := by
  intro x hx heq
  rcases encodedChar_cases hc with h | h
  · rw [h, List.mem_singleton] at hx
    exact hne (hx ▸ heq)
  · rw [h] at hx
    exact hd.not_mem_octet hc (heq ▸ hx)

/-- Up to a separator an encoded text is the encoded front of it. -/
theorem Separator.takeWhile_encodeUrl {d : Char} (hd : Separator d) {cs : List Char}
    (hcs : ∀ c ∈ cs, c.toNat < 256) : (encodeUrl cs).takeWhile (· ≠ d) =
      encodeUrl (cs.takeWhile fun c => c ≠ d && c.toNat ≠ 0) := by
  refine takeWhile_encodeUrl_of (fun {c} hc => ?_) (fun {c} hlt hc x hx => ?_) hcs
  · rw [not_not.mp (of_decide_eq_false hc)]
    exact hd.plain.2
  · exact decide_eq_true (hd.isNot_encodedChar hlt (of_decide_eq_true hc) x hx)

/-- From a separator on it is the encoded rest. -/
theorem Separator.dropWhile_encodeUrl {d : Char} (hd : Separator d) {cs : List Char}
    (hcs : ∀ c ∈ cs, c.toNat < 256 ∧ c.toNat ≠ 0) :
    (encodeUrl cs).dropWhile (· ≠ d) = encodeUrl (cs.dropWhile (· ≠ d)) := by
  induction cs with
  | nil => rfl
  | cons c rest ih =>
    obtain ⟨hc, hnul⟩ := hcs c List.mem_cons_self
    have hrest := ih fun x hx => hcs x (List.mem_cons_of_mem c hx)
    by_cases hsep : c = d
    · rw [hsep, List.dropWhile_cons_of_neg (by simp), encodeUrl_cons_plain hd.plain,
        List.dropWhile_cons_of_neg (by simp)]
    · have hskip : ∀ x ∈ encodedChar c, decide (x ≠ d) = true := fun x hx =>
        decide_eq_true (hd.isNot_encodedChar hc hsep x hx)
      rw [encodeUrl, if_neg hnul, List.dropWhile_append_of_pos hskip,
        List.dropWhile_cons_of_pos (by simpa using hsep), hrest]

/-- The query of an encoded target is the encoded query. -/
theorem afterMark_encodeUrl {cs : List Char} (hcs : ∀ c ∈ cs, c.toNat < 256 ∧ c.toNat ≠ 0) :
    afterMark (encodeUrl cs) = encodeUrl (afterMark cs) := by
  unfold afterMark
  rw [separator_mark.dropWhile_encodeUrl hcs]
  cases hdrop : cs.dropWhile (· ≠ '?') with
  | nil => rfl
  | cons c rest =>
    have hc : c = '?' := by
      have hhead := List.head?_dropWhile_not (· ≠ '?') cs
      rw [hdrop] at hhead
      simpa using hhead
    rw [hc, encodeUrl_cons_plain separator_mark.plain]
    rfl

/-- Blanks at the end of a target are blanks at the end of its query. -/
theorem trim_afterMark (cs : List Char) :
    TextLines.trim isBlank (afterMark (cs.rdropWhile isBlank)) =
      TextLines.trim isBlank (afterMark cs) := by
  induction cs using List.reverseRecOn with
  | nil => rfl
  | append_singleton cs x ih =>
    by_cases hx : isBlank x = true
    · rw [List.rdropWhile_concat_pos _ _ _ hx, ih]
      have hmark : x ≠ '?' := by
        intro heq
        rw [heq] at hx
        exact absurd hx (by decide)
      have hblank : ∀ c ∈ [x], isBlank c = true := by simpa using hx
      unfold afterMark
      rw [List.dropWhile_append]
      split
      next hempty =>
        rw [List.isEmpty_iff.mp hempty, List.dropWhile_cons_of_pos (by simpa using hmark)]
        rfl
      next hsome =>
        have hne : cs.dropWhile (· ≠ '?') ≠ [] := fun h => hsome (List.isEmpty_iff.mpr h)
        rw [List.tail_append_of_ne_nil hne, TextLines.trim_append_blanks hblank]
    · rw [List.rdropWhile_concat_neg _ _ _ hx]

/-- Without a question mark there is no query. -/
theorem afterMark_nil {cs : List Char} (h : '?' ∉ cs) : afterMark cs = [] := by
  unfold afterMark
  have hall : ∀ c ∈ cs, decide (c ≠ '?') = true := fun c hc =>
    decide_eq_true fun heq => h (heq ▸ hc)
  rw [List.dropWhile_eq_nil_iff.mpr hall]
  rfl

/-- A target ends in front of its fragment. -/
theorem parseTarget_target (piece : List Char) :
    (parseTarget piece).target = (TextLines.trim isBlank piece).takeWhile (· ≠ '#') := by
  unfold parseTarget
  dsimp only
  split <;> rfl

/-- The parameters of a request are read from the second part of its target, if there is one. -/
theorem params_splitQuery {piece target : List Char}
    (hgiven : (TextLines.trim isBlank piece).takeWhile (· ≠ '#') = target) :
    (parseTarget piece).params = match splitQuery target with
      | [] => []
      | [_] => []
      | _ :: query :: _ => parseQueryText query := by
  unfold parseTarget
  dsimp only
  rw [hgiven]
  cases splitQuery target with
  | nil => rfl
  | cons _ rest =>
    cases rest with
    | nil => rfl
    | cons _ _ => rfl

/-- The parameters of a target that has a path. -/
theorem parseTarget_params {piece : List Char} (hpath : TextLines.trim isBlank
      ((parseTarget piece).target.takeWhile (· ≠ '?')) ≠ []) :
    (parseTarget piece).params =
      parseQueryText (TextLines.trim isBlank (afterMark (parseTarget piece).target)) := by
  rw [parseTarget_target] at hpath ⊢
  generalize hgiven : (TextLines.trim isBlank piece).takeWhile (· ≠ '#') = target at hpath ⊢
  rw [params_splitQuery hgiven]
  unfold splitQuery
  dsimp only
  by_cases hmark : '?' ∈ target
  · rw [if_pos hmark, List.map_cons, List.map_cons, List.map_nil,
      List.filter_cons_of_pos (by simpa using hpath)]
    show _ = parseQueryText (TextLines.trim isBlank (target.dropWhile (· ≠ '?')).tail)
    by_cases hquery : TextLines.trim isBlank (target.dropWhile (· ≠ '?')).tail = []
    · rw [hquery, List.filter_cons_of_neg (by simp)]
      rfl
    · rw [List.filter_cons_of_pos (by simpa using hquery)]
  · rw [if_neg hmark, afterMark_nil hmark, List.map_cons, List.map_nil]
    by_cases hblank : TextLines.trim isBlank target = []
    · rw [hblank, List.filter_cons_of_neg (by simp)]
      rfl
    · rw [List.filter_cons_of_pos (by simpa using hblank)]
      rfl

/-- What a server obtains of a target that the client was asked for. -/
theorem parseTarget_encodeUrl_params {rest : List Char} (hrest : ∀ c ∈ '/' :: rest, c.toNat < 256) :
    (parseTarget (encodeUrl ('/' :: rest))).params =
      parseQueryText (TextLines.trim isBlank (encodeUrl (sentQuery ('/' :: rest)))) := by
  have hslash : encodeUrl ('/' :: rest) = '/' :: encodeUrl rest :=
    encodeUrl_cons_plain ⟨by decide, by decide⟩ rest
  have htarget : (parseTarget (encodeUrl ('/' :: rest))).target =
      ((encodeUrl ('/' :: rest)).rdropWhile isBlank).takeWhile (· ≠ '#') := by
    rw [parseTarget_target, hslash, trim_slash]
  have hkept : ∀ c ∈ ('/' :: rest).takeWhile (fun c => c ≠ '#' && c.toNat ≠ 0),
      c.toNat < 256 ∧ c.toNat ≠ 0 := by
    intro c hc
    have hkeep := List.mem_takeWhile_imp hc
    simp only [Bool.and_eq_true, decide_eq_true_eq] at hkeep
    exact ⟨hrest c (List.takeWhile_subset _ hc), hkeep.2⟩
  have hnumber : ∀ c, isBlank c = true → decide (c ≠ '#') = true := by
    intro c hc
    refine decide_eq_true fun heq => ?_
    rw [heq] at hc
    exact absurd hc (by decide)
  rw [parseTarget_params]
  · -- the blanks at the end, then the number sign, then the question mark
    rw [htarget, ← trim_afterMark, rdropWhile_takeWhile hnumber, trim_afterMark,
      separator_number.takeWhile_encodeUrl hrest, afterMark_encodeUrl hkept]
    rfl
  · obtain ⟨more, hmore⟩ := @rdropWhile_slash isBlank (by decide) (encodeUrl rest)
    rw [htarget, hslash, hmore, List.takeWhile_cons_of_pos (by decide),
      List.takeWhile_cons_of_pos (by decide), trim_slash]
    obtain ⟨rest', hrest'⟩ := @rdropWhile_slash isBlank (by decide)
      ((more.takeWhile (· ≠ '#')).takeWhile (· ≠ '?'))
    rw [hrest']
    exact List.cons_ne_nil _ _

end NightWatcher.Httplib
