import Mathlib.Data.List.Infix
import Mathlib.Data.List.TakeWhile

/-!
# Bodies of several parts

A multipart body is its parts with a delimiter in front of each and another behind the last: a
line end, two hyphens and a boundary text, with two more hyphens on the last. A reader cuts at the
first delimiter it sees (`cut`), whatever wrote it. The character a delimiter begins with occurs
only there, so the first one behind a text that contains none is the one that was put there
(`cut_append`), and a text that contains one is cut short (`cut_shorter`). A part is thus read as
it was written if the delimiter is not in it (`parts_cons`), and is cut short if it is
(`parts_cut`); in a text of lines it takes a line that begins like one (`delimiter_infix_lines`).
-/

namespace Multipart

variable {α : Type} [DecidableEq α]

/-! ## The first occurrence -/

/-- What is in front of the first occurrence of `pat`, and what is behind it. -/
def cut (pat : List α) : List α → Option (List α × List α)
  | [] => if pat = [] then some ([], []) else none
  | x :: xs =>
    if pat <+: x :: xs then some ([], (x :: xs).drop pat.length)
    else (cut pat xs).map fun p => (x :: p.1, p.2)

theorem cut_prefix {pat ys : List α} (h : pat ≠ []) : cut pat (pat ++ ys) = some ([], ys) := by
  obtain ⟨c, p, rfl⟩ := List.exists_cons_of_ne_nil h
  rw [List.cons_append, cut, if_pos ⟨ys, rfl⟩]
  show some ([], (c :: p ++ ys).drop (c :: p).length) = _
  rw [List.drop_left]

theorem cut_cons {pat : List α} {x : α} {xs : List α} (h : ¬pat <+: x :: xs) :
    cut pat (x :: xs) = (cut pat xs).map fun p => (x :: p.1, p.2) := by
  rw [cut, if_neg h]

/-- A pattern whose first character occurs nowhere else in it is found behind a text that does not
contain it. -/
theorem cut_append {c : α} {p xs ys : List α} (hc : c ∉ p) (hxs : ¬(c :: p) <:+: xs) :
    cut (c :: p) (xs ++ (c :: p) ++ ys) = some (xs, ys) := by
  induction xs with
  | nil => exact cut_prefix (List.cons_ne_nil c p)
  | cons x xs ih =>
    have hrest : ¬(c :: p) <:+: xs := fun h => hxs (h.trans (List.suffix_cons x xs).isInfix)
    have hfirst : ¬(c :: p) <+: x :: (xs ++ (c :: p) ++ ys) := by
      intro h
      -- the occurrence would begin with `x` and go on into the pattern behind `xs`
      obtain ⟨hx, hp⟩ := List.cons_prefix_cons.mp h
      rw [List.append_assoc] at hp
      have hinside : ¬p <+: xs := fun h => hxs (hx ▸ (List.cons_prefix_cons.mpr ⟨rfl, h⟩).isInfix)
      rcases Nat.le_total p.length xs.length with hle | hle
      · exact hinside (List.prefix_of_prefix_length_le hp (List.prefix_append xs _) hle)
      · obtain ⟨r, rfl⟩ := List.prefix_of_prefix_length_le (List.prefix_append xs _) hp hle
        have hbehind := (List.prefix_append_right_inj xs).mp hp
        cases r with
        | nil =>
          rw [List.append_nil] at hinside
          exact hinside List.prefix_rfl
        | cons y r =>
          obtain ⟨rfl, -⟩ := List.cons_prefix_cons.mp hbehind
          exact hc (List.mem_append_right xs List.mem_cons_self)
    show cut (c :: p) (x :: (xs ++ (c :: p) ++ ys)) = _
    rw [cut_cons hfirst, ih hrest]
    rfl

/-- What is cut was put together of what is in front, the pattern and what is behind. -/
theorem cut_eq {pat zs a b : List α} (h : cut pat zs = some (a, b)) : zs = a ++ pat ++ b := by
  induction zs generalizing a with
  | nil =>
    unfold cut at h
    by_cases hpat : pat = []
    · rw [if_pos hpat] at h
      obtain ⟨rfl, rfl⟩ := Prod.mk.inj (Option.some.inj h)
      rw [hpat]
      rfl
    · rw [if_neg hpat] at h
      cases h
  | cons x xs ih =>
    by_cases hpre : pat <+: x :: xs
    · rw [cut, if_pos hpre] at h
      obtain ⟨rfl, rfl⟩ := Prod.mk.inj (Option.some.inj h)
      obtain ⟨r, hr⟩ := hpre
      rw [← hr, List.drop_left, List.nil_append]
    · rw [cut_cons hpre] at h
      obtain ⟨⟨a', b'⟩, hcut, heq⟩ := Option.map_eq_some_iff.mp h
      obtain ⟨rfl, rfl⟩ := Prod.mk.inj heq
      rw [ih hcut]
      rfl

/-- An occurrence is not behind the first one. -/
theorem cut_shorter {pat xs ys : List α} (h : pat ≠ []) :
    ∃ a b, cut pat (xs ++ pat ++ ys) = some (a, b) ∧ a.length ≤ xs.length := by
  induction xs with
  | nil => exact ⟨[], ys, cut_prefix h, Nat.le_refl _⟩
  | cons x xs ih =>
    by_cases hpre : pat <+: x :: (xs ++ pat ++ ys)
    · refine ⟨[], (x :: (xs ++ pat ++ ys)).drop pat.length, ?_, Nat.zero_le _⟩
      show cut pat (x :: (xs ++ pat ++ ys)) = _
      rw [cut, if_pos hpre]
    · obtain ⟨a, b, hcut, hle⟩ := ih
      refine ⟨x :: a, b, ?_, Nat.succ_le_succ hle⟩
      show cut pat (x :: (xs ++ pat ++ ys)) = _
      rw [cut_cons hpre, hcut]
      rfl

theorem cut_length {pat zs a b : List α} (h : cut pat zs = some (a, b))
    (hpat : pat ≠ []) : b.length < zs.length := by
  have hpos := List.length_pos_iff.mpr hpat
  rw [cut_eq h, List.length_append, List.length_append]
  omega

omit [DecidableEq α] in
/-- Nor does an occurrence reach over a place where the pattern could begin again. -/
theorem infix_append_cons {c : α} {p xs ys : List α} (hc : c ∉ p) :
    (c :: p) <:+: xs ++ c :: ys ↔ (c :: p) <:+: xs ∨ (c :: p) <:+: c :: ys := by
  constructor
  · intro h
    induction xs with
    | nil => exact Or.inr h
    | cons x xs ih =>
      rcases List.infix_cons_iff.mp h with hpre | hin
      · obtain ⟨rfl, hp⟩ := List.cons_prefix_cons.mp hpre
        -- an occurrence at the front is over before the second `c`
        rcases Nat.le_total p.length xs.length with hle | hle
        · have hfront := List.prefix_of_prefix_length_le hp (List.prefix_append xs _) hle
          exact Or.inl (List.cons_prefix_cons.mpr ⟨rfl, hfront⟩).isInfix
        · obtain ⟨r, rfl⟩ := List.prefix_of_prefix_length_le (List.prefix_append xs _) hp hle
          have hbehind := (List.prefix_append_right_inj xs).mp hp
          cases r with
          | nil =>
            rw [List.append_nil]
            exact Or.inl List.infix_rfl
          | cons y r =>
            obtain ⟨rfl, -⟩ := List.cons_prefix_cons.mp hbehind
            exact absurd (List.mem_append_right xs List.mem_cons_self) hc
      · exact (ih hin).imp_left fun hxs => hxs.trans (List.suffix_cons x xs).isInfix
  · intro h
    rcases h with hxs | hys
    · exact hxs.trans (List.prefix_append xs _).isInfix
    · exact hys.trans (List.suffix_append xs _).isInfix

omit [DecidableEq α] in
theorem infix_append_of_notMem {c : α} {p xs ys : List α} (h : c ∉ xs) :
    (c :: p) <:+: xs ++ ys ↔ (c :: p) <:+: ys := by
  induction xs with
  | nil => exact Iff.rfl
  | cons x xs ih =>
    have hx : ¬(c :: p) <+: x :: (xs ++ ys) := fun hpre =>
      h ((List.cons_prefix_cons.mp hpre).1 ▸ List.mem_cons_self)
    rw [List.cons_append, List.infix_cons_iff, or_iff_right hx, ih fun hmem =>
      h (List.mem_cons_of_mem x hmem)]

/-! ## Parts -/

def lineEnd : List Char := ['\r', '\n']

def delimiter (boundary : List Char) : List Char := '\r' :: '\n' :: '-' :: '-' :: boundary

/-- A body of these parts, each of them its header lines, an empty line and its content. -/
def body (boundary : List Char) : List (List Char) → List Char
  | [] => delimiter boundary ++ ['-', '-']
  | part :: parts => delimiter boundary ++ (lineEnd ++ part) ++ body boundary parts

/-- What is on the next line, when only blanks are left on this one. -/
def nextLine (text : List Char) : Option (List Char) :=
  match text.dropWhile fun c => c = ' ' || c = '\t' with
  | '\r' :: '\n' :: rest => some rest
  | _ => none

theorem nextLine_length {text rest : List Char} (h : nextLine text = some rest) :
    rest.length < text.length := by
  have hle := List.length_dropWhile_le (fun c => c = ' ' || c = '\t') text
  unfold nextLine at h
  split at h
  · rename_i hdrop
    obtain rfl := Option.some.inj h
    rw [hdrop, List.length_cons, List.length_cons] at hle
    omega
  · cases h

/-- The parts behind a delimiter: none behind the last one. -/
def parts (boundary text : List Char) : Option (List (List Char)) :=
  if ['-', '-'] <+: text then some []
  else
    match _h : (nextLine text).bind (cut (delimiter boundary)) with
    | none => none
    | some (part, behind) => (parts boundary behind).map (part :: ·)
termination_by text.length
decreasing_by
  obtain ⟨rest, hrest, hcut⟩ := Option.bind_eq_some_iff.mp _h
  exact Nat.lt_trans (cut_length hcut (List.cons_ne_nil _ _)) (nextLine_length hrest)

/-- A body is read from its first delimiter on, which need not have a line end in front. -/
def read (boundary text : List Char) : Option (List (List Char)) :=
  (cut (delimiter boundary) (lineEnd ++ text)).bind fun p => parts boundary p.2

variable {boundary : List Char}

theorem parts_last (text : List Char) : parts boundary ('-' :: '-' :: text) = some [] := by
  rw [parts, if_pos (List.cons_prefix_cons.mpr ⟨rfl, List.cons_prefix_cons.mpr ⟨rfl, List.nil_prefix⟩⟩)]

theorem parts_next (rest : List Char) : parts boundary (lineEnd ++ rest)
    = (cut (delimiter boundary) rest).bind fun p => (parts boundary p.2).map (p.1 :: ·) := by
  have hlast : ¬['-', '-'] <+: lineEnd ++ rest :=
    fun h => absurd (List.cons_prefix_cons.mp h).1 (by decide)
  have hline : nextLine (lineEnd ++ rest) = some rest := rfl
  rw [parts, if_neg hlast]
  split
  · rename_i hcut
    rw [hline, Option.bind_some] at hcut
    rw [hcut]
    rfl
  · rename_i part behind hcut
    rw [hline, Option.bind_some] at hcut
    rw [hcut]
    rfl

theorem notMem_delimiter (h : '\r' ∉ boundary) : '\r' ∉ '\n' :: '-' :: '-' :: boundary := by
  intro hmem
  rcases List.mem_cons.mp hmem with heq | hmem
  · exact absurd heq (by decide)
  · rcases List.mem_cons.mp hmem with heq | hmem
    · exact absurd heq (by decide)
    · rcases List.mem_cons.mp hmem with heq | hmem
      · exact absurd heq (by decide)
      · exact h hmem

/-- Behind a line end a delimiter is in the text, or the text begins with its hyphens. -/
theorem delimiter_infix_line (l : List Char) :
    delimiter boundary <:+: lineEnd ++ l ↔
        delimiter boundary <:+: l ∨ '-' :: '-' :: boundary <+: l := by
  show delimiter boundary <:+: '\r' :: '\n' :: l ↔ _
  have hlf : ¬delimiter boundary <+: '\n' :: l :=
    fun h => absurd (List.cons_prefix_cons.mp h).1 (by decide)
  have hfirst : delimiter boundary <+: '\r' :: '\n' :: l ↔ '-' :: '-' :: boundary <+: l := by
    unfold delimiter
    rw [List.cons_prefix_cons, List.cons_prefix_cons]
    simp only [true_and]
  rw [List.infix_cons_iff, List.infix_cons_iff, hfirst, or_comm, or_iff_right hlf]

theorem not_infix_lineEnd : ¬delimiter boundary <:+: lineEnd := by
  intro h
  have hlength := h.length_le
  simp [delimiter, lineEnd] at hlength

/-- A text of lines has a delimiter in it if a line has, or begins with its hyphens. -/
theorem delimiter_infix_lines (hboundary : '\r' ∉ boundary) (lines : List (List Char)) :
    delimiter boundary <:+: lineEnd ++ lines.flatMap (fun l => l ++ lineEnd) ↔
      ∃ l ∈ lines, delimiter boundary <:+: l ∨ '-' :: '-' :: boundary <+: l := by
  induction lines with
  | nil =>
    constructor
    · intro h
      rw [List.flatMap_nil, List.append_nil] at h
      exact absurd h not_infix_lineEnd
    · rintro ⟨l, hl, -⟩
      exact absurd hl List.not_mem_nil
  | cons l lines ih =>
    have hcons : lineEnd ++ (l :: lines).flatMap (fun l => l ++ lineEnd)
        = (lineEnd ++ l) ++ '\r' :: '\n' :: lines.flatMap (fun l => l ++ lineEnd) := by
      rw [List.flatMap_cons, List.append_assoc, List.append_assoc]
      rfl
    have hsplit : delimiter boundary <:+: (lineEnd ++ l) ++ '\r' :: '\n' ::
        lines.flatMap (fun l => l ++ lineEnd) ↔
        delimiter boundary <:+: lineEnd ++ l ∨
          delimiter boundary <:+: lineEnd ++ lines.flatMap fun l => l ++ lineEnd :=
      infix_append_cons (notMem_delimiter hboundary)
    rw [hcons, hsplit, delimiter_infix_line, List.exists_mem_cons_iff]
    exact or_congr_right ih

/-- In a part it is the content that matters, from the empty line on. -/
theorem delimiter_infix_part (hboundary : '\r' ∉ boundary) {header : List Char} (h : '\r' ∉ header)
    (content : List Char) : delimiter boundary <:+: header ++ (lineEnd ++ lineEnd) ++ content ↔
      delimiter boundary <:+: lineEnd ++ content := by
  have hheader : ¬delimiter boundary <:+: header := fun hin => h (hin.subset List.mem_cons_self)
  have hfirst : delimiter boundary <:+: header ++ '\r' :: '\n' :: (lineEnd ++ content) ↔
      delimiter boundary <:+: header ∨ delimiter boundary <:+: lineEnd ++ '\r' :: '\n' :: content :=
    infix_append_cons (notMem_delimiter hboundary)
  have hsecond : delimiter boundary <:+: lineEnd ++ '\r' :: '\n' :: content ↔
      delimiter boundary <:+: lineEnd ∨ delimiter boundary <:+: lineEnd ++ content :=
    infix_append_cons (notMem_delimiter hboundary)
  have hassoc : header ++ (lineEnd ++ lineEnd) ++ content = header ++ '\r' :: '\n' ::
      (lineEnd ++ content) := by
    rw [List.append_assoc, List.append_assoc]
    rfl
  rw [hassoc, hfirst, or_iff_right hheader, hsecond, or_iff_right not_infix_lineEnd]

/-- A part with no delimiter in it is read up to its end. -/
theorem parts_cons (hboundary : '\r' ∉ boundary) {part : List Char} (h : ¬delimiter boundary <:+: part)
    (behind : List Char) : parts boundary (lineEnd ++ part ++ (delimiter boundary ++ behind))
      = (parts boundary behind).map (part :: ·) := by
  have hcut : cut (delimiter boundary) (part ++ delimiter boundary ++ behind) = some (part, behind) :=
    cut_append (notMem_delimiter hboundary) h
  rw [List.append_assoc, parts_next, ← List.append_assoc, hcut]
  rfl

/-- Any other part is cut short. -/
theorem parts_cut {part behind q : List Char} {qs : List (List Char)} (h : delimiter boundary <:+: part)
    (hread : parts boundary (lineEnd ++ part ++ behind) = some (q :: qs)) : q <+: part ∧
        q.length < part.length := by
  obtain ⟨xs, ys, rfl⟩ := h
  have hlong : xs ++ delimiter boundary ++ ys ++ behind = xs ++ delimiter boundary ++ (ys ++ behind) :=
    List.append_assoc _ _ _
  have hne : delimiter boundary ≠ [] := List.cons_ne_nil _ _
  obtain ⟨a, b, hcut, hle⟩ := @cut_shorter _ _ _ xs (ys ++ behind) hne
  rw [List.append_assoc, parts_next, hlong, hcut, Option.bind_some] at hread
  obtain ⟨rest, -, heq⟩ := Option.map_eq_some_iff.mp hread
  have hq : a = q := (List.cons.inj heq).1
  have hpos : 0 < (delimiter boundary).length := Nat.succ_pos _
  have hfront : a <+: xs := by
    have ha : a <+: xs ++ (delimiter boundary ++ (ys ++ behind)) := by
      rw [← List.append_assoc, cut_eq hcut, List.append_assoc]
      exact List.prefix_append a _
    exact List.prefix_of_prefix_length_le ha (List.prefix_append xs _) hle
  rw [← hq]
  refine ⟨?_, ?_⟩
  · rw [List.append_assoc]
    exact hfront.trans (List.prefix_append xs _)
  · rw [List.length_append, List.length_append]
    omega

/-! ## A part -/

/-- The header lines of a part and its content. -/
def split (part : List Char) : Option (List Char × List Char) := cut (lineEnd ++ lineEnd) part

theorem split_part {header content : List Char} (h : '\r' ∉ header) :
    split (header ++ (lineEnd ++ lineEnd) ++ content) = some (header, content) := by
  unfold split
  induction header with
  | nil => exact cut_prefix (by decide)
  | cons x header ih =>
    have hx : ¬(lineEnd ++ lineEnd) <+: x :: (header ++ (lineEnd ++ lineEnd) ++ content) := fun hpre =>
      h ((List.cons_prefix_cons.mp hpre).1 ▸ List.mem_cons_self)
    show cut (lineEnd ++ lineEnd) (x :: (header ++ (lineEnd ++ lineEnd) ++ content)) = _
    rw [cut_cons hx, ih fun hmem => h (List.mem_cons_of_mem x hmem)]
    rfl

end Multipart
