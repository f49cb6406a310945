import Mathlib.Data.List.Basic

/-!
# Quoted literals

A literal ends at its quote; an escape takes the next element as it is (`scan`). A text that is put
between quotes unescaped is read back if and only if it has neither a quote nor an escape in it
(`scan_bare_iff`): a quote ends it early, and with an escape what is read falls behind the text by one
and never catches up.
-/

namespace QuotedText

variable {α : Type}

/-- A literal that was read, with one element in front of it. -/
def behind (x : α) (read : Option (List α × List α)) : Option (List α × List α) :=
  read.map fun cut => (x :: cut.1, cut.2)

/-- A character put in front of what is read. -/
theorem behind_eq_some {x : α} {read : Option (List α × List α)} {text rest : List α} :
    behind x read = some (text, rest) ↔ ∃ tail, text = x :: tail ∧ read = some (tail, rest) := by
  unfold behind
  rw [Option.map_eq_some_iff]
  constructor
  · rintro ⟨⟨tail, rest'⟩, hread, hcut⟩
    obtain ⟨rfl, rfl⟩ := Prod.mk.inj hcut
    exact ⟨tail, rfl, hread⟩
  · rintro ⟨tail, rfl, hread⟩
    exact ⟨(tail, rest), hread, rfl⟩

variable [DecidableEq α]

/-- The rest of a literal and what is behind its closing quote. -/
def scan (quote escape : α) : List α → Option (List α × List α)
  | [] => none
  | c :: rest =>
    if c = quote then some ([], rest)
    else if c = escape then
      match rest with
      | [] => none
      | x :: rest => behind x (scan quote escape rest)
    else behind c (scan quote escape rest)

/-- Reading a quoted text uses some of the characters up. -/
theorem scan_length {quote escape : α} {s text rest : List α}
    (h : scan quote escape s = some (text, rest)) :
    rest.length < s.length := by
  fun_induction scan quote escape s generalizing text with
  | case1 => cases h
  | case2 =>
    obtain ⟨-, rfl⟩ := Prod.mk.inj (Option.some.inj h)
    exact Nat.lt_succ_self _
  | case3 => cases h
  | case4 _ x s ih =>
    obtain ⟨tail, -, hread⟩ := behind_eq_some.mp h
    have hlt := ih hread
    simp only [List.length_cons]
    omega
  | case5 c s _ _ ih =>
    obtain ⟨tail, -, hread⟩ := behind_eq_some.mp h
    exact Nat.lt_succ_of_lt (ih hread)

variable {quote escape : α}

/-- The closing mark ends the text. -/
theorem scan_quote (rest : List α) : scan quote escape (quote :: rest) = some ([], rest) := by
  unfold scan
  exact if_pos rfl

/-- Behind the escape any character is read as itself. -/
theorem scan_escape (hne : escape ≠ quote) (x : α) (rest : List α) :
    scan quote escape (escape :: x :: rest) = behind x (scan quote escape rest) := by
  conv_lhs => unfold scan
  rw [if_neg hne, if_pos rfl]

/-- Every other character is read as itself. -/
theorem scan_other {c : α} (hquote : c ≠ quote) (hescape : c ≠ escape) (rest : List α) :
    scan quote escape (c :: rest) = behind c (scan quote escape rest) := by
  conv_lhs => unfold scan
  rw [if_neg hquote, if_neg hescape]

/-- A text without quotes and escapes is read as it is. -/
theorem scan_bare {s : List α} (hquote : quote ∉ s) (hescape : escape ∉ s) (rest : List α) :
    scan quote escape (s ++ quote :: rest) = some (s, rest) := by
  induction s with
  | nil => exact scan_quote rest
  | cons c s ih =>
    have hc : c ≠ quote ∧ c ≠ escape :=
      ⟨fun h => hquote (h ▸ List.mem_cons_self), fun h => hescape (h ▸ List.mem_cons_self)⟩
    rw [List.cons_append, scan_other hc.1 hc.2,
      ih (fun h => hquote (List.mem_cons_of_mem c h)) fun h => hescape (List.mem_cons_of_mem c h)]
    rfl

/-- What is read is never the text with escapes in front: by induction on the text, in which each
escape adds one to the debt. -/
theorem scan_not_behind (hne : escape ≠ quote) {n : Nat} {s rest rest' : List α}
    (hlength : s.length ≤ n) (k : Nat) :
    scan quote escape (s ++ quote :: rest) ≠ some (List.replicate (k + 1) escape ++ s, rest') := by
  induction n generalizing s k with
  | zero =>
    obtain rfl := List.length_eq_zero_iff.mp (Nat.le_zero.mp hlength)
    rw [List.nil_append, scan_quote]
    intro h
    cases (Prod.mk.inj (Option.some.inj h)).1
  | succ n ih =>
    intro h
    match s with
    | [] =>
      rw [List.nil_append, scan_quote] at h
      cases (Prod.mk.inj (Option.some.inj h)).1
    | c :: s =>
      rw [List.replicate_succ, List.cons_append, List.cons_append] at h
      by_cases hquote : c = quote
      · rw [hquote, scan_quote] at h
        cases (Prod.mk.inj (Option.some.inj h)).1
      · by_cases hescape : c = escape
        · subst hescape
          match s with
          | [] =>
            rw [List.nil_append, scan_escape hne, behind_eq_some] at h
            obtain ⟨tail, hhead, -⟩ := h
            exact hne (List.cons.inj hhead).1
          | x :: s =>
            rw [List.cons_append, scan_escape hne, behind_eq_some] at h
            obtain ⟨tail, hhead, hread⟩ := h
            obtain ⟨rfl, rfl⟩ := List.cons.inj hhead
            refine ih (s := s) (by simp only [List.length_cons] at hlength; omega) (k + 1) ?_
            rw [hread, List.replicate_succ', List.replicate_succ', List.append_assoc, List.append_assoc]
            rfl
        · rw [scan_other hquote hescape, behind_eq_some] at h
          obtain ⟨tail, hhead, -⟩ := h
          exact hescape (List.cons.inj hhead).1.symm

/-- A text between quotes is read back if and only if it has neither quotes nor escapes. -/
theorem scan_bare_iff (hne : escape ≠ quote) {s rest rest' : List α} :
    scan quote escape (s ++ quote :: rest) = some (s, rest') ↔
        (quote ∉ s ∧ escape ∉ s) ∧ rest' = rest := by
  constructor
  · intro h
    induction s with
    | nil =>
      rw [List.nil_append, scan_quote] at h
      exact ⟨⟨List.not_mem_nil, List.not_mem_nil⟩, (Prod.mk.inj (Option.some.inj h)).2.symm⟩
    | cons c s ih =>
      rw [List.cons_append] at h
      by_cases hquote : c = quote
      · rw [hquote, scan_quote] at h
        cases (Prod.mk.inj (Option.some.inj h)).1
      · by_cases hescape : c = escape
        · subst hescape
          match s with
          | [] =>
            rw [List.nil_append, scan_escape hne, behind_eq_some] at h
            obtain ⟨tail, hhead, -⟩ := h
            exact absurd (List.cons.inj hhead).1 hne
          | x :: s =>
            rw [List.cons_append, scan_escape hne, behind_eq_some] at h
            obtain ⟨tail, hhead, hread⟩ := h
            obtain ⟨rfl, rfl⟩ := List.cons.inj hhead
            exact absurd hread (scan_not_behind hne (Nat.le_refl _) 0)
        · rw [scan_other hquote hescape, behind_eq_some] at h
          obtain ⟨tail, hhead, hread⟩ := h
          obtain ⟨-, rfl⟩ := List.cons.inj hhead
          obtain ⟨⟨hq, he⟩, hrest⟩ := ih hread
          exact ⟨⟨List.not_mem_cons_of_ne_of_not_mem (Ne.symm hquote) hq,
            List.not_mem_cons_of_ne_of_not_mem (Ne.symm hescape) he⟩, hrest⟩
  · rintro ⟨⟨hquote, hescape⟩, rfl⟩
    exact scan_bare hquote hescape rest'

end QuotedText
