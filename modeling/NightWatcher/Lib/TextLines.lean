import Mathlib.Data.List.Basic
import Mathlib.Data.List.DropRight
import Mathlib.Data.List.Induction

/-!
# Lines and blanks

Reading a stream line by line and cutting blanks off both ends of a text, over
any alphabet: `getlines nl` is what a loop of `std::getline` sees, `trim blank`
what remains between the first and the last symbol that is not blank. `behind pat`
finds the first occurrence of a pattern, as `std::string::find` does.
-/

namespace TextLines

variable {α : Type}

/-- The lines of a stream: the parts between separators, the last one only if
it is not empty. -/
def getlines [DecidableEq α] (nl : α) : List α → List (List α)
  | [] => []
  | c :: cs =>
    if c = nl then [] :: getlines nl cs
    else
      match getlines nl cs with
      | [] => [[c]]
      | l :: ls => (c :: l) :: ls

def trim (blank : α → Bool) (s : List α) : List α := (s.dropWhile blank).rdropWhile blank

@[simp] theorem getlines_nil [DecidableEq α] (nl : α) : getlines nl [] = [] := rfl

/-- A line that ends with its separator comes off the front. -/
theorem getlines_append [DecidableEq α] {nl : α} {line : List α} (h : nl ∉ line) (rest : List α) :
    getlines nl (line ++ nl :: rest) = line :: getlines nl rest := by
  induction line with
  | nil => simp [getlines]
  | cons c cs ih =>
    have hc : c ≠ nl := fun heq => h (by simp [heq])
    have hcs : nl ∉ cs := fun hm => h (List.mem_cons_of_mem c hm)
    rw [List.cons_append, getlines, if_neg hc, ih hcs]

/-- Terminated lines are read back one by one. -/
theorem getlines_flatMap [DecidableEq α] {nl : α} (lines : List (List α))
    (h : ∀ l ∈ lines, nl ∉ l) :
    getlines nl (lines.flatMap fun l => l ++ [nl]) = lines := by
  induction lines with
  | nil => rfl
  | cons l ls ih =>
    rw [List.flatMap_cons, List.append_assoc, List.singleton_append,
      getlines_append (h l (by simp)), ih fun l' hl' => h l' (by simp [hl'])]

/-- No line has a separator in it. -/
theorem notMem_getlines [DecidableEq α] {nl : α} {s line : List α} (h : line ∈ getlines nl s) :
    nl ∉ line := by
  induction s generalizing line with
  | nil => exact absurd h List.not_mem_nil
  | cons c cs ih =>
    unfold getlines at h
    by_cases hc : c = nl
    · rw [if_pos hc] at h
      rcases List.mem_cons.mp h with rfl | h
      · exact List.not_mem_nil
      · exact ih h
    · rw [if_neg hc] at h
      cases hrest : getlines nl cs with
      | nil =>
        rw [hrest] at h
        obtain rfl := List.mem_singleton.mp h
        exact fun hmem => hc (List.mem_singleton.mp hmem).symm
      | cons l ls =>
        rw [hrest] at h ih
        rcases List.mem_cons.mp h with rfl | h
        · intro hmem
          rcases List.mem_cons.mp hmem with heq | hmem
          · exact hc heq.symm
          · exact ih List.mem_cons_self hmem
        · exact ih (List.mem_cons_of_mem l h)

/-- The lines are the parts between separators, up to an empty last one. -/
theorem splitOn_getlines [DecidableEq α] (nl : α) (s : List α) :
    s.splitOn nl = getlines nl s ∨ s.splitOn nl = getlines nl s ++ [[]] := by
  induction s with
  | nil => exact Or.inr rfl
  | cons c cs ih =>
    rw [List.splitOn_cons_eq_if_modifyHead, getlines]
    by_cases hc : c = nl
    · rw [if_pos (beq_iff_eq.mpr hc), if_pos hc]
      exact ih.imp (congrArg (List.cons [])) (congrArg (List.cons []))
    · rw [if_neg (by simpa using hc), if_neg hc]
      rcases ih with h | h
      · rw [h]
        cases hlines : getlines nl cs with
        | nil => exact absurd (h.trans hlines) (List.splitOn_ne_nil nl cs)
        | cons l ls => exact Or.inl rfl
      · rw [h]
        cases hlines : getlines nl cs with
        | nil => exact Or.inl rfl
        | cons l ls => exact Or.inr rfl

/-- What is cut off the end of a text is all of one kind, up to a symbol that is not. -/
theorem rdropWhile_append {p : α → Bool} {xs ys : List α} (hys : ∀ c ∈ ys, p c = true)
    (hxs : ∀ c ∈ xs.getLast?, p c = false) : (xs ++ ys).rdropWhile p = xs := by
  induction ys using List.reverseRecOn with
  | nil =>
    rw [List.append_nil, List.rdropWhile_eq_self_iff]
    intro hne
    simpa using hxs _ (by rw [List.getLast?_eq_getLast_of_ne_nil hne]; simp)
  | append_singleton ys c ih =>
    rw [← List.append_assoc, List.rdropWhile_concat_pos _ _ _ (hys c (by simp))]
    exact ih fun c hc => hys c (List.mem_append_left _ hc)

theorem trim_head (blank : α → Bool) (s : List α) : ∀ c ∈ (trim blank s).head?, blank c = false := by
  intro c hc
  obtain ⟨rest, hrest⟩ := List.rdropWhile_prefix blank (l := s.dropWhile blank)
  have hdrop := List.head?_dropWhile_not blank s
  unfold trim at hc
  cases hkept : (s.dropWhile blank).rdropWhile blank with
  | nil =>
    rw [hkept] at hc
    cases hc
  | cons d ds =>
    rw [hkept] at hc hrest
    cases hc
    rw [← hrest] at hdrop
    simpa using hdrop

/-- Blanks around a text are cut off, if it neither starts nor ends with one. -/
theorem trim_append {blank : α → Bool} {before s after : List α}
    (hbefore : ∀ c ∈ before, blank c = true)
    (hafter : ∀ c ∈ after, blank c = true) (hh : ∀ c ∈ s.head?, blank c = false)
    (hl : ∀ c ∈ s.getLast?, blank c = false) : trim blank (before ++ (s ++ after)) = s := by
  unfold trim
  cases s with
  | nil =>
    have hall : ∀ c ∈ before ++ ([] ++ after), blank c = true := fun c hc =>
      (List.mem_append.mp hc).elim (hbefore c) (hafter c)
    rw [List.dropWhile_eq_nil_iff.mpr hall]
    rfl
  | cons c cs =>
    have hc : ¬blank c = true := by simp [hh c rfl]
    rw [List.dropWhile_append_of_pos hbefore, List.cons_append, List.dropWhile_cons, if_neg hc,
      ← List.cons_append]
    exact rdropWhile_append hafter hl

/-- Blanks in front of any text make no difference. -/
theorem trim_blanks_append {blank : α → Bool} {before : List α} (h : ∀ c ∈ before, blank c = true)
    (s : List α) : trim blank (before ++ s) = trim blank s := by
  unfold trim
  rw [List.dropWhile_append_of_pos h]

/-- Nor do blanks behind it. -/
theorem trim_append_blanks {blank : α → Bool} {after : List α} (h : ∀ c ∈ after, blank c = true)
    (s : List α) : trim blank (s ++ after) = trim blank s := by
  unfold trim
  rw [List.dropWhile_append]
  split
  next hempty =>
    rw [List.isEmpty_iff.mp hempty, List.dropWhile_eq_nil_iff.mpr h]
  next =>
    induction after using List.reverseRecOn with
    | nil => rw [List.append_nil]
    | append_singleton after c ih =>
      rw [← List.append_assoc, List.rdropWhile_concat_pos _ _ _ (h c (by simp))]
      exact ih fun x hx => h x (List.mem_append_left _ hx)

/-- A text with the blanks that are cut off it. -/
theorem exists_trim (blank : α → Bool) (s : List α) :
    ∃ before after, s = before ++ (trim blank s ++ after) ∧
    (∀ c ∈ before, blank c = true) ∧ ∀ c ∈ after, blank c = true := by
  have hcut : ∀ xs : List α, ∃ after, xs = xs.rdropWhile blank ++ after ∧ ∀ c ∈ after,
      blank c = true := by
    intro xs
    induction xs using List.reverseRecOn with
    | nil => exact ⟨[], rfl, nofun⟩
    | append_singleton xs c ih =>
      by_cases hc : blank c = true
      · obtain ⟨after, hxs, hafter⟩ := ih
        refine ⟨after ++ [c], ?_, fun x hx => ?_⟩
        · rw [List.rdropWhile_concat_pos _ _ _ hc, ← List.append_assoc, ← hxs]
        · rcases List.mem_append.mp hx with hx | hx
          · exact hafter x hx
          · exact List.mem_singleton.mp hx ▸ hc
      · exact ⟨[], by rw [List.rdropWhile_concat_neg _ _ _ hc, List.append_nil], nofun⟩
  obtain ⟨after, hdrop, hafter⟩ := hcut (s.dropWhile blank)
  refine ⟨s.takeWhile blank, after, ?_, fun c hc => List.mem_takeWhile_imp hc, hafter⟩
  unfold trim
  rw [← hdrop, List.takeWhile_append_dropWhile]

/-- Nothing is cut off a text that neither starts nor ends with a blank. -/
theorem trim_eq_self {blank : α → Bool} {s : List α} (hh : ∀ c ∈ s.head?, blank c = false)
    (hl : ∀ c ∈ s.getLast?, blank c = false) : trim blank s = s := by
  have h := @trim_append α blank [] s [] nofun nofun hh hl
  rwa [List.nil_append, List.append_nil] at h

/-! ### Fields between separators -/

theorem getlines_eq_singleton [DecidableEq α] {sep : α} {s : List α} (h : sep ∉ s) (hne : s ≠ []) :
    getlines sep s = [s] := by
  rcases splitOn_getlines sep s with hs | hs
  · rw [← hs, List.splitOn_eq_singleton h]
  · rw [List.splitOn_eq_singleton h] at hs
    cases hlines : getlines sep s with
    | nil =>
      rw [hlines] at hs
      exact absurd (List.cons.inj hs).1 hne
    | cons l ls =>
      rw [hlines] at hs
      simp at hs

/-- Fields without a separator in them are read back, if the last one is not empty. -/
theorem getlines_intercalate [DecidableEq α] {sep : α} {fs : List (List α)}
    (hfs : ∀ f ∈ fs, sep ∉ f) (hlast : ∀ f ∈ fs.getLast?, f ≠ []) :
    getlines sep ([sep].intercalate fs) = fs := by
  induction fs with
  | nil => rfl
  | cons f fs ih =>
    cases fs with
    | nil =>
      rw [List.intercalate_singleton]
      exact getlines_eq_singleton (hfs f (by simp)) (hlast f (by simp))
    | cons g gs =>
      rw [List.intercalate_cons_cons, List.append_assoc, List.singleton_append,
        getlines_append (hfs f (by simp)), ih (fun h hh => hfs h (List.mem_cons_of_mem _ hh))]
      intro h hh
      exact hlast h (by rwa [List.getLast?_cons_cons])

theorem head?_intercalate {sep : List α} {f : List α} {fs : List (List α)} (hne : f ≠ []) :
    (sep.intercalate (f :: fs)).head? = f.head? := by
  cases fs with
  | nil => rw [List.intercalate_singleton]
  | cons g gs =>
    rw [List.intercalate_cons_cons, List.append_assoc, List.head?_append_of_ne_nil _ hne]

theorem getLast?_intercalate {sep : List α} {fs : List (List α)} {f : List α}
    (hlast : fs.getLast? = some f)
    (hne : f ≠ []) : (sep.intercalate fs).getLast? = f.getLast? := by
  induction fs with
  | nil => cases hlast
  | cons g gs ih =>
    cases gs with
    | nil =>
      obtain rfl : g = f := Option.some.inj hlast
      rw [List.intercalate_singleton]
    | cons h hs =>
      rw [List.getLast?_cons_cons] at hlast
      have hrest := ih hlast
      have hsome : (sep.intercalate (h :: hs)).getLast? ≠ none := by
        rw [hrest]
        simpa using hne
      rw [List.intercalate_cons_cons, List.getLast?_append, ← hrest]
      obtain ⟨c, hc⟩ := Option.ne_none_iff_exists'.mp hsome
      rw [hc]
      rfl

/-! ### Searching -/

/-- What is behind the first occurrence of a pattern, if there is one. -/
def behind [DecidableEq α] (pat : List α) : List α → Option (List α)
  | [] => if pat = [] then some [] else none
  | c :: cs => if pat <+: c :: cs then some ((c :: cs).drop pat.length) else behind pat cs

theorem behind_append_self [DecidableEq α] (pat s : List α) : behind pat (pat ++ s) = some s := by
  cases hs : pat ++ s with
  | nil =>
    obtain ⟨rfl, rfl⟩ := List.append_eq_nil_iff.mp hs
    rfl
  | cons c cs =>
    unfold behind
    rw [← hs, if_pos (List.prefix_append pat s), List.drop_left]

theorem behind_cons [DecidableEq α] {pat : List α} {c : α} {cs : List α} (h : ¬pat <+: c :: cs) :
    behind pat (c :: cs) = behind pat cs := by
  conv_lhs => unfold behind
  rw [if_neg h]

/-- No occurrence starts at a symbol that is not the first of the pattern. -/
theorem behind_skip [DecidableEq α] {first : α} {pat before s : List α} (h : first ∉ before) :
    behind (first :: pat) (before ++ s) = behind (first :: pat) s := by
  induction before with
  | nil => rfl
  | cons c cs ih =>
    have hc : ¬first :: pat <+: c :: (cs ++ s) := by
      rw [List.cons_prefix_cons]
      exact fun hboth => h (hboth.1 ▸ List.mem_cons_self)
    rw [List.cons_append, behind_cons hc]
    exact ih fun hmem => h (List.mem_cons_of_mem c hmem)

/-- An occurrence does not reach over a symbol that is not in the pattern. -/
theorem prefix_of_append_cons {pat front rest : List α} {mark : α} (hmark : mark ∉ pat)
    (h : pat <+: front ++ mark :: rest) : pat <+: front := by
  rcases Nat.lt_or_ge front.length pat.length with hlt | hle
  · have hmarked : front ++ [mark] <+: front ++ mark :: rest :=
      (List.prefix_append_right_inj front).mpr ⟨rest, rfl⟩
    have hreach : front ++ [mark] <+: pat := by
      refine List.prefix_of_prefix_length_le hmarked h ?_
      rw [List.length_append]
      exact hlt
    exact absurd (hreach.subset (List.mem_append_right front List.mem_cons_self)) hmark
  · exact List.prefix_of_prefix_length_le h (List.prefix_append front _) hle

/-- The first occurrence is the one behind a mark, if there is none before it. -/
theorem behind_marked [DecidableEq α] {pat before : List α} {mark : α} (hmark : mark ∉ pat)
    (hbefore : ¬pat <:+: before) (s : List α) : behind pat (before ++ mark :: (pat ++ s)) = some s := by
  induction before with
  | nil =>
    have hnot : ¬pat <+: mark :: (pat ++ s) := fun h =>
      hbefore (@prefix_of_append_cons α pat [] (pat ++ s) mark hmark h).isInfix
    rw [List.nil_append, behind_cons hnot, behind_append_self]
  | cons c cs ih =>
    have hnot : ¬pat <+: c :: (cs ++ mark :: (pat ++ s)) := fun h =>
      hbefore (@prefix_of_append_cons α pat (c :: cs) (pat ++ s) mark hmark h).isInfix
    rw [List.cons_append, behind_cons hnot]
    exact ih fun h => hbefore (h.trans (List.suffix_cons c cs).isInfix)

theorem behind_none [DecidableEq α] {pat s : List α} (h : ¬pat <:+: s) : behind pat s = none := by
  induction s with
  | nil =>
    have hne : pat ≠ [] := fun heq => h (heq ▸ List.nil_infix)
    exact if_neg hne
  | cons c cs ih =>
    have hnot : ¬pat <+: c :: cs := fun hpre => h hpre.isInfix
    rw [behind_cons hnot]
    exact ih fun hin => h (hin.trans (List.suffix_cons c cs).isInfix)

theorem behind_eq_none [DecidableEq α] {first : α} {pat s : List α} (h : first ∉ s) :
    behind (first :: pat) s = none :=
  behind_none fun hin => h (hin.subset List.mem_cons_self)

end TextLines
