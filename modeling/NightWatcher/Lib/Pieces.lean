import Mathlib.Data.List.Basic

/-!
# The pieces of a text between separators

What `List.splitOn` makes of a text, read from the front, and which characters its pieces have:
those of the text, without the separator.
-/

namespace Pieces

variable {α : Type} [BEq α] [LawfulBEq α]

/-- A delimiter ends the first piece. -/
theorem splitOn_cons_self (d : α) (rest : List α) :
    (d :: rest).splitOn d = [] :: rest.splitOn d := by
  rw [List.splitOn_cons_eq_if_modifyHead, if_pos (beq_self_eq_true d)]

/-- Any other character belongs to the first piece. -/
theorem splitOn_cons_ne {c d : α} (h : c ≠ d) (rest : List α) :
    (c :: rest).splitOn d = (rest.splitOn d).modifyHead (c :: ·) := by
  rw [List.splitOn_cons_eq_if_modifyHead, if_neg (by simpa using h)]

/-- So does a front without delimiters. -/
theorem splitOn_append {d : α} {front : List α} (h : d ∉ front) (rest : List α) :
    (front ++ rest).splitOn d = (rest.splitOn d).modifyHead (front ++ ·) := by
  induction front with
  | nil =>
    show _ = (rest.splitOn d).modifyHead id
    rw [List.modifyHead_id]
    rfl
  | cons c front ih =>
    have hc : c ≠ d := fun heq => h (heq ▸ List.mem_cons_self)
    rw [List.cons_append, splitOn_cons_ne hc, ih fun hm => h (List.mem_cons_of_mem c hm),
      List.modifyHead_modifyHead]
    rfl

/-- What is in a piece is in the text. -/
theorem mem_splitOn_piece {d : α} {cs piece : List α} (h : piece ∈ cs.splitOn d) :
    ∀ c ∈ piece, c ∈ cs := by
  induction cs generalizing piece with
  | nil =>
    rw [List.mem_singleton.mp h]
    exact fun c hc => hc
  | cons x rest ih =>
    by_cases hsep : x = d
    · rw [hsep, splitOn_cons_self] at h
      rcases List.mem_cons.mp h with rfl | h
      · exact fun c hc => absurd hc List.not_mem_nil
      · exact fun c hc => List.mem_cons_of_mem x (ih h c hc)
    · rw [splitOn_cons_ne hsep] at h
      cases hrest : rest.splitOn d with
      | nil =>
        rw [hrest] at h
        exact absurd h List.not_mem_nil
      | cons first more =>
        rw [hrest] at h ih
        rcases List.mem_cons.mp h with rfl | h
        · intro c hc
          rcases List.mem_cons.mp hc with rfl | hc
          · exact List.mem_cons_self
          · exact List.mem_cons_of_mem x (ih List.mem_cons_self c hc)
        · exact fun c hc => List.mem_cons_of_mem x (ih (List.mem_cons_of_mem first h) c hc)

/-- What is in the text is a delimiter or in a piece. -/
theorem mem_of_splitOn (d : α) {cs : List α} {c : α} (h : c ∈ cs) :
    c = d ∨ ∃ piece ∈ cs.splitOn d, c ∈ piece := by
  induction cs with
  | nil => exact absurd h List.not_mem_nil
  | cons x rest ih =>
    by_cases hsep : x = d
    · rw [hsep, splitOn_cons_self]
      rcases List.mem_cons.mp h with rfl | h
      · exact Or.inl hsep
      · rcases ih h with hc | ⟨piece, hpiece, hmem⟩
        · exact Or.inl hc
        · exact Or.inr ⟨piece, List.mem_cons_of_mem _ hpiece, hmem⟩
    · rw [splitOn_cons_ne hsep]
      obtain ⟨first, more, hrest⟩ := List.exists_cons_of_ne_nil (List.splitOn_ne_nil d rest)
      rw [hrest] at ih ⊢
      rcases List.mem_cons.mp h with rfl | h
      · exact Or.inr ⟨c :: first, List.mem_cons_self, List.mem_cons_self⟩
      · rcases ih h with hc | ⟨piece, hpiece, hmem⟩
        · exact Or.inl hc
        · refine Or.inr ?_
          rcases List.mem_cons.mp hpiece with rfl | hpiece
          · exact ⟨x :: piece, List.mem_cons_self, List.mem_cons_of_mem x hmem⟩
          · exact ⟨piece, List.mem_cons_of_mem _ hpiece, hmem⟩

/-- No piece contains the separator. -/
theorem not_mem_piece {d : α} {cs piece : List α} (h : piece ∈ cs.splitOn d) : d ∉ piece := by
  induction cs generalizing piece with
  | nil =>
    rw [List.mem_singleton.mp h]
    exact List.not_mem_nil
  | cons x rest ih =>
    by_cases hsep : x = d
    · rw [hsep, splitOn_cons_self] at h
      rcases List.mem_cons.mp h with rfl | h
      · exact List.not_mem_nil
      · exact ih h
    · rw [splitOn_cons_ne hsep] at h
      obtain ⟨first, more, hrest⟩ := List.exists_cons_of_ne_nil (List.splitOn_ne_nil d rest)
      rw [hrest] at h ih
      rcases List.mem_cons.mp h with rfl | h
      · intro hmem
        rcases List.mem_cons.mp hmem with heq | hmem
        · exact hsep heq.symm
        · exact ih List.mem_cons_self hmem
      · exact ih (List.mem_cons_of_mem first h)

end Pieces
