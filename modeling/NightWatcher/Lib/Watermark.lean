import Mathlib.Data.Set.Insert
import Mathlib.Logic.Relation
import Mathlib.Order.Defs.LinearOrder

/-!
# Delivering a growing set behind a watermark

A sender has items that arrive with ascending keys and remembers, as its mark,
how far it has come. Two such machines, over any items and keys:

* `Relay` sends every item once. Its law (`Relay.Safe`) is that nothing at or
  below the mark is missing on the other side; a mark may only be moved over
  items that were sent.
* `Archive` keeps one file per bucket of items and rewrites the whole file of a
  bucket when an item above the mark falls into it. Its law
  (`Archive.Consistent`) is that a file is as the stored items say unless its
  bucket still has an item above the mark; the work left over by a failed
  attempt is thus found again by the next one.
-/

namespace Watermark

open Relation

variable {ι κ β : Type} [LinearOrder κ] {key : ι → κ}

/-! ## Sending each item once -/

structure Relay (ι κ : Type) where
  stored : Set ι
  mark : κ
  sent : Set ι

namespace Relay

/-- Nothing at or below the mark is missing. -/
def Safe (key : ι → κ) (s : Relay ι κ) : Prop := ∀ i ∈ s.stored, key i ≤ s.mark → i ∈ s.sent

inductive Step (key : ι → κ) : Relay ι κ → Relay ι κ → Prop
  /-- An item arrives above the mark. -/
  | store {s : Relay ι κ} {i : ι} (h : s.mark < key i) :
      Step key s { s with stored := insert i s.stored }
  /-- Some items are sent and the mark stays. -/
  | attempt {s : Relay ι κ} {sent : Set ι} (h : s.sent ⊆ sent) : Step key s { s with sent := sent }
  /-- All items up to the new mark are sent. -/
  | advance {s : Relay ι κ} {mark : κ} {sent : Set ι} (h : s.sent ⊆ sent)
      (hall : ∀ i ∈ s.stored, s.mark < key i → key i ≤ mark → i ∈ sent) :
      Step key s { s with mark := mark, sent := sent }

theorem Step.safe {s s' : Relay ι κ} (h : Step key s s') (hs : Safe key s) : Safe key s' := by
  cases h with
  | store hnew =>
    intro j hj hle
    rcases Set.mem_insert_iff.mp hj with rfl | hj
    · exact absurd hle (not_le.mpr hnew)
    · exact hs j hj hle
  | attempt hsub =>
    intro j hj hle
    exact hsub (hs j hj hle)
  | advance hsub hall =>
    intro j hj hle
    by_cases hold : key j ≤ s.mark
    · exact hsub (hs j hj hold)
    · exact hall j hj (not_le.mp hold) hle

/-- The law holds along every run. -/
theorem safe_of_run {s s' : Relay ι κ} (h : ReflTransGen (Step key) s s') (hs : Safe key s) :
    Safe key s' := by
  induction h with
  | refl => exact hs
  | tail _ hstep ih => exact hstep.safe ih

end Relay

/-! ## Rewriting one file per bucket -/

/-- `holds b items`: the file of bucket `b` has exactly these items in this order. -/
structure Archive (ι κ β : Type) where
  stored : List ι
  mark : κ
  holds : β → List ι → Prop

namespace Archive

variable [DecidableEq β] {bucket : ι → β}

/-- What the file of a bucket should have. -/
def contents (bucket : ι → β) (s : Archive ι κ β) (b : β) : List ι :=
  s.stored.filter fun i => decide (bucket i = b)

/-- The bucket has an item above the mark. -/
def Pending (key : ι → κ) (bucket : ι → β) (s : Archive ι κ β) (b : β) : Prop :=
  ∃ i ∈ s.stored, bucket i = b ∧ s.mark < key i

/-- A file that waits for nothing is complete. -/
def Consistent (key : ι → κ) (bucket : ι → β) (s : Archive ι κ β) : Prop :=
  ∀ i ∈ s.stored, Pending key bucket s (bucket i) ∨ s.holds (bucket i) (contents bucket s (bucket i))

/-- Every file is complete. -/
def Complete (bucket : ι → β) (s : Archive ι κ β) : Prop :=
  ∀ i ∈ s.stored, s.holds (bucket i) (contents bucket s (bucket i))

inductive Step (key : ι → κ) (bucket : ι → β) : Archive ι κ β → Archive ι κ β → Prop
  /-- An item arrives above the mark. -/
  | store {s : Archive ι κ β} {i : ι} (h : s.mark < key i) :
      Step key bucket s { s with stored := s.stored ++ [i] }
  /-- An attempt that fails may leave anything in the files it had to rewrite. -/
  | attempt {s : Archive ι κ β} {holds : β → List ι → Prop}
      (h : ∀ b items, ¬Pending key bucket s b → s.holds b items → holds b items) :
      Step key bucket s { s with holds := holds }
  /-- All files that had to be rewritten are, and the mark moves to the last item. -/
  | advance {s : Archive ι κ β} {mark : κ} {holds : β → List ι → Prop}
      (h : ∀ b items, ¬Pending key bucket s b → s.holds b items → holds b items)
      (hnew : ∀ b, Pending key bucket s b → holds b (contents bucket s b)) :
      Step key bucket s { s with mark := mark, holds := holds }

theorem Step.consistent {s s' : Archive ι κ β} (h : Step key bucket s s')
    (hs : Consistent key bucket s) : Consistent key bucket s' := by
  cases h with
  | @store i hnew =>
    intro j hj
    by_cases hb : bucket j = bucket i
    · -- the bucket of the new item waits for a rewrite
      exact Or.inl ⟨i, List.mem_append.mpr (Or.inr (List.mem_singleton_self i)), hb.symm, hnew⟩
    · rcases List.mem_append.mp hj with hj | hj
      · rcases hs j hj with ⟨x, hx, hxb, hlt⟩ | hheld
        · exact Or.inl ⟨x, List.mem_append.mpr (Or.inl hx), hxb, hlt⟩
        · refine Or.inr ?_
          have hsame : contents bucket { s with stored := s.stored ++ [i] } (bucket j)
              = contents bucket s (bucket j) := by
            have hne : bucket i ≠ bucket j := fun he => hb he.symm
            simp [contents, List.filter_append, hne]
          rw [hsame]
          exact hheld
      · exact absurd (congrArg bucket (List.mem_singleton.mp hj)) hb
  | attempt hkeep =>
    intro j hj
    by_cases hp : Pending key bucket s (bucket j)
    · exact Or.inl hp
    · exact Or.inr (hkeep _ _ hp ((hs j hj).resolve_left hp))
  | advance hkeep hnew =>
    intro j hj
    by_cases hp : Pending key bucket s (bucket j)
    · exact Or.inr (hnew _ hp)
    · exact Or.inr (hkeep _ _ hp ((hs j hj).resolve_left hp))

theorem consistent_of_run {s s' : Archive ι κ β} (h : ReflTransGen (Step key bucket) s s')
    (hs : Consistent key bucket s) : Consistent key bucket s' := by
  induction h with
  | refl => exact hs
  | tail _ hstep ih => exact hstep.consistent ih

/-- With nothing above the mark every file is complete. -/
theorem Consistent.complete {s : Archive ι κ β} (hs : Consistent key bucket s)
    (hmark : ∀ i ∈ s.stored, key i ≤ s.mark) : Complete bucket s := by
  intro i hi
  refine (hs i hi).resolve_left ?_
  rintro ⟨x, hx, -, hlt⟩
  exact absurd (hmark x hx) (not_le.mpr hlt)

end Archive

end Watermark
