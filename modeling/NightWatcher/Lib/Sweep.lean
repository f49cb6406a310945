import Mathlib.Data.List.Forall2
import Mathlib.Data.List.Sort
import Mathlib.Order.Defs.LinearOrder

/-!
# A pointer into a sorted list

Items are put in the order of their keys, those of one key staying as they were
(`StableOrder`), and looked up for a sequence of positions that goes up. A pointer is moved on as
long as the next item is not after the position (`advance`); it then stands on the last item that
is not (`advance_spec`), and need not go back for the next position.
-/

namespace Sweep

variable {α κ : Type} [LinearOrder κ] (key : α → κ)

/-! ## The order -/

/-- `sorted` is `items` in the order of the keys, those of one key in the order they had. -/
structure StableOrder (items sorted : List α) : Prop where
  perm : sorted.Perm items
  ascending : sorted.Pairwise fun a b => key a ≤ key b
  stable : ∀ k, (sorted.filter fun a => key a = k) = items.filter fun a => key a = k

theorem mergeSort_stableOrder (items : List α) :
    StableOrder key items (items.mergeSort fun a b => decide (key a ≤ key b)) := by
  have htrans : ∀ a b c : α, decide (key a ≤ key b) = true → decide (key b ≤ key c) = true →
      decide (key a ≤ key c) = true := by
    intro a b c hab hbc
    exact decide_eq_true (le_trans (of_decide_eq_true hab) (of_decide_eq_true hbc))
  have htotal : ∀ a b : α, (decide (key a ≤ key b) || decide (key b ≤ key a)) = true := by
    intro a b
    rw [Bool.or_eq_true, decide_eq_true_iff, decide_eq_true_iff]
    exact le_total _ _
  have hperm := List.mergeSort_perm items fun a b => decide (key a ≤ key b)
  refine ⟨hperm, ?_, fun k => ?_⟩
  · exact (List.pairwise_mergeSort htrans htotal items).imp fun h => of_decide_eq_true h
  · -- those of one key are in order before, so they come through as they were
    have hequal : (items.filter fun a => key a = k).Pairwise fun a b => decide (key a ≤ key b) := by
      refine List.pairwise_of_forall_mem_list fun a ha b hb => ?_
      have ha := of_decide_eq_true (List.mem_filter.mp ha).2
      have hb := of_decide_eq_true (List.mem_filter.mp hb).2
      exact decide_eq_true (le_of_eq (ha.trans hb.symm))
    have hsub := (List.sublist_mergeSort htrans htotal hequal List.filter_sublist).filter
      fun a => decide (key a = k)
    rw [List.filter_filter, List.filter_congr fun a _ => Bool.and_self _] at hsub
    exact (hsub.eq_of_length (hperm.filter _).length_eq.symm).symm

/-! ## The pointer -/

/-- Moves the pointer on while the next item is not after `x`. -/
def advance (items : List α) (x : κ) (p : Nat) : Nat :=
  if h : p + 1 < items.length then
    if key items[p + 1] ≤ x then advance items x (p + 1) else p
  else p
  termination_by items.length - p

/-- Where the pointer may stand at `x`: on the first item, or on one that is not after `x`. -/
structure Stands (items : List α) (x : κ) (p : Nat) : Prop where
  inside : p < items.length
  reached : ∀ a ∈ items[p]?, p ≠ 0 → key a ≤ x

theorem Stands.mono {items : List α} {x x' : κ} {p : Nat} (h : Stands key items x p) (hx : x ≤ x') :
    Stands key items x' p :=
  ⟨h.inside, fun a ha hp => le_trans (h.reached a ha hp) hx⟩

theorem stands_zero {items : List α} (h : items ≠ []) (x : κ) : Stands key items x 0 :=
  ⟨List.length_pos_iff.mpr h, fun _ _ h => absurd rfl h⟩

/-- It stops in front of the items that are after `x`. -/
theorem advance_spec {items : List α} (hsorted : items.Pairwise fun a b => key a ≤ key b) {x : κ}
    {p : Nat} (hp : Stands key items x p) :
    Stands key items x (advance key items x p) ∧
      ∀ b ∈ items.drop (advance key items x p + 1), x < key b := by
  induction hn : items.length - p generalizing p with
  | zero =>
    have hinside := hp.inside
    omega
  | succ n ih =>
    unfold advance
    by_cases h : p + 1 < items.length
    · rw [dif_pos h]
      by_cases hle : key items[p + 1] ≤ x
      · rw [if_pos hle]
        refine ih ⟨h, fun a ha _ => ?_⟩ (by omega)
        rw [List.getElem?_eq_getElem h, Option.mem_some_iff] at ha
        rw [← ha]
        exact hle
      · rw [if_neg hle]
        refine ⟨hp, fun b hb => ?_⟩
        -- the next item is after `x`, the others are not before it
        rw [List.drop_eq_getElem_cons h] at hb
        have hafter : x < key items[p + 1] := not_le.mp hle
        have hrest := hsorted.sublist (List.drop_sublist (p + 1) items)
        rw [List.drop_eq_getElem_cons h] at hrest
        rcases List.mem_cons.mp hb with rfl | hb
        · exact hafter
        · exact lt_of_lt_of_le hafter ((List.pairwise_cons.mp hrest).1 b hb)
    · rw [dif_neg h, List.drop_eq_nil_of_le (by omega)]
      exact ⟨hp, fun b hb => absurd hb List.not_mem_nil⟩

/-- The sorted list around an item that `x` has reached: what is in front of it, and what is
behind it. -/
theorem stands_split {items : List α} {p : Nat} (h : p < items.length) :
    items = items.take p ++ items[p] :: items.drop (p + 1) := by
  rw [List.getElem_cons_drop, List.take_append_drop]

/-! ## The sweep -/

variable {β : Type} (at_ : Nat → κ → β)

/-- One value for each position, the pointer being kept from one to the next. -/
def sweep (items : List α) : Nat → List κ → List β
  | _, [] => []
  | p, x :: xs => at_ (advance key items x p) x :: sweep items (advance key items x p) xs

/-- What holds of the value at every pointer that stands on the last item not after the position
holds along the whole sweep. -/
theorem sweep_forall₂ {items : List α} (hsorted : items.Pairwise fun a b => key a ≤ key b)
    {P : κ → β → Prop}
    (hat : ∀ p x, Stands key items x p → (∀ b ∈ items.drop (p + 1), x < key b) → P x (at_ p x))
    {xs : List κ} (hxs : xs.Pairwise (· ≤ ·)) {p : Nat} (hp : ∀ x ∈ xs, Stands key items x p) :
    List.Forall₂ P xs (sweep key at_ items p xs) := by
  induction xs generalizing p with
  | nil => exact List.Forall₂.nil
  | cons x xs ih =>
    obtain ⟨hx, hrest⟩ := List.pairwise_cons.mp hxs
    obtain ⟨hstands, hafter⟩ := advance_spec key hsorted (hp x List.mem_cons_self)
    exact List.Forall₂.cons (hat _ x hstands hafter)
      (ih hrest fun x' hx' => hstands.mono key (hx x' hx'))

end Sweep
