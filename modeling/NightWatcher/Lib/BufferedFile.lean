import Mathlib.Data.List.Infix

/-!
# A file written through a buffer

An output stream does not write what is inserted, but pieces of it: some while the insertion is going
on, the last one when the stream is destroyed. `Buffering` says where the pieces are cut, for any size
and policy of the buffer. Each piece is written whole or fails after a part (`Written`); after the first
failure nothing is written any more. A failure during the insertion shows in the state of the stream
(`inserted`), a failure at the end shows nowhere but in the file (`destroyed`).

Whatever fails, the file is a front part of the content (`destroyed_front`), and if the insertion went
well it is all of the content if and only if the last piece was written whole (`destroyed_eq_iff`).
-/

namespace BufferedFile

variable {α : Type}

/-- How the write of one piece ends. -/
inductive Written where
  | whole
  /-- it fails after this many elements -/
  | part (n : Nat)
deriving DecidableEq

/-- What of a piece gets into the file. -/
def Written.reached : Written → List α → List α
  | .whole, piece => piece
  | .part n, piece => piece.take n

theorem Written.reached_front (o : Written) (piece : List α) : o.reached piece <+: piece := by
  cases o with
  | whole => exact List.prefix_refl piece
  | part n => exact List.take_prefix n piece

/-- A part that is as long as the piece loses nothing. -/
theorem Written.reached_eq_iff {o : Written} {piece : List α} :
    o.reached piece = piece ↔ ∀ n, o = .part n → piece.length ≤ n := by
  cases o with
  | whole => exact ⟨fun _ _ h => (nomatch h), fun _ => rfl⟩
  | part n =>
    show piece.take n = piece ↔ _
    rw [List.take_eq_self_iff]
    exact ⟨fun h m hm => Written.part.inj hm ▸ h, fun h => h n rfl⟩

/-! ## Buffers -/

/-- Where a buffer cuts the content: the pieces it writes during the insertion, and what it keeps. -/
structure Buffering (α : Type) where
  pieces : List α → List (List α)
  kept : List α → List α
  all : ∀ content, (pieces content).flatten ++ kept content = content

/-- One element goes into a buffer of the given size, which is written out first if it is full. -/
def put (size : Nat) (state : List (List α) × List α) (a : α) : List (List α) × List α :=
  if state.2.length < size then (state.1, state.2 ++ [a]) else (state.1 ++ [state.2], [a])

theorem put_all (size : Nat) (content : List α) (state : List (List α) × List α) :
    (content.foldl (put size) state).1.flatten ++ (content.foldl (put size) state).2
      = state.1.flatten ++ state.2 ++ content := by
  induction content generalizing state with
  | nil => rw [List.foldl_nil, List.append_nil]
  | cons a rest ih =>
    have hput : (put size state a).1.flatten ++ (put size state a).2 =
        state.1.flatten ++ state.2 ++ [a] := by
      unfold put
      split
      · rw [List.append_assoc]
      · rw [List.flatten_append, List.flatten_singleton]
    rw [List.foldl_cons, ih, hput, List.append_assoc _ [a], List.singleton_append]

/-- The buffer of a fixed size. -/
def ofSize (size : Nat) : Buffering α where
  pieces content := (content.foldl (put size) ([], [])).1
  kept content := (content.foldl (put size) ([], [])).2
  all content := by rw [put_all, List.flatten_nil, List.append_nil, List.nil_append]

theorem put_fits {size : Nat} {content buffer : List α} (h : buffer.length + content.length ≤ size) :
    content.foldl (put size) ([], buffer) = ([], buffer ++ content) := by
  induction content generalizing buffer with
  | nil => rw [List.foldl_nil, List.append_nil]
  | cons a rest ih =>
    rw [List.length_cons] at h
    have hroom : buffer.length < size := by omega
    have hput : put size ([], buffer) a = ([], buffer ++ [a]) := if_pos hroom
    rw [List.foldl_cons, hput, ih (by rw [List.length_append, List.length_singleton]; omega),
      List.append_assoc, List.singleton_append]

/-- What fits is kept to the end. -/
theorem ofSize_fits {size : Nat} {content : List α} (h : content.length ≤ size) :
    (ofSize size).pieces content = [] ∧ (ofSize size).kept content = content := by
  have hfits : content.foldl (put size) ([], []) = ([], content) := put_fits (by simpa using h)
  exact ⟨congrArg Prod.fst hfits, congrArg Prod.snd hfits⟩

/-! ## Writing -/

/-- Pieces are written one after the other; the first that fails is the last. -/
def writeAll : List (List α) → List Written → List α × Bool
  | [], _ => ([], true)
  | piece :: rest, outcomes =>
    match outcomes.headD .whole with
    | .whole => (piece ++ (writeAll rest outcomes.tail).1, (writeAll rest outcomes.tail).2)
    | .part n => (piece.take n, false)

theorem writeAll_front (pieces : List (List α)) (outcomes : List Written) :
    (writeAll pieces outcomes).1 <+: pieces.flatten := by
  induction pieces generalizing outcomes with
  | nil => exact List.prefix_refl _
  | cons piece rest ih =>
    unfold writeAll
    split
    · exact (List.prefix_append_right_inj piece).mpr (ih outcomes.tail)
    · exact (List.take_prefix _ piece).trans (List.prefix_append _ _)

theorem writeAll_good {pieces : List (List α)} {outcomes : List Written}
    (h : (writeAll pieces outcomes).2 = true) : (writeAll pieces outcomes).1 = pieces.flatten := by
  induction pieces generalizing outcomes with
  | nil => rfl
  | cons piece rest ih =>
    unfold writeAll at h ⊢
    split at h
    · rw [List.flatten_cons, ← ih h]
    · cases h

/-- The insertion goes well if and only if each of its pieces is written whole. -/
theorem writeAll_good_iff (pieces : List (List α)) (outcomes : List Written) :
    (writeAll pieces outcomes).2 = true ↔ ∀ i < pieces.length, outcomes.getD i .whole = .whole := by
  induction pieces generalizing outcomes with
  | nil => exact ⟨fun _ i hi => absurd hi (Nat.not_lt_zero i), fun _ => rfl⟩
  | cons piece rest ih =>
    have hhead : outcomes.headD .whole = outcomes.getD 0 .whole := by cases outcomes <;> rfl
    have htail : ∀ i, outcomes.tail.getD i .whole = outcomes.getD (i + 1) .whole := by
      intro i
      cases outcomes <;> rfl
    unfold writeAll
    constructor
    · intro h i hi
      split at h
      · rename_i hfirst
        cases i with
        | zero => exact hhead ▸ hfirst
        | succ i => exact htail i ▸ (ih outcomes.tail).mp h i (Nat.lt_of_succ_lt_succ hi)
      · cases h
    · intro h
      rw [hhead, h 0 (Nat.succ_pos _)]
      exact (ih outcomes.tail).mpr fun i hi => htail i ▸ h (i + 1) (Nat.succ_lt_succ hi)

section Stream

variable (b : Buffering α) (outcomes : List Written) (content : List α)

/-- The file after the insertion, and whether the stream is still good. -/
def inserted : List α × Bool := writeAll (b.pieces content) outcomes

/-- How the last write ends. -/
def lastWrite : Written := outcomes.getD (b.pieces content).length .whole

/-- The file after the stream is destroyed. A stream that failed has nothing more to write. -/
def destroyed : List α :=
  if (inserted b outcomes content).2 then
    (inserted b outcomes content).1 ++ (lastWrite b outcomes content).reached (b.kept content)
  else (inserted b outcomes content).1

theorem destroyed_front : destroyed b outcomes content <+: content := by
  have hall := b.all content
  unfold destroyed
  split
  · rename_i hgood
    conv_rhs => rw [← hall]
    rw [inserted, writeAll_good hgood, List.prefix_append_right_inj]
    exact Written.reached_front _ _
  · conv_rhs => rw [← hall]
    exact (writeAll_front _ _).trans (List.prefix_append _ _)

variable {b outcomes content}

theorem destroyed_bad (hbad : (inserted b outcomes content).2 = false) :
    destroyed b outcomes content = (inserted b outcomes content).1 := by
  unfold destroyed
  rw [hbad]
  rfl

/-- After an insertion without failure the file is complete if and only if the last piece is. -/
theorem destroyed_eq_iff (hgood : (inserted b outcomes content).2 = true) :
    destroyed b outcomes content = content ↔
      (lastWrite b outcomes content).reached (b.kept content) = b.kept content := by
  have hall := b.all content
  unfold destroyed
  rw [if_pos hgood, inserted, writeAll_good hgood]
  constructor
  · intro h
    exact List.append_cancel_left (h.trans hall.symm)
  · intro h
    rw [h, hall]

end Stream

end BufferedFile
