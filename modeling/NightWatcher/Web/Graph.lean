import Mathlib.Algebra.Order.Field.Basic
import Mathlib.Data.Rat.Cast.Order
import Mathlib.Tactic.Linarith
import NightWatcher.Lib.Sweep

/-!
# `app.js`: the ambient overlay of a graph

The page draws the temperature of the co-located weather station at the times of the sensor's
readings, between two observations on the line that joins them. One loop goes over the readings
and keeps a pointer into the observations (`ambient`); `ambient_pointwise` says what it gives at
each reading, from the observations alone.

Numbers are exact: no rounding, and of what `Date.parse` and `Number` give only the numbers.
-/

namespace NightWatcher.Web

open Sweep

/-- One `[wt, temp]`. -/
structure Sample where
  time : ℚ
  temp : ℚ
deriving DecidableEq

/-- What `drawGraph` reads of a row of the weather station. -/
structure WeatherPoint where
  /-- `Date.parse`; `none` for NaN -/
  time : Option ℚ
  tempC : Option ℚ

/-- The rows with a time and a temperature. -/
def samplesOf (wxRows : List WeatherPoint) : List Sample :=
  wxRows.filterMap fun w => w.time.bind fun time => w.tempC.map fun temp => { time, temp }

/-- `wx.sort((a, b) => a[0] - b[0])`, a stable sort. -/
def sortByTime (wx : List Sample) : List Sample :=
  wx.mergeSort fun a b => decide (a.time ≤ b.time)

/-- Ambient is not interpolated across gaps of more than an hour. -/
def maxGap : ℚ := 3600

/-- The line through two samples. -/
def onLine (a b : Sample) (x : ℚ) : ℚ := a.temp + (x - a.time) / (b.time - a.time) * (b.temp - a.temp)

/-- `amb[i]`, with the pointer at `p`. -/
def ambientAt (wx : List Sample) (p : Nat) (x : ℚ) : Option ℚ :=
  match wx[0]?, wx[p]? with
  | some first, some a =>
    if x < first.time then none
    else
      match wx[p + 1]? with
      | none => if x - a.time ≤ maxGap then some a.temp else none
      | some b => if maxGap < b.time - a.time then none else some (onLine a b x)
  -- the pointer does not leave the samples
  | _, _ => none

/-- The series of the overlay, one value for each reading. -/
def ambient (xs : List ℚ) (samples : List Sample) : List (Option ℚ) :=
  sweep Sample.time (ambientAt (sortByTime samples)) (sortByTime samples) 0 xs

/-- What `drawGraph` adds to its data: nothing where the station has no sample. -/
def ambientSeries (wxRows : List WeatherPoint) (xs : List ℚ) : Option (List (Option ℚ)) :=
  if samplesOf wxRows = [] then none else some (ambient xs (samplesOf wxRows))

/-! ## What a point of the overlay is -/

/-- The value at `x`, of the samples in the order of their times. -/
inductive AmbientPoint (wx : List Sample) (x : ℚ) : Option ℚ → Prop
  /-- before the first sample -/
  | early (h : ∀ s ∈ wx, x < s.time) : AmbientPoint wx x none
  /-- an hour after the last sample, or less -/
  | fresh (front : List Sample) (a : Sample) (hwx : wx = front ++ [a]) (ha : a.time ≤ x)
      (h : x - a.time ≤ 3600) : AmbientPoint wx x (some a.temp)
  /-- longer after the last sample -/
  | stale (front : List Sample) (a : Sample) (hwx : wx = front ++ [a]) (ha : a.time ≤ x)
      (h : 3600 < x - a.time) : AmbientPoint wx x none
  /-- in a gap -/
  | gap (front : List Sample) (a b : Sample) (behind : List Sample) (hwx : wx = front ++ a ::
        b :: behind)
      (ha : a.time ≤ x) (hb : ∀ s ∈ b :: behind, x < s.time) (h : 3600 < b.time - a.time) :
      AmbientPoint wx x none
  /-- between two samples, on the line between them -/
  | between (front : List Sample) (a b : Sample) (behind : List Sample)
      (hwx : wx = front ++ a :: b :: behind) (ha : a.time ≤ x) (hb : ∀ s ∈ b :: behind, x < s.time)
      (h : b.time - a.time ≤ 3600) (hpos : 0 < b.time - a.time)
      (hlow : min a.temp b.temp ≤ onLine a b x) (hhigh : onLine a b x ≤ max a.temp b.temp) :
      AmbientPoint wx x (some (onLine a b x))

/-- Between two times the line is between the two values. -/
theorem onLine_between {a b : Sample} {x : ℚ} (ha : a.time ≤ x) (hb : x < b.time) :
    0 < b.time - a.time ∧ min a.temp b.temp ≤ onLine a b x ∧ onLine a b x ≤ max a.temp b.temp := by
  have hpos : 0 < b.time - a.time := by linarith
  have hlow : 0 ≤ (x - a.time) / (b.time - a.time) := div_nonneg (by linarith) (le_of_lt hpos)
  have hhigh : (x - a.time) / (b.time - a.time) ≤ 1 := (div_le_one hpos).mpr (by linarith)
  unfold onLine
  generalize (x - a.time) / (b.time - a.time) = r at hlow hhigh ⊢
  refine ⟨hpos, ?_, ?_⟩
  · by_cases hle : a.temp ≤ b.temp
    · rw [min_eq_left hle]
      have := mul_nonneg hlow (sub_nonneg.mpr hle)
      linarith
    · rw [min_eq_right (le_of_not_ge hle)]
      have := mul_nonneg (sub_nonneg.mpr hhigh) (sub_nonneg.mpr (le_of_not_ge hle))
      linarith
  · by_cases hle : a.temp ≤ b.temp
    · rw [max_eq_right hle]
      have := mul_nonneg (sub_nonneg.mpr hhigh) (sub_nonneg.mpr hle)
      linarith
    · rw [max_eq_left (le_of_not_ge hle)]
      have := mul_nonneg hlow (sub_nonneg.mpr (le_of_not_ge hle))
      linarith

/-- What the loop computes where its pointer stands on the last sample not after `x`. -/
theorem ambientAt_point {wx : List Sample} (hsorted : wx.Pairwise fun a b => a.time ≤ b.time)
    {p : Nat} {x : ℚ} (hp : Stands Sample.time wx x p) (hafter : ∀ b ∈ wx.drop (p + 1), x < b.time) :
    AmbientPoint wx x (ambientAt wx p x) := by
  have hinside := hp.inside
  have hzero : 0 < wx.length := by omega
  have hsplit := stands_split hinside
  unfold ambientAt
  rw [List.getElem?_eq_getElem hzero, List.getElem?_eq_getElem hinside]
  dsimp only
  by_cases hearly : x < wx[0].time
  · rw [if_pos hearly]
    refine AmbientPoint.early fun s hs => ?_
    obtain ⟨i, hi, rfl⟩ := List.getElem_of_mem hs
    by_cases hfirst : i = 0
    · subst hfirst
      exact hearly
    · exact lt_of_lt_of_le hearly (List.pairwise_iff_getElem.mp hsorted 0 i hzero hi (by omega))
  · rw [if_neg hearly]
    -- the pointer has been reached
    have hreached : wx[p].time ≤ x := by
      by_cases hp0 : p = 0
      · subst hp0
        exact not_lt.mp hearly
      · exact hp.reached _ (List.getElem?_eq_getElem hinside ▸ rfl) hp0
    by_cases hnext : p + 1 < wx.length
    · rw [List.getElem?_eq_getElem hnext]
      rw [List.drop_eq_getElem_cons hnext] at hsplit hafter
      have hb := hafter _ List.mem_cons_self
      obtain ⟨hpos, hlow, hhigh⟩ := onLine_between hreached hb
      dsimp only
      by_cases hgap : maxGap < wx[p + 1].time - wx[p].time
      · rw [if_pos hgap]
        exact AmbientPoint.gap _ _ _ _ hsplit hreached hafter hgap
      · rw [if_neg hgap]
        exact AmbientPoint.between _ _ _ _ hsplit hreached hafter (not_lt.mp hgap) hpos hlow hhigh
    · rw [List.getElem?_eq_none (not_lt.mp hnext)]
      rw [List.drop_eq_nil_of_le (not_lt.mp hnext)] at hsplit
      dsimp only
      by_cases hfresh : x - wx[p].time ≤ maxGap
      · rw [if_pos hfresh]
        exact AmbientPoint.fresh _ _ hsplit hreached hfresh
      · rw [if_neg hfresh]
        exact AmbientPoint.stale _ _ hsplit hreached (not_le.mp hfresh)

/-- At each reading the loop gives what the samples say there. -/
theorem ambient_pointwise {xs : List ℚ} {samples : List Sample} (hxs : xs.Pairwise (· ≤ ·))
    (hsamples : samples ≠ []) :
    ∃ wx, StableOrder Sample.time samples wx ∧
      List.Forall₂ (AmbientPoint wx) xs (ambient xs samples) := by
  have horder : StableOrder Sample.time samples (sortByTime samples) :=
    mergeSort_stableOrder Sample.time samples
  have hne : sortByTime samples ≠ [] := fun h =>
    hsamples (List.nil_perm.mp (h ▸ horder.perm))
  refine ⟨sortByTime samples, horder, ?_⟩
  exact sweep_forall₂ Sample.time _ horder.ascending
    (fun p x hp hafter => ambientAt_point (p := p) (x := x) horder.ascending hp hafter) hxs
    fun x _ => stands_zero Sample.time hne x

/-- Two samples of one time, two readings of one time. -/
theorem ambient_pointwise_repeated :
    ∃ wx, StableOrder Sample.time [⟨60, 4⟩, ⟨0, 1⟩, ⟨0, 2⟩] wx ∧
      List.Forall₂ (AmbientPoint wx) [-1, 30, 30, 4000]
        (ambient [-1, 30, 30, 4000] [⟨60, 4⟩, ⟨0, 1⟩, ⟨0, 2⟩]) :=
  ambient_pointwise (by decide +kernel) (by decide)

end NightWatcher.Web
