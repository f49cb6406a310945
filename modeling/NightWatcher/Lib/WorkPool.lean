import Mathlib

/-!
# A pool of workers behind one counter

Any number of workers draw the numbers of `n` jobs from a shared counter. A worker
that has drawn a job works it off, which yields a result or none, puts the result on
a shared list and draws again; one that draws a number behind the last job leaves.
`Step` is one turn of one worker, so a run is any interleaving.

Whatever the interleaving, no job is worked off twice (`Inv.once`), every turn brings
the pool nearer to its end (`Step.cost`), a pool that has not ended can go on
(`progress`), and at the end every job has been worked off and the results are those
of the jobs, in some order (`ended`).
-/

namespace WorkPool

/-- What a worker is about to do. -/
inductive Worker (ρ : Type) where
  | draw
  | work (job : Nat)
  | put (result : ρ)
  | gone

structure Pool (ρ : Type) where
  counter : Nat := 0
  workers : List (Worker ρ)
  worked : List Nat := []
  results : List ρ := []

variable {ρ : Type} {n : Nat} {answer : Nat → Option ρ} {p p' : Pool ρ}

/-- One turn of one worker; the job `i` yields `answer i`. -/
inductive Step (n : Nat) (answer : Nat → Option ρ) (p : Pool ρ) : Pool ρ → Prop
  | draw {before after : List (Worker ρ)} (hw : p.workers = before ++ .draw :: after)
    (hjob : p.counter < n) :
    Step n answer p
      { p with counter := p.counter + 1, workers := before ++ .work p.counter :: after }
  | leave {before after : List (Worker ρ)} (hw : p.workers = before ++ .draw :: after)
    (hend : n ≤ p.counter) :
    Step n answer p { p with counter := p.counter + 1, workers := before ++ .gone :: after }
  | result {before after : List (Worker ρ)} {i : Nat} {r : ρ}
    (hw : p.workers = before ++ .work i :: after) (hr : answer i = some r) :
    Step n answer p { p with worked := p.worked ++ [i], workers := before ++ .put r :: after }
  | nothing {before after : List (Worker ρ)} {i : Nat} (hw : p.workers = before ++ .work i :: after)
    (hr : answer i = none) :
    Step n answer p { p with worked := p.worked ++ [i], workers := before ++ .draw :: after }
  | put {before after : List (Worker ρ)} {r : ρ} (hw : p.workers = before ++ .put r :: after) :
    Step n answer p { p with results := p.results ++ [r], workers := before ++ .draw :: after }

/-- Runs of any length. -/
def Runs (n : Nat) (answer : Nat → Option ρ) : Pool ρ → Pool ρ → Prop :=
  Relation.ReflTransGen (Step n answer)

/-- `m` workers, and nothing done yet. -/
def start (m : Nat) : Pool ρ := { workers := List.replicate m .draw }

def Ended (p : Pool ρ) : Prop := ∀ w ∈ p.workers, w = .gone

/-! ## What is in hand -/

def Worker.job? : Worker ρ → Option Nat
  | .work i => some i
  | _ => none

def Worker.result? : Worker ρ → Option ρ
  | .put r => some r
  | _ => none

section Hands

variable {α : Type} {f : Worker ρ → Option α} {w w' : Worker ρ} {before after : List (Worker ρ)}

/-- A worker that takes something in hand. -/
theorem hands_gain {a : α} (hw : f w = none) (hw' : f w' = some a) (done : List α) :
    (done ++ (before ++ w' :: after).filterMap f).Perm
      ((done ++ (before ++ w :: after).filterMap f) ++ [a]) := by
  rw [List.filterMap_append, List.filterMap_append, List.filterMap_cons_none hw,
    List.filterMap_cons_some hw', List.append_assoc]
  have hfront : (before.filterMap f ++ a :: after.filterMap f).Perm
      (a :: (before.filterMap f ++ after.filterMap f)) := List.perm_middle
  exact (hfront.trans (List.perm_append_singleton a _).symm).append_left done

/-- A worker that lays down what it had in hand. -/
theorem hands_lay {a : α} (hw : f w = some a) (hw' : f w' = none) (done : List α) :
    (done ++ [a] ++ (before ++ w' :: after).filterMap f).Perm
      (done ++ (before ++ w :: after).filterMap f) := by
  rw [List.filterMap_append, List.filterMap_append, List.filterMap_cons_none hw',
    List.filterMap_cons_some hw, List.append_assoc]
  have hfront : (before.filterMap f ++ a :: after.filterMap f).Perm
      (a :: (before.filterMap f ++ after.filterMap f)) := List.perm_middle
  exact hfront.symm.append_left done

theorem hands_same (hw : f w = none) (hw' : f w' = none) :
    (before ++ w' :: after).filterMap f = (before ++ w :: after).filterMap f := by
  rw [List.filterMap_append, List.filterMap_append, List.filterMap_cons_none hw,
    List.filterMap_cons_none hw']

/-- Who is among the workers and is not the one whose turn it is. -/
theorem mem_others {v : Worker ρ} (hv : v ∈ before ++ w' :: after) (hne : v ≠ w') :
    v ∈ before ++ w :: after := by
  rcases List.mem_append.mp hv with hb | ha
  · exact List.mem_append_left _ hb
  · rcases List.mem_cons.mp ha with heq | ha
    · exact absurd heq hne
    · exact List.mem_append_right _ (List.mem_cons_of_mem _ ha)

end Hands

/-- The jobs drawn so far were worked off or are in hand, and so are the results. -/
structure Inv (n : Nat) (answer : Nat → Option ρ) (p : Pool ρ) : Prop where
  drawn : (p.worked ++ p.workers.filterMap Worker.job?).Perm (List.range (min p.counter n))
  found : (p.results ++ p.workers.filterMap Worker.result?).Perm (p.worked.filterMap answer)
  left : .gone ∈ p.workers → n ≤ p.counter

theorem inv_start (n : Nat) (answer : Nat → Option ρ) (m : Nat) : Inv n answer (start m) where
  drawn := by
    have hnone : (List.replicate m (Worker.draw : Worker ρ)).filterMap Worker.job? = [] :=
      List.filterMap_eq_nil_iff.mpr fun w hw => by rw [List.eq_of_mem_replicate hw]; rfl
    show ([] ++ (List.replicate m Worker.draw).filterMap Worker.job?).Perm (List.range (min 0 n))
    rw [hnone, Nat.zero_min]
    exact List.Perm.refl _
  found := by
    have hnone : (List.replicate m (Worker.draw : Worker ρ)).filterMap Worker.result? = [] :=
      List.filterMap_eq_nil_iff.mpr fun w hw => by rw [List.eq_of_mem_replicate hw]; rfl
    show ([] ++ (List.replicate m Worker.draw).filterMap Worker.result?).Perm []
    rw [hnone]
    exact List.Perm.refl _
  left hw := by
    have hdraw := List.eq_of_mem_replicate hw
    cases hdraw

theorem Step.inv (h : Step n answer p p') (hI : Inv n answer p) : Inv n answer p' := by
  have hdrawn := hI.drawn
  have hfound := hI.found
  have hleft := hI.left
  -- a job is drawn from the counter; after that it only changes hands
  cases h with
  | draw hw hjob =>
    rw [hw] at hdrawn hfound hleft
    refine ⟨?_, ?_, fun hgone => ?_⟩
    · have hnow : min p.counter n = p.counter := by omega
      have hnext : min (p.counter + 1) n = p.counter + 1 := by omega
      rw [hnow] at hdrawn
      show List.Perm _ (List.range (min (p.counter + 1) n))
      rw [hnext, List.range_succ]
      exact (hands_gain (f := Worker.job?) (w := .draw) rfl rfl p.worked).trans (hdrawn.append_right _)
    · rw [hands_same (w := .draw) rfl rfl]
      exact hfound
    · have hold := hleft (mem_others hgone (by simp))
      show n ≤ p.counter + 1
      omega
  | leave hw hend =>
    rw [hw] at hdrawn hfound
    refine ⟨?_, ?_, fun _ => ?_⟩
    · have hsame : min (p.counter + 1) n = min p.counter n := by omega
      rw [hands_same (w := .draw) rfl rfl, hsame]
      exact hdrawn
    · rw [hands_same (w := .draw) rfl rfl]
      exact hfound
    · show n ≤ p.counter + 1
      omega
  -- worked, with a result
  | @result before after i r hw hr =>
    rw [hw] at hdrawn hfound hleft
    refine ⟨?_, ?_, fun hgone => hleft (mem_others hgone (by simp))⟩
    · exact (hands_lay (f := Worker.job?) (w := .work i) rfl rfl p.worked).trans hdrawn
    · have hworked : (p.worked ++ [i]).filterMap answer = p.worked.filterMap answer ++ [r] := by
        rw [List.filterMap_append, List.filterMap_cons_some hr, List.filterMap_nil]
      show List.Perm _ ((p.worked ++ [i]).filterMap answer)
      rw [hworked]
      exact (hands_gain (f := Worker.result?) (w := .work i) rfl rfl p.results).trans
        (hfound.append_right _)
  -- worked, with none
  | @nothing before after i hw hr =>
    rw [hw] at hdrawn hfound hleft
    refine ⟨?_, ?_, fun hgone => hleft (mem_others hgone (by simp))⟩
    · exact (hands_lay (f := Worker.job?) (w := .work i) rfl rfl p.worked).trans hdrawn
    · have hworked : (p.worked ++ [i]).filterMap answer = p.worked.filterMap answer := by
        rw [List.filterMap_append, List.filterMap_cons_none hr, List.filterMap_nil, List.append_nil]
      show List.Perm _ ((p.worked ++ [i]).filterMap answer)
      rw [hworked, hands_same (w := .work i) rfl rfl]
      exact hfound
  | @put before after r hw =>
    rw [hw] at hdrawn hfound hleft
    refine ⟨?_, ?_, fun hgone => hleft (mem_others hgone (by simp))⟩
    · rw [hands_same (w := .put r) rfl rfl]
      exact hdrawn
    · exact (hands_lay (f := Worker.result?) (w := .put r) rfl rfl p.results).trans hfound

theorem Runs.inv (h : Runs n answer p p') (hI : Inv n answer p) : Inv n answer p' := by
  induction h with
  | refl => exact hI
  | tail _ hstep ih => exact hstep.inv ih

/-- No job is drawn twice. -/
theorem Inv.once (hI : Inv n answer p) : (p.worked ++ p.workers.filterMap Worker.job?).Nodup :=
  hI.drawn.nodup_iff.mpr List.nodup_range

/-! ## The end -/

/-- Turns that a worker has left until it draws again. -/
def Worker.cost : Worker ρ → Nat
  | .draw => 1
  | .work _ => 3
  | .put _ => 2
  | .gone => 0

/-- Turns that are left at most. -/
def Pool.cost (n : Nat) (p : Pool ρ) : Nat := 3 * (n - p.counter) + (p.workers.map Worker.cost).sum

theorem cost_split {w : Worker ρ} {before after : List (Worker ρ)} :
    ((before ++ w :: after).map Worker.cost).sum =
      w.cost + ((before.map Worker.cost).sum + (after.map Worker.cost).sum) := by
  rw [List.map_append, List.map_cons, List.sum_append, List.sum_cons]
  omega

theorem Step.cost (h : Step n answer p p') : p'.cost n < p.cost n := by
  unfold Pool.cost
  cases h with
  | draw hw hjob =>
    simp only [hw, cost_split, Worker.cost]
    omega
  | leave hw hend =>
    simp only [hw, cost_split, Worker.cost]
    omega
  | result hw hr =>
    simp only [hw, cost_split, Worker.cost]
    omega
  | nothing hw hr =>
    simp only [hw, cost_split, Worker.cost]
    omega
  | put hw =>
    simp only [hw, cost_split, Worker.cost]
    omega

/-- A pool that has not ended can go on. -/
theorem progress (h : ¬Ended p) : ∃ p', Step n answer p p' := by
  obtain ⟨w, hw, hgone⟩ : ∃ w ∈ p.workers, w ≠ .gone := by
    by_contra hall
    exact h fun w hw => by_contra fun hne => hall ⟨w, hw, hne⟩
  obtain ⟨before, after, hsplit⟩ := List.append_of_mem hw
  cases w with
  | draw =>
    by_cases hjob : p.counter < n
    · exact ⟨_, .draw hsplit hjob⟩
    · exact ⟨_, .leave hsplit (Nat.not_lt.mp hjob)⟩
  | work i =>
    cases hr : answer i with
    | some r => exact ⟨_, .result hsplit hr⟩
    | none => exact ⟨_, .nothing hsplit hr⟩
  | put r => exact ⟨_, .put hsplit⟩
  | gone => exact absurd rfl hgone

/-- No interleaving goes on for ever. -/
theorem terminates (n : Nat) (answer : Nat → Option ρ) :
    WellFounded fun p' p : Pool ρ => Step n answer p p' :=
  Subrelation.wf (fun h => h.cost) (measure (Pool.cost n)).wf

/-- Every run comes to an end. -/
theorem comes_to_end (n : Nat) (answer : Nat → Option ρ) (p : Pool ρ) :
    ∃ p', Runs n answer p p' ∧ Ended p' := by
  induction p using (terminates n answer).induction with
  | _ p ih =>
    by_cases hend : Ended p
    · exact ⟨p, .refl, hend⟩
    · obtain ⟨q, hstep⟩ : ∃ q, Step n answer p q := progress hend
      obtain ⟨p', hruns, hend'⟩ := ih q hstep
      exact ⟨p', .head hstep hruns, hend'⟩

theorem Step.workers (h : Step n answer p p') : p'.workers.length = p.workers.length := by
  cases h with
  | draw hw _ | leave hw _ | result hw _ | nothing hw _ | put hw => simp [hw]

theorem Runs.workers (h : Runs n answer p p') : p'.workers.length = p.workers.length := by
  induction h with
  | refl => rfl
  | tail _ hstep ih => exact hstep.workers.trans ih

theorem Ended.nothing_in_hand {α : Type} {f : Worker ρ → Option α} (h : Ended p)
    (hgone : f .gone = none) :
    p.workers.filterMap f = [] := by
  refine List.filterMap_eq_nil_iff.mpr fun w hw => ?_
  rw [h w hw, hgone]

/-- At the end every job was worked off once, and the results are those of the jobs. -/
theorem ended {m : Nat} (hm : 0 < m) (hrun : Runs n answer (start m) p) (hend : Ended p) :
    p.worked.Perm (List.range n) ∧ p.results.Perm ((List.range n).filterMap answer) := by
  have hI := hrun.inv (inv_start n answer m)
  have hlen : p.workers.length = m := by
    rw [hrun.workers]
    exact List.length_replicate
  obtain ⟨w, hw⟩ := List.exists_mem_of_length_pos (hlen ▸ hm)
  have hall : n ≤ p.counter := hI.left (hend w hw ▸ hw)
  have hdrawn := hI.drawn
  rw [hend.nothing_in_hand rfl, List.append_nil, Nat.min_eq_right hall] at hdrawn
  have hfound := hI.found
  rw [hend.nothing_in_hand rfl, List.append_nil] at hfound
  exact ⟨hdrawn, hfound.trans (hdrawn.filterMap answer)⟩

end WorkPool
