import Mathlib.Data.List.Forall2
import NightWatcher.Lib.Throwing

/-!
# Two levels of a program that may throw

`x` runs on the states of one level and `y` on those of a level above it, where
`enter k` hands a state what the outside is about to do. `Simulates enter R x y`:
whatever `x` does from a state that `R` relates to one above, `y` does for some
`k`, and `R` relates the states they end in.

A caller that catches what each of its calls throws makes a run of attempts
(`attemptAll`). If every call is simulated, so is the run
(`attemptAll_simulated`).
-/

namespace Throwing

variable {ε σ ρ κ α β : Type}

/-- An outcome as a program. -/
def ofOutcome : Except ε α → EStateM ε σ α
  | .ok a => pure a
  | .error e => throw e

@[simp] theorem meets_ofOutcome {x : Except ε α} {s : σ} {Q : α → σ → Prop} {E : ε → σ → Prop} :
    Meets (ofOutcome x) s Q E ↔ (∀ a, x = .ok a → Q a s) ∧ ∀ e, x = .error e → E e s := by
  cases x with
  | ok a => simp [ofOutcome]
  | error e => simp [ofOutcome]

/-- `y`, in a state that has been handed `k`. -/
def supplied (enter : κ → ρ → ρ) (k : κ) (y : EStateM ε ρ α) : EStateM ε ρ α := fun r => y (enter k r)

def Simulates (enter : κ → ρ → ρ) (R : σ → ρ → Prop) (x : EStateM ε σ α) (y : EStateM ε ρ α) : Prop :=
  ∀ s r, R s r → Meets x s (fun a s' => ∃ k r', supplied enter k y r = .ok a r' ∧ R s' r')
    fun e s' => ∃ k r', supplied enter k y r = .error e r' ∧ R s' r'

section Rules

variable {enter : κ → ρ → ρ} {R : σ → ρ → Prop}

/-- A relation that what is handed over does not matter to. -/
def Unsupplied (enter : κ → ρ → ρ) (R : σ → ρ → Prop) : Prop := ∀ k s r, R s r → R s (enter k r)

/-- Both levels compute the same outcome first. -/
theorem simulates_ofOutcome [Nonempty κ] (hR : Unsupplied enter R) {o : Except ε α}
    {f : α → EStateM ε σ β}
    {g : α → EStateM ε ρ β} (h : ∀ a, o = .ok a → Simulates enter R (f a) (g a)) :
    Simulates enter R (ofOutcome o >>= f) (ofOutcome o >>= g) := by
  intro s r hsr
  cases o with
  | ok a => exact h a rfl s r hsr
  | error e =>
    obtain ⟨k⟩ := ‹Nonempty κ›
    exact ⟨k, enter k r, rfl, hR k s r hsr⟩

/-- What is made of the results is the same at both levels. -/
theorem Simulates.bind_pure {x : EStateM ε σ α} {y : EStateM ε ρ α} (h : Simulates enter R x y)
    (f : α → β) :
    Simulates enter R (x >>= fun a => pure (f a)) (y >>= fun a => pure (f a)) := by
  intro s r hsr
  rw [meets_bind]
  refine (h s r hsr).mono ?_ ?_
  · rintro a s' ⟨k, r', hy, hR'⟩
    refine ⟨k, r', ?_, hR'⟩
    have hy : y (enter k r) = .ok a r' := hy
    show EStateM.bind y (fun a => EStateM.pure (f a)) (enter k r) = _
    unfold EStateM.bind
    rw [hy]
    rfl
  · rintro e s' ⟨k, r', hy, hR'⟩
    refine ⟨k, r', ?_, hR'⟩
    have hy : y (enter k r) = .error e r' := hy
    show EStateM.bind y (fun a => EStateM.pure (f a)) (enter k r) = _
    unfold EStateM.bind
    rw [hy]

end Rules

/-! ## Runs -/

def attempt (x : EStateM ε σ α) (s : σ) : Except ε α × σ :=
  match x s with
  | .ok a s' => (.ok a, s')
  | .error e s' => (.error e, s')

/-- Call after call, and what each came to. -/
def attemptAll : List (EStateM ε σ α) → σ → List (Except ε α) × σ
  | [], s => ([], s)
  | x :: xs, s =>
    let (outcome, s') := attempt x s
    let (outcomes, last) := attemptAll xs s'
    (outcome :: outcomes, last)

theorem attemptAll_cons (x : EStateM ε σ α) (xs : List (EStateM ε σ α)) (s : σ) : attemptAll (x :: xs) s
    = ((attempt x s).1 :: (attemptAll xs (attempt x s).2).1, (attemptAll xs (attempt x s).2).2) := rfl

theorem attempt_simulated {enter : κ → ρ → ρ} {R : σ → ρ → Prop} {x : EStateM ε σ α} {y : EStateM ε ρ α}
    (h : Simulates enter R x y) {s : σ} {r : ρ} (hsr : R s r) :
    ∃ k, (attempt (supplied enter k y) r).1 = (attempt x s).1 ∧
      R (attempt x s).2 (attempt (supplied enter k y) r).2 := by
  have hmeets := h s r hsr
  unfold Meets at hmeets
  unfold attempt
  cases hx : x s with
  | ok a s' =>
    rw [hx] at hmeets
    obtain ⟨k, r', hy, hR⟩ := hmeets
    exact ⟨k, by rw [hy], by rw [hy]; exact hR⟩
  | error e s' =>
    rw [hx] at hmeets
    obtain ⟨k, r', hy, hR⟩ := hmeets
    exact ⟨k, by rw [hy], by rw [hy]; exact hR⟩

/-- The calls of a run are those of one above, with the same outcomes. -/
theorem attemptAll_simulated {enter : κ → ρ → ρ} {R : σ → ρ → Prop} {xs : List (EStateM ε σ α)}
    {ys : List (EStateM ε ρ α)} (h : List.Forall₂ (Simulates enter R) xs ys) {s : σ} {r : ρ}
    (hsr : R s r) :
    ∃ ks, ks.length = ys.length ∧
      (attemptAll (List.zipWith (supplied enter) ks ys) r).1 = (attemptAll xs s).1 ∧
      R (attemptAll xs s).2 (attemptAll (List.zipWith (supplied enter) ks ys) r).2 := by
  induction h generalizing s r with
  | nil => exact ⟨[], rfl, rfl, hsr⟩
  | cons hfirst _ ih =>
    obtain ⟨k, houtcome, hR⟩ := attempt_simulated hfirst hsr
    obtain ⟨ks, hlength, houtcomes, hlast⟩ := ih hR
    refine ⟨k :: ks, congrArg (· + 1) hlength, ?_, hlast⟩
    rw [List.zipWith_cons_cons, attemptAll_cons, attemptAll_cons, houtcome, houtcomes]

end Throwing
