import Mathlib.Init

/-!
# Runs of a machine that is driven from outside

A machine `next : σ → τ → σ` makes one turn for each input; a transcript is the
list of its inputs. `Throughout P s ts` says that `P` held of every turn, in the
state the turn was made in, and `Sometime P s ts` that it held of some turn.

`run_preserves` is the invariant rule. `run_origin` traces a fact of the last
state back: what was not so at first was made so by some turn. `run_since` finds
the last turn that made it so.
-/

namespace Transcript

variable {σ τ : Type} (next : σ → τ → σ)

/-- The state after the steps. -/
def run (s : σ) : List τ → σ
  | [] => s
  | t :: ts => run (next s t) ts

/-- `P` holds at every step of the run. -/
def Throughout (P : σ → τ → Prop) (s : σ) : List τ → Prop
  | [] => True
  | t :: ts => P s t ∧ Throughout P (next s t) ts

/-- `P` holds at some step of the run. -/
def Sometime (P : σ → τ → Prop) (s : σ) : List τ → Prop
  | [] => False
  | t :: ts => P s t ∨ Sometime P (next s t) ts

variable {next} {P E : σ → τ → Prop} {s : σ} {ts : List τ}

@[simp] theorem run_nil : run next s [] = s := rfl

@[simp] theorem run_cons {t : τ} : run next s (t :: ts) = run next (next s t) ts := rfl

/-- A run of two parts runs the second from where the first ends. -/
theorem run_append {ts' : List τ} : run next s (ts ++ ts') = run next (run next s ts) ts' := by
  induction ts generalizing s with
  | nil => rfl
  | cons t ts ih => exact ih

/-- `Throughout` over two parts. -/
theorem throughout_append {ts' : List τ} : Throughout next P s (ts ++ ts') ↔
    Throughout next P s ts ∧ Throughout next P (run next s ts) ts' := by
  induction ts generalizing s with
  | nil => exact ⟨fun h => ⟨trivial, h⟩, fun h => h.2⟩
  | cons t ts ih =>
    show P s t ∧ Throughout next P (next s t) (ts ++ ts') ↔
      (P s t ∧ Throughout next P (next s t) ts) ∧ Throughout next P (run next (next s t) ts) ts'
    rw [ih, and_assoc]

/-- `Throughout` of two properties is both of them. -/
theorem throughout_and : Throughout next (fun s t => P s t ∧ E s t) s ts ↔
    Throughout next P s ts ∧ Throughout next E s ts := by
  induction ts generalizing s with
  | nil => exact ⟨fun _ => ⟨trivial, trivial⟩, fun _ => trivial⟩
  | cons t ts ih =>
    show (P s t ∧ E s t) ∧ Throughout next (fun s t => P s t ∧ E s t) (next s t) ts ↔
      (P s t ∧ Throughout next P (next s t) ts) ∧ E s t ∧ Throughout next E (next s t) ts
    rw [ih, and_and_and_comm]

/-- What always holds holds throughout. -/
theorem throughout_trivial (h : ∀ s t, P s t) : Throughout next P s ts := by
  induction ts generalizing s with
  | nil => trivial
  | cons t ts ih => exact ⟨h s t, ih⟩

/-- What every turn under `P` preserves, a run under `P` preserves. -/
theorem run_preserves {I : σ → Prop} (step : ∀ s t, P s t → I s → I (next s t))
    (hP : Throughout next P s ts) (h0 : I s) : I (run next s ts) := by
  induction ts generalizing s with
  | nil => exact h0
  | cons t ts ih => exact ih hP.2 (step s t hP.1 h0)

/-- What every turn preserves, a run preserves. -/
theorem run_invariant {I : σ → Prop} (step : ∀ s t, I s → I (next s t)) (h0 : I s) :
    I (run next s ts) := by
  induction ts generalizing s with
  | nil => exact h0
  | cons t ts ih => exact ih (step s t h0)

/-- What every turn under `P` does while `I` holds, every turn of a run does. -/
theorem throughout_of {I : σ → Prop} (step : ∀ s t, P s t → I s → E s t ∧ I (next s t))
    (hP : Throughout next P s ts) (h0 : I s) : Throughout next E s ts := by
  induction ts generalizing s with
  | nil => trivial
  | cons t ts ih =>
    obtain ⟨hE, hI⟩ := step s t hP.1 h0
    exact ⟨hE, ih hP.2 hI⟩

/-- Two properties of turns that agree while `I` holds, which the second one preserves,
hold throughout the same runs. -/
theorem throughout_congr {I : σ → Prop} {A : σ → τ → Prop}
    (step : ∀ s t, A s t → I s → (P s t ↔ E s t) ∧ (E s t → I (next s t)))
    (hA : Throughout next A s ts) (h0 : I s) : Throughout next P s ts ↔ Throughout next E s ts := by
  induction ts generalizing s with
  | nil => exact Iff.rfl
  | cons t ts ih =>
    obtain ⟨hiff, hnext⟩ := step s t hA.1 h0
    constructor
    · rintro ⟨hP, hrest⟩
      have hE := hiff.mp hP
      exact ⟨hE, (ih hA.2 (hnext hE)).mp hrest⟩
    · rintro ⟨hE, hrest⟩
      exact ⟨hiff.mpr hE, (ih hA.2 (hnext hE)).mpr hrest⟩

/-- A reflexive and transitive relation of every turn relates the ends of a run. -/
theorem run_related {I : σ → Prop} {R : σ → σ → Prop} (hrefl : ∀ s, R s s)
    (htrans : ∀ {s₁ s₂ s₃}, R s₁ s₂ → R s₂ s₃ → R s₁ s₃)
    (step : ∀ s t, P s t → I s → R s (next s t) ∧ I (next s t))
    (hP : Throughout next P s ts) (h0 : I s) : R s (run next s ts) := by
  induction ts generalizing s with
  | nil => exact hrefl s
  | cons t ts ih =>
    obtain ⟨hR, hI⟩ := step s t hP.1 h0
    exact htrans hR (ih hP.2 hI)

/-- What holds at the end held at first, or some turn brought it about. -/
theorem run_origin {I Q : σ → Prop}
    (step : ∀ s t, P s t → I s → (Q (next s t) → Q s ∨ E s t) ∧ I (next s t))
    (hP : Throughout next P s ts) (h0 : I s) (hQ : Q (run next s ts)) :
    Q s ∨ Sometime next E s ts := by
  induction ts generalizing s with
  | nil => exact Or.inl hQ
  | cons t ts ih =>
    obtain ⟨horigin, hI⟩ := step s t hP.1 h0
    rcases ih hP.2 hI hQ with hnow | hlater
    · rcases horigin hnow with hbefore | hevent
      · exact Or.inl hbefore
      · exact Or.inr (Or.inl hevent)
    · exact Or.inr (Or.inr hlater)

/-- What holds at the end and did not hold at first has held since some turn made it so. -/
theorem run_since {Q : σ → Prop} (hQ : Q (run next s ts)) :
    (∀ done rest, ts = done ++ rest → Q (run next s done)) ∨
      ∃ before t after, ts = before ++ t :: after ∧ ¬Q (run next s before) ∧
        ∀ done rest, after = done ++ rest → Q (run next (next (run next s before) t) done) := by
  induction ts generalizing s with
  | nil =>
    refine Or.inl fun done rest hsplit => ?_
    rw [(List.append_eq_nil_iff.mp hsplit.symm).1]
    exact hQ
  | cons t ts ih =>
    rcases ih hQ with hall | ⟨before, t', after, rfl, hnot, hsince⟩
    · by_cases hfirst : Q s
      · left
        intro done rest hsplit
        cases done with
        | nil => exact hfirst
        | cons t' done =>
          obtain ⟨rfl, hrest⟩ := List.cons.inj hsplit
          exact hall done rest hrest
      · exact Or.inr ⟨[], t, ts, rfl, hfirst, hall⟩
    · exact Or.inr ⟨t :: before, t', after, rfl, hnot, hsince⟩

end Transcript
