import NightWatcher.Lib.Throwing

/-!
# Two runs side by side

`Alike x y s t Q E`: run from `s` and `t`, `x` and `y` end the same way: both
return one value, with their states in `Q`, or both throw one error, with their
states in `E`. `Blind R x` is the case of one program in two states: what `R`
lets differ makes no difference to what `x` returns, and stays the only
difference.

The rules follow the program text, as those of `Meets` and `Keeps` do.
-/

namespace Throwing

variable {ε σ α β : Type}

/-- `x` from `s` and `y` from `t` end the same way. -/
def Alike (x y : EStateM ε σ α) (s t : σ) (Q : α → σ → σ → Prop) (E : ε → σ → σ → Prop) : Prop :=
  match x s, y t with
  | .ok a s', .ok b t' => a = b ∧ Q a s' t'
  | .error e s', .error e' t' => e = e' ∧ E e s' t'
  | _, _ => False

section Rules

variable {s t : σ} {Q : α → σ → σ → Prop} {E : ε → σ → σ → Prop}

/-- How two runs that end alike have ended. -/
theorem alike_iff {x y : EStateM ε σ α} : Alike x y s t Q E ↔
    (∃ a s' t', x s = .ok a s' ∧ y t = .ok a t' ∧ Q a s' t') ∨
      ∃ e s' t', x s = .error e s' ∧ y t = .error e t' ∧ E e s' t' := by
  unfold Alike
  cases hx : x s with
  | ok a s' =>
    cases hy : y t with
    | ok b t' =>
      constructor
      · rintro ⟨rfl, h⟩
        exact Or.inl ⟨a, s', t', rfl, rfl, h⟩
      · rintro (⟨c, _, _, hc, hc', h⟩ | ⟨_, _, _, hc, -⟩)
        · cases hc
          cases hc'
          exact ⟨rfl, h⟩
        · cases hc
    | error e t' =>
      constructor
      · exact False.elim
      · rintro (⟨_, _, _, -, hc, -⟩ | ⟨_, _, _, hc, -⟩)
        · cases hc
        · cases hc
  | error e s' =>
    cases hy : y t with
    | ok b t' =>
      constructor
      · exact False.elim
      · rintro (⟨_, _, _, hc, -⟩ | ⟨_, _, _, -, hc, -⟩)
        · cases hc
        · cases hc
    | error e' t' =>
      constructor
      · rintro ⟨rfl, h⟩
        exact Or.inr ⟨e, s', t', rfl, rfl, h⟩
      · rintro (⟨_, _, _, hc, -⟩ | ⟨_, _, _, hc, hc', h⟩)
        · cases hc
        · cases hc
          cases hc'
          exact ⟨rfl, h⟩

/-- Weaker postconditions are easier to meet. -/
theorem Alike.mono {x y : EStateM ε σ α} {Q' : α → σ → σ → Prop} {E' : ε → σ → σ → Prop}
    (h : Alike x y s t Q E) (hQ : ∀ a s t, Q a s t → Q' a s t) (hE : ∀ e s t, E e s t → E' e s t) :
    Alike x y s t Q' E' := by
  rcases alike_iff.mp h with ⟨a, s', t', hx, hy, h⟩ | ⟨e, s', t', hx, hy, h⟩
  · exact alike_iff.mpr (Or.inl ⟨a, s', t', hx, hy, hQ a s' t' h⟩)
  · exact alike_iff.mpr (Or.inr ⟨e, s', t', hx, hy, hE e s' t' h⟩)

/-- Returning the same ends alike. -/
theorem alike_pure {a : α} (h : Q a s t) :
    Alike (pure a : EStateM ε σ α) (pure a) s t Q E := ⟨rfl, h⟩

/-- So does throwing the same. -/
theorem alike_throw {e : ε} (h : E e s t) :
    Alike (throw e : EStateM ε σ α) (throw e) s t Q E := ⟨rfl, h⟩

/-- After runs that ended alike the rest must end alike. -/
theorem alike_bind {x y : EStateM ε σ α} {f g : α → EStateM ε σ β} {Q : β → σ → σ → Prop}
    (h : Alike x y s t (fun a s' t' => Alike (f a) (g a) s' t' Q E) E) :
    Alike (x >>= f) (y >>= g) s t Q E := by
  show Alike (EStateM.bind x f) (EStateM.bind y g) s t Q E
  unfold Alike EStateM.bind
  rcases alike_iff.mp h with ⟨a, s', t', hx, hy, h⟩ | ⟨e, s', t', hx, hy, h⟩
  · rw [hx, hy]
    exact h
  · rw [hx, hy]
    exact ⟨rfl, h⟩

/-- Handlers of exceptions that are alike are run alike. -/
theorem alike_tryCatch {x y : EStateM ε σ α} {h h' : ε → EStateM ε σ α}
    (hxy : Alike x y s t Q fun e s' t' => Alike (h e) (h' e) s' t' Q E) :
    Alike (tryCatch x h) (tryCatch y h') s t Q E := by
  show Alike (EStateM.tryCatch x h) (EStateM.tryCatch y h') s t Q E
  unfold Alike EStateM.tryCatch
  rcases alike_iff.mp hxy with ⟨a, s', t', hx, hy, h⟩ | ⟨e, s', t', hx, hy, h⟩
  · rw [hx, hy]
    exact ⟨rfl, h⟩
  · rw [hx, hy]
    exact h

/-- A condition that both share is decided the same way in both. -/
theorem alike_ite {c : Prop} [Decidable c] {x y x' y' : EStateM ε σ α}
    (hx : c → Alike x x' s t Q E) (hy : ¬c → Alike y y' s t Q E) :
    Alike (if c then x else y) (if c then x' else y') s t Q E := by
  by_cases hc : c
  · rw [if_pos hc, if_pos hc]
    exact hx hc
  · rw [if_neg hc, if_neg hc]
    exact hy hc

/-- A fact about one of the two runs. -/
theorem Alike.and_meets {x y : EStateM ε σ α} {P : α → σ → Prop} {F : ε → σ → Prop}
    (h : Alike x y s t Q E) (hx : Meets x s P F) :
    Alike x y s t (fun a s' t' => Q a s' t' ∧ P a s') fun e s' t' => E e s' t' ∧ F e s' := by
  rcases alike_iff.mp h with ⟨a, s', t', hs, ht, h⟩ | ⟨e, s', t', hs, ht, h⟩
  · exact alike_iff.mpr (Or.inl ⟨a, s', t', hs, ht, h, hx.of_ok hs⟩)
  · exact alike_iff.mpr (Or.inr ⟨e, s', t', hs, ht, h, hx.of_error hs⟩)

end Rules

/-! ## One program -/

/-- What differs in `R` makes no difference to `x`. -/
def Blind (R : σ → σ → Prop) (x : EStateM ε σ α) : Prop :=
  ∀ s t, R s t → Alike x x s t (fun _ => R) fun _ => R

variable {R : σ → σ → Prop}

/-- A program that returns at once sees nothing. -/
theorem blind_pure (a : α) : Blind R (pure a : EStateM ε σ α) := fun _ _ h => alike_pure h

/-- Nor does one that throws at once. -/
theorem blind_throw (e : ε) : Blind R (throw e : EStateM ε σ α) := fun _ _ h => alike_throw h

/-- What a program goes on with depends on what it was returned, and that is the same. -/
theorem blind_bind {x : EStateM ε σ α} {f : α → EStateM ε σ β} (hx : Blind R x)
    (hf : ∀ a, Blind R (f a)) : Blind R (x >>= f) :=
  fun s t h => alike_bind ((hx s t h).mono (fun a s' t' h' => hf a s' t' h') fun _ _ _ h' => h')

/-- A handler sees the exception, and that is the same. -/
theorem blind_tryCatch {x : EStateM ε σ α} {h : ε → EStateM ε σ α} (hx : Blind R x)
    (hh : ∀ e, Blind R (h e)) : Blind R (tryCatch x h) :=
  fun s t hR => alike_tryCatch ((hx s t hR).mono (fun _ _ _ h' => h') fun e s' t' h' => hh e s' t' h')

/-- A condition outside the state shows nothing of it. -/
theorem blind_ite {c : Prop} [Decidable c] {x y : EStateM ε σ α} (hx : Blind R x)
    (hy : Blind R y) : Blind R (if c then x else y) :=
  fun s t h => alike_ite (fun _ => hx s t h) fun _ => hy s t h

end Throwing
