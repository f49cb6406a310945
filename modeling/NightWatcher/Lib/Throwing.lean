import Mathlib.Init

/-!
# Programs that may throw

A routine of an imperative language with exceptions is an `EStateM ε σ α`: it
runs on a state and either returns or throws, and what it did to the state
before throwing stays done (`EStateM` over `σ` does not roll back). This file
gives such programs three small logics:

* `Meets x s Q E`: the weakest precondition of a run of `x` from `s`, with one
  postcondition for returning and one for throwing. Every combinator has a
  simp lemma, so a straight-line program is executed by rewriting, and
  `Meets.mono` glues in what is known about a callee.
* `Returns x`: from every state, `x` returns. A `try` whose handler returns
  returns, whatever its body does.
* `Keeps F x`: from every state, a run of `x` relates its first and last state
  by the frame `F`, however it ends. `Keeps` composes along the program text,
  which is how "this routine does not touch that" is proved for long handlers.
-/

namespace Throwing

variable {ε σ α β : Type}

/-- The state a run ends in, whether it returned or threw. -/
def endState : EStateM.Result ε σ α → σ
  | .ok _ s => s
  | .error _ s => s

@[simp] theorem endState_ok (a : α) (s : σ) : endState (.ok a s : EStateM.Result ε σ α) = s := rfl

@[simp] theorem endState_error (e : ε) (s : σ) :
    endState (.error e s : EStateM.Result ε σ α) = s := rfl

/-- What is done with the result alone changes no state. -/
theorem endState_bind_pure (x : EStateM ε σ α) (f : α → β) (s : σ) :
    endState ((x >>= fun a => pure (f a)) s) = endState (x s) := by
  show endState (EStateM.bind x (fun a => EStateM.pure (f a)) s) = endState (x s)
  unfold EStateM.bind
  cases x s with
  | ok a s' => rfl
  | error e s' => rfl

/-- A run of `x` from `s` returns into `Q` or throws into `E`. -/
def Meets (x : EStateM ε σ α) (s : σ) (Q : α → σ → Prop) (E : ε → σ → Prop) : Prop :=
  match x s with
  | .ok a s' => Q a s'
  | .error e s' => E e s'

/-! ## The combinators -/

section Combinators

variable {s : σ} {Q : α → σ → Prop} {E : ε → σ → Prop}

/-- A value returned has the outcome wanted of it. -/
@[simp] theorem meets_pure {a : α} : Meets (pure a : EStateM ε σ α) s Q E ↔ Q a s := Iff.rfl

/-- An error thrown has the outcome wanted of it. -/
@[simp] theorem meets_throw {e : ε} : Meets (throw e : EStateM ε σ α) s Q E ↔ E e s := Iff.rfl

/-- Reading the state returns it and leaves it. -/
@[simp] theorem meets_get {Q : σ → σ → Prop} :
    Meets (get : EStateM ε σ σ) s Q E ↔ Q s s := Iff.rfl

/-- Writing the state leaves the one written. -/
@[simp] theorem meets_set {t : σ} {Q : PUnit → σ → Prop} :
    Meets (set t : EStateM ε σ PUnit) s Q E ↔ Q ⟨⟩ t := Iff.rfl

/-- Changing the state leaves it changed. -/
@[simp] theorem meets_modify {f : σ → σ} {Q : PUnit → σ → Prop} :
    Meets (modify f : EStateM ε σ PUnit) s Q E ↔ Q ⟨⟩ (f s) := Iff.rfl

/-- Changing the state with an answer does both. -/
@[simp] theorem meets_modifyGet {f : σ → α × σ} :
    Meets (modifyGet f : EStateM ε σ α) s Q E ↔ Q (f s).1 (f s).2 := Iff.rfl

/-- A sequence: the second part has the outcome from wherever the first returns. -/
@[simp] theorem meets_bind {x : EStateM ε σ α} {f : α → EStateM ε σ β} {Q : β → σ → Prop} :
    Meets (x >>= f) s Q E ↔ Meets x s (fun a s' => Meets (f a) s' Q E) E := by
  show Meets (EStateM.bind x f) s Q E ↔ _
  unfold Meets EStateM.bind
  cases x s <;> rfl

/-- A mapped program: the outcome of the mapped value. -/
@[simp] theorem meets_map {x : EStateM ε σ α} {f : α → β} {Q : β → σ → Prop} :
    Meets (f <$> x) s Q E ↔ Meets x s (fun a s' => Q (f a) s') E := by
  show Meets (EStateM.map f x) s Q E ↔ _
  unfold Meets EStateM.map
  cases x s <;> rfl

/-- A handler has the outcome from wherever the body throws. -/
@[simp] theorem meets_tryCatch {x : EStateM ε σ α} {h : ε → EStateM ε σ α} :
    Meets (tryCatch x h) s Q E ↔ Meets x s Q (fun e s' => Meets (h e) s' Q E) := by
  show Meets (EStateM.tryCatch x h) s Q E ↔ _
  unfold Meets EStateM.tryCatch
  cases hx : x s with
  | ok a s' => rfl
  | error e s' => rfl

/-- A choice: each branch under its condition. -/
@[simp] theorem meets_ite {c : Prop} [Decidable c] {x y : EStateM ε σ α} :
    Meets (if c then x else y) s Q E ↔ (c → Meets x s Q E) ∧ (¬c → Meets y s Q E) := by
  by_cases hc : c <;> simp [hc]

end Combinators

/-- Weaker postconditions are easier to meet. -/
theorem Meets.mono {x : EStateM ε σ α} {s : σ} {Q Q' : α → σ → Prop} {E E' : ε → σ → Prop}
    (h : Meets x s Q E) (hQ : ∀ a s', Q a s' → Q' a s') (hE : ∀ e s', E e s' → E' e s') :
    Meets x s Q' E' := by
  unfold Meets at h ⊢
  cases hx : x s with
  | ok a s' => rw [hx] at h; exact hQ a s' h
  | error e s' => rw [hx] at h; exact hE e s' h

/-- Postconditions that hold of everything are met. -/
theorem meets_always {x : EStateM ε σ α} {s : σ} {Q : α → σ → Prop} {E : ε → σ → Prop}
    (hQ : ∀ a s', Q a s') (hE : ∀ e s', E e s') : Meets x s Q E := by
  unfold Meets
  cases x s with
  | ok a s' => exact hQ a s'
  | error e s' => exact hE e s'

/-- What is only asked of errors is shown by looking at the errors. -/
theorem meets_error {x : EStateM ε σ α} {s : σ} {E : ε → σ → Prop}
    (h : ∀ e s', x s = .error e s' → E e s') : Meets x s (fun _ _ => True) E := by
  unfold Meets
  cases hx : x s with
  | ok a s' => trivial
  | error e s' => exact h e s' hx

/-- Two facts about the same run hold together. -/
theorem Meets.and {x : EStateM ε σ α} {s : σ} {Q Q' : α → σ → Prop} {E E' : ε → σ → Prop}
    (h : Meets x s Q E) (h' : Meets x s Q' E') :
    Meets x s (fun a s' => Q a s' ∧ Q' a s') (fun e s' => E e s' ∧ E' e s') := by
  unfold Meets at h h' ⊢
  cases hx : x s with
  | ok a s' => rw [hx] at h h'; exact ⟨h, h'⟩
  | error e s' => rw [hx] at h h'; exact ⟨h, h'⟩

/-- A fact that holds under a condition holds after the run under it. -/
theorem meets_imp {p : Prop} {x : EStateM ε σ α} {s : σ} {Q : α → σ → Prop} {E : ε → σ → Prop}
    (h : p → Meets x s Q E) : Meets x s (fun a s' => p → Q a s') (fun e s' => p → E e s') := by
  unfold Meets at h ⊢
  cases hx : x s with
  | ok a s' => rw [hx] at h; exact h
  | error e s' => rw [hx] at h; exact h

/-- A returning run has met its postcondition. -/
theorem Meets.of_ok {x : EStateM ε σ α} {s s' : σ} {a : α} {Q : α → σ → Prop}
    {E : ε → σ → Prop} (h : Meets x s Q E) (hx : x s = .ok a s') : Q a s' := by
  unfold Meets at h
  rw [hx] at h
  exact h

/-- What a program meets holds of the error it ended in. -/
theorem Meets.of_error {x : EStateM ε σ α} {s s' : σ} {e : ε} {Q : α → σ → Prop}
    {E : ε → σ → Prop} (h : Meets x s Q E) (hx : x s = .error e s') : E e s' := by
  unfold Meets at h
  rw [hx] at h
  exact h

/-- Once the run is known, so is what it meets. -/
theorem meets_of_ok_iff {x : EStateM ε σ α} {s s' : σ} {a : α} {Q : α → σ → Prop} {E : ε → σ → Prop}
    (hx : x s = .ok a s') : Meets x s Q E ↔ Q a s' := by
  unfold Meets
  rw [hx]

/-- Where the run ends in an error, the outcome is what is asked of it. -/
theorem meets_of_error_iff {x : EStateM ε σ α} {s s' : σ} {e : ε} {Q : α → σ → Prop} {E : ε → σ → Prop}
    (hx : x s = .error e s') : Meets x s Q E ↔ E e s' := by
  unfold Meets
  rw [hx]

/-- A run that cannot throw returns. -/
theorem Meets.returns {x : EStateM ε σ α} {s : σ} {Q : α → σ → Prop}
    (h : Meets x s Q (fun _ _ => False)) : ∃ a s', x s = .ok a s' ∧ Q a s' := by
  unfold Meets at h
  cases hx : x s with
  | ok a s' => rw [hx] at h; exact ⟨a, s', rfl, h⟩
  | error e s' => rw [hx] at h; exact h.elim

/-- A fact met on both exits holds of the end state. -/
theorem Meets.endState {x : EStateM ε σ α} {s : σ} {P : σ → Prop}
    (h : Meets x s (fun _ => P) (fun _ => P)) : P (endState (x s)) := by
  unfold Meets at h
  cases hx : x s with
  | ok a s' => rw [hx] at h; exact h
  | error e s' => rw [hx] at h; exact h

/-! ## Programs that do not throw -/

/-- From every state, `x` returns. -/
def Returns (x : EStateM ε σ α) : Prop := ∀ s, ∃ a s', x s = .ok a s'

/-- A value returns. -/
theorem returns_pure (a : α) : Returns (pure a : EStateM ε σ α) := fun s => ⟨a, s, rfl⟩

/-- A sequence of returning programs returns. -/
theorem returns_bind {x : EStateM ε σ α} {f : α → EStateM ε σ β} (hx : Returns x)
    (hf : ∀ a, Returns (f a)) : Returns (x >>= f) := by
  intro s
  obtain ⟨a, s', h⟩ := hx s
  obtain ⟨b, s'', h'⟩ := hf a s'
  refine ⟨b, s'', ?_⟩
  show EStateM.bind x f s = _
  unfold EStateM.bind
  rw [h]
  exact h'

/-- What the body does is up to the handler. -/
theorem returns_tryCatch {x : EStateM ε σ α} {h : ε → EStateM ε σ α} (hh : ∀ e, Returns (h e)) :
    Returns (tryCatch x h) := by
  intro s
  show ∃ a s', EStateM.tryCatch x h s = .ok a s'
  unfold EStateM.tryCatch
  cases hx : x s with
  | ok a s' => exact ⟨a, s', rfl⟩
  | error e s' => exact hh e s'

/-- A choice between returning programs returns. -/
theorem returns_ite {c : Prop} [Decidable c] {x y : EStateM ε σ α} (hx : Returns x)
    (hy : Returns y) : Returns (if c then x else y) := by
  by_cases hc : c
  · rw [if_pos hc]
    exact hx
  · rw [if_neg hc]
    exact hy

/-! ## Frames -/

/-- A relation between the first and the last state of a run that holds of
doing nothing and composes along a run. -/
structure Frame (σ : Type) where
  rel : σ → σ → Prop
  refl : ∀ s, rel s s
  trans : ∀ {s₁ s₂ s₃}, rel s₁ s₂ → rel s₂ s₃ → rel s₁ s₃

/-- The frame of everything a projection shows. -/
def Frame.same {τ : Type} (p : σ → τ) : Frame σ where
  rel s s' := p s' = p s
  refl _ := rfl
  trans h₁ h₂ := h₂.trans h₁

/-- Two frames at once. -/
def Frame.both (F G : Frame σ) : Frame σ where
  rel s s' := F.rel s s' ∧ G.rel s s'
  refl s := ⟨F.refl s, G.refl s⟩
  trans h₁ h₂ := ⟨F.trans h₁.1 h₂.1, G.trans h₁.2 h₂.2⟩

/-- The frame of a log that only grows. -/
def Frame.grows {τ : Type} (p : σ → List τ) : Frame σ where
  rel s s' := p s <+: p s'
  refl s := List.prefix_refl (p s)
  trans h₁ h₂ := h₁.trans h₂

/-- Whatever happens in `x`, its first and last state are related by `F`. -/
def Keeps (F : Frame σ) (x : EStateM ε σ α) : Prop := ∀ s, F.rel s (endState (x s))

variable {F : Frame σ}

/-- `Keeps` as a `Meets` fact, for use inside a symbolic execution. -/
theorem Keeps.meets {x : EStateM ε σ α} (h : Keeps F x) (s : σ) :
    Meets x s (fun _ s' => F.rel s s') (fun _ s' => F.rel s s') := by
  have hs := h s
  unfold Meets
  cases hx : x s with
  | ok a s' => rw [hx] at hs; exact hs
  | error e s' => rw [hx] at hs; exact hs

/-- A program keeps a frame when every outcome stays in it. -/
theorem keeps_of_meets {x : EStateM ε σ α}
    (h : ∀ s, Meets x s (fun _ s' => F.rel s s') (fun _ s' => F.rel s s')) : Keeps F x :=
  fun s => (h s).endState

/-- A value keeps every frame. -/
theorem keeps_pure (a : α) : Keeps F (pure a : EStateM ε σ α) := fun s => F.refl s

/-- So does an error. -/
theorem keeps_throw (e : ε) : Keeps F (throw e : EStateM ε σ α) := fun s => F.refl s

/-- So does reading the state. -/
theorem keeps_get : Keeps F (get : EStateM ε σ σ) := fun s => F.refl s

/-- A change that stays in the frame keeps it. -/
theorem keeps_modify {f : σ → σ} (h : ∀ s, F.rel s (f s)) :
    Keeps F (modify f : EStateM ε σ PUnit) := fun s => h s

/-- A sequence of keeping programs keeps. -/
theorem keeps_bind {x : EStateM ε σ α} {f : α → EStateM ε σ β} (hx : Keeps F x)
    (hf : ∀ a, Keeps F (f a)) : Keeps F (x >>= f) := by
  refine keeps_of_meets fun s => ?_
  rw [meets_bind]
  exact (hx.meets s).mono
    (fun a s' h => ((hf a).meets s').mono (fun _ _ h' => F.trans h h') (fun _ _ h' => F.trans h h'))
    (fun _ _ h => h)

/-- A mapped keeping program keeps. -/
theorem keeps_map {x : EStateM ε σ α} {f : α → β} (hx : Keeps F x) : Keeps F (f <$> x) := by
  refine keeps_of_meets fun s => ?_
  rw [meets_map]
  exact hx.meets s

/-- A keeping body with a keeping handler keeps. -/
theorem keeps_tryCatch {x : EStateM ε σ α} {h : ε → EStateM ε σ α} (hx : Keeps F x)
    (hh : ∀ e, Keeps F (h e)) : Keeps F (tryCatch x h) := by
  refine keeps_of_meets fun s => ?_
  rw [meets_tryCatch]
  exact (hx.meets s).mono (fun _ _ h => h)
    (fun e s' h => ((hh e).meets s').mono (fun _ _ h' => F.trans h h') (fun _ _ h' => F.trans h h'))

/-- A choice between keeping programs keeps. -/
theorem keeps_ite {c : Prop} [Decidable c] {x y : EStateM ε σ α} (hx : Keeps F x)
    (hy : Keeps F y) : Keeps F (if c then x else y) := by
  split
  · exact hx
  · exact hy

/-- Frames weaken. -/
theorem Keeps.weaken {G : Frame σ} {x : EStateM ε σ α} (h : Keeps F x)
    (hFG : ∀ s s', F.rel s s' → G.rel s s') : Keeps G x :=
  fun s => hFG s _ (h s)

/-- A run that keeps two frames keeps both. -/
theorem Keeps.both {G : Frame σ} {x : EStateM ε σ α} (hF : Keeps F x) (hG : Keeps G x) :
    Keeps (F.both G) x :=
  fun s => ⟨hF s, hG s⟩

/-! ## Loops -/

/-- A loop is reasoned about by what holds once a part of the list is worked off. -/
theorem meets_mapM {f : α → EStateM ε σ β} {I : List α → σ → Prop} {E : ε → σ → Prop}
    {l : List α}
    (step : ∀ done a rest, l = done ++ a :: rest → ∀ s, I done s →
      Meets (f a) s (fun _ s' => I (done ++ [a]) s') E)
    {s : σ} (init : I [] s) : Meets (l.mapM f) s (fun _ s' => I l s') E := by
  suffices h : ∀ rest done s, l = done ++ rest → I done s →
      Meets (rest.mapM f) s (fun _ s' => I l s') E from h l [] s rfl init
  intro rest
  induction rest with
  | nil =>
    intro done s hl hI
    rw [List.append_nil] at hl
    rw [List.mapM_nil, meets_pure, hl]
    exact hI
  | cons a rest ih =>
    intro done s hl hI
    rw [List.mapM_cons, meets_bind]
    refine (step done a rest hl s hI).mono (fun b s' hI' => ?_) (fun _ _ h => h)
    rw [meets_bind]
    refine (ih (done ++ [a]) s' (by simp [hl]) hI').mono (fun bs s'' h => ?_) (fun _ _ h => h)
    rw [meets_pure]
    exact h

/-- The rule of loops: the invariant is about the elements already done. -/
theorem meets_forM {f : α → EStateM ε σ PUnit} {I : List α → σ → Prop} {E : ε → σ → Prop}
    {l : List α}
    (step : ∀ done a rest, l = done ++ a :: rest → ∀ s, I done s →
      Meets (f a) s (fun _ s' => I (done ++ [a]) s') E)
    {s : σ} (init : I [] s) : Meets (l.forM f) s (fun _ s' => I l s') E := by
  suffices h : ∀ rest done s, l = done ++ rest → I done s →
      Meets (rest.forM f) s (fun _ s' => I l s') E from h l [] s rfl init
  intro rest
  induction rest with
  | nil =>
    intro done s hl hI
    rw [List.append_nil] at hl
    show I l s
    rw [hl]
    exact hI
  | cons a rest ih =>
    intro done s hl hI
    show Meets (f a >>= fun _ => rest.forM f) s _ _
    rw [meets_bind]
    exact (step done a rest hl s hI).mono
      (fun _ s' hI' => ih (done ++ [a]) s' (by simp [hl]) hI') (fun _ _ h => h)

/-- A loop with answers keeps what each round keeps. -/
theorem keeps_mapM {f : α → EStateM ε σ β} {l : List α} (hf : ∀ a ∈ l, Keeps F (f a)) :
    Keeps F (l.mapM f) := by
  induction l with
  | nil => exact keeps_pure []
  | cons a l ih =>
    rw [List.mapM_cons]
    exact keeps_bind (hf a List.mem_cons_self) fun b =>
      keeps_bind (ih fun x hx => hf x (List.mem_cons_of_mem _ hx)) fun bs => keeps_pure _

/-- A loop keeps what the round of each of its elements keeps. -/
theorem keeps_forM_mem {f : α → EStateM ε σ PUnit} {l : List α} (hf : ∀ a ∈ l, Keeps F (f a)) :
    Keeps F (l.forM f) := by
  induction l with
  | nil => exact keeps_pure _
  | cons a l ih =>
    exact keeps_bind (hf a List.mem_cons_self) fun _ =>
      ih fun x hx => hf x (List.mem_cons_of_mem _ hx)

/-- A loop keeps what every round keeps. -/
theorem keeps_forM {f : α → EStateM ε σ PUnit} (hf : ∀ a, Keeps F (f a)) (l : List α) :
    Keeps F (l.forM f) := keeps_forM_mem fun a _ => hf a

end Throwing
