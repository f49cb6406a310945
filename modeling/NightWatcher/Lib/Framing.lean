import Mathlib.Logic.Function.Iterate

/-!
# Framing a stream into lines

A reader takes lines off a stream that arrives piece by piece. It keeps what it received and did
not return yet in a buffer, and each call to it returns a line, throws, or is still waiting for
more. What is to come is a value `rest` of any type, of which `arriving rest` are the bytes. If
each single call does right by the bytes it was given (`Framer`), then after any number of calls
the lines returned are the first lines of the stream, and the buffer with what is to come is all
that is left of it (`Framer.calls_framed`).
-/

namespace Framing

variable {α ρ : Type}

/-! ## The lines of a stream -/

section Lines

variable [DecidableEq α]

/-- The lines of a stream that are terminated. -/
def terminated (nl : α) (s : List α) : List (List α) := (s.splitOn nl).dropLast

theorem terminated_append {nl : α} {line : List α} (h : nl ∉ line) (rest : List α) :
    terminated nl (line ++ nl :: rest) = line :: terminated nl rest := by
  unfold terminated
  rw [List.splitOn_append_cons_self_of_not_mem h,
      List.dropLast_cons_of_ne_nil (List.splitOn_ne_nil nl rest)]

theorem terminated_flatMap {nl : α} {lines : List (List α)} (h : ∀ line ∈ lines, nl ∉ line)
    (rest : List α) :
    terminated nl (lines.flatMap (fun line => line ++ [nl]) ++ rest) = lines ++ terminated nl rest := by
  induction lines with
  | nil => rfl
  | cons line lines ih =>
    rw [List.flatMap_cons, List.append_assoc, List.append_assoc, List.singleton_append,
      terminated_append (h line List.mem_cons_self), ih fun l hl => h l (List.mem_cons_of_mem _ hl),
      List.cons_append]

/-- The first terminated line and what is behind its terminator. -/
def cutLine (nl : α) : List α → Option (List α × List α)
  | [] => none
  | c :: cs => if c = nl then some ([], cs) else (cutLine nl cs).map fun cut => (c :: cut.1, cut.2)

theorem cutLine_some {nl : α} {s line rest : List α} (h : cutLine nl s = some (line, rest)) :
    nl ∉ line ∧ s = line ++ nl :: rest := by
  induction s generalizing line with
  | nil => cases h
  | cons c cs ih =>
    unfold cutLine at h
    by_cases hc : c = nl
    · rw [if_pos hc] at h
      obtain ⟨rfl, rfl⟩ := Prod.mk.inj (Option.some.inj h)
      exact ⟨List.not_mem_nil, by rw [hc]; rfl⟩
    · rw [if_neg hc, Option.map_eq_some_iff] at h
      obtain ⟨⟨line', rest'⟩, hcut, heq⟩ := h
      obtain ⟨rfl, rfl⟩ := Prod.mk.inj heq
      obtain ⟨hfree, hcs⟩ := ih hcut
      refine ⟨fun hmem => ?_, by rw [hcs]; rfl⟩
      rcases List.mem_cons.mp hmem with hhead | htail
      · exact hc hhead.symm
      · exact hfree htail

theorem cutLine_none {nl : α} {s : List α} : cutLine nl s = none ↔ nl ∉ s := by
  induction s with
  | nil => exact iff_of_true rfl List.not_mem_nil
  | cons c cs ih =>
    unfold cutLine
    by_cases hc : c = nl
    · rw [if_pos hc]
      exact iff_of_false nofun fun h => h (hc ▸ List.mem_cons_self)
    · rw [if_neg hc, Option.map_eq_none_iff, ih, List.mem_cons, not_or]
      exact ⟨fun h => ⟨fun hsame => hc hsame.symm, h⟩, And.right⟩

end Lines

/-! ## Readers -/

/-- How a call of a reader goes: what it leaves in the buffer and what is to come. -/
inductive Call (α ρ : Type) where
  | returned (line : List α) (buf : List α) (rest : ρ)
  | thrown (error : String) (buf : List α) (rest : ρ)
  /-- the call has not ended -/
  | waiting (buf : List α) (rest : ρ)

def Call.Ends : Call α ρ → Prop
  | .waiting _ _ => False
  | _ => True

/-- What a call must do with the bytes in the buffer and those to come. -/
def Call.Sound (nl : α) (clean : List α → List α) (arriving : ρ → List α)
    (bytes : List α) : Call α ρ → Prop
  | .returned line buf rest =>
    ∃ body, nl ∉ body ∧ line = clean body ∧ bytes = body ++ nl :: (buf ++ arriving rest)
  | .thrown _ buf rest => nl ∉ buf ∧ bytes = buf ++ arriving rest
  | .waiting buf rest => nl ∉ buf ∧ bytes = buf ++ arriving rest

/-- A reader does right by the bytes it is given, whatever it finds in its buffer. -/
def Framer (nl : α) (clean : List α → List α) (arriving : ρ → List α)
    (read : List α → ρ → Call α ρ) : Prop :=
  ∀ buf rest, (read buf rest).Sound nl clean arriving (buf ++ arriving rest)

/-- A caller's session with a reader. -/
structure Session (α ρ : Type) where
  /-- the lines returned so far -/
  lines : List (List α)
  buf : List α
  rest : ρ

/-- One more call. A call that threw may be followed by another one; one that is waiting goes on. -/
def Session.call (read : List α → ρ → Call α ρ) (s : Session α ρ) : Session α ρ :=
  match read s.buf s.rest with
  | .returned line buf rest => ⟨s.lines ++ [line], buf, rest⟩
  | .thrown _ buf rest => ⟨s.lines, buf, rest⟩
  | .waiting buf rest => ⟨s.lines, buf, rest⟩

/-- The stream is what was returned, what is in the buffer and what is to come. -/
def Session.Framed (nl : α) (clean : List α → List α) (arriving : ρ → List α) (stream : List α)
    (s : Session α ρ) : Prop :=
  ∃ bodies : List (List α), (∀ body ∈ bodies, nl ∉ body) ∧ s.lines = bodies.map clean ∧
    stream = bodies.flatMap (fun body => body ++ [nl]) ++ (s.buf ++ arriving s.rest)

section Sessions

variable {nl : α} {clean : List α → List α} {arriving : ρ → List α} {read : List α → ρ → Call α ρ}

/-- A call keeps the stream together. -/
theorem Framer.call_framed (h : Framer nl clean arriving read) {stream : List α} {s : Session α ρ}
    (hs : s.Framed nl clean arriving stream) : (s.call read).Framed nl clean arriving stream := by
  obtain ⟨bodies, hbodies, hlines, hstream⟩ := hs
  have hsound := h s.buf s.rest
  unfold Session.call
  cases hread : read s.buf s.rest with
  | returned line buf rest =>
    rw [hread] at hsound
    obtain ⟨body, hbody, rfl, hbytes⟩ := hsound
    refine ⟨bodies ++ [body], ?_, ?_, ?_⟩
    · intro b hmem
      rcases List.mem_append.mp hmem with hold | hnew
      · exact hbodies b hold
      · rw [List.mem_singleton.mp hnew]
        exact hbody
    · rw [hlines, List.map_append, List.map_singleton]
    · rw [hstream, hbytes, List.flatMap_append, List.flatMap_singleton, List.append_assoc,
        List.append_assoc, List.singleton_append]
  | thrown error buf rest =>
    rw [hread] at hsound
    exact ⟨bodies, hbodies, hlines, by rw [hstream, hsound.2]⟩
  | waiting buf rest =>
    rw [hread] at hsound
    exact ⟨bodies, hbodies, hlines, by rw [hstream, hsound.2]⟩

/-- By induction on the number of calls. -/
theorem Framer.calls_framed (h : Framer nl clean arriving read) (rest : ρ) (n : Nat) :
    ((Session.call read)^[n] ⟨[], [], rest⟩).Framed nl clean arriving (arriving rest) := by
  induction n with
  | zero => exact ⟨[], fun _ hmem => absurd hmem List.not_mem_nil, rfl, rfl⟩
  | succ n ih =>
    rw [Function.iterate_succ_apply']
    exact h.call_framed ih

/-- The lines returned are the first ones of the stream, and nothing of the stream is lost. -/
theorem Session.Framed.lines_eq [DecidableEq α] {stream : List α} {s : Session α ρ}
    (h : s.Framed nl clean arriving stream) :
    s.lines = ((terminated nl stream).take s.lines.length).map clean ∧
      stream = ((terminated nl stream).take s.lines.length).flatMap (fun body => body ++ [nl])
        ++ (s.buf ++ arriving s.rest) := by
  obtain ⟨bodies, hbodies, hlines, hstream⟩ := h
  have htake : (terminated nl stream).take s.lines.length = bodies := by
    rw [hlines, List.length_map, hstream, terminated_flatMap hbodies, List.take_left]
  rw [htake]
  exact ⟨hlines, hstream⟩

/-- A call that returns no line leaves none in the buffer. -/
theorem Framer.no_line_left (h : Framer nl clean arriving read) (s : Session α ρ)
    (hnone : (s.call read).lines = s.lines) : nl ∉ (s.call read).buf := by
  have hsound := h s.buf s.rest
  unfold Session.call at hnone ⊢
  cases hread : read s.buf s.rest with
  | returned line buf rest =>
    rw [hread] at hnone
    have hlength := congrArg List.length hnone
    rw [List.length_append, List.length_singleton] at hlength
    omega
  | thrown error buf rest =>
    rw [hread] at hsound
    exact hsound.1
  | waiting buf rest =>
    rw [hread] at hsound
    exact hsound.1

end Sessions

end Framing
