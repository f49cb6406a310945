import NightWatcher.Api.Server
import NightWatcher.Httplib

/-!
# What the platform helper is asked for

A request for the helper goes through the library four times. The daemon's server cuts the
target it is sent and decodes the path, the proxy joins that path and the query as it was sent,
the client encodes a few bytes of the result, and the helper's server cuts and decodes again.
So the helper decodes twice what the proxy has looked at once (`contained_iff`).

A text of a request is the bytes it was sent as, each a character below 256.
-/

namespace NightWatcher.Api

open Throwing Httplib

/-- The request the library makes of the second piece of a request line. -/
structure FromWire (piece : List Char) (req : Request) : Prop where
  target : req.target = String.ofList (parseTarget piece).target
  path : req.path = String.ofList (parseTarget piece).path

/-- What the helper's server makes of a target the client was asked for. -/
def helperTarget (target : String) : RequestTarget := parseTarget (encodeUrl target.toList)

/-! ## The path of a route to the helper -/

theorem withId_ne {id : String} {f : String → Endpoint} {e : Endpoint} (hf : ∀ id, f id ≠ e) :
    withId id f ≠ some e := by
  intro h
  unfold withId at h
  split at h
  · cases h
  · exact hf id (Option.some.inj h)

theorem getRoute_platform {segs : List String} {p : String}
    (h : getRoute segs = some (.platform p)) : p = "/" := by
  unfold getRoute at h
  split at h <;> first
    | exact absurd h (withId_ne fun _ h => by cases h)
    | (cases h; rfl)
    | cases h

theorem postRoute_platform {segs : List String} {p : String} :
    postRoute segs ≠ some (.platform p) := by
  intro h
  unfold postRoute at h
  split at h <;> first
    | exact absurd h (withId_ne fun _ h => by cases h)
    | cases h

theorem patchRoute_platform {segs : List String} {p : String} :
    patchRoute segs ≠ some (.platform p) := by
  intro h
  unfold patchRoute at h
  split at h <;> first
    | exact absurd h (withId_ne fun _ h => by cases h)
    | cases h

theorem deleteRoute_platform {segs : List String} {p : String} :
    deleteRoute segs ≠ some (.platform p) := by
  intro h
  unfold deleteRoute at h
  split at h <;> first
    | exact absurd h (withId_ne fun _ h => by cases h)
    | cases h

/-- It is a slash and what stood behind the route in the decoded path. -/
theorem route_platform {req : Request} {p : String} (h : route req = some (.platform p)) :
    ∃ rest, p.toList = '/' :: rest ∧ ∀ c ∈ rest, c ∈ req.path.toList := by
  -- what the pattern captures is the end of the path
  have hbelow : ∀ {e}, platformRoute req.path = some e → e = .platform p →
      ∃ rest, p.toList = '/' :: rest ∧ ∀ c ∈ rest, c ∈ req.path.toList := by
    intro e hroute he
    obtain ⟨rest, hrest, rfl⟩ := Option.map_eq_some_iff.mp hroute
    injection he with hp
    refine ⟨rest.toList, by rw [← hp, String.toList_append]; rfl, ?_⟩
    unfold captureAny at hrest
    split at hrest
    · dsimp only at hrest
      split at hrest
      · cases hrest
      · cases hrest
        intro c hc
        rw [String.toList_ofList] at hc
        exact List.mem_of_mem_drop hc
    · cases hrest
  -- no other pattern ends in this endpoint but for the bare root
  have hsegments : ∀ {f : List String → Option Endpoint},
      (∀ segs, f segs = some (.platform p) → p = "/") →
      ((platformRoute req.path).orElse fun _ => (apiSegments req.path).bind f) = some (.platform p) →
      ∃ rest, p.toList = '/' :: rest ∧ ∀ c ∈ rest, c ∈ req.path.toList := by
    intro f hf h
    cases hroute : platformRoute req.path with
    | some e =>
      rw [hroute] at h
      exact hbelow hroute (Option.some.inj h)
    | none =>
      rw [hroute] at h
      obtain ⟨segs, -, hseg⟩ := Option.bind_eq_some_iff.mp h
      refine ⟨[], by rw [hf segs hseg]; rfl, fun c hc => absurd hc List.not_mem_nil⟩
  unfold route at h
  dsimp only at h
  split at h
  · exact hsegments (fun segs hseg => getRoute_platform hseg) h
  · exact hsegments (fun segs hseg => getRoute_platform hseg) h
  · exact hsegments (fun segs hseg => absurd hseg postRoute_platform) h
  · obtain ⟨segs, -, hseg⟩ := Option.bind_eq_some_iff.mp h
    split at hseg
    · cases hseg
    · cases hseg
  · obtain ⟨segs, -, hseg⟩ := Option.bind_eq_some_iff.mp h
    exact absurd hseg patchRoute_platform
  · obtain ⟨segs, -, hseg⟩ := Option.bind_eq_some_iff.mp h
    exact absurd hseg deleteRoute_platform
  · cases h
  · cases h

/-! ## What is sent -/

/-- The target the client is asked for. -/
def proxyTarget (req : Request) (p : String) : String :=
  p ++ String.ofList (req.target.toList.dropWhile (· ≠ '?'))

/-- The path passes the guard of the proxy. -/
def Passes (p : String) : Prop := p.toList.head? = some '/' ∧ ¬['.', '.'] <:+: p.toList

theorem meets_askHelper {method target body : String} {w : World}
    {Q : Option (Nat × String × String) → World → Prop} {E : String → World → Prop}
    (hok : ∀ answer w', w'.effects = w.effects ++ [.helper method target body] → Q answer w') :
    Meets (askHelper method target body) w Q E := by
  unfold Meets askHelper
  dsimp only
  split
  next h =>
    split at h
    · cases h
      exact hok _ _ rfl
    · cases h
      exact hok _ _ rfl
  next h =>
    split at h
    · cases h
    · cases h

/-- Whatever is answered, the question was asked. -/
theorem meets_helperAnswer {m target b : String} {w : World} {R : World → Prop}
    (hsent : ∀ w', w'.effects = w.effects ++ [.helper m target b] → R w') :
    Meets (askHelper m target b >>= fun answer =>
      match answer with
      | none => pure (sendErr 502 "platform helper unreachable")
      | some (status, ctype, body) =>
        pure { status, content := .text (if ctype = "" then "application/json" else ctype) body })
      w (fun _ w' => R w') fun _ w' => R w' := by
  rw [meets_bind]
  refine meets_askHelper fun answer w' heffects => ?_
  cases answer with
  | none => exact hsent w' heffects
  | some a => exact hsent w' heffects

/-- A request that passes leads to one question. -/
theorem meets_platformProxy {req : Request} {p : String} {w : World} {R : World → Prop}
    (hquiet : ¬(w.helperPresent = true ∧ Passes p) → R w)
    (hsent : w.helperPresent = true → Passes p → ∀ m b w',
      w'.effects = w.effects ++ [.helper m (proxyTarget req p) b] → R w') :
    Meets (platformProxy req p) w (fun _ w' => R w') fun _ w' => R w' := by
  unfold platformProxy
  rw [meets_bind, meets_get]
  by_cases hpresent : w.helperPresent = true
  · rw [if_neg (by rw [hpresent]; decide)]
    by_cases hpass : Passes p
    · rw [if_neg (not_or.mpr ⟨not_not.mpr hpass.1, hpass.2⟩)]
      dsimp only
      have hanswered := fun m b => meets_helperAnswer (hsent hpresent hpass m b)
      by_cases hpost : req.method = .post
      · rw [if_pos hpost]
        exact hanswered _ _
      · rw [if_neg hpost]
        exact hanswered _ _
    · have hguard : p.toList.head? ≠ some '/' ∨ ['.', '.'] <:+: p.toList := by
        by_contra h
        push Not at h
        exact hpass h
      rw [if_pos hguard]
      exact hquiet fun h => hpass h.2
  · rw [if_pos (by rw [Bool.eq_false_iff.mpr hpresent]; rfl)]
    exact hquiet fun h => hpresent h.1

/-- The proxy asks the helper for one thing, if anything. -/
theorem proxy_sends {req : Request} {p : String} {w : World} (hw : w.effects = []) {m t b : String}
    (h : Effect.helper m t b ∈ (endState (platformProxy req p w)).effects) :
    Passes p ∧ t = proxyTarget req p := by
  refine (meets_platformProxy (R := fun w' => Effect.helper m t b ∈ w'.effects →
    Passes p ∧ t = proxyTarget req p) ?_ ?_).endState h
  · intro _ hmem
    rw [hw] at hmem
    exact absurd hmem List.not_mem_nil
  · intro _ hpass m' b' w' heffects hmem
    rw [heffects, hw, List.nil_append, List.mem_singleton] at hmem
    injection hmem with _ ht _
    exact ⟨hpass, ht⟩

/-- It does so for a path that passes, where there is a helper. -/
theorem proxy_forwards (req : Request) {p : String} (hp : Passes p) :
    ∃ m b, Effect.helper m (proxyTarget req p) b ∈
      (endState (platformProxy req p { helperPresent := true })).effects := by
  refine (meets_platformProxy (R := fun w' =>
    ∃ m b, Effect.helper m (proxyTarget req p) b ∈ w'.effects) ?_ ?_).endState
  · exact fun h => absurd ⟨rfl, hp⟩ h
  · intro _ _ m b w' heffects
    refine ⟨m, b, ?_⟩
    rw [heffects]
    exact List.mem_singleton_self _

/-! ## The helper's path -/

/-- A path in the helper's namespace. -/
structure Inside (path : List Char) : Prop where
  rooted : path.head? = some '/'
  below : ['.', '.'] ∉ splitSlash path

/-- Wherever the request is forwarded, the path the helper obtains is inside. -/
def Contained (req : Request) : Prop :=
  ∀ p, route req = some (.platform p) → ∀ w, w.effects = [] → ∀ m t b,
    Effect.helper m t b ∈ (endState (platformProxy req p w)).effects → Inside (helperTarget t).path

/-- Decoding a path that passes once more leads nowhere else: no escape is left in what the
helper sees of it that makes a segment `..`. -/
def SingleLevel (req : Request) : Prop :=
  ∀ p, route req = some (.platform p) → Passes p →
    ['.', '.'] ∉ splitSlash (decodeUrl false (visible p.toList))

section Wire

variable {piece : List Char} {req : Request} (hpiece : ∀ c ∈ piece, c.toNat < 256)
  (hreq : FromWire piece req)
include hpiece hreq

theorem proxyTarget_toList {p : String} (hroute : route req = some (.platform p)) :
    ∃ rest query, p.toList = '/' :: rest ∧ (proxyTarget req p).toList = '/' :: (rest ++ query) ∧
      query = (parseTarget piece).target.dropWhile (· ≠ '?') ∧
      ∀ c ∈ rest ++ query, c.toNat < 256 := by
  obtain ⟨rest, hrest, hbytes⟩ := route_platform hroute
  refine ⟨rest, _, hrest, ?_, rfl, ?_⟩
  · unfold proxyTarget
    rw [String.toList_append, hrest, hreq.target, String.toList_ofList, String.toList_ofList]
    rfl
  · intro c hc
    rcases List.mem_append.mp hc with hc | hc
    · have hmem := hbytes c hc
      rw [hreq.path, String.toList_ofList] at hmem
      exact parseTarget_path_lt hpiece c hmem
    · exact parseTarget_target_lt hpiece c ((List.dropWhile_suffix _).subset hc)

/-- The helper decodes what the proxy decoded. -/
theorem helper_path {p : String} (hroute : route req = some (.platform p)) :
    (helperTarget (proxyTarget req p)).path = decodeUrl false (visible p.toList) := by
  obtain ⟨rest, query, hp, ht, hquery, hbytes⟩ := proxyTarget_toList hpiece hreq hroute
  have hhead : ∀ c, query.head? = some c → c = '?' := by
    intro c hc
    rw [hquery] at hc
    have := List.head?_dropWhile_not (· ≠ '?') (parseTarget piece).target
    rw [hc] at this
    simpa using this
  unfold helperTarget
  rw [ht, parseTarget_encodeUrl hbytes, hp, ← List.cons_append, visible_append ('/' :: rest) hhead]

/-- The guard keeps the helper's path inside exactly where one decoding is all there is. -/
theorem contained_iff : Contained req ↔ SingleLevel req := by
  constructor
  · intro h p hroute hpass
    obtain ⟨m, b, hsent⟩ := proxy_forwards req hpass
    have hinside := h p hroute { helperPresent := true } rfl m _ b hsent
    rw [helper_path hpiece hreq hroute] at hinside
    exact hinside.below
  · intro h p hroute w hw m t b hsent
    obtain ⟨hpass, rfl⟩ := proxy_sends hw hsent
    rw [helper_path hpiece hreq hroute]
    refine ⟨?_, h p hroute hpass⟩
    obtain ⟨rest, hp, -⟩ := route_platform hroute
    obtain ⟨more, hmore⟩ := visible_slash rest
    rw [hp, hmore]
    rfl

end Wire

/-- The request of `GET` for a target. -/
def getOf (target : String) : Request where
  method := .get
  target := String.ofList (parseTarget target.toList).target
  path := String.ofList (parseTarget target.toList).path

/-- An escaped dot in a name is decoded by the daemon. -/
theorem escaped_dot_contained : Contained (getOf "/api/v1/platform/ui%2ejs") := by
  refine (@contained_iff "/api/v1/platform/ui%2ejs".toList _ (by simp) ⟨rfl, rfl⟩).mpr ?_
  intro p hroute _
  have hfound : route (getOf "/api/v1/platform/ui%2ejs") = some (.platform "/ui.js") := rfl
  rw [hfound] at hroute
  cases hroute
  decide

/-- Encoded twice, two dots pass the guard and climb out. -/
theorem twice_encoded_escapes : ¬Contained (getOf "/api/v1/platform/%252e%252e/secret") := by
  intro h
  have hpass : Passes "/%2e%2e/secret" := ⟨by decide, by decide⟩
  obtain ⟨m, b, hsent⟩ := proxy_forwards (getOf "/api/v1/platform/%252e%252e/secret") hpass
  have hinside := h "/%2e%2e/secret" rfl { helperPresent := true } rfl m _ b hsent
  exact hinside.below (by decide)

end NightWatcher.Api
