import NightWatcher.Api.Proxy
import NightWatcher.Httplib.Query

/-!
# The query the platform helper obtains

The proxy appends the query of the target it was sent, as it was written, to the path the server
has decoded. The client then encodes both as one text, a plus sign among them, and the helper cuts
at the first question mark, wherever that came from: a path with an escaped one asks itself, and
what it says may even be what the query said. For all other paths the queries that are carried are
known exactly (`query_carried_iff`).
-/

namespace NightWatcher.Api

open Throwing Httplib

/-- A target below a path: something other than blanks is written in front of its query. -/
def HasPath (piece : List Char) : Prop :=
  TextLines.trim isBlank ((parseTarget piece).target.takeWhile (· ≠ '?')) ≠ []

/-- The query of a target, as the server hands it to `parse_query_text`. -/
def ownQuery (piece : List Char) : List Char :=
  TextLines.trim isBlank (afterMark (parseTarget piece).target)

/-- A decoded path that ends where it was written to end. -/
def EndsBeforeQuery (path : List Char) : Prop := ∀ c ∈ path, c ≠ '?' ∧ c ≠ '#' ∧ c.toNat ≠ 0

instance (path : List Char) : Decidable (EndsBeforeQuery path) := List.decidableBAll _ _

/-- Wherever the request is forwarded, the helper obtains the parameters of the request. -/
def QueryCarried (piece : List Char) (req : Request) : Prop :=
  ∀ p, route req = some (.platform p) → ∀ w, w.effects = [] → ∀ m t b,
    Effect.helper m t b ∈ (endState (platformProxy req p w)).effects →
      (helperTarget t).params = (parseTarget piece).params

/-- A path whose text goes on, for the helper, behind a question mark of its own. -/
def AsksItself (path : List Char) : Prop :=
  '?' ∈ path.takeWhile fun c => c ≠ '#' && c.toNat ≠ 0

/-- A path cut short, with all that follows it, by a number sign or a NUL. -/
def CutShort (path : List Char) : Prop := ¬AsksItself path ∧ ¬EndsBeforeQuery path

/-- The path ends where it was written to end and the query is plain; or the query is cut off with
the end of the path, and said nothing. -/
def QueryKept (piece : List Char) (req : Request) : Prop :=
  ∀ p, route req = some (.platform p) → Passes p →
    (EndsBeforeQuery p.toList ∧ PlainQuery (ownQuery piece)) ∨
    (CutShort p.toList ∧ Nameless (ownQuery piece))

/-- No path of a forwarded request asks itself. -/
def OneQuery (req : Request) : Prop :=
  ∀ p, route req = some (.platform p) → Passes p → ¬AsksItself p.toList

theorem target_onWire {piece : List Char} (hpiece : OnWire piece) :
    OnWire (parseTarget piece).target := by
  rw [parseTarget_target]
  exact hpiece.subset fun c hc => mem_trim c (List.takeWhile_subset _ hc)

theorem afterMark_subset (cs : List Char) : ∀ c ∈ afterMark cs, c ∈ cs := fun _ hc =>
  (List.dropWhile_suffix _).subset (List.mem_of_mem_tail hc)

theorem ownQuery_onWire {piece : List Char} (hpiece : OnWire piece) : OnWire (ownQuery piece) :=
  (target_onWire hpiece).subset fun c hc => afterMark_subset _ c (mem_trim c hc)

/-- Behind such a path the first question mark is the one the query was written with. -/
theorem sentQuery_append {path target : List Char} (hpath : EndsBeforeQuery path)
    (hnumber : '#' ∉ target) (hwire : OnWire target) :
    sentQuery (path ++ target.dropWhile (· ≠ '?')) = afterMark target := by
  have hvisible : ∀ c ∈ path ++ target.dropWhile (· ≠ '?'),
      (decide (c ≠ '#') && decide (c.toNat ≠ 0)) = true := by
    intro c hc
    rw [Bool.and_eq_true, decide_eq_true_iff, decide_eq_true_iff]
    rcases List.mem_append.mp hc with hc | hc
    · exact (hpath c hc).2
    · have hmem := (List.dropWhile_suffix _).subset hc
      exact ⟨fun heq => hnumber (heq ▸ hmem), (hwire c hmem).1.2⟩
  have hskip : ∀ c ∈ path, decide (c ≠ '?') = true := fun c hc => decide_eq_true (hpath c hc).1
  unfold sentQuery
  rw [List.takeWhile_eq_self_iff.mpr hvisible]
  unfold afterMark
  rw [List.dropWhile_append_of_pos hskip, List.dropWhile_idempotent]

/-- Nothing is sent of a query behind a path that is cut short. -/
theorem sentQuery_cutShort {path : List Char} (hpath : CutShort path) (query : List Char) :
    sentQuery (path ++ query) = [] := by
  obtain ⟨hmark, hends⟩ := hpath
  have hcut : ¬∀ c ∈ path, (c ≠ '#' && c.toNat ≠ 0) = true := by
    -- otherwise the path would hold none of the three characters
    intro hall
    unfold AsksItself at hmark
    rw [List.takeWhile_eq_self_iff.mpr hall] at hmark
    refine hends fun c hc => ?_
    have hc' := hall c hc
    rw [Bool.and_eq_true, decide_eq_true_iff, decide_eq_true_iff] at hc'
    exact ⟨fun heq => hmark (heq ▸ hc), hc'⟩
  have hfront : (path ++ query).takeWhile (fun c => c ≠ '#' && c.toNat ≠ 0) =
      path.takeWhile fun c => c ≠ '#' && c.toNat ≠ 0 := by
    rw [List.takeWhile_append, if_neg]
    intro hlength
    exact hcut (List.takeWhile_eq_self_iff.mp
      ((List.takeWhile_prefix _).eq_of_length hlength))
  unfold sentQuery
  rw [hfront]
  exact afterMark_nil hmark

section Carried

variable {piece : List Char} {req : Request} (hpiece : OnWire piece) (hpath : HasPath piece)
  (hreq : FromWire piece req)
include hpiece hreq

/-- The helper reads the client's encoding of all that stands behind the first question mark. -/
theorem helper_params {p : String} (hroute : route req = some (.platform p)) :
    (helperTarget (proxyTarget req p)).params = parseQueryText
      (TextLines.trim isBlank (encodeUrl (sentQuery (proxyTarget req p).toList))) := by
  obtain ⟨rest, query, -, ht, -, hbytes⟩ :=
    proxyTarget_toList (fun c hc => (hpiece c hc).1.1) hreq hroute
  unfold helperTarget
  rw [ht]
  refine parseTarget_encodeUrl_params fun c hc => ?_
  rcases List.mem_cons.mp hc with rfl | hc
  · decide
  · exact hbytes c hc

/-- For a path that ends before the query, that is the own query. -/
theorem helper_params_own {p : String} (hroute : route req = some (.platform p))
    (hends : EndsBeforeQuery p.toList) :
    (helperTarget (proxyTarget req p)).params = parseQueryText (encodeUrl (ownQuery piece)) := by
  have hsent : (proxyTarget req p).toList =
      p.toList ++ (parseTarget piece).target.dropWhile (· ≠ '?') := by
    unfold proxyTarget
    rw [String.toList_append, hreq.target, String.toList_ofList, String.toList_ofList]
  have hnumber : '#' ∉ (parseTarget piece).target := by
    intro hmem
    rw [parseTarget_target] at hmem
    exact absurd (List.mem_takeWhile_imp hmem) (by decide)
  have hwire := target_onWire hpiece
  rw [helper_params hpiece hreq hroute, hsent, sentQuery_append hends hnumber hwire,
    trim_encodeUrl (hwire.subset (afterMark_subset _))]
  rfl

/-- For a path that is cut short, there are none. -/
theorem helper_params_cutShort {p : String} (hroute : route req = some (.platform p))
    (hcut : CutShort p.toList) : (helperTarget (proxyTarget req p)).params = [] := by
  have hsent : ∃ query, (proxyTarget req p).toList = p.toList ++ query := by
    unfold proxyTarget
    rw [String.toList_append]
    exact ⟨_, rfl⟩
  obtain ⟨query, hsent⟩ := hsent
  rw [helper_params hpiece hreq hroute, hsent, sentQuery_cutShort hcut]
  rfl

include hpath

/-- A query that is kept is carried; and where no path asks itself, no other query is. -/
theorem query_carried_iff : (QueryKept piece req → QueryCarried piece req) ∧
    (OneQuery req → (QueryCarried piece req ↔ QueryKept piece req)) := by
  have hown : (parseTarget piece).params = parseQueryText (ownQuery piece) :=
    parseTarget_params hpath
  have hplain := parseQueryText_encodeUrl_iff (ownQuery_onWire hpiece)
  have hkept : QueryKept piece req → QueryCarried piece req := by
    intro h p hroute w hw m t b hsent
    obtain ⟨hpass, rfl⟩ := proxy_sends hw hsent
    rw [hown]
    rcases h p hroute hpass with ⟨hends, hquery⟩ | ⟨hcut, hnone⟩
    · rw [helper_params_own hpiece hreq hroute hends]
      exact hplain.mpr hquery
    · rw [helper_params_cutShort hpiece hreq hroute hcut, parseQueryText_eq_nil.mpr hnone]
  refine ⟨hkept, fun hone => ⟨fun h p hroute hpass => ?_, hkept⟩⟩
  obtain ⟨m, b, hsent⟩ := proxy_forwards req hpass
  have hsame := h p hroute { helperPresent := true } rfl m _ b hsent
  rw [hown] at hsame
  by_cases hends : EndsBeforeQuery p.toList
  · rw [helper_params_own hpiece hreq hroute hends] at hsame
    exact Or.inl ⟨hends, hplain.mp hsame⟩
  · have hcut : CutShort p.toList := ⟨hone p hroute hpass, hends⟩
    rw [helper_params_cutShort hpiece hreq hroute hcut] at hsame
    exact Or.inr ⟨hcut, parseQueryText_eq_nil.mp hsame.symm⟩

end Carried

/-- An escaped blank in a query arrives as one. -/
theorem escaped_blank_carried :
    QueryCarried "/api/v1/platform/echo?q=a%20b".toList (getOf "/api/v1/platform/echo?q=a%20b") := by
  have hwire : OnWire "/api/v1/platform/echo?q=a%20b".toList := by decide
  have hpath : HasPath "/api/v1/platform/echo?q=a%20b".toList := by
    unfold HasPath
    decide
  refine (@query_carried_iff _ (getOf "/api/v1/platform/echo?q=a%20b") hwire hpath ⟨rfl, rfl⟩).1 ?_
  intro p hroute _
  have hfound : route (getOf "/api/v1/platform/echo?q=a%20b") = some (.platform "/echo") := rfl
  rw [hfound] at hroute
  cases hroute
  have hquery : ownQuery "/api/v1/platform/echo?q=a%20b".toList = "q=a%20b".toList := by decide
  have hpiece : split '&' "q=a%20b".toList = ["q=a%20b".toList] := by decide
  have hends : EndsBeforeQuery "/echo".toList := by decide
  refine Or.inl ⟨hends, ?_⟩
  rw [hquery]
  refine ⟨fun kv hkv nv hnv => ?_, fun kv hkv kv' hkv' _ => ?_⟩
  · rw [hpiece, List.mem_singleton] at hkv
    rw [hkv] at hnv
    cases hnv
    decide
  · rw [hpiece, List.mem_singleton] at hkv hkv'
    rw [hkv, hkv']

/-- A plus sign, a blank in the request, arrives as a plus sign. -/
theorem plus_altered :
    ¬QueryCarried "/api/v1/platform/echo?q=a+b".toList (getOf "/api/v1/platform/echo?q=a+b") := by
  intro h
  obtain ⟨m, b, hsent⟩ := proxy_forwards (getOf "/api/v1/platform/echo?q=a+b") (p := "/echo")
    ⟨by decide, by decide⟩
  have hsame := h "/echo" rfl { helperPresent := true } rfl m _ b hsent
  exact absurd hsame (by decide)

end NightWatcher.Api
