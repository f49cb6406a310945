import NightWatcher.Api.Rendering

/-!
# Secrets along paths

A secret of a config is a non-empty string under a secret-named key, reached
through nested objects (`Secret`). The masked view has `"***"` in its place
(`at?_maskConfigJson`), and merging anything that still has `"***"` there leaves
the stored secret as it was (`at?_mergeConfigJson`).
-/

namespace NightWatcher

/-! ## Paths -/

/-- The value at the end of a path of member names. -/
def Json.at? (j : Json) : List String → Option Json
  | [] => some j
  | k :: ks => (j.member? k).bind fun v => v.at? ks

/-- Every object in it has each key once, as the library's maps do. -/
inductive Json.Keyed : Json → Prop
  | obj {ms : List (String × Json)} (hkeys : (ms.map Prod.fst).Nodup)
      (hmembers : ∀ k v, Json.findMember k ms = some v → Json.Keyed v) : Json.Keyed (.obj ms)
  | other {j : Json} (h : j.isObject = false) : Json.Keyed j

namespace Json

@[simp] theorem at?_nil (j : Json) : j.at? [] = some j := by
  unfold at?
  rfl

theorem at?_cons (j : Json) (k : String) (ks : List String) :
    j.at? (k :: ks) = (j.member? k).bind fun v => v.at? ks := by
  rw [at?]

/-- There is nothing below a value that is no object. -/
theorem at?_isObject {j v : Json} {k : String} {ks : List String} (h : j.at? (k :: ks) = some v) :
    ∃ ms, j = .obj ms := by
  rw [at?_cons] at h
  cases j with
  | obj ms => exact ⟨ms, rfl⟩
  | _ => cases h

theorem at?_obj (ms : List (String × Json)) (k : String) (ks : List String) :
    (Json.obj ms).at? (k :: ks) = (findMember k ms).bind fun v => v.at? ks := at?_cons _ _ _

theorem Keyed.keys {ms : List (String × Json)} (h : Keyed (.obj ms)) : (ms.map Prod.fst).Nodup := by
  cases h with
  | obj hkeys _ => exact hkeys
  | other h => cases h

theorem Keyed.member {ms : List (String × Json)} (h : Keyed (.obj ms)) {k : String} {v : Json}
    (hv : findMember k ms = some v) : v.Keyed := by
  cases h with
  | obj _ hmembers => exact hmembers k v hv
  | other h => cases h

theorem findMember_mem {k : String} {v : Json} {ms : List (String × Json)}
    (h : findMember k ms = some v) : (k, v) ∈ ms := by
  induction ms with
  | nil => cases h
  | cons m ms ih =>
    unfold findMember at h
    split at h
    next hk =>
      subst hk
      cases h
      exact List.mem_cons_self
    next => exact List.mem_cons_of_mem _ (ih h)

/-- An object whose members are keyed, each under a name of its own. -/
theorem Keyed.of_members {ms : List (String × Json)} (hkeys : (ms.map Prod.fst).Nodup)
    (hmembers : ∀ m ∈ ms, m.2.Keyed) : Keyed (.obj ms) :=
  .obj hkeys fun _ _ h => hmembers _ (findMember_mem h)

theorem findMember_none {k : String} {ms : List (String × Json)} (h : k ∉ ms.map Prod.fst) :
    findMember k ms = none := by
  induction ms with
  | nil => rfl
  | cons m ms ih =>
    rw [List.map_cons, List.mem_cons, not_or] at h
    rw [findMember, if_neg h.1, ih h.2]

end Json

namespace Api

/-! ## Secrets -/

/-- The last name of the path is that of a secret. -/
def SecretPath (p : List String) : Prop := ∃ k, p.getLast? = some k ∧ isSecretKey k = true

theorem SecretPath.ne_nil {p : List String} (h : SecretPath p) : p ≠ [] := by
  rintro rfl
  obtain ⟨k, hk, -⟩ := h
  cases hk

/-- A non-empty secret of a config, and where it is. -/
structure Secret (j : Json) (p : List String) (s : String) : Prop where
  path : SecretPath p
  value : j.at? p = some (.str s)
  given : s ≠ ""

/-! ## The masked view -/

/-- A member's value in the masked view. -/
def maskMember (k : String) (v : Json) : Json :=
  if v.isObject then maskConfigJson v
  else
    match v with
    | .str s => if isSecretKey k ∧ s ≠ "" then .str "***" else v
    | _ => v

theorem maskMembers_cons (k : String) (v : Json) (ms : List (String × Json)) :
    maskMembers ((k, v) :: ms) = (k, maskMember k v) :: maskMembers ms := by
  cases v <;> simp [maskMembers, maskMember, Json.isObject]

theorem findMember_maskMembers (k : String) (ms : List (String × Json)) :
    Json.findMember k (maskMembers ms) = (Json.findMember k ms).map (maskMember k) := by
  induction ms with
  | nil => rfl
  | cons m ms ih =>
    obtain ⟨k', v⟩ := m
    rw [maskMembers_cons, Json.findMember, Json.findMember, ih]
    by_cases hk : k = k'
    · rw [if_pos hk, if_pos hk, Option.map_some, hk]
    · rw [if_neg hk, if_neg hk]

/-- The masked view has no secret, but a mask in the place of each. -/
theorem at?_maskConfigJson {p : List String} {j : Json} {s : String} (h : Secret j p s) :
    (maskConfigJson j).at? p = some (.str "***") := by
  obtain ⟨hpath, hvalue, hgiven⟩ := h
  induction p generalizing j with
  | nil => exact absurd rfl hpath.ne_nil
  | cons k ks ih =>
    obtain ⟨ms, rfl⟩ := Json.at?_isObject hvalue
    rw [Json.at?_obj] at hvalue
    obtain ⟨v, hv, hvalue⟩ := Option.bind_eq_some_iff.mp hvalue
    show (Json.obj (maskMembers ms)).at? (k :: ks) = _
    rw [Json.at?_obj, findMember_maskMembers, hv, Option.map_some, Option.bind_some]
    cases ks with
    | nil =>
      obtain rfl : v = .str s := by simpa using hvalue
      obtain ⟨k', hk', hsecret⟩ := hpath
      obtain rfl : k = k' := by simpa using hk'
      rw [Json.at?_nil]
      unfold maskMember
      simp [Json.isObject, hsecret, hgiven]
    | cons k' ks =>
      obtain ⟨ms', rfl⟩ := Json.at?_isObject hvalue
      refine ih ?_ hvalue
      obtain ⟨last, hlast, hsecret⟩ := hpath
      exact ⟨last, by rwa [List.getLast?_cons_cons] at hlast, hsecret⟩

/-! ## The merge -/

/-- A member's value after the merge. -/
def mergeMember (k : String) (old : Option Json) (v : Json) : Option Json :=
  if v.isObject then some (mergeConfigJson (old.getD (.obj [])) v)
  else
    match v with
    | .str s => if isSecretKey k ∧ (s = "" ∨ s = "***") then old else some v
    | _ => some v

/-- One member after the other is merged. -/
theorem mergeMembers_cons (k : String) (v : Json) (ms existing : List (String × Json)) :
    ∃ existing', mergeMembers existing ((k, v) :: ms) = mergeMembers existing' ms ∧
      Json.findMember k existing' = mergeMember k (Json.findMember k existing) v ∧
      ∀ k', k' ≠ k → Json.findMember k' existing' = Json.findMember k' existing := by
  have hset : ∀ v',
      mergeMembers existing ((k, v) :: ms) = mergeMembers (Json.setMember k v' existing) ms →
      mergeMember k (Json.findMember k existing) v = some v' →
      ∃ existing', mergeMembers existing ((k, v) :: ms) = mergeMembers existing' ms ∧
        Json.findMember k existing' = mergeMember k (Json.findMember k existing) v ∧
        ∀ k', k' ≠ k → Json.findMember k' existing' = Json.findMember k' existing :=
    fun v' h hv' => ⟨_, h, by rw [Json.findMember_setMember_self, hv'],
      fun k' hne => Json.findMember_setMember_ne hne v' existing⟩
  cases v with
  | obj vs =>
    exact hset (mergeConfigJson ((Json.findMember k existing).getD (.obj [])) (.obj vs))
      (by simp [mergeMembers, Json.isObject]) (by simp [mergeMember, Json.isObject])
  | str s =>
    by_cases hkeep : isSecretKey k ∧ (s = "" ∨ s = "***")
    · exact ⟨existing, by simp [mergeMembers, Json.isObject, hkeep],
        by simp [mergeMember, Json.isObject, hkeep], fun _ _ => rfl⟩
    · exact hset (.str s) (by simp [mergeMembers, Json.isObject, hkeep])
        (by simp [mergeMember, Json.isObject, hkeep])
  | null | bool | int | dbl | arr =>
    exact hset _ (by simp [mergeMembers, Json.isObject]; rfl) (by simp [mergeMember, Json.isObject])

/-- Members that are not given stay, the others are merged one by one. -/
theorem findMember_mergeMembers {k : String} {ms : List (String × Json)}
    (hkeys : (ms.map Prod.fst).Nodup) (existing : List (String × Json)) :
    (mergeMembers existing ms).member? k =
      match Json.findMember k ms with
      | none => Json.findMember k existing
      | some v => mergeMember k (Json.findMember k existing) v := by
  induction ms generalizing existing with
  | nil => rfl
  | cons m ms ih =>
    obtain ⟨k', v⟩ := m
    rw [List.map_cons, List.nodup_cons] at hkeys
    obtain ⟨hnew, hkeys⟩ := hkeys
    obtain ⟨existing', hstep, hself, hothers⟩ := mergeMembers_cons k' v ms existing
    rw [hstep, ih hkeys, Json.findMember]
    by_cases hk : k = k'
    · -- no later member has the name
      subst hk
      rw [Json.findMember_none hnew, if_pos rfl]
      exact hself
    · rw [if_neg hk, hothers k hk]

/-- What is merged with a mask in the place of a string keeps the string. -/
theorem at?_mergeConfigJson {p : List String} {existing incoming : Json} {s : String}
    (hpath : SecretPath p) (hkeyed : incoming.Keyed) (hold : existing.at? p = some (.str s))
    (hmask : incoming.at? p = some (.str "***")) :
    (mergeConfigJson existing incoming).at? p = some (.str s) := by
  induction p generalizing existing incoming with
  | nil => exact absurd rfl hpath.ne_nil
  | cons k ks ih =>
    obtain ⟨es, rfl⟩ := Json.at?_isObject hold
    obtain ⟨ms, rfl⟩ := Json.at?_isObject hmask
    rw [Json.at?_obj] at hold hmask
    obtain ⟨e, he, hold⟩ := Option.bind_eq_some_iff.mp hold
    obtain ⟨v, hv, hmask⟩ := Option.bind_eq_some_iff.mp hmask
    show (mergeMembers es ms).at? (k :: ks) = _
    rw [Json.at?_cons, findMember_mergeMembers hkeyed.keys, hv, he]
    dsimp only
    cases ks with
    | nil =>
      obtain rfl : e = .str s := by simpa using hold
      obtain rfl : v = .str "***" := by simpa using hmask
      obtain ⟨k', hk', hsecret⟩ := hpath
      obtain rfl : k = k' := by simpa using hk'
      simp [mergeMember, Json.isObject, hsecret]
    | cons k' ks =>
      obtain ⟨vs, rfl⟩ := Json.at?_isObject hmask
      show (mergeConfigJson e (.obj vs)).at? (k' :: ks) = _
      refine ih ?_ (hkeyed.member hv) hold hmask
      obtain ⟨last, hlast, hsecret⟩ := hpath
      exact ⟨last, by rwa [List.getLast?_cons_cons] at hlast, hsecret⟩

end Api

end NightWatcher
