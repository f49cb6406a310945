import Mathlib.Order.Defs.LinearOrder
import NightWatcher.Api.Secrets

/-!
# The masked view of a config

What an edit of the masked view does when it is merged back, and what the view
shows of the secrets. Objects are kept by ascending keys (`Sorted`), so that two of
them with the same members are the same value.
-/

namespace NightWatcher

namespace Json

/-! ## Objects by ascending keys -/

/-- The keys are strictly ascending, as in the parser's `std::map`. -/
def SortedKeys (ms : List (String × Json)) : Prop := (ms.map Prod.fst).Pairwise (· < ·)

/-- Every object that is reached through objects is kept by ascending keys. -/
inductive Sorted : Json → Prop
  | obj {ms : List (String × Json)} (hkeys : SortedKeys ms)
      (hmembers : ∀ k v, findMember k ms = some v → Sorted v) : Sorted (.obj ms)
  | other {j : Json} (h : j.isObject = false) : Sorted j

/-- Without its first member an ascending list is ascending. -/
theorem SortedKeys.tail {m : String × Json} {ms : List (String × Json)} (h : SortedKeys (m :: ms)) :
    SortedKeys ms := (List.pairwise_cons.mp h).2

/-- Ascending keys are different. -/
theorem SortedKeys.nodup {ms : List (String × Json)} (h : SortedKeys ms) : (ms.map Prod.fst).Nodup :=
  h.imp fun hlt => ne_of_lt hlt

/-- A key of the list is found. -/
theorem findMember_of_mem {k : String} {ms : List (String × Json)} (h : k ∈ ms.map Prod.fst) :
    ∃ v, findMember k ms = some v := by
  induction ms with
  | nil => cases h
  | cons m ms ih =>
    by_cases hk : k = m.1
    · exact ⟨m.2, by rw [findMember, if_pos hk]⟩
    · rw [List.map_cons, List.mem_cons] at h
      obtain ⟨v, hv⟩ := ih (h.resolve_left hk)
      exact ⟨v, by rw [findMember, if_neg hk, hv]⟩

/-- A key that is found is one of the list. -/
theorem mem_of_findMember {k : String} {v : Json} {ms : List (String × Json)}
    (h : findMember k ms = some v) : k ∈ ms.map Prod.fst :=
  List.mem_map.mpr ⟨(k, v), findMember_mem h, rfl⟩

/-- Two objects with the same members are the same. -/
theorem findMember_ext {ms ms' : List (String × Json)} (h : SortedKeys ms) (h' : SortedKeys ms')
    (hsame : ∀ k, findMember k ms = findMember k ms') : ms = ms' := by
  induction ms generalizing ms' with
  | nil =>
    cases ms' with
    | nil => rfl
    | cons m' ms' =>
      have hfirst := hsame m'.1
      rw [findMember, findMember, if_pos rfl] at hfirst
      cases hfirst
  | cons m ms ih =>
    obtain ⟨k, v⟩ := m
    have hk : ∀ x ∈ ms.map Prod.fst, k < x := (List.pairwise_cons.mp h).1
    cases ms' with
    | nil =>
      have hfirst := hsame k
      rw [findMember, findMember, if_pos rfl] at hfirst
      cases hfirst
    | cons m' ms' =>
      obtain ⟨k', v'⟩ := m'
      have hk' : ∀ x ∈ ms'.map Prod.fst, k' < x := (List.pairwise_cons.mp h').1
      -- the least key is the same on both sides
      have hfirst := hsame k
      have hfirst' := hsame k'
      rw [findMember, if_pos rfl] at hfirst
      rw [findMember, findMember, if_pos rfl] at hfirst'
      have hkeys : k = k' := by
        by_contra hne
        rw [findMember, if_neg hne] at hfirst
        rw [if_neg fun heq => hne heq.symm] at hfirst'
        have hlt := hk' k (mem_of_findMember hfirst.symm)
        have hlt' := hk k' (mem_of_findMember hfirst')
        exact lt_asymm hlt hlt'
      subst hkeys
      rw [findMember, if_pos rfl] at hfirst
      obtain rfl := Option.some.inj hfirst
      refine congrArg ((k, v) :: ·) (ih h.tail h'.tail fun x => ?_)
      by_cases hx : x = k
      · rw [hx, findMember_none fun hin => lt_irrefl _ (hk k hin),
          findMember_none fun hin => lt_irrefl _ (hk' k hin)]
      · have hsame := hsame x
        rw [findMember, findMember, if_neg hx, if_neg hx] at hsame
        exact hsame

/-- Setting a member adds no other key than its own. -/
theorem keys_setMember (k : String) (v : Json) (ms : List (String × Json)) :
    ∀ x ∈ (setMember k v ms).map Prod.fst, x = k ∨ x ∈ ms.map Prod.fst := by
  intro x hx
  by_contra hno
  rw [not_or] at hno
  obtain ⟨v', hv'⟩ := findMember_of_mem hx
  rw [findMember_setMember_ne hno.1] at hv'
  exact hno.2 (mem_of_findMember hv')

/-- Setting a member keeps the keys ascending. -/
theorem SortedKeys.setMember {ms : List (String × Json)} (h : SortedKeys ms) (k : String) (v : Json) :
    SortedKeys (Json.setMember k v ms) := by
  induction ms with
  | nil => exact List.pairwise_singleton _ _
  | cons m ms ih =>
    obtain ⟨k', v'⟩ := m
    have hk' : ∀ x ∈ ms.map Prod.fst, k' < x := (List.pairwise_cons.mp h).1
    unfold Json.setMember
    split
    next heq =>
      subst heq
      exact List.pairwise_cons.mpr ⟨hk', h.tail⟩
    next hne =>
      split
      next hlt =>
        refine List.pairwise_cons.mpr ⟨fun x hx => ?_, h⟩
        rcases List.mem_cons.mp hx with rfl | hx
        · exact hlt
        · exact lt_trans hlt (hk' x hx)
      next hnlt =>
        refine List.pairwise_cons.mpr ⟨fun x hx => ?_, ih h.tail⟩
        rcases keys_setMember k v ms x hx with rfl | hx
        · exact lt_of_le_of_ne (not_lt.mp hnlt) fun heq => hne heq.symm
        · exact hk' x hx

/-- The keys of a sorted object are ascending. -/
theorem Sorted.keys {ms : List (String × Json)} (h : Sorted (.obj ms)) : SortedKeys ms := by
  cases h with
  | obj hkeys _ => exact hkeys
  | other h => cases h

/-- The members of a sorted object are sorted. -/
theorem Sorted.member {ms : List (String × Json)} (h : Sorted (.obj ms)) {k : String} {v : Json}
    (hv : findMember k ms = some v) : v.Sorted := by
  cases h with
  | obj _ hmembers => exact hmembers k v hv
  | other h => cases h

/-- A path to a place in an object goes on below one of its members. -/
theorem at?_cons_obj {c : Json} {k : String} {ks : List String} {v : Json}
    (h : c.at? (k :: ks) = some v) :
    ∃ ms v', c = .obj ms ∧ findMember k ms = some v' ∧ v'.at? ks = some v := by
  obtain ⟨ms, rfl⟩ := at?_isObject h
  rw [at?_obj] at h
  obtain ⟨v', hv', hrest⟩ := Option.bind_eq_some_iff.mp h
  exact ⟨ms, v', rfl, hv', hrest⟩

end Json

namespace Api

/-! ## Merging by members -/

/-- Merging members keeps the keys ascending. -/
theorem sortedKeys_mergeMembers (ms : List (String × Json)) {existing : List (String × Json)}
    (h : Json.SortedKeys existing) : ∃ rs, mergeMembers existing ms = .obj rs ∧ Json.SortedKeys rs := by
  induction ms generalizing existing with
  | nil => exact ⟨existing, rfl, h⟩
  | cons m ms ih =>
    obtain ⟨k, v⟩ := m
    unfold mergeMembers
    split
    · exact ih (h.setMember _ _)
    · split
      · split
        · exact ih h
        · exact ih (h.setMember _ _)
      · exact ih (h.setMember _ _)

/-- What a merge of two objects has to be is said member by member. -/
theorem mergeConfigJson_eq {cs ms rs : List (String × Json)} (hcs : Json.SortedKeys cs)
    (hms : (ms.map Prod.fst).Nodup) (hrs : Json.SortedKeys rs)
    (h : ∀ k, (match Json.findMember k ms with
      | none => Json.findMember k cs
      | some v => mergeMember k (Json.findMember k cs) v) = Json.findMember k rs) :
    mergeConfigJson (.obj cs) (.obj ms) = .obj rs := by
  show mergeMembers cs ms = _
  obtain ⟨rs', hrs', hsorted⟩ := sortedKeys_mergeMembers ms hcs
  rw [hrs']
  refine congrArg Json.obj (Json.findMember_ext hsorted hrs fun k => ?_)
  have hmerged := findMember_mergeMembers (k := k) hms cs
  rw [hrs'] at hmerged
  exact hmerged.trans (h k)

/-- The mask keeps the keys. -/
theorem keys_maskMembers (ms : List (String × Json)) :
    (maskMembers ms).map Prod.fst = ms.map Prod.fst := by
  induction ms with
  | nil => rfl
  | cons m ms ih => rw [maskMembers_cons, List.map_cons, List.map_cons, ih]

/-- Merging the masked view of a config into it gives it back. -/
theorem mergeConfigJson_masked {c : Json} (h : c.Sorted) (hobj : c.isObject = true) :
    mergeConfigJson c (maskConfigJson c) = c := by
  induction h with
  | other h =>
    rw [h] at hobj
    cases hobj
  | @obj ms hkeys hmembers ih =>
    refine mergeConfigJson_eq hkeys ?_ hkeys fun k => ?_
    · rw [keys_maskMembers]
      exact hkeys.nodup
    · rw [findMember_maskMembers]
      cases hv : Json.findMember k ms with
      | none => rfl
      | some v =>
        show mergeMember k (some v) (maskMember k v) = some v
        cases v with
        | obj vs =>
          have hback := ih k _ hv rfl
          show some (mergeConfigJson (.obj vs) (maskConfigJson (.obj vs))) = _
          rw [hback]
        | str s =>
          by_cases hsecret : isSecretKey k = true
          · by_cases hempty : s = ""
            · simp [maskMember, mergeMember, Json.isObject, hsecret, hempty]
            · simp [maskMember, mergeMember, Json.isObject, hsecret, hempty]
          · simp [maskMember, mergeMember, Json.isObject, hsecret]
        | null | bool | int | dbl | arr => rfl

/-! ## Edits -/

/-- Set a member of the object at a path. -/
structure Edit where
  path : List String
  name : String
  value : Json

/-- The JSON with one member set in the object at the path. -/
def setAt (name : String) (value : Json) : List String → Json → Json
  | [], .obj ms => .obj (Json.setMember name value ms)
  | k :: ks, .obj ms =>
    match Json.findMember k ms with
    | some v => .obj (Json.setMember k (setAt name value ks v) ms)
    | none => .obj ms
  | _, j => j

/-- The JSON after the edit. -/
def Edit.apply (j : Json) (e : Edit) : Json := setAt e.name e.value e.path j

/-- The edit runs through objects of `c` and puts a value that is no object in the place of
none, or of one that is no object, under a name that is not secret. -/
structure Editable (c : Json) (e : Edit) : Prop where
  container : ∃ ms, c.at? e.path = some (.obj ms) ∧
    ∀ v, Json.findMember e.name ms = some v → v.isObject = false
  plain : isSecretKey e.name = false
  leaf : e.value.isObject = false

/-- Where `c` has an object, `j` has one. -/
def SameObjects (c j : Json) : Prop :=
  ∀ p, (∃ ms, c.at? p = some (.obj ms)) → ∃ ms, j.at? p = some (.obj ms)

/-- One step down the path. -/
theorem setAt_cons {name : String} {value : Json} {k : String} {ks : List String}
    {ms : List (String × Json)} {v : Json} (h : Json.findMember k ms = some v) :
    setAt name value (k :: ks) (.obj ms) = .obj (Json.setMember k (setAt name value ks v) ms) := by
  rw [setAt, h]

/-- An edit of a leaf keeps the objects sorted. -/
theorem sorted_setAt {name : String} {value : Json} {path : List String} {j : Json} (hj : j.Sorted)
    (hleaf : value.isObject = false) (hat : ∃ ms, j.at? path = some (.obj ms)) :
    (setAt name value path j).Sorted := by
  induction path generalizing j with
  | nil =>
    obtain ⟨ms, hms⟩ := hat
    obtain rfl : j = .obj ms := by simpa using hms
    refine .obj (hj.keys.setMember _ _) fun k v hv => ?_
    by_cases hk : k = name
    · rw [hk, Json.findMember_setMember_self] at hv
      obtain rfl := Option.some.inj hv
      exact .other hleaf
    · rw [Json.findMember_setMember_ne hk] at hv
      exact hj.member hv
  | cons q qs ih =>
    obtain ⟨ms, hms⟩ := hat
    obtain ⟨ms', v', rfl, hv', hrest⟩ := Json.at?_cons_obj hms
    rw [setAt_cons hv']
    refine .obj (hj.keys.setMember _ _) fun k v hv => ?_
    by_cases hk : k = q
    · rw [hk, Json.findMember_setMember_self] at hv
      obtain rfl := Option.some.inj hv
      exact ih (hj.member hv') ⟨ms, hrest⟩
    · rw [Json.findMember_setMember_ne hk] at hv
      exact hj.member hv

/-- An edit takes no object away. -/
theorem sameObjects_setAt {name : String} {value : Json} {path : List String} {c j : Json}
    (h : SameObjects c j) (hat : ∃ ms, c.at? path = some (.obj ms) ∧
      ∀ v, Json.findMember name ms = some v → v.isObject = false) :
    SameObjects c (setAt name value path j) := by
  -- on the path; only the member at its end is replaced
  induction path generalizing c j with
  | nil =>
    obtain ⟨cs, hcs, hold⟩ := hat
    obtain rfl : c = .obj cs := by simpa using hcs
    obtain ⟨ms, hms⟩ := h [] ⟨cs, rfl⟩
    obtain rfl : j = .obj ms := by simpa using hms
    rintro p ⟨os, hos⟩
    cases p with
    | nil => exact ⟨_, rfl⟩
    | cons k ks =>
      have hobject := h (k :: ks) ⟨os, hos⟩
      by_cases hk : k = name
      · -- the member that is set was no object
        subst hk
        rw [Json.at?_obj] at hos
        obtain ⟨v, hv, hrest⟩ := Option.bind_eq_some_iff.mp hos
        have hleaf := hold v hv
        cases ks with
        | nil =>
          obtain rfl : v = .obj os := by simpa using hrest
          cases hleaf
        | cons k' ks =>
          obtain ⟨vs, rfl⟩ := Json.at?_isObject hrest
          cases hleaf
      · show ∃ ms', (Json.obj (Json.setMember name value ms)).at? (k :: ks) = _
        rw [Json.at?_obj, Json.findMember_setMember_ne hk, ← Json.at?_obj]
        exact hobject
  | cons q qs ih =>
    obtain ⟨cs, hcs, hold⟩ := hat
    obtain ⟨cs', cv, rfl, hcv, hcrest⟩ := Json.at?_cons_obj hcs
    obtain ⟨ms, hms⟩ := h (q :: qs) ⟨cs, hcs⟩
    obtain ⟨ms', v, rfl, hv, hrest⟩ := Json.at?_cons_obj hms
    rw [setAt_cons hv]
    have hbelow : SameObjects cv v := by
      rintro p ⟨os, hos⟩
      have hobject := h (q :: p) ⟨os, by rw [Json.at?_obj, hcv]; exact hos⟩
      rw [Json.at?_obj, hv] at hobject
      exact hobject
    rintro p ⟨os, hos⟩
    cases p with
    | nil => exact ⟨_, rfl⟩
    | cons k ks =>
      -- below the step of the path, or beside it
      by_cases hk : k = q
      · subst hk
        rw [Json.at?_obj, Json.findMember_setMember_self]
        rw [Json.at?_obj, hcv] at hos
        exact ih hbelow ⟨cs, hcrest, hold⟩ ks ⟨os, hos⟩
      · rw [Json.at?_obj, Json.findMember_setMember_ne hk, ← Json.at?_obj]
        exact h (k :: ks) ⟨os, hos⟩

/-- The members of a sorted JSON make a sorted object. -/
theorem sorted_members {c : Json} (h : c.Sorted) : (Json.obj c.members).Sorted := by
  cases c with
  | obj ms => exact h
  | null | bool | int | dbl | str | arr => exact .obj List.Pairwise.nil nofun

/-- Merging an edited object is editing what it is merged to. -/
theorem mergeConfigJson_setAt {name : String} {value : Json} (hplain : isSecretKey name = false)
    (hleaf : value.isObject = false) {path : List String} {c j : Json} (hc : c.Sorted) (hj : j.Sorted)
    (hat : ∃ ms, j.at? path = some (.obj ms)) :
    mergeConfigJson c (setAt name value path j) = setAt name value path (mergeConfigJson c j) := by
  have hset : ∀ old, mergeMember name old value = some value := by
    intro old
    cases value with
    | obj => cases hleaf
    | str s => simp [mergeMember, Json.isObject, hplain]
    | null | bool | int | dbl | arr => rfl
  -- on the path; each step merges below the object it goes through
  induction path generalizing c j with
  -- at the end of the path the member is set in the object itself
  | nil =>
    obtain ⟨ms, hms⟩ := hat
    obtain rfl : j = .obj ms := by simpa using hms
    have hcs := (sorted_members hc).keys
    obtain ⟨rs, hrs, hsorted⟩ := sortedKeys_mergeMembers ms hcs
    have hmerged : ∀ k, _ = Json.findMember k rs := fun k =>
      (findMember_mergeMembers (k := k) hj.keys.nodup c.members).symm.trans (by rw [hrs]; rfl)
    show mergeConfigJson (.obj c.members) (.obj (Json.setMember name value ms))
      = setAt name value [] (mergeMembers c.members ms)
    rw [hrs]
    -- two objects with sorted keys are equal if every member is
    refine mergeConfigJson_eq hcs (hj.keys.setMember _ _).nodup (hsorted.setMember _ _) fun k => ?_
    by_cases hk : k = name
    · rw [hk, Json.findMember_setMember_self, Json.findMember_setMember_self]
      exact hset _
    · rw [Json.findMember_setMember_ne hk, Json.findMember_setMember_ne hk]
      exact hmerged k
  -- further up the member `q` is merged below, and the others are as they were
  | cons q qs ih =>
    obtain ⟨os, hos⟩ := hat
    obtain ⟨ms, v, rfl, hv, hrest⟩ := Json.at?_cons_obj hos
    have hcs := (sorted_members hc).keys
    obtain ⟨rs, hrs, hsorted⟩ := sortedKeys_mergeMembers ms hcs
    have hmerged : ∀ k, _ = Json.findMember k rs := fun k =>
      (findMember_mergeMembers (k := k) hj.keys.nodup c.members).symm.trans (by rw [hrs]; rfl)
    let below := (Json.findMember q c.members).getD (.obj [])
    have hbelow : below.Sorted := by
      unfold below
      cases hq : Json.findMember q c.members with
      | none => exact .obj List.Pairwise.nil fun _ _ hfound => by cases hfound
      | some cv => exact (sorted_members hc).member hq
    have hobjects : ∀ {x : Json} {p : List String}, (∃ ms, x.at? p = some (.obj ms)) →
        x.isObject = true := by
      rintro x p ⟨ms, hms⟩
      cases p with
      | nil =>
        obtain rfl : x = .obj ms := by simpa using hms
        rfl
      | cons k ks =>
        obtain ⟨xs, rfl⟩ := Json.at?_isObject hms
        rfl
    have hvobj : v.isObject = true := hobjects ⟨os, hrest⟩
    have hrq : Json.findMember q rs = some (mergeConfigJson below v) := by
      rw [← hmerged q, hv]
      simp only [mergeMember, hvobj, if_true]
      rfl
    rw [setAt_cons hv]
    show mergeConfigJson (.obj c.members) (.obj (Json.setMember q (setAt name value qs v) ms))
      = setAt name value (q :: qs) (mergeMembers c.members ms)
    rw [hrs, setAt_cons hrq]
    refine mergeConfigJson_eq hcs (hj.keys.setMember _ _).nodup (hsorted.setMember _ _) fun k => ?_
    by_cases hk : k = q
    · rw [hk, Json.findMember_setMember_self, Json.findMember_setMember_self]
      have hset' : (setAt name value qs v).isObject = true := by
        cases v with
        | obj vs =>
          cases qs with
          | nil => rfl
          | cons k' ks =>
            unfold setAt
            split <;> rfl
        | null | bool | int | dbl | str | arr => cases hvobj
      show mergeMember q (Json.findMember q c.members) (setAt name value qs v) = _
      simp only [mergeMember, hset', if_true]
      rw [← ih hbelow (hj.member hv) ⟨os, hrest⟩]
    · rw [Json.findMember_setMember_ne hk, Json.findMember_setMember_ne hk]
      exact hmerged k

/-! ## Editing the view -/

/-- The mask keeps the objects sorted. -/
theorem sorted_maskConfigJson {c : Json} (h : c.Sorted) : (maskConfigJson c).Sorted := by
  induction h with
  | @other j h =>
    cases j with
    | obj => cases h
    | null | bool | int | dbl | str | arr => exact .other rfl
  | @obj ms hkeys hmembers ih =>
    refine .obj ?_ fun k v hv => ?_
    · unfold Json.SortedKeys
      rw [keys_maskMembers]
      exact hkeys
    · rw [findMember_maskMembers] at hv
      obtain ⟨v', hv', rfl⟩ := Option.map_eq_some_iff.mp hv
      cases v' with
      | obj vs => exact ih k _ hv'
      | str s =>
        unfold maskMember
        split
        next h => cases h
        next =>
          dsimp only
          split
          · exact .other rfl
          · exact .other rfl
      | null | bool | int | dbl | arr => exact .other rfl

/-- The mask keeps the objects where they are. -/
theorem sameObjects_mask (c : Json) : SameObjects c (maskConfigJson c) := by
  rintro p ⟨os, hos⟩
  induction p generalizing c with
  | nil =>
    obtain rfl : c = .obj os := by simpa using hos
    exact ⟨_, rfl⟩
  | cons k ks ih =>
    obtain ⟨ms, v, rfl, hv, hrest⟩ := Json.at?_cons_obj hos
    show ∃ ms', (Json.obj (maskMembers ms)).at? (k :: ks) = _
    rw [Json.at?_obj, findMember_maskMembers, hv]
    have hvobj : v.isObject = true := by
      cases ks with
      | nil =>
        obtain rfl : v = .obj os := by simpa using hrest
        rfl
      | cons k' ks =>
        obtain ⟨vs, rfl⟩ := Json.at?_isObject hrest
        rfl
    have hmask : maskMember k v = maskConfigJson v := by
      unfold maskMember
      rw [if_pos hvobj]
    rw [Option.map_some, Option.bind_some, hmask]
    exact ih v hrest

/-- All edits, one after the other. -/
def edited (es : List Edit) (j : Json) : Json := es.foldl Edit.apply j

/-- Whatever is edited in the masked view is edited in the config. -/
theorem mergeConfigJson_edited {c : Json} (hc : c.Sorted) {es : List Edit}
    (hes : ∀ e ∈ es, Editable c e) {j : Json} (hj : j.Sorted) (hsame : SameObjects c j) :
    mergeConfigJson c (edited es j) = edited es (mergeConfigJson c j) := by
  induction es generalizing j with
  | nil => rfl
  | cons e es ih =>
    obtain ⟨⟨ms, hms, hold⟩, hplain, hleaf⟩ := hes e List.mem_cons_self
    have hat : ∃ ms', j.at? e.path = some (.obj ms') := hsame e.path ⟨ms, hms⟩
    show mergeConfigJson c (edited es (setAt e.name e.value e.path j)) = _
    rw [ih (fun e' he' => hes e' (List.mem_cons_of_mem _ he')) (sorted_setAt hj hleaf hat)
      (sameObjects_setAt hsame ⟨ms, hms, hold⟩), mergeConfigJson_setAt hplain hleaf hc hj hat]
    rfl

/-- Editing the masked view of a config and merging it back is editing the config: secrets are
kept, and everything else is what the edits make of it. -/
theorem edits_through_mask {d : Deps} {text : String} {c : Json} {es : List Edit}
    (htext : text ≠ "") (hparse : d.json.parse text = some c) (hobj : c.isObject = true) (hc : c.Sorted)
    (hes : ∀ e ∈ es, Editable c e)
    (hprint : d.json.parse (d.json.dump (edited es c)) = some (edited es c)) :
    d.json.parse (mergeConfig d text (edited es (maskConfig d text))) = some (edited es c) := by
  have hmask : maskConfig d text = maskConfigJson c := by
    unfold maskConfig
    rw [if_neg htext, hparse]
    cases c with
    | obj ms => rfl
    | null | bool | int | dbl | str | arr => cases hobj
  have hmerge : mergeConfigJson c (edited es (maskConfigJson c)) = edited es c := by
    rw [mergeConfigJson_edited hc hes (sorted_maskConfigJson hc) (sameObjects_mask c),
      mergeConfigJson_masked hc hobj]
  unfold mergeConfig
  rw [if_neg htext, hparse, hmask]
  show d.json.parse (d.json.dump (mergeConfigJson c (edited es (maskConfigJson c)))) = _
  rw [hmerge]
  exact hprint

/-- A config with a secret and a host, as texts and as values. -/
def hostConfig (host : String) : Json :=
  .obj [("auth", .obj [("token", .str "s")]), ("host", .str host)]

def hostText (host : String) : String :=
  "\x7b\"auth\":\x7b\"token\":\"s\"\x7d,\"host\":\"" ++ host ++ "\"\x7d"

def hostDeps : Deps :=
  { Deps.plain [] with
    json :=
      { parse := fun s =>
          if s = hostText "a" then some (hostConfig "a")
              else if s = hostText "b" then some (hostConfig "b")
          else none
        dump := fun j =>
          match j.member? "host" with
          | some (.str host) => hostText host
          | _ => "" } }

theorem hostConfig_sorted (host : String) : (hostConfig host).Sorted := by
  have hkeys : Json.SortedKeys [("auth", Json.obj [("token", .str "s")]), ("host", .str host)] :=
    (by decide : ["auth", "host"].Pairwise (· < ·))
  refine .obj hkeys fun k v hv => ?_
  have hmem := Json.findMember_mem hv
  simp only [List.mem_cons, List.not_mem_nil, or_false, Prod.mk.injEq] at hmem
  rcases hmem with ⟨-, rfl⟩ | ⟨-, rfl⟩
  · refine .obj (List.pairwise_singleton _ _) fun k v hv => ?_
    obtain ⟨-, rfl⟩ := Prod.mk.inj (List.mem_singleton.mp (Json.findMember_mem hv))
    exact .other rfl
  · exact .other rfl

/-- Another host, entered in the masked view. -/
theorem host_edited :
    hostDeps.json.parse (mergeConfig hostDeps (hostText "a")
      (edited [{ path := [], name := "host", value := .str "b" }] (maskConfig hostDeps (hostText "a"))))
      = some (hostConfig "b") := by
  have hhost : edited [{ path := [], name := "host", value := .str "b" }] (hostConfig "a")
      = hostConfig "b" := rfl
  rw [← hhost]
  refine edits_through_mask (c := hostConfig "a") (by decide) rfl rfl (hostConfig_sorted "a") ?_ ?_
  · intro e he
    obtain rfl := List.mem_singleton.mp he
    refine ⟨⟨_, rfl, fun v hv => ?_⟩, by decide +kernel, rfl⟩
    obtain rfl : Json.str "a" = v := Option.some.inj hv
    rfl
  · rfl

/-! ## What the view shows -/

mutual

/-- All that is not secret: every non-empty secret blotted out, in objects and arrays. -/
def blot : Json → Json
  | .obj ms => .obj (blotMembers ms)
  | .arr es => .arr (blotElems es)
  | j => j

/-- The mask carried on into arrays, on the members of an object. -/
def blotMembers : List (String × Json) → List (String × Json)
  | [] => []
  | (k, v) :: rest =>
    (k, match v with
      | .str s => if isSecretKey k ∧ s ≠ "" then .str "***" else .str s
      | _ => blot v) :: blotMembers rest

/-- The same on the elements of an array. -/
def blotElems : List Json → List Json
  | [] => []
  | e :: rest => blot e :: blotElems rest

end

/-- The value of a member with its secret blotted out. -/
def blotMember (k : String) (v : Json) : Json :=
  match v with
  | .str s => if isSecretKey k ∧ s ≠ "" then .str "***" else .str s
  | _ => blot v

/-- A member of the blotted object is the blotted member. -/
theorem findMember_blotMembers (k : String) (ms : List (String × Json)) :
    Json.findMember k (blotMembers ms) = (Json.findMember k ms).map (blotMember k) := by
  induction ms with
  | nil => rfl
  | cons m ms ih =>
    obtain ⟨k', v⟩ := m
    show Json.findMember k ((k', blotMember k' v) :: blotMembers ms) = _
    rw [Json.findMember, Json.findMember, ih]
    by_cases hk : k = k'
    · rw [if_pos hk, if_pos hk, Option.map_some, hk]
    · rw [if_neg hk, if_neg hk]

/-- Arrays that are reached through objects are the same. -/
def SameArrays (c c' : Json) : Prop := ∀ p es, c.at? p = some (.arr es) → c'.at? p = some (.arr es)

/-- A text member is masked by its key. -/
theorem maskMember_str (k s : String) :
    maskMember k (.str s) = if isSecretKey k ∧ s ≠ "" then .str "***" else .str s := rfl

/-- A member is an array under the mask exactly when it is that array. -/
theorem maskMember_arr {k : String} {v : Json} {es : List Json} :
    maskMember k v = .arr es ↔ v = .arr es := by
  cases v with
  | str s =>
    rw [maskMember_str]
    split <;> exact ⟨nofun, nofun⟩
  | obj ms => exact ⟨nofun, nofun⟩
  | null | bool | int | dbl | arr => exact Iff.rfl

/-- The mask makes no objects. -/
theorem maskMember_object {k : String} {v : Json} (h : v.isObject = false) :
    (maskMember k v).isObject = false := by
  cases v with
  | obj => cases h
  | str s =>
    rw [maskMember_str]
    split <;> rfl
  | null | bool | int | dbl | arr => rfl

/-- The view has the arrays that the config has. -/
theorem at?_mask_arr {c : Json} {p : List String} {es : List Json} :
    (maskConfigJson c).at? p = some (.arr es) ↔ c.at? p = some (.arr es) := by
  have hleaf : ∀ {x : Json} {k : String} {ks : List String}, x.isObject = false →
      x.at? (k :: ks) = none := by
    intro x k ks hx
    cases hat : x.at? (k :: ks) with
    | none => rfl
    | some v =>
      obtain ⟨ms, rfl⟩ := Json.at?_isObject hat
      cases hx
  induction p generalizing c with
  | nil =>
    rw [Json.at?_nil, Json.at?_nil]
    cases c with
    | obj ms => exact ⟨nofun, nofun⟩
    | null | bool | int | dbl | str | arr => exact Iff.rfl
  | cons k ks ih =>
    cases c with
    | obj ms =>
      show (Json.obj (maskMembers ms)).at? (k :: ks) = _ ↔ _
      rw [Json.at?_obj, Json.at?_obj, findMember_maskMembers]
      cases Json.findMember k ms with
      | none => exact Iff.rfl
      | some v =>
        rw [Option.map_some, Option.bind_some, Option.bind_some]
        cases hobj : v.isObject with
        | true =>
          have hmask : maskMember k v = maskConfigJson v := by
            unfold maskMember
            rw [if_pos hobj]
          rw [hmask]
          exact ih
        | false =>
          cases ks with
          | nil =>
            rw [Json.at?_nil, Json.at?_nil, Option.some_inj, Option.some_inj]
            exact maskMember_arr
          | cons k' ks => rw [hleaf hobj, hleaf (maskMember_object hobj)]
    | null | bool | int | dbl | str | arr => exact Iff.rfl

/-- Members with equal arrays, of objects with equal arrays. -/
theorem SameArrays.member {ms ms' : List (String × Json)} (h : SameArrays (.obj ms) (.obj ms'))
    {k : String}
    {v v' : Json} (hv : Json.findMember k ms = some v) (hv' : Json.findMember k ms' = some v') :
    SameArrays v v' := by
  intro p es hp
  have hat := h (k :: p) es (by rw [Json.at?_obj, hv]; exact hp)
  rw [Json.at?_obj, hv'] at hat
  exact hat

/-- Two configs that differ in secrets only have one view if the secrets are in no array. -/
theorem maskConfigJson_eq {c c' : Json} (hc : c.Sorted) (hc' : c'.Sorted) (h : blot c = blot c')
    (hsame : SameArrays c c') : maskConfigJson c = maskConfigJson c' := by
  -- on the object; arrays are the same in both, so the mask may leave them as they are
  induction hc generalizing c' with
  | @other c hleaf =>
    cases c with
    | obj => cases hleaf
    | arr es =>
      obtain rfl : c' = .arr es := by simpa using hsame [] es rfl
      rfl
    | null | bool | int | dbl | str =>
      cases c' with
      | obj | arr => cases h
      | null | bool | int | dbl | str => exact h
  | @obj ms hkeys hmembers ih =>
    cases c' with
    | obj ms' =>
      have hblot : ∀ k, (Json.findMember k ms).map (blotMember k)
          = (Json.findMember k ms').map (blotMember k) := by
        intro k
        rw [← findMember_blotMembers, ← findMember_blotMembers, Json.obj.inj h]
      refine congrArg Json.obj (Json.findMember_ext ?_ ?_ fun k => ?_)
      · unfold Json.SortedKeys
        rw [keys_maskMembers]
        exact hkeys
      · unfold Json.SortedKeys
        rw [keys_maskMembers]
        exact hc'.keys
      · rw [findMember_maskMembers, findMember_maskMembers]
        have hk := hblot k
        cases hv : Json.findMember k ms with
        | none =>
          rw [hv] at hk
          rw [Option.map_eq_none_iff.mp hk.symm]
        | some v =>
          rw [hv] at hk
          obtain ⟨v', hv', hvv'⟩ := Option.map_eq_some_iff.mp hk.symm
          rw [hv', Option.map_some, Option.map_some, Option.some_inj]
          have harrays := hsame.member hv hv'
          -- members that blot to the same value are of one kind
          cases v with
          | obj vs =>
            cases v' with
            | obj vs' => exact ih k _ hv (hc'.member hv') hvv'.symm harrays
            | str s =>
              unfold blotMember at hvv'
              dsimp only at hvv'
              split at hvv' <;> cases hvv'
            | null | bool | int | dbl | arr => cases hvv'
          | arr es =>
            obtain rfl : v' = .arr es := by simpa using harrays [] es rfl
            rfl
          | str s =>
            cases v' with
            | str s' =>
              unfold blotMember at hvv'
              rw [maskMember_str, maskMember_str]
              exact hvv'.symm
            | null | bool | int | dbl | arr | obj =>
              unfold blotMember at hvv'
              dsimp only at hvv'
              split at hvv' <;> cases hvv'
          | null | bool | int | dbl =>
            cases v' with
            | str s' =>
              unfold blotMember at hvv'
              dsimp only at hvv'
              split at hvv' <;> cases hvv'
            | null | bool | int | dbl | arr | obj =>
              cases hvv'
              try rfl
    | null | bool | int | dbl | str | arr => cases h

/-- Two configs that differ in secrets only are shown alike, in the rows of stations and targets
too, exactly if their arrays are the same. -/
theorem views_alike_iff {d : Deps} {text text' : String} {c c' : Json} (htext : text ≠ "")
    (htext' : text' ≠ "") (hparse : d.json.parse text = some c) (hparse' : d.json.parse text' = some c')
    (hobj : c.isObject = true) (hobj' : c'.isObject = true) (hc : c.Sorted) (hc' : c'.Sorted)
    (h : blot c = blot c') :
    (maskConfig d text = maskConfig d text' ∧
      (∀ r : WeatherStationRow, weatherStationJson d { r with config := text }
        = weatherStationJson d { r with config := text' }) ∧
      ∀ r : ExportTargetRow, exportTargetJson d { r with config := text }
        = exportTargetJson d { r with config := text' }) ↔
      SameArrays c c' := by
  have hmask : ∀ {t : String} {j : Json}, t ≠ "" → d.json.parse t = some j → j.isObject = true →
      maskConfig d t = maskConfigJson j := by
    intro t j ht hj hobj
    unfold maskConfig
    rw [if_neg ht, hj]
    cases j with
    | obj ms => rfl
    | null | bool | int | dbl | str | arr => cases hobj
  constructor
  · rintro ⟨hviews, -, -⟩ p es hp
    rw [hmask htext hparse hobj, hmask htext' hparse' hobj'] at hviews
    rw [← at?_mask_arr, ← hviews, at?_mask_arr]
    exact hp
  · intro hsame
    have hviews : maskConfig d text = maskConfig d text' := by
      rw [hmask htext hparse hobj, hmask htext' hparse' hobj']
      exact maskConfigJson_eq hc hc' h hsame
    refine ⟨hviews, fun r => ?_, fun r => ?_⟩
    · unfold weatherStationJson
      rw [hviews]
    · unfold exportTargetJson
      rw [hviews]

/-- One secret, in an object. -/
def tokenOnly (token : String) : Json := .obj [("token", .str token)]

def tokenText (token : String) : String := "\x7b\"token\":\"" ++ token ++ "\"\x7d"

/-- The same in an array. -/
def tokenListed (token : String) : Json := .obj [("auth", .arr [tokenOnly token])]

def listedText (token : String) : String := "\x7b\"auth\":[" ++ tokenText token ++ "]\x7d"

def tokenDeps : Deps :=
  { Deps.plain [] with
    json :=
      { parse := fun s =>
          (["a", "b"].findSome? fun token =>
            if s = tokenText token then some (tokenOnly token)
            else if s = listedText token then some (tokenListed token) else none)
        dump := fun _ => "" } }

theorem tokenOnly_sorted (token : String) : (tokenOnly token).Sorted := by
  refine .obj (List.pairwise_singleton _ _) fun k v hv => ?_
  obtain ⟨-, rfl⟩ := Prod.mk.inj (List.mem_singleton.mp (Json.findMember_mem hv))
  exact .other rfl

theorem token_hidden :
    maskConfig tokenDeps (tokenText "a") = maskConfig tokenDeps (tokenText "b") ∧
      (∀ r : WeatherStationRow, weatherStationJson tokenDeps { r with config := tokenText "a" }
        = weatherStationJson tokenDeps { r with config := tokenText "b" }) ∧
      ∀ r : ExportTargetRow, exportTargetJson tokenDeps { r with config := tokenText "a" }
        = exportTargetJson tokenDeps { r with config := tokenText "b" } := by
  have hblot : ∀ token, token ≠ "" → blot (tokenOnly token) = tokenOnly "***" := by
    intro token hgiven
    have hkey : isSecretKey "token" = true := by decide +kernel
    simp [tokenOnly, blot, blotMembers, hkey, hgiven]
  refine (views_alike_iff (c := tokenOnly "a") (by decide) (by decide) rfl rfl rfl rfl
      (tokenOnly_sorted _)
    (tokenOnly_sorted "b") ((hblot "a" (by decide)).trans (hblot "b" (by decide)).symm)).mpr ?_
  -- there is no array
  rintro (_ | ⟨k, ks⟩) es hp
  · cases hp
  · obtain ⟨ms, v, hobj, hv, hrest⟩ := Json.at?_cons_obj hp
    obtain rfl := Json.obj.inj hobj
    obtain ⟨-, rfl⟩ := Prod.mk.inj (List.mem_singleton.mp (Json.findMember_mem hv))
    cases ks with
    | nil => cases hrest
    | cons k' ks =>
      obtain ⟨vs, hvs⟩ := Json.at?_isObject hrest
      cases hvs

/-- A secret in an array of objects is shown. -/
theorem listed_token_shown :
    tokenDeps.json.parse (listedText "a") = some (tokenListed "a") ∧
      tokenDeps.json.parse (listedText "b") = some (tokenListed "b") ∧
      blot (tokenListed "a") = blot (tokenListed "b") ∧
      maskConfig tokenDeps (listedText "a") ≠ maskConfig tokenDeps (listedText "b") := by
  have hblot : ∀ token, token ≠ "" → blot (tokenListed token) = tokenListed "***" := by
    intro token hgiven
    have hkey : isSecretKey "token" = true := by decide +kernel
    simp [tokenListed, tokenOnly, blot, blotMembers, blotElems, hkey, hgiven]
  refine ⟨rfl, rfl, (hblot "a" (by decide)).trans (hblot "b" (by decide)).symm, fun h => ?_⟩
  have hshown : tokenListed "a" = tokenListed "b" := h
  simp [tokenListed, tokenOnly] at hshown

end Api

end NightWatcher
