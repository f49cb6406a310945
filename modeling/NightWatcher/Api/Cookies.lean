import NightWatcher.Api.Http
import NightWatcher.Lib.Pieces

/-!
# The cookies of a request

A `Cookie` header is a list of elements between semicolons, each a name and a value around its
first `=`. `get_cookie` does not cut it into elements: its cursor goes from one `=` to the next, so
an element without one is taken for the beginning of the name behind it, and this name is missed
(`Seen`). The two agree unless that is where the cookie first stands (`get_cookie_iff`).
-/

namespace NightWatcher.Api

def blankOrTab (c : Char) : Bool := c = ' ' ∨ c = '\t'

/-- A name that can be looked for. -/
def CookieName (name : List Char) : Prop := ∀ c ∈ name, c ≠ '=' ∧ c ≠ ';' ∧ blankOrTab c = false

/-! ## The header by its elements -/

/-- The value of an element of that name. -/
def elementValue (name element : List Char) : Option (List Char) :=
  if '=' ∈ element ∧ (element.takeWhile (· ≠ '=')).dropWhile blankOrTab = name then
    some (element.dropWhile (· ≠ '=')).tail
  else none

def firstValue (name : List Char) (elements : List (List Char)) : List Char :=
  (elements.findSome? (elementValue name)).getD []

/-- The cookie as the header is meant to be read. -/
def standardCookie (name header : List Char) : List Char := firstValue name (header.splitOn ';')

/-- The elements with a name that the cursor finds at their beginning: `found` says whether it
stands there. -/
def seen : Bool → List (List Char) → List (List Char)
  | _, [] => []
  | found, e :: rest =>
    if '=' ∈ e then if found then e :: seen true rest else seen true rest
    else seen false rest

/-! ## The cursor -/

theorem cookieValue_no_eq (name : List Char) {cs : List Char} (h : '=' ∉ cs) :
    cookieValue name cs = [] := by
  have hall : ∀ c ∈ cs, decide (c ≠ '=') = true := fun c hc => decide_eq_true fun heq => h (heq ▸ hc)
  rw [cookieValue]
  split
  next => rfl
  next hdrop =>
    rw [List.dropWhile_eq_nil_iff.mpr hall] at hdrop
    cases hdrop

/-- One turn of the loop. -/
theorem cookieValue_eq (name : List Char) {key : List Char} (hkey : '=' ∉ key) (rest : List Char) :
    cookieValue name (key ++ '=' :: rest) =
      if key.dropWhile blankOrTab = name then rest.takeWhile (· ≠ ';')
      else
        match rest.dropWhile (· ≠ ';') with
        | [] => []
        | _ :: more => cookieValue name more := by
  have hbefore : ∀ c ∈ key, decide (c ≠ '=') = true := fun c hc =>
    decide_eq_true fun heq => hkey (heq ▸ hc)
  have htake : (key ++ '=' :: rest).takeWhile (· ≠ '=') = key := by
    rw [List.takeWhile_append_of_pos hbefore, List.takeWhile_cons_of_neg (by decide), List.append_nil]
  have hdrop : (key ++ '=' :: rest).dropWhile (· ≠ '=') = '=' :: rest := by
    rw [List.dropWhile_append_of_pos hbefore, List.dropWhile_cons_of_neg (by decide)]
  rw [cookieValue, htake]
  split
  next hnil =>
    rw [hdrop] at hnil
    cases hnil
  next behind hcs =>
    rw [hdrop] at hcs
    injection hcs with _ hbehind
    subst hbehind
    show (if key.dropWhile blankOrTab = name then _ else _) = _
    by_cases hname : key.dropWhile blankOrTab = name
    · rw [if_pos hname, if_pos hname]
    · rw [if_neg hname, if_neg hname]
      split
      next hnil => rw [hnil]
      next hmore => rw [hmore]

theorem elementValue_eq (name : List Char) {key : List Char} (hkey : '=' ∉ key) (value : List Char) :
    elementValue name (key ++ '=' :: value) =
      if key.dropWhile blankOrTab = name then some value else none := by
  have hbefore : ∀ c ∈ key, decide (c ≠ '=') = true := fun c hc =>
    decide_eq_true fun heq => hkey (heq ▸ hc)
  have hmem : '=' ∈ key ++ '=' :: value := List.mem_append_right _ List.mem_cons_self
  unfold elementValue
  rw [List.takeWhile_append_of_pos hbefore, List.takeWhile_cons_of_neg (by decide), List.append_nil,
    List.dropWhile_append_of_pos hbefore, List.dropWhile_cons_of_neg (by decide), List.tail_cons]
  by_cases hname : key.dropWhile blankOrTab = name
  · rw [if_pos ⟨hmem, hname⟩, if_pos hname]
  · rw [if_neg fun h => hname h.2, if_neg hname]

/-- A name with a semicolon in front of it is not the one that is looked for. -/
theorem key_ne_name {name front key : List Char} (hname : CookieName name) (hfront : ';' ∈ front) :
    (front ++ key).dropWhile blankOrTab ≠ name := by
  intro heq
  have hmem : ';' ∈ (front ++ key).dropWhile blankOrTab := by
    have hsplit := List.takeWhile_append_dropWhile (p := blankOrTab) (l := front ++ key)
    have hin : ';' ∈ front ++ key := List.mem_append_left _ hfront
    rw [← hsplit] at hin
    rcases List.mem_append.mp hin with h | h
    · exact absurd (List.mem_takeWhile_imp h) (by decide)
    · exact h
  rw [heq] at hmem
  exact (hname ';' hmem).2.1 rfl

/-- The loop, with what the cursor has passed without finding an `=`. -/
theorem cookieValue_front {name : List Char} (hname : CookieName name) {elements : List (List Char)}
    (helements : ∀ e ∈ elements, ';' ∉ e) {front : List Char} (hfront : '=' ∉ front)
    (hsemi : front ≠ [] → ';' ∈ front) :
    cookieValue name (front ++ [';'].intercalate elements) =
      firstValue name (seen (decide (front = [])) elements) := by
  -- on the elements; `front` is what has been passed over since the last name was read
  induction elements generalizing front with
  | nil => rw [cookieValue_no_eq name (by simpa using hfront)]; rfl
  | cons e rest ih =>
    have he := helements e List.mem_cons_self
    have hrest := @ih fun x hx => helements x (List.mem_cons_of_mem e hx)
    by_cases heq : '=' ∈ e
    · -- the name reaches from the cursor to the `=` of this element
      obtain ⟨key, value, rfl, hkey⟩ := List.eq_append_cons_of_mem heq
      have hvalue : ∀ c ∈ value, decide (c ≠ ';') = true := fun c hc => decide_eq_true fun h =>
        he (h ▸ List.mem_append_right _ (List.mem_cons_of_mem _ hc))
      have hkey' : '=' ∉ front ++ key := by
        rw [List.mem_append]
        exact not_or.mpr ⟨hfront, hkey⟩
      have hbehind := @hrest [] List.not_mem_nil fun h => absurd rfl h
      obtain ⟨tail, htext, htake, hdrop, hmore⟩ : ∃ tail,
          [';'].intercalate ((key ++ '=' :: value) :: rest) = (key ++ '=' :: value) ++ tail ∧
          (value ++ tail).takeWhile (· ≠ ';') = value ∧ (value ++ tail).dropWhile (· ≠ ';') = tail ∧
          (match tail with
          | [] => []
          | _ :: more => cookieValue name more) = firstValue name (seen true rest) := by
        cases rest with
        | nil =>
          refine ⟨[], by rw [List.intercalate_singleton, List.append_nil], ?_, ?_, rfl⟩
          · rw [List.append_nil, List.takeWhile_eq_self_iff.mpr hvalue]
          · rw [List.append_nil, List.dropWhile_eq_nil_iff.mpr hvalue]
        | cons next rest =>
          refine ⟨';' :: [';'].intercalate (next :: rest), ?_, ?_, ?_, hbehind⟩
          · rw [List.intercalate_cons_cons, List.append_assoc]
            rfl
          · rw [List.takeWhile_append_of_pos hvalue, List.takeWhile_cons_of_neg (by decide),
              List.append_nil]
          · rw [List.dropWhile_append_of_pos hvalue, List.dropWhile_cons_of_neg (by decide)]
      have hassoc : front ++ ((key ++ '=' :: value) ++ tail) =
          (front ++ key) ++ '=' :: (value ++ tail) := by
        simp only [List.append_assoc, List.cons_append]
      rw [htext, hassoc, cookieValue_eq name hkey', htake, hdrop, hmore, seen, if_pos heq]
      -- with something passed over the name is not that of the element
      by_cases hempty : front = []
      · rw [hempty, List.nil_append, if_pos (decide_eq_true rfl)]
        unfold firstValue
        rw [List.findSome?_cons, elementValue_eq name hkey]
        by_cases hmatch : key.dropWhile blankOrTab = name
        · rw [if_pos hmatch, if_pos hmatch]
          rfl
        · rw [if_neg hmatch, if_neg hmatch]
      · rw [if_neg (key_ne_name hname (hsemi hempty)), if_neg (by simpa using hempty)]
    -- an element without `=` is passed over
    · rw [seen, if_neg heq]
      cases rest with
      | nil =>
        have hnone : '=' ∉ front ++ e := by
          rw [List.mem_append]
          exact not_or.mpr ⟨hfront, heq⟩
        rw [List.intercalate_singleton, cookieValue_no_eq name hnone]
        rfl
      | cons next rest =>
        have hfront' : '=' ∉ front ++ e ++ [';'] := by
          simp [hfront, heq]
        have hnext := hrest hfront' fun _ => List.mem_append_right _ (List.mem_singleton_self _)
        rw [decide_eq_false (by simp)] at hnext
        rw [List.intercalate_cons_cons, ← hnext]
        simp only [List.append_assoc]

/-! ## Where the two agree -/

/-- The cursor finds the first element of a name, or one behind it with the same value: the first
of that name stands first in the header or behind an element with an `=`, or the next one the
cursor finds (a missing one counts as empty) has its value. -/
def FoundByCursor (name header : List Char) : Prop :=
  ∀ front e behind value, header.splitOn ';' = front ++ e :: behind →
    (∀ x ∈ front, elementValue name x = none) → elementValue name e = some value →
    (∀ x ∈ front.getLast?, '=' ∈ x) ∨ firstValue name (seen true behind) = value

theorem cookieValue_seen {name : List Char} (hname : CookieName name) (header : List Char) :
    cookieValue name header = firstValue name (seen true (header.splitOn ';')) := by
  have hpieces : ∀ e ∈ header.splitOn ';', ';' ∉ e := fun e he => Pieces.not_mem_piece he
  have hloop := @cookieValue_front name hname _ hpieces [] List.not_mem_nil fun h => absurd rfl h
  rw [List.nil_append, List.intercalate_splitOn] at hloop
  exact hloop

/-- Elements of another name, then an element that the cursor finds if the one in front of it has
an `=`. -/
theorem seen_append (name : List Char) {front : List (List Char)}
    (hfront : ∀ x ∈ front, elementValue name x = none) (found : Bool) (rest : List (List Char)) :
    (seen found (front ++ rest)).findSome? (elementValue name) =
      (seen (front.getLast?.elim found fun x => decide ('=' ∈ x)) rest).findSome?
        (elementValue name) := by
  induction front generalizing found with
  | nil => rfl
  | cons x front ih =>
    have hx := hfront x List.mem_cons_self
    have hrest := ih fun y hy => hfront y (List.mem_cons_of_mem x hy)
    have hlast : ∀ b : Bool, (x :: front).getLast?.elim b (fun x => decide ('=' ∈ x)) =
        front.getLast?.elim (decide ('=' ∈ x)) fun x => decide ('=' ∈ x) := by
      intro b
      cases front with
      | nil => rfl
      | cons y front => rw [List.getLast?_cons_cons]; rfl
    rw [List.cons_append, seen, hlast]
    by_cases heq : '=' ∈ x
    · rw [if_pos heq, decide_eq_true heq, ← hrest]
      cases found with
      | true => rw [if_pos rfl, List.findSome?_cons, hx]
      | false => rw [if_neg Bool.false_ne_true]
    · rw [if_neg heq, decide_eq_false heq, ← hrest]

theorem mem_seen {found : Bool} {elements : List (List Char)} {e : List Char}
    (h : e ∈ seen found elements) : e ∈ elements := by
  induction elements generalizing found with
  | nil => exact h
  | cons x rest ih =>
    rw [seen] at h
    split at h
    · split at h
      · rcases List.mem_cons.mp h with heq | h
        · exact heq ▸ List.mem_cons_self
        · exact List.mem_cons_of_mem x (ih h)
      · exact List.mem_cons_of_mem x (ih h)
    · exact List.mem_cons_of_mem x (ih h)

section First

variable {name : List Char} {front behind : List (List Char)} {e value : List Char}
  (hfront : ∀ x ∈ front, elementValue name x = none) (he : elementValue name e = some value)
include hfront he

/-- What is meant, by the first element of the name. -/
theorem firstValue_split : firstValue name (front ++ e :: behind) = value := by
  have hfind : (front ++ e :: behind).findSome? (elementValue name) = some value :=
    List.findSome?_eq_some_iff.mpr ⟨front, e, behind, rfl, he, hfront⟩
  unfold firstValue
  rw [hfind]
  rfl

/-- What the cursor finds. -/
theorem firstValue_seen_split : firstValue name (seen true (front ++ e :: behind)) =
    if ∀ x ∈ front.getLast?, '=' ∈ x then value else firstValue name (seen true behind) := by
  have heq : '=' ∈ e := by
    by_contra hnot
    unfold elementValue at he
    rw [if_neg fun h => hnot h.1] at he
    cases he
  unfold firstValue
  rw [seen_append name hfront]
  by_cases hlast : ∀ x ∈ front.getLast?, '=' ∈ x
  · have hflag : front.getLast?.elim true (fun x => decide ('=' ∈ x)) = true := by
      cases hx : front.getLast? with
      | none => rfl
      | some x => exact decide_eq_true (hlast x hx)
    rw [hflag, seen, if_pos heq, if_pos rfl, if_pos hlast, List.findSome?_cons, he]
    rfl
  · have hflag : front.getLast?.elim true (fun x => decide ('=' ∈ x)) = false := by
      cases hx : front.getLast? with
      | none => exact absurd (fun x h => by rw [hx] at h; cases h) hlast
      | some x =>
        refine decide_eq_false fun hmem => hlast fun y hy => ?_
        rw [hx] at hy
        exact Option.some.inj hy ▸ hmem
    rw [hflag, seen, if_pos heq, if_neg Bool.false_ne_true, if_neg hlast]

end First

/-- Of the header the loop finds what is meant exactly if the cursor comes upon it. -/
theorem get_cookie_iff {name : String} (hname : CookieName name.toList) (req : Request) :
    (getCookie req name).toList = standardCookie name.toList (req.header "Cookie").toList ↔
      FoundByCursor name.toList (req.header "Cookie").toList := by
  unfold getCookie standardCookie
  rw [String.toList_ofList, cookieValue_seen hname]
  constructor
  · intro h front e behind value hsplit hfront he
    rw [hsplit, firstValue_split hfront he, firstValue_seen_split hfront he] at h
    by_cases hlast : ∀ x ∈ front.getLast?, '=' ∈ x
    · exact Or.inl hlast
    · rw [if_neg hlast] at h
      exact Or.inr h
  · intro h
    unfold FoundByCursor at h
    generalize (req.header "Cookie").toList.splitOn ';' = elements at h ⊢
    cases hfind : elements.findSome? (elementValue name.toList) with
    | none =>
      have hnone : ∀ x ∈ elements, elementValue name.toList x = none :=
        List.findSome?_eq_none_iff.mp hfind
      unfold firstValue
      rw [hfind, List.findSome?_eq_none_iff.mpr fun x hx => hnone x (mem_seen hx)]
    | some value =>
      obtain ⟨front, e, behind, rfl, he, hfront⟩ := List.findSome?_eq_some_iff.mp hfind
      rw [firstValue_split hfront he, firstValue_seen_split hfront he]
      rcases h front e behind value rfl hfront he with hlast | hlater
      · rw [if_pos hlast]
      · rw [hlater, ite_self]

/-- A request with cookies. -/
def withCookie (header : String) : Request where
  method := .get
  path := "/api/v1/me"
  headers := [("Cookie", header)]

theorem withCookie_header (header : String) : (withCookie header).header "Cookie" = header := by
  simp [Request.header, withCookie]

theorem cookieName_session : CookieName "nw_session".toList := by
  unfold CookieName
  simp [blankOrTab]

/-- Behind another cookie the session is found. -/
theorem session_found :
    (getCookie (withCookie "theme=dark; nw_session=ab12") "nw_session").toList =
      standardCookie "nw_session".toList
        ((withCookie "theme=dark; nw_session=ab12").header "Cookie").toList := by
  refine (get_cookie_iff cookieName_session _).mpr ?_
  rw [withCookie_header]
  intro front e behind value hsplit _ _
  -- every element has a value
  have hall : ("theme=dark; nw_session=ab12".toList.splitOn ';').all (fun x => decide ('=' ∈ x)) =
      true := by
    decide
  refine Or.inl fun x hx => of_decide_eq_true (List.all_eq_true.mp hall x ?_)
  rw [hsplit]
  exact List.mem_append_left _ (List.mem_of_getLast? hx)

/-- Behind an element without a value it is not. -/
theorem session_missed :
    (getCookie (withCookie "consent; nw_session=ab12") "nw_session").toList ≠
      standardCookie "nw_session".toList
        ((withCookie "consent; nw_session=ab12").header "Cookie").toList := by
  unfold getCookie
  rw [String.toList_ofList, cookieValue_seen cookieName_session, withCookie_header]
  decide

end NightWatcher.Api
