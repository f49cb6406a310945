import Mathlib.Data.List.Induction
import Mathlib.Data.Rat.Defs
import Mathlib.Data.Rat.Floor
import Mathlib.Data.String.Basic

/-!
# JSON values as the vendored library handles them

The value model of `nlohmann::json` as far as the daemon uses it: the kinds of
values, member access, and the typed getters with the messages they throw. An
object is kept as the library's `std::map` keeps it, by ascending keys, each key
once (`setMember`). Floating-point numbers are exact rationals.

Text and values are connected by `JsonText`, the parser and the printer of the
library; they are parameters of everything above.
-/

namespace NightWatcher

inductive Json where
  | null
  | bool (b : Bool)
  /-- `number_integer` and `number_unsigned` -/
  | int (i : Int)
  /-- `number_float` -/
  | dbl (q : ℚ)
  | str (s : String)
  | arr (elems : List Json)
  | obj (members : List (String × Json))

/-- `json::parse` (`none`: it throws) and `dump`. -/
structure JsonText where
  parse : String → Option Json
  dump : Json → String

namespace Json

/-! ## Objects -/

/-- `operator[](key) = v` on a map kept by ascending keys. -/
def setMember (k : String) (v : Json) : List (String × Json) → List (String × Json)
  | [] => [(k, v)]
  | (k', v') :: rest =>
    if k = k' then (k, v) :: rest
    else if k < k' then (k, v) :: (k', v') :: rest
    else (k', v') :: setMember k v rest

def findMember (k : String) : List (String × Json) → Option Json
  | [] => none
  | (k', v) :: rest => if k = k' then some v else findMember k rest

/-- An object written as an initializer list. -/
def ofMembers (ms : List (String × Json)) : Json :=
  .obj (ms.foldl (fun acc m => setMember m.1 m.2 acc) [])

/-- The member `k`, for anything that is not an object none. -/
def member? (j : Json) (k : String) : Option Json :=
  match j with
  | .obj ms => findMember k ms
  | _ => none

def contains (j : Json) (k : String) : Bool := (j.member? k).isSome

/-- The members of an object, none of anything else. -/
def members : Json → List (String × Json)
  | .obj ms => ms
  | _ => []

/-- A member that is present and not null: the guard the request parsers use. -/
def given? (j : Json) (k : String) : Option Json :=
  match j.member? k with
  | some .null => none
  | m => m

@[simp] theorem findMember_setMember_self (k : String) (v : Json) (ms : List (String × Json)) :
    findMember k (setMember k v ms) = some v := by
  induction ms with
  | nil => simp [setMember, findMember]
  | cons m rest ih =>
    unfold setMember
    split
    next => simp [findMember]
    next hne =>
      split
      next => simp [findMember]
      next => simp [findMember, hne, ih]

theorem findMember_setMember_ne {k k' : String} (h : k' ≠ k) (v : Json)
    (ms : List (String × Json)) : findMember k' (setMember k v ms) = findMember k' ms := by
  induction ms with
  | nil => simp [setMember, findMember, h]
  | cons m rest ih =>
    obtain ⟨k₂, v₂⟩ := m
    unfold setMember
    split
    next heq => subst heq; simp [findMember, h]
    next =>
      split
      next => simp [findMember, h]
      next => simp [findMember, ih]

/-- Of several members of one name the last one counts. -/
theorem member?_ofMembers (ms : List (String × Json)) (k : String) :
    (ofMembers ms).member? k = (ms.reverse.find? fun m => k = m.1).map Prod.snd := by
  show findMember k (ms.foldl (fun acc m => setMember m.1 m.2 acc) []) = _
  induction ms using List.reverseRecOn with
  | nil => rfl
  | append_singleton ms m ih =>
    rw [List.foldl_append, List.reverse_append, List.reverse_singleton, List.singleton_append,
      List.find?_cons]
    show findMember k (setMember m.1 m.2 _) = _
    by_cases h : k = m.1
    · rw [h, findMember_setMember_self]
      simp
    · rw [findMember_setMember_ne h, ih]
      simp [h]

/-! ## Typed access -/

def typeName : Json → String
  | .null => "null"
  | .bool _ => "boolean"
  | .int _ => "number"
  | .dbl _ => "number"
  | .str _ => "string"
  | .arr _ => "array"
  | .obj _ => "object"

def typeError (want : String) (j : Json) : String :=
  "[json.exception.type_error.302] type must be " ++ want ++ ", but is " ++ j.typeName

def isNumber : Json → Bool
  | .int _ => true
  | .dbl _ => true
  | _ => false

def isObject : Json → Bool
  | .obj _ => true
  | _ => false

/-- `static_cast<int>` of a 64-bit integer. -/
def toInt32 (i : Int) : Int := Int.bmod i (2 ^ 32)

def getString : Json → Except String String
  | .str s => .ok s
  | j => .error (typeError "string" j)

/-- `static_cast<int>` of a double: cut toward zero. A value that does not fit is `INT_MIN`, which
is what the conversion of x86-64 gives for it. -/
def truncInt32 (q : ℚ) : Int :=
  let i := if 0 ≤ q then ⌊q⌋ else ⌈q⌉
  if -2 ^ 31 ≤ i ∧ i < 2 ^ 31 then i else -2 ^ 31

/-- `get<int>()`: any number, cut to an `int`, and booleans. -/
def getInt : Json → Except String Int
  | .int i => .ok (toInt32 i)
  | .dbl q => .ok (truncInt32 q)
  | .bool b => .ok (if b then 1 else 0)
  | j => .error (typeError "number" j)

/-- `get<double>()`: any number, no booleans. -/
def getDouble : Json → Except String ℚ
  | .int i => .ok i
  | .dbl q => .ok q
  | j => .error (typeError "number" j)

def getBool : Json → Except String Bool
  | .bool b => .ok b
  | j => .error (typeError "boolean" j)

/-- `j.value(key, default)`: the default only when the member is missing. -/
def valueOr {α : Type} (j : Json) (k : String) (get : Json → Except String α) (dflt : α) :
    Except String α :=
  match j with
  | .obj ms =>
    match findMember k ms with
    | some v => get v
    | none => .ok dflt
  | j => .error ("[json.exception.type_error.306] cannot use value() with " ++ j.typeName)

/-- A field of a request body, unset when the member is missing or null. -/
def optional {α : Type} (j : Json) (k : String) (get : Json → Except String α) :
    Except String (Option α) :=
  match j.given? k with
  | some v => (get v).map some
  | none => .ok none

end Json

end NightWatcher
