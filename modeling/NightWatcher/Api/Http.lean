import NightWatcher.Lib.TextLines
import NightWatcher.World

/-!
# Requests and responses

A request is what the HTTP library hands to a handler: the method, the target as
it was sent, the path decoded from it, the parameters (of the query and of a
form body), the headers and the body. A response is its status, its content and
the headers a handler adds.

`ApiConfig` is what `HttpServer` is started with. The web root is the files in
it; `schemaText` is the schema file's text if the file opens.
-/

namespace NightWatcher.Api

open TextLines

/-- The methods the library takes; `other` is CONNECT, TRACE or PRI, which it never routes. -/
inductive Method where
  | get | head | post | put | patch | delete | options | other
deriving DecidableEq

/-- What a handler sees of the request; `params` are those of the query, decoded. -/
structure Request where
  method : Method
  target : String := ""
  path : String
  params : List (String × String) := []
  headers : List (String × String) := []
  body : String := ""

/-- What a response carries. -/
inductive Content where
  | none
  | json (j : Json)
  | text (contentType body : String)

/-- What a handler leaves in `httplib::Response`. -/
structure Response where
  status : Nat
  content : Content := .none
  headers : List (String × String) := []

/-- What the server is started with: the `[api]` section and the hooks of the daemon. -/
structure ApiConfig where
  token : String := ""
  requireAuthReads : Bool := false
  schemaFile : String := ""
  schemaText : Option String := none
  webRoot : String → Option String := fun _ => none
  bind : String := "127.0.0.1"
  port : Int := 8080
  runTls : Bool := false
  /-- hooks that are set -/
  onApply : Bool := true
  onReload : Bool := true

/-! ## Headers and parameters -/

/-- Header names are compared without regard to case; of several the first counts. -/
def Request.header (req : Request) (name : String) : String :=
  ((req.headers.find? fun h => h.1.toLower = name.toLower).map Prod.snd).getD ""

/-- `has_param`. -/
def Request.hasParam (req : Request) (name : String) : Bool := req.params.any fun p => p.1 = name

/-- `get_param_value`: the first of the name, the empty text where there is none. -/
def Request.param (req : Request) (name : String) : String :=
  ((req.params.find? fun p => p.1 = name).map Prod.snd).getD ""

/-- The parameter, or the default where it is not given. -/
def Request.paramOr (req : Request) (name dflt : String) : String :=
  if req.hasParam name then req.param name else dflt

/-- `strtol`: a number that does not fit a `long` is the nearest one that does. -/
def strtol (s : String) : Int :=
  let i := ((DecimalText.scanInt s.toList).map Prod.fst).getD 0
  max (-2 ^ 63) (min i (2 ^ 63 - 1))

/-- `std::atoi`: `strtol` cut to an `int`; 0 where there is no number. -/
def atoi (s : String) : Int := Json.toInt32 (strtol s)

/-- The parameter through `atoi`, or the default where it is not given. -/
def Request.limitOr (req : Request) (dflt : Int) : Int :=
  if req.hasParam "limit" then atoi (req.param "limit") else dflt

/-! ## The session a request presents -/

/-- The value of the first `name=value` in a `Cookie` header. -/
def cookieValue (name : List Char) (cs : List Char) : List Char :=
  let key := cs.takeWhile (· ≠ '=')
  match _hcs : cs.dropWhile (· ≠ '=') with
  | [] => []
  | _ :: rest =>
    if key.dropWhile (fun c => c = ' ' ∨ c = '\t') = name then rest.takeWhile (· ≠ ';')
    else
      match _hrest : rest.dropWhile (· ≠ ';') with
      | [] => []
      | _ :: more => cookieValue name more
termination_by cs.length
decreasing_by
  have hkey := (List.dropWhile_suffix (l := cs) fun c => decide (c ≠ '=')).length_le
  have hvalue := (List.dropWhile_suffix (l := rest) fun c => decide (c ≠ ';')).length_le
  rw [_hcs, List.length_cons] at hkey
  rw [_hrest, List.length_cons] at hvalue
  omega

/-- An empty header has no cookie. -/
@[simp] theorem cookieValue_nil (name : List Char) : cookieValue name [] = [] := by
  rw [cookieValue]
  simp

/-- `get_cookie` on the header `Cookie`. -/
def getCookie (req : Request) (name : String) : String :=
  String.ofList (cookieValue name.toList (req.header "Cookie").toList)

/-- What follows `Bearer ` in a header value, if it starts so. -/
def bearer (h : String) : Option String :=
  if "Bearer ".toList <+: h.toList then some (String.ofList (h.toList.drop 7)) else none

/-- The session token of the `nw_session` cookie or of the `Authorization` header. -/
def sessionToken (req : Request) : String :=
  let sess := getCookie req "nw_session"
  if sess = "" then (bearer (req.header "Authorization")).getD sess else sess

/-! ## Responses -/

/-- `send`: the status and the body as JSON. -/
def send (status : Nat) (body : Json) : Response := { status, content := .json body }

/-- `send_err`: the status and an object with the message under `error`. -/
def sendErr (status : Nat) (msg : String) : Response :=
  send status (Json.ofMembers [("error", .str msg)])

/-- A handler's `try`: what is thrown becomes an error response. -/
def orError (status : Nat) (x : Act Response) : Act Response :=
  tryCatch x fun e => pure (sendErr status e)

/-- `json::parse(req.body)`, refused with 400. -/
def withBody (d : Deps) (req : Request) (k : Json → Act Response) : Act Response :=
  match d.json.parse req.body with
  | none => pure (sendErr 400 "invalid JSON")
  | some body => k body

/-- `body[key].get<T>()` of a member that is there; on a missing one of a null. -/
def getMember {α : Type} (body : Json) (key : String) (get : Json → Except String α) : Act α :=
  liftExcept (get ((body.member? key).getD .null))

end NightWatcher.Api
