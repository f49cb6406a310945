import NightWatcher.Api.Http
import NightWatcher.Db.Database

/-!
# Who may do what: `require_auth`, sessions and users

The static token of the configuration acts as an administrator. Any other
request is known by the session it presents, cookie before `Authorization`
header; a session is looked up on every request, and when that fails the request
counts as not logged in.
-/

namespace NightWatcher.Api

open Database

variable (d : Deps) (cfg : ApiConfig)

/-- The request carries the configured API token. -/
def presentsToken (req : Request) : Bool :=
  let h := req.header "Authorization"
  cfg.token ≠ "" ∧ (h = cfg.token ∨ h = "Bearer " ++ cfg.token)

/-- The user of a session, none where the lookup fails. -/
def sessionInfo (sess : String) : Act (Option SessionInfo) :=
  if sess = "" then pure none
  else
    tryCatch (do
      ask connect
      ask (validateSession d.server sess)) fun _ => pure none

/-- `none` lets the request pass; otherwise the refusal. -/
def requireAuth (req : Request) (needAdmin : Bool) : Act (Option Response) := do
  if presentsToken cfg req then
    return none
  match ← sessionInfo d (sessionToken req) with
  | some si =>
    if needAdmin ∧ si.role ≠ .admin then return some (sendErr 403 "admin role required")
    else return none
  | none => return some (sendErr 401 "unauthorized")

/-- A handler behind `require_auth(…, true)`. -/
def adminOnly (req : Request) (k : Act Response) : Act Response := do
  match ← requireAuth d cfg req true with
  | some refusal => return refusal
  | none => k

/-- The caller's name for audit columns. -/
def authUser (req : Request) : Act String := do
  if presentsToken cfg req then
    return "api-token"
  return ((← sessionInfo d (sessionToken req)).map SessionInfo.username).getD ""

/-! ## Signing in and out -/

/-- `random_hex(32)` -/
def newSessionToken : Act String := do
  return d.randomHex (← draw) 32

def sessionTtl : Int := 7 * 24 * 3600

/-- A new password's hash, with a salt of its own. -/
def newHash (password : String) : Act String := do
  return d.hashPassword (← draw) password

/-- `POST /login` -/
def login (req : Request) : Act Response := withBody d req fun body => do
  if !body.contains "username" || !body.contains "password" then
    return sendErr 400 "username and password required"
  orError 500 do
    ask connect
    let username ← getMember body "username" Json.getString
    match ← ask (findUser d.server username) with
    | none => return sendErr 401 "invalid credentials"
    | some u =>
      let password ← getMember body "password" Json.getString
      if !(← liftExcept (d.verifyPassword password u.passwordHash)) then
        return sendErr 401 "invalid credentials"
      let sess ← newSessionToken d
      createSession d.server sess u.id sessionTtl
      let res := send 200 (Json.ofMembers [("token", .str sess),
        ("user", Json.ofMembers [("username", .str u.username),
          ("role", .str (SqlEnum.text u.role))]),
        ("must_change_password", .bool u.mustChangePassword)])
      return { res with headers := [("Set-Cookie", "nw_session=" ++ sess
        ++ "; HttpOnly; SameSite=Strict; Path=/; Max-Age=" ++ toString sessionTtl)] }

/-- `POST /logout` -/
def logout (req : Request) : Act Response := do
  let sess := sessionToken req
  tryCatch (do
    if sess ≠ "" then
      ask connect
      deleteSession d.server sess) fun _ => pure ()
  let res := send 200 (Json.ofMembers [("ok", .bool true)])
  return { res with
    headers := [("Set-Cookie", "nw_session=; HttpOnly; SameSite=Strict; Path=/; Max-Age=0")] }

/-- `GET /me` -/
def me (req : Request) : Act Response := do
  if presentsToken cfg req then
    return send 200 (Json.ofMembers [("username", .str "(token)"), ("role", .str "admin"),
      ("via", .str "token")])
  match ← sessionInfo d (sessionToken req) with
  | some si =>
    return send 200 (Json.ofMembers [("username", .str si.username),
      ("role", .str (SqlEnum.text si.role)), ("via", .str "session")])
  | none => return sendErr 401 "not logged in"

/-- `POST /me/password` -/
def mePassword (req : Request) : Act Response := withBody d req fun body => do
  if !body.contains "current_password" || !body.contains "new_password" then
    return sendErr 400 "current_password and new_password required"
  let sess := sessionToken req
  orError 500 do
    ask connect
    let si ← if sess = "" then pure none else ask (validateSession d.server sess)
    match si with
    | none => return sendErr 401 "not logged in"
    | some si =>
      match ← ask (findUser d.server si.username) with
      | none => return sendErr 403 "current password is incorrect"
      | some u =>
        let current ← getMember body "current_password" Json.getString
        if !(← liftExcept (d.verifyPassword current u.passwordHash)) then
          return sendErr 403 "current password is incorrect"
        let hash ← newHash d (← getMember body "new_password" Json.getString)
        let _ ← setUserPassword d.server si.username hash false
        return send 200 (Json.ofMembers [("ok", .bool true)])

/-! ## Users -/

def userJson (u : UserRow) : Json :=
  Json.ofMembers [("id", .int u.id), ("username", .str u.username),
    ("role", .str (SqlEnum.text u.role)), ("must_change_password", .bool u.mustChangePassword),
    ("created_at", .str u.createdAt)]

/-- `GET /users` -/
def listUsers (req : Request) : Act Response := adminOnly d cfg req <| orError 500 do
  ask connect
  return send 200 (.arr ((← ask (users d.server)).map userJson))

/-- `POST /users` -/
def postUser (req : Request) : Act Response := adminOnly d cfg req <| withBody d req fun body => do
  if !body.contains "username" || !body.contains "password" then
    return sendErr 400 "username and password required"
  let role ←
    if body.contains "role" then getMember body "role" Json.getString else pure "viewer"
  orError 500 do
    ask connect
    let uname ← getMember body "username" Json.getString
    if (← ask (findUser d.server uname)).isSome then
      return sendErr 409 "user already exists"
    let hash ← newHash d (← getMember body "password" Json.getString)
    createUser d.server uname hash role false
    return send 201 (Json.ofMembers [("username", .str uname), ("role", .str role)])

/-- `DELETE /users/{name}` -/
def deleteUserNamed (req : Request) (uname : String) : Act Response :=
  adminOnly d cfg req <| orError 500 do
    ask connect
    match ← ask (findUser d.server uname) with
    | none => return sendErr 404 "no such user"
    | some u =>
      if u.role = .admin then
        let admins := (← ask (users d.server)).filter fun x => x.role = .admin
        if admins.length ≤ 1 then
          return sendErr 409 "cannot delete the last admin"
      let _ ← deleteUser d.server uname
      return send 200 (Json.ofMembers [("deleted", .str uname)])

end NightWatcher.Api
