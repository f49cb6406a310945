import NightWatcher.Cli.GdriveAuth
import NightWatcher.Export.Gdrive
import NightWatcher.Lib.Base64
import NightWatcher.Lib.Multipart

/-!
# What the Drive client sends

Before an upload the client posts a form to the token endpoint (`tokenRequest`), for a service
account with a token in it that it signed (`makeServiceAccountJwt`). The endpoint reads what the
config says (`token_request_granted`). A new file goes out with its name and folder as a body of
two parts (`createBody`), between delimiters that are the same for every file. It is read back if
and only if no line of the file begins like a delimiter (`readCreation_createBody_iff`), and of a
`.dat` file this depends on the texts in its header (`dat_creation_iff`).
-/

namespace NightWatcher.Exporter.Gdrive

open PercentCode GdriveAuth Multipart

variable (d : Deps)

/-! ## The program -/

/-- `EVP_EncodeBlock` writes with these, and puts `=` at the end. -/
def stdAlphabet : Base64.Alphabet where
  digit n := "ABCDEFGHIJKLMNOPQRSTUVWXYZabcdefghijklmnopqrstuvwxyz0123456789+/".toList.getD n 'A'
  value c := "ABCDEFGHIJKLMNOPQRSTUVWXYZabcdefghijklmnopqrstuvwxyz0123456789+/".toList.idxOf? c
  value_digit := by decide

/-- The alphabet of `base64url`, which writes no padding. -/
def urlAlphabet : Base64.Alphabet where
  digit n := "ABCDEFGHIJKLMNOPQRSTUVWXYZabcdefghijklmnopqrstuvwxyz0123456789-_".toList.getD n 'A'
  value c := "ABCDEFGHIJKLMNOPQRSTUVWXYZabcdefghijklmnopqrstuvwxyz0123456789-_".toList.idxOf? c
  value_digit := by decide

/-- `b64`: the padded encoding. -/
def b64 (data : List Char) : List Char := Base64.encodePadded stdAlphabet data

/-- `base64url`: the padded encoding with `+` and `/` replaced and the padding cut. -/
def base64url (data : List Char) : List Char :=
  ((b64 data).map fun c => if c = '+' then '-' else if c = '/' then '_' else c).rdropWhile (· = '=')

/-- The header of the token, RS256. -/
def jwtHeader : Json := Json.ofMembers [("alg", .str "RS256"), ("typ", .str "JWT")]

/-- The claims of the token, by their names. -/
def jwtClaims (clientEmail scope aud : String) (iat exp : Int) : Json :=
  Json.ofMembers [("iss", .str clientEmail), ("scope", .str scope), ("aud", .str aud),
    ("iat", .int iat), ("exp", .int exp)]

/-- `rs256_sign`: what OpenSSL makes of some bytes and a key in PEM. -/
abbrev Rs256 := List Char → String → Except String (List Char)

/-- `make_service_account_jwt`: header and claims encoded, joined by a point and signed. -/
def makeServiceAccountJwt (rs256Sign : Rs256) (clientEmail privateKeyPem scope aud : String)
    (iat exp : Int) :
    Except String (List Char) := do
  let header := jwtHeader
  let claims := jwtClaims clientEmail scope aud iat exp
  let signingInput :=
    base64url (octets (d.json.dump header)) ++ '.' :: base64url (octets (d.json.dump claims))
  let sig ← rs256Sign signingInput privateKeyPem
  return signingInput ++ '.' :: base64url sig

/-- The scope both modes ask for. -/
def driveScope : String := "https://www.googleapis.com/auth/drive"

/-- What `access_token` hands to `post_form`: an address, and the form for it. -/
def tokenRequest (rs256Sign : Rs256) (now : Int) (auth : DriveAuth) :
    Except String (String × List Char) := do
  if auth.mode = "service_account" then
    let jwt ← makeServiceAccountJwt d rs256Sign auth.clientEmail auth.privateKey driveScope
        auth.tokenUri now
      (now + 3600)
    return (auth.tokenUri,
      "grant_type=".toList ++ GdriveAuth.urlEncode
          (octets "urn:ietf:params:oauth:grant-type:jwt-bearer") ++
        "&assertion=".toList ++ GdriveAuth.urlEncode jwt)
  else if auth.mode = "oauth" then
    return (auth.tokenUri,
      "client_id=".toList ++ GdriveAuth.urlEncode (octets auth.clientId) ++ "&client_secret=".toList ++
        GdriveAuth.urlEncode (octets auth.clientSecret) ++ "&refresh_token=".toList ++
        GdriveAuth.urlEncode (octets auth.refreshToken) ++ "&grant_type=refresh_token".toList)
  else throw "drive auth mode must be service_account or oauth"

/-- `split_url`: the server an address names, and the path that is asked for there. -/
def splitUrl (url : List Char) : List Char × List Char :=
  let scheme := ((cut "://".toList url).map fun p => p.1 ++ "://".toList).getD []
  let host := (url.drop scheme.length).takeWhile (· ≠ '/')
  let path := (url.drop scheme.length).dropWhile (· ≠ '/')
  if path = [] then (url, ['/']) else (scheme ++ host, path)

/-- What `post_form` sends of a form: to which server, with which path and body. -/
def postForm (url : String) (body : List Char) : List Char × List Char × List Char :=
  ((splitUrl url.toList).1, (splitUrl url.toList).2, body)

/-- The boundary of the multipart body, fixed in the source. -/
def boundary : String := "nwexport_boundary_dsn"

/-- The description of a new file: its name and its folder. -/
def creationMeta (folderId name : String) : Json :=
  Json.ofMembers [("name", .str name), ("parents", .arr [.str folderId])]

/-- The body of a creation. -/
def createBody (folderId name content mime : String) : String :=
  "--" ++ boundary ++ "\r\n" ++ "Content-Type: application/json; charset=UTF-8\r\n\r\n" ++
    d.json.dump (creationMeta folderId
        name) ++ "\r\n" ++ "--" ++ boundary ++ "\r\n" ++ "Content-Type: " ++ mime ++
    "\r\n\r\n" ++ content ++ "\r\n" ++ "--" ++ boundary ++ "--"

/-- The content type that names the boundary. -/
def createContentType : String := "multipart/related; boundary=" ++ boundary

/-- The server and the path are the address again, but for one that names no path. -/
theorem splitUrl_joined (url : List Char) : (splitUrl url).2.head? = some '/' ∧
    ((splitUrl url).1 ++ (splitUrl url).2 = url ∨ splitUrl url = (url, ['/'])) := by
  have hscheme : ((cut "://".toList url).map fun p => p.1 ++ "://".toList).getD [] <+: url := by
    cases hcut : cut "://".toList url with
    | none => exact List.nil_prefix
    | some p => exact ⟨p.2, (cut_eq hcut).symm⟩
  unfold splitUrl
  dsimp only
  generalize ((cut "://".toList url).map fun p => p.1 ++ "://".toList).getD [] = scheme at hscheme
  obtain ⟨rest, rfl⟩ := hscheme
  rw [List.drop_left]
  split_ifs with hpath
  · exact ⟨rfl, Or.inr rfl⟩
  · -- the path begins with the slash that ends the server
    refine ⟨?_, Or.inl ?_⟩
    · have hstop := List.dropWhile_get_zero_not (· ≠ '/') rest (List.length_pos_iff.mpr hpath)
      rw [List.head?_eq_some_head hpath]
      simpa [List.head_eq_getElem] using hstop
    · rw [List.append_assoc, List.takeWhile_append_dropWhile]

example : postForm "https://oauth2.googleapis.com/token" [] =
    ("https://oauth2.googleapis.com".toList, "/token".toList, []) := by decide

/-! ## The token endpoint -/

/-- What a token is asked for with. -/
inductive Grant where
  | jwtBearer (header claims : Json) (signed signature : List Char)
  | refreshToken (clientId clientSecret refreshToken : String)

/-- The value of a form field. -/
def field (name : String) (fields : List (List Char × List Char)) : Option (List Char) :=
  (fields.find? fun f => f.1 = name.toList).map Prod.snd

/-- A token is three texts between points, of which the signature is of the first two. -/
def readJwt (assertion : List Char) : Option Grant :=
  match assertion.splitOn '.' with
  | [header, claims, signature] => do
    let headerText ← (Base64.decode urlAlphabet header).bind ofOctets
    let claimsText ← (Base64.decode urlAlphabet claims).bind ofOctets
    return .jwtBearer (← d.json.parse headerText) (← d.json.parse claimsText) (header ++ '.' :: claims)
      (← Base64.decode urlAlphabet signature)
  | _ => none

/-- The grant a token endpoint reads in the form. -/
def readGrant (body : List Char) : Option Grant := do
  let fields ← formFields body
  let grantType ← field "grant_type" fields
  if grantType = "urn:ietf:params:oauth:grant-type:jwt-bearer".toList then
    readJwt d (← field "assertion" fields)
  else if grantType = "refresh_token".toList then
    return .refreshToken (← (field "client_id" fields).bind ofOctets)
      (← (field "client_secret" fields).bind ofOctets)
      (← (field "refresh_token" fields).bind ofOctets)
  else none

/-- The grants that a config stands for, at a time. -/
inductive Grants (rs256Sign : Rs256) (now : Int) (auth : DriveAuth) : Grant → Prop where
  | serviceAccount {signed signature : List Char} (mode : auth.mode = "service_account")
    (sign : rs256Sign signed auth.privateKey = .ok signature) :
    Grants rs256Sign now auth
      (.jwtBearer jwtHeader (jwtClaims auth.clientEmail driveScope auth.tokenUri now (now + 3600))
          signed signature)
  | oauth (mode : auth.mode = "oauth") :
    Grants rs256Sign now auth (.refreshToken auth.clientId auth.clientSecret auth.refreshToken)

/-! ### Tokens -/

section

variable {data : List Char} (hdata : ∀ c ∈ data, c.toNat < 256)
include hdata

/-- The digits are exchanged and the padding cut off: the other alphabet, with no padding. -/
theorem base64url_eq : base64url data = Base64.encode urlAlphabet data := by
  obtain ⟨n, hn⟩ := @Base64.encodePadded_eq stdAlphabet data
  have hdigit : ∀ n < 64,
      (fun c => if c = '+' then '-' else if c = '/' then '_' else c) (stdAlphabet.digit n)
      = urlAlphabet.digit n := by decide +kernel
  have hpadding : ∀ c ∈ List.replicate n '=', decide (c = '=') = true := by
    intro c hc
    exact decide_eq_true (List.eq_of_mem_replicate hc)
  have hplain : ∀ n < 64, urlAlphabet.digit n ≠ '=' := by decide +kernel
  have hlast : ∀ c ∈ (Base64.encode urlAlphabet data).getLast?, decide (c = '=') = false := by
    intro c hc
    obtain ⟨n, hn, rfl⟩ := Base64.mem_encode hdata (List.mem_of_getLast? hc)
    exact decide_eq_false (hplain n hn)
  unfold base64url b64
  rw [hn, List.map_append, Base64.encode_map hdigit hdata, List.map_replicate]
  exact TextLines.rdropWhile_append hpadding hlast

/-- A text in base64 has no point in it, and needs no encoding in a form. -/
theorem mem_base64url {c : Char} (hc : c ∈ base64url data) : unreserved c = true ∧ c ≠ '.' := by
  have hall : ∀ n < 64, unreserved (urlAlphabet.digit n) = true ∧ urlAlphabet.digit n ≠ '.' := by
    decide +kernel
  rw [base64url_eq hdata] at hc
  obtain ⟨n, hn, rfl⟩ := Base64.mem_encode hdata hc
  exact hall n hn

/-- What `base64url` writes decodes to the data. -/
theorem decode_base64url : Base64.decode urlAlphabet (base64url data) = some data := by
  rw [base64url_eq hdata]
  exact Base64.decode_encode hdata

end

variable {d} {rs256Sign : Rs256}

/-- An unreserved character is a byte. -/
theorem lt_of_unreserved {c : Char} (h : unreserved c = true) : c.toNat < 256 := by
  unfold unreserved at h
  simp only [Bool.or_eq_true, decide_eq_true_eq] at h
  rcases h with (((halnum | rfl) | rfl) | rfl) | rfl
  · simp only [Char.isAlphanum, Char.isAlpha, Char.isUpper, Char.isLower, Char.isDigit, Bool.or_eq_true,
      Bool.and_eq_true, decide_eq_true_eq] at halnum
    have hval : c.toNat = c.val.toNat := rfl
    have hupper : c.val ≤ 122 := by
      rcases halnum with (h | h) | h
      · exact UInt32.le_trans h.2 (by decide)
      · exact h.2
      · exact UInt32.le_trans h.2 (by decide)
    have hle := UInt32.le_iff_toNat_le.mp hupper
    rw [hval]
    exact Nat.lt_of_le_of_lt hle (by decide)
  all_goals decide

/-- A signed token is read as what was signed. -/
theorem readJwt_made {clientEmail privateKeyPem scope aud : String} {iat exp : Int} {jwt : List Char}
    (hsign : ∀ data pem sig, rs256Sign data pem = .ok sig → ∀ c ∈ sig, c.toNat < 256)
    (hheader : d.json.parse (d.json.dump jwtHeader) = some jwtHeader)
    (hclaims : d.json.parse (d.json.dump (jwtClaims clientEmail scope aud iat exp))
      = some (jwtClaims clientEmail scope aud iat exp))
    (h : makeServiceAccountJwt d rs256Sign clientEmail privateKeyPem scope aud iat exp = .ok jwt) :
    (∀ c ∈ jwt, c.toNat < 256) ∧ ∃ signed signature, rs256Sign signed privateKeyPem = .ok signature ∧
      readJwt d jwt = some (.jwtBearer jwtHeader (jwtClaims clientEmail scope aud iat exp) signed
          signature) := by
  have hfirst := octets_lt (d.json.dump jwtHeader)
  have hsecond := octets_lt (d.json.dump (jwtClaims clientEmail scope aud iat exp))
  unfold makeServiceAccountJwt at h
  dsimp only at h
  generalize hsigned : base64url (octets (d.json.dump jwtHeader)) ++ '.' ::
    base64url (octets (d.json.dump (jwtClaims clientEmail scope aud iat exp))) = signed at h
  cases hsig : rs256Sign signed privateKeyPem with
  | error e =>
    rw [hsig] at h
    cases h
  | ok signature =>
    rw [hsig] at h
    obtain rfl := Except.ok.inj h
    have hthird := hsign _ _ _ hsig
    -- the encoding of a part has no point in it
    have hpoint : ∀ {data : List Char}, (∀ c ∈ data, c.toNat < 256) → '.' ∉ base64url data :=
      fun hdata hmem => (mem_base64url hdata hmem).2 rfl
    have hsmall : ∀ {data : List Char}, (∀ c ∈ data, c.toNat < 256) → ∀ c ∈ base64url data,
        c.toNat < 256 :=
      fun hdata c hc => lt_of_unreserved (mem_base64url hdata hc).1
    refine ⟨fun c hc => ?_, signed, signature, hsig, ?_⟩
    · rw [← hsigned] at hc
      simp only [List.mem_append, List.mem_cons] at hc
      rcases hc with (hc | rfl | hc) | rfl | hc
      · exact hsmall hfirst c hc
      · decide
      · exact hsmall hsecond c hc
      · decide
      · exact hsmall hthird c hc
    · -- no part has a point in it, so the token is cut where it was put together
      have hsplit : (signed ++ '.' :: base64url signature).splitOn '.' =
          [base64url (octets (d.json.dump jwtHeader)),
            base64url (octets (d.json.dump (jwtClaims clientEmail scope aud iat exp))),
            base64url signature] := by
        rw [← hsigned, List.append_assoc, List.cons_append,
          List.splitOn_append_cons_self_of_not_mem (hpoint hfirst),
          List.splitOn_append_cons_self_of_not_mem (hpoint hsecond),
          List.splitOn_eq_singleton (hpoint hthird)]
      unfold readJwt
      rw [hsplit]
      dsimp only
      rw [decode_base64url hfirst, decode_base64url hsecond, decode_base64url hthird, Option.bind_some,
        Option.bind_some, ofOctets_octets, ofOctets_octets, hsigned]
      simp only [Option.bind_eq_bind, Option.bind_some, hheader, hclaims, Option.pure_def]

/-! ### Grants -/

/-- A sequence succeeds when both parts do. -/
theorem except_bind_ok {ε α β : Type} {x : Except ε α} {f : α → Except ε β} {b : β}
    (h : (x >>= f) = .ok b) :
    ∃ a, x = .ok a ∧ f a = .ok b := by
  cases x with
  | error e => cases h
  | ok a => exact ⟨a, rfl, h⟩

/-- An accepted config names one of the two modes. -/
theorem driveAuthFromConfig_mode {config : String} {auth : DriveAuth}
    (h : driveAuthFromConfig d config = .ok auth) :
    auth.mode = "service_account" ∨ auth.mode = "oauth" := by
  have hthrow : ∀ {α : Type} {e : String} {f : α → Except String DriveAuth},
      (throw e >>= f) ≠ .ok auth := by
    intro α e f heq
    cases heq
  unfold driveAuthFromConfig at h
  obtain ⟨cfg, -, h⟩ := except_bind_ok h
  obtain ⟨given, -, h⟩ := except_bind_ok h
  rcases ite_eq_iff.mp h with ⟨hmode, h⟩ | ⟨-, h⟩
  · obtain ⟨email, -, h⟩ := except_bind_ok h
    obtain ⟨key, -, h⟩ := except_bind_ok h
    rcases ite_eq_iff.mp h with ⟨-, h⟩ | ⟨-, h⟩
    · exact absurd h hthrow
    · obtain rfl := Except.ok.inj h
      exact Or.inl hmode
  · rcases ite_eq_iff.mp h with ⟨hmode, h⟩ | ⟨-, h⟩
    · obtain ⟨id, -, h⟩ := except_bind_ok h
      obtain ⟨secret, -, h⟩ := except_bind_ok h
      obtain ⟨token, -, h⟩ := except_bind_ok h
      rcases ite_eq_iff.mp h with ⟨-, h⟩ | ⟨-, h⟩
      · exact absurd h hthrow
      · obtain rfl := Except.ok.inj h
        exact Or.inr hmode
    · cases h

/-- The form of a service account. -/
theorem readGrant_assertion {jwt : List Char} (hjwt : ∀ c ∈ jwt, c.toNat < 256) :
    readGrant d ("grant_type=".toList ++ GdriveAuth.urlEncode
        (octets "urn:ietf:params:oauth:grant-type:jwt-bearer") ++
      "&assertion=".toList ++ GdriveAuth.urlEncode jwt) = readJwt d jwt := by
  have hurn : octets "urn:ietf:params:oauth:grant-type:jwt-bearer"
      = "urn:ietf:params:oauth:grant-type:jwt-bearer".toList := by decide +kernel
  have hfields : formFields ("grant_type=".toList ++
      GdriveAuth.urlEncode
          (octets "urn:ietf:params:oauth:grant-type:jwt-bearer") ++ "&assertion=".toList ++
      GdriveAuth.urlEncode jwt) =
        some [("grant_type".toList, "urn:ietf:params:oauth:grant-type:jwt-bearer".toList),
            ("assertion".toList, jwt)] := by
    have htype : "grant_type=".toList = "grant_type".toList ++ ['='] := rfl
    have hassertion : "&assertion=".toList = '&' :: ("assertion".toList ++ ['=']) := rfl
    have hform : "grant_type=".toList ++ GdriveAuth.urlEncode
        (octets "urn:ietf:params:oauth:grant-type:jwt-bearer") ++
        "&assertion=".toList ++ GdriveAuth.urlEncode jwt =
          form [("grant_type".toList, octets "urn:ietf:params:oauth:grant-type:jwt-bearer"),
              ("assertion".toList, jwt)] := by
      rw [htype, hassertion]
      simp only [form_cons_cons, form_singleton, List.append_assoc, List.cons_append, List.nil_append]
    rw [hform, ← hurn]
    refine formFields_form (List.cons_ne_nil _ _) ?_ ?_
    · simp only [List.forall_mem_cons]
      exact ⟨plain_literal rfl, plain_literal rfl, nofun⟩
    · simp only [List.forall_mem_cons]
      exact ⟨octets_lt _, hjwt, nofun⟩
  unfold readGrant
  rw [hfields]
  rfl

/-- The form fields of the refresh-token grant. -/
def refreshFields (clientId clientSecret refreshToken : String) : List (List Char × List Char) :=
  [("client_id".toList, octets clientId), ("client_secret".toList, octets clientSecret),
    ("refresh_token".toList, octets refreshToken), ("grant_type".toList, "refresh_token".toList)]

/-- The form of a user. -/
theorem readGrant_refresh (clientId clientSecret refreshToken : String) :
    readGrant d ("client_id=".toList ++ GdriveAuth.urlEncode (octets clientId) ++
      "&client_secret=".toList ++ GdriveAuth.urlEncode (octets clientSecret) ++
      "&refresh_token=".toList ++ GdriveAuth.urlEncode (octets refreshToken) ++
      "&grant_type=refresh_token".toList)
      = some (.refreshToken clientId clientSecret refreshToken) := by
  -- the text is the form of its four fields
  have hform : "client_id=".toList ++ GdriveAuth.urlEncode (octets clientId) ++
      "&client_secret=".toList ++ GdriveAuth.urlEncode (octets clientSecret) ++
      "&refresh_token=".toList ++ GdriveAuth.urlEncode (octets refreshToken) ++
      "&grant_type=refresh_token".toList =
        form (refreshFields clientId clientSecret refreshToken) := by
    have hid : "client_id=".toList = "client_id".toList ++ ['='] := rfl
    have hsecret : "&client_secret=".toList = '&' :: ("client_secret".toList ++ ['=']) := rfl
    have htoken : "&refresh_token=".toList = '&' :: ("refresh_token".toList ++ ['=']) := rfl
    have htype : "&grant_type=refresh_token".toList =
        '&' :: ("grant_type".toList ++ '=' :: GdriveAuth.urlEncode "refresh_token".toList) := rfl
    unfold refreshFields
    rw [hid, hsecret, htoken, htype]
    simp only [form_cons_cons, form_singleton, List.append_assoc, List.cons_append, List.nil_append]
  have hfields : formFields (form (refreshFields clientId clientSecret refreshToken)) =
      some (refreshFields clientId clientSecret refreshToken) := by
    unfold refreshFields
    refine formFields_form (List.cons_ne_nil _ _) ?_ ?_
    · simp only [List.forall_mem_cons]
      exact ⟨plain_literal rfl, plain_literal rfl, plain_literal rfl, plain_literal rfl, nofun⟩
    · simp only [List.forall_mem_cons]
      exact ⟨octets_lt _, octets_lt _, octets_lt _, bytes_literal rfl, nofun⟩
  have hid : (field "client_id" (refreshFields clientId clientSecret refreshToken)).bind ofOctets =
      some clientId :=
    ofOctets_octets clientId
  have hsecret : (field "client_secret" (refreshFields clientId clientSecret refreshToken)).bind
      ofOctets = some clientSecret := ofOctets_octets clientSecret
  have htoken : (field "refresh_token" (refreshFields clientId clientSecret refreshToken)).bind
      ofOctets = some refreshToken := ofOctets_octets refreshToken
  have htype : field "grant_type" (refreshFields clientId clientSecret refreshToken) =
      some "refresh_token".toList := rfl
  unfold readGrant
  rw [hform, hfields]
  simp only [Option.bind_eq_bind, Option.bind_some, htype]
  rw [if_neg (by decide), if_pos trivial, hid, hsecret, htoken]
  rfl

/-- Whatever a config is accepted with, the token endpoint is asked for what it stands for, at its
address; only the key of a service account can be of no use. -/
theorem token_request_granted {config : String} {auth : DriveAuth}
    (hauth : driveAuthFromConfig d config = .ok auth)
    (now : Int) (hsign : ∀ data pem sig, rs256Sign data pem = .ok sig → ∀ c ∈ sig, c.toNat < 256)
    (hprint : ∀ j ∈ [jwtHeader, jwtClaims auth.clientEmail driveScope auth.tokenUri now (now + 3600)],
      d.json.parse (d.json.dump j) = some j) :
    (∃ body grant, tokenRequest d rs256Sign now auth = .ok (auth.tokenUri, body) ∧
        readGrant d body = some grant ∧
      Grants rs256Sign now auth grant) ∨
    auth.mode = "service_account" ∧ ∃ signed e, rs256Sign signed auth.privateKey = .error e ∧
      tokenRequest d rs256Sign now auth = .error e := by
  unfold tokenRequest
  rcases driveAuthFromConfig_mode hauth with hmode | hmode
  · rw [if_pos hmode]
    cases hjwt : makeServiceAccountJwt d rs256Sign auth.clientEmail auth.privateKey driveScope
        auth.tokenUri now
        (now + 3600) with
    | ok jwt =>
      obtain ⟨hbytes, signed, signature, hsigned, hread⟩ := readJwt_made hsign
        (hprint _ List.mem_cons_self) (hprint _ (List.mem_cons_of_mem _ List.mem_cons_self)) hjwt
      refine Or.inl ⟨_, _, rfl, ?_, .serviceAccount hmode hsigned⟩
      rw [readGrant_assertion hbytes, hread]
    | error e =>
      refine Or.inr ⟨hmode, ?_⟩
      unfold makeServiceAccountJwt at hjwt
      dsimp only at hjwt
      generalize base64url (octets (d.json.dump jwtHeader)) ++ '.' :: base64url (octets (d.json.dump
        (jwtClaims auth.clientEmail driveScope auth.tokenUri now (now + 3600)))) = signed at hjwt
      cases hsig : rs256Sign signed auth.privateKey with
      | ok signature =>
        rw [hsig] at hjwt
        cases hjwt
      | error e' =>
        rw [hsig] at hjwt
        obtain rfl := Except.error.inj hjwt
        exact ⟨signed, e', hsig, rfl⟩
  · have hother : auth.mode ≠ "service_account" := by
      rw [hmode]
      decide
    rw [if_neg hother, if_pos hmode]
    exact Or.inl ⟨_, _, rfl, readGrant_refresh _ _ _, .oauth hmode⟩

/-- The grant of the user of `folderConfig`, and the two texts that a service account would sign. -/
def folderAuth : DriveAuth where
  mode := "oauth"
  tokenUri := "https://oauth2.googleapis.com/token"
  clientId := "i"
  clientSecret := "s"
  refreshToken := "r"

def unsignedClaims : Json := jwtClaims "" driveScope "https://oauth2.googleapis.com/token" 7 3607

def headerText : String := "\x7b\"alg\":\"RS256\",\"typ\":\"JWT\"\x7d"

def claimsText : String :=
  "\x7b\"aud\":\"https://oauth2.googleapis.com/token\",\"exp\":3607,\"iat\":7,\"iss\":\"\"," ++
    "\"scope\":\"https://www.googleapis.com/auth/drive\"\x7d"

def grantDeps : Deps :=
  { Deps.plain [] with
    json :=
      { parse := fun s =>
          if s = headerText then some jwtHeader
          else if s = claimsText then some unsignedClaims
          else if s = folderText then some folderConfig
          else none
        dump := fun j => if j.contains "alg" then headerText else claimsText } }

/-- There is no key. -/
def noKey : Rs256 := fun _ _ => .error "invalid service-account private key (PEM expected)"

/-- A token asked for with a user's grant. -/
theorem token_request_granted_user : ∃ body,
    tokenRequest grantDeps noKey 7 folderAuth = .ok ("https://oauth2.googleapis.com/token", body) ∧
      readGrant grantDeps body = some (.refreshToken "i" "s" "r") := by
  have hfound : grantDeps.json.parse folderText = some folderConfig := by
    have hheader : folderText ≠ headerText := by decide
    have hclaims : folderText ≠ claimsText := by decide
    simp [grantDeps, hheader, hclaims]
  have hauth : driveAuthFromConfig grantDeps folderText = .ok folderAuth := by
    unfold driveAuthFromConfig parseConfig parseJson
    rw [if_neg (by decide), hfound]
    rfl
  have hparsed : grantDeps.json.parse (grantDeps.json.dump jwtHeader) = some jwtHeader ∧
      grantDeps.json.parse (grantDeps.json.dump unsignedClaims) = some unsignedClaims := ⟨rfl, rfl⟩
  rcases @token_request_granted grantDeps noKey folderText folderAuth hauth 7
    (fun _ _ _ h => by cases h)
    (by
      simp only [List.forall_mem_cons]
      exact ⟨hparsed.1, hparsed.2, fun _ hmem => absurd hmem List.not_mem_nil⟩) with
    ⟨body, grant, hrequest, hread, hgrants⟩ | ⟨hmode, -⟩
  · cases hgrants with
    | serviceAccount hmode => exact absurd hmode (by decide)
    | oauth _ => exact ⟨body, hrequest, hread⟩
  · exact absurd hmode (by decide)

/-! ## A new file -/

variable (d)

/-- The content a Drive reader finds in a request to create a file. -/
structure Creation where
  folderId : String
  name : String
  content : String

/-- A creation as it is received: a description, and the content as it is. -/
def readCreation (contentType body : String) : Option Creation := do
  let mark ← TextLines.behind "boundary=".toList contentType.toList
  match ← Multipart.read mark body.toList with
  | [described, media] =>
    let (_, text) ← split described
    let (_, content) ← split media
    let description ← d.json.parse (String.ofList text)
    match description.member? "name", description.member? "parents" with
    | some (.str name), some (.arr [.str folderId]) => return ⟨folderId, name, String.ofList content⟩
    | _, _ => none
  | _ => none

/-- A part that describes a file, and one that has its content. -/
def describedPart (folderId name : String) : List Char :=
  "Content-Type: application/json; charset=UTF-8".toList ++ (lineEnd ++ lineEnd) ++
    (d.json.dump (creationMeta folderId name)).toList

/-- The second part: the content under its type. -/
def mediaPart (content mime : String) : List Char :=
  ("Content-Type: " ++ mime).toList ++ (lineEnd ++ lineEnd) ++ content.toList

/-- The printer writes an object on one line, and it is parsed again. -/
structure Printed (j : Json) : Prop where
  parsed : d.json.parse (d.json.dump j) = some j
  line : '\r' ∉ (d.json.dump j).toList
  brace : (d.json.dump j).toList.head? = some '\x7b'

variable {d} {folderId name content mime : String}

/-- The body is its two parts between the boundaries. -/
theorem createBody_parts (folderId name content mime : String) :
    lineEnd ++ (createBody d folderId name content mime).toList
      = body boundary.toList [describedPart d folderId name, mediaPart content mime] := by
  have hhyphens : "--".toList = ['-', '-'] := rfl
  have hline : "\r\n".toList = lineEnd := rfl
  have hlines : "\r\n\r\n".toList = lineEnd ++ lineEnd := rfl
  have hdescribed : "Content-Type: application/json; charset=UTF-8\r\n\r\n".toList
      = "Content-Type: application/json; charset=UTF-8".toList ++ (lineEnd ++ lineEnd) := rfl
  have hdelimiter : ∀ rest, lineEnd ++ ('-' :: '-' :: (boundary.toList ++ rest)) =
      delimiter boundary.toList ++ rest :=
    fun _ => rfl
  unfold createBody describedPart mediaPart body
  simp only [String.toList_append, hhyphens, hline, hlines, hdescribed, body, List.append_assoc,
    List.cons_append, List.nil_append, hdelimiter]

/-- The boundary is one line. -/
theorem boundary_line : '\r' ∉ boundary.toList := by decide

/-- The delimiter stands in the media part exactly when it stands in the content. -/
theorem mediaPart_delimited (hmime : '\r' ∉ mime.toList) :
    delimiter boundary.toList <:+: mediaPart content mime ↔
        delimiter boundary.toList <:+: lineEnd ++ content.toList := by
  refine delimiter_infix_part boundary_line ?_ content.toList
  rw [String.toList_append, List.mem_append, not_or]
  exact ⟨by decide, hmime⟩

/-- The description is always read. -/
theorem read_createBody (hprinted : Printed d (creationMeta folderId name)) (content mime : String) :
    Multipart.read boundary.toList (createBody d folderId name content mime).toList
      = (parts boundary.toList
          (lineEnd ++ mediaPart content mime ++ (delimiter boundary.toList ++ ['-', '-']))).map
        (describedPart d folderId name :: ·) := by
  have hnone : ¬delimiter boundary.toList <:+: describedPart d folderId name := by
    intro h
    have hheader : '\r' ∉ "Content-Type: application/json; charset=UTF-8".toList := by decide
    rcases (delimiter_infix_line _).mp ((delimiter_infix_part boundary_line hheader _).mp h)
        with hin | ⟨rest, hrest⟩
    · exact hprinted.line (hin.subset List.mem_cons_self)
    · -- an object does not begin with a hyphen
      have hbrace := hprinted.brace
      rw [← hrest] at hbrace
      exact absurd (Option.some.inj hbrace) (by decide)
  have hne : delimiter boundary.toList ≠ [] := List.cons_ne_nil _ _
  unfold Multipart.read
  rw [createBody_parts, body, body, body, List.append_assoc, cut_prefix hne, Option.bind_some]
  exact parts_cons boundary_line hnone _

/-- The description names the file and its folder. -/
theorem creationMeta_members (folderId name : String) :
    (creationMeta folderId name).member? "name" = some (.str name) ∧
      (creationMeta folderId name).member? "parents" = some (.arr [.str folderId]) := by
  unfold creationMeta
  rw [Json.member?_ofMembers, Json.member?_ofMembers]
  exact ⟨rfl, rfl⟩

/-- What is received when the parts are read. -/
theorem readCreation_eq (hprinted : Printed d (creationMeta folderId name)) (content mime : String) :
    readCreation d createContentType (createBody d folderId name content mime)
      = (parts boundary.toList
          (lineEnd ++ mediaPart content mime ++ (delimiter boundary.toList ++ ['-', '-']))).bind
        fun rest => rest.head?.bind fun media =>
          if rest.length = 1 then (split media).map fun p => ⟨folderId, name, String.ofList p.2⟩
              else none := by
  have hmark : TextLines.behind "boundary=".toList createContentType.toList =
      some boundary.toList := by decide +kernel
  have hheader : '\r' ∉ "Content-Type: application/json; charset=UTF-8".toList := by decide
  have hdescribed : split (describedPart d folderId name) =
      some ("Content-Type: application/json; charset=UTF-8".toList,
          (d.json.dump (creationMeta folderId name)).toList) := split_part hheader
  obtain ⟨hname, hparents⟩ := creationMeta_members folderId name
  unfold readCreation
  rw [hmark, Option.bind_eq_bind, Option.bind_some, read_createBody hprinted]
  cases hparts : parts boundary.toList
      (lineEnd ++ mediaPart content mime ++ (delimiter boundary.toList ++ ['-', '-'])) with
  | none => rfl
  | some rest =>
    match rest with
    | [] => rfl
    | [media] =>
      simp only [Option.map_some, Option.bind_eq_bind, Option.bind_some, hdescribed,
        String.ofList_toList, hprinted.parsed, hname, hparents, List.head?_cons,
        List.length_singleton, if_true, Option.pure_def]
      cases split media <;> rfl
    | media :: other :: more => rfl

/-- A new file is received as it is if and only if no line of it begins like a delimiter. -/
theorem readCreation_createBody_iff (hprinted : Printed d (creationMeta folderId name))
    (hmime : '\r' ∉ mime.toList) :
    readCreation d createContentType (createBody d folderId name content mime) =
        some ⟨folderId, name, content⟩ ↔
      ¬delimiter boundary.toList <:+: lineEnd ++ content.toList := by
  have hheader : '\r' ∉ ("Content-Type: " ++ mime).toList := by
    rw [String.toList_append, List.mem_append, not_or]
    exact ⟨by decide, hmime⟩
  rw [readCreation_eq hprinted]
  constructor
  · intro hread hin
    obtain ⟨rest, hparts, hread⟩ := Option.bind_eq_some_iff.mp hread
    obtain ⟨media, hmedia, hread⟩ := Option.bind_eq_some_iff.mp hread
    rcases ite_eq_iff.mp hread with ⟨-, hread⟩ | ⟨-, hread⟩
    · obtain ⟨⟨header, text⟩, hsplit, heq⟩ := Option.map_eq_some_iff.mp hread
      have htext : text = content.toList := by
        rw [← (Creation.mk.inj heq).2.2, String.toList_ofList]
      obtain ⟨more, rfl⟩ : ∃ more, rest = media :: more := by
        cases rest with
        | nil => cases hmedia
        | cons first more => exact ⟨more, by rw [Option.some.inj hmedia]⟩
      -- the part that is read is shorter, so its header would be too, and end inside a line
      obtain ⟨hfirst, hshort⟩ := parts_cut ((mediaPart_delimited hmime).mpr hin) hparts
      rw [cut_eq hsplit, htext] at hfirst hshort
      unfold mediaPart at hfirst hshort
      have hlength : header.length < ("Content-Type: " ++ mime).toList.length := by
        simp only [List.length_append] at hshort ⊢
        omega
      have hfront : header ++ ['\r']
          <+: ("Content-Type: " ++ mime).toList ++ (lineEnd ++ lineEnd) ++ content.toList :=
        List.IsPrefix.trans ⟨'\n' :: lineEnd ++ content.toList, by simp [lineEnd]⟩ hfirst
      have hinside : header ++ ['\r'] <+: ("Content-Type: " ++ mime).toList := by
        rw [List.append_assoc] at hfront
        refine List.prefix_of_prefix_length_le hfront (List.prefix_append _ _) ?_
        rw [List.length_append, List.length_singleton]
        omega
      exact hheader (hinside.subset (List.mem_append_right header (List.mem_singleton.mpr rfl)))
    · cases hread
  · intro hnone
    rw [parts_cons boundary_line (fun hin => hnone ((mediaPart_delimited hmime).mp hin)), parts_last]
    have hsplit : split (mediaPart content mime) = some (("Content-Type: " ++ mime).toList,
        content.toList) :=
      split_part hheader
    simp only [Option.map_some, Option.bind_some, List.head?_cons, List.length_singleton,
      if_true, hsplit, String.ofList_toList]

/-! ### The file of a month -/

/-- A text in which no line but the first begins like a delimiter. -/
def Undelimited (text : String) : Prop := ¬delimiter boundary.toList <:+: text.toList

/-- A front part of one line brings in no delimiter. -/
theorem undelimited_append {s t : String} (hs : '\r' ∉ s.toList) :
    Undelimited (s ++ t) ↔ Undelimited t := by
  unfold Undelimited
  rw [String.toList_append]
  exact not_congr (infix_append_of_notMem hs)

/-- A text of one line has no delimiter. -/
theorem undelimited_of_line {s : String} (hs : '\r' ∉ s.toList) : Undelimited s :=
  fun h => hs (h.subset List.mem_cons_self)

/-- Only a text of digits is changed. -/
theorem undelimited_serialInt (s : String) : Undelimited (serialInt s) ↔ Undelimited s := by
  by_cases hclean : CleanText s
  · exact iff_of_true (undelimited_of_line ((cleanText_serialInt s).mpr hclean).noCr)
        (undelimited_of_line hclean.noCr)
  · have hsame : serialInt s = s := by
      unfold serialInt
      by_cases hempty : s = ""
      · rw [if_pos hempty]
      · rw [if_neg hempty, if_neg]
        intro hdigits
        rw [List.all_eq_true] at hdigits
        exact hclean (FieldText.clean fun c hc => fieldChar_of_isDigit (hdigits c hc))
    rw [hsame]

/-- The delimiter is in the header exactly when a text of the config brings it. -/
theorem dsnHeader_undelimited_iff (hnumbers : PlainNumbers d) (s : SensorRow) (cfg : Json) :
    (∀ l ∈ dsnHeader d s cfg (cfgOr cfg "timezone" s.timezone), Undelimited l) ↔
      ∀ text ∈ dsnTexts s cfg, Undelimited text :=
  dsnHeader_forall_iff (fun hs => undelimited_of_line hs.noCr)
    (fun hs => undelimited_append hs.noCr) undelimited_serialInt hnumbers s cfg

/-- The lines as characters, each with its line end. -/
theorem crlfLines_toList (lines : List String) :
    (crlfLines lines).toList = (lines.map String.toList).flatMap fun l => l ++ lineEnd := by
  unfold crlfLines
  induction lines with
  | nil => rfl
  | cons l lines ih =>
    rw [List.map_cons, String.join_cons, String.toList_append, String.toList_append, ih, List.map_cons,
      List.flatMap_cons]
    rfl

/-- A row is made of its fields and separators. -/
theorem dsnLine_chars (hnumbers : PlainNumbers d) (tz : String) (includeCountsFreq : Bool)
    {r : ReadingRow}
    (hstamp : IsStamp r.tsUtc) {c : Char} (hc : c ∈ (dsnLine d tz includeCountsFreq r).toList) :
    fieldChar c = true ∨ c = ';' := by
  obtain ⟨t, -, -, temp, counts, freq, msas, hfields, hrow⟩ :=
    dsnLine_fields hnumbers tz includeCountsFreq hstamp
  rw [hrow] at hc
  simp only [List.forall_mem_cons] at hfields
  obtain ⟨hutc, hloc, htemp, hcounts, hfreq, hmsas, -⟩ := hfields
  simp only [List.intercalate, List.intersperse, List.flatten_cons, List.flatten_nil, List.append_nil,
    List.mem_append, List.mem_singleton] at hc
  rcases hc with h | h | h | h | h | h | h | h | h | h | h
  exacts [Or.inl (hutc c h), Or.inr h, Or.inl (hloc c h), Or.inr h, Or.inl (htemp c h), Or.inr h,
    Or.inl (hcounts c h), Or.inr h, Or.inl (hfreq c h), Or.inr h, Or.inl (hmsas c h)]

/-- A `.dat` file that goes out as a new file is received as it is if and only if no text that its
header takes from the config or the sensor brings a delimiter with it. -/
theorem dat_creation_iff (hnumbers : PlainNumbers d) {ctx : ExportContext} {configJson out : String}
    {cfg : Json}
    (hcfg : parseConfig d configJson = .ok cfg) (hout : formatDsnDat d ctx configJson = .ok out)
    (hstamps : ∀ r ∈ ctx.readings, IsStamp r.tsUtc)
    (hprinted : Printed d (creationMeta folderId name)) :
    readCreation d createContentType (createBody d folderId name out "text/plain") =
        some ⟨folderId, name, out⟩ ↔
      ∀ text ∈ dsnTexts ctx.sensor cfg, Undelimited text := by
  obtain ⟨includeCountsFreq, rfl⟩ := formatDsnDat_lines hcfg hout
  rw [readCreation_createBody_iff hprinted (by decide), crlfLines_toList,
    delimiter_infix_lines boundary_line, ← dsnHeader_undelimited_iff hnumbers]
  constructor
  · intro hnone l hl hin
    exact hnone ⟨l.toList, List.mem_map_of_mem (List.mem_append_left _ hl), Or.inl hin⟩
  · rintro hheader ⟨_, hmem, hbad⟩
    obtain ⟨l, hl, rfl⟩ := List.mem_map.mp hmem
    rcases List.mem_append.mp hl with hl | hl
    · rcases hbad with hin | ⟨rest, hrest⟩
      · exact hheader l hl hin
      · -- a line of the header begins with its mark
        have hmark := dsnHeader_marked ctx.sensor cfg _ l hl
        rw [← hrest] at hmark
        exact absurd (Option.some.inj hmark) (by decide)
    · obtain ⟨r, hr, rfl⟩ := List.mem_map.mp hl
      have hchars : ∀ c, fieldChar c = false → c ≠ ';' →
          c ∉ (dsnLine d (cfgOr cfg "timezone" ctx.sensor.timezone) includeCountsFreq r).toList := by
        intro c hfield hsep hmem
        rcases dsnLine_chars hnumbers _ includeCountsFreq (hstamps r hr) hmem with h | h
        · rw [h] at hfield
          cases hfield
        · exact hsep h
      rcases hbad with hin | ⟨rest, hrest⟩
      · exact hchars '\r' (by decide) (by decide) (hin.subset List.mem_cons_self)
      · -- a row could begin with hyphens, but has no letters
        refine hchars 'w' (by decide) (by decide) ?_
        rw [← hrest]
        exact List.mem_append_left rest (by decide)

def descriptionText : String := "\x7b\"name\":\"DSN036_26-01.dat\",\"parents\":[\"F\"]\x7d"

def describingDeps : Deps :=
  { Deps.plain [] with
    json :=
      { parse := fun s =>
          if s = descriptionText then some (creationMeta "F" "DSN036_26-01.dat")
          else if s = folderText then some folderConfig
          else none
        dump := fun _ => descriptionText } }

theorem describingDeps_printed : Printed describingDeps (creationMeta "F" "DSN036_26-01.dat") where
  parsed := rfl
  line := by decide
  brace := rfl

theorem describingDeps_parses : parseConfig describingDeps folderText = .ok folderConfig := by
  have hfound : describingDeps.json.parse folderText = some folderConfig := by
    have hother : folderText ≠ descriptionText := by decide
    simp [describingDeps, hother]
  unfold parseConfig parseJson
  rw [if_neg (by decide), hfound]

/-- A dark site's file arrives. -/
theorem dat_creation_iff_darkSite : ∃ out, formatDsnDat describingDeps january folderText = .ok out ∧
    readCreation describingDeps createContentType
        (createBody describingDeps "F" "DSN036_26-01.dat" out "text/plain")
      = some ⟨"F", "DSN036_26-01.dat", out⟩ := by
  have hout : formatDsnDat describingDeps january folderText = .ok (crlfLines
      (dsnHeader describingDeps january.sensor folderConfig "UTC" ++
        january.readings.map (dsnLine describingDeps "UTC" false))) := by
    unfold formatDsnDat
    rw [describingDeps_parses]
    rfl
  have hnumbers : PlainNumbers describingDeps := plainNumbers_plain []
  refine ⟨_, hout, (dat_creation_iff hnumbers describingDeps_parses hout darkSite_stamps
    describingDeps_printed).mpr ?_⟩
  unfold dsnTexts
  simp only [List.forall_mem_cons]
  and_intros
  all_goals first
    | exact undelimited_of_line (by decide)
    | exact fun _ hmem => absurd hmem List.not_mem_nil

end NightWatcher.Exporter.Gdrive
