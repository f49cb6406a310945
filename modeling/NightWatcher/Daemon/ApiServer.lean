import NightWatcher.Api.Http
import NightWatcher.Db.Database

/-!
# `main.cpp`: bringing the API up

`start_api_server` puts the settings of the database over the values of the config
file, sets up TLS if that is wanted, tries ten times to start the server where it
is to listen, and then once more on 127.0.0.1. What may go wrong is said by the
`Host`: which files can be read, how OpenSSL and the writing of a certificate end,
which attempt to bind an address gets through.

Two fallbacks are meant to keep the web UI reachable. A failed certificate set-up
leads to plain HTTP, a failed bind to 127.0.0.1. Files that exist count as set up,
though, and every attempt loads the same ones (`comes_up_iff`).
-/

namespace NightWatcher.Daemon

open Throwing Database Api

/-! ## The host -/

/-- How writing a PEM file ends. What the file then holds is settled when it is closed. -/
inductive PemWrite where
  /-- it cannot be opened -/
  | refused
  | failed (left : Option String)
  | done (left : Option String)

/-- A key, a certificate for it and its fingerprint. -/
structure SelfSigned where
  key : String
  cert : String
  fingerprint : String

structure Host where
  /-- `gethostname` -/
  hostname : Option String := none
  /-- `NW_API_TOKEN` -/
  apiToken : Option String := none
  /-- the files below a web root -/
  webFiles : String → String → Option String := fun _ _ => none
  /-- what a file gives that opens for reading -/
  files : String → Option String := fun _ => none
  /-- what OpenSSL makes for a common name, or the step that failed -/
  generate : String → Except String SelfSigned := fun _ => .error "RSA key generation failed"
  writePem : String → String → PemWrite := fun _ _ => .refused
  /-- does an `SSLServer` take a certificate file and a key file with this content -/
  loads : Option String → Option String → Bool
  /-- does the attempt of this number get an address and a port -/
  bindable : Nat → String → Int → Bool

/-- What of the config file concerns the API. -/
structure Config where
  apiPort : Int := 8080
  apiBind : String := "127.0.0.1"
  apiTls : Bool := false
  apiTlsCert : String := ""
  apiTlsKey : String := ""
  schemaFile : String := ""
  webRoot : String := ""

/-! ## `tls_cert.cpp` -/

structure CertSetup where
  ok : Bool
  info : String
  files : String → Option String

def ensureSelfSignedCert (host : Host) (certPath keyPath commonName : String) : CertSetup :=
  if (host.files certPath).isSome ∧ (host.files keyPath).isSome then
    { ok := true, info := "using existing certificate " ++ certPath, files := host.files }
  else
    let cn := if commonName = "" then "nightwatcher" else commonName
    match host.generate cn with
    | .error info => { ok := false, info, files := host.files }
    | .ok pem =>
      match host.writePem keyPath pem.key with
      | .refused =>
        { ok := false, info := "cannot open key file for writing: " ++ keyPath, files := host.files }
      | .failed left =>
        { ok := false, info := "PEM_write_PrivateKey failed"
          files := Function.update host.files keyPath left }
      | .done left =>
        let files := Function.update host.files keyPath left
        match host.writePem certPath pem.cert with
        | .refused =>
          { ok := false, info := "cannot open cert file for writing: " ++ certPath, files }
        | .failed left =>
          { ok := false, info := "PEM_write_X509 failed"
            files := Function.update files certPath left }
        | .done left =>
          { ok := true
            info := "generated self-signed certificate (CN=" ++ cn ++ ", SHA-256 "
              ++ pem.fingerprint ++ ") at " ++ certPath
            files := Function.update files certPath left }

/-! ## `HttpServer::start` -/

/-- The paths of the certificate and the key, empty for plain HTTP, and the files as they are. -/
structure TlsFiles where
  cert : String := ""
  key : String := ""
  files : String → Option String

/-- The server as it then runs. -/
def startServer (host : Host) (tls : TlsFiles) (cfg : ApiConfig) (n : Nat) :
    Except String ApiConfig :=
  let runTls := decide (tls.cert ≠ "" ∧ tls.key ≠ "")
  if runTls ∧ host.loads (tls.files tls.cert) (tls.files tls.key) = false then
    .error ("TLS certificate/key invalid or unreadable (" ++ tls.cert ++ ", " ++ tls.key ++ ")")
  else if host.bindable n cfg.bind cfg.port = false then
    .error ("cannot bind API to " ++ cfg.bind ++ ":" ++ toString cfg.port)
  else .ok { cfg with runTls }

/-! ## `start_api_server` -/

/-- Where the server is to listen, and how. -/
structure Listen where
  bind : String
  port : Int
  tls : Bool

def Listen.withBind (l : Listen) : Option String → Listen
  | some v => if v ≠ "" then { l with bind := v } else l
  | none => l

def Listen.withPort (l : Listen) : Option String → Listen
  | some v =>
    if v ≠ "" then
      let p := atoi v
      if 0 < p ∧ p < 65536 then { l with port := p } else l
    else l
  | none => l

def Listen.withTls (l : Listen) : Option String → Listen
  | some v => { l with tls := v = "on" }
  | none => l

/-- A call inside the `try` that swallows what is thrown. -/
def attempt {α : Type} (x : Act α) : Act (Option α) := tryCatch (some <$> x) fun _ => pure none

/-- The config file's values, under the settings that could be read. -/
def listenOn (d : Deps) (cfg : Config) : Act Listen := do
  let l : Listen := { bind := cfg.apiBind, port := cfg.apiPort, tls := cfg.apiTls }
  match ← attempt (ask connect) with
  | none => return l
  | some () =>
    match ← attempt (ask (getSetting d.server "api_bind")) with
    | none => return l
    | some v =>
      let l := l.withBind v
      match ← attempt (ask (getSetting d.server "api_port")) with
      | none => return l
      | some v =>
        let l := l.withPort v
        match ← attempt (ask (getSetting d.server "api_tls")) with
        | none => return l
        | some v => return l.withTls v

/-- The name in a certificate that is made here. -/
def commonName (host : Host) : String :=
  match host.hostname with
  | some hn => if hn ≠ "" then hn else "nightwatcher"
  | none => "nightwatcher"

def setUpTls (host : Host) (cfg : Config) (tls : Bool) : TlsFiles :=
  if tls then
    let setup := ensureSelfSignedCert host cfg.apiTlsCert cfg.apiTlsKey (commonName host)
    if setup.ok then { cert := cfg.apiTlsCert, key := cfg.apiTlsKey, files := setup.files }
    else { files := setup.files }
  else { files := host.files }

/-- `make(b)`, in the attempt of number `n` -/
def makeServer (host : Host) (cfg : Config) (tls : TlsFiles) (port : Int) (b : String) (n : Nat) :
    Except String ApiConfig :=
  startServer host tls
    { bind := b, port, token := host.apiToken.getD ""
      schemaFile := cfg.schemaFile, schemaText := host.files cfg.schemaFile
      webRoot := host.webFiles cfg.webRoot
      requireAuthReads := b ≠ "127.0.0.1" ∧ b ≠ "localhost" ∧ b ≠ "::1" } n

/-- The first of `k` attempts from number `n` on that does not throw. -/
def retry {α : Type} (make : Nat → Except String α) (n : Nat) : Nat → Option α
  | 0 => none
  | k + 1 =>
    match make n with
    | .ok a => some a
    | .error _ => retry make (n + 1) k

/-- Attempts at the configured address. -/
def kBindAttempts : Nat := 10

def bringUp (host : Host) (cfg : Config) (l : Listen) : Option ApiConfig :=
  let tls := setUpTls host cfg l.tls
  match retry (makeServer host cfg tls l.port l.bind) 0 kBindAttempts with
  | some srv => some srv
  | none =>
    if l.bind ≠ "127.0.0.1" ∧ l.bind ≠ "localhost" then
      match makeServer host cfg tls l.port "127.0.0.1" kBindAttempts with
      | .ok srv => some srv
      | .error _ => none
    else none

/-- The server that runs afterwards; whatever ran before was stopped. -/
def startApiServer (d : Deps) (host : Host) (cfg : Config) : Act (Option ApiConfig) := do
  if cfg.apiPort ≤ 0 then
    return none
  let l ← listenOn d cfg
  return bringUp host cfg l

/-! ## The settings -/

section Settings

variable {d : Deps} {cfg : Config}

theorem returns_attempt {α : Type} (x : Act α) : Returns (attempt x) :=
  returns_tryCatch fun _ => returns_pure none

/-- Whatever the database does, there is an address to try. -/
theorem returns_listenOn : Returns (listenOn d cfg) := by
  unfold listenOn
  refine returns_bind (returns_attempt _) fun connected => ?_
  cases connected with
  | none => exact returns_pure _
  | some u =>
    refine returns_bind (returns_attempt _) fun bind => ?_
    cases bind with
    | none => exact returns_pure _
    | some v =>
      refine returns_bind (returns_attempt _) fun port => ?_
      cases port with
      | none => exact returns_pure _
      | some v' =>
        refine returns_bind (returns_attempt _) fun tls => ?_
        cases tls with
        | none => exact returns_pure _
        | some v'' => exact returns_pure _

end Settings

/-! ## Attempts -/

variable {host : Host} {cfg : Config}

/-- A run of attempts succeeds if one of them does. -/
theorem retry_isSome_iff {α : Type} (make : Nat → Except String α) (n k : Nat) :
    (retry make n k).isSome = true ↔ ∃ i, n ≤ i ∧ i < n + k ∧ ∃ a, make i = .ok a := by
  induction k generalizing n with
  | zero =>
    constructor
    · intro h
      cases h
    · intro ⟨i, hle, hlt, _⟩
      omega
  | succ k ih =>
    unfold retry
    cases hn : make n with
    | ok a => exact iff_of_true rfl ⟨n, Nat.le_refl n, by omega, a, hn⟩
    | error e =>
      rw [show (match (Except.error e : Except String α) with
        | .ok a => some a
        | .error _ => retry make (n + 1) k) = retry make (n + 1) k from rfl, ih]
      constructor
      · intro ⟨i, hle, hlt, hok⟩
        exact ⟨i, by omega, by omega, hok⟩
      · intro ⟨i, hle, hlt, a, ha⟩
        -- the first attempt is not the one that succeeds
        have hne : i ≠ n := by
          intro heq
          rw [heq, hn] at ha
          cases ha
        exact ⟨i, by omega, by omega, a, ha⟩

/-- Plain HTTP, or a pair of files that OpenSSL takes. -/
def TlsFiles.Load (host : Host) (tls : TlsFiles) : Prop :=
  tls.cert ≠ "" → tls.key ≠ "" → host.loads (tls.files tls.cert) (tls.files tls.key) = true

theorem startServer_ok_iff (tls : TlsFiles) (ac : ApiConfig) (n : Nat) :
    (∃ srv, startServer host tls ac n = .ok srv) ↔
      tls.Load host ∧ host.bindable n ac.bind ac.port = true := by
  unfold startServer TlsFiles.Load
  dsimp only
  by_cases hload : decide (tls.cert ≠ "" ∧ tls.key ≠ "") = true ∧
      host.loads (tls.files tls.cert) (tls.files tls.key) = false
  · rw [if_pos hload]
    obtain ⟨hpaths, hrefused⟩ := hload
    obtain ⟨hcert, hkey⟩ := of_decide_eq_true hpaths
    constructor
    · intro ⟨srv, h⟩
      cases h
    · intro ⟨h, _⟩
      rw [h hcert hkey] at hrefused
      cases hrefused
  · rw [if_neg hload]
    have hgood : tls.cert ≠ "" → tls.key ≠ "" →
        host.loads (tls.files tls.cert) (tls.files tls.key) = true := by
      intro hcert hkey
      by_contra h
      exact hload ⟨decide_eq_true ⟨hcert, hkey⟩, Bool.eq_false_iff.mpr h⟩
    by_cases hbind : host.bindable n ac.bind ac.port = true
    · rw [if_neg (by rw [hbind]; exact Bool.noConfusion)]
      exact iff_of_true ⟨_, rfl⟩ ⟨hgood, hbind⟩
    · rw [if_pos (Bool.eq_false_iff.mpr hbind)]
      constructor
      · intro ⟨srv, h⟩
        cases h
      · intro h
        exact absurd h.2 hbind

theorem makeServer_ok_iff (tls : TlsFiles) (port : Int) (b : String) (n : Nat) :
    (∃ srv, makeServer host cfg tls port b n = .ok srv) ↔
      tls.Load host ∧ host.bindable n b port = true := startServer_ok_iff tls _ n

theorem attempts_iff (tls : TlsFiles) (port : Int) (b : String) :
    (retry (makeServer host cfg tls port b) 0 kBindAttempts).isSome = true ↔
      tls.Load host ∧ ∃ n < kBindAttempts, host.bindable n b port = true := by
  rw [retry_isSome_iff]
  constructor
  · intro ⟨n, _, hn, hok⟩
    obtain ⟨hload, hbind⟩ := (makeServer_ok_iff tls port b n).mp hok
    exact ⟨hload, n, by omega, hbind⟩
  · intro ⟨hload, n, hn, hbind⟩
    exact ⟨n, Nat.zero_le n, by omega, (makeServer_ok_iff tls port b n).mpr ⟨hload, hbind⟩⟩

/-- With 127.0.0.1 to be had, the files of TLS and the name `localhost` decide. -/
theorem bringUp_isSome_iff (l : Listen) (hlocal : ∀ n, host.bindable n "127.0.0.1" l.port = true) :
    (bringUp host cfg l).isSome = true ↔ (setUpTls host cfg l.tls).Load host ∧
      (l.bind = "localhost" → ∃ n < kBindAttempts, host.bindable n "localhost" l.port = true) := by
  unfold bringUp
  dsimp only
  have htried := @attempts_iff host cfg (setUpTls host cfg l.tls) l.port l.bind
  cases hretry : retry (makeServer host cfg (setUpTls host cfg l.tls) l.port l.bind) 0
      kBindAttempts with
  | some srv =>
    rw [hretry] at htried
    obtain ⟨hload, hbind⟩ := htried.mp rfl
    exact iff_of_true rfl ⟨hload, fun hname => hname ▸ hbind⟩
  | none =>
    rw [hretry] at htried
    have hfailed : (setUpTls host cfg l.tls).Load host →
        ¬∃ n < kBindAttempts, host.bindable n l.bind l.port = true := fun hload hbind =>
      Bool.false_ne_true (htried.mpr ⟨hload, hbind⟩)
    have hfallback := @makeServer_ok_iff host cfg (setUpTls host cfg l.tls) l.port
      "127.0.0.1" kBindAttempts
    by_cases hname : l.bind ≠ "127.0.0.1" ∧ l.bind ≠ "localhost"
    · rw [if_pos hname]
      cases hmake : makeServer host cfg (setUpTls host cfg l.tls) l.port "127.0.0.1" kBindAttempts with
      | ok srv =>
        have hload := (hfallback.mp ⟨srv, hmake⟩).1
        exact iff_of_true rfl ⟨hload, fun h => absurd h hname.2⟩
      | error e =>
        constructor
        · intro h
          cases h
        · intro ⟨hload, _⟩
          obtain ⟨srv, hsrv⟩ := hfallback.mpr ⟨hload, hlocal _⟩
          rw [hmake] at hsrv
          cases hsrv
    · rw [if_neg hname]
      constructor
      · intro h
        cases h
      · intro ⟨hload, hlocalhost⟩
        -- the address was one of the two that have no fallback
        by_cases h : l.bind = "localhost"
        · exact absurd (h ▸ hlocalhost h) (hfailed hload)
        · have hnumeric : l.bind = "127.0.0.1" := by
            by_contra hne
            exact hname ⟨hne, h⟩
          exact absurd ⟨0, by decide, hnumeric ▸ hlocal 0⟩ (hfailed hload)

/-! ## The pair of files -/

/-- The certificate and the key that TLS would be served with are taken by OpenSSL: those
that are there already, or else those a set-up that succeeds leaves. -/
structure PairLoads (host : Host) (certPath keyPath : String) : Prop where
  existing : ∀ cert key, host.files certPath = some cert → host.files keyPath = some key →
    host.loads (some cert) (some key) = true
  generated : host.files certPath = none ∨ host.files keyPath = none →
    ∀ pem key cert, host.generate (commonName host) = .ok pem →
      host.writePem keyPath pem.key = .done key → host.writePem certPath pem.cert = .done cert →
        host.loads cert (if keyPath = certPath then cert else key) = true

theorem commonName_ne_empty (host : Host) : commonName host ≠ "" := by
  unfold commonName
  split
  next hn h =>
    by_cases hempty : hn = ""
    · rw [if_neg (not_not.mpr hempty)]
      decide
    · rw [if_pos hempty]
      exact hempty
  next => decide

theorem ensureSelfSignedCert_iff (certPath keyPath : String) :
    ((ensureSelfSignedCert host certPath keyPath (commonName host)).ok = true →
      host.loads ((ensureSelfSignedCert host certPath keyPath (commonName host)).files certPath)
        ((ensureSelfSignedCert host certPath keyPath (commonName host)).files keyPath) = true) ↔
      PairLoads host certPath keyPath := by
  unfold ensureSelfSignedCert
  by_cases hexist : (host.files certPath).isSome ∧ (host.files keyPath).isSome
  · rw [if_pos hexist]
    obtain ⟨cert, hcert⟩ := Option.isSome_iff_exists.mp hexist.1
    obtain ⟨key, hkey⟩ := Option.isSome_iff_exists.mp hexist.2
    dsimp only
    constructor
    · intro h
      refine ⟨fun c k hc hk => ?_, fun hmissing => ?_⟩
      · rw [← hc, ← hk]
        exact h rfl
      · rw [hcert, hkey] at hmissing
        rcases hmissing with h' | h'
        · cases h'
        · cases h'
    · intro h _
      rw [hcert, hkey]
      exact h.existing cert key hcert hkey
  · have hmissing : host.files certPath = none ∨ host.files keyPath = none := by
      by_contra h
      push Not at h
      exact hexist ⟨Option.isSome_iff_ne_none.mpr h.1, Option.isSome_iff_ne_none.mpr h.2⟩
    have hvoid : ∀ cert key, host.files certPath = some cert → host.files keyPath = some key →
        host.loads (some cert) (some key) = true := by
      intro cert key hcert hkey
      exact absurd ⟨Option.isSome_iff_exists.mpr ⟨cert, hcert⟩,
        Option.isSome_iff_exists.mpr ⟨key, hkey⟩⟩ hexist
    rw [if_neg hexist]
    dsimp only
    rw [if_neg (commonName_ne_empty host)]
    -- a set-up that fails on the way has no pair to load
    cases hgenerate : host.generate (commonName host) with
    | error info =>
      refine iff_of_true (fun h => absurd h Bool.false_ne_true) ⟨hvoid, fun _ pem key cert hpem => ?_⟩
      rw [hgenerate] at hpem
      cases hpem
    | ok pem =>
      dsimp only
      cases hkey : host.writePem keyPath pem.key with
      | refused | failed =>
        refine iff_of_true (fun h => absurd h Bool.false_ne_true)
          ⟨hvoid, fun _ pem' key cert hpem hwrite => ?_⟩
        rw [hgenerate] at hpem
        cases hpem
        rw [hkey] at hwrite
        cases hwrite
      | done key =>
        dsimp only
        cases hcert : host.writePem certPath pem.cert with
        | refused | failed =>
          refine iff_of_true (fun h => absurd h Bool.false_ne_true)
            ⟨hvoid, fun _ pem' key cert hpem _ hwrite => ?_⟩
          rw [hgenerate] at hpem
          cases hpem
          rw [hcert] at hwrite
          cases hwrite
        | done cert =>
          dsimp only
          rw [Function.update_self, Function.update_apply, Function.update_self]
          constructor
          · intro h
            refine ⟨hvoid, fun _ pem' key' cert' hpem hkey' hcert' => ?_⟩
            rw [hgenerate] at hpem
            cases hpem
            rw [hkey] at hkey'
            cases hkey'
            rw [hcert] at hcert'
            cases hcert'
            exact h rfl
          · intro h _
            exact h.generated hmissing pem key cert hgenerate hkey hcert

theorem setUpTls_load_iff (tls : Bool) :
    (setUpTls host cfg tls).Load host ↔
      (tls = true → cfg.apiTlsCert ≠ "" → cfg.apiTlsKey ≠ "" →
        PairLoads host cfg.apiTlsCert cfg.apiTlsKey) := by
  unfold setUpTls TlsFiles.Load
  cases tls with
  | false => exact iff_of_true (fun h => absurd rfl h) fun h => absurd h Bool.false_ne_true
  | true =>
    rw [if_pos rfl]
    dsimp only
    rw [← ensureSelfSignedCert_iff]
    cases hok : (ensureSelfSignedCert host cfg.apiTlsCert cfg.apiTlsKey (commonName host)).ok with
    | false =>
      exact iff_of_true (fun h => absurd rfl h) fun _ _ _ h => absurd h Bool.false_ne_true
    | true =>
      rw [if_pos rfl]
      constructor
      · intro h _ hcert hkey _
        exact h hcert hkey
      · intro h hcert hkey
        exact h rfl hcert hkey rfl

/-! ## When the API comes up -/

/-- What the files of TLS and the name `localhost` have to do for it. -/
structure ComesUp (host : Host) (cfg : Config) (l : Listen) : Prop where
  pair : l.tls = true → cfg.apiTlsCert ≠ "" → cfg.apiTlsKey ≠ "" →
    PairLoads host cfg.apiTlsCert cfg.apiTlsKey
  localhost : l.bind = "localhost" →
    ∃ n < kBindAttempts, host.bindable n "localhost" l.port = true

/-- Whatever the config file, the settings and the files hold, and whatever attempts to bind
fail, as long as 127.0.0.1 can be bound: a server runs at the end exactly under `ComesUp`. -/
theorem comes_up_iff (d : Deps) (host : Host) (cfg : Config) (w : World) (hport : 0 < cfg.apiPort) :
    ∃ l w', listenOn d cfg w = .ok l w' ∧
      ((∀ n, host.bindable n "127.0.0.1" l.port = true) →
        ((∃ srv w'', startApiServer d host cfg w = .ok (some srv) w'') ↔ ComesUp host cfg l)) := by
  obtain ⟨l, w', hl⟩ := @returns_listenOn d cfg w
  refine ⟨l, w', hl, fun hlocal => ?_⟩
  have hrun : startApiServer d host cfg w = .ok (bringUp host cfg l) w' := by
    unfold startApiServer
    rw [if_neg (by omega)]
    show EStateM.bind (listenOn d cfg) _ w = _
    unfold EStateM.bind
    rw [hl]
    rfl
  have hup := (@bringUp_isSome_iff host cfg l hlocal).trans
    (and_congr_left' (setUpTls_load_iff l.tls))
  constructor
  · intro ⟨srv, w'', h⟩
    rw [hrun] at h
    injection h with hsrv
    obtain ⟨hpair, hlocalhost⟩ := hup.mp (Option.isSome_iff_exists.mpr ⟨srv, hsrv⟩)
    exact ⟨hpair, hlocalhost⟩
  · intro h
    obtain ⟨srv, hsrv⟩ := Option.isSome_iff_exists.mp (hup.mpr ⟨h.pair, h.localhost⟩)
    exact ⟨srv, w', by rw [hrun, hsrv]⟩

/-- A host on which only the loopback address can be bound, by its number. -/
def loopbackHost : Host where
  loads _ _ := false
  bindable _ b _ := b = "127.0.0.1"

/-- An address that is not this host's leads to 127.0.0.1. -/
theorem strange_bind_comes_up : ∃ srv w,
    startApiServer (Deps.plain []) loopbackHost { apiBind := "192.168.1.9" } {} = .ok (some srv) w := by
  obtain ⟨l, w', hl, hup⟩ :=
    comes_up_iff (Deps.plain []) loopbackHost { apiBind := "192.168.1.9" } {} (by decide)
  have hbind : l = { bind := "192.168.1.9", port := 8080, tls := false } := by
    have hrun : listenOn (Deps.plain []) { apiBind := "192.168.1.9" } {} =
        .ok { bind := "192.168.1.9", port := 8080, tls := false } {} := rfl
    rw [hrun] at hl
    cases hl
    rfl
  subst hbind
  exact (hup fun _ => rfl).mpr ⟨fun h => absurd h Bool.false_ne_true, fun h => absurd h (by decide)⟩

/-- A host that can bind anything, with a certificate and a key file that are no PEM. -/
def junkHost : Host where
  files _ := some "junk"
  loads _ _ := false
  bindable _ _ _ := true

/-- Neither the plain-HTTP fallback nor that to 127.0.0.1 helps against files that do not load,
and the name `localhost` has no fallback. -/
theorem locked_out : junkHost.bindable 0 "127.0.0.1" 8080 = true ∧
    startApiServer (Deps.plain []) junkHost
      { apiTls := true, apiTlsCert := "cert.pem", apiTlsKey := "key.pem" } {} = .ok none {} ∧
    loopbackHost.bindable 0 "127.0.0.1" 8080 = true ∧
    startApiServer (Deps.plain []) loopbackHost { apiBind := "localhost" } {} = .ok none {} :=
  ⟨rfl, rfl, rfl, rfl⟩

end NightWatcher.Daemon
