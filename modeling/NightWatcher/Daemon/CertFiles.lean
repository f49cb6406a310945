import NightWatcher.Daemon.ApiServer
import NightWatcher.Lib.BufferedFile
import NightWatcher.Lib.Transcript

/-!
# The certificate files over many calls

`ensure_self_signed_cert` takes any two files that open for a certificate and its key. Its own
files it does not always write whole: an open, a write or a close may fail, the close unseen, and
what a failed call leaves is what the next one finds. So the state to look after is that of the
two files between calls (`Sound`): one of them is missing, or they are a pair. `Kept` says which
failures a call may meet without losing that, and `reported_usable_iff` that only then every call,
and one more that opens both files, reports a usable pair.
-/

namespace NightWatcher.TlsCert

open BufferedFile Transcript Daemon

/-! ## One call -/

/-- What becomes of a file that a call writes. -/
inductive PemFate where
  /-- it cannot be opened -/
  | refused
  /-- a write is seen to fail -/
  | failed (left : Written)
  /-- no failure is seen; the close may still lose some -/
  | closed (left : Written)

/-- What of a text is left in the file. -/
def leftOf (left : Written) (text : String) : String := String.ofList (left.reached text.toList)

theorem leftOf_whole (text : String) : leftOf .whole text = text := String.ofList_toList

def PemFate.write (text : String) : PemFate → PemWrite
  | .refused => .refused
  | .failed left => .failed (some (leftOf left text))
  | .closed left => .done (some (leftOf left text))

/-- What the files hold; a file that is missing holds nothing. -/
abbrev Disk := String → Option String

/-- A call, and what goes wrong in it. What OpenSSL generates is a certificate and its key. -/
structure CertCall (belong : String → String → Prop) where
  commonName : String
  /-- does the file open for reading, if it is there -/
  opens : String → Bool
  generate : String → Except String SelfSigned
  keyFate : PemFate
  certFate : PemFate
  generates : ∀ cn pem, generate cn = .ok pem → belong pem.cert pem.key

section Calls

variable {belong : String → String → Prop} (certPath keyPath : String)

/-- The host as the call sees it. -/
def CertCall.host (call : CertCall belong) (disk : Disk) : Host where
  files path := if call.opens path then disk path else none
  generate := call.generate
  writePem path text := (if path = keyPath then call.keyFate else call.certFate).write text
  -- neither is asked before the files are set up
  loads _ _ := false
  bindable _ _ _ := false

def CertCall.setup (call : CertCall belong) (disk : Disk) : CertSetup :=
  ensureSelfSignedCert (call.host keyPath disk) certPath keyPath call.commonName

/-- What is not written stays, also where it did not open for reading. -/
def onDisk (disk files : Disk) : Disk := fun path => (files path).or (disk path)

/-- The disk after a call. -/
def afterCall (disk : Disk) (call : CertCall belong) : Disk :=
  onDisk disk (call.setup certPath keyPath disk).files

/-- The two files are a complete certificate and the complete key that belongs to it. -/
def Usable (belong : String → String → Prop) (disk : Disk) : Prop :=
  ∃ cert key, disk certPath = some cert ∧ disk keyPath = some key ∧ belong cert key

def ReportsUsable (disk : Disk) (call : CertCall belong) : Prop :=
  (call.setup certPath keyPath disk).ok = true →
    Usable certPath keyPath belong (afterCall certPath keyPath disk call)

/-- Files that are both there are a pair. -/
def Sound (belong : String → String → Prop) (disk : Disk) : Prop :=
  ∀ cert key, disk certPath = some cert → disk keyPath = some key → belong cert key

/-- The call takes the files that are there. -/
def CertCall.Finds (call : CertCall belong) (disk : Disk) : Prop :=
  ((call.host keyPath disk).files certPath).isSome ∧ ((call.host keyPath disk).files keyPath).isSome

/-- The name that the certificate is made for. -/
def CertCall.subject (call : CertCall belong) : String :=
  if call.commonName = "" then "nightwatcher" else call.commonName

/-- The failures of a call that generates: a new key that no new certificate follows meets no
certificate but its own, and what is left of a new key and a new certificate is a pair. -/
def Kept (disk : Disk) (call : CertCall belong) : Prop :=
  ¬call.Finds certPath keyPath disk → ∀ pem, call.generate call.subject = .ok pem →
    match call.keyFate, call.certFate with
    | .refused, _ => True
    | .failed key, _ | .closed key, .refused =>
      ∀ cert, disk certPath = some cert → belong cert (leftOf key pem.key)
    | .closed key, .failed cert | .closed key, .closed cert =>
      belong (leftOf cert pem.cert) (leftOf key pem.key)

/-! ## What a call does -/

variable {certPath keyPath} {disk : Disk} {call : CertCall belong}

theorem onDisk_host (keyPath : String) (call : CertCall belong) (disk : Disk) :
    onDisk disk (call.host keyPath disk).files = disk := by
  funext path
  unfold onDisk CertCall.host
  dsimp only
  by_cases hopens : call.opens path = true
  · rw [if_pos hopens, Option.or_self]
  · rw [if_neg hopens, Option.none_or]

theorem onDisk_update (disk files : Disk) (path text : String) :
    onDisk disk (Function.update files path (some text)) =
      Function.update (onDisk disk files) path (some text) := by
  funext path'
  unfold onDisk
  by_cases hpath : path' = path
  · subst path'
    rw [Function.update_self, Function.update_self, Option.some_or]
  · rw [Function.update_of_ne hpath, Function.update_of_ne hpath]

/-- A call that takes the files that are there writes nothing. -/
theorem setup_found (h : call.Finds certPath keyPath disk) :
    (call.setup certPath keyPath disk).ok = true ∧ afterCall certPath keyPath disk call = disk := by
  have hfiles : ((call.host keyPath disk).files certPath).isSome ∧
      ((call.host keyPath disk).files keyPath).isSome := h
  unfold afterCall CertCall.setup ensureSelfSignedCert
  rw [if_pos hfiles]
  exact ⟨rfl, onDisk_host keyPath call disk⟩

theorem setup_ungenerated (h : ¬call.Finds certPath keyPath disk) {info : String}
    (hgenerate : call.generate call.subject = .error info) :
    (call.setup certPath keyPath disk).ok = false ∧ afterCall certPath keyPath disk call = disk := by
  have hfiles : ¬(((call.host keyPath disk).files certPath).isSome ∧
      ((call.host keyPath disk).files keyPath).isSome) := h
  have hhost : (call.host keyPath disk).generate
      (if call.commonName = "" then "nightwatcher" else call.commonName) = .error info := hgenerate
  unfold afterCall CertCall.setup ensureSelfSignedCert
  rw [if_neg hfiles]
  dsimp only
  rw [hhost]
  exact ⟨rfl, onDisk_host keyPath call disk⟩

/-- The disk after a call that generates. -/
def generated (certPath keyPath : String) (disk : Disk) (call : CertCall belong)
    (pem : SelfSigned) : Disk :=
  match call.keyFate, call.certFate with
  | .refused, _ => disk
  | .failed key, _ | .closed key, .refused => Function.update disk keyPath (some (leftOf key pem.key))
  | .closed key, .failed cert | .closed key, .closed cert =>
    Function.update (Function.update disk keyPath (some (leftOf key pem.key))) certPath
      (some (leftOf cert pem.cert))

theorem setup_generated (h : ¬call.Finds certPath keyPath disk) (hpaths : certPath ≠ keyPath)
    {pem : SelfSigned} (hpem : call.generate call.subject = .ok pem) :
    ((call.setup certPath keyPath disk).ok = true →
      ∃ key cert, call.keyFate = .closed key ∧ call.certFate = .closed cert) ∧
      afterCall certPath keyPath disk call = generated certPath keyPath disk call pem := by
  have hfiles : ¬(((call.host keyPath disk).files certPath).isSome ∧
      ((call.host keyPath disk).files keyPath).isSome) := h
  have hhost : (call.host keyPath disk).generate
      (if call.commonName = "" then "nightwatcher" else call.commonName) = .ok pem := hpem
  have hkey : (call.host keyPath disk).writePem keyPath pem.key = call.keyFate.write pem.key := by
    unfold CertCall.host
    dsimp only
    rw [if_pos rfl]
  have hcert : (call.host keyPath disk).writePem certPath pem.cert = call.certFate.write pem.cert := by
    unfold CertCall.host
    dsimp only
    rw [if_neg hpaths]
  unfold afterCall CertCall.setup ensureSelfSignedCert generated
  rw [if_neg hfiles]
  dsimp only
  rw [hhost]
  dsimp only
  rw [hkey, hcert]
  cases call.keyFate with
  | refused => exact ⟨nofun, onDisk_host keyPath call disk⟩
  | failed key =>
    refine ⟨nofun, ?_⟩
    dsimp only [PemFate.write]
    rw [onDisk_update, onDisk_host]
  | closed key =>
    cases call.certFate with
    | refused =>
      refine ⟨nofun, ?_⟩
      dsimp only [PemFate.write]
      rw [onDisk_update, onDisk_host]
    | failed cert =>
      refine ⟨nofun, ?_⟩
      dsimp only [PemFate.write]
      rw [onDisk_update, onDisk_update, onDisk_host]
    | closed cert =>
      refine ⟨fun _ => ⟨key, cert, rfl, rfl⟩, ?_⟩
      dsimp only [PemFate.write]
      rw [onDisk_update, onDisk_update, onDisk_host]

/-! ## What a call keeps -/

theorem sound_key (hpaths : certPath ≠ keyPath) {key : String} :
    Sound certPath keyPath belong (Function.update disk keyPath (some key)) ↔
      ∀ cert, disk certPath = some cert → belong cert key := by
  unfold Sound
  rw [Function.update_of_ne hpaths, Function.update_self]
  constructor
  · intro h cert hcert
    exact h cert key hcert rfl
  · intro h cert key' hcert hkey
    obtain rfl := Option.some.inj hkey
    exact h cert hcert

theorem sound_pair (hpaths : certPath ≠ keyPath) {key cert : String} :
    Sound certPath keyPath belong
      (Function.update (Function.update disk keyPath (some key)) certPath (some cert)) ↔
          belong cert key := by
  unfold Sound
  rw [Function.update_self, Function.update_of_ne hpaths.symm, Function.update_self]
  constructor
  · intro h
    exact h cert key rfl rfl
  · intro h cert' key' hcert hkey
    obtain rfl := Option.some.inj hcert
    obtain rfl := Option.some.inj hkey
    exact h

/-- Between calls that are sound, the condition is that the next state is. -/
theorem kept_iff (hpaths : certPath ≠ keyPath) (hsound : Sound certPath keyPath belong disk) :
    Kept certPath keyPath disk call ↔
      Sound certPath keyPath belong (afterCall certPath keyPath disk call) := by
  unfold Kept
  by_cases hfinds : call.Finds certPath keyPath disk
  · rw [(setup_found hfinds).2]
    exact iff_of_true (fun h => absurd hfinds h) hsound
  · cases hpem : call.generate call.subject with
    | error info =>
      rw [(setup_ungenerated hfinds hpem).2]
      exact iff_of_true (fun _ _ h => nomatch h) hsound
    | ok pem =>
      rw [(setup_generated hfinds hpaths hpem).2]
      have hone : ∀ {P : SelfSigned → Prop}, (¬call.Finds certPath keyPath disk →
          ∀ pem', (Except.ok pem : Except String SelfSigned) = .ok pem' → P pem') ↔ P pem := fun {P} =>
        ⟨fun h => h hfinds pem rfl, fun h _ pem' hpem' => Except.ok.inj hpem' ▸ h⟩
      rw [hone]
      unfold generated
      -- by what is written: nothing, the key alone, both
      cases call.keyFate with
      | refused => exact iff_of_true trivial hsound
      | failed key => exact (sound_key hpaths).symm
      | closed key =>
        cases call.certFate with
        | refused => exact (sound_key hpaths).symm
        | failed cert | closed cert => exact (sound_pair hpaths).symm

/-- A call that returns true leaves both files there. -/
theorem reports_of_sound (hpaths : certPath ≠ keyPath)
    (hsound : Sound certPath keyPath belong (afterCall certPath keyPath disk call)) :
    ReportsUsable certPath keyPath disk call := by
  intro hok
  by_cases hfinds : call.Finds certPath keyPath disk
  · rw [(setup_found hfinds).2] at hsound ⊢
    have hthere : ∀ path, ((call.host keyPath disk).files path).isSome → ∃ text,
        disk path = some text := by
      intro path hopened
      unfold CertCall.host at hopened
      dsimp only at hopened
      by_cases hopens : call.opens path = true
      · rw [if_pos hopens] at hopened
        exact Option.isSome_iff_exists.mp hopened
      · rw [if_neg hopens] at hopened
        exact nomatch hopened
    obtain ⟨cert, hcert⟩ := hthere certPath hfinds.1
    obtain ⟨key, hkey⟩ := hthere keyPath hfinds.2
    exact ⟨cert, key, hcert, hkey, hsound cert key hcert hkey⟩
  · cases hpem : call.generate call.subject with
    | error info =>
      rw [(setup_ungenerated hfinds hpem).1] at hok
      exact nomatch hok
    | ok pem =>
      obtain ⟨hclosed, hafter⟩ := setup_generated hfinds hpaths hpem
      obtain ⟨key, cert, hkey, hcert⟩ := hclosed hok
      unfold generated at hafter
      rw [hkey, hcert] at hafter
      dsimp only at hafter
      rw [hafter] at hsound ⊢
      refine ⟨leftOf cert pem.cert, leftOf key pem.key, Function.update_self .., ?_,
        (sound_pair hpaths).mp hsound⟩
      rw [Function.update_of_ne hpaths.symm, Function.update_self]

/-- A later call that opens both files. -/
def reopening (belong : String → String → Prop) : CertCall belong where
  commonName := ""
  opens _ := true
  generate _ := .error "RSA key generation failed"
  keyFate := .refused
  certFate := .refused
  generates := nofun

theorem sound_of_reopening (h : ReportsUsable certPath keyPath disk (reopening belong)) :
    Sound certPath keyPath belong disk := by
  intro cert key hcert hkey
  have hfinds : (reopening belong).Finds certPath keyPath disk := by
    unfold CertCall.Finds CertCall.host reopening
    dsimp only
    rw [if_pos rfl, if_pos rfl, hcert, hkey]
    exact ⟨rfl, rfl⟩
  obtain ⟨hok, hafter⟩ := setup_found hfinds
  obtain ⟨cert', key', hcert', hkey', hbelong⟩ := h hok
  rw [hafter] at hcert' hkey'
  obtain rfl := Option.some.inj (hcert.symm.trans hcert')
  obtain rfl := Option.some.inj (hkey.symm.trans hkey')
  exact hbelong

/-! ## Sequences of calls -/

/-- A call that generates nothing keeps what there is. -/
theorem kept_reopening : Kept certPath keyPath disk (reopening belong) := by
  intro _ pem hpem
  exact nomatch hpem

/-- From where one of the files is missing, every call of a sequence, and a call behind it that
opens both files, reports only a usable pair, if and only if every call keeps to the condition. -/
theorem reported_usable_iff (hpaths : certPath ≠ keyPath)
    (hmissing : disk certPath = none ∨ disk keyPath = none) (calls : List (CertCall belong)) :
    Throughout (afterCall certPath keyPath) (Kept certPath keyPath) disk calls ↔
      Throughout (afterCall certPath keyPath)
        (fun disk call => ReportsUsable certPath keyPath disk call ∧
          ReportsUsable certPath keyPath (afterCall certPath keyPath disk call) (reopening belong))
        disk calls := by
  have hstart : Sound certPath keyPath belong disk := by
    intro cert key hcert hkey
    rcases hmissing with hnone | hnone
    · exact nomatch hnone.symm.trans hcert
    · exact nomatch hnone.symm.trans hkey
  refine throughout_congr (A := fun _ _ => True)
    (fun disk call _ hsound => ⟨?_, fun h => sound_of_reopening h.2⟩)
    (throughout_trivial fun _ _ => trivial) hstart
  constructor
  · intro hkept
    have hnext := (kept_iff hpaths hsound).mp hkept
    have hlater := (kept_iff hpaths hnext).mp kept_reopening
    exact ⟨reports_of_sound hpaths hnext, reports_of_sound hpaths hlater⟩
  · intro h
    exact (kept_iff hpaths hsound).mpr (sound_of_reopening h.2)

end Calls

/-! ## Two sequences -/

def madePair : SelfSigned where
  key := "KEY"
  cert := "CERT"
  fingerprint := "00"

/-- The pair that is made, and no part of it. -/
def Made (cert key : String) : Prop := cert = madePair.cert ∧ key = madePair.key

def making (keyFate certFate : PemFate) : CertCall Made where
  commonName := "nightwatcher"
  opens _ := true
  generate _ := .ok madePair
  keyFate := keyFate
  certFate := certFate
  generates _ pem hpem := by
    obtain rfl := Except.ok.inj hpem
    exact ⟨rfl, rfl⟩

/-- The certificate cannot be opened at first, and is written whole by the second call. -/
theorem retried_usable : Throughout (afterCall "cert.pem" "key.pem")
    (fun disk call => ReportsUsable "cert.pem" "key.pem" disk call ∧ ReportsUsable "cert.pem" "key.pem"
      (afterCall "cert.pem" "key.pem" disk call) (reopening Made)) (fun _ => none)
    [making (.closed .whole) .refused, making (.closed .whole) (.closed .whole)] := by
  refine (reported_usable_iff (by decide) (Or.inl rfl) _).mp ⟨?_, ?_, trivial⟩
  · intro _ pem _ cert hcert
    exact nomatch hcert
  · intro _ pem hpem
    obtain rfl := Except.ok.inj hpem
    exact ⟨leftOf_whole _, leftOf_whole _⟩

/-- The disk is full when the certificate is closed, which nobody checks: the call returns true. -/
theorem part_reported : ¬∀ (belong : String → String → Prop) (certPath keyPath : String) (disk : Disk)
    (calls : List (CertCall belong)), certPath ≠ keyPath → disk certPath = none → disk keyPath = none →
      Throughout (afterCall certPath keyPath) (ReportsUsable certPath keyPath) disk calls := by
  intro h
  have hruns := h Made "cert.pem" "key.pem" (fun _ => none)
    [making (.closed .whole) (.closed (.part 1))] (by decide) rfl rfl
  obtain ⟨cert, key, hcert, -, hmade, -⟩ := hruns.1 (by decide)
  subst cert
  exact absurd hcert (by decide)

end NightWatcher.TlsCert
