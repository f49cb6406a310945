import NightWatcher.Export.Gdrive
import NightWatcher.Lib.NumberText
import NightWatcher.Lib.TextLines

/-!
# `gdrive_auth.cpp`: the way of the authorization code

A browser lands on an address whose query carries the code, percent-encoded. It is pasted into
`nwexport-auth`, which finds the code (`extractCode`), decodes it (`urlDecode`) and sends it on in a
form, encoded again by `gdrive.cpp`. The code is the same at the end of it: `code_survives` for the
paste, `code_exchanged` for the form.

A `std::string` is a list of bytes, and a byte a character below 256.
-/

namespace NightWatcher.GdriveAuth

open NumberText PercentCode TextLines

/-! ## The program -/

/-- What `url_encode` leaves as it is. -/
def unreserved (c : Char) : Bool := c.isAlphanum || c = '-' || c = '_' || c = '.' || c = '~'

/-- `url_encode`, of any bytes. -/
def urlEncode (s : List Char) : List Char := encode unreserved s

/-- An escape needs two characters, which are then read as `std::stoi` reads them. -/
def urlDecode : List Char → Except String (List Char)
  | [] => return []
  | '%' :: a :: b :: rest => do
    let v ← stoiHex [a, b]
    let out ← urlDecode rest
    return Char.ofNat (v % 256).toNat :: out
  | '+' :: rest => do
    let out ← urlDecode rest
    return ' ' :: out
  | c :: rest => do
    let out ← urlDecode rest
    return c :: out

/-- What is cut off at the end of a paste. -/
def isTail (c : Char) : Bool := c = '\n' || c = '\r' || c = ' '

/-- A bare code, or an address with one in it. -/
def extractCode (input : List Char) : Except String (List Char) :=
  let value := match behind "code=".toList input with
    | some rest => rest.takeWhile (· ≠ '&')
    | none => input
  urlDecode ((value.rdropWhile isTail).dropWhile (· = ' '))

/-- `oauth_consent_url`. -/
def consentUrl (clientId redirectUri scope : List Char) : List Char :=
  "https://accounts.google.com/o/oauth2/v2/auth?client_id=".toList ++ urlEncode clientId ++
    "&redirect_uri=".toList ++ urlEncode redirectUri ++ "&response_type=code&scope=".toList ++
    urlEncode scope ++ "&access_type=offline&prompt=consent".toList

/-- The form that `oauth_exchange_code` posts. -/
def exchangeBody (clientId clientSecret code redirectUri : List Char) : List Char :=
  "code=".toList ++ urlEncode code ++ "&client_id=".toList ++ urlEncode clientId ++
    "&client_secret=".toList ++ urlEncode clientSecret ++ "&redirect_uri=".toList ++
    urlEncode redirectUri ++ "&grant_type=authorization_code".toList

/-! ## Encoding and decoding -/

/-- The uploader's `url_encode` is the same, of the bytes of a text. -/
theorem urlEncode_octets (s : String) : urlEncode (octets s) = Exporter.Gdrive.urlEncode s := rfl

theorem upper_alphabet : HexAlphabet PercentCode.hexDigit := by
  unfold HexAlphabet
  decide

theorem urlDecode_octet {c : Char} (hc : c.toNat < 256) (rest : List Char) :
    urlDecode (encodeOctet c ++ rest) = (c :: ·) <$> urlDecode rest := by
  have hvalue : ((c.toNat : Int) % 256).toNat = c.toNat := by omega
  unfold encodeOctet
  rw [List.cons_append, List.cons_append, List.cons_append, List.nil_append, urlDecode,
    upper_alphabet.stoiHex_byte hc]
  cases urlDecode rest with
  | error e => rfl
  | ok out =>
    show Except.ok (Char.ofNat ((c.toNat : Int) % 256).toNat :: out) = .ok (c :: out)
    rw [hvalue, Char.ofNat_toNat]

theorem urlDecode_kept {c : Char} (hc : unreserved c = true) (rest : List Char) :
    urlDecode (c :: rest) = (c :: ·) <$> urlDecode rest := by
  have hne : ∀ {d : Char}, unreserved d = false → c ≠ d := by
    intro d hd heq
    rw [heq, hd] at hc
    cases hc
  -- neither the percent sign nor the plus sign is unreserved
  rw [urlDecode]
  · cases urlDecode rest <;> rfl
  · exact fun _ _ _ h _ => hne (by decide) h
  · exact hne (by decide)

theorem undoes_urlDecode : Undoes unreserved urlDecode where
  nil := rfl
  octet hc := urlDecode_octet hc
  kept hc := urlDecode_kept hc

theorem plain_literal {s : String} (h : s.toList.all unreserved = true) :
    ∀ c ∈ s.toList, unreserved c = true :=
  List.all_eq_true.mp h

theorem bytes_literal {s : String} (h : (s.toList.all fun c => decide (c.toNat < 256)) = true) :
    ∀ c ∈ s.toList, c.toNat < 256 :=
  fun c hc => of_decide_eq_true (List.all_eq_true.mp h c hc)

/-! ## The paste -/

/-- What follows a code in an address: nothing or white space, or further parameters. -/
inductive Ending : List Char → Prop where
  | blanks {tail : List Char} (h : ∀ c ∈ tail, isTail c = true) : Ending tail
  | parameters (rest : List Char) : Ending ('&' :: rest)

/-- An address with a code in its query, as it is pasted. -/
inductive Pasted (code : List Char) : List Char → Prop where
  | mk {redirect tail : List Char} {mark : Char} (first : ¬"code=".toList <:+: redirect)
    (marked : mark = '?' ∨ mark = '&') (ending : Ending tail) :
    Pasted code (redirect ++ mark :: ("code=".toList ++ (urlEncode code ++ tail)))

section Code

variable {code : List Char} (hbytes : ∀ c ∈ code, c.toNat < 256)
include hbytes

/-- White space is cut off a code, and nothing else. -/
theorem cut_blanks {front tail : List Char} (hfront : ∀ c ∈ front, c = ' ')
    (htail : ∀ c ∈ tail, isTail c = true) :
    ((front ++ (urlEncode code ++ tail)).rdropWhile isTail).dropWhile (· = ' ') = urlEncode code := by
  have hplain : ∀ c ∈ urlEncode code, isTail c = false := by
    intro c hc
    refine Bool.eq_false_iff.mpr fun hblank => ?_
    simp only [isTail, Bool.or_eq_true, decide_eq_true_eq] at hblank
    rcases hblank with (rfl | rfl) | rfl
    all_goals exact notMem_encode hbytes (by decide) (by decide) (by decide) hc
  have hblank : ∀ c ∈ front, decide (c = ' ') = true := fun c hc => decide_eq_true (hfront c hc)
  by_cases hempty : urlEncode code = []
  · -- then the whole paste is white space
    have hall : ∀ c ∈ front ++ ([] ++ tail), isTail c = true := by
      intro c hc
      rcases List.mem_append.mp hc with hc | hc
      · rw [hfront c hc]
        rfl
      · exact htail c hc
    rw [hempty, List.rdropWhile_eq_nil_iff.mpr hall]
    rfl
  · have hlast : ∀ c ∈ (front ++ urlEncode code).getLast?, isTail c = false := by
      intro c hc
      rw [List.getLast?_append_of_ne_nil _ hempty] at hc
      exact hplain c (List.mem_of_getLast? hc)
    have hhead : (urlEncode code).dropWhile (· = ' ') = urlEncode code := by
      obtain ⟨c, rest, hcons⟩ := List.exists_cons_of_ne_nil hempty
      have hc := hplain c (hcons ▸ List.mem_cons_self)
      rw [hcons]
      refine List.dropWhile_cons_of_neg fun hspace => ?_
      rw [of_decide_eq_true hspace] at hc
      exact absurd hc (by decide)
    rw [← List.append_assoc, rdropWhile_append htail hlast, List.dropWhile_append_of_pos hblank, hhead]

theorem urlDecode_urlEncode : urlDecode (urlEncode code) = .ok code :=
  undoes_urlDecode.encode hbytes

/-- A bare code is read too, with white space around it. -/
theorem extractCode_bare {front tail : List Char} (hfront : ∀ c ∈ front, c = ' ')
    (htail : ∀ c ∈ tail, isTail c = true) :
    extractCode (front ++ (urlEncode code ++ tail)) = .ok code := by
  have hnone : behind "code=".toList (front ++ (urlEncode code ++ tail)) = none := by
    refine behind_none fun hin => ?_
    have hmem : '=' ∈ front ++ (urlEncode code ++ tail) := hin.subset (by decide)
    rcases List.mem_append.mp hmem with h | h
    · exact absurd (hfront _ h) (by decide)
    · rcases List.mem_append.mp h with h | h
      · exact notMem_encode hbytes (by decide) (by decide) (by decide) h
      · exact absurd (htail _ h) (by decide)
  unfold extractCode
  rw [hnone]
  dsimp only
  rw [cut_blanks hbytes hfront htail, urlDecode_urlEncode hbytes]

theorem extractCode_pasted {text : List Char} (h : Pasted code text) : extractCode text = .ok code := by
  obtain @⟨redirect, tail, mark, hfirst, hmark, hending⟩ := h
  have hmark' : mark ∉ "code=".toList := by
    rcases hmark with rfl | rfl
    · decide
    · decide
  have hamp : ∀ c ∈ urlEncode code, decide (c ≠ '&') = true := by
    intro c hc
    refine decide_eq_true fun heq => ?_
    exact notMem_encode hbytes (by decide) (by decide) (by decide) (heq ▸ hc)
  -- no occurrence of the pattern reaches over the mark, so the first one is the code's
  unfold extractCode
  rw [behind_marked hmark' hfirst]
  dsimp only
  rw [List.takeWhile_append_of_pos hamp]
  have hcut : (((urlEncode code ++ tail.takeWhile (· ≠ '&')).rdropWhile isTail).dropWhile (· = ' ')) =
      urlEncode code := by
    refine @cut_blanks code hbytes [] _ nofun fun c hc => ?_
    cases hending with
    | blanks hblanks => exact hblanks c ((List.takeWhile_prefix _).subset hc)
    | parameters rest =>
      rw [List.takeWhile_cons_of_neg (by decide)] at hc
      exact absurd hc List.not_mem_nil
  rw [hcut, urlDecode_urlEncode hbytes]

end Code

/-- A code comes through the browser and the paste as it was. -/
theorem code_survives (code : List Char) (hbytes : ∀ c ∈ code, c.toNat < 256) :
    urlDecode (urlEncode code) = .ok code ∧
      ∀ text, Pasted code text → extractCode text = .ok code :=
  ⟨urlDecode_urlEncode hbytes, fun _ h => extractCode_pasted hbytes h⟩

theorem code_survives_address :
    urlDecode (urlEncode "4/0A+b =%".toList) = .ok "4/0A+b =%".toList ∧
      extractCode "http://127.0.0.1/?state=x&code=4%2F0A%2Bb%20%3D%25&scope=drive\n".toList =
        .ok "4/0A+b =%".toList := by
  obtain ⟨hdecode, hextract⟩ := code_survives "4/0A+b =%".toList (bytes_literal rfl)
  refine ⟨hdecode, hextract _ ?_⟩
  exact @Pasted.mk _ "http://127.0.0.1/?state=x".toList "&scope=drive\n".toList '&' (by decide)
    (Or.inr rfl) (.parameters "scope=drive\n".toList)

/-! ## The exchange -/

/-- The fields of a form, as they are received. -/
def formFields (body : List Char) : Option (List (List Char × List Char)) :=
  (body.splitOn '&').mapM fun field => do
    let name ← decode (field.takeWhile (· ≠ '='))
    let value ← decode ((field.dropWhile (· ≠ '=')).drop 1)
    return (name, value)

/-- A form with names that need no encoding. -/
def form (fields : List (List Char × List Char)) : List Char :=
  ['&'].intercalate (fields.map fun f => f.1 ++ '=' :: urlEncode f.2)

theorem formFields_form {fields : List (List Char × List Char)} (hne : fields ≠ [])
    (hnames : ∀ f ∈ fields, ∀ c ∈ f.1, unreserved c = true)
    (hvalues : ∀ f ∈ fields, ∀ c ∈ f.2, c.toNat < 256) : formFields (form fields) = some fields := by
  have hamp : ∀ piece ∈ fields.map (fun f => f.1 ++ '=' :: urlEncode f.2), '&' ∉ piece := by
    intro piece hpiece hmem
    obtain ⟨f, hf, rfl⟩ := List.mem_map.mp hpiece
    rcases List.mem_append.mp hmem with h | h
    · exact absurd (hnames f hf _ h) (by decide)
    · rcases List.mem_cons.mp h with h | h
      · exact absurd h (by decide)
      · exact notMem_encode (hvalues f hf) (by decide) (by decide) (by decide) h
  have undoes : Undoes unreserved decode := undoes_decode (by decide) (by decide)
  unfold formFields form
  rw [List.splitOn_intercalate '&' hamp (by simpa using hne)]
  clear hamp hne
  -- each field on its own, cut at its first `=`, which is behind the name
  induction fields with
  | nil => rfl
  | cons f rest ih =>
    have hname := hnames f List.mem_cons_self
    have hstop : ∀ c ∈ f.1, decide (c ≠ '=') = true := by
      intro c hc
      refine decide_eq_true fun heq => ?_
      have hkept := hname c hc
      rw [heq] at hkept
      exact absurd hkept (by decide)
    have hdecode : decode f.1 = some f.1 := undoes.plain hname
    have hvalue : decode (urlEncode f.2) = some f.2 := undoes.encode (hvalues f List.mem_cons_self)
    rw [List.map_cons, List.mapM_cons, List.takeWhile_append_of_pos hstop,
      List.dropWhile_append_of_pos hstop, List.takeWhile_cons_of_neg (by decide),
      List.dropWhile_cons_of_neg (by decide), List.append_nil, List.drop_one, List.tail_cons,
      hdecode, hvalue, ih (fun g hg => hnames g (List.mem_cons_of_mem f hg)) fun g hg =>
        hvalues g (List.mem_cons_of_mem f hg)]
    rfl

theorem form_singleton (f : List Char × List Char) : form [f] = f.1 ++ '=' :: urlEncode f.2 := by
  unfold form
  rw [List.map_singleton, List.intercalate_singleton]

theorem form_cons_cons (f g : List Char × List Char) (rest : List (List Char × List Char)) :
    form (f :: g :: rest) = f.1 ++ '=' :: (urlEncode f.2 ++ '&' :: form (g :: rest)) := by
  unfold form
  rw [List.map_cons, List.map_cons, List.intercalate_cons_cons, List.append_assoc, List.append_assoc,
    List.cons_append, List.singleton_append]

section Bytes

variable {clientId clientSecret code redirectUri scope : List Char}
  (hclient : ∀ c ∈ clientId, c.toNat < 256) (hsecret : ∀ c ∈ clientSecret, c.toNat < 256)
  (hcode : ∀ c ∈ code, c.toNat < 256) (huri : ∀ c ∈ redirectUri, c.toNat < 256)
  (hscope : ∀ c ∈ scope, c.toNat < 256)

include hclient huri hscope in
/-- The consent page gets what it is asked with. -/
theorem formFields_consentUrl :
    ∃ query, consentUrl clientId redirectUri scope =
        "https://accounts.google.com/o/oauth2/v2/auth".toList ++ '?' :: query ∧
      formFields query = some [("client_id".toList, clientId), ("redirect_uri".toList, redirectUri),
        ("response_type".toList, "code".toList), ("scope".toList, scope),
        ("access_type".toList, "offline".toList), ("prompt".toList, "consent".toList)] := by
  have htype : urlEncode "code".toList = "code".toList := rfl
  have haccess : urlEncode "offline".toList = "offline".toList := rfl
  have hprompt : urlEncode "consent".toList = "consent".toList := rfl
  refine ⟨_, ?_, formFields_form (List.cons_ne_nil _ _) ?_ ?_⟩
  · have hid : "https://accounts.google.com/o/oauth2/v2/auth?client_id=".toList =
        "https://accounts.google.com/o/oauth2/v2/auth".toList ++ '?' ::
            ("client_id".toList ++ ['=']) := rfl
    have hredirect : "&redirect_uri=".toList = '&' :: ("redirect_uri".toList ++ ['=']) := rfl
    have hscopes : "&response_type=code&scope=".toList =
        '&' :: ("response_type".toList ++ '=' ::
            ("code".toList ++ '&' :: ("scope".toList ++ ['=']))) := rfl
    have hend : "&access_type=offline&prompt=consent".toList =
        '&' :: ("access_type".toList ++ '=' :: ("offline".toList ++
          '&' :: ("prompt".toList ++ '=' :: "consent".toList))) := rfl
    unfold consentUrl
    rw [hid, hredirect, hscopes, hend]
    simp only [form_cons_cons, form_singleton, htype, haccess, hprompt, List.append_assoc,
      List.cons_append, List.nil_append]
  · simp only [List.forall_mem_cons]
    exact ⟨plain_literal rfl, plain_literal rfl, plain_literal rfl, plain_literal rfl,
      plain_literal rfl, plain_literal rfl, nofun⟩
  · simp only [List.forall_mem_cons]
    exact ⟨hclient, huri, bytes_literal rfl, hscope, bytes_literal rfl, bytes_literal rfl, nofun⟩

include hclient hsecret hcode huri in
/-- The token endpoint gets the code, and the rest of what is posted. -/
theorem formFields_exchangeBody :
    formFields (exchangeBody clientId clientSecret code redirectUri) =
      some [("code".toList, code), ("client_id".toList, clientId),
        ("client_secret".toList, clientSecret), ("redirect_uri".toList, redirectUri),
        ("grant_type".toList, "authorization_code".toList)] := by
  have htype : urlEncode "authorization_code".toList = "authorization_code".toList := rfl
  have hform : exchangeBody clientId clientSecret code redirectUri =
      form [("code".toList, code), ("client_id".toList, clientId),
        ("client_secret".toList, clientSecret), ("redirect_uri".toList, redirectUri),
        ("grant_type".toList, "authorization_code".toList)] := by
    have hcodes : "code=".toList = "code".toList ++ ['='] := rfl
    have hid : "&client_id=".toList = '&' :: ("client_id".toList ++ ['=']) := rfl
    have hsecrets : "&client_secret=".toList = '&' :: ("client_secret".toList ++ ['=']) := rfl
    have hredirect : "&redirect_uri=".toList = '&' :: ("redirect_uri".toList ++ ['=']) := rfl
    have hend : "&grant_type=authorization_code".toList =
        '&' :: ("grant_type".toList ++ '=' :: "authorization_code".toList) := rfl
    unfold exchangeBody
    rw [hcodes, hid, hsecrets, hredirect, hend]
    simp only [form_cons_cons, form_singleton, htype, List.append_assoc, List.cons_append,
        List.nil_append]
  rw [hform]
  refine formFields_form (List.cons_ne_nil _ _) ?_ ?_
  · simp only [List.forall_mem_cons]
    exact ⟨plain_literal rfl, plain_literal rfl, plain_literal rfl, plain_literal rfl,
      plain_literal rfl, nofun⟩
  · simp only [List.forall_mem_cons]
    exact ⟨hcode, hclient, hsecret, huri, bytes_literal rfl, nofun⟩

include hclient hsecret hcode huri in
/-- From the address in the browser to the token endpoint. -/
theorem code_exchanged {text : List Char} (h : Pasted code text) :
    ∃ received, extractCode text = .ok received ∧
      formFields (exchangeBody clientId clientSecret received redirectUri) =
        some [("code".toList, code), ("client_id".toList, clientId),
          ("client_secret".toList, clientSecret), ("redirect_uri".toList, redirectUri),
          ("grant_type".toList, "authorization_code".toList)] :=
  ⟨code, extractCode_pasted hcode h, formFields_exchangeBody hclient hsecret hcode huri⟩

end Bytes

end NightWatcher.GdriveAuth
