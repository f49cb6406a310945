import NightWatcher.Export.DsnFile
import NightWatcher.Httplib
import NightWatcher.Lib.QuotedText

/-!
# `gdrive.cpp`: which file an upload updates

`DriveClient::upload_or_update` looks for a file of the name in the folder and overwrites the
first one it is shown. The search is a query in Drive's language, percent-encoded into a URL; name
and folder are put between quotes as they are. Percent encoding loses nothing
(`queryParam_searchTarget`), but the query is the intended one if and only if neither text has a
quote or a backslash in it (`searchesExactly_iff`), and then only the file of that name is
overwritten (`updatesOnlyNamed_of_exact`).
-/

namespace NightWatcher.Exporter.Gdrive

open Throwing PercentCode QuotedText

/-! ## The request -/

/-- `url_encode`. -/
def urlEncode (s : String) : List Char :=
  encode (fun c => c.isAlphanum || c = '-' || c = '_' || c = '.' || c = '~') (octets s)

/-- The `q` of the search for a name in a folder. -/
def searchQuery (folderId name : String) : String :=
  "name = '" ++ name ++ "' and '" ++ folderId ++ "' in parents and trashed = false"

/-- The target of the request that searches. -/
def searchTarget (folderId name : String) : List Char :=
  "/drive/v3/files?q=".toList ++ urlEncode (searchQuery folderId name) ++
    ("&fields=".toList ++ urlEncode "files(id,name)" ++ "&spaces=drive".toList ++
      "&supportsAllDrives=true&includeItemsFromAllDrives=true".toList)

/-! ## Drive's query language -/

/-- What a search query is made of. -/
inductive Token where
  | word (text : List Char)
  | sign (c : Char)
  | literal (text : List Char)
deriving DecidableEq

def isWordChar (c : Char) : Bool := c.isAlphanum || c = '_' || c = '.'

/-- Blanks separate tokens; a literal is in single quotes, and a backslash escapes what follows it. -/
def lex : List Char → Option (List Token)
  | [] => some []
  | c :: rest =>
    if c = ' ' then lex rest
    else if c = '\'' then
      match _h : scan '\'' '\\' rest with
      | none => none
      | some (text, rest') => (lex rest').map (.literal text :: ·)
    else if isWordChar c then
      (lex (rest.dropWhile isWordChar)).map (.word (c :: rest.takeWhile isWordChar) :: ·)
    else (lex rest).map (.sign c :: ·)
termination_by cs => cs.length
decreasing_by
  · simp
  · exact Nat.lt_succ_of_lt (scan_length _h)
  · exact Nat.lt_succ_of_le (List.length_dropWhile_le _ _)
  · simp

/-- What a query can ask of a file. -/
inductive Term where
  | nameIs (name : String)
  | inParents (folderId : String)
  | trashedIs (b : Bool)
deriving DecidableEq

/-- How a condition goes with those before it. -/
inductive Connective where
  | and | or
deriving DecidableEq

/-- A term, whether it is asked for or asked against, and how it goes with what is before it. -/
structure Condition where
  connective : Connective
  positive : Bool
  term : Term
deriving DecidableEq

def word (s : String) : Token := .word s.toList

/-- A term of a query: a name, a parent, or whether a file is in the trash. -/
def parseTerm : List Token → Option Term
  | [field, op, .literal text] =>
    if field = word "name" ∧ op = .sign '=' then some (.nameIs (String.ofList text)) else none
  | [.literal text, op, collection] =>
    if op = word "in" ∧ collection = word "parents" then some (.inParents (String.ofList text))
        else none
  | [field, op, value] =>
    if field = word "trashed" ∧ op = .sign '=' then
      if value = word "true" then some (.trashedIs true)
      else if value = word "false" then some (.trashedIs false)
      else none
    else none
  | _ => none

/-- A condition, negated or not. -/
def parseCondition (connective : Connective) (tokens : List Token) : Option Condition :=
  if tokens.head? = some (word "not") then (parseTerm tokens.tail).map fun term =>
    ⟨connective, false, term⟩
  else (parseTerm tokens).map fun term => ⟨connective, true, term⟩

/-- The tokens between connectives. -/
def chunks (connective : Connective) (front : List Token) : List Token → List (Connective × List Token)
  | [] => [(connective, front)]
  | token :: rest =>
    if token = word "and" then (connective, front) :: chunks .and [] rest
    else if token = word "or" then (connective, front) :: chunks .or [] rest
    else chunks connective (front ++ [token]) rest

abbrev Query := List Condition

/-- A query as Drive reads it, if it can be read. -/
def parseQuery (q : String) : Option Query := do
  let tokens ← lex q.toList
  (chunks .and [] tokens).mapM fun chunk => parseCondition chunk.1 chunk.2

/-- The query that is meant: name is the name, parent is the folder, not trashed. -/
def intended (folderId name : String) : Query :=
  [⟨.and, true, .nameIs name⟩, ⟨.and, true, .inParents folderId⟩, ⟨.and, true, .trashedIs false⟩]

/-! ## Percent encoding loses nothing -/

/-- The server's reading of a parameter in a request target. -/
def queryParam (key : List Char) (target : List Char) : Option String :=
  let query := (target.dropWhile (· ≠ '?')).drop 1
  ((query.splitOn '&').find? fun param => param.takeWhile (· ≠ '=') = key).bind fun param =>
    (decode ((param.dropWhile (· ≠ '=')).drop 1)).bind ofOctets

/-- What an encoded value is made of. -/
theorem mem_urlEncode {s : String} {c : Char} (h : c ∈ urlEncode s) :
    c.isAlphanum = true ∨ c ∈ ['-', '_', '.', '~', '%'] := by
  rcases mem_encode (octets_lt s) h with hkeep | rfl | halnum
  · simp only [Bool.or_eq_true, decide_eq_true_eq] at hkeep
    rcases hkeep with (((halnum | rfl) | rfl) | rfl) | rfl
    · exact Or.inl halnum
    all_goals exact Or.inr (by decide)
  · exact Or.inr (by decide)
  · exact Or.inl halnum

/-- None of it is encoded again when the request is sent. -/
theorem plain_urlEncode {s : String} : ∀ c ∈ urlEncode s, Httplib.PlainInUrl c := by
  intro c hc
  rcases mem_urlEncode hc with halnum | hmem
  · exact Httplib.plainInUrl_of_alphanum halnum
  · have hall : ∀ c ∈ ['-', '_', '.', '~', '%'], c.toNat ≠ 0 ∧ Httplib.encodedChar c = [c] := by
      simp only [List.forall_mem_cons]
      exact ⟨by decide, by decide, by decide, by decide, by decide, nofun⟩
    exact hall c hmem

/-- A value does not end the parameter it is in. -/
theorem amp_urlEncode (s : String) : '&' ∉ urlEncode s :=
  notMem_encode (octets_lt s) (by decide) (by decide) (by decide)

/-- It is decoded to what was encoded. -/
theorem decode_urlEncode (s : String) : (decode (urlEncode s)).bind ofOctets = some s := by
  unfold urlEncode
  rw [decode_encode rfl rfl (octets_lt s)]
  exact ofOctets_octets s

/-- The client sends the target as it is. -/
theorem encodeUrl_searchTarget (folderId name : String) :
    Httplib.encodeUrl (searchTarget folderId name) = searchTarget folderId name := by
  refine Httplib.encodeUrl_plain fun c hc => ?_
  unfold searchTarget at hc
  simp only [List.mem_append] at hc
  rcases hc with (hc | hc) | ((hc | hc) | hc) | hc
  · exact Httplib.plainInUrl_literal rfl c hc
  · exact plain_urlEncode c hc
  · exact Httplib.plainInUrl_literal rfl c hc
  · exact plain_urlEncode c hc
  · exact Httplib.plainInUrl_literal rfl c hc
  · exact Httplib.plainInUrl_literal rfl c hc

/-- The query arrives as it was written. -/
theorem queryParam_searchTarget (folderId name : String) :
    queryParam "q".toList (Httplib.encodeUrl (searchTarget folderId name)) =
        some (searchQuery folderId name) := by
  rw [encodeUrl_searchTarget]
  have htarget : ∃ tail, searchTarget folderId name
      = "/drive/v3/files".toList ++ '?' ::
          ('q' :: '=' :: urlEncode (searchQuery folderId name) ++ '&' :: tail) := by
    refine ⟨"fields=".toList ++ urlEncode "files(id,name)" ++ "&spaces=drive".toList ++
      "&supportsAllDrives=true&includeItemsFromAllDrives=true".toList, ?_⟩
    unfold searchTarget
    simp only [List.append_assoc]
    rfl
  obtain ⟨tail, htarget⟩ := htarget
  have hamp : '&' ∉ 'q' :: '=' :: urlEncode (searchQuery folderId name) := by
    intro h
    rcases List.mem_cons.mp h with h | h
    · exact absurd h (by decide)
    · rcases List.mem_cons.mp h with h | h
      · exact absurd h (by decide)
      · exact amp_urlEncode _ h
  unfold queryParam
  rw [htarget, List.dropWhile_append_of_pos (List.all_eq_true.mp (by decide)),
      List.dropWhile_cons_of_neg (by decide)]
  dsimp only [List.drop]
  rw [List.splitOn_append_cons_self_of_not_mem hamp, List.find?_cons_of_pos rfl]
  exact decode_urlEncode _

/-! ## What the query says -/

/-- A blank separates. -/
theorem lex_blank (rest : List Char) : lex (' ' :: rest) = lex rest := by
  rw [lex, if_pos rfl]

/-- A quote begins a literal, which goes on up to the next one that is not escaped. -/
theorem lex_literal {rest text rest' : List Char} (h : scan '\'' '\\' rest = some (text, rest')) :
    lex ('\'' :: rest) = (lex rest').map (.literal text :: ·) := by
  rw [lex, if_neg (by decide), if_pos rfl]
  split
  · rename_i hnone
    rw [h] at hnone
    cases hnone
  · rename_i hsome
    rw [h] at hsome
    obtain ⟨rfl, rfl⟩ := Prod.mk.inj (Option.some.inj hsome)
    rfl

/-- A literal that is not closed spoils the query. -/
theorem lex_literal_none {rest : List Char} (h : scan '\'' '\\' rest = none) :
    lex ('\'' :: rest) = none := by
  rw [lex, if_neg (by decide), if_pos rfl]
  split
  · rfl
  · rename_i hsome
    rw [h] at hsome
    cases hsome

/-- A word goes on as long as its characters do. -/
theorem lex_word {c : Char} {w rest : List Char} (hword : (c :: w).all isWordChar = true)
    (hrest : ∀ x ∈ rest.head?, isWordChar x = false) :
    lex (c :: (w ++ rest)) = (lex rest).map (.word (c :: w) :: ·) := by
  have hw := List.all_eq_true.mp hword
  have hc := hw c List.mem_cons_self
  have hblank : c ≠ ' ' := fun h => absurd (h ▸ hc) (by decide)
  have hquote : c ≠ '\'' := fun h => absurd (h ▸ hc) (by decide)
  have hspan : (w ++ rest).takeWhile isWordChar = w ∧ (w ++ rest).dropWhile isWordChar = rest := by
    have hfront : ∀ x ∈ w, isWordChar x = true := fun x hx => hw x (List.mem_cons_of_mem c hx)
    rw [List.takeWhile_append_of_pos hfront, List.dropWhile_append_of_pos hfront]
    cases rest with
    | nil => exact ⟨List.append_nil w, rfl⟩
    | cons x rest =>
      have hx : isWordChar x ≠ true := by
        rw [hrest x rfl]
        exact Bool.false_ne_true
      rw [List.takeWhile_cons_of_neg hx, List.dropWhile_cons_of_neg hx, List.append_nil]
      exact ⟨rfl, rfl⟩
  rw [lex, if_neg hblank, if_neg hquote, if_pos hc, hspan.1, hspan.2]

/-- A blank ends a word. -/
theorem ends_blank (rest : List Char) : ∀ x ∈ (' ' :: rest).head?, isWordChar x = false := by
  intro x hx
  obtain rfl := Option.some.inj hx
  rfl

/-- Any other character stands for itself. -/
theorem lex_sign {c : Char} (hblank : c ≠ ' ') (hquote : c ≠ '\'') (hword : isWordChar c = false)
    (rest : List Char) :
    lex (c :: rest) = (lex rest).map (.sign c :: ·) := by
  rw [lex, if_neg hblank, if_neg hquote, if_neg (by rw [hword]; exact Bool.false_ne_true)]

/-- The text of a query behind the name. -/
def behindName (folderId : String) : List Char :=
  " and '".toList ++ (folderId.toList ++ "' in parents and trashed = false".toList)

theorem searchQuery_toList (folderId name : String) : (searchQuery folderId name).toList
    = 'n' :: (['a', 'm', 'e'] ++ ' ' :: '=' :: ' ' :: '\'' ::
        (name.toList ++ '\'' :: behindName folderId)) := by
  unfold searchQuery behindName
  simp only [String.toList_append, List.append_assoc]
  rfl

/-- Up to the name the query is fixed. -/
theorem lex_searchQuery (folderId name : String) : lex (searchQuery folderId name).toList
    = (lex ('\'' :: (name.toList ++ '\'' :: behindName folderId))).map fun rest =>
      word "name" :: .sign '=' :: rest := by
  rw [searchQuery_toList, lex_word (by decide) (ends_blank _), lex_blank,
    lex_sign (by decide) (by decide) (by decide), lex_blank, Option.map_map]
  rfl

/-- What is behind the name in the query: one more literal, and the trash. -/
theorem lex_behindName (folderId : String) : lex (behindName folderId)
    = (lex ('\'' :: (folderId.toList ++ '\'' :: " in parents and trashed = false".toList))).map
      (word "and" :: ·) := by
  have hbehind : behindName folderId
      = ' ' :: 'a' ::
          (['n', 'd'] ++ ' ' :: '\'' ::
          (folderId.toList ++ '\'' :: " in parents and trashed = false".toList)) :=
    rfl
  rw [hbehind, lex_blank, lex_word (by decide) (ends_blank _), lex_blank]
  rfl

/-- The end of the query, token by token. -/
theorem lex_tail : lex " in parents and trashed = false".toList
    = some [word "in", word "parents", word "and", word "trashed", .sign '=', word "false"] := by
  have htail : " in parents and trashed = false".toList = ' ' :: 'i' :: (['n'] ++ ' ' :: 'p' ::
      (['a', 'r', 'e', 'n', 't', 's'] ++ ' ' :: 'a' :: (['n', 'd'] ++ ' ' :: 't' ::
        (['r', 'a', 's', 'h', 'e', 'd'] ++ ' ' :: '=' :: ' ' :: 'f' ::
            (['a', 'l', 's', 'e'] ++ []))))) := rfl
  rw [htail, lex_blank, lex_word (by decide) (ends_blank _), lex_blank,
    lex_word (by decide) (ends_blank _), lex_blank, lex_word (by decide) (ends_blank _), lex_blank,
    lex_word (by decide) (ends_blank _), lex_blank, lex_sign (by decide) (by decide) (by decide),
    lex_blank, lex_word (by decide) (by simp), lex]
  rfl

/-- What was read stays in front. -/
theorem chunks_front (connective : Connective) (front tokens : List Token) :
    ∃ more rest, chunks connective front tokens = (connective, front ++ more) :: rest := by
  induction tokens generalizing front with
  | nil => exact ⟨[], [], by rw [List.append_nil]; rfl⟩
  | cons token tokens ih =>
    unfold chunks
    by_cases hand : token = word "and"
    · rw [if_pos hand]
      exact ⟨[], _, by rw [List.append_nil]⟩
    · by_cases hor : token = word "or"
      · rw [if_neg hand, if_pos hor]
        exact ⟨[], _, by rw [List.append_nil]⟩
      · obtain ⟨more, rest, hmore⟩ := ih (front ++ [token])
        rw [if_neg hand, if_neg hor, hmore, List.append_assoc]
        exact ⟨_, _, rfl⟩

/-- A term that asks for a name has this form. -/
theorem parseTerm_nameIs {tokens : List Token} {name : String}
    (h : parseTerm tokens = some (.nameIs name)) :
    ∃ text, tokens = [word "name", .sign '=', .literal text] ∧ name = String.ofList text := by
  unfold parseTerm at h
  split at h
  · rename_i field op text
    by_cases hfield : field = word "name" ∧ op = .sign '='
    · rw [if_pos hfield] at h
      obtain ⟨rfl, rfl⟩ := hfield
      exact ⟨text, rfl, (Term.nameIs.inj (Option.some.inj h)).symm⟩
    · rw [if_neg hfield] at h
      cases h
  · split at h <;> cases h
  · split at h
    · split at h
      · cases h
      · split at h <;> cases h
    · cases h
  · cases h

/-- So has one that asks for a parent. -/
theorem parseTerm_inParents {tokens : List Token} {folderId : String}
    (h : parseTerm tokens = some (.inParents folderId)) :
    ∃ text, tokens = [.literal text, word "in", word "parents"] ∧ folderId = String.ofList text := by
  unfold parseTerm at h
  split at h
  · split at h <;> cases h
  · rename_i text op collection _
    by_cases hop : op = word "in" ∧ collection = word "parents"
    · rw [if_pos hop] at h
      obtain ⟨rfl, rfl⟩ := hop
      exact ⟨text, rfl, (Term.inParents.inj (Option.some.inj h)).symm⟩
    · rw [if_neg hop] at h
      cases h
  · split at h
    · split at h
      · cases h
      · split at h <;> cases h
    · cases h
  · cases h

/-- A condition that is not negated is its term. -/
theorem parseCondition_positive {connective connective' : Connective} {tokens : List Token}
    {term : Term}
    (h : parseCondition connective tokens = some ⟨connective', true, term⟩) : parseTerm tokens =
        some term := by
  unfold parseCondition at h
  split at h
  · obtain ⟨_, -, heq⟩ := Option.map_eq_some_iff.mp h
    cases (Condition.mk.inj heq).2.1
  · obtain ⟨_, hterm, heq⟩ := Option.map_eq_some_iff.mp h
    rw [hterm, (Condition.mk.inj heq).2.2]

/-- No character the language gives a meaning to in a literal. -/
structure Bare (s : String) : Prop where
  noQuote : '\'' ∉ s.toList
  noBackslash : '\\' ∉ s.toList

/-- A text without quotes and backslashes is read as it is. -/
theorem lex_bare {s : String} (h : Bare s) (rest : List Char) :
    lex ('\'' :: (s.toList ++ '\'' :: rest)) = (lex rest).map (.literal s.toList :: ·) :=
  lex_literal (scan_bare h.noQuote h.noBackslash rest)

/-- If a text is read as it is, it has neither. -/
theorem scan_bare_text {s : String} {text rest rest' : List Char}
    (h : scan '\'' '\\' (s.toList ++ '\'' :: rest) = some (text, rest'))
    (htext : s = String.ofList text) :
    Bare s ∧ rest' = rest := by
  rw [htext, String.toList_ofList] at h
  obtain ⟨⟨hquote, hescape⟩, hrest⟩ := (scan_bare_iff (by decide)).mp h
  rw [← String.toList_ofList (l := text), ← htext] at hquote hescape
  exact ⟨⟨hquote, hescape⟩, hrest⟩

/-- The conditions of chunks are those of the first and those of the others. -/
theorem conditions_cons {chunk : Connective × List Token} {rest : List (Connective × List Token)}
    {condition : Condition} {conditions : List Condition}
    (h : (chunk :: rest).mapM (fun chunk => parseCondition chunk.1 chunk.2) =
        some (condition :: conditions)) :
    parseCondition chunk.1 chunk.2 = some condition ∧
      rest.mapM (fun chunk => parseCondition chunk.1 chunk.2) = some conditions := by
  rw [List.mapM_cons] at h
  simp only [Option.bind_eq_bind, Option.bind_eq_some_iff, Option.pure_def, Option.some.injEq,
      List.cons.injEq] at h
  obtain ⟨_, hfirst, _, hrest, rfl, rfl⟩ := h
  exact ⟨hfirst, hrest⟩

/-- The tokens in front of a condition are the first of its term. -/
theorem first_term {connective connective' : Connective} {front tokens : List Token} {term : Term}
    {conditions : List Condition}
    (h : (chunks connective front tokens).mapM (fun chunk => parseCondition chunk.1 chunk.2)
      = some (⟨connective', true, term⟩ :: conditions)) :
    ∃ more, parseTerm (front ++ more) = some term := by
  obtain ⟨more, rest, hchunks⟩ := chunks_front connective front tokens
  rw [hchunks] at h
  exact ⟨more, parseCondition_positive (conditions_cons h).1⟩

/-- The query is the intended one if and only if both texts are bare. -/
theorem parseQuery_intended_iff (folderId name : String) :
    parseQuery (searchQuery folderId name) = some (intended folderId name) ↔
        Bare name ∧ Bare folderId := by
  unfold parseQuery intended
  rw [lex_searchQuery]
  simp only [Option.bind_eq_bind, Option.bind_eq_some_iff]
  constructor
  · rintro ⟨tokens, hlex, hparse⟩
    obtain ⟨rest, hrest, rfl⟩ := Option.map_eq_some_iff.mp hlex
    cases hscan : scan '\'' '\\' (name.toList ++ '\'' :: behindName folderId) with
    | none =>
      rw [lex_literal_none hscan] at hrest
      cases hrest
    | some cut =>
      obtain ⟨text, behind⟩ := cut
      rw [lex_literal hscan] at hrest
      obtain ⟨tokens, hbehind, rfl⟩ := Option.map_eq_some_iff.mp hrest
      -- the first literal is the name, so that the text behind it is the rest of the query
      have hfront : chunks .and [] (word "name" :: .sign '=' :: .literal text :: tokens)
          = chunks .and [word "name", .sign '=', .literal text] tokens := rfl
      rw [hfront] at hparse
      obtain ⟨more, hterm⟩ := first_term hparse
      obtain ⟨text', hname, htext⟩ := parseTerm_nameIs hterm
      obtain rfl : text = text' := 
        Token.literal.inj (List.cons.inj (List.cons.inj (List.cons.inj hname).2).2).1
      obtain ⟨hbare, rfl⟩ := scan_bare_text hscan htext
      refine ⟨hbare, ?_⟩
      rw [lex_behindName] at hbehind
      obtain ⟨rest', hrest', rfl⟩ := Option.map_eq_some_iff.mp hbehind
      cases hscan' : scan '\'' '\\' (folderId.toList ++ '\'' ::
          " in parents and trashed = false".toList) with
      | none =>
        rw [lex_literal_none hscan'] at hrest'
        cases hrest'
      | some cut =>
        obtain ⟨text', behind'⟩ := cut
        rw [lex_literal hscan'] at hrest'
        obtain ⟨tokens', -, rfl⟩ := Option.map_eq_some_iff.mp hrest'
        have hnext : chunks .and [word "name", .sign '=', .literal text]
            (word "and" :: .literal text' :: tokens')
            = (.and, [word "name", .sign '=', .literal text]) ::
                chunks .and [.literal text'] tokens' := rfl
        rw [hnext] at hparse
        obtain ⟨more', hterm'⟩ := first_term (conditions_cons hparse).2
        obtain ⟨text'', hfolder, htext'⟩ := parseTerm_inParents hterm'
        obtain rfl : text' = text'' := 
          Token.literal.inj (List.cons.inj hfolder).1
        exact (scan_bare_text hscan' htext').1
  · rintro ⟨hname, hfolder⟩
    rw [lex_bare hname, lex_behindName, lex_bare hfolder, lex_tail]
    refine ⟨_, rfl, ?_⟩
    have hchunks : chunks .and [] [word "name", .sign '=', .literal name.toList, word "and",
        .literal folderId.toList, word "in", word "parents", word "and", word "trashed", .sign '=',
        word "false"]
      = [(.and, [word "name", .sign '=', .literal name.toList]),
        (.and, [.literal folderId.toList, word "in", word "parents"]),
        (.and, [word "trashed", .sign '=', word "false"])] := rfl
    rw [hchunks]
    show some (intended (String.ofList folderId.toList) (String.ofList name.toList)) =
        some (intended folderId name)
    rw [String.ofList_toList, String.ofList_toList]

/-! ## The client and Drive -/

/-- A file of the drive. -/
structure DriveFile where
  id : String
  name : String
  parents : List String
  trashed : Bool := false
  content : String
deriving DecidableEq

/-- The files, and those that were updated, as they were before. -/
structure Drive where
  files : List DriveFile
  unique : (files.map DriveFile.id).Nodup
  updated : List DriveFile := []

/-- How Drive names a new file. -/
structure Service where
  newId : List String → String
  new : ∀ ids, newId ids ∉ ids

/-- Whether a term holds of a file. -/
def Term.holds (f : DriveFile) : Term → Bool
  | .nameIs name => f.name = name
  | .inParents folderId => folderId ∈ f.parents
  | .trashedIs b => f.trashed = b

/-- Whether a condition does. -/
def Condition.holds (f : DriveFile) (c : Condition) : Bool :=
  if c.positive then c.term.holds f else !c.term.holds f

/-- Connectives go from left to right. -/
def satisfies (query : Query) (f : DriveFile) : Bool :=
  query.foldl (fun before c =>
    match c.connective with
    | .and => before && c.holds f
    | .or => before || c.holds f) true

/-- The query that is meant asks for a file of the name, in the folder and out of the trash. -/
theorem satisfies_intended {folderId name : String} {f : DriveFile} :
    satisfies (intended folderId name) f = true ↔ f.name = name ∧ folderId ∈ f.parents ∧
        f.trashed = false := by
  simp [satisfies, intended, Condition.holds, Term.holds, and_assoc]

/-- The files a search shows: none, if Drive cannot make sense of the query. -/
def Drive.found (drive : Drive) (target : List Char) : Option (List DriveFile) := do
  let query ← parseQuery (← queryParam "q".toList target)
  return drive.files.filter (satisfies query)

/-- A file gets another content. -/
def Drive.update (drive : Drive) (f : DriveFile) (content : String) : Drive where
  files := drive.files.map fun g => if g.id = f.id then { g with content } else g
  unique := by
    have hids : (drive.files.map fun g => if g.id = f.id then { g with content } else g).map
        DriveFile.id
        = drive.files.map DriveFile.id := by
      rw [List.map_map]
      refine List.map_congr_left fun g _ => ?_
      dsimp only [Function.comp]
      split <;> rfl
    rw [hids]
    exact drive.unique
  updated := drive.updated ++ [f]

/-- A file is added, under a new id. -/
def Drive.create (svc : Service) (drive : Drive) (folderId name content : String) : Drive where
  files := drive.files ++ [{ id := svc.newId (drive.files.map DriveFile.id), name,
                             parents := [folderId], content }]
  unique := by
    rw [List.map_append]
    refine List.nodup_append'.mpr ⟨drive.unique, List.nodup_singleton _, ?_⟩
    intro id hid hnew
    rw [List.map_singleton, List.mem_singleton] at hnew
    exact svc.new _ (hnew ▸ hid)
  updated := drive.updated

/-- How an exchange with the service ends; one that fails may have been carried out. -/
inductive Reply where
  | answered
  | lost (msg : String) (carriedOut : Bool)

/-- A drive, and what becomes of the exchanges ahead. -/
structure Session where
  drive : Drive
  replies : List Reply := []

/-- One exchange: it is carried out and answered, or it fails, carried out or not. -/
def exchange {α : Type} (serve : Drive → Except String (α × Drive)) : EStateM String Session α :=
  fun s =>
  match s.replies with
  | .lost msg false :: rest => .error msg ⟨s.drive, rest⟩
  | .lost msg true :: rest =>
    match serve s.drive with
    | .ok (_, drive) => .error msg ⟨drive, rest⟩
    | .error _ => .error msg ⟨s.drive, rest⟩
  | replies =>
    match serve s.drive with
    | .ok (a, drive) => .ok a ⟨drive, replies.tail⟩
    | .error e => .error e ⟨s.drive, replies.tail⟩

/-- `upload_or_update`; getting the token is one more exchange. -/
def uploadOrUpdate (svc : Service) (folderId name content : String) :
    EStateM String Session String := do
  exchange fun drive => .ok ((), drive)
  let files ← exchange fun drive =>
    match drive.found (Httplib.encodeUrl (searchTarget folderId name)) with
    | some files => .ok (files, drive)
    | none => .error "drive file search: HTTP 400"
  let existing := (files.head?.map DriveFile.id).getD ""
  if existing ≠ "" then
    exchange fun drive =>
      match drive.files.find? (·.id = existing) with
      | some f => .ok ((), drive.update f content)
      | none => .error "drive file update: HTTP 404"
    return existing
  exchange fun drive =>
    let id := svc.newId (drive.files.map DriveFile.id)
    .ok (id, drive.create svc folderId name content)

/-- Files updated since have the name, are in the folder and not in the trash. -/
def UpdatedNamed (folderId name : String) (before after : Drive) : Prop :=
  ∀ f ∈ after.updated, f ∈ before.updated ∨ f.name = name ∧ folderId ∈ f.parents ∧ f.trashed = false

/-- Whatever becomes of an upload, it updates no file of another name. -/
def UpdatesOnlyNamed (svc : Service) (folderId name : String) : Prop :=
  ∀ content s,
      UpdatedNamed folderId name s.drive (endState (uploadOrUpdate svc folderId name content s)).drive

/-- What Drive makes of the query as it is sent. -/
def SearchesExactly (folderId name : String) : Prop :=
  (queryParam "q".toList (Httplib.encodeUrl (searchTarget folderId name))).bind parseQuery
    = some (intended folderId name)

/-- The search is for what is meant if and only if both texts are bare. -/
theorem searchesExactly_iff (folderId name : String) :
    SearchesExactly folderId name ↔ Bare name ∧ Bare folderId := by
  unfold SearchesExactly
  rw [queryParam_searchTarget, Option.bind_some, parseQuery_intended_iff]

/-- What an exchange leaves behind, answered or not. -/
theorem meets_exchange {α : Type} {serve : Drive → Except String (α × Drive)} {s : Session}
    {Q : α → Session → Prop}
    {P : Drive → Prop} (hsame : P s.drive) (hserve : ∀ a drive, serve s.drive = .ok (a, drive) →
        P drive)
    (h : ∀ a drive replies, serve s.drive = .ok (a, drive) → Q a ⟨drive, replies⟩) :
    Meets (exchange serve) s Q fun _ s' => P s'.drive := by
  unfold Meets exchange
  obtain ⟨drive, replies⟩ := s
  match replies, hserved : serve drive with
  | [], .ok (a, drive') => simpa only [hserved] using h a drive' _ hserved
  | [], .error e => simpa only [hserved] using hsame
  | .answered :: rest, .ok (a, drive') => simpa only [hserved] using h a drive' _ hserved
  | .answered :: rest, .error e => simpa only [hserved] using hsame
  | .lost msg false :: rest, _ => exact hsame
  | .lost msg true :: rest, .ok (a, drive') => simpa only [hserved] using hserve a drive' hserved
  | .lost msg true :: rest, .error e => simpa only [hserved] using hsame

/-- An exchange that is answered. -/
theorem meets_exchange_answered {α : Type} {serve : Drive → Except String (α × Drive)}
    {drive drive' : Drive} {a : α}
    {Q : α → Session → Prop} {E : String → Session → Prop} (hserve : serve drive = .ok (a, drive'))
    (h : Q a ⟨drive', []⟩) : Meets (exchange serve) ⟨drive, []⟩ Q E := by
  unfold Meets exchange
  simp only [hserve]
  exact h

/-- An exact search finds the files of the name in the folder. -/
theorem found_exact {folderId name : String} (h : SearchesExactly folderId name) (drive : Drive) :
    drive.found (Httplib.encodeUrl (searchTarget folderId name))
      = some (drive.files.filter (satisfies (intended folderId name))) := by
  unfold SearchesExactly at h
  obtain ⟨q, hparam, hparse⟩ := Option.bind_eq_some_iff.mp h
  unfold Drive.found
  rw [hparam]
  simp only [Option.bind_eq_bind, Option.bind_some, hparse, Option.pure_def]

/-- The file updated is the one that was shown first, and that has the name. -/
theorem updatedNamed_update {folderId name content : String} {drive : Drive} {f : DriveFile}
    (hshown : ∃ g, (drive.files.filter (satisfies (intended folderId name))).head? = some g ∧
        g.id = f.id)
    (hf : f ∈ drive.files) : UpdatedNamed folderId name drive (drive.update f content) := by
  obtain ⟨g, hhead, hid⟩ := hshown
  obtain ⟨hg, hsatisfies⟩ := List.mem_filter.mp (List.mem_of_head? hhead)
  obtain rfl : g = f := List.inj_on_of_nodup_map drive.unique hg hf hid
  intro x hx
  rcases List.mem_append.mp hx with hbefore | hnow
  · exact Or.inl hbefore
  · rw [List.mem_singleton.mp hnow]
    exact Or.inr (satisfies_intended.mp hsatisfies)

/-- With the intended query only files of the name are updated, whatever the exchanges come to. -/
theorem updatesOnlyNamed_of_exact {svc : Service} {folderId name : String}
    (h : SearchesExactly folderId name) :
    UpdatesOnlyNamed svc folderId name := by
  intro content s
  have hsame : UpdatedNamed folderId name s.drive s.drive := fun f hf => Or.inl hf
  refine Meets.endState (P := fun s' : Session => UpdatedNamed folderId name s.drive s'.drive) ?_
  unfold uploadOrUpdate
  simp only [meets_bind, meets_ite, meets_pure, found_exact h]
  -- the token
  have htoken : ∀ {u drive}, (Except.ok ((), s.drive) : Except String (Unit × Drive)) =
      .ok (u, drive) → drive = s.drive :=
    fun heq => (Prod.mk.inj (Except.ok.inj heq)).2.symm
  refine meets_exchange hsame (fun _ _ h₁ => htoken h₁ ▸ hsame) fun _ drive₁ _ h₁ => ?_
  obtain rfl := htoken h₁
  -- the search
  refine meets_exchange hsame (fun _ _ h₂ => ?_) fun files drive₂ _ h₂ => ?_
  · obtain ⟨-, rfl⟩ := Prod.mk.inj (Except.ok.inj h₂)
    exact hsame
  obtain ⟨rfl, rfl⟩ := Prod.mk.inj (Except.ok.inj h₂)
  refine ⟨fun hexisting => ?_, fun _ => ?_⟩
  · -- the update
    have hupdate : ∀ {u : Unit} {drive₃ : Drive},
        (match s.drive.files.find? (·.id = ((((s.drive.files.filter
            (satisfies (intended folderId name))).head?).map DriveFile.id).getD "")) with
          | some f => .ok ((), s.drive.update f content)
          | none => .error "drive file update: HTTP 404" : Except String (Unit × Drive)) =
                .ok (u, drive₃) →
        UpdatedNamed folderId name s.drive drive₃ := by
      intro u drive₃ h₃
      split at h₃
      · rename_i f hfound
        obtain ⟨-, rfl⟩ := Prod.mk.inj (Except.ok.inj h₃)
        have hid := List.find?_some hfound
        rw [decide_eq_true_eq] at hid
        refine updatedNamed_update ?_ (List.mem_of_find?_eq_some hfound)
        cases hhead : (s.drive.files.filter (satisfies (intended folderId name))).head? with
        | none =>
          rw [hhead] at hexisting
          exact absurd rfl hexisting
        | some g =>
          rw [hhead] at hid
          exact ⟨g, rfl, hid.symm⟩
      · cases h₃
    exact meets_exchange hsame (fun _ _ h₃ => hupdate h₃) fun _ _ _ h₃ => hupdate h₃
  · -- the creation
    refine meets_exchange hsame (fun _ _ h₃ => ?_) fun _ _ _ h₃ => ?_
    · obtain ⟨-, rfl⟩ := Prod.mk.inj (Except.ok.inj h₃)
      exact hsame
    · obtain ⟨-, rfl⟩ := Prod.mk.inj (Except.ok.inj h₃)
      exact hsame

/-! ## Uploads of a target -/

/-- Texts are bare together if each is. -/
theorem bare_append {s t : String} : Bare (s ++ t) ↔ Bare s ∧ Bare t := by
  constructor
  · rintro ⟨hquote, hbackslash⟩
    rw [String.toList_append, List.mem_append, not_or] at hquote hbackslash
    exact ⟨⟨hquote.1, hbackslash.1⟩, ⟨hquote.2, hbackslash.2⟩⟩
  · rintro ⟨hs, ht⟩
    constructor
    · rw [String.toList_append, List.mem_append, not_or]
      exact ⟨hs.noQuote, ht.noQuote⟩
    · rw [String.toList_append, List.mem_append, not_or]
      exact ⟨hs.noBackslash, ht.noBackslash⟩

/-- The text of a field is bare. -/
theorem bare_of_fieldText {s : String} (h : FieldText s) : Bare s := ⟨h.notMem rfl, h.notMem rfl⟩

/-- So is the part of a file name that names the month. -/
theorem bare_month (zones : TimeUtil.Zones) {ts : String} (hts : IsStamp ts) (tz : String) :
    Bare (yymm (TimeUtil.localYm zones ts tz)) := bare_of_fieldText (fieldText_month zones hts tz)

/-- The rest of a file name is bare if the site and the supplier are. -/
theorem bare_dsnStem (sensor : SensorRow) (cfg : Json) :
    Bare (dsnStem sensor cfg) ↔ Bare (cfgOr cfg "site_id" sensor.id) ∧
        Bare (cfgOr cfg "supplier" "") := by
  have hempty : Bare "" := ⟨List.not_mem_nil, List.not_mem_nil⟩
  have hline : Bare "_" := ⟨by decide, by decide⟩
  unfold dsnStem
  by_cases hsupplier : cfgOr cfg "supplier" "" = ""
  · simp only [if_pos hsupplier]
    rw [hsupplier]
    exact ⟨fun h => ⟨h, hempty⟩, fun h => h.1⟩
  · simp only [if_neg hsupplier]
    rw [bare_append, bare_append]
    exact ⟨fun h => ⟨h.1.1, h.2⟩, fun h => ⟨⟨h.1, hline⟩, h.2⟩⟩

/-- An upload searches for exactly its file, and updates no other, if and only if neither the
folder id nor the texts the name is made of have a quote or a backslash in them. -/
theorem upload_exact_iff {d : Deps} {ctx : ExportContext} {config name : String} {cfg : Json}
    (hcfg : parseConfig d config = .ok cfg) (hname : dsnFileName d ctx config = .ok name)
    (hmonth : IsStamp (fileMonthRef ctx)) (svc : Service) (folderId : String) :
    SearchesExactly folderId name ∧ UpdatesOnlyNamed svc folderId name ↔
      Bare (cfgOr cfg "site_id" ctx.sensor.id) ∧ Bare (cfgOr cfg "supplier" "") ∧ Bare folderId := by
  have hnamed : Bare name ↔ Bare (dsnStem ctx.sensor cfg) := by
    unfold dsnFileName at hname
    rw [hcfg] at hname
    obtain rfl := Except.ok.inj hname
    have hline : Bare "_" := ⟨by decide, by decide⟩
    have hdat : Bare ".dat" := ⟨by decide, by decide⟩
    rw [bare_append, bare_append, bare_append]
    exact ⟨fun h => h.1.1.1, fun h => ⟨⟨⟨h, hline⟩, bare_month d.zones hmonth _⟩, hdat⟩⟩
  rw [← and_assoc, ← bare_dsnStem, ← hnamed, ← searchesExactly_iff]
  exact ⟨fun h => h.1, fun h => ⟨h, updatesOnlyNamed_of_exact h⟩⟩

/-! ### Two site ids -/

/-- A service that gives ids no other file has. -/
def plainService : Service where
  newId ids := String.ofList (List.replicate ((ids.map fun id => id.toList.length).sum + 1) 'x')
  new ids := by
    intro h
    have hle := List.single_le_sum (l := ids.map fun id => id.toList.length) (fun _ _ =>
      Nat.zero_le _) _
      (List.mem_map_of_mem (f := fun id : String => id.toList.length) h)
    rw [String.toList_ofList, List.length_replicate] at hle
    omega

/-- The config of a target whose files go to the folder F. -/
def siteConfig (siteId : String) : Json :=
  .obj [("drive_folder_id", .str "F"), ("site_id", .str siteId)]

/-- The text of the config of a site. -/
def siteText (siteId : String) : String :=
  "\x7b\"drive_folder_id\": \"F\", \"site_id\": \"" ++ siteId ++ "\"\x7d"

def siteDeps (siteId : String) : Deps := Deps.plain [(siteText siteId, siteConfig siteId)]

/-- The same with a site, and the grant of a user. -/
def folderText : String :=
  "\x7b\"drive_folder_id\": \"F\", \"site_id\": \"DSN036\", \"mode\": \"oauth\", " ++
    "\"client_id\": \"i\", \"client_secret\": \"s\", \"refresh_token\": \"r\"\x7d"

def folderConfig : Json :=
  .obj [("drive_folder_id", .str "F"), ("site_id", .str "DSN036"), ("mode", .str "oauth"),
    ("client_id", .str "i"), ("client_secret", .str "s"), ("refresh_token", .str "r")]

def january : ExportContext :=
  { darkSite with fromTs := "2026-01-01 00:00:00", toTs := "2026-01-31 23:59:59" }

/-- It ends in January. -/
theorem january_stamp : IsStamp (fileMonthRef january) := ⟨1769903999, by decide, by decide⟩

theorem siteText_ne (siteId : String) : siteText siteId ≠ "" := by
  intro h
  have hchars := congrArg String.toList h
  unfold siteText at hchars
  rw [String.toList_append, String.toList_append] at hchars
  exact List.append_ne_nil_of_right_ne_nil _ (List.cons_ne_nil '"' ['\x7d']) hchars

theorem siteConfig_parses (siteId : String) :
    parseConfig (siteDeps siteId) (siteText siteId) = .ok (siteConfig siteId) := by
  have hfound : (siteDeps siteId).json.parse (siteText siteId) = some (siteConfig siteId) := by
    simp [siteDeps, Deps.plain]
  unfold parseConfig parseJson
  rw [if_neg (siteText_ne siteId), hfound]

/-- Its January file has the name of the site in front. -/
theorem site_named {siteId : String} (hne : siteId ≠ "") :
    dsnFileName (siteDeps siteId) january (siteText siteId) = .ok (siteId ++ "_26-01.dat") := by
  have hmonth : yymm (TimeUtil.localYm (TimeUtil.Zones.fixed fun _ => 0) "2026-01-31 23:59:59"
      "UTC") = "26-01" := by
    decide
  have hstem : dsnStem january.sensor (siteConfig siteId) = siteId := by
    have hsite : cfgOr (siteConfig siteId) "site_id" january.sensor.id = siteId := if_neg hne
    unfold dsnStem
    rw [hsite]
    rfl
  unfold dsnFileName
  rw [siteConfig_parses]
  show Except.ok (dsnStem january.sensor (siteConfig siteId) ++ "_" ++
    yymm (TimeUtil.localYm (TimeUtil.Zones.fixed fun _ => 0) "2026-01-31 23:59:59" "UTC") ++ ".dat") = _
  rw [hstem, hmonth, String.append_assoc, String.append_assoc]
  rfl

/-- A site of letters and digits. -/
theorem site_exact :
    SearchesExactly "F" "DSN036_26-01.dat" ∧ UpdatesOnlyNamed plainService "F" "DSN036_26-01.dat" :=
  (upload_exact_iff (siteConfig_parses "DSN036") (site_named (by decide)) january_stamp plainService
      "F").mpr
    ⟨⟨by decide, by decide⟩, ⟨by decide, by decide⟩, ⟨by decide, by decide⟩⟩

/-- A file that the search is not for. -/
def otherMonth : DriveFile := { id := "1", name := "T_26-01.dat", parents := ["F"], content := "" }

/-- A name that ends the literal and goes on with a condition of its own. -/
def quotedName : String := "S' or name = 'T_26-01.dat"

/-- A quote in the name makes four conditions of the query. -/
theorem quotedName_query : parseQuery (searchQuery "F" quotedName) = some [⟨.and, true, .nameIs "S"⟩,
    ⟨.or, true, .nameIs "T_26-01.dat"⟩, ⟨.and, true, .inParents "F"⟩,
    ⟨.and, true, .trashedIs false⟩] := by
  have hsplit : '\'' :: (quotedName.toList ++ '\'' :: behindName "F")
      = '\'' :: ("S".toList ++ '\'' :: (' ' :: 'o' :: (['r'] ++ ' ' :: 'n' :: (['a', 'm', 'e'] ++
        ' ' :: '=' :: ' ' :: '\'' :: ("T_26-01.dat".toList ++ '\'' :: behindName "F"))))) := rfl
  unfold parseQuery
  rw [lex_searchQuery, hsplit, lex_bare ⟨by decide, by decide⟩, lex_blank,
    lex_word (by decide) (ends_blank _), lex_blank, lex_word (by decide) (ends_blank _), lex_blank,
    lex_sign (by decide) (by decide) (by decide), lex_blank,
    lex_bare ⟨by decide, by decide⟩, lex_behindName, lex_bare ⟨by decide, by decide⟩, lex_tail]
  show some [⟨.and, true, .nameIs (String.ofList "S".toList)⟩,
    ⟨.or, true, .nameIs (String.ofList "T_26-01.dat".toList)⟩,
    ⟨.and, true, .inParents (String.ofList "F".toList)⟩,
    (⟨.and, true, .trashedIs false⟩ : Condition)] = _
  rw [String.ofList_toList, String.ofList_toList, String.ofList_toList]

/-- With a file of the other name in the folder, that one is updated. -/
theorem quotedName_updates : (endState (uploadOrUpdate plainService "F" quotedName ""
    ⟨⟨[otherMonth], List.nodup_singleton _, []⟩, []⟩)).drive.updated = [otherMonth] := by
  have hfound : Drive.found ⟨[otherMonth], List.nodup_singleton _, []⟩
      (Httplib.encodeUrl (searchTarget "F" quotedName)) = some [otherMonth] := by
    unfold Drive.found
    rw [queryParam_searchTarget]
    simp only [Option.bind_eq_bind, Option.bind_some, quotedName_query, Option.pure_def]
    rw [List.filter_cons_of_pos (by decide), List.filter_nil]
  refine Meets.endState (P := fun s' : Session => s'.drive.updated = [otherMonth]) ?_
  unfold uploadOrUpdate
  rw [meets_bind]
  refine meets_exchange_answered rfl ?_
  rw [meets_bind]
  refine meets_exchange_answered (a := [otherMonth]) (by rw [hfound]) ?_
  show Meets (if "1" ≠ "" then _ else _) _ _ _
  rw [if_pos (by decide), meets_bind]
  have hshown : [otherMonth].find? (·.id = (([otherMonth].head?).map DriveFile.id).getD "") =
      some otherMonth :=
    List.find?_cons_of_pos (by decide)
  refine @meets_exchange_answered _ _ _ (Drive.update ⟨[otherMonth], _, []⟩ otherMonth "") ()
      _ _ (by rw [hshown]) ?_
  rw [meets_pure]
  rfl

/-- A site id that ends the literal: a file of another month or site is overwritten. -/
theorem site_quoted : dsnFileName (siteDeps "S' or name = 'T") january (siteText "S' or name = 'T")
      = .ok quotedName ∧
    ¬SearchesExactly "F" quotedName ∧ ¬UpdatesOnlyNamed plainService "F" quotedName := by
  refine ⟨site_named (by decide), fun h => ?_, fun h => ?_⟩
  · exact absurd (List.mem_cons_of_mem 'S' List.mem_cons_self)
        ((searchesExactly_iff _ _).mp h).1.noQuote
  · have hnamed := h "" ⟨⟨[otherMonth], List.nodup_singleton _, []⟩, []⟩ otherMonth
    rw [quotedName_updates] at hnamed
    rcases hnamed (List.mem_singleton.mpr rfl) with hbefore | ⟨hname, -⟩
    · exact absurd hbefore List.not_mem_nil
    · exact absurd hname (by decide)

end NightWatcher.Exporter.Gdrive
