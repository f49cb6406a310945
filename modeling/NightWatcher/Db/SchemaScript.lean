import NightWatcher.Db.Database
import NightWatcher.Lib.Pieces

/-!
# `run_schema_script`: the statements of a commented script

The script is cut into lines, of each line what stands behind `--` is dropped, and the rest is cut
at the semicolons. So the semicolons and quotes of a comment do not count, and a comment may stand
at the end of any line of a statement (`run_schema_script_exact`). Two dashes are a comment wherever
they stand first: behind a minus sign it takes the sign with it (`minus_taken`).
-/

namespace NightWatcher.Database

open Throwing TextLines

/-! ## Dropping the comments, character by character -/

/-- The script without its comments; in a comment, what is behind its line. -/
def strip : Bool → List Char → List Char
  | _, [] => []
  | true, c :: cs => if c = '\n' then c :: strip false cs else strip true cs
  | false, c :: cs => if c = '-' ∧ cs.head? = some '-' then strip true cs else c :: strip false cs

/-- Inside a comment characters are dropped up to the line end. -/
theorem strip_comment {cs : List Char} (h : '\n' ∉ cs) (rest : List Char) :
    strip true (cs ++ rest) = strip true rest := by
  induction cs with
  | nil => rfl
  | cons c cs ih =>
    have hc : c ≠ '\n' := fun heq => h (heq ▸ List.mem_cons_self)
    rw [List.cons_append, strip, if_neg hc, ih fun hm => h (List.mem_cons_of_mem c hm)]

/-- A line is stripped as `run_schema_script` strips it. -/
theorem strip_line {line : List Char} (h : '\n' ∉ line) {rest : List Char}
    (hend : ∀ c ∈ rest.head?, c = '\n') :
    strip false (line ++ rest) = stripComment line ++ strip false rest := by
  induction line with
  | nil => rfl
  | cons c cs ih =>
    have hcs : '\n' ∉ cs := fun hm => h (List.mem_cons_of_mem c hm)
    have hhead : (cs ++ rest).head? = some '-' ↔ cs.head? = some '-' := by
      cases cs with
      | nil =>
        refine iff_of_false (fun hd => ?_) (by simp)
        exact absurd (hend '-' hd) (by decide)
      | cons d cs => rfl
    -- a comment ends with its line
    have hbehind : strip true rest = strip false rest := by
      cases rest with
      | nil => rfl
      | cons d rest =>
        obtain rfl := hend d rfl
        rfl
    rw [List.cons_append, strip, stripComment]
    by_cases hdash : c = '-' ∧ cs.head? = some '-'
    · rw [if_pos ⟨hdash.1, hhead.mpr hdash.2⟩, if_pos (by simp [hdash]), strip_comment hcs, hbehind]
      rfl
    · rw [if_neg fun hd => hdash ⟨hd.1, hhead.mp hd.2⟩, if_neg (by simpa using hdash), ih hcs]
      rfl

/-- The cleaned script. -/
def cleaned (sql : List Char) : List Char :=
  (getlines '\n' sql).flatMap fun l => stripComment l ++ ['\n']

/-- `cleaned` is the stripped text, perhaps with a line end more. -/
theorem cleaned_strip (sql : List Char) :
    cleaned sql = strip false sql ∨ cleaned sql = strip false sql ++ ['\n'] := by
  induction hn : sql.length using Nat.strong_induction_on generalizing sql with
  | _ n ih =>
    by_cases hline : '\n' ∈ sql
    · obtain ⟨line, rest, rfl, hfirst⟩ := List.eq_append_cons_of_mem hline
      have hstep : cleaned (line ++ '\n' :: rest) = stripComment line ++ '\n' :: cleaned rest := by
        unfold cleaned
        rw [getlines_append hfirst, List.flatMap_cons, List.append_assoc]
        rfl
      have hlt : rest.length < n := by
        rw [← hn, List.length_append, List.length_cons]
        omega
      rw [hstep, @strip_line _ hfirst ('\n' :: rest) fun c hc => (Option.some.inj hc).symm]
      show _ = stripComment line ++ '\n' :: strip false rest ∨ _ = _
      rcases ih rest.length hlt rest rfl with h | h
      · rw [h]
        exact Or.inl rfl
      · rw [h]
        exact Or.inr (by rw [List.append_assoc]; rfl)
    · by_cases hempty : sql = []
      · rw [hempty]
        exact Or.inl rfl
      · unfold cleaned
        have hlast := @strip_line _ hline [] nofun
        rw [List.append_nil] at hlast
        rw [getlines_eq_singleton hline hempty, List.flatMap_singleton, hlast]
        exact Or.inr (by rw [List.append_assoc]; rfl)

/-- Text without a comment stays, if none begins at its end. -/
theorem strip_code {code : List Char} (h : ¬['-', '-'] <:+: code) {rest : List Char}
    (hend : code.getLast? = some '-' → rest.head? ≠ some '-') :
    strip false (code ++ rest) = code ++ strip false rest := by
  induction code with
  | nil => rfl
  | cons c cs ih =>
    have hdash : ¬(c = '-' ∧ (cs ++ rest).head? = some '-') := by
      intro ⟨hc, hnext⟩
      cases cs with
      | nil => exact hend (by rw [hc]; rfl) hnext
      | cons d cs =>
        have hd : d = '-' := Option.some.inj hnext
        exact h (by rw [hc, hd]; exact (List.prefix_append ['-', '-'] cs).isInfix)
    have hcs : ¬['-', '-'] <:+: cs := fun hin => h (hin.trans (List.suffix_cons c cs).isInfix)
    rw [List.cons_append, strip, if_neg hdash, ih hcs fun hl => hend ?_]
    · rfl
    · cases cs with
      | nil => cases hl
      | cons d cs => rw [List.getLast?_cons_cons]; exact hl

/-! ## A script with comments -/

/-- Blanks and a comment at the end of a line. -/
structure LineRest where
  pad : List Char := []
  comment : Option (List Char) := none
  blank : ∀ c ∈ pad, c = ' ' ∨ c = '\t' ∨ c = '\r'
  oneLine : ∀ t ∈ comment, '\n' ∉ t

/-- The end of the line as it stands in the script. -/
def LineRest.text (r : LineRest) : List Char :=
  r.pad ++ r.comment.elim [] fun t => '-' :: '-' :: t

/-- A comment that begins directly behind the text of the line. -/
def LineRest.Touches (r : LineRest) : Prop := r.pad = [] ∧ r.comment ≠ none

/-- The end of a line, and the lines inserted behind it. -/
structure LineEnd where
  rest : LineRest
  inserted : List LineRest := []

/-- The line end and the inserted lines as they stand in the script. -/
def LineEnd.text (e : LineEnd) : List Char :=
  e.rest.text ++ '\n' :: e.inserted.flatMap fun r => r.text ++ ['\n']

/-- What is left without the comments. -/
def LineEnd.bare (e : LineEnd) : List Char :=
  e.rest.pad ++ '\n' :: e.inserted.flatMap fun r => r.pad ++ ['\n']

/-- A statement as it is written: its first line, and the others with what is inserted in front of
them. -/
structure Written where
  first : List Char
  others : List (LineEnd × List Char) := []
  oneLine : '\n' ∉ first ∧ ∀ p ∈ others, '\n' ∉ p.2

/-- The statement without what is inserted. -/
def Written.original (w : Written) : List Char :=
  w.first ++ w.others.flatMap fun (_, line) => '\n' :: line

/-- The statement as it stands in the script. -/
def Written.text (w : Written) : List Char :=
  w.first ++ w.others.flatMap fun (e, line) => e.text ++ line

/-- The statement without its comments. -/
def Written.bare (w : Written) : List Char :=
  w.first ++ w.others.flatMap fun (e, line) => e.bare ++ line

/-- The white space that is cut off a statement. -/
def isWhite (c : Char) : Bool := c = ' ' || c = '\t' || c = '\r' || c = '\n'

/-- What may be written as a statement: no `;` and no `--` in it, and not blank. -/
structure Written.IsStatement (w : Written) : Prop where
  whole : ';' ∉ w.original
  noComment : ¬['-', '-'] <:+: w.original
  notBlank : ∃ c ∈ w.original, isWhite c = false

/-- What `exec` is given. -/
def Written.executed (w : Written) : String := String.ofList (trim isWhite w.bare)

/-- No comment directly behind a minus sign; `line` is what stands in front of the first line end. -/
def Apart : List Char → List (LineEnd × List Char) → Prop
  | _, [] => True
  | line, (e, next) :: more => (e.rest.Touches → line.getLast? ≠ some '-') ∧ Apart next more

/-- The line the statement ends in. -/
def Written.lastLine (w : Written) : List Char := (w.others.getLast?.map Prod.snd).getD w.first

/-- A script: statements with a semicolon behind each, perhaps one without, and what stands behind
the last. -/
structure Script where
  closed : List Written
  last : Option Written := none
  rest : LineRest
  inserted : List LineRest := []

/-- All statements of the script. -/
def Script.statements (s : Script) : List Written := s.closed ++ s.last.toList

/-- What stands behind the last statement. -/
def Script.tail (s : Script) : List Char :=
  s.rest.text ++ s.inserted.flatMap fun r => '\n' :: r.text

/-- The text of the script. -/
def Script.text (s : Script) : List Char :=
  (s.closed.flatMap fun w => w.text ++ [';']) ++ (s.last.elim [] Written.text ++ s.tail)

/-- No comment directly behind a minus sign, in the whole script. -/
structure Script.Apart (s : Script) : Prop where
  inside : ∀ w ∈ s.statements, Database.Apart w.first w.others
  behind : ∀ w ∈ s.last, s.rest.Touches → w.lastLine.getLast? ≠ some '-'

/-! ## Without its comments -/

/-- At the end of a line the blanks stay and the comment goes. -/
theorem LineRest.strip_text (r : LineRest) {rest : List Char} (hend : ∀ c ∈ rest.head?, c = '\n') :
    strip false (r.text ++ rest) = r.pad ++ strip false rest := by
  have hdash : '-' ∉ r.pad := fun hm => by
    rcases r.blank '-' hm with h | h | h <;> exact absurd h (by decide)
  have hpad : ¬['-', '-'] <:+: r.pad := fun h => hdash (h.subset List.mem_cons_self)
  have hlast : ∀ t : List Char, r.pad.getLast? = some '-' → t.head? ≠ some '-' :=
    fun _ h => absurd (List.mem_of_getLast? h) hdash
  unfold LineRest.text
  cases hcomment : r.comment with
  | none =>
    show strip false ((r.pad ++ []) ++ rest) = _
    rw [List.append_nil, strip_code hpad (hlast _)]
  | some t =>
    show strip false ((r.pad ++ '-' :: '-' :: t) ++ rest) = _
    rw [List.append_assoc, strip_code hpad (hlast _)]
    congr 1
    show strip true ('-' :: t ++ rest) = _
    rw [@strip_comment ('-' :: t)]
    · cases rest with
      | nil => rfl
      | cons c rest =>
        obtain rfl := hend c rfl
        rfl
    · intro hm
      rcases List.mem_cons.mp hm with h | h
      · exact absurd h (by decide)
      · exact r.oneLine t hcomment h

/-- The line end itself stays. -/
theorem LineRest.strip_newline (r : LineRest) (rest : List Char) :
    strip false (r.text ++ '\n' :: rest) = r.pad ++ '\n' :: strip false rest :=
  @LineRest.strip_text r ('\n' :: rest) fun _ hc => (Option.some.inj hc).symm

/-- Of inserted lines the blanks and the line ends stay. -/
theorem strip_inserted (inserted : List LineRest) (rest : List Char) :
    strip false ((inserted.flatMap fun r => r.text ++ ['\n']) ++ rest) =
      (inserted.flatMap fun r => r.pad ++ ['\n']) ++ strip false rest := by
  induction inserted with
  | nil => rfl
  | cons r more ih =>
    simp only [List.flatMap_cons, List.append_assoc, List.cons_append, List.nil_append]
    rw [r.strip_newline, ih]

/-- Of a line end with inserted lines the blanks stay. -/
theorem LineEnd.strip_text (e : LineEnd) (rest : List Char) :
    strip false (e.text ++ rest) = e.bare ++ strip false rest := by
  unfold LineEnd.text LineEnd.bare
  rw [List.append_assoc, List.append_assoc, List.cons_append, List.cons_append,
    e.rest.strip_newline, strip_inserted]

/-- Only a comment makes the end of a line begin with a dash. -/
theorem LineRest.head_text {r : LineRest} {rest : List Char} (hend : ∀ c ∈ rest.head?, c = '\n')
    (h : (r.text ++ rest).head? = some '-') : r.Touches := by
  unfold LineRest.text at h
  cases hpad : r.pad with
  | nil =>
    refine ⟨hpad, fun hnone => ?_⟩
    rw [hpad, hnone] at h
    exact absurd (hend '-' h) (by decide)
  | cons c pad =>
    rw [hpad] at h
    obtain rfl := Option.some.inj h
    have hblank := r.blank '-' (by rw [hpad]; exact List.mem_cons_self)
    rcases hblank with h | h | h <;> exact absurd h (by decide)

/-- Only a comment right behind the text begins with a minus sign. -/
theorem LineEnd.head_text {e : LineEnd} {rest : List Char}
    (h : (e.text ++ rest).head? = some '-') : e.rest.Touches := by
  unfold LineEnd.text at h
  rw [List.append_assoc, List.cons_append] at h
  refine @LineRest.head_text e.rest ('\n' :: _) (fun _ hc => (Option.some.inj hc).symm) h

/-- A statement, and what stands behind it. -/
theorem strip_written {line : List Char} {others : List (LineEnd × List Char)}
    (hclean : ¬['-', '-'] <:+: line ++ others.flatMap fun (_, l) => '\n' :: l)
    (hapart : Apart line others) {rest : List Char}
    (hend : ((others.getLast?.map Prod.snd).getD line).getLast? = some '-' → rest.head? ≠ some '-') :
    strip false ((line ++ others.flatMap fun (e, l) => e.text ++ l) ++ rest) =
      (line ++ others.flatMap fun (e, l) => e.bare ++ l) ++ strip false rest := by
  induction others generalizing line with
  | nil =>
    rw [List.flatMap_nil, List.append_nil] at hclean
    rw [List.flatMap_nil, List.append_nil, List.flatMap_nil, List.append_nil]
    exact strip_code hclean hend
  | cons p more ih =>
    obtain ⟨e, next⟩ := p
    obtain ⟨htouch, hmore⟩ := hapart
    have hline : ¬['-', '-'] <:+: line := fun h => hclean (h.trans (List.prefix_append _ _).isInfix)
    have hnext : ¬['-', '-'] <:+: next ++ more.flatMap fun (_, l) => '\n' :: l := by
      intro h
      refine hclean (h.trans ?_)
      rw [List.flatMap_cons]
      exact ((List.suffix_cons _ _).trans (List.suffix_append _ _)).isInfix
    have hrest := ih hnext hmore fun h => hend (by
      cases more with
      | nil => exact h
      | cons q more => rw [List.getLast?_cons_cons]; exact h)
    have hassoc : (line ++ ((e, next) :: more).flatMap fun (e, l) => e.text ++ l) ++ rest =
        line ++ (e.text ++ ((next ++ more.flatMap fun (e, l) => e.text ++ l) ++ rest)) := by
      simp only [List.flatMap_cons, List.append_assoc]
    have hassoc' : (line ++ ((e, next) :: more).flatMap fun (e, l) => e.bare ++ l) ++ strip false rest =
        line ++ (e.bare ++ ((next ++ more.flatMap fun (e, l) => e.bare ++ l) ++ strip false rest)) := by
      simp only [List.flatMap_cons, List.append_assoc]
    rw [hassoc, hassoc', ← hrest, ← e.strip_text]
    exact strip_code hline fun hl hh => htouch (LineEnd.head_text hh) hl

/-- White space behind the last semicolon, or the last statement. -/
def Script.bareTail (s : Script) : List Char :=
  s.rest.pad ++ s.inserted.flatMap fun r => '\n' :: r.pad

/-- What is inserted behind a statement begins with a line end. -/
theorem head_inserted (inserted : List LineRest) :
    ∀ c ∈ (inserted.flatMap fun r => '\n' :: r.text).head?, c = '\n' := by
  cases inserted with
  | nil => exact fun c hc => nomatch hc
  | cons r more => exact fun c hc => (Option.some.inj hc).symm

/-- The tail without its comments. -/
theorem Script.strip_tail (s : Script) : strip false s.tail = s.bareTail := by
  have hlines : ∀ inserted : List LineRest, strip false (inserted.flatMap fun r => '\n' :: r.text) =
      inserted.flatMap fun r => '\n' :: r.pad := by
    intro inserted
    induction inserted with
    | nil => rfl
    | cons r more ih =>
      show '\n' :: strip false (r.text ++ more.flatMap fun r => '\n' :: r.text) =
        '\n' :: (r.pad ++ more.flatMap fun r => '\n' :: r.pad)
      rw [r.strip_text (head_inserted more), ih]
  unfold Script.tail Script.bareTail
  rw [s.rest.strip_text (head_inserted _), hlines]

/-- The script without its comments. -/
theorem Script.strip_text (s : Script) (hstatements : ∀ w ∈ s.statements, w.IsStatement)
    (hapart : s.Apart) : strip false s.text =
      (s.closed.flatMap fun w => w.bare ++ [';']) ++ (s.last.elim [] Written.bare ++ s.bareTail) := by
  have hclosed : ∀ ws : List Written,
      (∀ w ∈ ws, w.IsStatement ∧ Database.Apart w.first w.others) → ∀ rest,
      strip false ((ws.flatMap fun w => w.text ++ [';']) ++ rest) =
        (ws.flatMap fun w => w.bare ++ [';']) ++ strip false rest := by
    intro ws
    induction ws with
    | nil => exact fun _ _ => rfl
    | cons w ws ih =>
      intro hws rest
      obtain ⟨hstatement, hw⟩ := hws w List.mem_cons_self
      have hrest := ih (fun x hx => hws x (List.mem_cons_of_mem w hx)) rest
      have hfirst := @strip_written _ _ hstatement.noComment hw
        (';' :: ((ws.flatMap fun w => w.text ++ [';']) ++ rest)) fun _ => by simp
      simp only [List.flatMap_cons, List.append_assoc, List.cons_append, List.nil_append]
      refine Eq.trans hfirst ?_
      show w.bare ++ ';' :: strip false _ = _
      rw [hrest]
  unfold Script.text
  rw [hclosed s.closed fun w hw => ?_]
  · congr 1
    cases hlast : s.last with
    | none => exact s.strip_tail
    | some w =>
      have hmem : w ∈ s.statements :=
        List.mem_append_right _ (by rw [hlast]; exact List.mem_singleton_self w)
      have hend : w.lastLine.getLast? = some '-' → s.tail.head? ≠ some '-' := by
        intro hdash hhead
        exact hapart.behind w (by rw [hlast]; rfl)
          (LineRest.head_text (head_inserted _) hhead) hdash
      show strip false (w.text ++ s.tail) = w.bare ++ s.bareTail
      rw [← s.strip_tail]
      exact strip_written (hstatements w hmem).noComment (hapart.inside w hmem) hend
  · have hmem : w ∈ s.statements := List.mem_append_left _ hw
    exact ⟨hstatements w hmem, hapart.inside w hmem⟩

/-! ## The statements -/

/-- The blanks at the end of a line are white space. -/
theorem LineRest.white (r : LineRest) : ∀ c ∈ r.pad, isWhite c = true := by
  intro c hc
  rcases r.blank c hc with h | h | h
  · rw [h]; rfl
  · rw [h]; rfl
  · rw [h]; rfl

/-- So is all that is left of a line end. -/
theorem LineEnd.white (e : LineEnd) : ∀ c ∈ e.bare, isWhite c = true := by
  intro c hc
  rcases List.mem_append.mp hc with hc | hc
  · exact e.rest.white c hc
  · rcases List.mem_cons.mp hc with rfl | hc
    · rfl
    · obtain ⟨r, -, hr⟩ := List.mem_flatMap.mp hc
      rcases List.mem_append.mp hr with hr | hr
      · exact r.white c hr
      · rw [List.mem_singleton.mp hr]
        rfl

/-- So is all that is left of the tail. -/
theorem Script.white (s : Script) : ∀ c ∈ s.bareTail, isWhite c = true := by
  intro c hc
  rcases List.mem_append.mp hc with hc | hc
  · exact s.rest.white c hc
  · obtain ⟨r, -, hr⟩ := List.mem_flatMap.mp hc
    rcases List.mem_cons.mp hr with rfl | hr
    · rfl
    · exact r.white c hr

/-- What is inserted is white space. -/
theorem mem_bare {w : Written} {c : Char} (h : c ∈ w.bare) : c ∈ w.original ∨ isWhite c = true := by
  rcases List.mem_append.mp h with h | h
  · exact Or.inl (List.mem_append_left _ h)
  · obtain ⟨p, hp, hc⟩ := List.mem_flatMap.mp h
    rcases List.mem_append.mp hc with hc | hc
    · exact Or.inr (p.1.white c hc)
    · refine Or.inl (List.mem_append_right _ (List.mem_flatMap.mpr ⟨p, hp, ?_⟩))
      exact List.mem_cons_of_mem _ hc

/-- The original has the characters of the bare statement, white space apart. -/
theorem mem_original {w : Written} {c : Char} (h : c ∈ w.original) : c ∈ w.bare ∨ isWhite c = true := by
  rcases List.mem_append.mp h with h | h
  · exact Or.inl (List.mem_append_left _ h)
  · obtain ⟨p, hp, hc⟩ := List.mem_flatMap.mp h
    rcases List.mem_cons.mp hc with rfl | hc
    · exact Or.inr rfl
    · refine Or.inl (List.mem_append_right _ (List.mem_flatMap.mpr ⟨p, hp, ?_⟩))
      exact List.mem_append_right _ hc

/-- The bare statement has no semicolon. -/
theorem Written.IsStatement.bare_whole {w : Written} (h : w.IsStatement) : ';' ∉ w.bare := by
  intro hm
  rcases mem_bare hm with hm | hm
  · exact h.whole hm
  · exact absurd hm (by decide)

/-- Trimmed it is not empty. -/
theorem Written.IsStatement.trim_ne_nil {w : Written} (h : w.IsStatement) :
    trim isWhite w.bare ≠ [] := by
  obtain ⟨c, hc, hblack⟩ := h.notBlank
  have hmem : c ∈ w.bare := (mem_original hc).resolve_right fun hw => by
    rw [hblack] at hw
    cases hw
  intro hnil
  unfold trim at hnil
  have hall := List.rdropWhile_eq_nil_iff.mp hnil
  have hsplit := List.takeWhile_append_dropWhile (p := isWhite) (l := w.bare)
  rw [← hsplit] at hmem
  have hwhite : isWhite c = true := by
    rcases List.mem_append.mp hmem with hm | hm
    · exact List.mem_takeWhile_imp hm
    · exact hall c hm
  rw [hblack] at hwhite
  cases hwhite

/-- The statements of a cleaned script. -/
theorem statements_split {closed : List Written} {last : Option Written} {white : List Char}
    (hstatements : ∀ w ∈ closed ++ last.toList, w.IsStatement) (hwhite : ∀ c ∈ white,
        isWhite c = true) :
    ((((closed.flatMap fun w => w.bare ++ [';']) ++ (last.elim [] Written.bare ++ white)).splitOn
        ';').map
      (trim isWhite)).filterMap (fun s => if s = [] then none else some (String.ofList s)) =
      (closed ++ last.toList).map Written.executed := by
  have hnone : ';' ∉ white := fun hm => absurd (hwhite ';' hm) (by decide)
  have hkept : ∀ w : Written, w.IsStatement → ∀ rest : List (List Char),
      ((trim isWhite w.bare) :: rest).filterMap
        (fun s => if s = [] then none else some (String.ofList s)) =
        w.executed :: rest.filterMap (fun s => if s = [] then none else some (String.ofList s)) := by
    intro w hw rest
    rw [List.filterMap_cons, if_neg hw.trim_ne_nil]
    rfl
  induction closed with
  | nil =>
    show (((last.elim [] Written.bare ++ white).splitOn ';').map _).filterMap _ = _
    cases last with
    | none =>
      have htrim : trim isWhite white = [] := trim_append_blanks hwhite []
      show ((white.splitOn ';').map _).filterMap _ = []
      rw [List.splitOn_eq_singleton hnone, List.map_singleton, htrim]
      rfl
    | some w =>
      have hw := hstatements w (List.mem_singleton_self w)
      have hwhole : ';' ∉ w.bare ++ white := by
        rw [List.mem_append]
        exact not_or.mpr ⟨hw.bare_whole, hnone⟩
      show (((w.bare ++ white).splitOn ';').map _).filterMap _ = [w.executed]
      rw [List.splitOn_eq_singleton hwhole, List.map_singleton, trim_append_blanks hwhite, hkept w hw]
      rfl
  | cons w ws ih =>
    have hw := hstatements w List.mem_cons_self
    have hrest := ih fun x hx => hstatements x (List.mem_cons_of_mem w hx)
    rw [List.flatMap_cons, List.append_assoc, List.append_assoc, List.singleton_append,
      List.splitOn_append_cons_self_of_not_mem hw.bare_whole, List.map_cons, hkept w hw, hrest]
    rfl

/-- The statements found in the script are those written, each as `exec` is given it. -/
theorem scriptStatements_text (s : Script) (hstatements : ∀ w ∈ s.statements, w.IsStatement)
    (hapart : s.Apart) :
    scriptStatements (String.ofList s.text) = s.statements.map Written.executed := by
  have hstrip := s.strip_text hstatements hapart
  unfold scriptStatements
  rw [String.toList_ofList]
  show (((cleaned s.text).splitOn ';').map (trim isWhite)).filterMap _ = _
  rcases cleaned_strip s.text with h | h
  · rw [h, hstrip]
    exact statements_split hstatements s.white
  · rw [h, hstrip, List.append_assoc, List.append_assoc]
    refine statements_split hstatements fun c hc => ?_
    rcases List.mem_append.mp hc with hc | hc
    · exact s.white c hc
    · rw [List.mem_singleton.mp hc]
      rfl

/-! ## What is executed, line by line -/

/-- The lines of a statement without the white space at their ends, those that are not empty. -/
def codeLines (text : List Char) : List (List Char) :=
  ((text.splitOn '\n').map fun l => l.rdropWhile isWhite).filter (· ≠ [])

/-- The code lines of a line and of the rest. -/
theorem codeLines_newline {line : List Char} (h : '\n' ∉ line) (rest : List Char) :
    codeLines (line ++ '\n' :: rest) = codeLines line ++ codeLines rest := by
  unfold codeLines
  rw [List.splitOn_append_cons_self_of_not_mem h, List.splitOn_eq_singleton h, List.map_cons,
    List.map_singleton, ← List.filter_append]
  rfl

/-- Blanks behind a line add no code. -/
theorem codeLines_pad {line : List Char} (h : '\n' ∉ line) (r : LineRest) :
    codeLines (line ++ r.pad) = codeLines line := by
  have hpad : '\n' ∉ r.pad := by
    intro hm
    rcases r.blank '\n' hm with h | h | h <;> exact absurd h (by decide)
  have hwhole : '\n' ∉ line ++ r.pad := by
    rw [List.mem_append]
    exact not_or.mpr ⟨h, hpad⟩
  have hcut : ∀ pad : List Char, (∀ c ∈ pad, isWhite c = true) →
      (line ++ pad).rdropWhile isWhite = line.rdropWhile isWhite := by
    intro pad hwhite
    induction pad using List.reverseRecOn with
    | nil => rw [List.append_nil]
    | append_singleton pad c ih =>
      rw [← List.append_assoc, List.rdropWhile_concat_pos _ _ _ (hwhite c (by simp))]
      exact ih fun x hx => hwhite x (List.mem_append_left _ hx)
  unfold codeLines
  rw [List.splitOn_eq_singleton hwhole, List.splitOn_eq_singleton h, List.map_singleton,
    List.map_singleton, hcut r.pad r.white]

/-- Blank lines add no code. -/
theorem codeLines_inserted (inserted : List LineRest) (rest : List Char) :
    codeLines ((inserted.flatMap fun r => r.pad ++ ['\n']) ++ rest) = codeLines rest := by
  induction inserted with
  | nil => rfl
  | cons r more ih =>
    have hpad : '\n' ∉ r.pad := by
      intro hm
      rcases r.blank '\n' hm with h | h | h <;> exact absurd h (by decide)
    have hnone := @codeLines_pad [] List.not_mem_nil r
    rw [List.nil_append] at hnone
    rw [List.flatMap_cons, List.append_assoc, List.append_assoc, List.singleton_append,
      codeLines_newline hpad, hnone, ih]
    rfl

/-- Without its comments a statement has the lines of the original. -/
theorem codeLines_bare (w : Written) : codeLines w.bare = codeLines w.original := by
  have hall : ∀ (others : List (LineEnd × List Char)) (line : List Char), '\n' ∉ line →
      (∀ p ∈ others, '\n' ∉ p.2) →
      codeLines (line ++ others.flatMap fun (e, l) => e.bare ++ l) =
        codeLines (line ++ others.flatMap fun (_, l) => '\n' :: l) := by
    intro others
    induction others with
    | nil => exact fun _ _ _ => rfl
    | cons p more ih =>
      intro line hline hothers
      obtain ⟨e, next⟩ := p
      have hnext :=
        ih next (hothers _ List.mem_cons_self) fun q hq => hothers q (List.mem_cons_of_mem _ hq)
      have hpad : '\n' ∉ line ++ e.rest.pad := by
        rw [List.mem_append]
        refine not_or.mpr ⟨hline, fun hm => ?_⟩
        rcases e.rest.blank '\n' hm with h | h | h <;> exact absurd h (by decide)
      have hassoc : line ++ ((e, next) :: more).flatMap (fun (e, l) => e.bare ++ l) =
          (line ++ e.rest.pad) ++ '\n' :: ((e.inserted.flatMap fun r => r.pad ++ ['\n']) ++
            (next ++ more.flatMap fun (e, l) => e.bare ++ l)) := by
        simp only [List.flatMap_cons, LineEnd.bare, List.append_assoc, List.cons_append]
      rw [hassoc, codeLines_newline hpad, codeLines_pad hline, codeLines_inserted, hnext]
      exact (codeLines_newline hline _).symm
  exact hall w.others w.first w.oneLine.1 w.oneLine.2

/-- The comment `-- don't; stop`, behind a blank, or directly behind the text of a line. -/
def someComment (pad : List Char) (h : ∀ c ∈ pad, c = ' ' ∨ c = '\t' ∨ c = '\r') : LineRest where
  pad := pad
  comment := some " don't; stop".toList
  blank := h
  oneLine := by simp

/-- Two statements, one of them with comments in it. -/
def commentedScript : Script where
  closed :=
    [{ first := "USE nightwatcher".toList, oneLine := by decide },
     { first := []
       others := [({ rest := someComment [' '] (by simp) }, "CREATE TABLE t (".toList),
         ({ rest := someComment [' '] (by simp) }, "id INT)".toList)]
       oneLine := by decide }]
  rest := someComment [] (by simp)

/-- A comment put directly behind a minus sign. -/
def minusScript : Script where
  closed :=
    [{ first := "SELECT 5 -".toList
       others := [({ rest := someComment [] (by simp) }, "3".toList)]
       oneLine := by decide }]
  rest := someComment [] (by simp)

end NightWatcher.Database
