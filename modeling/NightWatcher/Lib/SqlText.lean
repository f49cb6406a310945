import Mathlib.Data.List.Basic

/-!
# Values in SQL text

A text is a list of characters, one for each byte. `rowText` writes a row of an
INSERT the way a client does, its values escaped within quotes; `Scan` is the
server's reader of such rows, one character after the other. Whatever bytes the
values have, the reader gets them back (`readRows_rowsText`), and no line end and
no NUL is left in the text (`rowText_onOneLine`).
-/

namespace SqlText

/-- A text, as characters. -/
abbrev Text := List Char

/-- NULL, or a value. -/
abbrev Cell := Option Text

/-- The values of a row, NULL among them. -/
abbrev Row := List Cell

/-! ## Writing -/

/-- `mysql_real_escape_string` on one character. -/
def escapeChar (c : Char) : Text :=
  if c = '\x00' then ['\\', '0']
  else if c = '\n' then ['\\', 'n']
  else if c = '\r' then ['\\', 'r']
  else if c = '\x1a' then ['\\', 'Z']
  else if c = '\\' ∨ c = '\'' ∨ c = '"' then ['\\', c]
  else [c]

/-- What stands for a text between quotes. -/
def escapeString (s : Text) : Text := s.flatMap escapeChar

/-- A value as it is written. -/
def valueText : Cell → Text
  | none => "NULL".toList
  | some v => '\'' :: escapeString v ++ ['\'']

/-- A row as it is written. -/
def rowText (row : Row) : Text := '(' :: [','].intercalate (row.map valueText) ++ [')']

/-- The rows behind VALUES. -/
def rowsText : List Row → Text
  | [] => []
  | row :: rows => rowText row ++ rows.flatMap fun r => ',' :: rowText r

/-! ## Reading -/

/-- What a backslash and the character after it stand for. -/
def unescape (c : Char) : Text :=
  if c = '0' then ['\x00']
  else if c = 'n' then ['\n']
  else if c = 'r' then ['\r']
  else if c = 'Z' then ['\x1a']
  else if c = 't' then ['\t']
  else if c = 'b' then ['\x08']
  else if c = '%' ∨ c = '_' then ['\\', c]
  else [c]

/-- Where the reader is. -/
inductive Mode where
  | row
  | value
  /-- within NULL, with what is left of it -/
  | null (left : Text)
  | quoted (v : Text)
  | escape (v : Text)
  /-- behind a quote: the end of the value, unless another quote follows -/
  | closed (v : Text)
  | valueEnd
  | rowEnd
deriving DecidableEq

/-- The rows read, the cells of the row that is being read, and where the reader is. -/
structure Scan where
  rows : List Row := []
  cells : Row := []
  mode : Mode := .row
deriving DecidableEq

/-- Behind a value a row goes on or ends. -/
def endValue (s : Scan) (c : Char) : Option Scan :=
  if c = ',' then some { s with mode := .value }
  else if c = ')' then some { rows := s.rows ++ [s.cells], cells := [], mode := .rowEnd }
  else none

/-- What the server makes of the next character. -/
def step (s : Scan) (c : Char) : Option Scan :=
  match s.mode with
  | .row => if c = '(' then some { s with mode := .value } else none
  | .value =>
    if c = '\'' then some { s with mode := .quoted [] }
    else if c = 'N' then some { s with mode := .null "ULL".toList }
    else if c = ')' ∧ s.cells = [] then some { rows := s.rows ++ [[]], cells := [], mode := .rowEnd }
    else none
  | .null [] => none
  | .null [x] => if c = x then some { s with cells := s.cells ++ [none], mode := .valueEnd } else none
  | .null (x :: left) => if c = x then some { s with mode := .null left } else none
  | .quoted v =>
    if c = '\\' then some { s with mode := .escape v }
    else if c = '\'' then some { s with mode := .closed v }
    else some { s with mode := .quoted (v ++ [c]) }
  | .escape v => some { s with mode := .quoted (v ++ unescape c) }
  | .closed v =>
    if c = '\'' then some { s with mode := .quoted (v ++ [c]) }
    else endValue { s with cells := s.cells ++ [some v] } c
  | .valueEnd => endValue s c
  | .rowEnd => if c = ',' then some { s with mode := .row } else none

/-- The rows behind VALUES, none if the text is no list of rows. -/
def readRows (text : Text) : Option (List Row) :=
  (text.foldlM step ({} : Scan)).bind fun s => if s.mode = .rowEnd then some s.rows else none

/-! ## What is written is read back -/

/-- A text can be read in two parts. -/
theorem foldlM_step_append (s : Scan) (a b : Text) :
    (a ++ b).foldlM step s = (a.foldlM step s).bind fun s' => b.foldlM step s' :=
  List.foldlM_append

theorem foldlM_step_cons (s : Scan) (c : Char) (b : Text) :
    (c :: b).foldlM step s = (step s c).bind fun s' => b.foldlM step s' := rfl

/-- An escaped character is read as the character, whichever it is. -/
theorem scan_escapeChar (rows : List Row) (cells : Row) (v : Text) (c : Char) :
    (escapeChar c).foldlM step ⟨rows, cells, .quoted v⟩ = some ⟨rows, cells, .quoted (v ++ [c])⟩ := by
  unfold escapeChar
  by_cases h₀ : c = '\x00'
  · rw [if_pos h₀, h₀]
    rfl
  · by_cases hn : c = '\n'
    · rw [if_neg h₀, if_pos hn, hn]
      rfl
    · by_cases hr : c = '\r'
      · rw [if_neg h₀, if_neg hn, if_pos hr, hr]
        rfl
      · by_cases hz : c = '\x1a'
        · rw [if_neg h₀, if_neg hn, if_neg hr, if_pos hz, hz]
          rfl
        · rw [if_neg h₀, if_neg hn, if_neg hr, if_neg hz]
          by_cases hq : c = '\\' ∨ c = '\'' ∨ c = '"'
          · rw [if_pos hq]
            rcases hq with rfl | rfl | rfl <;> rfl
          · rw [if_neg hq]
            simp only [not_or] at hq
            show ((step ⟨rows, cells, .quoted v⟩ c).bind fun s => some s) = _
            simp only [step, if_neg hq.1, if_neg hq.2.1]
            rfl

/-- So is an escaped text. -/
theorem scan_escapeString (rows : List Row) (cells : Row) (v s : Text) :
    (escapeString s).foldlM step ⟨rows, cells, .quoted v⟩ = some ⟨rows, cells, .quoted (v ++ s)⟩ := by
  induction s generalizing v with
  | nil =>
    rw [List.append_nil]
    rfl
  | cons c s ih =>
    unfold escapeString at ih ⊢
    rw [List.flatMap_cons, foldlM_step_append, scan_escapeChar, Option.bind_some, ih,
      List.append_assoc, List.singleton_append]

/-- A value, and the comma or bracket behind it. -/
theorem scan_value (rows : List Row) (cells : Row) (cell : Cell) {c : Char} (hc : c ≠ '\'')
    (rest : Text) :
    (valueText cell ++ c :: rest).foldlM step ⟨rows, cells, .value⟩
      = (endValue ⟨rows, cells ++ [cell], .valueEnd⟩ c).bind fun s => rest.foldlM step s := by
  cases cell with
  | none => rfl
  | some v =>
    have hopen : step ⟨rows, cells, .value⟩ '\'' = some ⟨rows, cells, .quoted []⟩ := rfl
    have hclose : step ⟨rows, cells, .quoted v⟩ '\'' = some ⟨rows, cells, .closed v⟩ := rfl
    have hend : step ⟨rows, cells, .closed v⟩ c = endValue ⟨rows, cells ++ [some v], .valueEnd⟩ c := by
      simp only [step, if_neg hc]
      rfl
    show ('\'' :: escapeString v ++ ['\''] ++ c :: rest).foldlM step _ = _
    rw [List.append_assoc, List.cons_append, foldlM_step_cons, hopen, Option.bind_some,
      foldlM_step_append, scan_escapeString, Option.bind_some, List.nil_append, List.singleton_append,
      foldlM_step_cons, hclose, Option.bind_some, foldlM_step_cons, hend]

/-- The cells of a row up to its bracket. -/
theorem scan_cells (rows : List Row) (cells : Row) (cell : Cell) (row : Row) (rest : Text) :
    ([','].intercalate ((cell :: row).map valueText) ++ ')' :: rest).foldlM step ⟨rows, cells, .value⟩
      = rest.foldlM step ⟨rows ++ [cells ++ cell :: row], [], .rowEnd⟩ := by
  induction row generalizing cells cell with
  | nil =>
    rw [List.map_singleton, List.intercalate_singleton, scan_value _ _ _ (by decide)]
    rfl
  | cons next row ih =>
    have hcomma : endValue ⟨rows, cells ++ [cell], .valueEnd⟩ ','
        = some ⟨rows, cells ++ [cell], .value⟩ := rfl
    rw [List.map_cons, List.map_cons, List.intercalate_cons_cons, ← List.map_cons, List.append_assoc,
      List.append_assoc, List.singleton_append, scan_value _ _ _ (by decide), hcomma,
      Option.bind_some, ih, List.append_assoc, List.singleton_append]

/-- A row that is written is read back. -/
theorem scan_rowText (rows : List Row) (row : Row) (rest : Text) :
    (rowText row ++ rest).foldlM step ⟨rows, [], .row⟩
      = rest.foldlM step ⟨rows ++ [row], [], .rowEnd⟩ := by
  have hopen : step ⟨rows, [], .row⟩ '(' = some ⟨rows, [], .value⟩ := rfl
  unfold rowText
  rw [List.append_assoc, List.cons_append, foldlM_step_cons, hopen, Option.bind_some,
    List.singleton_append]
  cases row with
  | nil => rfl
  | cons cell row => rw [scan_cells, List.nil_append]

/-- So are the rows behind the first one. -/
theorem scan_rows (rows more : List Row) :
    (more.flatMap fun r => ',' :: rowText r).foldlM step ⟨rows, [], .rowEnd⟩
      = some ⟨rows ++ more, [], .rowEnd⟩ := by
  induction more generalizing rows with
  | nil =>
    rw [List.append_nil]
    rfl
  | cons row more ih =>
    have hcomma : step ⟨rows, [], .rowEnd⟩ ',' = some ⟨rows, [], .row⟩ := rfl
    rw [List.flatMap_cons, List.cons_append, foldlM_step_cons, hcomma, Option.bind_some, scan_rowText,
      ih, List.append_assoc, List.singleton_append]

/-- The rows of an INSERT are read as they were written. -/
theorem readRows_rowsText (row : Row) (rows : List Row) :
    readRows (rowsText (row :: rows)) = some (row :: rows) := by
  have hscan : (rowsText (row :: rows)).foldlM step {} = some ⟨row :: rows, [], .rowEnd⟩ := by
    unfold rowsText
    rw [scan_rowText, scan_rows, List.nil_append, List.singleton_append]
  unfold readRows
  rw [hscan]
  rfl

/-! ## On one line -/

/-- Neither ends a line nor ends a C string. -/
def InLine (c : Char) : Prop := c ≠ '\n' ∧ c ≠ '\r' ∧ c ≠ '\x00'

instance (c : Char) : Decidable (InLine c) := inferInstanceAs (Decidable (_ ∧ _))

/-- A text that stays on one line. -/
def OnOneLine (text : Text) : Prop := ∀ c ∈ text, InLine c

instance (text : Text) : Decidable (OnOneLine text) := List.decidableBAll _ text

/-- Texts without a line break have none between them. -/
theorem OnOneLine.append {a b : Text} (ha : OnOneLine a) (hb : OnOneLine b) : OnOneLine (a ++ b) := by
  intro c hc
  rcases List.mem_append.mp hc with h | h
  · exact ha c h
  · exact hb c h

theorem OnOneLine.cons {c : Char} {a : Text} (hc : InLine c)
    (ha : OnOneLine a) : OnOneLine (c :: a) := by
  intro x hx
  rcases List.mem_cons.mp hx with rfl | h
  · exact hc
  · exact ha x h

/-- Nor has what is put together from such texts. -/
theorem onOneLine_flatMap {α : Type} {l : List α} {f : α → Text} (h : ∀ a ∈ l, OnOneLine (f a)) :
    OnOneLine (l.flatMap f) := by
  intro c hc
  obtain ⟨a, ha, hc⟩ := List.mem_flatMap.mp hc
  exact h a ha c hc

/-- A line break is escaped, so that none is left. -/
theorem escapeChar_onOneLine (c : Char) : OnOneLine (escapeChar c) := by
  unfold escapeChar
  split
  · decide
  next h₀ =>
    split
    · decide
    next hn =>
      split
      · decide
      next hr =>
        have hc : InLine c := ⟨hn, hr, h₀⟩
        split
        · decide
        · split
          · exact OnOneLine.cons (by decide) (OnOneLine.cons hc nofun)
          · exact OnOneLine.cons hc nofun

/-- A value takes one line. -/
theorem valueText_onOneLine (cell : Cell) : OnOneLine (valueText cell) := by
  cases cell with
  | none => decide
  | some v =>
    refine OnOneLine.append (OnOneLine.cons (by decide) ?_) (by decide)
    exact onOneLine_flatMap fun c _ => escapeChar_onOneLine c

/-- So do values with commas between them. -/
theorem intercalate_onOneLine {l : List Text} (h : ∀ t ∈ l, OnOneLine t) :
    OnOneLine ([','].intercalate l) := by
  induction l with
  | nil => nofun
  | cons t l ih =>
    have ht := h t List.mem_cons_self
    have hl := ih fun x hx => h x (List.mem_cons_of_mem _ hx)
    cases l with
    | nil =>
      rw [List.intercalate_singleton]
      exact ht
    | cons t' l =>
      rw [List.intercalate_cons_cons]
      exact (ht.append (by decide)).append hl

/-- So does a row. -/
theorem rowText_onOneLine (row : Row) : OnOneLine (rowText row) := by
  refine OnOneLine.append (OnOneLine.cons (by decide) (intercalate_onOneLine ?_)) (by decide)
  intro t ht
  obtain ⟨cell, -, rfl⟩ := List.mem_map.mp ht
  exact valueText_onOneLine cell

/-- So do many rows. -/
theorem rowsText_onOneLine (rows : List Row) : OnOneLine (rowsText rows) := by
  cases rows with
  | nil => nofun
  | cons row rows =>
    refine OnOneLine.append (rowText_onOneLine row) (onOneLine_flatMap fun r _ => ?_)
    exact OnOneLine.cons (by decide) (rowText_onOneLine r)

end SqlText
