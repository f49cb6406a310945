import Mathlib.Data.List.Nodup
import NightWatcher.Lib.SqlText
import NightWatcher.Lib.TextLines

/-!
# Backup and restore

`dumpSql` writes every table as a script, one statement a line, the rows in
batches of a hundred; `restoreSql` reads a script line by line and executes it.
They share no code: the reader takes lines apart that the writer put together,
skips what looks like a comment or is blank, and cuts one semicolon off.

The server runs the statements of such a script (`Sql`); what `CREATE TABLE`
creates is a parameter.
-/

namespace NightWatcher.Backup

open SqlText TextLines

/-! ## Tables -/

/-- A table as `SHOW CREATE TABLE` and `SELECT *` give it. -/
structure Table where
  name : Text
  create : Text
  rows : List Row := []
deriving DecidableEq

/-- The tables of a database, no two of one name. -/
@[ext] structure Tables where
  list : List Table
  nodup : (list.map Table.name).Nodup

namespace Tables

/-- The names of the tables, in order. -/
def names (ts : Tables) : List Text := ts.list.map Table.name

/-- The tables without one. -/
def drop (ts : Tables) (name : Text) : Tables where
  list := ts.list.filter fun t => t.name ≠ name
  nodup := ts.nodup.sublist (List.filter_sublist.map _)

/-- A table that exists is not created again. -/
def create (ts : Tables) (name definition : Text) : Option Tables :=
  if h : name ∈ ts.names then none
  else some
    { list := ts.list ++ [{ name, create := definition }]
      nodup := by
        have hnodup := ts.nodup.concat h
        rw [List.concat_eq_append] at hnodup
        rw [List.map_append]
        exact hnodup }

/-- Other rows for a table. -/
def update (ts : Tables) (name : Text) (f : List Row → List Row) : Tables where
  list := ts.list.map fun t => if t.name = name then { t with rows := f t.rows } else t
  nodup := by
    rw [List.map_map]
    refine (List.map_congr_left fun t _ => ?_) ▸ ts.nodup
    simp only [Function.comp]
    split <;> rfl

/-- The tables with rows added to one. -/
def insert (ts : Tables) (name : Text) (rows : List Row) : Tables :=
  ts.update name fun old => old ++ rows

end Tables

/-- The rows of a table, none where it does not exist. -/
def rowsIn (tables : List Table) (name : Text) : List Row :=
  ((tables.find? fun t => t.name = name).map Table.rows).getD []

/-- The rows of a table. -/
def Tables.rowsOf (ts : Tables) (name : Text) : List Row := rowsIn ts.list name

/-! ## The server -/

/-- A column of one table that refers to a column of another. -/
structure ForeignKey where
  child : Text
  column : Nat
  parent : Text
  key : Nat
deriving DecidableEq

/-- What the server does with the tables' definitions: how texts are compared, which foreign
keys there are, and what a `CREATE TABLE` creates (the name, and the definition shown later). -/
structure SqlServer where
  collate : Text → Text
  foreignKeys : List ForeignKey
  created : Text → Option (Text × Text)

/-- The cell of a row in a column. -/
def cell (row : Row) (column : Nat) : Cell := row[column]?.join

/-- A row of the parent table has the value as its key. -/
def hasKey (srv : SqlServer) (fk : ForeignKey) (v : Text) (parent : Row) : Bool :=
  (cell parent fk.key).any fun k => srv.collate k = srv.collate v

/-- The row refers to a row of the parent table, or to none. -/
def resolves (srv : SqlServer) (fk : ForeignKey) (parents : List Row) (row : Row) : Bool :=
  match cell row fk.column with
  | none => true
  | some v => parents.any (hasKey srv fk v)

/-- A connection: the tables, whether foreign keys are checked, and the statements sent. -/
structure Session where
  tables : Tables
  checks : Bool := true
  executed : List Text := []

/-- The statements of a script. -/
inductive Sql where
  | setNames
  | setChecks (on : Bool)
  | drop (name : Text)
  | create (text : Text)
  | insert (name : Text) (rows : List Row)
deriving DecidableEq

/-- What follows a given start. -/
def afterStart : Text → Text → Option Text
  | [], s => some s
  | _ :: _, [] => none
  | p :: ps, c :: cs => if p = c then afterStart ps cs else none

/-- A name up to the backtick that ends it, and what follows. -/
def quotedName (text : Text) : Text × Text :=
  (text.takeWhile fun c => c ≠ '`', text.dropWhile fun c => c ≠ '`')

/-- An INSERT, from behind its first words. -/
def parseInsert (text : Text) : Option Sql :=
  (afterStart "` VALUES ".toList (quotedName text).2).bind fun rows =>
    (readRows rows).map fun rows => .insert (quotedName text).1 rows

/-- How the server reads a statement. -/
def parseSql (text : Text) : Option Sql :=
  if text = "SET NAMES utf8mb4".toList then some .setNames
  else if text = "SET FOREIGN_KEY_CHECKS=0".toList then some (.setChecks false)
  else if text = "SET FOREIGN_KEY_CHECKS=1".toList then some (.setChecks true)
  else
    match afterStart "DROP TABLE IF EXISTS `".toList text with
    | some rest => if (quotedName rest).2 = ['`'] then some (.drop (quotedName rest).1) else none
    | none =>
      match afterStart "INSERT INTO `".toList text with
      | some rest => parseInsert rest
      | none => some (.create text)

/-- A statement, none where the server refuses it. -/
def Session.run (srv : SqlServer) (s : Session) : Sql → Option Session
  | .setNames => some s
  | .setChecks on => some { s with checks := on }
  | .drop name =>
    if s.checks && srv.foreignKeys.any fun fk =>
        fk.parent = name && fk.child ≠ name && decide (fk.child ∈ s.tables.names) then none
    else some { s with tables := s.tables.drop name }
  | .create text => do
    let (name, definition) ← srv.created text
    let tables ← s.tables.create name definition
    return { s with tables }
  | .insert name rows =>
    if name ∉ s.tables.names then none
    else
      let tables := s.tables.insert name rows
      if s.checks && srv.foreignKeys.any fun fk =>
          fk.child = name && rows.any fun row =>
            !resolves srv fk (tables.rowsOf fk.parent) row then none
      else some { s with tables }

/-- `Database::exec`: the statement goes to the server as a C string. -/
def exec (srv : SqlServer) (sql : Text) : EStateM String Session Unit := fun s =>
  let sql := sql.takeWhile fun c => c ≠ '\x00'
  let s := { s with executed := s.executed ++ [sql] }
  match (parseSql sql).bind (s.run srv) with
  | some s' => .ok () s'
  | none => .error "query failed" s

/-! ## Writing a script -/

/-- Line ends become blanks. -/
def oneLine (create : Text) : Text := create.map fun c => if c = '\n' ∨ c = '\r' then ' ' else c

/-- `kBatch`: the rows of one INSERT. -/
def batchSize : Nat := 100

/-- The rows, `inBatch` of them already in the statement that is being written. -/
def dumpRows (name : Text) : Nat → List Row → Text
  | inBatch, [] => if 0 < inBatch then ";\n".toList else []
  | inBatch, row :: rows =>
    (if inBatch = 0 then "INSERT INTO `".toList ++ name ++ "` VALUES ".toList else [','])
      ++ rowText row
      ++ if inBatch + 1 = batchSize then ";\n".toList ++ dumpRows name 0 rows
        else dumpRows name (inBatch + 1) rows

/-- The part of `dump_sql` about one table. -/
def dumpTable (t : Table) : Text :=
  let create := oneLine t.create
  "DROP TABLE IF EXISTS `".toList ++ t.name ++ "`;\n".toList
    ++ (if create ≠ [] then create ++ ";\n".toList else [])
    ++ dumpRows t.name 0 t.rows

/-- `Database::dump_sql` -/
def dumpSql (tables : List Table) : Text :=
  "-- NightWatcher database backup\n".toList ++ "-- Restore with: nwdb restore <file>\n".toList
    ++ "SET NAMES utf8mb4;\n".toList ++ "SET FOREIGN_KEY_CHECKS=0;\n".toList
    ++ tables.flatMap dumpTable ++ "SET FOREIGN_KEY_CHECKS=1;\n".toList

/-! ## Reading it -/

/-- The blanks `restore_sql` trims. -/
def isBlank (c : Char) : Bool := c = ' ' || c = '\t' || c = '\r'

/-- The statement on a line, none on a blank or a comment. -/
def statementOn (line : Text) : Option Text :=
  let body := trim isBlank line
  if body = [] then none
  else if body.take 2 = "--".toList then none
  else if body.getLast? = some ';' then (if body.length = 1 then none else some body.dropLast)
  else some body

/-- The loop of `restore_sql` over the lines. -/
def restoreLines (srv : SqlServer) : List Text → EStateM String Session Nat
  | [] => pure 0
  | line :: lines =>
    match statementOn line with
    | none => restoreLines srv lines
    | some sql => do
      exec srv sql
      return (← restoreLines srv lines) + 1

/-- `Database::restore_sql` -/
def restoreSql (srv : SqlServer) (script : Text) : EStateM String Session Nat :=
  restoreLines srv (getlines '\n' script)

/-! ## The lines of a script -/

/-- The statement that drops the table. -/
def dropStatement (name : Text) : Text := "DROP TABLE IF EXISTS `".toList ++ name ++ ['`']

/-- The INSERT of a batch. -/
def insertStatement (name : Text) (rows : List Row) : Text :=
  "INSERT INTO `".toList ++ name ++ "` VALUES ".toList ++ rowsText rows

/-- The statements of `rows`, a hundred rows in each. -/
def insertStatements (name : Text) (rows : List Row) : List Text :=
  match rows with
  | [] => []
  | row :: rows =>
    insertStatement name ((row :: rows).take batchSize)
      :: insertStatements name ((row :: rows).drop batchSize)
termination_by rows.length
decreasing_by
  rw [List.length_drop]
  have hpos : 0 < batchSize := by decide
  simp only [List.length_cons]
  omega

/-- The statements of one table. -/
def tableStatements (t : Table) : List Text :=
  [dropStatement t.name, oneLine t.create]
    ++ insertStatements t.name t.rows

/-- The statements of a backup, in order. -/
def statements (tables : List Table) : List Text :=
  ["SET NAMES utf8mb4".toList, "SET FOREIGN_KEY_CHECKS=0".toList]
    ++ tables.flatMap tableStatements ++ ["SET FOREIGN_KEY_CHECKS=1".toList]

/-- The comment lines of a dump. -/
def comments : List Text :=
  ["-- NightWatcher database backup".toList, "-- Restore with: nwdb restore <file>".toList]

/-- A line with its end. -/
def ended (line : Text) : Text := line ++ ['\n']

/-- A statement with its semicolon. -/
def terminated (sql : Text) : Text := sql ++ [';']

/-- The rest of a batch that has begun. -/
theorem dumpRows_begun (name : Text) {n : Nat} (hn : 0 < n) (hn' : n < batchSize) (rows : List Row) :
    dumpRows name n rows
      = (rows.take (batchSize - n)).flatMap (fun r => ',' :: rowText r) ++ ";\n".toList
        ++ dumpRows name 0 (rows.drop (batchSize - n)) := by
  induction rows generalizing n with
  | nil =>
    rw [List.take_nil, List.drop_nil]
    unfold dumpRows
    rw [if_pos hn]
    rfl
  | cons row rows ih =>
    have hleft : batchSize - n = (batchSize - (n + 1)) + 1 := by omega
    rw [dumpRows, if_neg (by omega), hleft, List.take_succ_cons, List.drop_succ_cons, List.flatMap_cons]
    by_cases hfull : n + 1 = batchSize
    · rw [if_pos hfull, hfull, Nat.sub_self, List.take_zero, List.drop_zero, List.flatMap_nil]
      simp only [List.append_assoc, List.cons_append, List.nil_append, List.append_nil]
    · rw [if_neg hfull, ih (Nat.succ_pos n) (by omega)]
      simp only [List.append_assoc, List.cons_append, List.nil_append]

/-- The rows are dumped as one INSERT after the other. -/
theorem dumpRows_eq (name : Text) (rows : List Row) :
    dumpRows name 0 rows = (insertStatements name rows).flatMap fun sql => ended (terminated sql) := by
  fun_induction insertStatements name rows with
  | case1 => rfl
  | case2 row rows ih =>
    rw [List.flatMap_cons, ← ih, dumpRows, if_pos rfl, if_neg (by decide),
      dumpRows_begun name (by decide) (by decide)]
    show _ = ended (terminated (insertStatement name (row :: rows.take (batchSize - 1)))) ++
      dumpRows name 0 (rows.drop (batchSize - 1))
    unfold ended terminated insertStatement rowsText
    simp only [List.append_assoc]
    rfl

/-- A backup is its comments and its statements, each on a line. -/
theorem dumpSql_eq {tables : List Table} (hcreate : ∀ t ∈ tables, t.create ≠ []) :
    dumpSql tables
      = (comments ++ (statements tables).map terminated).flatMap ended := by
  have htable : ∀ t ∈ tables,
      dumpTable t = (tableStatements t).flatMap fun sql => ended (terminated sql) := by
    intro t ht
    have hne : oneLine t.create ≠ [] := fun h => hcreate t ht (List.map_eq_nil_iff.mp h)
    unfold dumpTable tableStatements
    rw [List.flatMap_append, ← dumpRows_eq]
    simp only [hne, ne_eq, not_false_eq_true, if_true, List.flatMap_cons, List.flatMap_nil]
    unfold ended terminated dropStatement
    simp only [List.append_assoc, List.append_nil]
    rfl
  have htables : tables.flatMap dumpTable
      = (tables.flatMap tableStatements).flatMap fun sql => ended (terminated sql) := by
    rw [List.flatMap_assoc]
    exact List.flatMap_congr htable
  unfold dumpSql statements
  rw [htables, List.flatMap_append, List.flatMap_map]
  simp only [List.flatMap_append, List.append_assoc]
  rfl

/-! ## What is assumed of the tables -/

/-- The two characters of line ends. -/
def isLineEnd (c : Char) : Bool := c = '\n' || c = '\r'

/-- Letters, digits and underscores. -/
def PlainName (name : Text) : Prop := ∀ c ∈ name, (c.isAlphanum || c = '_') = true

instance (name : Text) : Decidable (PlainName name) := List.decidableBAll _ name

/-- Where a reader of SQL is: outside of literals and quoted names, within one, or behind a
backslash in it. -/
inductive Lex where
  | out
  | within (quote : Char)
  | escaped (quote : Char)
deriving DecidableEq

/-- What a character changes about being inside quotes. -/
def Lex.next : Lex → Char → Lex
  | .out, c => if c = '\'' ∨ c = '"' ∨ c = '`' then .within c else .out
  | .within q, c => if c = '\\' ∧ q ≠ '`' then .escaped q else if c = q then .out else .within q
  | .escaped q, _ => .within q

/-- No literal has a line end in it. -/
def lineEndsOut : Lex → Text → Bool
  | _, [] => true
  | l, c :: cs => (l = .out || !isLineEnd c) && lineEndsOut (l.next c) cs

/-- The text with blanks for the line ends between its tokens. -/
def blanksOut : Lex → Text → Text
  | _, [] => []
  | l, c :: cs => (if l = .out ∧ isLineEnd c then ' ' else c) :: blanksOut (l.next c) cs

/-- What `SHOW CREATE TABLE` shows creates the table: a `CREATE TABLE` statement with no line
end in its literals, whichever line ends or blanks stand between its tokens. -/
structure ShowsCreate (srv : SqlServer) (t : Table) : Prop where
  starts : "CREATE TABLE ".toList <+: t.create
  noNul : '\x00' ∉ t.create
  lineEnds : lineEndsOut .out t.create = true
  recreates : ∀ text, blanksOut .out text = blanksOut .out t.create →
    srv.created text = some (t.name, t.create)

/-- Line ends outside of quotes are all the line ends there are. -/
theorem blanksOut_eq_oneLine {l : Lex} {text : Text} (h : lineEndsOut l text = true) :
    blanksOut l text = oneLine text := by
  induction text generalizing l with
  | nil => rfl
  | cons c cs ih =>
    rw [lineEndsOut, Bool.and_eq_true] at h
    show _ :: blanksOut (l.next c) cs = (if c = '\n' ∨ c = '\r' then ' ' else c) :: oneLine cs
    rw [ih h.2]
    refine congrArg (· :: _) ?_
    by_cases hend : c = '\n' ∨ c = '\r'
    · have hc : isLineEnd c = true := by simpa [isLineEnd] using hend
      have hout : l = .out := by simpa [hc] using h.1
      rw [if_pos ⟨hout, hc⟩, if_pos hend]
    · have hc : isLineEnd c = false := by simpa [isLineEnd] using hend
      rw [if_neg hend, if_neg (by simp [hc])]

/-- A text without line ends stays as it is. -/
theorem blanksOut_eq_self {l : Lex} {text : Text} (h : ∀ c ∈ text, isLineEnd c = false) :
    blanksOut l text = text := by
  induction text generalizing l with
  | nil => rfl
  | cons c cs ih =>
    rw [blanksOut, if_neg (by simp [h c List.mem_cons_self]),
      ih fun x hx => h x (List.mem_cons_of_mem _ hx)]

/-- The text on one line has no line end. -/
theorem oneLine_noLineEnd (create : Text) : ∀ c ∈ oneLine create, isLineEnd c = false := by
  intro c hc
  obtain ⟨x, -, rfl⟩ := List.mem_map.mp hc
  split
  · decide
  next h => simpa [isLineEnd] using h

/-- The statement on one line creates the table as it was. -/
theorem ShowsCreate.created_oneLine {srv : SqlServer} {t : Table} (h : ShowsCreate srv t) :
    srv.created (oneLine t.create) = some (t.name, t.create) := by
  refine h.recreates _ ?_
  rw [blanksOut_eq_self (oneLine_noLineEnd _), blanksOut_eq_oneLine h.lineEnds]

/-! ## Statements on their lines -/

/-- A statement that a line of a script can hold: on one line, neither blank nor a comment. -/
structure Sendable (sql : Text) : Prop where
  onOneLine : OnOneLine sql
  head : ∃ c rest, sql = c :: rest ∧ isBlank c = false ∧ c ≠ '-'

/-- What begins a statement, on one line, is a statement to `restore_sql`. -/
theorem sendable_of_start (start : Text) {sql : Text} (hstart : start <+: sql) (hsql : OnOneLine sql)
    (hhead : ∃ c rest, start = c :: rest ∧ isBlank c = false ∧ c ≠ '-') : Sendable sql := by
  obtain ⟨c, rest, rfl, hc⟩ := hhead
  obtain ⟨more, rfl⟩ := hstart
  exact ⟨hsql, c, rest ++ more, rfl, hc⟩

/-- The line of a statement is the statement. -/
theorem statementOn_terminated {sql : Text} (h : Sendable sql) :
    statementOn (terminated sql) = some sql := by
  obtain ⟨c, rest, rfl, hblank, hdash⟩ := h.head
  have htrim : trim isBlank (terminated (c :: rest)) = terminated (c :: rest) := by
    refine trim_eq_self ?_ ?_
    · intro x hx
      obtain rfl := Option.some.inj hx
      exact hblank
    · intro x hx
      unfold terminated at hx
      rw [List.getLast?_append, List.getLast?_singleton] at hx
      obtain rfl := Option.some.inj hx
      decide
  unfold statementOn
  simp only [htrim]
  have hcomment : (terminated (c :: rest)).take 2 ≠ "--".toList := by
    intro hdashes
    have hhead := congrArg List.head? hdashes
    unfold terminated at hhead
    rw [List.cons_append, List.take_succ_cons] at hhead
    exact hdash (Option.some.inj hhead)
  have hlast : (terminated (c :: rest)).getLast? = some ';' := by
    unfold terminated
    rw [List.getLast?_append, List.getLast?_singleton]
    rfl
  have hlong : (terminated (c :: rest)).length ≠ 1 := by
    unfold terminated
    rw [List.length_append, List.length_cons]
    simp only [List.length_singleton]
    omega
  rw [if_neg (by unfold terminated; exact List.cons_ne_nil _ _), if_neg hcomment, if_pos hlast,
    if_neg hlong]
  unfold terminated
  rw [List.dropLast_concat]

/-! ## What the server reads -/

/-- What stands behind a given start. -/
theorem afterStart_append (start rest : Text) : afterStart start (start ++ rest) = some rest := by
  induction start with
  | nil => rfl
  | cons c cs ih =>
    rw [List.cons_append, afterStart, if_pos rfl]
    exact ih

/-- A plain name is read to its closing mark. -/
theorem quotedName_plain {name : Text} (h : PlainName name) (rest : Text) :
    quotedName (name ++ '`' :: rest) = (name, '`' :: rest) := by
  have hname : ∀ c ∈ name, decide (c ≠ '`') = true := by
    intro c hc
    refine decide_eq_true ?_
    rintro rfl
    exact absurd (h _ hc) (by decide)
  unfold quotedName
  rw [List.takeWhile_append_of_pos hname, List.dropWhile_append_of_pos hname,
    List.takeWhile_cons_of_neg (by decide), List.dropWhile_cons_of_neg (by decide), List.append_nil]

/-- The DROP of a plain name is read as one. -/
theorem parseSql_drop {name : Text} (h : PlainName name) :
    parseSql (dropStatement name) = some (.drop name) := by
  unfold dropStatement
  rw [List.append_assoc]
  unfold parseSql
  rw [if_neg (by simp), if_neg (by simp), if_neg (by simp), afterStart_append]
  simp only [quotedName_plain h, if_true]

/-- The INSERT of rows is read as one, with the same rows. -/
theorem parseSql_insert {name : Text} (h : PlainName name) (row : Row) (rows : List Row) :
    parseSql (insertStatement name (row :: rows)) = some (.insert name (row :: rows)) := by
  have hinsert : parseInsert (name ++ ("` VALUES ".toList ++ rowsText (row :: rows)))
      = some (.insert name (row :: rows)) := by
    have hname : quotedName (name ++ ("` VALUES ".toList ++ rowsText (row :: rows)))
        = (name, "` VALUES ".toList ++ rowsText (row :: rows)) := quotedName_plain h _
    unfold parseInsert
    rw [hname, afterStart_append, Option.bind_some, readRows_rowsText]
    rfl
  have hdrop : ∀ rest,
      afterStart "DROP TABLE IF EXISTS `".toList ("INSERT INTO `".toList ++ rest) = none :=
    fun _ => rfl
  unfold insertStatement
  rw [List.append_assoc, List.append_assoc]
  unfold parseSql
  rw [if_neg (by simp), if_neg (by simp), if_neg (by simp), hdrop, afterStart_append]
  exact hinsert

/-- A text that starts as a CREATE is one. -/
theorem parseSql_create {text : Text} (h : "CREATE TABLE ".toList <+: text) :
    parseSql text = some (.create text) := by
  obtain ⟨rest, rfl⟩ := h
  unfold parseSql
  rw [if_neg (by simp), if_neg (by simp), if_neg (by simp)]
  rfl

/-! ## Executing a line -/

variable {srv : SqlServer}

/-- A statement that goes through. -/
theorem exec_ok {sql : Text} {q : Sql} {s s' : Session} (hline : OnOneLine sql)
    (hparse : parseSql sql = some q)
    (hrun : ({ s with executed := s.executed ++ [sql] } : Session).run srv q = some s') :
    exec srv sql s = .ok () s' := by
  have hwhole : (sql.takeWhile fun c => c ≠ '\x00') = sql := by
    rw [List.takeWhile_eq_self_iff]
    exact fun c hc => decide_eq_true (hline c hc).2.2
  unfold exec
  simp only [hwhole, hparse, Option.bind_some, hrun]

/-- Lines after lines. -/
theorem restoreLines_append {lines more : List Text} {s s' s'' : Session} {n m : Nat}
    (h : restoreLines srv lines s = .ok n s') (h' : restoreLines srv more s' = .ok m s'') :
    restoreLines srv (lines ++ more) s = .ok (n + m) s'' := by
  induction lines generalizing s n with
  | nil =>
    cases h
    rw [Nat.zero_add]
    exact h'
  | cons line lines ih =>
    rw [List.cons_append]
    unfold restoreLines at h ⊢
    cases hline : statementOn line with
    | none =>
      rw [hline] at h
      exact ih h
    | some sql =>
      rw [hline] at h
      change EStateM.bind (exec srv sql) _ s = _ at h
      show EStateM.bind (exec srv sql) _ s = _
      unfold EStateM.bind at h ⊢
      cases hexec : exec srv sql s with
      | error e s₁ =>
        rw [hexec] at h
        cases h
      | ok u s₁ =>
        rw [hexec] at h
        dsimp only at h ⊢
        change EStateM.bind (restoreLines srv lines) _ s₁ = _ at h
        show EStateM.bind (restoreLines srv (lines ++ more)) _ s₁ = _
        unfold EStateM.bind at h ⊢
        cases hrest : restoreLines srv lines s₁ with
        | error e s₂ =>
          rw [hrest] at h
          cases h
        | ok k s₂ =>
          rw [hrest] at h
          cases h
          rw [ih hrest, Nat.add_right_comm]
          rfl

/-- One line of a script. -/
theorem restoreLines_one {sql : Text} {q : Sql} {s s' : Session} (hsend : Sendable sql)
    (hparse : parseSql sql = some q)
    (hrun : ({ s with executed := s.executed ++ [sql] } : Session).run srv q = some s') :
    restoreLines srv [terminated sql] s = .ok 1 s' := by
  unfold restoreLines
  rw [statementOn_terminated hsend]
  show EStateM.bind (exec srv sql) _ s = _
  unfold EStateM.bind
  rw [exec_ok hsend.onOneLine hparse hrun]
  rfl

/-! ## A whole script -/

/-- A plain name is on one line. -/
theorem plainName_onOneLine {name : Text} (h : PlainName name) : OnOneLine name := by
  intro c hc
  refine ⟨?_, ?_, ?_⟩ <;> rintro rfl <;> exact absurd (h _ hc) (by decide)

/-- The DROP is a statement to `restore_sql`. -/
theorem dropStatement_sendable {name : Text} (h : PlainName name) : Sendable (dropStatement name) := by
  refine sendable_of_start "DROP".toList ⟨" TABLE IF EXISTS `".toList ++ name ++ ['`'], rfl⟩ ?_
    ⟨'D', "ROP".toList, rfl, by decide⟩
  exact ((by decide : OnOneLine _).append (plainName_onOneLine h)).append (by decide)

/-- So is an INSERT. -/
theorem insertStatement_sendable {name : Text} (h : PlainName name) (rows : List Row) :
    Sendable (insertStatement name rows) := by
  refine sendable_of_start "INSERT".toList
    ⟨" INTO `".toList ++ name ++ "` VALUES ".toList ++ rowsText rows, rfl⟩ ?_
    ⟨'I', "NSERT".toList, rfl, by decide⟩
  exact (((by decide : OnOneLine _).append (plainName_onOneLine h)).append (by decide)).append
    (rowsText_onOneLine rows)

/-- The CREATE on one line starts as one. -/
theorem ShowsCreate.oneLine_starts {t : Table} (h : ShowsCreate srv t) :
    "CREATE TABLE ".toList <+: oneLine t.create := by
  obtain ⟨rest, hrest⟩ := h.starts
  refine ⟨oneLine rest, ?_⟩
  rw [← hrest]
  unfold oneLine
  rw [List.map_append]
  rfl

/-- So is a CREATE. -/
theorem ShowsCreate.sendable {t : Table} (h : ShowsCreate srv t) : Sendable (oneLine t.create) := by
  refine sendable_of_start _ h.oneLine_starts (fun c hc => ?_) ⟨'C', "REATE TABLE ".toList, rfl,
      by decide⟩
  have hend := oneLine_noLineEnd _ c hc
  simp only [isLineEnd, Bool.or_eq_false_iff, decide_eq_false_iff_not] at hend
  refine ⟨hend.1, hend.2, ?_⟩
  rintro rfl
  obtain ⟨x, hx, hx'⟩ := List.mem_map.mp hc
  split at hx'
  · exact absurd hx' (by decide)
  · exact h.noNul (hx' ▸ hx)

/-- What a session has become by the statements of a script. -/
structure Became (s s' : Session) (sqls : List Text) (tables : List Table) : Prop where
  executed : s'.executed = s.executed ++ sqls
  tables : s'.tables.list = tables

/-- The rows of a table that was just created. -/
theorem restore_inserts {name : Text} (hname : PlainName name) (rows : List Row) {s : Session}
    {kept : List Table} {t : Table} (hchecks : s.checks = false) (ht : t.name = name)
    (htables : s.tables.list = kept ++ [t]) (hkept : ∀ x ∈ kept, x.name ≠ name) :
    ∃ s', restoreLines srv ((insertStatements name rows).map terminated) s
        = .ok (insertStatements name rows).length s' ∧ s'.checks = false ∧
      Became s s' (insertStatements name rows) (kept ++ [{ t with rows := t.rows ++ rows }]) := by
  fun_induction insertStatements name rows generalizing s t with
  | case1 =>
    refine ⟨s, rfl, hchecks, (List.append_nil _).symm, ?_⟩
    rw [htables, List.append_nil]
  | case2 row rows ih =>
    let batch := (row :: rows).take batchSize
    have hbatch : batch = row :: rows.take (batchSize - 1) := rfl
    have hin : name ∈ s.tables.names := by
      unfold Tables.names
      rw [htables, List.map_append, List.mem_append]
      exact Or.inr (by rw [List.map_singleton, ht]; exact List.mem_singleton_self _)
    let s₁ : Session :=
      { tables := s.tables.insert name batch
        checks := false
        executed := s.executed ++ [insertStatement name batch] }
    have hone : restoreLines srv [terminated (insertStatement name batch)] s = .ok 1 s₁ := by
      refine restoreLines_one (insertStatement_sendable hname _) (parseSql_insert hname _ _) ?_
      unfold Session.run
      simp only [hin, not_true_eq_false, if_false, hchecks, Bool.false_and, Bool.false_eq_true]
      rfl
    have htables₁ : s₁.tables.list = kept ++ [{ t with rows := t.rows ++ batch }] := by
      show s.tables.list.map _ = _
      rw [htables, List.map_append, List.map_singleton, if_pos ht]
      refine congrArg (· ++ _) ?_
      rw [List.map_congr_left fun x hx => if_neg (hkept x hx), List.map_id']
    obtain ⟨s', hrest, hchecks', hbecame⟩ := ih (s := s₁) (t := { t with rows := t.rows ++ batch })
      rfl ht htables₁
    refine ⟨s', ?_, hchecks', ?_, ?_⟩
    · rw [List.length_cons, Nat.add_comm]
      exact restoreLines_append hone hrest
    · rw [hbecame.executed]
      exact List.append_assoc _ _ _
    · rw [hbecame.tables]
      dsimp only
      rw [List.append_assoc, List.take_append_drop]

/-- One table of a backup. -/
theorem restore_table {t : Table} (hname : PlainName t.name) (hcreate : ShowsCreate srv t) {s : Session}
    (hchecks : s.checks = false) :
    ∃ s', restoreLines srv ((tableStatements t).map terminated) s = .ok (tableStatements t).length s' ∧
      s'.checks = false ∧
      Became s s' (tableStatements t) (s.tables.list.filter (fun x => x.name ≠ t.name) ++ [t]) := by
  -- after the DROP
  let s₁ : Session :=
    { tables := s.tables.drop t.name
      checks := false
      executed := s.executed ++ [dropStatement t.name] }
  have hdrop : restoreLines srv [terminated (dropStatement t.name)] s = .ok 1 s₁ := by
    refine restoreLines_one (dropStatement_sendable hname) (parseSql_drop hname) ?_
    unfold Session.run
    simp only [hchecks, Bool.false_and, Bool.false_eq_true, if_false]
    rfl
  have hgone : t.name ∉ s₁.tables.names := by
    intro hin
    obtain ⟨x, hx, hname⟩ := List.mem_map.mp hin
    exact absurd hname (by simpa using (List.mem_filter.mp hx).2)
  -- after the CREATE, which finds no table of the name
  let tables₂ : Tables := (s₁.tables.create t.name t.create).getD s₁.tables
  have htables₂ : s₁.tables.create t.name t.create = some tables₂ ∧
      tables₂.list = s₁.tables.list ++ [{ t with rows := [] }] := by
    unfold tables₂ Tables.create
    rw [dif_neg hgone]
    exact ⟨rfl, rfl⟩
  let s₂ : Session :=
    { tables := tables₂
      checks := false
      executed := s₁.executed ++ [oneLine t.create] }
  have hcreated : restoreLines srv [terminated (oneLine t.create)] s₁ = .ok 1 s₂ := by
    refine restoreLines_one hcreate.sendable (parseSql_create hcreate.oneLine_starts) ?_
    unfold Session.run
    simp only [hcreate.created_oneLine]
    show (s₁.tables.create t.name t.create >>= _) = _
    rw [htables₂.1]
    rfl
  -- after the INSERTs
  obtain ⟨s', hrows, hchecks', hbecame⟩ := restore_inserts hname t.rows (s := s₂)
    (t := { t with rows := [] }) rfl rfl htables₂.2 fun x hx => by simpa using (List.mem_filter.mp hx).2
  refine ⟨s', ?_, hchecks', ?_, ?_⟩
  · have hboth := restoreLines_append (restoreLines_append hdrop hcreated) hrows
    have hlength : (tableStatements t).length = 1 + 1 + (insertStatements t.name t.rows).length := by
      unfold tableStatements
      rw [List.length_append]
      rfl
    rw [hlength]
    exact hboth
  · rw [hbecame.executed]
    show s.executed ++ [_] ++ [_] ++ _ = _
    simp only [List.append_assoc]
    rfl
  · rw [hbecame.tables]
    rfl

/-- The tables of a backup, one after the other. -/
theorem restore_tables {tables : List Table} (hnodup : (tables.map Table.name).Nodup)
    (hplain : ∀ t ∈ tables, PlainName t.name) (hcreate : ∀ t ∈ tables, ShowsCreate srv t) {s : Session}
    (hchecks : s.checks = false) :
    ∃ s', restoreLines srv ((tables.flatMap tableStatements).map terminated) s
        = .ok (tables.flatMap tableStatements).length s' ∧ s'.checks = false ∧
      Became s s' (tables.flatMap tableStatements)
        (s.tables.list.filter (fun x => x.name ∉ tables.map Table.name) ++ tables) := by
  induction tables generalizing s with
  | nil =>
    refine ⟨s, rfl, hchecks, (List.append_nil _).symm, ?_⟩
    rw [List.append_nil, List.filter_eq_self.mpr fun x _ => by simp]
  | cons t tables ih =>
    rw [List.map_cons, List.nodup_cons] at hnodup
    obtain ⟨s₁, hone, hchecks₁, hbecame₁⟩ := restore_table (hplain t List.mem_cons_self)
      (hcreate t List.mem_cons_self) hchecks
    obtain ⟨s', hrest, hchecks', hbecame⟩ :=
      ih hnodup.2 (fun x hx => hplain x (List.mem_cons_of_mem _ hx))
      (fun x hx => hcreate x (List.mem_cons_of_mem _ hx)) hchecks₁
    refine ⟨s', ?_, hchecks', ?_, ?_⟩
    · rw [List.flatMap_cons, List.map_append, List.length_append]
      exact restoreLines_append hone hrest
    · rw [hbecame.executed, hbecame₁.executed, List.flatMap_cons, List.append_assoc]
    · rw [hbecame.tables, hbecame₁.tables, List.filter_append, List.filter_filter]
      -- the table itself is not replaced again
      have hkept : [t].filter (fun x => decide (x.name ∉ tables.map Table.name)) = [t] := by
        rw [List.filter_singleton, decide_eq_true hnodup.1]
        rfl
      rw [hkept, List.append_assoc, List.singleton_append]
      refine congrArg (· ++ _) (List.filter_congr fun x _ => ?_)
      simp only [List.map_cons, List.mem_cons, not_or, Bool.decide_and, Bool.and_comm]

/-- So are all the INSERTs of a table. -/
theorem insertStatements_sendable {name : Text} (h : PlainName name) (rows : List Row) :
    ∀ sql ∈ insertStatements name rows, Sendable sql := by
  fun_induction insertStatements name rows with
  | case1 => nofun
  | case2 row rows ih =>
    intro sql hsql
    rcases List.mem_cons.mp hsql with rfl | hsql
    · exact insertStatement_sendable h _
    · exact ih sql hsql

/-- So are all statements of the dump. -/
theorem statements_sendable {tables : List Table} (hplain : ∀ t ∈ tables, PlainName t.name)
    (hcreate : ∀ t ∈ tables, ShowsCreate srv t) : ∀ sql ∈ statements tables, Sendable sql := by
  intro sql hsql
  unfold statements at hsql
  simp only [List.mem_append, List.mem_cons, List.not_mem_nil, or_false, List.mem_flatMap] at hsql
  rcases hsql with ((rfl | rfl) | ⟨t, ht, hsql⟩) | rfl
  · exact ⟨by decide, 'S', _, rfl, by decide⟩
  · exact ⟨by decide, 'S', _, rfl, by decide⟩
  · unfold tableStatements at hsql
    simp only [List.mem_append, List.mem_cons, List.not_mem_nil, or_false] at hsql
    rcases hsql with (rfl | rfl) | hsql
    · exact dropStatement_sendable (hplain t ht)
    · exact (hcreate t ht).sendable
    · exact insertStatements_sendable (hplain t ht) _ sql hsql
  · exact ⟨by decide, 'S', _, rfl, by decide⟩

/-- A comment line is no statement. -/
theorem statementOn_comment {line : Text} (h : line ∈ comments) : statementOn line = none := by
  simp only [comments, List.mem_cons, List.not_mem_nil, or_false] at h
  rcases h with rfl | rfl <;> decide +kernel

/-- The script of some tables, on any database. -/
theorem restore_script {tables : Tables} (hplain : ∀ t ∈ tables.list, PlainName t.name)
    (hcreate : ∀ t ∈ tables.list, ShowsCreate srv t) (s : Session) :
    ∃ s', restoreSql srv (dumpSql tables.list) s = .ok (statements tables.list).length s' ∧
      s'.executed = s.executed ++ statements tables.list ∧
      s'.tables.list = s.tables.list.filter (fun t => t.name ∉ tables.names) ++ tables.list := by
  have hset : ∀ {sql : Text} {q : Sql} {s s' : Session}, Sendable sql → parseSql sql = some q →
      ({ s with executed := s.executed ++ [sql] } : Session).run srv q = some s' →
      restoreLines srv [terminated sql] s = .ok 1 s' := fun hsend hparse hrun =>
    restoreLines_one hsend hparse hrun
  have hskip : restoreLines srv comments s = .ok 0 s := by
    unfold comments restoreLines
    rw [statementOn_comment (by simp [comments])]
    unfold restoreLines
    rw [statementOn_comment (by simp [comments])]
    rfl
  -- the statements in front of the tables, one session after the other
  let s₁ : Session := { s with executed := s.executed ++ ["SET NAMES utf8mb4".toList] }
  have hnames : restoreLines srv [terminated "SET NAMES utf8mb4".toList] s = .ok 1 s₁ :=
    hset ⟨by decide, 'S', _, rfl, by decide⟩ rfl rfl
  let s₂ : Session :=
    { s₁ with checks := false, executed := s₁.executed ++ ["SET FOREIGN_KEY_CHECKS=0".toList] }
  have hoff : restoreLines srv [terminated "SET FOREIGN_KEY_CHECKS=0".toList] s₁ = .ok 1 s₂ :=
    hset ⟨by decide, 'S', _, rfl, by decide⟩ rfl rfl
  -- the tables, with the checks of foreign keys off
  obtain ⟨s₃, htables, -, hbecame⟩ := restore_tables tables.nodup hplain hcreate (s := s₂) rfl
  let s₄ : Session :=
    { s₃ with checks := true, executed := s₃.executed ++ ["SET FOREIGN_KEY_CHECKS=1".toList] }
  have hon : restoreLines srv [terminated "SET FOREIGN_KEY_CHECKS=1".toList] s₃ = .ok 1 s₄ :=
    hset ⟨by decide, 'S', _, rfl, by decide⟩ rfl rfl
  refine ⟨s₄, ?_, ?_, hbecame.tables⟩
  -- no statement has a line end in it, so the lines of the dump are the lines written
  · have hlines : getlines '\n' (dumpSql tables.list)
        = comments ++ (statements tables.list).map terminated := by
      rw [dumpSql_eq fun t ht hempty => ?_]
      · refine getlines_flatMap _ fun line hline hend => ?_
        rcases List.mem_append.mp hline with hcomment | hsql
        · simp only [comments, List.mem_cons, List.not_mem_nil, or_false] at hcomment
          rcases hcomment with rfl | rfl <;> exact absurd hend (by decide)
        · obtain ⟨sql, hmem, rfl⟩ := List.mem_map.mp hsql
          have honOneLine : OnOneLine (terminated sql) :=
            (statements_sendable hplain hcreate sql hmem).onOneLine.append (by decide)
          exact (honOneLine _ hend).1 rfl
      · obtain ⟨rest, hrest⟩ := (hcreate t ht).starts
        rw [hempty] at hrest
        cases hrest
    unfold restoreSql
    rw [hlines]
    have hall := restoreLines_append hskip (restoreLines_append hnames (restoreLines_append hoff
      (restoreLines_append htables hon)))
    unfold statements
    simp only [List.map_append, List.map_cons, List.map_nil, List.length_append, List.length_cons,
      List.length_nil]
    simp only [List.cons_append, List.nil_append] at hall ⊢
    rw [hall]
    refine congrArg (EStateM.Result.ok · s₄) ?_
    omega
  · show s₃.executed ++ _ = _
    rw [hbecame.executed]
    show s.executed ++ [_] ++ [_] ++ _ ++ _ = _
    unfold statements
    simp only [List.append_assoc, List.cons_append, List.nil_append]

/-- A backup is restored statement by statement, and every table is as it was: with its rows in
their order. Other tables stay. -/
theorem restoreSql_dumpSql {tables : Tables} (hplain : ∀ t ∈ tables.list, PlainName t.name)
    (hcreate : ∀ t ∈ tables.list, ShowsCreate srv t) (s : Session) :
    ∃ s', restoreSql srv (dumpSql tables.list) s = .ok (statements tables.list).length s' ∧
      s'.executed = s.executed ++ statements tables.list ∧
      s'.tables.list = s.tables.list.filter (fun t => t.name ∉ tables.names) ++ tables.list :=
  restore_script hplain hcreate s

/-- A server that creates a table of the name its statement gives. -/
def namingServer : SqlServer where
  collate := id
  foreignKeys := []
  created text :=
    (afterStart "CREATE TABLE `".toList (blanksOut .out text)).map fun rest =>
      ((quotedName rest).1, blanksOut .out text)

/-- What the naming server shows of a table. -/
theorem showsCreate_naming {t : Table} (hstarts : "CREATE TABLE ".toList <+: t.create)
    (hnul : '\x00' ∉ t.create) (hends : lineEndsOut .out t.create = true)
    (hcreated : namingServer.created t.create = some (t.name, t.create)) :
    ShowsCreate namingServer t where
  starts := hstarts
  noNul := hnul
  lineEnds := hends
  recreates text h := by
    rw [← hcreated]
    show (afterStart _ (blanksOut .out text)).map _ = (afterStart _ (blanksOut .out t.create)).map _
    rw [h]

/-- Two notes; the first has all that could break a line or a literal. -/
def noteTable : Table where
  name := "notes".toList
  create := "CREATE TABLE `notes` (`id` int, `note` text)".toList
  rows := [[some "1".toList, some "--'a';\n\\\"".toList], [some "2".toList, none]]

def notes : Tables := ⟨[noteTable], by decide⟩

/-- The table of notes is dumped and restored. -/
theorem notes_restored :
    ∃ s', restoreSql namingServer (dumpSql notes.list) { tables := notes } 
        = .ok (statements notes.list).length s' ∧
      s'.executed = statements notes.list ∧ s'.tables.list = notes.list := by
  obtain ⟨s', hrun, hexecuted, htables⟩ := @restoreSql_dumpSql namingServer notes
    (fun t ht => by
      obtain rfl := List.mem_singleton.mp ht
      decide)
    (fun t ht => by
      obtain rfl := List.mem_singleton.mp ht
      exact showsCreate_naming ⟨_, rfl⟩ (by decide) (by decide) (by decide)) { tables := notes }
  exact ⟨s', hrun, hexecuted, htables⟩

end NightWatcher.Backup
