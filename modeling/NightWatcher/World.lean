import NightWatcher.Lib.Rounding
import NightWatcher.Lib.Throwing
import NightWatcher.Export.TimeUtil
import NightWatcher.Json
import NightWatcher.Db.Tables

/-!
# The world a routine of the daemon runs in

A routine of the daemon may throw, read and write the database, and act on the
outside: devices, weather services, export destinations, the platform helper,
the main loop. It is an `Act`, an `EStateM String World`; the message it throws
is the text of the C++ exception. `World` holds the database, the clock, what
the outside is going to answer, and a log of what was done to it.

* Every database call asks `dbFaults` first whether it fails; an empty list
  fails no more. A call that fails has no effect on the tables.
* Every call outside asks its own list for the answer; an empty list is an
  unreachable peer.

Methods that only run SELECTs are `Query`s: they see the tables and the clock
and can change neither. `ask` runs one inside an `Act`.

What the daemon links against and this model does not embed is a parameter
(`Deps`): the SQL server's own conversions (`Server`), the JSON text format, the
zone database, the parsers of device lines, password hashing.
-/

namespace NightWatcher

open Throwing TimeUtil

/-! ## Parameters -/

/-- Column types of `schema.sql` other than ENUM. -/
inductive ColumnType where
  | varchar (n : Nat)
  | text
  | date
  | datetime
  | int
  | smallint
  | bigint
  | decimal (precision scale : Nat)

/-- What the SQL server does with texts and values (strict mode: `none` is an
error of the statement; the `ignore` forms are what INSERT IGNORE stores). -/
structure Server where
  /-- sort key under the schema's collation: texts are equal iff their keys are -/
  collate : String → String
  /-- which label of an ENUM a literal denotes -/
  enumIndex : List String → String → Option Nat
  storeText : ColumnType → String → Option String
  storeNum : ColumnType → ℚ → Option ℚ
  ignoreText : ColumnType → String → String
  ignoreNum : ColumnType → ℚ → ℚ
  /-- what a literal is as a DATETIME, in the server's own spelling -/
  datetime : String → Option String
  datetime_fmtSqlUtc : ∀ t, InYears t → datetime (fmtSqlUtc t) = some (fmtSqlUtc t)
  /-- `CURRENT_TIMESTAMP`, in the zone of the server -/
  currentTimestamp : Int → String
  /-- `SELECT * FROM t ORDER BY id DESC LIMIT n` for a table named at run time -/
  selectRecent : Db → String → Nat → Option TableData
  /-- one statement of the schema script -/
  execSchema : String → Db → Option Db

namespace Server

variable (srv : Server)

/-- Two texts the server takes for equal. -/
def same (a b : String) : Bool := srv.collate a = srv.collate b

def storeEnum (α : Type) [SqlEnum α] (s : String) : Option α :=
  let labels : List (String × α) := SqlEnum.labels
  (srv.enumIndex (labels.map Prod.fst) s).bind fun i => labels[i]?.map Prod.snd

/-- `ORDER BY key`. -/
def orderBy {α : Type} (key : α → String) (rows : List α) : List α :=
  rows.mergeSort fun a b => decide (srv.collate (key a) ≤ srv.collate (key b))

end Server

/-- A parsed `rx`/`ux` response. -/
structure Reading where
  magArcsec2 : ℚ := 0
  freqHz : Int := 0
  periodCounts : Int := 0
  periodS : ℚ := 0
  tempC : ℚ := 0
  serial : String := ""
  raw : String := ""

/-- A parsed `cx` response. -/
structure Calibration where
  lightCalOffset : ℚ := 0
  darkCalPeriodS : ℚ := 0
  tempLightC : ℚ := 0
  sensorOffset : ℚ := 0
  tempDarkC : ℚ := 0
  raw : String := ""

/-- A parsed `ix` response. -/
structure UnitInfo where
  protocol : Int := 0
  model : Int := 0
  feature : Int := 0
  serial : String := ""
  raw : String := ""

structure CalStatus where
  mode : Char := 'x'
  armed : Bool := false
  locked : Bool := true
  raw : String := ""

structure CalSetEcho where
  which : Char
  value : ℚ := 0
  raw : String := ""

/-- The response parsers of `protocol.cpp` and the command it writes for a
calibration value (`zcal<which>%011.*fx`). -/
structure Codec where
  parseReading : String → Except String Reading
  parseCalibration : String → Except String Calibration
  parseUnitInfo : String → Except String UnitInfo
  parseCalStatus : String → Except String CalStatus
  parseCalSetEcho : String → Except String CalSetEcho
  formatCalValue : Char → ℚ → Nat → String

structure Deps where
  server : Server
  json : JsonText
  zones : Zones
  codec : Codec
  /-- `%.*f`, to a number of decimals -/
  printfFixed : Nat → ℚ → String
  /-- `hash_password`, the random salt being the `n`-th draw -/
  hashPassword : Nat → String → String
  /-- `verify_password`, which may throw on a malformed hash -/
  verifyPassword : String → String → Except String Bool
  /-- `random_hex(nbytes)` at the `n`-th draw -/
  randomHex : Nat → Nat → String
  version : String

/-! ## The world -/

/-- Everything an exporter gets for one run. -/
structure ExportContext where
  sensor : SensorRow
  readings : List ReadingRow
  weather : List WeatherReadingRow := []
  fromTs : String := ""
  toTs : String := ""

/-- A file at an export destination. -/
inductive FileKey where
  | outbox (path : String)
  | drive (folder name : String)
deriving DecidableEq

/-- A text that stands in a query of Drive as it is: a quote would end the literal it stands
in, and a backslash would escape the next character. -/
def plainInQuery (s : String) : Bool := s.toList.all fun c => c ≠ '\'' ∧ c ≠ '\\'

/-- Whether the search that an upload begins with is for the file itself. -/
def FileKey.searchable : FileKey → Bool
  | .outbox _ => true
  | .drive folder name => plainInQuery folder && plainInQuery name

/-- What was done to the outside. -/
inductive Effect where
  /-- a command was sent to the device at an address -/
  | command (address cmd : String)
  /-- a subnet or the serial bus was scanned with `ix` -/
  | scan (what : String)
  /-- SIGHUP was raised: the main loop is to reload the device lists -/
  | reload
  /-- SIGUSR1 was raised: the main loop is to restart the API server -/
  | apply
  /-- a request went to the platform helper -/
  | helper (method target body : String)
  /-- a weather service was asked -/
  | fetch (provider : String)
  /-- a webhook body was posted; the HTTP status of the answer, if one came -/
  | post (url : String) (body : Json) (status : Option Nat)
  /-- a file was handed over, and the destination reported no failure -/
  | deliver (key : FileKey) (ctx : ExportContext) (text : String)

/-- One exchange with a device: was the command received whole, and what came back. -/
structure DeviceTurn where
  received : Bool := true
  answer : Except String String

/-- How a file transfer ends: the remote id, or the message and what the file
then holds (`none`: it is as before).

What is reported is not all that happens. A file of the outbox may have lost its
last write, at the close that nobody checks: `cut` is what it then holds. Drive
may show another file when it is asked for something else than the file. -/
inductive Transfer where
  | done (remoteId : String) (cut : Option String := none) (shown : Option FileKey := none)
  | failed (msg : String) (left : Option String) (shown : Option FileKey := none)

def Transfer.cut? : Transfer → Option String
  | .done _ cut _ => cut
  | .failed _ _ _ => none

/-- The file that is written, `shown` being what Drive shows. -/
def FileKey.hit (key : FileKey) (shown : Option FileKey) : FileKey :=
  if key.searchable then key else shown.getD key

@[simp] theorem FileKey.hit_none (key : FileKey) : key.hit none = key := by
  unfold FileKey.hit
  split <;> rfl

/-- A file that is searched for is the one that is written. -/
theorem FileKey.hit_searchable {key : FileKey} (h : key.searchable = true) (shown : Option FileKey) :
    key.hit shown = key := if_pos h

/-- What is in the file after a transfer that was reported done. -/
def FileKey.keeps : FileKey → Option String → String → String
  | .outbox _, cut, text => cut.getD text
  | .drive _ _, _, text => text

@[simp] theorem FileKey.keeps_none (key : FileKey) (text : String) : key.keeps none text = text := by
  cases key <;> rfl

structure World where
  db : Db := {}
  /-- seconds since the epoch, for this host and for the server -/
  now : Int := 0
  dbFaults : List Bool := []
  /-- random values drawn so far -/
  draws : Nat := 0
  opens : List (Except String Unit) := []
  turns : List DeviceTurn := []
  scans : List (Except String (List (String × UnitInfo))) := []
  fetches : List (Except String WeatherReadingRow) := []
  answers : List (Except String (Nat × String)) := []
  transfers : List Transfer := []
  /-- status, content type and body of the helper's answers -/
  helperAnswers : List (Option (Nat × String × String)) := []
  helperPresent : Bool := false
  files : FileKey → Option String := fun _ => none
  effects : List Effect := []

/-- What the clock shows and the outside does during one step of the system. -/
structure Outside where
  now : Int := 0
  dbFaults : List Bool := []
  opens : List (Except String Unit) := []
  turns : List DeviceTurn := []
  scans : List (Except String (List (String × UnitInfo))) := []
  fetches : List (Except String WeatherReadingRow) := []
  answers : List (Except String (Nat × String)) := []
  transfers : List Transfer := []
  helperAnswers : List (Option (Nat × String × String)) := []
  helperPresent : Bool := false

/-- The same daemon and database, about to meet `o`. -/
def World.facing (w : World) (o : Outside) : World :=
  { w with
    now := o.now, dbFaults := o.dbFaults, opens := o.opens, turns := o.turns, scans := o.scans
    fetches := o.fetches, answers := o.answers, transfers := o.transfers
    helperAnswers := o.helperAnswers, helperPresent := o.helperPresent }

abbrev Act (α : Type) := EStateM String World α

/-- What a SELECT can see. -/
structure Snapshot where
  db : Db
  now : Int

abbrev Query (α : Type) := ReaderT Snapshot (EStateM String (List Bool)) α

/-! ## Database calls -/

/-- One round trip to the server, which may fail. -/
def roundTrip (msg : String) : EStateM String (List Bool) Unit := fun faults =>
  match faults with
  | [] => .ok () []
  | false :: rest => .ok () rest
  | true :: rest => .error msg rest

/-- `db::Database db(dbc)`. -/
def connect : Query Unit := fun _ => roundTrip "cannot connect to MariaDB"

/-- One SELECT. -/
def select {α : Type} (f : Snapshot → α) : Query α := fun snap => do
  roundTrip "query failed"
  return f snap

/-- Run a read-only method. -/
def ask {α : Type} (q : Query α) : Act α := fun w =>
  match q ⟨w.db, w.now⟩ w.dbFaults with
  | .ok a fs => .ok a { w with dbFaults := fs }
  | .error e fs => .error e { w with dbFaults := fs }

/-- One statement that changes the tables, or (`none`) is refused by the server. -/
def statement {α : Type} (f : Snapshot → Option (α × Db)) : Act α := fun w =>
  match roundTrip "query failed" w.dbFaults with
  | .error e fs => .error e { w with dbFaults := fs }
  | .ok () fs =>
    match f ⟨w.db, w.now⟩ with
    | some (a, db') => .ok a { w with db := db', dbFaults := fs }
    | none => .error "query failed" { w with dbFaults := fs }

/-- An `Except` computation inside an `Act`. -/
def liftExcept {α : Type} : Except String α → Act α
  | .ok a => pure a
  | .error e => throw e

def parseError : String := "[json.exception.parse_error.101] parse error"

/-- `json::parse`, which throws. -/
def parseJson (d : Deps) (text : String) : Except String Json :=
  match d.json.parse text with
  | some j => .ok j
  | none => .error parseError

/-! ## Calls outside -/

/-- Append to the log. -/
def logEffect (e : Effect) : Act Unit := modify fun w => { w with effects := w.effects ++ [e] }

/-- The next value of the random generator. -/
def draw : Act Nat := modifyGet fun w => (w.draws, { w with draws := w.draws + 1 })

/-- Push a file to its destination: create it or replace its content, as far as the
destination does what it reports. -/
def transferFile (key : FileKey) (ctx : ExportContext) (text : String) : Act String := fun w =>
  match w.transfers with
  | [] => .error "export destination unreachable" w
  | .done remoteId cut shown :: rest =>
    .ok remoteId { w with
      transfers := rest
      files := Function.update w.files (key.hit shown) (some (key.keeps cut text))
      effects := w.effects ++ [.deliver key ctx text] }
  | .failed msg left shown :: rest =>
    .error msg { w with
      transfers := rest
      files := match left with
        | none => w.files
        | some junk => Function.update w.files (key.hit shown) (some junk) }

/-- `cli.Post`: the status and body of the answer. -/
def postJson (url : String) (body : Json) : Act (Nat × String) := fun w =>
  match w.answers with
  | [] => .error "Connection" { w with effects := w.effects ++ [.post url body none] }
  | .error e :: rest =>
    .error e { w with answers := rest, effects := w.effects ++ [.post url body none] }
  | .ok (status, text) :: rest =>
    .ok (status, text)
      { w with answers := rest, effects := w.effects ++ [.post url body (some status)] }

/-! ## A plain server -/

/-- A server that stores every value as it is given and compares texts exactly. -/
def Server.plain : Server where
  collate := id
  enumIndex labels s := labels.findIdx? (· = s)
  storeText _ s := some s
  storeNum _ q := some q
  ignoreText _ s := s
  ignoreNum _ q := q
  datetime := some
  datetime_fmtSqlUtc _ _ := rfl
  currentTimestamp := fmtSqlUtc
  selectRecent _ _ _ := none
  execSchema _ db := some db

/-- `%.nf` of an exact number. -/
def printFixed (n : Nat) (q : ℚ) : String :=
  let scaled := (Rounding.roundHalfEven (|q| * 10 ^ n)).toNat
  let whole := (if q < 0 then "-" else "") ++ toString (scaled / 10 ^ n)
  if n = 0 then whole
  else whole ++ "." ++ String.ofList (DecimalText.fixedDigits n (scaled % 10 ^ n))

/-- Everything plain: UTC everywhere, no device speaks, a password is its own
hash, and the JSON texts that parse are the given ones. -/
def Deps.plain (texts : List (String × Json)) : Deps where
  server := Server.plain
  json := ⟨fun s => (texts.find? fun p => p.1 = s).map Prod.snd, fun _ => ""⟩
  zones := Zones.fixed fun _ => 0
  codec :=
    { parseReading := fun s => .error s
      parseCalibration := fun s => .error s
      parseUnitInfo := fun s => .error s
      parseCalStatus := fun s => .error s
      parseCalSetEcho := fun s => .error s
      formatCalValue := fun _ _ _ => "" }
  printfFixed := printFixed
  hashPassword _ p := p
  verifyPassword p h := .ok (p = h)
  randomHex n nbytes := String.ofList (DecimalText.fixedDigits (2 * nbytes) n)
  version := "2"

/-! ## Rules -/

section Rules

variable {α : Type}

/-- The same world up to the pending faults. -/
abbrev World.withFaults (w : World) (fs : List Bool) : World := { w with dbFaults := fs }

/-- A SELECT returns what it reads, or fails; the tables are as they were. -/
theorem meets_select {f : Snapshot → α} {w : World} {Q : α → World → Prop}
    {E : String → World → Prop} (hok : ∀ fs, Q (f ⟨w.db, w.now⟩) (w.withFaults fs))
    (herr : ∀ fs, E "query failed" (w.withFaults fs)) : Meets (ask (select f)) w Q E := by
  unfold Meets ask select roundTrip
  match w.dbFaults with
  | [] => exact hok []
  | false :: rest => exact hok rest
  | true :: rest => exact herr rest

/-- A read-only method only uses up faults. -/
theorem meets_ask {q : Query α} {w : World} {Q : α → World → Prop} {E : String → World → Prop}
    (hok : ∀ a fs, Q a (w.withFaults fs)) (herr : ∀ e fs, E e (w.withFaults fs)) :
    Meets (ask q) w Q E := by
  unfold Meets ask
  split
  next a w' h =>
    split at h
    next a' fs _ =>
      cases h
      exact hok a fs
    next => cases h
  next e w' h =>
    split at h
    next => cases h
    next e' fs _ =>
      cases h
      exact herr e fs

/-- A statement either fails, is refused, or changes the tables as it says. -/
theorem meets_statement {f : Snapshot → Option (α × Db)} {w : World} {Q : α → World → Prop}
    {E : String → World → Prop}
    (hok : ∀ a db' fs, f ⟨w.db, w.now⟩ = some (a, db') → Q a { w with db := db', dbFaults := fs })
    (herr : ∀ e fs, E e (w.withFaults fs)) : Meets (statement f) w Q E := by
  unfold Meets statement
  cases hr : roundTrip "query failed" w.dbFaults with
  | error e fs => exact herr e fs
  | ok u fs =>
    simp only
    cases hf : f ⟨w.db, w.now⟩ with
    | some p => exact hok p.1 p.2 fs (by rw [hf])
    | none => exact herr _ fs

/-- Whether a statement was sent shows in the fault that awaits it. -/
theorem meets_statement_head {f : Snapshot → Option (α × Db)} {w : World} {Q : α → World → Prop}
    {E : String → World → Prop}
    (hok : w.dbFaults.head? ≠ some true → ∀ a db' fs, f ⟨w.db, w.now⟩ = some (a, db') →
      Q a { w with db := db', dbFaults := fs })
    (herr : w.dbFaults.head? = some true ∨ f ⟨w.db, w.now⟩ = none → ∀ e fs, E e (w.withFaults fs)) :
    Meets (statement f) w Q E := by
  have htrip : Meets (roundTrip "query failed") w.dbFaults
      (fun _ _ => w.dbFaults.head? ≠ some true) fun _ _ => w.dbFaults.head? = some true := by
    unfold Meets roundTrip
    match w.dbFaults with
    | [] => simp
    | false :: rest => simp
    | true :: rest => simp
  unfold Meets statement
  cases hr : roundTrip "query failed" w.dbFaults with
  | error e fs => exact herr (Or.inl (htrip.of_error hr)) e fs
  | ok u fs =>
    simp only
    cases hf : f ⟨w.db, w.now⟩ with
    | some p => exact hok (htrip.of_ok hr) p.1 p.2 fs (by rw [hf])
    | none => exact herr (Or.inr hf) _ fs

/-! ### Which call failed -/

/-- None of the first `k` calls fails. -/
def Clean (k : Nat) (faults : List Bool) : Prop := ∀ i < k, faults[i]? ≠ some true

theorem clean_zero (faults : List Bool) : Clean 0 faults := fun _ hi => absurd hi (Nat.not_lt_zero _)

theorem Clean.succ {k : Nat} {faults : List Bool} (h : Clean k faults)
    (hk : faults[k]? ≠ some true) : Clean (k + 1) faults := by
  intro i hi
  rcases Nat.lt_succ_iff_lt_or_eq.mp hi with hlt | rfl
  · exact h i hlt
  · exact hk

/-- The call after `k` others: what it finds, and what it leaves for the next one. -/
theorem next_call {faults fs : List Bool} {k : Nat} (hfs : fs = faults.drop k)
    (hclean : Clean k faults) :
    fs.tail = faults.drop (k + 1) ∧ (fs.head? ≠ some true → Clean (k + 1) faults) ∧
      (fs.head? = some true → faults[k]? = some true) := by
  have hhead : fs.head? = faults[k]? := by rw [hfs, List.head?_drop]
  refine ⟨by rw [hfs, List.tail_drop], fun h => hclean.succ ?_, fun h => ?_⟩
  · rwa [← hhead]
  · rwa [← hhead]

theorem meets_connect_at {faults : List Bool} {k : Nat} {w : World} {Q : Unit → World → Prop}
    {E : String → World → Prop} (hw : w.dbFaults = faults.drop k) (hclean : Clean k faults)
    (hok : Clean (k + 1) faults → Q () (w.withFaults (faults.drop (k + 1))))
    (herr : ∀ e fs, E e (w.withFaults fs)) : Meets (ask connect) w Q E := by
  obtain ⟨htail, hgood, -⟩ := next_call hw hclean
  rw [← htail] at hok
  unfold Meets ask connect roundTrip
  generalize w.dbFaults = fs at hok hgood ⊢
  match fs with
  | [] => exact hok (hgood nofun)
  | false :: rest => exact hok (hgood nofun)
  | true :: rest => exact herr _ rest

theorem meets_select_at {f : Snapshot → α} {faults : List Bool} {k : Nat} {w : World}
    {Q : α → World → Prop} {E : String → World → Prop} (hw : w.dbFaults = faults.drop k)
    (hclean : Clean k faults)
    (hok : Clean (k + 1) faults → Q (f ⟨w.db, w.now⟩) (w.withFaults (faults.drop (k + 1))))
    (herr : faults[k]? = some true → ∀ e fs, E e (w.withFaults fs)) :
    Meets (ask (select f)) w Q E := by
  obtain ⟨htail, hgood, hbad⟩ := next_call hw hclean
  rw [← htail] at hok
  unfold Meets ask select roundTrip
  generalize w.dbFaults = fs at hok hgood hbad ⊢
  match fs with
  | [] => exact hok (hgood nofun)
  | false :: rest => exact hok (hgood nofun)
  | true :: rest => exact herr (hbad rfl) _ rest

/-- The call after `k` others fails. -/
def Fails (faults : List Bool) (k : Nat) : Prop := faults[k]? = some true

/-- A statement goes through, or its call fails, or the server refuses it. -/
theorem meets_statement_exact {f : Snapshot → Option (α × Db)} {faults : List Bool} {k : Nat}
    {w : World} {Q : α → World → Prop} {E : String → World → Prop} (hw : w.dbFaults = faults.drop k)
    (hok : ∀ a db', f ⟨w.db, w.now⟩ = some (a, db') → ¬Fails faults k →
      Q a { w with db := db', dbFaults := faults.drop (k + 1) })
    (herr : Fails faults k ∨ f ⟨w.db, w.now⟩ = none → ∀ e fs, E e (w.withFaults fs)) :
    Meets (statement f) w Q E := by
  have hhead : w.dbFaults.head? = faults[k]? := by rw [hw, List.head?_drop]
  have htail : w.dbFaults.tail = faults.drop (k + 1) := by rw [hw, List.tail_drop]
  rw [← htail] at hok
  unfold Fails at hok herr
  rw [← hhead] at hok herr
  unfold Meets statement roundTrip
  generalize w.dbFaults = fs at hok herr ⊢
  have hrow : fs.head? ≠ some true → Meets (fun w' : World => match f ⟨w.db, w.now⟩ with
      | some (a, db') => .ok a { w with db := db', dbFaults := fs.tail }
      | none => .error "query failed" { w with dbFaults := fs.tail }) w Q E := by
    intro hgood
    unfold Meets
    cases hf : f ⟨w.db, w.now⟩ with
    | some p => exact hok p.1 p.2 hf hgood
    | none => exact herr (Or.inr hf) _ _
  match fs with
  | [] => exact hrow nofun
  | false :: rest => exact hrow nofun
  | true :: rest => exact herr (Or.inl rfl) _ rest

theorem meets_statement_at {f : Snapshot → Option (α × Db)} {faults : List Bool} {k : Nat} {w : World}
    {Q : α → World → Prop} {E : String → World → Prop} (hw : w.dbFaults = faults.drop k)
    (hclean : Clean k faults)
    (hok : ∀ a db', f ⟨w.db, w.now⟩ = some (a, db') → Clean (k + 1) faults →
      Q a { w with db := db', dbFaults := faults.drop (k + 1) })
    (herr : ∀ e fs, E e (w.withFaults fs)) : Meets (statement f) w Q E :=
  meets_statement_exact hw (fun a db' h hgood => hok a db' h (hclean.succ hgood)) fun _ => herr

/-! ### Calls that are answered -/

theorem meets_connect_answered {faults : List Bool} {k : Nat} {w : World} {Q : Unit → World → Prop}
    {E : String → World → Prop} (hw : w.dbFaults = faults.drop k) (hclean : Clean (k + 1) faults)
    (hok : Q () (w.withFaults (faults.drop (k + 1)))) : Meets (ask connect) w Q E := by
  have hhead : w.dbFaults.head? ≠ some true := by
    rw [hw, List.head?_drop]
    exact hclean k (Nat.lt_succ_self k)
  have htail : w.dbFaults.tail = faults.drop (k + 1) := by rw [hw, List.tail_drop]
  rw [← htail] at hok
  unfold Meets ask connect roundTrip
  generalize w.dbFaults = fs at hok hhead ⊢
  match fs with
  | [] => exact hok
  | false :: rest => exact hok
  | true :: rest => exact absurd rfl hhead

theorem meets_select_answered {f : Snapshot → α} {faults : List Bool} {k : Nat} {w : World}
    {Q : α → World → Prop} {E : String → World → Prop} (hw : w.dbFaults = faults.drop k)
    (hclean : Clean (k + 1) faults)
    (hok : Q (f ⟨w.db, w.now⟩) (w.withFaults (faults.drop (k + 1)))) :
    Meets (ask (select f)) w Q E :=
  meets_select_at hw (fun i hi => hclean i (Nat.lt_succ_of_lt hi)) (fun _ => hok)
    fun hfault _ _ => absurd hfault (hclean k (Nat.lt_succ_self k))

theorem meets_statement_answered {f : Snapshot → Option (α × Db)} {faults : List Bool} {k : Nat}
    {w : World} {a : α} {db' : Db} {Q : α → World → Prop} {E : String → World → Prop}
    (hw : w.dbFaults = faults.drop k) (hclean : Clean (k + 1) faults)
    (hf : f ⟨w.db, w.now⟩ = some (a, db'))
    (hok : Q a { w with db := db', dbFaults := faults.drop (k + 1) }) : Meets (statement f) w Q E := by
  refine meets_statement_exact hw (fun a' db'' hf' _ => ?_) fun hbad => ?_
  · obtain ⟨rfl, rfl⟩ := Prod.mk.inj (Option.some.inj (hf.symm.trans hf'))
    exact hok
  · rcases hbad with hfault | hnone
    · exact absurd hfault (hclean k (Nat.lt_succ_self k))
    · rw [hf] at hnone
      cases hnone

@[simp] theorem meets_liftExcept {x : Except String α} {w : World} {Q : α → World → Prop}
    {E : String → World → Prop} :
    Meets (liftExcept x) w Q E ↔
      (∀ a, x = .ok a → Q a w) ∧ (∀ e, x = .error e → E e w) := by
  cases x with
  | ok a => simp [liftExcept]
  | error e => simp [liftExcept]

/-! ### Composed queries, and calls that do not fail -/

@[simp] theorem ask_pure (a : α) : ask (pure a : Query α) = pure a := rfl

/-- A query in two parts sees the same tables in both. -/
theorem ask_bind {β : Type} (q : Query α) (f : α → Query β) :
    ask (q >>= f) = ask q >>= fun a => ask (f a) := by
  funext w
  show (match (q >>= f) ⟨w.db, w.now⟩ w.dbFaults with
    | .ok a fs => .ok a { w with dbFaults := fs }
    | .error e fs => .error e { w with dbFaults := fs } : EStateM.Result String World β)
    = EStateM.bind (ask q) (fun a => ask (f a)) w
  show (match EStateM.bind (q ⟨w.db, w.now⟩) (fun a => f a ⟨w.db, w.now⟩) w.dbFaults with
    | .ok a fs => .ok a { w with dbFaults := fs }
    | .error e fs => .error e { w with dbFaults := fs } : EStateM.Result String World β) = _
  unfold EStateM.bind ask
  cases q ⟨w.db, w.now⟩ w.dbFaults with
  | ok a fs => rfl
  | error e fs => rfl

/-- The query gets through on a database that answers. -/
def Calm (q : Query α) : Prop := ∀ snap, ∃ a, q snap [] = .ok a []

theorem calm_pure (a : α) : Calm (pure a : Query α) := fun _ => ⟨a, rfl⟩

theorem calm_select (f : Snapshot → α) : Calm (select f) := fun snap => ⟨f snap, rfl⟩

theorem calm_bind {β : Type} {q : Query α} {f : α → Query β} (hq : Calm q)
    (hf : ∀ a, Calm (f a)) : Calm (q >>= f) := by
  intro snap
  obtain ⟨a, ha⟩ := hq snap
  obtain ⟨b, hb⟩ := hf a snap
  refine ⟨b, ?_⟩
  show EStateM.bind (q snap) (fun a => f a snap) [] = _
  unfold EStateM.bind
  rw [ha]
  exact hb

theorem Calm.asked {q : Query α} (hq : Calm q) {w : World} (hw : w.dbFaults = []) :
    ∃ a w', ask q w = .ok a w' := by
  obtain ⟨a, ha⟩ := hq ⟨w.db, w.now⟩
  refine ⟨a, { w with dbFaults := [] }, ?_⟩
  unfold ask
  rw [hw, ha]

theorem meets_select_calm {f : Snapshot → α} {w : World} {Q : α → World → Prop}
    {E : String → World → Prop} (hw : w.dbFaults = []) :
    Meets (ask (select f)) w Q E ↔ Q (f ⟨w.db, w.now⟩) w := by
  obtain ⟨db, now, faults⟩ := w
  cases hw
  rfl

theorem meets_statement_calm {f : Snapshot → Option (α × Db)} {w : World} {Q : α → World → Prop}
    {E : String → World → Prop} (hw : w.dbFaults = []) {a : α} {db' : Db}
    (h : f ⟨w.db, w.now⟩ = some (a, db')) :
    Meets (statement f) w Q E ↔ Q a { w with db := db' } := by
  obtain ⟨db, now, faults⟩ := w
  cases hw
  unfold Meets statement
  simp only [roundTrip, h]

/-- A statement that is sent leaves all but the tables alone. -/
theorem statement_db {f : Snapshot → Option (α × Db)} {w : World} (hw : w.dbFaults = []) :
    endState (statement f w) = { w with db := (endState (statement f w)).db } := by
  obtain ⟨db, now, faults⟩ := w
  cases hw
  unfold statement
  simp only [roundTrip]
  cases f ⟨db, now⟩ <;> rfl

/-- A sequence that went through went through step by step. -/
theorem except_bind_eq_ok {ε β : Type} {x : Except ε α} {f : α → Except ε β} {b : β} :
    (x >>= f) = .ok b ↔ ∃ a, x = .ok a ∧ f a = .ok b := by
  cases x with
  | ok a =>
    constructor
    · intro h
      exact ⟨a, rfl, h⟩
    · rintro ⟨a', ha, h⟩
      obtain rfl := Except.ok.inj ha
      exact h
  | error e =>
    constructor
    · intro h
      cases h
    · rintro ⟨a', ha, -⟩
      cases ha

/-- Using up faults is invisible to `F`. -/
def IgnoresFaults (F : Frame World) : Prop := ∀ w fs, F.rel w (w.withFaults fs)

variable {F : Frame World}

theorem keeps_ask (hF : IgnoresFaults F) (q : Query α) : Keeps F (ask q) :=
  keeps_of_meets fun w => meets_ask (fun _ fs => hF w fs) (fun _ fs => hF w fs)

theorem keeps_statement {f : Snapshot → Option (α × Db)} (hF : IgnoresFaults F)
    (hf : ∀ w a db', f ⟨w.db, w.now⟩ = some (a, db') → F.rel w { w with db := db' }) :
    Keeps F (statement f) :=
  keeps_of_meets fun w => meets_statement
    (fun a db' fs h => F.trans (hf w a db' h) (hF { w with db := db' } fs)) (fun _ fs => hF w fs)

theorem keeps_liftExcept (x : Except String α) : Keeps F (liftExcept x) := by
  cases x with
  | ok a => exact keeps_pure a
  | error e => exact keeps_throw e

end Rules

end NightWatcher
