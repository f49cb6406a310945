import Mathlib
import NightWatcher.Sqm.Columns
import NightWatcher.Sqm.Device

/-!
# `sqm-sim.cpp`: the device library against the simulator

The simulator gathers what it receives in a buffer and looks in it for a command; a command that
it has answered is forgotten with all that is in the buffer. It answers `zcalA`, `zcalB` and `zcalD`
before the `x` that ends them, so this `x` may come later, in front of the next command. Nothing
else is left over (`Link.Settled`), and behind an `x` each command is understood as it is without
(`Understood`), however the bytes are cut.
-/

namespace NightWatcher.Sqm.Simulator

open Throwing NumberText DecimalText TextLines Rounding Protocol

/-! ## The simulator -/

/-- Mutable calibration, so that manual sets are reflected in the next `cx`. -/
structure SimState where
  lightOffset : Double := .num (1760 / 10 ^ 2)
  darkPeriod : Double := .num 0
  tempLight : Double := .num (394 / 10 ^ 1)
  sensorOffset : Double := .num (871 / 10 ^ 2)
  tempDark : Double := .num (394 / 10 ^ 1)
  /-- `'A'` light, `'B'` dark -/
  armed : Option Char := none
  locked : Bool := true

/-- `std::atof`: zero for what is no number. -/
def atof (s : List Char) : Double := ((strtod s).map Prod.fst).getD (.num 0)

/-- The value of a `zcal<N>...x` command, from what is behind its prefix; `none` until the `x` is
there. -/
def setValue (behindPrefix : List Char) : Option Double :=
  if 'x' ∈ behindPrefix then some (atof (behindPrefix.takeWhile (· ≠ 'x'))) else none

/-- The line end of every response. -/
def crlf : List Char := ['\r', '\n']

/-- `kRespIx`: the fixed unit information. -/
def respIx : List Char := "i,00000002,00000003,00000001,00000413".toList ++ crlf
/-- `kRespRx`: the fixed averaged reading. -/
def respRx : List Char := "r, 06.70m,0000022921Hz,0000000020c,0000000.000s, 039.4C".toList ++ crlf
/-- `kRespUx`: the fixed plain reading. -/
def respUx : List Char := "u, 06.53m,0000022921Hz,0000000020c,0000000.000s, 039.4C".toList ++ crlf

/-- `cx_line`: the calibration from the state. -/
def cxLine (st : SimState) : List Char :=
  snprintf 128 (joined [['c'],
    printfDouble false 11 2 st.lightOffset ++ ['m'],
    printfDouble false 11 3 st.darkPeriod ++ ['s'],
    printfDouble true 6 1 st.tempLight ++ ['C'],
    printfDouble false 11 2 st.sensorOffset ++ ['m'],
    printfDouble true 6 1 st.tempDark ++ ['C']] ++ crlf)

/-- A calibration value is set, and echoed. -/
def setAndEcho (which : Char) (v : Double) (st : SimState) : List Char × SimState :=
  let echo := fun (text : List Char) => snprintf 64 (joined [['z'], [which], text] ++ crlf)
  if which = '5' then (echo (printfDouble false 11 2 v ++ ['m']), { st with lightOffset := v })
  else if which = '6' then (echo (printfDouble false 5 1 v ++ ['C']), { st with tempLight := v })
  else if which = '7' then (echo (printfDouble false 11 3 v ++ ['s']), { st with darkPeriod := v })
  else (echo (printfDouble false 5 1 v ++ ['C']), { st with tempDark := v })

/-- The switch in a status: `L` or `U`. -/
def lockChar (st : SimState) : Char := if st.locked then 'L' else 'U'

/-- The response for a complete command, or nothing if there is none or it is incomplete. -/
def responseFor (buf : List Char) (st : SimState) : List Char × SimState :=
  if (behind "zcalA".toList buf).isSome then
    ("zAa".toList ++ lockChar st :: crlf, { st with armed := some 'A' })
  else if (behind "zcalB".toList buf).isSome then
    ("zBa".toList ++ lockChar st :: crlf, { st with armed := some 'B' })
  else if (behind "zcalD".toList buf).isSome then
    ("zxd".toList ++ lockChar st :: crlf, { st with armed := none })
  else
    match ['5', '6', '7', '8'].findSome? fun which =>
        (behind ("zcal".toList ++ [which]) buf).map fun rest => (which, rest) with
    | some (which, rest) =>
      match setValue rest with
      | none => ([], st) -- wait for the trailing 'x'
      | some v => setAndEcho which v st
    | none =>
      if (behind "ix".toList buf).isSome then (respIx, st)
      else if (behind "ux".toList buf).isSome then (respUx, st)
      else if (behind "cx".toList buf).isSome then (cxLine st, st)
      else if (behind "rx".toList buf).isSome then (respRx, st)
      else ([], st)

/-- The simulator with what it has received on its connection. -/
structure Sim where
  buf : List Char := []
  state : SimState := {}

/-- One `recv`: what is sent back. -/
def Sim.receive (s : Sim) (chunk : List Char) : List Char × Sim :=
  let buf := s.buf ++ chunk
  let (resp, state) := responseFor buf s.state
  if resp ≠ [] then (resp, { buf := [], state }) else ([], { buf, state })

/-- The chunks one after the other, with all that is sent back. -/
def Sim.receiveAll : Sim → List (List Char) → List Char × Sim
  | s, [] => ([], s)
  | s, chunk :: chunks =>
    let (resp, s) := s.receive chunk
    let (resps, s) := s.receiveAll chunks
    (resp ++ resps, s)

/-! ## The library's side -/

/-- `TcpTransport::read_line` on all that arrives: the line, and what is behind it. -/
def readLine (buf : List Char) : Except String (List Char × List Char) :=
  match buf.dropWhile (· ≠ '\n') with
  | [] => .error "read timeout"
  | _ :: rest =>
    let line := buf.takeWhile (· ≠ '\n')
    .ok (if line.getLast? = some '\r' then line.dropLast else line, rest)

/-- The connection of a client to the simulator. -/
structure Link where
  sim : Sim := {}
  /-- written by the client and not received yet -/
  inFlight : List Char := []
  /-- received by the client and not read yet -/
  buf : List Char := []

/-- How the simulator receives bytes until the client writes again: in chunks, and some not yet. -/
structure Delivery where
  chunks : List (List Char)
  rest : List Char

/-- A delivery of what is in flight, a command at its end. The simulator goes on receiving until all
is there or it has answered, and `recv` gives it 1 to 128 bytes at a time. -/
structure Delivers (l : Link) (cmd : List Char) (dlv : Delivery) : Prop where
  chunk_length : ∀ chunk ∈ dlv.chunks, 1 ≤ chunk.length ∧ chunk.length ≤ 128
  bytes : dlv.chunks.flatten ++ dlv.rest = l.inFlight ++ cmd
  waits : dlv.rest = [] ∨ (l.sim.receiveAll dlv.chunks).1 ≠ []

/-- `SqmDevice::query_raw` over the connection. -/
def Link.query (l : Link) (dlv : Delivery) : Except String (List Char) × Link :=
  let (sent, sim) := l.sim.receiveAll dlv.chunks
  match readLine (l.buf ++ sent) with
  | .error e => (.error e, { sim, inFlight := dlv.rest, buf := l.buf ++ sent })
  | .ok (line, buf) => (.ok line, { sim, inFlight := dlv.rest, buf })

/-- The calls of the library, their values in units of the last decimal that is set. -/
inductive Call where
  | setLightOffset (n : Int)
  | setLightTemp (n : Int)
  | setDarkPeriod (n : Int)
  | setDarkTemp (n : Int)
  | armLight
  | armDark
  | disarm
  | info
  | read
  | calibration

/-- What a call of the device returns. -/
inductive Answer where
  | echo (e : NightWatcher.CalSetEcho)
  | status (s : NightWatcher.CalStatus)
  | info (u : NightWatcher.UnitInfo)
  | reading (r : NightWatcher.Reading)
  | calibration (c : NightWatcher.Calibration)

/-- The call of `SqmDevice`, its value in the units of the display. -/
def Call.run (d : Deps) (dev : SqmDevice) : Call → Act Answer
  | .setLightOffset n => .echo <$> dev.setLightOffset d (n / 10 ^ 2)
  | .setLightTemp n => .echo <$> dev.setLightTemp d (n / 10 ^ 1)
  | .setDarkPeriod n => .echo <$> dev.setDarkPeriod d (n / 10 ^ 3)
  | .setDarkTemp n => .echo <$> dev.setDarkTemp d (n / 10 ^ 1)
  | .armLight => .status <$> dev.armLightCalibration d
  | .armDark => .status <$> dev.armDarkCalibration d
  | .disarm => .status <$> dev.disarmCalibration d
  | .info => .info <$> dev.info d
  | .read => .reading <$> dev.readAveraged d
  | .calibration => .calibration <$> dev.calibration d

/-- The bytes that a call writes (`Call.sends`). -/
def Call.command : Call → List Char
  | .setLightOffset n => calCommand '5' (n / 10 ^ 2) 2
  | .setLightTemp n => calCommand '6' (n / 10 ^ 1) 2
  | .setDarkPeriod n => calCommand '7' (n / 10 ^ 3) 3
  | .setDarkTemp n => calCommand '8' (n / 10 ^ 1) 2
  | .armLight => "zcalAx".toList
  | .armDark => "zcalBx".toList
  | .disarm => "zcalDx".toList
  | .info => "ix".toList
  | .read => "rx".toList
  | .calibration => "cx".toList

/-- A call of the library whose unit answers with this line. -/
def Call.answered (d : Deps) (dev : SqmDevice) (call : Call) (line : Except String (List Char)) :
    Except String Answer :=
  match call.run d dev { turns := [{ answer := line.map String.ofList }] } with
  | .ok a _ => .ok a
  | .error e _ => .error e

/-- A call over the connection. -/
def Link.exchange (d : Deps) (dev : SqmDevice) (l : Link) (call : Call) (dlv : Delivery) :
    Except String Answer × Link :=
  let (line, l') := l.query dlv
  (call.answered d dev line, l')

/-- The connection after calls one at a time. -/
def Link.after (l : Link) : List (Call × Delivery) → Link
  | [] => l
  | (_, dlv) :: steps => (l.query dlv).2.after steps

/-- Each of the deliveries brings the command of its call. -/
def Delivered (l : Link) : List (Call × Delivery) → Prop
  | [] => True
  | (call, dlv) :: steps => Delivers l call.command dlv ∧ Delivered (l.query dlv).2 steps

/-! ## What the calls mean -/

/-- A calibration value as it is set: the digit of its command, and its decimals there. -/
structure Setting where
  which : Char
  value : ℚ
  decimals : Nat

/-- The calibration value the call sets, if it sets one. -/
def Call.setting : Call → Option Setting
  | .setLightOffset n => some ⟨'5', n / 10 ^ 2, 2⟩
  | .setLightTemp n => some ⟨'6', n / 10 ^ 1, 2⟩
  | .setDarkPeriod n => some ⟨'7', n / 10 ^ 3, 3⟩
  | .setDarkTemp n => some ⟨'8', n / 10 ^ 1, 2⟩
  | _ => none

/-- The value of a set fits the eleven characters of its field. -/
def Call.Fits (call : Call) : Prop :=
  ∀ s ∈ call.setting, (printfFixed false 11 s.decimals s.value).length = 11

/-- The values last set, in units of their last decimal. -/
structure Values where
  lightOffset : Int := 1760
  darkPeriod : Int := 0
  tempLight : Int := 394
  tempDark : Int := 394

/-- The values after the call. -/
def Values.set (v : Values) : Call → Values
  | .setLightOffset n => { v with lightOffset := n }
  | .setLightTemp n => { v with tempLight := n }
  | .setDarkPeriod n => { v with darkPeriod := n }
  | .setDarkTemp n => { v with tempDark := n }
  | _ => v

/-- The values after all the calls. -/
def lastSet (calls : List Call) : Values := calls.foldl Values.set {}

/-- The answer that a call should get when these values were set before. -/
def Call.Right (v : Values) : Call → Answer → Prop
  | .armLight, a => ∃ s, a = .status s ∧ s.mode = 'A' ∧ s.armed = true
  | .armDark, a => ∃ s, a = .status s ∧ s.mode = 'B' ∧ s.armed = true
  | .disarm, a => ∃ s, a = .status s ∧ s.mode = 'x' ∧ s.armed = false
  | .info, a => ∃ u, a = .info u ∧ u.protocol = 2 ∧ u.model = 3 ∧ u.feature = 1 ∧ u.serial = "00000413"
  | .read, a => ∃ r, a = .reading r ∧ r.magArcsec2 = 670 / 10 ^ 2 ∧ r.freqHz = 22921 ∧
      r.periodCounts = 20 ∧ r.periodS = 0 ∧ r.tempC = 394 / 10 ^ 1
  | .calibration, a => ∃ c, a = .calibration c ∧ c.lightCalOffset = v.lightOffset / 10 ^ 2 ∧
      c.darkCalPeriodS = v.darkPeriod / 10 ^ 3 ∧ c.tempLightC = v.tempLight / 10 ^ 1 ∧
      c.sensorOffset = 871 / 10 ^ 2 ∧ c.tempDarkC = v.tempDark / 10 ^ 1
  | call, a => ∃ s e, call.setting = some s ∧ a = .echo e ∧ e.which = s.which ∧ e.value = s.value

/-! ## Printed numbers -/

/-- A number of decimals is not changed by rounding to as many. -/
theorem toDecimals_units {k more : Nat} (n : Int) :
    toDecimals (k + more) ((n : ℚ) / 10 ^ k) = n / 10 ^ k := by
  have hunits : (n : ℚ) / 10 ^ k * 10 ^ (k + more) = ((n * 10 ^ more : Int) : ℚ) := by
    rw [pow_add]
    push_cast
    field_simp
  unfold toDecimals
  rw [hunits, roundHalfEven_intCast, pow_add]
  push_cast
  field_simp

/-- Such a number fits a double. -/
theorem inDouble_units {part : Nat} {n : Int} (hpart : part ≤ 12) (hn : |n| < 10 ^ 12) :
    inDouble ((n : ℚ) / 10 ^ part) = true := by
  have habs : n.natAbs < 10 ^ 12 := by
    rw [Int.abs_eq_natAbs] at hn
    exact_mod_cast hn
  have hcolumn := @inDouble_column (decide (n < 0)) part n.natAbs hpart habs
  rcases lt_or_ge n 0 with hneg | hpos
  · have hvalue : (n : ℚ) = -(n.natAbs : ℚ) := by
      have hint : n = -(n.natAbs : Int) := by omega
      rw [← Int.cast_natCast, ← Int.cast_neg, ← hint]
    rw [signedValue, decide_eq_true hneg, if_pos rfl, neg_one_mul, ← neg_div, ← hvalue] at hcolumn
    exact hcolumn
  · have hvalue : (n : ℚ) = (n.natAbs : ℚ) := by
      have hint : n = (n.natAbs : Int) := by omega
      rw [← Int.cast_natCast, ← hint]
    rw [signedValue, decide_eq_false (not_lt.mpr hpos), if_neg Bool.false_ne_true, one_mul,
        ← hvalue] at hcolumn
    exact hcolumn

section Printed

variable {blank : Bool} {width decimals : Nat} {q : ℚ} {unit : List Char}

/-- A printed number with its unit is a field. -/
theorem printed_field (hdecimals : decimals ≠ 0) (hunit : unit.all Char.isAlpha = true) :
    ∃ f : FieldText, f.text = printfFixed blank width decimals q ++ unit ∧
      f.number.value = toDecimals decimals q ∧ (∀ c ∈ f.blanks, c = ' ') ∧ f.unit = unit := by
  obtain ⟨n, htext, hvalue⟩ := @printfFixed_numeral blank width decimals q hdecimals
  have hblanks : ∀ c ∈ (if 0 ≤ q ∧ blank = true then [' '] else []), c = ' ' := by
    intro c hc
    split at hc
    · exact List.mem_singleton.mp hc
    · exact absurd hc List.not_mem_nil
  refine ⟨⟨_, n, unit, fun c hc => ?_, isAlpha_of_unit hunit⟩, ?_, hvalue, hblanks, rfl⟩
  · rw [hblanks c hc]
    decide
  · rw [htext, List.append_assoc]
    rfl

/-- A number printed with its unit is read back. -/
theorem toDouble_printed (hdecimals : decimals ≠ 0) (hunit : unit.all Char.isAlpha = true)
    (hsize : inDouble (toDecimals decimals q) = true) :
    toDouble (printfFixed blank width decimals q ++ unit) = .ok (.num (toDecimals decimals q)) := by
  obtain ⟨f, htext, hvalue, -, -⟩ := @printed_field blank width decimals q unit hdecimals hunit
  rw [← htext, ← hvalue]
  rw [← hvalue] at hsize
  exact f.toDouble_text hsize

/-- The characters of a field that ends no field and no line. -/
theorem printed_chars (hdecimals : decimals ≠ 0) (hunit : unit.all Char.isAlpha = true) :
    ∀ c ∈ printfFixed blank width decimals q ++ unit, c ≠ ',' ∧ c ≠ '\n' := by
  obtain ⟨f, htext, -, hblanks, -⟩ := @printed_field blank width decimals q unit hdecimals hunit
  rw [← htext]
  intro c hc
  refine ⟨fun hcomma => f.no_comma (hcomma ▸ hc), ?_⟩
  rcases List.mem_append.mp hc with hblank | hcore
  · rw [hblanks c hblank]
    decide
  · rintro rfl
    exact absurd (f.core_notSpace _ hcore).1 (by decide)

/-- Nothing of a number is an `x` or a letter of a command. -/
theorem printed_plain (hdecimals : decimals ≠ 0) :
    ∀ c ∈ printfFixed false width decimals q, plainChar c = true := by
  obtain ⟨n, htext, -⟩ := @printfFixed_numeral false width decimals q hdecimals
  rw [htext, if_neg (by simp), List.nil_append]
  exact n.text_plain

/-- A number that fits the field of a command is below a hundred million. -/
theorem abs_lt_of_fits (hdecimals : 2 ≤ decimals ∧ decimals ≤ 3) (hexact : toDecimals decimals q = q)
    (h : (printfFixed false 11 decimals q).length = 11) : |q| < 10 ^ 8 := by
  have hsign : signPlaces false q ≤ 1 := by
    unfold signPlaces
    split <;> omega
  have hlength :=
    @printfFixed_length false 11 (10 - decimals - signPlaces false q) decimals q (by omega)
    (by omega) (by omega)
  rw [hexact] at hlength
  exact (hlength.mp h).trans_le (pow_le_pow_right₀ (by norm_num) (by omega))

/-- Such a number is short wherever it is printed. -/
theorem printed_length_le (hdecimals : decimals ≠ 0) (hexact : toDecimals decimals q = q)
    (h : |q| < 10 ^ 8) : (printfFixed blank width decimals q).length ≤ max width (10 + decimals) := by
  have hsign : signPlaces blank q ≤ 1 := by
    unfold signPlaces
    split <;> omega
  have hlength := @printfFixed_length blank (signPlaces blank q + 8 + 1 + decimals) 8 decimals q rfl
    (by omega) hdecimals
  rw [hexact] at hlength
  have hfull := hlength.mpr h
  rw [printfFixed_length_max] at hfull ⊢
  omega

end Printed

/-! ## Responses -/

/-- What holds of the characters of the fields holds of the line. -/
theorem joined_chars {fields : List (List Char)} {P : Char → Prop} (hcomma : P ',')
    (h : ∀ f ∈ fields, ∀ c ∈ f, P c) : ∀ c ∈ joined fields, P c := by
  induction fields with
  | nil => exact fun c hc => absurd hc List.not_mem_nil
  | cons f fs ih =>
    have hfs := ih fun g hg => h g (List.mem_cons_of_mem f hg)
    cases fs with
    | nil =>
      intro c hc
      rw [joined, List.intercalate_singleton] at hc
      exact h f List.mem_cons_self c hc
    | cons g gs =>
      intro c hc
      rw [joined, List.intercalate_cons_cons, List.append_assoc, List.mem_append, List.mem_append] at hc
      rcases hc with hc | hc | hc
      · exact h f List.mem_cons_self c hc
      · rw [List.mem_singleton.mp hc]
        exact hcomma
      · exact hfs c hc

/-- A response of one line is read as this line. -/
theorem readLine_response {text : List Char} (h : ∀ c ∈ text, c ≠ '\n') :
    readLine (text ++ crlf) = .ok (text, []) := by
  have hall : ∀ c ∈ text ++ ['\r'], decide (c ≠ '\n') = true := by
    intro c hc
    rw [decide_eq_true_eq]
    rcases List.mem_append.mp hc with hc | hc
    · exact h c hc
    · rw [List.mem_singleton.mp hc]
      decide
  have hsplit : text ++ crlf = (text ++ ['\r']) ++ ['\n'] := by
    rw [List.append_assoc]
    rfl
  unfold readLine
  rw [hsplit, List.dropWhile_append_of_pos hall, List.takeWhile_append_of_pos hall]
  simp

/-- The fields of an echo. -/
def echoFields (which : Char) (width decimals : Nat) (q : ℚ) (unit : Char) : List (List Char) :=
  [['z'], [which], printfFixed false width decimals q ++ [unit]]

section Echo

variable {which unit : Char} {width decimals : Nat} {q : ℚ}

/-- The fields of an echo stay apart in the line. -/
theorem echoFields_lineFields (hwhich : which ≠ ',') (hunit : unit.isAlpha = true)
    (hdecimals : decimals ≠ 0) :
    LineFields (echoFields which width decimals q unit) where
  no_comma := by
    unfold echoFields
    simp only [List.forall_mem_cons]
    refine ⟨by decide, fun hc => hwhich (List.mem_singleton.mp hc).symm, fun hc => ?_, nofun⟩
    exact (printed_chars hdecimals (by simpa using hunit) ',' hc).1 rfl
  first := ⟨['z'], rfl, 'z', rfl, by decide⟩
  last := ⟨_, rfl, unit, List.getLast?_concat, (alpha_notSpace hunit).1⟩

/-- The echo is one line. -/
theorem echo_noNewline (hwhich : which ≠ '\n') (hunit : unit.isAlpha = true)
    (hdecimals : decimals ≠ 0) :
    ∀ c ∈ joined (echoFields which width decimals q unit), c ≠ '\n' := by
  refine joined_chars (by decide) ?_
  unfold echoFields
  simp only [List.forall_mem_cons]
  exact ⟨by simp, ⟨hwhich, nofun⟩,
    fun c hc => (printed_chars hdecimals (by simpa using hunit) c hc).2, nofun⟩

/-- The device reads the echo the simulator prints. -/
theorem parse_echo (hwhich : isSpace which = false) (hcomma : which ≠ ',') (hunit : unit.isAlpha = true)
    (hdecimals : decimals ≠ 0) (hexact : toDecimals decimals q = q) (hsize : inDouble q = true) :
    parseCalSetEcho (joined (echoFields which width decimals q unit))
      = .ok ⟨which, .num q, joined (echoFields which width decimals q unit)⟩ := by
  have h := @echoFields_lineFields which unit width decimals q hcomma hunit hdecimals
  have hparsed : parseCalSetEcho (joined (echoFields which width decimals q unit) ++ lineEnd false)
      = .ok ⟨which, .num q, joined (echoFields which width decimals q unit)⟩ := by
    refine parseCalSetEcho_ok.mpr ?_
    rw [h.split_joined, h.trim_joined, h.field_joined, h.field_joined, h.field_joined]
    refine ⟨le_rfl, ?_, ?_, ?_, rfl⟩
    · show trim ['z'] = ['z']
      decide
    · have hvalue := @toDouble_printed false width decimals q [unit] hdecimals (by simpa using hunit)
        (by rwa [hexact])
      rwa [hexact] at hvalue
    · show which = (trim [which]).headD '\x00'
      have htrim : trim [which] = [which] := trim_eq_self
        (fun c hc => by cases hc; exact hwhich) fun c hc => by cases hc; exact hwhich
      rw [htrim]
      rfl
  rwa [lineEnd, if_neg Bool.false_ne_true, List.append_nil] at hparsed

end Echo

/-- The simulator has these values, and they are of the size of the commands that set them. -/
structure Holds (st : SimState) (v : Values) : Prop where
  lightOffset : st.lightOffset = .num (v.lightOffset / 10 ^ 2)
  darkPeriod : st.darkPeriod = .num (v.darkPeriod / 10 ^ 3)
  tempLight : st.tempLight = .num (v.tempLight / 10 ^ 1)
  sensorOffset : st.sensorOffset = .num (871 / 10 ^ 2)
  tempDark : st.tempDark = .num (v.tempDark / 10 ^ 1)
  lightOffset_lt : |v.lightOffset| < 10 ^ 10
  darkPeriod_lt : |v.darkPeriod| < 10 ^ 11
  tempLight_lt : |v.tempLight| < 10 ^ 9
  tempDark_lt : |v.tempDark| < 10 ^ 9

/-- The simulator starts with the values the device assumes. -/
theorem holds_initially : Holds {} {} :=
  ⟨rfl, by norm_num, rfl, rfl, rfl, by decide, by decide, by decide, by decide⟩

/-- A bound on a value in units, as one on the number. -/
theorem units_lt {n : Int} {k : Nat} : |(n : ℚ) / 10 ^ k| < 10 ^ 8 ↔ |n| < 10 ^ (8 + k) := by
  have hpos : (0 : ℚ) < 10 ^ k := by positivity
  rw [abs_div, abs_of_pos hpos, div_lt_iff₀ hpos, ← pow_add, ← Int.cast_abs]
  exact_mod_cast Iff.rfl

/-- The fields of `cx`. -/
def cxFields (v : Values) : List (List Char) :=
  [['c'],
    printfFixed false 11 2 (v.lightOffset / 10 ^ 2) ++ ['m'],
    printfFixed false 11 3 (v.darkPeriod / 10 ^ 3) ++ ['s'],
    printfFixed true 6 1 (v.tempLight / 10 ^ 1) ++ ['C'],
    printfFixed false 11 2 (871 / 10 ^ 2) ++ ['m'],
    printfFixed true 6 1 (v.tempDark / 10 ^ 1) ++ ['C']]

/-- The fields of a calibration stay apart in the line. -/
theorem cxFields_lineFields (v : Values) : LineFields (cxFields v) where
  no_comma := by
    have hfield : ∀ {blank width decimals} {q : ℚ} {unit : Char}, decimals ≠ 0 → unit.isAlpha = true →
        ',' ∉ printfFixed blank width decimals q ++ [unit] := fun hdecimals hunit hc =>
      (printed_chars hdecimals (by simpa using hunit) ',' hc).1 rfl
    unfold cxFields
    simp only [List.forall_mem_cons]
    exact ⟨by simp, hfield (by decide) rfl, hfield (by decide) rfl, hfield (by decide) rfl,
      hfield (by decide) rfl, hfield (by decide) rfl, nofun⟩
  first := ⟨['c'], rfl, 'c', rfl, by decide⟩
  last := ⟨_, rfl, 'C', List.getLast?_concat, by decide⟩

/-- The calibration is one line. -/
theorem cx_noNewline (v : Values) : ∀ c ∈ joined (cxFields v), c ≠ '\n' := by
  have hfield : ∀ {blank width decimals} {q : ℚ} {unit : Char}, decimals ≠ 0 → unit.isAlpha = true →
      ∀ c ∈ printfFixed blank width decimals q ++ [unit], c ≠ '\n' := fun hdecimals hunit c hc =>
    (printed_chars hdecimals (by simpa using hunit) c hc).2
  refine joined_chars (by decide) ?_
  unfold cxFields
  simp only [List.forall_mem_cons]
  exact ⟨by simp, hfield (by decide) rfl, hfield (by decide) rfl, hfield (by decide) rfl,
    hfield (by decide) rfl, hfield (by decide) rfl, nofun⟩

section Calibration

variable {st : SimState} {v : Values}

/-- The buffer is large enough for the line. -/
theorem cxLine_eq (h : Holds st v) : cxLine st = joined (cxFields v) ++ crlf := by
  have hsize : ∀ {blank width} {n : Int} (k : Nat), k ≠ 0 → |n| < 10 ^ (8 + k) →
      (printfFixed blank width k ((n : ℚ) / 10 ^ k)).length ≤ max width (10 + k) := fun k hk hn =>
    printed_length_le hk (@toDecimals_units k 0 _) (units_lt.mpr hn)
  have h₁ := @hsize false 11 _ 2 (by decide) h.lightOffset_lt
  have h₂ := @hsize false 11 _ 3 (by decide) h.darkPeriod_lt
  have h₃ := @hsize true 6 _ 1 (by decide) h.tempLight_lt
  have h₄ := @hsize false 11 871 2 (by decide) (by decide)
  have h₅ := @hsize true 6 _ 1 (by decide) h.tempDark_lt
  unfold cxLine
  rw [h.lightOffset, h.darkPeriod, h.tempLight, h.sensorOffset, h.tempDark]
  refine List.take_of_length_le ?_
  simp only [printfDouble, joined, List.intercalate_cons_cons, List.intercalate_singleton,
    List.length_append, List.length_cons, List.length_nil, crlf]
  push_cast at h₄
  omega

/-- The device reads the calibration the simulator prints. -/
theorem parse_cx (h : Holds st v) : parseCalibration (joined (cxFields v)) = .ok
    { lightCalOffset := .num (v.lightOffset / 10 ^ 2), darkCalPeriodS := .num (v.darkPeriod / 10 ^ 3),
      tempLightC := .num (v.tempLight / 10 ^ 1), sensorOffset := .num (871 / 10 ^ 2),
      tempDarkC := .num (v.tempDark / 10 ^ 1), raw := joined (cxFields v) } := by
  have hfields := cxFields_lineFields v
  have hfield : ∀ {blank width} {n : Int} {unit : Char} (k : Nat), k ≠ 0 → k ≤ 3 → unit.isAlpha = true →
      |n| < 10 ^ (8 + k) → toDouble (printfFixed blank width k ((n : ℚ) / 10 ^ k) ++ [unit])
        = .ok (.num ((n : ℚ) / 10 ^ k)) := by
    intro blank width n unit k hk hk3 hunit hn
    have hexact : toDecimals k ((n : ℚ) / 10 ^ k) = n / 10 ^ k := @toDecimals_units k 0 n
    have hsize : |n| < 10 ^ 12 := hn.trans_le (pow_le_pow_right₀ (by norm_num) (by omega))
    have hvalue := @toDouble_printed blank width k ((n : ℚ) / 10 ^ k) [unit] hk (by simpa using hunit)
      (by rw [hexact]; exact inDouble_units (by omega) hsize)
    rwa [hexact] at hvalue
  have hparsed : parseCalibration (joined (cxFields v) ++ lineEnd false) = .ok
      { lightCalOffset := .num (v.lightOffset / 10 ^ 2), darkCalPeriodS := .num (v.darkPeriod / 10 ^ 3),
        tempLightC := .num (v.tempLight / 10 ^ 1), sensorOffset := .num (871 / 10 ^ 2),
        tempDarkC := .num (v.tempDark / 10 ^ 1), raw := joined (cxFields v) } := by
    refine parseCalibration_ok.mpr ?_
    rw [hfields.split_joined, hfields.trim_joined]
    simp only [hfields.field_joined]
    refine ⟨le_rfl, ?_, hfield 2 (by decide) (by decide) rfl h.lightOffset_lt,
      hfield 3 (by decide) (by decide) rfl h.darkPeriod_lt,
      hfield 1 (by decide) (by decide) rfl h.tempLight_lt,
      ?_, hfield 1 (by decide) (by decide) rfl h.tempDark_lt, trivial⟩
    · show trim ['c'] = ['c']
      decide
    · have hoffset := @hfield false 11 871 'm' 2 (by decide) (by decide) rfl (by decide)
      rw [Int.cast_ofNat] at hoffset
      exact hoffset
  rwa [lineEnd, if_neg Bool.false_ne_true, List.append_nil] at hparsed

end Calibration

/-! ## Understanding a command behind an `x` -/

/-- What the simulator looks for. -/
def patterns : List (List Char) :=
  ["zcalA", "zcalB", "zcalD", "zcal5", "zcal6", "zcal7", "zcal8", "ix", "ux", "cx", "rx"].map
      String.toList

/-- No command is in the buffer. -/
def Quiet (buf : List Char) : Prop := ∀ pat ∈ patterns, behind pat buf = none

instance (buf : List Char) : Decidable (Quiet buf) := inferInstanceAs (Decidable (∀ pat ∈ patterns, _))

/-- A quiet buffer has no response. -/
theorem responseFor_quiet {buf : List Char} (h : Quiet buf) (st : SimState) :
    responseFor buf st = ([], st) := by
  unfold Quiet patterns at h
  simp only [List.map_cons, List.map_nil, List.forall_mem_cons] at h
  obtain ⟨hA, hB, hD, h5, h6, h7, h8, hi, hu, hc, hr, -⟩ := h
  have hvalues : (['5', '6', '7', '8'].findSome? fun which =>
      (behind ("zcal".toList ++ [which]) buf).map fun rest => (which, rest)) = none := by
    rw [List.findSome?_eq_none_iff]
    simp only [List.forall_mem_cons, Option.map_eq_none_iff]
    exact ⟨h5, h6, h7, h8, nofun⟩
  unfold responseFor
  rw [hA, hB, hD, hvalues]
  dsimp only
  rw [hi, hu, hc, hr]
  rfl

/-- What may be in front of a command. -/
def leftovers : List (List Char) := [[], ['x']]

/-- What stands behind a calibration command in the buffer. -/
theorem behind_token {before rest : List Char} {which token : Char} (hbefore : before ∈ leftovers)
    (hwhich : which ≠ 'z') (hrest : 'z' ∉ rest) :
    behind ("zcal".toList ++ [token]) (before ++ ("zcal".toList ++ which :: rest))
      = if token = which then some rest else none := by
  have hz : 'z' ∉ before := by
    unfold leftovers at hbefore
    simp only [List.mem_cons, List.not_mem_nil, or_false] at hbefore
    rcases hbefore with rfl | rfl
    · decide
    · decide
  show behind ('z' :: ("cal".toList ++ [token])) _ = _
  rw [behind_skip hz]
  by_cases htoken : token = which
  · rw [if_pos htoken, htoken]
    exact behind_append_self ("zcal".toList ++ [which]) rest
  · rw [if_neg htoken]
    have hshort : ¬('z' :: ("cal".toList ++ [token])) <+: 'z' :: ("cal".toList ++ which :: rest) := by
      simp [htoken]
    refine (behind_cons hshort).trans (behind_eq_none ?_)
    simp [hrest, hwhich.symm]

/-- A calibration command in the buffer is carried out. -/
theorem responseFor_set {before rest : List Char} {which : Char} (hbefore : before ∈ leftovers)
    (hwhich : which ∈ ['5', '6', '7', '8']) (hrest : 'z' ∉ rest) (st : SimState) :
    responseFor (before ++ ("zcal".toList ++ which :: rest)) st =
      match setValue rest with
      | none => ([], st)
      | some v => setAndEcho which v st := by
  have hz : which ≠ 'z' := by
    rintro rfl
    exact absurd hwhich (by decide)
  have htoken := fun token => @behind_token before rest which token hbefore hz hrest
  have hother : ∀ token, token ∉ ['5', '6', '7', '8'] →
      behind ("zcal".toList ++ [token]) (before ++ ("zcal".toList ++ which :: rest)) = none := by
    intro token hnot
    rw [htoken, if_neg]
    rintro rfl
    exact hnot hwhich
  have hfound : (['5', '6', '7', '8'].findSome? fun token =>
      (behind ("zcal".toList ++ [token]) (before ++ ("zcal".toList ++ which :: rest))).map
        fun rest => (token, rest)) = some (which, rest) := by
    simp only [htoken]
    simp only [List.mem_cons, List.not_mem_nil, or_false] at hwhich
    rcases hwhich with rfl | rfl | rfl | rfl <;> rfl
  have hA : behind "zcalA".toList (before ++ ("zcal".toList ++ which :: rest)) = none :=
    hother 'A' (by decide)
  have hB : behind "zcalB".toList (before ++ ("zcal".toList ++ which :: rest)) = none :=
    hother 'B' (by decide)
  have hD : behind "zcalD".toList (before ++ ("zcal".toList ++ which :: rest)) = none :=
    hother 'D' (by decide)
  unfold responseFor
  rw [hA, hB, hD, hfound]
  rfl

/-- Of a command `core ++ tail`, a buffer gets no response up to the last byte of `core`, and from
there on the response of the command, whatever of `tail` is in it; the rest of `tail` gets none. -/
structure Understood (cmd core tail : List Char) : Prop where
  split : cmd = core ++ tail
  left : ∀ rest ∈ tail.tails, rest ∈ leftovers
  quiet : ∀ before ∈ leftovers, ∀ p, p <+: before ++ core → p ≠ before ++ core →
    ∀ st, responseFor p st = ([], st)
  answered : ∀ before ∈ leftovers, ∀ t ∈ tail.inits,
    ∀ st, responseFor (before ++ core ++ t) st = responseFor cmd st

/-- For a command without a value this is a matter of looking at every buffer. -/
theorem understood_fixed {cmd core tail : List Char} (hsplit : cmd = core ++ tail)
    (hleft : ∀ rest ∈ tail.tails, rest ∈ leftovers)
    (hquiet : ∀ before ∈ leftovers, ∀ p ∈ (before ++ core).inits, p ≠ before ++ core → Quiet p)
    (hanswered : ∀ before ∈ leftovers, ∀ t ∈ tail.inits,
      ∀ st, responseFor (before ++ core ++ t) st = responseFor cmd st) : Understood cmd core tail where
  split := hsplit
  left := hleft
  quiet before hbefore p hp hne :=
    responseFor_quiet (hquiet before hbefore p ((List.mem_inits p _).mpr hp) hne)
  answered := hanswered

/-- A front part of two texts ends in the first or in the second. -/
theorem prefix_append_cases {p a b : List Char} (h : p <+: a ++ b) :
    p <+: a ∨ ∃ t, p = a ++ t ∧ t <+: b := by
  rcases List.prefix_or_prefix_of_prefix h (List.prefix_append a b) with hp | ⟨t, rfl⟩
  · exact Or.inl hp
  · exact Or.inr ⟨t, rfl, (List.prefix_append_right_inj a).mp h⟩

/-- A command with a value is complete at its `x`. -/
theorem understood_set {which : Char} {text : List Char} (hwhich : which ∈ ['5', '6', '7', '8'])
    (htext : ∀ c ∈ text, plainChar c = true) :
    Understood ("zcal".toList ++ which :: (text ++ ['x'])) ("zcal".toList ++ which ::
        (text ++ ['x'])) [] := by
  have hx : 'x' ∉ text := fun hc => absurd (htext _ hc) (by decide)
  have hz : ∀ {rest}, rest <+: text ++ ['x'] → 'z' ∉ rest := by
    intro rest hrest hc
    rcases List.mem_append.mp (hrest.mem hc) with hc | hc
    · exact absurd (htext _ hc) (by decide)
    · exact absurd (List.mem_singleton.mp hc) (by decide)
  have hset := fun before (hbefore : before ∈ leftovers) =>
    @responseFor_set before (text ++ ['x']) which hbefore hwhich (hz (List.prefix_refl _))
  refine ⟨(List.append_nil _).symm,
      by decide, fun before hbefore p hp hne st => ?_, fun before hbefore t ht st => ?_⟩
  · have hwhole : before ++ ("zcal".toList ++ which :: (text ++ ['x']))
        = ((before ++ "zcal".toList) ++ which :: text) ++ ['x'] := by simp
    rw [hwhole] at hp hne
    rcases prefix_append_cases ((List.prefix_concat_iff.mp hp).resolve_left hne) with hp | ⟨t, rfl, ht⟩
    · -- not even the prefix of the command is there
      have hall : ∀ before ∈ leftovers, ∀ p ∈ (before ++ "zcal".toList).inits, Quiet p := by decide
      exact responseFor_quiet (hall before hbefore p ((List.mem_inits p _).mpr hp)) st
    · rcases List.prefix_cons_iff.mp ht with rfl | ⟨rest, rfl, hrest⟩
      · have hall : ∀ before ∈ leftovers, Quiet (before ++ "zcal".toList ++ []) := by decide
        exact responseFor_quiet (hall before hbefore) st
      · -- the value has no end yet
        rw [List.append_assoc,
            responseFor_set hbefore hwhich (hz (hrest.trans (List.prefix_append _ _)))]
        have hnone : setValue rest = none := if_neg fun hc => hx (hrest.mem hc)
        rw [hnone]
  · obtain rfl : t = [] := by simpa using ht
    rw [List.append_nil, hset before hbefore st]
    exact (hset [] (by decide) st).symm

/-- A value that fits is sent in eleven characters. -/
theorem calCommand_eq {which : Char} {value : ℚ} {decimals : Nat}
    (hfits : (printfFixed false 11 decimals value).length = 11) :
    calCommand which value decimals
      = "zcal".toList ++ which :: (printfFixed false 11 decimals value ++ ['x']) := by
  refine List.take_of_length_le ?_
  simp [hfits]

/-- The command of a call that sets a value. -/
theorem setting_command {call : Call} {s : Setting} (hs : call.setting = some s) :
    call.command = calCommand s.which s.value s.decimals ∧ s.which ∈ ['5', '6', '7', '8'] ∧
      2 ≤ s.decimals ∧ s.decimals ≤ 3 := by
  cases call with
  | setLightOffset n | setLightTemp n | setDarkPeriod n | setDarkTemp n =>
    cases hs
    exact ⟨rfl, by simp, by simp, by simp⟩
  | _ => cases hs

/-- A command with a letter is complete before its `x`. -/
theorem understood_arm {mode : Char} (hmode : mode ∈ ['A', 'B', 'D']) :
    Understood ("zcal".toList ++ [mode, 'x']) ("zcal".toList ++ [mode]) ['x'] := by
  simp only [List.mem_cons, List.not_mem_nil, or_false] at hmode
  have hanswered : ∀ before ∈ leftovers, ∀ t ∈ ['x'].inits, ∀ st,
      responseFor (before ++ ("zcal".toList ++ [mode]) ++ t) st
        = responseFor ("zcal".toList ++ [mode, 'x']) st := by
    simp only [leftovers, List.inits, List.map_cons, List.map_nil, List.forall_mem_cons]
    rcases hmode with rfl | rfl | rfl
    · exact ⟨⟨fun _ => rfl, fun _ => rfl, nofun⟩, ⟨fun _ => rfl, fun _ => rfl, nofun⟩, nofun⟩
    · exact ⟨⟨fun _ => rfl, fun _ => rfl, nofun⟩, ⟨fun _ => rfl, fun _ => rfl, nofun⟩, nofun⟩
    · exact ⟨⟨fun _ => rfl, fun _ => rfl, nofun⟩, ⟨fun _ => rfl, fun _ => rfl, nofun⟩, nofun⟩
  refine understood_fixed rfl (by decide) ?_ hanswered
  rcases hmode with rfl | rfl | rfl
  · decide
  · decide
  · decide

/-- A command of two letters is complete at its end. -/
theorem understood_query {letter : Char} (hletter : letter ∈ ['i', 'c', 'r']) :
    Understood [letter, 'x'] [letter, 'x'] [] := by
  simp only [List.mem_cons, List.not_mem_nil, or_false] at hletter
  have hanswered : ∀ before ∈ leftovers, ∀ t ∈ ([] : List Char).inits, ∀ st,
      responseFor (before ++ [letter, 'x'] ++ t) st = responseFor [letter, 'x'] st := by
    simp only [leftovers, List.inits, List.forall_mem_cons]
    rcases hletter with rfl | rfl | rfl
    · exact ⟨⟨fun _ => rfl, nofun⟩, ⟨fun _ => rfl, nofun⟩, nofun⟩
    · exact ⟨⟨fun _ => rfl, nofun⟩, ⟨fun _ => rfl, nofun⟩, nofun⟩
    · exact ⟨⟨fun _ => rfl, nofun⟩, ⟨fun _ => rfl, nofun⟩, nofun⟩
  refine understood_fixed rfl (by decide) ?_ hanswered
  rcases hletter with rfl | rfl | rfl
  · decide
  · decide
  · decide

/-- The simulator understands every command that fits. -/
theorem call_understood (call : Call) (hfits : call.Fits) :
    ∃ core tail, Understood call.command core tail := by
  cases hs : call.setting with
  | some s =>
    obtain ⟨hcommand, hwhich, hdecimals, -⟩ := setting_command hs
    rw [hcommand, calCommand_eq (hfits s hs)]
    exact ⟨_, _, understood_set hwhich (printed_plain (by omega))⟩
  | none =>
    cases call with
    | setLightOffset n | setLightTemp n | setDarkPeriod n | setDarkTemp n => cases hs
    | armLight => exact ⟨_, _, @understood_arm 'A' (by decide)⟩
    | armDark => exact ⟨_, _, @understood_arm 'B' (by decide)⟩
    | disarm => exact ⟨_, _, @understood_arm 'D' (by decide)⟩
    | info => exact ⟨_, _, @understood_query 'i' (by decide)⟩
    | read => exact ⟨_, _, @understood_query 'r' (by decide)⟩
    | calibration => exact ⟨_, _, @understood_query 'c' (by decide)⟩

/-! ## Receiving -/

/-- What is left of an earlier command has no response. -/
theorem leftover_quiet :
    ∀ left ∈ leftovers, ∀ p, p <+: left → p ∈ leftovers ∧ ∀ st, responseFor p st = ([], st) := by
  intro left hleft p hp
  have hall : ∀ left ∈ leftovers, ∀ p ∈ left.inits, p ∈ leftovers ∧ Quiet p := by decide
  obtain ⟨hmem, hquiet⟩ := hall left hleft p ((List.mem_inits p left).mpr hp)
  exact ⟨hmem, responseFor_quiet hquiet⟩

/-- A chunk that completes no command is kept. -/
theorem receive_nothing {s : Sim} {chunk : List Char}
    (h : responseFor (s.buf ++ chunk) s.state = ([], s.state)) :
    s.receive chunk = ([], { s with buf := s.buf ++ chunk }) := by
  unfold Sim.receive
  dsimp only
  rw [h]
  rfl

/-- A chunk that completes a command is answered, and the buffer is empty. -/
theorem receive_command {s : Sim} {chunk resp : List Char} {st : SimState}
    (h : responseFor (s.buf ++ chunk) s.state = (resp, st)) (hne : resp ≠ []) :
    s.receive chunk = (resp, { buf := [], state := st }) := by
  unfold Sim.receive
  dsimp only
  rw [h]
  exact if_pos hne

/-- What is left over gets no response. -/
theorem receiveAll_leftover {s : Sim} {chunks : List (List Char)} {left rest : List Char}
    (hleft : left ∈ leftovers) (hbytes : s.buf ++ chunks.flatten ++ rest = left) :
    s.receiveAll chunks = ([], { s with buf := s.buf ++ chunks.flatten }) := by
  induction chunks generalizing s with
  | nil => exact congrArg (Prod.mk []) (by rw [List.flatten_nil, List.append_nil])
  | cons chunk chunks ih =>
    rw [List.flatten_cons, ← List.append_assoc] at hbytes
    have hshort : s.buf ++ chunk <+: left :=
      ⟨chunks.flatten ++ rest, by rw [← hbytes, List.append_assoc _ chunks.flatten]⟩
    have hquiet := (leftover_quiet left hleft _ hshort).2 s.state
    unfold Sim.receiveAll
    rw [receive_nothing hquiet]
    dsimp only
    rw [ih hbytes, List.append_assoc, List.flatten_cons]
    rfl

/-- By induction on the chunks: either the command is not complete, and more is to come, or it was
answered once, and what is left of it is left over. -/
theorem receiveAll_understood {cmd core tail : List Char} (hu : Understood cmd core tail) {s : Sim}
    {chunks : List (List Char)} {before rest : List Char} (hbefore : before ∈ leftovers)
    (hne : (responseFor cmd s.state).1 ≠ []) (hbytes : s.buf ++ chunks.flatten ++ rest = before ++ cmd)
    (hshort : s.buf <+: before ++ core) (hproper : s.buf ≠ before ++ core) :
    ((s.receiveAll chunks).1 = [] ∧ rest ≠ []) ∨
      ∃ s', s.receiveAll chunks = ((responseFor cmd s.state).1, s') ∧
          s'.state = (responseFor cmd s.state).2 ∧
        s'.buf ++ rest ∈ leftovers := by
  -- on the chunks; before the last byte that counts the buffer is a front part of it
  induction chunks generalizing s with
  | nil =>
    refine Or.inl ⟨rfl, ?_⟩
    rintro rfl
    rw [List.flatten_nil, List.append_nil, List.append_nil, hu.split, ← List.append_assoc] at hbytes
    exact hproper (hshort.eq_of_length_le (hbytes ▸ (List.prefix_append _ tail).length_le))
  | cons chunk chunks ih =>
    rw [List.flatten_cons, ← List.append_assoc] at hbytes
    have hstream : s.buf ++ chunk <+: (before ++ core) ++ tail := by
      refine ⟨chunks.flatten ++ rest, ?_⟩
      rw [← List.append_assoc, hbytes, hu.split, List.append_assoc]
    unfold Sim.receiveAll
    by_cases hcomplete : ∃ t, s.buf ++ chunk = (before ++ core) ++ t ∧ t <+: tail
    · -- the chunk brings the last byte that counts
      obtain ⟨t, hbuf, ht⟩ := hcomplete
      have hanswer : responseFor (s.buf ++ chunk) s.state
          = ((responseFor cmd s.state).1, (responseFor cmd s.state).2) := by
        rw [hbuf]
        exact hu.answered before hbefore t ((List.mem_inits t tail).mpr ht) s.state
      have hrest : chunks.flatten ++ rest <:+ tail := by
        rw [hbuf, hu.split] at hbytes
        simp only [List.append_assoc] at hbytes
        exact ⟨t, List.append_cancel_left (List.append_cancel_left hbytes)⟩
      have hleft := hu.left _ ((List.mem_tails _ tail).mpr hrest)
      rw [receive_command hanswer hne]
      dsimp only
      rw [@receiveAll_leftover ⟨[], (responseFor cmd s.state).2⟩ chunks _ rest hleft rfl]
      dsimp only
      rw [List.append_nil]
      exact Or.inr ⟨_, rfl, rfl, hleft⟩
    · rcases prefix_append_cases hstream with hp | hp
      · have hproper' : s.buf ++ chunk ≠ before ++ core := fun heq =>
          hcomplete ⟨[], by rw [heq, List.append_nil], List.nil_prefix⟩
        rw [receive_nothing (hu.quiet before hbefore _ hp hproper' s.state)]
        dsimp only
        exact @ih { s with buf := s.buf ++ chunk } hne hbytes hp hproper'
      · exact absurd hp hcomplete

/-! ## A call over the connection -/

/-- Between two calls: at most the `x` of the last command is on its way, and nothing is unread. -/
structure Link.Settled (l : Link) : Prop where
  left : l.sim.buf ++ l.inFlight ∈ leftovers
  read : l.buf = []

/-- A query delivered in any chunks returns the line of the response. -/
theorem query_answered {cmd core tail text : List Char} {st' : SimState} {l : Link} {dlv : Delivery}
    (hu : Understood cmd core tail) (hcore : core ≠ []) (hsettled : l.Settled) (h : Delivers l cmd dlv)
    (hresp : responseFor cmd l.sim.state = (text ++ crlf, st')) (hline : ∀ c ∈ text, c ≠ '\n') :
    ∃ l', l.query dlv = (.ok text, l') ∧ l'.Settled ∧ l'.sim.state = st' := by
  have hbytes : l.sim.buf ++ dlv.chunks.flatten ++ dlv.rest = (l.sim.buf ++ l.inFlight) ++ cmd := by
    rw [List.append_assoc, h.bytes, List.append_assoc]
  have hne : (responseFor cmd l.sim.state).1 ≠ [] := by
    rw [hresp]
    simp [crlf]
  have hproper : l.sim.buf ≠ (l.sim.buf ++ l.inFlight) ++ core := by
    intro heq
    have hlength := congrArg List.length heq
    simp only [List.length_append] at hlength
    exact hcore (List.length_eq_zero_iff.mp (by omega))
  have hshort : l.sim.buf <+: (l.sim.buf ++ l.inFlight) ++ core := by
    rw [List.append_assoc]
    exact List.prefix_append _ _
  obtain ⟨sim, hreceived, hstate, hleft⟩ : ∃ s',
      l.sim.receiveAll dlv.chunks = ((responseFor cmd l.sim.state).1, s') ∧
      s'.state = (responseFor cmd l.sim.state).2 ∧ s'.buf ++ dlv.rest ∈ leftovers := by
    refine (receiveAll_understood hu hsettled.left hne hbytes hshort hproper).resolve_left ?_
    rintro ⟨hnothing, hrest⟩
    exact h.waits.elim hrest fun hsome => hsome hnothing
  rw [hresp] at hreceived hstate
  unfold Link.query
  rw [hreceived, hsettled.read]
  dsimp only
  rw [List.nil_append, readLine_response hline]
  exact ⟨_, rfl, ⟨hleft, rfl⟩, hstate⟩

/-! ## Every call gets its answer -/

section Calls

variable {d : Deps} {dev : SqmDevice} {call : Call} {text : List Char}

/-- A query whose answer is given returns it. -/
theorem meets_queryRaw {cmd line : String} {Q : String → World → Prop} {E : String → World → Prop} :
    Meets (dev.queryRaw cmd) { turns := [{ answer := .ok line }] } Q E ↔
      Q line { effects := [.command dev.address cmd] } := Iff.rfl

/-- The answer of a call, from its run. -/
theorem answered_of_meets {a : Answer}
    (h : Meets (call.run d dev) { turns := [{ answer := .ok (String.ofList text) }] }
    (fun a' _ => a' = a) fun _ _ => False) : call.answered d dev (.ok text) = .ok a := by
  obtain ⟨a', w', hresult, rfl⟩ := h.returns
  unfold Call.answered Except.map
  dsimp only
  rw [hresult]

/-- A call that sets a value is `set_cal_value`. -/
theorem setting_run {s : Setting} (hs : call.setting = some s) :
    call.run d dev = Answer.echo <$> dev.setCalValue d s.which s.value s.decimals := by
  cases call with
  | setLightOffset n | setLightTemp n | setDarkPeriod n | setDarkTemp n =>
    cases hs
    rfl
  | _ => cases hs

/-- It returns the echo as parsed. -/
theorem answered_setting (hcodec : d.codec = codec) {s : Setting} (hs : call.setting = some s)
    {raw : List Char} (hparsed : parseCalSetEcho text = .ok ⟨s.which, .num s.value, raw⟩) :
    call.answered d dev (.ok text) = .ok (.echo ⟨s.which, s.value, String.ofList raw⟩) := by
  have hdecoded : d.codec.parseCalSetEcho (String.ofList text) = .ok ⟨s.which, s.value,
      String.ofList raw⟩ := by
    rw [hcodec]
    unfold codec
    dsimp only
    rw [String.toList_ofList, hparsed]
    rfl
  refine answered_of_meets ?_
  rw [setting_run hs, meets_map, SqmDevice.setCalValue, meets_bind, meets_queryRaw, meets_bind,
    meets_liftExcept, hdecoded]
  simp

/-- The other calls return what they parse. -/
theorem answered_parsed {α : Type} {cmd : String} {parse : String → Except String α}
    {f : α → Answer} {a : α}
    (hrun : call.run d dev = f <$> (dev.queryRaw cmd >>= fun line => liftExcept (parse line)))
    (hparsed : parse (String.ofList text) = .ok a) : call.answered d dev (.ok text) = .ok (f a) := by
  refine answered_of_meets ?_
  rw [hrun, meets_map, meets_bind, meets_queryRaw, meets_liftExcept, hparsed]
  simp

/-- A call writes its command, and nothing else. -/
theorem Call.sends (hcodec : d.codec = codec) (call : Call) (line : String) :
    (endState (call.run d dev { turns := [{ answer := .ok line }] })).effects
      = [.command dev.address (String.ofList call.command)] := by
  have hquery : ∀ {α β : Type} (cmd : String) (parse : String → Except String α) (f : α → β),
      Meets (f <$> (dev.queryRaw cmd >>= fun line => liftExcept (parse line)))
        { turns := [{ answer := .ok line }] } (fun _ w => w.effects = [.command dev.address cmd])
        fun _ w => w.effects = [.command dev.address cmd] := by
    intro α β cmd parse f
    rw [meets_map, meets_bind, meets_queryRaw, meets_liftExcept]
    exact ⟨fun _ _ => rfl, fun _ _ => rfl⟩
  have hcall : Meets (call.run d dev) { turns := [{ answer := .ok line }] }
      (fun _ w => w.effects = [.command dev.address (String.ofList call.command)])
      fun _ w => w.effects = [.command dev.address (String.ofList call.command)] := by
    cases hs : call.setting with
    | some s =>
      rw [setting_run hs, (setting_command hs).1, meets_map, SqmDevice.setCalValue, meets_bind,
        meets_queryRaw, meets_bind, meets_liftExcept, hcodec]
      refine ⟨fun e _ => ?_, fun _ _ => rfl⟩
      simp only [meets_ite, meets_bind, meets_throw, meets_pure]
      exact ⟨fun _ => rfl, fun _ => rfl⟩
    | none =>
      cases call with
      | setLightOffset n | setLightTemp n | setDarkPeriod n | setDarkTemp n => cases hs
      | armLight | armDark | disarm | info | read | calibration => exact hquery _ _ _
  exact hcall.endState

end Calls

/-! ### Sets -/

/-- The simulator reads the value the device prints. -/
theorem setValue_printed {decimals : Nat} {q : ℚ} (hdecimals : decimals ≠ 0)
    (hexact : toDecimals decimals q = q) :
    setValue (printfFixed false 11 decimals q ++ ['x']) = some (.num q) := by
  have hplain := @printed_plain 11 decimals q hdecimals
  have hall : ∀ c ∈ printfFixed false 11 decimals q, decide (c ≠ 'x') = true := by
    intro c hc
    rw [decide_eq_true_eq]
    rintro rfl
    exact absurd (hplain _ hc) (by decide)
  obtain ⟨n, htext, hvalue⟩ := @printfFixed_numeral false 11 decimals q hdecimals
  rw [if_neg (by simp), List.nil_append] at htext
  unfold setValue atof
  rw [if_pos (List.mem_append_right _ List.mem_cons_self), List.takeWhile_append_of_pos hall,
    List.takeWhile_cons_of_neg (by decide), List.append_nil, htext, strtod_numeral, hvalue, hexact]
  rfl

/-- The value of a call has the decimals of its command and the size of its field. -/
theorem setting_value {call : Call} {s : Setting} (hs : call.setting = some s) (hfits : call.Fits) :
    toDecimals s.decimals s.value = s.value ∧ |s.value| < 10 ^ 8 ∧ inDouble s.value = true := by
  have hsize : ∀ {decimals k : Nat} {n : Int}, 2 ≤ decimals ∧ decimals ≤ 3 → k ≤ 3 →
      toDecimals decimals ((n : ℚ) / 10 ^ k) = n / 10 ^ k →
      (printfFixed false 11 decimals ((n : ℚ) / 10 ^ k)).length = 11 →
      |(n : ℚ) / 10 ^ k| < 10 ^ 8 ∧ inDouble ((n : ℚ) / 10 ^ k) = true := by
    intro decimals k n hdecimals hk hexact hlength
    have hlt := abs_lt_of_fits hdecimals hexact hlength
    have hn := (units_lt.mp hlt).trans_le (pow_le_pow_right₀ (by norm_num) (by omega : 8 + k ≤ 12))
    exact ⟨hlt, inDouble_units (by omega) hn⟩
  have hlength := hfits s hs
  cases call with
  | setLightOffset n =>
    cases hs
    have hexact := @toDecimals_units 2 0 n
    exact ⟨hexact, @hsize 2 2 n (by decide) (by decide) hexact hlength⟩
  | setDarkPeriod n =>
    cases hs
    have hexact := @toDecimals_units 3 0 n
    exact ⟨hexact, @hsize 3 3 n (by decide) (by decide) hexact hlength⟩
  | setLightTemp n | setDarkTemp n =>
    cases hs
    have hexact := @toDecimals_units 1 1 n
    exact ⟨hexact, @hsize 2 1 n (by decide) (by decide) hexact hlength⟩
  | _ => cases hs

/-- The buffer is large enough for an echo. -/
theorem echo_uncut {which unit : Char} {width decimals : Nat} {q : ℚ} (hwidth : width ≤ 11)
    (hdecimals : decimals ≠ 0) (hsmall : decimals ≤ 3) (hexact : toDecimals decimals q = q)
    (h : |q| < 10 ^ 8) :
    snprintf 64 (joined (echoFields which width decimals q unit) ++ crlf)
      = joined (echoFields which width decimals q unit) ++ crlf := by
  have hlength := @printed_length_le false width decimals q hdecimals hexact h
  refine List.take_of_length_le ?_
  simp only [echoFields, joined, List.intercalate_cons_cons, List.intercalate_singleton,
    List.length_append, List.length_cons, List.length_nil, crlf]
  omega

/-- The echo has the value that was set, which the simulator holds then. -/
theorem setAndEcho_eq {call : Call} {s : Setting} {st : SimState} {v : Values}
    (hs : call.setting = some s)
    (hfits : call.Fits) (h : Holds st v) : ∃ width decimals unit st',
      setAndEcho s.which (.num s.value) st =
          (joined (echoFields s.which width decimals s.value unit) ++ crlf, st') ∧
        decimals ≠ 0 ∧ toDecimals decimals s.value = s.value ∧ unit.isAlpha = true ∧
            Holds st' (v.set call) := by
  obtain ⟨hexact, hlt, -⟩ := setting_value hs hfits
  cases call with
  | setLightOffset n =>
    cases hs
    refine ⟨11, 2, 'm', _,
        congrArg (Prod.mk · _) (echo_uncut (by decide) (by decide) (by decide) hexact hlt),
      by decide, hexact, rfl, ?_⟩
    exact { h with lightOffset := rfl, lightOffset_lt := units_lt.mp hlt }
  | setDarkPeriod n =>
    cases hs
    refine ⟨11, 3, 's', _,
        congrArg (Prod.mk · _) (echo_uncut (by decide) (by decide) (by decide) hexact hlt),
      by decide, hexact, rfl, ?_⟩
    exact { h with darkPeriod := rfl, darkPeriod_lt := units_lt.mp hlt }
  | setLightTemp n =>
    cases hs
    have htenths := @toDecimals_units 1 0 n
    refine ⟨5, 1, 'C', _,
        congrArg (Prod.mk · _) (echo_uncut (by decide) (by decide) (by decide) htenths hlt),
      by decide, htenths, rfl, ?_⟩
    exact { h with tempLight := rfl, tempLight_lt := units_lt.mp hlt }
  | setDarkTemp n =>
    cases hs
    have htenths := @toDecimals_units 1 0 n
    refine ⟨5, 1, 'C', _,
        congrArg (Prod.mk · _) (echo_uncut (by decide) (by decide) (by decide) htenths hlt),
      by decide, htenths, rfl, ?_⟩
    exact { h with tempDark := rfl, tempDark_lt := units_lt.mp hlt }
  | _ => cases hs

/-- A call that fits is carried out and echoed. -/
theorem responseFor_setting {call : Call} {s : Setting} (hs : call.setting = some s) (hfits : call.Fits)
    (st : SimState) : responseFor call.command st = setAndEcho s.which (.num s.value) st := by
  obtain ⟨hcommand, hwhich, hdecimals, -⟩ := setting_command hs
  have hplain := @printed_plain 11 s.decimals s.value (by omega)
  have hz : 'z' ∉ printfFixed false 11 s.decimals s.value ++ ['x'] := by
    intro hc
    rcases List.mem_append.mp hc with hc | hc
    · exact absurd (hplain _ hc) (by decide)
    · exact absurd (List.mem_singleton.mp hc) (by decide)
  have hset := @responseFor_set [] _ s.which (by decide) hwhich hz st
  rw [setValue_printed (by omega) (setting_value hs hfits).1, List.nil_append] at hset
  rw [hcommand, calCommand_eq (hfits s hs)]
  exact hset

/-! ### The run -/

section Run

variable {d : Deps} {dev : SqmDevice}

/-- The response to a call, and what the library makes of it. -/
structure Responded (d : Deps) (dev : SqmDevice) (call : Call) (st : SimState) (v : Values)
    (text : List Char)
    (st' : SimState) (a : Answer) : Prop where
  response : responseFor call.command st = (text ++ crlf, st')
  line : ∀ c ∈ text, c ≠ '\n'
  holds : Holds st' (v.set call)
  answered : call.answered d dev (.ok text) = .ok a
  right : call.Right v a

/-- So a call that sets a value is responded to. -/
theorem responded_set (hcodec : d.codec = codec) {call : Call} {s : Setting} {st : SimState}
    {v : Values}
    (hs : call.setting = some s) (hfits : call.Fits) (h : Holds st v) :
    ∃ text st' a, Responded d dev call st v text st' a := by
  obtain ⟨-, hwhich, -⟩ := setting_command hs
  have hletter : isSpace s.which = false ∧ s.which ≠ ',' ∧ s.which ≠ '\n' := by
    have hall : ∀ c ∈ ['5', '6', '7', '8'], isSpace c = false ∧ c ≠ ',' ∧ c ≠ '\n' := by
      simp only [List.forall_mem_cons]
      exact ⟨by decide, by decide, by decide, by decide, nofun⟩
    exact hall s.which hwhich
  obtain ⟨width, decimals, unit, st', hecho, hdecimals, hexact, hunit, hholds⟩ :=
    setAndEcho_eq hs hfits h
  have hparsed :=
    @parse_echo s.which unit width decimals s.value hletter.1 hletter.2.1 hunit hdecimals hexact
    (setting_value hs hfits).2.2
  refine ⟨_, st', _, (responseFor_setting hs hfits st).trans hecho,
    echo_noNewline hletter.2.2 hunit hdecimals, hholds, answered_setting hcodec hs hparsed, ?_⟩
  cases call with
  | setLightOffset n | setLightTemp n | setDarkPeriod n | setDarkTemp n =>
      exact ⟨s, _, hs, rfl, rfl, rfl⟩
  | _ => cases hs

/-- So is the call for the calibration. -/
theorem responded_cx (hcodec : d.codec = codec) {st : SimState} {v : Values} (h : Holds st v) :
    ∃ text st' a, Responded d dev .calibration st v text st' a := by
  have hdecoded : d.codec.parseCalibration (String.ofList (joined (cxFields v))) = .ok
      { lightCalOffset := v.lightOffset / 10 ^ 2, darkCalPeriodS := v.darkPeriod / 10 ^ 3,
        tempLightC := v.tempLight / 10 ^ 1, sensorOffset := 871 / 10 ^ 2,
        tempDarkC := v.tempDark / 10 ^ 1, raw := String.ofList (joined (cxFields v)) } := by
    rw [hcodec]
    unfold codec
    dsimp only
    rw [String.toList_ofList, parse_cx h]
    rfl
  have hresponse : responseFor "cx".toList st = (cxLine st, st) := rfl
  rw [cxLine_eq h] at hresponse
  exact ⟨_, st, _, hresponse, cx_noNewline v, h, answered_parsed rfl hdecoded, _, rfl, rfl, rfl,
      rfl, rfl, rfl⟩

/-- A status is answered with its letters and the switch. -/
theorem decoded_status (hcodec : d.codec = codec) (mode state : Char) (st : SimState) :
    d.codec.parseCalStatus (String.ofList ['z', mode, state, lockChar st]) = .ok
      { mode, armed := state = 'a', locked := lockChar st ≠ 'U',
        raw := String.ofList ['z', mode, state, lockChar st] } := by
  have hlock : isSpace (lockChar st) = false := by
    unfold lockChar
    cases st.locked
    · decide
    · decide
  have htrim : trim ['z', mode, state, lockChar st] = ['z', mode, state, lockChar st] := by
    refine trim_eq_self (fun c hc => ?_) fun c hc => ?_
    · cases hc
      decide
    · cases hc
      exact hlock
  rw [hcodec]
  unfold codec
  dsimp only
  rw [String.toList_ofList, parseCalStatus_ok.mpr ⟨mode, state, lockChar st, [], htrim, rfl⟩, htrim]
  rfl

/-- The status is one line. -/
theorem status_line (mode state : Char) (st : SimState) (hmode : mode ≠ '\n') (hstate : state ≠ '\n') :
    ∀ c ∈ ['z', mode, state, lockChar st], c ≠ '\n' := by
  have hlock : lockChar st ≠ '\n' := by
    unfold lockChar
    cases st.locked
    · decide
    · decide
  simp only [List.forall_mem_cons]
  exact ⟨by decide, hmode, hstate, hlock, nofun⟩

/-- The armed letter is no calibration value. -/
theorem Holds.armed {st : SimState} {v : Values} (h : Holds st v) (mode : Option Char) :
    Holds { st with armed := mode } v :=
  ⟨h.lightOffset, h.darkPeriod, h.tempLight, h.sensorOffset, h.tempDark, h.lightOffset_lt,
    h.darkPeriod_lt, h.tempLight_lt, h.tempDark_lt⟩

/-- The fixed responses in their columns. -/
def simUnit : UnitInfoColumns := ⟨2, 3, 1, 413, by decide, by decide, by decide⟩

/-- The columns of the fixed reading. -/
def simReading : ReadingColumns :=
  ⟨false, false, 670, 22921, 20, 0, false, 394, none, by decide, by decide, by decide, exampleTime_lt,
    exampleTemp_lt⟩

/-- The unit information is one line. -/
theorem simUnit_noNewline : ∀ c ∈ simUnit.line, c ≠ '\n' := by
  have hall : simUnit.line.all (· != '\n') = true := by decide
  simpa using hall

/-- The reading is one line. -/
theorem simReading_noNewline : ∀ c ∈ simReading.line, c ≠ '\n' := by
  have hall : simReading.line.all (· != '\n') = true := by decide
  simpa using hall

/-- The fixed unit information is its columns. -/
theorem respIx_eq : respIx = simUnit.line ++ crlf := by decide

/-- The fixed reading is its columns. -/
theorem respRx_eq : respRx = simReading.line ++ crlf := by decide

/-- The device reads the fixed unit information. -/
theorem decoded_info (hcodec : d.codec = codec) : d.codec.parseUnitInfo (String.ofList simUnit.line) =
    .ok { protocol := 2, model := 3, feature := 1, serial := "00000413",
          raw := String.ofList simUnit.line } := by
  have hparsed := simUnit.parse_line false
  rw [lineEnd, if_neg Bool.false_ne_true, List.append_nil] at hparsed
  rw [hcodec]
  unfold codec
  dsimp only
  rw [String.toList_ofList, hparsed]
  rfl

/-- The device reads the fixed reading. -/
theorem decoded_reading (hcodec : d.codec = codec) :
    d.codec.parseReading (String.ofList simReading.line) =
    .ok { magArcsec2 := signedValue false ((670 : ℕ) / 10 ^ 2), freqHz := 22921, periodCounts := 20,
          periodS := signedValue false ((0 : ℕ) / 10 ^ 3), tempC :=
            signedValue false ((394 : ℕ) / 10 ^ 1),
          raw := String.ofList simReading.line } := by
  have hparsed := simReading.parse_line false
  rw [lineEnd, if_neg Bool.false_ne_true, List.append_nil] at hparsed
  rw [hcodec]
  unfold codec
  dsimp only
  rw [String.toList_ofList, hparsed]
  rfl

/-- Every call that fits is responded to. -/
theorem call_responded (hcodec : d.codec = codec) (call : Call) (hfits : call.Fits) {st : SimState}
    {v : Values}
    (h : Holds st v) : ∃ text st' a, Responded d dev call st v text st' a := by
  cases hs : call.setting with
  | some s => exact responded_set hcodec hs hfits h
  | none =>
    cases call with
    | setLightOffset n | setLightTemp n | setDarkPeriod n | setDarkTemp n => cases hs
    | armLight =>
      exact ⟨_, _, _, rfl, status_line 'A' 'a' st (by decide) (by decide), h.armed _,
        answered_parsed rfl (decoded_status hcodec 'A' 'a' st), _, rfl, rfl, rfl⟩
    | armDark =>
      exact ⟨_, _, _, rfl, status_line 'B' 'a' st (by decide) (by decide), h.armed _,
        answered_parsed rfl (decoded_status hcodec 'B' 'a' st), _, rfl, rfl, rfl⟩
    | disarm =>
      exact ⟨_, _, _, rfl, status_line 'x' 'd' st (by decide) (by decide), h.armed _,
        answered_parsed rfl (decoded_status hcodec 'x' 'd' st), _, rfl, rfl, rfl⟩
    | info =>
      have hresponse : responseFor "ix".toList st = (respIx, st) := rfl
      rw [respIx_eq] at hresponse
      exact ⟨_, _, _, hresponse, simUnit_noNewline, h, answered_parsed rfl (decoded_info hcodec), _,
        rfl, rfl, rfl, rfl, rfl⟩
    | read =>
      have hresponse : responseFor "rx".toList st = (respRx, st) := rfl
      rw [respRx_eq] at hresponse
      refine ⟨_, _, _, hresponse, simReading_noNewline, h,
        answered_parsed rfl (decoded_reading hcodec), _, rfl, ?_, rfl, rfl, ?_, ?_⟩
      · norm_num [signedValue]
      · norm_num [signedValue]
      · norm_num [signedValue]
    | calibration => exact responded_cx hcodec h

/-- One call: the library gets the answer to its command, and the connection is settled again. -/
theorem exchange_responded (hcodec : d.codec = codec) {call : Call} (hfits : call.Fits) {l : Link}
    {v : Values}
    {dlv : Delivery} (hsettled : l.Settled) (h : Holds l.sim.state v)
    (hd : Delivers l call.command dlv) :
    ∃ text st' a l', Responded d dev call l.sim.state v text st' a ∧ l.query dlv = (.ok text, l') ∧
      l'.Settled ∧ l'.sim.state = st' := by
  obtain ⟨core, tail, hu⟩ := call_understood call hfits
  obtain ⟨text, st', a, hresponded⟩ := @call_responded d dev hcodec call hfits _ v h
  have hcore : core ≠ [] := by
    rintro rfl
    -- the empty buffer gets no response, and the command does
    have hempty : responseFor [] l.sim.state = responseFor call.command l.sim.state :=
      hu.answered [] (by decide) [] (by simp) _
    rw [hresponded.response, (leftover_quiet [] (by decide) _ (List.prefix_refl _)).2] at hempty
    exact absurd (congrArg Prod.fst hempty) (by simp [crlf])
  obtain ⟨l', hquery, hsettled', hstate⟩ :=
    query_answered hu hcore hsettled hd hresponded.response hresponded.line
  exact ⟨text, st', a, l', hresponded, hquery, hsettled', hstate⟩

/-- By induction on the calls: the connection stays settled, and the simulator holds what was set
last. -/
theorem after_settled {l : Link} {v : Values} {steps : List (Call × Delivery)} (hsettled : l.Settled)
    (h : Holds l.sim.state v) (hfits : ∀ step ∈ steps, step.1.Fits) (hd : Delivered l steps) :
    (l.after steps).Settled ∧
        Holds (l.after steps).sim.state ((steps.map Prod.fst).foldl Values.set v) := by
  induction steps generalizing l v with
  | nil => exact ⟨hsettled, h⟩
  | cons step steps ih =>
    obtain ⟨call, dlv⟩ := step
    obtain ⟨text, st', a, l', hresponded, hquery, hsettled', hstate⟩ :=
      @exchange_responded { Deps.plain [] with codec := codec } ⟨""⟩ rfl call
          (hfits _ List.mem_cons_self) l v dlv
        hsettled h hd.1
    have hnext : (l.query dlv).2 = l' := congrArg Prod.snd hquery
    have hrest := hd.2
    rw [hnext] at hrest
    have hih := ih hsettled' (hstate ▸ hresponded.holds) (fun s hs =>
      hfits s (List.mem_cons_of_mem _ hs)) hrest
    rw [Link.after, hnext]
    exact hih

/-- A delivery of two parts. -/
theorem delivered_append {l : Link} {before after : List (Call × Delivery)} :
    Delivered l (before ++ after) ↔ Delivered l before ∧ Delivered (l.after before) after := by
  induction before generalizing l with
  | nil => exact (and_iff_right trivial).symm
  | cons step before ih =>
    show (_ ∧ Delivered _ (before ++ after)) ↔ (_ ∧ Delivered _ before) ∧ _
    rw [ih, and_assoc]
    rfl

end Run

def unitDeps : Deps := { Deps.plain [] with codec := codec }

/-- The `x` of the first command comes with the second one. -/
def armThenSet : List (Call × Delivery) :=
  [(.armDark, ⟨["zc".toList, "alB".toList], ['x']⟩),
    (.setDarkTemp (-15), ⟨["xzcal".toList, "8-0000001.5".toList, "0x".toList], []⟩)]

/-- The two calls are delivered. -/
theorem armThenSet_delivered : Delivered {} armThenSet := by
  refine ⟨⟨by decide, by decide, Or.inr (by decide)⟩, ⟨by decide, ?_, Or.inl rfl⟩, trivial⟩
  decide +kernel

end NightWatcher.Sqm.Simulator
