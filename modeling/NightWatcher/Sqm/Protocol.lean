import NightWatcher.World
import NightWatcher.Lib.NumberText
import NightWatcher.Lib.TextLines

/-!
# `protocol.cpp`: the responses of a unit

A line is a list of characters, one for each byte. The parsers cut a line at its
commas, cut the blanks and the unit letters off a numeric field and give what is left
to `stod` or `stoll`, which read a number from its front. `codec` is the five parsers
and the command of `set_cal_value` as the rest of the daemon sees them; the daemon's
own numbers are exact, so a response with an infinity or a NaN in it ends there.
-/

namespace NightWatcher.Sqm.Protocol

open NumberText DecimalText

/-! ## Fields -/

/-- `trim` -/
def trim (s : List Char) : List Char := TextLines.trim isSpace s

/-- `split` -/
def split (s : List Char) (delim : Char) : List (List Char) := TextLines.getlines delim s

/-- A field without the blanks around it and the unit letters behind it. -/
def numericPart (s : List Char) : List Char := trim ((trim s).rdropWhile Char.isAlpha)

/-- The text of an error about a field. -/
def quoted (what : String) (s : List Char) : String := what ++ ": '" ++ String.ofList s ++ "'"

/-- `to_double`: `stod` reads a number at the front and leaves the rest. -/
def toDouble (field : List Char) : Except String Double :=
  let n := numericPart field
  if n = [] then .error (quoted "expected number in field" field) else stod n

/-- `to_ll`: so does `stoll`. -/
def toLl (field : List Char) : Except String Int :=
  let n := numericPart field
  if n = [] then .error (quoted "expected integer in field" field) else stoll n

/-- `static_cast<int>` of a `long long`. -/
def toInt (n : Int) : Int := n.bmod (2 ^ 32)

/-! ## Responses -/

/-- The answer to `rx` or `ux`. -/
structure Reading where
  magArcsec2 : Double
  freqHz : Int
  periodCounts : Int
  periodS : Double
  tempC : Double
  serial : List Char := []
  raw : List Char

/-- The answer to `cx`. -/
structure Calibration where
  lightCalOffset : Double
  darkCalPeriodS : Double
  tempLightC : Double
  sensorOffset : Double
  tempDarkC : Double
  raw : List Char

/-- The answer to `ix`. -/
structure UnitInfo where
  protocol : Int
  model : Int
  feature : Int
  serial : List Char
  raw : List Char

/-- The answer to a command that arms or disarms a calibration. -/
structure CalStatus where
  mode : Char
  armed : Bool
  locked : Bool
  raw : List Char

/-- What a command that sets a calibration value answers with. -/
structure CalSetEcho where
  which : Char
  value : Double
  raw : List Char

/-- `parse_reading` -/
def parseReading (lineIn : List Char) : Except String Reading :=
  let line := trim lineIn
  match split line ',' with
  | f₀ :: f₁ :: f₂ :: f₃ :: f₄ :: f₅ :: rest =>
    if trim f₀ ≠ ['r'] ∧ trim f₀ ≠ ['u'] then .error (quoted "not a reading response" line)
    else do
      let magArcsec2 ← toDouble f₁
      let freqHz ← toLl f₂
      let periodCounts ← toLl f₃
      let periodS ← toDouble f₄
      let tempC ← toDouble f₅
      -- an interval report has the serial number behind the reading
      let serial := (rest.head?.map trim).getD []
      return { magArcsec2, freqHz, periodCounts, periodS, tempC, serial, raw := line }
  | _ => .error (quoted "not a reading response" line)

/-- `parse_calibration` -/
def parseCalibration (lineIn : List Char) : Except String Calibration :=
  let line := trim lineIn
  match split line ',' with
  | f₀ :: f₁ :: f₂ :: f₃ :: f₄ :: f₅ :: _ =>
    if trim f₀ ≠ ['c'] then .error (quoted "not a calibration response" line)
    else do
      let lightCalOffset ← toDouble f₁
      let darkCalPeriodS ← toDouble f₂
      let tempLightC ← toDouble f₃
      let sensorOffset ← toDouble f₄
      let tempDarkC ← toDouble f₅
      return { lightCalOffset, darkCalPeriodS, tempLightC, sensorOffset, tempDarkC, raw := line }
  | _ => .error (quoted "not a calibration response" line)

/-- `parse_unit_info` -/
def parseUnitInfo (lineIn : List Char) : Except String UnitInfo :=
  let line := trim lineIn
  match split line ',' with
  | f₀ :: f₁ :: f₂ :: f₃ :: f₄ :: _ =>
    if trim f₀ ≠ ['i'] then .error (quoted "not a unit-info response" line)
    else do
      let protocol := toInt (← toLl f₁)
      let model := toInt (← toLl f₂)
      let feature := toInt (← toLl f₃)
      return { protocol, model, feature, serial := trim f₄, raw := line }
  | _ => .error (quoted "not a unit-info response" line)

/-- `parse_cal_status` -/
def parseCalStatus (lineIn : List Char) : Except String CalStatus :=
  let line := trim lineIn
  match line with
  | 'z' :: mode :: state :: lock :: _ =>
    .ok { mode, armed := state = 'a', locked := lock ≠ 'U', raw := line }
  | _ => .error (quoted "not a calibration-status response" line)

/-- `parse_cal_set_echo` -/
def parseCalSetEcho (lineIn : List Char) : Except String CalSetEcho :=
  let line := trim lineIn
  match split line ',' with
  | f₀ :: f₁ :: f₂ :: _ =>
    if trim f₀ ≠ ['z'] then .error (quoted "not a calibration-set response" line)
    else do
      let value ← toDouble f₂
      return { which := (trim f₁).headD '\x00', value, raw := line }
  | _ => .error (quoted "not a calibration-set response" line)

/-! ## The command that sets a calibration value -/

/-- What `snprintf` leaves in a buffer of a size, which has a place for the NUL. -/
def snprintf (size : Nat) (text : List Char) : List Char := text.take (size - 1)

/-- `"zcal%c%011.*fx"` in a buffer of 48 characters. -/
def calCommand (which : Char) (value : ℚ) (decimals : Nat) : List Char :=
  snprintf 48 ("zcal".toList ++ which :: (printfFixed false 11 decimals value ++ ['x']))

/-! ## The codec -/

/-- A value that can go into a column. -/
def exact : Double → Except String ℚ
  | .num q => .ok q
  | .inf _ | .nan => .error "not a finite number"

/-- The response as the daemon goes on with it. -/
def Reading.toExact (r : Reading) : Except String NightWatcher.Reading := do
  return { magArcsec2 := ← exact r.magArcsec2, freqHz := r.freqHz, periodCounts := r.periodCounts,
           periodS := ← exact r.periodS, tempC := ← exact r.tempC,
           serial := String.ofList r.serial, raw := String.ofList r.raw }

def Calibration.toExact (c : Calibration) : Except String NightWatcher.Calibration := do
  return { lightCalOffset := ← exact c.lightCalOffset, darkCalPeriodS := ← exact c.darkCalPeriodS,
           tempLightC := ← exact c.tempLightC, sensorOffset := ← exact c.sensorOffset,
           tempDarkC := ← exact c.tempDarkC, raw := String.ofList c.raw }

/-- The parsers of the program. -/
def codec : Codec where
  parseReading line := parseReading line.toList >>= Reading.toExact
  parseCalibration line := parseCalibration line.toList >>= Calibration.toExact
  parseUnitInfo line := do
    let u ← parseUnitInfo line.toList
    return { protocol := u.protocol, model := u.model, feature := u.feature,
             serial := String.ofList u.serial, raw := String.ofList u.raw }
  parseCalStatus line := do
    let s ← parseCalStatus line.toList
    return { mode := s.mode, armed := s.armed, locked := s.locked, raw := String.ofList s.raw }
  parseCalSetEcho line := do
    let e ← parseCalSetEcho line.toList
    return { which := e.which, value := ← exact e.value, raw := String.ofList e.raw }
  formatCalValue which value decimals := String.ofList (calCommand which value decimals)

end NightWatcher.Sqm.Protocol
