import NightWatcher.World

/-!
# `sqm_device.cpp`, `device_factory.cpp`: talking to a unit

A device is the address it was opened at. Opening it, and each command, takes
its answer from the world; a command that was received whole is logged, whether
or not its response came back. `scan` is what `discovery.cpp` does to the
outside: it asks every candidate for its unit information.
-/

namespace NightWatcher.Sqm

variable (d : Deps)

/-- An open device. -/
structure SqmDevice where
  address : String

/-- Connect to a unit. -/
def openDevice (transport address : String) : Act SqmDevice := fun w =>
  if transport ≠ "tcp" ∧ transport ≠ "serial" then
    .error ("unsupported transport '" ++ transport ++ "' (use tcp or serial)") w
  else
    match w.opens with
    | [] => .error ("cannot open " ++ address) w
    | .error e :: rest => .error e { w with opens := rest }
    | .ok () :: rest => .ok ⟨address⟩ { w with opens := rest }

/-- Write a command and read one line. -/
def SqmDevice.queryRaw (dev : SqmDevice) (cmd : String) : Act String := fun w =>
  match w.turns with
  | [] => .error "timed out waiting for a response" w
  | turn :: rest =>
    let w := { w with
      turns := rest
      effects := if turn.received then w.effects ++ [.command dev.address cmd] else w.effects }
    match turn.answer with
    | .ok line => .ok line w
    | .error e => .error e w

/-- `read_averaged` -/
def SqmDevice.readAveraged (dev : SqmDevice) : Act Reading := do
  liftExcept (d.codec.parseReading (← dev.queryRaw "rx"))

/-- `calibration` -/
def SqmDevice.calibration (dev : SqmDevice) : Act Calibration := do
  liftExcept (d.codec.parseCalibration (← dev.queryRaw "cx"))

/-- `info` -/
def SqmDevice.info (dev : SqmDevice) : Act UnitInfo := do
  liftExcept (d.codec.parseUnitInfo (← dev.queryRaw "ix"))

/-- `arm_light_calibration` -/
def SqmDevice.armLightCalibration (dev : SqmDevice) : Act CalStatus := do
  liftExcept (d.codec.parseCalStatus (← dev.queryRaw "zcalAx"))

/-- `arm_dark_calibration` -/
def SqmDevice.armDarkCalibration (dev : SqmDevice) : Act CalStatus := do
  liftExcept (d.codec.parseCalStatus (← dev.queryRaw "zcalBx"))

/-- `disarm_calibration` -/
def SqmDevice.disarmCalibration (dev : SqmDevice) : Act CalStatus := do
  liftExcept (d.codec.parseCalStatus (← dev.queryRaw "zcalDx"))

/-- Write one calibration value to the unit and check the echo. -/
def SqmDevice.setCalValue (dev : SqmDevice) (which : Char) (value : ℚ) (decimals : Nat) :
    Act CalSetEcho := do
  let line ← dev.queryRaw (d.codec.formatCalValue which value decimals)
  let e ← liftExcept (d.codec.parseCalSetEcho line)
  if e.which ≠ which then
    throw ("unexpected calibration-set echo: '" ++ e.raw ++ "'")
  return e

/-- `set_light_offset` -/
def SqmDevice.setLightOffset (dev : SqmDevice) (magArcsec2 : ℚ) : Act CalSetEcho :=
  dev.setCalValue d '5' magArcsec2 2

/-- `set_light_temp` -/
def SqmDevice.setLightTemp (dev : SqmDevice) (celsius : ℚ) : Act CalSetEcho :=
  dev.setCalValue d '6' celsius 2

/-- `set_dark_period` -/
def SqmDevice.setDarkPeriod (dev : SqmDevice) (seconds : ℚ) : Act CalSetEcho :=
  dev.setCalValue d '7' seconds 3

/-- `set_dark_temp` -/
def SqmDevice.setDarkTemp (dev : SqmDevice) (celsius : ℚ) : Act CalSetEcho :=
  dev.setCalValue d '8' celsius 2

/-- `discover` and `discover_serial`: who answers `ix` with unit information. A
range that cannot be expanded throws before anything is sent. -/
def scan (what : String) : Act (List (String × UnitInfo)) := fun w =>
  match w.scans with
  | [] => .ok [] { w with effects := w.effects ++ [.scan what] }
  | .error e :: rest => .error e { w with scans := rest }
  | .ok found :: rest =>
    .ok found { w with scans := rest, effects := w.effects ++ [.scan what] }

end NightWatcher.Sqm
