import NightWatcher.World

/-!
# `dsn_format.cpp`: the Dark Sky Network file

`formatDsnDat` renders a sensor and its readings to the community format, 35
header lines and one line a reading, CRLF after each; `dsnFileName` names the
file by the local month of the window's end. Both read header values from the
target's config (`cfgOr`).
-/

namespace NightWatcher.Exporter

open TimeUtil

variable (d : Deps)

/-- The config of a target: the empty text is the empty object. -/
def parseConfig (configJson : String) : Except String Json :=
  if configJson = "" then .ok (.obj []) else parseJson d configJson

/-- A config override that is a non-empty string, else the fallback. -/
def cfgOr (cfg : Json) (key fallback : String) : String :=
  match cfg.member? key with
  | some (.str v) => if v = "" then fallback else v
  | _ => fallback

/-- `15.70` to `15.7`. -/
def trimZeros (s : String) : String :=
  if s.toList.contains '.' then
    let kept := (s.toList.reverse.dropWhile (· = '0'))
    String.ofList (if kept.head? = some '.' then kept.tail else kept).reverse
  else s

/-- A zero-padded serial in its integer form; others pass through. -/
def serialInt (s : String) : String :=
  if s = "" then s
  else if s.toList.all Char.isDigit then
    let kept := s.toList.dropWhile (· = '0')
    if kept = [] then "0" else String.ofList kept
  else s

def fmtMsas (v : ℚ) : String := trimZeros (d.printfFixed 2 v)

/-- `lround`: halves away from zero. -/
def lround (q : ℚ) : Int := if 0 ≤ q then ⌊q + 1 / 2⌋ else ⌈q - 1 / 2⌉

/-- `%+.4f`. -/
def fmtSigned (q : ℚ) : String :=
  let s := d.printfFixed 4 q
  if s.toList.head? = some '-' then s else "+" ++ s

/-- `%+d`. -/
def fmtSignedInt (i : Int) : String := if i < 0 then toString i else "+" ++ toString i

def orIfEmpty (s fallback : String) : String := if s = "" then fallback else s

/-- The header of the file, 35 lines. -/
def dsnHeader (s : SensorRow) (cfg : Json) (tz : String) : List String :=
  let pos := fmtSigned d (s.latitude.getD 0) ++ ", " ++ fmtSigned d (s.longitude.getD 0) ++ ", "
    ++ fmtSignedInt (lround (s.elevationM.getD 0))
  ["# Community Standard Skyglow Data Format 1.0",
   "# URL: http://www.darksky.org/NSBM/sdf1.0.pdf",
   "# Number of header lines: 35",
   "# This data is released under the following license: ODbL 1.0 "
     ++ "http://opendatacommons.org/licenses/odbl/summary/",
   "# Device type: " ++ cfgOr cfg "device_type" (orIfEmpty s.model "SQM-LE/LU"),
   "# Instrument ID: " ++ cfgOr cfg "instrument_id" s.id,
   "# Data supplier: " ++ cfgOr cfg "data_supplier" "",
   "# Location name: " ++ cfgOr cfg "location_name" (orIfEmpty s.site s.name),
   "# Position (lat, lon, elev(m)): " ++ pos,
   "# Local timezone: " ++ tz,
   "# Time Synchronization: " ++ cfgOr cfg "time_sync" "NTP",
   "# Moving / Stationary position: STATIONARY",
   "# Moving / Fixed look direction: FIXED",
   "# Number of channels: 1",
   "# Filters per channel: " ++ cfgOr cfg "filter" "HOYA CM-500",
   "# Measurement direction per channel: 0, 0",
   "# Field of view (degrees): " ++ cfgOr cfg "fov" "20",
   "# Number of fields per line: 6",
   "# SQM serial number: " ++ serialInt s.serialNumber,
   "# SQM firmware version: " ++ cfgOr cfg "firmware" "",
   "# SQM cover offset value: " ++ cfgOr cfg "cover_offset" "0",
   "# SQM readout test ix: " ++ cfgOr cfg "ix_test" "",
   "# SQM readout test rx: " ++ cfgOr cfg "rx_test" "",
   "# SQM readout test cx: " ++ cfgOr cfg "cx_test" "",
   "# Comment: " ++ cfgOr cfg "comment" "Data acquired by NightWatcher2",
   "# Comment: ",
   "# Comment: ",
   "# Comment: ",
   "# Comment: ",
   "# blank line 30",
   "# blank line 31",
   "# blank line 32",
   "# UTC Date & Time, Local Date & Time, Temperature, Counts, Frequency, MSAS",
   "# YYYY-MM-DDTHH:mm:ss.fff;YYYY-MM-DDTHH:mm:ss.fff;Celsius;number;Hz;mag/arcsec^2",
   "# END OF HEADER"]

theorem dsnHeader_length (s : SensorRow) (cfg : Json) (tz : String) :
    (dsnHeader d s cfg tz).length = 35 := rfl

/-- One data line. -/
def dsnLine (tz : String) (includeCountsFreq : Bool) (r : ReadingRow) : String :=
  let (utcIso, locIso) :=
    match parseSqlUtc r.tsUtc with
    | some t => (fmtIsoMs (Gregorian.gmtime t), fmtIsoMs (localTm d.zones t tz))
    | none => (r.tsUtc, r.tsUtc)
  let counts := if includeCountsFreq then toString r.periodCounts else ""
  let freq := if includeCountsFreq then toString r.freqHz else ""
  utcIso ++ ";" ++ locIso ++ ";" ++ d.printfFixed 1 r.tempC ++ ";" ++ counts ++ ";" ++ freq ++ ";"
    ++ fmtMsas d r.magArcsec2

def formatDsnDat (ctx : ExportContext) (configJson : String) : Except String String := do
  let cfg ← parseConfig d configJson
  let tz := cfgOr cfg "timezone" ctx.sensor.timezone
  let includeCountsFreq ← cfg.valueOr "include_counts_freq" Json.getBool false
  let lines := dsnHeader d ctx.sensor cfg tz ++ ctx.readings.map (dsnLine d tz includeCountsFreq)
  return String.join (lines.map fun l => l ++ "\r\n")

/-- The instant whose local month names the file. -/
def fileMonthRef (ctx : ExportContext) : String :=
  if ctx.toTs ≠ "" then ctx.toTs
  else match ctx.readings.getLast? with
    | some r => if r.tsUtc = "" then ctx.fromTs else r.tsUtc
    | none => ctx.fromTs

/-- `"YYYY-MM"` to `"YY-MM"`. -/
def yymm (ym : String) : String :=
  if 7 ≤ ym.length then String.ofList (ym.toList.drop 2) else "00-00"

/-- The part of the name before the month. -/
def dsnStem (sensor : SensorRow) (cfg : Json) : String :=
  let siteId := cfgOr cfg "site_id" sensor.id
  let supplier := cfgOr cfg "supplier" ""
  if supplier = "" then siteId else siteId ++ "_" ++ supplier

def dsnFileName (ctx : ExportContext) (configJson : String) : Except String String := do
  let cfg ← parseConfig d configJson
  let tz := cfgOr cfg "timezone" ctx.sensor.timezone
  return dsnStem ctx.sensor cfg ++ "_" ++ yymm (localYm d.zones (fileMonthRef ctx) tz) ++ ".dat"

end NightWatcher.Exporter
