import NightWatcher.Lib.NumberText
import NightWatcher.Lib.TextLines

/-!
# `config.cpp`: the configuration file

`Config::load` reads the file line by line. A line is blank, a comment, a section header or `key =
value`, each up to blanks around it; anything else throws, as does a number that `std::stoi` does
not read. What a key means depends on the section it is in; sections and keys that are not known
are passed over.
-/

namespace NightWatcher.ConfigFile

open TextLines DecimalText NumberText

abbrev Text := List Char

/-- A `[sensor:…]` section. -/
structure SensorConfig where
  id : Text := []
  transport : Text := []
  address : Text := []
  name : Text := []
deriving DecidableEq

/-- What the file sets; the rest keeps the defaults of the program. -/
structure Config where
  pollIntervalS : Int := 300
  dbHost : Text := "localhost".toList
  dbName : Text := "nightwatcher".toList
  dbUser : Text := "nightwatcher".toList
  dbPort : Int := 3306
  apiPort : Int := 8080
  apiBind : Text := "127.0.0.1".toList
  apiTls : Bool := false
  apiTlsCert : Text := []
  apiTlsKey : Text := []
  schemaFile : Text := []
  webRoot : Text := []
  sensors : List SensorConfig := []
deriving DecidableEq

/-! ## A line with a key -/

/-- A line of the `[daemon]` section. -/
def setDaemon (key value : Text) (cfg : Config) : Except String Config :=
  if key = "interval".toList then do return { cfg with pollIntervalS := ← stoi value } else return cfg

/-- A line of the `[database]` section. -/
def setDatabase (key value : Text) (cfg : Config) : Except String Config :=
  if key = "host".toList then return { cfg with dbHost := value }
  else if key = "name".toList then return { cfg with dbName := value }
  else if key = "user".toList then return { cfg with dbUser := value }
  else if key = "port".toList then do return { cfg with dbPort := ← stoi value }
  else return cfg

/-- The values that switch TLS on. -/
def isOn (value : Text) : Bool :=
  value = "on".toList || value = "true".toList || value = "1".toList || value = "yes".toList

/-- A line of the `[api]` section. -/
def setApi (key value : Text) (cfg : Config) : Except String Config :=
  if key = "port".toList then do return { cfg with apiPort := ← stoi value }
  else if key = "bind".toList then return { cfg with apiBind := value }
  else if key = "tls".toList then return { cfg with apiTls := isOn value }
  else if key = "tls_cert".toList then return { cfg with apiTlsCert := value }
  else if key = "tls_key".toList then return { cfg with apiTlsKey := value }
  else if key = "schema_file".toList then return { cfg with schemaFile := value }
  else if key = "web_root".toList then return { cfg with webRoot := value }
  else return cfg

/-- A line of a sensor's section. -/
def setSensor (key value : Text) (sc : SensorConfig) : SensorConfig :=
  if key = "transport".toList then { sc with transport := value }
  else if key = "address".toList then { sc with address := value }
  else if key = "name".toList then { sc with name := value }
  else sc

/-- The section that the loop is in, and the sensor that the section is about. -/
structure Place where
  sect : Text := []
  currentSensor : Option Nat := none

/-- A line goes to the section it is in. -/
def Place.set (place : Place) (key value : Text) (cfg : Config) : Except String Config :=
  if place.sect = "daemon".toList then setDaemon key value cfg
  else if place.sect = "database".toList then setDatabase key value cfg
  else if place.sect = "api".toList then setApi key value cfg
  else
    match place.currentSensor with
    | some n => return { cfg with sensors := cfg.sensors.modify n (setSensor key value) }
    | none => return cfg

/-! ## The loop -/

/-- The file as far as it is read: the section, and what is set. -/
structure Reading where
  cfg : Config := {}
  place : Place := {}
  lineno : Nat := 0

/-- A blank line or a comment. -/
def isSkipped (s : Text) : Bool := s = [] || s.head? = some '#' || s.head? = some ';'

/-- A line in brackets. -/
def isHeader (s : Text) : Bool := s.head? = some '[' && s.getLast? = some ']'

/-- What is between the brackets. -/
def sectionOf (s : Text) : Text := trim isSpace s.tail.dropLast

def sensorMark : Text := "sensor:".toList

/-- A header begins a section, and a sensor if it names one. -/
def enter (sect : Text) (st : Reading) : Reading :=
  if sensorMark <+: sect then
    let sc : SensorConfig := { id := trim isSpace (sect.drop sensorMark.length) }
    { st with
      cfg := { st.cfg with sensors := st.cfg.sensors ++ [sc] }
      place := { sect, currentSensor := some st.cfg.sensors.length } }
  else { st with place := { sect } }

/-- What is in front of the first `=`. -/
def keyOf (s : Text) : Text := trim isSpace (s.takeWhile (· ≠ '='))

/-- What is behind the first `=`. -/
def valueOf (s : Text) : Text := trim isSpace (s.dropWhile (· ≠ '=')).tail

/-- One line of the file: blank, a comment, a header, a value or an error. -/
def readLine (path : Text) (before : Reading) (line : Text) : Except String Reading :=
  let st := { before with lineno := before.lineno + 1 }
  let s := trim isSpace line
  if isSkipped s then return st
  else if isHeader s then return enter (sectionOf s) st
  else if '=' ∉ s then
    .error ("malformed line " ++ toString st.lineno ++ " in " ++ String.ofList path ++ ": '"
      ++ String.ofList s ++ "'")
  else do return { st with cfg := ← st.place.set (keyOf s) (valueOf s) st.cfg }

/-- The directory part of a path. -/
def directory (path : Text) : Text :=
  if '/' ∈ path then (path.reverse.dropWhile (· ≠ '/')).tail.reverse else ".".toList

/-- The TLS material beside the config file. -/
def defaultTls (path : Text) (cfg : Config) : Config :=
  { cfg with
    apiTlsCert := if cfg.apiTlsCert = [] then directory path ++ "/tls/nightwatcher-cert.pem".toList
      else cfg.apiTlsCert
    apiTlsKey := if cfg.apiTlsKey = [] then directory path ++ "/tls/nightwatcher-key.pem".toList
      else cfg.apiTlsKey }

/-- One line after the other, up to the first error. -/
def readLines (path : Text) (st : Reading) (lines : List Text) : Except String Reading :=
  lines.foldlM (readLine path) st

/-- `Config::load`; a file that does not open has no content. -/
def load (path : Text) (content : Option Text) : Except String Config :=
  match content with
  | none => .error ("cannot open config file: " ++ String.ofList path)
  | some text => do return defaultTls path (← readLines path {} (getlines '\n' text)).cfg

end NightWatcher.ConfigFile
