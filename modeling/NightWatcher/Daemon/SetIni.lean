import NightWatcher.Daemon.ConfigFile

/-!
# `postinst`: the installer's edits of the configuration file

`set_ini` is an awk script that gives a key of a section another value. It has its own idea of the
file: a section begins at a line that starts with its name between brackets, and ends at the next
line that starts with a bracket; `Config::load` reads blanks inside the brackets and takes a line
that starts with a bracket for a header only if it ends with one. And it only replaces lines: a
key that is not there is not added.

The two agree about keys (`hasKey_iff`), so what matters is where awk takes itself to be at the
lines that the loader reads as settings of the key (`sightings`). `set_ini_reaches_iff` says that
the value reaches the daemon and nothing else changes if and only if the last such line is seen,
or has the value already, and the last `port` of the database is not taken for one of the API.
-/

namespace NightWatcher.ConfigFile

open TextLines DecimalText NumberText

/-! ## The script -/

/-- What awk makes of the text of a `-v` assignment: only a backslash is special. -/
structure Awk where
  assigned : Text → Text
  plain : ∀ text, '\\' ∉ text → assigned text = text

/-- `$0 ~ ("^[[:space:]]*\\[" sec "\\]")` -/
def isHeaderOf (sec line : Text) : Bool := decide ('[' :: sec ++ [']'] <+: line.dropWhile isSpace)

/-- `/^[[:space:]]*\[/ { insec = … }` -/
def inSection (sec : Text) (insec : Bool) (line : Text) : Bool :=
  if (line.dropWhile isSpace).head? = some '[' then isHeaderOf sec line else insec

/-- `$0 ~ ("^[[:space:]]*" key "[[:space:]]*=")` -/
def hasKey (key line : Text) : Bool :=
  decide (key <+: line.dropWhile isSpace) &&
    (((line.dropWhile isSpace).drop key.length).dropWhile isSpace).head? = some '='

/-- The line `set_ini` writes. -/
def settingLine (key val : Text) : Text := key ++ (" = ".toList ++ val)

/-- The `awk` script: inside the section each line of the key is replaced. -/
def editLines (sec key val : Text) : Bool → List Text → List Text
  | _, [] => []
  | insec, line :: rest =>
    (if inSection sec insec line && hasKey key line then settingLine key val else line) ::
      editLines sec key val (inSection sec insec line) rest

/-- `set_ini FILE SECTION KEY VALUE`, on the text of the file. -/
def setIni (awk : Awk) (text sec key val : Text) : Text :=
  (editLines (awk.assigned sec) (awk.assigned key) (awk.assigned val) false
      (getlines '\n' text)).flatMap
    (· ++ ['\n'])

/-- What the installer sets. -/
inductive Setting where
  | dbHost | apiBind | apiPort | apiTls
deriving DecidableEq

namespace Setting

/-- The section of the setting. -/
def sect : Setting → Text
  | dbHost => "database".toList
  | apiBind | apiPort | apiTls => "api".toList

/-- The key of the setting. -/
def key : Setting → Text
  | dbHost => "host".toList
  | apiBind => "bind".toList
  | apiPort => "port".toList
  | apiTls => "tls".toList

/-- The configuration with a value in the setting's field, `n` being the number that a port is
read as. -/
def store (val : Text) (n : Int) (cfg : Config) : Setting → Config
  | dbHost => { cfg with dbHost := val }
  | apiBind => { cfg with apiBind := val }
  | apiPort => { cfg with apiPort := n }
  | apiTls => { cfg with apiTls := isOn val }

end Setting

/-! ## Where awk takes itself to be -/

/-- At each line that the loader reads as a setting of `key` in section `sect`: is awk in its
section `sec`? The loader is in section `current` at first, and awk in its own or not. -/
def sightings (sec sect key : Text) : Text → Bool → List Text → List Bool
  | _, _, [] => []
  | current, insec, line :: rest =>
    let s := trim isSpace line
    let insec := inSection sec insec line
    if isHeader s then sightings sec sect key (sectionOf s) insec rest
    else if current = sect ∧ '=' ∈ s ∧ keyOf s = key then insec ::
        sightings sec sect key current insec rest
    else sightings sec sect key current insec rest

/-- The last setting of the key in the section, as the loader reads the file, is one that awk
replaces. -/
def Found (setting : Setting) (lines : List Text) : Prop :=
  (sightings setting.sect setting.sect setting.key [] false lines).getLastD false = true

/-- The last port of the database is one that awk takes for a key of the API. -/
def PortTaken (lines : List Text) : Prop :=
  (sightings "api".toList "database".toList "port".toList [] false lines).getLastD false = true

/-! ## Keys -/

/-- A key in letters only. -/
def IsWord (w : Text) : Prop := w ≠ [] ∧ w.all Char.isAlpha = true

/-- The keys of the settings are in letters only. -/
theorem Setting.key_isWord (setting : Setting) : IsWord setting.key := by
  cases setting with
  | dbHost => exact ⟨by decide, by decide⟩
  | apiBind => exact ⟨by decide, by decide⟩
  | apiPort => exact ⟨by decide, by decide⟩
  | apiTls => exact ⟨by decide, by decide⟩

/-- A letter is no blank and no sign that the two look for. -/
theorem letter_plain {c : Char} (h : c.isAlpha = true) :
    isSpace c = false ∧ c ≠ '=' ∧ c ≠ '#' ∧ c ≠ ';' ∧ c ≠ '[' := by
  have hne : ∀ d : Char, d.isAlpha = false → c ≠ d := by
    intro d hd heq
    rw [heq, hd] at h
    cases h
  refine ⟨?_, hne _ (by decide), hne _ (by decide), hne _ (by decide), hne _ (by decide)⟩
  by_contra hspace
  rw [Bool.not_eq_false] at hspace
  unfold isSpace at hspace
  rcases of_decide_eq_true hspace with heq | heq | heq | heq | heq | heq
  all_goals exact hne _ (by decide) heq

namespace IsWord

variable {w : Text} (h : IsWord w)

include h

/-- No letter of a word is a blank or one of the marks of the file. -/
theorem plain {c : Char} (hc : c ∈ w) : isSpace c = false ∧ c ≠ '=' ∧ c ≠ '#' ∧ c ≠ ';' ∧ c ≠ '[' :=
  letter_plain (List.all_eq_true.mp h.2 c hc)

/-- A word has no equals sign. -/
theorem noEquals : '=' ∉ w := fun hmem => (h.plain hmem).2.1 rfl

/-- Trimming takes the blanks around a word away. -/
theorem trim_between {before after : Text} (hbefore : ∀ c ∈ before, isSpace c = true)
    (hafter : ∀ c ∈ after, isSpace c = true) : trim isSpace (before ++ (w ++ after)) = w :=
  trim_append hbefore hafter (fun _ hc => (h.plain (List.mem_of_mem_head? hc)).1)
    fun _ hc => (h.plain (List.mem_of_mem_getLast? hc)).1

end IsWord

/-- Blanks have no equals sign among them. -/
theorem notMem_blanks {blanks : Text} (h : ∀ x ∈ blanks, isSpace x = true) : '=' ∉ blanks := by
  intro hmem
  exact absurd (h _ hmem) (by decide)

/-- The two sides of the first equals sign. -/
theorem sides {before after : Text} (h : '=' ∉ before) :
    keyOf (before ++ '=' :: after) = trim isSpace before ∧
      valueOf (before ++ '=' :: after) = trim isSpace after := by
  have hall : ∀ c ∈ before, decide (c ≠ '=') = true :=
    fun c hc => decide_eq_true fun heq => h (heq ▸ hc)
  unfold keyOf valueOf
  rw [List.takeWhile_append_of_pos hall, List.dropWhile_append_of_pos hall,
    List.takeWhile_cons_of_neg (by decide), List.dropWhile_cons_of_neg (by decide), List.append_nil]
  exact ⟨rfl, rfl⟩

/-- The two sides of a line, whether blanks are cut off it before or after. -/
theorem sides_trim {line : Text} (heq : '=' ∈ line) : '=' ∈ trim isSpace line ∧
    keyOf (trim isSpace line) = keyOf line ∧ valueOf (trim isSpace line) = valueOf line := by
  obtain ⟨before, after, hline, hbefore, hafter⟩ := exists_trim isSpace line
  generalize trim isSpace line = s at hline
  have hs : '=' ∈ s := by
    rw [hline] at heq
    rcases List.mem_append.mp heq with h | h
    · exact absurd h (notMem_blanks hbefore)
    · exact (List.mem_append.mp h).resolve_right (notMem_blanks hafter)
  obtain ⟨left, right, rfl, hleft⟩ := List.eq_append_cons_of_mem hs
  have hfront : '=' ∉ before ++ left := fun hmem =>
    (List.mem_append.mp hmem).elim (notMem_blanks hbefore) hleft
  have hwhole : line = (before ++ left) ++ '=' :: (right ++ after) := by
    rw [hline, List.append_assoc, List.append_assoc, List.cons_append]
  rw [hwhole, (sides hleft).1, (sides hleft).2, (sides hfront).1, (sides hfront).2,
    trim_blanks_append hbefore, trim_append_blanks hafter]
  exact ⟨hs, rfl, rfl⟩

/-- Trimming adds no character. -/
theorem mem_of_mem_trim {c : Char} {line : Text} (h : c ∈ trim isSpace line) : c ∈ line := by
  obtain ⟨before, after, hline, -, -⟩ := exists_trim isSpace line
  rw [hline]
  exact List.mem_append_right before (List.mem_append_left after h)

/-- Awk and the loader agree about the key of a line. -/
theorem hasKey_iff {key : Text} (hkey : IsWord key) (line : Text) :
    hasKey key line = true ↔ '=' ∈ line ∧ keyOf line = key := by
  unfold hasKey
  rw [Bool.and_eq_true, decide_eq_true_eq, decide_eq_true_eq]
  constructor
  -- `awk` has found blanks, the key, blanks and the equals sign
  · rintro ⟨⟨rest, hrest⟩, hhead⟩
    rw [← hrest, List.drop_left] at hhead
    have hblanks : ∀ c ∈ rest.takeWhile isSpace, isSpace c = true :=
      fun c hc => List.mem_takeWhile_imp hc
    have hfront : ∀ c ∈ line.takeWhile isSpace, isSpace c = true :=
      fun c hc => List.mem_takeWhile_imp hc
    cases hdrop : rest.dropWhile isSpace with
    | nil =>
      rw [hdrop] at hhead
      cases hhead
    | cons c tail =>
      rw [hdrop] at hhead
      obtain rfl := Option.some.inj hhead
      have hline : line = (line.takeWhile isSpace ++ (key ++ rest.takeWhile isSpace)) ++ '=' ::
          tail := by
        rw [List.append_assoc, List.append_assoc, ← hdrop, List.takeWhile_append_dropWhile, hrest,
          List.takeWhile_append_dropWhile]
      have hnone : '=' ∉ line.takeWhile isSpace ++ (key ++ rest.takeWhile isSpace) := by
        intro hmem
        rcases List.mem_append.mp hmem with h | h
        · exact notMem_blanks hfront h
        · rcases List.mem_append.mp h with h | h
          · exact hkey.noEquals h
          · exact notMem_blanks hblanks h
      constructor
      · rw [hline]
        simp
      · conv_lhs => rw [hline]
        rw [(sides hnone).1, hkey.trim_between hfront hblanks]
  -- the loader has trimmed the left side of the first equals sign
  · rintro ⟨heq, hof⟩
    obtain ⟨left, right, rfl, hleft⟩ := List.eq_append_cons_of_mem heq
    rw [(sides hleft).1] at hof
    obtain ⟨before, after, hsplit, hbefore, hafter⟩ := exists_trim isSpace left
    rw [hof] at hsplit
    obtain ⟨c, cs, hcons⟩ := List.exists_cons_of_ne_nil hkey.1
    have hc : ¬isSpace c = true := by
      rw [(hkey.plain (hcons ▸ List.mem_cons_self)).1]
      exact Bool.false_ne_true
    have hdrop : (left ++ '=' :: right).dropWhile isSpace = key ++ (after ++ '=' :: right) := by
      rw [hsplit, List.append_assoc, List.append_assoc, List.dropWhile_append_of_pos hbefore, hcons,
        List.cons_append, List.dropWhile_cons_of_neg hc]
    rw [hdrop, List.drop_left, List.dropWhile_append_of_pos hafter]
    exact ⟨List.prefix_append _ _, rfl⟩

/-- A line with a key that is a word is neither a comment nor a header. -/
theorem key_line {key line : Text} (hkey : IsWord key) (heq : '=' ∈ line) (hof : keyOf line = key) :
    isSkipped (trim isSpace line) = false ∧ isHeader (trim isSpace line) = false := by
  obtain ⟨hs, hside, -⟩ := sides_trim heq
  have hhead := trim_head isSpace line
  generalize trim isSpace line = s at hs hside hhead
  rw [hof] at hside
  obtain ⟨left, right, rfl, hleft⟩ := List.eq_append_cons_of_mem hs
  rw [(sides hleft).1] at hside
  obtain ⟨before, after, hsplit, hbefore, -⟩ := exists_trim isSpace left
  rw [hside] at hsplit
  obtain ⟨c, cs, hcons⟩ := List.exists_cons_of_ne_nil hkey.1
  obtain ⟨-, -, hhash, hsemi, hbracket⟩ := hkey.plain (hcons ▸ List.mem_cons_self : c ∈ key)
  -- the line starts with the key, since it does not start with a blank
  have hfront : (left ++ '=' :: right).head? = some c := by
    cases before with
    | nil =>
      rw [hsplit, hcons]
      rfl
    | cons b bs =>
      rw [hsplit] at hhead
      have hb := hhead b rfl
      rw [hbefore b List.mem_cons_self] at hb
      cases hb
  have hne : left ++ '=' :: right ≠ [] := by simp
  unfold isSkipped isHeader
  rw [hfront]
  simp [hne, hhash, hsemi, hbracket]

/-- The line written has the key and the value on its sides. -/
theorem settingLine_sides {key val : Text} (hkey : IsWord key) (hval : trim isSpace val = val) :
    '=' ∈ settingLine key val ∧ keyOf (settingLine key val) = key ∧
        valueOf (settingLine key val) = val := by
  have hline : settingLine key val = (key ++ [' ']) ++ '=' :: ([' '] ++ val) := by
    unfold settingLine
    rw [List.append_assoc]
    rfl
  have hblank : ∀ c ∈ [' '], isSpace c = true := fun c hc => List.mem_singleton.mp hc ▸ rfl
  have hnone : '=' ∉ key ++ [' '] := by
    intro hmem
    rcases List.mem_append.mp hmem with h | h
    · exact hkey.noEquals h
    · exact notMem_blanks hblank h
  have hword := @IsWord.trim_between key hkey [] [' '] nofun hblank
  rw [List.nil_append] at hword
  rw [hline, (sides hnone).1, (sides hnone).2, hword, trim_blanks_append hblank, hval]
  exact ⟨by simp, rfl, rfl⟩

/-! ## The loader at one line -/

/-- A line of the key stores its value in the section at hand. -/
theorem readLine_key {path key line : Text} {st : Reading} (hkey : IsWord key) (heq : '=' ∈ line)
    (hof : keyOf line = key) : readLine path st line = do
      return { cfg := ← st.place.set key (valueOf line) st.cfg
               place := st.place
               lineno := st.lineno + 1 } := by
  obtain ⟨hskip, hheader⟩ := key_line hkey heq hof
  obtain ⟨hs, hkeys, hvalues⟩ := sides_trim heq
  unfold readLine
  dsimp only
  rw [hskip, hheader, if_neg (not_not.mpr hs), hkeys, hvalues, hof]
  rfl

section Patch

variable (setting : Setting) (val : Text) (n : Int)

/-- What the edits so far have changed: the setting's own field, and for a port also the one of the
database. -/
def patch (own other : Bool) (cfg : Config) : Config :=
  let cfg := if own then setting.store val n cfg else cfg
  if other ∧ setting = .apiPort then { cfg with dbPort := n } else cfg

variable {setting val n}

/-- An update of another field than those that a patch changes. -/
structure Apart (setting : Setting) (val : Text) (n : Int) (update : Config → Config) : Prop where
  own : ∀ cfg, update (setting.store val n cfg) = setting.store val n (update cfg)
  port : setting = .apiPort → ∀ cfg, update { cfg with dbPort := n } = { update cfg with dbPort := n }

/-- An update apart from the setting commutes with the patch. -/
theorem Apart.patch {update : Config → Config} (h : Apart setting val n update) (own other : Bool)
    (cfg : Config) : update (patch setting val n own other cfg) =
      patch setting val n own other (update cfg) := by
  unfold ConfigFile.patch
  dsimp only
  have hfirst : ∀ cfg, update (if own then setting.store val n cfg else cfg) =
      if own then setting.store val n (update cfg) else update cfg := by
    intro cfg
    cases own with
    | true => exact h.own cfg
    | false => rfl
  by_cases hother : other = true ∧ setting = .apiPort
  · rw [if_pos hother, if_pos hother, h.port hother.2, hfirst]
  · rw [if_neg hother, if_neg hother, hfirst]

variable {key value : Text} {own other : Bool} {cfg : Config}

/-- The same where the update succeeds. -/
theorem pure_patch (update : Config → Config) (h : Apart setting val n update) :
    (pure (update (patch setting val n own other cfg)) : Except String Config) =
      patch setting val n own other <$> pure (update cfg) := congrArg Except.ok (h.patch own other cfg)

/-- The same where the update reads a number first. -/
theorem stoi_patch (update : Int → Config → Config) (h : ∀ a, Apart setting val n (update a)) :
    (do return update (← stoi value) (patch setting val n own other cfg) : Except String Config) =
      patch setting val n own other <$> (do return update (← stoi value) cfg) := by
  cases stoi value with
  | error e => rfl
  | ok a => exact pure_patch (update a) (h a)

/-- A choice commutes when its branches do. -/
theorem ite_patch {c : Prop} [Decidable c] {x y x' y' : Except String Config}
    (hx : c → x' = patch setting val n own other <$> x) (hy : ¬c →
        y' = patch setting val n own other <$> y) :
    (if c then x' else y') = patch setting val n own other <$> (if c then x else y) := by
  by_cases h : c
  · rw [if_pos h, if_pos h]
    exact hx h
  · rw [if_neg h, if_neg h]
    exact hy h

/-- The keys of `[daemon]` are apart from every setting. -/
theorem setDaemon_patch : setDaemon key value (patch setting val n own other cfg) =
    patch setting val n own other <$> setDaemon key value cfg := by
  refine ite_patch (fun _ => ?_) fun _ => rfl
  refine stoi_patch (fun a cfg => { cfg with pollIntervalS := a }) fun a =>
    ⟨fun cfg => ?_, fun _ _ => rfl⟩
  cases setting <;> rfl

/-- The other keys of `[database]` are apart from the setting. -/
theorem setDatabase_patch (hkey : key ≠ setting.key) :
    setDatabase key value (patch setting val n own other cfg) =
      patch setting val n own other <$> setDatabase key value cfg := by
  refine ite_patch (fun hhost => ?_) fun _ => ite_patch (fun _ => ?_) fun _ =>
    ite_patch (fun _ => ?_) fun _ => ite_patch (fun hport => ?_) fun _ => rfl
  · refine pure_patch (fun cfg => { cfg with dbHost := value }) ⟨fun cfg => ?_, fun _ _ => rfl⟩
    cases setting with
    | dbHost => exact absurd hhost hkey
    | _ => rfl
  · refine pure_patch (fun cfg => { cfg with dbName := value }) ⟨fun cfg => ?_, fun _ _ => rfl⟩
    cases setting <;> rfl
  · refine pure_patch (fun cfg => { cfg with dbUser := value }) ⟨fun cfg => ?_, fun _ _ => rfl⟩
    cases setting <;> rfl
  · refine stoi_patch (fun a cfg => { cfg with dbPort := a }) fun a => ⟨fun cfg => ?_, fun h => ?_⟩
    · cases setting <;> rfl
    · rw [h] at hkey
      exact absurd hport hkey

/-- The other keys of `[api]` are apart from the setting. -/
theorem setApi_patch (hkey : key ≠ setting.key) : setApi key value (patch setting val n own other cfg) =
    patch setting val n own other <$> setApi key value cfg := by
  refine ite_patch (fun hport => ?_) fun _ => ite_patch (fun hbind => ?_) fun _ =>
    ite_patch (fun htls => ?_) fun _ => ite_patch (fun _ => ?_) fun _ =>
      ite_patch (fun _ => ?_) fun _ =>
    ite_patch (fun _ => ?_) fun _ => ite_patch (fun _ => ?_) fun _ => rfl
  · refine stoi_patch (fun a cfg => { cfg with apiPort := a }) fun a => ⟨fun cfg => ?_, fun _ _ => rfl⟩
    cases setting with
    | apiPort => exact absurd hport hkey
    | _ => rfl
  · refine pure_patch (fun cfg => { cfg with apiBind := value }) ⟨fun cfg => ?_, fun _ _ => rfl⟩
    cases setting with
    | apiBind => exact absurd hbind hkey
    | _ => rfl
  · refine pure_patch (fun cfg => { cfg with apiTls := isOn value }) ⟨fun cfg => ?_, fun _ _ => rfl⟩
    cases setting with
    | apiTls => exact absurd htls hkey
    | _ => rfl
  -- the paths are in no setting
  · refine pure_patch (fun cfg => { cfg with apiTlsCert := value }) ⟨fun cfg => ?_, fun _ _ => rfl⟩
    cases setting <;> rfl
  · refine pure_patch (fun cfg => { cfg with apiTlsKey := value }) ⟨fun cfg => ?_, fun _ _ => rfl⟩
    cases setting <;> rfl
  · refine pure_patch (fun cfg => { cfg with schemaFile := value }) ⟨fun cfg => ?_, fun _ _ => rfl⟩
    cases setting <;> rfl
  · refine pure_patch (fun cfg => { cfg with webRoot := value }) ⟨fun cfg => ?_, fun _ _ => rfl⟩
    cases setting <;> rfl

/-- The sensors are apart from every setting. -/
theorem apart_sensors (f : List SensorConfig → List SensorConfig) :
    Apart setting val n fun cfg => { cfg with sensors := f cfg.sensors } := by
  refine ⟨fun cfg => ?_, fun _ _ => rfl⟩
  cases setting <;> rfl

/-- A line with another key goes with a patch. -/
theorem set_patch {place : Place} (hkey : key ≠ setting.key) :
    place.set key value (patch setting val n own other cfg) =
      patch setting val n own other <$> place.set key value cfg := by
  refine ite_patch (fun _ => setDaemon_patch) fun _ =>
    ite_patch (fun _ => setDatabase_patch hkey) fun _ =>
    ite_patch (fun _ => setApi_patch hkey) fun _ => ?_
  cases place.currentSensor with
  | none => rfl
  | some i => exact pure_patch _ (apart_sensors fun sensors => sensors.modify i (setSensor key value))

variable (setting val n) in
/-- The loader's variables with what the edits have changed. -/
def patched (own other : Bool) (st : Reading) : Reading :=
  { st with cfg := patch setting val n own other st.cfg }

/-- A section header is read the same. -/
theorem enter_patched (sect : Text) (st : Reading) :
    enter sect (patched setting val n own other st) = patched setting val n own other
        (enter sect st) := by
  have hsensors : (patch setting val n own other st.cfg).sensors = st.cfg.sensors := by
    unfold patch
    cases own <;> cases other <;> cases setting <;> rfl
  unfold enter patched
  by_cases hsensor : sensorMark <+: sect
  · rw [if_pos hsensor, if_pos hsensor]
    dsimp only
    rw [hsensors]
    have happend := (@apart_sensors setting val n fun sensors =>
      sensors ++ [{ id := trim isSpace (sect.drop sensorMark.length) }]).patch own other st.cfg
    rw [hsensors] at happend
    rw [happend]
  · rw [if_neg hsensor, if_neg hsensor]

/-- What a key means in the section of the setting: the number of a port is read. -/
def Setting.number : Setting → Text → Except String Int
  | .apiPort, value => stoi value
  | _, _ => pure 0

/-- What the setting's key means in each section. -/
theorem set_key {place : Place} : place.set setting.key value cfg =
    if place.sect = setting.sect then do return setting.store value (← setting.number value) cfg
    else if setting = .apiPort ∧ place.sect = "database".toList then do
      return { cfg with dbPort := ← stoi value }
    else return cfg := by
  have hsensor : ∀ i, cfg.sensors.modify i (setSensor setting.key value) = cfg.sensors := by
    intro i
    have hid : setSensor setting.key value = id := by
      funext sc
      cases setting <;> rfl
    rw [hid, List.modify_id]
  unfold Place.set
  by_cases hdaemon : place.sect = "daemon".toList
  · rw [if_pos hdaemon, hdaemon]
    cases setting <;> rfl
  rw [if_neg hdaemon]
  by_cases hdatabase : place.sect = "database".toList
  · rw [if_pos hdatabase, hdatabase]
    cases setting <;> rfl
  have hport : ¬(setting = .apiPort ∧ place.sect = "database".toList) := fun h => hdatabase h.2
  rw [if_neg hdatabase, if_neg hport]
  by_cases hapi : place.sect = "api".toList
  · rw [if_pos hapi, hapi]
    cases setting <;> rfl
  have hother : place.sect ≠ setting.sect := by
    cases setting with
    | dbHost => exact hdatabase
    | apiBind | apiPort | apiTls => exact hapi
  rw [if_neg hapi, if_neg hother]
  cases place.currentSensor with
  | none => rfl
  | some i =>
    dsimp only
    rw [hsensor]

/-! ## Both at one line -/

variable {path line : Text} {st st₂ : Reading} {insec : Bool}

/-- A line that awk passes on is read as before. -/
theorem readLine_other (hkey : hasKey setting.key line = false)
    (hread : readLine path st line = .ok st₂) :
    readLine path (patched setting val n own other st) line =
        .ok (patched setting val n own other st₂) := by
  unfold readLine at hread ⊢
  dsimp only at hread ⊢
  by_cases hskip : isSkipped (trim isSpace line) = true
  · rw [if_pos hskip] at hread ⊢
    obtain rfl := Except.ok.inj hread
    rfl
  rw [if_neg hskip] at hread ⊢
  by_cases hheader : isHeader (trim isSpace line) = true
  · rw [if_pos hheader] at hread ⊢
    obtain rfl := Except.ok.inj hread
    exact congrArg Except.ok (enter_patched _ { st with lineno := st.lineno + 1 })
  rw [if_neg hheader] at hread ⊢
  by_cases hs : '=' ∉ trim isSpace line
  · rw [if_pos hs] at hread
    cases hread
  rw [if_neg hs] at hread ⊢
  have hne : keyOf (trim isSpace line) ≠ setting.key := by
    intro hof
    have heq := mem_of_mem_trim (not_not.mp hs)
    rw [(sides_trim heq).2.1] at hof
    rw [(hasKey_iff setting.key_isWord line).mpr ⟨heq, hof⟩] at hkey
    cases hkey
  unfold patched
  dsimp only
  rw [set_patch hne]
  cases hset : st.place.set (keyOf (trim isSpace line)) (valueOf (trim isSpace line)) st.cfg with
  | error e =>
    rw [hset] at hread
    cases hread
  | ok c =>
    rw [hset] at hread
    obtain rfl := Except.ok.inj hread
    rfl

/-- Only the port has a second place. -/
theorem patch_other (h : setting ≠ .apiPort) (other other' : Bool) :
    patch setting val n own other cfg = patch setting val n own other' cfg := by
  unfold patch
  dsimp only
  have hnot : ∀ b, ¬(b = true ∧ setting = .apiPort) := fun _ hport => h hport.2
  rw [if_neg (hnot other), if_neg (hnot other')]

/-- A value that is stored replaces what the edits have stored. -/
theorem store_patch (value : Text) (a : Int) :
    setting.store value a (patch setting val n own other cfg) =
    patch setting val n false other (setting.store value a cfg) := by
  unfold patch
  cases own <;> cases other <;> cases setting <;> rfl

/-- What a later line stores covers what an earlier one stored. -/
theorem patch_store (value : Text) (a : Int) :
    patch setting val n true other (setting.store value a cfg) =
    patch setting val n false other (setting.store val n cfg) := by
  unfold patch
  cases other <;> cases setting <;> rfl

/-- What becomes of the configuration at a line with the key: of the old one with the old value, of the
edited one with the value that the line has there. -/
theorem set_edited {place : Place} {c : Config} (hn : setting.number val = .ok n)
    (hset : place.set setting.key value cfg = .ok c) :
    place.set setting.key (if insec then val else value) (patch setting val n own other cfg) =
      .ok (patch setting val n (if place.sect = setting.sect then insec else own)
        (if place.sect = "database".toList then insec else other) c) := by
  -- outside of the database the second mark stays, and for other settings it does not matter
  have hmark : ¬(setting = .apiPort ∧ place.sect = "database".toList) → ∀ own c,
      patch setting val n own (if place.sect = "database".toList then insec else other) c =
        patch setting val n own other c := by
    intro hnot own c
    by_cases hport : setting = .apiPort
    · rw [if_neg fun h => hnot ⟨hport, h⟩]
    · exact patch_other hport _ _
  rw [set_key] at hset ⊢
  by_cases hsect : place.sect = setting.sect
  · rw [if_pos hsect] at hset ⊢
    rw [if_pos hsect]
    have hnot : ¬(setting = .apiPort ∧ place.sect = "database".toList) := by
      intro h
      have hsame := hsect.symm.trans h.2
      rw [h.1] at hsame
      exact absurd hsame (by decide)
    rw [hmark hnot]
    cases hvalue : setting.number value with
    | error e =>
      rw [hvalue] at hset
      cases hset
    | ok a =>
      rw [hvalue] at hset
      obtain rfl := Except.ok.inj hset
      cases insec with
      | true =>
        rw [if_pos rfl, hn, patch_store]
        exact congrArg Except.ok (store_patch val n)
      | false =>
        rw [if_neg Bool.false_ne_true, hvalue]
        exact congrArg Except.ok (store_patch value a)
  · rw [if_neg hsect] at hset ⊢
    rw [if_neg hsect]
    by_cases hport : setting = .apiPort ∧ place.sect = "database".toList
    · rw [if_pos hport] at hset ⊢
      rw [if_pos hport.2]
      obtain ⟨rfl, -⟩ := hport
      cases hvalue : stoi value with
      | error e =>
        rw [hvalue] at hset
        cases hset
      | ok a =>
        rw [hvalue] at hset
        obtain rfl := Except.ok.inj hset
        have hval : stoi val = .ok n := hn
        unfold patch
        cases insec with
        | true =>
          rw [if_pos rfl, hval]
          cases own <;> cases other <;> rfl
        | false =>
          rw [if_neg Bool.false_ne_true, hvalue]
          cases own <;> cases other <;> rfl
    · rw [if_neg hport] at hset ⊢
      obtain rfl := Except.ok.inj hset
      rw [hmark hport]
      rfl

/-- At a line with the key, the edits have changed its field from then on if and only if awk is in its
section. -/
theorem readLine_edited (hkey : hasKey setting.key line = true) (hval : trim isSpace val = val)
    (hn : setting.number val = .ok n) (hread : readLine path st line = .ok st₂) :
    readLine path (patched setting val n own other st)
        (if insec then settingLine setting.key val else line) =
      .ok (patched setting val n (if st.place.sect = setting.sect then insec else own)
        (if st.place.sect = "database".toList then insec else other) st₂) ∧ st₂.place = st.place := by
  have hword := setting.key_isWord
  obtain ⟨heq, hof⟩ := (hasKey_iff hword line).mp hkey
  rw [readLine_key hword heq hof] at hread
  cases hset : st.place.set setting.key (valueOf line) st.cfg with
  | error e =>
    rw [hset] at hread
    cases hread
  | ok c =>
    rw [hset] at hread
    obtain rfl := Except.ok.inj hread
    have hedited := @set_edited setting val n _ own other st.cfg insec st.place c hn hset
    refine ⟨?_, rfl⟩
    have hline : readLine path (patched setting val n own other st)
        (if insec then settingLine setting.key val else line) = do
        return { cfg := ← st.place.set setting.key (if insec then val else valueOf line)
                   (patch setting val n own other st.cfg)
                 place := st.place
                 lineno := st.lineno + 1 } := by
      obtain ⟨heq', hof', hvalue'⟩ := settingLine_sides hword hval
      cases insec with
      | true =>
        rw [if_pos rfl, if_pos rfl, readLine_key hword heq' hof', hvalue']
        rfl
      | false =>
        rw [if_neg Bool.false_ne_true, if_neg Bool.false_ne_true, readLine_key hword heq hof]
        rfl
    rw [hline, hedited]
    rfl

/-- The section after a line. -/
theorem readLine_sect (hread : readLine path st line = .ok st₂) : st₂.place.sect =
    if isHeader (trim isSpace line) then sectionOf (trim isSpace line) else st.place.sect := by
  unfold readLine at hread
  dsimp only at hread
  generalize trim isSpace line = s at hread ⊢
  by_cases hskip : isSkipped s = true
  · have hheader : ¬isHeader s = true := by
      intro h
      unfold isSkipped at hskip
      unfold isHeader at h
      simp only [Bool.and_eq_true, decide_eq_true_eq] at h
      cases s with
      | nil => cases h.1
      | cons c cs =>
        obtain rfl := Option.some.inj h.1
        simp at hskip
    rw [if_pos hskip] at hread
    obtain rfl := Except.ok.inj hread
    rw [if_neg hheader]
  rw [if_neg hskip] at hread
  by_cases hheader : isHeader s = true
  · rw [if_pos hheader] at hread ⊢
    obtain rfl := Except.ok.inj hread
    unfold enter
    by_cases hsensor : sensorMark <+: sectionOf s
    · rw [if_pos hsensor]
    · rw [if_neg hsensor]
  rw [if_neg hheader] at hread ⊢
  by_cases hs : '=' ∉ s
  · rw [if_pos hs] at hread
    cases hread
  rw [if_neg hs] at hread
  cases hset : st.place.set (keyOf s) (valueOf s) st.cfg with
  | error e =>
    rw [hset] at hread
    cases hread
  | ok c =>
    rw [hset] at hread
    obtain rfl := Except.ok.inj hread
    rfl

/-! ## Both on the whole file -/

section Sightings

variable {sec sect current : Text} {rest : List Text}

/-- A line of another key is no sighting. -/
theorem sightings_other (hword : IsWord key) (hkey : hasKey key line = false) :
    sightings sec sect key current insec (line :: rest) =
      sightings sec sect key (if isHeader (trim isSpace line) then sectionOf (trim isSpace line)
          else current)
        (inSection sec insec line) rest := by
  have hnot : ¬(current = sect ∧ '=' ∈ trim isSpace line ∧ keyOf (trim isSpace line) = key) := by
    rintro ⟨-, hs, hof⟩
    have heq := mem_of_mem_trim hs
    rw [(sides_trim heq).2.1] at hof
    rw [(hasKey_iff hword line).mpr ⟨heq, hof⟩] at hkey
    cases hkey
  conv_lhs => unfold sightings
  dsimp only
  rw [if_neg hnot]
  by_cases hheader : isHeader (trim isSpace line) = true
  · rw [if_pos hheader, if_pos hheader]
  · rw [if_neg hheader, if_neg hheader]

/-- A line of the key is a sighting in its section. -/
theorem sightings_key (hword : IsWord key) (hkey : hasKey key line = true) (mark : Bool) :
    (sightings sec sect key current insec (line :: rest)).getLastD mark =
      (sightings sec sect key current (inSection sec insec line) rest).getLastD
        (if current = sect then inSection sec insec line else mark) := by
  obtain ⟨heq, hof⟩ := (hasKey_iff hword line).mp hkey
  obtain ⟨hs, hside, -⟩ := sides_trim heq
  have hheader : ¬isHeader (trim isSpace line) = true := by
    rw [(key_line hword heq hof).2]
    exact Bool.false_ne_true
  conv_lhs => unfold sightings
  dsimp only
  rw [if_neg hheader]
  by_cases hcurrent : current = sect
  · rw [if_pos ⟨hcurrent, hs, hside.trans hof⟩, if_pos hcurrent, List.getLastD_cons]
  · rw [if_neg fun h => hcurrent h.1, if_neg hcurrent]

end Sightings

/-- The edited file is read as the file is, up to what the edits have changed. -/
theorem readLines_edited (hval : trim isSpace val = val) (hn : setting.number val = .ok n)
    {lines : List Text} {st' : Reading} (hread : readLines path st lines = .ok st') :
    readLines path (patched setting val n own other st)
        (editLines setting.sect setting.key val insec lines) =
      .ok (patched setting val n
        ((sightings setting.sect setting.sect setting.key st.place.sect insec lines).getLastD own)
        ((sightings setting.sect "database".toList setting.key st.place.sect insec lines).getLastD
            other)
        st') := by
  unfold readLines at hread ⊢
  induction lines generalizing st own other insec with
  | nil =>
    obtain rfl := Except.ok.inj hread
    rfl
  | cons line rest ih =>
    rw [List.foldlM_cons] at hread
    cases hline : readLine path st line with
    | error e =>
      rw [hline] at hread
      cases hread
    | ok st₂ =>
      rw [hline] at hread
      have hword := setting.key_isWord
      have hsect := readLine_sect hline
      unfold editLines
      rw [List.foldlM_cons]
      cases hkey : hasKey setting.key line with
      | false =>
        rw [Bool.and_false, if_neg Bool.false_ne_true, readLine_other hkey hline,
          sightings_other hword hkey, sightings_other hword hkey, ← hsect]
        exact ih hread
      | true =>
        obtain ⟨hedited, hplace⟩ := @readLine_edited setting val n own other path line st st₂
          (inSection setting.sect insec line) hkey hval hn hline
        rw [Bool.and_true, hedited, sightings_key hword hkey, sightings_key hword hkey, ← hplace]
        exact ih hread

/-- The default of `tls` does not depend on the setting. -/
theorem defaultTls_patch : defaultTls path (patch setting val n own other cfg) =
    patch setting val n own other (defaultTls path cfg) := by
  have hapart : Apart setting val n (defaultTls path) :=
    ⟨fun cfg => by cases setting <;> rfl, fun _ _ => rfl⟩
  exact hapart.patch own other cfg

/-- When the changes are those of the setting's own field. -/
theorem patch_eq_store_iff : patch setting val n own other cfg = setting.store val n cfg ↔
    (own = true ∨ setting.store val n cfg = cfg) ∧
      (setting = .apiPort → other = true → cfg.dbPort = n) := by
  unfold patch
  dsimp only
  by_cases hother : other = true ∧ setting = .apiPort
  · rw [if_pos hother]
    obtain ⟨rfl, rfl⟩ := hother
    cases cfg
    unfold Setting.store
    cases own <;> simp [eq_comm, and_comm]
  · rw [if_neg hother]
    have hnever : setting = .apiPort → other = true → cfg.dbPort = n := fun hport hmark =>
      absurd ⟨hmark, hport⟩ hother
    rw [and_iff_left hnever]
    cases own with
    | true => exact iff_of_true rfl (Or.inl rfl)
    | false =>
      rw [if_neg Bool.false_ne_true]
      exact ⟨fun h => Or.inr h.symm, fun h => (h.resolve_left Bool.false_ne_true).symm⟩

end Patch

/-- The lines written are lines. -/
theorem editLines_noNewline {sec key val : Text} (hkey : '\n' ∉ key) (hval : '\n' ∉ val) {insec : Bool}
    {lines : List Text} (hlines : ∀ l ∈ lines, '\n' ∉ l) :
    ∀ l ∈ editLines sec key val insec lines, '\n' ∉ l := by
  induction lines generalizing insec with
  | nil => exact fun l hl => absurd hl List.not_mem_nil
  | cons line rest ih =>
    intro l hl
    unfold editLines at hl
    rcases List.mem_cons.mp hl with rfl | hl
    · split
      next =>
        unfold settingLine
        rw [List.mem_append, List.mem_append]
        intro hmem
        rcases hmem with h | h | h
        · exact hkey h
        · exact absurd h (by decide)
        · exact hval h
      next => exact hlines line List.mem_cons_self
    · exact ih (fun l hl => hlines l (List.mem_cons_of_mem line hl)) l hl

/-- After `set_ini` the file is accepted, the field holds the value and all else is as it was, if
and only if the last setting of the key is found, or the field has the value already, and the
database does not lose its port to the API's. `n` is the number that the loader reads the value
as, where it reads one. -/
theorem set_ini_reaches_iff (awk : Awk) {path text : Text} {cfg : Config}
    (hload : load path (some text) = .ok cfg) (setting : Setting) {val : Text} {n : Int}
    (hline : '\n' ∉ val) (hplain : '\\' ∉ val)
    (hval : trim isSpace val = val) (haccepted : setting.number val = .ok n) :
    load path (some (setIni awk text setting.sect setting.key val)) = .ok (setting.store val n cfg) ↔
      (Found setting (getlines '\n' text) ∨ setting.store val n cfg = cfg) ∧
        (setting = .apiPort → PortTaken (getlines '\n' text) → cfg.dbPort = n) := by
  have hnames : '\\' ∉ setting.sect ∧ '\\' ∉ setting.key ∧ '\n' ∉ setting.key := by
    cases setting <;> decide
  obtain ⟨hsect, hkey, hkeyLine⟩ := hnames
  cases hread : readLines path {} (getlines '\n' text) with
  | error e =>
    unfold load at hload
    dsimp only at hload
    rw [hread] at hload
    cases hload
  | ok st' =>
    unfold load at hload ⊢
    dsimp only at hload ⊢
    rw [hread] at hload
    obtain rfl := Except.ok.inj hload
    unfold setIni
    rw [awk.plain _ hsect, awk.plain _ hkey, awk.plain _ hplain,
      getlines_flatMap _ (editLines_noNewline hkeyLine hline fun l hl => notMem_getlines hl)]
    have hedited := @readLines_edited setting val n false false path {} false hval haccepted _ _ hread
    have hstart : patched setting val n false false {} = {} := by cases setting <;> rfl
    rw [hstart] at hedited
    rw [hedited]
    show Except.ok (defaultTls path (patch setting val n _ _ st'.cfg)) = .ok _ ↔ _
    rw [defaultTls_patch, Except.ok.injEq, patch_eq_store_iff]
    refine and_congr Iff.rfl (forall_congr' fun hport => ?_)
    subst setting
    exact Iff.rfl

/-- Awk where no text has a backslash. -/
def plainAwk : Awk := ⟨id, fun _ _ => rfl⟩

def seededFile : Text := "[api]\nbind = 127.0.0.1\ntls = off\n".toList

/-- The file has the key: the address is bound. -/
theorem bind_reaches :
    load [] (some (setIni plainAwk seededFile "api".toList "bind".toList "0.0.0.0".toList)) =
      .ok (Setting.store "0.0.0.0".toList 0 (defaultTls [] {}) .apiBind) := by
  have hload : load [] (some seededFile) = .ok (defaultTls [] {}) := by decide
  exact (set_ini_reaches_iff plainAwk hload .apiBind (by decide) (by decide) (by decide) rfl).mpr
    ⟨Or.inl (by unfold Found; decide), nofun⟩

/-- Without the key in it the file stays as it is. -/
theorem bind_lost : ¬∀ (awk : Awk) (path text : Text) (cfg : Config), load path (some text) = .ok cfg →
    ∀ (setting : Setting) (val : Text) (n : Int), '\n' ∉ val → '\\' ∉ val → trim isSpace val = val →
      setting.number val = .ok n →
        load path (some (setIni awk text setting.sect setting.key val)) =
            .ok (setting.store val n cfg) := by
  intro h
  have hlost := h plainAwk [] "[api]\ntls = off\n".toList (defaultTls [] {}) (by decide) .apiBind
    "0.0.0.0".toList 0 (by decide) (by decide) (by decide) rfl
  exact absurd hlost (by decide)

end NightWatcher.ConfigFile
