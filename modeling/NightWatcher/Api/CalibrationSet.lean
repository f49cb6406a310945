import Mathlib
import NightWatcher.Api.Credentials
import NightWatcher.Db.Precision

/-!
# Setting the calibration of a unit

`POST /sensors/{id}/calibration/set` writes up to four values into the unit, a command each,
and records the change when it has read the calibration back. The four setters differ in the
member of the body, the digit of the command and the number of decimals (`CalibrationCode`).
A command takes effect when the unit has received it, whether or not the echo arrives.
-/

namespace NightWatcher.Api

open Throwing Database Daemon Sqm NumberText Rounding

variable {d : Deps} {cfg : ApiConfig} {req : Request} {w w' : World} {id : String}

/-! ## The setters -/

/-- A calibration value: its field in the body, its letter and its decimals. -/
structure CalibrationCode where
  key : String
  which : Char
  decimals : Nat

/-- The four values, in the order of the handler. -/
def calibrationCodes : List CalibrationCode :=
  [⟨"light_offset", '5', 2⟩, ⟨"light_temp", '6', 2⟩, ⟨"dark_period", '7', 3⟩, ⟨"dark_temp", '8', 2⟩]

/-- The setter of the value. -/
def CalibrationCode.setter (d : Deps) (code : CalibrationCode) :
    String × (SqmDevice → ℚ → Act CalSetEcho) :=
  (code.key, fun dev value => dev.setCalValue d code.which value code.decimals)

/-- The handler's setters are those of the four values. -/
theorem calibrationSetters_eq :
    calibrationSetters d = calibrationCodes.map (CalibrationCode.setter d) := rfl

/-- The number that the body has for a setter. -/
def CalibrationCode.value? (code : CalibrationCode) (body : Json) : Option ℚ :=
  match body.member? code.key with
  | some (.int i) => some i
  | some (.dbl q) => some q
  | _ => none

/-- A number in the body is the value. -/
theorem value?_of_number {code : CalibrationCode} {body v : Json} {q : ℚ}
    (hmember : body.member? code.key = some v) (hq : v.getDouble = .ok q) : code.value? body =
        some q := by
  unfold CalibrationCode.value?
  rw [hmember]
  cases v with
  | int i =>
    cases hq
    rfl
  | dbl x =>
    cases hq
    rfl
  | _ => cases hq

/-- `apply` sends the number on, if there is one. -/
theorem applySetter_eq (code : CalibrationCode) (body : Json) (dev : SqmDevice) :
    applySetter body dev (code.setter d) = match code.value? body with
      | some q => do
        let _ ← dev.setCalValue d code.which q code.decimals
        return " " ++ code.key
      | none => return "" := by
  unfold applySetter CalibrationCode.value? CalibrationCode.setter
  dsimp only
  cases body.member? code.key with
  | none => rfl
  | some v => cases v <;> rfl

/-! ## One command -/

/-- What a turn leaves in the log of what was sent. -/
def sentCommand (turn : DeviceTurn) (address cmd : String) : List Effect :=
  if turn.received then [.command address cmd] else []

/-- The digit that an answer echoes, if it is the echo of a setter. -/
def echoOf (d : Deps) (turn : DeviceTurn) : Option Char := do
  let line ← turn.answer.toOption
  let e ← (d.codec.parseCalSetEcho line).toOption
  return e.which

/-- The device answers with an echo of the letter. -/
def Echoes (d : Deps) (which : Char) (turn : DeviceTurn) : Prop := echoOf d turn = some which

instance (d : Deps) (which : Char) (turn : DeviceTurn) : Decidable (Echoes d which turn) :=
  inferInstanceAs (Decidable (echoOf d turn = some which))

/-- A query takes one answer of the device, if there is one left. -/
theorem meets_queryRaw {dev : SqmDevice} {cmd : String} {Q : String → World → Prop}
    {E : String → World → Prop} (hnone : w.turns = [] → ∀ e, E e w)
    (hturn : ∀ turn rest, w.turns = turn :: rest →
      match turn.answer with
      | .ok line =>
          Q line { w with turns := rest, effects := w.effects ++ sentCommand turn dev.address cmd }
      | .error e =>
          E e { w with turns := rest, effects := w.effects ++ sentCommand turn dev.address cmd }) :
    Meets (dev.queryRaw cmd) w Q E := by
  unfold Meets SqmDevice.queryRaw
  cases hturns : w.turns with
  | nil => exact hnone hturns _
  | cons turn rest =>
    have h := hturn turn rest hturns
    have heffects : (if turn.received then w.effects ++ [.command dev.address cmd] else w.effects)
        = w.effects ++ sentCommand turn dev.address cmd := by
      unfold sentCommand
      split
      · rfl
      · exact (List.append_nil _).symm
    dsimp only
    rw [heffects]
    cases hanswer : turn.answer with
    | ok line =>
      rw [hanswer] at h
      exact h
    | error e =>
      rw [hanswer] at h
      exact h

/-- A setter that returns has been echoed; one that throws has not. -/
theorem meets_setCalValue {dev : SqmDevice} {which : Char} {value : ℚ} {decimals : Nat}
    {Q : CalSetEcho → World → Prop} {E : String → World → Prop} (hnone : w.turns = [] → ∀ e, E e w)
    (hechoed : ∀ turn rest, w.turns = turn :: rest → Echoes d which turn → ∀ e, Q e
      { w with turns := rest
               effects := w.effects ++
                 sentCommand turn dev.address (d.codec.formatCalValue which value decimals) })
    (hfailed : ∀ turn rest, w.turns = turn :: rest → ¬Echoes d which turn → ∀ e, E e
      { w with turns := rest
               effects := w.effects ++
                 sentCommand turn dev.address (d.codec.formatCalValue which value decimals) }) :
    Meets (dev.setCalValue d which value decimals) w Q E := by
  unfold SqmDevice.setCalValue
  unfold Echoes echoOf at hechoed hfailed
  simp only [meets_bind]
  refine meets_queryRaw hnone fun turn rest hturns => ?_
  have hechoed := hechoed turn rest hturns
  have hfailed := hfailed turn rest hturns
  generalize turn.answer = answer at hechoed hfailed ⊢
  cases answer with
  | error e =>
    refine hfailed (fun hecho => ?_) e
    cases hecho
  | ok line =>
    simp only [Except.toOption, Option.bind_eq_bind, Option.bind_some] at hechoed hfailed
    dsimp only
    rw [meets_liftExcept]
    generalize d.codec.parseCalSetEcho line = echo at hechoed hfailed ⊢
    refine ⟨fun e he => ?_, fun msg hmsg => ?_⟩
    · rw [he] at hechoed hfailed
      simp only [Option.bind_some, Option.pure_def, Option.some.injEq] at hechoed hfailed
      simp only [meets_bind, meets_ite, meets_throw, meets_pure]
      exact ⟨fun hne => hfailed hne _, fun heq => hechoed (not_not.mp heq) e⟩
    · rw [hmsg] at hfailed
      refine hfailed (fun hecho => ?_) msg
      cases hecho

/-! ## The command is well formed -/

/-- `zcal`, the digit, eleven characters that denote the number to the decimals of the setter,
and `x`. -/
def WellFormed (code : CalibrationCode) (q : ℚ) (cmd : String) : Prop :=
  ∃ n : Numeral, cmd.toList = "zcal".toList ++ code.which :: (n.text ++ ['x']) ∧ n.text.length = 11 ∧
    n.value = toDecimals code.decimals q

/-- The whole part of the rounded number, and its sign, have room in front of the point. -/
def FitsField (decimals : Nat) (q : ℚ) : Prop :=
  |toDecimals decimals q| < 10 ^ (10 - decimals - signPlaces false q)

/-- The command is well formed exactly when the value fits its field. -/
theorem wellFormed_iff {code : CalibrationCode} (hcode : code ∈ calibrationCodes) (q : ℚ) :
    WellFormed code q (Protocol.codec.formatCalValue code.which q code.decimals) ↔
      FitsField code.decimals q := by
  have hdecimals : code.decimals = 2 ∨ code.decimals = 3 := by
    simp only [calibrationCodes, List.mem_cons, List.not_mem_nil, or_false] at hcode
    rcases hcode with rfl | rfl | rfl | rfl <;> simp
  have hsign : signPlaces false q ≤ 1 := by
    unfold signPlaces
    split
    · exact le_rfl
    · exact Nat.zero_le 1
  have hlength : (printfFixed false 11 code.decimals q).length = 11 ↔ FitsField code.decimals q :=
    printfFixed_length (by omega) (by omega) (by omega)
  rw [← hlength]
  unfold WellFormed Protocol.codec Protocol.calCommand Protocol.snprintf
  dsimp only
  rw [String.toList_ofList]
  constructor
  · rintro ⟨n, htext, heleven, -⟩
    have hcounts := congrArg List.length htext
    simp only [List.length_take, List.length_append, List.length_cons, List.length_nil, heleven,
      String.length_toList] at hcounts
    have hzcal : "zcal".length = 4 := rfl
    omega
  · intro heleven
    obtain ⟨n, htext, hvalue⟩ := @printfFixed_numeral false 11 code.decimals q (by omega)
    simp only [Bool.false_eq_true, and_false, if_false, List.nil_append] at htext
    rw [htext] at heleven ⊢
    refine ⟨n, List.take_of_length_le ?_, heleven, hvalue⟩
    simp only [List.length_append, List.length_cons, List.length_nil, heleven, String.length_toList]
    decide

/-- What `apply` sends, where it sends anything. -/
theorem applySetter_sends {code : CalibrationCode} {body : Json} {q : ℚ} {dev : SqmDevice}
    (hq : code.value? body = some q) :
    ∃ turns, (endState (applySetter body dev (code.setter d) w)).effects = w.effects ++ turns ∧
      ∀ address cmd, Effect.command address cmd ∈ turns →
        cmd = d.codec.formatCalValue code.which q code.decimals := by
  rw [applySetter_eq, hq]
  have hsent : ∀ (turn : DeviceTurn) address cmd,
      Effect.command address cmd ∈
        sentCommand turn dev.address (d.codec.formatCalValue code.which q code.decimals) →
      cmd = d.codec.formatCalValue code.which q code.decimals := by
    intro turn address cmd hcmd
    unfold sentCommand at hcmd
    split at hcmd
    · cases List.mem_singleton.mp hcmd
      rfl
    · exact absurd hcmd List.not_mem_nil
  refine Meets.endState (P := fun w' : World => ∃ turns, w'.effects = w.effects ++ turns ∧
    ∀ address cmd, Effect.command address cmd ∈ turns →
      cmd = d.codec.formatCalValue code.which q code.decimals) ?_
  simp only [meets_bind, meets_pure]
  have hnone : ∀ address cmd, Effect.command address cmd ∈ ([] : List Effect) →
      cmd = d.codec.formatCalValue code.which q code.decimals :=
    fun _ _ hmem => absurd hmem List.not_mem_nil
  refine meets_setCalValue (fun _ _ => ⟨[], (List.append_nil _).symm, hnone⟩)
    (fun turn rest _ _ _ => ⟨_, rfl, hsent turn⟩) fun turn rest _ _ _ => ⟨_, rfl, hsent turn⟩

/-- The command of a setter is well formed exactly for the numbers that fit its field. -/
theorem set_command_wellFormed_iff (hcodec : d.codec.formatCalValue = Protocol.codec.formatCalValue)
    {code : CalibrationCode} (hcode : code ∈ calibrationCodes) {body v : Json} {q : ℚ}
    (hmember : body.member? code.key = some v) (hq : v.getDouble = .ok q) :
    (∀ (dev : SqmDevice) (w : World) (address cmd : String),
      Effect.command address cmd ∈
        (endState (applySetter body dev (code.setter d) w)).effects.drop w.effects.length →
      WellFormed code q cmd) ↔ FitsField code.decimals q := by
  have hvalue := value?_of_number hmember hq
  rw [← wellFormed_iff hcode]
  constructor
  · intro hall
    have hsent := hall ⟨""⟩ { turns := [{ answer := .error "" }] } ""
      (d.codec.formatCalValue code.which q code.decimals) ?_
    · rwa [hcodec] at hsent
    · rw [applySetter_eq, hvalue]
      exact List.mem_cons_self
  · intro hfits dev w address cmd hcmd
    obtain ⟨turns, heffects, hturns⟩ := @applySetter_sends d w code body q dev hvalue
    rw [heffects, List.drop_left] at hcmd
    rw [hturns address cmd hcmd, hcodec]
    exact hfits

/-- A body with one number for the light offset. -/
def offsetBody (q : ℚ) : Json := Json.ofMembers [("light_offset", .dbl q)]

def unitDeps (texts : List (String × Json)) : Deps := { Deps.plain texts with codec := Protocol.codec }

/-- An offset of -17.5 fits. -/
theorem ordinary_offset_wellFormed :
    WellFormed ⟨"light_offset", '5', 2⟩ (-175 / 10) "zcal5-0000017.50x" := by
  have hcommand : Protocol.codec.formatCalValue '5' (-175 / 10) 2 = "zcal5-0000017.50x" := by
    decide +kernel
  have hmember : (offsetBody (-175 / 10)).member? "light_offset" = some (.dbl (-175 / 10)) := rfl
  refine (set_command_wellFormed_iff (d := unitDeps []) rfl List.mem_cons_self hmember rfl).mpr ?_ ⟨""⟩
    { turns := [{ answer := .error "" }] } "" _ ?_
  · unfold FitsField
    decide +kernel
  · rw [applySetter_eq, value?_of_number rfl rfl, ← hcommand]
    exact List.mem_cons_self

/-- Eight places are left for the whole part of an offset; a billion needs ten. -/
theorem long_offset_malformed : ¬∀ (d : Deps), d.codec.formatCalValue = Protocol.codec.formatCalValue →
    ∀ code ∈ calibrationCodes, ∀ (body v : Json) (q : ℚ), body.member? code.key = some v →
      v.getDouble = .ok q → ∀ (dev : SqmDevice) (w : World) (address cmd : String),
        Effect.command address cmd ∈
          (endState (applySetter body dev (code.setter d) w)).effects.drop w.effects.length →
        WellFormed code q cmd := by
  intro h
  have hsent :=
    h (unitDeps []) rfl ⟨"light_offset", '5', 2⟩ List.mem_cons_self (offsetBody (10 ^ 9)) _ _
    rfl rfl ⟨""⟩ { turns := [{ answer := .error "" }] } "" _ (by
      rw [applySetter_eq, value?_of_number rfl rfl]
      exact List.mem_cons_self)
  have hfits := (wellFormed_iff List.mem_cons_self (10 ^ 9)).mp hsent
  unfold FitsField at hfits
  exact absurd hfits (by decide +kernel)

/-! ## All four setters -/

/-- The values that a body sets, in the order they are sent. -/
def valuesSet (body : Json) (codes : List CalibrationCode) : List (CalibrationCode × ℚ) :=
  codes.filterMap fun code => (code.value? body).map fun q => (code, q)

/-- What a setter puts into the note of the log. -/
def noteOf (body : Json) (code : CalibrationCode) : String :=
  if (code.value? body).isSome then " " ++ code.key else ""

/-- The commands that the unit receives: up to the first that is not echoed. -/
def commandsSent (d : Deps) (address : String) :
    List (CalibrationCode × ℚ) → List DeviceTurn → List Effect
  | [], _ => []
  | _ :: _, [] => []
  | (code, q) :: values, turn :: turns =>
    sentCommand turn address (d.codec.formatCalValue code.which q code.decimals) ++
      if Echoes d code.which turn then commandsSent d address values turns else []

/-- Every command is echoed. -/
def AllEchoed (d : Deps) : List (CalibrationCode × ℚ) → List DeviceTurn → Prop
  | [], _ => True
  | _ :: _, [] => False
  | (code, _) :: values, turn :: turns => Echoes d code.which turn ∧ AllEchoed d values turns

/-- The setters return the notes when every command is echoed, and throw where the first is not. -/
theorem meets_applySetters (codes : List CalibrationCode) (body : Json) (dev : SqmDevice) (w : World) :
    Meets ((codes.map (CalibrationCode.setter d)).mapM (applySetter body dev)) w
      (fun notes w' => AllEchoed d (valuesSet body codes) w.turns ∧ notes = codes.map (noteOf body) ∧
        w' = { w with turns := w.turns.drop (valuesSet body codes).length
                      effects := w.effects ++ commandsSent d dev.address (valuesSet body codes)
                          w.turns })
      fun _ w' => ¬AllEchoed d (valuesSet body codes) w.turns ∧ ∃ turns,
        w' = { w with turns := turns
                      effects := w.effects ++ commandsSent d dev.address (valuesSet body codes)
                          w.turns } := by
  -- on the setters; the first one that is not echoed ends the loop
  induction codes generalizing w with
  | nil =>
    refine ⟨trivial, rfl, ?_⟩
    simp [valuesSet, commandsSent]
  | cons code codes ih =>
    simp only [List.map_cons, List.mapM_cons, meets_bind, meets_pure]
    rw [applySetter_eq]
    cases hvalue : code.value? body with
    | none =>
      have hvalues : valuesSet body (code :: codes) = valuesSet body codes := by
        simp [valuesSet, hvalue]
      have hnote : noteOf body code = "" := by simp [noteOf, hvalue]
      rw [hvalues, hnote]
      refine (ih w).mono (fun notes w' h => ?_) fun _ _ h => h
      exact ⟨h.1, by rw [h.2.1], h.2.2⟩
    | some q =>
      have hvalues : valuesSet body (code :: codes) = (code, q) :: valuesSet body codes := by
        simp [valuesSet, hvalue]
      have hnote : noteOf body code = " " ++ code.key := by simp [noteOf, hvalue]
      rw [hvalues, hnote]
      simp only [meets_bind, meets_pure]
      refine meets_setCalValue (fun hturns _ => ?_) (fun turn rest hturns hechoed _ => ?_)
        fun turn rest hturns hfailed _ => ?_
      · rw [hturns]
        exact ⟨fun h => h, [], by simp [commandsSent, ← hturns]⟩
      · rw [hturns]
        refine (ih _).mono (fun notes w' h => ?_) fun _ w' h => ?_
        · obtain ⟨hall, rfl, rfl⟩ := h
          refine ⟨⟨hechoed, hall⟩, rfl, ?_⟩
          simp [commandsSent, hechoed]
        · obtain ⟨hnot, turns, rfl⟩ := h
          refine ⟨fun hall => hnot hall.2, turns, ?_⟩
          simp [commandsSent, hechoed]
      · rw [hturns]
        exact ⟨fun hall => hfailed hall.1, rest, by simp [commandsSent, hfailed]⟩

/-- No setter's command is received whole, up to the first that is not echoed. -/
def Unreceived (d : Deps) : List (CalibrationCode × ℚ) → List DeviceTurn → Prop
  | [], _ => True
  | _ :: _, [] => True
  | (code, _) :: values, turn :: turns =>
    turn.received = false ∧ (Echoes d code.which turn → Unreceived d values turns)

/-- No command was sent exactly when nothing was received. -/
theorem commandsSent_eq_nil {address : String} {values : List (CalibrationCode × ℚ)}
    {turns : List DeviceTurn} :
    commandsSent d address values turns = [] ↔ Unreceived d values turns := by
  induction values generalizing turns with
  | nil => simp [commandsSent, Unreceived]
  | cons value values ih =>
    cases turns with
    | nil => simp [commandsSent, Unreceived]
    | cons turn turns =>
      have hsent : ∀ cmd, sentCommand turn address cmd = [] ↔ turn.received = false := by
        intro cmd
        unfold sentCommand
        cases turn.received
        · simp
        · simp
      unfold commandsSent Unreceived
      rw [List.append_eq_nil_iff, hsent]
      refine and_congr_right fun _ => ?_
      split
      · rename_i hechoes
        rw [ih]
        exact ⟨fun h _ => h, fun h => h hechoes⟩
      · rename_i hechoes
        exact ⟨fun _ h => absurd h hechoes, fun _ => rfl⟩

/-- A command of one of the setters. -/
def IsSetter (d : Deps) (e : Effect) : Prop :=
  ∃ address, ∃ code ∈ calibrationCodes, ∃ q,
    e = .command address (d.codec.formatCalValue code.which q code.decimals)

/-- The values set are among the four. -/
theorem valuesSet_code {body : Json} {codes : List CalibrationCode} {value : CalibrationCode × ℚ}
    (h : value ∈ valuesSet body codes) : value.1 ∈ codes := by
  obtain ⟨code, hcode, hvalue⟩ := List.mem_filterMap.mp h
  obtain ⟨q, -, rfl⟩ := Option.map_eq_some_iff.mp hvalue
  exact hcode

/-- All commands sent are setters. -/
theorem commandsSent_setters {address : String} {values : List (CalibrationCode × ℚ)}
    {turns : List DeviceTurn}
    (hvalues : ∀ value ∈ values, value.1 ∈ calibrationCodes) :
    ∀ e ∈ commandsSent d address values turns, IsSetter d e := by
  induction values generalizing turns with
  | nil => exact fun e he => absurd he List.not_mem_nil
  | cons value values ih =>
    obtain ⟨code, q⟩ := value
    have hcode := hvalues _ List.mem_cons_self
    cases turns with
    | nil => exact fun e he => absurd he List.not_mem_nil
    | cons turn turns =>
      intro e he
      unfold commandsSent at he
      rcases List.mem_append.mp he with hsent | hrest
      · unfold sentCommand at hsent
        split at hsent
        · exact ⟨address, code, hcode, q, List.mem_singleton.mp hsent⟩
        · exact absurd hsent List.not_mem_nil
      · split at hrest
        · exact ih (fun value h => hvalues value (List.mem_cons_of_mem _ h)) e hrest
        · exact absurd hrest List.not_mem_nil

/-- Reading the calibration back is no command of a setter. -/
theorem cx_not_setter (hcodec : d.codec.formatCalValue = Protocol.codec.formatCalValue)
    {address : String} :
    ¬IsSetter d (.command address "cx") := by
  rintro ⟨address', code, -, q, h⟩
  rw [hcodec] at h
  have htext := congrArg String.toList (Effect.command.inj h).2
  unfold Protocol.codec Protocol.calCommand Protocol.snprintf at htext
  simp only [String.toList_ofList] at htext
  have hhead : some 'c' = some 'z' := congrArg List.head? htext
  exact absurd hhead (by decide)

/-! ## The handler -/

/-- The note of the log entry. -/
def setNote (body : Json) : String := "manual set:" ++ String.join (calibrationCodes.map (noteOf body))

/-- Texts joined are empty when each is. -/
theorem join_eq_empty {texts : List String} : String.join texts = "" ↔ ∀ s ∈ texts, s = "" := by
  induction texts with
  | nil => exact ⟨fun _ s hs => absurd hs List.not_mem_nil, fun _ => rfl⟩
  | cons s texts ih =>
    rw [String.join_cons, String.append_eq_empty_iff, ih, List.forall_mem_cons]

/-- The note says whether there was anything to set. -/
theorem setNote_iff {body : Json} :
    setNote body = "manual set:" ↔ valuesSet body calibrationCodes = [] := by
  unfold setNote
  rw [String.append_eq_left_iff, join_eq_empty, List.forall_mem_map]
  unfold valuesSet
  rw [List.filterMap_eq_nil_iff]
  refine forall₂_congr fun code _ => ?_
  unfold noteOf
  cases code.value? body with
  | none => simp
  | some q => simp

/-- A request that gets as far as the device. -/
structure Reached (d : Deps) (cfg : ApiConfig) (req : Request) (w : World) (id : String) (body : Json)
    (s : SensorRow) : Prop where
  admin : HasAdmin d cfg req w
  parsed : d.json.parse req.body = some body
  answered : Answered cfg req w 2
  found : (w.db.sensors.find? fun r => d.server.same r.id id) = some s
  opened : w.opens.head? = some (.ok ())

/-- The entry of the log, with the caller's name looked up first. -/
def recordSet (d : Deps) (cfg : ApiConfig) (req : Request) (s : SensorRow) (c : Calibration)
    (note : String) :
    Act Unit := do
  insertCalibration d.server s.id c "" .configChange (← authUser d cfg req) note

/-- The insert of the entry succeeds when it is tried, with any calibration that the unit answers,
and puts it under the id of the sensor. -/
structure InsertSucceeds (d : Deps) (cfg : ApiConfig) (req : Request) (w : World)
    (id : String) : Prop where
  stored : ∀ body s, Reached d cfg req w id body s → ∀ turn ∈ w.turns, ∀ line c,
      turn.answer = .ok line →
    d.codec.parseCalibration line = .ok c → ∀ v : World, v.db = w.db → v.now = w.now →
      v.dbFaults = w.dbFaults.drop (gateCalls cfg req + authCalls cfg req + 2) →
      ∃ v', recordSet d cfg req s c (setNote body) v = .ok () v'
  id : ∀ s ∈ w.db.sensors, d.server.storeText (.varchar 32) s.id = some s.id

/-- The log has a new row for the sensor. -/
def Logged (d : Deps) (id : String) (w w' : World) : Prop :=
  ∃ row ∈ w'.db.configLog.drop w.db.configLog.length, d.server.same row.sensorId id = true

/-- The unit answers the reading of its calibration. -/
def CalibrationRead (d : Deps) (turns : List DeviceTurn) : Prop :=
  ∃ turn line c, turns.head? = some turn ∧ turn.answer = .ok line ∧
      d.codec.parseCalibration line = .ok c

/-- `auth_user` only makes calls. -/
theorem meets_authUser {E : String → World → Prop} {Q : String → World → Prop}
    (h : ∀ who fs, Q who (w.withFaults fs)) : Meets (authUser d cfg req) w Q E := by
  unfold authUser
  by_cases htoken : presentsToken cfg req = true
  · rw [if_pos htoken]
    exact h _ _
  · rw [if_neg htoken]
    simp only [meets_bind, meets_pure]
    exact meets_sessionInfo (fun fs => h _ fs) fun fs => h _ fs

/-- The device opens, or throws and nothing more. -/
theorem meets_openDevice {transport : Transport} {address : String} {Q : SqmDevice → World → Prop}
    {E : String → World → Prop}
    (hok : w.opens.head? = some (.ok ()) → ∀ rest, Q ⟨address⟩ { w with opens := rest })
    (herr : w.opens.head? ≠ some (.ok ()) → ∀ e rest, E e { w with opens := rest }) :
    Meets (openDevice (SqlEnum.text transport) address) w Q E := by
  have hknown : ¬(SqlEnum.text transport ≠ "tcp" ∧ SqlEnum.text transport ≠ "serial") := by
    cases transport <;> decide
  unfold Meets openDevice
  rw [if_neg hknown]
  match hopens : w.opens with
  | [] => exact herr (by rw [hopens]; exact nofun) _ w.opens
  | .error e :: rest => exact herr (by rw [hopens]; exact nofun) _ rest
  | .ok () :: rest => exact hok (by rw [hopens]; rfl) rest

/-- The entry in the log, when it goes through. -/
theorem recordSet_logged {s : SensorRow} {c : Calibration} {note : String} {v v' : World}
    (hid : d.server.storeText (.varchar 32) s.id = some s.id)
    (h : recordSet d cfg req s c note v = .ok () v') :
    ∃ row, v'.db.configLog = v.db.configLog ++ [row] ∧ row.sensorId = s.id ∧
        v'.effects = v.effects := by
  refine Meets.of_ok (Q := fun _ v' => ∃ row, v'.db.configLog = v.db.configLog ++ [row] ∧
    row.sensorId = s.id ∧ v'.effects = v.effects) (E := fun _ _ => True) ?_ h
  unfold recordSet
  rw [meets_bind]
  refine meets_authUser fun who fs => ?_
  rw [insertCalibration_eq]
  refine meets_statement (fun _ db' fs' hdone => ?_) fun _ _ => trivial
  obtain ⟨row, hrow, hdb⟩ := Option.map_eq_some_iff.mp hdone
  obtain ⟨-, rfl⟩ := Prod.mk.inj hdb
  exact ⟨row, rfl, (Option.some.inj (hid.symm.trans (calibrationRow_some hrow).1)).symm, rfl⟩

/-- What setting a calibration leaves behind. -/
def SetOutcome (d : Deps) (cfg : ApiConfig) (req : Request) (w : World) (id : String)
    (w' : World) : Prop :=
  (∃ body s, Reached d cfg req w id body s ∧ ∃ more,
    w'.effects = w.effects ++ commandsSent d s.address (valuesSet body calibrationCodes)
        w.turns ++ more ∧
    (∀ e ∈ more, e = .command s.address "cx") ∧
    ((AllEchoed d (valuesSet body calibrationCodes) w.turns ∧
        CalibrationRead d (w.turns.drop (valuesSet body calibrationCodes).length) ∧ Logged d id w w') ∨
      ((valuesSet body calibrationCodes = [] ∨ ¬AllEchoed d (valuesSet body calibrationCodes) w.turns ∨
        ¬CalibrationRead d (w.turns.drop (valuesSet body calibrationCodes).length)) ∧ w'.db = w.db))) ∨
  (∀ body s, ¬Reached d cfg req w id body s) ∧ w'.db = w.db ∧ w'.effects = w.effects

/-- The world in which the device has been opened. -/
def openedWorld (cfg : ApiConfig) (req : Request) (w : World)
    (rest : List (Except String Unit)) : World :=
  { w with dbFaults := w.dbFaults.drop (gateCalls cfg req + authCalls cfg req + 2), opens := rest }

/-- What reading the calibration back and recording it leaves behind. -/
def ReadOutcome (d : Deps) (s : SensorRow) (v v' : World) : Prop :=
  ∃ more, v'.effects = v.effects ++ more ∧ (∀ e ∈ more, e = .command s.address "cx") ∧
    ((CalibrationRead d v.turns ∧ ∃ row, v'.db.configLog = v.db.configLog ++ [row] ∧
        row.sensorId = s.id) ∨
      (¬CalibrationRead d v.turns ∧ v'.db = v.db))

/-- Reading the calibration sends `cx` and nothing else. -/
theorem sentCommand_cx (turn : DeviceTurn) (address : String) :
    ∀ e ∈ sentCommand turn address "cx", e = .command address "cx" := by
  intro e he
  unfold sentCommand at he
  split at he
  · exact List.mem_singleton.mp he
  · exact absurd he List.not_mem_nil

/-- With the values set the calibration is read and logged, or the error is thrown. -/
theorem meets_readAndRecord {s : SensorRow} {note : String} {v : World}
    (hinsert : ∀ turn ∈ v.turns, ∀ line c, turn.answer = .ok line →
        d.codec.parseCalibration line = .ok c →
      ∀ turns effects, ∃ v',
        recordSet d cfg req s c note { v with turns := turns, effects := effects } = .ok () v')
    (hid : d.server.storeText (.varchar 32) s.id = some s.id) :
    Meets (do
      let c ← SqmDevice.calibration d ⟨s.address⟩
      insertCalibration d.server s.id c "" .configChange (← authUser d cfg req) note
      return send 200 (calJson c)) v (fun _ v' => ReadOutcome d s v v') fun _ v' =>
        ReadOutcome d s v v' := by
  unfold SqmDevice.calibration
  simp only [meets_bind]
  -- the device has no answer left, or its next answer decides
  refine meets_queryRaw (fun hturns _ => ?_) fun turn turns hturns => ?_
  · refine ⟨[], (List.append_nil _).symm, fun e he => absurd he List.not_mem_nil, Or.inr ⟨?_, rfl⟩⟩
    rw [hturns]
    rintro ⟨_, _, _, hhead, -⟩
    cases hhead
  · have hmem : turn ∈ v.turns := hturns ▸ List.mem_cons_self
    unfold ReadOutcome
    rw [hturns]
    cases hanswer : turn.answer with
    -- it did not answer
    | error e =>
      refine ⟨_, rfl, sentCommand_cx turn s.address, Or.inr ⟨?_, rfl⟩⟩
      rintro ⟨_, line, _, hhead, hline, -⟩
      cases hhead
      rw [hanswer] at hline
      cases hline
    -- the line is a calibration and is logged, or it is not and the error is thrown
    | ok line =>
      dsimp only
      rw [meets_liftExcept]
      refine ⟨fun c hc => ?_, fun e he => ⟨_, rfl, sentCommand_cx turn s.address, Or.inr ⟨?_, rfl⟩⟩⟩
      · obtain ⟨v', hv'⟩ := hinsert turn hmem line c hanswer hc turns
          (v.effects ++ sentCommand turn s.address "cx")
        obtain ⟨row, hlog, hrow, heffects⟩ := recordSet_logged hid hv'
        have hrecord : Meets (recordSet d cfg req s c note)
            { v with turns := turns, effects := v.effects ++ sentCommand turn s.address "cx" }
            (fun _ v₁ => v₁ = v') fun _ _ => False := by
          unfold Meets
          rw [hv']
        unfold recordSet at hrecord
        rw [meets_bind] at hrecord
        refine hrecord.mono (fun who v₁ hv₁ => ?_) fun _ _ hv => hv.elim
        refine hv₁.mono (fun _ v₂ hv₂ => ?_) fun _ _ hv => hv.elim
        subst hv₂
        exact ⟨_, heffects, sentCommand_cx turn s.address,
          Or.inl ⟨⟨turn, line, c, rfl, hanswer, hc⟩, row, hlog, hrow⟩⟩
      · rintro ⟨_, line', c, hhead, hline, hc⟩
        cases hhead
        obtain rfl := Except.ok.inj (hanswer.symm.trans hline)
        rw [he] at hc
        cases hc

/-- From the device on: the commands, the reading back, and the entry in the log. -/
theorem meets_setAndRecord {body : Json} {s : SensorRow} {rest : List (Except String Unit)}
    (hinsert : InsertSucceeds d cfg req w id) (h : Reached d cfg req w id body s) :
    Meets (do
      let notes ← (calibrationSetters d).mapM (applySetter body ⟨s.address⟩)
      let note := "manual set:" ++ String.join notes
      if note = "manual set:" then
        return sendErr 400 "no calibration fields to set"
      let c ← SqmDevice.calibration d ⟨s.address⟩
      insertCalibration d.server s.id c "" .configChange (← authUser d cfg req) note
      return send 200 (calJson c)) (openedWorld cfg req w rest)
      (fun _ w' => SetOutcome d cfg req w id w') fun _ w' => SetOutcome d cfg req w id w' := by
  have hthere : s ∈ w.db.sensors := List.mem_of_find?_eq_some h.found
  have hsame : d.server.same s.id id = true := by
    have hfound := List.find?_some h.found
    exact hfound
  have hnone : ∀ e ∈ ([] : List Effect), e = .command s.address "cx" :=
    fun e he => absurd he List.not_mem_nil
  rw [meets_bind]
  refine (meets_applySetters calibrationCodes body ⟨s.address⟩ (openedWorld cfg req w rest)).mono
    (fun notes w₁ hset => ?_) fun _ w₁ hset => ?_
  · obtain ⟨hechoed, rfl, rfl⟩ := hset
    change Meets (if setNote body = "manual set:" then _ else _) _ _ _
    rw [meets_ite, setNote_iff]
    refine ⟨fun hnothing => ?_, fun hsome => ?_⟩
    · exact Or.inl ⟨body, s, h, [], (List.append_nil _).symm, hnone, Or.inr ⟨Or.inl hnothing, rfl⟩⟩
    -- with all values set it depends on the reading that follows
    · have hread : ∀ v v', v.db = w.db →
          v.turns = w.turns.drop (valuesSet body calibrationCodes).length →
          v.effects = w.effects ++ commandsSent d s.address (valuesSet body calibrationCodes) w.turns →
          ReadOutcome d s v v' → SetOutcome d cfg req w id v' := by
        rintro v v' hdb hturns hsent ⟨more, heffects, hmore, hcase⟩
        rw [hdb, hturns] at hcase
        rw [hsent] at heffects
        refine Or.inl ⟨body, s, h, more, heffects, hmore, ?_⟩
        rcases hcase with ⟨hread, row, hlog, hrow⟩ | ⟨hunread, hdb⟩
        · refine Or.inl ⟨hechoed, hread, row, ?_, hrow ▸ hsame⟩
          rw [hlog, List.drop_left]
          exact List.mem_cons_self
        · exact Or.inr ⟨Or.inr (Or.inr hunread), hdb⟩
      refine (meets_readAndRecord (fun turn hturn line c hanswer hc turns effects => ?_)
        (hinsert.id s hthere)).mono (fun _ _ => hread _ _ rfl rfl rfl) fun _ _ => hread _ _ rfl rfl rfl
      exact hinsert.stored body s h turn (List.mem_of_mem_drop hturn) line c hanswer hc _ rfl rfl rfl
  · obtain ⟨hfailed, turns, rfl⟩ := hset
    exact Or.inl ⟨body, s, h, [], (List.append_nil _).symm, hnone,
        Or.inr ⟨Or.inr (Or.inl hfailed), rfl⟩⟩

/-- Every request to set a calibration, from the gate on. -/
theorem serve_setCalibration (hroute : route req = some (.setCalibration id))
    (hinsert : InsertSucceeds d cfg req w id) :
    Meets (serve d cfg req) w (fun _ w' => SetOutcome d cfg req w id w') fun _ _ => False := by
  have hweb : webFile cfg req = none := webFile_none hroute (by simp [Endpoint.readsOnly])
  unfold serve
  simp only [meets_tryCatch, meets_bind]
  -- the device is reached: every call up to it was answered
  by_cases hreached : ∃ body s, Reached d cfg req w id body s
  · obtain ⟨body, s, h⟩ := hreached
    have hclean : ∀ n ≤ gateCalls cfg req + authCalls cfg req + 2, Clean n w.dbFaults :=
      fun n hn i hi => h.answered i (by omega)
    refine (meets_gate_admits (hclean _ (by omega)) fun _ => ?_).mono (fun refusal v hv => ?_)
      fun _ _ hv => hv.elim
    · exact h.admin.isKnown
    · obtain ⟨rfl, rfl⟩ := hv
      rw [hweb, hroute]
      show Meets (setCalibration d cfg req id) _ _ _
      unfold setCalibration adminOnly withBody withDevice orError
      rw [h.parsed, meets_bind]
      refine (meets_requireAuth_admits (k := gateCalls cfg req) rfl (hclean _ (by omega)) ?_).mono
        (fun refusal v hv => ?_) fun _ _ hv => hv.elim
      · exact h.admin.mayDo true
      · obtain ⟨rfl, rfl⟩ := hv
        rw [meets_tryCatch, meets_bind]
        refine meets_connect_answered rfl (hclean _ (by omega)) ?_
        rw [meets_bind]
        refine meets_select_answered rfl (hclean _ le_rfl) ?_
        simp only [World.withFaults, admitted]
        rw [h.found]
        dsimp only
        rw [meets_bind]
        refine meets_openDevice (fun _ rest => ?_) fun hclosed => absurd h.opened hclosed
        exact (meets_setAndRecord hinsert h).mono (fun _ _ hout => hout) fun _ _ hout => hout
  -- otherwise the request ends before a command is sent
  · have hnone : ∀ body s, ¬Reached d cfg req w id body s := fun body s h => hreached ⟨body, s, h⟩
    have huntouched : ∀ {w' : World}, w'.db = w.db → w'.effects = w.effects →
        SetOutcome d cfg req w id w' :=
      fun hdb heffects => Or.inr ⟨hnone, hdb, heffects⟩
    refine meets_gate_at (fun hclean => ?_) fun _ _ => huntouched rfl rfl
    rw [hweb, hroute]
    show Meets (setCalibration d cfg req id) _ _ _
    refine meets_adminOnly_at rfl hclean (fun hclean hadmin => ?_) fun _ _ => huntouched rfl rfl
    unfold withBody
    cases hbody : d.json.parse req.body with
    | none => exact huntouched rfl rfl
    | some body =>
      unfold withDevice orError
      simp only [meets_tryCatch]
      rw [meets_bind]
      refine meets_connect_at rfl hclean (fun hclean => ?_) fun _ _ => huntouched rfl rfl
      rw [meets_bind]
      refine meets_select_at rfl hclean (fun hclean => ?_) fun _ _ _ => huntouched rfl rfl
      simp only [World.withFaults]
      cases hfound : w.db.sensors.find? fun r => d.server.same r.id id with
      | none => exact huntouched rfl rfl
      | some s =>
        dsimp only
        rw [meets_bind]
        refine meets_openDevice (fun hopened => ?_) fun _ _ _ => huntouched rfl rfl
        exact absurd ⟨hadmin, hbody, hclean, hfound, hopened⟩ (hnone body s)

/-! ## Which changes are logged -/

/-- A setter took effect on a unit: it received the command whole. -/
def TookEffect (d : Deps) (w w' : World) : Prop := ∃ e ∈ w'.effects.drop w.effects.length, IsSetter d e

/-- If the request reaches the device, no command takes effect up to the first that is not echoed,
or all are echoed and the unit then answers with its calibration. -/
def SetConfirmed (d : Deps) (cfg : ApiConfig) (req : Request) (w : World) (id : String) : Prop :=
  ∀ body s, Reached d cfg req w id body s →
    Unreceived d (valuesSet body calibrationCodes) w.turns ∨
      (AllEchoed d (valuesSet body calibrationCodes) w.turns ∧
        CalibrationRead d (w.turns.drop (valuesSet body calibrationCodes).length))

/-- Whether a setter takes effect, for a request that reaches the device. -/
theorem tookEffect_iff {body : Json} {s : SensorRow} {more : List Effect}
    (hcodec : d.codec.formatCalValue = Protocol.codec.formatCalValue)
    (heffects : w'.effects
      = w.effects ++ commandsSent d s.address (valuesSet body calibrationCodes) w.turns ++ more)
    (hmore : ∀ e ∈ more, e = .command s.address "cx") :
    TookEffect d w w' ↔ ¬Unreceived d (valuesSet body calibrationCodes) w.turns := by
  unfold TookEffect
  rw [heffects, List.append_assoc, List.drop_left, ← @commandsSent_eq_nil d s.address]
  constructor
  · rintro ⟨e, he, hsetter⟩ hnil
    rw [hnil] at he
    have hcx := hmore e he
    subst hcx
    exact cx_not_setter hcodec hsetter
  · intro hsome
    obtain ⟨e, he⟩ := List.exists_mem_of_ne_nil _ hsome
    exact ⟨e, List.mem_append_left _ he, commandsSent_setters (fun value hv => valuesSet_code hv) e he⟩

/-- Where the database stays nothing is logged. -/
theorem not_logged (hdb : w'.db = w.db) : ¬Logged d id w w' := by
  rintro ⟨row, hrow, -⟩
  rw [hdb, List.drop_length] at hrow
  exact absurd hrow List.not_mem_nil

/-- A request that reaches the device takes effect exactly when a setter's command was received. -/
theorem serve_tookEffect_iff (hcodec : d.codec.formatCalValue = Protocol.codec.formatCalValue)
    (hroute : route req = some (.setCalibration id)) (hinsert : InsertSucceeds d cfg req w id)
    {body : Json} {s : SensorRow} (h : Reached d cfg req w id body s) :
    TookEffect d w (endState (serve d cfg req w)) ↔
        ¬Unreceived d (valuesSet body calibrationCodes) w.turns := by
  obtain ⟨res, w', hserve, hcase⟩ := (serve_setCalibration hroute hinsert).returns
  rw [hserve]
  dsimp only [endState]
  rcases hcase with ⟨body', s', h', more, heffects, hmore, -⟩ | ⟨hnone, -, -⟩
  · obtain rfl := Option.some.inj (h.parsed.symm.trans h'.parsed)
    exact tookEffect_iff hcodec heffects hmore
  · exact absurd h (hnone body s)

/-- Nothing is logged when an echo is missing. -/
theorem unechoed_unlogged (hroute : route req = some (.setCalibration id))
    (hinsert : InsertSucceeds d cfg req w id) {body : Json} {s : SensorRow}
    (h : Reached d cfg req w id body s)
    (hfailed : ¬AllEchoed d (valuesSet body calibrationCodes) w.turns) :
    ¬Logged d id w (endState (serve d cfg req w)) := by
  obtain ⟨res, w', hserve, hcase⟩ := (serve_setCalibration hroute hinsert).returns
  rw [hserve]
  dsimp only [endState]
  rcases hcase with ⟨body', s', h', more, -, -, hcase⟩ | ⟨hnone, -, -⟩
  · obtain rfl := Option.some.inj (h.parsed.symm.trans h'.parsed)
    rcases hcase with ⟨hechoed, -⟩ | ⟨-, hdb⟩
    · exact absurd hechoed hfailed
    · exact not_logged hdb
  · exact absurd h (hnone body s)

/-- A change of a unit's calibration is logged exactly where no command takes effect or every
answer comes and is understood. -/
theorem change_logged_iff (hcodec : d.codec.formatCalValue = Protocol.codec.formatCalValue)
    (hroute : route req = some (.setCalibration id)) (hinsert : InsertSucceeds d cfg req w id) :
    (TookEffect d w (endState (serve d cfg req w)) → Logged d id w (endState (serve d cfg req w))) ↔
      SetConfirmed d cfg req w id := by
  obtain ⟨res, w', hserve, hcase⟩ := (serve_setCalibration hroute hinsert).returns
  rw [hserve]
  dsimp only [endState]
  rcases hcase with ⟨body, s, h, more, heffects, hmore, hcase⟩ | ⟨hnone, -, heffects⟩
  · have hone : SetConfirmed d cfg req w id ↔
        (Unreceived d (valuesSet body calibrationCodes) w.turns ∨
          (AllEchoed d (valuesSet body calibrationCodes) w.turns ∧
            CalibrationRead d (w.turns.drop (valuesSet body calibrationCodes).length))) := by
      refine ⟨fun hall => hall body s h, fun hthis body' s' h' => ?_⟩
      obtain rfl := Option.some.inj (h.parsed.symm.trans h'.parsed)
      exact hthis
    rw [tookEffect_iff hcodec heffects hmore, hone]
    rcases hcase with ⟨hechoed, hread, hlogged⟩ | ⟨hunread, hdb⟩
    · exact ⟨fun _ => Or.inr ⟨hechoed, hread⟩, fun _ _ => hlogged⟩
    · constructor
      · intro himp
        by_contra hnot
        rw [not_or] at hnot
        exact not_logged hdb (himp hnot.1)
      · rintro (hunreceived | ⟨hechoed, hread⟩) htook
        · exact absurd hunreceived htook
        · rcases hunread with hempty | hnot | hnot
          · rw [hempty] at htook
            exact absurd trivial htook
          · exact absurd hechoed hnot
          · exact absurd hread hnot
  · refine ⟨fun _ body s h => absurd h (hnone body s), fun _ htook => ?_⟩
    obtain ⟨e, he, -⟩ := htook
    rw [heffects, List.drop_length] at he
    exact absurd he List.not_mem_nil

/-! ### A unit that answers, and one that does not -/

def setRequest : String := "a calibration"

def setDeps : Deps := unitDeps [(setRequest, offsetBody (175 / 10))]

def setsOffset : Request where
  method := .post
  path := "/api/v1/sensors/s1/calibration/set"
  body := setRequest
  headers := [("Authorization", "t")]

def unitSite (turns : List DeviceTurn) : World := { sensorSite with opens := [.ok ()], turns := turns }

def setColumns : Protocol.CalibrationColumns :=
  ⟨1750, 0, false, 394, 871, false, 394, by decide, Protocol.exampleTime_lt, Protocol.exampleTemp_lt,
    by decide, Protocol.exampleTemp_lt⟩

def confirmingTurns : List DeviceTurn :=
  [{ answer := .ok "z,5,00000017.50" },
    { answer := .ok (String.ofList (setColumns.line ++ Protocol.lineEnd false)) }]

/-- The request sets the calibration. -/
theorem setsOffset_route : route setsOffset = some (.setCalibration "s1") := by rfl

/-- The site's server takes the log row. -/
theorem unitSite_inserts (turns : List DeviceTurn) :
    InsertSucceeds setDeps tokenConfig setsOffset (unitSite turns) "s1" where
  stored body s h turn _ line c _ _ v hdb _ hfaults := by
    have hthere : (v.db.sensors.any fun x => setDeps.server.same x.id s.id) = true := by
      rw [hdb, List.any_eq_true]
      exact ⟨s, List.mem_of_find?_eq_some h.found, by simp [Server.same]⟩
    have hrow : ∃ row, calibrationRow setDeps.server v.now v.db s.id c "" .configChange "api-token"
        (setNote body) = some row := by
      have htext : ∀ ty text, textOrNull setDeps.server ty text = some text := by
        intro ty text
        unfold textOrNull
        split
        · rename_i hempty
          rw [hempty]
        · rfl
      have hstored : ∀ ty text, setDeps.server.storeText ty text = some text := fun _ _ => rfl
      have hnumber : ∀ precision scale q, streamDecimal setDeps.server precision scale q
          = some (toSignificant 6 q) := fun _ _ _ => rfl
      have hnow : timestampOrNow setDeps.server v.now "" = some (TimeUtil.fmtSqlUtc v.now) := rfl
      unfold calibrationRow
      simp only [hstored, hthere, hnow, hnumber, htext, Option.bind_eq_bind, Option.bind_some,
        guard_true, Option.pure_def]
      exact ⟨_, rfl⟩
    obtain ⟨row, hrow⟩ := hrow
    have hdone : Meets (recordSet setDeps tokenConfig setsOffset s c (setNote body)) v
        (fun _ _ => True) fun _ _ => False := by
      unfold recordSet authUser
      rw [if_pos (by decide +kernel), meets_bind, meets_pure, insertCalibration_eq]
      refine meets_statement_head (fun _ _ _ _ _ => trivial) fun hbad _ _ => ?_
      rcases hbad with hfault | hrefused
      · rw [hfaults] at hfault
        cases hfault
      · rw [Option.map_eq_none_iff, hrow] at hrefused
        cases hrefused
    obtain ⟨_, v', hv', -⟩ := hdone.returns
    exact ⟨v', hv'⟩
  id s _ := rfl

/-- The body sets the offset only. -/
theorem offset_values : valuesSet (offsetBody (175 / 10)) calibrationCodes
    = [(⟨"light_offset", '5', 2⟩, 175 / 10)] := by rfl

/-- It is the body of the request. -/
theorem setsOffset_body {turns : List DeviceTurn} {body : Json} {s : SensorRow}
    (h : Reached setDeps tokenConfig setsOffset (unitSite turns) "s1" body s) :
    body = offsetBody (175 / 10) := by
  have hparse : setDeps.json.parse setsOffset.body = some (offsetBody (175 / 10)) := by rfl
  exact Option.some.inj (h.parsed.symm.trans hparse)

/-- The request reaches the unit. -/
theorem unitSite_reached (turns : List DeviceTurn) :
    Reached setDeps tokenConfig setsOffset (unitSite turns) "s1" (offsetBody (175 / 10))
      { id := "s1", transport := .tcp, address := "10.0.0.7", status := .inactive } where
  admin := Or.inl (by decide +kernel)
  parsed := by rfl
  answered := nofun
  found := by rfl
  opened := by rfl

/-- The command for the offset is received. -/
theorem offset_took {turn : DeviceTurn} {turns : List DeviceTurn} (h : turn.received = true) :
    TookEffect setDeps (unitSite (turn :: turns))
      (endState (serve setDeps tokenConfig setsOffset (unitSite (turn :: turns)))) := by
  refine (serve_tookEffect_iff rfl setsOffset_route (unitSite_inserts _) (unitSite_reached _)).mpr ?_
  rw [offset_values]
  intro hquiet
  have hreceived : turn.received = false := hquiet.1
  rw [h] at hreceived
  cases hreceived

/-- With an answering unit the setting is logged. -/
theorem offset_logged : Logged setDeps "s1" (unitSite confirmingTurns)
    (endState (serve setDeps tokenConfig setsOffset (unitSite confirmingTurns))) := by
  refine (change_logged_iff rfl setsOffset_route (unitSite_inserts _)).mpr (fun body s h => Or.inr ?_)
    (offset_took rfl)
  rw [setsOffset_body h, offset_values]
  have hechoes : Echoes setDeps '5' { answer := .ok "z,5,00000017.50" } := by decide +kernel
  exact ⟨⟨hechoes, trivial⟩, _, _, _, rfl, rfl, codec_parseCalibration setColumns false⟩

/-- The unit takes the value, and its echo is lost. -/
theorem silent_unit_unlogged :
    ¬∀ (d : Deps) (cfg : ApiConfig) (req : Request) (w : World) (id : String),
    d.codec.formatCalValue = Protocol.codec.formatCalValue → route req = some (.setCalibration id) →
      InsertSucceeds d cfg req w id → TookEffect d w (endState (serve d cfg req w)) →
        Logged d id w (endState (serve d cfg req w)) := by
  intro h
  have hfailed : ¬AllEchoed setDeps (valuesSet (offsetBody (175 / 10)) calibrationCodes)
      (unitSite [{ answer := .error "timed out" }]).turns := by
    rw [offset_values]
    exact fun hall => absurd hall.1 (by decide +kernel)
  exact unechoed_unlogged setsOffset_route (unitSite_inserts _) (unitSite_reached _) hfailed
    (h setDeps tokenConfig setsOffset _ "s1" rfl setsOffset_route (unitSite_inserts _)
        (offset_took rfl))

end NightWatcher.Api
