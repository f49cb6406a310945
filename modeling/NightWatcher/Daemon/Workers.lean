import NightWatcher.Export.Runner
import NightWatcher.Sqm.Device
import NightWatcher.Weather.Provider

/-!
# The worker threads of the three schedulers

A worker thread opens its own database connection and then works in cycles. What
the world is when a cycle starts is not up to the worker (the other threads and
the API write the same tables, devices come and go), so a run of a worker is
driven by its rounds: the world each cycle finds, and within what wait a stop
request arrives. An exception that leaves a worker ends the daemon
(`std::terminate`), so `Exit` tells how a worker ended.

The sensor and the weather worker are one loop (`Poller`) with different calls in
it; no call of a cycle can end it (`Poller.loop_orderly`). The export worker looks up
its sensor and, in every cycle, its target outside any `try`: it ends in an
exception exactly when one of these lookups throws
(`exportScheduler_orderly_iff`).
-/

namespace NightWatcher.Daemon

open Throwing TimeUtil Database Sqm Weather Exporter

variable (d : Deps)

/-! ## Polling workers -/

/-- What a polling worker remembers from cycle to cycle. -/
structure PollState where
  /-- the last poll succeeded -/
  up : Bool := false
  /-- the current state was logged at least once -/
  reported : Bool := false
  /-- seconds, doubles on repeated failure -/
  backoff : Int

/-- The calls a polling worker makes, and its numbers. -/
structure Poller (α : Type) where
  interval : Int
  firstBackoff : Int
  maxBackoff : Int
  acquire : Act α
  readFailed : String → Act Unit
  store : α → Act Unit
  connected : Act Unit

/-- One cycle: the new state and how long to wait. -/
def Poller.cycle {α : Type} (p : Poller α) (st : PollState) : Act (PollState × Int) := do
  match ← tryCatch (Except.ok <$> p.acquire) fun e => pure (.error e) with
  | .error e =>
    if st.up || !st.reported then
      tryCatch (p.readFailed e) fun _ => pure ()
    return ({ up := false, reported := true, backoff := min (st.backoff * 2) p.maxBackoff },
      min p.interval st.backoff)
  | .ok r =>
    -- a database error leaves the state as it was
    tryCatch (do
      p.store r
      if !st.up then
        p.connected
      return ({ up := true, reported := true, backoff := p.firstBackoff }, p.interval))
      fun _ => pure (st, p.interval)

def sensorPoller (s : SensorRow) : Poller Reading where
  interval := if 0 < s.pollIntervalS then s.pollIntervalS else 300
  firstBackoff := 2
  maxBackoff := 60
  acquire := do
    let dev ← openDevice (SqlEnum.text s.transport) s.address
    dev.readAveraged d
  readFailed e := insertEvent d.server "sqm" .warning "read_error" e s.id
  store r := do
    let quality : Quality := if r.magArcsec2 ≤ 0 then .saturated else .ok
    let _ ← insertReading d.server s.id r "" .poll quality
  connected := insertEvent d.server "sqm" .info "connect" s.address s.id

def weatherPoller (s : WeatherStationRow) (provider : IWeatherProvider) :
    Poller WeatherReadingRow where
  interval := if 0 < s.pollIntervalS then s.pollIntervalS else 300
  firstBackoff := 5
  maxBackoff := 300
  acquire := do
    let r ← provider.fetch
    return { r with stationId := s.id }
  readFailed e := insertEvent d.server "weather" .warning "fetch_error" e s.id
  store r := do
    let _ ← insertWeatherReading d.server r
  connected := insertEvent d.server "weather" .info "connect" s.provider s.id

/-- What a worker finds when a cycle starts, and whether a stop request arrives
within so many seconds of waiting after it. -/
structure Round where
  world : World
  stop : Int → Bool

/-- How a worker ended, if it did. -/
inductive Exit where
  | running
  | stopped
  /-- an export target that is no longer active -/
  | inactive
  | noDatabase
  | noProvider
  /-- an exception left the thread -/
  | escaped (e : String)

def Poller.loop {α : Type} (p : Poller α) : PollState → List Round → Exit
  | _, [] => .running
  | st, round :: rest =>
    match p.cycle st round.world with
    | .error e _ => .escaped e
    | .ok (st', waitS) _ => if round.stop waitS then .stopped else p.loop st' rest

/-- `Scheduler::worker`, from the world it connects in. -/
def Scheduler.worker (s : SensorRow) (start : World) (rounds : List Round) : Exit :=
  match ask connect start with
  | .error _ _ => .noDatabase
  | .ok _ _ => (sensorPoller d s).loop { backoff := (sensorPoller d s).firstBackoff } rounds

/-- `WeatherScheduler::worker`, from the world it connects in. -/
def WeatherScheduler.worker (s : WeatherStationRow) (start : World) (rounds : List Round) : Exit :=
  match ask connect start with
  | .error _ _ => .noDatabase
  | .ok _ w =>
    match makeProvider d s.provider s.config with
    | .error e =>
      match tryCatch (insertEvent d.server "weather" .error "config_error" e s.id)
        (fun _ => pure ()) w with
      | .error e _ => .escaped e
      | .ok _ _ => .noProvider
    | .ok provider =>
      let p := weatherPoller d s provider
      p.loop { backoff := p.firstBackoff } rounds

/-! ## The export worker -/

/-- `"HH:MM"`, 06:00 on anything malformed. -/
def parseHhmm (s : String) : Int × Int :=
  let parsed : Option (Int × Int) := do
    let (h, r) ← DecimalText.scanInt s.toList
    let r ← DecimalText.scanChar ':' r
    let (m, _) ← DecimalText.scanInt r
    return (h, m)
  match parsed with
  | some (h, m) => if h < 0 ∨ 23 < h ∨ m < 0 ∨ 59 < m then (6, 0) else (h, m)
  | none => (6, 0)

/-- How long the target's worker sleeps. -/
def exportWait (t : ExportTargetRow) (tz : String) (now : Int) : Int :=
  match t.schedule with
  | .interval =>
    match t.intervalS with
    | some s => if 0 < s then s else 3600
    | none => 3600
  | schedule =>
    let (h, m) := parseHhmm t.scheduleTime
    let next :=
      match schedule with
      | .weekly => nextLocalWeeklyUtc d.zones (t.scheduleDay.getD 0) h m tz now
      | .monthly => nextLocalMonthlyUtc d.zones (t.scheduleDay.getD 1) h m tz now
      | _ => nextLocalHhmmUtc d.zones h m tz now
    if next - now < 1 then 1 else next - now

/-- The export at the end of a cycle: run it and log the outcome. -/
def exportOnce (t : ExportTargetRow) : Act Unit :=
  tryCatch (do
    let res ← runExport d t
    if 0 < res.files then
      insertEvent d.server "export" .info "export"
        (toString res.rows ++ " reading(s), " ++ toString res.files ++ " file(s)") t.id)
    fun e => tryCatch (insertEvent d.server "export" .error "export_error" e t.id) fun _ => pure ()

/-- What the export worker finds before and after its wait. -/
structure ExportRound where
  before : World
  stop : Int → Bool
  after : World

/-- The target as a cycle finds it: a row that is active, or none. -/
def activeRow (row : Option ExportTargetRow) : Option ExportTargetRow :=
  row.filter fun t => decide (t.status = .active)

def exportLoop (t : ExportTargetRow) (tz : String) : List ExportRound → Exit
  | [] => .running
  | round :: rest =>
    match ask (findExportTarget d.server t.id) round.before with
    | .error e _ => .escaped e
    | .ok row w =>
      match activeRow row with
      | none => .inactive
      | some cur =>
        if round.stop (exportWait d cur tz w.now) then .stopped
        else
          match exportOnce d cur round.after with
          | .error e _ => .escaped e
          | .ok _ _ => exportLoop t tz rest

/-- `ExportScheduler::worker`, from the world it connects in. -/
def ExportScheduler.worker (t : ExportTargetRow) (start : World) (rounds : List ExportRound) :
    Exit :=
  match ask connect start with
  | .error _ _ => .noDatabase
  | .ok _ w =>
    match ask (findSensor d.server t.sensorId) w with
    | .error e _ => .escaped e
    | .ok sensor _ => exportLoop d t ((sensor.map SensorRow.timezone).getD "") rounds

/-! ## No exception leaves a polling worker -/

/-- A worker that ended, ended for a reason: it never got to its loop, it was asked
to stop, or its target is no longer active. -/
structure Exit.Orderly (stopAsked inactiveFound : Prop) (exit : Exit) : Prop where
  stopped : exit = .stopped → stopAsked
  inactive : exit = .inactive → inactiveFound
  contained : ∀ e, exit ≠ .escaped e

theorem Exit.Orderly.mono {P P' Q Q' : Prop} {exit : Exit} (h : exit.Orderly P Q) (hP : P → P')
    (hQ : Q → Q') : exit.Orderly P' Q' :=
  ⟨fun he => hP (h.stopped he), fun he => hQ (h.inactive he), h.contained⟩

/-- A stop request arrived in some round. -/
def StopAsked (rounds : List Round) : Prop := ∃ round ∈ rounds, ∃ waitS, round.stop waitS = true

section Polling

variable {α : Type}

theorem Poller.cycle_returns (p : Poller α) (st : PollState) : Returns (p.cycle st) := by
  unfold Poller.cycle
  refine returns_bind (returns_tryCatch fun e => returns_pure _) fun got => ?_
  cases got with
  | error e =>
    -- the event is tried only when the failure is news
    have hreport : Returns (tryCatch (p.readFailed e) fun _ => pure ()) :=
      returns_tryCatch fun _ => returns_pure _
    exact returns_ite (returns_bind hreport fun _ => returns_pure _) (returns_pure _)
  | ok r => exact returns_tryCatch fun _ => returns_pure _

/-- By induction on the rounds: a cycle returns, so only the wait can end the loop. -/
theorem Poller.loop_orderly (p : Poller α) (st : PollState) (rounds : List Round) :
    (p.loop st rounds).Orderly (StopAsked rounds) False := by
  induction rounds generalizing st with
  | nil => exact ⟨nofun, nofun, nofun⟩
  | cons round rest ih =>
    obtain ⟨⟨st', waitS⟩, w, hcycle⟩ := p.cycle_returns st round.world
    unfold Poller.loop
    rw [hcycle]
    simp only
    by_cases hstop : round.stop waitS = true
    · rw [if_pos hstop]
      exact ⟨fun _ => ⟨round, List.mem_cons_self, waitS, hstop⟩, nofun, nofun⟩
    · rw [if_neg hstop]
      refine (ih st').mono (fun h => ?_) id
      obtain ⟨round', hmem, hasked⟩ := h
      exact ⟨round', List.mem_cons_of_mem _ hmem, hasked⟩

end Polling

theorem scheduler_orderly (s : SensorRow) (start : World) (rounds : List Round) :
    (Scheduler.worker d s start rounds).Orderly (StopAsked rounds) False := by
  unfold Scheduler.worker
  split
  · exact ⟨nofun, nofun, nofun⟩
  · exact Poller.loop_orderly _ _ rounds

theorem weatherScheduler_orderly (s : WeatherStationRow) (start : World) (rounds : List Round) :
    (WeatherScheduler.worker d s start rounds).Orderly (StopAsked rounds) False := by
  unfold WeatherScheduler.worker
  cases hconnect : ask connect start with
  | error _ _ => exact ⟨nofun, nofun, nofun⟩
  | ok _ w =>
    simp only
    cases hprovider : makeProvider d s.provider s.config with
    | ok provider => exact Poller.loop_orderly _ _ rounds
    | error e =>
      -- the config is refused: an event is tried, and the worker ends before its loop
      have hlog : Returns (tryCatch (insertEvent d.server "weather" .error "config_error" e s.id)
          fun _ => pure ()) := returns_tryCatch fun _ => returns_pure _
      obtain ⟨_, _, hlog⟩ := hlog w
      simp only [hlog]
      exact ⟨nofun, nofun, nofun⟩

/-! ## The lookups of the export worker -/

theorem exportOnce_returns (t : ExportTargetRow) : Returns (exportOnce d t) :=
  returns_tryCatch fun _ => returns_tryCatch fun _ => returns_pure _

/-- A query answered in this world. -/
def Answers {α : Type} (q : Query α) (w : World) : Prop := ∃ a w', ask q w = .ok a w'

/-- The round ends with an export: the target was found active and no stop came. -/
def GoesOn (t : ExportTargetRow) (tz : String) (round : ExportRound) : Prop :=
  ∃ row w cur, ask (findExportTarget d.server t.id) round.before = .ok row w ∧
    activeRow row = some cur ∧ round.stop (exportWait d cur tz w.now) = false

/-- The lookup of the target is answered in every round the worker gets to. -/
def TargetAnswered (t : ExportTargetRow) (tz : String) (rounds : List ExportRound) : Prop :=
  ∀ done round rest, rounds = done ++ round :: rest → (∀ r ∈ done, GoesOn d t tz r) →
    Answers (findExportTarget d.server t.id) round.before

/-- A stop request arrived in some round. -/
def ExportStopAsked (rounds : List ExportRound) : Prop :=
  ∃ round ∈ rounds, ∃ waitS, round.stop waitS = true

/-- In some round the target's row was gone or not active. -/
def InactiveFound (t : ExportTargetRow) (rounds : List ExportRound) : Prop :=
  ∃ round ∈ rounds, ∃ row w, ask (findExportTarget d.server t.id) round.before = .ok row w ∧
    activeRow row = none

section Export

variable {d} {t : ExportTargetRow} {tz : String}

theorem targetAnswered_cons {round : ExportRound} {rest : List ExportRound} :
    TargetAnswered d t tz (round :: rest) ↔
      Answers (findExportTarget d.server t.id) round.before ∧
        (GoesOn d t tz round → TargetAnswered d t tz rest) := by
  constructor
  · intro h
    refine ⟨h [] round rest rfl (by simp), fun hgo done round' rest' hsplit hdone => ?_⟩
    refine h (round :: done) round' rest' (by rw [hsplit]; rfl) fun r hr => ?_
    rcases List.mem_cons.mp hr with rfl | hr
    · exact hgo
    · exact hdone r hr
  · rintro ⟨hanswers, hrest⟩ done round' rest' hsplit hdone
    cases done with
    | nil =>
      obtain ⟨rfl, -⟩ := List.cons.inj hsplit
      exact hanswers
    | cons r done =>
      obtain ⟨rfl, htail⟩ := List.cons.inj hsplit
      exact hrest (hdone round List.mem_cons_self) done round' rest' htail
        fun r hr => hdone r (List.mem_cons_of_mem _ hr)

/-- How a round goes: the lookup throws, the target is not active, a stop request
arrives, or the target is exported and the loop goes on. -/
inductive RoundOutcome (d : Deps) (t : ExportTargetRow) (tz : String) (round : ExportRound)
    (rest : List ExportRound) : Exit → Prop
  | escaped {e : String} (h : ¬Answers (findExportTarget d.server t.id) round.before) :
      RoundOutcome d t tz round rest (.escaped e)
  | inactive (h : InactiveFound d t [round]) (hgo : ¬GoesOn d t tz round) :
      RoundOutcome d t tz round rest .inactive
  | stopped (h : ∃ waitS, round.stop waitS = true) (hgo : ¬GoesOn d t tz round)
      (hanswers : Answers (findExportTarget d.server t.id) round.before) :
      RoundOutcome d t tz round rest .stopped
  | exported (hgo : GoesOn d t tz round) :
      RoundOutcome d t tz round rest (exportLoop d t tz rest)

theorem exportLoop_cons (round : ExportRound) (rest : List ExportRound) :
    RoundOutcome d t tz round rest (exportLoop d t tz (round :: rest)) := by
  unfold exportLoop
  cases hlookup : ask (findExportTarget d.server t.id) round.before with
  | error e w =>
    refine .escaped fun h => ?_
    obtain ⟨row, w', hrow⟩ := h
    rw [hlookup] at hrow
    cases hrow
  | ok row w =>
    have hgo : ∀ cur, GoesOn d t tz round → activeRow row = some cur →
        round.stop (exportWait d cur tz w.now) = false := by
      intro cur h hcur
      obtain ⟨row', w', cur', hrow', hcur', hstop⟩ := h
      rw [hlookup] at hrow'
      cases hrow'
      obtain rfl := Option.some.inj (hcur.symm.trans hcur')
      exact hstop
    simp only
    cases hactive : activeRow row with
    | none =>
      refine .inactive ⟨round, List.mem_singleton_self _, row, w, hlookup, hactive⟩ fun h => ?_
      obtain ⟨row', w', cur, hrow', hcur, -⟩ := h
      rw [hlookup] at hrow'
      cases hrow'
      rw [hactive] at hcur
      cases hcur
    | some cur =>
      simp only
      by_cases hstop : round.stop (exportWait d cur tz w.now) = true
      · rw [if_pos hstop]
        refine .stopped ⟨_, hstop⟩ (fun h => ?_) ⟨row, w, hlookup⟩
        rw [hgo cur h hactive] at hstop
        cases hstop
      · rw [if_neg hstop]
        obtain ⟨_, _, honce⟩ := exportOnce_returns d cur round.after
        simp only [honce]
        exact .exported ⟨row, w, cur, hlookup, hactive, by simpa using hstop⟩

/-- By induction on the rounds: a loop that was stopped or found its target inactive,
was asked to stop or had no active target. -/
theorem exportLoop_reasons (rounds : List ExportRound) :
    (exportLoop d t tz rounds = .stopped → ExportStopAsked rounds) ∧
      (exportLoop d t tz rounds = .inactive → InactiveFound d t rounds) := by
  induction rounds with
  | nil => exact ⟨nofun, nofun⟩
  | cons round rest ih =>
    have hround : round ∈ round :: rest := List.mem_cons_self
    have hcase : RoundOutcome d t tz round rest (exportLoop d t tz (round :: rest)) :=
      exportLoop_cons round rest
    generalize exportLoop d t tz (round :: rest) = exit at hcase ⊢
    cases hcase with
    | escaped h => exact ⟨nofun, nofun⟩
    | inactive h hgo =>
      obtain ⟨r, hr, hfound⟩ := h
      exact ⟨nofun, fun _ => ⟨r, List.mem_cons.mpr (Or.inl (List.mem_singleton.mp hr)), hfound⟩⟩
    | stopped h => exact ⟨fun _ => ⟨round, hround, h⟩, nofun⟩
    | exported hgo =>
      refine ⟨fun he => ?_, fun he => ?_⟩
      · obtain ⟨r, hr, hasked⟩ := ih.1 he
        exact ⟨r, List.mem_cons_of_mem _ hr, hasked⟩
      · obtain ⟨r, hr, hfound⟩ := ih.2 he
        exact ⟨r, List.mem_cons_of_mem _ hr, hfound⟩

/-- By induction on the rounds: nothing but the lookup can throw out of a cycle. -/
theorem exportLoop_contained_iff (rounds : List ExportRound) :
    (∀ e, exportLoop d t tz rounds ≠ .escaped e) ↔ TargetAnswered d t tz rounds := by
  induction rounds with
  | nil => exact ⟨fun _ done round rest h => by simp at h, fun _ => nofun⟩
  | cons round rest ih =>
    rw [targetAnswered_cons]
    have hcase : RoundOutcome d t tz round rest (exportLoop d t tz (round :: rest)) :=
      exportLoop_cons round rest
    generalize exportLoop d t tz (round :: rest) = exit at hcase ⊢
    cases hcase with
    | @escaped e h => exact ⟨fun hne => absurd rfl (hne e), fun hanswers => absurd hanswers.1 h⟩
    | inactive h hgo =>
      obtain ⟨r, hr, row, w, hlookup, -⟩ := h
      obtain rfl := List.mem_singleton.mp hr
      exact ⟨fun _ => ⟨⟨row, w, hlookup⟩, fun h => absurd h hgo⟩, fun _ => nofun⟩
    | stopped h hgo hanswers => exact ⟨fun _ => ⟨hanswers, fun h => absurd h hgo⟩, fun _ => nofun⟩
    | exported hgo =>
      obtain ⟨row, w, -, hlookup, -⟩ := id hgo
      rw [ih]
      exact ⟨fun h => ⟨⟨row, w, hlookup⟩, fun _ => h⟩, fun h => h.2 hgo⟩

end Export

/-- The worker's lookups are answered: of the sensor before the loop, and of the target
in every round it gets to. -/
def LookupsAnswered (t : ExportTargetRow) (start : World) (rounds : List ExportRound) : Prop :=
  ∀ w, ask connect start = .ok () w → ∃ sensor w',
    ask (findSensor d.server t.sensorId) w = .ok sensor w' ∧
      TargetAnswered d t ((sensor.map SensorRow.timezone).getD "") rounds

theorem exportScheduler_orderly_iff (t : ExportTargetRow) (start : World)
    (rounds : List ExportRound) :
    (ExportScheduler.worker d t start rounds).Orderly (ExportStopAsked rounds)
        (InactiveFound d t rounds) ↔ LookupsAnswered d t start rounds := by
  unfold ExportScheduler.worker LookupsAnswered
  cases hconnect : ask connect start with
  | error _ _ => exact ⟨fun _ => nofun, fun _ => ⟨nofun, nofun, nofun⟩⟩
  | ok u w =>
    simp only
    cases hsensor : ask (findSensor d.server t.sensorId) w with
    | error e w' =>
      refine ⟨fun h => absurd rfl (h.contained e), fun h => ?_⟩
      obtain ⟨sensor, w'', hrow, -⟩ := h w rfl
      rw [hsensor] at hrow
      cases hrow
    | ok sensor w' =>
      simp only
      let tz := (sensor.map SensorRow.timezone).getD ""
      have hreasons : (exportLoop d t tz rounds = .stopped → ExportStopAsked rounds) ∧
          (exportLoop d t tz rounds = .inactive → InactiveFound d t rounds) :=
        exportLoop_reasons rounds
      refine ⟨fun h w'' hw => ?_, fun h => ?_⟩
      · cases hw
        exact ⟨sensor, w', hsensor, (exportLoop_contained_iff rounds).mp h.contained⟩
      · obtain ⟨sensor', w'', hrow, hanswered⟩ := h w rfl
        rw [hsensor] at hrow
        cases hrow
        exact ⟨hreasons.1, hreasons.2, (exportLoop_contained_iff rounds).mpr hanswered⟩

/-- No exception leaves a worker of the three schedulers and none ends by an error once
it is in its loop, if and only if the export worker's lookups are answered. -/
theorem workers_orderly_iff :
    (∀ s start rounds, (Scheduler.worker d s start rounds).Orderly (StopAsked rounds) False) ∧
    (∀ s start rounds,
      (WeatherScheduler.worker d s start rounds).Orderly (StopAsked rounds) False) ∧
    ∀ t start rounds, (ExportScheduler.worker d t start rounds).Orderly (ExportStopAsked rounds)
      (InactiveFound d t rounds) ↔ LookupsAnswered d t start rounds :=
  ⟨scheduler_orderly d, weatherScheduler_orderly d, exportScheduler_orderly_iff d⟩

/-! ## A connection that drops between two cycles -/

def idleTarget : ExportTargetRow := { id := "T", sensorId := "S", target := "webhook" }

def idleWorld : World := { db := { exportTargets := [idleTarget] } }

/-- One quiet cycle, then one that finds the connection gone. -/
def droppedRounds : List ExportRound :=
  [{ before := idleWorld, stop := fun _ => false, after := idleWorld },
   { before := idleWorld.withFaults [true], stop := fun _ => false, after := idleWorld }]

/-- The lookup of the second cycle ends the daemon. -/
theorem dropped_lookup_escapes :
    ¬(ExportScheduler.worker (Deps.plain []) idleTarget idleWorld droppedRounds).Orderly
      (ExportStopAsked droppedRounds) (InactiveFound (Deps.plain []) idleTarget droppedRounds) := by
  have hrun : ExportScheduler.worker (Deps.plain []) idleTarget idleWorld droppedRounds
      = .escaped "query failed" := rfl
  intro h
  exact h.contained _ hrun

end NightWatcher.Daemon
