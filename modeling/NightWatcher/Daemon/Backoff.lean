import Mathlib.Data.List.Chain
import NightWatcher.Daemon.Connection

/-!
# The event log and the back-off of the polling workers

A polling worker remembers three things from cycle to cycle: whether its last read went well,
whether it has said so, and how long to wait after the next failure. A cycle in which the reading
was obtained but not stored changes none of them. What the three stand for is a fact about the
cycles so far (`Tracked`): the last known state of the device, and the number of failed reads since
the last stored reading. A cycle keeps it, so the event log and the waits of a run can be read off
the outcomes of its cycles.
-/

namespace NightWatcher.Daemon

open Throwing Database Sqm Weather

/-- How a cycle ends. -/
inductive Outcome where
  /-- the device or the provider failed -/
  | failed
  /-- the reading was stored -/
  | stored
  /-- the reading was obtained, but its insert threw -/
  | lost
deriving DecidableEq

/-- What a cycle leaves behind. -/
structure CycleLog where
  outcome : Outcome
  /-- the rows it adds to the event log -/
  events : List EventRow
  waitS : Int

/-! ## Histories -/

section Histories

/-- The names in the event log of a run. -/
def eventNames (logs : List CycleLog) : List String := (logs.flatMap CycleLog.events).map EventRow.event

/-- The outcome of the last cycle that was no failed insert. -/
def lastKnown (logs : List CycleLog) : Option Outcome :=
  ((logs.map CycleLog.outcome).filter fun out => decide (out ≠ .lost)).getLast?

/-- The number of failed reads since the last stored reading. -/
def failedReads (logs : List CycleLog) : Nat :=
  ((logs.map CycleLog.outcome).reverse.takeWhile fun out => decide (out ≠ .stored)).count .failed

variable (logs : List CycleLog) (log : CycleLog)

theorem eventNames_concat :
    eventNames (logs ++ [log]) = eventNames logs ++ log.events.map EventRow.event := by
  unfold eventNames
  rw [List.flatMap_append, List.map_append, List.flatMap_singleton]

theorem lastKnown_concat :
    lastKnown (logs ++ [log]) = if log.outcome = .lost then lastKnown logs else some log.outcome := by
  unfold lastKnown
  rw [List.map_append, List.filter_append, List.map_singleton]
  cases log.outcome with
  | failed =>
    rw [if_neg (show ¬Outcome.failed = .lost from nofun)]
    exact List.getLast?_concat
  | stored =>
    rw [if_neg (show ¬Outcome.stored = .lost from nofun)]
    exact List.getLast?_concat
  | lost =>
    rw [if_pos rfl]
    exact congrArg List.getLast? (List.append_nil _)

theorem failedReads_concat :
    failedReads (logs ++ [log]) = match log.outcome with
      | .failed => failedReads logs + 1
      | .stored => 0
      | .lost => failedReads logs := by
  unfold failedReads
  rw [List.map_append, List.reverse_append, List.map_singleton, List.reverse_singleton,
    List.singleton_append, List.takeWhile_cons]
  cases log.outcome with
  | failed => exact List.count_cons_self
  | stored => rfl
  | lost => exact List.count_cons_of_ne (show Outcome.lost ≠ .failed from nofun)

/-- The event log alternates between an error and `connect` and ends with the state of the device,
and the wait after the `j`-th failed read in a row is `backoff j`, unless the interval is shorter. -/
structure WellReported (errorName : String) (interval : Int) (backoff : Nat → Int)
    (logs : List CycleLog) :
    Prop where
  named : ∀ name ∈ eventNames logs, name = errorName ∨ name = "connect"
  alternate : (eventNames logs).IsChain (· ≠ ·)
  latest : ∀ name, (eventNames logs).getLast? = some name →
      (name = "connect" ↔ lastKnown logs = some .stored)
  waits : ∀ before log after, logs = before ++ log :: after →
    log.waitS = if log.outcome = .failed then min interval (backoff (failedReads (before ++ [log])))
        else interval

end Histories

/-! ## One cycle -/

section Cycles

variable {α : Type}

namespace Poller

variable (p : Poller α)

def outcome (w : World) : Outcome :=
  match p.acquire w with
  | .error _ _ => .failed
  | .ok r w₁ =>
    match p.store r w₁ with
    | .ok _ _ => .stored
    | .error _ _ => .lost

/-- What the cycles of a worker leave behind, by the world each of them finds. -/
def trace : PollState → List World → List CycleLog
  | _, [] => []
  | st, w :: rest =>
    match p.cycle st w with
    | .error _ _ => []
    | .ok (st', waitS) w' =>
      { outcome := p.outcome w, events := w'.db.events.drop w.db.events.length, waitS } ::
          trace st' rest

/-- What a cycle makes of the state, by its outcome. -/
def next (st : PollState) : Outcome → PollState
  | .failed => { up := false, reported := true, backoff := min (st.backoff * 2) p.maxBackoff }
  | .stored => { up := true, reported := true, backoff := p.firstBackoff }
  | .lost => st

def waits (st : PollState) : Outcome → Int
  | .failed => min p.interval st.backoff
  | _ => p.interval

end Poller

/-- The events of a cycle, by its outcome: a change of the state is reported, and the first state. -/
def reports (errorName : String) (st : PollState) : Outcome → List String
  | .failed => if st.up || !st.reported then [errorName] else []
  | .stored => if !st.up then ["connect"] else []
  | .lost => []

/-- The inserts into `events` that a cycle makes, if it makes any, succeed. -/
structure EventsSucceed (p : Poller α) (w : World) : Prop where
  readFailed : ∀ e w₁, p.acquire w = .error e w₁ → ∃ u w', p.readFailed e w₁ = .ok u w'
  connected : ∀ r w₁ u w₂, p.acquire w = .ok r w₁ → p.store r w₁ = .ok u w₂ → ∃ u' w',
      p.connected w₂ = .ok u' w'

/-- A poller that writes its events under these two names and at no other time. -/
structure Reporting (p : Poller α) (errorName : String) : Prop where
  acquire : Keeps (Frame.same fun w : World => w.db.events) p.acquire
  store : ∀ r, Keeps (Frame.same fun w : World => w.db.events) (p.store r)
  readFailed : ∀ {e w u w'}, p.readFailed e w = .ok u w' →
    ∃ row, w'.db.events = w.db.events ++ [row] ∧ row.event = errorName
  connected : ∀ {w u w'}, p.connected w = .ok u w' →
    ∃ row, w'.db.events = w.db.events ++ [row] ∧ row.event = "connect"

variable {p : Poller α} {errorName : String}

/-- What a cycle does, by its outcome. -/
theorem cycle_spec (h : Reporting p errorName) {w : World} (hevents : EventsSucceed p w)
    (st : PollState) :
    ∃ w' rows, p.cycle st w = .ok (p.next st (p.outcome w), p.waits st (p.outcome w)) w' ∧
      w'.db.events = w.db.events ++ rows ∧
          rows.map EventRow.event = reports errorName st (p.outcome w) := by
  suffices hmeets : Meets (p.cycle st) w
      (fun res w' => res = (p.next st (p.outcome w), p.waits st (p.outcome w)) ∧
        ∃ rows, w'.db.events = w.db.events ++ rows ∧
            rows.map EventRow.event = reports errorName st (p.outcome w))
      fun _ _ => False by
    obtain ⟨_, w', hcycle, rfl, rows, hrows⟩ := hmeets.returns
    exact ⟨w', rows, hcycle, hrows⟩
  unfold Poller.cycle
  rw [meets_bind, meets_tryCatch, meets_map]
  -- the read failed: it is reported unless the last one was
  cases hacquire : p.acquire w with
  | error e w₁ =>
    have hkept : w₁.db.events = w.db.events := (h.acquire.meets w).of_error hacquire
    have hfailed : p.outcome w = .failed := by
      unfold Poller.outcome
      rw [hacquire]
    rw [meets_of_error_iff hacquire, hfailed, meets_pure]
    simp only [meets_ite, meets_bind, meets_tryCatch, meets_pure]
    unfold reports
    refine ⟨fun hnews => ?_, fun hold => ?_⟩
    · obtain ⟨u, w', hreport⟩ := hevents.readFailed e w₁ hacquire
      obtain ⟨row, hrow, hname⟩ := h.readFailed hreport
      rw [meets_of_ok_iff hreport, if_pos hnews]
      exact ⟨rfl, [row], by rw [hrow, hkept], congrArg (fun name => [name]) hname⟩
    · rw [if_neg hold]
      exact ⟨rfl, [], by rw [hkept, List.append_nil], rfl⟩
  | ok r w₁ =>
    have hkept : w₁.db.events = w.db.events := (h.acquire.meets w).of_ok hacquire
    rw [meets_of_ok_iff hacquire]
    dsimp only
    rw [meets_tryCatch, meets_bind]
    -- the read succeeded, and was stored or lost
    cases hstore : p.store r w₁ with
    | error e w₂ =>
      have hstored : w₂.db.events = w₁.db.events := ((h.store r).meets w₁).of_error hstore
      have hlost : p.outcome w = .lost := by
        unfold Poller.outcome
        rw [hacquire]
        dsimp only
        rw [hstore]
      rw [meets_of_error_iff hstore, hlost]
      exact ⟨rfl, [], by rw [hstored, hkept, List.append_nil], rfl⟩
    | ok u w₂ =>
      have hstored : w₂.db.events = w₁.db.events := ((h.store r).meets w₁).of_ok hstore
      have hdone : p.outcome w = .stored := by
        unfold Poller.outcome
        rw [hacquire]
        dsimp only
        rw [hstore]
      rw [meets_of_ok_iff hstore, hdone]
      simp only [meets_ite, meets_bind, meets_pure]
      unfold reports
      refine ⟨fun hdown => ?_, fun hup => ?_⟩
      · obtain ⟨u', w', hconnected⟩ := hevents.connected r w₁ u w₂ hacquire hstore
        obtain ⟨row, hrow, hname⟩ := h.connected hconnected
        rw [meets_of_ok_iff hconnected, if_pos hdown]
        exact ⟨rfl, [row], by rw [hrow, hstored, hkept], congrArg (fun name => [name]) hname⟩
      · rw [if_neg hup]
        exact ⟨rfl, [], by rw [hstored, hkept, List.append_nil], rfl⟩

/-! ## Runs -/

/-- A run goes through all its cycles. -/
theorem trace_outcomes (p : Poller α) (st : PollState) (ws : List World) :
    (p.trace st ws).map CycleLog.outcome = ws.map p.outcome := by
  induction ws generalizing st with
  | nil => rfl
  | cons w rest ih =>
    obtain ⟨⟨st', waitS⟩, w', hcycle⟩ := p.cycle_returns st w
    unfold Poller.trace
    rw [hcycle]
    exact congrArg (p.outcome w :: ·) (ih st')

/-- The loop is stopped in one of the waits of the run, if it is. -/
theorem loop_stopped_iff (p : Poller α) (st : PollState) (rounds : List Round) :
    p.loop st rounds = .stopped ↔
      ∃ wait ∈ rounds.zip (p.trace st (rounds.map Round.world)), wait.1.stop wait.2.waitS = true := by
  induction rounds generalizing st with
  | nil => exact ⟨nofun, fun ⟨_, hmem, _⟩ => absurd hmem List.not_mem_nil⟩
  | cons round rest ih =>
    obtain ⟨⟨st', waitS⟩, w', hcycle⟩ := p.cycle_returns st round.world
    rw [List.map_cons]
    unfold Poller.loop Poller.trace
    rw [hcycle]
    dsimp only
    rw [List.zip_cons_cons]
    simp only [List.mem_cons, exists_eq_or_imp]
    by_cases hstop : round.stop waitS = true
    · rw [if_pos hstop]
      exact iff_of_true rfl (Or.inl hstop)
    · rw [if_neg hstop, ih st']
      exact ⟨Or.inr, fun h => h.resolve_left hstop⟩

/-- The event of a state of the device. -/
def eventName (errorName : String) : Outcome → String
  | .failed => errorName
  | _ => "connect"

/-- What the state of a worker says about its cycles so far, and what is true of these. -/
structure Tracked (p : Poller α) (errorName : String) (logs : List CycleLog)
    (st : PollState) : Prop where
  up : st.up = true ↔ lastKnown logs = some .stored
  reported : st.reported = true ↔ lastKnown logs ≠ none
  backoff : st.backoff = min (p.firstBackoff * 2 ^ failedReads logs) p.maxBackoff
  named : ∀ name ∈ eventNames logs, name = errorName ∨ name = "connect"
  alternate : (eventNames logs).IsChain (· ≠ ·)
  latest : (eventNames logs).getLast? = (lastKnown logs).map (eventName errorName)
  waited : ∀ before log after, logs = before ++ log :: after → log.waitS =
    if log.outcome = .failed then min p.interval
        (min (p.firstBackoff * 2 ^ failedReads before) p.maxBackoff)
    else p.interval

theorem lastKnown_ne_lost (logs : List CycleLog) : lastKnown logs ≠ some .lost := by
  intro h
  have hmem := List.mem_of_getLast? h
  rw [List.mem_filter, decide_eq_true_eq] at hmem
  exact hmem.2 rfl

theorem tracked_start (hfirst : p.firstBackoff ≤ p.maxBackoff) :
    Tracked p errorName [] { backoff := p.firstBackoff } where
  up := ⟨nofun, nofun⟩
  reported := ⟨nofun, fun h => absurd rfl h⟩
  backoff := by
    show p.firstBackoff = min (p.firstBackoff * 2 ^ 0) p.maxBackoff
    rw [pow_zero, mul_one, min_eq_left hfirst]
  named _ hmem := absurd hmem List.not_mem_nil
  alternate := List.isChain_nil
  latest := rfl
  waited before log after h := absurd h (by simp)

/-- One more event, if the last one is another. -/
theorem alternate_concat {names : List String} {name : String} (h : names.IsChain (· ≠ ·))
    (hlast : names.getLast? ≠ some name) : (names ++ [name]).IsChain (· ≠ ·) := by
  refine h.append (List.isChain_singleton name) ?_
  intro x hx y hy hsame
  rw [List.head?_cons, Option.mem_some_iff] at hy
  rw [hsame, ← hy] at hx
  exact hlast hx

/-- What a cycle adds to the event log is the new state of the device, if it is new. -/
theorem reports_change {logs : List CycleLog} {st : PollState} (herror : errorName ≠ "connect")
    (h : Tracked p errorName logs st) (out : Outcome) :
    (reports errorName st out = [] ∧ (out = .lost ∨ lastKnown logs = some out)) ∨
      reports errorName st out = [eventName errorName out] ∧ out ≠ .lost ∧
        (eventNames logs).getLast? ≠ some (eventName errorName out) := by
  have hnever := lastKnown_ne_lost logs
  unfold reports
  -- a lost reading is never reported
  cases out with
  | lost => exact Or.inl ⟨rfl, Or.inl rfl⟩
  -- a failure is reported if the last event was not one
  | failed =>
    by_cases hnews : (st.up || !st.reported) = true
    · refine Or.inr ⟨if_pos hnews, nofun, ?_⟩
      rw [h.latest]
      rcases Bool.or_eq_true_iff.mp hnews with hup | hsilent
      · rw [h.up.mp hup]
        exact fun hsame => herror (Option.some.inj hsame).symm
      · have hnone : lastKnown logs = none := by
          by_contra hsome
          rw [h.reported.mpr hsome] at hsilent
          exact Bool.false_ne_true hsilent
        rw [hnone]
        exact nofun
    · refine Or.inl ⟨if_neg hnews, Or.inr ?_⟩
      rw [Bool.or_eq_true, not_or] at hnews
      have hdown : lastKnown logs ≠ some .stored := fun hstored => hnews.1 (h.up.mpr hstored)
      have hsome : lastKnown logs ≠ none := by
        apply h.reported.mp
        simpa using hnews.2
      cases hlast : lastKnown logs with
      | none => exact absurd hlast hsome
      | some out =>
        cases out with
        | failed => rfl
        -- a success is reported if the last event was not one
        | stored => exact absurd hlast hdown
        | lost => exact absurd hlast hnever
  | stored =>
    by_cases hdown : (!st.up) = true
    · refine Or.inr ⟨if_pos hdown, nofun, ?_⟩
      rw [h.latest]
      cases hlast : lastKnown logs with
      | none => exact nofun
      | some out =>
        cases out with
        | failed => exact fun hsame => herror (Option.some.inj hsame)
        | stored =>
          rw [h.up.mpr hlast] at hdown
          exact absurd hdown Bool.false_ne_true
        | lost => exact absurd hlast hnever
    · refine Or.inl ⟨if_neg hdown, Or.inr (h.up.mp ?_)⟩
      simpa using hdown

/-- A cycle keeps track. -/
theorem tracked_step (herror : errorName ≠ "connect") (hfirst : p.firstBackoff ≤ p.maxBackoff)
    (hmax : 0 ≤ p.maxBackoff) {logs : List CycleLog} {st : PollState} (h : Tracked p errorName logs st)
    {log : CycleLog} (hrows : log.events.map EventRow.event = reports errorName st log.outcome)
    (hwait : log.waitS = p.waits st log.outcome) :
    Tracked p errorName (logs ++ [log]) (p.next st log.outcome) := by
  have hchange := reports_change herror h log.outcome
  rw [← hrows] at hchange
  -- one clause of the state after another, each by how the cycle ended
  refine ⟨?_, ?_, ?_, ?_, ?_, ?_, ?_⟩
  · rw [lastKnown_concat]
    cases log.outcome with
    | failed => exact ⟨nofun, nofun⟩
    | stored => exact iff_of_true rfl rfl
    | lost => exact h.up
  · rw [lastKnown_concat]
    cases log.outcome with
    | failed => exact iff_of_true rfl nofun
    | stored => exact iff_of_true rfl nofun
    | lost => exact h.reported
  · rw [failedReads_concat]
    cases log.outcome with
    | failed =>
      show min (st.backoff * 2) p.maxBackoff = min (p.firstBackoff * 2 ^ (failedReads logs + 1))
          p.maxBackoff
      rw [h.backoff, pow_succ, ← mul_assoc]
      omega
    | stored =>
      show p.firstBackoff = min (p.firstBackoff * 2 ^ 0) p.maxBackoff
      rw [pow_zero, mul_one, min_eq_left hfirst]
    | lost => exact h.backoff
  · intro name hmem
    rw [eventNames_concat] at hmem
    rcases List.mem_append.mp hmem with hbefore | hnew
    · exact h.named name hbefore
    · rcases hchange with ⟨hsilent, -⟩ | ⟨hevent, -⟩
      · rw [hsilent] at hnew
        exact absurd hnew List.not_mem_nil
      · rw [hevent, List.mem_singleton] at hnew
        rw [hnew]
        cases log.outcome with
        | failed => exact Or.inl rfl
        | stored => exact Or.inr rfl
        | lost => exact Or.inr rfl
  · rw [eventNames_concat]
    rcases hchange with ⟨hsilent, -⟩ | ⟨hevent, -, hlast⟩
    · rw [hsilent, List.append_nil]
      exact h.alternate
    · rw [hevent]
      exact alternate_concat h.alternate hlast
  · rw [eventNames_concat, lastKnown_concat]
    rcases hchange with ⟨hsilent, hsame⟩ | ⟨hevent, hknown, -⟩
    · rw [hsilent, List.append_nil, h.latest]
      by_cases hlost : log.outcome = .lost
      · rw [if_pos hlost]
      · rw [if_neg hlost, hsame.resolve_left hlost]
    · rw [hevent, if_neg hknown, List.getLast?_concat]
      rfl
  -- the wait of the new cycle, or that of an earlier one
  · intro before log' after hsplit
    rcases List.eq_nil_or_concat after with rfl | ⟨init, last, rfl⟩
    · obtain ⟨rfl, hlog⟩ := List.append_inj' hsplit rfl
      obtain rfl := List.head_eq_of_cons_eq hlog
      rw [hwait, ← h.backoff]
      cases log.outcome with
      | failed => exact (if_pos rfl).symm
      | stored => exact (if_neg nofun).symm
      | lost => exact (if_neg nofun).symm
    · rw [List.concat_eq_append, ← List.cons_append, ← List.append_assoc] at hsplit
      exact h.waited before log' init (List.append_inj' hsplit rfl).1

/-- By induction on the cycles: a run keeps track, whatever it comes after. -/
theorem tracked_trace (h : Reporting p errorName) (herror : errorName ≠ "connect")
    (hfirst : p.firstBackoff ≤ p.maxBackoff) (hmax : 0 ≤ p.maxBackoff) {ws : List World}
    (hevents : ∀ w ∈ ws, EventsSucceed p w) {done : List CycleLog} {st : PollState}
    (htracked : Tracked p errorName done st) : ∃ st',
        Tracked p errorName (done ++ p.trace st ws) st' := by
  induction ws generalizing done st with
  | nil => exact ⟨st, by rw [Poller.trace, List.append_nil]; exact htracked⟩
  | cons w rest ih =>
    obtain ⟨w', rows, hcycle, hgrown, hrows⟩ := cycle_spec h (hevents w List.mem_cons_self) st
    have hadded : w'.db.events.drop w.db.events.length = rows := by rw [hgrown, List.drop_left]
    unfold Poller.trace
    rw [hcycle]
    dsimp only
    rw [hadded, List.append_cons]
    exact ih (fun w hmem => hevents w (List.mem_cons_of_mem _ hmem))
      (tracked_step herror hfirst hmax htracked hrows rfl)

/-- Whatever the outcomes of its cycles are, the events and the waits of a worker are as they
should be. -/
theorem trace_wellReported (h : Reporting p errorName) (herror : errorName ≠ "connect")
    (hfirst : p.firstBackoff ≤ p.maxBackoff) (hmax : 0 ≤ p.maxBackoff) {backoff : Nat → Int}
    (hbackoff : ∀ j, backoff (j + 1) = min (p.firstBackoff * 2 ^ j) p.maxBackoff) {ws : List World}
    (hevents : ∀ w ∈ ws, EventsSucceed p w) :
    WellReported errorName p.interval backoff (p.trace { backoff := p.firstBackoff } ws) := by
  obtain ⟨st, htracked⟩ := tracked_trace h herror hfirst hmax hevents (tracked_start hfirst)
  rw [List.nil_append] at htracked
  refine ⟨htracked.named, htracked.alternate, ?_, ?_⟩
  · intro name hname
    rw [htracked.latest, Option.map_eq_some_iff] at hname
    obtain ⟨out, hout, rfl⟩ := hname
    rw [hout]
    cases out with
    | failed => exact iff_of_false herror nofun
    | stored => exact iff_of_true rfl rfl
    | lost => exact absurd hout (lastKnown_ne_lost _)
  · intro before log after hsplit
    rw [htracked.waited before log after hsplit]
    by_cases hfailed : log.outcome = .failed
    · rw [if_pos hfailed, if_pos hfailed, failedReads_concat, hfailed, hbackoff]
    · rw [if_neg hfailed, if_neg hfailed]

end Cycles

/-! ## The two workers -/

variable {d : Deps}

/-- The server keeps the names of the events as they are. -/
def KeepsEventNames (srv : Server) : Prop :=
  ∀ name ∈ ["read_error", "fetch_error", "connect"], srv.storeText (.varchar 64) name = some name

theorem insertEvent_named {source event detail deviceId : String} {level : Level}
    (hname : d.server.storeText (.varchar 64) event = some event) {w w' : World} {u : Unit}
    (h : insertEvent d.server source level event detail deviceId w = .ok u w') :
    ∃ row, w'.db.events = w.db.events ++ [row] ∧ row.event = event := by
  suffices hmeets : Meets (insertEvent d.server source level event detail deviceId) w
      (fun _ w' => ∃ row, w'.db.events = w.db.events ++ [row] ∧ row.event = event) fun _ _ => True from
    hmeets.of_ok h
  refine meets_statement (fun a db' fs hrow => ?_) fun _ _ => trivial
  rw [hname] at hrow
  simp only [Option.bind_eq_bind, Option.bind_eq_some_iff, Option.pure_def, Option.some.injEq,
    Prod.mk.injEq] at hrow
  obtain ⟨_, -, _, rfl, _, -, _, -, -, rfl⟩ := hrow
  exact ⟨_, rfl, rfl⟩

/-- A reading leaves the event log. -/
theorem insertReading_keeps_events (sensorId : String) (r : Reading) (tsUtc : String) (source : Source)
    (quality : Quality) : Keeps (Frame.same fun w : World => w.db.events)
      (insertReading d.server sensorId r tsUtc source quality) :=
  insertReading_frame (fun _ _ => rfl) fun _ _ _ => rfl

theorem insertWeatherReading_keeps_events (r : WeatherReadingRow) :
    Keeps (Frame.same fun w : World => w.db.events) (insertWeatherReading d.server r) :=
  insertWeatherReading_frame (fun _ _ => rfl) fun _ _ _ => rfl

theorem Outward.keeps_events {β : Type} {x : Act β} (h : Outward x) :
    Keeps (Frame.same fun w : World => w.db.events) x := by
  refine h.keeps.weaken fun w w' hkept => ?_
  exact congrArg Db.events (congrArg Prod.fst hkept)

theorem sensorPoller_reporting (hnames : KeepsEventNames d.server) (s : SensorRow) :
    Reporting (sensorPoller d s) "read_error" where
  acquire := (sensorPoller_acquire s).keeps_events
  store r := keeps_bind (insertReading_keeps_events _ _ _ _ _) fun _ => keeps_pure _
  readFailed := insertEvent_named (hnames _ (by simp))
  connected := insertEvent_named (hnames _ (by simp))

theorem weatherPoller_reporting (hnames : KeepsEventNames d.server) (s : WeatherStationRow)
    (provider : IWeatherProvider) : Reporting (weatherPoller d s provider) "fetch_error" where
  acquire := (weatherPoller_acquire s provider).keeps_events
  store r := keeps_bind (insertWeatherReading_keeps_events r) fun _ => keeps_pure _
  readFailed := insertEvent_named (hnames _ (by simp))
  connected := insertEvent_named (hnames _ (by simp))

/-- The events of a sensor's worker alternate between `read_error` and `connect`, and the wait after
the `j`-th failed read is two seconds to the `j`-th power, a minute at most; those of a weather
station's worker alternate between `fetch_error` and `connect`, and the wait starts at five seconds,
doubles, and is five minutes at most. -/
theorem workers_wellReported (d : Deps) (hnames : KeepsEventNames d.server) :
    (∀ (s : SensorRow) (ws : List World), (∀ w ∈ ws, EventsSucceed (sensorPoller d s) w) →
      ((sensorPoller d s).trace { backoff := (sensorPoller d s).firstBackoff } ws).map CycleLog.outcome
          = ws.map (sensorPoller d s).outcome ∧
        WellReported "read_error" (sensorPoller d s).interval (fun j => min (2 ^ j) 60)
          ((sensorPoller d s).trace { backoff := (sensorPoller d s).firstBackoff } ws)) ∧
    ∀ (s : WeatherStationRow) (provider : IWeatherProvider) (ws : List World),
      (∀ w ∈ ws, EventsSucceed (weatherPoller d s provider) w) →
        ((weatherPoller d s provider).trace
            { backoff := (weatherPoller d s provider).firstBackoff } ws).map CycleLog.outcome
            = ws.map (weatherPoller d s provider).outcome ∧
          WellReported "fetch_error" (weatherPoller d s provider).interval
            (fun j => min (5 * 2 ^ (j - 1)) 300)
            ((weatherPoller d s provider).trace
              { backoff := (weatherPoller d s provider).firstBackoff } ws) := by
  constructor
  · intro s ws hevents
    refine ⟨trace_outcomes _ _ ws, ?_⟩
    refine trace_wellReported (sensorPoller_reporting hnames s) nofun (show (2 : Int) ≤ 60 by decide)
      (show (0 : Int) ≤ 60 by decide) ?_ hevents
    intro j
    show min (2 ^ (j + 1)) 60 = min (2 * 2 ^ j) (60 : Int)
    rw [pow_succ, mul_comm]
  · intro s provider ws hevents
    refine ⟨trace_outcomes _ _ ws, ?_⟩
    exact trace_wellReported (weatherPoller_reporting hnames s provider)
        nofun (show (5 : Int) ≤ 300 by decide)
      (show (0 : Int) ≤ 300 by decide) (fun _ => rfl) hevents

/-- On a server that is up and takes every text, the inserts into `events` succeed. -/
theorem insertEvent_succeeds (htexts : ∀ ty s, d.server.storeText ty s = some s) {w : World}
    (hup : w.dbFaults = []) {source event detail deviceId : String} {level : Level} :
    ∃ u w', insertEvent d.server source level event detail deviceId w = .ok u w' := by
  have hnull : ∀ ty s, textOrNull d.server ty s = some s := by
    intro ty s
    unfold textOrNull
    by_cases hempty : s = ""
    · rw [if_pos hempty, hempty]
    · rw [if_neg hempty, htexts]
  unfold insertEvent statement
  rw [hup]
  simp only [roundTrip, htexts, hnull, Option.bind_eq_bind, Option.bind_some, Option.pure_def]
  exact ⟨_, _, rfl⟩

theorem weatherPoller_eventsSucceed (htexts : ∀ ty s, d.server.storeText ty s = some s)
    (s : WeatherStationRow)
    (provider : IWeatherProvider) {w : World} (hup : w.dbFaults = []) :
    EventsSucceed (weatherPoller d s provider) w where
  readFailed e w₁ hfetch := by
    have hasked : w₁.dbFaults = w.dbFaults :=
      ((weatherPoller_acquire s provider).asks_nothing.meets w).of_error hfetch
    exact insertEvent_succeeds htexts (hasked.trans hup)
  connected r w₁ u w₂ hfetch hstore := by
    have hasked : w₁.dbFaults = w.dbFaults :=
      ((weatherPoller_acquire s provider).asks_nothing.meets w).of_ok hfetch
    have hquery : w₂.dbFaults = w₁.dbFaults.tail :=
      (oneQuery_bind_pure (oneQuery_statement _) (fun _ => ()) w₁).of_ok hstore
    refine insertEvent_succeeds htexts ?_
    rw [hquery, hasked, hup]
    rfl

/-- A cycle in which the weather service does not answer. -/
def silentFetch : World := { db := { weatherStations := [rooftop] }, fetches := [.error "timeout"] }

/-- One failed fetch, then one that is stored. -/
theorem recovery_wellReported :
    ((weatherPoller rooftopDeps rooftop (.wunderground "K1" "k")).trace { backoff := 5 }
        [silentFetch, freshFetch.world]).map CycleLog.outcome = [.failed, .stored] ∧
      WellReported "fetch_error" 300 (fun j => min (5 * 2 ^ (j - 1)) 300)
        ((weatherPoller rooftopDeps rooftop (.wunderground "K1" "k")).trace { backoff := 5 }
          [silentFetch, freshFetch.world]) := by
  refine (workers_wellReported rooftopDeps fun _ _ => rfl).2 rooftop (.wunderground "K1" "k")
    [silentFetch, freshFetch.world] ?_
  intro w hmem
  apply weatherPoller_eventsSucceed fun _ _ => rfl
  rcases List.mem_cons.mp hmem with rfl | hmem
  · rfl
  · obtain rfl := List.mem_singleton.mp hmem
    rfl

end NightWatcher.Daemon
