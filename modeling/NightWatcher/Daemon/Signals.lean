import NightWatcher.Lib.Transcript
import NightWatcher.Daemon.Main

/-!
# SIGHUP and the main loop

The API's handlers commit and then raise SIGHUP, each on a thread of its own;
the signal is blocked everywhere and taken by `sigwait` in the main loop, so it
is one pending bit, however often it was raised. The loop takes it, stops and
joins the workers, reads the three device lists with a SELECT each, and starts
new workers. SIGUSR1 makes it restart the API server in between.

`Loop` is all of that between two steps of anyone. The commits are numbered and
`tables n` is what the database holds after the first `n`, so a list that was
read carries the number of commits it has seen. `no_reload_lost` says that a
change whose reload was asked for is seen by the workers, or is going to be.
-/

namespace NightWatcher.Daemon

open Transcript

/-- Where the main loop stands. -/
inductive Phase where
  /-- took SIGHUP; the workers are told to stop and joined -/
  | stopping
  | readSensors
  | readStations
  | readTargets
  /-- the lists are read, no worker was started yet -/
  | starting
  /-- in `sigwait` -/
  | waiting
  /-- took SIGUSR1; the API server is restarted -/
  | restarting
deriving DecidableEq

/-- A list the main loop read, and how many commits it has seen. -/
structure ListRead where
  stamp : Nat := 0
  ids : List String := []

/-- The three lists the workers are started from. -/
structure Lists where
  sensors : ListRead := {}
  stations : ListRead := {}
  targets : ListRead := {}

/-- The state the loop, the handlers and the signal flags share. -/
structure Loop where
  tables : Nat → Db
  commits : Nat := 0
  /-- the commits whose handler has called `on_reload` -/
  asked : List Nat := []
  hup : Bool := false
  usr1 : Bool := false
  phase : Phase := .readSensors
  lists : Lists := {}
  /-- the lists the current workers run on -/
  workers : Option Lists := none

/-- What can happen next, in the loop or in a handler. -/
inductive Step where
  /-- a handler's write is committed -/
  | commit (db : Db)
  /-- the handler of the `n`-th commit calls `on_reload` -/
  | onReload (n : Nat)
  | onApply
  | takeHup
  | takeUsr1
  | restarted
  | joined
  | readSensors
  | readStations
  | readTargets
  | start

namespace Loop

/-- The daemon has its API server and reads the lists for the first time. -/
def initial (db : Db) : Loop := { tables := fun _ => db }

/-- What a SELECT that runs now returns of the tables. -/
def readNow (s : Loop) (list : Db → List String) : ListRead :=
  { stamp := s.commits, ids := list (s.tables s.commits) }

/-- A step that cannot be taken where the loop stands changes nothing. -/
def next (d : Deps) (s : Loop) : Step → Loop
  | .commit db =>
    { s with commits := s.commits + 1, tables := Function.update s.tables (s.commits + 1) db }
  | .onReload n =>
    if n ≤ s.commits then { s with asked := n :: s.asked, hup := true } else s
  | .onApply => { s with usr1 := true }
  | .takeHup =>
    if s.phase = .waiting ∧ s.hup then { s with hup := false, phase := .stopping } else s
  | .takeUsr1 =>
    if s.phase = .waiting ∧ s.usr1 then { s with usr1 := false, phase := .restarting } else s
  | .restarted => if s.phase = .restarting then { s with phase := .waiting } else s
  | .joined =>
    if s.phase = .stopping then { s with phase := .readSensors, workers := none } else s
  | .readSensors =>
    if s.phase = .readSensors then
      { s with
        phase := .readStations
        lists := { s.lists with sensors := s.readNow fun db => (started d db).sensors } }
    else s
  | .readStations =>
    if s.phase = .readStations then
      { s with
        phase := .readTargets
        lists := { s.lists with stations := s.readNow fun db => (started d db).stations } }
    else s
  | .readTargets =>
    if s.phase = .readTargets then
      { s with
        phase := .starting
        lists := { s.lists with targets := s.readNow fun db => (started d db).targets } }
    else s
  | .start =>
    if s.phase = .starting then { s with phase := .waiting, workers := some s.lists } else s

/-! ## What is to hold -/

/-- The list was read after the commit of every change whose reload was asked for. -/
structure ReadAfter (s : Loop) (list : Db → List String) (r : ListRead) : Prop where
  ids : r.ids = list (s.tables r.stamp)
  past : r.stamp ≤ s.commits
  later : ∀ n ∈ s.asked, n ≤ r.stamp

/-- All three lists were read after every change whose reload was asked for. -/
structure UpToDate (d : Deps) (s : Loop) (l : Lists) : Prop where
  sensors : s.ReadAfter (fun db => (started d db).sensors) l.sensors
  stations : s.ReadAfter (fun db => (started d db).stations) l.stations
  targets : s.ReadAfter (fun db => (started d db).targets) l.targets

/-- The loop has taken the signal and not yet read all lists again. -/
def Rereading (s : Loop) : Prop :=
  s.phase = .stopping ∨ s.phase = .readSensors ∨ s.phase = .readStations ∨ s.phase = .readTargets

/-- The lists read since the last signal was taken are up to date, and so are the ones
the workers run on while the loop waits for the next. -/
structure Current (d : Deps) (s : Loop) : Prop where
  sensors : s.phase ∈ [.readStations, .readTargets, .starting] →
    s.ReadAfter (fun db => (started d db).sensors) s.lists.sensors
  stations : s.phase ∈ [.readTargets, .starting] →
    s.ReadAfter (fun db => (started d db).stations) s.lists.stations
  targets : s.phase ∈ [.starting] →
    s.ReadAfter (fun db => (started d db).targets) s.lists.targets
  workers : s.phase ∈ [.waiting, .restarting] → ∀ l, s.workers = some l → s.UpToDate d l

/-- What holds in every state: a signal is pending or the lists are up to date. -/
structure Inv (d : Deps) (s : Loop) : Prop where
  asked : ∀ n ∈ s.asked, n ≤ s.commits
  /-- from the join to the start no worker runs -/
  joined : s.phase ∈ [.readSensors, .readStations, .readTargets, .starting] → s.workers = none
  current : s.hup = true ∨ s.Current d

/-! ## What a step preserves -/

variable {d : Deps} {s : Loop}

/-- A SELECT sees every change whose reload was asked for before. -/
theorem readNow_readAfter (hs : s.Inv d) (list : Db → List String) :
    s.ReadAfter list (s.readNow list) :=
  ⟨rfl, Nat.le_refl _, hs.asked⟩

/-- A list that was read does not change with later commits. -/
theorem ReadAfter.commit {list : Db → List String} {r : ListRead} (h : s.ReadAfter list r) (db : Db) :
    (s.next d (.commit db)).ReadAfter list r := by
  refine ⟨?_, Nat.le_succ_of_le h.past, h.later⟩
  have hold : r.stamp ≠ s.commits + 1 := by
    have hpast := h.past
    omega
  show r.ids = list (Function.update s.tables (s.commits + 1) db r.stamp)
  rw [Function.update_of_ne hold]
  exact h.ids

/-- A commit alone outdates no list, its reload is not asked for yet. -/
theorem UpToDate.commit {l : Lists} (h : s.UpToDate d l) (db : Db) :
    (s.next d (.commit db)).UpToDate d l :=
  ⟨h.sensors.commit db, h.stations.commit db, h.targets.commit db⟩

/-- So it keeps what the loop has read current. -/
theorem Current.commit (h : s.Current d) (db : Db) : (s.next d (.commit db)).Current d :=
  ⟨fun hp => (h.sensors hp).commit db, fun hp => (h.stations hp).commit db,
    fun hp => (h.targets hp).commit db, fun hp l hl => (h.workers hp l hl).commit db⟩

/-- What was read says nothing of where the loop stands. -/
theorem ReadAfter.congr {s' : Loop} {list : Db → List String} {r : ListRead}
    (h : s.ReadAfter list r) (htables : s'.tables = s.tables) (hcommits : s'.commits = s.commits)
    (hasked : s'.asked = s.asked) : s'.ReadAfter list r := by
  refine ⟨?_, ?_, ?_⟩
  · rw [htables]
    exact h.ids
  · rw [hcommits]
    exact h.past
  · rw [hasked]
    exact h.later

/-- Whether lists are up to date depends on tables, commits and reloads alone. -/
theorem UpToDate.congr {s' : Loop} {l : Lists} (h : s.UpToDate d l)
    (htables : s'.tables = s.tables) (hcommits : s'.commits = s.commits)
    (hasked : s'.asked = s.asked) : s'.UpToDate d l :=
  ⟨h.sensors.congr htables hcommits hasked, h.stations.congr htables hcommits hasked,
    h.targets.congr htables hcommits hasked⟩

/-- Once the signal is taken there is nothing to keep: all lists are read again. -/
theorem current_rereading (h : s.phase = .stopping ∨ s.phase = .readSensors) : s.Current d := by
  rcases h with h | h
  · constructor <;> intro hp <;> simp [h] at hp
  · constructor <;> intro hp <;> simp [h] at hp

/-- The list of sensors just read is current. -/
theorem Current.readSensors (hs : s.Inv d) :
    Current d { s with
      phase := .readStations
      lists := { s.lists with sensors := s.readNow fun db => (started d db).sensors } } := by
  refine ⟨fun _ => ?_, by simp, by simp, by simp⟩
  exact (readNow_readAfter hs _).congr rfl rfl rfl

/-- The list of stations just read is current, and that of sensors stays so. -/
theorem Current.readStations (hs : s.Inv d) (h : s.Current d) (hphase : s.phase = .readStations) :
    Current d { s with
      phase := .readTargets
      lists := { s.lists with stations := s.readNow fun db => (started d db).stations } } := by
  refine ⟨fun _ => ?_, fun _ => ?_, by simp, by simp⟩
  · exact (h.sensors (by simp [hphase])).congr rfl rfl rfl
  · exact (readNow_readAfter hs _).congr rfl rfl rfl

/-- The list of targets just read is current, and the other two stay so. -/
theorem Current.readTargets (hs : s.Inv d) (h : s.Current d) (hphase : s.phase = .readTargets) :
    Current d { s with
      phase := .starting
      lists := { s.lists with targets := s.readNow fun db => (started d db).targets } } := by
  refine ⟨fun _ => ?_, fun _ => ?_, fun _ => ?_, by simp⟩
  · exact (h.sensors (by simp [hphase])).congr rfl rfl rfl
  · exact (h.stations (by simp [hphase])).congr rfl rfl rfl
  · exact (readNow_readAfter hs _).congr rfl rfl rfl

/-- Workers started from current lists run on current lists. -/
theorem Current.start (h : s.Current d) (hphase : s.phase = .starting) :
    Current d { s with phase := .waiting, workers := some s.lists } := by
  refine ⟨by simp, by simp, by simp, fun _ l hl => ?_⟩
  obtain rfl := Option.some.inj hl
  refine ⟨?_, ?_, ?_⟩
  · exact (h.sensors (by simp [hphase])).congr rfl rfl rfl
  · exact (h.stations (by simp [hphase])).congr rfl rfl rfl
  · exact (h.targets (by simp [hphase])).congr rfl rfl rfl

/-- Serving SIGUSR1 and going back to `sigwait` leaves the workers alone. -/
theorem Current.idle (h : s.Current d) (hphase : s.phase ∈ [.waiting, .restarting]) {s' : Loop}
    (hs' : s'.phase ∈ [.waiting, .restarting]) (htables : s'.tables = s.tables)
    (hcommits : s'.commits = s.commits) (hasked : s'.asked = s.asked)
    (hworkers : s'.workers = s.workers) : s'.Current d := by
  have hother : s'.phase ∉ [Phase.readStations, .readTargets, .starting] := by
    rcases List.mem_pair.mp hs' with hs' | hs' <;> simp [hs']
  refine ⟨fun hp => absurd hp hother, fun hp => absurd (List.mem_cons_of_mem _ hp) hother,
    fun hp => absurd (List.mem_cons_of_mem _ (List.mem_cons_of_mem _ hp)) hother, fun _ l hl => ?_⟩
  rw [hworkers] at hl
  exact (h.workers hphase l hl).congr htables hcommits hasked

/-- A step of the main loop raises no signal and commits nothing. -/
theorem Inv.move {s' : Loop} (hs : s.Inv d) (hasked : s'.asked = s.asked)
    (hcommits : s'.commits = s.commits)
    (hjoined : s'.phase ∈ [.readSensors, .readStations, .readTargets, .starting] →
      s'.workers = none)
    (hcurrent : s'.hup = true ∨ s'.Current d) : s'.Inv d := by
  refine ⟨?_, hjoined, hcurrent⟩
  rw [hasked, hcommits]
  exact hs.asked

/-- The step of a commit. -/
theorem Inv.commit (hs : s.Inv d) (db : Db) : (s.next d (.commit db)).Inv d := by
  refine ⟨fun n hn => Nat.le_succ_of_le (hs.asked n hn), hs.joined, ?_⟩
  rcases hs.current with hhup | hcurrent
  · exact Or.inl hhup
  · exact Or.inr (hcurrent.commit db)

/-- Asking for a reload makes it pending, whatever the workers run on. -/
theorem Inv.onReload (hs : s.Inv d) (n : Nat) : (s.next d (.onReload n)).Inv d := by
  show Inv d (if n ≤ s.commits then _ else s)
  by_cases hn : n ≤ s.commits
  · rw [if_pos hn]
    refine ⟨fun m hm => ?_, hs.joined, Or.inl rfl⟩
    rcases List.mem_cons.mp hm with rfl | hm
    · exact hn
    · exact hs.asked m hm
  · rw [if_neg hn]
    exact hs

/-- The step of a changed TLS setting. -/
theorem Inv.onApply (hs : s.Inv d) : (s.next d .onApply).Inv d := by
  refine hs.move rfl rfl hs.joined ?_
  rcases hs.current with hhup | hcurrent
  · exact Or.inl hhup
  · refine Or.inr ⟨fun hp => ?_, fun hp => ?_, fun hp => ?_, fun hp l hl => ?_⟩
    · exact (hcurrent.sensors hp).congr rfl rfl rfl
    · exact (hcurrent.stations hp).congr rfl rfl rfl
    · exact (hcurrent.targets hp).congr rfl rfl rfl
    · exact (hcurrent.workers hp l hl).congr rfl rfl rfl

/-- The loop takes the signal: nothing it holds is claimed current. -/
theorem Inv.takeHup (hs : s.Inv d) : (s.next d .takeHup).Inv d := by
  show Inv d (if s.phase = .waiting ∧ s.hup then _ else s)
  split
  · exact hs.move rfl rfl (by simp) (Or.inr (current_rereading (Or.inl rfl)))
  · exact hs

/-- The loop takes the other signal, which touches no list. -/
theorem Inv.takeUsr1 (hs : s.Inv d) : (s.next d .takeUsr1).Inv d := by
  show Inv d (if s.phase = .waiting ∧ s.usr1 then _ else s)
  split
  next h =>
    refine hs.move rfl rfl (by simp) (hs.current.imp_right fun hcurrent => ?_)
    exact hcurrent.idle (by simp [h.1]) (by simp) rfl rfl rfl rfl
  next => exact hs

/-- The API server is up again. -/
theorem Inv.restarted (hs : s.Inv d) : (s.next d .restarted).Inv d := by
  show Inv d (if s.phase = .restarting then _ else s)
  split
  next h =>
    refine hs.move rfl rfl (by simp) (hs.current.imp_right fun hcurrent => ?_)
    exact hcurrent.idle (by simp [h]) (by simp) rfl rfl rfl rfl
  next => exact hs

/-- Every step keeps the invariant. -/
theorem Inv.next (hs : s.Inv d) (step : Step) : (s.next d step).Inv d := by
  cases step with
  | commit db => exact hs.commit db
  | onReload n => exact hs.onReload n
  | onApply => exact hs.onApply
  | takeHup => exact hs.takeHup
  | takeUsr1 => exact hs.takeUsr1
  | restarted => exact hs.restarted
  | joined =>
    show Inv d (if s.phase = .stopping then _ else s)
    split
    · exact hs.move rfl rfl (fun _ => rfl) (Or.inr (current_rereading (Or.inr rfl)))
    · exact hs
  | readSensors =>
    show Inv d (if s.phase = .readSensors then _ else s)
    split
    next h =>
      exact hs.move rfl rfl (fun _ => hs.joined (by simp [h])) (Or.inr (Current.readSensors hs))
    next => exact hs
  | readStations =>
    show Inv d (if s.phase = .readStations then _ else s)
    split
    next h =>
      refine hs.move rfl rfl (fun _ => hs.joined (by simp [h])) (hs.current.imp_right ?_)
      exact fun hcurrent => hcurrent.readStations hs h
    next => exact hs
  | readTargets =>
    show Inv d (if s.phase = .readTargets then _ else s)
    split
    next h =>
      refine hs.move rfl rfl (fun _ => hs.joined (by simp [h])) (hs.current.imp_right ?_)
      exact fun hcurrent => hcurrent.readTargets hs h
    next => exact hs
  | start =>
    show Inv d (if s.phase = .starting then _ else s)
    split
    next h => exact hs.move rfl rfl (by simp) (hs.current.imp_right fun hcurrent => hcurrent.start h)
    next => exact hs

/-- It holds at the start. -/
theorem initial_inv (d : Deps) (db : Db) : (initial db).Inv d :=
  ⟨fun _ hn => absurd hn List.not_mem_nil, fun _ => rfl, Or.inr (current_rereading (Or.inr rfl))⟩

/-- It holds after every run. -/
theorem run_inv (d : Deps) (db : Db) (steps : List Step) :
    (run (next d) (initial db) steps).Inv d :=
  run_invariant (fun _ step hs => Inv.next hs step) (initial_inv d db)

/-- Three SELECTs that nothing comes between are one `loadDevices`. -/
theorem undisturbed_reads (hphase : s.phase = .readSensors) :
    let s' := run (next d) s [.readSensors, .readStations, .readTargets]
    (⟨s'.lists.sensors.ids, s'.lists.stations.ids, s'.lists.targets.ids⟩ : Running)
      = started d (s.tables s.commits) := by
  simp [next, readNow, hphase]

/-- In every state, a reload is pending, or it was taken and the lists are about to be
read, or the workers run on lists that were read after every change whose reload was
asked for. -/
theorem no_reload_lost (d : Deps) (db : Db) (steps : List Step) :
    (run (next d) (initial db) steps).hup = true ∨ (run (next d) (initial db) steps).Rereading ∨
      ∀ l, (run (next d) (initial db) steps).workers = some l →
        (run (next d) (initial db) steps).UpToDate d l := by
  generalize hs : run (next d) (initial db) steps = s
  have hinv : s.Inv d := hs ▸ run_inv d db steps
  rcases hinv.current with hhup | hcurrent
  · exact Or.inl hhup
  · refine Or.inr ?_
    unfold Rereading
    cases hphase : s.phase with
    | stopping => exact Or.inl (Or.inl rfl)
    | readSensors => exact Or.inl (Or.inr (Or.inl rfl))
    | readStations => exact Or.inl (Or.inr (Or.inr (Or.inl rfl)))
    | readTargets => exact Or.inl (Or.inr (Or.inr (Or.inr rfl)))
    | starting =>
      have hnone := hinv.joined (by simp [hphase])
      refine Or.inr fun l hl => ?_
      rw [hnone] at hl
      cases hl
    | waiting => exact Or.inr (hcurrent.workers (by simp [hphase]))
    | restarting => exact Or.inr (hcurrent.workers (by simp [hphase]))

end Loop

end NightWatcher.Daemon
