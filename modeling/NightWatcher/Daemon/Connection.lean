import NightWatcher.Daemon.Workers
import NightWatcher.Db.Precision

/-!
# The database connection of a polling worker

A worker opens its connection before its loop and keeps it to the end. A connection that the
server closed (it went down, or the connection was idle for too long) fails on every later query,
since nobody asks the client library to reconnect. So a history of the server is, for a worker,
whether it is up when the thread starts, and in each cycle whether it is up throughout and after
how many of the cycle's queries it closes the connection (`Cycle`).
-/

namespace NightWatcher.Daemon

open Throwing TimeUtil Database Sqm Weather Rounding Sqm.Protocol

/-! ## Histories -/

/-- One cycle of a worker with the wait before it, from the side of the server. -/
structure Cycle where
  world : World
  /-- the server is up from the beginning of the cycle to its end -/
  serverUp : Bool
  /-- after how many queries of the cycle the server closes the connection, if it does -/
  closedAfter : Option Nat := none
  down_closes : serverUp = false → closedAfter.isSome = true

/-- What becomes of the queries of a cycle, of which there are two at most. -/
def Cycle.faults (c : Cycle) (alive : Bool) : List Bool :=
  if alive then
    match c.closedAfter with
    | none => []
    | some n => List.replicate n false ++ [true, true]
  else [true, true]

/-- What a cycle finds, on a connection that is alive or not. -/
def Cycle.found (c : Cycle) (alive : Bool) : World := { c.world with dbFaults := c.faults alive }

/-- Whether the connection is alive after the cycle. -/
def Cycle.leaves (c : Cycle) (alive : Bool) : Bool := alive && c.closedAfter.isNone

theorem faults_head (c : Cycle) (alive : Bool) :
    (c.faults alive).head? = some true ↔ ¬(alive = true ∧ c.closedAfter ≠ some 0) := by
  unfold Cycle.faults
  cases alive with
  | false => simp
  | true =>
    cases c.closedAfter with
    | none => simp
    | some n =>
      cases n with
      | zero => simp
      | succ n => simp [List.replicate_succ]

section Runs

variable {α ρ : Type}

/-- The worlds that the cycles of a worker leave. -/
def Poller.run (p : Poller α) : PollState → Bool → List Cycle → List (Cycle × World)
  | _, _, [] => []
  | st, alive, c :: rest =>
    match p.cycle st (c.found alive) with
    | .error _ w => [(c, w)]
    | .ok (st', _) w => (c, w) :: p.run st' (c.leaves alive) rest

/-- The cycles as the rounds of the loop: no stop is asked for. -/
def rounds : Bool → List Cycle → List Round
  | _, [] => []
  | alive, c :: rest => { world := c.found alive, stop := fun _ => false } ::
        rounds (c.leaves alive) rest

/-- The loop goes through all of them. -/
theorem loop_rounds (p : Poller α) (st : PollState) (alive : Bool) (cycles : List Cycle) :
    p.loop st (rounds alive cycles) = .running ∧ (p.run st alive cycles).map Prod.fst = cycles := by
  induction cycles generalizing st alive with
  | nil => exact ⟨rfl, rfl⟩
  | cons c rest ih =>
    obtain ⟨⟨st', waitS⟩, w, hcycle⟩ := p.cycle_returns st (c.found alive)
    unfold rounds Poller.loop Poller.run
    dsimp only
    rw [hcycle]
    obtain ⟨hloop, hcycles⟩ := ih st' (c.leaves alive)
    refine ⟨hloop, ?_⟩
    dsimp only
    rw [List.map_cons, hcycles]

/-! ## What a poller does with its connection -/

/-- A routine that asks the server once. -/
def OneQuery {β : Type} (x : Act β) : Prop :=
  ∀ w, Meets x w (fun _ w' => w'.dbFaults = w.dbFaults.tail) fun _ w' => w'.dbFaults = w.dbFaults.tail

/-- What a poller acquires does not come from the database. Its `store`, if the server answers, adds
one row to a table if the table takes it and none if not, and `connected` leaves this table. -/
structure Recording (p : Poller α) (table : Db → List ρ) (Takes : α → World → Prop)
    (Holds : α → World → ρ → Prop) : Prop where
  acquire : ∀ {w r w₁}, p.acquire w = .ok r w₁ →
    (∀ fs, p.acquire (w.withFaults fs) = .ok r (w₁.withFaults fs)) ∧ w₁.db = w.db ∧ w₁.now = w.now
  takes : ∀ {r w w'}, w'.db = w.db → w'.now = w.now → (Takes r w' ↔ Takes r w)
  holds : ∀ {r w w' row}, Holds r w row → w'.db = w.db → w'.now = w.now → Holds r w' row
  store_answered : ∀ {r w}, w.dbFaults.head? ≠ some true →
    Meets (p.store r) w (fun _ w' =>
      (Takes r w ∧ ∃ row, table w'.db = table w.db ++ [row] ∧ Holds r w row) ∨
      ¬Takes r w ∧ table w'.db = table w.db) fun _ _ => False
  store_failed : ∀ {r w}, w.dbFaults.head? = some true →
    Meets (p.store r) w (fun _ _ => False) fun _ w' => table w'.db = table w.db
  connected : Keeps (Frame.same fun w : World => table w.db) p.connected

/-- The cycle has a new row in the table. -/
def Recorded (table : Db → List ρ) (Holds : α → World → ρ → Prop) (r : α) (w w' : World) : Prop :=
  ∃ row, table w'.db = table w.db ++ [row] ∧ Holds r w row

section Storing

variable {p : Poller α} {table : Db → List ρ} {Takes : α → World → Prop} {Holds : α → World → ρ → Prop}

theorem not_recorded {r : α} {w w' : World} (htable : table w'.db = table w.db) :
    ¬Recorded table Holds r w w' := by
  rintro ⟨row, hrow, -⟩
  rw [htable] at hrow
  have hlength := congrArg List.length hrow
  rw [List.length_append, List.length_singleton] at hlength
  omega

/-- A cycle whose device answers records the reading exactly if its first query is answered and the
table takes the row. -/
theorem cycle_recorded (h : Recording p table Takes Holds) {st : PollState} {w w₁ : World} {r : α}
    {fs : List Bool} (hanswer : p.acquire w = .ok r w₁) :
    Meets (p.cycle st) (w.withFaults fs)
      (fun _ w' => Recorded table Holds r w w' ↔ fs.head? ≠ some true ∧ Takes r w) fun _ _ =>
        False := by
  obtain ⟨hfaults, hdb, hnow⟩ := h.acquire hanswer
  have htable : table w₁.db = table w.db := congrArg table hdb
  have htakes_iff : Takes r (w₁.withFaults fs) ↔ Takes r w := h.takes hdb hnow
  have hacquired : ∀ {Q : Except String α → World → Prop} {E : String → World → Prop},
      Q (.ok r) (w₁.withFaults fs) →
      Meets (tryCatch (Except.ok <$> p.acquire) fun e => pure (.error e)) (w.withFaults fs) Q E := by
    intro Q E hQ
    rw [meets_tryCatch, meets_map]
    unfold Meets
    rw [hfaults fs]
    exact hQ
  unfold Poller.cycle
  rw [meets_bind]
  refine hacquired ?_
  dsimp only
  simp only [meets_tryCatch, meets_bind, meets_pure]
  by_cases hhead : fs.head? = some true
  · -- the insert fails, and the handler ends the cycle
    refine (h.store_failed hhead).mono (fun _ _ hfalse => hfalse.elim) fun _ w' hw' => ?_
    exact iff_of_false (not_recorded (hw'.trans htable)) fun hboth => hboth.1 hhead
  · refine (h.store_answered hhead).mono (fun _ w' hw' => ?_) fun _ _ hfalse => hfalse.elim
    have hrecorded : ∀ w'', table w''.db = table w'.db →
        (Recorded table Holds r w w'' ↔ fs.head? ≠ some true ∧ Takes r w) := by
      intro w'' hkept
      rcases hw' with ⟨htakes, row, hrow, hholds⟩ | ⟨hrefused, hsame⟩
      · refine iff_of_true ⟨row, ?_, h.holds hholds hdb.symm hnow.symm⟩ ⟨hhead, htakes_iff.mp htakes⟩
        rw [hkept, hrow]
        exact congrArg (· ++ [row]) htable
      · refine iff_of_false (not_recorded ?_) fun hboth => hrefused (htakes_iff.mpr hboth.2)
        rw [hkept, hsame]
        exact htable
    simp only [meets_ite, meets_bind, meets_pure]
    refine ⟨fun _ => ?_, fun _ => hrecorded w' rfl⟩
    -- the event of a new connection may fail: the row is there, or not, already
    exact (h.connected.meets w').mono (fun _ w'' hkept => hrecorded w'' hkept)
      fun _ w'' hkept => hrecorded w'' hkept

/-- In every cycle in which the server is up and the device answers, the reading is recorded. -/
def RecordsAll (p : Poller α) (table : Db → List ρ) (Holds : α → World → ρ → Prop)
    (done : List (Cycle × World)) : Prop :=
  ∀ c w', (c, w') ∈ done → c.serverUp = true → ∀ r w₁, p.acquire c.world = .ok r w₁ →
    Recorded table Holds r c.world w'

/-- Every cycle in which the server is up and the device answers finds the connection open, and a
table that takes the reading. -/
def Served (p : Poller α) (Takes : α → World → Prop) : Bool → List Cycle → Prop
  | _, [] => True
  | alive, c :: rest =>
    (c.serverUp = true → ∀ r w₁, p.acquire c.world = .ok r w₁ →
      (alive = true ∧ c.closedAfter ≠ some 0) ∧ Takes r c.world) ∧
      Served p Takes (c.leaves alive) rest

theorem recordsAll_cons {c : Cycle} {w' : World} {done : List (Cycle × World)} :
    RecordsAll p table Holds ((c, w') :: done) ↔
      (c.serverUp = true → ∀ r w₁, p.acquire c.world = .ok r w₁ → Recorded table Holds r c.world w') ∧
        RecordsAll p table Holds done := by
  constructor
  · intro h
    exact ⟨h c w' List.mem_cons_self, fun c' w'' hmem => h c' w'' (List.mem_cons_of_mem _ hmem)⟩
  · rintro ⟨hfirst, hrest⟩ c' w'' hmem
    rcases List.mem_cons.mp hmem with heq | hmem
    · cases heq
      exact hfirst
    · exact hrest c' w'' hmem

/-- By induction on the cycles, with the state of the connection and of the worker. -/
theorem run_records_iff (h : Recording p table Takes Holds) (st : PollState) (alive : Bool)
    (cycles : List Cycle) :
    RecordsAll p table Holds (p.run st alive cycles) ↔ Served p Takes alive cycles := by
  induction cycles generalizing st alive with
  | nil => exact ⟨fun _ => trivial, fun _ c w' hmem => absurd hmem List.not_mem_nil⟩
  | cons c rest ih =>
    obtain ⟨⟨st', waitS⟩, w', hcycle⟩ := p.cycle_returns st (c.found alive)
    have hrun : p.run st alive (c :: rest) = (c, w') :: p.run st' (c.leaves alive) rest := by
      conv_lhs => unfold Poller.run
      rw [hcycle]
    rw [hrun, recordsAll_cons, ih st' (c.leaves alive)]
    refine and_congr_left fun _ => forall_congr' fun hup => ?_
    refine forall_congr' fun r => forall_congr' fun w₁ => forall_congr' fun hanswer => ?_
    have hrecorded : Recorded table Holds r c.world w' ↔
        (c.faults alive).head? ≠ some true ∧ Takes r c.world :=
      (cycle_recorded h hanswer).of_ok hcycle
    rw [hrecorded, ne_eq, faults_head, not_not]

/-- A worker whose thread ended before its loop records nothing. -/
theorem idle_records_iff {cycles : List Cycle} :
    RecordsAll p table Holds (cycles.map fun c => (c, c.world)) ↔ Served p Takes false cycles := by
  induction cycles with
  | nil => exact ⟨fun _ => trivial, fun _ c w' hmem => absurd hmem List.not_mem_nil⟩
  | cons c rest ih =>
    rw [List.map_cons, recordsAll_cons, ih]
    refine and_congr_left fun _ => forall_congr' fun hup => ?_
    refine forall_congr' fun r => forall_congr' fun w₁ => forall_congr' fun hanswer => ?_
    exact iff_of_false (not_recorded rfl) fun hopen => Bool.false_ne_true hopen.1.1

/-! ### A cycle asks the server twice at most -/

theorem oneQuery_statement {β : Type} (f : Snapshot → Option (β × Db)) : OneQuery (statement f) := by
  intro w
  unfold Meets statement roundTrip
  match hfaults : w.dbFaults with
  | [] =>
    dsimp only
    cases f ⟨w.db, w.now⟩ <;> rfl
  | false :: rest =>
    dsimp only
    cases f ⟨w.db, w.now⟩ <;> rfl
  | true :: rest => rfl

theorem oneQuery_bind_pure {β γ : Type} {x : Act β} (h : OneQuery x) (f : β → γ) :
    OneQuery (x >>= fun a => pure (f a)) := by
  intro w
  rw [meets_bind]
  exact h w

/-- Two queries are all that a cycle makes, and no fault behind them is met. -/
theorem cycle_queries (hacquire : Keeps (Frame.same World.dbFaults) p.acquire)
    (hstore : ∀ r, OneQuery (p.store r)) (hfailed : ∀ e, OneQuery (p.readFailed e))
    (hconnected : OneQuery p.connected) (st : PollState) (w : World) :
    Meets (p.cycle st) w (fun _ w' => ∃ n ≤ 2, w'.dbFaults = w.dbFaults.drop n) fun _ _ => False := by
  have hone : ∀ {w₁ w' : World}, w₁.dbFaults = w.dbFaults → w'.dbFaults = w₁.dbFaults.tail →
      w'.dbFaults = w.dbFaults.drop 1 := fun h h' => by rw [h', h, List.drop_one]
  unfold Poller.cycle
  simp only [meets_bind, meets_tryCatch, meets_map, meets_pure]
  refine (hacquire.meets w).mono (fun r w₁ h₁ => ?_) fun e w₁ h₁ => ?_
  · refine (hstore r w₁).mono (fun _ w₂ h₂ => ?_) fun _ w₂ h₂ => ⟨1, by omega, hone h₁ h₂⟩
    simp only [meets_ite, meets_bind, meets_pure]
    have htwo : ∀ w₃ : World, w₃.dbFaults = w₂.dbFaults.tail → ∃ n ≤ 2,
        w₃.dbFaults = w.dbFaults.drop n :=
      fun w₃ h₃ => ⟨2, le_rfl, by rw [h₃, hone h₁ h₂, List.tail_drop]⟩
    exact ⟨fun _ => (hconnected w₂).mono (fun _ => htwo) fun _ => htwo, fun _ =>
      ⟨1, by omega, hone h₁ h₂⟩⟩
  · simp only [meets_ite, meets_bind, meets_tryCatch, meets_pure]
    refine ⟨fun _ => (hfailed e w₁).mono (fun _ w₂ h₂ => ?_) fun _ w₂ h₂ => ?_, fun _ =>
      ⟨0, by omega, h₁⟩⟩
    · exact ⟨1, by omega, hone h₁ h₂⟩
    · exact ⟨1, by omega, hone h₁ h₂⟩

end Storing

end Runs

/-! ## Devices and providers -/

/-- A routine that turns to the outside: no query of the database, and nothing done to it. -/
structure Outward {β : Type} (x : Act β) : Prop where
  blind : ∀ w fs, x (w.withFaults fs) = match x w with
    | .ok a w' => .ok a (w'.withFaults fs)
    | .error e w' => .error e (w'.withFaults fs)
  keeps : Keeps (Frame.same fun w : World => (w.db, w.now, w.dbFaults)) x

theorem outward_bind {β γ : Type} {x : Act β} {f : β → Act γ} (hx : Outward x)
    (hf : ∀ a, Outward (f a)) :
    Outward (x >>= f) where
  blind w fs := by
    show EStateM.bind x f (w.withFaults fs) = match EStateM.bind x f w with
      | .ok a w' => .ok a (w'.withFaults fs)
      | .error e w' => .error e (w'.withFaults fs)
    unfold EStateM.bind
    rw [hx.blind]
    cases x w with
    | ok a w' => exact (hf a).blind w' fs
    | error e w' => rfl
  keeps := keeps_bind hx.keeps fun a => (hf a).keeps

theorem outward_pure {β : Type} (a : β) : Outward (pure a) := ⟨fun _ _ => rfl, keeps_pure a⟩

theorem outward_liftExcept {β : Type} (x : Except String β) : Outward (liftExcept x) where
  blind w fs := by cases x <;> rfl
  keeps := keeps_liftExcept x

theorem outward_openDevice (transport address : String) : Outward (openDevice transport address) where
  blind w fs := by
    unfold openDevice
    split
    · rfl
    · dsimp only
      cases w.opens with
      | nil => rfl
      | cons answer rest => cases answer <;> rfl
  keeps w := by
    unfold openDevice
    split
    · rfl
    · cases w.opens with
      | nil => rfl
      | cons answer rest => cases answer <;> rfl

theorem outward_queryRaw (dev : SqmDevice) (cmd : String) : Outward (dev.queryRaw cmd) where
  blind w fs := by
    unfold SqmDevice.queryRaw
    dsimp only
    cases w.turns with
    | nil => rfl
    | cons turn rest =>
      dsimp only
      cases turn.answer <;> rfl
  keeps w := by
    unfold SqmDevice.queryRaw
    cases w.turns with
    | nil => rfl
    | cons turn rest =>
      dsimp only
      cases turn.answer <;> rfl

theorem outward_fetch (provider : IWeatherProvider) : Outward provider.fetch where
  blind w fs := by
    unfold IWeatherProvider.fetch
    dsimp only
    cases w.fetches with
    | nil => rfl
    | cons answer rest => cases answer <;> rfl
  keeps w := by
    unfold IWeatherProvider.fetch
    dsimp only
    cases w.fetches with
    | nil => rfl
    | cons answer rest => cases answer <;> rfl

theorem Outward.acquire {β : Type} {x : Act β} (h : Outward x) {w w₁ : World} {r : β}
    (hx : x w = .ok r w₁) :
    (∀ fs, x (w.withFaults fs) = .ok r (w₁.withFaults fs)) ∧ w₁.db = w.db ∧ w₁.now = w.now := by
  have hkept : (w₁.db, w₁.now, w₁.dbFaults) = (w.db, w.now, w.dbFaults) := (h.keeps.meets w).of_ok hx
  obtain ⟨hdb, hrest⟩ := Prod.mk.inj hkept
  refine ⟨fun fs => ?_, hdb, congrArg Prod.fst hrest⟩
  rw [h.blind, hx]

theorem Outward.asks_nothing {β : Type} {x : Act β} (h : Outward x) :
    Keeps (Frame.same World.dbFaults) x := by
  refine h.keeps.weaken fun w w' hkept => ?_
  obtain ⟨-, hrest⟩ := Prod.mk.inj hkept
  exact congrArg Prod.snd hrest

variable {d : Deps}

/-- A statement whose query is answered by a fault leaves the tables. -/
theorem statement_failed {β : Type} {f : Snapshot → Option (β × Db)} {w : World}
    (h : w.dbFaults.head? = some true) : Meets (statement f) w (fun _ _ => False) fun _ w' =>
      w'.db = w.db :=
  meets_statement_head (fun hanswered => absurd h hanswered) fun _ _ _ => rfl

theorem oneQuery_insertEvent {source event detail deviceId : String} {level : Level} :
    OneQuery (insertEvent d.server source level event detail deviceId) := oneQuery_statement _

/-- An event leaves the other tables. -/
theorem insertEvent_keeps {τ : Type} {g : Db → τ}
    (hg : ∀ (db : Db) events next, g { db with events := events, next := next } = g db)
    {source event detail deviceId : String} {level : Level} :
    Keeps (Frame.same fun w : World => g w.db)
      (insertEvent d.server source level event detail deviceId) := by
  refine keeps_statement (fun _ _ => rfl) fun w a db' h => ?_
  simp only [Option.bind_eq_bind, Option.bind_eq_some_iff, Option.pure_def, Option.some.injEq,
    Prod.mk.injEq] at h
  obtain ⟨_, -, _, -, _, -, _, -, -, rfl⟩ := h
  exact hg w.db _ _

/-- The sensor is there, and has no reading of this second. -/
def TakesPoll (srv : Server) (s : SensorRow) (w : World) : Prop :=
  (∃ x ∈ w.db.sensors, srv.same x.id (srv.ignoreText (.varchar 32) s.id) = true) ∧
    ∀ x ∈ w.db.readings, srv.same x.sensorId (srv.ignoreText (.varchar 32) s.id) = true →
      x.tsUtc ≠ fmtSqlUtc w.now

def HoldsPoll (srv : Server) (s : SensorRow) (r : Reading) (w : World) (row : ReadingRow) : Prop :=
  ∃ quality, row = readingRow srv w.db (srv.ignoreText (.varchar 32) s.id) (fmtSqlUtc w.now) r
      .poll quality

/-- What an INSERT IGNORE drops: a duplicate, or a row whose parent is missing. -/
theorem dropped_iff {ρ' σ : Type} {rows : List ρ'} {parents : List σ} {dup : ρ' → Bool}
    {ts : ρ' → String}
    {parent : σ → Bool} {now : String} :
    ((rows.any fun x => dup x && decide (ts x = now)) || !parents.any parent) = true ↔
      ¬((∃ x ∈ parents, parent x = true) ∧ ∀ x ∈ rows, dup x = true → ts x ≠ now) := by
  rw [Bool.or_eq_true, List.any_eq_true, Bool.not_eq_true', List.any_eq_false, not_and_or]
  constructor
  · rintro (⟨x, hx, hboth⟩ | hnone)
    · rw [Bool.and_eq_true, decide_eq_true_eq] at hboth
      exact Or.inr fun hfree => hfree x hx hboth.1 hboth.2
    · exact Or.inl fun ⟨x, hx, hparent⟩ => hnone x hx hparent
  · rintro (hnone | htaken)
    · exact Or.inr fun x hx hparent => hnone ⟨x, hx, hparent⟩
    · push Not at htaken
      obtain ⟨x, hx, hdup, hts⟩ := htaken
      exact Or.inl ⟨x, hx, by rw [Bool.and_eq_true, decide_eq_true_eq]; exact ⟨hdup, hts⟩⟩

theorem meets_insertIgnore {ρ : Type} {f : Snapshot → Option (Nat × Db)} {w : World} {dropped : Bool}
    {Takes : Prop} {n : Nat} {gone db' : Db} (table : Db → List ρ) (row : ρ)
    (hf : f ⟨w.db, w.now⟩ = if dropped = true then some (0, gone) else some (n, db'))
    (hdropped : dropped = true ↔ ¬Takes) (hgone : table gone = table w.db)
    (hdb : table db' = table w.db ++ [row]) (hanswered : w.dbFaults.head? ≠ some true) :
    Meets (statement f) w (fun _ w' => (Takes ∧ table w'.db = table w.db ++ [row]) ∨
      ¬Takes ∧ table w'.db = table w.db) fun _ _ => False := by
  refine meets_statement_head (fun _ a db'' fs hrow => ?_) fun hbad => ?_
  · rw [hf] at hrow
    by_cases h : dropped = true
    · rw [if_pos h] at hrow
      cases hrow
      exact Or.inr ⟨hdropped.mp h, hgone⟩
    · rw [if_neg h] at hrow
      cases hrow
      exact Or.inl ⟨not_not.mp fun hrefused => h (hdropped.mpr hrefused), hdb⟩
  · have hnone := hbad.resolve_left hanswered
    rw [hf] at hnone
    by_cases h : dropped = true
    · rw [if_pos h] at hnone
      cases hnone
    · rw [if_neg h] at hnone
      cases hnone

theorem sensorPoller_acquire (s : SensorRow) : Outward (sensorPoller d s).acquire :=
  outward_bind (outward_openDevice _ _) fun dev =>
    outward_bind (outward_queryRaw dev _) fun _ => outward_liftExcept _

theorem weatherPoller_acquire (s : WeatherStationRow) (provider : IWeatherProvider) :
    Outward (weatherPoller d s provider).acquire :=
  outward_bind (outward_fetch provider) fun _ => outward_pure _

theorem sensorPoller_recording (s : SensorRow) :
    Recording (sensorPoller d s) Db.readings (fun _ => TakesPoll d.server s)
        (HoldsPoll d.server s) where
  acquire := (sensorPoller_acquire s).acquire
  takes hdb hnow := by rw [TakesPoll, TakesPoll, hdb, hnow]
  holds h hdb hnow := by rwa [HoldsPoll, hdb, hnow]
  store_answered {r w} hanswered := by
    show Meets (insertReading d.server s.id r "" .poll _ >>= fun _ => pure ()) w _ _
    rw [meets_bind]
    have hstored (quality : Quality) : Meets (insertReading d.server s.id r "" .poll quality) w _ _ :=
      meets_insertIgnore Db.readings (readingRow d.server w.db (d.server.ignoreText (.varchar 32) s.id)
        (fmtSqlUtc w.now) r .poll quality) rfl dropped_iff rfl rfl hanswered
    refine (hstored _).mono (fun _ w' hw' => ?_) fun _ _ hfalse => hfalse
    exact hw'.imp_left fun htaken => ⟨htaken.1, _, htaken.2, _, rfl⟩
  store_failed {r w} h := by
    show Meets (insertReading d.server s.id r "" .poll _ >>= fun _ => pure ()) w _ _
    rw [meets_bind]
    exact (statement_failed h).mono (fun _ _ hfalse => hfalse.elim) fun _ _ hw' =>
      congrArg Db.readings hw'
  connected := insertEvent_keeps fun _ _ _ => rfl

/-- The timestamp of a weather reading; a text that is none makes the zero date. -/
def fetchTs (srv : Server) (r : WeatherReadingRow) (w : World) : String :=
  (timestampOrNow srv w.now r.tsUtc).getD "0000-00-00 00:00:00"

/-- The station is there, and has no reading with the timestamp of this one. -/
def TakesFetch (srv : Server) (r : WeatherReadingRow) (w : World) : Prop :=
  (∃ x ∈ w.db.weatherStations, srv.same x.id (srv.ignoreText (.varchar 32) r.stationId) = true) ∧
    ∀ x ∈ w.db.weatherReadings, srv.same x.stationId (srv.ignoreText (.varchar 32) r.stationId) = true →
      x.tsUtc ≠ fetchTs srv r w

/-- The row that a weather reading is stored as. -/
def weatherRow (srv : Server) (r : WeatherReadingRow) (w : World) : WeatherReadingRow :=
  let dec := fun (p sc : Nat) (v : Option ℚ) => v.map fun q =>
    srv.ignoreNum (.decimal p sc) (toDecimals 6 q)
  { id := w.db.next.weatherReadings
    stationId := srv.ignoreText (.varchar 32) r.stationId
    tsUtc := fetchTs srv r w
    tempC := dec 5 1 r.tempC
    humidityPct := dec 5 1 r.humidityPct
    dewPointC := dec 5 1 r.dewPointC
    pressureHpa := dec 7 2 r.pressureHpa
    pressureAbsHpa := dec 7 2 r.pressureAbsHpa
    windSpeedMs := dec 6 2 r.windSpeedMs
    windGustMs := dec 6 2 r.windGustMs
    windDirDeg := r.windDirDeg.map fun i => ⌊srv.ignoreNum .smallint i⌋
    rainRateMmh := dec 6 2 r.rainRateMmh
    rainDailyMm := dec 7 2 r.rainDailyMm
    uvIndex := dec 4 1 r.uvIndex
    solarWm2 := dec 7 1 r.solarWm2
    cloudCoverPct := dec 5 1 r.cloudCoverPct
    source := srv.ignoreText (.varchar 32) (if r.source = "" then "poll" else r.source)
    raw := if r.raw = "" then "" else srv.ignoreText .text r.raw }

def HoldsFetch (srv : Server) (r : WeatherReadingRow) (w : World) (row : WeatherReadingRow) : Prop :=
  row = weatherRow srv r w

theorem weatherPoller_recording (s : WeatherStationRow) (provider : IWeatherProvider) :
    Recording (weatherPoller d s provider) Db.weatherReadings (TakesFetch d.server)
      (HoldsFetch d.server) where
  acquire := (weatherPoller_acquire s provider).acquire
  takes hdb hnow := by rw [TakesFetch, TakesFetch, fetchTs, fetchTs, hdb, hnow]
  holds h hdb hnow := by rwa [HoldsFetch, weatherRow, fetchTs, hdb, hnow]
  store_answered {r w} hanswered := by
    show Meets (insertWeatherReading d.server r >>= fun _ => pure ()) w _ _
    rw [meets_bind]
    have hstored : Meets (insertWeatherReading d.server r) w _ _ :=
      meets_insertIgnore Db.weatherReadings (weatherRow d.server r w) rfl dropped_iff rfl rfl hanswered
    refine hstored.mono (fun _ w' hw' => ?_) fun _ _ hfalse => hfalse
    exact hw'.imp_left fun htaken => ⟨htaken.1, _, htaken.2, rfl⟩
  store_failed {r w} h := by
    show Meets (insertWeatherReading d.server r >>= fun _ => pure ()) w _ _
    rw [meets_bind]
    exact (statement_failed h).mono (fun _ _ hfalse => hfalse.elim) fun _ _ hw' =>
      congrArg Db.weatherReadings hw'
  connected := insertEvent_keeps fun _ _ _ => rfl

/-! ## The workers -/

/-- The two queries that `Cycle.faults` provides for are all that a cycle makes. -/
theorem sensorPoller_queries (s : SensorRow) (st : PollState) (w : World) :
    Meets ((sensorPoller d s).cycle st) w (fun _ w' => ∃ n ≤ 2, w'.dbFaults = w.dbFaults.drop n)
      fun _ _ => False :=
  cycle_queries (sensorPoller_acquire s).asks_nothing
    (fun _ => oneQuery_bind_pure (oneQuery_statement _) _) (fun _ => oneQuery_insertEvent)
    oneQuery_insertEvent st w

theorem weatherPoller_queries (s : WeatherStationRow) (provider : IWeatherProvider) (st : PollState)
    (w : World) : Meets ((weatherPoller d s provider).cycle st) w
      (fun _ w' => ∃ n ≤ 2, w'.dbFaults = w.dbFaults.drop n) fun _ _ => False :=
  cycle_queries (weatherPoller_acquire s provider).asks_nothing
    (fun _ => oneQuery_bind_pure (oneQuery_statement _) _) (fun _ => oneQuery_insertEvent)
    oneQuery_insertEvent st w

/-- What `Scheduler::worker` leaves after each cycle, from the world it connects in. -/
def Scheduler.run (d : Deps) (s : SensorRow) (start : World)
    (cycles : List Cycle) : List (Cycle × World) :=
  match ask connect start with
  | .error _ _ => cycles.map fun c => (c, c.world)
  | .ok _ _ => (sensorPoller d s).run { backoff := (sensorPoller d s).firstBackoff } true cycles

/-- The same of `WeatherScheduler::worker`. -/
def WeatherScheduler.run (d : Deps) (s : WeatherStationRow) (start : World) (cycles : List Cycle) :
    List (Cycle × World) :=
  match ask connect start with
  | .error _ _ => cycles.map fun c => (c, c.world)
  | .ok _ _ =>
    match makeProvider d s.provider s.config with
    | .error _ => cycles.map fun c => (c, c.world)
    | .ok provider =>
      (weatherPoller d s provider).run { backoff := (weatherPoller d s provider).firstBackoff }
          true cycles

/-- The server is up when the thread starts. -/
def Starts (start : World) : Bool := start.dbFaults.head? ≠ some true

theorem ask_connect_starts (start : World) :
    (∃ w, ask connect start = .ok () w) ∧ Starts start = true ∨
      (∃ e w, ask connect start = .error e w) ∧ Starts start = false := by
  unfold ask connect roundTrip Starts
  match start.dbFaults with
  | [] => exact Or.inl ⟨⟨_, rfl⟩, by simp⟩
  | false :: rest => exact Or.inl ⟨⟨_, rfl⟩, by simp⟩
  | true :: rest => exact Or.inr ⟨⟨_, _, rfl⟩, by simp⟩

/-- A worker that got its connection goes through every cycle, and one that did not ends at once. -/
theorem scheduler_goes_on (s : SensorRow) (start : World) (cycles : List Cycle) :
    Scheduler.worker d s start (rounds true cycles) =
        (if Starts start = true then .running else .noDatabase) ∧
      (Scheduler.run d s start cycles).map Prod.fst = cycles := by
  unfold Scheduler.worker Scheduler.run
  rcases ask_connect_starts start with ⟨⟨w, hconnect⟩, hstarts⟩ | ⟨⟨e, w, hconnect⟩, hstarts⟩
  · rw [hconnect, if_pos hstarts]
    exact loop_rounds (sensorPoller d s) _ true cycles
  · rw [hconnect, hstarts]
    exact ⟨rfl, by rw [List.map_map]; exact List.map_id _⟩

theorem weatherScheduler_goes_on {s : WeatherStationRow} {provider : IWeatherProvider}
    (hprovider : makeProvider d s.provider s.config = .ok provider) (start : World)
    (cycles : List Cycle) :
    WeatherScheduler.worker d s start (rounds true cycles) =
        (if Starts start = true then .running else .noDatabase) ∧
      (WeatherScheduler.run d s start cycles).map Prod.fst = cycles := by
  unfold WeatherScheduler.worker WeatherScheduler.run
  rcases ask_connect_starts start with ⟨⟨w, hconnect⟩, hstarts⟩ | ⟨⟨e, w, hconnect⟩, hstarts⟩
  · rw [hconnect, if_pos hstarts]
    dsimp only
    rw [hprovider]
    exact loop_rounds (weatherPoller d s provider) _ true cycles
  · rw [hconnect, hstarts]
    exact ⟨rfl, by rw [List.map_map]; exact List.map_id _⟩

theorem scheduler_records_iff (s : SensorRow) (start : World) (cycles : List Cycle) :
    RecordsAll (sensorPoller d s) Db.readings (HoldsPoll d.server s) (Scheduler.run d s start cycles) ↔
      Served (sensorPoller d s) (fun _ => TakesPoll d.server s) (Starts start) cycles := by
  unfold Scheduler.run
  rcases ask_connect_starts start with ⟨⟨w, hconnect⟩, hstarts⟩ | ⟨⟨e, w, hconnect⟩, hstarts⟩
  · rw [hconnect, hstarts]
    exact run_records_iff (sensorPoller_recording s) _ true cycles
  · rw [hconnect, hstarts]
    exact idle_records_iff

theorem weatherScheduler_records_iff {s : WeatherStationRow} {provider : IWeatherProvider}
    (hprovider : makeProvider d s.provider s.config = .ok provider) (start : World)
    (cycles : List Cycle) :
    RecordsAll (weatherPoller d s provider) Db.weatherReadings (HoldsFetch d.server)
        (WeatherScheduler.run d s start cycles) ↔
      Served (weatherPoller d s provider) (TakesFetch d.server) (Starts start) cycles := by
  unfold WeatherScheduler.run
  rcases ask_connect_starts start with ⟨⟨w, hconnect⟩, hstarts⟩ | ⟨⟨e, w, hconnect⟩, hstarts⟩
  · rw [hconnect, hstarts, hprovider]
    exact run_records_iff (weatherPoller_recording s provider) _ true cycles
  · rw [hconnect, hstarts]
    exact idle_records_iff

/-- Each worker stores the reading in every cycle in which the server is up and the device or the
provider answers, if and only if none of these cycles comes to a connection that was closed, or was
never made, or to a table that does not take the row. -/
theorem readings_recorded_iff (d : Deps) (start : World) (cycles : List Cycle) :
    (∀ s : SensorRow,
      RecordsAll (sensorPoller d s) Db.readings (HoldsPoll d.server s)
          (Scheduler.run d s start cycles) ↔
        Served (sensorPoller d s) (fun _ => TakesPoll d.server s) (Starts start) cycles) ∧
    ∀ (s : WeatherStationRow) (provider : IWeatherProvider),
      makeProvider d s.provider s.config = .ok provider →
        (RecordsAll (weatherPoller d s provider) Db.weatherReadings (HoldsFetch d.server)
            (WeatherScheduler.run d s start cycles) ↔
          Served (weatherPoller d s provider) (TakesFetch d.server) (Starts start) cycles) :=
  ⟨fun s => scheduler_records_iff s start cycles,
    fun _ _ hprovider => weatherScheduler_records_iff hprovider start cycles⟩

def rooftop : WeatherStationRow :=
  { id := "w1", provider := "wunderground", config := "\x7b\"stationId\":\"K1\",\"apiKey\":\"k\"\x7d" }

def rooftopDeps : Deps :=
  Deps.plain [(rooftop.config, .obj [("stationId", .str "K1"), ("apiKey", .str "k")])]

/-- A cycle in which the service answers and the connection is kept. -/
def freshFetch : Cycle where
  world := { db := { weatherStations := [rooftop] }, fetches := [.ok { stationId := "", tsUtc := "" }] }
  serverUp := true
  down_closes := nofun

theorem rooftop_recorded :
    RecordsAll (weatherPoller rooftopDeps rooftop (.wunderground "K1" "k")) Db.weatherReadings
      (HoldsFetch rooftopDeps.server) (WeatherScheduler.run rooftopDeps rooftop {} [freshFetch]) := by
  refine ((readings_recorded_iff rooftopDeps {} [freshFetch]).2 rooftop (.wunderground "K1" "k")
    rfl).mpr ⟨fun _ r w₁ hanswer => ?_, trivial⟩
  obtain ⟨rfl, -⟩ := EStateM.Result.ok.inj hanswer
  exact ⟨⟨rfl, nofun⟩, ⟨rooftop, List.mem_cons_self, rfl⟩, fun _ hx => absurd hx List.not_mem_nil⟩

def roofSensor : SensorRow := { id := "s1", transport := .tcp, address := "10.0.0.7" }

def roofDeps : Deps := { Deps.plain [] with codec := Protocol.codec }

/-- The unit answers, and the table has room for its reading. -/
def moonlitWorld : World where
  db := { sensors := [roofSensor] }
  opens := [.ok ()]
  turns := [{ answer := .ok (String.ofList (moonReading.line ++ lineEnd true)) }]

/-- The server goes down for a while: the first cycle meets it down, the second one up again. -/
def serverRestart : List Cycle :=
  [{ world := moonlitWorld, serverUp := false, closedAfter := some 0, down_closes := fun _ => rfl },
    { world := moonlitWorld, serverUp := true, down_closes := nofun }]

theorem moonlitWorld_answers : ∃ w₁, (sensorPoller roofDeps roofSensor).acquire moonlitWorld =
    .ok (exactReading moonReading) w₁ := by
  have hparsed : liftExcept
      (roofDeps.codec.parseReading (String.ofList (moonReading.line ++ lineEnd true)))
      = pure (exactReading moonReading) := congrArg liftExcept (codec_parseReading moonReading true)
  exact ⟨_, congrFun hparsed _⟩

/-- The reading of the second cycle is lost, though the server is up and the table takes it. -/
theorem restart_loses_reading : Starts {} = true ∧ TakesPoll roofDeps.server roofSensor moonlitWorld ∧
    ¬RecordsAll (sensorPoller roofDeps roofSensor) Db.readings (HoldsPoll roofDeps.server roofSensor)
      (Scheduler.run roofDeps roofSensor {} serverRestart) := by
  refine ⟨rfl, ⟨⟨roofSensor, List.mem_cons_self, rfl⟩, fun _ hx => absurd hx List.not_mem_nil⟩,
      fun hall => ?_⟩
  obtain ⟨-, hsecond, -⟩ := (scheduler_records_iff roofSensor {} serverRestart).mp hall
  obtain ⟨w₁, hanswer⟩ := moonlitWorld_answers
  exact Bool.false_ne_true (hsecond rfl _ w₁ hanswer).1.1

end NightWatcher.Daemon
