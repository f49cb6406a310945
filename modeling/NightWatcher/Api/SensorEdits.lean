import NightWatcher.Daemon.Reload
import NightWatcher.Api.Credentials

/-!
# Edits of a sensor and the running daemon

Two functions look at the body of `PATCH /sensors/{id}`: `sensorFieldsFromJson` says
which columns it sets, and `pollingKeys` whether the daemon reloads. They agree except
about the shorthands, which only the first knows, and about null members, which only
the second takes for a change (`EditSeen`).
-/

namespace NightWatcher.Api

open Throwing Database Daemon

variable {d : Deps} {cfg : ApiConfig} {req : Request} {w w' : World} {id : String}

/-! ## The columns of the polling -/

def pollingColumns (r : SensorRow) : Transport × String × Int × Status :=
  (r.transport, r.address, r.pollIntervalS, r.status)

/-- None of these columns is among the fields. -/
def SetsNone (f : SensorFields) : Prop :=
  f.transport = none ∧ f.address = none ∧ f.pollIntervalS = none ∧ f.status = none

/-- What the fields give for these columns is what the row has. -/
def ColumnsKept (srv : Server) (f : SensorFields) (r : SensorRow) : Prop :=
  setEnum srv f.transport r.transport = some r.transport ∧
    setText srv (.varchar 128) f.address r.address = some r.address ∧
    f.pollIntervalS.getD r.pollIntervalS = r.pollIntervalS ∧
    setEnum srv f.status r.status = some r.status

theorem pollingColumns_assign {srv : Server} {f : SensorFields} {r r' : SensorRow}
    (h : assignSensor srv f r = some r') :
    pollingColumns r' = pollingColumns r ↔ ColumnsKept srv f r := by
  unfold assignSensor at h
  iterate 8 obtain ⟨_, -, h⟩ := Option.bind_eq_some_iff.mp h
  obtain ⟨transport, htransport, h⟩ := Option.bind_eq_some_iff.mp h
  obtain ⟨address, haddress, h⟩ := Option.bind_eq_some_iff.mp h
  obtain ⟨status, hstatus, h⟩ := Option.bind_eq_some_iff.mp h
  iterate 2 obtain ⟨_, -, h⟩ := Option.bind_eq_some_iff.mp h
  cases h
  unfold ColumnsKept pollingColumns
  rw [htransport, haddress, hstatus]
  simp only [Prod.mk.injEq, Option.some.injEq]

theorem columnsKept_empty (srv : Server) (r : SensorRow) : ColumnsKept srv {} r :=
  ⟨rfl, rfl, rfl, rfl⟩

theorem pollingColumns_updateWhere {srv : Server} {p : SensorRow → Bool} {f : SensorFields}
    {rows rows' : List SensorRow} (h : updateWhere p (assignSensor srv f) rows = some rows') :
    rows'.map pollingColumns = rows.map pollingColumns ↔
      ∀ r ∈ rows, p r = true → ColumnsKept srv f r := by
  induction rows generalizing rows' with
  | nil =>
    cases h
    exact ⟨fun _ r hr => absurd hr List.not_mem_nil, fun _ => rfl⟩
  | cons r rows ih =>
    obtain ⟨r', rest, hr', hrest, rfl⟩ := updateWhere_cons.mp h
    rw [List.map_cons, List.map_cons, List.cons.injEq, ih hrest, List.forall_mem_cons]
    refine and_congr_left' ?_
    by_cases hp : p r = true
    · rw [if_pos hp] at hr'
      rw [pollingColumns_assign hr']
      exact ⟨fun h _ => h, fun h => h hp⟩
    · rw [if_neg hp] at hr'
      cases hr'
      exact ⟨fun _ h => absurd h hp, fun _ => rfl⟩

/-! ## Which edits go through -/

/-- The rows after an edit; without a column to set there is no statement. -/
def editedRows (srv : Server) (id : String) (f : SensorFields) (rows : List SensorRow) :
    Option (List SensorRow) :=
  if f = {} then some rows else updateWhere (fun r => srv.same r.id id) (assignSensor srv f) rows

/-- How many calls an edit makes, from connecting to reading the row back. -/
def editCalls (f : SensorFields) : Nat := if f = {} then 3 else 4

/-- An edit that is answered with 200: an administrator's, of a sensor that is there, with
fields that are read and taken by the server, and with every call answered. -/
structure EditAccepted (d : Deps) (cfg : ApiConfig) (req : Request) (w : World) (id : String)
    (body : Json) (f : SensorFields) : Prop where
  admin : HasAdmin d cfg req w
  parsed : d.json.parse req.body = some body
  fields : sensorFieldsFromJson body = .ok f
  there : (w.db.sensors.find? fun r => d.server.same r.id id).isSome
  taken : (editedRows d.server id f w.db.sensors).isSome
  answered : Answered cfg req w (editCalls f)

theorem pollingColumns_editedRows {srv : Server} {f : SensorFields} {rows rows' : List SensorRow}
    (h : editedRows srv id f rows = some rows') :
    rows'.map pollingColumns = rows.map pollingColumns ↔
      ∀ r ∈ rows, srv.same r.id id = true → ColumnsKept srv f r := by
  unfold editedRows at h
  split at h
  · cases h
    subst f
    exact ⟨fun _ r _ _ => columnsKept_empty srv r, fun _ => rfl⟩
  · exact pollingColumns_updateWhere h

/-! ## The handler -/

/-- The update and the reading back of an edit that goes through. -/
theorem meets_updateAndServe_accepted {body : Json} {f : SensorFields}
    (h : EditAccepted d cfg req w id body f) :
    Meets (updateAndServe d id (sensorFieldsFromJson body))
      (w.withFaults (w.dbFaults.drop (gateCalls cfg req + authCalls cfg req)))
      (fun p s => p.1.status = 200 ∧ p.2 = true ∧ s.effects = w.effects ∧
        editedRows d.server id f w.db.sensors = some s.db.sensors)
      fun _ _ => False := by
  have hanswered := h.answered
  unfold Answered editCalls at hanswered
  generalize hk : gateCalls cfg req + authCalls cfg req = k at hanswered ⊢
  have hclean : ∀ n < 4, (f = {} → n < 3) → Clean (k + n + 1) w.dbFaults := by
    intro n hn hempty i hi
    refine hanswered i (lt_of_lt_of_le hi ?_)
    split
    · have := hempty ‹_›
      omega
    · omega
  obtain ⟨r, hr⟩ := Option.isSome_iff_exists.mp h.there
  obtain ⟨rows, hrows⟩ := Option.isSome_iff_exists.mp h.taken
  unfold updateAndServe updateSensor
  rw [h.fields]
  simp only [meets_tryCatch, meets_bind]
  refine meets_connect_answered rfl (hclean 0 (by decide) fun _ => by decide) ?_
  simp only [meets_liftExcept]
  refine ⟨fun f' hf => ?_, fun e he => by cases he⟩
  obtain rfl := Except.ok.inj hf
  refine meets_select_answered rfl (hclean 1 (by decide) fun _ => by decide) ?_
  simp only [World.withFaults]
  rw [hr]
  simp only [Option.isNone_some, Bool.false_eq_true, if_false, meets_bind, meets_ite, meets_pure]
  unfold editedRows at hrows ⊢
  refine ⟨fun hempty => ?_, fun hset => ?_⟩
  · rw [if_pos hempty]
    refine ⟨fun hnone => absurd hnone Bool.false_ne_true, fun _ => ?_⟩
    exact meets_select_answered rfl (hclean 2 (by decide) fun _ => by decide) ⟨rfl, trivial, rfl, rfl⟩
  · rw [if_neg hset] at hrows ⊢
    have hfour : ∀ n < 4, Clean (k + n + 1) w.dbFaults := fun n hn => hclean n hn fun h => absurd h hset
    refine @meets_statement_answered _ _ _ _ _ () { w.db with sensors := rows } _ _ rfl
      (hfour 2 (by decide)) ?_ ?_
    · simp only [hrows, Option.bind_eq_bind, Option.bind_some, Option.pure_def]
    · refine ⟨fun hnone => absurd hnone Bool.false_ne_true, fun _ => ?_⟩
      exact meets_select_answered rfl (hfour 3 (by decide)) ⟨rfl, trivial, rfl, hrows⟩

/-- An edit that does not go through is answered with another status, and asks for nothing. -/
theorem meets_updateAndServe_refused {body : Json} (hadmin : HasAdmin d cfg req w)
    (hbody : d.json.parse req.body = some body)
    (hclean : Clean (gateCalls cfg req + authCalls cfg req) w.dbFaults)
    (hnot : ∀ f, ¬EditAccepted d cfg req w id body f) :
    Meets (updateAndServe d id (sensorFieldsFromJson body))
      (w.withFaults (w.dbFaults.drop (gateCalls cfg req + authCalls cfg req)))
      (fun p s => p.1.status ≠ 200 ∧ p.2 = false ∧ s.effects = w.effects)
      fun _ _ => False := by
  unfold updateAndServe updateSensor
  simp only [meets_tryCatch, meets_bind]
  have herror : ∀ e, (sendErr 500 e).status ≠ 200 := fun e => (by decide : 500 ≠ 200)
  refine meets_connect_at rfl hclean (fun hconnected => ?_) fun e fs => ⟨herror e, rfl, rfl⟩
  rw [meets_liftExcept]
  refine ⟨fun f hf => ?_, fun e _ => ⟨herror e, rfl, rfl⟩⟩
  refine meets_select_at rfl hconnected (fun hfound => ?_) fun _ e fs => ⟨herror e, rfl, rfl⟩
  simp only [World.withFaults]
  -- what is still missing to an edit that goes through
  have hmissing : (w.db.sensors.find? fun r => d.server.same r.id id).isSome →
      (editedRows d.server id f w.db.sensors).isSome → ¬Answered cfg req w (editCalls f) :=
    fun hthere htaken hanswered => hnot f ⟨hadmin, hbody, hf, hthere, htaken, hanswered⟩
  unfold editedRows editCalls at hmissing
  cases hr : w.db.sensors.find? fun r => d.server.same r.id id with
  | none =>
    simp only [Option.isNone_none, if_true, meets_pure, Bool.not_false]
    exact ⟨by decide, trivial, trivial⟩
  | some r =>
    have hmissing := hmissing (hr ▸ rfl)
    simp only [Option.isNone_some, Bool.false_eq_true, if_false, meets_bind, meets_ite, meets_pure]
    refine ⟨fun hempty => ?_, fun hset => ?_⟩
    · rw [if_pos hempty, if_pos hempty] at hmissing
      refine ⟨fun hnone => absurd hnone Bool.false_ne_true, fun _ => ?_⟩
      exact meets_select_at rfl hfound (fun hread => absurd hread (hmissing rfl))
        fun _ e fs => ⟨herror e, trivial, rfl⟩
    · rw [if_neg hset, if_neg hset] at hmissing
      refine meets_statement_at rfl hfound (fun _ db' hdb hwritten => ?_) fun e fs =>
        ⟨herror e, trivial, rfl⟩
      obtain ⟨rows, hrows, -⟩ := Option.bind_eq_some_iff.mp hdb
      refine ⟨fun hnone => absurd hnone Bool.false_ne_true, fun _ => ?_⟩
      exact meets_select_at rfl hwritten (fun hread => absurd hread (hmissing (hrows ▸ rfl)))
        fun _ e fs => ⟨herror e, trivial, rfl⟩

/-- What an edit leaves behind. -/
def EditOutcome (d : Deps) (cfg : ApiConfig) (req : Request) (w : World) (id : String) (res : Response)
    (w' : World) : Prop :=
  (∃ body f, EditAccepted d cfg req w id body f ∧ res.status = 200 ∧
      editedRows d.server id f w.db.sensors = some w'.db.sensors ∧
      (Reloaded w w' ↔ pollingKeys.any body.contains = true)) ∨
    (∀ body f, ¬EditAccepted d cfg req w id body f) ∧ ¬Reloaded w w' ∧
      (res.status = 200 → w'.db.sensors = w.db.sensors)

theorem not_reloaded (h : w'.effects = w.effects) : ¬Reloaded w w' := by
  unfold Reloaded
  rw [h, List.drop_length]
  exact List.not_mem_nil

/-- Every edit, from the gate on. -/
theorem serve_patchSensor (hreload : cfg.onReload = true)
    (hroute : route req = some (.patchSensor id)) :
    Meets (serve d cfg req) w (fun res w' => EditOutcome d cfg req w id res w') fun _ _ => False := by
  have hweb : webFile cfg req = none := webFile_none hroute (by simp [Endpoint.readsOnly])
  unfold serve
  simp only [meets_tryCatch, meets_bind]
  -- an accepted edit passes the gate and the role, and every call it makes is answered
  by_cases haccepted : ∃ body f, EditAccepted d cfg req w id body f
  · obtain ⟨body, f, h⟩ := haccepted
    have hclean : ∀ n ≤ gateCalls cfg req + authCalls cfg req, Clean n w.dbFaults :=
      fun n hn i hi => h.answered i (by omega)
    refine (meets_gate_admits (hclean _ (by omega)) fun _ => ?_).mono (fun refusal s hs => ?_)
      fun _ _ hs => hs.elim
    · exact h.admin.isKnown
    · obtain ⟨rfl, rfl⟩ := hs
      rw [hweb, hroute]
      show Meets (patchSensor d cfg req id) _ _ _
      unfold patchSensor adminOnly withBody
      rw [h.parsed]
      rw [meets_bind]
      refine (meets_requireAuth_admits (k := gateCalls cfg req) rfl (hclean _ le_rfl) ?_).mono
        (fun refusal s hs => ?_) fun _ _ hs => hs.elim
      · exact h.admin.mayDo true
      · obtain ⟨rfl, rfl⟩ := hs
        simp only [meets_bind]
        refine (meets_updateAndServe_accepted h).mono (fun p s hs => ?_) fun _ _ hs => hs.elim
        obtain ⟨hstatus, hdone, heffects, hrows⟩ := hs
        -- whether one of the polling keys is in the body decides about the reload
        by_cases hkeys : pollingKeys.any body.contains = true
        · unfold reload
          simp only [hdone, hkeys, hreload, logEffect, meets_bind, meets_modify, meets_pure, if_true,
            Bool.and_self]
          refine Or.inl ⟨body, f, h, hstatus, hrows, fun _ => hkeys, fun _ => ?_⟩
          unfold Reloaded
          rw [heffects, List.drop_left]
          exact List.mem_cons_self
        · simp only [hkeys, Bool.and_false, Bool.false_eq_true, if_false, meets_pure]
          exact Or.inl ⟨body, f, h, hstatus, hrows, fun hasked => absurd hasked (not_reloaded heffects),
            fun h => absurd h hkeys⟩
  -- what is not accepted ends somewhere before the reload
  · have hnone : ∀ body f, ¬EditAccepted d cfg req w id body f := fun body f h => haccepted ⟨body, f, h⟩
    have huntouched : ∀ {res : Response} {w' : World}, w'.effects = w.effects → w'.db = w.db →
        EditOutcome d cfg req w id res w' := fun heffects hdb =>
      Or.inr ⟨hnone, not_reloaded heffects, fun _ => congrArg Db.sensors hdb⟩
    refine meets_gate_at (fun hclean => ?_) fun res fs => huntouched rfl rfl
    rw [hweb, hroute]
    show Meets (patchSensor d cfg req id) _ _ _
    refine meets_adminOnly_at rfl hclean (fun hclean hadmin => ?_) fun _ fs => huntouched rfl rfl
    unfold withBody
    cases hbody : d.json.parse req.body with
    | none => exact huntouched rfl rfl
    | some body =>
      simp only [meets_bind]
      refine (meets_updateAndServe_refused (w := w) hadmin hbody hclean (hnone body)).mono
          (fun p s hs => ?_)
        fun _ _ hs => hs.elim
      obtain ⟨hstatus, hdone, heffects⟩ := hs
      simp only [hdone, Bool.false_and, Bool.false_eq_true, if_false, meets_pure]
      exact Or.inr ⟨hnone, not_reloaded heffects, fun h => absurd h hstatus⟩

/-! ## When an edit reaches the daemon -/

/-- An edit that goes through and has one of the polling keys gives one of these columns a
value, and one that has none gives them, by a shorthand, no other values than the stored ones. -/
def EditSeen (d : Deps) (cfg : ApiConfig) (req : Request) (w : World) (id : String) : Prop :=
  ∀ body f, body.isObject = true → EditAccepted d cfg req w id body f →
    if pollingKeys.any body.contains then ¬SetsNone f
    else ∀ r ∈ w.db.sensors, d.server.same r.id id = true → ColumnsKept d.server f r

/-- An accepted edit asks for a reload if it changed how the sensor is polled, and does not if
it sets nothing of that, exactly where it is seen. -/
theorem edit_reloads_iff (hreload : cfg.onReload = true) (hroute : route req = some (.patchSensor id)) :
    (∀ body f, d.json.parse req.body = some body → body.isObject = true →
        sensorFieldsFromJson body = .ok f → (reply d cfg req w).status = 200 →
        ((endState (serve d cfg req w)).db.sensors.map pollingColumns ≠ w.db.sensors.map
            pollingColumns →
          Reloaded w (endState (serve d cfg req w))) ∧
        (SetsNone f → ¬Reloaded w (endState (serve d cfg req w)))) ↔
      EditSeen d cfg req w id := by
  obtain ⟨res, s, hserve, hcase⟩ := (serve_patchSensor (w := w) (d := d) hreload hroute).returns
  have hreply : reply d cfg req w = res := by
    unfold reply
    rw [hserve]
  rw [hreply, hserve]
  dsimp only [endState]
  rcases hcase with ⟨body, f, h, hstatus, hrows, hasked⟩ | ⟨hnone, hquiet, hsame⟩
  · have hcolumns := pollingColumns_editedRows hrows
    constructor
    · intro hall body' f' hobject h'
      obtain rfl := Option.some.inj (h.parsed.symm.trans h'.parsed)
      obtain rfl := Except.ok.inj (h.fields.symm.trans h'.fields)
      obtain ⟨hchanged, hunset⟩ := hall _ _ h.parsed hobject h.fields hstatus
      split
      · exact fun hset => hunset hset (hasked.mpr ‹_›)
      · refine hcolumns.mp ?_
        by_contra hne
        exact absurd (hasked.mp (hchanged hne)) ‹_›
    · intro hseen body' f' hbody hobject hf _
      obtain rfl := Option.some.inj (h.parsed.symm.trans hbody)
      obtain rfl := Except.ok.inj (h.fields.symm.trans hf)
      have hkept := hseen _ _ hobject h
      constructor
      · intro hchanged
        by_contra hno
        rw [hasked] at hno
        rw [if_neg hno] at hkept
        exact hchanged (hcolumns.mpr hkept)
      · intro hset hyes
        rw [if_pos (hasked.mp hyes)] at hkept
        exact hkept hset
  · refine ⟨fun _ body f _ h => absurd h (hnone body f), fun _ _ _ _ _ _ hstatus => ?_⟩
    refine ⟨fun hchanged => ?_, fun _ => hquiet⟩
    exact absurd (congrArg (List.map pollingColumns) (hsame hstatus)) hchanged

def sensorEdit : String := "an edit of a sensor"

def editDeps (member : String × Json) : Deps := Deps.plain [(sensorEdit, Json.ofMembers [member])]

def patchesSensor : Request where
  method := .patch
  path := "/api/v1/sensors/s1"
  body := sensorEdit
  headers := [("Authorization", "t")]

/-- A new address under its own name. -/
theorem address_followed : Reloaded sensorSite
    (endState (serve (editDeps ("address", .str "10.0.0.9")) tokenConfig patchesSensor
        sensorSite)) := by
  have hseen : EditSeen (editDeps ("address", .str "10.0.0.9")) tokenConfig patchesSensor sensorSite
      "s1" := by
    intro body f _ h
    obtain rfl := Option.some.inj h.parsed
    obtain rfl := Except.ok.inj h.fields
    rw [if_pos (by decide +kernel)]
    exact fun hset => nomatch hset.2.1
  have hall := (@edit_reloads_iff _ _ _ _ _ rfl (by rfl)).mpr hseen
  exact (hall _ _ (by rfl) (by decide) (by rfl) (by decide +kernel)).1 (by decide +kernel)

/-- A new address by the shorthand: the daemon keeps polling the old one. -/
theorem shorthand_unseen : ¬∀ (d : Deps) (cfg : ApiConfig) (req : Request) (w : World) (id : String),
    cfg.onReload = true → route req = some (.patchSensor id) →
      ∀ body f, d.json.parse req.body = some body → body.isObject = true →
        sensorFieldsFromJson body = .ok f → (reply d cfg req w).status = 200 →
        ((endState (serve d cfg req w)).db.sensors.map pollingColumns ≠ w.db.sensors.map
            pollingColumns →
          Reloaded w (endState (serve d cfg req w))) ∧
        (SetsNone f → ¬Reloaded w (endState (serve d cfg req w))) := by
  intro h
  have hall :=
    h (editDeps ("tcp", .str "10.0.0.9")) tokenConfig patchesSensor sensorSite "s1" rfl (by rfl)
    _ _ (by rfl) (by decide) (by rfl) (by decide +kernel)
  have hasked := hall.1 (by decide +kernel)
  have hquiet : (endState (serve (editDeps ("tcp", .str "10.0.0.9")) tokenConfig patchesSensor
      sensorSite)).effects = [] := List.eq_nil_of_length_eq_zero (by decide +kernel)
  exact not_reloaded hquiet hasked

end NightWatcher.Api
