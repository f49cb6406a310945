import NightWatcher.Export.Window

/-!
# What one push can do

`pushAndLog` runs the exporter and writes one row of the export log, whatever
happens. So a fact that neither the log nor pending faults can spoil
(`LogProof`) holds after the push when the exporter established it, and a push
that throws leaves behind what the exporter's run left (`meets_pushAndLog`).

For the webhook exporter that run is the loop over the slices: when it returns,
every reading it was handed is in a body that was answered 2xx
(`meets_runWebhook`). The watermark is written by `setExportWatermark` alone.
-/

namespace NightWatcher.Exporter

open Throwing TimeUtil Database

variable {d : Deps}

/-! ## The log -/

/-- `w` after something was logged. -/
abbrev logged (w : World) (log : List ExportLogRow) (next : Counters) (faults : List Bool) : World :=
  { w with db := { w.db with exportLog := log, next := next }, dbFaults := faults }

/-- A fact about a world that does not depend on the export log. -/
def LogProof (P : World → Prop) : Prop := ∀ w log next faults, P w → P (logged w log next faults)

/-- Such a fact does not depend on pending faults either. -/
theorem LogProof.withFaults {P : World → Prop} (hP : LogProof P) {w : World} (h : P w)
    (fs : List Bool) : P (w.withFaults fs) := hP w w.db.exportLog w.db.next fs h

/-- Logging keeps it, whether it goes through or not. -/
theorem meets_insertExportLog (r : ExportLogRow) {P : World → Prop} (hP : LogProof P) {w : World}
    (h : P w) : Meets (insertExportLog d.server r) w (fun _ => P) (fun _ => P) := by
  refine meets_statement (fun a db' fs hrow => ?_) (fun _ fs => hP.withFaults h fs)
  simp only [Option.bind_eq_bind, Option.bind_eq_some_iff, Option.pure_def, Option.some.injEq,
    Prod.mk.injEq] at hrow
  obtain ⟨_, -, _, -, _, -, _, -, _, -, _, -, _, -, -, rfl⟩ := hrow
  exact hP w _ _ fs h

/-- A failure that is logged is thrown on. -/
theorem meets_logFailure {α : Type} {Q : α → World → Prop} (log : ExportLogRow) (e : String)
    {E : World → Prop} (hE : LogProof E) {w : World} (h : E w) :
    Meets (logFailure d log e) w Q (fun _ => E) := by
  unfold logFailure
  simp only [meets_bind, meets_tryCatch]
  exact (meets_insertExportLog _ hE h).mono (fun _ _ h' => h') (fun _ _ h' => h')

/-- A push establishes what the exporter's run establishes. -/
theorem meets_pushAndLog {targetId : String} {exporter : IExporter} {ctx : ExportContext}
    {w : World} {Q E : World → Prop}
    (hrun : Meets (exporter.run d ctx) w (fun _ => Q) (fun _ => E)) (hQ : LogProof Q)
    (hE : LogProof E) (hQE : ∀ w, Q w → E w) :
    Meets (pushAndLog d targetId exporter ctx) w (fun _ => Q) (fun _ => E) := by
  unfold pushAndLog
  simp only [meets_bind, meets_tryCatch]
  refine hrun.mono (fun res w₁ h₁ => ?_) (fun e w₁ h₁ => ?_)
  · -- the run returned: one row is logged, and if that fails a failure is
    refine (meets_insertExportLog _ hQ h₁).mono (fun _ w₂ h₂ => h₂) (fun e w₂ h₂ => ?_)
    exact meets_logFailure _ e hE (hQE w₂ h₂)
  · exact meets_logFailure _ e hE h₁

/-- On a server that takes every value and has no faults, logging goes through. -/
theorem meets_insertExportLog_plain {r : ExportLogRow} (hts : r.tsUtc = "") {w : World}
    {Q : Nat → World → Prop} {E : String → World → Prop} (hw : w.dbFaults = [])
    (h : ∀ a log next, Q a (logged w log next [])) :
    Meets (insertExportLog Server.plain r) w Q E := by
  have hdate : ∀ s, datetimeOrNull Server.plain s = some s := by
    intro s
    unfold datetimeOrNull
    split
    next he => rw [he]
    next => rfl
  have htext : ∀ ty s, textOrNull Server.plain ty s = some s := by
    intro ty s
    unfold textOrNull
    split
    next he => rw [he]
    next => rfl
  have hnow : timestampOrNow Server.plain w.now r.tsUtc = some (fmtSqlUtc w.now) := by
    rw [hts]
    rfl
  obtain ⟨db, now, faults⟩ := w
  cases hw
  unfold Meets insertExportLog statement
  simp only [roundTrip, hdate, htext, hnow]
  exact h _ _ _

/-! ## The watermark -/

/-- The targets with one of them changed. -/
def changeTarget (srv : Server) (id : String) (g : ExportTargetRow → ExportTargetRow)
    (rows : List ExportTargetRow) : List ExportTargetRow :=
  rows.map fun r => if srv.same r.id id then g r else r

/-- The targets with the watermark of one of them moved. -/
def markTarget (srv : Server) (id ts : String) : List ExportTargetRow → List ExportTargetRow :=
  changeTarget srv id fun r => { r with lastExportTs := ts }

/-- The watermark is moved, or the call fails and nothing is. -/
theorem meets_setExportWatermark {id ts : String} {w : World} {Q : World → Prop}
    {E : World → Prop} (hts : IsStamp ts)
    (hok : ∀ fs, Q { w with
      db := { w.db with exportTargets := markTarget d.server id ts w.db.exportTargets }
      dbFaults := fs })
    (herr : ∀ fs, E (w.withFaults fs)) :
    Meets (setExportWatermark d.server id ts) w (fun _ => Q) (fun _ => E) := by
  refine meets_statement (fun a db' fs h => ?_) (fun _ fs => herr fs)
  rw [hts.datetime] at h
  simp only [Option.bind_eq_bind, Option.bind_some, updateWhere_some, Option.pure_def,
    Option.some.injEq, Prod.mk.injEq] at h
  rw [← h.2]
  exact hok fs

/-- On a database that answers it is moved. -/
theorem meets_setExportWatermark_calm {id ts : String} {w : World} {Q : Unit → World → Prop}
    {E : String → World → Prop} (hts : IsStamp ts) (hw : w.dbFaults = [])
    (h : Q () { w with
      db := { w.db with exportTargets := markTarget d.server id ts w.db.exportTargets } }) :
    Meets (setExportWatermark d.server id ts) w Q E := by
  refine (meets_statement_calm hw ?_).mpr h
  rw [hts.datetime]
  simp only [Option.bind_eq_bind, Option.bind_some, updateWhere_some, Option.pure_def]
  rfl

/-- The row of a target after a change that left its id alone. -/
theorem find?_changeTarget {srv : Server} {rows : List ExportTargetRow} {id : String}
    {g : ExportTargetRow → ExportTargetRow} (hg : ∀ r, (g r).id = r.id) {t : ExportTargetRow}
    (h : rows.find? (fun r => srv.same r.id id) = some t) :
    (changeTarget srv id g rows).find? (fun r => srv.same r.id id) = some (g t) := by
  have ht : srv.same t.id id = true := by simpa using List.find?_some h
  have hp : ((fun r : ExportTargetRow => srv.same r.id id) ∘ fun r : ExportTargetRow =>
      if srv.same r.id id = true then g r else r) = fun r => srv.same r.id id := by
    funext r
    show srv.same (if srv.same r.id id = true then g r else r).id id = _
    split
    next => rw [hg]
    next => rfl
  unfold changeTarget
  rw [List.find?_map, hp, h, Option.map_some, if_pos ht]

/-- An id and the id of the row it finds are the same to the server. -/
theorem changeTarget_row {srv : Server} {rows : List ExportTargetRow} {id : String}
    {t : ExportTargetRow} (h : rows.find? (fun r => srv.same r.id id) = some t)
    (g : ExportTargetRow → ExportTargetRow) :
    changeTarget srv t.id g = changeTarget srv id g := by
  have ht : srv.same t.id id = true := by simpa using List.find?_some h
  have hsame : ∀ r : ExportTargetRow, srv.same r.id t.id = srv.same r.id id := by
    intro r
    unfold Server.same at ht ⊢
    rw [decide_eq_true_eq] at ht
    rw [ht]
  unfold changeTarget
  simp only [hsame]

/-! ## The webhook -/

/-- Without stations there is no ambient overlay. -/
theorem collectAmbient_none {d : Deps} {sensor : SensorRow} {lo hi : String} {w : World}
    (hsite : sensor.site = "") (hstations : w.db.weatherStations = []) (hw : w.dbFaults = []) :
    ask (collectAmbient d sensor lo hi) w = .ok [] w := by
  suffices h : Meets (ask (collectAmbient d sensor lo hi)) w (fun r w' => r = [] ∧ w' = w)
      fun _ _ => False by
    obtain ⟨r, w', hrun, rfl, rfl⟩ := h.returns
    exact hrun
  unfold collectAmbient collectAmbient.soleActive activeWeatherStations
  rw [if_pos hsite]
  simp only [pure_bind, Option.map_none, ask_bind, meets_bind]
  rw [meets_select_calm hw]
  simp [hstations, Server.orderBy]

/-- The body has the reading among its readings. -/
def Carries (body : Json) (r : ReadingRow) : Prop :=
  ∃ arr, body.member? "readings" = some (.arr arr) ∧ readingJson r ∈ arr

/-- The body was posted and answered 2xx. -/
def Answered (w : World) (body : Json) : Prop :=
  ∃ url status, 200 ≤ status ∧ status < 300 ∧ Effect.post url body (some status) ∈ w.effects

/-- The reading was part of a body that was answered 2xx. -/
def Acked (w : World) (r : ReadingRow) : Prop := ∃ body, Answered w body ∧ Carries body r

/-- Readings, targets and sensors stay as they are, and nothing done outside is undone. -/
def untouched : Frame World :=
  (Frame.same fun w => (w.db.readings, w.db.exportTargets, w.db.sensors)).both
    (Frame.grows World.effects)

section Untouched

variable {w w' : World} (h : untouched.rel w w')
include h

/-- What is untouched has the readings of before. -/
theorem untouched_readings : w'.db.readings = w.db.readings := congrArg (fun p => p.1) h.1

/-- It has the targets of before. -/
theorem untouched_targets : w'.db.exportTargets = w.db.exportTargets :=
  congrArg (fun p => p.2.1) h.1

theorem untouched_sensors : w'.db.sensors = w.db.sensors := congrArg (fun p => p.2.2) h.1

/-- And all that was done outside was done before or is new. -/
theorem untouched_effects : w.effects <+: w'.effects := h.2

end Untouched

/-- A failing call touches nothing. -/
theorem untouched_withFaults : IgnoresFaults untouched :=
  fun w _ => ⟨rfl, List.prefix_refl w.effects⟩

/-- What was answered stays answered. -/
theorem Answered.mono {w w' : World} {body : Json} (h : Answered w body)
    (hw : w.effects <+: w'.effects) : Answered w' body := by
  obtain ⟨url, status, hlo, hhi, hmem⟩ := h
  exact ⟨url, status, hlo, hhi, hw.subset hmem⟩

/-- So a reading that was acknowledged stays so. -/
theorem Acked.mono {w w' : World} {r : ReadingRow} (h : Acked w r)
    (hw : w.effects <+: w'.effects) : Acked w' r := by
  obtain ⟨body, hbody, hr⟩ := h
  exact ⟨body, hbody.mono hw, hr⟩

/-- The readings of a body are those it was made from. -/
theorem webhookBody_readings (siteId : String) (sensor : Json) (warr : List Json)
    (rs : List ReadingRow) :
    (webhookBody siteId sensor warr rs).member? "readings" = some (.arr (rs.map readingJson)) := by
  unfold webhookBody
  rw [Json.member?_ofMembers]
  split <;> simp

/-- A POST touches no table, and is recorded with its answer. -/
theorem meets_postJson (url : String) (body : Json) (w : World) :
    Meets (postJson url body) w
      (fun res w' => untouched.rel w w' ∧ Effect.post url body (some res.1) ∈ w'.effects)
      (fun _ w' => untouched.rel w w') := by
  unfold Meets postJson
  split
  next a w' h =>
    split at h
    next => cases h
    next => cases h
    next => cases h; exact ⟨⟨rfl, List.prefix_append _ _⟩, by simp⟩
  next e w' h =>
    split at h
    next => cases h; exact ⟨rfl, List.prefix_append _ _⟩
    next => cases h; exact ⟨rfl, List.prefix_append _ _⟩
    next => cases h

/-- A slice that goes through was answered 2xx. -/
theorem meets_postSlice (url : String) (body : Json) (w : World) :
    Meets (postSlice url body) w (fun _ w' => untouched.rel w w' ∧ Answered w' body)
      (fun _ w' => untouched.rel w w') := by
  unfold postSlice
  simp only [meets_bind, meets_tryCatch, meets_throw, meets_pure, meets_ite]
  refine (meets_postJson url body w).mono (fun res w' h => ⟨fun _ => h.1, fun hok => ?_⟩)
    (fun _ _ h => h)
  simp only [Bool.or_eq_true, decide_eq_true_eq, not_or, not_lt, not_le] at hok
  exact ⟨h.1, url, res.1, hok.1, hok.2, h.2⟩

/-- The slices have all the rows between them. -/
theorem mem_slices {α : Type} {n : Nat} {l : List α} {a : α} :
    (∃ s ∈ slices n l, a ∈ s) ↔ a ∈ l := by
  fun_induction slices n l with
  | case1 => simp
  | case2 b bs ih =>
    have hsplit : a ∈ bs ↔ a ∈ bs.take n ∨ a ∈ bs.drop n := by
      conv_lhs => rw [← List.take_append_drop n bs]
      exact List.mem_append
    rw [List.mem_cons, hsplit, ← ih]
    simp only [List.mem_cons, exists_eq_or_imp, or_assoc]

/-- Rows that fit one slice are one slice. -/
theorem slices_short {α : Type} {n : Nat} {l : List α} (hne : l ≠ []) (h : l.length ≤ n + 1) :
    slices n l = [l] := by
  obtain ⟨a, as, rfl⟩ := List.exists_cons_of_ne_nil hne
  have hle : as.length ≤ n := by simpa using h
  rw [slices, List.take_of_length_le hle, List.drop_of_length_le hle, slices]

/-- When the webhook's run returns, all it was handed has been answered 2xx. -/
theorem meets_runWebhook (config : String) (ctx : ExportContext) (w : World) :
    Meets (runWebhook d config ctx) w
      (fun _ w' => untouched.rel w w' ∧ ∀ r ∈ ctx.readings, Acked w' r)
      (fun _ w' => untouched.rel w w') := by
  have hrefl := untouched.refl w
  unfold runWebhook
  simp only [meets_bind, meets_liftExcept, meets_ite, meets_throw, meets_pure, hrefl,
    implies_true, and_true, true_and]
  intro cfg _ url _ _ token _ siteId _ insecure _ given _
  let body := webhookBody siteId (webhookSensor ctx.sensor) (webhookWeather ctx.weather)
  -- the slices posted so far are answered, and stay so
  have hloop := meets_forM (f := fun rs => postSlice url (body rs))
    (I := fun done w' => untouched.rel w w' ∧ ∀ rs ∈ done, Answered w' (body rs))
    (E := fun _ w' => untouched.rel w w')
    (l := slices ((if given < 1 then 2000 else given.toNat) - 1) ctx.readings)
    (fun done rs rest _ w₁ h₁ => ?_) (s := w) ⟨hrefl, by simp⟩
  · refine hloop.mono (fun _ w' h => ⟨h.1, fun r hr => ?_⟩) (fun _ _ h => h)
    obtain ⟨rs, hrs, hmem⟩ := mem_slices.mpr hr
    exact ⟨body rs, h.2 rs hrs, _, webhookBody_readings _ _ _ _, List.mem_map_of_mem hmem⟩
  · refine (meets_postSlice url (body rs) w₁).mono (fun _ w₂ h₂ => ?_)
      (fun _ w₂ h₂ => untouched.trans h₁.1 h₂)
    refine ⟨untouched.trans h₁.1 h₂.1, fun rs' hrs' => ?_⟩
    rcases List.mem_append.mp hrs' with hdone | hnow
    · exact (h₁.2 rs' hdone).mono h₂.1.2
    · rw [List.mem_singleton.mp hnow]
      exact h₂.2

/-! ## The frame of a push -/

/-- Of the tables only the export log changes, and nothing done outside is undone. -/
def logging : Frame World :=
  (Frame.same fun w => { w.db with exportLog := [], next := {} }).both (Frame.grows World.effects)

/-- A failing call is within the frame. -/
theorem logging_ignoresFaults : IgnoresFaults logging :=
  fun w _ => ⟨rfl, List.prefix_refl w.effects⟩

/-- What only logs leaves the readings and the targets alone. -/
theorem logging_untouched {w w' : World} (h : logging.rel w w') : untouched.rel w w' := by
  have hdb : { w'.db with exportLog := [], next := {} } = { w.db with exportLog := [], next := {} } :=
    h.1
  have hshown := congrArg (fun db : Db => (db.readings, db.exportTargets, db.sensors)) hdb
  exact ⟨hshown, h.2⟩

/-- Adding to the log is within the frame. -/
theorem logging_insertExportLog (r : ExportLogRow) : Keeps logging (insertExportLog d.server r) := by
  refine keeps_statement logging_ignoresFaults fun w a db' h => ?_
  simp only [Option.bind_eq_bind, Option.bind_eq_some_iff, Option.pure_def, Option.some.injEq,
    Prod.mk.injEq] at h
  obtain ⟨_, -, _, -, _, -, _, -, _, -, _, -, _, -, -, rfl⟩ := h
  exact ⟨rfl, List.prefix_refl w.effects⟩

/-- So is logging a failure. -/
theorem logging_logFailure {α : Type} (log : ExportLogRow) (e : String) :
    Keeps logging (logFailure d log e : Act α) :=
  keeps_bind (keeps_tryCatch (keeps_bind (logging_insertExportLog _) fun _ => keeps_pure _)
    fun _ => keeps_pure _) fun _ => keeps_throw _

/-- A file that is handed over is no row. -/
theorem logging_transferFile (key : FileKey) (ctx : ExportContext) (text : String) :
    Keeps logging (transferFile key ctx text) := by
  intro w
  unfold transferFile
  match w.transfers with
  | [] => exact logging.refl w
  | .done remoteId cut shown :: rest => exact ⟨rfl, List.prefix_append _ _⟩
  | .failed msg left shown :: rest => exact ⟨rfl, List.prefix_refl _⟩

/-- So the DSN exporter stays within the frame. -/
theorem logging_runDsn (config : String) (ctx : ExportContext) :
    Keeps logging (runDsn d config ctx) := by
  refine keeps_bind (keeps_liftExcept _) fun content => keeps_bind (keeps_liftExcept _) fun name =>
    keeps_bind (keeps_liftExcept _) fun key => ?_
  refine keeps_bind (logging_transferFile _ _ _) fun remoteId => ?_
  cases key with
  | outbox path => exact keeps_pure _
  | drive folder name => exact keeps_pure _

/-- A POST is no row. -/
theorem logging_postJson (url : String) (body : Json) : Keeps logging (postJson url body) := by
  intro w
  unfold postJson
  match w.answers with
  | [] => exact ⟨rfl, List.prefix_append _ _⟩
  | .error e :: rest => exact ⟨rfl, List.prefix_append _ _⟩
  | .ok (status, text) :: rest => exact ⟨rfl, List.prefix_append _ _⟩

/-- So the webhook exporter stays within it too. -/
theorem logging_runWebhook (config : String) (ctx : ExportContext) :
    Keeps logging (runWebhook d config ctx) := by
  have hslice : ∀ url body, Keeps logging (postSlice url body) := by
    intro url body
    refine keeps_bind (keeps_tryCatch (logging_postJson url body) fun _ => keeps_throw _)
        fun answer => ?_
    exact keeps_ite (keeps_throw _) (keeps_pure _)
  refine keeps_bind (keeps_liftExcept _) fun cfg => keeps_bind (keeps_liftExcept _) fun url => ?_
  refine keeps_ite (keeps_throw _) ?_
  refine keeps_bind (keeps_liftExcept _) fun _ => keeps_bind (keeps_liftExcept _) fun siteId =>
    keeps_bind (keeps_liftExcept _) fun _ => keeps_bind (keeps_liftExcept _) fun given => ?_
  exact keeps_bind (keeps_forM (fun rs => hslice _ _) _) fun _ => keeps_pure _

/-- A push only logs. -/
theorem logging_pushAndLog (targetId : String) (exporter : IExporter) (ctx : ExportContext) :
    Keeps logging (pushAndLog d targetId exporter ctx) := by
  have hrun : Keeps logging (exporter.run d ctx) := by
    cases exporter with
    | dsn config => exact logging_runDsn config ctx
    | webhook config => exact logging_runWebhook config ctx
  refine keeps_bind (keeps_tryCatch hrun fun e => logging_logFailure _ e) fun res => ?_
  exact keeps_bind (keeps_tryCatch (keeps_bind (logging_insertExportLog _) fun _ => keeps_pure _)
    fun e => logging_logFailure _ e) fun _ => keeps_pure _

end NightWatcher.Exporter
