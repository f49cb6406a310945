import NightWatcher.Daemon.Activity
import NightWatcher.Export.Steps
import NightWatcher.Export.System

/-!
# The export log tells what happened

`run_export` logs every window it pushes. `audit` is its frame: however a run ends,
nothing done outside is undone, and a new row of the log that reports no error stands
for a window that was delivered, with the number of its readings. A run that returns
has logged no error; one that throws has left every watermark alone. Over the runs of
the daemon, every row of the log goes back to such a run (`export_log_true`).
-/

namespace NightWatcher.Daemon

open Throwing Transcript Database Exporter Api

variable {d : Deps} {cfg : ApiConfig} {t : ExportTargetRow}

/-- The window was delivered: as a file, or in bodies that were all answered 2xx. -/
inductive Pushed (d : Deps) (t : ExportTargetRow) (w : World) (ctx : ExportContext) : Prop
  | file (key : FileKey) (text : String) (hformat : formatDsnDat d ctx t.config = .ok text)
    (hdelivered : Effect.deliver key ctx text ∈ w.effects)
  | posted (hne : ctx.readings ≠ []) (hacked : ∀ r ∈ ctx.readings, Acked w r)

/-- What was pushed stays pushed. -/
theorem Pushed.mono {w w' : World} {ctx : ExportContext} (h : Pushed d t w ctx)
    (hw : w.effects <+: w'.effects) : Pushed d t w' ctx := by
  cases h with
  | file key text hformat hdelivered => exact .file key text hformat (hw.subset hdelivered)
  | posted hne hacked => exact .posted hne fun r hr => (hacked r hr).mono hw

/-- What a row of the log says of its target is so. -/
structure Told (d : Deps) (t : ExportTargetRow) (w : World) (row : ExportLogRow) : Prop where
  target : d.server.storeText (.varchar 32) t.id = some row.targetId
  delivered : row.status ≠ .error → ∃ ctx, Pushed d t w ctx ∧ row.rowCount = ctx.readings.length ∧
    (row.status = .ok ↔ ctx.readings ≠ []) ∧ datetimeOrNull d.server ctx.fromTs = some row.fromTs ∧
    datetimeOrNull d.server ctx.toTs = some row.toTs

/-- So what a row says stays true. -/
theorem Told.mono {w w' : World} {row : ExportLogRow} (h : Told d t w row)
    (hw : w.effects <+: w'.effects) : Told d t w' row where
  target := h.target
  delivered hok := by
    obtain ⟨ctx, hpushed, hrest⟩ := h.delivered hok
    exact ⟨ctx, hpushed.mono hw, hrest⟩

/-- Nothing done outside is undone, and what is new in the log is so. -/
def audit (d : Deps) (t : ExportTargetRow) : Frame World where
  rel w w' := w.effects <+: w'.effects ∧
    ∀ row ∈ w'.db.exportLog, row ∈ w.db.exportLog ∨ Told d t w' row
  refl _ := ⟨List.prefix_refl _, fun _ hrow => Or.inl hrow⟩
  trans h h' := ⟨h.1.trans h'.1, fun row hrow => (h'.2 row hrow).elim
    (fun hrow => (h.2 row hrow).imp_right fun htold => htold.mono h'.1) Or.inr⟩

/-- A failing call leaves the log as it is. -/
theorem audit_ignoresFaults : IgnoresFaults (audit d t) := fun w _ =>
  ⟨List.prefix_refl w.effects, fun _ hrow => Or.inl hrow⟩

/-- What leaves the log alone keeps it true. -/
theorem audit_of_same {w w' : World} (hlog : w'.db.exportLog = w.db.exportLog)
    (heffects : w.effects <+: w'.effects) : (audit d t).rel w w' :=
  ⟨heffects, fun _ hrow => Or.inl (hlog ▸ hrow)⟩

/-! ## One window -/

/-- A row that is so may be logged. -/
theorem meets_insertRow {log : ExportLogRow} {w w₁ : World} (h : (audit d t).rel w w₁)
    (hid : log.targetId = t.id)
    (htold : log.status ≠ .error → ∃ ctx, Pushed d t w₁ ctx ∧ log.rowCount = ctx.readings.length ∧
      (log.status = .ok ↔ ctx.readings ≠ []) ∧ log.fromTs = ctx.fromTs ∧ log.toTs = ctx.toTs) :
    Meets (insertExportLog d.server log) w₁ (fun _ w' => (audit d t).rel w w' ∧
        ∀ row ∈ w'.db.exportLog, row ∈ w₁.db.exportLog ∨ row.status = log.status)
      (fun _ w' => (audit d t).rel w w' ∧ w'.db.exportLog = w₁.db.exportLog) := by
  refine meets_statement (fun a db' fs hrow => ?_) fun _ fs =>
    ⟨(audit d t).trans h (audit_ignoresFaults _ _), rfl⟩
  simp only [Option.bind_eq_bind, Option.bind_eq_some_iff, Option.pure_def, Option.some.injEq,
    Prod.mk.injEq] at hrow
  obtain ⟨targetId, htarget, _, -, fromTs, hfrom, toTs, hto, _, -, _, -, _, -, -, rfl⟩ := hrow
  refine ⟨(audit d t).trans h ⟨List.prefix_refl _, fun row hmem => ?_⟩, fun row hmem => ?_⟩
  · refine (List.mem_append.mp hmem).imp_right fun hnew => ?_
    obtain rfl := List.mem_singleton.mp hnew
    refine ⟨hid ▸ htarget, fun hok => ?_⟩
    obtain ⟨ctx, hpushed, hcount, hstatus, hlo, hhi⟩ := htold hok
    exact ⟨ctx, hpushed.mono (List.prefix_refl _), hcount, hstatus, hlo ▸ hfrom, hhi ▸ hto⟩
  · refine (List.mem_append.mp hmem).imp_right fun hnew => ?_
    rw [List.mem_singleton.mp hnew]

/-- A row about a failure says that there was one. -/
theorem meets_insertFailure {α : Type} {log : ExportLogRow} (hid : log.targetId = t.id) (e : String)
    {w w₁ : World} (h : (audit d t).rel w w₁) {Q : α → World → Prop} :
    Meets (logFailure d log e) w₁ Q fun _ w' => (audit d t).rel w w' := by
  unfold logFailure
  simp only [meets_bind, meets_tryCatch, meets_throw, meets_pure]
  have hid' : ({ log with status := .error, detail := e } : ExportLogRow).targetId = t.id := hid
  exact (meets_insertRow h hid' fun hok => (hok rfl).elim).mono (fun _ _ h' => h'.1) fun _ _ h' => h'.1

/-- An exporter's run changes no table. -/
theorem run_db (exporter : IExporter) (ctx : ExportContext) :
    Keeps ((Frame.same World.db).both (Frame.grows World.effects)) (exporter.run d ctx) := by
  have hdb : Keeps (Writes d.server []) (exporter.run d ctx) := by
    cases exporter with
    | dsn config => exact writes_runDsn config ctx
    | webhook config => exact writes_runWebhook config ctx
  have heffects : Keeps logging (exporter.run d ctx) := by
    cases exporter with
    | dsn config => exact logging_runDsn config ctx
    | webhook config => exact logging_runWebhook config ctx
  intro w
  refine ⟨?_, (heffects w).2⟩
  exact (hdb w).2.related (R := fun db db' => db' = db) (fun _ => rfl) (fun h h' => h'.trans h)
    fun _ k _ hk _ => by cases hk

/-- A file that was handed over was delivered. -/
theorem meets_transferFile (key : FileKey) (ctx : ExportContext) (text : String) (w : World) :
    Meets (transferFile key ctx text) w (fun _ w' => Effect.deliver key ctx text ∈ w'.effects)
        fun _ _ => True := by
  unfold Meets transferFile
  cases w.transfers with
  | nil => trivial
  | cons transfer rest =>
    cases transfer with
    | done remoteId => exact List.mem_append_right _ List.mem_cons_self
    | failed msg left => trivial

/-- An exporter that returns has delivered its window, and says how many readings that was. -/
theorem meets_run {exporter : IExporter} (hexporter : makeExporter d t.target t.config = .ok exporter)
    {ctx : ExportContext} (hne : exporter.windowing = .incremental → ctx.readings ≠ []) (w : World) :
    Meets (exporter.run d ctx) w
      (fun res w' => Pushed d t w' ctx ∧ res.rowCount = ctx.readings.length) fun _ _ => True := by
  have hconfig : exporter = .dsn t.config ∨ exporter = .webhook t.config := by
    unfold makeExporter at hexporter
    split at hexporter
    · cases hexporter
    split at hexporter
    · exact Or.inl (Except.ok.inj hexporter).symm
    split at hexporter
    · exact Or.inr (Except.ok.inj hexporter).symm
    split at hexporter <;> cases hexporter
  rcases hconfig with rfl | rfl
  · show Meets (runDsn d t.config ctx) w _ _
    unfold runDsn
    simp only [meets_bind, meets_liftExcept]
    refine ⟨fun text hformat => ⟨fun name _ => ⟨fun key _ => ?_, fun _ _ => trivial⟩, fun _ _ =>
      trivial⟩, fun _ _ => trivial⟩
    refine (meets_transferFile key ctx text w).mono (fun remoteId w' hdelivered => ?_) fun _ _ _ =>
      trivial
    cases key <;> exact ⟨.file _ text hformat hdelivered, rfl⟩
  · show Meets (runWebhook d t.config ctx) w _ _
    have hcount : Meets (runWebhook d t.config ctx) w (fun res _ => res.rowCount = ctx.readings.length)
        fun _ _ => True := by
      unfold runWebhook
      simp only [meets_bind, meets_liftExcept, meets_ite, meets_throw, meets_pure, implies_true,
        and_true, true_and]
      intro _ _ _ _ _ _ _ _ _ _ _ _ _
      exact meets_always (fun _ _ => trivial) fun _ _ => trivial
    refine ((meets_runWebhook t.config ctx w).and hcount).mono (fun res w' h => ?_) fun _ _ _ => trivial
    exact ⟨.posted (hne rfl) h.1.2, h.2⟩

/-- Nothing new in the log is an error either. -/
def clean (d : Deps) (t : ExportTargetRow) : Frame World where
  rel w w' := (audit d t).rel w w' ∧ ∀ row ∈ w'.db.exportLog, row ∈ w.db.exportLog ∨ row.status ≠ .error
  refl w := ⟨(audit d t).refl w, fun _ hrow => Or.inl hrow⟩
  trans h h' := ⟨(audit d t).trans h.1 h'.1, fun row hrow => (h'.2 row hrow).elim (h.2 row) Or.inr⟩

/-- A push that returns has delivered its window. -/
theorem meets_pushWindow {exporter : IExporter}
    (hexporter : makeExporter d t.target t.config = .ok exporter)
    {ctx : ExportContext} (hne : exporter.windowing = .incremental → ctx.readings ≠ []) (w : World) :
    Meets (pushAndLog d t.id exporter ctx) w (fun _ w' => (clean d t).rel w w')
      fun _ w' => (audit d t).rel w w' := by
  unfold pushAndLog
  simp only [meets_bind, meets_tryCatch]
  have hrun := ((run_db exporter ctx).meets w).and (meets_run hexporter hne w)
  refine hrun.mono (fun res w₁ h₁ => ?_) fun e w₁ h₁ => ?_
  · obtain ⟨⟨hdb, heffects⟩, hpushed, hcount⟩ := h₁
    have hlog : w₁.db.exportLog = w.db.exportLog := congrArg Db.exportLog hdb
    have haudit : (audit d t).rel w w₁ := audit_of_same hlog heffects
    have hpos : 0 < res.rowCount ↔ ctx.readings ≠ [] := by
      rw [hcount]
      exact List.length_pos_iff
    refine (meets_insertRow haudit rfl fun _ => ⟨ctx, hpushed, hcount, ?_, rfl, rfl⟩).mono
      (fun _ w₂ h₂ => ⟨h₂.1, fun row hrow => ?_⟩) fun e w₂ h₂ => meets_insertFailure rfl e h₂.1
    · dsimp only
      rw [← hpos]
      split
      next h => exact iff_of_true rfl h
      next h => exact iff_of_false LogStatus.noConfusion h
    · rw [← hlog]
      refine (h₂.2 row hrow).imp_right fun hstatus => ?_
      rw [hstatus]
      dsimp only
      split <;> exact LogStatus.noConfusion
  · obtain ⟨⟨hdb, heffects⟩, -⟩ := h₁
    exact meets_insertFailure rfl e (audit_of_same (congrArg Db.exportLog hdb) heffects)

/-! ## A run -/

/-- The targets are as they were, too. -/
def steady (d : Deps) (t : ExportTargetRow) : Frame World :=
  (clean d t).both (Frame.same fun w => w.db.exportTargets)

theorem steady_ignoresFaults : IgnoresFaults (steady d t) := fun w fs =>
  ⟨⟨audit_ignoresFaults w fs, fun _ hrow => Or.inl hrow⟩, rfl⟩

/-- A push moves no watermark. -/
theorem meets_pushSteady {exporter : IExporter}
    (hexporter : makeExporter d t.target t.config = .ok exporter)
    {ctx : ExportContext} (hne : exporter.windowing = .incremental → ctx.readings ≠ []) {w w₁ : World}
    (h : (steady d t).rel w w₁) :
    Meets (pushAndLog d t.id exporter ctx) w₁ (fun _ w' => (steady d t).rel w w')
      fun _ w' => (audit d t).rel w w' ∧ w'.db.exportTargets = w.db.exportTargets := by
  have htargets := (logging_pushAndLog (d := d) t.id exporter ctx).meets w₁
  refine ((meets_pushWindow hexporter hne w₁).and htargets).mono (fun _ w' h' => ?_) fun _ w' h' => ?_
  · exact (steady d t).trans h ⟨h'.1, untouched_targets (logging_untouched h'.2)⟩
  · exact ⟨(audit d t).trans h.1.1 h'.1, (untouched_targets (logging_untouched h'.2)).trans h.2⟩

/-- The watermark moves last. -/
theorem meets_markSteady {id ts : String} {w w₁ : World} (h : (steady d t).rel w w₁) :
    Meets (setExportWatermark d.server id ts) w₁ (fun _ w' => (clean d t).rel w w')
      fun _ w' => (audit d t).rel w w' ∧ w'.db.exportTargets = w.db.exportTargets := by
  refine meets_statement (fun a db' fs hrow => ?_) fun _ fs => ?_
  · simp only [Option.bind_eq_bind, Option.bind_eq_some_iff, Option.pure_def, Option.some.injEq,
      Prod.mk.injEq] at hrow
    obtain ⟨_, -, _, -, -, rfl⟩ := hrow
    exact (clean d t).trans h.1 ⟨audit_of_same rfl (List.prefix_refl _), fun _ hrow => Or.inl hrow⟩
  · have hfaults := (steady d t).trans h (steady_ignoresFaults w₁ fs)
    exact ⟨hfaults.1.1, hfaults.2⟩

/-- A run that returns has logged no error; one that throws has moved no watermark. -/
theorem meets_runExport_audit (t : ExportTargetRow) (w : World) :
    Meets (runExport d t) w (fun _ w' => (clean d t).rel w w')
      fun _ w' => (audit d t).rel w w' ∧ w'.db.exportTargets = w.db.exportTargets := by
  have hstart : ∀ fs, (steady d t).rel w (w.withFaults fs) := fun fs => steady_ignoresFaults w fs
  have hask : ∀ {α : Type} (q : Query α) {w₁ : World}, (steady d t).rel w w₁ →
      Meets (ask q) w₁ (fun _ w' => (steady d t).rel w w')
        fun _ w' => (audit d t).rel w w' ∧ w'.db.exportTargets = w.db.exportTargets := by
    intro α q w₁ h
    refine ((keeps_ask steady_ignoresFaults q).meets w₁).mono (fun _ w' h' => (steady d t).trans h h')
      fun _ w' h' => ?_
    have hthen := (steady d t).trans h h'
    exact ⟨hthen.1.1, hthen.2⟩
  refine meets_runExport (fun fs => ⟨(hstart fs).1.1, (hstart fs).2⟩) (fun _ fs => (hstart fs).1)
    fun sensor exporter fs hfresh _ hexporter => ?_
  cases hwindow : exporter.windowing with
  | incremental =>
    dsimp only
    unfold runIncremental
    simp only [meets_bind, meets_pure]
    refine (hask _ (hstart fs)).mono (fun weather w₁ h₁ => ?_) fun _ _ h => h
    refine (meets_pushSteady hexporter (fun _ => ?_) h₁).mono (fun res w₂ h₂ => ?_) fun _ _ h => h
    · exact List.reverse_ne_nil_iff.mpr hfresh
    · exact meets_markSteady h₂
  | monthly =>
    dsimp only
    unfold runMonthly
    simp only [meets_bind, meets_pure]
    -- the months rebuilt so far have been logged without an error
    refine (meets_mapM (I := fun _ w' => (steady d t).rel w w') (fun done ym rest _ w₁ h₁ => ?_)
      (hstart fs)).mono (fun results w₂ h₂ => meets_markSteady h₂) fun _ _ h => h
    unfold rebuildMonth
    simp only [meets_bind]
    refine (hask _ h₁).mono (fun rows w₂ h₂ => ?_) fun _ _ h => h
    refine meets_pushSteady hexporter (fun hincremental => ?_) h₂
    rw [hwindow] at hincremental
    cases hincremental

/-! ## A turn -/

/-- What is new in the log is so, and an error in it stopped the run before the watermark. -/
def Accounted (d : Deps) (t : ExportTargetRow) (w w' : World) : Prop :=
  (audit d t).rel w w' ∧
    ∀ row ∈ w'.db.exportLog, row ∉ w.db.exportLog → row.status = .error →
      w'.db.exportTargets = w.db.exportTargets

/-- The log and the targets stay, and nothing done outside is undone. -/
def aside : Frame World :=
  (Frame.same fun w => (w.db.exportLog, w.db.exportTargets)).both (Frame.grows World.effects)

/-- An event is no part of it. -/
theorem aside_insertEvent {source event detail deviceId : String} {level : Level} :
    Keeps aside (insertEvent d.server source level event detail deviceId) := by
  refine keeps_statement (fun _ _ => ⟨rfl, List.prefix_refl _⟩) fun w a db' h => ?_
  simp only [Option.bind_eq_bind, Option.bind_eq_some_iff, Option.pure_def, Option.some.injEq,
    Prod.mk.injEq] at h
  obtain ⟨_, -, _, -, _, -, _, -, -, rfl⟩ := h
  exact ⟨rfl, List.prefix_refl _⟩

/-- So what comes after a run does not matter. -/
theorem Accounted.aside {w w₁ w₂ : World} (h : Accounted d t w w₁) (h' : aside.rel w₁ w₂) :
    Accounted d t w w₂ := by
  obtain ⟨hlog, htargets⟩ := Prod.mk.inj h'.1
  refine ⟨(audit d t).trans h.1 (audit_of_same hlog h'.2), fun row hrow hnew herror => ?_⟩
  exact htargets.trans (h.2 row (hlog ▸ hrow) hnew herror)

theorem accounted_clean {w w' : World} (h : (clean d t).rel w w') : Accounted d t w w' :=
  ⟨h.1, fun row hrow hnew herror => ((h.2 row hrow).resolve_left hnew herror).elim⟩

/-- A run accounts for what it logs, however it ends. -/
theorem meets_runAccounted (t : ExportTargetRow) (w : World) :
    Meets (runExport d t) w (fun _ w' => Accounted d t w w') fun _ w' => Accounted d t w w' :=
  (meets_runExport_audit t w).mono (fun _ _ h => accounted_clean h) fun _ _ h =>
    ⟨h.1, fun _ _ _ _ => h.2⟩

/-- So does a worker's turn. -/
theorem exportOnce_accounted (t : ExportTargetRow) (w : World) :
    Accounted d t w (endState (exportOnce d t w)) := by
  refine Meets.endState ?_
  unfold exportOnce
  simp only [meets_tryCatch, meets_bind, meets_ite, meets_pure]
  have hlogged : ∀ {source event detail deviceId : String} {level : Level} {w₁ : World},
      Accounted d t w w₁ →
      Meets (insertEvent d.server source level event detail deviceId) w₁ (fun _ => Accounted d t w)
        fun _ => Accounted d t w := fun {_ _ _ _ _ w₁} h =>
    (aside_insertEvent.meets w₁).mono (fun _ _ h' => h.aside h') fun _ _ h' => h.aside h'
  refine (meets_runAccounted t w).mono (fun res w₁ h₁ => ⟨fun _ => ?_, fun _ => h₁⟩) fun e w₁ h₁ =>
    hlogged h₁
  exact (hlogged h₁).mono (fun _ _ h => h) fun _ _ h => hlogged h

/-- A request that adds to the log is a run. -/
theorem serve_accounted {req : Request} {id : String}
    (hroute : route req = some (.runExportTarget id)) (w : World) :
    (endState (serve d cfg req w)).db.exportLog = w.db.exportLog ∨
      ∃ t ∈ w.db.exportTargets, d.server.same t.id id = true ∧
          Accounted d t w (endState (serve d cfg req w)) := by
  refine Meets.endState (P := fun w' => w'.db.exportLog = w.db.exportLog ∨
    ∃ t ∈ w.db.exportTargets, d.server.same t.id id = true ∧ Accounted d t w w') ?_
  unfold serve
  simp only [meets_tryCatch, meets_bind, meets_pure]
  refine meets_gate (fun fs => ?_) fun _ _ _ => Or.inl rfl
  cases webFile cfg req with
  | some res => exact Or.inl rfl
  | none =>
    simp only [hroute]
    show Meets (runExportTarget d cfg req id) _ _ _
    unfold runExportTarget
    refine meets_adminOnly (fun fs₁ _ => ?_) fun _ _ => Or.inl rfl
    unfold orError
    simp only [meets_tryCatch, meets_bind, meets_pure]
    refine meets_ask (fun _ fs₂ => ?_) fun _ _ => Or.inl rfl
    refine meets_select (fun fs₃ => ?_) fun _ => Or.inl rfl
    cases hfind : w.db.exportTargets.find? (fun r => d.server.same r.id id) with
    | none => exact Or.inl rfl
    | some t =>
      have hhold : ∀ w', Accounted d t (w.withFaults fs₃) w' →
          ∃ t ∈ w.db.exportTargets, d.server.same t.id id = true ∧ Accounted d t w w' := fun w' h =>
        ⟨t, List.mem_of_find?_eq_some hfind, by simpa using List.find?_some hfind, h⟩
      simp only [meets_bind, meets_pure]
      exact (meets_runAccounted t (w.withFaults fs₃)).mono (fun _ w' h => Or.inr (hhold w' h))
        fun _ w' h => Or.inr (hhold w' h)

/-! ## Runs -/

/-- The turn in which a row of the log was written: an export of the target, by its worker or
for an administrator. -/
structure WritesLog (d : Deps) (cfg : ApiConfig) (row : ExportLogRow) (w : World)
    (m : Moment) : Prop where
  turn : ∃ t : ExportTargetRow, Told d t (next d cfg w m) row ∧
    (m.activity = .push t ∨ ∃ req id, AdminRequest d cfg (.runExportTarget id) req w m ∧
      t ∈ w.db.exportTargets ∧ d.server.same t.id id = true)
  failed : row.status = .error → (next d cfg w m).db.exportTargets = w.db.exportTargets

/-- A row of the log is written by the statement that logs. -/
theorem step_logs {now : Int} {db db' : Db} {k : Write} {row : ExportLogRow}
    (hstep : Database.Step d.server now db k db')
    (hnot : ∀ stmt, k ≠ .schema stmt) (hold : row ∉ db.exportLog) (hnew : row ∈ db'.exportLog) :
    k = .exportLog := by
  cases hstep with
  | exportLog => rfl
  | schema stmt => exact absurd rfl (hnot stmt)
  | _ => exact absurd hnew hold

/-- Among the requests only a run writes it. -/
theorem route_of_exportLog {req : Request} (h : .exportLog ∈ touchedBy cfg req) :
    ∃ id, route req = some (.runExportTarget id) := by
  unfold touchedBy at h
  cases hroute : route req with
  | none =>
    rw [hroute] at h
    cases h
  | some e =>
    rw [hroute] at h
    change Write.exportLog ∈ e.touches cfg req at h
    cases e with
    | runExportTarget id => exact ⟨id, rfl⟩
    | dbInit =>
      obtain ⟨_, stmt, -, -, heq⟩ := mem_schemaWrites h
      cases heq
    | _ => simp [Endpoint.touches] at h

/-- Whatever the daemon does, a new row goes back to a run. -/
theorem next_logs (hschema : SchemaInert d.server cfg) {row : ExportLogRow} {w : World} {m : Moment}
    (hold : row ∉ w.db.exportLog) (hnew : ¬row ∉ (next d cfg w m).db.exportLog) : WritesLog d cfg
        row w m := by
  obtain ⟨k, hk, hnot, db, db', hstep, hdb, hdb'⟩ :=
    next_loses hschema (Q := (row ∉ Db.exportLog ·)) hold hnew
  obtain rfl := step_logs hstep hnot hdb (not_not.mp hdb')
  have hrow := not_not.mp hnew
  cases hactivity : m.activity with
  | push t =>
    have haccounted := exportOnce_accounted (d := d) t (w.facing m.outside)
    have hnext : next d cfg w m = endState (exportOnce d t (w.facing m.outside)) := by
      unfold next
      rw [hactivity]
      rfl
    rw [← hnext] at haccounted
    exact ⟨⟨t, (haccounted.1.2 row hrow).resolve_left hold, Or.inl hactivity⟩,
      haccounted.2 row hrow hold⟩
  | request req =>
    have hmem : Write.exportLog ∈ touchedBy cfg req := by
      rw [hactivity] at hk
      exact hk
    obtain ⟨id, hroute⟩ := route_of_exportLog hmem
    have hadmin := ordered_of_changed hactivity hroute rfl (Q := (row ∉ Db.exportLog ·)) hold hnew
    have hnext : next d cfg w m = endState (serve d cfg req (w.facing m.outside)) :=
      next_request hactivity
    rcases serve_accounted hroute (w.facing m.outside) with hsame | ⟨t, ht, hid, haccounted⟩
    · rw [hnext, hsame] at hrow
      exact absurd hrow hold
    · rw [← hnext] at haccounted
      exact ⟨⟨t, (haccounted.1.2 row hrow).resolve_left hold, Or.inr ⟨req, id, hadmin, ht, hid⟩⟩,
        haccounted.2 row hrow hold⟩
  | start =>
    rw [hactivity] at hk
    have hk : Write.exportLog ∈ schemaWrites cfg := by simpa [Activity.touches] using hk
    obtain ⟨_, stmt, -, -, heq⟩ := mem_schemaWrites hk
    cases heq
  | _ =>
    rw [hactivity] at hk
    simp [Activity.touches] at hk

/-- Every row of the export log goes back to an export of its target. If it reports no error, the
window it names was delivered, with the number of readings it gives, and if it reports one, no
watermark moved. -/
theorem export_log_true (hschema : SchemaInert d.server cfg) (w : World) (moments : List Moment) :
    ∀ row ∈ (run (next d cfg) w moments).db.exportLog,
      row ∈ w.db.exportLog ∨ Sometime (next d cfg) (WritesLog d cfg row) w moments := by
  intro row hrow
  by_cases hold : row ∈ w.db.exportLog
  · exact Or.inl hold
  · exact Or.inr (run_loses (Q := (row ∉ Db.exportLog ·)) (fun _ _ => next_logs hschema) hold
      (not_not.mpr hrow))

/-! ### A webhook that answers -/

/-- A sensor with one reading, and a webhook. -/
def pushSite : World where
  db :=
    { sensors := [hookSensor], exportTargets := [hookTarget]
      readings := [{ nightReading with tsUtc := "2024-05-01 00:00:00" }], next := { readings := 2 } }

/-- The worker of the target has its turn, and the endpoint answers. -/
def hookPush : Moment where
  activity := .push hookTarget
  outside := { now := 1714600000, answers := [.ok (200, "")] }

def hookLog : ExportLogRow where
  id := 1
  targetId := "T"
  tsUtc := "2024-05-01 21:46:40"
  toTs := "2024-05-01 21:46:40"
  rowCount := 1
  fileName := "webhook"
  remoteId := "http://h/"

theorem export_log_true_push : hookLog ∈ (run (next hookDeps {}) pushSite [hookPush]).db.exportLog ∧
    Sometime (next hookDeps {}) (WritesLog hookDeps {} hookLog) pushSite [hookPush] := by
  have hlogged : hookLog ∈ (run (next hookDeps {}) pushSite [hookPush]).db.exportLog := by
    decide +kernel
  exact ⟨hlogged,
      (export_log_true (schemaInert_plain _ _) pushSite [hookPush] hookLog hlogged).resolve_left
    (by decide)⟩

end NightWatcher.Daemon
