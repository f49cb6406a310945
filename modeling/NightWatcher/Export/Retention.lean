import NightWatcher.Export.Convergence

/-!
# Monthly targets: what a later version keeps

A monthly export rebuilds a file from the readings that are stored then, and
`delete_readings_before` removes readings without looking at any export target.
So a later version of a file keeps a reading of an earlier version if the
reading is still stored (`published_kept`), and drops it if it was pruned
(`pruned_reading_dropped`).

The law is about the names of the files too: two versions are of the same file
when their names are, and a name has two digits of the year, so the readings are
taken to lie within one century.
-/

namespace NightWatcher.Exporter

open Throwing TimeUtil Database Relation

/-! ## The placement of a config -/

/-- Where the files of a config go. -/
def placementOf (d : Deps) (sensor : SensorRow) (config : String) : Placement where
  tz := exportTimezone d sensor config
  stem :=
    match parseConfig d config with
    | .ok cfg => dsnStem sensor cfg
    | .error _ => ""
  dest :=
    match parseConfig d config with
    | .ok cfg =>
      match cfg.valueOr "outbox_dir" Json.getString "" with
      | .ok outbox =>
        if outbox ≠ "" then .outbox outbox
        else
          match cfg.valueOr "drive_folder_id" Json.getString "" with
          | .ok folder => .drive folder
          | .error _ => .drive ""
      | .error _ => .drive ""
    | .error _ => .drive ""

theorem places_placementOf {d : Deps} {sensor : SensorRow} {config : String}
    (htz : ∀ cfg, parseConfig d config = .ok cfg → cfg.member? "timezone" ≠ some (.str "")) :
    Places d sensor (placementOf d sensor config) config := by
  refine ⟨htz, rfl, fun cfg hcfg => ?_, fun name key hkey => ?_⟩
  · unfold placementOf
    simp only [hcfg]
  · unfold dsnDestination at hkey
    obtain ⟨cfg, hcfg, hkey⟩ := except_bind_eq_ok.mp hkey
    obtain ⟨outbox, houtbox, hkey⟩ := except_bind_eq_ok.mp hkey
    unfold placementOf
    simp only [hcfg, houtbox]
    split at hkey
    next hne =>
      rw [if_pos hne]
      exact (Except.ok.inj hkey).symm
    next hne =>
      obtain ⟨folder, hfolder, hkey⟩ := except_bind_eq_ok.mp hkey
      rw [if_neg hne]
      simp only [hfolder]
      split at hkey
      next =>
        obtain ⟨auth, -, hkey⟩ := except_bind_eq_ok.mp hkey
        exact (Except.ok.inj hkey).symm
      next => cases hkey

/-! ## Steps -/

/-- One step of the system with pruning: readings come with any timestamps. -/
inductive PruneStep (d : Deps) (targetId sensorId : String) (start : World → Prop) :
    World → World → Prop
  | insert {w : World} (o : Outside) (r : Reading) (tsUtc : String) (source : Source)
      (quality : Quality) :
      PruneStep d targetId sensorId start w
        (endState (insertReading d.server sensorId r tsUtc source quality (w.facing o)))
  | prune {w : World} (o : Outside) (before : String) :
      PruneStep d targetId sensorId start w
        (endState (deleteReadingsBefore d.server sensorId before (w.facing o)))
  | run {w : World} (o : Outside) {t : ExportTargetRow}
      (hrow : targetRow d.server w.db targetId = some t) (hstart : start w) :
      PruneStep d targetId sensorId start w (endState (runExport d t (w.facing o)))

/-- A delivered version: the file of a month, and readings of that month's window. -/
def IsVersion (d : Deps) (p : Placement) (c : Century) (key : FileKey) (ctx : ExportContext) :
    Prop :=
  ∃ ts, InCentury d.zones p.tz c ts ∧ key = p.key (localYm d.zones ts p.tz) ∧
    localMonthBoundsUtc d.zones ts p.tz = (ctx.fromTs, ctx.toTs) ∧
    ∀ r ∈ ctx.readings, tsBetween d.server ctx.fromTs ctx.toTs r.tsUtc = true

/-- What every step preserves. -/
structure Publishing (d : Deps) (sensor : SensorRow) (config : String) (c : Century)
    (targetId sensorId : String) (w : World) : Prop where
  target : ∃ t, targetRow d.server w.db targetId = some t ∧ t.target = "dsn" ∧
    t.sensorId = sensorId ∧ t.config = config
  found : w.db.sensors.find? (fun r => d.server.same r.id sensorId) = some sensor
  versions : ∀ key ctx text, Effect.deliver key ctx text ∈ w.effects →
    IsVersion d (placementOf d sensor config) c key ctx

/-- The sensor's readings lie in one century. -/
def WithinCentury (d : Deps) (tz sensorId : String) (c : Century) (w : World) : Prop :=
  ∀ r ∈ storedReadings d.server w.db sensorId, InCentury d.zones tz c r.tsUtc

section

variable {d : Deps} {sensor : SensorRow} {config : String} {c : Century}
  {targetId sensorId : String} {w w' : World}

/-- A window that holds no more than a query returns is read whole. -/
theorem windowRows_whole {lo hi : String} {r : ReadingRow}
    (hr : r ∈ storedReadings d.server w.db sensorId)
    (hbetween : tsBetween d.server lo hi r.tsUtc = true)
    (hfits : ((storedReadings d.server w.db sensorId).filter
      fun x => tsBetween d.server lo hi x.tsUtc).length ≤ kMaxRows) :
    r ∈ windowRows d.server w.db sensorId lo hi kMaxRows := by
  have hsplit : (w.db.readings.filter fun r =>
      d.server.same r.sensorId sensorId && tsBetween d.server lo hi r.tsUtc)
      = (storedReadings d.server w.db sensorId).filter fun r =>
        tsBetween d.server lo hi r.tsUtc := by
    rw [storedReadings, List.filter_filter]
    exact List.filter_congr fun r _ => Bool.and_comm _ _
  unfold windowRows
  rw [hsplit, clampLimit_kMaxRows, List.take_of_length_le (by rw [List.length_mergeSort]; exact hfits)]
  exact List.mem_mergeSort.mpr (List.mem_filter.mpr ⟨hr, hbetween⟩)

theorem mem_freshOf {now : Int} {t : ExportTargetRow} {r : ReadingRow}
    (h : r ∈ freshOf d w.db now t) : r ∈ storedReadings d.server w.db t.sensorId := by
  unfold freshOf freshReadings at h
  split at h
  · exact (mem_windowRows h).1
  · exact (mem_windowRows (List.mem_of_mem_filter h)).1

/-- Where nothing is exported, nothing is published. -/
theorem Publishing.congr (h : Publishing d sensor config c targetId sensorId w)
    (ht : w'.db.exportTargets = w.db.exportTargets) (hs : w'.db.sensors = w.db.sensors)
    (he : w'.effects = w.effects) : Publishing d sensor config c targetId sensorId w' := by
  refine ⟨?_, by rw [hs]; exact h.found, by rw [he]; exact h.versions⟩
  rw [targetRow, ht]
  exact h.target

/-- What a run delivers: files of the months its fresh readings are in, each with the whole window
as stored then. -/
theorem versions_delivered {t : ExportTargetRow} {fresh : List ReadingRow}
    (hsensor : t.sensorId = sensorId) (hconfig : t.config = config)
    (hfresh : ∀ r ∈ fresh, InCentury d.zones (placementOf d sensor config).tz c r.tsUtc)
    (h : DeliversMonths d sensor (placementOf d sensor config) t.config t.sensorId fresh w w') :
    ∃ new, w'.effects = w.effects ++ new ∧ ∀ key ctx text, Effect.deliver key ctx text ∈ new →
      IsVersion d (placementOf d sensor config) c key ctx ∧
        ctx.readings = (windowRows d.server w.db sensorId ctx.fromTs ctx.toTs kMaxRows).reverse ∧
        DatOf d sensor config ctx.readings text := by
  obtain ⟨new, heffects, hmonths⟩ := h
  refine ⟨new, heffects, fun key ctx text hmem => ?_⟩
  obtain ⟨⟨ym, hkey, hctx, r, hr, hym, hbounds, hrows⟩, htext⟩ := hmonths key ctx text hmem
  have hdat := datOf_formatDsnDat htext
  rw [hctx, hconfig] at hdat
  have hrows : ctx.readings
      = (windowRows d.server w.db sensorId ctx.fromTs ctx.toTs kMaxRows).reverse := hsensor ▸ hrows
  refine ⟨⟨r.tsUtc, hfresh r hr, by rw [hkey, hym], hbounds, fun x hx => ?_⟩, hrows, hdat⟩
  rw [hrows] at hx
  exact (mem_windowRows (List.mem_reverse.mp hx)).2

/-- The versions of one run: files of months, each the whole window as stored then. -/
theorem meets_run_versions (law : MonthLaw d.zones (exportTimezone d sensor config))
    (htz : ∀ cfg, parseConfig d config = .ok cfg → cfg.member? "timezone" ≠ some (.str ""))
    (hI : Publishing d sensor config c targetId sensorId w)
    (hcentury : WithinCentury d (exportTimezone d sensor config) sensorId c w) (o : Outside)
    {t : ExportTargetRow} (hrow : targetRow d.server w.db targetId = some t) :
    let P := fun w' => Publishing d sensor config c targetId sensorId w' ∧
      ∃ new, w'.effects = w.effects ++ new ∧ ∀ key ctx text, Effect.deliver key ctx text ∈ new →
        IsVersion d (placementOf d sensor config) c key ctx ∧
          ctx.readings = (windowRows d.server w.db sensorId ctx.fromTs ctx.toTs kMaxRows).reverse ∧
          DatOf d sensor config ctx.readings text
    Meets (runExport d t) (w.facing o) (fun _ => P) (fun _ => P) := by
  intro P
  obtain ⟨t', hrow', hkind, hsensor, hconfig⟩ := hI.target
  obtain rfl : t = t' := Option.some.inj (hrow.symm.trans hrow')
  have hfresh : ∀ r ∈ freshOf d w.db o.now t,
      InCentury d.zones (placementOf d sensor config).tz c r.tsUtc := by
    intro r hr
    exact hcentury r (hsensor ▸ mem_freshOf hr)
  -- neither the target nor the sensor is changed but for the watermark
  have hkept : ∀ w' : World, (∃ t', targetRow d.server w'.db targetId = some t' ∧ t'.target = "dsn" ∧
        t'.sensorId = sensorId ∧ t'.config = config) → w'.db.sensors = w.db.sensors →
      DeliversMonths d sensor (placementOf d sensor config) t.config t.sensorId
        (freshOf d w.db o.now t) (w.facing o) w' → P w' := by
    intro w' htarget hs hdel
    obtain ⟨new, heffects, hnew⟩ := versions_delivered hsensor hconfig hfresh hdel
    refine ⟨⟨htarget, by rw [hs]; exact hI.found, fun key ctx text hmem => ?_⟩, new, heffects, hnew⟩
    rw [heffects] at hmem
    rcases List.mem_append.mp hmem with hold | hmem
    · exact hI.versions key ctx text hold
    · exact (hnew key ctx text hmem).1
  -- a run that threw has written part of it, and no watermark
  have htouch : ∀ w' : World, Touches d sensor (placementOf d sensor config) t.config t.sensorId
      (freshOf d w.db o.now t) (w.facing o) w' → P w' := by
    intro w' h
    refine hkept w' ?_ (untouched_sensors h.same) h.delivered
    have ht : w'.db.exportTargets = w.db.exportTargets := untouched_targets h.same
    rw [targetRow, ht]
    exact hI.target
  have hp : Places d sensor (placementOf d sensor config) t.config := by
    rw [hconfig]
    exact places_placementOf htz
  have hspec := meets_runExport_dsn (c := c) hkind hp law (w.facing o)
    (by rw [hsensor]; exact hI.found) hfresh
  refine hspec.mono (fun _ w' h => ?_) (fun _ w' h => htouch w' h)
  rcases h with ⟨-, h⟩ | ⟨-, h⟩
  · exact htouch w' h
  · exact hkept w' ⟨{ t with lastExportTs := newestTs (freshOf d w.db o.now t) },
      targetRow_marked hrow h.targets, hkind, hsensor, hconfig⟩ h.sensors h.delivered

/-- Insertions and prunes do not touch what an export is about. -/
def aside : Frame World :=
  Frame.same fun w => (w.db.exportTargets, w.db.sensors, w.effects)

theorem aside_ignoresFaults : IgnoresFaults aside := fun _ _ => rfl

theorem keeps_insertReading {r : Reading} {tsUtc : String} {source : Source} {quality : Quality} :
    Keeps aside (insertReading d.server sensorId r tsUtc source quality) :=
  insertReading_frame aside_ignoresFaults fun _ _ _ => rfl

theorem keeps_deleteReadingsBefore {before : String} :
    Keeps aside (deleteReadingsBefore d.server sensorId before) :=
  deleteReadingsBefore_frame aside_ignoresFaults fun _ _ => rfl

theorem Publishing.aside (h : Publishing d sensor config c targetId sensorId w)
    (hw : Exporter.aside.rel w w') : Publishing d sensor config c targetId sensorId w' := by
  obtain ⟨ht, hrest⟩ := Prod.mk.inj hw
  obtain ⟨hs, he⟩ := Prod.mk.inj hrest
  exact h.congr ht hs he

theorem PruneStep.publishing (law : MonthLaw d.zones (exportTimezone d sensor config))
    (htz : ∀ cfg, parseConfig d config = .ok cfg → cfg.member? "timezone" ≠ some (.str ""))
    (h : PruneStep d targetId sensorId
      (WithinCentury d (exportTimezone d sensor config) sensorId c) w w')
    (hI : Publishing d sensor config c targetId sensorId w) :
    Publishing d sensor config c targetId sensorId w' := by
  cases h with
  | insert o r tsUtc source quality =>
    have hstart : Publishing d sensor config c targetId sensorId (w.facing o) := hI.congr rfl rfl rfl
    exact hstart.aside (keeps_insertReading _)
  | prune o before =>
    have hstart : Publishing d sensor config c targetId sensorId (w.facing o) := hI.congr rfl rfl rfl
    exact hstart.aside (keeps_deleteReadingsBefore _)
  | run o hrow hstart =>
    exact Meets.endState ((meets_run_versions law htz hI hstart o hrow).mono
      (fun _ _ h => h.1) (fun _ _ h => h.1))

theorem publishing_of_run (law : MonthLaw d.zones (exportTimezone d sensor config))
    (htz : ∀ cfg, parseConfig d config = .ok cfg → cfg.member? "timezone" ≠ some (.str ""))
    (h0 : Publishing d sensor config c targetId sensorId w)
    (hrun : ReflTransGen (PruneStep d targetId sensorId
      (WithinCentury d (exportTimezone d sensor config) sensorId c)) w w') :
    Publishing d sensor config c targetId sensorId w' := by
  induction hrun with
  | refl => exact h0
  | tail _ hstep ih => exact hstep.publishing law htz ih

/-- Two versions of one file are cut from one window. -/
theorem IsVersion.same_window {p : Placement} (law : MonthLaw d.zones p.tz) {key : FileKey}
    {ctx ctx' : ExportContext} (h : IsVersion d p c key ctx) (h' : IsVersion d p c key ctx') :
    ctx.fromTs = ctx'.fromTs ∧ ctx.toTs = ctx'.toTs := by
  obtain ⟨ts, hts, hkey, hbounds, -⟩ := h
  obtain ⟨ts', hts', hkey', hbounds', -⟩ := h'
  have hname := p.key_inj (hkey.symm.trans hkey')
  have heq := bounds_congr law hts hts' (ym_of_yymm law hts hts' hname)
  rw [hbounds, hbounds'] at heq
  exact Prod.mk.inj heq

/-- Every version of the file `key` that was delivered on the way has a line of `r`, under the
target's config, if the file's month holds no more readings than a query returns. -/
def VersionsHold (d : Deps) (sensor : SensorRow) (config sensorId : String) (key : FileKey)
    (r : ReadingRow) (w w' : World) : Prop :=
  ∃ new, w'.effects = w.effects ++ new ∧ ∀ ctx text, Effect.deliver key ctx text ∈ new →
    ((storedReadings d.server w.db sensorId).filter
      fun x => tsBetween d.server ctx.fromTs ctx.toTs x.tsUtc).length ≤ kMaxRows →
    r ∈ ctx.readings ∧ DatOf d sensor config ctx.readings text

/-- After any insertions, prunes and exports: a reading that was in a delivered version
of a file and is still stored is in the version of it that the next export delivers. -/
theorem published_kept (law : MonthLaw d.zones (exportTimezone d sensor config))
    (htz : ∀ cfg, parseConfig d config = .ok cfg → cfg.member? "timezone" ≠ some (.str ""))
    {w₀ w₁ w₂ : World} (h0 : Publishing d sensor config c targetId sensorId w₀)
    (hrun₁ : ReflTransGen (PruneStep d targetId sensorId
      (WithinCentury d (exportTimezone d sensor config) sensorId c)) w₀ w₁)
    {key : FileKey} {ctx : ExportContext} {text : String}
    (hpublished : Effect.deliver key ctx text ∈ w₁.effects) {r : ReadingRow} (hr : r ∈ ctx.readings)
    (hrun₂ : ReflTransGen (PruneStep d targetId sensorId
      (WithinCentury d (exportTimezone d sensor config) sensorId c)) w₁ w₂)
    (hstored : r ∈ storedReadings d.server w₂.db sensorId) (o : Outside) {t : ExportTargetRow}
    (hrow : targetRow d.server w₂.db targetId = some t)
    (hstart : WithinCentury d (exportTimezone d sensor config) sensorId c w₂) :
    VersionsHold d sensor config sensorId key r w₂ (endState (runExport d t (w₂.facing o))) := by
  have hI₁ := publishing_of_run law htz h0 hrun₁
  have hI₂ := publishing_of_run law htz hI₁ hrun₂
  have hversion := hI₁.versions key ctx text hpublished
  have hin : tsBetween d.server ctx.fromTs ctx.toTs r.tsUtc = true := by
    obtain ⟨-, -, -, -, hbetween⟩ := hversion
    exact hbetween r hr
  have hrun := Meets.endState (meets_run_versions law htz hI₂ hstart o hrow)
  obtain ⟨-, new, heffects, hnew⟩ := hrun
  refine ⟨new, heffects, fun ctx' text' hmem hfits => ?_⟩
  obtain ⟨hversion', hrows, htext⟩ := hnew key ctx' text' hmem
  -- the same file is the same month, and the same month is the same window
  obtain ⟨hfrom, hto⟩ := hversion.same_window law hversion'
  rw [hfrom, hto] at hin
  refine ⟨?_, htext⟩
  rw [hrows, List.mem_reverse]
  exact windowRows_whole hstored hin hfits

end

/-! ## A prune that cuts into a month -/

/-- The file can be written. -/
abbrev februaryMorning : Outside := morning none

theorem alone_prune {r : ReadingRow} {mark bound : String} {w : World} (h : Alone r mark w)
    (hsensor : r.sensorId = "S") (hold : r.tsUtc < bound) :
    Meets (deleteReadingsBefore phoenixDeps.server "S" bound) (w.facing februaryMorning)
      (fun _ w' => w'.db.sensors = [phoenixSensor] ∧ w'.db.readings = [] ∧
        w'.db.exportTargets = w.db.exportTargets ∧ w'.effects = w.effects)
      (fun _ _ => False) := by
  have hgone : (phoenixDeps.server.same r.sensorId "S" && decide (r.tsUtc < bound)) = true := by
    rw [hsensor, decide_eq_true hold]
    rfl
  have hnone : w.db.readings.filter (fun r =>
      !(phoenixDeps.server.same r.sensorId "S" && decide (r.tsUtc < bound))) = [] := by
    rw [h.readings]
    simp only [List.filter_cons, hgone, Bool.not_true, Bool.false_eq_true, if_false, List.filter_nil]
  exact ⟨h.sensors, hnone, rfl, rfl⟩

/-- What the sensor reports a second later. -/
def nextReading : Reading := { magArcsec2 := 21, tempC := 10 }

theorem february_insert {ts : String} {w : World} (hsensors : w.db.sensors = [phoenixSensor])
    (hnew : ∀ x ∈ w.db.readings, x.tsUtc ≠ ts) (hts : ts ≠ "") :
    Meets (insertReading phoenixDeps.server "S" nextReading ts .poll .ok) (w.facing februaryMorning)
      (fun _ w' => ∃ row : ReadingRow, row.sensorId = "S" ∧ row.tsUtc = ts ∧
        w'.db.readings = w.db.readings ++ [row] ∧ aside.rel w w')
      (fun _ _ => False) := by
  have hstamp : timestampOrNow phoenixDeps.server februaryMorning.now ts = some ts := if_neg hts
  have hfresh : w.db.readings.any (fun x =>
      phoenixDeps.server.same x.sensorId "S" && decide (x.tsUtc = ts)) = false := by
    rw [List.any_eq_false]
    intro x hx
    simp [hnew x hx]
  have hknown : w.db.sensors.any (fun x => phoenixDeps.server.same x.id "S") = true := by
    rw [hsensors]
    rfl
  unfold Meets insertReading statement
  simp only [World.facing, hstamp, Option.getD_some]
  have hid : phoenixDeps.server.ignoreText (.varchar 32) "S" = "S" := rfl
  simp only [hid, hfresh, hknown]
  exact ⟨_, rfl, rfl, rfl, rfl⟩

/-- The second after the first of February. -/
def secondStamp : String := fmtSqlUtc 2703601

/-- After the prune and the insertion, the next export delivers the second reading alone. -/
theorem second_export {r : ReadingRow} {w : World} (h : Alone r firstStamp w)
    (hsensor : r.sensorId = "S") (hts : r.tsUtc = secondStamp) :
    Meets (runExport phoenixDeps { phoenixTarget with lastExportTs := firstStamp })
      (w.facing februaryMorning)
      (fun _ w' => ∃ ctx text, ctx.readings = [r] ∧
        w'.effects = w.effects ++ [.deliver februaryKey ctx text])
      (fun _ _ => False) := by
  have hlater : ¬r.tsUtc ≤ firstStamp := by
    rw [hts]
    decide
  have hfresh : freshReadings firstStamp [r] = [r] := by
    unfold freshReadings
    rw [if_neg (by decide), List.filter_cons_of_pos (by simpa using hlater), List.filter_nil]
  have hnewest : newestTs [r] = r.tsUtc := by
    unfold newestTs
    rw [List.foldl_cons, List.foldl_nil, hts]
    decide
  refine (alone_run h none hsensor ?_ hfresh ?_ ?_ ?_ ?_ hnewest).mono (fun _ _ h => ?_)
    (fun _ _ h => h)
  on_goal 6 =>
    obtain ⟨-, ctx, text, hctx, heffects, -⟩ := h
    exact ⟨ctx, text, hctx, heffects⟩
  all_goals rw [hts]
  · decide
  · decide
  · decide
  · decide
  · exact ⟨2703601, by decide, rfl⟩

/-- A prune between two exports of February takes the first reading back: the second
version of the file does not contain it. -/
theorem pruned_reading_dropped :
    ∃ res w₁ w₂ w₃ res' w₄,
      runExport phoenixDeps phoenixTarget (februaryWorld.facing februaryMorning) = .ok res w₁ ∧
      endState (deleteReadingsBefore phoenixDeps.server "S" secondStamp
        (w₁.facing februaryMorning)) = w₂ ∧
      endState (insertReading phoenixDeps.server "S" nextReading secondStamp .poll .ok
        (w₂.facing februaryMorning)) = w₃ ∧
      targetRow phoenixDeps.server w₃.db "T" = some { phoenixTarget with lastExportTs := firstStamp } ∧
      runExport phoenixDeps { phoenixTarget with lastExportTs := firstStamp }
        (w₃.facing februaryMorning) = .ok res' w₄ ∧
      ∃ ctx text ctx' text', w₁.effects = [.deliver februaryKey ctx text] ∧
        w₄.effects = w₁.effects ++ [.deliver februaryKey ctx' text'] ∧
        firstReading ∈ ctx.readings ∧ firstReading ∉ ctx'.readings := by
  obtain ⟨res, w₁, hrun₁, halone, ctx, text, hctx, heffects, -⟩ := (first_export none).returns
  have hbefore : firstReading.tsUtc < secondStamp := by decide
  obtain ⟨n, w₂, hprune, hsensors, hreadings, htargets, heffects₂⟩ :=
    (alone_prune halone rfl hbefore).returns
  have hnew : ∀ x ∈ w₂.db.readings, x.tsUtc ≠ secondStamp := by
    rw [hreadings]
    simp
  obtain ⟨n', w₃, hinsert, row, hrow, hts, hreadings₃, haside⟩ :=
    (february_insert hsensors hnew (by decide)).returns
  obtain ⟨htargets₃, hrest⟩ := Prod.mk.inj haside
  obtain ⟨hsensors₃, heffects₃⟩ := Prod.mk.inj hrest
  have halone₃ : Alone row firstStamp w₃ := by
    refine ⟨by rw [hsensors₃, hsensors], by rw [hreadings₃, hreadings]; rfl, ?_⟩
    rw [htargets₃, htargets, halone.targets]
  obtain ⟨res', w₄, hrun₂, ctx', text', hctx', heffects₄⟩ := (second_export halone₃ hrow hts).returns
  refine ⟨res, w₁, w₂, w₃, res', w₄, hrun₁, by rw [hprune]; rfl, by rw [hinsert]; rfl, ?_, hrun₂,
    ctx, text, ctx', text', heffects, ?_, by rw [hctx]; exact List.mem_singleton_self _, ?_⟩
  · rw [targetRow, halone₃.targets]
    rfl
  · rw [heffects₄, heffects₃, heffects₂]
  · -- the two readings differ in their timestamps
    rw [hctx', List.mem_singleton]
    intro heq
    have hsame : firstReading.tsUtc = secondStamp := by rw [heq, hts]
    exact absurd hsame (by decide)

/-- After the first export, and after the next reading. -/
def exportedWorld : World :=
  endState (runExport phoenixDeps phoenixTarget (februaryWorld.facing februaryMorning))

def keptWorld : World :=
  endState (insertReading phoenixDeps.server "S" nextReading secondStamp .poll .ok
    (exportedWorld.facing februaryMorning))

theorem february_publishing :
    Publishing phoenixDeps phoenixSensor phoenixConfig phoenixCentury "T" "S" februaryWorld :=
  ⟨⟨phoenixTarget, rfl, rfl, rfl, rfl⟩, rfl, fun _ _ _ h => absurd h List.not_mem_nil⟩

/-- With no prune in between, the second version holds the first reading. -/
theorem published_kept_february :
    VersionsHold phoenixDeps phoenixSensor phoenixConfig "S" februaryKey firstReading keptWorld
      (endState (runExport phoenixDeps { phoenixTarget with lastExportTs := firstStamp }
        (keptWorld.facing februaryMorning))) := by
  -- the first run publishes the one reading
  obtain ⟨res, w₁, hrun₁, halone, ctx, text, hctx, heffects, -⟩ := (first_export none).returns
  have hw₁ : exportedWorld = w₁ := by rw [exportedWorld, hrun₁]; rfl
  have hnew : ∀ x ∈ w₁.db.readings, x.tsUtc ≠ secondStamp := by
    rw [halone.readings]
    simp only [List.mem_singleton, forall_eq]
    decide
  -- then a second reading comes in
  obtain ⟨n, w₂, hinsert, row, hrow, hts, hreadings, haside⟩ :=
    (february_insert halone.sensors hnew (by decide)).returns
  have hw₂ : keptWorld = w₂ := by rw [keptWorld, hw₁, hinsert]; rfl
  have hstored : storedReadings phoenixDeps.server w₂.db "S" = [firstReading, row] := by
    rw [storedReadings, hreadings, halone.readings]
    simp only [List.singleton_append, List.filter_cons, hrow]
    rfl
  obtain ⟨htargets, -⟩ := Prod.mk.inj haside
  have hcentury : ∀ r ∈ [firstReading, row],
      InCentury phoenixDeps.zones "America/Phoenix" phoenixCentury r.tsUtc := by
    intro r hr
    rcases List.mem_cons.mp hr with rfl | hr
    · exact february_century (Or.inl rfl)
    · rw [List.mem_singleton.mp hr, hts]
      exact february_century (Or.inr rfl)
  have hstart : WithinCentury phoenixDeps "America/Phoenix" "S" phoenixCentury w₂ := by
    unfold WithinCentury
    rw [hstored]
    exact hcentury
  have hstart₀ : WithinCentury phoenixDeps "America/Phoenix" "S" phoenixCentury februaryWorld := by
    intro r hr
    exact hcentury r (List.mem_cons.mpr (Or.inl (List.mem_singleton.mp hr)))
  have hoff : |offsetOf (fun _ => -25200) "America/Phoenix"| < 86400 := by decide
  have hrow₂ : targetRow phoenixDeps.server w₂.db "T"
      = some { phoenixTarget with lastExportTs := firstStamp } := by
    rw [targetRow, htargets, halone.targets]
    rfl
  have hfirst : PruneStep phoenixDeps "T" "S"
      (WithinCentury phoenixDeps "America/Phoenix" "S" phoenixCentury) februaryWorld exportedWorld :=
    .run februaryMorning rfl hstart₀
  have hsecond : PruneStep phoenixDeps "T" "S"
      (WithinCentury phoenixDeps "America/Phoenix" "S" phoenixCentury) exportedWorld keptWorld :=
    .insert februaryMorning nextReading secondStamp .poll .ok
  rw [hw₁] at hfirst hsecond
  rw [hw₂] at hsecond ⊢
  exact published_kept (monthLaw_fixed hoff) phoenix_places.timezone february_publishing
    (ReflTransGen.single hfirst) (by rw [heffects]; exact List.mem_singleton_self _)
    (by rw [hctx]; exact List.mem_singleton_self _) (ReflTransGen.single hsecond)
    (by rw [hstored]; exact List.mem_cons_self) februaryMorning hrow₂ hstart

end NightWatcher.Exporter
