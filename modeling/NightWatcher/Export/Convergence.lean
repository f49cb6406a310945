import Mathlib.Tactic.IntervalCases
import NightWatcher.Export.Monthly
import NightWatcher.Lib.Watermark

/-!
# Monthly targets: the files catch up

A DSN target is a `Watermark.Archive`: its items are the stored readings, the
buckets their local months, and a month's file holds what was rendered into it.
Insertions, edits of the config and runs that fail anywhere are steps of the
archive (`Step.archive`), so a month whose file is behind still has a reading
above the watermark, and the next run that goes through brings every file up to
date (`months_complete`).

That is so where the destination writes what it reports (`Placement.Sound`). A last
write that an outbox loses unseen leaves a month cut short, its readings below the
watermark (`month_cut_short`).
-/

namespace NightWatcher.Exporter

open Throwing TimeUtil Database Relation Watermark

/-- The local month of a reading, by name. -/
def monthName (d : Deps) (p : Placement) (r : ReadingRow) : String := localYm d.zones r.tsUtc p.tz

/-- What the file of a month holds: a header and these readings, one line each, under a config
that the target was given. -/
def Rendered (d : Deps) (sensor : SensorRow) (p : Placement) (configs : String → Prop) (w : World)
    (ym : String) (rows : List ReadingRow) : Prop :=
  ∃ config text, configs config ∧ DatOf d sensor config rows text ∧
    w.files (p.key ym) = some text

/-- For every local month with a stored reading, its file holds exactly the stored
readings of that month, in the order of their timestamps. -/
def MonthsComplete (d : Deps) (sensor : SensorRow) (p : Placement) (configs : String → Prop)
    (sensorId : String) (w : World) : Prop :=
  ∀ r ∈ storedReadings d.server w.db sensorId, ∃ rows,
    Rendered d sensor p configs w (monthName d p r) rows ∧ Ordered rows ∧
      ∀ x, x ∈ rows ↔ x ∈ storedReadings d.server w.db sensorId ∧ monthName d p x = monthName d p r

/-- At most `kMaxRows` readings, within one century. -/
def Fits (d : Deps) (p : Placement) (c : Century) (sensorId : String) (w : World) : Prop :=
  (storedReadings d.server w.db sensorId).length ≤ kMaxRows ∧
    ∀ r ∈ storedReadings d.server w.db sensorId, InCentury d.zones p.tz c r.tsUtc

/-- The target is given certain configs; exports start with what fits, and the destination writes
what it reports to them. -/
def convergenceTerms (d : Deps) (p : Placement) (c : Century) (configs : String → Prop)
    (sensorId : String) : Terms where
  config := configs
  start w := Fits d p c sensorId w ∧ p.Sound w.transfers

/-- The archive a DSN target implements, on the months of a century. -/
def archiveOf (d : Deps) (sensor : SensorRow) (p : Placement) (c : Century)
    (configs : String → Prop) (targetId sensorId : String) (w : World) : Archive ReadingRow String
        String where
  stored := storedReadings d.server w.db sensorId
  mark := watermark d.server w.db targetId
  holds ym rows := (∃ ts, InCentury d.zones p.tz c ts ∧ localYm d.zones ts p.tz = ym) ∧
    Rendered d sensor p configs w ym rows

/-- What the steps preserve besides `Tracked`. -/
structure Archiving (d : Deps) (sensor : SensorRow) (configs : String → Prop)
    (targetId sensorId : String) (w : World) : Prop extends
    Tracked d "dsn" targetId sensorId w where
  found : w.db.sensors.find? (fun r => d.server.same r.id sensorId) = some sensor
  config : ∀ t, targetRow d.server w.db targetId = some t → configs t.config

section

variable {d : Deps} {sensor : SensorRow} {p : Placement} {c : Century} {configs : String → Prop}
  {targetId sensorId : String} {w w' : World}

/-- With at most `kMaxRows` readings the window of a month is read whole. -/
theorem windowRows_month {offset : String → Int} (hz : d.zones = Zones.fixed offset)
    (hoff : |offsetOf offset p.tz| < 86400)
    (hord : Ordered (storedReadings d.server w.db sensorId)) (hfits : Fits d p c sensorId w)
    {r : ReadingRow} (hr : r ∈ storedReadings d.server w.db sensorId) :
    (windowRows d.server w.db sensorId (localMonthBoundsUtc d.zones r.tsUtc p.tz).1
        (localMonthBoundsUtc d.zones r.tsUtc p.tz).2 kMaxRows).reverse
      = Archive.contents (monthName d p) (archiveOf d sensor p c configs targetId sensorId w)
          (monthName d p r) := by
  have href := hfits.2 r hr
  have hstamps := window_stamps hoff (hz ▸ href)
  rw [← hz] at hstamps
  have hlen : ∀ q : ReadingRow → Bool,
      ((storedReadings d.server w.db sensorId).filter q).reverse.length ≤ kMaxRows := by
    intro q
    rw [List.length_reverse]
    exact le_trans (List.length_filter_le _ _) hfits.1
  rw [windowRows_eq hord, clampLimit_kMaxRows, List.take_of_length_le (hlen _), List.reverse_reverse]
  refine List.filter_congr fun x hx => ?_
  have hiff := window_fixed hoff (hz ▸ href) (hz ▸ hfits.2 x hx)
  rw [← hz] at hiff
  unfold tsBetween
  rw [hstamps.1.datetime, hstamps.2.datetime]
  simp only [hstamps.1.ne_empty, hstamps.2.ne_empty, decide_false, Bool.false_or, Option.any_some]
  unfold monthName
  rw [← Bool.decide_and]
  exact decide_eq_decide.mpr hiff

/-- Where the readings, the mark and the files are as before, so is the archive. -/
theorem archiveOf_congr (hr : w'.db.readings = w.db.readings)
    (hm : watermark d.server w'.db targetId = watermark d.server w.db targetId)
    (hf : w'.files = w.files) :
    archiveOf d sensor p c configs targetId sensorId w' = archiveOf d sensor p c configs targetId
        sensorId w := by
  simp only [archiveOf, storedReadings, Rendered, hr, hm, hf]

/-- A month that is not affected keeps its file. -/
theorem holds_of_others (law : MonthLaw d.zones p.tz) {fresh : List ReadingRow}
    (hfresh : ∀ r ∈ fresh, InCentury d.zones p.tz c r.tsUtc)
    (hothers : ∀ key, (∀ r ∈ fresh, key ≠ p.key (localYm d.zones r.tsUtc p.tz)) →
      w'.files key = w.files key)
    {ym : String} {rows : List ReadingRow} (hnot : ∀ r ∈ fresh, monthName d p r ≠ ym)
    (h : (archiveOf d sensor p c configs targetId sensorId w).holds ym rows) :
    (archiveOf d sensor p c configs targetId sensorId w').holds ym rows := by
  obtain ⟨⟨ts, hts, rfl⟩, config, text, hconfig, htext, hfile⟩ := h
  refine ⟨⟨ts, hts, rfl⟩, config, text, hconfig, htext, ?_⟩
  rw [hothers _ fun r hr hkey => ?_, hfile]
  exact hnot r hr (ym_of_yymm law hts (hfresh r hr) (p.key_inj hkey)).symm

/-- The backlog is the months' pending readings. -/
theorem mem_backlog {wm : String} {r : ReadingRow} :
    r ∈ backlog d.server w.db sensorId wm ↔
      r ∈ storedReadings d.server w.db sensorId ∧ wm < r.tsUtc := by
  unfold backlog
  rw [List.mem_filter, decide_eq_true_eq]

/-- What a run leaves when it moves nothing but files of affected months. -/
theorem Archiving.congr (h : Archiving d sensor configs targetId sensorId w)
    (hr : w'.db.readings = w.db.readings) (ht : w'.db.exportTargets = w.db.exportTargets)
    (hs : w'.db.sensors = w.db.sensors) :
    Archiving d sensor configs targetId sensorId w' := by
  refine ⟨h.toTracked.congr hr ht, by rw [hs]; exact h.found, fun t hrow => h.config t ?_⟩
  rw [targetRow, ht] at hrow
  exact hrow

/-- An insertion is a step of the archive, or changes nothing in it. -/
theorem insert_archive {o : Outside} {r : Reading} {tsUtc : String} {source : Source}
    {quality : Quality} {u : Int}
    (hts : timestampOrNow d.server o.now tsUtc = some (fmtSqlUtc u)) (hu : InYears u)
    (hnew : ∀ x ∈ storedReadings d.server w.db sensorId, x.tsUtc < fmtSqlUtc u)
    (hI : Archiving d sensor configs targetId sensorId w) :
    let w' := endState (insertReading d.server sensorId r tsUtc source quality (w.facing o))
    Archiving d sensor configs targetId sensorId w' ∧
      ReflTransGen (Archive.Step ReadingRow.tsUtc (monthName d p))
        (archiveOf d sensor p c configs targetId sensorId w)
        (archiveOf d sensor p c configs targetId sensorId w') := by
  refine Meets.endState (P := fun w' => Archiving d sensor configs targetId sensorId w' ∧
    ReflTransGen (Archive.Step ReadingRow.tsUtc (monthName d p))
      (archiveOf d sensor p c configs targetId sensorId w)
          (archiveOf d sensor p c configs targetId sensorId w'))
    (meets_insertReading hts (fun row hrow next fs => ?_) (fun next fs => ?_))
  · have hstamp : IsStamp row.tsUtc := ⟨u, hu, hrow⟩
    rw [← hrow] at hnew
    -- the row may be another sensor's, and then nothing of the archive moves
    rcases storedReadings_append d.server w.db sensorId row next with hsame | happ
    · have hI' : Archiving d sensor configs targetId sensorId { w.facing o with
          db := { w.db with readings := w.db.readings ++ [row], next := next }, dbFaults := fs } :=
        ⟨⟨hI.target, hsame.symm ▸ hI.ordered, hsame.symm ▸ hI.stamped, hsame.symm ▸ hI.marked⟩,
          hI.found, hI.config⟩
      refine ⟨hI', ?_⟩
      have heq : archiveOf d sensor p c configs targetId sensorId { w.facing o with
          db := { w.db with readings := w.db.readings ++ [row], next := next }, dbFaults := fs }
          = archiveOf d sensor p c configs targetId sensorId w := by
        simp only [archiveOf, hsame]
        rfl
      exact heq ▸ ReflTransGen.refl
    · refine ⟨⟨hI.toTracked.append rfl hstamp hnew happ, hI.found, hI.config⟩, ?_⟩
      have hstep : Archive.Step ReadingRow.tsUtc (monthName d p)
          (archiveOf d sensor p c configs targetId sensorId w)
          { archiveOf d sensor p c configs targetId sensorId w with
            stored := (archiveOf d sensor p c configs targetId sensorId w).stored ++ [row] } :=
        .store (hI.toTracked.watermark_lt hstamp hnew)
      have heq : archiveOf d sensor p c configs targetId sensorId { w.facing o with
          db := { w.db with readings := w.db.readings ++ [row], next := next }, dbFaults := fs }
          = { archiveOf d sensor p c configs targetId sensorId w with
              stored := (archiveOf d sensor p c configs targetId sensorId w).stored ++ [row] } := by
        simp only [archiveOf, happ]
        rfl
      exact heq ▸ ReflTransGen.single hstep
  -- the insertion failed
  · refine ⟨hI.congr rfl rfl rfl, ?_⟩
    have heq : archiveOf d sensor p c configs targetId sensorId
        { w.facing o with db := { w.db with next := next }, dbFaults := fs }
        = archiveOf d sensor p c configs targetId sensorId w := archiveOf_congr rfl rfl rfl
    exact heq ▸ ReflTransGen.refl

/-- Editing the config is nothing to the archive. -/
theorem configure_archive {config : String} (hconfig : configs config)
    (hI : Archiving d sensor configs targetId sensorId w) :
    Archiving d sensor configs targetId sensorId (configured d.server w targetId config) ∧
      archiveOf d sensor p c configs targetId sensorId (configured d.server w targetId config)
        = archiveOf d sensor p c configs targetId sensorId w := by
  obtain ⟨hI', hmark⟩ := hI.toTracked.edit config
  obtain ⟨t, hrow, -, -⟩ := hI.target
  have hrow' : targetRow d.server (configured d.server w targetId config).db targetId
      = some { t with config := config } :=
    find?_changeTarget (g := fun r => { r with config := config }) (fun _ => rfl) hrow
  refine ⟨⟨hI', hI.found, fun t' ht' => ?_⟩, archiveOf_congr rfl hmark rfl⟩
  obtain rfl := Option.some.inj (hrow'.symm.trans ht')
  exact hconfig

/-- A run is an attempt of the archive, or brings every file up to date. -/
theorem meets_run_archive {offset : String → Int} (hz : d.zones = Zones.fixed offset)
    (hoff : |offsetOf offset p.tz| < 86400)
    (hplaces : ∀ config, configs config → Places d sensor p config) {o : Outside}
    {t : ExportTargetRow}
    (hrow : targetRow d.server w.db targetId = some t) (hnow : InYears o.now)
    (hclock : ∀ x ∈ storedReadings d.server w.db sensorId, x.tsUtc ≤ fmtSqlUtc o.now)
    (hfits : Fits d p c sensorId w) (hsound : p.Sound o.transfers)
    (hI : Archiving d sensor configs targetId sensorId w) :
    Meets (runExport d t) (w.facing o)
      (fun _ w' => Archiving d sensor configs targetId sensorId w' ∧
        Archive.Step ReadingRow.tsUtc (monthName d p)
            (archiveOf d sensor p c configs targetId sensorId w)
          (archiveOf d sensor p c configs targetId sensorId w') ∧
        ∀ r ∈ storedReadings d.server w'.db sensorId, r.tsUtc ≤ watermark d.server w'.db targetId)
      (fun _ w' => Archiving d sensor configs targetId sensorId w' ∧
        Archive.Step ReadingRow.tsUtc (monthName d p)
            (archiveOf d sensor p c configs targetId sensorId w)
          (archiveOf d sensor p c configs targetId sensorId w') ∧
        watermark d.server w'.db targetId = watermark d.server w.db targetId) := by
  have law : MonthLaw d.zones p.tz := hz ▸ monthLaw_fixed hoff
  obtain ⟨t', hrow', hkind, hsensor⟩ := hI.target
  obtain rfl : t = t' := Option.some.inj (hrow.symm.trans hrow')
  -- everything above the mark is fresh
  have hfresh : freshOf d w.db o.now t
      = (backlog d.server w.db sensorId (watermark d.server w.db targetId)).reverse := by
    rw [hI.toTracked.freshOf_eq hrow hnow hclock, List.take_of_length_le]
    rw [List.length_reverse]
    exact le_trans (List.length_filter_le _ _) hfits.1
  have hmem : ∀ r, r ∈ freshOf d w.db o.now t ↔
      r ∈ storedReadings d.server w.db sensorId ∧ watermark d.server w.db targetId < r.tsUtc := by
    intro r
    rw [hfresh, List.mem_reverse, mem_backlog]
  have hcentury : ∀ r ∈ freshOf d w.db o.now t, InCentury d.zones p.tz c r.tsUtc :=
    fun r hr => hfits.2 r ((hmem r).mp hr).1
  have hnewest : freshOf d w.db o.now t ≠ [] →
      (∃ r ∈ storedReadings d.server w.db sensorId, newestTs (freshOf d w.db o.now t) = r.tsUtc) ∧
        ∀ r ∈ freshOf d w.db o.now t, r.tsUtc ≤ newestTs (freshOf d w.db o.now t) := by
    refine hI.toTracked.newest (k := kMaxRows) ?_
    rw [← hI.toTracked.freshOf_eq hrow hnow hclock]
  have hkeep : ∀ w' : World, (∀ key, (∀ r ∈ freshOf d w.db o.now t,
        key ≠ p.key (localYm d.zones r.tsUtc p.tz)) → w'.files key = w.files key) →
      ∀ ym rows, ¬Archive.Pending ReadingRow.tsUtc (monthName d p)
          (archiveOf d sensor p c configs targetId sensorId w) ym →
        (archiveOf d sensor p c configs targetId sensorId w).holds ym rows →
          (archiveOf d sensor p c configs targetId sensorId w').holds ym rows := by
    intro w' hothers ym rows hnot hheld
    refine holds_of_others law hcentury hothers (fun r hr hym => hnot ?_) hheld
    exact ⟨r, ((hmem r).mp hr).1, hym, ((hmem r).mp hr).2⟩
  have htouch : ∀ w' : World,
      Touches d sensor p t.config t.sensorId (freshOf d w.db o.now t) (w.facing o) w' →
      Archiving d sensor configs targetId sensorId w' ∧
      Archive.Step ReadingRow.tsUtc (monthName d p) (archiveOf d sensor p c configs targetId sensorId w)
        (archiveOf d sensor p c configs targetId sensorId w') ∧
      watermark d.server w'.db targetId = watermark d.server w.db targetId := by
    intro w' h
    have hr : w'.db.readings = w.db.readings := untouched_readings h.same
    have ht : w'.db.exportTargets = w.db.exportTargets := untouched_targets h.same
    have hmark : watermark d.server w'.db targetId = watermark d.server w.db targetId := by
      simp only [watermark, targetRow, ht]
    refine ⟨hI.congr hr ht (untouched_sensors h.same), ?_, hmark⟩
    have hstep : Archive.Step ReadingRow.tsUtc (monthName d p)
        (archiveOf d sensor p c configs targetId sensorId w)
        { archiveOf d sensor p c configs targetId sensorId w with
          holds := (archiveOf d sensor p c configs targetId sensorId w').holds } :=
      .attempt (hkeep w' (h.others hsound))
    have heq : archiveOf d sensor p c configs targetId sensorId w'
        = { archiveOf d sensor p c configs targetId sensorId w with
            holds := (archiveOf d sensor p c configs targetId sensorId w').holds } := by
      simp only [archiveOf, storedReadings, hr, hmark]
    exact heq ▸ hstep
  have hspec := meets_runExport_dsn (c := c) hkind (hplaces _ (hI.config t hrow)) law (w.facing o)
    (by rw [hsensor]; exact hI.found) hcentury
  refine hspec.mono (fun _ w' h => ?_) (fun _ w' h => htouch w' h)
  rcases h with ⟨hnone, h⟩ | ⟨hne, h⟩
  · obtain ⟨hI', hstep, hmark⟩ := htouch w' h
    refine ⟨hI', hstep, fun r hr => ?_⟩
    have hreadings : w'.db.readings = w.db.readings := untouched_readings h.same
    have hr : r ∈ storedReadings d.server w.db sensorId := by
      rw [storedReadings, hreadings] at hr
      exact hr
    rw [hmark]
    by_contra hlt
    have hfresh : r ∈ freshOf d w.db o.now t := (hmem r).mpr ⟨hr, not_le.mp hlt⟩
    have hnone : freshOf d w.db o.now t = [] := hnone
    rw [hnone] at hfresh
    exact List.not_mem_nil hfresh
  · have hne : freshOf d w.db o.now t ≠ [] := hne
    obtain ⟨hstored, htop⟩ := hnewest hne
    have hreadings : w'.db.readings = w.db.readings := h.readings
    obtain ⟨hI', hmark⟩ := hI.toTracked.mark hrow hstored hreadings h.targets
    have hrow' : targetRow d.server w'.db targetId
        = some { t with lastExportTs := newestTs (freshOf d w.db o.now t) } :=
      targetRow_marked hrow h.targets
    refine ⟨⟨hI', by rw [h.sensors]; exact hI.found, fun t' ht' => ?_⟩, ?_, fun r hr => ?_⟩
    · obtain rfl := Option.some.inj (hrow'.symm.trans ht')
      exact hI.config t hrow
    · have hstep : Archive.Step ReadingRow.tsUtc (monthName d p)
          (archiveOf d sensor p c configs targetId sensorId w)
          { archiveOf d sensor p c configs targetId sensorId w with
            mark := newestTs (freshOf d w.db o.now t)
            holds := (archiveOf d sensor p c configs targetId sensorId w').holds } := by
        refine .advance (hkeep w' (h.others hsound)) fun ym hpending => ?_
        obtain ⟨r, hr, rfl, hlt⟩ := hpending
        have hr : r ∈ storedReadings d.server w.db sensorId := hr
        have hrfresh : r ∈ freshOf d w.db o.now t := (hmem r).mpr ⟨hr, hlt⟩
        obtain ⟨ctx, text, ⟨hctx, x, hx, hxym, hbounds, hrows⟩, htext, hfile⟩ :=
          h.held hsound r hrfresh
        have hdat := datOf_formatDsnDat htext
        rw [hctx] at hdat
        refine ⟨⟨r.tsUtc, hcentury r hrfresh, rfl⟩, t.config, text, hI.config t hrow, ?_, hfile⟩
        refine Eq.subst (motive := fun rows => DatOf d sensor t.config rows text) ?_ hdat
        have hxr : monthName d p x = monthName d p r := hxym
        have hlo : ctx.fromTs = _ := (congrArg Prod.fst hbounds).symm
        have hhi : ctx.toTs = _ := (congrArg Prod.snd hbounds).symm
        rw [hrows, ← hxr, hsensor, hlo, hhi]
        exact windowRows_month hz hoff hI.ordered hfits ((hmem x).mp hx).1
      have heq : archiveOf d sensor p c configs targetId sensorId w'
          = { archiveOf d sensor p c configs targetId sensorId w with
              mark := newestTs (freshOf d w.db o.now t)
              holds := (archiveOf d sensor p c configs targetId sensorId w').holds } := by
        simp only [archiveOf, storedReadings, hreadings, hmark]
      exact heq ▸ hstep
    · rw [hmark]
      have hr : r ∈ storedReadings d.server w.db sensorId := by
        rw [storedReadings, hreadings] at hr
        exact hr
      by_cases hold : watermark d.server w.db targetId < r.tsUtc
      · exact htop r ((hmem r).mpr ⟨hr, hold⟩)
      · obtain ⟨x, hx⟩ := List.exists_mem_of_ne_nil _ hne
        exact le_trans (not_lt.mp hold) (le_trans (le_of_lt ((hmem x).mp hx).2) (htop x hx))

/-- Every step of the system is a run of the archive. -/
theorem Step.archive {offset : String → Int} (hz : d.zones = Zones.fixed offset)
    (hoff : |offsetOf offset p.tz| < 86400)
    (hplaces : ∀ config, configs config → Places d sensor p config)
    (h : Step d targetId sensorId (convergenceTerms d p c configs sensorId) w w')
    (hI : Archiving d sensor configs targetId sensorId w) :
    Archiving d sensor configs targetId sensorId w' ∧
      ReflTransGen (Archive.Step ReadingRow.tsUtc (monthName d p))
        (archiveOf d sensor p c configs targetId sensorId w)
        (archiveOf d sensor p c configs targetId sensorId w') := by
  cases h with
  | insert o r tsUtc source quality hts hu hnew => exact insert_archive hts hu hnew hI
  | @configure config hconfig =>
    obtain ⟨hI', heq⟩ := configure_archive (c := c) hconfig hI
    exact ⟨hI', heq ▸ ReflTransGen.refl⟩
  | @run o t hrow hnow hclock hstart =>
    have hrun := meets_run_archive hz hoff hplaces hrow hnow hclock hstart.1 hstart.2 hI
    refine Meets.endState (P := fun w' => Archiving d sensor configs targetId sensorId w' ∧
      ReflTransGen (Archive.Step ReadingRow.tsUtc (monthName d p))
        (archiveOf d sensor p c configs targetId sensorId w)
            (archiveOf d sensor p c configs targetId sensorId w'))
      (hrun.mono (fun _ _ h => ?_) (fun _ _ h => ?_))
    · exact ⟨h.1, ReflTransGen.single h.2.1⟩
    · exact ⟨h.1, ReflTransGen.single h.2.1⟩

theorem archive_of_run {offset : String → Int} (hz : d.zones = Zones.fixed offset)
    (hoff : |offsetOf offset p.tz| < 86400)
    (hplaces : ∀ config, configs config → Places d sensor p config)
    (h0 : Archiving d sensor configs targetId sensorId w)
    (hrun : ReflTransGen (Step d targetId sensorId (convergenceTerms d p c configs sensorId)) w w') :
    Archiving d sensor configs targetId sensorId w' ∧
      ReflTransGen (Archive.Step ReadingRow.tsUtc (monthName d p))
        (archiveOf d sensor p c configs targetId sensorId w)
        (archiveOf d sensor p c configs targetId sensorId w') := by
  induction hrun with
  | refl => exact ⟨h0, ReflTransGen.refl⟩
  | tail _ hstep ih =>
    obtain ⟨hI, harchive⟩ := hstep.archive hz hoff hplaces ih.1
    exact ⟨hI, ih.2.trans harchive⟩

end

/-! ## A target in Phoenix -/

def phoenixConfig : String := "\x7b\"outbox_dir\":\"/out\"\x7d"

def phoenixDeps : Deps :=
  { Deps.plain [(phoenixConfig, .obj [("outbox_dir", .str "/out")])] with
    zones := Zones.fixed fun _ => -25200 }

def phoenixSensor : SensorRow :=
  { id := "S", transport := .tcp, address := "10.0.0.5:10001", timezone := "America/Phoenix" }

def phoenixPlacement : Placement := ⟨"America/Phoenix", "S", .outbox "/out"⟩

/-- Three readings around the local end of January 1970. -/
def phoenixReading (i : Nat) : ReadingRow :=
  { id := i + 1, sensorId := "S", tsUtc := fmtSqlUtc (2703599 + i), magArcsec2 := 21, freqHz := 0,
    periodCounts := 0, periodS := 0, tempC := 10 }

def phoenixTarget : ExportTargetRow :=
  { id := "T", sensorId := "S", target := "dsn", config := phoenixConfig }

def phoenixWorld : World :=
  { db := { sensors := [phoenixSensor], readings := (List.range 3).map phoenixReading,
            exportTargets := [phoenixTarget] } }

theorem phoenix_places : Places phoenixDeps phoenixSensor phoenixPlacement phoenixConfig := by
  have hcfg : parseConfig phoenixDeps phoenixConfig = .ok (.obj [("outbox_dir", .str "/out")]) := rfl
  refine ⟨fun cfg h => ?_, rfl, fun cfg h => ?_, fun name key h => ?_⟩
  · obtain rfl := Except.ok.inj (hcfg.symm.trans h)
    simp [Json.member?, Json.findMember]
  · obtain rfl := Except.ok.inj (hcfg.symm.trans h)
    rfl
  · unfold dsnDestination at h
    rw [hcfg] at h
    exact (Except.ok.inj h).symm

def phoenixCentury : Century := ⟨1901, by decide, by decide⟩

theorem phoenix_century :
    ∀ r ∈ storedReadings phoenixDeps.server phoenixWorld.db "S",
      InCentury phoenixDeps.zones phoenixPlacement.tz phoenixCentury r.tsUtc := by
  intro r hr
  obtain ⟨i, hi, rfl⟩ := List.mem_map.mp (List.mem_of_mem_filter hr)
  have hi := List.mem_range.mp hi
  refine ⟨2703599 + i, ?_, rfl, ?_⟩
  · interval_cases i <;> decide
  · interval_cases i <;> decide

theorem phoenix_archiving :
    Archiving phoenixDeps phoenixSensor (· = phoenixConfig) "T" "S" phoenixWorld := by
  refine ⟨⟨⟨phoenixTarget, rfl, rfl, rfl⟩, ?_, fun r hr => ?_, Or.inl rfl⟩, rfl, fun t ht => ?_⟩
  · show Ordered [phoenixReading 0, phoenixReading 1, phoenixReading 2]
    unfold Ordered
    decide
  · obtain ⟨u, hu, hts, -⟩ := phoenix_century r hr
    exact ⟨u, hu, hts⟩
  · obtain rfl := Option.some.inj ht
    rfl

/-- The clock stands an hour past the readings. -/
def phoenixMorning : Outside := { now := 2707200, transfers := [.done "", .done ""] }

theorem phoenix_clock : ∀ x ∈ storedReadings phoenixDeps.server phoenixWorld.db "S",
    x.tsUtc ≤ fmtSqlUtc phoenixMorning.now := by
  intro r hr
  obtain ⟨i, hi, rfl⟩ := List.mem_map.mp (List.mem_of_mem_filter hr)
  have hi := List.mem_range.mp hi
  interval_cases i <;> decide

theorem phoenix_fits : Fits phoenixDeps phoenixPlacement phoenixCentury "S" phoenixWorld :=
  ⟨by decide, phoenix_century⟩

def februaryKey : FileKey := .outbox "/out/S_70-02.dat"

/-- An hour after the local midnight of the first of February. The file is reported written, and
may have lost its last write. -/
def morning (cut : Option String) : Outside := { now := 2707200, transfers := [.done "" cut] }

/-- The only reading left, and the target's watermark. -/
structure Alone (r : ReadingRow) (mark : String) (w : World) : Prop where
  sensors : w.db.sensors = [phoenixSensor]
  readings : w.db.readings = [r]
  targets : w.db.exportTargets = [{ phoenixTarget with lastExportTs := mark }]

theorem windowRows_alone {db : Db} {r : ReadingRow} {lo hi : String} (hrows : db.readings = [r])
    (hr : r.sensorId = "S") (hbetween : tsBetween phoenixDeps.server lo hi r.tsUtc = true) :
    windowRows phoenixDeps.server db "S" lo hi kMaxRows = [r] := by
  have hsame : phoenixDeps.server.same r.sensorId "S" = true := by
    rw [hr]
    rfl
  unfold windowRows
  rw [hrows, clampLimit_kMaxRows, List.filter_cons_of_pos (by simp [hsame, hbetween]),
    List.filter_nil, List.mergeSort_singleton]
  have hlen : 1 ≤ kMaxRows := by decide
  exact List.take_of_length_le hlen

/-- The file of February is handed over with the rendering of its window. -/
theorem february_rebuild {r : ReadingRow} {w : World} {t : ExportTargetRow} {cut : Option String}
    (hreadings : w.db.readings = [r]) (hfaults : w.dbFaults = [])
    (htransfers : w.transfers = [.done "" cut]) (htarget : t.sensorId = "S")
    (hsensor : r.sensorId = "S")
    (hym : localYm phoenixDeps.zones r.tsUtc "America/Phoenix" = "1970-02")
    (hbounds : localMonthBoundsUtc phoenixDeps.zones r.tsUtc "America/Phoenix"
      = ("1970-02-01 07:00:00", "1970-03-01 06:59:59"))
    (hbetween : tsBetween phoenixDeps.server "1970-02-01 07:00:00" "1970-03-01 06:59:59" r.tsUtc
      = true)
    {Q : ExportResult → World → Prop} {E : String → World → Prop}
    (h : ∀ res ctx text log next, ctx.readings = [r] → Q res { w with
      db := { w.db with exportLog := log, next := next }
      transfers := [], files := Function.update w.files februaryKey (some (cut.getD text))
      effects := w.effects ++ [.deliver februaryKey ctx text] }) :
    Meets (rebuildMonth phoenixDeps t phoenixSensor (.dsn phoenixConfig) "America/Phoenix" [r]
      "1970-02") w Q E := by
  have hrows : windowRows phoenixDeps.server w.db "S" "1970-02-01 07:00:00" "1970-03-01 06:59:59"
      kMaxRows = [r] := windowRows_alone hreadings hsensor hbetween
  let ctx : ExportContext :=
    { sensor := phoenixSensor, readings := [r], fromTs := "1970-02-01 07:00:00"
      toTs := "1970-03-01 06:59:59" }
  obtain ⟨text, htext⟩ : ∃ text, formatDsnDat phoenixDeps ctx phoenixConfig = .ok text := ⟨_, rfl⟩
  have hmonth : localYm phoenixDeps.zones "1970-03-01 06:59:59" "America/Phoenix" = "1970-02" := by
    decide
  have hname : dsnFileName phoenixDeps ctx phoenixConfig = .ok "S_70-02.dat" := by
    show Except.ok ("S" ++ "_" ++ yymm (localYm phoenixDeps.zones "1970-03-01 06:59:59"
      "America/Phoenix") ++ ".dat") = Except.ok (ε := String) _
    rw [hmonth]
    decide
  have hdest : dsnDestination phoenixDeps phoenixConfig "S_70-02.dat" = .ok februaryKey := rfl
  unfold rebuildMonth
  rw [List.find?_cons_of_pos (by simpa using hym), Option.map_some, Option.getD_some]
  simp only [hbounds, htarget, readingsBetween_eq, meets_bind]
  rw [meets_select_calm hfaults, hrows]
  show Meets (pushAndLog phoenixDeps t.id (.dsn phoenixConfig) ctx) w Q E
  -- the one transfer left in the script is this run's
  have hrun : Meets (runDsn phoenixDeps phoenixConfig ctx) w
      (fun _ w' => w' = { w with
        transfers := [], files := Function.update w.files februaryKey (some (cut.getD text))
        effects := w.effects ++ [.deliver februaryKey ctx text] })
      (fun _ _ => False) := by
    unfold runDsn
    rw [htext, hname]
    simp only [liftExcept, pure_bind, hdest, meets_bind]
    unfold Meets transferFile
    rw [htransfers]
    rfl
  simp only [pushAndLog, meets_bind, meets_tryCatch, IExporter.run]
  refine hrun.mono (fun res w' hw' => ?_) (fun _ _ he => he.elim)
  subst hw'
  refine meets_insertExportLog_plain rfl hfaults fun a log next => ?_
  rw [meets_pure]
  have hw := h res ctx text log next rfl
  rw [hfaults] at hw
  exact hw

/-- A run over the only reading delivers the file of February with that reading in it. -/
theorem alone_run {r : ReadingRow} {mark : String} {w : World} (h : Alone r mark w)
    (cut : Option String) (hsensor : r.sensorId = "S")
    (hnew : tsBetween phoenixDeps.server mark (fmtSqlUtc 2707200) r.tsUtc = true)
    (hfresh : freshReadings mark [r] = [r])
    (hym : localYm phoenixDeps.zones r.tsUtc "America/Phoenix" = "1970-02")
    (hbounds : localMonthBoundsUtc phoenixDeps.zones r.tsUtc "America/Phoenix"
      = ("1970-02-01 07:00:00", "1970-03-01 06:59:59"))
    (hbetween : tsBetween phoenixDeps.server "1970-02-01 07:00:00" "1970-03-01 06:59:59" r.tsUtc
      = true)
    (hstamp : IsStamp r.tsUtc) (hnewest : newestTs [r] = r.tsUtc) :
    Meets (runExport phoenixDeps { phoenixTarget with lastExportTs := mark })
      (w.facing (morning cut))
      (fun _ w' => Alone r r.tsUtc w' ∧ ∃ ctx text, ctx.readings = [r] ∧
        w'.effects = w.effects ++ [.deliver februaryKey ctx text] ∧
        w'.files februaryKey = some (cut.getD text))
      (fun _ _ => False) := by
  have hfresh : freshOf phoenixDeps (w.facing (morning cut)).db (w.facing (morning cut)).now
      { phoenixTarget with lastExportTs := mark } = [r] := by
    have hrows : windowRows phoenixDeps.server (w.facing (morning cut)).db "S" mark
        (fmtSqlUtc 2707200) kMaxRows = [r] := windowRows_alone h.readings hsensor hnew
    show freshReadings mark (windowRows phoenixDeps.server (w.facing (morning cut)).db "S" mark
      (fmtSqlUtc 2707200) kMaxRows) = [r]
    rw [hrows, hfresh]
  -- the sensor is found, and a fresh reading makes one month
  have hfound : (w.facing (morning cut)).db.sensors.find?
      (fun r => phoenixDeps.server.same r.id "S") = some phoenixSensor := by
    show w.db.sensors.find? _ = _
    rw [h.sensors]
    rfl
  refine meets_runExport_calm rfl (by rw [hfresh]; exact List.cons_ne_nil _ _) hfound
    (show makeExporter phoenixDeps "dsn" phoenixConfig = .ok (.dsn phoenixConfig) from rfl) ?_
  rw [hfresh]
  show Meets (runMonthly phoenixDeps { phoenixTarget with lastExportTs := mark } phoenixSensor
    (.dsn phoenixConfig) "America/Phoenix" [r]) _ _ _
  unfold runMonthly affectedMonths
  rw [List.map_singleton, hym]
  have hdedup : ["1970-02"].dedup = ["1970-02"] := rfl
  rw [hdedup, List.mergeSort_singleton]
  simp only [List.mapM_cons, List.mapM_nil, meets_bind, meets_pure]
  -- the file of the month first, then the watermark
  refine february_rebuild (w := w.facing (morning cut)) h.readings rfl rfl rfl hsensor hym hbounds
    hbetween fun res ctx text log next hctx => ?_
  rw [hnewest]
  have hfile : Function.update w.files februaryKey (some (cut.getD text)) februaryKey
      = some (cut.getD text) := Function.update_self _ _ _
  refine meets_setExportWatermark_calm hstamp rfl
    ⟨⟨h.sensors, h.readings, ?_⟩, ctx, text, hctx, rfl, hfile⟩
  show markTarget phoenixDeps.server "T" r.tsUtc w.db.exportTargets = _
  rw [h.targets]
  rfl

/-- The first second of the local February. -/
def firstStamp : String := fmtSqlUtc 2703600

def firstReading : ReadingRow := phoenixReading 1

def februaryWorld : World :=
  { db := { sensors := [phoenixSensor], readings := [firstReading], exportTargets := [phoenixTarget] } }

theorem february_alone : Alone firstReading "" februaryWorld := ⟨rfl, rfl, rfl⟩

/-- The first export delivers the first reading. -/
theorem first_export (cut : Option String) :
    Meets (runExport phoenixDeps phoenixTarget) (februaryWorld.facing (morning cut))
      (fun _ w' => Alone firstReading firstStamp w' ∧ ∃ ctx text, ctx.readings = [firstReading] ∧
        w'.effects = [.deliver februaryKey ctx text] ∧ w'.files februaryKey = some (cut.getD text))
      (fun _ _ => False) :=
  alone_run february_alone cut rfl (by decide) rfl (by decide) (by decide) (by decide)
    ⟨2703600, by decide, rfl⟩ rfl

theorem february_century {u : Int} (hu : u = 2703600 ∨ u = 2703601) :
    InCentury phoenixDeps.zones "America/Phoenix" phoenixCentury (fmtSqlUtc u) := by
  rcases hu with rfl | rfl
  · exact ⟨2703600, by decide, rfl, by decide⟩
  · exact ⟨2703601, by decide, rfl, by decide⟩

end NightWatcher.Exporter
