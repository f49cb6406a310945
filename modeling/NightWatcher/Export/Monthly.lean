import Mathlib.Data.List.Dedup
import NightWatcher.Export.DsnFile
import NightWatcher.Export.Months
import NightWatcher.Export.System

/-!
# Monthly targets: what a run rebuilds

One run of a DSN target rewrites the file of every local month a fresh reading
falls in, and no other file. `Placement` is what a config settles about the
files: the zone months are cut in, the name before the month, the destination.
`FileHolds` says what the file of a month holds after its rebuild, and
`meets_runMonthly` collects the months of a run, also of one that stops half-way.

What a run hands over it hands over whatever becomes of it; what the files then
hold is known of a destination that is sound (`Placement.Sound`).
-/

namespace NightWatcher.Exporter

open Throwing TimeUtil Database

/-! ## Where the files are -/

inductive Destination where
  | outbox (dir : String)
  | drive (folder : String)

def Destination.key : Destination → String → FileKey
  | .outbox dir, name => .outbox (dir ++ "/" ++ name)
  | .drive folder, name => .drive folder name

theorem Destination.key_inj (dest : Destination) {name name' : String}
    (h : dest.key name = dest.key name') : name = name' := by
  cases dest with
  | outbox dir => exact String.append_right_inj _ |>.mp (FileKey.outbox.inj h)
  | drive folder => exact (FileKey.drive.inj h).2

/-- What a config settles about the files. -/
structure Placement where
  tz : String
  stem : String
  dest : Destination

/-- The file of a month. -/
def Placement.key (p : Placement) (ym : String) : FileKey :=
  p.dest.key (p.stem ++ "_" ++ yymm ym ++ ".dat")

theorem Placement.key_inj (p : Placement) {ym ym' : String} (h : p.key ym = p.key ym') :
    yymm ym = yymm ym' := by
  have hname := p.dest.key_inj h
  rw [String.append_left_inj] at hname
  exact (String.append_right_inj _).mp hname

/-- The config puts the files where `p` says. Its `timezone` is absent or not empty:
with an empty one the months would be cut in UTC but named in the sensor's zone. -/
structure Places (d : Deps) (sensor : SensorRow) (p : Placement) (config : String) : Prop where
  timezone : ∀ cfg, parseConfig d config = .ok cfg → cfg.member? "timezone" ≠ some (.str "")
  zone : exportTimezone d sensor config = p.tz
  stem : ∀ cfg, parseConfig d config = .ok cfg → dsnStem sensor cfg = p.stem
  dest : ∀ name key, dsnDestination d config name = .ok key → key = p.dest.key name

section

variable {d : Deps} {sensor : SensorRow} {p : Placement} {config : String}

/-- Unless it has an empty `timezone`, a config names the files in the zone it cuts the months in. -/
theorem exportTimezone_eq {cfg : Json} (hcfg : parseConfig d config = .ok cfg)
    (htz : cfg.member? "timezone" ≠ some (.str "")) :
    exportTimezone d sensor config = cfgOr cfg "timezone" sensor.timezone := by
  unfold parseConfig at hcfg
  unfold exportTimezone cfgOr
  split at hcfg
  next he =>
    obtain rfl := Except.ok.inj hcfg
    rw [if_pos he]
    rfl
  next he =>
    unfold parseJson at hcfg
    rw [if_neg he]
    split at hcfg
    next j hj =>
      obtain rfl := Except.ok.inj hcfg
      rw [hj]
      simp only
      cases hv : j.member? "timezone" with
      | none => rfl
      | some val =>
        cases val with
        | str v =>
          have hv' : v ≠ "" := fun he' => htz (he' ▸ hv)
          simp only [if_neg hv']
        | _ => rfl
    next => cases hcfg

/-- The zone that names the file is the zone months are cut in. -/
theorem Places.name_zone (h : Places d sensor p config) {cfg : Json}
    (hcfg : parseConfig d config = .ok cfg) : cfgOr cfg "timezone" sensor.timezone = p.tz :=
  (exportTimezone_eq hcfg (h.timezone cfg hcfg)).symm.trans h.zone

/-- The file a context is written to. -/
def Placement.keyOf (p : Placement) (z : Zones) (ctx : ExportContext) : FileKey :=
  p.key (localYm z (fileMonthRef ctx) p.tz)

/-! ## A transfer -/

/-- The destination writes what it reports. An outbox loses no last write unseen; a search on
Drive is for the file that is meant, since nothing the file is named after has a quote or a
backslash in it. -/
def Placement.Sound (p : Placement) (transfers : List Transfer) : Prop :=
  match p.dest with
  | .outbox _ => ∀ transfer ∈ transfers, transfer.cut? = none
  | .drive folder => plainInQuery folder = true ∧ plainInQuery p.stem = true

theorem Placement.Sound.suffix {transfers rest : List Transfer} (h : p.Sound transfers)
    (hrest : rest <:+ transfers) : p.Sound rest := by
  unfold Placement.Sound at h ⊢
  cases hdest : p.dest with
  | outbox dir =>
    rw [hdest] at h
    exact fun transfer hmem => h transfer (hrest.subset hmem)
  | drive folder =>
    rw [hdest] at h
    exact h

theorem plainInQuery_append {s t : String} :
    plainInQuery (s ++ t) = true ↔ plainInQuery s = true ∧ plainInQuery t = true := by
  unfold plainInQuery
  rw [String.toList_append, List.all_append, Bool.and_eq_true]

/-- The name of a month's file is as good as the part before the month. -/
theorem Placement.Sound.searchable {transfers : List Transfer} (h : p.Sound transfers) {ym : String}
    (hym : FieldText (yymm ym)) : (p.key ym).searchable = true := by
  unfold Placement.Sound at h
  unfold Placement.key
  cases hdest : p.dest with
  | outbox dir => rfl
  | drive folder =>
    rw [hdest] at h
    have hmonth : plainInQuery (yymm ym) = true := by
      unfold plainInQuery
      rw [List.all_eq_true]
      intro c hc
      refine decide_eq_true ⟨fun heq => hym.notMem (by decide) (heq ▸ hc), fun heq => ?_⟩
      exact hym.notMem (by decide) (heq ▸ hc)
    show (plainInQuery folder && plainInQuery (p.stem ++ "_" ++ yymm ym ++ ".dat")) = true
    rw [Bool.and_eq_true, plainInQuery_append, plainInQuery_append, plainInQuery_append]
    exact ⟨h.1, ⟨⟨h.2, by decide⟩, hmonth⟩, by decide⟩

/-- A sound destination keeps the text it was handed. -/
theorem Placement.Sound.keeps {transfer : Transfer} {rest : List Transfer}
    (h : p.Sound (transfer :: rest)) (ym text : String) :
    (p.key ym).keeps transfer.cut? text = text := by
  unfold Placement.Sound at h
  unfold Placement.key
  cases hdest : p.dest with
  | outbox dir =>
    rw [hdest] at h
    rw [h transfer List.mem_cons_self]
    rfl
  | drive folder => rfl

/-- A transfer uses up what the destination does next, and is logged if it was reported done. -/
theorem meets_transferFile (key : FileKey) (ctx : ExportContext) (text : String) (w : World) :
    Meets (transferFile key ctx text) w
      (fun _ w' => untouched.rel w w' ∧ w'.transfers <:+ w.transfers ∧
        w'.effects = w.effects ++ [.deliver key ctx text])
      (fun _ w' => untouched.rel w w' ∧ w'.transfers <:+ w.transfers ∧ w'.effects = w.effects) := by
  unfold Meets transferFile
  match htransfers : w.transfers with
  | [] => exact ⟨untouched.refl w, htransfers ▸ List.suffix_refl _, rfl⟩
  | .done remoteId cut shown :: rest =>
    exact ⟨⟨rfl, List.prefix_append _ _⟩, List.suffix_cons _ _, rfl⟩
  | .failed msg left shown :: rest =>
    exact ⟨⟨rfl, List.prefix_refl _⟩, List.suffix_cons _ _, rfl⟩

/-- To a sound destination it replaces one file, or fails and leaves at most that one damaged. -/
theorem meets_transferFile_sound {ym : String} (hym : FieldText (yymm ym)) (ctx : ExportContext)
    (text : String) {w : World} (hsound : p.Sound w.transfers) :
    Meets (transferFile (p.key ym) ctx text) w
      (fun _ w' => w'.files = Function.update w.files (p.key ym) (some text))
      (fun _ w' => ∀ key, key ≠ p.key ym → w'.files key = w.files key) := by
  have hhit : ∀ shown, (p.key ym).hit shown = p.key ym :=
    FileKey.hit_searchable (hsound.searchable hym)
  unfold Meets transferFile
  match htransfers : w.transfers with
  | [] => exact fun _ _ => rfl
  | .done remoteId cut shown :: rest =>
    rw [htransfers] at hsound
    have hkeeps : (p.key ym).keeps cut text = text := hsound.keeps ym text
    show Function.update w.files ((p.key ym).hit shown) (some ((p.key ym).keeps cut text)) = _
    rw [hhit, hkeeps]
  | .failed msg none shown :: rest => exact fun _ _ => rfl
  | .failed msg (some junk) shown :: rest =>
    intro key hne
    show Function.update w.files ((p.key ym).hit shown) (some junk) key = _
    rw [hhit]
    exact Function.update_of_ne hne _ _

/-- The name and the destination of a run are those of the placement. -/
theorem Places.keyOf (hp : Places d sensor p config) {ctx : ExportContext}
    (hctx : ctx.sensor = sensor) {name : String} {key : FileKey}
    (hname : dsnFileName d ctx config = .ok name) (hkey : dsnDestination d config name = .ok key) :
    key = p.keyOf d.zones ctx := by
  rw [hp.dest name key hkey]
  unfold dsnFileName at hname
  obtain ⟨cfg, hcfg, hname⟩ := except_bind_eq_ok.mp hname
  obtain rfl := Except.ok.inj hname
  rw [hctx, hp.name_zone hcfg, hp.stem cfg hcfg]
  rfl

/-- The exporter hands one file over. A sound destination replaces the file, or leaves at most that
one damaged. -/
theorem meets_runDsn (hp : Places d sensor p config) {ctx : ExportContext}
    (hctx : ctx.sensor = sensor) {ym : String} (hym : p.keyOf d.zones ctx = p.key ym)
    (hmonth : FieldText (yymm ym)) (w : World) :
    Meets (runDsn d config ctx) w
      (fun _ w' => ∃ text, formatDsnDat d ctx config = .ok text ∧ untouched.rel w w' ∧
        w'.transfers <:+ w.transfers ∧ w'.effects = w.effects ++ [.deliver (p.key ym) ctx text] ∧
        (p.Sound w.transfers → w'.files = Function.update w.files (p.key ym) (some text)))
      (fun _ w' => untouched.rel w w' ∧ w'.transfers <:+ w.transfers ∧ w'.effects = w.effects ∧
        (p.Sound w.transfers → ∀ key, key ≠ p.key ym → w'.files key = w.files key)) := by
  have hfail : untouched.rel w w ∧ w.transfers <:+ w.transfers ∧ w.effects = w.effects ∧
      (p.Sound w.transfers → ∀ key, key ≠ p.key ym → w.files key = w.files key) :=
    ⟨untouched.refl w, List.suffix_refl _, rfl, fun _ _ _ => rfl⟩
  unfold runDsn
  simp only [meets_bind, meets_liftExcept]
  refine ⟨fun text htext => ⟨fun name hname => ⟨fun key hkey => ?_, fun _ _ => by simpa using hfail⟩,
    fun _ _ => by simpa using hfail⟩, fun _ _ => by simpa using hfail⟩
  obtain rfl : key = p.key ym := (hp.keyOf hctx hname hkey).trans hym
  have hfiles : p.Sound w.transfers → Meets (transferFile (p.key ym) ctx text) w
      (fun _ w' => w'.files = Function.update w.files (p.key ym) (some text))
      (fun _ w' => ∀ key, key ≠ p.key ym → w'.files key = w.files key) :=
    meets_transferFile_sound hmonth ctx text
  refine ((meets_transferFile (p.key ym) ctx text w).and (meets_imp hfiles)).mono
    (fun remoteId w' h => ?_) fun _ w' h => ?_
  · obtain ⟨⟨hsame, htransfers, heffects⟩, hwritten⟩ := h
    split <;> exact ⟨text, htext, hsame, htransfers, heffects, hwritten⟩
  · obtain ⟨⟨hsame, htransfers, heffects⟩, hothers⟩ := h
    exact ⟨hsame, htransfers, heffects, hothers⟩

end

/-! ## The months of a run -/

section

variable {d : Deps} {sensor : SensorRow} {p : Placement} {config : String} {c : Century}
  {t : ExportTargetRow} {fresh : List ReadingRow}

/-- A context that holds a month as the tables `db` have it. -/
def IsMonth (d : Deps) (sensor : SensorRow) (sensorId tz : String) (db : Db)
    (fresh : List ReadingRow) (ym : String) (ctx : ExportContext) : Prop :=
  ctx.sensor = sensor ∧ ∃ r ∈ fresh, localYm d.zones r.tsUtc tz = ym ∧
    localMonthBoundsUtc d.zones r.tsUtc tz = (ctx.fromTs, ctx.toTs) ∧
    ctx.readings = (windowRows d.server db sensorId ctx.fromTs ctx.toTs kMaxRows).reverse

theorem fmtSqlUtc_ne_empty (u : Int) : fmtSqlUtc u ≠ "" := by
  intro h
  have hl := congrArg String.toList h
  simp [fmtSqlUtc, fmtSql, fmtColumns, String.toList_ofList] at hl

theorem last_ne_empty {z : Zones} {tz ts : String} (h : InCentury z tz c ts) :
    (localMonthBoundsUtc z ts tz).2 ≠ "" := by
  obtain ⟨u, hu, rfl, -, -⟩ := h
  rw [localMonthBoundsUtc_eq hu]
  exact fmtSqlUtc_ne_empty _

theorem IsMonth.congr {sensorId tz ym : String} {db db' : Db} {ctx : ExportContext}
    (h : IsMonth d sensor sensorId tz db fresh ym ctx) (hr : db'.readings = db.readings) :
    IsMonth d sensor sensorId tz db' fresh ym ctx := by
  have hrows : ∀ lo hi : String, windowRows d.server db' sensorId lo hi kMaxRows
      = windowRows d.server db sensorId lo hi kMaxRows := by
    intro lo hi
    unfold windowRows
    rw [hr]
  obtain ⟨hs, r, hmem, hym, hbounds, hreadings⟩ := h
  exact ⟨hs, r, hmem, hym, hbounds, by rw [hreadings, hrows]⟩

/-- What was delivered on the way are the files of months of `fresh`, under the target's config. -/
def DeliversMonths (d : Deps) (sensor : SensorRow) (p : Placement) (config sensorId : String)
    (fresh : List ReadingRow) (w w' : World) : Prop :=
  ∃ new, w'.effects = w.effects ++ new ∧ ∀ key ctx text, Effect.deliver key ctx text ∈ new →
    (∃ ym, key = p.key ym ∧ IsMonth d sensor sensorId p.tz w.db fresh ym ctx) ∧
      formatDsnDat d ctx config = .ok text

theorem DeliversMonths.refl {sensorId : String} (w : World) :
    DeliversMonths d sensor p config sensorId fresh w w :=
  ⟨[], (List.append_nil _).symm, fun _ _ _ h => absurd h List.not_mem_nil⟩

/-- Delivered is what the months of `fresh` hold, and a sound destination writes their files only. -/
structure Touches (d : Deps) (sensor : SensorRow) (p : Placement) (config sensorId : String)
    (fresh : List ReadingRow) (w w' : World) : Prop where
  same : untouched.rel w w'
  transfers : w'.transfers <:+ w.transfers
  others : p.Sound w.transfers → ∀ key,
    (∀ r ∈ fresh, key ≠ p.key (localYm d.zones r.tsUtc p.tz)) → w'.files key = w.files key
  delivered : DeliversMonths d sensor p config sensorId fresh w w'

theorem Touches.withFaults {sensorId : String} (w : World) (fs : List Bool) :
    Touches d sensor p config sensorId fresh w (w.withFaults fs) :=
  ⟨untouched_withFaults w fs, List.suffix_refl _, fun _ _ _ => rfl, DeliversMonths.refl w⟩

def touching (d : Deps) (sensor : SensorRow) (p : Placement) (config sensorId : String)
    (fresh : List ReadingRow) : Frame World where
  rel := Touches d sensor p config sensorId fresh
  refl w := Touches.withFaults w w.dbFaults
  trans {w₁ w₂ w₃} h h' := by
    obtain ⟨new, hnew, hmonths⟩ := h.delivered
    obtain ⟨new', hnew', hmonths'⟩ := h'.delivered
    refine ⟨untouched.trans h.same h'.same, h'.transfers.trans h.transfers,
      fun hsound key hkey =>
        (h'.others (hsound.suffix h.transfers) key hkey).trans (h.others hsound key hkey),
      new ++ new', ?_, fun key ctx text hmem => ?_⟩
    · rw [hnew', hnew, List.append_assoc]
    · rcases List.mem_append.mp hmem with hmem | hmem
      · exact hmonths key ctx text hmem
      · obtain ⟨⟨ym, hkey, hmonth⟩, htext⟩ := hmonths' key ctx text hmem
        exact ⟨⟨ym, hkey, hmonth.congr (untouched_readings h.same).symm⟩, htext⟩

/-- The month's file holds the month as the tables `db` have it. -/
def FileHolds (d : Deps) (sensor : SensorRow) (p : Placement) (config sensorId : String) (db : Db)
    (fresh : List ReadingRow) (w : World) (ym : String) : Prop :=
  ∃ ctx text, IsMonth d sensor sensorId p.tz db fresh ym ctx ∧
    formatDsnDat d ctx config = .ok text ∧ w.files (p.key ym) = some text

/-- The rebuild of one month hands that month over; a sound destination has it in its file then,
and no other file is different. -/
theorem meets_rebuildMonth (hp : Places d sensor p config) (law : MonthLaw d.zones p.tz)
    (hfresh : ∀ r ∈ fresh, InCentury d.zones p.tz c r.tsUtc) {ym : String}
    (hym : ∃ r ∈ fresh, localYm d.zones r.tsUtc p.tz = ym) (w : World) :
    Meets (rebuildMonth d t sensor (.dsn config) p.tz fresh ym) w
      (fun _ w' => Touches d sensor p config t.sensorId fresh w w' ∧
        (p.Sound w.transfers → FileHolds d sensor p config t.sensorId w.db fresh w' ym ∧
          ∀ key, key ≠ p.key ym → w'.files key = w.files key))
      (fun _ w' => Touches d sensor p config t.sensorId fresh w w') := by
  -- the month is rebuilt around the first fresh reading in it
  obtain ⟨r, hfind⟩ : ∃ r, fresh.find? (fun r => localYm d.zones r.tsUtc p.tz = ym) = some r := by
    obtain ⟨r, hr, hrym⟩ := hym
    exact Option.isSome_iff_exists.mp (List.find?_isSome.mpr ⟨r, hr, by simpa using hrym⟩)
  have hr : r ∈ fresh := List.mem_of_find?_eq_some hfind
  have hrym : localYm d.zones r.tsUtc p.tz = ym := by simpa using List.find?_some hfind
  unfold rebuildMonth
  rw [hfind]
  simp only [Option.map_some, Option.getD_some, meets_bind, readingsBetween_eq]
  refine meets_select (fun fs => ?_) (fun fs => Touches.withFaults w fs)
  -- all readings of the month, not only the fresh ones
  let rows := windowRows d.server w.db t.sensorId (localMonthBoundsUtc d.zones r.tsUtc p.tz).1
    (localMonthBoundsUtc d.zones r.tsUtc p.tz).2 kMaxRows
  let ctx : ExportContext :=
    { sensor, readings := rows.reverse, fromTs := (localMonthBoundsUtc d.zones r.tsUtc p.tz).1
      toTs := (localMonthBoundsUtc d.zones r.tsUtc p.tz).2 }
  -- the file is named after the last second of the window, which is in the month
  have hkey : p.keyOf d.zones ctx = p.key ym := by
    have href : fileMonthRef ctx = (localMonthBoundsUtc d.zones r.tsUtc p.tz).2 :=
      if_pos (last_ne_empty (hfresh r hr))
    unfold Placement.keyOf
    rw [href, localYm_last law (hfresh r hr), hrym]
  have hdigits : FieldText (yymm ym) := by
    obtain ⟨u, hu, hts, -, -⟩ := hfresh r hr
    rw [← hrym]
    exact fieldText_month d.zones ⟨u, hu, hts⟩ p.tz
  have hmonth : IsMonth d sensor t.sensorId p.tz w.db fresh ym ctx := ⟨rfl, r, hr, hrym, rfl, rfl⟩
  -- files of no fresh month are left alone
  have hothers : ∀ {w' : World}, (∀ key, key ≠ p.key ym → w'.files key = w.files key) →
      ∀ key, (∀ r ∈ fresh, key ≠ p.key (localYm d.zones r.tsUtc p.tz)) →
        w'.files key = w.files key := by
    intro w' h key hnone
    apply h
    rw [← hrym]
    exact hnone r hr
  refine meets_pushAndLog
    ((meets_runDsn hp (show ctx.sensor = sensor from rfl) hkey hdigits (w.withFaults fs)).mono
      (fun _ w' h => ?_) (fun _ w' h => ?_))
    (fun _ _ _ _ h => ⟨⟨h.1.same, h.1.transfers, h.1.others, h.1.delivered⟩, h.2⟩)
    (fun _ _ _ _ h => ⟨h.same, h.transfers, h.others, h.delivered⟩) (fun w' h => h.1)
  · obtain ⟨text, htext, hsame, htransfers, heffects, hwritten⟩ := h
    have hother : p.Sound w.transfers → ∀ key, key ≠ p.key ym → w'.files key = w.files key := by
      intro hsound key hne
      rw [hwritten hsound]
      exact Function.update_of_ne hne _ _
    refine ⟨⟨hsame, htransfers, fun hsound => hothers (hother hsound), _, heffects,
        fun key ctx' text' hmem => ?_⟩, fun hsound => ⟨⟨ctx, text, hmonth, htext, ?_⟩, hother hsound⟩⟩
    · obtain ⟨rfl, rfl, rfl⟩ := Effect.deliver.inj (List.mem_singleton.mp hmem)
      exact ⟨⟨ym, rfl, hmonth⟩, htext⟩
    · rw [hwritten hsound, Function.update_self]
  · obtain ⟨hsame, htransfers, heffects, hother⟩ := h
    exact ⟨hsame, htransfers, fun hsound => hothers (hother hsound), [], by rw [heffects]; simp,
      by simp⟩

theorem mem_affectedMonths {tz ym : String} :
    ym ∈ affectedMonths d tz fresh ↔ ∃ r ∈ fresh, localYm d.zones r.tsUtc tz = ym := by
  unfold affectedMonths
  rw [List.mem_mergeSort, List.mem_dedup, List.mem_map]

theorem nodup_affectedMonths (tz : String) : (affectedMonths d tz fresh).Nodup := by
  unfold affectedMonths
  rw [(List.mergeSort_perm _ _).nodup_iff]
  exact List.nodup_dedup _

/-- A run that went through: the mark is moved, and a sound destination has every affected month in
its file. -/
structure Archived (d : Deps) (sensor : SensorRow) (p : Placement) (t : ExportTargetRow)
    (fresh : List ReadingRow) (w w' : World) : Prop where
  readings : w'.db.readings = w.db.readings
  targets : w'.db.exportTargets = markTarget d.server t.id (newestTs fresh) w.db.exportTargets
  sensors : w'.db.sensors = w.db.sensors
  others : p.Sound w.transfers → ∀ key,
    (∀ r ∈ fresh, key ≠ p.key (localYm d.zones r.tsUtc p.tz)) → w'.files key = w.files key
  held : p.Sound w.transfers → ∀ r ∈ fresh,
    FileHolds d sensor p t.config t.sensorId w.db fresh w' (localYm d.zones r.tsUtc p.tz)
  delivered : DeliversMonths d sensor p t.config t.sensorId fresh w w'

theorem meets_runMonthly (hp : Places d sensor p t.config) (law : MonthLaw d.zones p.tz)
    (hfresh : ∀ r ∈ fresh, InCentury d.zones p.tz c r.tsUtc) (hstamp : IsStamp (newestTs fresh))
    (w : World) :
    Meets (runMonthly d t sensor (.dsn t.config) p.tz fresh) w
      (fun _ w' => Archived d sensor p t fresh w w')
      (fun _ w' => Touches d sensor p t.config t.sensorId fresh w w') := by
  unfold runMonthly
  simp only [meets_bind, meets_pure]
  -- after some months: theirs are the files written so far
  have hloop : Meets ((affectedMonths d p.tz fresh).mapM
      (rebuildMonth d t sensor (.dsn t.config) p.tz fresh)) w
      (fun _ w' => Touches d sensor p t.config t.sensorId fresh w w' ∧
        (p.Sound w.transfers → ∀ ym ∈ affectedMonths d p.tz fresh,
          FileHolds d sensor p t.config t.sensorId w.db fresh w' ym))
      (fun _ w' => Touches d sensor p t.config t.sensorId fresh w w') := by
    refine meets_mapM (I := fun done w' => Touches d sensor p t.config t.sensorId fresh w w' ∧
      (p.Sound w.transfers → ∀ ym ∈ done,
        FileHolds d sensor p t.config t.sensorId w.db fresh w' ym))
      (fun done ym rest hsplit w₁ h₁ => ?_)
      ⟨(touching d sensor p t.config t.sensorId fresh).refl w, by simp⟩
    have hmem : ∀ ym' ∈ done ++ ym :: rest, ∃ r ∈ fresh, localYm d.zones r.tsUtc p.tz = ym' :=
      fun ym' h => mem_affectedMonths.mp (hsplit ▸ h)
    have hnodup : ym ∉ done := by
      have h : (affectedMonths d p.tz fresh).Nodup := nodup_affectedMonths p.tz
      rw [hsplit] at h
      intro hdone
      exact (List.disjoint_of_nodup_append h) hdone (by simp)
    have hreadings := untouched_readings h₁.1.same
    refine (meets_rebuildMonth hp law hfresh (hmem ym (by simp)) w₁).mono (fun _ w₂ h₂ => ?_)
      (fun _ w₂ h₂ => (touching d sensor p t.config t.sensorId fresh).trans h₁.1 h₂)
    obtain ⟨htouch, hwritten⟩ := h₂
    refine ⟨(touching d sensor p t.config t.sensorId fresh).trans h₁.1 htouch,
      fun hsound ym' hym' => ?_⟩
    obtain ⟨⟨ctx, text, hmonth, htext, hfile⟩, hother⟩ := hwritten (hsound.suffix h₁.1.transfers)
    rcases List.mem_append.mp hym' with hdone | hnow
    · -- an earlier month has another file
      obtain ⟨ctx', text', hmonth', htext', hfile'⟩ := h₁.2 hsound ym' hdone
      have hne : p.key ym' ≠ p.key ym := by
        intro hkey
        obtain ⟨a, ha, rfl⟩ := hmem ym' (List.mem_append.mpr (Or.inl hdone))
        obtain ⟨b, hb, rfl⟩ := hmem ym (by simp)
        have heq := ym_of_yymm law (hfresh a ha) (hfresh b hb) (p.key_inj hkey)
        exact hnodup (heq ▸ hdone)
      exact ⟨ctx', text', hmonth', htext', (hother _ hne).trans hfile'⟩
    · obtain rfl := List.mem_singleton.mp hnow
      exact ⟨ctx, text, hmonth.congr hreadings.symm, htext, hfile⟩
  refine hloop.mono (fun results w₁ h₁ => ?_) (fun _ _ h => h)
  obtain ⟨htouch, hheld⟩ := h₁
  have hreadings := untouched_readings htouch.same
  have htargets := untouched_targets htouch.same
  have hsensors := untouched_sensors htouch.same
  refine meets_setExportWatermark hstamp (fun fs => ?_)
    (fun fs => (touching d sensor p t.config t.sensorId fresh).trans htouch (.withFaults w₁ fs))
  refine ⟨hreadings, by rw [← htargets], hsensors, htouch.others, fun hsound r hr => ?_,
    htouch.delivered⟩
  exact hheld hsound _ (mem_affectedMonths.mpr ⟨r, hr, rfl⟩)

/-- A run of a DSN target goes through, or moves nothing but files of affected months. -/
theorem meets_runExport_dsn (hkind : t.target = "dsn") (hp : Places d sensor p t.config)
    (law : MonthLaw d.zones p.tz) (w : World)
    (hsensor : w.db.sensors.find? (fun r => d.server.same r.id t.sensorId) = some sensor)
    (hfresh : ∀ r ∈ freshOf d w.db w.now t, InCentury d.zones p.tz c r.tsUtc) :
    Meets (runExport d t) w
      (fun _ w' => freshOf d w.db w.now t = [] ∧
          Touches d sensor p t.config t.sensorId (freshOf d w.db w.now t) w w' ∨
        freshOf d w.db w.now t ≠ [] ∧ Archived d sensor p t (freshOf d w.db w.now t) w w')
      (fun _ w' => Touches d sensor p t.config t.sensorId (freshOf d w.db w.now t) w w') := by
  refine meets_runExport (E := fun w' => Touches d sensor p t.config t.sensorId _ w w')
    (fun fs => .withFaults w fs) (fun hnone fs => Or.inl ⟨hnone, .withFaults w fs⟩)
    (fun sensor' exporter fs hne hfound hexp => ?_)
  obtain rfl : sensor' = sensor := Option.some.inj (hfound.symm.trans hsensor)
  rw [hkind] at hexp
  obtain rfl := makeExporter_dsn hexp
  show Meets (runMonthly d t sensor' (.dsn t.config) (exportTimezone d sensor' t.config) _) _ _ _
  rw [hp.zone]
  -- the new watermark is the timestamp of one of the fresh readings
  obtain ⟨⟨r, hr, htop⟩, -⟩ := newestTs_spec hne fun r hr => (hfresh r hr).isStamp
  have hstamp : IsStamp (newestTs (freshOf d w.db w.now t)) := htop ▸ (hfresh r hr).isStamp
  refine (meets_runMonthly hp law hfresh hstamp (w.withFaults fs)).mono
    (fun _ w' h => Or.inr ⟨hne, ?_⟩) (fun _ w' h => ⟨h.same, h.transfers, h.others, h.delivered⟩)
  exact ⟨h.readings, h.targets, h.sensors, h.others, h.held, h.delivered⟩

end

end NightWatcher.Exporter
