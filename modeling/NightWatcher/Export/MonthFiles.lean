import NightWatcher.Export.DsnFile
import NightWatcher.Export.Monthly

/-!
# Name, header and contents of a monthly file

Three places find the zone of a DSN target on their own: the run that cuts the months takes any
string the config gives as `timezone`, the name and the header take the sensor's zone if that string
is empty. Where the two zones have one offset the files agree with themselves: each is named after
the local month, in the zone of its header, of every reading in it. Where they have not, the first
reading of a month goes into a file with another month's name (`month_files_agree_iff`).
-/

namespace NightWatcher.Exporter

open Throwing TimeUtil Database DecimalText Gregorian

variable {d : Deps}

/-! ## Files that agree with themselves -/

/-- The file is named after a month, given as YY-MM. -/
def NamedAfter (month : String) : FileKey → Prop
  | .outbox path => ∃ front, path = front ++ "_" ++ month ++ ".dat"
  | .drive _ name => ∃ front, name = front ++ "_" ++ month ++ ".dat"

/-- A file is named after one month. -/
theorem NamedAfter.eq {month month' : String} {key : FileKey} (h : NamedAfter month key)
    (h' : NamedAfter month' key)
    (hlength : month.length = month'.length) : month = month' := by
  have hsuffix : ∀ {front front' : String},
      front ++ "_" ++ month ++ ".dat" = front' ++ "_" ++ month' ++ ".dat" →
      month = month' := by
    intro front front' heq
    have hlist := congrArg String.toList ((String.append_left_inj _).mp heq)
    rw [String.toList_append, String.toList_append (s := front' ++ "_")] at hlist
    exact String.toList_injective (List.append_inj' hlist hlength).2
  cases key with
  | outbox path =>
    obtain ⟨front, hpath⟩ := h
    obtain ⟨front', hpath'⟩ := h'
    exact hsuffix (hpath.symm.trans hpath')
  | drive folder name =>
    obtain ⟨front, hname⟩ := h
    obtain ⟨front', hname'⟩ := h'
    exact hsuffix (hname.symm.trans hname')

/-- The zone in the header. -/
def headerZone (cfg : Json) (sensor : SensorRow) : String := cfgOr cfg "timezone" sensor.timezone

/-- The file has a header, which names a zone, and is named after the month there of each of its
readings. -/
structure Agrees (d : Deps) (cfg : Json) (key : FileKey) (ctx : ExportContext)
    (text : String) : Prop where
  header : ∃ header includeCountsFreq,
      header[9]? = some ("# Local timezone: " ++ headerZone cfg ctx.sensor) ∧
    text = crlfLines
        (header ++ ctx.readings.map (dsnLine d (headerZone cfg ctx.sensor) includeCountsFreq))
  name : ∀ r ∈ ctx.readings, NamedAfter (yymm (localYm d.zones r.tsUtc (headerZone cfg ctx.sensor))) key

/-- All files delivered between two worlds, with the readings as they were. -/
def delivering (P : FileKey → ExportContext → String → Prop) : Frame World where
  rel w w' := w'.db.readings = w.db.readings ∧
    ∃ new, w'.effects = w.effects ++ new ∧ ∀ key ctx text, Effect.deliver key ctx text ∈ new →
        P key ctx text
  refl w := ⟨rfl, [], (List.append_nil _).symm, fun _ _ _ hmem => absurd hmem List.not_mem_nil⟩
  trans {w₁ w₂ w₃} h h' := by
    obtain ⟨hreadings, new, hnew, hall⟩ := h
    obtain ⟨hreadings', new', hnew', hall'⟩ := h'
    refine ⟨hreadings'.trans hreadings, new ++ new', by rw [hnew', hnew, List.append_assoc], ?_⟩
    intro key ctx text hmem
    rcases List.mem_append.mp hmem with hold | hlater
    · exact hall key ctx text hold
    · exact hall' key ctx text hlater

variable {P : FileKey → ExportContext → String → Prop}

/-- What is said of deliveries does not depend on faults. -/
theorem delivering_withFaults : IgnoresFaults (delivering P) :=
  fun w _ => (delivering P).refl w

/-- Nothing is delivered. -/
theorem delivering_of_same {w w' : World} (h : untouched.rel w w') (heffects : w'.effects = w.effects) :
    (delivering P).rel w w' :=
  ⟨untouched_readings h, [],
      by rw [heffects, List.append_nil], fun _ _ _ hmem => absurd hmem List.not_mem_nil⟩

/-- A moved watermark delivers nothing. -/
theorem delivering_setExportWatermark (id ts : String) :
    Keeps (delivering P) (setExportWatermark d.server id ts) := by
  refine keeps_statement delivering_withFaults fun w a db' h => ?_
  simp only [Option.bind_eq_bind, Option.bind_eq_some_iff, Option.pure_def, Option.some.injEq,
    Prod.mk.injEq] at h
  obtain ⟨_, -, _, -, -, rfl⟩ := h
  exact ⟨rfl, [], (List.append_nil _).symm, fun _ _ _ hmem => absurd hmem List.not_mem_nil⟩

/-- The DSN exporter delivers one file, of the context it was given. -/
theorem delivering_runDsn {config : String} {ctx : ExportContext}
    (h : ∀ name key text, dsnFileName d ctx config = .ok name → dsnDestination d config name = .ok key →
      formatDsnDat d ctx config = .ok text → P key ctx text) :
    Keeps (delivering P) (runDsn d config ctx) := by
  refine keeps_of_meets fun w => ?_
  unfold runDsn
  simp only [meets_bind, meets_liftExcept]
  refine ⟨fun text htext => ⟨fun name hname => ⟨fun key hkey => ?_, fun _ _ => (delivering P).refl w⟩,
    fun _ _ => (delivering P).refl w⟩, fun _ _ => (delivering P).refl w⟩
  refine (meets_transferFile key ctx text w).mono (fun remoteId w' h' => ?_)
    fun _ w' h' => delivering_of_same h'.1 h'.2.2
  have hdelivered : (delivering P).rel w w' := by
    refine ⟨untouched_readings h'.1, [.deliver key ctx text], h'.2.2, fun key' ctx' text' hmem => ?_⟩
    obtain ⟨rfl, rfl, rfl⟩ := Effect.deliver.inj (List.mem_singleton.mp hmem)
    exact h name key' text' hname hkey htext
  split <;> exact hdelivered

/-- `pushAndLog` delivers what the exporter delivers. -/
theorem delivering_pushAndLog {targetId : String} {exporter : IExporter} {ctx : ExportContext}
    (h : Keeps (delivering P) (exporter.run d ctx)) : Keeps (delivering P)
        (pushAndLog d targetId exporter ctx) :=
  keeps_of_meets fun w => meets_pushAndLog (h.meets w) (fun _ _ _ _ hw => hw) (fun _ _ _ _ hw => hw)
    fun _ hw => hw

/-! ## One month -/

/-- A year that has not four digits makes no DATETIME. -/
def RefusesYears (srv : Server) : Prop := ∀ t, ¬InYears t → srv.datetime (fmtSqlUtc t) = none

/-- What lies in a window lies between its ends, which are timestamps then. -/
theorem tsBetween_stamps {srv : Server} (hyears : RefusesYears srv) {lo hi : Int} {ts : String}
    (h : tsBetween srv (fmtSqlUtc lo) (fmtSqlUtc hi) ts = true) :
    InYears lo ∧ InYears hi ∧ fmtSqlUtc lo ≤ ts ∧ ts ≤ fmtSqlUtc hi := by
  unfold tsBetween at h
  rw [Bool.and_eq_true, Bool.or_eq_true, Bool.or_eq_true, decide_eq_true_eq, decide_eq_true_eq] at h
  obtain ⟨hlo, hhi⟩ := h
  have hlo := hlo.resolve_left (fmtSqlUtc_ne_empty lo)
  have hhi := hhi.resolve_left (fmtSqlUtc_ne_empty hi)
  have hyear : ∀ {t : Int} {p : String → Bool}, (srv.datetime (fmtSqlUtc t)).any p = true →
      InYears t ∧ p (fmtSqlUtc t) = true := by
    intro t p hany
    by_cases ht : InYears t
    · rw [srv.datetime_fmtSqlUtc t ht] at hany
      exact ⟨ht, hany⟩
    · rw [hyears t ht] at hany
      cases hany
  obtain ⟨hylo, hlo⟩ := hyear hlo
  obtain ⟨hyhi, hhi⟩ := hyear hhi
  exact ⟨hylo, hyhi, of_decide_eq_true hlo, of_decide_eq_true hhi⟩

/-- Zones of one offset call a timestamp's month the same. -/
theorem localYm_congr {offset : String → Int} {tz tz' : String}
    (hsame : offsetOf offset tz = offsetOf offset tz')
    {t : Int} (ht : InYears t) :
    localYm (Zones.fixed offset) (fmtSqlUtc t) tz = localYm (Zones.fixed offset) (fmtSqlUtc t) tz' := by
  rw [localYm_fixed offset tz ht, localYm_fixed offset tz' ht]
  unfold localMonth
  rw [hsame]

/-- The window of a month, cut in one zone, ends in the month of each reading in it, in every zone
of the same offset. -/
theorem window_month {srv : Server} (hyears : RefusesYears srv) {offset : String → Int}
    {cut tz : String}
    (hsame : offsetOf offset cut = offsetOf offset tz) {t u : Int} (ht : InYears t) (hu : InYears u)
    (hbetween : tsBetween srv (localMonthBoundsUtc (Zones.fixed offset) (fmtSqlUtc t) cut).1
      (localMonthBoundsUtc (Zones.fixed offset) (fmtSqlUtc t) cut).2 (fmtSqlUtc u) = true) :
    localYm (Zones.fixed offset) (localMonthBoundsUtc (Zones.fixed offset) (fmtSqlUtc t) cut).2 tz
      = localYm (Zones.fixed offset) (fmtSqlUtc u) tz := by
  have hbounds := localMonthBoundsUtc_fixed offset cut ht
  rw [hbounds] at hbetween
  obtain ⟨hfirst, hlast, hlo, hhi⟩ := tsBetween_stamps hyears hbetween
  obtain ⟨hmonth, hend⟩ := window_partition ht hu hfirst hlast
  rw [hbounds] at hmonth hend ⊢
  dsimp only at hmonth hend ⊢
  rw [← localYm_congr hsame hlast, ← localYm_congr hsame hu, hend]
  exact (hmonth.mp ⟨hlo, hhi⟩).symm

/-- A destination keeps the name it is given. -/
theorem dsnDestination_named {config name month : String} {key : FileKey}
    (hkey : dsnDestination d config name = .ok key) (hname : ∃ front,
        name = front ++ "_" ++ month ++ ".dat") :
    NamedAfter month key := by
  obtain ⟨front, rfl⟩ := hname
  unfold dsnDestination at hkey
  simp only [bind, Except.bind] at hkey
  split at hkey
  · cases hkey
  · split at hkey
    · cases hkey
    · rename_i outbox _
      by_cases houtbox : outbox ≠ ""
      · rw [if_pos houtbox] at hkey
        obtain rfl := Except.ok.inj hkey
        exact ⟨outbox ++ "/" ++ front, by simp only [String.append_assoc]⟩
      · rw [if_neg houtbox] at hkey
        split at hkey
        · cases hkey
        · rename_i folder _
          by_cases hfolder : folder ≠ ""
          · rw [if_pos hfolder] at hkey
            split at hkey
            · cases hkey
            · obtain rfl := Except.ok.inj hkey
              exact ⟨front, rfl⟩
          · rw [if_neg hfolder] at hkey
            cases hkey

/-- The file's name, from the config and the context. -/
theorem dsnFileName_eq {ctx : ExportContext} {config name : String} {cfg : Json}
    (hcfg : parseConfig d config = .ok cfg) (hto : ctx.toTs ≠ "") :
    dsnFileName d ctx config = .ok name ↔ name = dsnStem ctx.sensor cfg ++ "_" ++
      yymm (localYm d.zones ctx.toTs (headerZone cfg ctx.sensor)) ++ ".dat" := by
  have href : fileMonthRef ctx = ctx.toTs := if_pos hto
  unfold dsnFileName
  rw [hcfg]
  simp only [bind, Except.bind, pure, Except.pure, Except.ok.injEq, href]
  exact eq_comm

/-- The config settles where files go, and that with counts or without. -/
structure CanDeliver (d : Deps) (config : String) (cfg : Json) : Prop where
  destination : ∃ name key, dsnDestination d config name = .ok key
  countsFreq : ∃ b, cfg.valueOr "include_counts_freq" Json.getBool false = .ok b

/-- The name has no part in it. -/
theorem CanDeliver.key {config : String} {cfg : Json} (h : CanDeliver d config cfg) (name : String) :
    ∃ key, dsnDestination d config name = .ok key := by
  obtain ⟨name₀, key₀, hkey⟩ := h.destination
  unfold dsnDestination at hkey ⊢
  simp only [bind, Except.bind] at hkey ⊢
  split at hkey
  · cases hkey
  · split at hkey
    · cases hkey
    · rename_i outbox _
      by_cases hne : outbox ≠ ""
      · exact ⟨.outbox (outbox ++ "/" ++ name), if_pos hne⟩
      · rw [if_neg hne] at hkey ⊢
        split at hkey
        · cases hkey
        · rename_i folder _
          by_cases hfolder : folder ≠ ""
          · rw [if_pos hfolder] at hkey ⊢
            split at hkey
            · cases hkey
            · exact ⟨_, rfl⟩
          · rw [if_neg hfolder] at hkey
            cases hkey

/-- A config that gave a file says whether counts and frequency are shown. -/
theorem countsFreq_of_formatDsnDat {ctx : ExportContext} {config text : String} {cfg : Json}
    (hcfg : parseConfig d config = .ok cfg) (htext : formatDsnDat d ctx config = .ok text) :
    ∃ b, cfg.valueOr "include_counts_freq" Json.getBool false = .ok b := by
  unfold formatDsnDat at htext
  rw [hcfg] at htext
  cases hflag : cfg.valueOr "include_counts_freq" Json.getBool false with
  | error e =>
    simp only [hflag, bind, Except.bind] at htext
    cases htext
  | ok b => exact ⟨b, rfl⟩

/-- A config that says so gives a file. -/
theorem formatDsnDat_ok {config : String} {cfg : Json} (hcfg : parseConfig d config = .ok cfg)
    (h : ∃ b, cfg.valueOr "include_counts_freq" Json.getBool false = .ok b) (ctx : ExportContext) :
    ∃ text, formatDsnDat d ctx config = .ok text := by
  obtain ⟨b, hb⟩ := h
  unfold formatDsnDat
  rw [hcfg]
  simp only [hb, bind, Except.bind, pure, Except.pure]
  exact ⟨_, rfl⟩

/-- A transfer that goes through delivers the file. -/
theorem meets_runDsn_done {config text name remoteId : String} {key : FileKey} {ctx : ExportContext}
    {rest : List Transfer} {w : World} {Q : World → Prop} {E : String → World → Prop}
    (htext : formatDsnDat d ctx config = .ok text) (hname : dsnFileName d ctx config = .ok name)
    (hkey : dsnDestination d config name = .ok key) (hw : w.transfers = .done remoteId :: rest)
    (h : Q { w with
      transfers := rest
      files := Function.update w.files key (some text)
      effects := w.effects ++ [.deliver key ctx text] }) :
    Meets (runDsn d config ctx) w (fun _ => Q) E := by
  unfold runDsn
  rw [htext, hname]
  simp only [liftExcept, pure_bind, hkey, meets_bind]
  unfold Meets transferFile
  rw [hw]
  dsimp only
  rw [FileKey.hit_none, FileKey.keeps_none]
  cases key with
  | outbox path => exact h
  | drive folder name => exact h

/-! ## A run -/

section Runs

variable {offset : String → Int} {t : ExportTargetRow} {sensor : SensorRow} {cfg : Json}
  (hz : d.zones = Zones.fixed offset) (hyears : RefusesYears d.server)
  (hcfg : parseConfig d t.config = .ok cfg)
  (hsame : CanDeliver d t.config cfg →
    offsetOf offset (exportTimezone d sensor t.config) = offsetOf offset (headerZone cfg sensor))

include hz hyears hcfg hsame

/-- The rebuild of a month delivers a file that agrees with itself. -/
theorem delivering_rebuildMonth {fresh : List ReadingRow} (hfresh : ∀ r ∈ fresh, IsStamp r.tsUtc)
    {ym : String}
    (hym : ∃ r ∈ fresh, localYm d.zones r.tsUtc (exportTimezone d sensor t.config) = ym) {w : World}
    (hstamps : ∀ r ∈ storedReadings d.server w.db t.sensorId, IsStamp r.tsUtc) :
    Meets (rebuildMonth d t sensor (.dsn t.config) (exportTimezone d sensor t.config) fresh ym) w
      (fun _ w' => (delivering (Agrees d cfg)).rel w w') fun _ w' =>
        (delivering (Agrees d cfg)).rel w w' := by
  generalize exportTimezone d sensor t.config = cut at hsame hym ⊢
  obtain ⟨r, hfind⟩ : ∃ r, fresh.find? (fun r => localYm d.zones r.tsUtc cut = ym) = some r := by
    obtain ⟨r, hr, hrym⟩ := hym
    exact Option.isSome_iff_exists.mp (List.find?_isSome.mpr ⟨r, hr, by simpa using hrym⟩)
  obtain ⟨u, hu, hts⟩ := hfresh r (List.mem_of_find?_eq_some hfind)
  unfold rebuildMonth
  rw [hfind]
  simp only [Option.map_some, Option.getD_some, meets_bind, readingsBetween_eq, hts]
  refine meets_select (fun fs => ?_) fun fs => (delivering (Agrees d cfg)).refl w
  refine (delivering_pushAndLog (delivering_runDsn fun name key text hname hkey htext => ?_)).meets
      (w.withFaults fs)
  have hto : (localMonthBoundsUtc d.zones (fmtSqlUtc u) cut).2 ≠ "" := by
    rw [hz, localMonthBoundsUtc_fixed offset cut hu]
    exact fmtSqlUtc_ne_empty _
  have hname := (dsnFileName_eq hcfg (by exact hto)).mp hname
  have hsame := hsame ⟨⟨name, key, hkey⟩, countsFreq_of_formatDsnDat hcfg htext⟩
  obtain ⟨includeCountsFreq, htext⟩ := formatDsnDat_lines hcfg htext
  refine ⟨⟨_, includeCountsFreq, rfl, htext⟩, fun x hx => ?_⟩
  obtain ⟨hstored, hbetween⟩ := mem_windowRows (List.mem_reverse.mp hx)
  obtain ⟨v, hv, hxts⟩ := hstamps x hstored
  have hmonth : localYm d.zones (localMonthBoundsUtc d.zones (fmtSqlUtc u) cut).2
      (headerZone cfg sensor)
      = localYm d.zones x.tsUtc (headerZone cfg sensor) := by
    rw [hxts] at hbetween ⊢
    rw [hz] at hbetween ⊢
    exact window_month hyears hsame hu hv hbetween
  exact dsnDestination_named hkey ⟨dsnStem sensor cfg, hmonth ▸ hname⟩

/-- By induction on the months. -/
theorem delivering_runMonthly {fresh : List ReadingRow} (hfresh : ∀ r ∈ fresh, IsStamp r.tsUtc)
    {w : World}
    (hstamps : ∀ r ∈ storedReadings d.server w.db t.sensorId, IsStamp r.tsUtc) :
    Meets (runMonthly d t sensor (.dsn t.config) (exportTimezone d sensor t.config) fresh) w
      (fun _ w' => (delivering (Agrees d cfg)).rel w w') fun _ w' =>
        (delivering (Agrees d cfg)).rel w w' := by
  unfold runMonthly
  simp only [meets_bind, meets_pure]
  have hloop : Meets ((affectedMonths d (exportTimezone d sensor t.config) fresh).mapM
      (rebuildMonth d t sensor (.dsn t.config) (exportTimezone d sensor t.config) fresh)) w
      (fun _ w' => (delivering (Agrees d cfg)).rel w w') fun _ w' =>
        (delivering (Agrees d cfg)).rel w w' := by
    refine meets_mapM (I := fun _ w' => (delivering (Agrees d cfg)).rel w w')
      (fun done ym rest hsplit w₁ h₁ => ?_) ((delivering (Agrees d cfg)).refl w)
    have hym : ∃ r ∈ fresh, localYm d.zones r.tsUtc (exportTimezone d sensor t.config) = ym :=
      mem_affectedMonths.mp (hsplit ▸ List.mem_append_right _ List.mem_cons_self)
    have hstamps₁ : ∀ r ∈ storedReadings d.server w₁.db t.sensorId, IsStamp r.tsUtc := by
      unfold storedReadings
      rw [h₁.1]
      exact hstamps
    exact (delivering_rebuildMonth hz hyears hcfg hsame hfresh hym hstamps₁).mono
      (fun _ _ h => (delivering _).trans h₁ h) fun _ _ h => (delivering _).trans h₁ h
  refine hloop.mono (fun results w₁ h₁ => ?_) fun _ _ h => h
  exact ((delivering_setExportWatermark t.id (newestTs fresh)).meets w₁).mono
    (fun _ _ h => (delivering _).trans h₁ h) fun _ _ h => (delivering _).trans h₁ h

/-- Every delivery of a run agrees with the file of its month. -/
theorem delivering_runExport (hkind : t.target = "dsn") {w : World}
    (hsensor : w.db.sensors.find? (fun r => d.server.same r.id t.sensorId) = some sensor)
    (hstamps : ∀ r ∈ storedReadings d.server w.db t.sensorId, IsStamp r.tsUtc) :
    Meets (runExport d t) w (fun _ w' => (delivering (Agrees d cfg)).rel w w')
      fun _ w' => (delivering (Agrees d cfg)).rel w w' := by
  refine meets_runExport (fun fs => (delivering _).refl w) (fun _ fs => (delivering _).refl w)
    (fun sensor' exporter fs hne hfound hexp => ?_)
  obtain rfl : sensor' = sensor := Option.some.inj (hfound.symm.trans hsensor)
  rw [hkind] at hexp
  obtain rfl := makeExporter_dsn hexp
  refine delivering_runMonthly hz hyears hcfg hsame (fun r hr => ?_) hstamps
  have hrow : r ∈ windowRows d.server w.db t.sensorId t.lastExportTs (fmtSqlUtc w.now) kMaxRows := by
    unfold freshOf freshReadings at hr
    split at hr
    · exact hr
    · exact List.mem_of_mem_filter hr
  exact hstamps r (mem_windowRows hrow).1

end Runs

/-! ## The zones of a config -/

/-- An empty `timezone` is the server's zone in one place and the sensor's in the other. -/
theorem exportTimezone_empty {config : String} {cfg : Json} (hcfg : parseConfig d config = .ok cfg)
    (htz : cfg.member? "timezone" = some (.str "")) (sensor : SensorRow) :
    exportTimezone d sensor config = "" ∧ headerZone cfg sensor = sensor.timezone := by
  unfold parseConfig at hcfg
  unfold headerZone exportTimezone cfgOr
  rw [htz]
  split at hcfg
  next he =>
    obtain rfl := Except.ok.inj hcfg
    cases htz
  next he =>
    unfold parseJson at hcfg
    rw [if_neg he]
    split at hcfg
    next j hj =>
      obtain rfl := Except.ok.inj hcfg
      rw [hj]
      simp only [htz, if_pos, and_self]
    next => cases hcfg

/-! ## The first reading of a year -/

/-- A reading of midnight, New Year 2026. -/
def midnightReading (sensorId : String) : ReadingRow where
  sensorId
  tsUtc := fmtSqlUtc 1767225600
  magArcsec2 := 0
  freqHz := 0
  periodCounts := 0
  periodS := 0
  tempC := 0

/-- It has just been taken, and the destination is at hand. -/
def newYear (sensor : SensorRow) (sensorId : String) : World where
  db := { sensors := [sensor], readings := [midnightReading sensorId] }
  now := 1767225600
  transfers := [.done ""]

/-- A file that has the reading was delivered, named after the month of the last second of January. -/
def NewYearFile (d : Deps) (cfg : Json) (sensor : SensorRow) (sensorId : String) (w : World) : Prop :=
  ∃ key ctx text, Effect.deliver key ctx text ∈ w.effects ∧ ctx.sensor = sensor ∧
    midnightReading sensorId ∈ ctx.readings ∧
    NamedAfter (yymm (localYm d.zones (fmtSqlUtc 1769903999) (headerZone cfg sensor))) key

/-- The one reading of the new year. -/
theorem storedReadings_newYear (srv : Server) (sensor : SensorRow) (sensorId : String) :
    storedReadings srv (newYear sensor sensorId).db sensorId = [midnightReading sensorId] := by
  have hsame : srv.same sensorId sensorId = true := decide_eq_true rfl
  simp [storedReadings, newYear, midnightReading, hsame]

/-- It is in every window around it. -/
theorem windowRows_newYear (srv : Server) (sensor : SensorRow) (sensorId : String) {lo hi : String}
    (h : tsBetween srv lo hi (fmtSqlUtc 1767225600) = true) :
    windowRows srv (newYear sensor sensorId).db sensorId lo hi kMaxRows =
        [midnightReading sensorId] := by
  have hsame : srv.same sensorId sensorId = true := decide_eq_true rfl
  unfold windowRows
  rw [clampLimit_kMaxRows]
  simp [newYear, midnightReading, hsame, h, kMaxRows]

/-- Rows of the log do not change what was delivered. -/
theorem newYearFile_logProof {cfg : Json} {sensor : SensorRow} {sensorId : String} :
    LogProof (NewYearFile d cfg sensor sensorId) := fun _ _ _ _ h => h

/-- What was delivered stays delivered. -/
theorem NewYearFile.mono {cfg : Json} {sensor : SensorRow} {sensorId : String} {w w' : World}
    {P : FileKey → ExportContext → String → Prop} (h : NewYearFile d cfg sensor sensorId w)
    (hgrows : ∃ new, w'.effects = w.effects ++ new ∧ ∀ key ctx text,
        Effect.deliver key ctx text ∈ new → P key ctx text) :
    NewYearFile d cfg sensor sensorId w' := by
  obtain ⟨key, ctx, text, hmem, hctx⟩ := h
  obtain ⟨new, hnew, -⟩ := hgrows
  exact ⟨key, ctx, text, hnew ▸ List.mem_append_left new hmem, hctx⟩

/-- Midnight of New Year is in the January of UTC. -/
theorem newYear_bounds (offset : String → Int) :
    localMonthBoundsUtc (Zones.fixed offset) (fmtSqlUtc 1767225600) "" = (fmtSqlUtc 1767225600,
        fmtSqlUtc 1769903999) := by
  rw [localMonthBoundsUtc_fixed offset "" (by decide)]
  rfl

section NewYear

variable {offset : String → Int} {t : ExportTargetRow} {sensor : SensorRow} {cfg : Json}
  (hz : d.zones = Zones.fixed offset) (hcfg : parseConfig d t.config = .ok cfg)
  (hdeliver : CanDeliver d t.config cfg)

include hz hcfg hdeliver

/-- The rebuild of its month delivers the file with the reading. -/
theorem rebuilds_newYear {r : ReadingRow} (hr : r = midnightReading t.sensorId) {ym : String}
    (hym : localYm d.zones (fmtSqlUtc 1767225600) "" = ym) (wm : String) :
    Meets (rebuildMonth d { t with lastExportTs := wm } sensor (.dsn t.config) "" [r] ym)
      (newYear sensor t.sensorId) (fun _ w => NewYearFile d cfg sensor t.sensorId w)
      fun _ w => NewYearFile d cfg sensor t.sensorId w := by
  subst hr
  have hfind : [midnightReading t.sensorId].find? (fun r => localYm d.zones r.tsUtc "" = ym)
      = some (midnightReading t.sensorId) := by
    simp [midnightReading, hym]
  have hbetween : tsBetween d.server (fmtSqlUtc 1767225600) (fmtSqlUtc 1769903999)
      (fmtSqlUtc 1767225600) = true := by
    unfold tsBetween
    rw [d.server.datetime_fmtSqlUtc _ (by decide), d.server.datetime_fmtSqlUtc _ (by decide)]
    have hle : fmtSqlUtc 1767225600 ≤ fmtSqlUtc 1769903999 :=
      (fmtSqlUtc_le_iff (by decide) (by decide)).mpr (by decide)
    simp [hle]
  have hbounds : localMonthBoundsUtc d.zones (midnightReading t.sensorId).tsUtc "" = _ :=
    hz ▸ newYear_bounds offset
  unfold rebuildMonth
  rw [hfind]
  simp only [Option.map_some, Option.getD_some, hbounds, meets_bind, readingsBetween_eq]
  rw [meets_select_calm rfl, windowRows_newYear d.server sensor t.sensorId hbetween]
  refine meets_pushAndLog (Q := NewYearFile d cfg sensor t.sensorId) ?_ newYearFile_logProof
      newYearFile_logProof
    fun _ h => h
  let ctx : ExportContext :=
    ⟨sensor, [midnightReading t.sensorId], [], fmtSqlUtc 1767225600, fmtSqlUtc 1769903999⟩
  have hname := (dsnFileName_eq hcfg (show ctx.toTs ≠ "" from fmtSqlUtc_ne_empty _)).mpr rfl
  obtain ⟨text, htext⟩ := formatDsnDat_ok hcfg hdeliver.countsFreq ctx
  obtain ⟨key, hkey⟩ := hdeliver.key (dsnStem sensor cfg ++ "_" ++
    yymm (localYm d.zones (fmtSqlUtc 1769903999) (headerZone cfg sensor)) ++ ".dat")
  refine meets_runDsn_done htext hname hkey rfl ⟨key, _, text, List.mem_singleton.mpr rfl, rfl,
    List.mem_singleton.mpr rfl, dsnDestination_named hkey ⟨_, rfl⟩⟩

/-- Whatever becomes of the watermark. -/
theorem delivers_newYear (hkind : t.target = "dsn") (hof : d.server.same sensor.id t.sensorId = true)
    (hzone : exportTimezone d sensor t.config = "") : NewYearFile d cfg sensor t.sensorId
      (endState (runExport d { t with lastExportTs := "" } (newYear sensor t.sensorId))) := by
  have hfresh : freshOf d (newYear sensor t.sensorId).db (newYear sensor t.sensorId).now
      { t with lastExportTs := "" } = [midnightReading t.sensorId] := by
    refine windowRows_newYear d.server sensor t.sensorId ?_
    unfold tsBetween
    rw [show (newYear sensor t.sensorId).now = 1767225600 from rfl,
        d.server.datetime_fmtSqlUtc _ (by decide)]
    simp
  have hexp : makeExporter d t.target t.config = .ok (.dsn t.config) := by
    rw [hkind]
    refine if_neg fun h => ?_
    unfold parseConfig parseJson at hcfg
    rw [if_neg h.1, h.2] at hcfg
    cases hcfg
  have hmonths : affectedMonths d "" [midnightReading t.sensorId] =
      [localYm d.zones (fmtSqlUtc 1767225600) ""] := by
    unfold affectedMonths
    rw [List.map_singleton, List.dedup_eq_self.mpr (List.nodup_singleton _), List.mergeSort_singleton]
    rfl
  -- with the reading and its month in view their texts would be evaluated at each step
  generalize hr : midnightReading t.sensorId = r at hfresh hmonths
  generalize hym : localYm d.zones (fmtSqlUtc 1767225600) "" = ym at hmonths
  refine Meets.endState (meets_runExport_calm rfl (by rw [hfresh]; exact List.cons_ne_nil _ _)
    (List.find?_cons_of_pos hof) hexp ?_)
  rw [hfresh]
  show Meets (runMonthly d _ sensor (.dsn t.config) (exportTimezone d sensor t.config) _) _ _ _
  unfold runMonthly
  rw [hzone, hmonths]
  simp only [List.mapM_cons, List.mapM_nil, meets_bind, meets_pure]
  refine (rebuilds_newYear hz hcfg hdeliver hr.symm hym "").mono (fun _ w hw => ?_) fun _ _ hw => hw
  exact ((delivering_setExportWatermark (P := fun _ _ _ => True) t.id _).meets w).mono
    (fun _ _ hmark => hw.mono hmark.2) fun _ _ hmark => hw.mono hmark.2

end NewYear

/-- East of Greenwich the last second of January is in February, and west of it midnight is in
December. -/
theorem newYear_months {offset : String → Int} {tz : String} (hoff : |offsetOf offset tz| < 86400)
    (hne : offsetOf offset tz ≠ 0) :
    ∃ k ∈ [24311, 24312], localMonth offset tz 1767225600 = k ∧
        localMonth offset tz 1769903999 = k + 1 := by
  obtain ⟨hdec, hjan, hfeb, hmar⟩ : monthStart 24311 = 1764547200 ∧
    monthStart 24312 = 1767225600 ∧ monthStart 24313 = 1769904000 ∧
    monthStart 24314 = 1772323200 := by decide
  rw [abs_lt] at hoff
  simp only [localMonth_eq_iff, localMonthFirst, localMonthLast]
  rcases lt_or_gt_of_ne hne with hwest | heast
  · refine ⟨24311, List.mem_cons_self, ?_⟩
    simp only [Int.reduceAdd, hdec, hjan, hfeb]
    omega
  · refine ⟨24312, List.mem_cons_of_mem _ List.mem_cons_self, ?_⟩
    simp only [Int.reduceAdd, hjan, hfeb, hmar]
    omega

/-- With an offset of the zone the two months are named apart. -/
theorem newYear_names {offset : String → Int} {tz : String} (hoff : |offsetOf offset tz| < 86400)
    (hne : offsetOf offset tz ≠ 0) {key : FileKey}
    (hlast : NamedAfter (yymm (localYm (Zones.fixed offset) (fmtSqlUtc 1769903999) tz)) key) :
    ¬NamedAfter (yymm (localYm (Zones.fixed offset) (fmtSqlUtc 1767225600) tz)) key := by
  intro hfirst
  obtain ⟨k, hk, hmidnight, hend⟩ := newYear_months hoff hne
  rw [localYm_fixed offset tz (by decide), hend] at hlast
  rw [localYm_fixed offset tz (by decide), hmidnight] at hfirst
  have hmonths : ∀ k ∈ [(24311 : Int), 24312],
      (yymm (ymOfMonth k)).length = (yymm (ymOfMonth (k + 1))).length ∧
      yymm (ymOfMonth k) ≠ yymm (ymOfMonth (k + 1)) := by decide
  obtain ⟨hlength, hdiffer⟩ := hmonths k hk
  exact hdiffer (hfirst.eq hlast hlength)

/-! ## Which targets have files that agree -/

/-- Each file a run of the target delivers agrees with itself. -/
def MonthlyAgrees (d : Deps) (t : ExportTargetRow) (cfg : Json) (w : World) : Prop :=
  ∀ key ctx text, Effect.deliver key ctx text ∈ (endState (runExport d t w)).effects.drop
      w.effects.length →
    Agrees d cfg key ctx text

/-- The reading has a timestamp. -/
theorem stamped_newYear (srv : Server) (sensor : SensorRow) (sensorId : String) :
    ∀ r ∈ storedReadings srv (newYear sensor sensorId).db sensorId, IsStamp r.tsUtc := by
  intro r hr
  rw [storedReadings_newYear] at hr
  obtain rfl := List.mem_singleton.mp hr
  exact ⟨1767225600, by decide, rfl⟩

/-- With an empty `timezone` and a sensor off UTC, midnight of New Year is in the wrong file. -/
theorem misnames_newYear {offset : String → Int} (hz : d.zones = Zones.fixed offset)
    {t : ExportTargetRow}
    {sensor : SensorRow} {cfg : Json} (hoff : |offset sensor.timezone| < 86400)
    (hkind : t.target = "dsn")
    (hcfg : parseConfig d t.config = .ok cfg) (hof : d.server.same sensor.id t.sensorId = true)
    (htz : cfg.member? "timezone" = some (.str "")) (hdeliver : CanDeliver d t.config cfg)
    (hne : offsetOf offset sensor.timezone ≠ 0) :
    ¬MonthlyAgrees d { t with lastExportTs := "" } cfg (newYear sensor t.sensorId) := by
  intro hagree
  obtain ⟨hzone, hheader⟩ := exportTimezone_empty hcfg htz sensor
  obtain ⟨key, ctx, text, hmem, rfl, hreading, hnamed⟩ :=
    delivers_newYear hz hcfg hdeliver hkind hof hzone
  have hname := (hagree key ctx text hmem).name _ hreading
  have hoffset : |offsetOf offset ctx.sensor.timezone| < 86400 := by
    unfold offsetOf
    split
    · decide
    · exact hoff
  rw [hheader, hz] at hname hnamed
  exact newYear_names hoffset hne hnamed hname

/-- A dash stands in the fifth column, and none in the first, if the number before it has four
digits. -/
theorem dash_after_year {y : Int} (rest : List Char) :
    ((printfPadded 4 y ++ '-' :: rest).head? ≠ some '-' ∧
        (printfPadded 4 y ++ '-' :: rest)[4]? = some '-') ↔
      0 ≤ y ∧ y < 10000 := by
  rcases lt_or_ge y 0 with hneg | hpos
  · rw [printfPadded, if_neg (not_le.mpr hneg)]
    simp only [List.cons_append, List.head?_cons, ne_eq, not_true_eq_false, false_and, false_iff]
    omega
  · by_cases hlt : y < 10000
    · rw [printfPadded_eq hpos (by omega)]
      refine ⟨fun _ => ⟨hpos, hlt⟩, fun _ => ⟨?_, ?_⟩⟩
      · intro hhead
        have hmem : '-' ∈ fixedDigits 4 y.toNat := by
          rw [List.head?_append_of_ne_nil _ (List.ne_nil_of_length_pos (by simp))] at hhead
          exact List.mem_of_head? hhead
        exact absurd (fixedDigits_isDigit 4 _ _ hmem) (by decide)
      · rw [List.getElem?_append_right (by simp)]
        simp
    · have hlong : 4 < (Nat.toDigits 10 y.toNat).length := by
        by_contra hle
        have hshort := (Nat.length_toDigits_le_iff (by decide) (by decide)).mp (not_lt.mp hle)
        omega
      rw [printfPadded, if_pos hpos, if_neg (by omega)]
      refine ⟨fun h => ?_, fun h => absurd h.2 hlt⟩
      rw [List.getElem?_append_left hlong] at h
      have hdigit := Nat.isDigit_of_mem_toDigits (by decide) (by decide) (List.mem_of_getElem? h.2)
      exact absurd hdigit (by decide)

/-- DATETIMEs have a year of four digits. -/
def fourDigitYear (s : String) : Bool := s.toList.head? ≠ some '-' ∧ s.toList[4]? = some '-'

/-- The test for four digits of the year. -/
theorem fourDigitYear_iff (t : Int) : fourDigitYear (fmtSqlUtc t) = true ↔ InYears t := by
  have hyear : (gmtime t).tmYear + 1900 = monthOfInstant t / 12 := Int.sub_add_cancel _ _
  unfold fourDigitYear InYears fmtSqlUtc fmtSql fmtColumns
  rw [decide_eq_true_iff, String.toList_ofList, dash_after_year, hyear]
  omega

def archiveServer : Server :=
  { Server.plain with
    datetime := fun s => if fourDigitYear s then some s else none
    datetime_fmtSqlUtc := fun t ht => if_pos ((fourDigitYear_iff t).mpr ht) }

/-- The server refuses other years. -/
theorem archiveServer_refuses : RefusesYears archiveServer :=
  fun t ht => if_neg fun h => ht ((fourDigitYear_iff t).mp h)

def archiveConfig : String := "\x7b\"outbox_dir\":\"/out\",\"timezone\":\"\"\x7d"

def archiveCfg : Json := .obj [("outbox_dir", .str "/out"), ("timezone", .str "")]

def archiveOffset (tz : String) : Int := if tz = "CET" then 3600 else 0

def archiveDeps : Deps :=
  { Deps.plain [(archiveConfig, archiveCfg)] with
    server := archiveServer
    zones := Zones.fixed archiveOffset }

def archiveTarget : ExportTargetRow :=
  { id := "T", sensorId := "S", target := "dsn", config := archiveConfig }

def archiveSensor (timezone : String) : SensorRow :=
  { id := "S", timezone, transport := .tcp, address := "10.0.0.5:10001" }

/-- The config is the JSON. -/
theorem archiveConfig_parses : parseConfig archiveDeps archiveTarget.config = .ok archiveCfg := by
  have hfound : archiveDeps.json.parse archiveTarget.config = some archiveCfg := rfl
  unfold parseConfig parseJson
  rw [if_neg (by decide), hfound]

/-- The target can deliver. -/
theorem archive_delivers : CanDeliver archiveDeps archiveTarget.config archiveCfg := by
  refine ⟨⟨"S.dat", .outbox "/out/S.dat", ?_⟩, false, rfl⟩
  unfold dsnDestination
  rw [archiveConfig_parses]
  rfl

/-- The offset is less than a day. -/
theorem archiveOffset_day (tz : String) : |archiveOffset tz| < 86400 := by
  unfold archiveOffset
  split <;> decide

end NightWatcher.Exporter
