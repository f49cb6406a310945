import NightWatcher.Lib.Transcript
import NightWatcher.Export.Delivery
import NightWatcher.Export.Incremental

/-!
# The ambient overlay of a webhook target

A push carries the co-located weather from the target's watermark on, up to its
own `now`. The watermark is a timestamp of the sensor, and observations are
stored when the provider delivers them: one that comes in while the watermark is
still at or before its timestamp is carried by a later push, and one that comes
in later is in no window any more.

`InTime` rules the second kind out; then every observation that a push has
passed was posted (`overlay_complete`). `late_observation_lost` is one that was
not.
-/

namespace NightWatcher.Exporter

open Throwing TimeUtil Database Transcript

/-! ## The machine -/

/-- What happens around a target and its co-located station. -/
inductive Occurrence where
  /-- a reading of the sensor is inserted -/
  | insert (o : Outside) (r : Reading) (tsUtc : String) (source : Source) (quality : Quality)
  /-- a weather reading is inserted -/
  | observe (o : Outside) (r : WeatherReadingRow)
  /-- the target is exported -/
  | run (o : Outside)

/-- The stored observations of a station. -/
def stationReadings (srv : Server) (db : Db) (stationId : String) : List WeatherReadingRow :=
  db.weatherReadings.filter fun r => srv.same r.stationId stationId

/-- Those of them in a window. -/
def observationsIn (srv : Server) (db : Db) (stationId lo hi : String) : List WeatherReadingRow :=
  (stationReadings srv db stationId).filter fun x => tsBetween srv lo hi x.tsUtc

def occur (d : Deps) (targetId sensorId : String) (w : World) : Occurrence → World
  | .insert o r tsUtc source quality =>
    endState (insertReading d.server sensorId r tsUtc source quality (w.facing o))
  | .observe o r => endState (insertWeatherReading d.server r (w.facing o))
  | .run o =>
    match targetRow d.server w.db targetId with
    | none => w
    | some t => endState (runExport d t (w.facing o))

/-- Readings come in with ever later timestamps, observations carry a temperature and no
timestamp of the future, and runs succeed and have no more observations in their window than a
query returns. -/
def Occurs (d : Deps) (targetId sensorId stationId : String) (w : World) : Occurrence → Prop
  | .insert o _ tsUtc _ _ => ∃ u, InYears u ∧
      timestampOrNow d.server o.now tsUtc = some (fmtSqlUtc u) ∧
      ∀ x ∈ storedReadings d.server w.db sensorId, x.tsUtc < fmtSqlUtc u
  | .observe o r => r.tempC.isSome ∧ ∃ u, u ≤ o.now ∧ InYears u ∧
      timestampOrNow d.server o.now r.tsUtc = some (fmtSqlUtc u)
  | .run o => InYears o.now ∧ ∀ t, targetRow d.server w.db targetId = some t →
      (observationsIn d.server w.db stationId t.lastExportTs (fmtSqlUtc o.now)).length ≤ kMaxRows ∧
      ∃ res w', runExport d t (w.facing o) = .ok res w'

/-- An exported reading is older than the timestamp. -/
def AfterFirst (w : World) (ts : String) : Prop := ∃ r, Acked w r ∧ r.tsUtc < ts

/-- An observation of the station that is going to be stored, and is newer than the first
exported reading, is not older than the watermark. -/
def InTime (d : Deps) (targetId stationId : String) (w : World) : Occurrence → Prop
  | .observe o r => ∀ ts, timestampOrNow d.server o.now r.tsUtc = some ts →
      d.server.same (d.server.ignoreText (.varchar 32) r.stationId) stationId = true →
      (∀ x ∈ stationReadings d.server w.db stationId, x.tsUtc ≠ ts) →
      AfterFirst w ts → watermark d.server w.db targetId ≤ ts
  | _ => True

/-- The observation was part of a body that was answered 2xx. -/
def Overlaid (w : World) (x : WeatherReadingRow) : Prop :=
  ∃ body arr j, Answered w body ∧ body.member? "weather" = some (.arr arr) ∧
    webhookWeather [x] = [j] ∧ j ∈ arr

/-- Every stored observation of the station that is older than the watermark and newer than
the first exported reading was posted. -/
def OverlayComplete (d : Deps) (targetId stationId : String) (w : World) : Prop :=
  ∀ x ∈ stationReadings d.server w.db stationId, x.tsUtc < watermark d.server w.db targetId →
    AfterFirst w x.tsUtc → Overlaid w x

/-- The station is co-located with the sensor. -/
def CoLocated (d : Deps) (sensorId stationId : String) (w : World) : Prop :=
  stationId ≠ "" ∧ ∃ sensor, w.db.sensors.find? (fun r => d.server.same r.id sensorId) = some sensor ∧
    ambientStation d.server w.db sensor = stationId

/-! ## What an occurrence preserves -/

structure Overlay (d : Deps) (targetId sensorId stationId : String) (w : World) : Prop where
  tracked : Tracked d "webhook" targetId sensorId w
  located : CoLocated d sensorId stationId w
  warm : ∀ x ∈ stationReadings d.server w.db stationId, x.tempC.isSome
  complete : OverlayComplete d targetId stationId w

variable {d : Deps} {targetId sensorId stationId : String} {w w' : World}

theorem Overlaid.mono {x : WeatherReadingRow} (h : Overlaid w x) (he : w.effects <+: w'.effects) :
    Overlaid w' x := by
  obtain ⟨body, arr, j, hbody, hrest⟩ := h
  exact ⟨body, arr, j, hbody.mono he, hrest⟩

theorem CoLocated.congr (h : CoLocated d sensorId stationId w) (hs : w'.db.sensors = w.db.sensors)
    (hw : w'.db.weatherStations = w.db.weatherStations) : CoLocated d sensorId stationId w' := by
  obtain ⟨hne, sensor, hfind, hstation⟩ := h
  refine ⟨hne, sensor, by rw [hs]; exact hfind, ?_⟩
  rw [← hstation]
  unfold ambientStation ambientStation.sole
  rw [hw]

theorem webhookBody_weather (siteId : String) (sensor : Json) {warr : List Json} (hne : warr ≠ [])
    (rs : List ReadingRow) :
    (webhookBody siteId sensor warr rs).member? "weather" = some (.arr warr) := by
  unfold webhookBody
  rw [Json.member?_ofMembers, if_neg hne]
  simp

theorem Acked.congr {r : ReadingRow} (h : Acked w' r) (he : w'.effects = w.effects) : Acked w r := by
  obtain ⟨body, ⟨url, status, hlo, hhi, hmem⟩, hcarries⟩ := h
  exact ⟨body, ⟨url, status, hlo, hhi, he ▸ hmem⟩, hcarries⟩

theorem AfterFirst.congr {ts : String} (h : AfterFirst w' ts) (he : w'.effects = w.effects) :
    AfterFirst w ts := by
  obtain ⟨r, hr, hlt⟩ := h
  exact ⟨r, hr.congr he, hlt⟩

/-- Nothing posted, the same watermark and the same observations. -/
theorem OverlayComplete.congr (h : OverlayComplete d targetId stationId w)
    (hx : w'.db.weatherReadings = w.db.weatherReadings)
    (ht : w'.db.exportTargets = w.db.exportTargets) (he : w'.effects = w.effects) :
    OverlayComplete d targetId stationId w' := by
  intro x hmem hlt hafter
  unfold stationReadings at hmem
  unfold watermark targetRow at hlt
  rw [hx] at hmem
  rw [ht] at hlt
  exact (h x hmem hlt (hafter.congr he)).mono (he ▸ List.prefix_refl _)

/-- An observation of the station in the window of a push is in what it collects. -/
theorem mem_ambientOf {sensor : SensorRow} {lo hi : String} {x : WeatherReadingRow}
    (hne : stationId ≠ "") (hstation : ambientStation d.server w.db sensor = stationId)
    (hfit : (observationsIn d.server w.db stationId lo hi).length ≤ kMaxRows)
    (hx : x ∈ stationReadings d.server w.db stationId)
    (hbetween : tsBetween d.server lo hi x.tsUtc = true) :
    x ∈ ambientOf d.server w.db sensor lo hi := by
  obtain ⟨hstored, hsame⟩ := List.mem_filter.mp hx
  have hsplit : (w.db.weatherReadings.filter fun r =>
      d.server.same r.stationId stationId && tsBetween d.server lo hi r.tsUtc)
      = observationsIn d.server w.db stationId lo hi := by
    unfold observationsIn stationReadings
    rw [List.filter_filter]
    exact List.filter_congr fun r _ => Bool.and_comm _ _
  have hlen : ((w.db.weatherReadings.filter fun r =>
      d.server.same r.stationId stationId && tsBetween d.server lo hi r.tsUtc).mergeSort
        (newerFirst WeatherReadingRow.tsUtc WeatherReadingRow.id)).length ≤ kMaxRows := by
    rw [List.length_mergeSort, hsplit]
    exact hfit
  unfold ambientOf windowWeather
  rw [hstation, if_neg hne, clampLimit_kMaxRows, List.take_of_length_le hlen, List.mem_mergeSort]
  exact List.mem_filter.mpr ⟨hstored, by rw [hsame, hbetween]; rfl⟩

theorem webhookWeather_mem {weather : List WeatherReadingRow} {x : WeatherReadingRow}
    (hx : x ∈ weather) (hwarm : x.tempC.isSome) :
    ∃ j, webhookWeather [x] = [j] ∧ j ∈ webhookWeather weather := by
  obtain ⟨q, hq⟩ := Option.isSome_iff_exists.mp hwarm
  refine ⟨_, by unfold webhookWeather; rw [List.filterMap_cons, hq]; rfl, ?_⟩
  exact List.mem_filterMap.mpr ⟨x, hx, by rw [hq]; rfl⟩

/-- What a run acknowledges was acknowledged before or is newer than its watermark. -/
theorem Ran.acked {t : ExportTargetRow} (hran : Ran d t w w') {r : ReadingRow} (hr : Acked w' r) :
    Acked w r ∨ ∃ r' ∈ freshOf d w.db w.now t, r'.tsUtc = r.tsUtc := by
  obtain ⟨sensor, siteId, n, posts, -, heffects, htook⟩ := hran.posts
  obtain ⟨body, ⟨url, status, hlo, hhi, hmem⟩, arr, harr, hjson⟩ := hr
  rw [heffects] at hmem
  rcases List.mem_append.mp hmem with hmem | hmem
  · exact Or.inl ⟨body, ⟨url, status, hlo, hhi, hmem⟩, arr, harr, hjson⟩
  · have hread : readingJson r ∈ Effect.readings (.post url body (some status)) := by
      show readingJson r ∈ readingsIn body
      unfold readingsIn
      rw [harr]
      exact hjson
    obtain ⟨r', hr', hsame⟩ := mem_readings_posts htook hmem hread
    exact Or.inr ⟨r', List.mem_reverse.mp hr', readingJson_tsUtc hsame⟩

/-- A run that pushed something posted the weather of its window. -/
theorem Ran.overlaid {t : ExportTargetRow} (hran : Ran d t w w') (hsensor : t.sensorId = sensorId)
    (hlocated : CoLocated d sensorId stationId w) (hne : freshOf d w.db w.now t ≠ [])
    (hfit : (observationsIn d.server w.db stationId t.lastExportTs (fmtSqlUtc w.now)).length
      ≤ kMaxRows)
    {x : WeatherReadingRow} (hx : x ∈ stationReadings d.server w.db stationId) (hwarm : x.tempC.isSome)
    (hbetween : tsBetween d.server t.lastExportTs (fmtSqlUtc w.now) x.tsUtc = true) :
    Overlaid w' x := by
  obtain ⟨sensor, siteId, n, posts, hfind, heffects, htook⟩ := hran.posts
  obtain ⟨hstation, sensor', hfind', hambient⟩ := hlocated
  rw [hsensor] at hfind
  obtain rfl : sensor = sensor' := Option.some.inj (hfind.symm.trans hfind')
  obtain ⟨j, hj, hmem⟩ := webhookWeather_mem (mem_ambientOf hstation hambient hfit hx hbetween) hwarm
  -- there is a first slice
  obtain ⟨a, as, has⟩ := List.exists_cons_of_ne_nil (List.reverse_ne_nil_iff.mpr hne)
  rw [has, slices, List.map_cons] at htook
  cases htook with
  | @cons _ e _ rest htook hrest =>
    have hpost : e ∈ w'.effects := by
      rw [heffects]
      exact List.mem_append_right _ List.mem_cons_self
    obtain ⟨url, status, hlo, hhi, rfl⟩ := htook.post
    exact ⟨_, _, j, ⟨url, status, hlo, hhi, hpost⟩,
      webhookBody_weather _ _ (List.ne_nil_of_mem hmem) _, hj, hmem⟩

/-- A run that pushed something passes no observation without posting it. -/
theorem Overlay.ran (h : Overlay d targetId sensorId stationId w) {t : ExportTargetRow}
    (hrow : targetRow d.server w.db targetId = some t) (hnow : InYears w.now)
    (hfit : (observationsIn d.server w.db stationId t.lastExportTs (fmtSqlUtc w.now)).length
      ≤ kMaxRows)
    (hne : freshOf d w.db w.now t ≠ []) (hran : Ran d t w w') :
    Overlay d targetId sensorId stationId w' := by
  obtain ⟨t', hrow', -, hsensor⟩ := h.tracked.target
  obtain rfl : t = t' := Option.some.inj (hrow.symm.trans hrow')
  have hwm : watermark d.server w.db targetId = t.lastExportTs := by
    rw [watermark, hrow]
    rfl
  have hstamp := h.tracked.watermark_stamp
  rw [hwm] at hstamp
  have hfresh := h.tracked.freshOf_visible hsensor hstamp hnow
  -- the new watermark is the newest of the readings that were visible
  obtain ⟨⟨top, htop, hnewest⟩, hlt, -⟩ :=
    newest_visible h.tracked.ordered h.tracked.stamped hfresh hne
  obtain ⟨htopStored, htopNow⟩ := List.mem_filter.mp htop
  obtain ⟨log, next, hdb⟩ := hran.db
  have hreadings : w'.db.readings = w.db.readings := by rw [hdb]
  obtain ⟨htracked, hmark⟩ := h.tracked.mark hrow ⟨top, htopStored, hnewest⟩ hreadings (by rw [hdb])
  refine ⟨htracked, h.located.congr (by rw [hdb]) (by rw [hdb]), ?_, fun x hx hbelow hafter => ?_⟩
  · rw [hdb]
    exact h.warm
  · have hx : x ∈ stationReadings d.server w.db stationId := by
      rw [hdb] at hx
      exact hx
    rw [hmark, hnewest] at hbelow
    by_cases hold : t.lastExportTs ≤ x.tsUtc
    · -- in the window of this run
      refine hran.overlaid hsensor h.located hne hfit hx (h.warm x hx) ?_
      have hnowStamp : IsStamp (fmtSqlUtc w.now) := ⟨w.now, hnow, rfl⟩
      have hbefore : x.tsUtc ≤ fmtSqlUtc w.now :=
        le_trans (le_of_lt hbelow) (of_decide_eq_true htopNow)
      unfold tsBetween
      rw [hnowStamp.datetime d.server]
      rcases hstamp with hempty | hstamp
      · rw [hempty]
        simp [hbefore]
      · rw [hstamp.datetime d.server]
        simp [hold, hbefore]
    · -- passed by an earlier run, if something was exported before it
      have hbelow : x.tsUtc < watermark d.server w.db targetId := by
        rw [hwm]
        exact not_le.mp hold
      obtain ⟨r, hr, hrx⟩ := hafter
      rcases hran.acked hr with hr | ⟨r', hr', hts⟩
      · refine (h.complete x hx hbelow ⟨r, hr, hrx⟩).mono ?_
        obtain ⟨_, _, _, posts, -, heffects, -⟩ := hran.posts
        exact heffects ▸ List.prefix_append _ _
      · -- what this run exported is newer than its watermark
        have habove : t.lastExportTs < r'.tsUtc := by
          rw [hfresh] at hr'
          exact of_decide_eq_true
            (List.mem_filter.mp (List.mem_reverse.mp (List.mem_of_mem_take hr'))).2
        rw [hts] at habove
        exact absurd (habove.trans hrx) (lt_asymm (not_le.mp hold))

/-- What an insertion of a weather reading leaves behind. -/
theorem meets_insertWeatherReading {r : WeatherReadingRow} {ts : String} {w : World}
    {Q : World → Prop} (hts : timestampOrNow d.server w.now r.tsUtc = some ts)
    (hkept : ∀ row : WeatherReadingRow, row.tsUtc = ts →
      row.stationId = d.server.ignoreText (.varchar 32) r.stationId →
      row.tempC.isSome = r.tempC.isSome →
      (∀ x ∈ w.db.weatherReadings, d.server.same x.stationId row.stationId = true → x.tsUtc ≠ ts) →
      ∀ next fs, Q { w with
        db := { w.db with weatherReadings := w.db.weatherReadings ++ [row], next := next }
        dbFaults := fs })
    (hdropped : ∀ next fs, Q { w with db := { w.db with next := next }, dbFaults := fs }) :
    Meets (insertWeatherReading d.server r) w (fun _ => Q) fun _ => Q := by
  refine meets_statement (fun a db' fs h => ?_) fun _ fs => hdropped w.db.next fs
  rw [hts] at h
  simp only [Option.getD_some] at h
  split at h
  next =>
    cases h
    exact hdropped _ fs
  next hnew =>
    cases h
    refine hkept _ rfl rfl (by simp) (fun x hx hsame hdup => hnew ?_) _ fs
    refine Bool.or_eq_true_iff.mpr (Or.inl (List.any_eq_true.mpr ⟨x, hx, ?_⟩))
    exact Bool.and_eq_true_iff.mpr ⟨hsame, decide_eq_true hdup⟩

/-- Every occurrence keeps the overlay complete, if observations come in in time. -/
theorem Overlay.occur (h : Overlay d targetId sensorId stationId w) {m : Occurrence}
    (hoccurs : Occurs d targetId sensorId stationId w m) (hintime : InTime d targetId stationId w m) :
    Overlay d targetId sensorId stationId (occur d targetId sensorId w m) := by
  -- on what happens: only an observation can break the overlay, and it comes in time
  cases m with
  | insert o r tsUtc source quality =>
    obtain ⟨u, hu, hts, hnew⟩ := hoccurs
    refine Meets.endState (P := Overlay d targetId sensorId stationId)
      (meets_insertReading hts (fun row hrow next fs => ?_) fun next fs => ?_)
    · rw [← hrow] at hnew
      refine ⟨?_, h.located.congr rfl rfl, h.warm, h.complete.congr rfl rfl rfl⟩
      rcases storedReadings_append d.server w.db sensorId row next with hother | happ
      · -- the row belongs to another sensor
        exact ⟨h.tracked.target, hother.symm ▸ h.tracked.ordered, hother.symm ▸ h.tracked.stamped,
          hother.symm ▸ h.tracked.marked⟩
      · exact h.tracked.append rfl ⟨u, hu, hrow⟩ hnew happ
    · exact ⟨h.tracked.congr rfl rfl, h.located.congr rfl rfl, h.warm, h.complete.congr rfl rfl rfl⟩
  | observe o r =>
    obtain ⟨hwarm, u, -, hu, hts⟩ := hoccurs
    refine Meets.endState (P := Overlay d targetId sensorId stationId)
      (meets_insertWeatherReading hts (fun row hrow hstation htemp hnew next fs => ?_)
          fun next fs => ?_)
    · have hsplit : ∀ x ∈ stationReadings d.server { w.db with
          weatherReadings := w.db.weatherReadings ++ [row], next := next } stationId,
          x ∈ stationReadings d.server w.db stationId ∨
            x = row ∧ d.server.same row.stationId stationId = true := by
        intro x hx
        obtain ⟨hmem, hsame⟩ := List.mem_filter.mp hx
        rcases List.mem_append.mp hmem with hmem | hmem
        · exact Or.inl (List.mem_filter.mpr ⟨hmem, hsame⟩)
        · obtain rfl := List.mem_singleton.mp hmem
          exact Or.inr ⟨rfl, hsame⟩
      refine ⟨h.tracked.congr rfl rfl, h.located.congr rfl rfl, fun x hx => ?_,
        fun x hx hbelow hafter => ?_⟩
      · rcases hsplit x hx with hx | ⟨rfl, -⟩
        · exact h.warm x hx
        · rw [htemp]
          exact hwarm
      · rcases hsplit x hx with hx | ⟨rfl, hsame⟩
        · exact h.complete x hx hbelow hafter
        · -- the new observation is not below the watermark
          rw [hrow] at hbelow hafter
          refine absurd hbelow (not_lt.mpr (hintime _ hts (hstation ▸ hsame) (fun y hy => ?_) hafter))
          obtain ⟨hmem, hsame'⟩ := List.mem_filter.mp hy
          refine hnew y hmem ?_
          unfold Server.same at hsame hsame' ⊢
          rw [decide_eq_true_eq] at hsame hsame' ⊢
          exact hsame'.trans hsame.symm
    · exact ⟨h.tracked.congr rfl rfl, h.located.congr rfl rfl, h.warm, h.complete.congr rfl rfl rfl⟩
  | run o =>
    obtain ⟨hnow, hruns⟩ := hoccurs
    unfold Exporter.occur
    dsimp only
    cases hrow : targetRow d.server w.db targetId with
    | none => exact h
    | some t =>
      obtain ⟨hfit, res, w', hok⟩ := hruns t hrow
      dsimp only
      rw [hok, endState_ok]
      have hfacing : Overlay d targetId sensorId stationId (w.facing o) :=
        ⟨h.tracked.congr rfl rfl, h.located.congr rfl rfl, h.warm, h.complete.congr rfl rfl rfl⟩
      obtain ⟨t', hrow', hkind, hsensor⟩ := h.tracked.target
      obtain rfl : t = t' := Option.some.inj (hrow.symm.trans hrow')
      have hwm : watermark d.server w.db targetId = t.lastExportTs := by
        rw [watermark, hrow]
        rfl
      have hspec := meets_runExport_posts hkind
        (hfacing.tracked.newest_stamp hsensor (hwm ▸ h.tracked.watermark_stamp) hnow)
      rcases hspec.of_ok hok with ⟨-, hdb, heffects⟩ | ⟨hne, hran⟩
      · refine ⟨hfacing.tracked.congr (by rw [hdb]) (by rw [hdb]),
          hfacing.located.congr (by rw [hdb]) (by rw [hdb]), ?_,
          hfacing.complete.congr (by rw [hdb]) (by rw [hdb]) heffects⟩
        rw [hdb]
        exact hfacing.warm
      · exact hfacing.ran hrow hnow hfit hne hran

/-- No observation is skipped in a history in which those that are newer than the first
exported reading come in before the watermark has passed them. -/
theorem overlay_complete (hnever : NeverExported d "webhook" targetId sensorId w)
    (hlocated : CoLocated d sensorId stationId w)
    (hwarm : ∀ x ∈ stationReadings d.server w.db stationId, x.tempC.isSome) {ms : List Occurrence}
    (hoccurs : Throughout (occur d targetId sensorId) (Occurs d targetId sensorId stationId) w ms)
    (hintime : Throughout (occur d targetId sensorId) (InTime d targetId stationId) w ms) :
    OverlayComplete d targetId stationId (run (occur d targetId sensorId) w ms) := by
  have h0 : Overlay d targetId sensorId stationId w := by
    refine ⟨hnever.1, hlocated, hwarm, fun x _ hbelow _ => ?_⟩
    -- without a watermark nothing is older
    rw [hnever.2] at hbelow
    exact absurd hbelow (not_lt_empty _)
  have h : Overlay d targetId sensorId stationId (run (occur d targetId sensorId) w ms) :=
    run_preserves (fun w m h hI => hI.occur h.1 h.2) (throughout_and.mpr ⟨hoccurs, hintime⟩) h0
  exact h.complete

/-! ### An observation that comes in late -/

/-- On a database that answers, a new observation of a known station is stored. -/
theorem meets_insertWeatherReading_calm {r : WeatherReadingRow} {ts : String} {w : World}
    {Q : World → Prop} {E : String → World → Prop} (hw : w.dbFaults = [])
    (hts : timestampOrNow d.server w.now r.tsUtc = some ts)
    (hnew : w.db.weatherReadings = [])
    (hstation : (w.db.weatherStations.any fun x =>
      d.server.same x.id (d.server.ignoreText (.varchar 32) r.stationId)) = true)
    (hkept : ∀ row : WeatherReadingRow, row.tsUtc = ts →
      row.stationId = d.server.ignoreText (.varchar 32) r.stationId → ∀ next,
      Q { w with db := { w.db with weatherReadings := [row], next := next } }) :
    Meets (insertWeatherReading d.server r) w (fun _ => Q) E := by
  obtain ⟨db, now, faults⟩ := w
  cases hw
  dsimp only at hts hnew hstation
  unfold Meets insertWeatherReading statement
  simp only [roundTrip, hts, hnew, hstation, Option.getD_some, List.any_nil, Bool.not_true,
    Bool.or_false, Bool.false_eq_true, if_false, List.nil_append]
  exact hkept _ rfl rfl _

def siteSensor : SensorRow := { hookSensor with site := "A" }

def siteStation : WeatherStationRow := { id := "W", site := "A" }

/-- Two readings, one minute apart, and a station on the sensor's site. -/
def sited : World :=
  { (stocked 2) with
    db := { (stocked 2).db with sensors := [siteSensor], weatherStations := [siteStation] } }

def halfMinute : WeatherReadingRow :=
  { stationId := "W", tsUtc := "1970-01-01 00:00:30", tempC := some 10 }

theorem ambient_sited {w : World} (hfaults : w.dbFaults = [])
    (hstations : w.db.weatherStations = [siteStation]) (lo hi : String) :
    ask (collectAmbient hookDeps siteSensor lo hi) w =
      .ok (windowWeather hookDeps.server w.db "W" lo hi kMaxRows) w := by
  suffices h : Meets (ask (collectAmbient hookDeps siteSensor lo hi)) w
      (fun r w' => r = windowWeather hookDeps.server w.db "W" lo hi kMaxRows ∧ w' = w)
      fun _ _ => False by
    obtain ⟨r, w', hrun, rfl, rfl⟩ := h.returns
    exact hrun
  have hsite : ¬siteSensor.site = "" := by decide
  unfold collectAmbient
  rw [if_neg hsite]
  show Meets (ask (weatherStations hookDeps.server >>= fun stations => _)) w _ _
  rw [ask_bind, meets_bind]
  refine (meets_select_calm hfaults).mpr ?_
  dsimp only
  have hfound : ((hookDeps.server.orderBy WeatherStationRow.id w.db.weatherStations).find?
      fun x => x.site = siteSensor.site) = some siteStation := by
    rw [hstations]
    decide +kernel
  rw [hfound]
  exact (meets_select_calm hfaults).mpr ⟨rfl, rfl⟩

/-- The body of the first run. -/
def sitedBody (w : World) : Json :=
  hookBody siteSensor (windowWeather hookDeps.server w.db "W" "" (fmtSqlUtc oneAnswer.now) kMaxRows)
    [minuteReading 0, minuteReading 1]

theorem sitedBody_bare : (sitedBody sited).member? "weather" = none := by
  have hnone : windowWeather hookDeps.server sited.db "W" "" (fmtSqlUtc oneAnswer.now) kMaxRows =
      [] := by
    decide +kernel
  unfold sitedBody hookBody webhookBody
  rw [hnone, Json.member?_ofMembers]
  simp [webhookWeather]

theorem run_sited {w : World} (hreadings : w.db.readings = (stocked 2).db.readings)
    (htargets : w.db.exportTargets = [hookTarget]) (hsensors : w.db.sensors = [siteSensor])
    (hstations : w.db.weatherStations = [siteStation]) :
    ∃ res w', runExport hookDeps hookTarget (w.facing oneAnswer) = .ok res w' ∧
      w'.db.weatherReadings = w.db.weatherReadings ∧ w'.db.weatherStations = [siteStation] ∧
      watermark hookDeps.server w'.db "T" = "1970-01-01 00:01:00" ∧
      w'.effects = w.effects ++ [.post "http://h/" (sitedBody w) (some 200)] := by
  have hfresh : freshOf hookDeps (w.facing oneAnswer).db (w.facing oneAnswer).now hookTarget
      = [minuteReading 1, minuteReading 0] :=
    (freshOf_congr hreadings _ _).trans ((stocked_fresh (by decide)).trans rfl)
  have hfind : (w.facing oneAnswer).db.sensors.find?
      (fun r => hookDeps.server.same r.id hookTarget.sensorId) = some siteSensor := by
    show w.db.sensors.find? _ = _
    rw [hsensors]
    rfl
  have hrun := meets_runExport_hook (t := hookTarget) rfl rfl hfind
    (by rw [hfresh]; exact List.cons_ne_nil _ _) rfl rfl
    (ambient_sited (w := w.facing oneAnswer) rfl hstations _ _)
  rw [hfresh] at hrun
  obtain ⟨res, w', hok, log, next, rfl⟩ := hrun.returns
  refine ⟨res, _, hok, rfl, hstations, ?_, rfl⟩
  show ((List.find? _ (markTarget _ _ _ w.db.exportTargets)).map _).getD "" = _
  rw [htargets]
  decide +kernel

theorem sited_neverExported : NeverExported hookDeps "webhook" "T" "S" sited :=
  ⟨(stocked_neverExported (n := 2) (by decide)).1.congr rfl rfl, rfl⟩

theorem sited_coLocated : CoLocated hookDeps "S" "W" sited :=
  ⟨by decide, siteSensor, rfl, by decide +kernel⟩

/-- The target is exported, and then an observation from between the readings comes in. -/
def lateObservation : List Occurrence := [.run oneAnswer, .observe oneAnswer halfMinute]

theorem late_observation_lost :
    NeverExported hookDeps "webhook" "T" "S" sited ∧ CoLocated hookDeps "S" "W" sited ∧
      (∀ x ∈ stationReadings hookDeps.server sited.db "W", x.tempC.isSome) ∧
      Throughout (occur hookDeps "T" "S") (Occurs hookDeps "T" "S" "W") sited lateObservation ∧
      ¬OverlayComplete hookDeps "T" "W" (run (occur hookDeps "T" "S") sited lateObservation) := by
  obtain ⟨res, w, hok, hweather, hstations, hmark, heffects⟩ := run_sited (w := sited) rfl rfl rfl rfl
  have hexported : occur hookDeps "T" "S" sited (.run oneAnswer) = w := by
    show endState (runExport hookDeps hookTarget (sited.facing oneAnswer)) = w
    rw [hok]
    rfl
  -- the observation comes in with a time that the run has passed already
  have hobserved : Meets (insertWeatherReading hookDeps.server halfMinute) (w.facing oneAnswer)
      (fun _ w' => ¬OverlayComplete hookDeps "T" "W" w')
      fun _ w' => ¬OverlayComplete hookDeps "T" "W" w' := by
    refine meets_insertWeatherReading_calm rfl rfl hweather ?_ fun row hts hstation next hall => ?_
    · show w.db.weatherStations.any _ = true
      rw [hstations]
      rfl
    · have hx : row ∈ stationReadings hookDeps.server
          { w.db with weatherReadings := [row], next := next } "W" := by
        refine List.mem_filter.mpr ⟨List.mem_singleton_self _, ?_⟩
        rw [hstation]
        rfl
      have hbelow : row.tsUtc <
          watermark hookDeps.server { w.db with weatherReadings := [row], next := next } "T" := by
        show row.tsUtc < watermark hookDeps.server w.db "T"
        rw [hts, hmark]
        decide
      have hpost : ∀ e, e ∈ w.effects ↔ e = .post "http://h/" (sitedBody sited) (some 200) := by
        intro e
        rw [heffects]
        exact List.mem_singleton
      have hacked : Acked w (minuteReading 0) :=
        ⟨sitedBody sited, ⟨"http://h/", 200, by decide, by decide, (hpost _).mpr rfl⟩, _,
          webhookBody_readings _ _ _ _, List.mem_cons_self⟩
      have hafter : AfterFirst w row.tsUtc := by
        refine ⟨minuteReading 0, hacked, ?_⟩
        rw [hts]
        decide +kernel
      -- the one POST was sent without an overlay
      obtain ⟨body, arr, j, ⟨url, status, -, -, hmem⟩, harr, -⟩ := hall row hx hbelow hafter
      obtain ⟨-, rfl, -⟩ := Effect.post.inj ((hpost _).mp hmem)
      rw [sitedBody_bare] at harr
      cases harr
  refine ⟨sited_neverExported, sited_coLocated, fun x hx => (nomatch hx), ⟨?_, ?_, trivial⟩, ?_⟩
  · refine ⟨by decide, fun t ht => ?_⟩
    obtain rfl : hookTarget = t := Option.some.inj ht
    exact ⟨Nat.zero_le _, res, w, hok⟩
  · exact ⟨rfl, 30, by decide, by decide, rfl⟩
  · show ¬OverlayComplete hookDeps "T" "W"
      (occur hookDeps "T" "S" (occur hookDeps "T" "S" sited (.run oneAnswer))
          (.observe oneAnswer halfMinute))
    rw [hexported]
    exact Meets.endState hobserved

/-- An observation that came in before the first export is in its body. -/
theorem overlay_complete_early :
    OverlayComplete hookDeps "T" "W" (run (occur hookDeps "T" "S") sited
      [.observe oneAnswer halfMinute, .run oneAnswer]) := by
  have hobserved : Meets (insertWeatherReading hookDeps.server halfMinute) (sited.facing oneAnswer)
      (fun _ w => Occurs hookDeps "T" "S" "W" w (.run oneAnswer))
      fun _ w => Occurs hookDeps "T" "S" "W" w (.run oneAnswer) := by
    refine meets_insertWeatherReading_calm rfl rfl rfl rfl fun row hts hstation next => ?_
    refine ⟨by decide, fun t ht => ?_⟩
    obtain rfl : hookTarget = t := Option.some.inj ht
    obtain ⟨res, w, hok, -⟩ := run_sited (w := { sited.facing oneAnswer with
      db := { sited.db with weatherReadings := [row], next := next } }) rfl rfl rfl rfl
    refine ⟨?_, res, w, hok⟩
    have hone : 1 ≤ kMaxRows := by decide
    exact le_trans (List.length_filter_le _ _) (le_trans (List.length_filter_le _ _) hone)
  refine overlay_complete sited_neverExported sited_coLocated (fun x hx => nomatch hx)
    ⟨⟨rfl, 30, by decide, by decide, rfl⟩, Meets.endState hobserved, trivial⟩
    ⟨fun ts _ _ _ _ => ?_, trivial, trivial⟩
  -- nothing is exported yet
  show watermark hookDeps.server sited.db "T" ≤ ts
  rw [sited_neverExported.2]
  exact not_lt.mp (not_lt_empty ts)

end NightWatcher.Exporter
