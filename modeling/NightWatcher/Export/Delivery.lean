import NightWatcher.Export.Steps

/-!
# What a push of a webhook target posts

A run that returns has posted one body for each slice of the fresh readings,
oldest first; every body carries the whole weather of the push window, and every
one was answered 2xx (`Delivered`, `meets_runExport_posts`).

The weather is what `collect_ambient` finds: the readings of one station, chosen
by the sensor's site or for want of another (`ambientStation`), in a window
(`windowWeather`).
-/

namespace NightWatcher.Exporter

open Throwing TimeUtil Database

variable {d : Deps}

/-! ## The co-located weather -/

/-- The station `collect_ambient` picks, empty if there is none. -/
def ambientStation (srv : Server) (db : Db) (sensor : SensorRow) : String :=
  let bySite :=
    if sensor.site = "" then none
    else (srv.orderBy WeatherStationRow.id db.weatherStations).find? fun w => w.site = sensor.site
  match bySite.map WeatherStationRow.id with
  | some id => if id ≠ "" then id else sole
  | none => sole
where
  sole : String :=
    match srv.orderBy WeatherStationRow.id (db.weatherStations.filter fun r => r.status = .active) with
    | [w] => w.id
    | _ => ""

/-- The rows `weatherReadingsBetween` reads. -/
def windowWeather (srv : Server) (db : Db) (stationId lo hi : String) (limit : Int) :
    List WeatherReadingRow :=
  ((db.weatherReadings.filter fun r => srv.same r.stationId stationId && tsBetween srv lo hi r.tsUtc)
    |>.mergeSort (newerFirst WeatherReadingRow.tsUtc WeatherReadingRow.id)).take (clampLimit limit)

/-- What `collect_ambient` returns. -/
def ambientOf (srv : Server) (db : Db) (sensor : SensorRow) (lo hi : String) :
    List WeatherReadingRow :=
  if ambientStation srv db sensor = "" then []
  else windowWeather srv db (ambientStation srv db sensor) lo hi kMaxRows

/-- The station of the sensor's site, empty if there is none. -/
def stationAtSite (srv : Server) (db : Db) (sensor : SensorRow) : String :=
  if sensor.site = "" then ""
  else
    (((srv.orderBy WeatherStationRow.id db.weatherStations).find? fun w => w.site = sensor.site).map
      WeatherStationRow.id).getD ""

/-- How many queries `collect_ambient` makes: the stations, if the sensor has a site; the active
ones, if no station has it; and the readings of the station it settles on. -/
def ambientCalls (srv : Server) (db : Db) (sensor : SensorRow) : Nat :=
  (if sensor.site = "" then 0 else 1) + (if stationAtSite srv db sensor = "" then 1 else 0) +
    if ambientStation srv db sensor = "" then 0 else 1

theorem meets_soleActive_at {faults : List Bool} {k : Nat} {w : World} {Q : String → World → Prop}
    {E : String → World → Prop} (hw : w.dbFaults = faults.drop k) (hclean : Clean k faults)
    (hok : Clean (k + 1) faults →
      Q (ambientStation.sole d.server w.db) (w.withFaults (faults.drop (k + 1))))
    (herr : ∀ e fs, E e (w.withFaults fs)) : Meets (ask (collectAmbient.soleActive d)) w Q E := by
  unfold collectAmbient.soleActive activeWeatherStations
  rw [ask_bind, meets_bind]
  refine meets_select_at hw hclean (fun hclean' => ?_) fun _ e fs => herr e fs
  have hok := hok hclean'
  unfold ambientStation.sole at hok
  dsimp only
  split
  next w' h =>
    rw [h] at hok
    exact hok
  next h =>
    split at hok
    next w' h' => exact absurd h' (h w')
    next => exact hok

/-- `collect_ambient` after `k` other calls. -/
theorem meets_collectAmbient_at {faults : List Bool} {k : Nat} {sensor : SensorRow}
    {lo hi : String} {w : World} {Q : List WeatherReadingRow → World → Prop}
    {E : String → World → Prop} (hw : w.dbFaults = faults.drop k) (hclean : Clean k faults)
    (hok : Clean (k + ambientCalls d.server w.db sensor) faults →
      Q (ambientOf d.server w.db sensor lo hi)
        (w.withFaults (faults.drop (k + ambientCalls d.server w.db sensor))))
    (herr : ∀ e fs, E e (w.withFaults fs)) :
    Meets (ask (collectAmbient d sensor lo hi)) w Q E := by
  generalize htotal : k + ambientCalls d.server w.db sensor = total at hok
  unfold ambientCalls at htotal
  -- with the station at hand, one more query
  have hread : ∀ id, id = ambientStation d.server w.db sensor → ∀ j, Clean j faults →
      j + (if ambientStation d.server w.db sensor = "" then 0 else 1) = total → Meets (ask (
        if id = "" then pure [] else weatherReadingsBetween d.server id lo hi kMaxRows))
        (w.withFaults (faults.drop j)) Q E := by
    rintro _ rfl j hj hlast
    unfold ambientOf at hok
    split
    next h =>
      rw [if_pos h] at hok hlast
      subst hlast
      exact hok hj
    next h =>
      rw [if_neg h] at hok hlast
      subst hlast
      exact meets_select_at rfl hj hok fun _ e fs => herr e fs
  have hrest : ∀ bySite : Option WeatherStationRow,
      (match bySite.map WeatherStationRow.id with
        | some id => if id ≠ "" then id else ambientStation.sole d.server w.db
        | none => ambientStation.sole d.server w.db) = ambientStation d.server w.db sensor →
      (bySite.map WeatherStationRow.id).getD "" = stationAtSite d.server w.db sensor →
      ∀ j, Clean j faults →
      j + (if stationAtSite d.server w.db sensor = "" then 1 else 0) +
        (if ambientStation d.server w.db sensor = "" then 0 else 1) = total →
      Meets (ask (do
        let stationId ←
          match bySite.map WeatherStationRow.id with
          | some id => if id ≠ "" then pure id else collectAmbient.soleActive d
          | none => collectAmbient.soleActive d
        if stationId = "" then pure [] else weatherReadingsBetween d.server stationId lo hi kMaxRows))
        (w.withFaults (faults.drop j)) Q E := by
    intro bySite hstation hsite j hj hlast
    have hsole : ambientStation.sole d.server w.db = ambientStation d.server w.db sensor →
        stationAtSite d.server w.db sensor = "" →
        Meets (ask (collectAmbient.soleActive d >>= fun id =>
          if id = "" then pure [] else weatherReadingsBetween d.server id lo hi kMaxRows))
          (w.withFaults (faults.drop j)) Q E := by
      intro h hnone
      rw [if_pos hnone] at hlast
      rw [ask_bind, meets_bind]
      refine meets_soleActive_at rfl hj (fun hj' => ?_) fun e fs => herr e fs
      exact hread _ h (j + 1) hj' hlast
    dsimp only
    cases hid : bySite.map WeatherStationRow.id with
    | none =>
      rw [hid] at hstation hsite
      exact hsole hstation hsite.symm
    | some id =>
      rw [hid] at hstation hsite
      dsimp only at hstation hsite ⊢
      by_cases hempty : id = ""
      · rw [if_neg (not_not.mpr hempty)] at hstation ⊢
        exact hsole hstation (hsite.symm.trans hempty)
      · rw [if_pos hempty] at hstation ⊢
        rw [if_neg fun hnone => hempty (hsite.trans hnone)] at hlast
        exact hread id hstation j hj hlast
  unfold collectAmbient
  dsimp only
  by_cases hsite : sensor.site = ""
  · rw [if_pos hsite] at htotal ⊢
    have hrun := hrest none (by unfold ambientStation; rw [if_pos hsite])
      (by unfold stationAtSite; rw [if_pos hsite]; rfl) k hclean (by omega)
    rwa [← hw] at hrun
  · rw [if_neg hsite] at htotal ⊢
    show Meets (ask (weatherStations d.server >>= fun stations => _)) w Q E
    rw [ask_bind, meets_bind]
    refine meets_select_at hw hclean (fun hclean' => ?_) fun _ e fs => herr e fs
    refine hrest _ ?_ ?_ (k + 1) hclean' (by omega)
    · unfold ambientStation
      rw [if_neg hsite]
    · unfold stationAtSite
      rw [if_neg hsite]

theorem meets_collectAmbient {sensor : SensorRow} {lo hi : String} {w : World}
    {Q : List WeatherReadingRow → World → Prop} {E : String → World → Prop}
    (hok : ∀ fs, Q (ambientOf d.server w.db sensor lo hi) (w.withFaults fs))
    (herr : ∀ e fs, E e (w.withFaults fs)) :
    Meets (ask (collectAmbient d sensor lo hi)) w Q E :=
  meets_collectAmbient_at (List.drop_zero (l := w.dbFaults)).symm (clean_zero _) (fun _ => hok _) herr

/-! ## The bodies -/

/-- A body was posted, and answered 2xx. -/
def Effect.Took (body : Json) : Effect → Prop
  | .post _ body' (some status) => body' = body ∧ 200 ≤ status ∧ status < 300
  | _ => False

theorem Effect.Took.post {body : Json} {e : Effect} (h : Effect.Took body e) :
    ∃ url status, 200 ≤ status ∧ status < 300 ∧ e = .post url body (some status) := by
  unfold Effect.Took at h
  split at h
  next url body' status =>
    obtain ⟨rfl, hlo, hhi⟩ := h
    exact ⟨url, status, hlo, hhi, rfl⟩
  next => exact h.elim

/-- One body after the other was posted and answered 2xx, and nothing else changed that
a later step looks at. -/
structure Delivered (bodies : List Json) (w w' : World) : Prop where
  db : w'.db = w.db
  faults : w'.dbFaults = w.dbFaults
  posts : ∃ posts, w'.effects = w.effects ++ posts ∧ List.Forall₂ Effect.Took bodies posts

theorem meets_postSlice_took (url : String) (body : Json) (w : World) :
    Meets (postSlice url body) w (fun _ w' => Delivered [body] w w') fun _ _ => True := by
  unfold postSlice
  simp only [meets_bind, meets_tryCatch, meets_throw, meets_pure, meets_ite]
  have hpost : Meets (postJson url body) w (fun res w' => w'.db = w.db ∧ w'.dbFaults = w.dbFaults ∧
      w'.effects = w.effects ++ [.post url body (some res.1)]) fun _ _ => True := by
    unfold Meets postJson
    cases w.answers with
    | nil => trivial
    | cons answer rest =>
      cases answer with
      | error e => trivial
      | ok reply => exact ⟨rfl, rfl, rfl⟩
  refine hpost.mono (fun res w' h => ⟨fun _ => trivial, fun hok => ?_⟩) fun _ _ _ => trivial
  simp only [Bool.or_eq_true, decide_eq_true_eq, not_or, not_lt, not_le] at hok
  obtain ⟨hdb, hfaults, heffects⟩ := h
  exact ⟨hdb, hfaults, _, heffects, .cons ⟨rfl, hok⟩ .nil⟩

def readingsIn (body : Json) : List Json :=
  match body.member? "readings" with
  | some (.arr arr) => arr
  | _ => []

/-- The readings a POST carries. -/
def Effect.readings : Effect → List Json
  | .post _ body _ => readingsIn body
  | _ => []

theorem readings_took {siteId : String} {sensor : Json} {warr : List Json} {rs : List ReadingRow}
    {e : Effect} (h : Effect.Took (webhookBody siteId sensor warr rs) e) :
    Effect.readings e = rs.map readingJson := by
  obtain ⟨url, status, -, -, rfl⟩ := h.post
  show readingsIn (webhookBody siteId sensor warr rs) = _
  unfold readingsIn
  rw [webhookBody_readings]

/-- The POSTs carry what the slices hold. -/
theorem readings_posts {siteId : String} {sensor : Json} {warr : List Json}
    {rss : List (List ReadingRow)} {posts : List Effect}
    (h : List.Forall₂ Effect.Took (rss.map (webhookBody siteId sensor warr)) posts) :
    posts.map Effect.readings = rss.map (List.map readingJson) := by
  induction rss generalizing posts with
  | nil =>
    cases h
    rfl
  | cons rs rss ih =>
    cases h with
    | cons htook hrest => rw [List.map_cons, List.map_cons, readings_took htook, ih hrest]

/-- What a POST carries are readings the run was handed. -/
theorem mem_readings_posts {siteId : String} {sensor : Json} {warr : List Json} {n : Nat}
    {rows : List ReadingRow} {posts : List Effect}
    (h : List.Forall₂ Effect.Took ((slices n rows).map (webhookBody siteId sensor warr)) posts)
    {e : Effect} (he : e ∈ posts) {j : Json} (hj : j ∈ Effect.readings e) :
    ∃ r ∈ rows, readingJson r = j := by
  have hslice : Effect.readings e ∈ (slices n rows).map (List.map readingJson) := by
    rw [← readings_posts h]
    exact List.mem_map_of_mem he
  obtain ⟨rs, hrs, hsame⟩ := List.mem_map.mp hslice
  rw [← hsame] at hj
  obtain ⟨r, hr, hjson⟩ := List.mem_map.mp hj
  exact ⟨r, mem_slices.mp ⟨rs, hrs, hr⟩, hjson⟩

theorem flatten_slices {α : Type} (n : Nat) (l : List α) : (slices n l).flatten = l := by
  fun_induction slices n l with
  | case1 => rfl
  | case2 a as ih => rw [List.flatten_cons, ih, List.cons_append, List.take_append_drop]

/-- Readings that are told apart by their timestamps are told apart in a body. -/
theorem readingJson_tsUtc {a b : ReadingRow} (h : readingJson a = readingJson b) :
    a.tsUtc = b.tsUtc := by
  have hmember := congrArg (fun j => j.member? "ts_utc") h
  simpa [readingJson, Json.member?_ofMembers] using hmember

/-- No two POSTs share a reading, if each carries its own slice of readings in order. -/
theorem posts_disjoint {rows : List ReadingRow} (h : Ordered rows) {n : Nat} {siteId : String}
    {sensor : Json} {warr : List Json} {posts : List Effect}
    (hposts : List.Forall₂ Effect.Took ((slices n rows).map (webhookBody siteId sensor warr)) posts) :
    posts.Pairwise fun e e' => List.Disjoint (Effect.readings e) (Effect.readings e') := by
  rw [← flatten_slices n rows] at h
  have hslices := (List.pairwise_flatten.mp h).2
  suffices hmap : (posts.map Effect.readings).Pairwise List.Disjoint from List.pairwise_map.mp hmap
  rw [readings_posts hposts, List.pairwise_map]
  refine hslices.imp fun {rs rs'} hlt j hj hj' => ?_
  obtain ⟨a, ha, rfl⟩ := List.mem_map.mp hj
  obtain ⟨b, hb, hab⟩ := List.mem_map.mp hj'
  exact absurd (readingJson_tsUtc hab) (ne_of_gt (hlt a ha b hb))

/-- The webhook's run posts the slices in order. -/
theorem meets_runWebhook_delivered (config : String) (ctx : ExportContext) (w : World) :
    Meets (runWebhook d config ctx) w
      (fun _ w' => ∃ siteId n, Delivered ((slices n ctx.readings).map
        (webhookBody siteId (webhookSensor ctx.sensor) (webhookWeather ctx.weather))) w w')
      fun _ _ => True := by
  unfold runWebhook
  simp only [meets_bind, meets_liftExcept, meets_ite, meets_throw, meets_pure, implies_true,
    and_true, true_and]
  intro cfg _ url _ _ token _ siteId _ insecure _ given _
  let body := webhookBody siteId (webhookSensor ctx.sensor) (webhookWeather ctx.weather)
  refine (meets_forM (f := fun rs => postSlice url (body rs))
    (I := fun done w' => Delivered (done.map body) w w')
    (E := fun _ _ => True) (fun done rs rest _ w₁ h₁ => ?_)
    ⟨rfl, rfl, [], (List.append_nil _).symm, .nil⟩).mono
    (fun _ w' h => ⟨siteId, _, h⟩) fun _ _ _ => trivial
  refine (meets_postSlice_took url (body rs) w₁).mono (fun _ w₂ h₂ => ?_) fun _ _ _ => trivial
  obtain ⟨posts, heffects, hposts⟩ := h₁.posts
  obtain ⟨last, hlast, htook⟩ := h₂.posts
  refine ⟨h₂.db.trans h₁.db, h₂.faults.trans h₁.faults, posts ++ last, ?_, ?_⟩
  · rw [hlast, heffects, List.append_assoc]
  · rw [List.map_append]
    exact List.rel_append hposts htook

/-- What a run of a webhook target leaves behind that found something fresh and returned. -/
structure Ran (d : Deps) (t : ExportTargetRow) (w w' : World) : Prop where
  db : ∃ log next, w'.db = { w.db with
    exportTargets := markTarget d.server t.id (newestTs (freshOf d w.db w.now t)) w.db.exportTargets
    exportLog := log, next }
  posts : ∃ sensor siteId n posts,
    w.db.sensors.find? (fun r => d.server.same r.id t.sensorId) = some sensor ∧
    w'.effects = w.effects ++ posts ∧
    List.Forall₂ Effect.Took ((slices n (freshOf d w.db w.now t).reverse).map
      (webhookBody siteId (webhookSensor sensor)
        (webhookWeather (ambientOf d.server w.db sensor t.lastExportTs (fmtSqlUtc w.now))))) posts

theorem meets_insertExportLog_frame (r : ExportLogRow) (w : World) :
    Meets (insertExportLog d.server r) w (fun _ w' => ∃ log next fs, w' = logged w log next fs)
      fun _ _ => True := by
  refine meets_statement (fun a db' fs hrow => ?_) fun _ _ => trivial
  simp only [Option.bind_eq_bind, Option.bind_eq_some_iff, Option.pure_def, Option.some.injEq,
    Prod.mk.injEq] at hrow
  obtain ⟨_, -, _, -, _, -, _, -, _, -, _, -, _, -, -, rfl⟩ := hrow
  exact ⟨_, _, fs, rfl⟩

/-- A run of a webhook target that returns found nothing fresh, or posted all of it. -/
theorem meets_runExport_posts {t : ExportTargetRow} (ht : t.target = "webhook") {w : World}
    (hstamp : freshOf d w.db w.now t ≠ [] → IsStamp (newestTs (freshOf d w.db w.now t))) :
    Meets (runExport d t) w
      (fun _ w' => (freshOf d w.db w.now t = [] ∧ w'.db = w.db ∧ w'.effects = w.effects) ∨
        (freshOf d w.db w.now t ≠ [] ∧ Ran d t w w'))
      fun _ _ => True := by
  refine meets_runExport (fun _ => trivial) (fun hnone fs => Or.inl ⟨hnone, rfl, rfl⟩)
    fun sensor exporter fs hne hsensor hexp => ?_
  rw [ht] at hexp
  obtain rfl := makeExporter_webhook hexp
  show Meets (runIncremental d t sensor (.webhook t.config) (freshOf d w.db w.now t)
    (fmtSqlUtc w.now)) (w.withFaults fs) _ _
  unfold runIncremental
  rw [meets_bind]
  refine meets_collectAmbient (fun fs => ?_) fun _ _ => trivial
  unfold pushAndLog
  simp only [meets_bind, meets_tryCatch]
  have hfail : ∀ (log : ExportLogRow) (e : String) (w' : World) {α : Type} {Q : α → World → Prop},
      Meets (logFailure d log e) w' Q fun _ _ => True := fun log e w' _ _ =>
    meets_logFailure log e (fun _ _ _ _ _ => trivial) (w := w') trivial
  refine (meets_runWebhook_delivered t.config _ _).mono (fun res w₁ h₁ => ?_)
    fun e w₁ _ => hfail _ e w₁
  obtain ⟨siteId, n, hdb, -, posts, heffects, htook⟩ := h₁
  refine (meets_insertExportLog_frame _ w₁).mono (fun _ w₂ h₂ => ?_) fun e w₂ _ => hfail _ e w₂
  obtain ⟨log, next, faults, rfl⟩ := h₂
  simp only [meets_pure]
  refine meets_setExportWatermark (hstamp hne) (fun fs => Or.inr ⟨hne, ⟨log, next, ?_⟩, ?_⟩)
    fun _ => trivial
  · show { w₁.db with
      exportTargets := markTarget d.server t.id (newestTs (freshOf d w.db w.now t))
        w₁.db.exportTargets
      exportLog := log, next } = _
    rw [hdb]
  · exact ⟨sensor, siteId, n, posts, hsensor, heffects, htook⟩

/-! ## Runs that throw -/

/-- One of the POSTs that were made on the way was not answered 2xx. -/
def Refused (w w' : World) : Prop :=
  ∃ e ∈ w'.effects.drop w.effects.length, ∀ body, ¬Effect.Took body e

/-- Where a run posts to, if it gets past the checks that are made of the config before that. -/
def webhookUrl (d : Deps) (config sensorId : String) : Except String String := do
  let cfg ← parseConfig d config
  let url ← cfg.valueOr "url" Json.getString ""
  if url = "" then
    throw "webhook export requires a 'url'"
  let _ ← cfg.valueOr "token" Json.getString ""
  let _ ← cfg.valueOr "site_id" Json.getString sensorId
  let _ ← cfg.valueOr "insecure" Json.getBool false
  let _ ← cfg.valueOr "batch" Json.getInt 2000
  return url

/-- What POSTs leave behind. -/
def PostedOn (w w' : World) : Prop :=
  ∃ answers posts, w' = { w with answers, effects := w.effects ++ posts }

theorem postedOn_refl (w : World) : PostedOn w w :=
  ⟨w.answers, [], by rw [List.append_nil]⟩

/-- A slice that is not delivered is one whose POST was not answered 2xx. -/
theorem meets_postSlice_refused {url : String} {body : Json} {w w₀ : World} (h : PostedOn w₀ w) :
    Meets (postSlice url body) w (fun _ w' => PostedOn w₀ w') fun _ w' => Refused w₀ w' := by
  obtain ⟨answers, posts, rfl⟩ := h
  have hgoes : ∀ answers e, PostedOn w₀
      { w₀ with answers, effects := (w₀.effects ++ posts) ++ [e] } := fun answers e =>
    ⟨answers, posts ++ [e], by rw [List.append_assoc]⟩
  have hrefused : ∀ (answers : List (Except String (Nat × String))) (e : Effect),
      (∀ body, ¬Effect.Took body e) →
      Refused w₀ { w₀ with answers, effects := (w₀.effects ++ posts) ++ [e] } := by
    intro answers e he
    refine ⟨e, ?_, he⟩
    rw [List.append_assoc, List.drop_left]
    exact List.mem_append_right _ (List.mem_singleton_self e)
  have hunanswered : ∀ body', ¬Effect.Took body' (.post url body none) := fun _ h => h
  unfold postSlice
  simp only [meets_bind, meets_tryCatch, meets_throw, meets_pure, meets_ite]
  unfold Meets postJson
  cases answers with
  | nil => exact hrefused [] _ hunanswered
  | cons answer rest =>
    cases answer with
    | error e => exact hrefused rest _ hunanswered
    | ok reply =>
      refine ⟨fun hbad => hrefused rest _ fun body' htook => ?_, fun _ => hgoes rest _⟩
      obtain ⟨-, hlo, hhi⟩ := htook
      simp only [Bool.or_eq_true, decide_eq_true_eq] at hbad
      omega

/-- A delivery that fails has posted nothing, or had a POST refused. -/
theorem meets_runWebhook_refused (config : String) (ctx : ExportContext) (w : World) :
    Meets (runWebhook d config ctx) w
      (fun res w' => PostedOn w w' ∧ ∃ url, webhookUrl d config ctx.sensor.id = .ok url ∧
        res = { fileName := "webhook", remoteId := url, rowCount := ctx.readings.length })
      fun _ w' => w'.effects = w.effects ∨ Refused w w' := by
  unfold runWebhook
  simp only [meets_bind, meets_liftExcept, meets_ite, meets_throw, meets_pure, true_or, implies_true,
    and_true, true_and]
  intro cfg hcfg url hurl hne token htoken siteId hsite insecure hinsecure given hgiven
  have hchecked : webhookUrl d config ctx.sensor.id = .ok url := by
    unfold webhookUrl
    simp only [hcfg, hurl, htoken, hsite, hinsecure, hgiven, bind, Except.bind, if_neg hne]
    rfl
  refine (meets_forM (I := fun _ w' => PostedOn w w') (E := fun _ w' => w'.effects = w.effects ∨
      Refused w w')
    (fun done rs rest _ w₁ h₁ => ?_) (postedOn_refl w)).mono
    (fun _ w' h => ⟨h, url, hchecked, rfl⟩) fun _ _ h => h
  exact (meets_postSlice_refused h₁).mono (fun _ _ h => h) fun _ _ h => Or.inr h

/-- The server takes the row that a delivery is logged with. -/
structure LogTaken (srv : Server) (targetId url : String) : Prop where
  target : (srv.storeText (.varchar 32) targetId).isSome = true
  file : (srv.storeText (.varchar 255) "webhook").isSome = true
  remote : (srv.storeText (.varchar 255) url).isSome = true

/-- A row the server takes is logged. -/
theorem meets_insertExportLog_taken {r : ExportLogRow} {faults : List Bool} {k : Nat} {w : World}
    {Q : Nat → World → Prop} {E : String → World → Prop} (hw : w.dbFaults = faults.drop k)
    (hclean : Clean (k + 1) faults) {url : String} (htaken : LogTaken d.server r.targetId url)
    (hts : r.tsUtc = "" ∧ r.detail = "") (hfile : r.fileName = "webhook" ∧ r.remoteId = url)
    (hfrom : r.fromTs = "" ∨ IsStamp r.fromTs) (hto : r.toTs = "" ∨ IsStamp r.toTs)
    (hok : ∀ a log next, Q a (logged w log next (faults.drop (k + 1)))) :
    Meets (insertExportLog d.server r) w Q E := by
  obtain ⟨target, htarget⟩ := Option.isSome_iff_exists.mp htaken.target
  -- an empty text is stored as NULL, any other as the server takes it
  have htext : ∀ {ty s}, (d.server.storeText ty s).isSome = true →
      ∃ stored, textOrNull d.server ty s = some stored := by
    intro ty s h
    unfold textOrNull
    split
    · exact ⟨_, rfl⟩
    · exact Option.isSome_iff_exists.mp h
  have hdate : ∀ {ts}, ts = "" ∨ IsStamp ts → ∃ stored, datetimeOrNull d.server ts = some stored := by
    intro ts h
    unfold datetimeOrNull
    rcases h with rfl | h
    · exact ⟨_, rfl⟩
    · rw [if_neg h.ne_empty]
      exact ⟨ts, h.datetime _⟩
  obtain ⟨file, hf⟩ := htext htaken.file
  obtain ⟨remote, hr⟩ := htext htaken.remote
  obtain ⟨fromTs, hfrom⟩ := hdate hfrom
  obtain ⟨toTs, hto⟩ := hdate hto
  have hnow : timestampOrNow d.server w.now r.tsUtc = some (fmtSqlUtc w.now) := if_pos hts.1
  have hdetail : textOrNull d.server .text r.detail = some "" := if_pos hts.2
  -- every column is taken, so the statement goes through
  have hrow : ∃ a log next, (do
      let targetId ← d.server.storeText (.varchar 32) r.targetId
      let tsUtc ← timestampOrNow d.server w.now r.tsUtc
      let fromTs ← datetimeOrNull d.server r.fromTs
      let toTs ← datetimeOrNull d.server r.toTs
      let fileName ← textOrNull d.server (.varchar 255) r.fileName
      let remoteId ← textOrNull d.server (.varchar 255) r.remoteId
      let detail ← textOrNull d.server .text r.detail
      let row : ExportLogRow :=
        { r with id := w.db.next.exportLog, targetId, tsUtc, fromTs, toTs, fileName, remoteId, detail }
      return (row.id, { w.db with
        exportLog := w.db.exportLog ++ [row]
        next := { w.db.next with exportLog := w.db.next.exportLog + 1 } })) =
      some (a, { w.db with exportLog := log, next }) := by
    rw [htarget, hnow, hfrom, hto, hfile.1, hfile.2, hf, hr, hdetail]
    exact ⟨_, _, _, rfl⟩
  obtain ⟨a, log, next, hrow⟩ := hrow
  exact meets_statement_answered hw hclean hrow (hok a log next)

theorem meets_setExportWatermark_answered {id ts : String} {faults : List Bool} {k : Nat} {w : World}
    {Q : Unit → World → Prop} {E : String → World → Prop} (hw : w.dbFaults = faults.drop k)
    (hclean : Clean (k + 1) faults) (hts : IsStamp ts)
    (hok : Q () { w with
      db := { w.db with exportTargets := markTarget d.server id ts w.db.exportTargets }
      dbFaults := faults.drop (k + 1) }) :
    Meets (setExportWatermark d.server id ts) w Q E := by
  refine meets_statement_answered hw hclean ?_ hok
  rw [hts.datetime]
  simp only [Option.bind_eq_bind, Option.bind_some, updateWhere_some, Option.pure_def]
  rfl

/-- The two statements that come after the POSTs of a run, the row of the export log and the
watermark, go through, if the run comes to them. -/
def LogAndMark (d : Deps) (t : ExportTargetRow) (w : World) : Prop :=
  ∀ sensor url, w.db.sensors.find? (fun r => d.server.same r.id t.sensorId) = some sensor →
    freshOf d w.db w.now t ≠ [] → webhookUrl d t.config sensor.id = .ok url →
    let calls := 2 + ambientCalls d.server w.db sensor
    Clean calls w.dbFaults → Clean (calls + 2) w.dbFaults ∧ LogTaken d.server t.id url

/-- If these go through, a run that throws has posted nothing, or had a POST refused. -/
theorem meets_runExport_whole {t : ExportTargetRow} (ht : t.target = "webhook") {w : World}
    (hnow : InYears w.now) (hwm : t.lastExportTs = "" ∨ IsStamp t.lastExportTs)
    (hstamp : freshOf d w.db w.now t ≠ [] → IsStamp (newestTs (freshOf d w.db w.now t)))
    (hlog : LogAndMark d t w) :
    Meets (runExport d t) w (fun _ _ => True)
      fun _ w' => w'.effects = w.effects ∨ Refused w w' := by
  have hnone : ∀ fs : List Bool, (w.withFaults fs).effects = w.effects ∨ Refused w (w.withFaults fs) :=
    fun _ => Or.inl rfl
  unfold runExport
  rw [meets_bind]
  have hstart : w.dbFaults = w.dbFaults.drop 0 := rfl
  refine meets_select_at hstart (clean_zero _) (fun h₁ => ?_) fun _ _ fs => hnone fs
  dsimp only
  cases hsensor : w.db.sensors.find? (fun r => d.server.same r.id t.sensorId) with
  | none => exact hnone _
  | some sensor =>
    simp only [meets_bind, meets_get, readingsBetween_eq]
    refine meets_select_at rfl h₁ (fun h₂ => ?_) fun _ _ fs => hnone fs
    rw [meets_ite]
    refine ⟨fun _ => trivial, fun hne => ?_⟩
    rw [meets_bind, meets_liftExcept]
    refine ⟨fun exporter hexp => ?_, fun _ _ => hnone _⟩
    rw [ht] at hexp
    obtain rfl := makeExporter_webhook hexp
    show Meets (runIncremental d t sensor (.webhook t.config) (freshOf d w.db w.now t)
      (fmtSqlUtc w.now)) (w.withFaults (w.dbFaults.drop 2)) _ _
    unfold runIncremental pushAndLog
    simp only [meets_bind, meets_tryCatch]
    have htwo : (w.withFaults (w.dbFaults.drop 2)).dbFaults = w.dbFaults.drop 2 := rfl
    refine meets_collectAmbient_at htwo h₂ (fun h₃ => ?_) fun _ fs => hnone fs
    have hproof : LogProof fun w' : World => w'.effects = w.effects ∨ Refused w w' :=
      fun _ _ _ _ h => h
    refine (meets_runWebhook_refused t.config _ _).mono (fun res w₁ h => ?_) fun e w₁ h =>
      meets_logFailure _ e hproof h
    -- everything is posted, and the two statements after it go through
    obtain ⟨⟨answers, posts, rfl⟩, url, hurl, rfl⟩ := h
    obtain ⟨h₅, htaken⟩ := hlog sensor url hsensor hne hurl h₃
    have hlogged : Clean (2 + ambientCalls d.server w.db sensor + 1) w.dbFaults :=
      fun i hi => h₅ i (by omega)
    refine @meets_insertExportLog_taken _ _ w.dbFaults _ _ _ _ rfl hlogged url htaken ⟨rfl, rfl⟩
      ⟨rfl, rfl⟩ hwm (Or.inr ⟨w.now, hnow, rfl⟩) fun a log next => ?_
    exact @meets_setExportWatermark_answered _ _ _ w.dbFaults _ _ _ _ rfl h₅ (hstamp hne) trivial


end NightWatcher.Exporter
