import NightWatcher.Api.Secrets
import NightWatcher.Daemon.Reload
import NightWatcher.Export.Steps

/-!
# Configs, from request to request

What the handlers of export targets and weather stations do to the stored
configs: a PATCH merges what it is given into one row's config, a POST puts it
in the place of it (`ConfigsAfter`). The other requests on the two tables leave
every config alone.
-/

namespace NightWatcher.Api

open Throwing Database Exporter Daemon Transcript

variable {d : Deps} {cfg : ApiConfig} {req : Request} {w w' : World}

/-! ## The configs of a table -/

/-- The two kinds of row that hold a config. -/
inductive ConfigKind where
  | exportTarget
  | weatherStation
deriving DecidableEq

/-- The ids and configs of a table. -/
def configs (db : Db) : ConfigKind → List (String × String)
  | .exportTarget => db.exportTargets.map fun r => (r.id, r.config)
  | .weatherStation => db.weatherStations.map fun r => (r.id, r.config)

/-- The configs of the weather stations do not depend on the export targets. -/
theorem configs_exportTargets {db : Db} (rows : List ExportTargetRow) (k : ConfigKind)
    (hk : k ≠ .exportTarget) : configs { db with exportTargets := rows } k = configs db k := by
  cases k with
  | exportTarget => exact absurd rfl hk
  | weatherStation => rfl

/-- The configs of the export targets do not depend on the weather stations. -/
theorem configs_weatherStations {db : Db} (rows : List WeatherStationRow) (k : ConfigKind)
    (hk : k ≠ .weatherStation) : configs { db with weatherStations := rows } k = configs db k := by
  cases k with
  | weatherStation => exact absurd rfl hk
  | exportTarget => rfl

/-- The rows of one id with another config. -/
def rewrite (srv : Server) (id : String) (f : String → String) (rows : List (String × String)) :
    List (String × String) :=
  rows.map fun e => if srv.same e.1 id then (e.1, f e.2) else e

/-- The config of one row, as a text that is given or stays as it is. -/
def Takes (text : Option String) (f : String → String) : Prop := ∀ c, f c = c ∨ some (f c) = text

/-- A text column stores a text as it is, and a key column a text it takes for equal. -/
structure StoresTexts (srv : Server) : Prop where
  text : ∀ s s', srv.storeText .text s = some s' → s' = s
  key : ∀ s s', srv.storeText (.varchar 32) s = some s' → srv.same s' s = true

/-- What a write of the row `id` of the table `k`, given a config or none, can leave. -/
inductive ConfigsAfter (srv : Server) (k : ConfigKind) (id : String) (text : Option String)
    (db db' : Db) : Prop
  | same (h : ∀ k, configs db' k = configs db k)
  | edited (id' : String) (hid : srv.same id' id = true) (f : String → String) (hf : Takes text f)
      (hrows : configs db' k = rewrite srv id' f (configs db k))
      (hothers : ∀ k', k' ≠ k → configs db' k' = configs db k')
  | created (id' c : String) (hnew : ∀ e ∈ configs db k, srv.same e.1 id' = false)
      (hrows : configs db' k = configs db k ++ [(id', c)])
      (hothers : ∀ k', k' ≠ k → configs db' k' = configs db k')

/-- The config a statement stores in a row. -/
def storedConfig (srv : Server) (text : Option String) (c : String) : String :=
  (setText srv .text text c).getD c

/-- What is written takes the config of the fields, if there is one. -/
theorem storedConfig_takes (hstores : StoresTexts d.server) (text : Option String) :
    Takes text (storedConfig d.server text) := by
  intro c
  unfold storedConfig setText
  cases text with
  | none => exact Or.inl rfl
  | some s =>
    dsimp only
    cases hs : d.server.storeText .text s with
    | none => exact Or.inl rfl
    | some s' => exact Or.inr (congrArg some (hstores.text s s' hs))

section Rows

variable {ρ : Type} {v : ρ → String × String} {p : ρ → Bool} {assign : ρ → Option ρ}
  {rows rows' : List ρ} {id : String} {f : String → String} {srv : Server}

/-- An update of the rows of an id, seen in their configs. -/
theorem view_updateWhere (h : updateWhere p assign rows = some rows')
    (hp : ∀ r, p r = srv.same (v r).1 id)
    (hassign : ∀ r r', assign r = some r' → v r' = ((v r).1, f (v r).2)) :
    rows'.map v = rewrite srv id f (rows.map v) := by
  induction rows generalizing rows' with
  | nil =>
    cases h
    rfl
  | cons r rows ih =>
    obtain ⟨r', rest', hr', hrest', rfl⟩ := updateWhere_cons.mp h
    have hrow : v r' = if srv.same (v r).1 id then ((v r).1, f (v r).2) else v r := by
      rw [← hp r]
      by_cases hpr : p r = true
      · rw [if_pos hpr] at hr' ⊢
        exact hassign r r' hr'
      · rw [if_neg hpr] at hr' ⊢
        rw [Option.some.inj hr']
    show v r' :: rest'.map v = (if _ then _ else _) :: rewrite srv id f (rows.map v)
    rw [hrow, ih hrest']

/-- An upsert rewrites the config of the rows it finds, or adds one. -/
theorem view_upsertRow {fresh : ρ} {noUpdates : Bool}
    (h : upsertRow p fresh noUpdates assign rows = some rows')
    (hp : ∀ r, p r = srv.same (v r).1 id)
    (hassign : ∀ r r', assign r = some r' → v r' = ((v r).1, f (v r).2))
    (hfresh : (v fresh).1 = id) :
    rows'.map v = rewrite srv id f (rows.map v) ∨
      (∀ e ∈ rows.map v, srv.same e.1 id = false) ∧
        ∃ c, rows'.map v = rows.map v ++ [(id, c)] := by
  unfold upsertRow at h
  by_cases hany : rows.any p = true
  · rw [if_pos hany] at h
    cases noUpdates with
    | true => cases h
    | false => exact Or.inl (view_updateWhere h hp hassign)
  · rw [if_neg hany] at h
    obtain ⟨r', hr', rfl⟩ := Option.map_eq_some_iff.mp h
    refine Or.inr ⟨fun e he => ?_, (v r').2, ?_⟩
    · obtain ⟨r, hr, rfl⟩ := List.mem_map.mp he
      have hnot : rows.any p = false := Bool.not_eq_true _ ▸ hany
      rw [← hp r]
      exact Bool.not_eq_true _ ▸ List.any_eq_false.mp hnot r hr
    · rw [List.map_append, List.map_singleton, hassign _ _ hr', hfresh]

end Rows

/-- `assignExportTargetChecked` keeps the id and writes the config of the fields. -/
theorem view_assignExportTarget {srv : Server} {db : Db} {f : ExportTargetFields}
    {r r' : ExportTargetRow} (h : assignExportTargetChecked srv db f r = some r') :
    (r'.id, r'.config) = (r.id, storedConfig srv f.config r.config) := by
  unfold assignExportTargetChecked at h
  simp only [Option.bind_eq_bind, Option.bind_eq_some_iff, Option.pure_def, Option.some.injEq] at h
  obtain ⟨x, hx, -, -, rfl⟩ := h
  unfold assignExportTarget at hx
  simp only [Option.bind_eq_bind, Option.bind_eq_some_iff, Option.pure_def, Option.some.injEq] at hx
  obtain ⟨_, -, _, -, _, -, config, hconfig, _, -, _, -, _, -, _, -, rfl⟩ := hx
  unfold storedConfig
  rw [hconfig]
  rfl

/-- `assignWeatherStation` keeps the id and writes the config of the fields. -/
theorem view_assignWeatherStation {srv : Server} {f : WeatherStationFields}
    {r r' : WeatherStationRow} (h : assignWeatherStation srv f r = some r') :
    (r'.id, r'.config) = (r.id, storedConfig srv f.config r.config) := by
  unfold assignWeatherStation at h
  iterate 4 obtain ⟨_, -, h⟩ := Option.bind_eq_some_iff.mp h
  obtain ⟨config, hconfig, h⟩ := Option.bind_eq_some_iff.mp h
  iterate 9 obtain ⟨_, -, h⟩ := Option.bind_eq_some_iff.mp h
  cases h
  unfold storedConfig
  rw [hconfig]
  rfl

/-! ## The handlers that write one -/

/-- An update of the export targets found by id is the one change of configs. -/
theorem configsAfter_targets {rows : List ExportTargetRow} {id : String} {f : ExportTargetFields}
    (hstores : StoresTexts d.server)
    (h : updateWhere (fun r => d.server.same r.id id) (assignExportTargetChecked d.server w.db f)
      w.db.exportTargets = some rows) :
    ConfigsAfter d.server .exportTarget id f.config w.db { w.db with exportTargets := rows } := by
  refine .edited id (by simp [Server.same]) (storedConfig d.server f.config)
    (storedConfig_takes hstores _) (view_updateWhere h (fun _ => rfl) fun r r' => ?_)
    (configs_exportTargets rows)
  exact view_assignExportTarget

/-- An update of the weather stations found by id is the one change of configs. -/
theorem configsAfter_stations {rows : List WeatherStationRow} {id : String} {f : WeatherStationFields}
    (hstores : StoresTexts d.server)
    (h : updateWhere (fun r => d.server.same r.id id) (assignWeatherStation d.server f)
      w.db.weatherStations = some rows) :
    ConfigsAfter d.server .weatherStation id f.config w.db { w.db with weatherStations := rows } := by
  refine .edited id (by simp [Server.same]) (storedConfig d.server f.config)
    (storedConfig_takes hstores _) (view_updateWhere h (fun _ => rfl) fun r r' => ?_)
    (configs_weatherStations rows)
  exact view_assignWeatherStation

/-- Reading the fields leaves the config to the handler. -/
theorem exportFieldsFromJson_config {body : Json} {f : ExportTargetFields}
    (h : exportFieldsFromJson body = .ok f) : f.config = none := by
  unfold exportFieldsFromJson at h
  iterate 9 obtain ⟨_, -, h⟩ := except_bind_eq_ok.mp h
  cases h
  rfl

/-- Reading the fields leaves the config to the handler. -/
theorem wxFieldsFromJson_config {body : Json} {f : WeatherStationFields}
    (h : wxFieldsFromJson body = .ok f) : f.config = none := by
  unfold wxFieldsFromJson at h
  iterate 14 obtain ⟨_, -, h⟩ := except_bind_eq_ok.mp h
  cases h
  rfl

/-- The config a body carries, merged into that of the row `id`. -/
def mergedText (d : Deps) (db : Db) (k : ConfigKind) (id : String) (body : Json) : Option String :=
  (body.member? "config").bind fun incoming =>
    ((configs db k).find? fun e => d.server.same e.1 id).map fun e => mergeConfig d e.2 incoming

/-- Without `config` in the body nothing is merged. -/
theorem mergedText_none {db : Db} {k : ConfigKind} {id : String} {body : Json}
    (hgiven : body.member? "config" = none) : mergedText d db k id body = none := by
  unfold mergedText
  rw [hgiven]
  rfl

/-- A `config` in the body is merged into the text of the row the id finds. -/
theorem mergedText_row {ρ : Type} {v : ρ → String × String} {rows : List ρ} {existing : ρ}
    {db : Db} {k : ConfigKind} {id : String} {body incoming : Json}
    (hrows : configs db k = rows.map v)
    (hfind : rows.find? (fun r => d.server.same (v r).1 id) = some existing)
    (hgiven : body.member? "config" = some incoming) :
    mergedText d db k id body = some (mergeConfig d (v existing).2 incoming) := by
  have hrow : (configs db k).find? (fun e => d.server.same e.1 id) = some (v existing) := by
    rw [hrows, List.find?_map]
    show Option.map v (rows.find? fun r => d.server.same (v r).1 id) = _
    rw [hfind]
    rfl
  unfold mergedText
  rw [hgiven, Option.bind_some, hrow]
  rfl

/-- What a PATCH leaves: every config, or one row's with what was given merged into it. -/
def Patched (d : Deps) (req : Request) (k : ConfigKind) (id : String) (db db' : Db) : Prop :=
  (∀ k, configs db' k = configs db k) ∨ ∃ body, d.json.parse req.body = some body ∧
    ConfigsAfter d.server k id (mergedText d db k id body) db db'

/-- `update_export_target` leaves the tables alone or updates the rows found by id. -/
theorem meets_updateExportTarget_rows {id : String} {f : ExportTargetFields} {Q : Bool → World → Prop}
    {E : String → World → Prop} (hsame : ∀ found fs, Q found (w.withFaults fs))
    (hdone : ∀ rows fs, updateWhere (fun r => d.server.same r.id id)
        (assignExportTargetChecked d.server w.db f) w.db.exportTargets = some rows →
      Q true { w with db := { w.db with exportTargets := rows }, dbFaults := fs })
    (herr : ∀ e fs, E e (w.withFaults fs)) : Meets (updateExportTarget d.server id f) w Q E := by
  unfold updateExportTarget
  simp only [meets_bind, meets_ite, meets_pure]
  refine meets_select (fun fs => ⟨fun _ => hsame _ fs, fun _ => ⟨fun _ => hsame _ fs, fun _ => ?_⟩⟩)
    fun fs => herr _ fs
  refine meets_statement (fun _ db' fs h => ?_) herr
  simp only [Option.bind_eq_bind, Option.bind_eq_some_iff, Option.pure_def, Option.some.injEq,
    Prod.mk.injEq] at h
  obtain ⟨rows, hrows, -, rfl⟩ := h
  exact hdone rows fs hrows

/-- `PATCH /export-targets/:id` does what is said of a patch, however it ends. -/
theorem patched_exportTarget (hstores : StoresTexts d.server) {id : String} :
    Meets (patchExportTarget d cfg req id) w
      (fun _ w' => Patched d req .exportTarget id w.db w'.db)
      fun _ w' => Patched d req .exportTarget id w.db w'.db := by
  have hsame : ∀ {db'}, db' = w.db → Patched d req .exportTarget id w.db db' := by
    rintro _ rfl
    exact Or.inl fun _ => rfl
  refine meets_adminOnly (fun fs _ => ?_) fun _ fs => hsame rfl
  unfold withBody
  cases hbody : d.json.parse req.body with
  | none => exact hsame rfl
  | some body =>
    simp only [orError, meets_tryCatch, meets_bind, meets_pure]
    refine meets_ask (fun _ fs => ?_) fun _ fs => hsame rfl
    rw [meets_liftExcept]
    refine ⟨fun f hf => ?_, fun _ _ => hsame rfl⟩
    -- the update with a config that is merged from the one there, or with none
    have hupdate : ∀ (f' : ExportTargetFields) (fs : List Bool),
        f'.config = mergedText d w.db .exportTarget id body → Meets (do
        if !(← updateExportTarget d.server id f') then
          return sendErr 404 "no such export target"
        reload cfg
        let t ← ask (findExportTarget d.server id)
        return send 200 ((t.map (exportTargetJson d)).getD (.obj [])))
        (w.withFaults fs) (fun _ w' => Patched d req .exportTarget id w.db w'.db)
        fun _ w' => Patched d req .exportTarget id w.db w'.db := by
      intro f' fs hconfig
      have hrest : ∀ (found : Bool) (w' : World), Patched d req .exportTarget id w.db w'.db → Meets (do
          if !found then
            return sendErr 404 "no such export target"
          reload cfg
          let t ← ask (findExportTarget d.server id)
          return send 200 ((t.map (exportTargetJson d)).getD (.obj [])))
          w' (fun _ w' => Patched d req .exportTarget id w.db w'.db)
          fun _ w' => Patched d req .exportTarget id w.db w'.db := by
        intro found w' hw'
        cases found with
        | false => exact hw'
        | true =>
          unfold reload
          simp only [Bool.not_true, Bool.false_eq_true, if_false, meets_bind, meets_ite, logEffect,
            meets_modify, meets_pure]
          exact ⟨fun _ => meets_select (fun _ => hw') fun _ => hw',
            fun _ => meets_select (fun _ => hw') fun _ => hw'⟩
      rw [meets_bind]
      refine meets_updateExportTarget_rows (fun _ fs => hrest _ _ (hsame rfl)) (fun rows fs hrows =>
        hrest _ _ (Or.inr ⟨body, hbody, ?_⟩)) fun _ fs => hsame rfl
      rw [← hconfig]
      exact configsAfter_targets hstores hrows
    cases hgiven : body.member? "config" with
    | none =>
      refine hupdate f _ ?_
      rw [exportFieldsFromJson_config hf, mergedText_none hgiven]
    | some incoming =>
      simp only [meets_bind]
      refine meets_select (fun fs => ?_) fun fs => hsame rfl
      dsimp only
      cases hfind : w.db.exportTargets.find? fun r => d.server.same r.id id with
      | none => exact hsame rfl
      | some existing =>
        refine hupdate _ fs ?_
        exact (mergedText_row (v := fun r : ExportTargetRow => (r.id, r.config)) rfl hfind hgiven).symm

/-- `PATCH /weather-stations/:id` does what is said of a patch, however it ends. -/
theorem patched_weatherStation (hstores : StoresTexts d.server) {id : String} :
    Meets (patchWeatherStation d cfg req id) w
      (fun _ w' => Patched d req .weatherStation id w.db w'.db)
      fun _ w' => Patched d req .weatherStation id w.db w'.db := by
  have hsame : ∀ {db'}, db' = w.db → Patched d req .weatherStation id w.db db' := by
    rintro _ rfl
    exact Or.inl fun _ => rfl
  refine meets_adminOnly (fun fs _ => ?_) fun _ fs => hsame rfl
  unfold withBody
  cases hbody : d.json.parse req.body with
  | none => exact hsame rfl
  | some body =>
    simp only [orError, meets_tryCatch, meets_bind, meets_pure]
    refine meets_ask (fun _ fs => ?_) fun _ fs => hsame rfl
    rw [meets_liftExcept]
    refine ⟨fun f hf => ?_, fun _ _ => hsame rfl⟩
    have hupdate : ∀ (f' : WeatherStationFields) (fs : List Bool),
        f'.config = mergedText d w.db .weatherStation id body → Meets (do
        if !(← updateWeatherStation d.server id f') then
          return sendErr 404 "no such weather station"
        let w ← ask (findWeatherStation d.server id)
        return send 200 ((w.map (weatherStationJson d)).getD (.obj [])))
        (w.withFaults fs) (fun _ w' => Patched d req .weatherStation id w.db w'.db)
        fun _ w' => Patched d req .weatherStation id w.db w'.db := by
      intro f' fs hconfig
      rw [meets_bind]
      refine meets_updateWeatherStation_at (w := w.withFaults fs) (clean_zero fs)
        (fun _ => hsame rfl) (fun _ => ?_) (fun rows _ hrows _ => ?_) fun _ _ => hsame rfl
      · simp only [Bool.not_true, Bool.false_eq_true, if_false, meets_bind]
        exact meets_select (fun _ => hsame rfl) fun _ => hsame rfl
      · have hdone : Patched d req .weatherStation id w.db { w.db with weatherStations := rows } := by
          refine Or.inr ⟨body, hbody, ?_⟩
          rw [← hconfig]
          exact configsAfter_stations hstores hrows
        simp only [Bool.not_true, Bool.false_eq_true, if_false, meets_bind]
        exact meets_select (fun _ => hdone) fun _ => hdone
    cases hgiven : body.member? "config" with
    | none =>
      refine hupdate f _ ?_
      rw [wxFieldsFromJson_config hf, mergedText_none hgiven]
    | some incoming =>
      simp only [meets_bind]
      refine meets_select (fun fs => ?_) fun fs => hsame rfl
      dsimp only
      cases hfind : w.db.weatherStations.find? fun r => d.server.same r.id id with
      | none => exact hsame rfl
      | some existing =>
        refine hupdate _ fs ?_
        exact (mergedText_row (v := fun r : WeatherStationRow => (r.id, r.config)) rfl hfind
            hgiven).symm

/-! ### POST -/

/-- A POST goes through: an administrator sends the fields it needs, the database answers
and takes them. -/
structure Posts (d : Deps) (cfg : ApiConfig) (req : Request) (w : World) (k : ConfigKind)
    (body : Json) (id : String) : Prop where
  admin : HasAdmin d cfg req w
  parsed : d.json.parse req.body = some body
  named : body.member? "id" = some (.str id)
  answered : Answered cfg req w 2
  taken : ∃ id', d.server.storeText (.varchar 32) id = some id' ∧
    match k with
    | .exportTarget => ∃ f, exportFieldsFromJson body = .ok f ∧ f.sensorId.isSome ∧ f.target.isSome ∧
        (upsertRow (fun r => d.server.same r.id id')
          { id := id', sensorId := "", target := "", createdAt := d.server.currentTimestamp w.now }
          false (assignExportTargetChecked d.server w.db { f with config := givenConfig d body })
          w.db.exportTargets).isSome
    | .weatherStation => ∃ f, wxFieldsFromJson body = .ok f ∧
        (upsertRow (fun r => d.server.same r.id id')
          { id := id', createdAt := d.server.currentTimestamp w.now }
          false (assignWeatherStation d.server { f with config := givenConfig d body })
          w.db.weatherStations).isSome

/-- An upsert of the row of an id, seen in the configs. -/
theorem configsAfter_upsert (hstores : StoresTexts d.server) {db db' : Db} {k : ConfigKind}
    {id id' : String} {text : Option String} {rows rows' : List (String × String)}
    (hid : d.server.storeText (.varchar 32) id = some id')
    (hold : configs db k = rows) (hnew : configs db' k = rows')
    (h : rows' = rewrite d.server id' (storedConfig d.server text) rows ∨
      (∀ e ∈ rows, d.server.same e.1 id' = false) ∧ ∃ c, rows' = rows ++ [(id', c)])
    (hothers : ∀ k', k' ≠ k → configs db' k' = configs db k') :
    ConfigsAfter d.server k id text db db' := by
  subst hold hnew
  rcases h with hrows | ⟨hfresh, c, hrows⟩
  · exact .edited id' (hstores.key _ _ hid) _ (storedConfig_takes hstores text) hrows hothers
  · exact .created id' c hfresh hrows hothers

/-- What a POST leaves: every config, or what was given in the place of one row's. -/
def Posted (d : Deps) (cfg : ApiConfig) (req : Request) (k : ConfigKind) (w : World)
    (db' : Db) : Prop :=
  (∀ k, configs db' k = configs w.db k) ∨ ∃ body id, Posts d cfg req w k body id ∧
    ConfigsAfter d.server k id (givenConfig d body) w.db db'

/-- Without an update clause nothing is updated. -/
theorem upsertRow_updates {ρ : Type} {p : ρ → Bool} {fresh : ρ} {noUpdates : Bool}
    {assign : ρ → Option ρ} {rows rows' : List ρ}
    (h : upsertRow p fresh noUpdates assign rows = some rows') :
    upsertRow p fresh false assign rows = some rows' := by
  cases noUpdates with
  | false => exact h
  | true =>
    unfold upsertRow at h ⊢
    split at h
    · cases h
    · rw [if_neg ‹_›]
      exact h

/-- `POST /export-targets` does what is said of a post, however it ends. -/
theorem posted_exportTarget (hstores : StoresTexts d.server)
    (hclean : Clean (gateCalls cfg req) w.dbFaults) :
    Meets (postExportTarget d cfg req) (admitted cfg req w)
      (fun _ w' => Posted d cfg req .exportTarget w w'.db)
      fun _ w' => Posted d cfg req .exportTarget w w'.db := by
  have hsame : ∀ {db'}, db' = w.db → Posted d cfg req .exportTarget w db' := by
    rintro _ rfl
    exact Or.inl fun _ => rfl
  refine meets_adminOnly_at rfl hclean (fun hclean hadmin => ?_) fun _ fs => hsame rfl
  unfold withBody
  cases hbody : d.json.parse req.body with
  | none => exact hsame rfl
  | some body =>
    rw [meets_ite]
    refine ⟨fun _ => hsame rfl, fun _ => ?_⟩
    simp only [orError, meets_tryCatch, meets_bind, meets_pure]
    refine meets_connect_at rfl hclean (fun hclean => ?_) fun _ fs => hsame rfl
    refine meets_getString (fun id hid => ?_) fun _ => hsame rfl
    rw [meets_liftExcept]
    refine ⟨fun f hf => ?_, fun _ _ => hsame rfl⟩
    simp only [meets_ite, meets_pure]
    refine ⟨fun _ => hsame rfl, fun hsensor => ⟨fun _ => hsame rfl, fun htarget => ?_⟩⟩
    simp only [meets_bind]
    refine meets_statement_at rfl hclean (fun _ db' h hclean => ?_) fun _ fs => hsame rfl
    have hposted : Posted d cfg req .exportTarget w db' := by
      simp only [Option.bind_eq_bind, Option.bind_eq_some_iff, Option.pure_def, Option.some.injEq,
        Prod.mk.injEq] at h
      obtain ⟨-, -, id', hid', rows, hrows, -, rfl⟩ := h
      have hupdates := upsertRow_updates hrows
      refine Or.inr ⟨body, id, ⟨hadmin, hbody, hid, hclean, id', hid', f, hf, ?_, ?_,
        Option.isSome_iff_exists.mpr ⟨rows, hupdates⟩⟩, ?_⟩
      · simpa [Option.isSome_iff_ne_none] using hsensor
      · simpa [Option.isSome_iff_ne_none] using htarget
      · exact configsAfter_upsert hstores hid' rfl rfl
          (view_upsertRow hupdates (fun _ => rfl) (fun _ _ => view_assignExportTarget) rfl)
          (configs_exportTargets _)
    unfold reload
    simp only [meets_ite, logEffect, meets_modify, meets_pure]
    exact ⟨fun _ => meets_select (fun _ => hposted) fun _ => hposted,
      fun _ => meets_select (fun _ => hposted) fun _ => hposted⟩

/-- `POST /weather-stations` does what is said of a post, however it ends. -/
theorem posted_weatherStation (hstores : StoresTexts d.server)
    (hclean : Clean (gateCalls cfg req) w.dbFaults) :
    Meets (postWeatherStation d cfg req) (admitted cfg req w)
      (fun _ w' => Posted d cfg req .weatherStation w w'.db)
      fun _ w' => Posted d cfg req .weatherStation w w'.db := by
  have hsame : ∀ {db'}, db' = w.db → Posted d cfg req .weatherStation w db' := by
    rintro _ rfl
    exact Or.inl fun _ => rfl
  refine meets_adminOnly_at rfl hclean (fun hclean hadmin => ?_) fun _ fs => hsame rfl
  unfold withBody
  cases hbody : d.json.parse req.body with
  | none => exact hsame rfl
  | some body =>
    rw [meets_ite]
    refine ⟨fun _ => hsame rfl, fun _ => ?_⟩
    simp only [orError, meets_tryCatch, meets_bind, meets_pure]
    refine meets_connect_at rfl hclean (fun hclean => ?_) fun _ fs => hsame rfl
    refine meets_getString (fun id hid => ?_) fun _ => hsame rfl
    rw [meets_liftExcept]
    refine ⟨fun f hf => ?_, fun _ _ => hsame rfl⟩
    refine meets_statement_at rfl hclean (fun _ db' h hclean => ?_) fun _ fs => hsame rfl
    have hposted : Posted d cfg req .weatherStation w db' := by
      simp only [Option.bind_eq_bind, Option.bind_eq_some_iff, Option.pure_def, Option.some.injEq,
        Prod.mk.injEq] at h
      obtain ⟨id', hid', rows, hrows, -, rfl⟩ := h
      have hupdates := upsertRow_updates hrows
      refine Or.inr ⟨body, id, ⟨hadmin, hbody, hid, hclean, id', hid', f, hf,
        Option.isSome_iff_exists.mpr ⟨rows, hupdates⟩⟩, ?_⟩
      exact configsAfter_upsert hstores hid' rfl rfl
        (view_upsertRow hupdates (fun _ => rfl) (fun _ _ => view_assignWeatherStation) rfl)
        (configs_weatherStations _)
    exact meets_select (fun _ => hposted) fun _ => hposted

/-! ## The other requests -/

/-- The requests on the two tables, but for those that delete a row. -/
def Endpoint.onConfigs : Endpoint → Bool
  | .listWeatherStations | .getWeatherStation _ | .weatherStationReadings _ | .postWeatherStation
  | .patchWeatherStation _ | .pollWeatherStation _ | .listExportTargets | .getExportTarget _
  | .exportTargetLog _ | .postExportTarget | .patchExportTarget _ | .runExportTarget _ => true
  | _ => false

/-- The endpoint that posts a row of the kind. -/
def postOf : ConfigKind → Endpoint
  | .exportTarget => .postExportTarget
  | .weatherStation => .postWeatherStation

/-- The endpoint that patches the row of the kind with this id. -/
def patchOf : ConfigKind → String → Endpoint
  | .exportTarget => .patchExportTarget
  | .weatherStation => .patchWeatherStation

/-- A new weather reading changes no config. -/
theorem configs_insertWeatherReading {r : WeatherReadingRow} :
    Keeps (Shows configs) (insertWeatherReading d.server r) :=
  insertWeatherReading_frame shows_ignoresFaults fun _ _ _ => rfl

/-- A moved watermark changes no config. -/
theorem configs_setExportWatermark {id ts : String} :
    Keeps (Shows configs) (setExportWatermark d.server id ts) := by
  refine shows_statement fun s a db' h => ?_
  simp only [Option.bind_eq_bind, Option.bind_eq_some_iff, Option.pure_def, Option.some.injEq,
    Prod.mk.injEq] at h
  obtain ⟨ts', -, rows, hrows, -, rfl⟩ := h
  have hview :=
    view_updateWhere (v := fun r : ExportTargetRow => (r.id, r.config)) (f := fun c => c) hrows
    (fun _ => rfl) fun r r' hr' => by
      obtain rfl := Option.some.inj hr'
      rfl
  funext k
  cases k with
  | weatherStation => rfl
  | exportTarget =>
    show rows.map _ = _
    rw [hview]
    unfold rewrite
    simp [configs]

/-- Of a run only the write of the watermark touches the table. -/
theorem configs_runExport (t : ExportTargetRow) : Keeps (Shows configs) (runExport d t) := by
  have hlogging : ∀ {w w' : World}, logging.rel w w' → configs w'.db = configs w.db := by
    intro w w' h
    have hdb : { w'.db with exportLog := [], next := {} } = { w.db with exportLog := [], next := {} } :=
      h.1
    have hshown := congrArg (fun db : Db => configs db) hdb
    exact hshown
  rw [runExport_steps]
  refine keeps_bind ((logging_queryFresh t).weaken fun _ _ => hlogging) fun found => ?_
  cases found with
  | none => exact keeps_pure _
  | some work =>
    exact keeps_bind ((logging_push t work).weaken fun _ _ => hlogging) fun res =>
      keeps_bind configs_setExportWatermark fun _ => keeps_pure _

/-- An endpoint other than the posts and patches of the two kinds changes no config. -/
theorem configs_handle {e : Endpoint} (he : e.onConfigs = true) (hpost : ∀ k, e ≠ postOf k)
    (hpatch : ∀ k id, e ≠ patchOf k id) : Keeps (Shows configs) (handle d cfg e req) := by
  cases e with
  | postWeatherStation => exact absurd rfl (hpost .weatherStation)
  | postExportTarget => exact absurd rfl (hpost .exportTarget)
  | patchWeatherStation id => exact absurd rfl (hpatch .weatherStation id)
  | patchExportTarget id => exact absurd rfl (hpatch .exportTarget id)
  | pollWeatherStation id =>
    refine shows_adminOnly (shows_orError (keeps_bind (shows_ask _) fun _ =>
      keeps_bind (shows_ask _) fun found => ?_))
    cases found with
    | none => exact keeps_pure _
    | some s =>
      exact keeps_ite (keeps_pure _) (keeps_bind (keeps_liftExcept _) fun provider =>
        keeps_bind (shows_fetch provider) fun r => keeps_bind configs_insertWeatherReading fun _ =>
          keeps_pure _)
  | runExportTarget id =>
    refine shows_adminOnly (shows_orError (keeps_bind (shows_ask _) fun _ =>
      keeps_bind (shows_ask _) fun found => ?_))
    cases found with
    | none => exact keeps_pure _
    | some t => exact keeps_bind (configs_runExport t) fun _ => keeps_pure _
  | listWeatherStations | getWeatherStation | weatherStationReadings | listExportTargets
  | getExportTarget | exportTargetLog => exact Quiet.shows (quiet_handle rfl req)
  | _ => cases he

/-! ## Every request -/

/-- What became of the configs in a request on the two tables. -/
inductive ConfigOutcome (d : Deps) (cfg : ApiConfig) (req : Request) (w : World) (db' : Db) : Prop
  | kept (h : ∀ k, configs db' k = configs w.db k)
  | patched (k : ConfigKind) (id : String) (hroute : route req = some (patchOf k id)) (body : Json)
      (hbody : d.json.parse req.body = some body)
      (h : ConfigsAfter d.server k id (mergedText d w.db k id body) w.db db')
  | posted (k : ConfigKind) (hroute : route req = some (postOf k)) (body : Json) (id : String)
      (hposts : Posts d cfg req w k body id)
      (h : ConfigsAfter d.server k id (givenConfig d body) w.db db')

/-- A patch is one of the outcomes of a request. -/
theorem Patched.outcome {k : ConfigKind} {id : String} {db' : Db}
    (hroute : route req = some (patchOf k id)) (h : Patched d req k id w.db db') :
    ConfigOutcome d cfg req w db' := by
  rcases h with hsame | ⟨body, hbody, h⟩
  · exact .kept hsame
  · exact .patched k id hroute body hbody h

/-- A post is one of the outcomes of a request. -/
theorem Posted.outcome {k : ConfigKind} {db' : Db} (hroute : route req = some (postOf k))
    (h : Posted d cfg req k w db') : ConfigOutcome d cfg req w db' := by
  rcases h with hsame | ⟨body, id, hposts, h⟩
  · exact .kept hsame
  · exact .posted k hroute body id hposts h

/-- Every handler that may touch a config ends in one of the outcomes. -/
theorem configOutcome_handle (hstores : StoresTexts d.server)
    (hclean : Clean (gateCalls cfg req) w.dbFaults) {e : Endpoint} (hroute : route req = some e)
    (he : e.onConfigs = true) :
    Meets (handle d cfg e req) (admitted cfg req w) (fun _ w' => ConfigOutcome d cfg req w w'.db)
      fun _ w' => ConfigOutcome d cfg req w w'.db := by
  by_cases hpost : ∃ k, e = postOf k
  · obtain ⟨k, rfl⟩ := hpost
    cases k with
    | exportTarget =>
      exact (posted_exportTarget hstores hclean).mono
        (fun _ _ h => h.outcome hroute) fun _ _ h => h.outcome hroute
    | weatherStation =>
      exact (posted_weatherStation hstores hclean).mono
        (fun _ _ h => h.outcome hroute) fun _ _ h => h.outcome hroute
  · by_cases hpatch : ∃ k id, e = patchOf k id
    · obtain ⟨k, id, rfl⟩ := hpatch
      cases k with
      | exportTarget =>
        exact (patched_exportTarget (w := admitted cfg req w) hstores).mono
          (fun _ _ h => Patched.outcome hroute h) fun _ _ h => Patched.outcome hroute h
      | weatherStation =>
        exact (patched_weatherStation (w := admitted cfg req w) hstores).mono
          (fun _ _ h => Patched.outcome hroute h) fun _ _ h => Patched.outcome hroute h
    · have hkeeps : Keeps (Shows configs) (handle d cfg e req) :=
        configs_handle he (fun k hk => hpost ⟨k, hk⟩) fun k id hk => hpatch ⟨k, id, hk⟩
      have hkept : ∀ w' : World, configs w'.db = configs w.db → ConfigOutcome d cfg req w w'.db :=
        fun _ h => .kept fun k => congrFun h k
      exact (hkeeps.meets _).mono (fun _ w' => hkept w') fun _ w' => hkept w'

/-- So does the whole request, its gate included. -/
theorem serve_configs (hstores : StoresTexts d.server) {e : Endpoint} (hroute : route req = some e)
    (he : e.onConfigs = true) : ConfigOutcome d cfg req w (endState (serve d cfg req w)).db := by
  refine Meets.endState (P := fun w' : World => ConfigOutcome d cfg req w w'.db) ?_
  unfold serve
  simp only [meets_tryCatch, meets_bind, meets_pure]
  refine meets_gate_at (fun hclean => ?_) fun res fs => ConfigOutcome.kept fun _ => rfl
  cases webFile cfg req with
  | some res => exact ConfigOutcome.kept fun _ => rfl
  | none =>
    rw [hroute]
    exact configOutcome_handle hstores hclean hroute he

end NightWatcher.Api
