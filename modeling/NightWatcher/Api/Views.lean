import NightWatcher.Api.Configs

/-!
# Masked views, written back

Clients read the rows of the two tables and send configs of them back, edited
where nothing is secret. `Clients` is the daemon with what each client was shown;
a turn is one request of one client. A PATCH then leaves every secret as it was,
since a mask merged into a config changes nothing. A POST does not merge: it puts
the mask in the place of the secret (`mask_stored`).
-/

namespace NightWatcher.Api

open Throwing Database Daemon Transcript

variable {d : Deps} {cfg : ApiConfig} {req : Request} {w : World}

/-! ## What a response shows -/

/-- A row in a response: its id and its config. -/
def shownRow (j : Json) : Option (String × Json) :=
  match j.member? "id", j.member? "config" with
  | some (.str id), some config => some (id, config)
  | _, _ => none

/-- The rows of a response, one or a list. -/
def shownRows : Json → List (String × Json)
  | .arr js => js.filterMap shownRow
  | j => (shownRow j).toList

/-- The endpoints that serve rows with a config. -/
def Endpoint.shows : Endpoint → Option ConfigKind
  | .listExportTargets | .getExportTarget _ => some .exportTarget
  | .listWeatherStations | .getWeatherStation _ => some .weatherStation
  | _ => none

/-- The configs a client receives from GET, by table and id. -/
def views (req : Request) (res : Response) : List (ConfigKind × String × Json) :=
  match req.method, (route req).bind Endpoint.shows, res.content with
  | .get, some k, .json j => (shownRows j).map fun row => (k, row)
  | _, _, _ => []

/-- Each view is the masked config of a row. -/
def ShowsMasked (d : Deps) (db : Db) (vs : List (ConfigKind × String × Json)) : Prop :=
  ∀ k id config, (k, id, config) ∈ vs → ∃ c, (id, c) ∈ configs db k ∧ config = maskConfig d c

/-- The row of an export target shows its masked config. -/
theorem shownRow_exportTarget (t : ExportTargetRow) :
    shownRow (exportTargetJson d t) = some (t.id, maskConfig d t.config) := by
  unfold shownRow exportTargetJson
  simp [Json.member?_ofMembers]

/-- The row of a weather station shows its masked config. -/
theorem shownRow_weatherStation (s : WeatherStationRow) :
    shownRow (weatherStationJson d s) = some (s.id, maskConfig d s.config) := by
  unfold shownRow weatherStationJson
  simp [Json.member?_ofMembers]

/-- A config seen in a JSON answer is one of its rows, on an endpoint that shows the kind. -/
theorem views_json {res : Response} {k : ConfigKind} {id : String} {config j : Json}
    (hres : res.content = .json j) (h : (k, id, config) ∈ views req res) :
    (route req).bind Endpoint.shows = some k ∧ (id, config) ∈ shownRows j := by
  unfold views at h
  rw [hres] at h
  split at h
  next k' j' _ hk hj =>
    cases hj
    obtain ⟨row, hrow, hv⟩ := List.mem_map.mp h
    cases hv
    exact ⟨hk, hrow⟩
  next => cases h

/-- An error shows no row. -/
theorem views_sendErr {db : Db} {status : Nat} {msg : String} :
    ShowsMasked d db (views req (sendErr status msg)) := by
  intro k id config h
  have hrows := (views_json rfl h).2
  simp [shownRows, Json.ofMembers, Json.setMember, shownRow, Json.member?, Json.findMember] at hrows

/-- An answer that is no JSON shows no config. -/
theorem views_other {db : Db} {res : Response} (hres : ∀ j, res.content ≠ .json j) :
    ShowsMasked d db (views req res) := by
  intro k id config h
  unfold views at h
  split at h
  next j _ _ hj => exact absurd hj (hres j)
  next => cases h

/-- An endpoint that shows no configs shows none. -/
theorem views_unshown {db : Db} {res : Response} (hroute : (route req).bind Endpoint.shows = none) :
    ShowsMasked d db (views req res) := by
  intro k id config h
  unfold views at h
  rw [hroute] at h
  split at h
  next hk _ => cases hk
  next => cases h

/-- What a handler that reads the database answers, if it does not fail. -/
theorem meets_dbRead {q : Query Response} {Q : Response → World → Prop} {E : String → World → Prop}
    (hq : ∀ fs, Meets (ask q) (w.withFaults fs) Q fun e => Q (sendErr 500 e))
    (herr : ∀ e fs, Q (sendErr 500 e) (w.withFaults fs)) : Meets (dbRead q) w Q E := by
  unfold dbRead orError
  simp only [meets_tryCatch, meets_bind, meets_pure]
  exact meets_ask (fun _ fs => hq fs) fun e fs => herr e fs

section Rows

variable {ρ : Type} {v : ρ → String × String} {json : ρ → Json} {rows : List ρ} {db : Db}
  {k : ConfigKind}

/-- A list of rows, as the endpoint of their table serves it. -/
theorem showsMasked_list (hk : (route req).bind Endpoint.shows = some k)
    (hrows : configs db k = rows.map v)
    (hjson : ∀ r, shownRow (json r) = some ((v r).1, maskConfig d (v r).2)) {served : List ρ}
    (hserved : ∀ r ∈ served, r ∈ rows) :
    ShowsMasked d db (views req (send 200 (.arr (served.map json)))) := by
  intro k' id config h
  obtain ⟨hk', hrow⟩ := views_json rfl h
  obtain rfl := Option.some.inj (hk.symm.trans hk')
  obtain ⟨j, hj, hshown⟩ := List.mem_filterMap.mp hrow
  obtain ⟨r, hr, rfl⟩ := List.mem_map.mp hj
  rw [hjson r] at hshown
  cases hshown
  rw [hrows]
  exact ⟨(v r).2, List.mem_map_of_mem (hserved r hr), rfl⟩

/-- An answer of one row shows its masked config. -/
theorem showsMasked_row (hk : (route req).bind Endpoint.shows = some k)
    (hrows : configs db k = rows.map v) {r : ρ} (hr : r ∈ rows)
    (hjson : shownRow (json r) = some ((v r).1, maskConfig d (v r).2))
    (hone : shownRows (json r) = (shownRow (json r)).toList) :
    ShowsMasked d db (views req (send 200 (json r))) := by
  intro k' id config h
  obtain ⟨hk', hrow⟩ := views_json rfl h
  obtain rfl := Option.some.inj (hk.symm.trans hk')
  rw [hone, hjson] at hrow
  cases List.mem_singleton.mp hrow
  rw [hrows]
  exact ⟨(v r).2, List.mem_map_of_mem hr, rfl⟩

end Rows

/-- The endpoints that show configs show masked ones. -/
theorem shows_handle {e : Endpoint} {k : ConfigKind} (hroute : route req = some e)
    (he : e.shows = some k) :
    Meets (handle d cfg e req) w (fun res _ => ShowsMasked d w.db (views req res)) fun _ _ =>
      False := by
  have hk : (route req).bind Endpoint.shows = some k := by rw [hroute, Option.bind_some, he]
  cases e with
  | listExportTargets =>
    cases he
    refine meets_dbRead (fun fs => ?_) fun _ _ => views_sendErr
    rw [ask_bind, meets_bind]
    refine meets_select (fun fs => ?_) fun fs => views_sendErr
    exact showsMasked_list hk rfl shownRow_exportTarget fun r hr => List.mem_mergeSort.mp hr
  | getExportTarget id =>
    cases he
    refine meets_dbRead (fun fs => ?_) fun _ _ => views_sendErr
    rw [ask_bind, meets_bind]
    refine meets_select (fun fs => ?_) fun fs => views_sendErr
    dsimp only
    cases hfind : w.db.exportTargets.find? fun r => d.server.same r.id id with
    | none => exact views_sendErr
    | some t =>
      exact showsMasked_row hk rfl (List.mem_of_find?_eq_some hfind) (shownRow_exportTarget t) rfl
  | listWeatherStations =>
    cases he
    refine meets_dbRead (fun fs => ?_) fun _ _ => views_sendErr
    rw [ask_bind, meets_bind]
    refine meets_select (fun fs => ?_) fun fs => views_sendErr
    exact showsMasked_list hk rfl shownRow_weatherStation fun r hr => List.mem_mergeSort.mp hr
  | getWeatherStation id =>
    cases he
    refine meets_dbRead (fun fs => ?_) fun _ _ => views_sendErr
    rw [ask_bind, meets_bind]
    refine meets_select (fun fs => ?_) fun fs => views_sendErr
    dsimp only
    cases hfind : w.db.weatherStations.find? fun r => d.server.same r.id id with
    | none => exact views_sendErr
    | some s =>
      exact showsMasked_row hk rfl (List.mem_of_find?_eq_some hfind) (shownRow_weatherStation s) rfl
  | _ => cases he

/-- A file of the web page is no JSON. -/
theorem webFile_content {res : Response} (h : webFile cfg req = some res) (j : Json) :
    res.content ≠ .json j := by
  unfold webFile at h
  split at h
  · obtain ⟨text, -, rfl⟩ := Option.map_eq_some_iff.mp h
    exact nofun
  · obtain ⟨text, -, rfl⟩ := Option.map_eq_some_iff.mp h
    exact nofun
  · cases h

/-- However a request ends, the configs in its answer are masked rows of the tables. -/
theorem serve_shows :
    Meets (serve d cfg req) w (fun res _ => ShowsMasked d w.db (views req res)) fun _ _ => True := by
  unfold serve
  simp only [meets_tryCatch, meets_bind, meets_pure]
  refine meets_gate (fun fs => ?_) fun status msg fs => views_sendErr
  cases hfile : webFile cfg req with
  | some res => exact views_other fun j hj => webFile_content hfile j hj
  | none =>
    cases hroute : route req with
    | none => exact views_unshown (by rw [hroute]; rfl)
    | some e =>
      cases hshows : e.shows with
      | some k =>
        exact (shows_handle (w := w.withFaults fs) hroute hshows).mono (fun _ _ h => h)
          fun _ _ h => h.elim
      | none =>
        have hunshown : (route req).bind Endpoint.shows = none := by
          rw [hroute, Option.bind_some, hshows]
        exact meets_always (fun _ _ => views_unshown hunshown) fun _ _ => views_unshown hunshown

/-! ## Clients -/

/-- The daemon's world, and what each client received, the latest first. -/
structure Clients where
  world : World
  seen : List (Nat × ConfigKind × String × Json) := []

/-- A request of one client. -/
structure Turn extends Exchange where
  client : Nat

/-- The clients and the server after the turn. -/
def Clients.next (d : Deps) (cfg : ApiConfig) (s : Clients) (t : Turn) : Clients :=
  match serve d cfg t.req (s.world.facing t.outside) with
  | .ok res w => { world := w, seen := (views t.req res).map (fun v => (t.client, v)) ++ s.seen }
  | .error _ w => { s with world := w }

/-- The config a client last received for an id. -/
def Clients.lastSeen (srv : Server) (s : Clients) (client : Nat) (k : ConfigKind) (id : String) :
    Option Json :=
  (s.seen.find? fun v => v.1 = client ∧ v.2.1 = k ∧ srv.same v.2.2.1 id).map fun v => v.2.2.2

/-- The row a request gives a config to. -/
inductive Addresses (req : Request) (body : Json) (k : ConfigKind) (id : String) : Prop
  | post (hroute : route req = some (postOf k)) (hid : body.member? "id" = some (.str id))
  | patch (hroute : route req = some (patchOf k id))

/-- A view edited, but for its secret-named texts. -/
def Edited (view config : Json) : Prop :=
  ∀ p s, SecretPath p → view.at? p = some (.str s) → config.at? p = some (.str s)

/-- The printed value reads back with the same texts in it. -/
def Printed (d : Deps) (j : Json) : Prop :=
  d.json.dump j ≠ "" ∧ ∃ j', d.json.parse (d.json.dump j) = some j' ∧
    ∀ p s, j.at? p = some (.str s) → j'.at? p = some (.str s)

/-- A stored config as the merge reads it. -/
def storedJson (d : Deps) (c : String) : Json :=
  if c = "" then .obj [] else (d.json.parse c).getD (.obj [])

/-- A request on the two tables that deletes nothing; a config in it is the one its client
last received for that id, with edits, and what it may have stored reads back. -/
structure Clients.Echoes (d : Deps) (s : Clients) (t : Turn) : Prop where
  endpoint : ∃ e, route t.req = some e ∧ e.onConfigs = true
  edited : ∀ body config k id, d.json.parse t.req.body = some body →
    body.member? "config" = some config → Addresses t.req body k id →
    ∃ view, s.lastSeen d.server t.client k id = some view ∧ Edited view config
  posted : ∀ body config k, d.json.parse t.req.body = some body →
    body.member? "config" = some config → route t.req = some (postOf k) → Printed d config
  merged : ∀ body config k id, d.json.parse t.req.body = some body →
    body.member? "config" = some config → route t.req = some (patchOf k id) →
    ∀ e ∈ configs s.world.db k, d.server.same e.1 id = true →
      Printed d (mergeConfigJson (storedJson d e.2) config)

/-! ## Secrets of a table -/

/-- A secret of a stored config. -/
def SecretOf (d : Deps) (c : String) (p : List String) (s : String) : Prop :=
  c ≠ "" ∧ ∃ j, d.json.parse c = some j ∧ Secret j p s

/-- Every row has the secrets it had. -/
def SecretsKept (d : Deps) (k : ConfigKind) (db db' : Db) : Prop :=
  ∀ id c, (id, c) ∈ configs db k → ∃ c', (id, c') ∈ configs db' k ∧
    ∀ p s, SecretOf d c p s → SecretOf d c' p s

/-- A POST that goes through has a config for a row that holds a secret. -/
def PostsOver (d : Deps) (cfg : ApiConfig) (req : Request) (w : World) : Prop :=
  ∃ k body id ms e p s, route req = some (postOf k) ∧ Posts d cfg req w k body id ∧
    body.member? "config" = some (.obj ms) ∧ e ∈ configs w.db k ∧ d.server.same e.1 id = true ∧
    SecretOf d e.2 p s ∧ s ≠ "***"

/-- `PRIMARY KEY (id)` -/
def UniqueIds (srv : Server) (rows : List (String × String)) : Prop :=
  (rows.map fun e => srv.collate e.1).Nodup

/-- Two rows of the same id are one row. -/
theorem UniqueIds.eq {srv : Server} {rows : List (String × String)} (h : UniqueIds srv rows)
    {a b : String × String} (ha : a ∈ rows) (hb : b ∈ rows) (hab : srv.same a.1 b.1 = true) : a = b :=
  List.inj_on_of_nodup_map h ha hb (same_iff.mp hab)

/-- A row is found rewritten. -/
theorem mem_rewrite {srv : Server} {id : String} {f : String → String} {rows : List (String × String)}
    {i c : String} (h : (i, c) ∈ rows) :
    (i, if srv.same i id then f c else c) ∈ rewrite srv id f rows := by
  refine List.mem_map.mpr ⟨(i, c), h, ?_⟩
  dsimp only
  split
  · rfl
  · rfl

/-- Rewriting configs keeps the ids unique. -/
theorem UniqueIds.rewritten {srv : Server} {id : String} {f : String → String}
    {rows : List (String × String)} (h : UniqueIds srv rows) :
    UniqueIds srv (rewrite srv id f rows) := by
  have hmap : (rewrite srv id f rows).map (fun e => srv.collate e.1)
      = rows.map fun e => srv.collate e.1 := by
    unfold rewrite
    rw [List.map_map]
    refine List.map_congr_left fun e _ => ?_
    show srv.collate (if srv.same e.1 id then (e.1, f e.2) else e).1 = srv.collate e.1
    split
    · rfl
    · rfl
  unfold UniqueIds
  rw [hmap]
  exact h

/-- A row under a new id keeps the ids unique. -/
theorem UniqueIds.append {srv : Server} {id c : String} {rows : List (String × String)}
    (h : UniqueIds srv rows) (hnew : ∀ e ∈ rows, srv.same e.1 id = false) :
    UniqueIds srv (rows ++ [(id, c)]) := by
  unfold UniqueIds
  rw [List.map_append, List.map_singleton, List.nodup_append]
  refine ⟨h, List.nodup_singleton _, fun x hx y hy => ?_⟩
  obtain ⟨e, he, rfl⟩ := List.mem_map.mp hx
  rw [List.mem_singleton.mp hy]
  intro heq
  have hsame := hnew e he
  rw [same_iff.mpr heq] at hsame
  cases hsame

/-- What one row's write preserves: unique ids, and secrets if the new text has those of the
row it is stored in. -/
theorem configsAfter_keeps {k : ConfigKind} {id : String} {text : Option String} {db0 db db' : Db}
    (h : ConfigsAfter d.server k id text db db')
    (hids : ∀ k, UniqueIds d.server (configs db k)) (hkept : ∀ k, SecretsKept d k db0 db)
    (htext : ∀ i c0 c t, (i, c0) ∈ configs db0 k → (i, c) ∈ configs db k →
      d.server.same i id = true → text = some t →
      (∀ p s, SecretOf d c0 p s → SecretOf d c p s) → ∀ p s, SecretOf d c0 p s → SecretOf d t p s) :
    (∀ k, UniqueIds d.server (configs db' k)) ∧ ∀ k, SecretsKept d k db0 db' := by
  -- where the rows of the kind are the same, so is everything said of them
  have hother : ∀ k', configs db' k' = configs db k' →
      UniqueIds d.server (configs db' k') ∧ SecretsKept d k' db0 db' := by
    intro k' hsame
    have hk' := hkept k'
    unfold SecretsKept at hk' ⊢
    rw [hsame]
    exact ⟨hids k', hk'⟩
  suffices hall : ∀ k', UniqueIds d.server (configs db' k') ∧ SecretsKept d k' db0 db' from
    ⟨fun k' => (hall k').1, fun k' => (hall k').2⟩
  cases h with
  | same hsame => exact fun k' => hother k' (hsame k')
  -- the edited row has the merged text, the other rows their own
  | edited id' hid f hf hrows hothers =>
    intro k'
    by_cases hk : k' = k
    · subst hk
      rw [hrows]
      refine ⟨(hids k').rewritten, fun i c0 hc0 => ?_⟩
      rw [hrows]
      obtain ⟨c, hc, hsecrets⟩ := hkept k' i c0 hc0
      refine ⟨_, mem_rewrite hc, fun p s hs => ?_⟩
      by_cases hsame : d.server.same i id' = true
      · rw [if_pos hsame]
        rcases hf c with hfc | hfc
        · rw [hfc]
          exact hsecrets p s hs
        · have hid' : d.server.same i id = true := by
            simp only [Server.same, decide_eq_true_eq] at hsame hid ⊢
            exact hsame.trans hid
          exact htext i c0 c _ hc0 hc hid' hfc.symm hsecrets p s hs
      · rw [if_neg hsame]
        exact hsecrets p s hs
    · exact hother k' (hothers k' hk)
  -- a new row has no secret that was there before
  | created id' c hnew hrows hothers =>
    intro k'
    by_cases hk : k' = k
    · subst hk
      refine ⟨?_, fun i c0 hc0 => ?_⟩
      · rw [hrows]
        exact (hids k').append hnew
      · obtain ⟨c', hc', hsecrets⟩ := hkept k' i c0 hc0
        rw [hrows]
        exact ⟨c', List.mem_append_left _ hc', hsecrets⟩
    · exact hother k' (hothers k' hk)

/-! ## One turn -/

/-- The start's secrets are there, and every view received has a mask in the place of each. -/
structure Clients.Sound (d : Deps) (db0 : Db) (s : Clients) : Prop where
  ids : ∀ k, UniqueIds d.server (configs s.world.db k)
  kept : ∀ k, SecretsKept d k db0 s.world.db
  masked : ∀ client k id view i c, (client, k, id, view) ∈ s.seen → (i, c) ∈ configs db0 k →
    d.server.same i id = true → ∀ p s, SecretOf d c p s → view.at? p = some (.str "***")

/-- A secret shows as three stars. -/
theorem SecretOf.masked {c : String} {p : List String} {s : String} (h : SecretOf d c p s) :
    (maskConfig d c).at? p = some (.str "***") := by
  obtain ⟨hne, j, hj, hsecret⟩ := h
  obtain ⟨ms, rfl⟩ : ∃ ms, j = .obj ms := by
    cases p with
    | nil => exact absurd rfl hsecret.path.ne_nil
    | cons k ks => exact Json.at?_isObject hsecret.value
  unfold maskConfig
  rw [if_neg hne, hj]
  exact at?_maskConfigJson hsecret

/-- Merging what has a mask in the place of a secret keeps it. -/
theorem SecretOf.merged {c : String} {p : List String} {s : String} {config : Json}
    (h : SecretOf d c p s) (hkeyed : config.Keyed) (hmask : config.at? p = some (.str "***"))
    (hprinted : Printed d (mergeConfigJson (storedJson d c) config)) :
    SecretOf d (mergeConfig d c config) p s := by
  obtain ⟨hne, j, hj, hsecret⟩ := h
  have hstored : storedJson d c = j := by
    unfold storedJson
    rw [if_neg hne, hj]
    rfl
  obtain ⟨hdump, j', hj', htexts⟩ := hprinted
  refine ⟨hdump, j', hj', hsecret.path, htexts p s ?_, hsecret.given⟩
  rw [hstored]
  exact at?_mergeConfigJson hsecret.path hkeyed hsecret.value hmask

/-- A config in a request has a mask wherever its row has a secret. -/
theorem Clients.Sound.config {db0 : Db} {s : Clients} {t : Turn} {body config : Json}
    {k : ConfigKind} {id i c : String} (hs : s.Sound d db0) (ht : s.Echoes d t)
    (hbody : d.json.parse t.req.body = some body) (hconfig : body.member? "config" = some config)
    (haddr : Addresses t.req body k id) (hrow : (i, c) ∈ configs db0 k)
    (hid : d.server.same i id = true) {p : List String} {x : String} (hx : SecretOf d c p x) :
    config.at? p = some (.str "***") := by
  obtain ⟨view, hview, hedited⟩ := ht.edited body config k id hbody hconfig haddr
  obtain ⟨⟨client, k', id', view'⟩, hfind, rfl⟩ := Option.map_eq_some_iff.mp hview
  have hmem := List.mem_of_find?_eq_some hfind
  have hpred := List.find?_some hfind
  simp only [decide_eq_true_eq] at hpred
  obtain ⟨-, rfl, hsame⟩ := hpred
  have hid' : d.server.same i id' = true :=
    same_iff.mpr ((same_iff.mp hid).trans (same_iff.mp hsame).symm)
  have hpath : SecretPath p := hx.2.elim fun _ h => h.2.path
  exact hedited p "***" hpath (hs.masked client k' id' view' i c hmem hrow hid' p x hx)

/-- A turn that posts over no row keeps what the clients rely on, in the tables. -/
theorem Clients.Sound.turn (hstores : StoresTexts d.server)
    (hkeyed : ∀ text j, d.json.parse text = some j → j.Keyed) {db0 : Db} {s : Clients} {t : Turn}
    (ht : s.Echoes d t) (hposts : ¬PostsOver d cfg t.req (s.world.facing t.outside))
    (hs : s.Sound d db0) :
    (∀ k, UniqueIds d.server (configs (exchange d cfg s.world t.toExchange).db k)) ∧
      ∀ k, SecretsKept d k db0 (exchange d cfg s.world t.toExchange).db := by
  obtain ⟨e, hroute, he⟩ := ht.endpoint
  have hconfigKeyed : ∀ {body config}, d.json.parse t.req.body = some body →
      body.member? "config" = some config → config.Keyed := by
    intro body config hbody hconfig
    obtain ⟨ms, rfl⟩ : ∃ ms, body = .obj ms := by
      cases body with
      | obj ms => exact ⟨ms, rfl⟩
      | _ => cases hconfig
    exact (hkeyed _ _ hbody).member hconfig
  have houtcome : ConfigOutcome d cfg t.req (s.world.facing t.outside)
      (exchange d cfg s.world t.toExchange).db := serve_configs hstores hroute he
  cases houtcome with
  | kept h =>
    have hsame : ConfigsAfter d.server .exportTarget "" none s.world.db _ := .same h
    exact configsAfter_keeps hsame hs.ids hs.kept nofun
  | patched k id hroute body hbody h =>
    refine configsAfter_keeps h hs.ids hs.kept fun i c0 c text hc0 hc hid htext hsecrets p x hx => ?_
    obtain ⟨config, hconfig, hfind⟩ := Option.bind_eq_some_iff.mp htext
    obtain ⟨e, hfound, rfl⟩ := Option.map_eq_some_iff.mp hfind
    have hmem := List.mem_of_find?_eq_some hfound
    have hsame : d.server.same e.1 id = true := by simpa using List.find?_some hfound
    -- the row found is the row written
    obtain rfl : e = (i, c) :=
      (hs.ids k).eq hmem hc (same_iff.mpr ((same_iff.mp hsame).trans (same_iff.mp hid).symm))
    have haddr : Addresses t.req body k id := .patch hroute
    exact (hsecrets p x hx).merged (hconfigKeyed hbody hconfig)
      (hs.config ht hbody hconfig haddr hc0 hid hx)
      (ht.merged body config k id hbody hconfig hroute (i, c) hmem hsame)
  | posted k hroute body id hposted h =>
    refine configsAfter_keeps h hs.ids hs.kept fun i c0 c text hc0 hc hid htext hsecrets p x hx => ?_
    have hbody := hposted.parsed
    obtain ⟨ms, hconfig, rfl⟩ : ∃ ms, body.member? "config" = some (.obj ms) ∧
        text = d.json.dump (.obj ms) := by
      unfold givenConfig at htext
      split at htext
      next ms hms => exact ⟨ms, hms, (Option.some.inj htext).symm⟩
      next => cases htext
    have haddr : Addresses t.req body k id := .post hroute hposted.named
    -- a secret that a POST may replace is a mask already
    obtain rfl : x = "***" := by
      by_contra hne
      exact hposts ⟨k, body, id, ms, (i, c), p, x, hroute, hposted, hconfig, hc, hid, hsecrets p x hx,
        hne⟩
    obtain ⟨hdump, j', hj', htexts⟩ := ht.posted body _ k hbody hconfig hroute
    have hmask := hs.config ht hbody hconfig haddr hc0 hid hx
    obtain ⟨-, _, -, hsecret⟩ := hx
    exact ⟨hdump, j', hj', hsecret.path, htexts p "***" hmask, hsecret.given⟩

/-- What a client is shown in a turn has a mask wherever the start has a secret. -/
theorem Clients.Sound.views {db0 : Db} {s : Clients} {t : Turn} {res : Response} {w : World}
    (hs : s.Sound d db0) (hserve : serve d cfg t.req (s.world.facing t.outside) = .ok res w)
    {k : ConfigKind} {id i c : String} {view : Json} (hview : (k, id, view) ∈ views t.req res)
    (hc : (i, c) ∈ configs db0 k) (hid : d.server.same i id = true) {p : List String} {x : String}
    (hx : SecretOf d c p x) : view.at? p = some (.str "***") := by
  have hshows : ShowsMasked d s.world.db (Api.views t.req res) :=
    (serve_shows (w := s.world.facing t.outside)).of_ok hserve
  obtain ⟨c', hc', rfl⟩ := hshows k id view hview
  obtain ⟨c'', hc'', hsecrets⟩ := hs.kept k i c hc
  obtain rfl : c'' = c' := congrArg Prod.snd ((hs.ids k).eq hc'' hc' hid)
  exact (hsecrets p x hx).masked

/-- It keeps it in the clients' views as well. -/
theorem Clients.Sound.next (hstores : StoresTexts d.server)
    (hkeyed : ∀ text j, d.json.parse text = some j → j.Keyed) {db0 : Db} {s : Clients} {t : Turn}
    (ht : s.Echoes d t) (hposts : ¬PostsOver d cfg t.req (s.world.facing t.outside))
    (hs : s.Sound d db0) : (s.next d cfg t).Sound d db0 := by
  obtain ⟨hids, hkept⟩ := hs.turn hstores hkeyed ht hposts
  have hworld : (s.next d cfg t).world = exchange d cfg s.world t.toExchange := by
    unfold Clients.next exchange
    cases serve d cfg t.req (s.world.facing t.outside) <;> rfl
  rw [← hworld] at hids hkept
  refine ⟨hids, hkept, fun client k id view i c hview hc hid p x hx => ?_⟩
  unfold Clients.next at hview
  cases hserve : serve d cfg t.req (s.world.facing t.outside) with
  | ok res w =>
    rw [hserve] at hview
    rcases List.mem_append.mp hview with hnew | hold
    · obtain ⟨v, hv, hview⟩ := List.mem_map.mp hnew
      cases hview
      exact hs.views hserve hv hc hid hx
    · exact hs.masked client k id view i c hold hc hid p x hx
  | error e w =>
    rw [hserve] at hview
    exact hs.masked client k id view i c hview hc hid p x hx

/-! ## Every run -/

/-- In a run in which no POST comes to a row with a secret, every secret of the start is
there in the end. -/
theorem secrets_survive (hstores : StoresTexts d.server)
    (hkeyed : ∀ text j, d.json.parse text = some j → j.Keyed) {w : World}
    (hids : ∀ k, UniqueIds d.server (configs w.db k)) {turns : List Turn}
    (hturns : Throughout (Clients.next d cfg) (fun s t => s.Echoes d t) { world := w } turns)
    (hposts : Throughout (Clients.next d cfg)
      (fun s t => ¬PostsOver d cfg t.req (s.world.facing t.outside)) { world := w } turns)
    (k : ConfigKind) :
    SecretsKept d k w.db (run (Clients.next d cfg) { world := w } turns).world.db := by
  have hstart : Clients.Sound d w.db { world := w } :=
    ⟨hids, fun k id c hc => ⟨c, hc, fun _ _ hx => hx⟩, nofun⟩
  have hend : (run (Clients.next d cfg) { world := w } turns).Sound d w.db :=
    run_preserves (fun _ _ ht hs => hs.next hstores hkeyed ht.1 ht.2)
      (throughout_and.mpr ⟨hturns, hposts⟩) hstart
  exact hend.kept k

/-! ### A POST of what was shown -/

def postText : String := "the row as it was shown"

def patchText : String := "the config with a folder"

def maskedConfig : Json := .obj [("token", .str "***")]

def editedConfig : Json := .obj [("folder", .str "b"), ("token", .str "***")]

def mergedConfig : Json := .obj [("folder", .str "b"), ("token", .str "s")]

def echoTexts : List (String × Json) :=
  [("stored", .obj [("token", .str "s")]), ("masked", maskedConfig), ("edited", editedConfig),
   ("merged", mergedConfig), (patchText, .obj [("config", editedConfig)]),
   (postText, .obj [("config", maskedConfig), ("id", .str "t1"), ("sensor_id", .str "s1"),
    ("target", .str "dsn")])]

/-- The printer, for the three configs above. -/
def echoDump (j : Json) : String :=
  match j.at? ["token"], j.contains "folder" with
  | some (.str "s"), _ => "merged"
  | _, true => "edited"
  | _, false => "masked"

def echoDeps : Deps :=
  { Deps.plain [] with
    json := ⟨fun s => (echoTexts.find? fun p => p.1 = s).map Prod.snd, echoDump⟩ }

def targetSite : World where
  db :=
    { sensors := [{ id := "s1", transport := .tcp, address := "10.0.0.7" }]
      exportTargets := [{ id := "t1", sensorId := "s1", target := "dsn", config := "stored" }] }

def readsTarget : Turn where
  client := 0
  req :=
    { method := .get, path := "/api/v1/export-targets/t1", headers := [("Authorization", "t")] }

def postsTarget : Turn where
  client := 0
  req :=
    { method := .post, path := "/api/v1/export-targets", body := postText
      headers := [("Authorization", "t")] }

def patchesTarget : Turn where
  client := 0
  req :=
    { method := .patch, path := "/api/v1/export-targets/t1", body := patchText
      headers := [("Authorization", "t")] }

theorem storesTexts_plain : StoresTexts Server.plain where
  text s s' h := (Option.some.inj h).symm
  key s s' h := by
    obtain rfl := Option.some.inj h
    exact same_iff.mpr rfl

theorem echoDeps_keyed (text : String) (j : Json) (h : echoDeps.json.parse text = some j) :
    j.Keyed := by
  obtain ⟨p, hp, rfl⟩ := Option.map_eq_some_iff.mp h
  have hmem : p ∈ echoTexts := List.mem_of_find?_eq_some hp
  have htext : ∀ s, (Json.str s).Keyed := fun s => .other rfl
  have hmasked : maskedConfig.Keyed := .of_members (by decide) (by simp [htext])
  have hedited : editedConfig.Keyed := .of_members (by decide) (by simp [htext])
  simp only [echoTexts, List.mem_cons, List.not_mem_nil, or_false] at hmem
  rcases hmem with rfl | rfl | rfl | rfl | rfl | rfl
  · exact .of_members (by decide) (by simp [htext])
  · exact hmasked
  · exact hedited
  · exact .of_members (by decide) (by simp [htext])
  · exact .of_members (by decide) (by simp [hedited])
  · exact .of_members (by decide) (by simp [htext, hmasked])

/-- Reading the targets needs no view. -/
theorem echoes_read : Clients.Echoes echoDeps { world := targetSite } readsTarget where
  endpoint := ⟨.getExportTarget "t1", rfl, rfl⟩
  edited _ _ _ _ hbody := by cases hbody
  posted _ _ _ hbody := by cases hbody
  merged _ _ _ _ hbody := by cases hbody

/-- What the client has of the target after reading it. -/
theorem seen_read : (Clients.next echoDeps tokenConfig { world := targetSite } readsTarget).lastSeen
    echoDeps.server 0 .exportTarget "t1" = some maskedConfig := by rfl

/-- The POST of what the client was shown. -/
theorem echoes_post : Clients.Echoes echoDeps
    (Clients.next echoDeps tokenConfig { world := targetSite } readsTarget) postsTarget where
  endpoint := ⟨.postExportTarget, rfl, rfl⟩
  edited body config k id hbody hconfig haddr := by
    cases hbody
    cases hconfig
    have hroute : route postsTarget.req = some .postExportTarget := rfl
    cases haddr with
    | post hpost hid =>
      rw [hroute] at hpost
      cases k with
      | exportTarget =>
        cases hid
        exact ⟨maskedConfig, seen_read, fun _ _ _ h => h⟩
      | weatherStation => cases hpost
    | patch hpatch =>
      rw [hroute] at hpatch
      cases k <;> cases hpatch
  posted body config k hbody hconfig _ := by
    cases hbody
    cases hconfig
    exact ⟨by decide, maskedConfig, rfl, fun _ _ h => h⟩
  merged _ _ k _ _ _ hpatch := by
    have hroute : route postsTarget.req = some .postExportTarget := rfl
    rw [hroute] at hpatch
    cases k <;> cases hpatch

/-- The merge of the edited view puts the stored secret back. -/
theorem merge_edited : mergeConfigJson (storedJson echoDeps "stored") editedConfig = mergedConfig := by
  have hstored : storedJson echoDeps "stored" = .obj [("token", .str "s")] := by rfl
  have hfolder : isSecretKey "folder" = false := by decide +kernel
  have htoken : isSecretKey "token" = true := by decide +kernel
  have horder : "folder" < "token" := by decide
  rw [hstored]
  simp [editedConfig, mergedConfig, mergeConfigJson, mergeMembers, Json.members, Json.isObject,
    Json.setMember, hfolder, htoken, horder]

/-- The merged config is stored as its text. -/
theorem dump_merged : echoDeps.json.dump mergedConfig = "merged" := by rfl

/-- The patch is the view edited. -/
theorem echoes_patch : Clients.Echoes echoDeps
    (Clients.next echoDeps tokenConfig { world := targetSite } readsTarget) patchesTarget where
  endpoint := ⟨.patchExportTarget "t1", rfl, rfl⟩
  -- the request is a patch of `t1`, whose view shows the token only
  edited body config k id hbody hconfig haddr := by
    cases hbody
    cases hconfig
    have hroute : route patchesTarget.req = some (.patchExportTarget "t1") := rfl
    cases haddr with
    | post hpost hid =>
      rw [hroute] at hpost
      cases k <;> cases hpost
    | patch hpatch =>
      rw [hroute] at hpatch
      cases k with
      | exportTarget =>
        cases hpatch
        refine ⟨maskedConfig, seen_read, fun p s _ h => ?_⟩
        cases p with
        | nil => cases h
        | cons m ms =>
          unfold maskedConfig at h
          rw [Json.at?_obj] at h
          by_cases hm : m = "token"
          · subst hm
            exact h
          · simp [Json.findMember, hm] at h
      | weatherStation => cases hpatch
  posted _ _ k _ _ hpost := by
    have hroute : route patchesTarget.req = some (.patchExportTarget "t1") := rfl
    rw [hroute] at hpost
    cases k <;> cases hpost
  merged body config k id hbody hconfig hpatch := by
    have hroute : route patchesTarget.req = some (.patchExportTarget "t1") := rfl
    cases hbody
    cases hconfig
    rw [hroute] at hpatch
    cases k with
    | weatherStation => cases hpatch
    | exportTarget =>
      intro e he _
      have hrows : configs (Clients.next echoDeps tokenConfig { world := targetSite }
          readsTarget).world.db .exportTarget = [("t1", "stored")] := by decide +kernel
      rw [hrows] at he
      cases List.mem_singleton.mp he
      show Printed echoDeps (mergeConfigJson (storedJson echoDeps "stored") editedConfig)
      rw [merge_edited]
      exact ⟨by rw [dump_merged]; decide, mergedConfig, by rw [dump_merged]; rfl, fun _ _ h => h⟩

/-- The one target has its own id. -/
theorem targetSite_ids (k : ConfigKind) : UniqueIds echoDeps.server (configs targetSite.db k) := by
  unfold UniqueIds
  cases k <;> decide

/-- Posting a masked view replaces the secret by the mask. -/
theorem mask_stored : ¬∀ (d : Deps) (cfg : ApiConfig) (w : World) (turns : List Turn),
    StoresTexts d.server → (∀ text j, d.json.parse text = some j → j.Keyed) →
    (∀ k, UniqueIds d.server (configs w.db k)) →
    Throughout (Clients.next d cfg) (fun s t => s.Echoes d t) { world := w } turns →
    ∀ k, SecretsKept d k w.db (run (Clients.next d cfg) { world := w } turns).world.db := by
  intro h
  have hkept := h echoDeps tokenConfig targetSite [readsTarget, postsTarget] storesTexts_plain
    echoDeps_keyed targetSite_ids ⟨echoes_read, echoes_post, trivial⟩ .exportTarget
  have hstored : configs (run (Clients.next echoDeps tokenConfig) { world := targetSite }
      [readsTarget, postsTarget]).world.db .exportTarget = [("t1", "masked")] := by decide +kernel
  obtain ⟨c, hc, hsecrets⟩ := hkept "t1" "stored" List.mem_cons_self
  rw [hstored] at hc
  cases List.mem_singleton.mp hc
  have hpath : SecretPath ["token"] := ⟨"token", rfl, by decide⟩
  obtain ⟨-, j, hj, hsecret⟩ :=
    hsecrets ["token"] "s" ⟨by decide, _, rfl, hpath, rfl, by decide⟩
  cases hj
  have hvalue : some (Json.str "***") = some (.str "s") := hsecret.value
  simp at hvalue

/-- The secret survives the edit of a view that shows it masked. -/
theorem patched_secret_survives : SecretsKept echoDeps .exportTarget targetSite.db
    (run (Clients.next echoDeps tokenConfig) { world := targetSite }
      [readsTarget, patchesTarget]).world.db := by
  have hnoPost : ∀ {req : Request} {w : World} {e : Endpoint}, route req = some e →
      (∀ k, e ≠ postOf k) → ¬PostsOver echoDeps tokenConfig req w := by
    rintro req w e hroute hne ⟨k, -, -, -, -, -, -, hpost, -⟩
    rw [hroute] at hpost
    exact hne k (Option.some.inj hpost)
  refine secrets_survive (w := targetSite) storesTexts_plain echoDeps_keyed targetSite_ids
    (show Throughout _ _ _ [readsTarget, patchesTarget] from ⟨echoes_read, echoes_patch, trivial⟩)
        ⟨?_, ?_, trivial⟩ .exportTarget
  · exact hnoPost (e := .getExportTarget "t1") rfl fun k => by cases k <;> exact nofun
  · exact hnoPost (e := .patchExportTarget "t1") rfl fun k => by cases k <;> exact nofun

end NightWatcher.Api
