import NightWatcher.Daemon.Reload
import NightWatcher.Api.Credentials

/-!
# Updates of the settings

`PUT /settings` checks and writes one setting after the other. A request that is
answered with an error has changed the table if it wrote another value than the
stored one before the check or the call that failed (`Idle` says that it did not).
-/

namespace NightWatcher.Api

open Throwing Database Daemon

variable {d : Deps} {cfg : ApiConfig} {req : Request} {w : World}

/-! ## The steps of an update -/

/-- What the handler does with a field of the body: a write, an answer, or a throw. -/
inductive SettingStep where
  | write (name value : String)
  | refuse (res : Response)
  | fail (e : String)

/-- The steps of `bind`. -/
def bindSteps (body : Json) : List SettingStep :=
  match body.member? "bind" with
  | some (.str b) =>
    if validBind b then [.write "api_bind" b] else [.refuse (sendErr 400 "invalid bind address")]
  | _ => []

/-- The steps of `port`. -/
def portSteps (body : Json) : List SettingStep :=
  match body.member? "port" with
  | some v =>
    match portOf v with
    | .ok p =>
      if p < 1 ∨ 65535 < p then [.refuse (sendErr 400 "port out of range (1-65535)")]
      else [.write "api_port" (toString p)]
    | .error e => [.fail e]
  | none => []

/-- The steps of `tls`. -/
def tlsSteps (body : Json) : List SettingStep :=
  match body.member? "tls" with
  | some v => [.write "api_tls" (if tlsOf v then "on" else "off")]
  | none => []

/-- All steps, in the order of the handler. -/
def settingSteps (body : Json) : List SettingStep := bindSteps body ++ portSteps body ++ tlsSteps body

/-- The steps carried out, and the settings sent back. -/
def runSteps (d : Deps) (cfg : ApiConfig) : List SettingStep → Act Response
  | [] => do return send 200 (Json.ofMembers (← ask (settingsMembers d cfg)))
  | .write name value :: rest => do
    setSetting d.server name value
    runSteps d cfg rest
  | .refuse res :: _ => pure res
  | .fail e :: _ => throw e

/-- The last step, and the answer. -/
theorem runSteps_tls (body : Json) : runSteps d cfg (tlsSteps body) = (do
    if let some v := body.member? "tls" then
      setSetting d.server "api_tls" (if tlsOf v then "on" else "off")
    return send 200 (Json.ofMembers (← ask (settingsMembers d cfg)))) := by
  unfold tlsSteps
  cases body.member? "tls" <;> rfl

/-- With the one before it. -/
theorem runSteps_port (body : Json) : runSteps d cfg (portSteps body ++ tlsSteps body) = (do
    if let some v := body.member? "port" then
      let p ← liftExcept (portOf v)
      if p < 1 ∨ 65535 < p then
        return sendErr 400 "port out of range (1-65535)"
      setSetting d.server "api_port" (toString p)
    if let some v := body.member? "tls" then
      setSetting d.server "api_tls" (if tlsOf v then "on" else "off")
    return send 200 (Json.ofMembers (← ask (settingsMembers d cfg)))) := by
  unfold portSteps
  cases body.member? "port" with
  | none => exact runSteps_tls body
  | some v =>
    dsimp only
    cases portOf v with
    | error e => rfl
    | ok p =>
      simp only [liftExcept, pure_bind]
      by_cases hp : p < 1 ∨ 65535 < p
      · rw [if_pos hp, if_pos hp]
        rfl
      · rw [if_neg hp, if_neg hp]
        show (setSetting d.server "api_port" (toString p) >>= fun _ =>
          runSteps d cfg (tlsSteps body)) = _
        rw [runSteps_tls]

/-- The handler makes the steps of its body. -/
theorem putSettings_eq : putSettings d cfg req = adminOnly d cfg req (withBody d req fun body =>
    orError 500 do
      ask connect
      runSteps d cfg (settingSteps body)) := by
  unfold putSettings
  refine congrArg (fun k => adminOnly d cfg req (withBody d req k)) (funext fun body => ?_)
  refine congrArg (fun k => orError 500 (ask connect >>= fun _ => k)) ?_
  have hrest := @runSteps_port d cfg body
  unfold settingSteps bindSteps
  rw [List.append_assoc]
  cases body.member? "bind" with
  | none => exact hrest.symm
  | some v =>
    cases v with
    | str b =>
      by_cases hb : validBind b = true
      · simp only [hb, if_true]
        show _ = (setSetting d.server "api_bind" b >>= fun _ =>
          runSteps d cfg (portSteps body ++ tlsSteps body))
        rw [hrest]
        rfl
      · simp only [hb]
        rfl
    | null | bool | int | dbl | arr | obj => exact hrest.symm

/-! ## What a step does to the table -/

/-- The table after a setting is stored, none where the server refuses it. -/
def stored (srv : Server) (name value : String) (rows : List (String × String)) :
    Option (List (String × String)) := do
  let name ← srv.storeText (.varchar 64) name
  let value ← srv.storeText .text value
  upsertRow (fun kv => srv.same kv.1 name) (name, value) false (fun kv => some (kv.1, value)) rows

/-- Every step goes through, and so do the three reads for the answer. -/
def Succeeds (srv : Server) (faults : List Bool) :
    Nat → List (String × String) → List SettingStep → Prop
  | k, _, [] => ¬Fails faults k ∧ ¬Fails faults (k + 1) ∧ ¬Fails faults (k + 2)
  | k, rows, .write name value :: rest =>
    ¬Fails faults k ∧
      ∃ rows', stored srv name value rows = some rows' ∧ Succeeds srv faults (k + 1) rows' rest
  | _, _, _ => False

/-- Up to the step that is refused or fails, what is written is what was stored. -/
def Idle (srv : Server) (faults : List Bool) (rows : List (String × String)) :
    Nat → List SettingStep → Prop
  | k, .write name value :: rest =>
    ¬Fails faults k → ∀ rows', stored srv name value rows = some rows' →
      rows' = rows ∧ Idle srv faults rows (k + 1) rest
  | _, _ => True

/-- The server takes the names of the settings as they are, and for different ones. -/
structure KeepsNames (srv : Server) : Prop where
  fits : ∀ name ∈ ["api_bind", "api_port", "api_tls"], srv.storeText (.varchar 64) name = some name
  apart : ∀ name ∈ ["api_bind", "api_port", "api_tls"], ∀ name' ∈ ["api_bind", "api_port", "api_tls"],
    name ≠ name' → srv.same name name' = false

/-- The rows of a setting. -/
def rowsNamed (srv : Server) (name : String) (rows : List (String × String)) : List (String × String) :=
  rows.filter fun kv => srv.same kv.1 name

/-- What storing a setting is: its rows get the value, or there is one more row. -/
theorem stored_cases {srv : Server} {name value : String} {rows rows' : List (String × String)}
    (hfit : srv.storeText (.varchar 64) name = some name)
    (h : stored srv name value rows = some rows') :
    ∃ value', rows' = rows.map (fun kv => if srv.same kv.1 name then (kv.1, value') else kv) ∨
      rows' = rows ++ [(name, value')] := by
  unfold stored at h
  rw [hfit, Option.bind_eq_bind, Option.bind_some] at h
  obtain ⟨value', -, h⟩ := Option.bind_eq_some_iff.mp h
  refine ⟨value', ?_⟩
  unfold upsertRow at h
  split at h
  · rw [if_neg Bool.false_ne_true, updateWhere_some] at h
    exact Or.inl (Option.some.inj h).symm
  · exact Or.inr (Option.some.inj h).symm

/-- Changing the values keeps the rows of a name. -/
theorem rowsNamed_map {srv : Server} {name : String} {g : String × String → String × String}
    (hg : ∀ kv, (g kv).1 = kv.1) (rows : List (String × String)) :
    rowsNamed srv name (rows.map g) = (rowsNamed srv name rows).map g := by
  unfold rowsNamed
  rw [List.filter_map]
  refine congrArg (List.map g) (List.filter_congr fun kv _ => ?_)
  simp only [Function.comp, hg]

/-- A stored setting changes its own row only. -/
theorem stored_others {srv : Server} {name name' value : String} {rows rows' : List (String × String)}
    (hfit : srv.storeText (.varchar 64) name = some name) (hapart : srv.same name name' = false)
    (h : stored srv name value rows = some rows') : rowsNamed srv name' rows' =
        rowsNamed srv name' rows := by
  obtain ⟨value', rfl | rfl⟩ := stored_cases hfit h
  · rw [rowsNamed_map fun kv => by split <;> rfl]
    refine (List.map_congr_left fun kv hkv => ?_).trans (List.map_id _)
    have hother : srv.same kv.1 name' = true := (List.mem_filter.mp hkv).2
    have hnot : srv.same kv.1 name = false := by
      by_contra hsame
      rw [Bool.not_eq_false, same_iff] at hsame
      rw [same_iff, hsame, ← same_iff, hapart] at hother
      cases hother
    rw [hnot]
    rfl
  · unfold rowsNamed
    rw [List.filter_append, List.filter_singleton, hapart]
    exact List.append_nil _

/-- Where it changed no row of its own, it changed nothing. -/
theorem stored_same {srv : Server} {name value : String} {rows rows' : List (String × String)}
    (hfit : srv.storeText (.varchar 64) name = some name) (h : stored srv name value rows = some rows')
    (hsame : rowsNamed srv name rows' = rowsNamed srv name rows) : rows' = rows := by
  obtain ⟨value', rfl | rfl⟩ := stored_cases hfit h
  · rw [rowsNamed_map fun kv => by split <;> rfl] at hsame
    have hfixed := List.map_inj_left.mp (hsame.trans (List.map_id _).symm)
    refine (List.map_congr_left fun kv hkv => ?_).trans (List.map_id _)
    by_cases hkey : srv.same kv.1 name = true
    · exact hfixed kv (List.mem_filter.mpr ⟨hkv, hkey⟩)
    · rw [if_neg hkey]
      rfl
  · unfold rowsNamed at hsame
    have hself : srv.same name name = true := same_iff.mpr rfl
    rw [List.filter_append, List.filter_singleton, hself] at hsame
    have hlength := congrArg List.length hsame
    rw [List.length_append] at hlength
    simp at hlength

/-! ## The steps of a request -/

/-- `set_setting` as one statement. -/
theorem setSetting_eq (srv : Server) (name value : String) : setSetting srv name value =
    statement fun s => (stored srv name value s.db.settings).map fun rows =>
      ((), { s.db with settings := rows }) := by
  unfold setSetting stored
  refine congrArg statement (funext fun s => ?_)
  cases srv.storeText (.varchar 64) name with
  | none => rfl
  | some name' =>
    cases srv.storeText .text value with
    | none => rfl
    | some value' =>
      simp only [Option.bind_eq_bind, Option.bind_some]
      cases upsertRow (fun kv => srv.same kv.1 name') (name', value') false
        (fun kv => some (kv.1, value')) s.db.settings <;> rfl

/-- The settings that are written. -/
def written : List SettingStep → List String
  | .write name _ :: rest => name :: written rest
  | _ => []

/-- How the steps end: all of them went through, or one did not and the table is what the steps
before it made of it. -/
structure Ended (d : Deps) (faults : List Bool) (k : Nat) (rows : List (String × String))
    (steps : List SettingStep) (status : Nat) (rows' : List (String × String)) : Prop where
  outcome : (Succeeds d.server faults k rows steps ∧ status = 200) ∨
    (¬Succeeds d.server faults k rows steps ∧ 400 ≤ status ∧
      (Idle d.server faults rows k steps ↔ rows' = rows))
  others : ∀ name, (∀ name' ∈ written steps, d.server.same name' name = false) →
    rowsNamed d.server name rows' = rowsNamed d.server name rows

/-- A step that goes through, and those after it. -/
theorem Ended.write {faults : List Bool} {k : Nat} {name value : String} {rest : List SettingStep}
    {rows rows' rows'' : List (String × String)} {status : Nat}
    (hfit : d.server.storeText (.varchar 64) name = some name)
    (hnew : ∀ name' ∈ written rest, d.server.same name' name = false) (hgood : ¬Fails faults k)
    (hrows' : stored d.server name value rows = some rows')
    (h : Ended d faults (k + 1) rows' rest status rows'') :
    Ended d faults k rows (.write name value :: rest) status rows'' := by
  refine ⟨?_, fun n hn => ?_⟩
  · rcases h.outcome with ⟨hall, hstatus⟩ | ⟨hnot, hstatus, hidle⟩
    · exact Or.inl ⟨⟨hgood, rows', hrows', hall⟩, hstatus⟩
    · refine Or.inr ⟨?_, hstatus, ?_⟩
      · rintro ⟨-, r, hr, hall⟩
        obtain rfl := Option.some.inj (hrows'.symm.trans hr)
        exact hnot hall
      · constructor
        · intro hidle'
          obtain ⟨rfl, hrest⟩ := hidle' hgood rows' hrows'
          exact hidle.mp hrest
        · rintro rfl _ r hr
          obtain rfl := Option.some.inj (hrows'.symm.trans hr)
          -- the later steps left the rows of this one alone
          obtain rfl := stored_same hfit hrows' (h.others name hnew).symm
          exact ⟨rfl, hidle.mpr rfl⟩
  · rw [h.others n fun name' hname' => hn name' (List.mem_cons_of_mem _ hname')]
    exact stored_others hfit (hn name List.mem_cons_self) hrows'

/-- A step at which an update ends. -/
theorem Ended.stopped {faults : List Bool} {k : Nat} {steps : List SettingStep}
    {rows : List (String × String)} {status : Nat} (hnot : ¬Succeeds d.server faults k rows steps)
    (hidle : Idle d.server faults rows k steps) (hstatus : 400 ≤ status) :
    Ended d faults k rows steps status rows :=
  ⟨Or.inr ⟨hnot, hstatus, fun _ => rfl, fun _ => hidle⟩, fun _ _ => rfl⟩

/-- The answer takes three calls. -/
theorem meets_settingsMembers {faults : List Bool} {k : Nat} {Q : List (String × Json) → World → Prop}
    {E : String → World → Prop} (hw : w.dbFaults = faults.drop k) (hclean : Clean k faults)
    (hok : ∀ ms fs, ¬Fails faults k ∧ ¬Fails faults (k + 1) ∧ ¬Fails faults (k + 2) →
        Q ms (w.withFaults fs))
    (herr : Fails faults k ∨ Fails faults (k + 1) ∨ Fails faults (k + 2) → ∀ e fs,
        E e (w.withFaults fs)) :
    Meets (ask (settingsMembers d cfg)) w Q E := by
  have hread : Clean (k + 3) faults → ¬Fails faults k ∧ ¬Fails faults (k + 1) ∧ ¬Fails faults (k + 2) :=
    fun h => ⟨h k (by omega), h (k + 1) (by omega), h (k + 2) (by omega)⟩
  unfold settingsMembers getSetting
  rw [ask_bind, meets_bind]
  refine meets_select_at hw hclean (fun h₁ => ?_) fun hbad => herr (Or.inl hbad)
  generalize Option.map Prod.snd (w.db.settings.find? _) = bind
  -- each setting is stored or not; what is read next does not depend on it
  cases bind
  all_goals
    simp only [pure_bind]
    rw [ask_bind, meets_bind]
    refine meets_select_at rfl h₁ (fun h₂ => ?_) fun hbad => herr (Or.inr (Or.inl hbad))
    generalize Option.map Prod.snd (List.find? _ _) = port
    cases port
  all_goals
    dsimp only
    rw [ask_bind, meets_bind]
    refine meets_select_at rfl h₂ (fun h₃ => ?_) fun hbad => herr (Or.inr (Or.inr hbad))
    generalize Option.map Prod.snd (List.find? _ _) = tls
    cases tls
  all_goals exact hok _ _ (hread h₃)

/-- The steps end as `Ended` says, whichever call fails. -/
theorem meets_runSteps {faults : List Bool} {k : Nat} {steps : List SettingStep}
    (hfits : ∀ name ∈ written steps, d.server.storeText (.varchar 64) name = some name)
    (hapart : (written steps).Pairwise fun name name' => d.server.same name' name = false)
    (hrefused : ∀ res, .refuse res ∈ steps → 400 ≤ res.status)
    (hw : w.dbFaults = faults.drop k) (hclean : Clean k faults) :
    Meets (runSteps d cfg steps) w
      (fun res w' => Ended d faults k w.db.settings steps res.status w'.db.settings)
      fun _ w' => Ended d faults k w.db.settings steps 500 w'.db.settings := by
  -- on the steps; `k` calls have been made before them
  induction steps generalizing w k with
  | nil =>
    unfold runSteps
    simp only [meets_bind, meets_pure]
    refine meets_settingsMembers hw hclean (fun ms fs hgood => ?_) fun hbad e fs => ?_
    · exact ⟨Or.inl ⟨hgood, rfl⟩, fun _ _ => rfl⟩
    · refine Ended.stopped ?_ trivial (by decide)
      rintro ⟨h₀, h₁, h₂⟩
      rcases hbad with h | h | h
      · exact h₀ h
      · exact h₁ h
      · exact h₂ h
  | cons step rest ih =>
    cases step with
    | refuse res => exact Ended.stopped False.elim trivial (hrefused res List.mem_cons_self)
    | fail e => exact Ended.stopped False.elim trivial (by decide)
    -- a write is done, or the run stops at it
    | write name value =>
      unfold runSteps
      simp only [meets_bind]
      rw [setSetting_eq]
      refine meets_statement_exact hw (fun _ db' hdb hgood => ?_) fun hbad e fs => ?_
      · obtain ⟨rows', hrows', hpair⟩ := Option.map_eq_some_iff.mp hdb
        obtain ⟨-, rfl⟩ := Prod.mk.inj hpair
        have hfit := hfits name List.mem_cons_self
        obtain ⟨hnew, hapart⟩ := List.pairwise_cons.mp hapart
        exact (ih (fun n hn => hfits n (List.mem_cons_of_mem _ hn)) hapart
          (fun res hres => hrefused res (List.mem_cons_of_mem _ hres)) rfl (hclean.succ hgood)).mono
          (fun res w' h => h.write hfit hnew hgood hrows') fun e w' h => h.write hfit hnew hgood hrows'
      · have hnot : ∀ rows', Fails faults k ∨
            stored d.server name value w.db.settings ≠ some rows' := by
          intro rows'
          rcases hbad with hfault | hrefusal
          · exact Or.inl hfault
          · refine Or.inr fun hrows' => ?_
            rw [Option.map_eq_none_iff.mp hrefusal] at hrows'
            cases hrows'
        refine Ended.stopped ?_ ?_ (by decide)
        · rintro ⟨hgood, rows', hrows', -⟩
          rcases hnot rows' with h | h
          · exact hgood h
          · exact h hrows'
        · intro hgood rows' hrows'
          rcases hnot rows' with h | h
          · exact absurd h hgood
          · exact absurd hrows' h

/-! ## A whole request -/

/-- Each name is written at most once. -/
theorem written_settingSteps (body : Json) :
    (written (settingSteps body)).Sublist ["api_bind", "api_port", "api_tls"] := by
  have htls : (written (tlsSteps body)).Sublist ["api_tls"] := by
    unfold tlsSteps
    cases body.member? "tls" with
    | none => exact List.nil_sublist _
    | some v => exact List.Sublist.refl _
  have hport : (written (portSteps body ++ tlsSteps body)).Sublist ["api_port", "api_tls"] := by
    unfold portSteps
    cases body.member? "port" with
    | none => exact htls.cons _
    | some v =>
      dsimp only
      cases portOf v with
      | error e => exact List.nil_sublist _
      | ok p =>
        dsimp only
        split
        · exact List.nil_sublist _
        · exact htls.cons_cons _
  unfold settingSteps
  rw [List.append_assoc]
  unfold bindSteps
  split
  · split
    · exact hport.cons_cons _
    · exact List.nil_sublist _
  · exact hport.cons _

/-- A refusal is answered 400. -/
theorem refuse_settingSteps {body : Json} {res : Response} (h : .refuse res ∈ settingSteps body) :
    res.status = 400 := by
  unfold settingSteps at h
  rw [List.mem_append, List.mem_append] at h
  rcases h with (h | h) | h
  · unfold bindSteps at h
    split at h
    · split at h
      · cases List.mem_singleton.mp h
      · cases List.mem_singleton.mp h
        rfl
    · cases h
  · unfold portSteps at h
    split at h
    · split at h
      · split at h
        · cases List.mem_singleton.mp h
          rfl
        · cases List.mem_singleton.mp h
      · cases List.mem_singleton.mp h
    · cases h
  · unfold tlsSteps at h
    split at h
    · cases List.mem_singleton.mp h
    · cases h

/-- How many calls come before the first write: the checks, and the connection. -/
def callsBefore (cfg : ApiConfig) (req : Request) : Nat := gateCalls cfg req + authCalls cfg req + 1

/-- The request gets as far as the steps of its body. -/
def Reaches (d : Deps) (cfg : ApiConfig) (req : Request) (w : World) (body : Json) : Prop :=
  HasAdmin d cfg req w ∧ d.json.parse req.body = some body ∧ Clean (callsBefore cfg req) w.dbFaults

/-- The update goes through, or writes nothing new before it ends. -/
def SettingsKept (d : Deps) (cfg : ApiConfig) (req : Request) (w : World) : Prop :=
  ∀ body, Reaches d cfg req w body →
    Succeeds d.server w.dbFaults (callsBefore cfg req) w.db.settings (settingSteps body) ∨
      Idle d.server w.dbFaults w.db.settings (callsBefore cfg req) (settingSteps body)

/-- The request is for no file. -/
theorem putSettings_webFile (hroute : route req = some .putSettings) : webFile cfg req = none :=
  webFile_none hroute (by simp [Endpoint.readsOnly])

/-- A request that gets to its steps, and one that does not. -/
theorem serve_putSettings (hroute : route req = some .putSettings) (hnames : KeepsNames d.server) :
    Meets (serve d cfg req) w
      (fun res w' => (∃ body, Reaches d cfg req w body ∧ Ended d w.dbFaults (callsBefore cfg req)
          w.db.settings (settingSteps body) res.status w'.db.settings) ∨
        (∀ body, ¬Reaches d cfg req w body) ∧ w'.db.settings = w.db.settings)
      fun _ _ => False := by
  unfold serve
  simp only [meets_tryCatch, meets_bind]
  -- the steps are reached: gate, role and connection were answered
  by_cases hreaches : ∃ body, Reaches d cfg req w body
  · obtain ⟨body, hadmin, hbody, hclean⟩ := hreaches
    have hclean' : ∀ n ≤ callsBefore cfg req, Clean n w.dbFaults := fun n hn i hi => hclean i (by omega)
    refine (meets_gate_admits (hclean' _ (by unfold callsBefore; omega)) fun _ => ?_).mono
      (fun refusal s h => ?_) fun _ _ h => h.elim
    · exact hadmin.isKnown
    · obtain ⟨rfl, rfl⟩ := h
      rw [putSettings_webFile hroute, hroute]
      show Meets (putSettings d cfg req) _ _ _
      rw [putSettings_eq]
      unfold adminOnly withBody orError
      rw [hbody]
      rw [meets_bind]
      refine (meets_requireAuth_admits (k := gateCalls cfg req) rfl
        (hclean' _ (by unfold callsBefore; omega)) ?_).mono (fun refusal s h => ?_) fun _ _ h => h.elim
      · exact hadmin.mayDo true
      · obtain ⟨rfl, rfl⟩ := h
        simp only [meets_tryCatch, meets_bind]
        refine meets_connect_answered (k := gateCalls cfg req + authCalls cfg req) rfl hclean ?_
        have hsub := written_settingSteps body
        refine (meets_runSteps (fun name hname => hnames.fits name (hsub.subset hname)) ?_
          (fun res hres => (refuse_settingSteps hres).ge) rfl hclean).mono
          (fun res w' h => Or.inl ⟨body, ⟨hadmin, hbody, hclean⟩, h⟩)
          fun e w' h => Or.inl ⟨body, ⟨hadmin, hbody, hclean⟩, h⟩
        have hnodup : ["api_bind", "api_port", "api_tls"].Nodup := by decide
        refine List.Pairwise.sublist hsub (List.Pairwise.imp_of_mem (fun hname hname' hne => ?_) hnodup)
        exact hnames.apart _ hname' _ hname (Ne.symm hne)
  -- otherwise the request ends before the first step
  · have hnone : ∀ body, ¬Reaches d cfg req w body := fun body h => hreaches ⟨body, h⟩
    refine meets_gate_at (fun hclean => ?_) fun res fs => Or.inr ⟨hnone, rfl⟩
    rw [putSettings_webFile hroute, hroute]
    show Meets (putSettings d cfg req) _ _ _
    rw [putSettings_eq]
    refine meets_adminOnly_at rfl hclean (fun hclean hadmin => ?_) fun _ fs => Or.inr ⟨hnone, rfl⟩
    unfold withBody orError
    cases hbody : d.json.parse req.body with
    | none => exact Or.inr ⟨hnone, rfl⟩
    | some body =>
      simp only [meets_tryCatch, meets_bind]
      exact meets_connect_at rfl hclean (fun hclean => absurd ⟨hadmin, hbody, hclean⟩ (hnone body))
        fun _ fs => Or.inr ⟨hnone, rfl⟩

/-- An update answered with an error has left the table as it was exactly where it wrote
nothing new before it ended. -/
theorem rejected_settings_kept (hnames : KeepsNames d.server) (hroute : route req = some .putSettings) :
    (400 ≤ (reply d cfg req w).status →
      (endState (serve d cfg req w)).db.settings = w.db.settings) ↔ SettingsKept d cfg req w := by
  obtain ⟨res, s, hserve, hcase⟩ := (@serve_putSettings d cfg req w hroute hnames).returns
  have hreply : reply d cfg req w = res := by
    unfold reply
    rw [hserve]
  rw [hreply, hserve]
  show (400 ≤ res.status → s.db.settings = w.db.settings) ↔ _
  rcases hcase with ⟨body, hreaches, hended⟩ | ⟨hnone, hsame⟩
  · -- the body is the one that was parsed
    have hbody : ∀ {body'}, Reaches d cfg req w body' → body' = body := fun h =>
      Option.some.inj (h.2.1.symm.trans hreaches.2.1)
    rcases hended.outcome with ⟨hall, hstatus⟩ | ⟨hnot, hstatus, hidle⟩
    · refine ⟨fun _ body' h => ?_, fun _ h => ?_⟩
      · rw [hbody h]
        exact Or.inl hall
      · rw [hstatus] at h
        exact absurd h (by decide)
    · refine ⟨fun h body' h' => ?_, fun h _ => ?_⟩
      · rw [hbody h']
        exact Or.inr (hidle.mpr (h hstatus))
      · exact hidle.mp ((h body hreaches).resolve_left hnot)
  · exact ⟨fun _ body h => absurd h (hnone body), fun _ _ => hsame⟩

def bindAndPort : String := "a bind address and a port"

def bindAndPortDeps : Deps := Deps.plain
  [(bindAndPort, Json.ofMembers [("bind", .str "0.0.0.0"), ("port", .int 99999)])]

def putsSettings : Request where
  method := .put
  path := "/api/v1/settings"
  body := bindAndPort
  headers := [("Authorization", "t")]

/-- The server keeps the names of the settings. -/
theorem bindAndPortDeps_keepsNames : KeepsNames bindAndPortDeps.server where
  fits name hname := rfl
  apart name hname name' hname' hne := by
    show decide (name = name') = false
    exact decide_eq_false hne

/-- The bind address of the update is the stored one. -/
def boundSite : World where
  db := { settings := [("api_bind", "0.0.0.0")] }

/-- A refused port leaves the bind address written. -/
theorem refused_port_kept :
    (endState (serve bindAndPortDeps tokenConfig putsSettings boundSite)).db.settings
    = [("api_bind", "0.0.0.0")] := by
  refine (rejected_settings_kept bindAndPortDeps_keepsNames (by rfl)).mpr (fun body h => ?_)
    (by decide +kernel)
  have hsteps : settingSteps body
      = [.write "api_bind" "0.0.0.0", .refuse (sendErr 400 "port out of range (1-65535)")] := by
    obtain rfl := Option.some.inj h.2.1
    rfl
  rw [hsteps]
  refine Or.inr fun _ rows' hrows' => ?_
  have hstored : stored bindAndPortDeps.server "api_bind" "0.0.0.0" boundSite.db.settings
      = some boundSite.db.settings := by decide +kernel
  exact ⟨(Option.some.inj (hstored.symm.trans hrows')).symm, trivial⟩

/-- The port is refused, and the bind address is stored. -/
theorem half_applied : ¬∀ (d : Deps) (cfg : ApiConfig) (req : Request) (w : World),
    route req = some .putSettings → 400 ≤ (reply d cfg req w).status →
      (endState (serve d cfg req w)).db.settings = w.db.settings := by
  intro h
  have hsame := h bindAndPortDeps tokenConfig putsSettings {} (by rfl) (by decide +kernel)
  exact absurd hsame (by decide +kernel)

end NightWatcher.Api
