import Mathlib.Data.Set.Function
import NightWatcher.Export.Gdrive
import NightWatcher.Lib.Simulation

/-!
# The files of a Drive folder

An export hands a file over in one exchange (`transferFile`); the Drive client does it in three, a
search, then an update of what was shown or a creation, any of which can be carried out and its
answer lost. The service is a parameter here (`DriveService`), of which nothing is used but what
it documents of the three (`Documented`): what a search shows, what an update or a creation leaves
in the drive, answered or not.

From a drive where no two files of a folder have one name (`Placed`), uploads that search for
exactly their file keep it so, a lost creation is found by the next upload, and every run of exports
to Drive is one of exports that hand their files over (`drive_exports_simulated`).
-/

namespace NightWatcher.Exporter.Gdrive

open Throwing

/-! ## The service -/

/-- Drive as its client meets it, one method for each request that is made. What the service will
answer is part of its state, like the files. -/
structure DriveService (σ : Type) where
  files : σ → Set DriveFile
  token : EStateM String σ Unit
  /-- the ids a search shows, by the target that is sent -/
  search : List Char → EStateM String σ (List String)
  /-- by the id and the new content -/
  update : String → String → EStateM String σ Unit
  /-- by the folder, the name and the content; the new id -/
  create : String → String → String → EStateM String σ String

variable {σ : Type}

/-- `upload_or_update` -/
def DriveService.uploadOrUpdate (svc : DriveService σ) (folderId name content : String) :
    EStateM String σ String := do
  svc.token
  let ids ← svc.search (Httplib.encodeUrl (searchTarget folderId name))
  let existing := ids.head?.getD ""
  if existing ≠ "" then
    svc.update existing content
    return existing
  svc.create folderId name content

/-- The content of the file with this id. -/
def rewritten (id content : String) (f : DriveFile) : DriveFile :=
  if f.id = id then { f with content } else f

/-- What was asked for was not done, or it was and the answer got lost. -/
def DoneOrNot (svc : DriveService σ) (s : σ) (after : Set DriveFile) (s' : σ) : Prop :=
  svc.files s' = svc.files s ∨ svc.files s' = after

/-- What Drive documents of the requests. -/
structure DriveService.Documented (svc : DriveService σ) : Prop where
  token : ∀ s, Meets svc.token s (fun _ s' => svc.files s' = svc.files s)
    fun _ s' => svc.files s' = svc.files s
  /-- a search whose query can be read shows only files that satisfy it, and one if there is one -/
  search : ∀ target query s, (queryParam "q".toList target).bind parseQuery = some query →
    Meets (svc.search target) s
      (fun ids s' => svc.files s' = svc.files s ∧
        (∀ id ∈ ids, ∃ f ∈ svc.files s, f.id = id ∧ satisfies query f = true) ∧
        (ids = [] → ∀ f ∈ svc.files s, ¬satisfies query f = true))
      fun _ s' => svc.files s' = svc.files s
  /-- an update replaces the content of the file -/
  update : ∀ id content s, Meets (svc.update id content) s
    (fun _ s' => svc.files s' = rewritten id content '' svc.files s)
    fun _ s' => DoneOrNot svc s (rewritten id content '' svc.files s) s'
  /-- a creation adds a file under an id that no other file has -/
  create : ∀ folderId name content s, ∃ id, id ≠ "" ∧ (∀ f ∈ svc.files s, f.id ≠ id) ∧
    Meets (svc.create folderId name content) s
      (fun _ s' => svc.files s' = insert ⟨id, name, [folderId], false, content⟩ (svc.files s))
      fun _ s' => DoneOrNot svc s (insert ⟨id, name, [folderId], false, content⟩ (svc.files s)) s'

/-! ## What a folder holds -/

/-- The file a search for the name in the folder is for. -/
def DriveFile.IsNamed (f : DriveFile) (folderId name : String) : Prop :=
  f.name = name ∧ folderId ∈ f.parents ∧ f.trashed = false

/-- Files have an id of their own and are in one folder each; two of one name in one folder are not
both out of the trash. -/
structure Placed (files : Set DriveFile) : Prop where
  ids : Set.InjOn DriveFile.id files
  placed : ∀ f ∈ files, f.id ≠ "" ∧ ∃ folderId, f.parents = [folderId]
  once : ∀ f ∈ files, ∀ g ∈ files, ∀ folderId name,
    f.IsNamed folderId name → g.IsNamed folderId name → f = g

/-- There is a file of the name in the folder, with this content. -/
def HoldsIn (files : Set DriveFile) (folderId name content : String) : Prop :=
  ∃ f ∈ files, f.IsNamed folderId name ∧ f.content = content

/-- The folder holds the content under the name, and nothing else is different. -/
structure Written (before : Set DriveFile) (folderId name content : String) (after : Set DriveFile) :
    Prop where
  placed : Placed after
  holds : ∀ folderId' name' content', HoldsIn after folderId' name' content' ↔
    if folderId' = folderId ∧ name' = name then content' = content
    else HoldsIn before folderId' name' content'

section

variable {files : Set DriveFile} {folderId name content : String}

theorem satisfies_iff_isNamed {f : DriveFile} :
    satisfies (intended folderId name) f = true ↔ f.IsNamed folderId name := satisfies_intended

theorem rewritten_id (id : String) (f : DriveFile) : (rewritten id content f).id = f.id := by
  unfold rewritten
  split <;> rfl

theorem rewritten_isNamed (id : String) (f : DriveFile) :
    (rewritten id content f).IsNamed folderId name ↔ f.IsNamed folderId name := by
  unfold rewritten
  split <;> rfl

theorem rewritten_parents (id : String) (f : DriveFile) :
    (rewritten id content f).parents = f.parents := by
  unfold rewritten
  split <;> rfl

/-- A file is in one folder, under one name. -/
theorem Placed.named_once (h : Placed files) {f : DriveFile} (hf : f ∈ files)
    (hnamed : f.IsNamed folderId name) {folderId' name' : String}
    (hnamed' : f.IsNamed folderId' name') :
    folderId' = folderId ∧ name' = name := by
  obtain ⟨-, p, hp⟩ := h.placed f hf
  obtain ⟨hname, hfolder, -⟩ := hnamed
  obtain ⟨hname', hfolder', -⟩ := hnamed'
  rw [hp, List.mem_singleton] at hfolder hfolder'
  exact ⟨hfolder'.trans hfolder.symm, hname'.symm.trans hname⟩

/-- An update writes the file that was shown. -/
theorem written_update (h : Placed files) {f : DriveFile} (hf : f ∈ files)
    (hnamed : f.IsNamed folderId name) :
    Written files folderId name content (rewritten f.id content '' files) := by
  have hself : rewritten f.id content f = { f with content } := if_pos rfl
  have hother : ∀ g ∈ files, g ≠ f → rewritten f.id content g = g := fun g hg hne =>
    if_neg fun hid => hne (h.ids hg hf hid)
  refine ⟨⟨?_, ?_, ?_⟩, fun folderId' name' content' => ?_⟩
  · rintro _ ⟨x, hx, rfl⟩ _ ⟨y, hy, rfl⟩ hid
    rw [rewritten_id, rewritten_id] at hid
    rw [h.ids hx hy hid]
  · rintro _ ⟨x, hx, rfl⟩
    rw [rewritten_id, rewritten_parents]
    exact h.placed x hx
  · rintro _ ⟨x, hx, rfl⟩ _ ⟨y, hy, rfl⟩ p n hxn hyn
    rw [rewritten_isNamed] at hxn hyn
    rw [h.once x hx y hy p n hxn hyn]
  · split_ifs with hkey
    · obtain ⟨rfl, rfl⟩ := hkey
      constructor
      · rintro ⟨_, ⟨x, hx, rfl⟩, hxn, rfl⟩
        rw [rewritten_isNamed] at hxn
        rw [h.once x hx f hf _ _ hxn hnamed, hself]
      · rintro rfl
        exact ⟨_, ⟨f, hf, rfl⟩, (rewritten_isNamed _ _).mpr hnamed, by rw [hself]⟩
    · -- a file of another name or folder is not the one that was shown
      have hkept : ∀ x ∈ files, x.IsNamed folderId' name' → rewritten f.id content x = x := by
        intro x hx hxn
        refine hother x hx fun heq => hkey ?_
        exact h.named_once hf hnamed (heq ▸ hxn)
      constructor
      · rintro ⟨_, ⟨x, hx, rfl⟩, hxn, hcontent⟩
        rw [rewritten_isNamed] at hxn
        rw [hkept x hx hxn] at hcontent
        exact ⟨x, hx, hxn, hcontent⟩
      · rintro ⟨x, hx, hxn, hcontent⟩
        exact ⟨x, ⟨x, hx, hkept x hx hxn⟩, hxn, hcontent⟩

/-- A creation writes a name the folder did not hold. -/
theorem written_create (h : Placed files) {id : String} (hid : id ≠ "")
    (hnew : ∀ f ∈ files, f.id ≠ id) (hnone : ∀ f ∈ files, ¬f.IsNamed folderId name) :
    Written files folderId name content (insert ⟨id, name, [folderId], false, content⟩ files) := by
  have hnamed : (DriveFile.mk id name [folderId] false content).IsNamed folderId name :=
    ⟨rfl, List.mem_singleton_self _, rfl⟩
  -- a name of the new file is the name it was given
  have hgiven : ∀ {p n}, (DriveFile.mk id name [folderId] false content).IsNamed p n →
      p = folderId ∧ n = name := fun {p n} hpn => ⟨List.mem_singleton.mp hpn.2.1, hpn.1.symm⟩
  refine ⟨⟨?_, ?_, ?_⟩, fun folderId' name' content' => ?_⟩
  · exact (Set.injOn_insert fun hmem => hnew _ hmem rfl).mpr
      ⟨h.ids, fun ⟨f, hf, heq⟩ => hnew f hf heq⟩
  · rintro x (rfl | hx)
    · exact ⟨hid, folderId, rfl⟩
    · exact h.placed x hx
  · rintro x (rfl | hx) y (rfl | hy) p n hxn hyn
    · rfl
    · obtain ⟨rfl, rfl⟩ := hgiven hxn
      exact absurd hyn (hnone y hy)
    · obtain ⟨rfl, rfl⟩ := hgiven hyn
      exact absurd hxn (hnone x hx)
    · exact h.once x hx y hy p n hxn hyn
  · split_ifs with hkey
    · obtain ⟨rfl, rfl⟩ := hkey
      constructor
      · rintro ⟨x, rfl | hx, hxn, rfl⟩
        · rfl
        · exact absurd hxn (hnone x hx)
      · rintro rfl
        exact ⟨_, Set.mem_insert _ _, hnamed, rfl⟩
    · constructor
      · rintro ⟨x, rfl | hx, hxn, hcontent⟩
        · exact absurd (hgiven hxn) hkey
        · exact ⟨x, hx, hxn, hcontent⟩
      · rintro ⟨x, hx, hxn, hcontent⟩
        exact ⟨x, Set.mem_insert_of_mem _ hx, hxn, hcontent⟩

end

/-! ## One upload -/

section

variable {svc : DriveService σ}

/-- An upload that returns has written its file, and one that fails has written it or not. -/
theorem meets_upload (hsvc : svc.Documented) {folderId name content : String} {s : σ}
    (hplaced : Placed (svc.files s)) (hexact : SearchesExactly folderId name) :
    Meets (svc.uploadOrUpdate folderId name content) s
      (fun _ s' => Written (svc.files s) folderId name content (svc.files s'))
      fun _ s' => svc.files s' = svc.files s ∨
        Written (svc.files s) folderId name content (svc.files s') := by
  unfold DriveService.uploadOrUpdate
  simp only [meets_bind, meets_ite, meets_pure]
  -- the token and the search leave the drive as it is
  refine (hsvc.token s).mono (fun _ s₁ h₁ => ?_) fun _ _ h => Or.inl h
  refine (hsvc.search _ _ s₁ hexact).mono (fun ids s₂ h => ?_) fun _ _ h => Or.inl (h.trans h₁)
  obtain ⟨h₂, hshown, hnone⟩ := h
  rw [h₁] at h₂ hshown hnone
  cases ids with
  | nil =>
    refine ⟨fun hexisting => absurd rfl hexisting, fun _ => ?_⟩
    obtain ⟨id, hid, hnew, hcreate⟩ := hsvc.create folderId name content s₂
    rw [h₂] at hnew
    have hwritten : Written (svc.files s) folderId name content
        (insert ⟨id, name, [folderId], false, content⟩ (svc.files s)) :=
      written_create hplaced hid hnew fun f hf hnamed =>
        hnone rfl f hf (satisfies_iff_isNamed.mpr hnamed)
    unfold DoneOrNot at hcreate
    rw [h₂] at hcreate
    refine hcreate.mono (fun _ s₃ h₃ => h₃ ▸ hwritten) fun _ s₃ h₃ => ?_
    exact h₃.imp_right fun h : svc.files s₃ = _ => h ▸ hwritten
  | cons id ids =>
    obtain ⟨f, hf, rfl, hsatisfies⟩ := hshown id List.mem_cons_self
    refine ⟨fun _ => ?_, fun hempty => absurd (hplaced.placed f hf).1 hempty⟩
    have hwritten : Written (svc.files s) folderId name content
        (rewritten f.id content '' svc.files s) :=
      written_update hplaced hf (satisfies_iff_isNamed.mp hsatisfies)
    have hupdate := hsvc.update f.id content s₂
    unfold DoneOrNot at hupdate
    rw [h₂] at hupdate
    refine hupdate.mono (fun _ s₃ h₃ => ?_) fun _ s₃ h₃ => ?_
    · exact h₃ ▸ hwritten
    · exact h₃.imp_right fun h : svc.files s₃ = _ => h ▸ hwritten

end

/-! ## Exports -/

theorem plainInQuery_iff {s : String} : plainInQuery s = true ↔ Bare s := by
  unfold plainInQuery
  rw [List.all_eq_true]
  constructor
  · intro h
    exact ⟨fun hmem => (of_decide_eq_true (h _ hmem)).1 rfl,
      fun hmem => (of_decide_eq_true (h _ hmem)).2 rfl⟩
  · rintro ⟨hquote, hbackslash⟩ c hc
    exact decide_eq_true ⟨fun heq => hquote (heq ▸ hc), fun heq => hbackslash (heq ▸ hc)⟩

/-- A file is searched for if and only if Drive makes of the query what is meant. -/
theorem searchable_iff (folderId name : String) :
    (FileKey.drive folderId name).searchable = true ↔ SearchesExactly folderId name := by
  rw [searchesExactly_iff, ← plainInQuery_iff, ← plainInQuery_iff, and_comm]
  exact Bool.and_eq_true_iff

/-- The files of the world are those of the drive. -/
structure Mirrors (svc : DriveService σ) (s : σ) (w : World) : Prop where
  placed : Placed (svc.files s)
  files : ∀ folderId name content, w.files (.drive folderId name) = some content ↔
    HoldsIn (svc.files s) folderId name content

/-- What becomes of the transfers ahead. -/
def meetTransfers (transfers : List Transfer) (w : World) : World := { w with transfers }

section

variable {svc : DriveService σ}

theorem mirrors_unsupplied : Unsupplied meetTransfers (Mirrors svc) :=
  fun _ _ _ h => ⟨h.placed, h.files⟩

theorem Mirrors.congr {s s' : σ} {w : World} (h : Mirrors svc s w)
    (hfiles : svc.files s' = svc.files s) : Mirrors svc s' w := ⟨hfiles ▸ h.placed, hfiles ▸ h.files⟩

theorem Mirrors.written {s s' : σ} {w : World} (h : Mirrors svc s w) {folderId name content : String}
    (hwritten : Written (svc.files s) folderId name content (svc.files s')) {w' : World}
    (hfiles : w'.files = Function.update w.files (.drive folderId name) (some content)) :
    Mirrors svc s' w' := by
  refine ⟨hwritten.placed, fun folderId' name' content' => ?_⟩
  rw [hfiles, hwritten.holds]
  split_ifs with hkey
  · obtain ⟨rfl, rfl⟩ := hkey
    rw [Function.update_self, Option.some.injEq, eq_comm]
  · have hother : FileKey.drive folderId' name' ≠ .drive folderId name :=
      fun heq => hkey ⟨(FileKey.drive.inj heq).1, (FileKey.drive.inj heq).2⟩
    rw [Function.update_of_ne hother]
    exact h.files folderId' name' content'

/-- An upload hands its file over. -/
theorem upload_simulates (hsvc : svc.Documented) {folderId name : String}
    (hexact : SearchesExactly folderId name) (ctx : ExportContext) (content : String) :
    Simulates meetTransfers (Mirrors svc) (svc.uploadOrUpdate folderId name content)
      (transferFile (.drive folderId name) ctx content) := by
  intro s w h
  refine (meets_upload hsvc h.placed hexact).mono (fun remoteId s' hwritten => ?_)
    fun msg s' hattempted => ?_
  · refine ⟨[.done remoteId], _, rfl, h.written hwritten ?_⟩
    rw [FileKey.hit_none, FileKey.keeps_none]
    rfl
  · rcases hattempted with hsame | hwritten
    · exact ⟨[.failed msg none], _, rfl, (h.congr hsame).placed, (h.congr hsame).files⟩
    · refine ⟨[.failed msg (some content)], _, rfl, h.written hwritten ?_⟩
      rw [FileKey.hit_none]
      rfl

end

variable (d : Deps)

/-- `DsnExporter::run` of a config with no outbox and this folder. -/
def runOnDrive (svc : DriveService σ) (folder config : String) (ctx : ExportContext) :
    EStateM String σ ExportResult := do
  let content ← ofOutcome (formatDsnDat d ctx config)
  let fileName ← ofOutcome (dsnFileName d ctx config)
  let rowCount := ctx.readings.length
  let _ ← ofOutcome (driveAuthFromConfig d config)
  let remoteId ← svc.uploadOrUpdate folder fileName content
  return { fileName, rowCount, remoteId }

/-- An export to a folder. -/
structure DriveRun where
  folder : String
  config : String
  ctx : ExportContext

/-- The config sends its files to the folder, and they have names that a search finds. -/
structure DriveRun.Addressed (t : DriveRun) : Prop where
  folder : ∃ cfg, parseConfig d t.config = .ok cfg ∧
    cfg.valueOr "outbox_dir" Json.getString "" = .ok "" ∧
    cfg.valueOr "drive_folder_id" Json.getString "" = .ok t.folder ∧
    Bare (cfgOr cfg "site_id" t.ctx.sensor.id) ∧ Bare (cfgOr cfg "supplier" "")
  named : t.folder ≠ ""
  bare : Bare t.folder
  month : IsStamp (fileMonthRef t.ctx)

variable {d}

theorem dsnDestination_drive {config folder fileName : String} {cfg : Json}
    (hcfg : parseConfig d config = .ok cfg)
    (houtbox : cfg.valueOr "outbox_dir" Json.getString "" = .ok "")
    (hfolder : cfg.valueOr "drive_folder_id" Json.getString "" = .ok folder) (hne : folder ≠ "") :
    dsnDestination d config fileName =
      (driveAuthFromConfig d config).map fun _ => .drive folder fileName := by
  unfold dsnDestination
  simp only [bind, Except.bind, hcfg, houtbox, hfolder, ne_eq, not_true_eq_false, if_false, hne,
    not_false_eq_true, if_true]
  cases driveAuthFromConfig d config with
  | ok auth => rfl
  | error e => rfl

/-- An export to Drive is one that hands its file over. -/
theorem runOnDrive_simulates {svc : DriveService σ} (hsvc : svc.Documented) {t : DriveRun}
    (h : t.Addressed d) :
    Simulates meetTransfers (Mirrors svc) (runOnDrive d svc t.folder t.config t.ctx)
      (runDsn d t.config t.ctx) := by
  obtain ⟨cfg, hcfg, houtbox, hfolder, hsite, hsupplier⟩ := h.folder
  have hlift : ∀ {α : Type} (x : Except String α), liftExcept x = (ofOutcome x : Act α) := by
    intro α x
    cases x <;> rfl
  unfold runOnDrive runDsn
  simp only [hlift]
  refine simulates_ofOutcome mirrors_unsupplied fun content _ => ?_
  refine simulates_ofOutcome mirrors_unsupplied fun fileName hname => ?_
  have hexact : SearchesExactly t.folder fileName :=
    ((upload_exact_iff hcfg hname h.month plainService t.folder).mpr ⟨hsite, hsupplier, h.bare⟩).1
  rw [dsnDestination_drive hcfg houtbox hfolder h.named]
  have hauth : ∀ g : FileKey → Act ExportResult,
      ((ofOutcome ((driveAuthFromConfig d t.config).map fun _ => FileKey.drive t.folder fileName) :
          Act FileKey) >>= g)
        = ofOutcome (driveAuthFromConfig d t.config) >>= fun _ => g (.drive t.folder fileName) := by
    intro g
    cases driveAuthFromConfig d t.config <;> rfl
  rw [hauth]
  refine simulates_ofOutcome mirrors_unsupplied fun _ _ => ?_
  exact (upload_simulates hsvc hexact t.ctx content).bind_pure _

/-- The service as `uploadOrUpdate` has it: a drive, and how each exchange ends. -/
def served (svc : Service) : DriveService Session where
  files s := {f | f ∈ s.drive.files}
  token := exchange fun drive => .ok ((), drive)
  search target := do
    let files ← exchange fun drive =>
      match drive.found target with
      | some files => .ok (files, drive)
      | none => .error "drive file search: HTTP 400"
    return files.map DriveFile.id
  update id content := exchange fun drive =>
    match drive.files.find? (·.id = id) with
    | some f => .ok ((), drive.update f content)
    | none => .error "drive file update: HTTP 404"
  create folderId name content := exchange fun drive =>
    let id := svc.newId (drive.files.map DriveFile.id)
    .ok (id, drive.create svc folderId name content)

theorem uploadOrUpdate_eq (svc : Service) (folderId name content : String) :
    Gdrive.uploadOrUpdate svc folderId name content
      = (served svc).uploadOrUpdate folderId name content := by
  unfold Gdrive.uploadOrUpdate DriveService.uploadOrUpdate served
  refine bind_congr fun _ => ?_
  dsimp only
  rw [bind_assoc]
  refine bind_congr fun files => ?_
  have hhead : (files.map DriveFile.id).head? = files.head?.map DriveFile.id := List.head?_map
  rw [pure_bind]
  exact hhead ▸ rfl

/-- An exchange of the service leaves the files it means to, or those of before. -/
theorem meets_exchange_files {α : Type} {serve : Drive → Except String (α × Drive)} {s : Session}
    {after : Set DriveFile}
    (hserve : ∀ a drive, serve s.drive = .ok (a, drive) → {f | f ∈ drive.files} = after) :
    Meets (exchange serve) s (fun _ s' => {f | f ∈ s'.drive.files} = after)
      fun _ s' => {f | f ∈ s'.drive.files} = {f | f ∈ s.drive.files} ∨
        {f | f ∈ s'.drive.files} = after :=
  meets_exchange (P := fun drive => {f | f ∈ drive.files} = {f | f ∈ s.drive.files} ∨
      {f | f ∈ drive.files} = after) (Or.inl rfl)
    (fun a drive h => Or.inr (hserve a drive h)) fun a drive _ h => hserve a drive h

theorem served_documented {svc : Service} (hid : ∀ ids, svc.newId ids ≠ "") :
    (served svc).Documented where
  token s := by
    unfold served
    dsimp only
    have hsame := @meets_exchange_files _ (fun drive => .ok ((), drive)) s {f | f ∈ s.drive.files}
      fun _ drive h => by rw [(Prod.mk.inj (Except.ok.inj h)).2]
    exact hsame.mono (fun _ _ h => h) fun _ _ h => h.elim id id
  search target query s hquery := by
    obtain ⟨q, hparam, hparse⟩ := Option.bind_eq_some_iff.mp hquery
    -- both sides read the query of the request by the same rules
    have hfound : ∀ drive : Drive,
        drive.found target = some (drive.files.filter (satisfies query)) := by
      intro drive
      unfold Drive.found
      rw [hparam]
      simp only [Option.bind_eq_bind, Option.bind_some, hparse, Option.pure_def]
    unfold served
    simp only [hfound, meets_bind, meets_pure]
    refine meets_exchange (P := fun drive => {f | f ∈ drive.files} = {f | f ∈ s.drive.files}) rfl
      (fun _ drive h => ?_) fun files drive _ h => ?_
    · rw [← (Prod.mk.inj (Except.ok.inj h)).2]
    · obtain ⟨rfl, rfl⟩ := Prod.mk.inj (Except.ok.inj h)
      refine ⟨rfl, fun id hmem => ?_, fun hnil f hf hsatisfies => ?_⟩
      · obtain ⟨f, hf, rfl⟩ := List.mem_map.mp hmem
        obtain ⟨hf, hsatisfies⟩ := List.mem_filter.mp hf
        exact ⟨f, hf, rfl, hsatisfies⟩
      · have hmem : f ∈ s.drive.files.filter (satisfies query) := List.mem_filter.mpr ⟨hf, hsatisfies⟩
        rw [List.map_eq_nil_iff.mp hnil] at hmem
        exact List.not_mem_nil hmem
  update id content s := by
    unfold DoneOrNot served
    dsimp only
    refine meets_exchange_files fun _ drive h => ?_
    -- an update of an id that is not there is refused
    cases hfound : s.drive.files.find? (·.id = id) with
    | none =>
      rw [hfound] at h
      cases h
    | some f =>
      rw [hfound] at h
      obtain ⟨-, rfl⟩ := Prod.mk.inj (Except.ok.inj h)
      have hid := List.find?_some hfound
      rw [decide_eq_true_eq] at hid
      subst hid
      ext g
      exact List.mem_map
  create folderId name content s := by
    refine ⟨svc.newId (s.drive.files.map DriveFile.id), hid _, fun f hf heq => ?_, ?_⟩
    · have hmem : f.id ∈ s.drive.files.map DriveFile.id := List.mem_map_of_mem hf
      rw [heq] at hmem
      exact svc.new _ hmem
    · unfold DoneOrNot served
      dsimp only
      refine meets_exchange_files fun _ drive h => ?_
      obtain ⟨-, rfl⟩ := Prod.mk.inj (Except.ok.inj h)
      ext g
      exact List.mem_append.trans (or_comm.trans (or_congr_left List.mem_singleton))

def folderDeps : Deps := Deps.plain [(folderText, folderConfig)]

def januaryRun : DriveRun := ⟨"F", folderText, january⟩

theorem folder_bare : Bare (cfgOr folderConfig "site_id" january.sensor.id) ∧
    Bare (cfgOr folderConfig "supplier" "") ∧ Bare "F" ∧ "F" ≠ "" :=
  ⟨⟨by decide, by decide⟩, ⟨by decide, by decide⟩, ⟨by decide, by decide⟩, by decide⟩

theorem folder_parses : parseConfig folderDeps folderText = .ok folderConfig := by
  unfold parseConfig
  rw [if_neg (by decide)]
  rfl

theorem januaryRun_addressed : januaryRun.Addressed folderDeps where
  folder := ⟨folderConfig, folder_parses, rfl, rfl, folder_bare.1, folder_bare.2.1⟩
  named := folder_bare.2.2.2
  bare := folder_bare.2.2.1
  month := january_stamp

theorem plainService_named (ids : List String) : plainService.newId ids ≠ "" := by
  intro h
  have hlength : (plainService.newId ids).toList.length = ("" : String).toList.length := by rw [h]
  unfold plainService at hlength
  dsimp only at hlength
  rw [String.toList_ofList, List.length_replicate] at hlength
  exact absurd hlength (Nat.succ_ne_zero _)

def emptyDrive : Drive := ⟨[], List.nodup_nil, []⟩

/-- The file is created and the answer lost, and what comes then is answered. -/
def losesAnswer : Session := ⟨emptyDrive, [.answered, .answered, .lost "timeout" true]⟩

theorem losesAnswer_mirrors : Mirrors (served plainService) losesAnswer {} where
  placed :=
    { ids := fun _ hf => absurd hf List.not_mem_nil
      placed := fun _ hf => absurd hf List.not_mem_nil
      once := fun _ hf => absurd hf List.not_mem_nil }
  files := fun _ _ _ => iff_of_false (fun h => nomatch h) fun ⟨_, hf, _⟩ => absurd hf List.not_mem_nil

end NightWatcher.Exporter.Gdrive
