import NightWatcher.Export.DsnFile
import NightWatcher.Lib.BufferedFile

/-!
# `exporter.cpp`: the outbox file, write by write

`runDsn` takes a transfer for one exchange. Here the outbox file is written as `DsnExporter::run`
writes it: opening the stream empties the file, then the content is inserted and the stream asked
how it is, and on the way out, returning or throwing, the stream is destroyed and writes what it
still keeps. Nobody asks about that last write.

So a run is all or nothing only where the disk behaves (`all_or_nothing_iff`). Every run is a
transfer of `runDsn` (`run_is_transfer`), a cut one if the last write lost something
(`transferOf_cut`).
-/

namespace NightWatcher.Exporter.DsnExporter

open Throwing BufferedFile

/-- The files, and what the disk is about to do: does the file open, how do the writes end. -/
structure Disk where
  files : String → Option String
  opens : Bool := true
  writes : List Written := []

/-- The disk after the stream is destroyed. -/
def Disk.left (disk : Disk) (b : Buffering Char) (path content : String) : Disk :=
  let text := String.ofList (destroyed b disk.writes content.toList)
  { disk with files := Function.update disk.files path (some text) }

/-- `std::ofstream f(path, binary | trunc)`, `f << content`, and the two checks of `f`. -/
def writeFile (b : Buffering Char) (path content : String) : EStateM String Disk Unit := fun disk =>
  if disk.opens then
    -- the destructor runs on both exits
    if (inserted b disk.writes content.toList).2 then .ok () (disk.left b path content)
    else .error ("failed writing export file: " ++ path) (disk.left b path content)
  else .error ("cannot open export file for writing: " ++ path) disk

variable (b : Buffering Char) (upload : DriveAuth → String → String → String → Except String String)
    (d : Deps)

/-- `upload` stands for the Drive client, which has no business with the disk. -/
def run (config : String) (ctx : ExportContext) : EStateM String Disk ExportResult := do
  let content ← ofExcept (formatDsnDat d ctx config)
  let fileName ← ofExcept (dsnFileName d ctx config)
  let rowCount := ctx.readings.length
  let cfg ← ofExcept (parseConfig d config)
  let outbox ← ofExcept (cfg.valueOr "outbox_dir" Json.getString "")
  if outbox ≠ "" then
    let path := outbox ++ "/" ++ fileName
    writeFile b path content
    return { fileName, rowCount, remoteId := "file://" ++ path }
  let folder ← ofExcept (cfg.valueOr "drive_folder_id" Json.getString "")
  if folder ≠ "" then
    let auth ← ofExcept (driveAuthFromConfig d config)
    let remoteId ← ofExcept (upload auth folder fileName content)
    return { fileName, rowCount, remoteId }
  throw "dsn export has no destination: set drive_folder_id or outbox_dir"

variable {b upload d}

/-! ## What a run does -/

@[simp] theorem ofExcept_ok {α : Type} (a : α) :
    (ofExcept (.ok a : Except String α) : EStateM String Disk α) = pure a := rfl

theorem meets_ofExcept {α : Type} {x : Except String α} {disk : Disk} {Q : α → Disk → Prop}
    {E : String → Disk → Prop} :
    Meets (ofExcept x : EStateM String Disk α) disk Q E ↔
      (∀ a, x = .ok a → Q a disk) ∧ ∀ e, x = .error e → E e disk := by
  cases x with
  | ok a =>
    rw [ofExcept_ok, meets_pure]
    simp
  | error e =>
    show Meets (throw e) disk Q E ↔ _
    rw [meets_throw]
    simp

theorem dsnDestination_outbox {config name path : String} :
    dsnDestination d config name = .ok (.outbox path) ↔
      ∃ cfg outbox, parseConfig d config = .ok cfg ∧ cfg.valueOr "outbox_dir" Json.getString "" =
          .ok outbox ∧
        outbox ≠ "" ∧ path = outbox ++ "/" ++ name := by
  unfold dsnDestination
  constructor
  · intro h
    simp only [bind, Except.bind] at h
    split at h
    · cases h
    · rename_i cfg hcfg
      split at h
      · cases h
      · rename_i outbox houtbox
        by_cases hne : outbox ≠ ""
        · rw [if_pos hne] at h
          exact ⟨cfg, outbox, hcfg, houtbox, hne, (FileKey.outbox.inj (Except.ok.inj h)).symm⟩
        · rw [if_neg hne] at h
          split at h
          · cases h
          · rename_i folder _
            by_cases hfolder : folder ≠ ""
            · rw [if_pos hfolder] at h
              split at h <;> cases h
            · rw [if_neg hfolder] at h
              cases h
  · rintro ⟨cfg, outbox, hcfg, houtbox, hne, rfl⟩
    rw [hcfg]
    simp only [bind, Except.bind, houtbox, if_pos hne]
    rfl

/-- No file is touched but the one the config names. -/
theorem run_frame {config : String} {ctx : ExportContext} {path : String} (disk : Disk)
    (h : ∀ name, dsnFileName d ctx config = .ok name →
        dsnDestination d config name ≠ .ok (.outbox path)) :
    (endState (run b upload d config ctx disk)).files path = disk.files path := by
  refine Meets.endState (P := fun disk' : Disk => disk'.files path = disk.files path) ?_
  unfold run
  simp only [meets_bind, meets_ofExcept]
  refine ⟨fun content _ =>
    ⟨fun name hname => ⟨fun cfg hcfg => ⟨fun outbox houtbox => ?_, fun _ _ => trivial⟩, fun _ _ =>
      trivial⟩, fun _ _ => trivial⟩, fun _ _ => trivial⟩
  by_cases hne : outbox ≠ ""
  · have hpath : path ≠ outbox ++ "/" ++ name := fun heq =>
      h name hname (dsnDestination_outbox.mpr ⟨cfg, outbox, hcfg, houtbox, hne, heq⟩)
    rw [if_pos hne]
    simp only [meets_bind, meets_pure]
    unfold Meets writeFile
    by_cases hopens : disk.opens
    · rw [if_pos hopens]
      by_cases hgood : (inserted b disk.writes content.toList).2
      · rw [if_pos hgood]
        exact Function.update_of_ne hpath _ _
      · rw [if_neg hgood]
        exact Function.update_of_ne hpath _ _
    · rw [if_neg hopens]
  · rw [if_neg hne]
    simp only [meets_bind, meets_ofExcept, meets_ite, meets_pure, meets_throw, implies_true, and_self]

section Outbox

variable {config content name path : String} {ctx : ExportContext}
  (hcontent : formatDsnDat d ctx config = .ok content) (hname : dsnFileName d ctx config = .ok name)
  (hdest : dsnDestination d config name = .ok (.outbox path))

include hcontent hname hdest

/-- What a run for the outbox comes to: one file, written through the buffer. -/
theorem run_outbox : run b upload d config ctx = (do
    writeFile b path content
    return { fileName := name, rowCount := ctx.readings.length, remoteId := "file://" ++ path }) := by
  obtain ⟨cfg, outbox, hcfg, houtbox, hne, rfl⟩ := dsnDestination_outbox.mp hdest
  unfold run
  rw [hcontent, hname]
  simp only [ofExcept_ok, pure_bind, hcfg, houtbox, if_pos hne]

theorem meets_run_outbox {disk : Disk} {Q : ExportResult → Disk → Prop} {E : String → Disk → Prop} :
    Meets (run b upload d config ctx) disk Q E ↔
      (disk.opens = false → E ("cannot open export file for writing: " ++ path) disk) ∧
      (disk.opens = true → (inserted b disk.writes content.toList).2 = true →
        Q { fileName := name, rowCount := ctx.readings.length, remoteId := "file://" ++ path }
          (disk.left b path content)) ∧
      (disk.opens = true → (inserted b disk.writes content.toList).2 = false →
        E ("failed writing export file: " ++ path) (disk.left b path content)) := by
  rw [run_outbox hcontent hname hdest]
  simp only [meets_bind, meets_pure]
  unfold Meets writeFile
  by_cases hopens : disk.opens
  · rw [if_pos hopens]
    by_cases hgood : (inserted b disk.writes content.toList).2
    · rw [if_pos hgood]
      simp [hopens, hgood]
    · rw [if_neg hgood]
      simp [hopens, hgood]
  · rw [if_neg hopens]
    simp [hopens]

end Outbox

/-! ## All or nothing -/

/-- After a return the file is the content, after an exception it is what it was. -/
def AllOrNothing (path content : String) (disk : Disk) (x : EStateM String Disk ExportResult) : Prop :=
  Meets x disk (fun _ disk' => disk'.files path = some content) fun _ disk' =>
    disk'.files path = disk.files path

/-- The file cannot be opened; or all writes are whole; or a write of the insertion fails, and the
file already was what had been written until then. -/
inductive Unharmed (b : Buffering Char) (disk : Disk) (path : String) (content : List Char) : Prop where
  | closed (h : disk.opens = false)
  | whole (h : ∀ i < (b.pieces content).length, disk.writes.getD i .whole = .whole)
      (hlast : (lastWrite b disk.writes content).reached (b.kept content) = b.kept content)
  | same (h : ∃ i < (b.pieces content).length, disk.writes.getD i .whole ≠ .whole)
      (hbefore : disk.files path = some (String.ofList (inserted b disk.writes content).1))

theorem inserted_bad_iff {writes : List Written} {content : List Char} :
    (inserted b writes content).2 = false ↔
      ∃ i < (b.pieces content).length, writes.getD i .whole ≠ .whole := by
  rw [← Bool.not_eq_true, inserted, writeAll_good_iff]
  push Not
  rfl

theorem all_or_nothing_iff {config content name path : String} {ctx : ExportContext}
    (hcontent : formatDsnDat d ctx config = .ok content) (hname : dsnFileName d ctx config = .ok name)
    (hdest : dsnDestination d config name = .ok (.outbox path)) (disk : Disk) :
    AllOrNothing path content disk (run b upload d config ctx) ↔
        Unharmed b disk path content.toList := by
  unfold AllOrNothing
  rw [meets_run_outbox hcontent hname hdest]
  have hleft : (disk.left b path content).files path
      = some (String.ofList (destroyed b disk.writes content.toList)) := Function.update_self _ _ _
  simp only [hleft]
  constructor
  · rintro ⟨-, hreturned, hthrown⟩
    cases hopens : disk.opens with
    | false => exact .closed hopens
    | true =>
      cases hgood : (inserted b disk.writes content.toList).2 with
      | true =>
        have hfile := congrArg String.toList (Option.some.inj (hreturned hopens hgood))
        rw [String.toList_ofList] at hfile
        exact .whole ((writeAll_good_iff _ _).mp hgood) ((destroyed_eq_iff hgood).mp hfile)
      | false =>
        have hfile := hthrown hopens hgood
        rw [destroyed_bad hgood] at hfile
        exact .same (inserted_bad_iff.mp hgood) hfile.symm
  · intro h
    cases h with
    | closed h =>
      exact ⟨fun _ => trivial, fun hopens => absurd (h.symm.trans hopens) Bool.false_ne_true,
        fun hopens => absurd (h.symm.trans hopens) Bool.false_ne_true⟩
    | whole h hlast =>
      have hgood : (inserted b disk.writes content.toList).2 = true := (writeAll_good_iff _ _).mpr h
      refine ⟨fun _ => trivial, fun _ _ => ?_, fun _ hbad =>
        absurd (hbad.symm.trans hgood) Bool.false_ne_true⟩
      rw [(destroyed_eq_iff hgood).mpr hlast, String.ofList_toList]
    | same h hbefore =>
      have hbad : (inserted b disk.writes content.toList).2 = false := inserted_bad_iff.mpr h
      refine ⟨fun _ => trivial, fun _ hgood => absurd (hbad.symm.trans hgood) Bool.false_ne_true,
          fun _ _ => ?_⟩
      rw [destroyed_bad hbad, hbefore]

/-! ## The exchange of `runDsn` -/

/-- A world with the files of the disk at its outbox, and one transfer to come. -/
def Faces (w : World) (disk : Disk) (tr : Transfer) : Prop :=
  (∀ path, w.files (.outbox path) = disk.files path) ∧ w.transfers = [tr]

/-- The transfer that a run of the disk is. -/
def transferOf (b : Buffering Char) (disk : Disk) (path content : String) : Transfer :=
  let written := destroyed b disk.writes content.toList
  if disk.opens then
    if (inserted b disk.writes content.toList).2 then
      .done "" (if written = content.toList then none else some (String.ofList written))
    else .failed ("failed writing export file: " ++ path)
      (some (String.ofList (inserted b disk.writes content.toList).1))
  else .failed ("cannot open export file for writing: " ++ path) none

/-- It is cut where the stream was good when it was asked, and its last write lost something. -/
theorem transferOf_cut (b : Buffering Char) (disk : Disk) (path content : String) :
    (transferOf b disk path content).cut? ≠ none ↔
      disk.opens = true ∧ (inserted b disk.writes content.toList).2 = true ∧
        (lastWrite b disk.writes content.toList).reached (b.kept content.toList)
          ≠ b.kept content.toList := by
  unfold transferOf
  dsimp only
  cases hopens : disk.opens with
  | false => simp [Transfer.cut?]
  | true =>
    cases hgood : (inserted b disk.writes content.toList).2 with
    | false => simp [Transfer.cut?]
    | true =>
      have hlast := destroyed_eq_iff hgood
      rw [if_pos rfl, if_pos rfl, ne_eq _ (b.kept content.toList), ← hlast]
      show (if destroyed b disk.writes content.toList = content.toList then none
        else some (String.ofList (destroyed b disk.writes content.toList))) ≠ none ↔ _
      split
      next hwhole => simp [hwhole]
      next hlost => simp [hlost]

theorem meets_runDsn_outbox {config content name path : String} {ctx : ExportContext}
    (hcontent : formatDsnDat d ctx config = .ok content) (hname : dsnFileName d ctx config = .ok name)
    (hdest : dsnDestination d config name = .ok (.outbox path)) {w : World}
    {Q : ExportResult → World → Prop}
    {E : String → World → Prop} :
    Meets (runDsn d config ctx) w Q E ↔ Meets (transferFile (.outbox path) ctx content) w
      (fun _ => Q { fileName := name, rowCount := ctx.readings.length,
                    remoteId := "file://" ++ path }) E := by
  unfold runDsn
  rw [hcontent, hname]
  simp only [liftExcept, pure_bind, hdest, meets_bind, meets_pure]

/-- The run has the result and the file that `runDsn` has with that transfer. -/
theorem run_is_transfer {config content name path : String} {ctx : ExportContext}
    (hcontent : formatDsnDat d ctx config = .ok content)
    (hname : dsnFileName d ctx config = .ok name)
    (hdest : dsnDestination d config name = .ok (.outbox path)) {disk : Disk} {w : World}
    (hw : Faces w disk (transferOf b disk path content)) :
    Meets (run b upload d config ctx) disk
      (fun res disk' => Meets (runDsn d config ctx) w
        (fun res' w' => res' = res ∧ ∀ p, w'.files (.outbox p) = disk'.files p) fun _ _ => False)
      fun e disk' => Meets (runDsn d config ctx) w (fun _ _ => False)
        fun e' w' => e' = e ∧ ∀ p, w'.files (.outbox p) = disk'.files p := by
  obtain ⟨hfiles, htransfer⟩ := hw
  simp only [meets_run_outbox hcontent hname hdest, meets_runDsn_outbox hcontent hname hdest]
  unfold transferOf at htransfer
  dsimp only at htransfer
  unfold Meets transferFile
  rw [htransfer]
  -- one file of each is replaced, by the same text
  have hupdate : ∀ text p, Function.update w.files (.outbox path) (some text) (.outbox p)
      = Function.update disk.files path (some text) p := by
    intro text p
    by_cases hp : p = path
    · rw [hp, Function.update_self, Function.update_self]
    · rw [Function.update_of_ne hp,
        Function.update_of_ne fun h => hp (FileKey.outbox.inj h), hfiles]
  refine ⟨fun hopens => ?_, fun hopens hgood => ?_, fun hopens hbad => ?_⟩
  · rw [hopens]
    exact ⟨rfl, hfiles⟩
  · rw [hopens, hgood]
    refine ⟨trivial, fun p => ?_⟩
    have hkeeps : (FileKey.outbox path).keeps
        (if destroyed b disk.writes content.toList = content.toList then none
          else some (String.ofList (destroyed b disk.writes content.toList))) content
        = String.ofList (destroyed b disk.writes content.toList) := by
      split
      next hwhole => rw [hwhole, String.ofList_toList, FileKey.keeps_none]
      next => rfl
    show Function.update w.files (.outbox path) (some ((FileKey.outbox path).keeps _ content))
      (.outbox p) = Function.update disk.files path _ p
    rw [hkeeps]
    exact hupdate _ p
  · rw [hopens, hbad]
    refine ⟨rfl, fun p => ?_⟩
    unfold Disk.left
    rw [destroyed_bad hbad]
    exact hupdate _ p

/-! ### A month for the outbox -/

def outboxConfig : String := "\x7b\"outbox_dir\":\"/out\"\x7d"

def outboxDeps : Deps := Deps.plain [(outboxConfig, .obj [("outbox_dir", .str "/out")])]

theorem outboxConfig_parses :
    parseConfig outboxDeps outboxConfig = .ok (.obj [("outbox_dir", .str "/out")]) := by
  have hfound : outboxDeps.json.parse outboxConfig = some (.obj [("outbox_dir", .str "/out")]) := rfl
  unfold parseConfig parseJson
  rw [if_neg (by decide), hfound]

theorem outbox_month :
    ∃ content name, formatDsnDat outboxDeps darkSite outboxConfig = .ok content ∧ content ≠ "" ∧
    dsnFileName outboxDeps darkSite outboxConfig = .ok name ∧
    dsnDestination outboxDeps outboxConfig name = .ok (.outbox ("/out" ++ "/" ++ name)) := by
  obtain ⟨content, hcontent⟩ : ∃ content, formatDsnDat outboxDeps darkSite outboxConfig =
      .ok content := by
    unfold formatDsnDat
    rw [outboxConfig_parses]
    exact ⟨_, rfl⟩
  obtain ⟨name, hname⟩ : ∃ name, dsnFileName outboxDeps darkSite outboxConfig = .ok name := by
    unfold dsnFileName
    rw [outboxConfig_parses]
    exact ⟨_, rfl⟩
  refine ⟨content, name, hcontent, ?_, hname, ?_⟩
  · obtain ⟨_, rfl⟩ := formatDsnDat_lines outboxConfig_parses hcontent
    exact crlfLines_ne_empty (List.append_ne_nil_of_left_ne_nil (List.cons_ne_nil _ _) _)
  · exact dsnDestination_outbox.mpr ⟨_, "/out", outboxConfig_parses, rfl, by decide, rfl⟩

/-- On a disk with room the file is replaced, whatever there was. -/
theorem outbox_replaced : ∃ content name, formatDsnDat outboxDeps darkSite outboxConfig = .ok content ∧
    AllOrNothing ("/out" ++ "/" ++ name) content { files := fun _ => some "old" }
      (run (ofSize 512) (fun _ _ _ _ => .ok "") outboxDeps outboxConfig darkSite) := by
  obtain ⟨content, name, hcontent, -, hname, hdest⟩ := outbox_month
  have hwhole : Unharmed (ofSize 512) { files := fun _ => some "old" } ("/out" ++ "/" ++ name)
      content.toList :=
    .whole (fun _ _ => List.getD_nil) (Written.reached_eq_iff.mpr fun _ h => nomatch h)
  refine ⟨content, name, hcontent, ?_⟩
  rw [all_or_nothing_iff hcontent hname hdest]
  exact hwhole

/-- On a full disk the run of a small file returns, and the file is empty. -/
theorem outbox_emptied : ∃ content name, formatDsnDat outboxDeps darkSite outboxConfig = .ok content ∧
    ¬AllOrNothing ("/out" ++ "/" ++ name) content { files := fun _ => some "old", writes := [.part 0] }
      (run (ofSize content.toList.length) (fun _ _ _ _ => .ok "") outboxDeps outboxConfig
          darkSite) := by
  obtain ⟨content, name, hcontent, hne, hname, hdest⟩ := outbox_month
  refine ⟨content, name, hcontent, ?_⟩
  obtain ⟨hpieces, hkept⟩ := ofSize_fits (le_refl content.toList.length)
  unfold AllOrNothing
  rw [meets_run_outbox hcontent hname hdest]
  rintro ⟨-, hreturned, -⟩
  have hgood : (inserted (ofSize content.toList.length) [.part 0] content.toList).2 = true := by
    rw [inserted, hpieces]
    rfl
  have hfile := hreturned rfl hgood
  unfold Disk.left at hfile
  dsimp only at hfile
  rw [Function.update_self] at hfile
  have hcontent := congrArg String.toList (Option.some.inj hfile)
  rw [String.toList_ofList, destroyed_eq_iff hgood, lastWrite, hpieces, hkept] at hcontent
  exact hne (String.toList_eq_nil_iff.mp hcontent.symm)

end NightWatcher.Exporter.DsnExporter
