import NightWatcher.Lib.Transcript
import NightWatcher.Db.Backup

/-!
# A backup of a live database

`dump_sql` reads one table after the other, without a transaction, while the
daemon commits. Every commit respects the foreign keys (`commit_references`); what
the backup holds of two tables may be of different moments. It is consistent when
no commit in between deletes a row that a row already read refers to, or inserts a
row whose parent was not read (`Undisturbed`).
-/

namespace NightWatcher.Backup

open SqlText Transcript

/-! ## The schema's references -/

/-- The foreign keys of `schema.sql`, all of them ON DELETE CASCADE. -/
def schemaForeignKeys : List ForeignKey :=
  [{ child := "readings".toList, column := 1, parent := "sensors".toList, key := 0 },
   { child := "config_log".toList, column := 1, parent := "sensors".toList, key := 0 },
   { child := "weather_readings".toList, column := 1, parent := "weather_stations".toList, key := 0 },
   { child := "sessions".toList, column := 1, parent := "users".toList, key := 0 },
   { child := "export_targets".toList, column := 1, parent := "sensors".toList, key := 0 }]

/-- No table that is referred to refers to another. -/
theorem schema_flat : ∀ fk ∈ schemaForeignKeys, ∀ fk' ∈ schemaForeignKeys, fk.parent ≠ fk'.child := by
  decide

/-- Every row's references resolve. -/
def References (srv : SqlServer) (tables : List Table) : Prop :=
  ∀ fk ∈ srv.foreignKeys, ∀ row ∈ rowsIn tables fk.child,
    resolves srv fk (rowsIn tables fk.parent) row = true

instance (srv : SqlServer) (tables : List Table) : Decidable (References srv tables) :=
  inferInstanceAs (Decidable (∀ fk ∈ srv.foreignKeys, ∀ row ∈ rowsIn tables fk.child,
    resolves srv fk (rowsIn tables fk.parent) row = true))

/-! ## Commits -/

/-- A statement of a transaction. -/
inductive Change where
  | insert (table : Text) (row : Row)
  | delete (table : Text) (gone : Row → Bool)

/-- ON DELETE CASCADE: the rows that refer to nothing any more go too. -/
def sweep (srv : SqlServer) (ts : Tables) (fk : ForeignKey) : Tables :=
  ts.update fk.child fun rows => rows.filter (resolves srv fk (ts.rowsOf fk.parent))

/-- The change on the tables; a row is only inserted where its keys resolve. -/
def Change.apply (srv : SqlServer) (ts : Tables) : Change → Option Tables
  | .insert table row =>
    (({ tables := ts } : Session).run srv (.insert table [row])).map Session.tables
  | .delete table gone =>
    some (srv.foreignKeys.foldl (sweep srv) (ts.update table fun rows => rows.filter fun r => !gone r))

/-- A transaction: all of its statements, or none. -/
def commit (srv : SqlServer) (ts : Tables) (tx : List Change) : Tables :=
  (tx.foldlM (Change.apply srv) ts).getD ts

/-- What a table is but for its rows. -/
def shape (tables : List Table) : List (Text × Text) := tables.map fun t => (t.name, t.create)

/-- Rows changed leave the columns as they are. -/
@[simp] theorem shape_update (ts : Tables) (name : Text) (f : List Row → List Row) :
    shape (ts.update name f).list = shape ts.list := by
  unfold shape Tables.update
  rw [List.map_map]
  refine List.map_congr_left fun t _ => ?_
  simp only [Function.comp]
  split <;> rfl

/-- The rows of each table after one table is changed. -/
theorem rowsOf_update (ts : Tables) (name n : Text) (f : List Row → List Row)
    (hf : f [] = [] ∨ name ∈ ts.names) :
    (ts.update name f).rowsOf n = if n = name then f (ts.rowsOf n) else ts.rowsOf n := by
  have hfind : (ts.update name f).list.find? (fun t => t.name = n)
      = (ts.list.find? fun t => t.name = n).map fun t =>
          if t.name = name then { t with rows := f t.rows } else t := by
    show (ts.list.map _).find? _ = _
    rw [List.find?_map]
    refine congrArg (Option.map _ <| List.find? · ts.list) (funext fun t => ?_)
    simp only [Function.comp]
    split <;> rfl
  unfold Tables.rowsOf rowsIn
  rw [hfind]
  cases h : ts.list.find? fun t => t.name = n with
  | none =>
    by_cases hn : n = name
    · rw [if_pos hn]
      rcases hf with hf | hin
      · exact hf.symm
      · obtain ⟨t, ht, htn⟩ := List.mem_map.mp hin
        exact absurd (decide_eq_true (htn.trans hn.symm)) (List.find?_eq_none.mp h t ht)
    · rw [if_neg hn]
      rfl
  | some t =>
    have htn : t.name = n := by simpa using List.find?_some h
    by_cases hn : n = name
    · rw [if_pos hn, Option.map_some, if_pos (htn.trans hn)]
      rfl
    · rw [if_neg hn, Option.map_some, if_neg fun h => hn (htn.symm.trans h)]

/-- A key that resolves among some rows resolves among more. -/
theorem resolves_mono {srv : SqlServer} {fk : ForeignKey} {parents parents' : List Row} {row : Row}
    (hsub : parents ⊆ parents') (h : resolves srv fk parents row = true) :
    resolves srv fk parents' row = true := by
  unfold resolves at h ⊢
  cases hcell : cell row fk.column with
  | none => rfl
  | some v =>
    rw [hcell] at h
    obtain ⟨p, hp, hkey⟩ := List.any_eq_true.mp h
    exact List.any_eq_true.mpr ⟨p, hsub hp, hkey⟩

section Commits

variable {srv : SqlServer} {ts ts' : Tables}

/-- A sweep takes the rows without a parent from the child table. -/
theorem rowsOf_sweep (fk : ForeignKey) (n : Text) : (sweep srv ts fk).rowsOf n
    = if n = fk.child then (ts.rowsOf n).filter (resolves srv fk (ts.rowsOf fk.parent))
        else ts.rowsOf n :=
  rowsOf_update ts fk.child n _ (Or.inl rfl)

/-- After all the sweeps no reference is left dangling: a sweep takes nothing from the tables
that are referred to. -/
theorem references_swept {keys : List ForeignKey}
    (hflat : ∀ fk ∈ keys, ∀ fk' ∈ keys, fk.parent ≠ fk'.child) :
    (∀ n, (∀ fk ∈ keys, n ≠ fk.child) → (keys.foldl (sweep srv) ts).rowsOf n = ts.rowsOf n) ∧
      (∀ n, (keys.foldl (sweep srv) ts).rowsOf n ⊆ ts.rowsOf n) ∧
      ∀ fk ∈ keys, ∀ row ∈ (keys.foldl (sweep srv) ts).rowsOf fk.child,
        resolves srv fk ((keys.foldl (sweep srv) ts).rowsOf fk.parent) row = true := by
  induction keys generalizing ts with
  | nil => exact ⟨fun _ _ => rfl, fun _ => List.Subset.refl _, nofun⟩
  | cons fk keys ih =>
    obtain ⟨hsame, hless, hrefs⟩ := @ih (sweep srv ts fk) fun a ha b hb =>
      hflat a (List.mem_cons_of_mem _ ha) b (List.mem_cons_of_mem _ hb)
    have hswept : ∀ n, (sweep srv ts fk).rowsOf n ⊆ ts.rowsOf n := by
      intro n
      rw [rowsOf_sweep]
      split
      · exact List.filter_sublist.subset
      · exact List.Subset.refl _
    refine ⟨fun n hn => ?_, fun n => List.Subset.trans (hless n) (hswept n),
        fun fk' hfk' row hrow => ?_⟩
    · rw [List.foldl_cons, hsame n fun fk' h => hn fk' (List.mem_cons_of_mem _ h), rowsOf_sweep,
        if_neg (hn fk List.mem_cons_self)]
    · rcases List.mem_cons.mp hfk' with rfl | hfk'
      · have hparent : (List.foldl (sweep srv) (sweep srv ts fk') keys).rowsOf fk'.parent
            = ts.rowsOf fk'.parent := by
          rw [hsame _ fun a ha => hflat fk' List.mem_cons_self a (List.mem_cons_of_mem _ ha),
            rowsOf_sweep, if_neg (hflat fk' List.mem_cons_self fk' List.mem_cons_self)]
        have hkept := hless _ hrow
        rw [rowsOf_sweep, if_pos rfl] at hkept
        rw [List.foldl_cons, hparent]
        exact (List.mem_filter.mp hkept).2
      · exact hrefs fk' hfk' row hrow

/-- Sweeps leave the columns as they are. -/
theorem shape_swept (keys : List ForeignKey) :
    shape (keys.foldl (sweep srv) ts).list = shape ts.list := by
  induction keys generalizing ts with
  | nil => rfl
  | cons fk keys ih =>
    rw [List.foldl_cons, ih]
    exact shape_update _ _ _

/-- A change keeps the references whole. -/
theorem change_references
    (hflat : ∀ fk ∈ srv.foreignKeys, ∀ fk' ∈ srv.foreignKeys, fk.parent ≠ fk'.child)
    {c : Change} (h : c.apply srv ts = some ts') (hrefs : References srv ts.list) :
    References srv ts'.list ∧ shape ts'.list = shape ts.list := by
  cases c with
  -- a deletion is swept through the keys
  | delete table gone =>
    obtain rfl := Option.some.inj h
    exact ⟨(references_swept hflat).2.2, (shape_swept _).trans (shape_update _ _ _)⟩
  -- an insertion is only made where the keys of the row resolve
  | insert table row =>
    obtain ⟨s', hrun, rfl⟩ := Option.map_eq_some_iff.mp h
    unfold Session.run at hrun
    dsimp only at hrun
    by_cases hin : table ∉ ts.names
    · rw [if_pos hin] at hrun
      cases hrun
    · rw [if_neg hin] at hrun
      split at hrun
      · cases hrun
      next hchecked =>
        obtain rfl := Option.some.inj hrun
        refine ⟨fun fk hfk r hr => ?_, shape_update _ _ _⟩
        have hrows : ∀ n, (ts.insert table [row]).rowsOf n
            = if n = table then ts.rowsOf n ++ [row] else ts.rowsOf n := fun n =>
          rowsOf_update ts table n _ (Or.inr (not_not.mp hin))
        have hgrown : ts.rowsOf fk.parent ⊆ (ts.insert table [row]).rowsOf fk.parent := by
          rw [hrows]
          split
          · exact List.subset_append_left _ _
          · exact List.Subset.refl _
        have hold : r ∈ ts.rowsOf fk.child →
            resolves srv fk ((ts.insert table [row]).rowsOf fk.parent) r = true :=
          fun h => resolves_mono hgrown (hrefs fk hfk r h)
        change r ∈ (ts.insert table [row]).rowsOf fk.child at hr
        rw [hrows] at hr
        by_cases hchild : fk.child = table
        · rw [if_pos hchild] at hr
          rcases List.mem_append.mp hr with hr | hr
          · exact hold hr
          · obtain rfl := List.mem_singleton.mp hr
            by_contra hdangling
            refine hchecked ?_
            rw [Bool.true_and]
            refine List.any_eq_true.mpr ⟨fk, hfk, ?_⟩
            simp only [hchild, decide_true, Bool.true_and, List.any_cons, List.any_nil, Bool.or_false]
            change resolves srv fk ((ts.insert table [r]).rowsOf fk.parent) r ≠ true at hdangling
            rw [Bool.eq_false_iff.mpr hdangling]
            rfl
        · rw [if_neg hchild] at hr
          exact hold hr

/-- Every committed state respects the foreign keys. -/
theorem commit_references
    (hflat : ∀ fk ∈ srv.foreignKeys, ∀ fk' ∈ srv.foreignKeys, fk.parent ≠ fk'.child) (tx : List Change)
    (hrefs : References srv ts.list) :
    References srv (commit srv ts tx).list ∧ shape (commit srv ts tx).list = shape ts.list := by
  have hall : ∀ {ts' ts₁ : Tables}, References srv ts₁.list →
      tx.foldlM (Change.apply srv) ts₁ = some ts' →
      References srv ts'.list ∧ shape ts'.list = shape ts₁.list := by
    intro ts' ts₁ h₁ h
    induction tx generalizing ts₁ with
    | nil =>
      obtain rfl := Option.some.inj h
      exact ⟨h₁, rfl⟩
    | cons c tx ih =>
      obtain ⟨ts₂, hc, hrest⟩ := Option.bind_eq_some_iff.mp h
      obtain ⟨h₂, hshape₂⟩ := change_references hflat hc h₁
      obtain ⟨h', hshape'⟩ := ih h₂ hrest
      exact ⟨h', hshape'.trans hshape₂⟩
  unfold commit
  cases hrun : tx.foldlM (Change.apply srv) ts with
  | none => exact ⟨hrefs, rfl⟩
  | some ts' => exact hall hrefs hrun

end Commits

/-! ## Reading table by table -/

/-- A backup on its way: the live tables, the tables `SHOW TABLES` named that are still to be
read, and those that were read, as they were then. -/
structure LiveDump where
  tables : Tables
  todo : List Text
  taken : List Table := []

/-- The backup reads the next table, or a transaction is committed between. -/
inductive Event where
  | read
  | commit (tx : List Change)

/-- The dump and the database after the event. -/
def LiveDump.next (srv : SqlServer) (d : LiveDump) : Event → LiveDump
  | .read =>
    match d.todo with
    | [] => d
    | name :: todo =>
      { d with todo, taken := d.taken ++ (d.tables.list.find? fun t => t.name = name).toList }
  | .commit tx => { d with tables := commit srv d.tables tx }

/-- A commit between the reads deletes no row that a row already read refers to, from a table
still to be read, and adds to a table still to be read no row that refers to none of the rows
read of the other. -/
def Undisturbed (srv : SqlServer) (d : LiveDump) : Event → Prop
  | .read => True
  | .commit tx => ∀ fk ∈ srv.foreignKeys,
      (fk.parent ∈ d.todo → ∀ row ∈ rowsIn d.taken fk.child, ∀ v, cell row fk.column = some v →
        ∀ p ∈ d.tables.rowsOf fk.parent, hasKey srv fk v p = true →
          p ∈ (commit srv d.tables tx).rowsOf fk.parent) ∧
      (fk.child ∈ d.todo → fk.parent ∈ d.taken.map Table.name →
        ∀ row ∈ (commit srv d.tables tx).rowsOf fk.child, row ∉ d.tables.rowsOf fk.child →
          resolves srv fk (rowsIn d.taken fk.parent) row = true)

/-- What has been read and what is still to be read fit together. -/
structure Fits (srv : SqlServer) (definitions : List (Text × Text)) (order : List Text) (d : LiveDump) :
    Prop where
  live : References srv d.tables.list
  same : shape d.tables.list = definitions
  order : d.taken.map Table.name ++ d.todo = order
  known : ∀ t ∈ d.taken, (t.name, t.create) ∈ definitions
  both : ∀ fk ∈ srv.foreignKeys, fk.parent ∈ d.taken.map Table.name → ∀ row ∈ rowsIn d.taken fk.child,
    resolves srv fk (rowsIn d.taken fk.parent) row = true
  childRead : ∀ fk ∈ srv.foreignKeys, fk.parent ∈ d.todo → ∀ row ∈ rowsIn d.taken fk.child,
    resolves srv fk (d.tables.rowsOf fk.parent) row = true
  parentRead : ∀ fk ∈ srv.foreignKeys, fk.child ∈ d.todo → fk.parent ∈ d.taken.map Table.name →
    ∀ row ∈ d.tables.rowsOf fk.child, resolves srv fk (rowsIn d.taken fk.parent) row = true

/-- The rows of a table in the first of two lists of tables. -/
theorem rowsIn_append_left {a b : List Table} {n : Text} (h : n ∈ a.map Table.name) :
    rowsIn (a ++ b) n = rowsIn a n := by
  unfold rowsIn
  rw [List.find?_append]
  cases hfind : a.find? fun t => t.name = n with
  | some t => rfl
  | none =>
    obtain ⟨t, ht, htn⟩ := List.mem_map.mp h
    exact absurd (decide_eq_true htn) (List.find?_eq_none.mp hfind t ht)

/-- The rows of a table in the second. -/
theorem rowsIn_append_right {a b : List Table} {n : Text} (h : n ∉ a.map Table.name) :
    rowsIn (a ++ b) n = rowsIn b n := by
  unfold rowsIn
  rw [List.find?_append,
    List.find?_eq_none.mpr fun t ht htn => h (List.mem_map.mpr ⟨t, ht, by simpa using htn⟩)]
  rfl

/-- A table not in the list has no rows. -/
theorem rowsIn_missing {l : List Table} {n : Text} (h : n ∉ l.map Table.name) : rowsIn l n = [] := by
  unfold rowsIn
  rw [List.find?_eq_none.mpr fun t ht htn => h (List.mem_map.mpr ⟨t, ht, by simpa using htn⟩)]
  rfl

section Steps

variable {srv : SqlServer} {definitions : List (Text × Text)} {order : List Text} {d : LiveDump}

/-- Reading the next table keeps what is taken fitting. -/
theorem fits_read (hnodup : order.Nodup) (hnames : ∀ n ∈ order, n ∈ definitions.map Prod.fst)
    (h : Fits srv definitions order d) : Fits srv definitions order (d.next srv .read) := by
  unfold LiveDump.next
  cases htodo : d.todo with
  | nil => exact h
  | cons name todo =>
    dsimp only
    have horder := h.order
    rw [htodo] at horder
    -- `order` has each name once, so what is read next has not been taken yet
    have hnew : name ∉ d.taken.map Table.name ∧ name ∉ todo := by
      rw [← horder, List.nodup_append] at hnodup
      exact ⟨fun hin => hnodup.2.2 name hin name List.mem_cons_self rfl,
          (List.nodup_cons.mp hnodup.2.1).1⟩
    obtain ⟨t, ht⟩ : ∃ t, (d.tables.list.find? fun t => t.name = name) = some t := by
      have hin : name ∈ definitions.map Prod.fst := by
        refine hnames name ?_
        rw [← horder]
        exact List.mem_append_right _ List.mem_cons_self
      rw [← h.same] at hin
      obtain ⟨p, hp, hpn⟩ := List.mem_map.mp hin
      obtain ⟨t, ht, rfl⟩ := List.mem_map.mp hp
      refine Option.isSome_iff_exists.mp ?_
      rw [List.find?_isSome]
      exact ⟨t, ht, decide_eq_true hpn⟩
    have hname : t.name = name := by simpa using List.find?_some ht
    have hlive : t.rows = d.tables.rowsOf name := by
      unfold Tables.rowsOf rowsIn
      rw [ht]
      rfl
    rw [ht]
    show Fits srv definitions order { d with todo, taken := d.taken ++ [t] }
    have hrows : ∀ n, rowsIn (d.taken ++ [t]) n
        = if n = name then d.tables.rowsOf name else rowsIn d.taken n := by
      intro n
      by_cases hn : n = name
      · rw [if_pos hn, hn, rowsIn_append_right hnew.1, ← hlive]
        unfold rowsIn
        simp only [List.find?_cons, hname, decide_true]
        rfl
      · rw [if_neg hn]
        by_cases hin : n ∈ d.taken.map Table.name
        · exact rowsIn_append_left hin
        · rw [rowsIn_append_right hin, rowsIn_missing hin, rowsIn_missing]
          rw [List.map_singleton, List.mem_singleton, hname]
          exact hn
    have hread : ∀ n, n ∈ (d.taken ++ [t]).map Table.name → n = name ∨ n ∈ d.taken.map Table.name := by
      intro n hn
      rw [List.map_append, List.mem_append, List.map_singleton, List.mem_singleton, hname] at hn
      exact hn.symm
    have hnow : name ∈ d.todo := by
      rw [htodo]
      exact List.mem_cons_self
    have hlater : ∀ n ∈ todo, n ≠ name ∧ n ∈ d.todo := by
      intro n hn
      refine ⟨fun heq => hnew.2 (heq ▸ hn), ?_⟩
      rw [htodo]
      exact List.mem_cons_of_mem _ hn
    -- the four clauses about keys, by whether a side of the key is the table being read
    refine { live := h.live, same := h.same, order := ?_, known := ?_, both := ?_, childRead := ?_,
             parentRead := ?_ }
    · rw [List.map_append, List.append_assoc, List.map_singleton, hname]
      exact horder
    · intro x hx
      rcases List.mem_append.mp hx with hx | hx
      · exact h.known x hx
      · obtain rfl := List.mem_singleton.mp hx
        rw [← h.same]
        exact List.mem_map.mpr ⟨x, List.mem_of_find?_eq_some ht, rfl⟩
    · intro fk hfk hparent row hrow
      rw [hrows] at hrow ⊢
      rcases hread _ hparent with hp | hp
      · -- the parent's table is the one that is read
        rw [if_pos hp, ← hp]
        by_cases hc : fk.child = name
        · rw [if_pos hc, ← hc] at hrow
          exact h.live fk hfk row hrow
        · rw [if_neg hc] at hrow
          exact h.childRead fk hfk (hp ▸ hnow) row hrow
      · have hpne : fk.parent ≠ name := fun heq => hnew.1 (heq ▸ hp)
        rw [if_neg hpne]
        by_cases hc : fk.child = name
        · rw [if_pos hc, ← hc] at hrow
          exact h.parentRead fk hfk (hc ▸ hnow) hp row hrow
        · rw [if_neg hc] at hrow
          exact h.both fk hfk hp row hrow
    · intro fk hfk hparent row hrow
      obtain ⟨-, hp⟩ := hlater _ hparent
      rw [hrows] at hrow
      by_cases hc : fk.child = name
      · rw [if_pos hc, ← hc] at hrow
        exact h.live fk hfk row hrow
      · rw [if_neg hc] at hrow
        exact h.childRead fk hfk hp row hrow
    · intro fk hfk hchild hparent row hrow
      obtain ⟨-, hc⟩ := hlater _ hchild
      rw [hrows]
      rcases hread _ hparent with hp | hp
      · rw [if_pos hp, ← hp]
        exact h.live fk hfk row hrow
      · have hpne : fk.parent ≠ name := fun heq => hnew.1 (heq ▸ hp)
        rw [if_neg hpne]
        exact h.parentRead fk hfk hc hp row hrow

/-- A commit that disturbs nothing taken keeps it fitting. -/
theorem fits_commit (hflat : ∀ fk ∈ srv.foreignKeys, ∀ fk' ∈ srv.foreignKeys, fk.parent ≠ fk'.child)
    {tx : List Change} (hcalm : Undisturbed srv d (.commit tx)) (h : Fits srv definitions order d) :
    Fits srv definitions order (d.next srv (.commit tx)) := by
  obtain ⟨hlive, hshape⟩ := commit_references hflat tx h.live
  refine { live := hlive, same := hshape.trans h.same, order := h.order, known := h.known,
           both := h.both,
           childRead := ?_, parentRead := ?_ }
  · intro fk hfk hparent row hrow
    have hbefore := h.childRead fk hfk hparent row hrow
    unfold resolves at hbefore ⊢
    cases hcell : cell row fk.column with
    | none => rfl
    | some v =>
      rw [hcell] at hbefore
      obtain ⟨p, hp, hkey⟩ := List.any_eq_true.mp hbefore
      exact List.any_eq_true.mpr ⟨p, (hcalm fk hfk).1 hparent row hrow v hcell p hp hkey, hkey⟩
  · intro fk hfk hchild hparent row hrow
    by_cases hold : row ∈ d.tables.rowsOf fk.child
    · exact h.parentRead fk hfk hchild hparent row hold
    · exact (hcalm fk hfk).2 hchild hparent row hrow hold

end Steps

/-- A server with the schema's foreign keys. -/
def schemaServer (collate : Text → Text) (created : Text → Option (Text × Text)) : SqlServer :=
  { collate, foreignKeys := schemaForeignKeys, created }

/-- A live backup that no commit disturbs rebuilds a database in which every foreign key holds,
in whatever order the tables are read. -/
theorem live_backup_references {collate : Text → Text} {created : Text → Option (Text × Text)}
    {ts : Tables}
    {order : List Text} {events : List Event} (horder : order.Perm ts.names)
    (hschema : ∀ fk ∈ schemaForeignKeys, fk.child ∈ ts.names ∧ fk.parent ∈ ts.names)
    (hplain : ∀ t ∈ ts.list, PlainName t.name)
    (hcreate : ∀ t ∈ ts.list, ShowsCreate (schemaServer collate created) t)
    (hrefs : References (schemaServer collate created) ts.list)
    (hcalm : Throughout (LiveDump.next (schemaServer collate created))
      (Undisturbed (schemaServer collate created)) { tables := ts, todo := order } events)
    (hdone : (run (LiveDump.next (schemaServer collate created)) { tables := ts, todo := order }
      events).todo = [])
    (s : Session) :
    ∃ n s', restoreSql (schemaServer collate created) (dumpSql (run (LiveDump.next
        (schemaServer collate created)) { tables := ts, todo := order } events).taken) s = .ok n s' ∧
      References (schemaServer collate created) s'.tables.list := by
  have hnodup : order.Nodup := horder.nodup_iff.mpr ts.nodup
  have hfits : Fits (schemaServer collate created) (shape ts.list) order
      (run (LiveDump.next (schemaServer collate created)) { tables := ts, todo := order } events) := by
    refine run_preserves (fun d e hcalm hfits => ?_) hcalm ?_
    · cases e with
      | read =>
        refine fits_read hnodup (fun n hn => ?_) hfits
        obtain ⟨t, ht, rfl⟩ := List.mem_map.mp (horder.subset hn)
        exact List.mem_map.mpr ⟨(t.name, t.create), List.mem_map.mpr ⟨t, ht, rfl⟩, rfl⟩
      | commit tx => exact fits_commit schema_flat hcalm hfits
    · exact { live := hrefs, same := rfl, order := rfl, known := nofun, both := nofun,
              childRead := nofun,
              parentRead := nofun }
  generalize run (LiveDump.next (schemaServer collate created)) { tables := ts, todo := order }
      events = d
    at hdone hfits
  have hread : d.taken.map Table.name = order := by
    have horder := hfits.order
    rw [hdone, List.append_nil] at horder
    exact horder
  -- what was read is restored
  let taken : Tables := ⟨d.taken, by rw [hread]; exact hnodup⟩
  have horigin : ∀ t ∈ d.taken, ∃ t₀ ∈ ts.list, t₀.name = t.name ∧ t₀.create = t.create := by
    intro t ht
    obtain ⟨t₀, ht₀, heq⟩ := List.mem_map.mp (hfits.known t ht)
    exact ⟨t₀, ht₀, congrArg Prod.fst heq, congrArg Prod.snd heq⟩
  obtain ⟨s', hrun, -, htables⟩ := @restore_script (schemaServer collate created) taken
    (fun t ht => by
      obtain ⟨t₀, ht₀, hname, -⟩ := horigin t ht
      exact hname ▸ hplain t₀ ht₀)
    (fun t ht => by
      obtain ⟨t₀, ht₀, hname, hdef⟩ := horigin t ht
      obtain ⟨hstarts, hnul, hends, hcreated⟩ := hcreate t₀ ht₀
      rw [hdef] at hstarts hnul hends hcreated
      rw [hname] at hcreated
      exact ⟨hstarts, hnul, hends, hcreated⟩) s
  refine ⟨_, s', hrun, fun fk hfk => ?_⟩
  have hrows : ∀ n ∈ order, rowsIn s'.tables.list n = rowsIn d.taken n := by
    intro n hn
    rw [htables]
    refine rowsIn_append_right fun hkept => ?_
    obtain ⟨t, ht, rfl⟩ := List.mem_map.mp hkept
    have hnot := (List.mem_filter.mp ht).2
    refine absurd ?_ (of_decide_eq_true hnot)
    show t.name ∈ d.taken.map Table.name
    rw [hread]
    exact hn
  obtain ⟨hchild, hparent⟩ := hschema fk hfk
  rw [hrows _ (horder.symm.subset hchild), hrows _ (horder.symm.subset hparent)]
  refine hfits.both fk hfk ?_
  rw [hread]
  exact horder.symm.subset hparent

/-! ## A night's backup -/

/-- A table of one text column. -/
def tableOf (name : String) (rows : List Row) : Table where
  name := name.toList
  create := "CREATE TABLE `".toList ++ name.toList ++ "` (`id` int)".toList
  rows

/-- The tables of the schema, with one sensor and one reading of it. -/
def oneReading : Tables where
  list :=
    [tableOf "config_log" [], tableOf "events" [], tableOf "export_log" [], tableOf "export_targets" [],
     tableOf "extensions" [], tableOf "readings" [[some "1".toList, some "S1".toList]],
     tableOf "sensors" [[some "S1".toList]], tableOf "sessions" [], tableOf "settings" [],
     tableOf "users" [], tableOf "weather_readings" [], tableOf "weather_stations" []]
  nodup := by decide +kernel

def namingSchema : SqlServer := schemaServer id namingServer.created

/-- The tables of the database are shown as they were created. -/
theorem oneReading_shown : ∀ t ∈ oneReading.list, PlainName t.name ∧ ShowsCreate namingSchema t := by
  intro t ht
  have hall : ∀ t ∈ oneReading.list, PlainName t.name ∧
      "CREATE TABLE ".toList.isPrefixOf t.create = true ∧
      '\x00' ∉ t.create ∧ lineEndsOut .out t.create = true ∧
      namingServer.created t.create = some (t.name, t.create) := by
    decide +kernel
  obtain ⟨hplain, hstarts, hnul, hends, hcreated⟩ := hall t ht
  obtain ⟨h₁, h₂, h₃, h₄⟩ :=
    showsCreate_naming (List.isPrefixOf_iff_prefix.mp hstarts) hnul hends hcreated
  exact ⟨hplain, h₁, h₂, h₃, h₄⟩

/-- A sensor is added while the first tables are read. -/
def sensorAdded : List Event :=
  [.read, .commit [.insert "sensors".toList [some "S2".toList]]] ++ List.replicate 11 .read

/-- A sensor added during the backup leaves it restorable. -/
theorem backup_with_added_sensor :
    ∃ n s', restoreSql namingSchema (dumpSql (run (LiveDump.next namingSchema)
        { tables := oneReading, todo := oneReading.names } sensorAdded).taken) { tables := oneReading }
        = .ok n s' ∧ References namingSchema s'.tables.list := by
  refine live_backup_references (List.Perm.refl _) (by decide +kernel) (fun t ht =>
    (oneReading_shown t ht).1)
    (fun t ht => (oneReading_shown t ht).2) (by decide +kernel)
    (show Throughout _ _ _ sensorAdded from ⟨trivial, fun fk hfk => ⟨?_, ?_⟩, ?_⟩) (by decide +kernel) _
  · -- nothing was read yet but an empty table
    intro _ row hrow
    have hnone : ∀ n, rowsIn [tableOf "config_log" []] n = [] := by
      intro n
      unfold rowsIn
      rw [List.find?_cons]
      split <;> rfl
    rw [show (LiveDump.next (schemaServer id namingServer.created)
      { tables := oneReading, todo := oneReading.names } .read).taken = [tableOf "config_log" []]
          from rfl,
      hnone] at hrow
    cases hrow
  · intro _ hparent
    have hnot : ∀ fk ∈ schemaForeignKeys, fk.parent ∉ ["config_log".toList] := by decide
    exact absurd hparent (hnot fk hfk)
  · repeat' constructor

/-- The sensor is deleted after its readings were read and before the sensors are. -/
def sensorDeleted : List Event :=
  List.replicate 6 .read ++ [.commit [.delete "sensors".toList fun _ => true]] ++ List.replicate 6 .read

/-- The backup then has a reading of no sensor, and the restored database too. -/
theorem backup_torn :
    References namingSchema oneReading.list ∧
      (run (LiveDump.next namingSchema) { tables := oneReading, todo := oneReading.names }
          sensorDeleted).todo
        = [] ∧
      ∃ n s', restoreSql namingSchema (dumpSql (run (LiveDump.next namingSchema)
          { tables := oneReading, todo := oneReading.names } sensorDeleted).taken)
              { tables := oneReading }
          = .ok n s' ∧ ¬References namingSchema s'.tables.list := by
  refine ⟨by decide +kernel, by decide +kernel, ?_⟩
  have htaken : (run (LiveDump.next namingSchema) { tables := oneReading, todo := oneReading.names }
      sensorDeleted).taken = (oneReading.update "sensors".toList fun _ => []).list := by
    decide +kernel
  rw [htaken]
  have hshown : ∀ t ∈ (oneReading.update "sensors".toList fun _ => []).list,
      PlainName t.name ∧ ShowsCreate namingSchema t := by
    intro t ht
    obtain ⟨t₀, ht₀, rfl⟩ := List.mem_map.mp ht
    obtain ⟨hplain, h₁, h₂, h₃, h₄⟩ := oneReading_shown t₀ ht₀
    split
    · exact ⟨hplain, h₁, h₂, h₃, h₄⟩
    · exact ⟨hplain, h₁, h₂, h₃, h₄⟩
  obtain ⟨s', hrun, -, htables⟩ := restore_script (fun t ht => (hshown t ht).1)
    (fun t ht => (hshown t ht).2) { tables := oneReading }
  refine ⟨_, s', hrun, ?_⟩
  rw [htables]
  decide +kernel

end NightWatcher.Backup
