import Stencil.Proofs.TomlLines
import Stencil.Toml.Datetime

/-!
# TOML files as tables

Whatever is read from a TOML file is a table, since no line replaces the table that it belongs to.
Data in which no key has the name for dates and times is the same when tables are taken for dates.
-/

namespace Stencil.Toml

-- ---------------------------------------------------------------------------
-- Tables
-- ---------------------------------------------------------------------------

namespace Item

variable {item changed table : Item} {change : Item → Option Item} {name : String}

def IsTable (item : Item) : Prop :=
  ∃ isImplied isDotted members, item = .table isImplied isDotted members

/-- A change that leaves a table a table, if it succeeds. -/
def KeepsTables (change : Item → Option Item) : Prop :=
  ∀ ⦃item changed⦄, item.IsTable → change item = some changed → changed.IsTable

theorem keepsTables_some : KeepsTables some := by
  rintro item _ hitem ⟨⟩
  exact hitem

theorem isTable_of_bind {next? : Option Item} {isImplied isDotted : Bool}
    {members : Item → List (String × Item)}
    (h : (next?.bind fun next => pure (.table isImplied isDotted (members next))) = some changed) :
    changed.IsTable := by
  obtain ⟨next, -, h⟩ := Option.bind_eq_some_iff.mp h
  cases h
  exact ⟨_, _, _, rfl⟩

theorem keepsTables_changeAt {dotted : Bool} (hchange : KeepsTables change) (path : List String) :
    KeepsTables (changeAt dotted change path) := by
  intro item changed hitem h
  cases path with
  | nil => exact hchange hitem (by simpa [changeAt] using h)
  | cons name path =>
    obtain ⟨isImplied, isDotted, members, rfl⟩ := hitem
    simp only [changeAt, Option.bind_eq_bind] at h
    repeat' split at h
    all_goals exact isTable_of_bind h

theorem keepsTables_addMember (isDottedName : Bool) (name : String) (item : Item) :
    KeepsTables (addMember isDottedName name item) := by
  rintro _ changed ⟨isImplied, isDotted, members, rfl⟩ h
  simp only [addMember, Option.ite_none_right_eq_some] at h
  cases h.2
  exact ⟨_, _, _, rfl⟩

theorem keepsTables_addPair (path : List String) (name : String) (data : Toml) :
    KeepsTables (addPair path name data) :=
  keepsTables_changeAt (keepsTables_addMember _ name _) path

end Item

namespace Draft

open Item

variable {draft next : Draft} {root : Item}

structure OfTables (draft : Draft) : Prop where
  root : draft.root.IsTable
  current : draft.current.IsTable

theorem keepsTables_addTable (name : String) (table : Item) : KeepsTables (addTable name table) := by
  rintro _ changed ⟨isImplied, isDotted, members, rfl⟩ h
  cases h
  exact ⟨_, _, _, rfl⟩

theorem keepsTables_addToList (name : String) (table : Item) :
    KeepsTables (addToList name table) := by
  rintro _ changed ⟨isImplied, isDotted, members, rfl⟩ h
  simp only [addToList] at h
  split at h
  · cases h
    exact ⟨_, _, _, rfl⟩
  · cases h

theorem keepsTables_without (name : String) : KeepsTables (without name) := by
  rintro _ changed ⟨isImplied, isDotted, members, rfl⟩ h
  cases h
  exact ⟨_, _, _, rfl⟩

theorem keepsTables_ensureList (name : String) : KeepsTables (ensureList name) := by
  rintro _ changed ⟨isImplied, isDotted, members, rfl⟩ h
  simp only [ensureList] at h
  split at h
  · cases h
    exact ⟨_, _, _, rfl⟩
  · cases h
    exact ⟨_, _, _, rfl⟩
  · cases h

theorem OfTables.settle (h : draft.OfTables) (hroot : draft.settle = some root) : root.IsTable := by
  unfold Draft.settle at hroot
  split at hroot
  · cases hroot
    exact h.current
  · exact keepsTables_changeAt (keepsTables_addTable _ _) _ h.root hroot
  · exact keepsTables_changeAt (keepsTables_addToList _ _) _ h.root hroot

theorem ofTables_openTable {path : List String} {name : String} (hroot : root.IsTable)
    (h : openTable root path name = some next) : next.OfTables := by
  unfold openTable at h
  split at h
  · obtain ⟨changed, hchanged, rfl⟩ := Option.map_eq_some_iff.mp h
    exact ⟨keepsTables_changeAt keepsTables_some path hroot hchanged, _, _, _, rfl⟩
  · obtain ⟨changed, hchanged, rfl⟩ := Option.map_eq_some_iff.mp h
    exact ⟨keepsTables_changeAt (keepsTables_without name) path hroot hchanged, _, _, _, rfl⟩
  · cases h

theorem ofTables_openInList {path : List String} {name : String} (hroot : root.IsTable)
    (h : openInList root path name = some next) : next.OfTables := by
  obtain ⟨changed, hchanged, rfl⟩ := Option.map_eq_some_iff.mp h
  exact ⟨keepsTables_changeAt (keepsTables_ensureList name) path hroot hchanged, _, _, _, rfl⟩

theorem OfTables.step {statement : Statement} (h : draft.OfTables)
    (hstep : draft.step statement = some next) : next.OfTables := by
  cases statement with
  | pair path name data =>
    obtain ⟨current, hcurrent, rfl⟩ := Option.map_eq_some_iff.mp hstep
    exact ⟨h.root, keepsTables_addPair path name data h.current hcurrent⟩
  | header path name =>
    obtain ⟨root, hroot, hopen⟩ := Option.bind_eq_some_iff.mp hstep
    exact ofTables_openTable (h.settle hroot) hopen
  | listHeader path name =>
    obtain ⟨root, hroot, hopen⟩ := Option.bind_eq_some_iff.mp hstep
    exact ofTables_openInList (h.settle hroot) hopen

theorem OfTables.run {statements : List Statement} (h : draft.OfTables)
    (hrun : statements.foldlM Draft.step draft = some next) : next.OfTables := by
  induction statements generalizing draft with
  | nil =>
    cases hrun
    exact h
  | cons statement statements ih =>
    rw [List.foldlM_cons] at hrun
    obtain ⟨middle, hstep, hrun⟩ := Option.bind_eq_some_iff.mp hrun
    exact ih (h.step hstep) hrun

theorem ofTables_start : Draft.start.OfTables :=
  ⟨⟨_, _, _, rfl⟩, _, _, _, rfl⟩

end Draft

theorem exists_table_of_read? {text : String} {data : Toml} (h : read? text = some data) :
    ∃ members, data = .table members := by
  obtain ⟨statements, -, hdata⟩ := Option.bind_eq_some_iff.mp h
  obtain ⟨item, hitem, rfl⟩ := Option.map_eq_some_iff.mp hdata
  obtain ⟨draft, hrun, hsettle⟩ := Option.bind_eq_some_iff.mp hitem
  obtain ⟨_, _, members, rfl⟩ := (Draft.ofTables_start.run hrun).settle hsettle
  exact ⟨_, rfl⟩

-- ---------------------------------------------------------------------------
-- Byte order marks
-- ---------------------------------------------------------------------------

theorem readStatements_mark (fuel : Nat) (text : List Char) :
    Reader.readStatements fuel ('\uFEFF' :: text) = none := by
  cases fuel with
  | zero => rfl
  | succ fuel =>
    have hlines : Reader.skipLines (text.length + 2) ('\uFEFF' :: text) = '\uFEFF' :: text := rfl
    have hstatement : Reader.readStatement ('\uFEFF' :: text) = none := rfl
    simp only [Reader.readStatements, List.length_cons, hlines, hstatement]
    rfl

theorem dropMark_eq_self {text : List Char} (h : text.head? ≠ some '\uFEFF') :
    dropMark text = text := by
  unfold dropMark
  split
  · simp at h
  · rfl

/-- A file that is read with its byte order mark is read alike without it. -/
theorem read?_dropMark {text : String} {data : Toml} (h : read? text = some data) :
    read? (String.ofList (dropMark text.toList)) = some data := by
  have hmark : (dropMark text.toList).head? ≠ some '\uFEFF' := by
    intro hhead
    obtain ⟨rest, hrest⟩ := List.head?_eq_some_iff.mp hhead
    obtain ⟨statements, hread, -⟩ := Option.bind_eq_some_iff.mp h
    rw [hrest, readStatements_mark] at hread
    cases hread
  rw [← h]
  simp only [read?, String.toList_ofList, dropMark_eq_self hmark]

-- ---------------------------------------------------------------------------
-- Dates and times
-- ---------------------------------------------------------------------------

/-- No key in the data is the name that stands for dates and times. -/
inductive Undated : Toml → Prop
  | string (text : String) : Undated (.string text)
  | integer (value : Int) : Undated (.integer value)
  | float (value : Float) : Undated (.float value)
  | boolean (value : Bool) : Undated (.boolean value)
  | datetime (text : String) : Undated (.datetime text)
  | array {items : List Toml} (hitems : ∀ item ∈ items, Undated item) : Undated (.array items)
  | table {members : List (String × Toml)} (hnames : ∀ member ∈ members, member.1 ≠ datetimeMember)
      (hmembers : ∀ member ∈ members, Undated member.2) : Undated (.table members)

theorem itemsWithDatetimes?_eq_self {items : List Toml}
    (h : ∀ item ∈ items, item.withDatetimes? = some item) :
    itemsWithDatetimes? items = some items := by
  induction items with
  | nil => rfl
  | cons item items ih =>
    obtain ⟨hitem, hitems⟩ := List.forall_mem_cons.mp h
    simp [itemsWithDatetimes?, hitem, ih hitems]

theorem membersWithDatetimes?_eq_self {members : List (String × Toml)}
    (h : ∀ member ∈ members, member.2.withDatetimes? = some member.2) :
    membersWithDatetimes? members = some members := by
  induction members with
  | nil => rfl
  | cons member members ih =>
    obtain ⟨hmember, hmembers⟩ := List.forall_mem_cons.mp h
    simp [membersWithDatetimes?, hmember, ih hmembers]

theorem Undated.withDatetimes? {data : Toml} (h : data.Undated) :
    data.withDatetimes? = some data := by
  induction h with
  | array _ ih => simp [Toml.withDatetimes?, itemsWithDatetimes?_eq_self ih]
  | @table members hnames _ ih =>
    cases members with
    | nil => simp [Toml.withDatetimes?]
    | cons member members =>
      have hname : member.1 ≠ datetimeMember := hnames _ List.mem_cons_self
      obtain ⟨hmember, hmembers⟩ := List.forall_mem_cons.mp ih
      simp [Toml.withDatetimes?, hname, hmember, membersWithDatetimes?_eq_self hmembers]
  | _ => simp [Toml.withDatetimes?]

end Stencil.Toml
