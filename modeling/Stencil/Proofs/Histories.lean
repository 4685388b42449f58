import Stencil.Proofs.Chains
import Stencil.Proofs.Reads
import Stencil.Workspace

/-!
# Histories

Everything that is done to filter tables, one operation after the other, said twice: by the tables
of a workspace, and by a ledger with all that was ever registered in each of them. The tables answer
every name with what the ledger has last under it.
-/

namespace Stencil

-- ---------------------------------------------------------------------------
-- Last registrations
-- ---------------------------------------------------------------------------

namespace Entries

variable {α : Type}

def HasLast (pairs : List (String × α)) (name : String) (value : α) : Prop :=
  ∃ before after, pairs = before ++ (name, value) :: after ∧ name ∉ names after

theorem ofPairs_append (front back : List (String × α)) :
    ofPairs (front ++ back) = (ofPairs front).extend back :=
  List.foldl_append

theorem get?_ofPairs (pairs : List (String × α)) (name : String) :
    (ofPairs pairs).get? name = get? pairs.reverse name := by
  induction pairs using List.reverseRecOn with
  | nil => rfl
  | append_singleton pairs pair ih =>
    rw [ofPairs_append, List.reverse_append]
    change (insert _ _ _).get? name = get? ((pair.1, pair.2) :: pairs.reverse) name
    rw [get?_insert, get?_cons, ih]

theorem hasLast_append_singleton (pairs : List (String × α)) (pair : String × α) (name : String)
    (value : α) :
    HasLast (pairs ++ [pair]) name value ↔
      if name = pair.1 then pair.2 = value else HasLast pairs name value := by
  constructor
  · rintro ⟨before, after, hsplit, hafter⟩
    rcases List.eq_nil_or_concat' after with rfl | ⟨after, last, rfl⟩
    · obtain ⟨-, hpair⟩ := List.append_inj' hsplit rfl
      simp_all
    · rw [← List.cons_append, ← List.append_assoc] at hsplit
      obtain ⟨rfl, hpair⟩ := List.append_inj' hsplit rfl
      obtain rfl := List.singleton_inj.mp hpair
      simp only [names, List.map_append, List.mem_append, not_or] at hafter
      have hne : name ≠ pair.1 := by simpa using hafter.2
      rw [if_neg hne]
      exact ⟨before, after, rfl, hafter.1⟩
  · intro h
    split at h
    · next hname =>
      subst hname h
      exact ⟨pairs, [], rfl, by simp [names]⟩
    · next hname =>
      obtain ⟨before, after, rfl, hafter⟩ := h
      refine ⟨before, after ++ [pair], by simp, ?_⟩
      simpa [names, hname] using hafter

theorem get?_ofPairs_eq_some (pairs : List (String × α)) (name : String) (value : α) :
    (ofPairs pairs).get? name = some value ↔ HasLast pairs name value := by
  rw [get?_ofPairs]
  induction pairs using List.reverseRecOn with
  | nil => simp [HasLast]
  | append_singleton pairs pair ih =>
    rw [List.reverse_append, hasLast_append_singleton, ← ih]
    change get? ((pair.1, pair.2) :: pairs.reverse) name = _ ↔ _
    rw [get?_cons]
    split <;> simp

end Entries

-- ---------------------------------------------------------------------------
-- Tables that answer alike
-- ---------------------------------------------------------------------------

section
variable {s t : FilterTable} (h : ∀ name, s.get? name = t.get? name)
include h

theorem asked_congr (text : String) (names : List String) :
    s.asked text names = t.asked text names := by
  induction names generalizing text with
  | nil => rfl
  | cons name names ih => simp only [FilterTable.asked, h, ih]

theorem askedOf_congr (chains : List Chain) : Chain.askedOf s chains = Chain.askedOf t chains := by
  induction chains with
  | nil => rfl
  | cons chain chains ih =>
    have hmeaning : chain.meaning s = chain.meaning t :=
      change_congr fun name _ => congrArg (Option.map Filter.change) (h name)
    simp only [Chain.askedOf, Chain.asked, hmeaning, asked_congr h, ih]

theorem render_eq_of_get? (template : Template) (context : Context) :
    template.render context s =
      ⟨Node.meaningOf context t template.nodes [],
        Chain.askedOf t (Node.chainsOf context template.nodes [])⟩ := by
  have hmeaning : Node.meaningOf context s template.nodes [] =
      Node.meaningOf context t template.nodes [] :=
    Node.meaningOf_congr template.nodes (fun _ _ => rfl)
      fun name _ => congrArg (Option.map Filter.change) (h name)
  rw [Template.render, renderNodes_eq, hmeaning, askedOf_congr h]

end

-- ---------------------------------------------------------------------------
-- Operations
-- ---------------------------------------------------------------------------

inductive Operation where
  | create (name : String)
  | createEmpty (name : String)
  | copy (name : String) (source : Workspace.Table)
  /-- Keeps a table as it is, without copying it. -/
  | snapshot (name : String) (source : Workspace.Table)
  | register (table : Workspace.Table) (name : String) (filter : Filter)
  | render (template : Template) (context : Context) (table : Workspace.Table)

/-- What an operation answers: the result of a render, and else nothing. -/
abbrev Answer := Option (Except RenderError String)

namespace Operation

/-- The table that an operation may change. A render changes the shared one, whichever it uses. -/
def target : Operation → Workspace.Table
  | .create name | .createEmpty name | .copy name _ | .snapshot name _ => .kept name
  | .register table _ _ => table
  | .render .. => .shared

section
variable {σ τ : Type} (perform : σ → Operation → Answer × σ)

def runAll (state : σ) : List Operation → List Answer × σ
  | [] => ([], state)
  | operation :: operations =>
    let (answer, next) := perform state operation
    let (answers, last) := runAll next operations
    (answer :: answers, last)

theorem runAll_related {perform : σ → Operation → Answer × σ}
    {perform' : τ → Operation → Answer × τ} (related : σ → τ → Prop)
    (hstep : ∀ {state state'} operation, related state state' →
      (perform state operation).1 = (perform' state' operation).1 ∧
        related (perform state operation).2 (perform' state' operation).2)
    (operations : List Operation) {state : σ} {state' : τ} (h : related state state') :
    (runAll perform state operations).1 = (runAll perform' state' operations).1 ∧
      related (runAll perform state operations).2 (runAll perform' state' operations).2 := by
  induction operations generalizing state state' with
  | nil => exact ⟨rfl, h⟩
  | cons operation operations ih =>
    obtain ⟨hanswer, hnext⟩ := hstep operation h
    obtain ⟨hanswers, hlast⟩ := ih hnext
    exact ⟨congrArg₂ List.cons hanswer hanswers, hlast⟩

end

end Operation

namespace Workspace

theorem table?_keep (workspace : Workspace) (name : String) (table : FilterTable) (other : Table) :
    (workspace.keep name table).table? other =
      if other = .kept name then some table else workspace.table? other := by
  cases other with
  | shared => simp [keep, table?]
  | kept key => simp [keep, table?, Entries.get?_insert]

theorem table?_register (workspace : Workspace) (table : Table) (name : String) (filter : Filter)
    (other : Table) :
    (workspace.register table name filter).table? other =
      if other = table then (workspace.table? table).map (·.insert name filter)
      else workspace.table? other := by
  cases table with
  | shared => cases other <;> simp [register, table?]
  | kept key =>
    simp only [register]
    cases hk : workspace.tables.get? key with
    | none =>
      by_cases ho : other = .kept key
      · simp [ho, table?, hk]
      · simp [ho]
    | some kept =>
      rw [table?_keep]
      simp [table?, hk]

theorem table?_grant (workspace : Workspace) (requested : List (String × Filter)) (other : Table) :
    (workspace.grant requested).table? other =
      if other = .shared then (workspace.table? .shared).map (·.extend requested)
      else workspace.table? other := by
  cases other <;> simp [grant, table?]

/-- Performs an operation. One that names a table that is not there does nothing. -/
def perform (workspace : Workspace) : Operation → Answer × Workspace
  | .create name => (none, workspace.keep name .builtin)
  | .createEmpty name => (none, workspace.keep name [])
  | .copy name source | .snapshot name source =>
    match workspace.table? source with
    | none => (none, workspace)
    | some table => (none, workspace.keep name table)
  | .register table name filter => (none, workspace.register table name filter)
  | .render template context table =>
    match workspace.table? table with
    | none => (none, workspace)
    | some filters =>
      let (result, after) := workspace.render template context filters
      (some result, after)

variable {workspace : Workspace} {table : Table}

theorem table?_perform_of_ne {operation : Operation} (h : operation.target ≠ table) :
    (workspace.perform operation).2.table? table = workspace.table? table := by
  cases operation with
  | create name | createEmpty name => exact (table?_keep _ _ _ _).trans (if_neg (Ne.symm h))
  | copy name source | snapshot name source =>
    rw [perform]
    cases workspace.table? source with
    | none => rfl
    | some found => exact (table?_keep _ _ _ _).trans (if_neg (Ne.symm h))
  | register key name filter => exact (table?_register _ _ _ _ _).trans (if_neg (Ne.symm h))
  | render template context source =>
    rw [perform]
    cases workspace.table? source with
    | none => rfl
    | some filters => exact (table?_grant _ _ _).trans (if_neg (Ne.symm h))

/-- What is done elsewhere does not change a table. -/
theorem table?_runAll_of_ne (operations : List Operation)
    (h : ∀ operation ∈ operations, operation.target ≠ table) :
    (Operation.runAll perform workspace operations).2.table? table = workspace.table? table := by
  induction operations generalizing workspace with
  | nil => rfl
  | cons operation operations ih =>
    rw [List.forall_mem_cons] at h
    exact (ih h.2).trans (table?_perform_of_ne h.1)

end Workspace

-- ---------------------------------------------------------------------------
-- Ledgers
-- ---------------------------------------------------------------------------

/-- All that was registered in each table, first to last. -/
abbrev Ledger := Workspace.Table → Option (List (String × Filter))

namespace Ledger

def start : Ledger
  | .shared => some FilterTable.builtin
  | .kept _ => none

def begin (ledger : Ledger) (name : String) (history : List (String × Filter)) : Ledger :=
  Function.update ledger (.kept name) (some history)

def record (ledger : Ledger) (table : Workspace.Table) (pairs : List (String × Filter)) : Ledger :=
  Function.update ledger table ((ledger table).map (· ++ pairs))

/-- Performs an operation on histories. A copy or a snapshot begins with the history of its source
so far. A render uses the history as it is before the render, read backwards, so that the last
filter under a name comes first, and then adds the filters that its chains asked for to the shared
history, also when one of them failed. -/
def perform (ledger : Ledger) : Operation → Answer × Ledger
  | .create name => (none, ledger.begin name FilterTable.builtin)
  | .createEmpty name => (none, ledger.begin name [])
  | .copy name source | .snapshot name source =>
    match ledger source with
    | none => (none, ledger)
    | some history => (none, ledger.begin name history)
  | .register table name filter => (none, ledger.record table [(name, filter)])
  | .render template context table =>
    match ledger table with
    | none => (none, ledger)
    | some history =>
      (some (Node.meaningOf context history.reverse template.nodes []),
        ledger.record .shared
          (Chain.askedOf history.reverse (Node.chainsOf context template.nodes [])))

/-- Each table is what its history comes to. -/
def Describes (ledger : Ledger) (workspace : Workspace) : Prop :=
  ∀ table, workspace.table? table = (ledger table).map Entries.ofPairs

theorem describes_start : Describes start .start := by
  intro table
  cases table with
  | shared => rfl
  | kept name => rfl

section
variable {ledger : Ledger} {workspace : Workspace}

theorem Describes.begin (h : ledger.Describes workspace) (name : String)
    (history : List (String × Filter)) :
    (ledger.begin name history).Describes (workspace.keep name (Entries.ofPairs history)) := by
  intro table
  rw [Workspace.table?_keep, Ledger.begin, Function.update_apply]
  split
  · rfl
  · exact h table

theorem Describes.register (h : ledger.Describes workspace) (table : Workspace.Table)
    (name : String) (filter : Filter) :
    (ledger.record table [(name, filter)]).Describes (workspace.register table name filter) := by
  intro other
  rw [Workspace.table?_register, Ledger.record, Function.update_apply, h table]
  split
  · cases ledger table <;> simp [Entries.ofPairs_append, Entries.extend]
  · exact h other

theorem Describes.grant (h : ledger.Describes workspace) (requested : List (String × Filter)) :
    (ledger.record .shared requested).Describes (workspace.grant requested) := by
  intro other
  rw [Workspace.table?_grant, Ledger.record, Function.update_apply, h .shared]
  split
  · cases ledger .shared <;> simp [Entries.ofPairs_append]
  · exact h other

/-- The workspace and the ledger answer each operation alike. -/
theorem Describes.perform (h : ledger.Describes workspace) (operation : Operation) :
    (workspace.perform operation).1 = (ledger.perform operation).1 ∧
      (ledger.perform operation).2.Describes (workspace.perform operation).2 := by
  cases operation with
  | create name => exact ⟨rfl, h.begin name FilterTable.builtin⟩
  | createEmpty name => exact ⟨rfl, h.begin name []⟩
  | copy name source =>
    simp only [Workspace.perform, Ledger.perform, h source]
    cases hs : ledger source with
    | none => exact ⟨rfl, h⟩
    | some history => exact ⟨rfl, h.begin name history⟩
  | snapshot name source =>
    simp only [Workspace.perform, Ledger.perform, h source]
    cases hs : ledger source with
    | none => exact ⟨rfl, h⟩
    | some history => exact ⟨rfl, h.begin name history⟩
  | register table name filter => exact ⟨rfl, h.register table name filter⟩
  | render template context table =>
    simp only [Workspace.perform, Ledger.perform, h table]
    cases hs : ledger table with
    | none => exact ⟨rfl, h⟩
    | some history =>
      simp only [Option.map_some, Workspace.render,
        render_eq_of_get? (Entries.get?_ofPairs history)]
      exact ⟨trivial, h.grant _⟩

theorem Describes.hasLast (h : ledger.Describes workspace) (table : Workspace.Table) :
    Option.Rel (fun history filters => ∀ name filter,
        Entries.get? filters name = some filter ↔ Entries.HasLast history name filter)
      (ledger table) (workspace.table? table) := by
  rw [h table]
  cases ledger table with
  | none => exact .none
  | some history => exact .some (Entries.get?_ofPairs_eq_some history)

end

end Ledger

end Stencil
