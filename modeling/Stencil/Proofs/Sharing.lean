import Stencil.Proofs.Histories

/-!
# Sharing

Tables that are not copied when a snapshot is taken. A store keeps them in cells that several
handles may refer to. A filter is registered in place if nothing else refers to the cell, and else
in a new cell, so that the others keep what they have. A render only refers to the cell of its
table: it looks each filter up there when its turn comes, and what the filters ask for is registered
at once. None of this can be observed. A store answers as a workspace does, where a table that is
kept is a copy and a render asks for filters that are registered when it is over.
-/

namespace Stencil

/-- Filter tables in the cells of a memory. -/
structure Store where
  cells : Nat → FilterTable
  fresh : Nat
  shared : Nat
  kept : Entries Nat
  /-- The addresses that renders in progress refer to. -/
  held : List Nat

namespace Store

def start : Store := ⟨fun _ => .builtin, 1, 0, [], []⟩

def address? (store : Store) : Workspace.Table → Option Nat
  | .shared => some store.shared
  | .kept name => store.kept.get? name

def table? (store : Store) (table : Workspace.Table) : Option FilterTable :=
  (store.address? table).map store.cells

def references (store : Store) : List Nat :=
  store.shared :: (store.kept.map Prod.snd ++ store.held)

def point (store : Store) (table : Workspace.Table) (address : Nat) : Store :=
  match table with
  | .shared => { store with shared := address }
  | .kept name => { store with kept := store.kept.insert name address }

def allocate (store : Store) (table : Workspace.Table) (filters : FilterTable) : Store :=
  { store.point table store.fresh with
    cells := Function.update store.cells store.fresh filters
    fresh := store.fresh + 1 }

/-- Registers a filter through a handle: in place if the handle is all that refers to the cell, and
else in a copy. -/
def register (store : Store) (table : Workspace.Table) (name : String) (filter : Filter) : Store :=
  match store.address? table with
  | none => store
  | some address =>
    let changed := (store.cells address).insert name filter
    if store.references.count address = 1 then
      { store with cells := Function.update store.cells address changed }
    else
      store.allocate table changed

def registerAll (store : Store) (pairs : List (String × Filter)) : Store :=
  pairs.foldl (fun store pair => store.register .shared pair.1 pair.2) store

/-- Puts a text through filters, each looked up in a cell when its turn comes. What a filter asks
for is registered before the next one is looked up. -/
def throughFilters (address offset : Nat) (text : String) :
    List String → EStateM RenderError Store String
  | [] => pure text
  | name :: names => do
    let store ← get
    match (store.cells address).get? name with
    | none => throw (.unknownFilter name offset)
    | some filter => do
      modify fun store => store.registerAll (filter.requests text)
      throughFilters address offset (filter.change text) names

def writeChains (address : Nat) : List Chain → EStateM RenderError Store String
  | [] => pure ""
  | chain :: chains => do
    let front ← throughFilters address chain.offset chain.text chain.filters
    let back ← writeChains address chains
    return front ++ back

/-- Renders a template with the table of a cell, and refers to the cell meanwhile. -/
def render (store : Store) (template : Template) (context : Context) (address : Nat) :
    Except RenderError String × Store :=
  let chains := Node.chainsOf context template.nodes []
  match writeChains address chains { store with held := address :: store.held } with
  | .ok text after => (.ok text, { after with held := after.held.tail })
  | .error error after => (.error error, { after with held := after.held.tail })

def perform (store : Store) : Operation → Answer × Store
  | .create name => (none, store.allocate (.kept name) .builtin)
  | .createEmpty name => (none, store.allocate (.kept name) [])
  | .copy name source =>
    match store.table? source with
    | none => (none, store)
    | some filters => (none, store.allocate (.kept name) filters)
  | .snapshot name source =>
    match store.address? source with
    | none => (none, store)
    | some address => (none, store.point (.kept name) address)
  | .register table name filter => (none, store.register table name filter)
  | .render template context table =>
    match store.address? table with
    | none => (none, store)
    | some address =>
      let (result, after) := store.render template context address
      (some result, after)

-- ---------------------------------------------------------------------------
-- References
-- ---------------------------------------------------------------------------

/-- No reference leads to a cell that has not been given out. -/
structure Sound (store : Store) : Prop where
  handle : ∀ {table address}, store.address? table = some address → address < store.fresh
  held : ∀ {address}, address ∈ store.held → address < store.fresh

theorem sound_start : Sound start where
  handle {table address} h := by
    cases table with
    | shared => obtain rfl := Option.some.inj h; exact Nat.one_pos
    | kept name => cases h
  held h := by cases h

section
variable {store : Store}

theorem address?_point (table : Workspace.Table) (address : Nat) (other : Workspace.Table) :
    (store.point table address).address? other =
      if other = table then some address else store.address? other := by
  cases table <;> cases other <;> simp [point, address?, Entries.get?_insert]

@[simp] theorem held_point (table : Workspace.Table) (address : Nat) :
    (store.point table address).held = store.held := by
  cases table <;> rfl

@[simp] theorem cells_point (table : Workspace.Table) (address : Nat) :
    (store.point table address).cells = store.cells := by
  cases table <;> rfl

@[simp] theorem fresh_point (table : Workspace.Table) (address : Nat) :
    (store.point table address).fresh = store.fresh := by
  cases table <;> rfl

theorem one_le_count_of_get? {entries : Entries Nat} {name : String} {address : Nat}
    (h : entries.get? name = some address) : 1 ≤ (entries.map Prod.snd).count address := by
  induction entries with
  | nil => cases h
  | cons entry entries ih =>
    obtain ⟨key, value⟩ := entry
    rw [Entries.get?_cons] at h
    rw [List.map_cons, List.count_cons]
    split at h
    · simp [Option.some.inj h]
    · have := ih h
      omega

theorem two_le_count_of_get? {entries : Entries Nat} {name other : String} {address : Nat}
    (hne : other ≠ name) (hn : entries.get? name = some address)
    (ho : entries.get? other = some address) : 2 ≤ (entries.map Prod.snd).count address := by
  induction entries with
  | nil => cases hn
  | cons entry entries ih =>
    obtain ⟨key, value⟩ := entry
    rw [Entries.get?_cons] at hn ho
    rw [List.map_cons, List.count_cons]
    split at hn
    · next hname =>
      rw [if_neg (hname ▸ hne)] at ho
      have := one_le_count_of_get? ho
      simp only [Option.some.inj hn, beq_self_eq_true, if_true]
      omega
    · split at ho
      · have := one_le_count_of_get? hn
        simp only [Option.some.inj ho, beq_self_eq_true, if_true]
        omega
      · have := ih hn ho
        omega

theorem one_le_count_of_address? {table : Workspace.Table} {address : Nat}
    (h : store.address? table = some address) :
    1 ≤ (store.shared :: store.kept.map Prod.snd).count address := by
  cases table with
  | shared =>
    obtain rfl := Option.some.inj h
    simp
  | kept name =>
    have := one_le_count_of_get? h
    rw [List.count_cons]
    omega

theorem two_le_count_of_handle {table other : Workspace.Table} {address : Nat}
    (hne : other ≠ table) (ht : store.address? table = some address)
    (ho : store.address? other = some address) : 2 ≤ store.references.count address := by
  rw [references, ← List.cons_append, List.count_append, List.count_cons]
  cases table with
  | shared =>
    cases other with
    | shared => exact absurd rfl hne
    | kept name =>
      have := one_le_count_of_get? ho
      simp only [Option.some.inj ht, beq_self_eq_true, if_true]
      omega
  | kept name =>
    cases other with
    | shared =>
      have := one_le_count_of_get? ht
      simp only [Option.some.inj ho, beq_self_eq_true, if_true]
      omega
    | kept key =>
      have := two_le_count_of_get? (fun h => hne (congrArg _ h)) ht ho
      omega

theorem two_le_count_of_held {table : Workspace.Table} {address : Nat}
    (ht : store.address? table = some address) (hheld : address ∈ store.held) :
    2 ≤ store.references.count address := by
  have hhandle := one_le_count_of_address? ht
  have hcount := List.count_pos_iff.mpr hheld
  rw [references, ← List.cons_append, List.count_append]
  omega

-- ---------------------------------------------------------------------------
-- Allocation and registration
-- ---------------------------------------------------------------------------

theorem Sound.point (h : store.Sound) (table : Workspace.Table) {address : Nat}
    (haddress : address < store.fresh) : (store.point table address).Sound where
  handle {other found} ho := by
    rw [address?_point] at ho
    rw [fresh_point]
    split at ho
    · exact Option.some.inj ho ▸ haddress
    · exact h.handle ho
  held hheld := by
    rw [held_point] at hheld
    rw [fresh_point]
    exact h.held hheld

theorem table?_point (table : Workspace.Table) (address : Nat) (other : Workspace.Table) :
    (store.point table address).table? other =
      if other = table then some (store.cells address) else store.table? other := by
  rw [table?, address?_point, cells_point]
  split <;> rfl

theorem Sound.allocate (h : store.Sound) (table : Workspace.Table) (filters : FilterTable) :
    (store.allocate table filters).Sound where
  handle {other found} ho := by
    change (store.point table store.fresh).address? other = some found at ho
    change found < store.fresh + 1
    rw [address?_point] at ho
    split at ho
    · exact Option.some.inj ho ▸ Nat.lt_succ_self _
    · exact (h.handle ho).trans (Nat.lt_succ_self _)
  held {found} hheld := by
    change found ∈ (store.point table store.fresh).held at hheld
    rw [held_point] at hheld
    exact (h.held hheld).trans (Nat.lt_succ_self _)

theorem Sound.table?_allocate (h : store.Sound) (table : Workspace.Table) (filters : FilterTable)
    (other : Workspace.Table) :
    (store.allocate table filters).table? other =
      if other = table then some filters else store.table? other := by
  change ((store.point table store.fresh).address? other).map
    (Function.update store.cells store.fresh filters) = _
  rw [address?_point]
  split
  · exact congrArg some (Function.update_self _ _ _)
  · rw [table?]
    cases ho : store.address? other with
    | none => rfl
    | some address => exact congrArg some (Function.update_of_ne (h.handle ho).ne _ _)

theorem Sound.register (h : store.Sound) (table : Workspace.Table) (name : String)
    (filter : Filter) : (store.register table name filter).Sound := by
  rw [Store.register]
  split
  · exact h
  · split
    · exact ⟨h.handle, h.held⟩
    · exact h.allocate table _

/-- Registering through a handle changes what it refers to, and nothing that others refer to. -/
theorem Sound.table?_register (h : store.Sound) (table : Workspace.Table) (name : String)
    (filter : Filter) (other : Workspace.Table) :
    (store.register table name filter).table? other =
      if other = table then (store.table? table).map (·.insert name filter)
      else store.table? other := by
  rw [Store.register]
  cases ht : store.address? table with
  | none =>
    by_cases ho : other = table
    · simp [ho, table?, ht]
    · simp [ho]
  | some address =>
    have hfilters : store.table? table = some (store.cells address) := by rw [table?, ht]; rfl
    simp only [hfilters, Option.map_some]
    split
    -- in place: another handle of this cell would be a second reference
    · next hcount =>
      change (store.address? other).map (Function.update store.cells address _) = _
      split
      · next heq =>
        rw [heq, ht]
        exact congrArg some (Function.update_self _ _ _)
      · next hne =>
        rw [table?]
        cases ho : store.address? other with
        | none => rfl
        | some found =>
          refine congrArg some (Function.update_of_ne ?_ _ _)
          rintro rfl
          have := two_le_count_of_handle hne ht ho
          omega
    · exact h.table?_allocate table _ other

theorem held_register (table : Workspace.Table) (name : String) (filter : Filter) :
    (store.register table name filter).held = store.held := by
  rw [register]
  split
  · rfl
  · split
    · rfl
    · exact held_point table store.fresh

/-- A cell that a render refers to keeps its table. -/
theorem Sound.cells_register (h : store.Sound) (table : Workspace.Table) (name : String)
    (filter : Filter) {address : Nat} (hheld : address ∈ store.held) :
    (store.register table name filter).cells address = store.cells address := by
  rw [Store.register]
  split
  · rfl
  · next found ht =>
    split
    · next hcount =>
      refine Function.update_of_ne ?_ _ _
      rintro rfl
      have := two_le_count_of_held ht hheld
      omega
    · exact Function.update_of_ne (h.held hheld).ne _ _

-- ---------------------------------------------------------------------------
-- Stores and workspaces
-- ---------------------------------------------------------------------------

structure Agrees (store : Store) (workspace : Workspace) : Prop where
  sound : store.Sound
  table? : ∀ table, store.table? table = workspace.table? table

theorem agrees_start : Agrees start .start where
  sound := sound_start
  table? table := by cases table <;> rfl

variable {workspace : Workspace}

theorem Agrees.allocate (h : store.Agrees workspace) (name : String) (filters : FilterTable) :
    (store.allocate (.kept name) filters).Agrees (workspace.keep name filters) where
  sound := h.sound.allocate (.kept name) filters
  table? other := by
    rw [h.sound.table?_allocate, workspace.table?_keep, h.table?]

theorem Agrees.point (h : store.Agrees workspace) (name : String) {source : Workspace.Table}
    {address : Nat} (hs : store.address? source = some address) :
    (store.point (.kept name) address).Agrees (workspace.keep name (store.cells address)) where
  sound := h.sound.point (.kept name) (h.sound.handle hs)
  table? other := by
    rw [table?_point, workspace.table?_keep, h.table?]

theorem Agrees.register (h : store.Agrees workspace) (table : Workspace.Table) (name : String)
    (filter : Filter) :
    (store.register table name filter).Agrees (workspace.register table name filter) where
  sound := h.sound.register table name filter
  table? other := by
    rw [h.sound.table?_register, workspace.table?_register, h.table?, h.table?]

theorem Agrees.release (h : store.Agrees workspace) :
    Agrees { store with held := store.held.tail } workspace where
  sound := ⟨h.sound.handle, fun hmem => h.sound.held (List.mem_of_mem_tail hmem)⟩
  table? := h.table?

-- ---------------------------------------------------------------------------
-- Renders in progress
-- ---------------------------------------------------------------------------

/-- A render in progress that refers to a cell with the table `filters`, beside the references
`held`. -/
structure Renders (address : Nat) (filters : FilterTable) (held : List Nat) (store : Store)
    (workspace : Workspace) : Prop where
  agrees : store.Agrees workspace
  held_eq : store.held = address :: held
  cell : store.cells address = filters

variable {address : Nat} {filters : FilterTable} {held : List Nat}

theorem Renders.registerAll (h : Renders address filters held store workspace)
    (pairs : List (String × Filter)) :
    Renders address filters held (store.registerAll pairs) (workspace.grant pairs) := by
  induction pairs generalizing store workspace with
  | nil => exact h
  | cons pair pairs ih =>
    have hheld : address ∈ store.held := h.held_eq ▸ List.mem_cons_self
    have hnext : Renders address filters held (store.register .shared pair.1 pair.2)
        (workspace.register .shared pair.1 pair.2) :=
      { agrees := h.agrees.register .shared pair.1 pair.2
        held_eq := (held_register .shared pair.1 pair.2).trans h.held_eq
        cell := (h.agrees.sound.cells_register .shared pair.1 pair.2 hheld).trans h.cell }
    exact ih hnext

/-- A step of a render gives `result`, and has registered the filters `new` in the end. -/
def Gives {α : Type} (address : Nat) (filters : FilterTable) (held : List Nat)
    (workspace : Workspace) (result : Except RenderError α) (new : List (String × Filter)) :
    EStateM.Result RenderError Store α → Prop :=
  EndsIn
    (fun value after =>
      result = .ok value ∧ Renders address filters held after (workspace.grant new))
    (fun error after =>
      result = .error error ∧ Renders address filters held after (workspace.grant new))

theorem grant_grant (front back : List (String × Filter)) :
    (workspace.grant front).grant back = workspace.grant (front ++ back) :=
  congrArg (Workspace.mk · workspace.tables) List.foldl_append.symm

theorem Gives.of_grant {α : Type} {result : Except RenderError α}
    {front back : List (String × Filter)} {ended : EStateM.Result RenderError Store α}
    (h : Gives address filters held (workspace.grant front) result back ended) :
    Gives address filters held workspace result (front ++ back) ended := by
  rwa [Gives, grant_grant] at h

/-- What is registered meanwhile does not get in the way of the filters of a render. -/
theorem Renders.throughFilters (h : Renders address filters held store workspace) (offset : Nat)
    (text : String) (names : List String) :
    Gives address filters held workspace (filters.change offset text names)
      (filters.asked text names) (throughFilters address offset text names store) := by
  induction names generalizing store workspace text with
  | nil => exact ⟨rfl, h⟩
  | cons name names ih =>
    rw [Store.throughFilters]
    change Gives _ _ _ _ _ _ ((match (store.cells address).get? name with
      | none => throw (RenderError.unknownFilter name offset)
      | some filter => do
        modify fun store : Store => store.registerAll (filter.requests text)
        Store.throughFilters address offset (filter.change text) names) store)
    rw [h.cell, FilterTable.change, FilterTable.asked]
    cases filters.get? name with
    | none => exact ⟨rfl, h⟩
    | some filter =>
      exact (ih (h.registerAll (filter.requests text)) (filter.change text)).of_grant

theorem Gives.seq {front back : Except RenderError String} {new more : List (String × Filter)}
    {first second : EStateM RenderError Store String}
    (hfirst : Gives address filters held workspace front new (first store))
    (hsecond : ∀ {middle workspace}, Renders address filters held middle workspace →
      Gives address filters held workspace back more (second middle)) :
    Gives address filters held workspace (do let a ← front; let b ← back; return a ++ b)
      (new ++ if front.isOk then more else [])
      ((do let a ← first; let b ← second; return a ++ b) store) := by
  refine EndsIn.bind hfirst ?_ ?_
  · rintro a middle ⟨rfl, hmiddle⟩
    refine EndsIn.bind (hsecond hmiddle).of_grant ?_ ?_
    · rintro b after ⟨rfl, hafter⟩
      exact ⟨rfl, hafter⟩
    · rintro error after ⟨rfl, hafter⟩
      exact ⟨rfl, hafter⟩
  · rintro error after ⟨rfl, hafter⟩
    exact ⟨rfl, by simpa [Except.isOk, Except.toBool] using hafter⟩

theorem Renders.writeChains (h : Renders address filters held store workspace)
    (chains : List Chain) :
    Gives address filters held workspace (concat (chains.map (Chain.meaning filters)))
      (Chain.askedOf filters chains) (writeChains address chains store) := by
  induction chains generalizing store workspace with
  | nil => exact ⟨rfl, h⟩
  | cons chain chains ih =>
    rw [Store.writeChains, List.map_cons, concat, Chain.askedOf]
    exact (h.throughFilters chain.offset chain.text chain.filters).seq fun hmiddle => ih hmiddle

/-- A render that looks its filters up when their turn comes is one with the table as it was when
the render began. -/
theorem Agrees.render (h : store.Agrees workspace) (template : Template) (context : Context)
    {table : Workspace.Table} {address : Nat} (ht : store.address? table = some address) :
    (store.render template context address).1 =
        (workspace.render template context (store.cells address)).1 ∧
      (store.render template context address).2.Agrees
        (workspace.render template context (store.cells address)).2 := by
  have hbegin : Renders address (store.cells address) store.held
      { store with held := address :: store.held } workspace :=
    { agrees := { sound := ⟨h.sound.handle, fun hmem => ?_⟩, table? := h.table? }
      held_eq := rfl
      cell := rfl }
  · have hend := hbegin.writeChains (Node.chainsOf context template.nodes [])
    rw [Workspace.render, Template.render, renderNodes_eq_chains, Store.render]
    simp only
    cases hrun : Store.writeChains address (Node.chainsOf context template.nodes [])
        { store with held := address :: store.held } with
    | ok text after =>
      rw [hrun] at hend
      obtain ⟨hresult, hafter⟩ := hend
      exact ⟨hresult.symm, hafter.agrees.release⟩
    | error error after =>
      rw [hrun] at hend
      obtain ⟨hresult, hafter⟩ := hend
      exact ⟨hresult.symm, hafter.agrees.release⟩
  · rcases List.mem_cons.mp hmem with rfl | hmem
    · exact h.sound.handle ht
    · exact h.sound.held hmem

theorem Agrees.perform (h : store.Agrees workspace) (operation : Operation) :
    (store.perform operation).1 = (workspace.perform operation).1 ∧
      (store.perform operation).2.Agrees (workspace.perform operation).2 := by
  have htable : ∀ {table address}, store.address? table = some address →
      workspace.table? table = some (store.cells address) := fun ht => by
    rw [← h.table?, Store.table?, ht]
    rfl
  have hnone : ∀ {table}, store.address? table = none → workspace.table? table = none :=
    fun ht => by
      rw [← h.table?, Store.table?, ht]
      rfl
  cases operation with
  | create name => exact ⟨rfl, h.allocate name .builtin⟩
  | createEmpty name => exact ⟨rfl, h.allocate name []⟩
  | copy name source =>
    simp only [Store.perform, Workspace.perform, h.table?]
    cases workspace.table? source with
    | none => exact ⟨rfl, h⟩
    | some filters => exact ⟨rfl, h.allocate name filters⟩
  | snapshot name source =>
    simp only [Store.perform, Workspace.perform]
    cases hs : store.address? source with
    | none =>
      rw [hnone hs]
      exact ⟨rfl, h⟩
    | some address =>
      rw [htable hs]
      exact ⟨rfl, h.point name hs⟩
  | register table name filter => exact ⟨rfl, h.register table name filter⟩
  | render template context table =>
    simp only [Store.perform, Workspace.perform]
    cases ht : store.address? table with
    | none =>
      rw [hnone ht]
      exact ⟨rfl, h⟩
    | some address =>
      rw [htable ht]
      obtain ⟨hanswer, hafter⟩ := h.render template context ht
      exact ⟨congrArg some hanswer, hafter⟩

end

end Store

/-- The tables of a program are isolated from each other, though they share cells and filters are
registered in the middle of a render. After any operations the store, the workspace and the ledger
have given the same answers. A table then answers each name with the filter that its own history has
last under it. Nothing that is done elsewhere later changes it. A render writes what the template
means with its table as it is when the render begins, and what its filters ask for is in the shared
table afterwards, also when the render fails. -/
theorem runAll_isolated (operations : List Operation) :
    let workspace := Operation.runAll Workspace.perform .start operations
    let store := Operation.runAll Store.perform .start operations
    let ledger := Operation.runAll Ledger.perform .start operations
    workspace.1 = ledger.1 ∧ store.1 = ledger.1 ∧
      (∀ table,
        store.2.table? table = workspace.2.table? table ∧
          Option.Rel (fun history filters => ∀ name filter,
              Entries.get? filters name = some filter ↔ Entries.HasLast history name filter)
            (ledger.2 table) (store.2.table? table) ∧
          ∀ later : List Operation, (∀ operation ∈ later, operation.target ≠ table) →
            (Operation.runAll Store.perform store.2 later).2.table? table =
              store.2.table? table) ∧
      ∀ template context table filters shared,
        store.2.table? table = some filters → store.2.table? .shared = some shared →
          (store.2.perform (.render template context table)).1 =
              some (Node.meaningOf context filters template.nodes []) ∧
            (store.2.perform (.render template context table)).2.table? .shared =
              some (shared.extend
                (Chain.askedOf filters (Node.chainsOf context template.nodes []))) := by
  intro workspace store ledger
  obtain ⟨hledger, hdescribes⟩ :=
    Operation.runAll_related (fun workspace ledger => Ledger.Describes ledger workspace)
      (fun operation h => h.perform operation) operations Ledger.describes_start
  obtain ⟨hstore, hagrees⟩ :=
    Operation.runAll_related Store.Agrees (fun operation h => h.perform operation) operations
      Store.agrees_start
  refine ⟨hledger, hstore.trans hledger, fun table => ⟨hagrees.table? table, ?_, ?_⟩, ?_⟩
  · rw [hagrees.table? table]
    exact hdescribes.hasLast table
  · intro later hlater
    have hafter := (Operation.runAll_related Store.Agrees (fun operation h => h.perform operation)
      later hagrees).2
    rw [hafter.table?, hagrees.table?]
    exact Workspace.table?_runAll_of_ne later hlater
  · intro template context table filters shared ht hs
    obtain ⟨hanswer, hafter⟩ := hagrees.perform (.render template context table)
    rw [hagrees.table?] at ht hs
    rw [hanswer, hafter.table?]
    simp only [Workspace.perform, ht, Workspace.render, Template.render, renderNodes_eq]
    exact ⟨trivial, by rw [Workspace.table?_grant, if_pos rfl, hs]; rfl⟩

/-- A filter replaces one that the same render uses after it, and a later filter is missing. The
render does not see the replacement, but the shared table has it afterwards, and an older snapshot
stays as it was. -/
theorem runAll_isolated_replaced :
    let filters : FilterTable :=
      [("late", .plain (· ++ "?")), ("swap", .registering "late" (.plain (· ++ "!")))]
    let operations : List Operation :=
      .snapshot "older" .shared :: filters.map fun entry => .register .shared entry.1 entry.2
    let store := (Operation.runAll Store.perform .start operations).2
    let template (names : List String) : Template :=
      ⟨[.output ⟨"x", []⟩ ["swap"] 0, .output ⟨"x", []⟩ names 14]⟩
    let render (names : List String) : Operation :=
      .render (template names) [("x", .string "a")] .shared
    (store.perform (render ["late"])).1 = some (.ok "aa?") ∧
      (store.perform (render ["late", "missing"])).1 =
        some (.error (.unknownFilter "missing" 14)) ∧
      ((store.perform (render ["late", "missing"])).2.table? .shared).map
        (fun table => table.change 0 "a" ["late"]) = some (.ok "a!") ∧
      (Operation.runAll Store.perform store [render ["late"], render ["missing"]]).2.table?
        (.kept "older") = some .builtin := by
  intro filters operations store template render
  obtain ⟨-, -, htables, hrenders⟩ := runAll_isolated operations
  have hshared : store.table? .shared = some (FilterTable.builtin ++ filters) := rfl
  have hrender (names : List String) :=
    hrenders (template names) [("x", .string "a")] .shared _ _ hshared hshared
  have holder := (htables (.kept "older")).2.2 [render ["late"], render ["missing"]]
    (by simp [render, Operation.target])
  refine ⟨(hrender ["late"]).1.trans rfl, (hrender ["late", "missing"]).1.trans rfl, ?_,
    holder.trans rfl⟩
  rw [(hrender ["late", "missing"]).2]
  rfl

end Stencil
