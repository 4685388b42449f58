/-!
# Ordered entries

Named values in the order in which their names were first written. Inserting under a name that is
already there keeps its place and changes its value, so a reader sees each name once and in
first-written order.
-/

namespace Stencil

/-- Named values in order. A name counts where it stands first. -/
abbrev Entries (α : Type) := List (String × α)

namespace Entries

variable {α β : Type}

def get? (entries : Entries α) (name : String) : Option α :=
  List.lookup name entries

def contains (entries : Entries α) (name : String) : Bool :=
  (entries.get? name).isSome

/-- Sets the value under a name, in place if the name is there and else at the end. -/
def insert (entries : Entries α) (name : String) (value : α) : Entries α :=
  match entries with
  | [] => [(name, value)]
  | (other, old) :: rest =>
    if name = other then (name, value) :: rest else (other, old) :: insert rest name value

def extend (entries : Entries α) (pairs : List (String × α)) : Entries α :=
  pairs.foldl (fun all pair => all.insert pair.1 pair.2) entries

/-- The entries that a list of pairs stands for: a repeated name keeps its first place and takes
its last value. -/
def ofPairs (pairs : List (String × α)) : Entries α :=
  extend [] pairs

def names (entries : Entries α) : List String :=
  entries.map Prod.fst

def sorted (entries : Entries α) : Entries α :=
  entries.mergeSort fun a b => decide (a.1 ≤ b.1)

@[simp] theorem get?_nil (name : String) : get? ([] : Entries α) name = none := rfl

theorem get?_cons (other : String) (value : α) (rest : Entries α) (name : String) :
    get? ((other, value) :: rest) name = if name = other then some value else rest.get? name := by
  by_cases h : name = other
  · simp [get?, h]
  · simp [get?, List.lookup_cons, h, beq_false_of_ne h]

theorem get?_insert (entries : Entries α) (name : String) (value : α) (other : String) :
    (entries.insert name value).get? other =
      if other = name then some value else entries.get? other := by
  induction entries with
  | nil => simp [insert, get?_cons]
  | cons entry rest ih =>
    obtain ⟨key, old⟩ := entry
    by_cases h : name = key
    · subst h
      by_cases ho : other = name <;> simp [insert, get?_cons, ho]
    · by_cases ho : other = key
      · subst ho
        simp [insert, get?_cons, h, Ne.symm h]
      · simp [insert, get?_cons, h, ho, ih]

/-- A name that is there keeps its place; a new one comes last. -/
theorem names_insert (entries : Entries α) (name : String) (value : α) :
    (entries.insert name value).names =
      if name ∈ entries.names then entries.names else entries.names ++ [name] := by
  induction entries with
  | nil => simp [insert, names]
  | cons entry rest ih =>
    obtain ⟨key, old⟩ := entry
    by_cases h : name = key
    · subst h
      simp [insert, names]
    · have hn : names ((key, old) :: rest) = key :: names rest := rfl
      have hi : names (insert ((key, old) :: rest) name value) =
          key :: names (insert rest name value) := by simp [insert, h, names]
      rw [hi, ih, hn]
      by_cases hr : name ∈ names rest <;> simp [hr, h]

theorem get?_of_not_mem {entries : Entries α} {name : String} (h : name ∉ entries.names) :
    entries.get? name = none := by
  induction entries with
  | nil => rfl
  | cons entry rest ih =>
    simp only [names, List.map_cons, List.mem_cons, not_or] at h
    rw [get?_cons, if_neg h.1, ih h.2]

theorem get?_of_perm {entries others : Entries α} (h : entries.Perm others)
    (hnames : entries.names.Nodup) (name : String) : entries.get? name = others.get? name := by
  induction h with
  | nil => rfl
  | cons entry _ ih =>
    obtain ⟨other, value⟩ := entry
    rw [get?_cons, get?_cons, ih (List.nodup_cons.mp hnames).2]
  | swap first second entries =>
    obtain ⟨first, a⟩ := first
    obtain ⟨second, b⟩ := second
    have hne : second ≠ first := by
      rintro rfl
      exact (List.nodup_cons.mp hnames).1 List.mem_cons_self
    by_cases hname : name = first
    · simp [get?_cons, hname, Ne.symm hne]
    · simp [get?_cons, hname]
  | trans hfirst _ ihfirst ihsecond =>
    rw [ihfirst hnames, ihsecond ((hfirst.map Prod.fst).nodup_iff.mp hnames)]

theorem insert_of_not_mem {entries : Entries α} {name : String} (h : name ∉ entries.names)
    (value : α) : entries.insert name value = entries ++ [(name, value)] := by
  induction entries with
  | nil => rfl
  | cons entry rest ih =>
    obtain ⟨key, old⟩ := entry
    simp only [names, List.map_cons, List.mem_cons, not_or] at h
    simp [insert, h.1, ih h.2]

theorem extend_of_nodup {entries : Entries α} {pairs : List (String × α)}
    (h : (names (entries ++ pairs)).Nodup) : entries.extend pairs = entries ++ pairs := by
  induction pairs generalizing entries with
  | nil => simp [extend]
  | cons pair pairs ih =>
    have hnew : pair.1 ∉ entries.names := by
      simp only [names, List.map_append, List.map_cons, List.nodup_append] at h
      intro hmem
      exact h.2.2 _ hmem _ List.mem_cons_self rfl
    have hinsert := insert_of_not_mem hnew pair.2
    have hrest : extend (entries ++ [pair]) pairs = entries ++ [pair] ++ pairs :=
      ih (by simpa using h)
    calc entries.extend (pair :: pairs)
      _ = (entries.insert pair.1 pair.2).extend pairs := rfl
      _ = entries ++ pair :: pairs := by rw [hinsert, hrest]; simp

theorem ofPairs_of_nodup {pairs : List (String × α)} (h : (names pairs).Nodup) :
    ofPairs pairs = pairs :=
  extend_of_nodup h

theorem nodup_names_insert {entries : Entries α} (h : entries.names.Nodup) (name : String)
    (value : α) : (entries.insert name value).names.Nodup := by
  rw [names_insert]
  split
  · exact h
  · next hnew =>
    have hne : ∀ other ∈ entries.names, ¬other = name := by
      rintro other hother rfl
      exact hnew hother
    simpa [List.nodup_append, h] using hne

theorem nodup_names_extend {entries : Entries α} (h : entries.names.Nodup)
    (pairs : List (String × α)) : (entries.extend pairs).names.Nodup := by
  induction pairs generalizing entries with
  | nil => exact h
  | cons pair pairs ih => exact ih (nodup_names_insert h pair.1 pair.2)

theorem nodup_names_ofPairs (pairs : List (String × α)) : (ofPairs pairs).names.Nodup := by
  apply nodup_names_extend
  exact List.nodup_nil

end Entries

end Stencil
