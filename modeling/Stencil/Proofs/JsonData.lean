import Stencil.Json.Reader
import Stencil.Proofs.Outcome

/-!
# JSON data and documents

JSON data is in one form only: floats are finite, and the names of an object are distinct and in
order. What a document stands for has this form, and data of this form is what the document that is
written for it stands for.
-/

namespace Stencil

-- ---------------------------------------------------------------------------
-- Sorted entries
-- ---------------------------------------------------------------------------

namespace Entries

variable {α : Type} {entries others : Entries α}

def IsSorted (entries : Entries α) : Prop :=
  entries.names.Pairwise (· < ·)

theorem sorted_perm (entries : Entries α) : entries.sorted.Perm entries :=
  List.mergeSort_perm ..

theorem IsSorted.nodup (h : entries.IsSorted) : entries.names.Nodup :=
  h.imp ne_of_lt

theorem nodup_names_sorted (h : entries.names.Nodup) : entries.sorted.names.Nodup :=
  ((sorted_perm entries).map Prod.fst).nodup_iff.mpr h

theorem isSorted_sorted (h : entries.names.Nodup) : entries.sorted.IsSorted := by
  have htrans : ∀ a b c : String × α, decide (a.1 ≤ b.1) = true → decide (b.1 ≤ c.1) = true →
      decide (a.1 ≤ c.1) = true := by
    intro a b c hab hbc
    simp only [decide_eq_true_eq] at hab hbc ⊢
    exact le_trans hab hbc
  have htotal : ∀ a b : String × α, (decide (a.1 ≤ b.1) || decide (b.1 ≤ a.1)) = true := by
    intro a b
    simpa using le_total a.1 b.1
  have hle : entries.sorted.Pairwise fun a b => a.1 ≤ b.1 := by
    simpa [sorted] using List.pairwise_mergeSort htrans htotal entries
  have hne : entries.sorted.Pairwise fun a b => a.1 ≠ b.1 :=
    List.pairwise_map.mp (nodup_names_sorted h)
  exact List.pairwise_map.mpr (hle.imp₂ (fun _ _ => lt_of_le_of_ne) hne)

theorem IsSorted.sorted_eq (h : entries.IsSorted) : entries.sorted = entries := by
  apply List.mergeSort_of_pairwise
  have hlt : entries.Pairwise fun a b => a.1 < b.1 := List.pairwise_map.mp h
  simpa using hlt.imp le_of_lt

theorem IsSorted.filter (h : entries.IsSorted) (p : String × α → Bool) :
    IsSorted (entries.filter p) :=
  h.sublist (List.filter_sublist.map Prod.fst)

theorem IsSorted.eq_of_perm (h : entries.IsSorted) (hothers : others.IsSorted)
    (hperm : entries.Perm others) : entries = others := by
  apply List.Perm.eq_of_pairwise _ (List.pairwise_map.mp h) (List.pairwise_map.mp hothers) hperm
  intro a b _ _ hab hba
  exact absurd hab (lt_asymm hba)

theorem get?_sorted (h : entries.names.Nodup) (name : String) :
    entries.sorted.get? name = entries.get? name :=
  get?_of_perm (sorted_perm entries) (nodup_names_sorted h) name

theorem mem_insert {name : String} {value : α} {entry : String × α}
    (h : entry ∈ entries.insert name value) : entry = (name, value) ∨ entry ∈ entries := by
  induction entries with
  | nil => exact .inl (List.mem_singleton.mp h)
  | cons first entries ih =>
    obtain ⟨other, old⟩ := first
    unfold insert at h
    split at h
    · exact (List.mem_cons.mp h).imp_right (List.mem_cons_of_mem _)
    · rcases List.mem_cons.mp h with rfl | h
      · exact .inr List.mem_cons_self
      · exact (ih h).imp_right (List.mem_cons_of_mem _)

theorem mem_extend {pairs : List (String × α)} {entry : String × α}
    (h : entry ∈ entries.extend pairs) : entry ∈ entries ∨ entry ∈ pairs := by
  induction pairs generalizing entries with
  | nil => exact .inl h
  | cons pair pairs ih =>
    rcases ih h with h | h
    · rcases mem_insert h with rfl | h
      · exact .inr List.mem_cons_self
      · exact .inl h
    · exact .inr (List.mem_cons_of_mem _ h)

theorem mem_ofPairs {pairs : List (String × α)} {entry : String × α} (h : entry ∈ ofPairs pairs) :
    entry ∈ pairs :=
  (mem_extend h).resolve_left List.not_mem_nil

end Entries

-- ---------------------------------------------------------------------------
-- Stored data
-- ---------------------------------------------------------------------------

namespace Json

inductive IsStored : Json → Prop
  | null : IsStored .null
  | boolean (value : Bool) : IsStored (.boolean value)
  | integer (value : Int) : IsStored (.integer value)
  | float {value : Float} (h : value.isFinite = true) : IsStored (.float value)
  | string (text : String) : IsStored (.string text)
  | array {items : List Json} (h : ∀ item ∈ items, IsStored item) : IsStored (.array items)
  | object {entries : Entries Json} (hsorted : entries.IsSorted)
    (h : ∀ entry ∈ entries, IsStored entry.2) : IsStored (.object entries)

theorem ofMembers_of_isSorted {entries : Entries Json} (h : entries.IsSorted) :
    ofMembers entries = .object entries := by
  rw [ofMembers, Entries.ofPairs_of_nodup h.nodup, h.sorted_eq]

theorem ofMembers_of_perm {members others : List (String × Json)} (hperm : members.Perm others)
    (h : (Entries.names others).Nodup) : ofMembers members = ofMembers others := by
  have hmembers : (Entries.names members).Nodup := (hperm.map Prod.fst).nodup_iff.mpr h
  have hsorted : Entries.sorted members = Entries.sorted others := by
    apply Entries.IsSorted.eq_of_perm
    · exact Entries.isSorted_sorted hmembers
    · exact Entries.isSorted_sorted h
    · exact (Entries.sorted_perm members).trans (hperm.trans (Entries.sorted_perm others).symm)
  rw [ofMembers, ofMembers, Entries.ofPairs_of_nodup hmembers, Entries.ofPairs_of_nodup h, hsorted]

theorem isStored_ofMembers {members : List (String × Json)}
    (h : ∀ member ∈ members, member.2.IsStored) : (ofMembers members).IsStored := by
  apply IsStored.object
  · exact Entries.isSorted_sorted (Entries.nodup_names_ofPairs members)
  · intro entry hentry
    exact h entry (Entries.mem_ofPairs ((Entries.sorted_perm _).mem_iff.mp hentry))

end Json

namespace Document

mutual

theorem isStored_of_toJson? (document : Document) {data : Json}
    (h : toJson? document = some data) : data.IsStored := by
  cases document with
  | null => cases h; exact .null
  | boolean value => cases h; exact .boolean value
  | integer value => cases h; exact .integer value
  | float value =>
    simp only [toJson?, Option.some.injEq] at h
    subst h
    split
    · next hfinite => exact .float hfinite
    · exact .null
  | string text => cases h; exact .string text
  | array items =>
    simp only [toJson?, Option.map_eq_some_iff] at h
    obtain ⟨data, hdata, rfl⟩ := h
    exact .array (isStored_of_itemsToJson? items hdata)
  | table members =>
    simp only [toJson?, Option.map_eq_some_iff] at h
    obtain ⟨data, hdata, rfl⟩ := h
    exact Json.isStored_ofMembers (isStored_of_membersToJson? members hdata)
  | unusable => cases h

theorem isStored_of_itemsToJson? (items : List Document) {data : List Json}
    (h : itemsToJson? items = some data) : ∀ item ∈ data, item.IsStored := by
  cases items with
  | nil => cases h; simp
  | cons item items =>
    simp only [itemsToJson?, Option.bind_eq_bind, Option.bind_eq_some_iff] at h
    obtain ⟨first, hfirst, others, hothers, h⟩ := h
    cases h
    exact List.forall_mem_cons.mpr
      ⟨isStored_of_toJson? item hfirst, isStored_of_itemsToJson? items hothers⟩

theorem isStored_of_membersToJson? (members : List (String × Document))
    {data : List (String × Json)} (h : membersToJson? members = some data) :
    ∀ member ∈ data, member.2.IsStored := by
  cases members with
  | nil => cases h; simp
  | cons member members =>
    obtain ⟨name, document⟩ := member
    simp only [membersToJson?, Option.bind_eq_bind, Option.bind_eq_some_iff] at h
    obtain ⟨first, hfirst, others, hothers, h⟩ := h
    cases h
    exact List.forall_mem_cons.mpr
      ⟨isStored_of_toJson? document hfirst, isStored_of_membersToJson? members hothers⟩

end

theorem itemsToJson?_ofItems {items : List Json}
    (h : ∀ item ∈ items, (ofJson item).toJson? = some item) :
    itemsToJson? (ofItems items) = some items := by
  induction items with
  | nil => rfl
  | cons item items ih =>
    obtain ⟨hitem, hitems⟩ := List.forall_mem_cons.mp h
    simp [ofItems, itemsToJson?, hitem, ih hitems]

theorem membersToJson?_ofMembers {members : List (String × Json)}
    (h : ∀ member ∈ members, (ofJson member.2).toJson? = some member.2) :
    membersToJson? (ofMembers members) = some members := by
  induction members with
  | nil => rfl
  | cons member members ih =>
    obtain ⟨hmember, hmembers⟩ := List.forall_mem_cons.mp h
    simp [ofMembers, membersToJson?, hmember, ih hmembers]

/-- Stored data is what its document stands for. -/
theorem toJson?_ofJson {data : Json} (h : data.IsStored) : (ofJson data).toJson? = some data := by
  induction h with
  | float h => simp [ofJson, toJson?, h]
  | array h ih => simp [ofJson, toJson?, itemsToJson?_ofItems ih]
  | object hsorted h ih =>
    simp [ofJson, toJson?, membersToJson?_ofMembers ih, Json.ofMembers_of_isSorted hsorted]
  | _ => rfl

end Document

-- ---------------------------------------------------------------------------
-- Documents that are read
-- ---------------------------------------------------------------------------

/-- No float in the document is the not-a-number or an infinity. -/
inductive Document.IsFinite : Document → Prop
  | null : IsFinite .null
  | boolean (value : Bool) : IsFinite (.boolean value)
  | integer (value : Int) : IsFinite (.integer value)
  | float {value : Float} (h : value.isFinite = true) : IsFinite (.float value)
  | string (text : String) : IsFinite (.string text)
  | array {items : List Document} (h : ∀ item ∈ items, IsFinite item) : IsFinite (.array items)
  | table {members : List (String × Document)} (h : ∀ member ∈ members, IsFinite member.2) :
    IsFinite (.table members)
  | unusable : IsFinite .unusable

namespace Json

theorem Number.isFinite_ofFloat (value : Float) : (ofFloat value).IsFinite := by
  unfold ofFloat
  split
  · next hfinite => exact .float hfinite
  · exact .unusable

theorem Number.isFinite_toDocument (number : Number) : number.toDocument.IsFinite := by
  unfold toDocument
  dsimp only
  split
  · exact .integer _
  split
  · exact .integer _
  split
  · exact .unusable
  · exact isFinite_ofFloat _

namespace Reader

theorem isFinite_tableOf {members : List (Option (List Char) × Document)}
    (h : ∀ member ∈ members, member.2.IsFinite) : (tableOf members).IsFinite := by
  unfold tableOf
  split
  · next named hnamed =>
    apply Document.IsFinite.table
    intro member hmember
    obtain ⟨read, hread, hname⟩ := mem_of_mapM_eq_some hnamed hmember
    obtain ⟨name, -, rfl⟩ := Option.map_eq_some_iff.mp hname
    exact h read hread
  · exact .unusable

structure ReadsFinite (fuel : Nat) : Prop where
  value : ∀ {depth text document rest}, readValue depth fuel text = some (document, rest) →
    document.IsFinite
  items : ∀ {depth text items rest}, readItems depth fuel text = some (items, rest) →
    ∀ item ∈ items, item.IsFinite
  members : ∀ {depth text members rest}, readMembers depth fuel text = some (members, rest) →
    ∀ member ∈ members, member.2.IsFinite

namespace ReadsFinite

variable {fuel depth : Nat} {text rest : List Char}

theorem value_succ (hfuel : ReadsFinite fuel) {document : Document}
    (h : readValue depth (fuel + 1) text = some (document, rest)) : document.IsFinite := by
  simp only [readValue] at h
  split at h
  · cases h; exact .null
  · cases h; exact .boolean true
  · cases h; exact .boolean false
  · obtain ⟨⟨content, after⟩, -, h⟩ := Option.map_eq_some_iff.mp h
    cases content <;> cases h
    · exact .unusable
    · exact .string _
  · split at h
    all_goals
      obtain ⟨⟨items, after⟩, hitems, h⟩ := Option.bind_eq_some_iff.mp h
      cases h
      split
      · exact .unusable
      apply Document.IsFinite.array
    · cases hitems
      simp
    · exact hfuel.items hitems
  · split at h
    all_goals
      obtain ⟨⟨members, after⟩, hmembers, h⟩ := Option.bind_eq_some_iff.mp h
      cases h
      split
      · exact .unusable
      apply isFinite_tableOf
    · cases hmembers
      simp
    · exact hfuel.members hmembers
  · obtain ⟨⟨number, after⟩, -, h⟩ := Option.map_eq_some_iff.mp h
    cases h
    exact number.isFinite_toDocument

theorem items_succ (hfuel : ReadsFinite fuel) {items : List Document}
    (h : readItems depth (fuel + 1) text = some (items, rest)) : ∀ item ∈ items, item.IsFinite := by
  simp only [readItems] at h
  obtain ⟨⟨item, after⟩, hitem, h⟩ := Option.bind_eq_some_iff.mp h
  split at h
  · cases h
    simpa using hfuel.value hitem
  · obtain ⟨⟨items, last⟩, hitems, h⟩ := Option.bind_eq_some_iff.mp h
    cases h
    exact List.forall_mem_cons.mpr ⟨hfuel.value hitem, hfuel.items hitems⟩
  · cases h

theorem members_succ (hfuel : ReadsFinite fuel) {members : List (Option (List Char) × Document)}
    (h : readMembers depth (fuel + 1) text = some (members, rest)) :
    ∀ member ∈ members, member.2.IsFinite := by
  simp only [readMembers] at h
  split at h
  · obtain ⟨⟨name, after⟩, -, h⟩ := Option.bind_eq_some_iff.mp h
    split at h
    · obtain ⟨⟨member, after⟩, hmember, h⟩ := Option.bind_eq_some_iff.mp h
      split at h
      · cases h
        simpa using hfuel.value hmember
      · obtain ⟨⟨members, last⟩, hmembers, h⟩ := Option.bind_eq_some_iff.mp h
        cases h
        exact List.forall_mem_cons.mpr ⟨hfuel.value hmember, hfuel.members hmembers⟩
      · cases h
    · cases h
  · cases h

end ReadsFinite

theorem readsFinite (fuel : Nat) : ReadsFinite fuel := by
  induction fuel with
  | zero => exact ⟨nofun, nofun, nofun⟩
  | succ fuel ih => exact ⟨ih.value_succ, ih.items_succ, ih.members_succ⟩

end Reader

/-- JSON text has no infinity and nothing that is not a number. -/
theorem isFinite_of_read? {text : String} {document : Document} (h : read? text = some document) :
    document.IsFinite := by
  simp only [read?] at h
  split at h
  · next hread =>
    split at h
    · cases h
      exact (Reader.readsFinite _).value hread
    · cases h
  · cases h

end Json

namespace Document

theorem isFinite_ofItems {items : List Json} (h : ∀ item ∈ items, (ofJson item).IsFinite) :
    ∀ document ∈ ofItems items, document.IsFinite := by
  induction items with
  | nil => exact nofun
  | cons item items ih =>
    obtain ⟨hitem, hitems⟩ := List.forall_mem_cons.mp h
    exact List.forall_mem_cons.mpr ⟨hitem, ih hitems⟩

theorem isFinite_ofMembers {members : List (String × Json)}
    (h : ∀ member ∈ members, (ofJson member.2).IsFinite) :
    ∀ member ∈ ofMembers members, member.2.IsFinite := by
  induction members with
  | nil => exact nofun
  | cons member members ih =>
    obtain ⟨hmember, hmembers⟩ := List.forall_mem_cons.mp h
    exact List.forall_mem_cons.mpr ⟨hmember, ih hmembers⟩

theorem isFinite_ofJson {data : Json} (h : data.IsStored) : (ofJson data).IsFinite := by
  induction h with
  | null => exact .null
  | boolean value => exact .boolean value
  | integer value => exact .integer value
  | float h => exact .float h
  | string text => exact .string text
  | array h ih => exact .array (isFinite_ofItems ih)
  | object hsorted h ih => exact .table (isFinite_ofMembers ih)

/-- A document of JSON: what a text says, or what is written for data. -/
inductive IsJson : Document → Prop
  | text {text : String} {document : Document} (h : Json.read? text = some document) :
    IsJson document
  | data {data : Json} (h : data.IsStored) : IsJson (ofJson data)

theorem IsJson.isFinite {document : Document} (h : document.IsJson) : document.IsFinite := by
  cases h with
  | text h => exact Json.isFinite_of_read? h
  | data h => exact isFinite_ofJson h

end Document

end Stencil
