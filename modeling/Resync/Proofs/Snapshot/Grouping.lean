import Resync.Proofs.Snapshot.Description
import Resync.Proofs.Snapshot.Listing

/-! # Grouping of constraints

The rows of a table make up one constraint for each written name, in order of first occurrence. A
foreign key takes what it says as a whole from the first of its rows, and it has a pair of columns
for each of them, in their order; so every row has its pair in one key, and there are no other
pairs.
-/
namespace Resync

open Identifier (Facts)

variable {f : Facts} {schema table name : String}

section UniqueConstraints

variable {key : UniqueConstraint}

theorem foldl_push_uniqueConstraint (members : List (String × String)) (key : UniqueConstraint) :
    members.foldl (fun key member => key.push member.2) key =
      { key with columns := key.columns ++ members.map Prod.snd } := by
  induction members generalizing key with
  | nil => simp
  | cons member members ih =>
    rw [List.foldl_cons, ih]
    simp [UniqueConstraint.push]

theorem of_mem_uniqueConstraintsOfRows {rows : List IndexRow} (h : key ∈ uniqueConstraintsOfRows f schema table rows) :
    ∃ first ∈ rows.filterMap IndexRow.member?, key =
      { name := f.quote first.1
        schema := f.quote schema
        table := f.quote table
        columns := ((rows.filterMap IndexRow.member?).filter fun m => f.quote m.1 = key.name).map Prod.snd } := by
  obtain ⟨name, hname, hkey⟩ := Listing.mem_entries_gather.mp h
  obtain ⟨first, rest, hgroup, hrow, hfirst⟩ := Listing.exists_named hname
  rw [hgroup, Listing.entryOf?, foldl_push_uniqueConstraint, ← hgroup, Option.some.injEq] at hkey
  have hkeyName : key.name = name := by
    rw [← hkey]
    exact hfirst
  refine ⟨first, hrow, ?_⟩
  rw [hkeyName, ← hkey]
  rfl

theorem names_uniqueConstraintsOfRows (f : Facts) (schema table : String) (rows : List IndexRow) :
    (uniqueConstraintsOfRows f schema table rows).map UniqueConstraint.name =
      ((rows.filterMap IndexRow.member?).map fun member => f.quote member.1).eraseDups := by
  rw [uniqueConstraintsOfRows,
    Listing.map_entries_gather UniqueConstraint.name (fun _ => by rfl) fun _ _ => by rfl]
  rfl

end UniqueConstraints

section ForeignKeys

variable {rows : List ImportedKeyRow} {key : ForeignKey}

def ForeignKey.pairs (key : ForeignKey) : List (String × String) := key.columns.zip key.foreignColumns

def keyNames (f : Facts) (rows : List ImportedKeyRow) : List String :=
  (rows.map fun row => f.quote row.keyName).eraseDups

def rowsNamed (f : Facts) (rows : List ImportedKeyRow) (name : String) : List ImportedKeyRow :=
  rows.filter fun row => f.quote row.keyName = name

def columnPair (f : Facts) (row : ImportedKeyRow) : String × String :=
  (f.quote row.column, f.quote row.foreignColumn)

def foreignKeyOf (f : Facts) (schema table : String) (first : ImportedKeyRow) (group : List ImportedKeyRow) :
    ForeignKey where
  name := f.quote first.keyName
  schema := f.quote schema
  table := f.quote table
  foreignSchema := f.quote first.foreignSchema
  foreignTable := f.quote first.foreignTable
  columns := group.map fun row => f.quote row.column
  foreignColumns := group.map fun row => f.quote row.foreignColumn
  deleteRule := first.deleteRule
  updateRule := first.updateRule
  deferrability := first.deferrability

theorem pairs_foreignKeyOf (f : Facts) (schema table : String) (first : ImportedKeyRow)
    (group : List ImportedKeyRow) : (foreignKeyOf f schema table first group).pairs = group.map (columnPair f) :=
  List.zip_map' ..

theorem foldl_push_foreignKey (rows : List ImportedKeyRow) (key : ForeignKey) :
    rows.foldl (fun key row => key.push (f.quote row.column) (f.quote row.foreignColumn)) key =
      { key with
        columns := key.columns ++ rows.map fun row => f.quote row.column
        foreignColumns := key.foreignColumns ++ rows.map fun row => f.quote row.foreignColumn } := by
  induction rows generalizing key with
  | nil => simp
  | cons row rows ih =>
    rw [List.foldl_cons, ih]
    simp [ForeignKey.push]

theorem entryOf?_rowsNamed (schema table : String) (h : name ∈ keyNames f rows) :
    ∃ first rest, rowsNamed f rows name = first :: rest ∧ f.quote first.keyName = name ∧
      Listing.entryOf? (foreignKeyOfRow f schema table)
        (fun row key => key.push (f.quote row.column) (f.quote row.foreignColumn)) (rowsNamed f rows name) =
          some (foreignKeyOf f schema table first (rowsNamed f rows name)) := by
  obtain ⟨first, rest, hgroup, -, hfirst⟩ := Listing.exists_named h
  have hrows : rowsNamed f rows name = first :: rest := hgroup
  refine ⟨first, rest, hrows, hfirst, ?_⟩
  rw [hrows, Listing.entryOf?, foldl_push_foreignKey]
  rfl

theorem of_mem_foreignKeysOfRows (h : key ∈ foreignKeysOfRows f schema table rows) :
    ∃ first rest, rowsNamed f rows key.name = first :: rest ∧
      key = foreignKeyOf f schema table first (rowsNamed f rows key.name) := by
  obtain ⟨name, hname, hentry⟩ := Listing.mem_entries_gather.mp h
  obtain ⟨first, rest, hgroup, hfirst, hkey⟩ := entryOf?_rowsNamed schema table hname
  have he : key = foreignKeyOf f schema table first (rowsNamed f rows name) :=
    Option.some.inj (hentry.symm.trans hkey)
  have hkeyName : key.name = name := by
    rw [he]
    exact hfirst
  rw [hkeyName]
  exact ⟨first, rest, hgroup, he⟩

theorem names_foreignKeysOfRows (f : Facts) (schema table : String) (rows : List ImportedKeyRow) :
    (foreignKeysOfRows f schema table rows).map ForeignKey.name = keyNames f rows := by
  rw [foreignKeysOfRows, foreignKeyListing,
    Listing.map_entries_gather ForeignKey.name (fun _ => by rfl) fun _ _ => by rfl]
  rfl

theorem pairs_of_mem (h : key ∈ foreignKeysOfRows f schema table rows) :
    key.pairs = (rowsNamed f rows key.name).map (columnPair f) := by
  obtain ⟨first, rest, -, he⟩ := of_mem_foreignKeysOfRows h
  conv_lhs => rw [he]
  exact pairs_foreignKeyOf ..

theorem length_of_mem (h : key ∈ foreignKeysOfRows f schema table rows) :
    key.columns.length = key.foreignColumns.length := by
  obtain ⟨first, rest, -, he⟩ := of_mem_foreignKeysOfRows h
  rw [he, foreignKeyOf, List.length_map, List.length_map]

/-- Every row has its pair of columns in one key, and there are no other pairs. -/
theorem pairs_foreignKeysOfRows (f : Facts) (schema table : String) (rows : List ImportedKeyRow) :
    ((foreignKeysOfRows f schema table rows).flatMap ForeignKey.pairs).Perm (rows.map (columnPair f)) := by
  have hpairs : ∀ key ∈ foreignKeysOfRows f schema table rows,
      key.pairs = (rowsNamed f rows key.name).map (columnPair f) := fun _ => pairs_of_mem
  have hperm : ((keyNames f rows).flatMap (rowsNamed f rows)).Perm rows := Listing.named_perm _ rows
  rw [List.flatMap_congr hpairs,
    ← List.flatMap_map ForeignKey.name fun name => (rowsNamed f rows name).map (columnPair f),
    names_foreignKeysOfRows, ← List.map_flatMap]
  exact hperm.map _

/-- The place that the walk gives to a row is in the list of keys, and the key there has the row's
name. -/
theorem name_at_place (f : Facts) (schema table : String) (before : List ImportedKeyRow) (row : ImportedKeyRow) :
    let located := (foreignKeyListing f schema table before).locate (f.quote row.keyName)
      (foreignKeyOfRow f schema table row)
    ∃ key, located.2.entries[located.1]? = some key ∧ key.name = f.quote row.keyName := by
  obtain ⟨key, hkey, hgroup⟩ := (Listing.indexed_gather (fun row => f.quote row.keyName)
    (foreignKeyOfRow f schema table)
    (fun row key => key.push (f.quote row.column) (f.quote row.foreignColumn)) before).locate row
  refine ⟨key, hkey, ?_⟩
  rcases hgroup with ⟨hname, hgroup⟩ | rfl
  · obtain ⟨first, rest, -, hfirst, he⟩ := entryOf?_rowsNamed schema table hname
    have hsome : some key = some _ := hgroup.symm.trans he
    cases hsome
    exact hfirst
  · rfl

/-- The foreign keys of a table are its rows grouped by written name, whatever the order of the rows
is: one key for each name, in order of first occurrence, with the properties of the first row and
one pair of columns for each row. No row is lost or goes to another key, and the place that is
looked up for a row is always one in the list and that of its key. -/
theorem foreignKeys_grouped (f : Facts) (schema table : String) (rows : List ImportedKeyRow) (k : Connection)
    (hrows : k.schema.importedKeyRows schema table = rows) (hk : k.schema.fails "imported_keys" = false) :
    ∃ keys, Access.on k (Introspection.foreignKeys f schema table) = (.ok keys, k) ∧
      keys.map ForeignKey.name = (rows.map fun row => f.quote row.keyName).eraseDups ∧
      (keys.map ForeignKey.name).Nodup ∧
      (∀ key ∈ keys, ∃ first rest, rowsNamed f rows key.name = first :: rest ∧
        key = foreignKeyOf f schema table first (first :: rest)) ∧
      (∀ key ∈ keys, key.columns.length = key.foreignColumns.length ∧
        key.pairs = (rowsNamed f rows key.name).map (columnPair f)) ∧
      (keys.flatMap ForeignKey.pairs).Perm (rows.map (columnPair f)) ∧
      (keys.flatMap ForeignKey.pairs).length = rows.length ∧
      ∀ before row after, rows = before ++ row :: after →
        let located := (foreignKeyListing f schema table before).locate (f.quote row.keyName)
          (foreignKeyOfRow f schema table row)
        ∃ key, located.2.entries[located.1]? = some key ∧ key.name = f.quote row.keyName := by
  have hperm := pairs_foreignKeysOfRows f schema table rows
  refine ⟨foreignKeysOfRows f schema table rows, ?_, names_foreignKeysOfRows .., ?_, ?_,
    fun key hkey => ⟨length_of_mem hkey, pairs_of_mem hkey⟩, hperm, ?_,
    fun before row _ _ => name_at_place f schema table before row⟩
  · rw [Access.tells_foreignKeys.on_eq fun call hcall => by rwa [List.mem_singleton.mp hcall], hrows]
  · rw [names_foreignKeysOfRows]
    exact Listing.nodup_names _ rows
  · intro key hkey
    obtain ⟨first, rest, hgroup, he⟩ := of_mem_foreignKeysOfRows hkey
    rw [hgroup] at he
    exact ⟨first, rest, hgroup, he⟩
  · have hlength := hperm.length_eq
    rwa [List.length_map] at hlength

def scatteredRows : List ImportedKeyRow :=
  [⟨"FK", "s", "t", "x", "a", 1, Code.restrict, Code.cascade, Code.notDeferrable⟩,
    ⟨"owner", "s", "people", "id", "b", 1, Code.noAction, Code.setNull, Code.initiallyDeferred⟩,
    ⟨"\"FK\"", "s", "other", "y", "c", 2, Code.noAction, Code.noAction, Code.initiallyDeferred⟩]

/-- The first and the third row come to one key, which is that of the first row otherwise. -/
theorem foreignKeys_grouped_scattered :
    let f := Facts.ofReport "\"" [] "" ⟨false, true, true, false⟩
    let k : Connection := { schema := ⟨scatteredRows.map (.importedKey "s" "orders")⟩ }
    ∃ keys, Access.on k (Introspection.foreignKeys f "s" "orders") = (.ok keys, k) ∧
      keys.map ForeignKey.name = ["\"FK\"", "owner"] ∧ (keys.map ForeignKey.name).Nodup ∧
      (keys.flatMap ForeignKey.pairs).length = 3 := by
  intro f k
  obtain ⟨keys, hon, hnames, hnodup, -, -, -, hcount, -⟩ :=
    foreignKeys_grouped f "s" "orders" scatteredRows k (by decide) (by decide)
  refine ⟨keys, hon, hnames.trans ?_, hnodup, hcount⟩
  decide +kernel

end ForeignKeys
end Resync
