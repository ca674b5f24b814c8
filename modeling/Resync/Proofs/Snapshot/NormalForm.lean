import Resync.Proofs.Identifier.Written
import Resync.Proofs.Snapshot.Grouping
import Resync.Proofs.Snapshot.Rows

/-! # Normal form of a snapshot

Every name in a snapshot that goes into a statement stands as it has to be written, so quoting it
once more does not change it, whatever the quote string is. The columns of keys and the columns of
an entry are written alike, so a column that a key names is found if the backend reports it.
-/
namespace Resync

open Identifier (Facts)

structure UniqueConstraint.Normal (key : UniqueConstraint) (f : Facts) : Prop where
  name : f.Written key.name
  schema : f.Written key.schema
  table : f.Written key.table

structure ForeignKey.Normal (key : ForeignKey) (f : Facts) : Prop where
  name : f.Written key.name
  schema : f.Written key.schema
  table : f.Written key.table
  foreignSchema : f.Written key.foreignSchema
  foreignTable : f.Written key.foreignTable
  columns : ∀ column ∈ key.columns, f.Written column
  foreignColumns : ∀ column ∈ key.foreignColumns, f.Written column

/-- The members of unique constraints stay as they are reported, those of the primary key do not. -/
structure Table.Normal (t : Table) (f : Facts) : Prop where
  schema : f.Written t.schema
  name : f.Written t.name
  columns : ∀ name column, t.columns.get? name = some column → column.name = name ∧ f.Written name
  primaryKey : ∀ key, t.primaryKey = some key → key.Normal f ∧ ∀ column ∈ key.columns, f.Written column
  uniqueConstraints : ∀ key ∈ t.uniqueConstraints, key.Normal f
  foreignKeys : ∀ key ∈ t.foreignKeys, key.Normal f

structure Snapshot.Normal (p : Snapshot) : Prop where
  schemas : ∀ schema names, p.schemas.get? schema = some names →
    p.facts.Written schema ∧ ∀ name ∈ names, p.facts.Written name
  tables : ∀ t ∈ p.tables, t.Normal p.facts

/-- The columns are the written forms of the raw names, and the entry has each of them whose raw
name is reported. -/
structure Table.Covers (t : Table) (f : Facts) (reported raw columns : List String) : Prop where
  written : columns = raw.map f.quote
  kept : ∀ name ∈ raw, name ∈ reported → f.quote name ∈ t.columns.keys

theorem written_of_mem_map {α : Type} {f : Facts} {g : α → String} {l : List α} {name : String}
    (h : name ∈ l.map fun x => f.quote (g x)) : f.Written name := by
  obtain ⟨x, -, rfl⟩ := List.mem_map.mp h
  exact f.written_quote (g x)

namespace Schema

def columnNames (s : Schema) (row : TableRow) : List String :=
  (s.columnRows row.schema row.name).map (·.name)

def primaryKeyColumns (s : Schema) (row : TableRow) : List String :=
  (s.primaryKeyRows row.schema row.name).map (·.column)

def foreignKeyColumns (s : Schema) (f : Facts) (row : TableRow) (key : String) : List String :=
  ((s.importedKeyRows row.schema row.name).filter fun r => f.quote r.keyName = key).map (·.column)

variable (s : Schema)

theorem normal_tableOf (row : TableRow) : (s.tableOf row).Normal s.facts := by
  have hq : ∀ name, s.facts.Written (s.facts.quote name) := s.facts.written_quote
  constructor
  · exact hq row.schema
  · exact hq row.name
  · intro name column hcolumn
    obtain ⟨hname, r, -, rfl⟩ := of_get?_columnsOfRows hcolumn
    exact ⟨hname, hq r.name⟩
  · intro key hkey
    obtain ⟨first, -, rfl⟩ := of_primaryKeyOfRows hkey
    exact ⟨⟨hq _, hq _, hq _⟩, fun _ => written_of_mem_map⟩
  · intro key hkey
    obtain ⟨first, -, he⟩ := of_mem_uniqueConstraintsOfRows hkey
    rw [he]
    exact ⟨hq _, hq _, hq _⟩
  · intro key hkey
    obtain ⟨first, rest, -, he⟩ := of_mem_foreignKeysOfRows hkey
    rw [he]
    exact ⟨hq _, hq _, hq _, hq _, hq _, fun _ => written_of_mem_map, fun _ => written_of_mem_map⟩

theorem normal_described : s.described.Normal := by
  constructor
  · intro schema names hnames
    have hlisted : s.described.schemas.get? schema = _ := get?_tablesBySchema s.facts s.properTables schema
    rw [hlisted, Option.ite_none_right_eq_some] at hnames
    obtain ⟨hschema, ⟨⟩⟩ := hnames
    exact ⟨written_of_mem_map hschema, fun _ => written_of_mem_map⟩
  · intro t ht
    obtain ⟨row, -, rfl⟩ := List.mem_map.mp ht
    exact s.normal_tableOf row

theorem covers_tableOf (row : TableRow) {raw columns : List String}
    (hwritten : columns = raw.map s.facts.quote) :
    (s.tableOf row).Covers s.facts (s.columnNames row) raw columns := by
  refine ⟨hwritten, fun name _ hreported => ?_⟩
  obtain ⟨r, hr, hname⟩ := List.mem_map.mp hreported
  exact mem_keys_columnsOfRows.mpr ⟨r, hr, congrArg s.facts.quote hname⟩

theorem primaryKey_tableOf {row : TableRow} {key : UniqueConstraint}
    (h : (s.tableOf row).primaryKey = some key) :
    key.columns = (s.primaryKeyColumns row).map s.facts.quote := by
  obtain ⟨first, -, rfl⟩ := of_primaryKeyOfRows h
  rw [primaryKeyColumns, List.map_map]
  rfl

theorem foreignKeys_tableOf {row : TableRow} {key : ForeignKey} (h : key ∈ (s.tableOf row).foreignKeys) :
    key.columns = (s.foreignKeyColumns s.facts row key.name).map s.facts.quote := by
  obtain ⟨first, rest, -, he⟩ := of_mem_foreignKeysOfRows h
  rw [foreignKeyColumns, List.map_map]
  exact congrArg ForeignKey.columns he

end Schema

namespace Snapshot

variable {p : Snapshot} {k : Connection}

/-- All names stand as they have to be written, and an entry has the columns of its primary key and
of its foreign keys, if the backend reports them among the columns of the table. -/
theorem normal_of_load (hload : (Access.on k load).1 = .ok p) :
    p.Normal ∧
    ∀ (i : Nat) (t : Table), p.tables[i]? = some t →
      ∃ row, k.schema.properTables[i]? = some row ∧
        (∀ key, t.primaryKey = some key →
          t.Covers p.facts (k.schema.columnNames row) (k.schema.primaryKeyColumns row) key.columns) ∧
        ∀ key ∈ t.foreignKeys,
          t.Covers p.facts (k.schema.columnNames row) (k.schema.foreignKeyColumns p.facts row key.name)
            key.columns := by
  obtain ⟨-, rfl⟩ := load_eq_ok_iff.mp hload
  refine ⟨k.schema.normal_described, ?_⟩
  intro i t ht
  rw [Schema.described, List.getElem?_map] at ht
  obtain ⟨row, hrow, rfl⟩ := Option.map_eq_some_iff.mp ht
  refine ⟨row, hrow, ?_, ?_⟩
  · intro key hkey
    exact k.schema.covers_tableOf row (k.schema.primaryKey_tableOf hkey)
  · intro key hkey
    exact k.schema.covers_tableOf row (k.schema.foreignKeys_tableOf hkey)

def lines : Connection where
  schema := ⟨[.table ⟨"shop", "order", "TABLE"⟩, .column "shop" "order" ⟨"Line", 4, "int4"⟩,
    .primaryKey "shop" "order" "Order_pk" ["Line"],
    .foreignKey "shop" "order" "order_fk" ["Line"] "Stock" "item" ["Id"]]⟩

/-- The column of the key is found under its written name. -/
theorem normal_of_load_lines :
    ∃ p t key, (Access.on lines load).1 = .ok p ∧ p.Normal ∧ p.tables = [t] ∧
      t.primaryKey = some key ∧ key.columns = ["\"Line\""] ∧ "\"Line\"" ∈ t.columns.keys := by
  have hload : (Access.on lines load).1 = .ok lines.schema.described :=
    load_eq_ok_iff.mpr ⟨by decide, rfl⟩
  obtain ⟨hnormal, hcovers⟩ := normal_of_load hload
  have hkey : (lines.schema.tableOf ⟨"shop", "order", "TABLE"⟩).primaryKey =
      some ⟨"\"Order_pk\"", "shop", "\"order\"", ["\"Line\""]⟩ := by decide +kernel
  have hline : lines.schema.described.facts.quote "Line" = "\"Line\"" := by decide +kernel
  obtain ⟨row, hrow, hprimary, -⟩ := hcovers 0 _ rfl
  cases hrow
  have hkept := (hprimary _ hkey).kept "Line" (by decide) (by decide)
  rw [hline] at hkept
  exact ⟨_, _, _, hload, hnormal, rfl, hkey, rfl, hkept⟩

end Snapshot
end Resync
