import Resync.Proofs.Assoc.Lookup
import Resync.Snapshot.Introspection

/-! # From rows to the parts of an entry

The columns of an entry are those that the rows name. The primary key comes from rows that the
backend reports: what it says as a whole is said by the first of them, and it has one column for
each.
-/
namespace Resync

open Identifier (Facts)

variable {f : Facts} {schema table : String}

theorem mem_keys_columnsOfRows {rows : List ColumnRow} {key : String} :
    key ∈ (columnsOfRows f rows).keys ↔ ∃ row ∈ rows, f.quote row.name = key := by
  rw [columnsOfRows, Assoc.mem_keys_ofList, List.map_map, List.mem_map]
  rfl

theorem of_get?_columnsOfRows {rows : List ColumnRow} {key : String} {column : Column}
    (h : (columnsOfRows f rows).get? key = some column) :
    column.name = key ∧ ∃ row ∈ rows, f.quote row.name = key := by
  rw [columnsOfRows, Assoc.get?_ofList] at h
  have hmem := List.mem_reverse.mp (Assoc.mem_of_lookup h)
  obtain ⟨row, hrow, he⟩ := List.mem_map.mp hmem
  obtain ⟨hkey, hcolumn⟩ := Prod.mk.inj he
  rw [← hcolumn]
  exact ⟨hkey, row, hrow, hkey⟩

theorem of_primaryKeyOfRows {rows : List PrimaryKeyRow} {key : UniqueConstraint}
    (h : primaryKeyOfRows f schema table rows = some key) :
    ∃ first ∈ rows, key =
      { name := f.quote first.keyName
        schema := f.quote schema
        table := f.quote table
        columns := rows.map fun row => f.quote row.column } := by
  cases rows with
  | nil => cases h
  | cons first rest =>
    cases h
    exact ⟨first, List.mem_cons_self, rfl⟩

theorem get?_tablesBySchema (f : Facts) (rows : List TableRow) (schema : String) :
    (tablesBySchema f rows).get? schema =
      if schema ∈ rows.map (fun row => f.quote row.schema) then
        some ((rows.filter fun row => f.quote row.schema = schema).map fun row => f.quote row.name)
      else none :=
  Assoc.get?_gather ..

end Resync
