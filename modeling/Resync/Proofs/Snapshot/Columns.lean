import Mathlib.Data.Finset.Card
import Resync.Proofs.Snapshot.Lookup
import Resync.Proofs.Snapshot.Rows

/-! # Columns by name

The columns of a table are kept by their written names. Of the rows that are written alike the last one is
kept, whatever comes between them. Names that do not begin with the quote string are written alike only if
they are the same, so then no column of the table is lost.
-/
namespace Resync

open Identifier (Facts)

theorem Assoc.size_eq_card {κ α : Type} [DecidableEq κ] (m : Assoc κ α) : m.size = m.keys.toFinset.card := by
  have hkeys : m.keys.Nodup := m.keys_nodup
  rw [List.toFinset_card_of_nodup hkeys, keys, List.length_map, size]

variable {f : Facts} {rows : List ColumnRow} {key : String} {column : Column}

/-- What is kept under a name is what the last row says that is written so. -/
theorem get?_columnsOfRows_eq_some_iff : (columnsOfRows f rows).get? key = some column ↔
    ∃ before row after, rows = before ++ row :: after ∧ f.quote row.name = key ∧
      (∀ later ∈ after, f.quote later.name ≠ key) ∧ column = ⟨key, row.dataType, row.typeName⟩ := by
  rw [columnsOfRows, Assoc.get?_ofList_eq_some_iff]
  constructor
  · rintro ⟨before, after, hsplit, hlater⟩
    obtain ⟨earlier, rest, rfl, -, hrest⟩ := List.map_eq_append_iff.mp hsplit
    obtain ⟨row, later, rfl, hrow, rfl⟩ := List.map_eq_cons_iff.mp hrest
    obtain ⟨rfl, rfl⟩ := Prod.mk.inj hrow
    refine ⟨earlier, row, later, rfl, rfl, fun r hr he => hlater ?_, rfl⟩
    rw [List.map_map]
    exact List.mem_map.mpr ⟨r, hr, he⟩
  · rintro ⟨before, row, after, rfl, rfl, hlater, rfl⟩
    refine ⟨_, _, List.map_append, ?_⟩
    rw [List.map_map, List.mem_map]
    rintro ⟨r, hr, he⟩
    exact hlater r hr he

theorem toFinset_keys_columnsOfRows (f : Facts) (rows : List ColumnRow) :
    (columnsOfRows f rows).keys.toFinset = (rows.map ColumnRow.name).toFinset.image f.quote := by
  ext key
  rw [List.mem_toFinset, mem_keys_columnsOfRows, Finset.mem_image]
  simp

/-- No column is lost, if no name begins with the quote string. -/
theorem size_columnsOfRows (hbare : ∀ row ∈ rows, f.Bare row.name) :
    (columnsOfRows f rows).size = (rows.map ColumnRow.name).toFinset.card := by
  have hmem : ∀ {name}, name ∈ (rows.map ColumnRow.name).toFinset → f.Bare name := by
    intro name hname
    obtain ⟨row, hrow, rfl⟩ := List.mem_map.mp (List.mem_toFinset.mp hname)
    exact hbare row hrow
  rw [Assoc.size_eq_card, toFinset_keys_columnsOfRows]
  exact Finset.card_image_of_injOn fun name hname other hother =>
    (Facts.quote_inj (hmem hname) (hmem hother)).mp

/-- The columns of a table are known by the written names of its rows. What is known under a name is what
the last row says that is written so, and its own name is the name it is known under. If no name begins
with the quote string, only rows with the same name are written alike, and there are as many columns as
there are names. -/
theorem columns_of_last_rows (f : Facts) (schema table : String) (rows : List ColumnRow) (k : Connection)
    (hrows : k.schema.columnRows schema table = rows) (hk : k.schema.fails "columns" = false) :
    ∃ columns, Access.on k (Introspection.columns f schema table) = (.ok columns, k) ∧
      (∀ key, key ∈ columns.keys ↔ ∃ row ∈ rows, f.quote row.name = key) ∧
      (∀ key column, columns.get? key = some column ↔
        ∃ before row after, rows = before ++ row :: after ∧ f.quote row.name = key ∧
          (∀ later ∈ after, f.quote later.name ≠ key) ∧ column = ⟨key, row.dataType, row.typeName⟩) ∧
      ((∀ row ∈ rows, f.Bare row.name) →
        (∀ row ∈ rows, ∀ other ∈ rows, f.quote row.name = f.quote other.name → row.name = other.name) ∧
        columns.size = (rows.map ColumnRow.name).toFinset.card) := by
  refine ⟨columnsOfRows f rows, ?_, fun _ => mem_keys_columnsOfRows, fun _ _ => get?_columnsOfRows_eq_some_iff,
    fun hbare => ⟨?_, size_columnsOfRows hbare⟩⟩
  · rw [Access.tells_columns.on_eq fun call hcall => by rwa [List.mem_singleton.mp hcall], hrows]
  · exact fun row hrow other hother => (Facts.quote_inj (hbare row hrow) (hbare other hother)).mp

def repeatedRows : List ColumnRow := [⟨"Id", 4, "int4"⟩, ⟨"id", 12, "varchar"⟩, ⟨"Id", -5, "int8"⟩]

/-- Two columns are kept, and the one that there are two rows for is as the later row says. -/
theorem columns_of_last_rows_repeated :
    let f := Facts.ofReport "\"" [] "" ⟨false, true, true, false⟩
    let k : Connection := { schema := ⟨repeatedRows.map (.column "app" "orders")⟩ }
    ∃ columns, Access.on k (Introspection.columns f "app" "orders") = (.ok columns, k) ∧
      columns.get? "\"Id\"" = some ⟨"\"Id\"", -5, "int8"⟩ ∧ columns.get? "id" = some ⟨"id", 12, "varchar"⟩ ∧
      (∀ row ∈ repeatedRows, f.Bare row.name) ∧ columns.size = 2 := by
  intro f k
  obtain ⟨columns, hon, -, hget, hbare⟩ :=
    columns_of_last_rows f "app" "orders" repeatedRows k (by decide) (by decide)
  have hcapital : f.quote "Id" = "\"Id\"" := by decide +kernel
  have hsmall : f.quote "id" = "id" := by decide +kernel
  have hnames : ∀ row ∈ repeatedRows, f.Bare row.name := by decide
  refine ⟨columns, hon, (hget _ _).mpr ?_, (hget _ _).mpr ?_, hnames, (hbare hnames).2⟩
  · exact ⟨[⟨"Id", 4, "int4"⟩, ⟨"id", 12, "varchar"⟩], ⟨"Id", -5, "int8"⟩, [], rfl, hcapital,
      List.forall_mem_nil _, rfl⟩
  · refine ⟨[⟨"Id", 4, "int4"⟩], ⟨"id", 12, "varchar"⟩, [⟨"Id", -5, "int8"⟩], rfl, hsmall, ?_, rfl⟩
    rw [List.forall_mem_singleton, hcapital]
    decide

end Resync
