import Mathlib.Data.List.Nodup
import Resync.Proofs.Identifier.Written
import Resync.Proofs.Snapshot.Description

/-! # Looking tables up

A snapshot has one entry for each row of a proper table. As long as no name begins with the quote
string, different rows have different written names, so a look-up by the written names of a row
finds the entry of that row, and the entry says what a look at the backend itself would say.
-/
namespace Resync

open Identifier (Facts)

def Table.names (t : Table) : String × String := (t.schema, t.name)

def TableRow.names (row : TableRow) : String × String := (row.schema, row.name)

def TableRow.written (f : Facts) (row : TableRow) : String × String := (f.quote row.schema, f.quote row.name)

/-- The entry is what introspection with these facts tells through the connection about the table
of the row. -/
structure Table.Describes (t : Table) (f : Facts) (k : Connection) (row : TableRow) : Prop where
  columns : Access.on k (Introspection.columns f row.schema row.name) = (.ok t.columns, k)
  primaryKey : Access.on k (Introspection.primaryKey f row.schema row.name) = (.ok t.primaryKey, k)
  foreignKeys : Access.on k (Introspection.foreignKeys f row.schema row.name) = (.ok t.foreignKeys, k)
  uniqueConstraints :
    Access.on k (Introspection.uniqueConstraints f row.schema row.name) = (.ok t.uniqueConstraints, k)
  dml : Access.on k (Introspection.qualifyDml (f.quote row.schema) (f.quote row.name)) = (.ok t.dml, k)
  ddl : Access.on k (Introspection.qualifyDdl (f.quote row.schema) (f.quote row.name)) = (.ok t.ddl, k)

theorem Schema.describes_tableOf {k : Connection} {row : TableRow}
    (hcalm : ∀ call ∈ k.schema.loadCalls, k.schema.fails call = false)
    (hrow : row ∈ k.schema.properTables) :
    (k.schema.tableOf row).Describes k.schema.facts k row := by
  have htable : ∀ call ∈ tableCalls, k.schema.fails call = false := by
    intro call hcall
    apply hcalm
    rw [loadCalls, List.mem_append]
    exact .inr (List.mem_flatMap.mpr ⟨row, hrow, hcall⟩)
  have hone : ∀ c ∈ tableCalls, ∀ call ∈ [c], k.schema.fails call = false := by
    intro c hc call hcall
    rw [List.mem_singleton.mp hcall]
    exact htable c hc
  constructor
  · exact Access.tells_columns.on_eq (hone _ (by decide))
  · exact Access.tells_primaryKey.on_eq (hone _ (by decide))
  · exact Access.tells_foreignKeys.on_eq (hone _ (by decide))
  · exact Access.tells_uniqueConstraints.on_eq (hone _ (by decide))
  · exact Access.tells_qualifyDml.on_eq (List.forall_mem_nil _)
  · exact Access.tells_qualifyDdl.on_eq (List.forall_mem_nil _)

namespace Snapshot

variable {p : Snapshot} {t : Table} {k : Connection}

theorem of_table?_eq_some {schema name : String} (h : p.table? schema name = some t) :
    t ∈ p.tables ∧ t.names = (schema, name) := by
  have hfound := List.find?_some h
  rw [Bool.and_eq_true, beq_iff_eq, beq_iff_eq] at hfound
  exact ⟨List.mem_of_find?_eq_some h, Prod.ext hfound.1 hfound.2⟩

theorem table?_isSome_iff {schema name : String} :
    (p.table? schema name).isSome = true ↔ (schema, name) ∈ p.tables.map Table.names := by
  rw [table?, List.find?_isSome, List.mem_map]
  refine exists_congr fun t => and_congr_right fun _ => ?_
  rw [Bool.and_eq_true, beq_iff_eq, beq_iff_eq, Table.names, Prod.mk.injEq]

theorem table?_of_nodup (hn : (p.tables.map Table.names).Nodup) (ht : t ∈ p.tables) :
    p.table? t.schema t.name = some t := by
  have hsome : (p.table? t.schema t.name).isSome = true :=
    table?_isSome_iff.mpr (List.mem_map.mpr ⟨t, ht, rfl⟩)
  obtain ⟨t', hfound⟩ := Option.isSome_iff_exists.mp hsome
  obtain ⟨ht', hnames⟩ := of_table?_eq_some hfound
  have heq : t' = t := List.inj_on_of_nodup_map hn ht' ht hnames
  rw [hfound, heq]

theorem written_nodup {f : Facts} {rows : List TableRow} (hdistinct : (rows.map TableRow.names).Nodup)
    (hbare : ∀ row ∈ rows, f.Bare row.schema ∧ f.Bare row.name) :
    (rows.map (TableRow.written f)).Nodup := by
  apply List.Nodup.map_on
  · intro row hrow other hother h
    obtain ⟨hschema, hname⟩ := Prod.mk.inj h
    have hs : row.schema = other.schema := (Facts.quote_inj (hbare row hrow).1 (hbare other hother).1).mp hschema
    have hn : row.name = other.name := (Facts.quote_inj (hbare row hrow).2 (hbare other hother).2).mp hname
    exact List.inj_on_of_nodup_map hdistinct hrow hother (Prod.ext hs hn)
  · exact hdistinct.of_map

/-- The entries of a snapshot are those of the proper tables, in their order and one for each. A
look-up by the written names of a table finds its own entry, and that is what introspection with the
snapshot's facts tells through any connection to the backend. -/
theorem table?_faithful (hload : (Access.on k load).1 = .ok p)
    (hdistinct : (k.schema.properTables.map TableRow.names).Nodup)
    (hbare : ∀ row ∈ k.schema.properTables, p.facts.Bare row.schema ∧ p.facts.Bare row.name) :
    p.tables.map Table.names = k.schema.properTables.map (TableRow.written p.facts) ∧
    (p.tables.map Table.names).Nodup ∧
    ∀ k', k'.schema = k.schema → ∀ (i : Nat) (row : TableRow), k.schema.properTables[i]? = some row →
      ∃ t, p.tables[i]? = some t ∧
        p.table? (p.facts.quote row.schema) (p.facts.quote row.name) = some t ∧
        t.Describes p.facts k' row := by
  obtain ⟨hcalm, rfl⟩ := load_eq_ok_iff.mp hload
  have hnames : k.schema.described.tables.map Table.names =
      k.schema.properTables.map (TableRow.written k.schema.facts) := List.map_map
  have hnodup : (k.schema.described.tables.map Table.names).Nodup := by
    rw [hnames]
    exact written_nodup hdistinct hbare
  refine ⟨hnames, hnodup, ?_⟩
  intro k' hk i row hrow
  have hentry : k.schema.described.tables[i]? = some (k.schema.tableOf row) := by
    rw [Schema.described, List.getElem?_map, hrow, Option.map_some]
  refine ⟨k.schema.tableOf row, hentry, table?_of_nodup hnodup (List.mem_of_getElem? hentry), ?_⟩
  rw [← hk] at hcalm hrow ⊢
  exact Schema.describes_tableOf hcalm (List.mem_of_getElem? hrow)

/-- A reserved word as the name of a table, once more with a capital, and as the name of a view. -/
def capitals : Connection where
  schema := ⟨[.table ⟨"shop", "order", "TABLE"⟩, .table ⟨"shop", "order", "VIEW"⟩,
    .table ⟨"shop", "Order", "TABLE"⟩, .column "shop" "Order" ⟨"id", 4, "int4"⟩,
    .primaryKey "shop" "Order" "order_pk" ["id"], .qualification true false]⟩

/-- Both tables are found, each under its own written name. -/
theorem table?_faithful_capitals :
    ∃ p t, (Access.on capitals load).1 = .ok p ∧
      p.tables.map Table.names = [("shop", "\"order\""), ("shop", "\"Order\"")] ∧
      p.table? "shop" "\"Order\"" = some t ∧ t.Describes p.facts capitals ⟨"shop", "Order", "TABLE"⟩ := by
  have hload : (Access.on capitals load).1 = .ok capitals.schema.described :=
    load_eq_ok_iff.mpr ⟨by decide, rfl⟩
  obtain ⟨hnames, -, hfound⟩ := table?_faithful hload (by decide) (by decide)
  have hwritten : capitals.schema.properTables.map (TableRow.written capitals.schema.described.facts) =
      [("shop", "\"order\""), ("shop", "\"Order\"")] := by decide +kernel
  have horder : capitals.schema.described.facts.quote "shop" = "shop" ∧
      capitals.schema.described.facts.quote "Order" = "\"Order\"" := by decide +kernel
  obtain ⟨t, -, ht, hdescribes⟩ := hfound capitals rfl 1 ⟨"shop", "Order", "TABLE"⟩ rfl
  rw [horder.1, horder.2] at ht
  exact ⟨_, t, hload, hnames.trans hwritten, ht, hdescribes⟩

end Snapshot
end Resync
