import Resync.Proofs.Snapshot.Grouping
import Resync.Proofs.Snapshot.Lookup
import Resync.Proofs.Snapshot.Rows
import Resync.Proofs.Statement.Alteration

/-! # The parts of a snapshot

The list of schemas and the list of entries come from the same rows by different ways, and so do
the names of an entry and the owners of its constraints. They say the same, also if rows are
repeated or their written names coincide, so every statement about a constraint of an entry alters
the entry's own table.
-/
namespace Resync

open Statement (Alters addUnique addForeignKey dropNamed)

namespace Snapshot

/-- The names of the entries of a schema, in their order and as often as they occur. -/
def namesOf (p : Snapshot) (schema : String) : List String :=
  (p.tables.filter fun t => t.schema = schema).map (·.name)

def Lists (p : Snapshot) (schema name : String) : Prop :=
  ∃ names, p.schemas.get? schema = some names ∧ name ∈ names

end Snapshot

structure UniqueConstraint.BelongsTo (key : UniqueConstraint) (t : Table) (p : Snapshot) : Prop where
  schema : key.schema = t.schema
  table : key.table = t.name
  create : Alters (Statement.createUnique p key) t.ddl (addUnique key)
  drop : Alters (Statement.dropUnique p key) t.ddl (dropNamed key.name)

structure ForeignKey.BelongsTo (key : ForeignKey) (t : Table) (p : Snapshot) : Prop where
  schema : key.schema = t.schema
  table : key.table = t.name
  create : Alters (Statement.createForeignKey p key) t.ddl (addForeignKey p key)
  drop : Alters (Statement.dropForeignKey p key) t.ddl (dropNamed key.name)

/-- The entry is named as its snapshot names tables, and it owns its constraints. -/
structure Table.Agrees (t : Table) (p : Snapshot) : Prop where
  dml : t.dml = p.qualifyDml t.schema t.name
  ddl : t.ddl = p.qualifyDdl t.schema t.name
  primaryKey : ∀ key, t.primaryKey = some key → key.BelongsTo t p
  uniqueConstraints : ∀ key ∈ t.uniqueConstraints, key.BelongsTo t p
  foreignKeys : ∀ key ∈ t.foreignKeys, key.BelongsTo t p

section Owners

variable {t : Table} {p : Snapshot}

theorem UniqueConstraint.belongsTo {key : UniqueConstraint} (hddl : t.ddl = p.qualifyDdl t.schema t.name)
    (hs : key.schema = t.schema) (hn : key.table = t.name) : key.BelongsTo t p := by
  refine ⟨hs, hn, ?_, ?_⟩
  · rw [Statement.createUnique_eq, hs, hn, ← hddl]
    exact Statement.alters_alterTable _ _
  · rw [Statement.dropUnique, Statement.dropConstraint_eq, hs, hn, ← hddl]
    exact Statement.alters_alterTable _ _

theorem ForeignKey.belongsTo {key : ForeignKey} (hddl : t.ddl = p.qualifyDdl t.schema t.name)
    (hs : key.schema = t.schema) (hn : key.table = t.name) : key.BelongsTo t p := by
  refine ⟨hs, hn, ?_, ?_⟩
  · rw [Statement.createForeignKey_eq, hs, hn, ← hddl]
    exact Statement.alters_alterTable _ _
  · rw [Statement.dropForeignKey, Statement.dropConstraint_eq, hs, hn, ← hddl]
    exact Statement.alters_alterTable _ _

end Owners

namespace Schema

variable (s : Schema)

theorem agrees_tableOf (row : TableRow) : (s.tableOf row).Agrees s.described := by
  have hddl : (s.tableOf row).ddl = s.described.qualifyDdl (s.tableOf row).schema (s.tableOf row).name := rfl
  constructor
  · rfl
  · exact hddl
  · intro key hkey
    obtain ⟨first, -, rfl⟩ := of_primaryKeyOfRows hkey
    exact UniqueConstraint.belongsTo hddl rfl rfl
  · intro key hkey
    obtain ⟨first, -, he⟩ := of_mem_uniqueConstraintsOfRows hkey
    rw [he]
    exact UniqueConstraint.belongsTo hddl rfl rfl
  · intro key hkey
    obtain ⟨first, rest, -, he⟩ := of_mem_foreignKeysOfRows hkey
    rw [he]
    exact ForeignKey.belongsTo hddl rfl rfl

theorem namesOf_described (schema : String) :
    s.described.namesOf schema =
      (s.properTables.filter fun row => s.facts.quote row.schema = schema).map
        fun row => s.facts.quote row.name := by
  rw [Snapshot.namesOf, described, List.filter_map, List.map_map]
  rfl

theorem get?_schemas_eq_some {schema : String} {names : List String} :
    s.described.schemas.get? schema = some names ↔
      (∃ t ∈ s.described.tables, t.schema = schema) ∧ s.described.namesOf schema = names := by
  have hschemas : s.described.schemas.get? schema = _ := get?_tablesBySchema s.facts s.properTables schema
  have htables : s.described.tables.map (·.schema) = s.properTables.map fun row => s.facts.quote row.schema :=
    List.map_map
  rw [hschemas, ← htables, ← namesOf_described, Option.ite_none_right_eq_some, Option.some.injEq, List.mem_map]

theorem lists_described {schema name : String} :
    s.described.Lists schema name ↔ name ∈ s.described.namesOf schema := by
  constructor
  · rintro ⟨names, hnames, hname⟩
    obtain ⟨-, rfl⟩ := s.get?_schemas_eq_some.mp hnames
    exact hname
  · intro hname
    obtain ⟨t, ht, -⟩ := List.mem_map.mp hname
    obtain ⟨ht, hschema⟩ := List.mem_filter.mp ht
    exact ⟨_, s.get?_schemas_eq_some.mpr ⟨⟨t, ht, of_decide_eq_true hschema⟩, rfl⟩, hname⟩

end Schema

namespace Snapshot

variable {p : Snapshot} {k : Connection}

theorem mem_namesOf {schema name : String} :
    name ∈ p.namesOf schema ↔ (schema, name) ∈ p.tables.map Table.names := by
  simp only [namesOf, List.mem_map, List.mem_filter, decide_eq_true_eq, Table.names, Prod.mk.injEq, and_assoc]

/-- The schemas and the entries list the same names, a look-up finds an entry for every pair of names
that is listed and for no other, and every entry agrees with the snapshot. -/
theorem parts_agree (hload : (Access.on k load).1 = .ok p) :
    (∀ schema, schema ∈ p.schemas.keys ↔ ∃ t ∈ p.tables, t.schema = schema) ∧
    (∀ schema names, p.schemas.get? schema = some names → names = p.namesOf schema) ∧
    (∀ schema name, p.Lists schema name →
      ∃ t ∈ p.tables, p.table? schema name = some t ∧ t.schema = schema ∧ t.name = name) ∧
    (∀ schema name, ¬ p.Lists schema name → p.table? schema name = none) ∧
    ∀ t ∈ p.tables, t.Agrees p := by
  obtain ⟨-, rfl⟩ := load_eq_ok_iff.mp hload
  have hlists : ∀ schema name, k.schema.described.Lists schema name ↔
      (k.schema.described.table? schema name).isSome = true := by
    intro schema name
    rw [k.schema.lists_described, table?_isSome_iff, mem_namesOf]
  refine ⟨?_, ?_, ?_, ?_, ?_⟩
  · intro schema
    rw [Assoc.mem_keys]
    constructor
    · rintro ⟨names, hnames⟩
      exact (k.schema.get?_schemas_eq_some.mp hnames).1
    · intro hentry
      exact ⟨_, k.schema.get?_schemas_eq_some.mpr ⟨hentry, rfl⟩⟩
  · intro schema names hnames
    exact (k.schema.get?_schemas_eq_some.mp hnames).2.symm
  · intro schema name hlisted
    obtain ⟨t, hfound⟩ := Option.isSome_iff_exists.mp ((hlists schema name).mp hlisted)
    obtain ⟨ht, hnames⟩ := of_table?_eq_some hfound
    obtain ⟨hs, hn⟩ := Prod.mk.inj hnames
    exact ⟨t, ht, hfound, hs, hn⟩
  · intro schema name hlisted
    exact Option.not_isSome_iff_eq_none.mp fun h => hlisted ((hlists schema name).mpr h)
  · intro t ht
    obtain ⟨row, -, rfl⟩ := List.mem_map.mp ht
    exact k.schema.agrees_tableOf row

/-- A reserved word as the name of two tables, and between quotes as that of a third one. -/
def namesakes : Connection where
  schema := ⟨[.table ⟨"shop", "order", "TABLE"⟩, .table ⟨"shop", "\"order\"", "TABLE"⟩,
    .table ⟨"shop", "order", "TABLE"⟩, .primaryKey "shop" "order" "order_pk" ["id"]]⟩

/-- Three entries have one name, which is listed three times. -/
theorem parts_agree_namesakes :
    ∃ p, (Access.on namesakes load).1 = .ok p ∧
      p.schemas.get? "shop" = some (p.namesOf "shop") ∧
      p.namesOf "shop" = List.replicate 3 "\"order\"" ∧
      (∃ t, p.table? "shop" "\"order\"" = some t) ∧
      ∃ t ∈ p.tables, ∃ key, t.primaryKey = some key ∧
        Alters (Statement.createUnique p key) "shop.\"order\"" (addUnique key) := by
  have hload : (Access.on namesakes load).1 = .ok namesakes.schema.described :=
    load_eq_ok_iff.mpr ⟨by decide, rfl⟩
  obtain ⟨-, hnames, hfound, -, hagrees⟩ := parts_agree hload
  have hshop : namesakes.schema.described.schemas.get? "shop" = some (List.replicate 3 "\"order\"") := by
    decide +kernel
  have hthree := hnames "shop" _ hshop
  obtain ⟨t, -, ht, -⟩ := hfound "shop" "\"order\"" ⟨_, hshop, by decide⟩
  have hmem : namesakes.schema.tableOf ⟨"shop", "order", "TABLE"⟩ ∈ namesakes.schema.described.tables :=
    List.mem_cons_self
  have hddl : (namesakes.schema.tableOf ⟨"shop", "order", "TABLE"⟩).ddl = "shop.\"order\"" := by
    decide +kernel
  have hkey : (namesakes.schema.tableOf ⟨"shop", "order", "TABLE"⟩).primaryKey =
      some ⟨"order_pk", "shop", "\"order\"", ["id"]⟩ := by decide +kernel
  have hcreate := ((hagrees _ hmem).primaryKey _ hkey).create
  rw [hddl] at hcreate
  exact ⟨_, hload, hthree ▸ hshop, hthree.symm, ⟨t, ht⟩, _, hmem, _, hkey, hcreate⟩

end Snapshot
end Resync
