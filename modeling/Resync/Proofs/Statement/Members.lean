import Mathlib.Algebra.Order.BigOperators.Group.List
import Mathlib.Algebra.Order.Group.Nat
import Mathlib.Algebra.Ring.Nat
import Resync.Proofs.Snapshot.Agreement
import Resync.Proofs.Snapshot.NormalForm

/-! # Members of unique constraints

The statement that creates a unique constraint writes the member columns as they are reported. So it
names columns of the table only as far as the raw names need no quotes, while the statement with quoted
members would name them all, as those for primary and foreign keys do.
-/
namespace Resync

open Identifier (Facts)
open Statement (alterTable addUnique)

namespace Identifier.Facts

variable {f : Facts} {name : String}

theorem length_le_quote (f : Facts) (name : String) : name.length ≤ (f.quote name).length := by
  rcases f.quote_eq_or name with h | h
  · rw [h]
  · rw [h, wrap, String.length_append, String.length_append]
    omega

/-- Quotes that change a name make it longer. -/
theorem written_iff_length : f.Written name ↔ (f.quote name).length = name.length := by
  refine ⟨congrArg String.length, fun hlength => ?_⟩
  rcases f.quote_eq_or name with h | h
  · exact h
  · rw [h, wrap, String.length_append, String.length_append] at hlength
    have hempty : f.quoteString = "" := String.length_eq_zero_iff.mp (by omega)
    exact written_of_isQuoted (isQuoted_of_empty hempty name)

theorem written_iff : f.Written name ↔ f.isQuoted name = true ∨ f.requiresQuoting name = false := by
  constructor
  · intro h
    cases hq : f.isQuoted name with
    | true => exact .inl rfl
    | false => exact .inr (requiresQuoting_of_quote hq h)
  · rintro (hq | hr)
    · exact written_of_isQuoted hq
    · unfold Written quote
      rw [hr, if_neg Bool.false_ne_true, ite_self]

end Identifier.Facts

def UniqueConstraint.quoted (f : Facts) (key : UniqueConstraint) : UniqueConstraint :=
  { key with columns := key.columns.map f.quote }

/-- The name stands as it has to be written, and the entry has a column under it. -/
structure Table.HasColumn (t : Table) (f : Facts) (name : String) : Prop where
  written : f.Written name
  key : name ∈ t.columns.keys

theorem length_intercalate (sep : String) (names : List String) :
    (sep.intercalate names).length = (names.map String.length).sum + sep.length * (names.length - 1) := by
  induction names with
  | nil => rfl
  | cons name rest ih =>
    cases rest with
    | nil => simp
    | cons next rest =>
      rw [String.intercalate_cons_cons, String.length_append, String.length_append, ih]
      simp only [List.map_cons, List.sum_cons, List.length_cons, Nat.add_sub_cancel, Nat.mul_succ]
      omega

theorem length_nameList (names : List String) :
    (nameList names).length = (names.map String.length).sum + 2 * (names.length - 1) + 2 := by
  have hsep : ", ".length = 2 := rfl
  have hopen : "(".length = 1 := rfl
  have hclose : ")".length = 1 := rfl
  rw [nameList, String.length_append, String.length_append, length_intercalate, hsep, hopen, hclose]
  omega

theorem nameList_map_quote_iff {f : Facts} {names : List String} :
    nameList (names.map f.quote) = nameList names ↔ ∀ name ∈ names, f.Written name := by
  constructor
  · intro h name hname
    by_contra hwritten
    have hlonger : (names.map String.length).sum < (names.map fun n => (f.quote n).length).sum := by
      refine List.sum_lt_sum _ _ (fun n _ => f.length_le_quote n) ⟨name, hname, ?_⟩
      exact lt_of_le_of_ne (f.length_le_quote name) fun he => hwritten (Facts.written_iff_length.mpr he.symm)
    have hlength := congrArg String.length h
    rw [length_nameList, length_nameList, List.length_map, List.map_map] at hlength
    have hsame : (names.map (String.length ∘ f.quote)).sum = (names.map String.length).sum := by omega
    exact absurd hsame hlonger.ne'
  · intro h
    have hsame : names.map f.quote = names.map id := List.map_congr_left h
    rw [hsame, List.map_id]

namespace Statement

theorem createUnique_quoted_iff {p : Snapshot} {key : UniqueConstraint} {f : Facts} :
    createUnique p (key.quoted f) = createUnique p key ↔ ∀ column ∈ key.columns, f.Written column := by
  rw [createUnique_eq, createUnique_eq, ← nameList_map_quote_iff]
  constructor
  · intro h
    have hadd := (String.append_right_inj _).mp h
    exact (String.append_right_inj _).mp hadd
  · intro h
    exact congrArg (fun names => alterTable _ (" ADD CONSTRAINT " ++ key.name ++ " UNIQUE " ++ names)) h

end Statement

namespace Schema

variable (s : Schema)

def memberColumns (f : Facts) (row : TableRow) (key : String) : List String :=
  (((s.uniqueRows row.schema row.name).filterMap IndexRow.member?).filter fun m => f.quote m.1 = key).map
    Prod.snd

theorem uniqueConstraints_tableOf {row : TableRow} {key : UniqueConstraint}
    (h : key ∈ (s.tableOf row).uniqueConstraints) :
    key.columns = s.memberColumns s.facts row key.name := by
  obtain ⟨first, -, he⟩ := of_mem_uniqueConstraintsOfRows h
  exact congrArg UniqueConstraint.columns he

theorem createUnique_tableOf {row : TableRow} {key : UniqueConstraint}
    (h : key ∈ (s.tableOf row).uniqueConstraints) :
    Statement.createUnique s.described key = alterTable (s.tableOf row).ddl (addUnique key) := by
  have hcreate := ((s.agrees_tableOf row).uniqueConstraints key h).create
  exact (hcreate (s.tableOf row).ddl).mpr rfl

theorem hasColumn_quote {row : TableRow} {name : String} (h : name ∈ s.columnNames row) :
    (s.tableOf row).HasColumn s.facts (s.facts.quote name) := by
  have hcovers : (s.tableOf row).Covers s.facts (s.columnNames row) [name] ([name].map s.facts.quote) :=
    s.covers_tableOf row rfl
  exact ⟨s.facts.written_quote name, hcovers.kept name (List.mem_singleton_self name) h⟩

theorem hasColumn_iff {row : TableRow} {name : String} (h : name ∈ s.columnNames row) :
    (s.tableOf row).HasColumn s.facts name ↔ s.facts.Written name := by
  refine ⟨Table.HasColumn.written, fun hwritten => ?_⟩
  have hquoted := s.hasColumn_quote h
  rwa [show s.facts.quote name = name from hwritten] at hquoted

end Schema

namespace Snapshot

variable {p : Snapshot} {k : Connection}

/-- The statement for a unique constraint names the members as the backend reports them, so it is the
statement with quoted members exactly if all of them are reported as they have to be written. A member
that is reported among the columns of the table too is found in the entry exactly if its raw name is
quoted already or needs no quotes; once it is quoted, it is found in any case. -/
theorem members_of_load (hload : (Access.on k load).1 = .ok p) :
    ∀ (i : Nat) (t : Table), p.tables[i]? = some t →
      ∃ row, k.schema.properTables[i]? = some row ∧
        ∀ key ∈ t.uniqueConstraints,
          key.columns = k.schema.memberColumns p.facts row key.name ∧
          Statement.createUnique p key = alterTable t.ddl (addUnique key) ∧
          (Statement.createUnique p (key.quoted p.facts) = Statement.createUnique p key ↔
            ∀ column ∈ key.columns, p.facts.Written column) ∧
          ∀ column ∈ key.columns, column ∈ k.schema.columnNames row →
            t.HasColumn p.facts (p.facts.quote column) ∧
            (t.HasColumn p.facts column ↔
              p.facts.isQuoted column = true ∨ p.facts.requiresQuoting column = false) := by
  obtain ⟨-, rfl⟩ := load_eq_ok_iff.mp hload
  intro i t ht
  rw [Schema.described, List.getElem?_map] at ht
  obtain ⟨row, hrow, rfl⟩ := Option.map_eq_some_iff.mp ht
  refine ⟨row, hrow, fun key hkey => ?_⟩
  refine ⟨k.schema.uniqueConstraints_tableOf hkey, k.schema.createUnique_tableOf hkey,
    Statement.createUnique_quoted_iff, fun column _ hreported => ?_⟩
  exact ⟨k.schema.hasColumn_quote hreported, (k.schema.hasColumn_iff hreported).trans Facts.written_iff⟩

def contacts : Connection where
  schema := ⟨[.table ⟨"crm", "contacts", "TABLE"⟩, .column "crm" "contacts" ⟨"region", 12, "varchar"⟩,
    .column "crm" "contacts" ⟨"Email", 12, "varchar"⟩,
    .uniqueIndex "crm" "contacts" "contacts_uq" ["region", "Email"]]⟩

/-- Of the two members, only the first one names a column. -/
theorem members_of_load_contacts :
    ∃ p t key, (Access.on contacts load).1 = .ok p ∧ p.tables = [t] ∧ t.uniqueConstraints = [key] ∧
      key.columns = ["region", "Email"] ∧
      t.HasColumn p.facts "region" ∧ ¬ t.HasColumn p.facts "Email" ∧
      t.HasColumn p.facts (p.facts.quote "Email") ∧
      Statement.createUnique p (key.quoted p.facts) ≠ Statement.createUnique p key := by
  have hload : (Access.on contacts load).1 = .ok contacts.schema.described :=
    load_eq_ok_iff.mpr ⟨by decide, rfl⟩
  have hkeys : (contacts.schema.tableOf ⟨"crm", "contacts", "TABLE"⟩).uniqueConstraints =
      [⟨"contacts_uq", "crm", "contacts", ["region", "Email"]⟩] := by decide +kernel
  obtain ⟨row, hrow, hmembers⟩ := members_of_load hload 0 _ rfl
  cases hrow
  obtain ⟨-, -, hquoted, hcolumn⟩ := hmembers _ (hkeys ▸ List.mem_singleton_self _)
  have hregion := (hcolumn "region" (by decide) (by decide)).2.mpr (.inr (by decide +kernel))
  obtain ⟨hfound, hemail⟩ := hcolumn "Email" (by decide) (by decide)
  have hraw : ¬ (contacts.schema.described.facts.isQuoted "Email" = true ∨
      contacts.schema.described.facts.requiresQuoting "Email" = false) := by decide +kernel
  refine ⟨_, _, _, hload, rfl, hkeys, rfl, hregion, fun h => hraw (hemail.mp h), hfound, fun h => ?_⟩
  exact hraw (Facts.written_iff.mp (hquoted.mp h "Email" (by decide)))

def customers : Connection where
  schema := ⟨[.table ⟨"app", "customers", "TABLE"⟩, .column "app" "customers" ⟨"Email", 12, "varchar"⟩,
    .uniqueIndex "app" "customers" "customers_email_key" ["Email"]]⟩

/-- The statement names a column that the table does not have. -/
theorem raw_member_of_load :
    ∃ p t key, (Access.on customers load).1 = .ok p ∧ p.tables = [t] ∧ t.uniqueConstraints = [key] ∧
      key.columns = ["Email"] ∧
      "Email" ∈ customers.schema.columnNames ⟨"app", "customers", "TABLE"⟩ ∧
      ¬ p.facts.Written "Email" ∧ t.columns.keys = ["\"Email\""] ∧
      Statement.createUnique p key =
        "ALTER TABLE app.customers ADD CONSTRAINT customers_email_key UNIQUE (Email)" := by
  have hkeys : (customers.schema.tableOf ⟨"app", "customers", "TABLE"⟩).uniqueConstraints =
      [⟨"customers_email_key", "app", "customers", ["Email"]⟩] := by decide +kernel
  exact ⟨_, _, _, load_eq_ok_iff.mpr ⟨by decide, rfl⟩, rfl, hkeys, rfl, by decide, by decide +kernel,
    by decide +kernel, by decide +kernel⟩

end Snapshot
end Resync
