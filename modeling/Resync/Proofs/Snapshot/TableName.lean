import Resync.Proofs.Identifier.Separation
import Resync.Proofs.Snapshot.Lookup
import Resync.Statement

/-! # Names of tables in statements on rows

Statements on rows, probes and the memo of their answers know a table by one text. On a backend that
takes schemas in such statements this text is made of two names, and a name may have periods between
its quotes. The first period after the schema's name is the one that separates them, so two tables never
go by one text, and nothing that is done under the text of one table is done to the other.
-/
namespace Resync

open Identifier (Facts)

/-- In no use of the name that one entry has in statements on rows is the other entry meant. -/
structure Table.Apart (p : Snapshot) (t other : Table) : Prop where
  truncate : Statement.truncate t ≠ Statement.truncate other
  selectAll : ∀ lock, Statement.selectAll p t lock ≠ Statement.selectAll p other lock
  probe : Access.emptySelect t.dml ≠ Access.emptySelect other.dml
  /-- What is learnt about one of them is not remembered of the other. -/
  memo : ∀ (k : Connection) (memo memo' : Memo) (found : Bool),
    (Access.on k (memo.ask t.dml)).1 = .ok (found, memo') → memo'.get? other.dml = memo.get? other.dml

theorem Memo.get?_of_ask {k : Connection} {memo memo' : Memo} {relation other : String} {found : Bool}
    (h : (Access.on k (memo.ask relation)).1 = .ok (found, memo')) (hne : relation ≠ other) :
    memo'.get? other = memo.get? other := by
  cases hknown : memo.get? relation with
  | some known =>
    rw [on_ask_known hknown] at h
    cases h
    rfl
  | none =>
    rw [on_ask_unknown hknown] at h
    cases hprobe : k.schema.probed relation with
    | error e =>
      rw [hprobe] at h
      cases h
    | ok answer =>
      rw [hprobe] at h
      cases h
      rw [Assoc.get?_insert, if_neg hne]

theorem Table.apart_of_ne (p : Snapshot) {t other : Table} (h : t.dml ≠ other.dml) : t.Apart p other where
  truncate := fun he => h ((String.append_right_inj _).mp he)
  selectAll := fun _ he => h ((String.append_right_inj _).mp ((String.append_left_inj _).mp he))
  probe := fun he => h (Access.emptySelect_inj.mp he)
  memo := fun _ _ _ _ hask => Memo.get?_of_ask hask h

namespace Snapshot

variable {f : Facts} {q : Char}

theorem qualify_quote_inj {schema name schema' name' : String} (hq : f.quoteString = String.singleton q)
    (hperiod : '.' ∉ f.extra) (hfree : ∀ text ∈ [schema, name, schema', name'], q ∉ text.toList) :
    qualify true (f.quote schema) (f.quote name) = qualify true (f.quote schema') (f.quote name') ↔
      schema = schema' ∧ name = name' := by
  simp only [List.forall_mem_cons] at hfree
  obtain ⟨hschema, hname, hschema', hname', -⟩ := hfree
  constructor
  · intro h
    have htext := congrArg (fun text => text.toList ++ []) h
    have hwrites : ∀ {text : String}, q ∉ text.toList → f.Writes q (f.quote text) := Facts.writes_quote
    have hbare : ∀ {text : String}, q ∉ text.toList → f.Bare text := Facts.bare_of_not_mem hq
    obtain ⟨hsame, hbehind⟩ := (hwrites hschema).qualified_inj hq hperiod (hwrites hschema') htext
    rw [List.append_nil, List.append_nil, String.toList_inj] at hbehind
    exact ⟨(Facts.quote_inj (hbare hschema) (hbare hschema')).mp hsame,
      (Facts.quote_inj (hbare hname) (hbare hname')).mp hbehind⟩
  · rintro ⟨rfl, rfl⟩
    rfl

/-- With one quote sign and no period among the extra characters, a qualified name is the name of one
table only, as long as the quote sign is in none of the names. So in a snapshot of a backend that takes
schemas in statements on rows, the entries of two different tables are told apart wherever that name is
used. -/
theorem dml_inj (hq : f.quoteString = String.singleton q) (hperiod : '.' ∉ f.extra) :
    (∀ schema name schema' name' : String, (∀ text ∈ [schema, name, schema', name'], q ∉ text.toList) →
      (qualify true (f.quote schema) (f.quote name) = qualify true (f.quote schema') (f.quote name') ↔
        schema = schema' ∧ name = name')) ∧
    ∀ (k : Connection) (p : Snapshot), (Access.on k load).1 = .ok p → p.facts = f → p.schemasInDml = true →
      ∀ (i j : Nat) (row row' : TableRow),
        k.schema.properTables[i]? = some row → k.schema.properTables[j]? = some row' →
        (∀ text ∈ [row.schema, row.name, row'.schema, row'.name], q ∉ text.toList) →
        ∃ t t', p.tables[i]? = some t ∧ p.tables[j]? = some t' ∧ (t.dml = t'.dml ↔ row.names = row'.names) ∧
          (row.names ≠ row'.names → t.Apart p t') := by
  refine ⟨fun _ _ _ _ => qualify_quote_inj hq hperiod, ?_⟩
  intro k p hload hf hdml i j row row' hrow hrow' hfree
  obtain ⟨-, rfl⟩ := load_eq_ok_iff.mp hload
  have hentry : ∀ {i : Nat} {row : TableRow}, k.schema.properTables[i]? = some row →
      k.schema.described.tables[i]? = some (k.schema.tableOf row) := by
    intro i row hrow
    rw [Schema.described, List.getElem?_map, hrow, Option.map_some]
  have hname : ∀ row, (k.schema.tableOf row).dml = qualify true (f.quote row.schema) (f.quote row.name) := by
    intro row
    rw [← hdml, ← hf]
    rfl
  have hsame : (k.schema.tableOf row).dml = (k.schema.tableOf row').dml ↔ row.names = row'.names := by
    rw [hname, hname, qualify_quote_inj hq hperiod hfree, TableRow.names, TableRow.names, Prod.mk.injEq]
  exact ⟨_, _, hentry hrow, hentry hrow', hsame, fun hne => Table.apart_of_ne _ fun he => hne (hsame.mp he)⟩

def periods : Connection where
  schema := ⟨[.table ⟨"a.b", "c", "TABLE"⟩, .table ⟨"a", "b.c", "TABLE"⟩, .extraNameCharacters "$"]⟩

/-- The tables are told apart by their quotes. -/
theorem dml_inj_periods :
    ∃ p t t', (Access.on periods load).1 = .ok p ∧ p.tables[0]? = some t ∧ p.tables[1]? = some t' ∧
      t.dml ≠ t'.dml ∧ t.Apart p t' := by
  have hload : (Access.on periods load).1 = .ok periods.schema.described :=
    load_eq_ok_iff.mpr ⟨by decide, rfl⟩
  have hperiod : '.' ∉ periods.schema.facts.extra := by decide
  obtain ⟨-, htables⟩ := @dml_inj periods.schema.facts '"' rfl hperiod
  obtain ⟨t, t', ht, ht', hsame, hapart⟩ := htables periods _ hload rfl rfl 0 1 ⟨"a.b", "c", "TABLE"⟩
    ⟨"a", "b.c", "TABLE"⟩ rfl rfl (by decide)
  exact ⟨_, t, t', hload, ht, ht', fun he => absurd (hsame.mp he) (by decide), hapart (by decide)⟩

end Snapshot
end Resync
