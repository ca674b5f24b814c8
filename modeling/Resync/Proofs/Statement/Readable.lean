import Resync.Proofs.Identifier.Separation
import Resync.Proofs.Statement.Alteration

/-! # What the statement for a foreign key says

The statement is a row of names and lists of names with fixed text between them, and the rules at its
end. Every name ends at the character behind it, a list ends at its parenthesis, and no rule begins
with another one. So the statement is read from its beginning to its end in one way only, whatever is
put between the quotes of a name.
-/
namespace Resync

open Identifier (Facts)

namespace Code

def actions : List Int := [cascade, restrict, setNull, noAction, setDefault]

def deferrabilities : List Int := [initiallyDeferred, initiallyImmediate, notDeferrable]

end Code

def separators : List Char := [' ', ',', '.', ')']

section Clauses

variable {codes : List Int} {text : Int → String} {a b : Int} {rest after : List Char}

/-- The text of no code begins with the text of another code. -/
def ToldApart (codes : List Int) (text : Int → String) : Prop :=
  ∀ a ∈ codes, ∀ b ∈ codes, (text a).toList <+: (text b).toList → a = b

instance (codes : List Int) (text : Int → String) : Decidable (ToldApart codes text) :=
  inferInstanceAs (Decidable (∀ a ∈ codes, ∀ b ∈ codes, (text a).toList <+: (text b).toList → a = b))

theorem ToldApart.append_inj (h : ToldApart codes text) (ha : a ∈ codes) (hb : b ∈ codes)
    (heq : (text a).toList ++ rest = (text b).toList ++ after) : a = b ∧ rest = after := by
  have hsame : a = b := by
    have hprefix : (text a).toList <+: (text b).toList ++ after := heq ▸ List.prefix_append _ _
    rcases List.prefix_or_prefix_of_prefix hprefix (List.prefix_append _ _) with hab | hba
    · exact h a ha b hb hab
    · exact (h b hb a ha hba).symm
  subst hsame
  exact ⟨rfl, List.append_cancel_left heq⟩

theorem toldApart_onDelete : ToldApart Code.actions fun code => clause " ON DELETE " (referentialAction? code) := by
  decide

theorem toldApart_onUpdate : ToldApart Code.actions fun code => clause " ON UPDATE " (referentialAction? code) := by
  decide

theorem toldApart_deferrability :
    ToldApart Code.deferrabilities fun code => clause " " (deferrability? code) := by
  decide

end Clauses

/-- What stands behind the first name of a list: the other names, the parenthesis and the rest. -/
def furtherNames (names : List String) (rest : List Char) : List Char :=
  names.foldr (fun name tail => ',' :: ' ' :: (name.toList ++ tail)) (')' :: rest)

theorem toList_intercalate_cons (name : String) (names : List String) (rest : List Char) :
    (", ".intercalate (name :: names)).toList ++ ')' :: rest = name.toList ++ furtherNames names rest := by
  induction names generalizing name with
  | nil => rw [String.intercalate_singleton]; rfl
  | cons next names ih =>
    rw [String.intercalate_cons_cons, String.toList_append, String.toList_append, List.append_assoc,
      List.append_assoc, ih]
    rfl

theorem toList_nameList_cons (name : String) (names : List String) (rest : List Char) :
    (nameList (name :: names)).toList ++ rest = '(' :: (name.toList ++ furtherNames names rest) := by
  rw [nameList, String.toList_append, String.toList_append, List.append_assoc, List.append_assoc,
    ← toList_intercalate_cons]
  rfl

section Names

variable {f : Facts} {q : Char} {rest after : List Char}

section Separators

variable (hs : ∀ c ∈ separators, c ∉ f.extra)
include hs

theorem stops_separator {c : Char} (hc : c ∈ separators) (rest : List Char) : f.Stops (c :: rest) := by
  have hword : separators.all (fun c => !(c.isAlphanum || c == '_')) = true := by decide
  exact Facts.stops_of_not_mem (by simpa using List.all_eq_true.mp hword c hc) (hs c hc) rest

theorem stops_text {text : String} (htext : text.toList.head? = some ' ') (rest : List Char) :
    f.Stops (text.toList ++ rest) := by
  obtain ⟨tail, htail⟩ := List.head?_eq_some_iff.mp htext
  rw [htail, List.cons_append]
  exact stops_separator hs (by decide) _

theorem stops_furtherNames (names : List String) (rest : List Char) : f.Stops (furtherNames names rest) := by
  cases names with
  | nil => exact stops_separator hs (by decide) _
  | cons name names => exact stops_separator hs (by decide) _

end Separators

variable (hq : f.quoteString = String.singleton q) (hs : ∀ c ∈ separators, c ∉ f.extra)
include hq hs

theorem qualified_append_inj {schema table schema' table' : String} (hschema : f.Writes q schema)
    (htable : f.Writes q table) (hschema' : f.Writes q schema') (htable' : f.Writes q table')
    (hrest : f.Stops rest) (hafter : f.Stops after)
    (h : (qualify true schema table).toList ++ rest = (qualify true schema' table').toList ++ after) :
    schema = schema' ∧ table = table' ∧ rest = after := by
  obtain ⟨hsame, hbehind⟩ := hschema.qualified_inj hq (hs '.' (by decide)) hschema' h
  obtain ⟨hname, htail⟩ := htable.append_inj hq htable' hrest hafter hbehind
  exact ⟨hsame, hname, htail⟩

theorem furtherNames_append_inj {name other : String} {names others : List String} (hname : f.Writes q name)
    (hother : f.Writes q other) (hn : ∀ name ∈ names, f.Writes q name) (ho : ∀ name ∈ others, f.Writes q name)
    (h : name.toList ++ furtherNames names rest = other.toList ++ furtherNames others after) :
    name = other ∧ names = others ∧ rest = after := by
  induction names generalizing name other others with
  | nil =>
    obtain ⟨rfl, htail⟩ := hname.append_inj hq hother (stops_furtherNames hs _ _) (stops_furtherNames hs _ _) h
    cases others with
    | nil => exact ⟨rfl, rfl, (List.cons.inj htail).2⟩
    | cons next others => exact absurd (List.cons.inj htail).1 (by decide)
  | cons first names ih =>
    obtain ⟨rfl, htail⟩ := hname.append_inj hq hother (stops_furtherNames hs _ _) (stops_furtherNames hs _ _) h
    cases others with
    | nil => exact absurd (List.cons.inj htail).1 (by decide)
    | cons next others =>
      rw [List.forall_mem_cons] at hn ho
      obtain ⟨rfl, rfl, hrest⟩ := ih hn.1 ho.1 hn.2 ho.2 (List.cons.inj (List.cons.inj htail).2).2
      exact ⟨rfl, rfl, hrest⟩

theorem nameList_append_inj {names others : List String} (hnames : names ≠ []) (hothers : others ≠ [])
    (hn : ∀ name ∈ names, f.Writes q name) (ho : ∀ name ∈ others, f.Writes q name)
    (h : (nameList names).toList ++ rest = (nameList others).toList ++ after) : names = others ∧ rest = after := by
  obtain ⟨name, names, rfl⟩ := List.exists_cons_of_ne_nil hnames
  obtain ⟨other, others, rfl⟩ := List.exists_cons_of_ne_nil hothers
  rw [List.forall_mem_cons] at hn ho
  rw [toList_nameList_cons, toList_nameList_cons, List.cons.injEq] at h
  obtain ⟨rfl, rfl, hrest⟩ := furtherNames_append_inj hq hs hn.1 ho.1 hn.2 ho.2 h.2
  exact ⟨rfl, hrest⟩

end Names

namespace ForeignKey

def names (k : ForeignKey) : List String :=
  k.schema :: k.table :: k.name :: k.foreignSchema :: k.foreignTable :: (k.columns ++ k.foreignColumns)

def quoted (f : Facts) (k : ForeignKey) : ForeignKey :=
  { k with
    name := f.quote k.name
    schema := f.quote k.schema
    table := f.quote k.table
    foreignSchema := f.quote k.foreignSchema
    foreignTable := f.quote k.foreignTable
    columns := k.columns.map f.quote
    foreignColumns := k.foreignColumns.map f.quote }

/-- Every name in the key is how a name without the quote sign is written, each of its columns, one at
least, is paired with a referenced one, and its codes are those of the standard. -/
structure Standard (f : Facts) (q : Char) (k : ForeignKey) : Prop where
  names : ∀ name ∈ k.names, f.Writes q name
  nonempty : k.columns ≠ []
  paired : k.columns.length = k.foreignColumns.length
  deleteRule : k.deleteRule ∈ Code.actions
  updateRule : k.updateRule ∈ Code.actions
  deferrability : k.deferrability ∈ Code.deferrabilities

variable {f : Facts} {q : Char} {k : ForeignKey}

theorem forall_mem_names {p : String → Prop} : (∀ name ∈ k.names, p name) ↔
    p k.schema ∧ p k.table ∧ p k.name ∧ p k.foreignSchema ∧ p k.foreignTable ∧
      (∀ name ∈ k.columns, p name) ∧ ∀ name ∈ k.foreignColumns, p name := by
  simp only [names, List.forall_mem_cons, List.forall_mem_append]

theorem names_quoted (f : Facts) (k : ForeignKey) : (k.quoted f).names = k.names.map f.quote := by
  simp only [names, quoted, List.map_cons, List.map_append]

theorem standard_quoted (hnames : ∀ name ∈ k.names, q ∉ name.toList) (hnonempty : k.columns ≠ [])
    (hpaired : k.columns.length = k.foreignColumns.length) (hdelete : k.deleteRule ∈ Code.actions)
    (hupdate : k.updateRule ∈ Code.actions) (hdeferrability : k.deferrability ∈ Code.deferrabilities) :
    (k.quoted f).Standard f q where
  names := by
    rw [names_quoted]
    exact Facts.writes_map_quote hnames
  nonempty h := hnonempty (List.map_eq_nil_iff.mp h)
  paired := by rw [quoted, List.length_map, List.length_map, hpaired]
  deleteRule := hdelete
  updateRule := hupdate
  deferrability := hdeferrability

theorem Standard.foreignColumns_ne_nil (h : k.Standard f q) : k.foreignColumns ≠ [] := by
  rw [← List.length_pos_iff, ← h.paired]
  exact List.length_pos_iff.mpr h.nonempty

end ForeignKey

namespace Statement

variable {s : Snapshot} {q : Char} {k other : ForeignKey} {rest after : List Char}

def rules (k : ForeignKey) : String :=
  clause " ON DELETE " (referentialAction? k.deleteRule) ++ clause " ON UPDATE " (referentialAction? k.updateRule)
    ++ clause " " (deferrability? k.deferrability)

theorem rules_inj {f : Facts} (hk : k.Standard f q) (ho : other.Standard f q) (h : rules k = rules other) :
    k.deleteRule = other.deleteRule ∧ k.updateRule = other.updateRule ∧ k.deferrability = other.deferrability := by
  have htext := congrArg String.toList h
  simp only [rules, String.toList_append, List.append_assoc] at htext
  obtain ⟨hdelete, hbehind⟩ := toldApart_onDelete.append_inj hk.deleteRule ho.deleteRule htext
  obtain ⟨hupdate, hend⟩ := toldApart_onUpdate.append_inj hk.updateRule ho.updateRule hbehind
  rw [← List.append_nil (clause " " (deferrability? k.deferrability)).toList,
    ← List.append_nil (clause " " (deferrability? other.deferrability)).toList] at hend
  exact ⟨hdelete, hupdate, (toldApart_deferrability.append_inj hk.deferrability ho.deferrability hend).1⟩

theorem toList_createForeignKey (hddl : s.schemasInDdl = true) (k : ForeignKey) :
    (createForeignKey s k).toList = "ALTER TABLE ".toList ++ ((qualify true k.schema k.table).toList ++
      (" ADD CONSTRAINT ".toList ++ (k.name.toList ++ (" FOREIGN KEY ".toList ++
      ((nameList k.columns).toList ++ (" REFERENCES ".toList ++
      ((qualify true k.foreignSchema k.foreignTable).toList ++ (" ".toList ++
      ((nameList k.foreignColumns).toList ++ (rules k).toList))))))))) := by
  unfold createForeignKey Snapshot.qualifyDdl rules
  rw [hddl]
  simp only [String.toList_append, List.append_assoc]

/-- On a backend with one quote sign that takes schemas in definitions and allows no separator in a name
without quotes, two foreign keys have the same statement only if they are the same in all their parts.
The quote sign may be any character, since none of the names has it in it. -/
theorem createForeignKey_inj (hq : s.facts.quoteString = String.singleton q)
    (hs : ∀ c ∈ separators, c ∉ s.facts.extra) (hddl : s.schemasInDdl = true) (hk : k.Standard s.facts q)
    (ho : other.Standard s.facts q) : createForeignKey s k = createForeignKey s other ↔ k = other := by
  refine ⟨fun h => ?_, congrArg (createForeignKey s)⟩
  have hstops : ∀ {text : String}, text.toList.head? = some ' ' → ∀ rest, s.facts.Stops (text.toList ++ rest) :=
    fun htext => stops_text hs htext
  obtain ⟨schema, table, name, foreignSchema, foreignTable, columns, foreignColumns⟩ :=
    ForeignKey.forall_mem_names.mp hk.names
  obtain ⟨schema', table', name', foreignSchema', foreignTable', columns', foreignColumns'⟩ :=
    ForeignKey.forall_mem_names.mp ho.names
  have htext := congrArg String.toList h
  rw [toList_createForeignKey hddl, toList_createForeignKey hddl] at htext
  obtain ⟨hschema, htable, hchange⟩ := qualified_append_inj hq hs schema table schema' table'
    (hstops (by decide) _) (hstops (by decide) _) (List.append_cancel_left htext)
  obtain ⟨hname, hkey⟩ := name.append_inj hq name' (hstops (by decide) _) (hstops (by decide) _)
    (List.append_cancel_left hchange)
  obtain ⟨hcolumns, hreferences⟩ := nameList_append_inj hq hs hk.nonempty ho.nonempty columns columns'
    (List.append_cancel_left hkey)
  obtain ⟨hforeignSchema, hforeignTable, hlist⟩ := qualified_append_inj hq hs foreignSchema foreignTable
    foreignSchema' foreignTable' (hstops (by decide) _) (hstops (by decide) _)
    (List.append_cancel_left hreferences)
  obtain ⟨hforeignColumns, hrules⟩ := nameList_append_inj hq hs hk.foreignColumns_ne_nil ho.foreignColumns_ne_nil
    foreignColumns foreignColumns' (List.append_cancel_left hlist)
  obtain ⟨hdelete, hupdate, hdeferrability⟩ := rules_inj hk ho (String.toList_inj.mp hrules)
  obtain ⟨⟩ := k
  obtain ⟨⟩ := other
  simp only [ForeignKey.mk.injEq]
  exact ⟨hname, hschema, htable, hforeignSchema, hforeignTable, hcolumns, hforeignColumns, hdelete, hupdate,
    hdeferrability⟩

def blank : Snapshot where
  facts := Facts.ofReport "\"" [] "$" ⟨false, true, true, false⟩
  schemas := ∅
  tables := []
  selectForUpdate := true
  schemasInDml := true
  schemasInDdl := true

/-- A key with a name that reads like the end of a statement. -/
def misleading (columns foreignColumns : List String) : ForeignKey where
  name := "fk FOREIGN KEY (a) REFERENCES b.c (d) ON DELETE CASCADE"
  schema := "app"
  table := "a.b"
  foreignSchema := "select"
  foreignTable := "order lines"
  columns := columns
  foreignColumns := foreignColumns
  deleteRule := Code.setNull
  updateRule := Code.setDefault
  deferrability := Code.notDeferrable

/-- Two columns are not taken for one column with a comma in its name. -/
theorem createForeignKey_inj_misleading :
    ((misleading ["a", "b"] ["c", "d"]).quoted blank.facts).Standard blank.facts '"' ∧
    ((misleading ["a, b"] ["c, d"]).quoted blank.facts).Standard blank.facts '"' ∧
    createForeignKey blank ((misleading ["a", "b"] ["c", "d"]).quoted blank.facts) ≠
      createForeignKey blank ((misleading ["a, b"] ["c, d"]).quoted blank.facts) := by
  have hpair : ((misleading ["a", "b"] ["c", "d"]).quoted blank.facts).Standard blank.facts '"' :=
    ForeignKey.standard_quoted (by decide) (by decide) (by decide) (by decide) (by decide) (by decide)
  have hsingle : ((misleading ["a, b"] ["c, d"]).quoted blank.facts).Standard blank.facts '"' :=
    ForeignKey.standard_quoted (by decide) (by decide) (by decide) (by decide) (by decide) (by decide)
  have hseparators : ∀ c ∈ separators, c ∉ blank.facts.extra := by
    intro c hc
    have hall : separators.all (fun c => !blank.facts.extra.contains c) = true := by decide
    simpa using List.all_eq_true.mp hall c hc
  refine ⟨hpair, hsingle, fun h => ?_⟩
  have hsame := (createForeignKey_inj (s := blank) rfl hseparators rfl hpair hsingle).mp h
  have hlength := congrArg (fun k => k.columns.length) hsame
  simp only [ForeignKey.quoted, misleading, List.length_map] at hlength
  exact absurd hlength (by decide)

end Statement

end Resync
