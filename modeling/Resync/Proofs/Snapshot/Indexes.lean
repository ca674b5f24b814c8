import Resync.Proofs.Snapshot.Grouping

/-! # Grouping of unique indexes

Of the index rows of a table only those count that describe a member of a unique index: they make up
one constraint for each written name. All other rows, such as those of table statistics, may stand
anywhere among them, even between the rows of one index, without changing any constraint.
-/
namespace Resync

open Identifier (Facts)

/-- The row describes a member of a unique index. -/
structure IndexRow.Relevant (row : IndexRow) : Prop where
  unique : row.nonUnique = false
  type : row.type ≠ Code.statistic
  name : row.name ≠ none
  column : row.column ≠ none

theorem IndexRow.relevant_iff {row : IndexRow} : row.Relevant ↔
    row.nonUnique = false ∧ row.type ≠ Code.statistic ∧ row.name ≠ none ∧ row.column ≠ none :=
  ⟨fun h => ⟨h.unique, h.type, h.name, h.column⟩, fun ⟨hu, ht, hn, hc⟩ => ⟨hu, ht, hn, hc⟩⟩

instance (row : IndexRow) : Decidable row.Relevant := decidable_of_iff' _ IndexRow.relevant_iff

def IndexRow.written? (f : Facts) (row : IndexRow) : Option String := row.name.map f.quote

def indexRowsNamed (f : Facts) (rows : List IndexRow) (name : String) : List IndexRow :=
  rows.filter fun row => row.Relevant ∧ row.written? f = some name

/-- The second list is the first one with irrelevant rows put in at any places. -/
inductive Padded : List IndexRow → List IndexRow → Prop where
  | nil : Padded [] []
  | keep {rows rows' : List IndexRow} (row : IndexRow) (h : Padded rows rows') : Padded (row :: rows) (row :: rows')
  | pad {rows rows' : List IndexRow} {row : IndexRow} (hrow : ¬ row.Relevant) (h : Padded rows rows') :
    Padded rows (row :: rows')

namespace Padded

variable {rows rows' : List IndexRow}

theorem refl (rows : List IndexRow) : Padded rows rows := by
  induction rows with
  | nil => exact .nil
  | cons row rows ih => exact .keep row ih

theorem filter_relevant (h : Padded rows rows') :
    rows'.filter IndexRow.Relevant = rows.filter IndexRow.Relevant := by
  induction h with
  | nil => rfl
  | keep row _ ih =>
    rw [List.filter_cons, List.filter_cons, ih]
  | pad hrow _ ih => rw [List.filter_cons_of_neg (by simpa using hrow), ih]

theorem of_filter (rows : List IndexRow) : Padded (rows.filter IndexRow.Relevant) rows := by
  induction rows with
  | nil => exact .nil
  | cons row rows ih =>
    by_cases hrow : row.Relevant
    · rw [List.filter_cons_of_pos (by simpa using hrow)]
      exact .keep row ih
    · rw [List.filter_cons_of_neg (by simpa using hrow)]
      exact .pad hrow ih

/-- Two lists have the same relevant rows in the same order if they come from one list by putting in
irrelevant rows, so that each comes from the other by taking irrelevant rows out and putting others in. -/
theorem filter_relevant_eq_iff : rows'.filter IndexRow.Relevant = rows.filter IndexRow.Relevant ↔
    ∃ common, Padded common rows ∧ Padded common rows' := by
  constructor
  · intro h
    exact ⟨_, of_filter rows, h ▸ of_filter rows'⟩
  · rintro ⟨common, h, h'⟩
    rw [h.filter_relevant, h'.filter_relevant]

end Padded

section Members

variable {f : Facts} {schema table name : String} {row : IndexRow} {rows : List IndexRow} {key : UniqueConstraint}

theorem member?_of_relevant (h : row.Relevant) : ∃ index column,
    row.name = some index ∧ row.column = some column ∧ row.member? = some (index, column) := by
  obtain ⟨index, hindex⟩ := Option.ne_none_iff_exists'.mp h.name
  obtain ⟨column, hcolumn⟩ := Option.ne_none_iff_exists'.mp h.column
  refine ⟨index, column, hindex, hcolumn, ?_⟩
  rw [IndexRow.member?, if_neg h.type, hindex, hcolumn]

theorem member?_eq_none (hunique : row.nonUnique = false) (h : ¬ row.Relevant) : row.member? = none := by
  unfold IndexRow.member?
  split
  · rfl
  · rename_i htype
    split
    · rename_i index column hindex hcolumn
      exact absurd ⟨hunique, htype, by rw [hindex]; nofun, by rw [hcolumn]; nofun⟩ h
    · rfl

/-- The rows that the backend leaves out and those that the walk skips are the irrelevant ones. -/
theorem members_eq (rows : List IndexRow) : (rows.filter fun row => !row.nonUnique).filterMap IndexRow.member? =
    (rows.filter IndexRow.Relevant).filterMap IndexRow.member? := by
  induction rows with
  | nil => rfl
  | cons row rows ih =>
    by_cases hrow : row.Relevant
    · rw [List.filter_cons_of_pos (by simpa using hrow.unique), List.filter_cons_of_pos (by simpa using hrow),
        List.filterMap_cons, List.filterMap_cons, ih]
    · cases hunique : row.nonUnique with
      | true =>
        rw [List.filter_cons_of_neg (by simp [hunique]), List.filter_cons_of_neg (by simpa using hrow), ih]
      | false =>
        rw [List.filter_cons_of_pos (by simp [hunique]), List.filter_cons_of_neg (by simpa using hrow),
          List.filterMap_cons_none (member?_eq_none hunique hrow), ih]

theorem uniqueConstraints_of_relevant {s s' : Schema}
    (h : (s'.indexRows schema table).filter IndexRow.Relevant = (s.indexRows schema table).filter IndexRow.Relevant) :
    uniqueConstraintsOfRows f schema table (s'.uniqueRows schema table) =
      uniqueConstraintsOfRows f schema table (s.uniqueRows schema table) := by
  rw [uniqueConstraintsOfRows, uniqueConstraintsOfRows, Schema.uniqueRows, Schema.uniqueRows, members_eq, members_eq, h]

theorem written_members (f : Facts) (rows : List IndexRow) :
    ((rows.filter IndexRow.Relevant).filterMap IndexRow.member?).map (fun m => f.quote m.1) =
      (rows.filter IndexRow.Relevant).filterMap (IndexRow.written? f) := by
  rw [List.map_filterMap]
  apply List.filterMap_congr
  intro row hrow
  obtain ⟨index, column, hindex, -, hmember⟩ := member?_of_relevant (by simpa using (List.mem_filter.mp hrow).2)
  rw [hmember, IndexRow.written?, hindex]
  rfl

theorem columns_members (f : Facts) (rows : List IndexRow) (name : String) :
    ((((rows.filter IndexRow.Relevant).filterMap IndexRow.member?).filter fun m => f.quote m.1 = name).map
      Prod.snd).map some = (indexRowsNamed f rows name).map IndexRow.column := by
  have hgroup : indexRowsNamed f rows name =
      (rows.filter IndexRow.Relevant).filter fun row => row.written? f = some name := by
    rw [List.filter_filter]
    exact List.filter_congr fun row _ => by simp [Bool.and_comm]
  have hrelevant : ∀ row ∈ rows.filter IndexRow.Relevant, row.Relevant := fun row hrow => by
    simpa using (List.mem_filter.mp hrow).2
  rw [hgroup]
  generalize rows.filter IndexRow.Relevant = relevant at hrelevant ⊢
  induction relevant with
  | nil => rfl
  | cons row relevant ih =>
    have hrest := ih fun row hrow => hrelevant row (List.mem_cons_of_mem _ hrow)
    obtain ⟨index, column, hindex, hcolumn, hmember⟩ := member?_of_relevant (hrelevant row List.mem_cons_self)
    have hwritten : row.written? f = some (f.quote index) := by rw [IndexRow.written?, hindex]; rfl
    rw [List.filterMap_cons_some hmember]
    by_cases hname : f.quote index = name
    · rw [List.filter_cons_of_pos (by simpa using hname), List.map_cons, List.map_cons, hrest,
        List.filter_cons_of_pos (by simp [hwritten, hname]), List.map_cons, hcolumn]
    · rw [List.filter_cons_of_neg (by simpa using hname), hrest,
        List.filter_cons_of_neg (by simp [hwritten, hname])]

theorem columns_of_mem (h : key ∈ uniqueConstraintsOfRows f schema table rows) : key.columns ≠ [] := by
  obtain ⟨first, hfirst, hkey⟩ := of_mem_uniqueConstraintsOfRows h
  have hname : f.quote first.1 = key.name := by rw [hkey]
  have hmem : first.2 ∈ key.columns := by
    rw [hkey]
    exact List.mem_map_of_mem (List.mem_filter.mpr ⟨hfirst, decide_eq_true hname⟩)
  exact List.ne_nil_of_mem hmem

/-- The unique constraints of a table are its relevant index rows grouped by written name: one
constraint for each name, in order of first occurrence, with the columns of its relevant rows in their
order and as they were reported, one at least. Taking out irrelevant rows and putting in others, as many
as one likes and anywhere, changes nothing. -/
theorem uniqueConstraints_grouped (f : Facts) (schema table : String) (rows : List IndexRow) (k : Connection)
    (hrows : k.schema.indexRows schema table = rows) (hk : k.schema.fails "index_info" = false) :
    ∃ keys, Access.on k (Introspection.uniqueConstraints f schema table) = (.ok keys, k) ∧
      keys.map UniqueConstraint.name = ((rows.filter IndexRow.Relevant).filterMap (IndexRow.written? f)).eraseDups ∧
      (keys.map UniqueConstraint.name).Nodup ∧
      (∀ key ∈ keys, key.schema = f.quote schema ∧ key.table = f.quote table ∧
        key.columns.map some = (indexRowsNamed f rows key.name).map IndexRow.column ∧ key.columns ≠ []) ∧
      ∀ (k' : Connection) (common : List IndexRow), Padded common rows →
        Padded common (k'.schema.indexRows schema table) → k'.schema.fails "index_info" = false →
          Access.on k' (Introspection.uniqueConstraints f schema table) = (.ok keys, k') := by
  subst hrows
  have hon : ∀ k : Connection, k.schema.fails "index_info" = false →
      Access.on k (Introspection.uniqueConstraints f schema table) =
        (.ok (uniqueConstraintsOfRows f schema table (k.schema.uniqueRows schema table)), k) := fun k hk =>
    Access.tells_uniqueConstraints.on_eq fun call hcall => by rwa [List.mem_singleton.mp hcall]
  have hnames : (uniqueConstraintsOfRows f schema table (k.schema.uniqueRows schema table)).map
      UniqueConstraint.name = (((k.schema.indexRows schema table).filter IndexRow.Relevant).filterMap
        (IndexRow.written? f)).eraseDups := by
    rw [names_uniqueConstraintsOfRows, Schema.uniqueRows, members_eq, written_members]
  refine ⟨_, hon k hk, hnames, ?_, ?_, ?_⟩
  · rw [names_uniqueConstraintsOfRows]
    exact Listing.nodup_names _ _
  · intro key hkey
    obtain ⟨first, -, he⟩ := of_mem_uniqueConstraintsOfRows hkey
    refine ⟨by rw [he], by rw [he], ?_, columns_of_mem hkey⟩
    conv_lhs => rw [he]
    rw [Schema.uniqueRows, members_eq, columns_members]
  · intro k' common hcommon hcommon' hk'
    have hrelevant := Padded.filter_relevant_eq_iff.mpr ⟨common, hcommon, hcommon'⟩
    rw [hon k' hk', uniqueConstraints_of_relevant hrelevant]

def mixedRows : List IndexRow :=
  [.statistics, ⟨some "UQ", Code.otherIndex, false, some "B", 1⟩, ⟨none, Code.otherIndex, false, some "x", 1⟩,
    ⟨some "uq2", Code.otherIndex, false, some "c", 1⟩, ⟨some "ix", Code.otherIndex, true, some "a", 1⟩,
    ⟨some "\"UQ\"", Code.otherIndex, false, some "a", 2⟩]

/-- The same members are reported without the other rows, and the constraints are the same. -/
theorem uniqueConstraints_grouped_mixed :
    let f := Facts.ofReport "\"" [] "" ⟨false, true, true, false⟩
    let k : Connection := { schema := ⟨mixedRows.map (.index "s" "orders")⟩ }
    let k' : Connection := { schema := ⟨(mixedRows.filter IndexRow.Relevant).map (.index "s" "orders")⟩ }
    ∃ keys, Access.on k (Introspection.uniqueConstraints f "s" "orders") = (.ok keys, k) ∧
      keys.map UniqueConstraint.name = ["\"UQ\"", "uq2"] ∧
      Access.on k' (Introspection.uniqueConstraints f "s" "orders") = (.ok keys, k') := by
  intro f k k'
  obtain ⟨keys, hon, hnames, -, -, hpadded⟩ :=
    uniqueConstraints_grouped f "s" "orders" mixedRows k (by decide) (by decide)
  refine ⟨keys, hon, hnames.trans (by decide +kernel), hpadded k' _ (.of_filter mixedRows) ?_ (by decide)⟩
  have hrows : k'.schema.indexRows "s" "orders" = mixedRows.filter IndexRow.Relevant := by decide
  rw [hrows]
  exact .refl _

end Members
end Resync
