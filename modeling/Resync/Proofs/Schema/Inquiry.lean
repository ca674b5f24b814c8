import Resync.Proofs.Schema.Topics
import Resync.Proofs.Snapshot.Description

/-! # Inquiries

A connection is asked about its backend by metadata calls, by queries and by introspection. Every
such inquiry concerns certain topics, and if two scripts agree on these, connections to the two
backends give the same answer and are in the same state afterwards. So the clauses of a script may
be reordered as long as those about one topic stay in order, and the rows of one table show in
nothing that is said about another.
-/
namespace Resync

open Identifier (CasePolicy Facts)

/-- The connection with another backend behind it. -/
def Connection.over (k : Connection) (s : Schema) : Connection := { k with schema := s }

namespace Access

variable {α β : Type} {s s' : Schema}

/-- Connections to the two backends that are in the same state answer alike, and they are in the
same state afterwards. -/
def Same (s s' : Schema) (a : Access α) : Prop :=
  ∀ k : Connection, k.schema = s → ∃ answer k', on k a = (answer, k') ∧ k'.schema = s ∧
    on (k.over s') a = (answer, k'.over s')

theorem same_pure (x : α) : Same s s' (pure x) := fun k hk => ⟨_, k, rfl, hk, rfl⟩

theorem same_fail (fault : AccessFault) : Same s s' (fail fault : Access α) := fun k hk => ⟨_, k, rfl, hk, rfl⟩

theorem Same.bind {a : Access α} {f : α → Access β} (ha : Same s s' a) (hf : ∀ x, Same s s' (f x)) :
    Same s s' (a >>= f) := by
  intro k hk
  obtain ⟨answer, k', hon, hk', hover⟩ := ha k hk
  rw [on_bind, on_bind, hon, hover]
  cases answer with
  | ok x => exact hf x k' hk'
  | error e => exact ⟨_, k', rfl, hk', rfl⟩

theorem Same.outcome {a : Access α} (ha : Same s s' a) : Same s s' (outcome a) := by
  intro k hk
  obtain ⟨answer, k', hon, hk', hover⟩ := ha k hk
  refine ⟨.ok answer, k', ?_, hk', ?_⟩
  · rw [on_outcome, hon]
  · rw [on_outcome, hover]

theorem Tells.same {a : Access α} {calls : Schema → List String} {f : Schema → α} (ha : Tells a calls f)
    (hfails : ∀ call, s.fails call = s'.fails call) (hcalls : calls s = calls s') (hf : f s = f s') :
    Same s s' a := by
  rintro k rfl
  have hreply : k.schema.reply (calls k.schema) (f k.schema) = s'.reply (calls s') (f s') := by
    rw [Schema.reply, Schema.reply, hcalls, hf, funext hfails]
  refine ⟨_, k, ha k, rfl, ?_⟩
  rw [ha (k.over s'), hreply]
  rfl

theorem same_check (hfails : ∀ call, s.fails call = s'.fails call) (call : String) : Same s s' (check call) :=
  (tells_check call).same hfails rfl rfl

theorem same_ask {call : String} {f : Schema → α} (hfails : ∀ call, s.fails call = s'.fails call)
    (hf : f s = f s') : Same s s' (ask call f) := (tells_ask call f).same hfails rfl hf

theorem same_read {f : Schema → α} (hfails : ∀ call, s.fails call = s'.fails call) (hf : f s = f s') :
    Same s s' (read f) := (tells_read f).same hfails rfl hf

theorem same_modify {f : Connection → Connection} (hschema : ∀ k, (f k).schema = k.schema)
    (hover : ∀ k, f (k.over s') = (f k).over s') : Same s s' (modify f : Access Unit) := by
  intro k hk
  refine ⟨_, f k, on_modify k f, (hschema k).trans hk, ?_⟩
  rw [on_modify, hover]

/-- What is done by the state of the connection is the same if it does not look at the schema. -/
theorem same_get {f : Connection → Access α} (hf : ∀ k, k.schema = s → f (k.over s') = f k)
    (hsame : ∀ k, Same s s' (f k)) : Same s s' (get >>= f) := by
  intro k hk
  obtain ⟨answer, k', hon, hk', hover⟩ := hsame k k hk
  refine ⟨answer, k', ?_, hk', ?_⟩
  · exact hon
  · change on (k.over s') (f (k.over s')) = _
    rw [hf k hk, hover]

section Driver

theorem same_executeQuery {sql : String} (hfails : ∀ call, s.fails call = s'.fails call)
    (hanswer : answer? s sql = answer? s' sql) : Same s s' (executeQuery sql) := by
  refine (same_check hfails _).bind fun _ => ?_
  refine Same.bind (same_modify (fun _ => rfl) (fun _ => rfl)) fun _ => ?_
  refine same_get (fun k hk => ?_) (fun k => ?_)
  · have hover : answer? (k.over s').schema sql = answer? k.schema sql := by
      rw [hk, hanswer]
      rfl
    simp only [hover]
    rfl
  · split
    · exact same_fail _
    · exact Same.bind (same_modify (fun _ => rfl) (fun _ => rfl)) fun _ => same_pure _

theorem same_columnCount (set : Nat) : Same s s' (columnCount set) :=
  same_get (fun _ _ => rfl) fun _ => same_pure _

theorem same_isAutoIncrement (hfails : ∀ call, s.fails call = s'.fails call) (set column : Nat) :
    Same s s' (isAutoIncrement set column) := by
  refine (same_check hfails _).bind fun _ => same_get (fun _ _ => rfl) fun k => ?_
  split
  · exact same_pure _
  · exact same_fail _

theorem same_closeSet (set : Nat) : Same s s' (closeSet set) := by
  refine same_modify (fun k => ?_) (fun k => ?_)
  · split
    · split
      · rfl
      · rfl
    · rfl
  · have hsets : (k.over s').sets = k.sets := rfl
    simp only [hsets]
    cases k.sets[set]? with
    | none => rfl
    | some r =>
      by_cases hr : r.closed = true
      · simp only [if_pos hr]
      · simp only [if_neg hr]
        rfl

theorem same_isClosed : Same s s' isClosed := by
  refine same_get (fun _ _ => rfl) fun k => ?_
  split
  · exact same_fail _
  · exact same_pure _

theorem same_close : Same s s' close := by
  have hclosed : Same s s' (modify fun k : Connection => { k with closed := true } : Access Unit) :=
    same_modify (fun _ => rfl) (fun _ => rfl)
  refine Same.bind (same_modify (fun _ => rfl) (fun _ => rfl)) fun _ => ?_
  refine same_get (fun _ _ => rfl) fun k => ?_
  split
  · exact (same_fail _).bind fun _ => hclosed
  · exact hclosed

theorem same_anyAutoIncrement (hfails : ∀ call, s.fails call = s'.fails call) (set : Nat) :
    Same s s' (anyAutoIncrement set) := by
  refine (same_columnCount set).bind fun count => ?_
  induction List.range count with
  | nil => exact same_pure false
  | cons column columns ih =>
    rw [List.anyM_cons]
    refine (same_isAutoIncrement hfails set column).bind fun found => ?_
    cases found with
    | true => exact same_pure true
    | false => exact ih

theorem same_probe {relation : String} (hfails : ∀ call, s.fails call = s'.fails call)
    (hanswer : answer? s (emptySelect relation) = answer? s' (emptySelect relation)) :
    Same s s' (probe relation) := by
  refine (same_executeQuery hfails hanswer).bind fun set => (same_anyAutoIncrement hfails set).outcome.bind
    fun found => (same_closeSet set).bind fun _ => ?_
  cases found with
  | ok x => exact same_pure x
  | error e => exact fun k hk => ⟨_, k, rfl, hk, rfl⟩

end Driver
end Access

namespace Schema.AgreeOn

variable {s s' : Schema} {topics : Topic → Prop}

theorem facts (h : AgreeOn topics s s') (hq : topics .quoteString) (hk : topics .keywords)
    (hc : topics .extraNameCharacters) (hp : topics .casePolicy) : s.facts = s'.facts := by
  have hquote : s.quoteString = s'.quoteString := h.content hq
  have hkeywords : s.keywords = s'.keywords := h.content hk
  have hextra : s.extraNameCharacters = s'.extraNameCharacters := h.content hc
  have hpolicy : s.casePolicy = s'.casePolicy := h.content hp
  rw [Schema.facts, Schema.facts, hquote, hkeywords, hextra, hpolicy]

theorem properTables (h : AgreeOn topics s s') (ht : topics .tables) : s.properTables = s'.properTables := by
  have htables : s.tableRows = s'.tableRows := h.content ht
  rw [Schema.properTables, Schema.properTables, htables]

theorem schemasInDml (h : AgreeOn topics s s') (ht : topics .qualification) : s.schemasInDml = s'.schemasInDml :=
  congrArg Prod.fst (h.content ht)

theorem schemasInDdl (h : AgreeOn topics s s') (ht : topics .qualification) : s.schemasInDdl = s'.schemasInDdl :=
  congrArg Prod.snd (h.content ht)

theorem uniqueRows {schema table : String} (h : AgreeOn topics s s') (ht : topics (.indexes (schema, table))) :
    s.uniqueRows schema table = s'.uniqueRows schema table := by
  rw [Schema.uniqueRows, Schema.uniqueRows, h.indexRows ht]

theorem tableOf {row : TableRow} (h : AgreeOn topics s s')
    (hsettings : ∀ topic, topic.table? = none → topics topic)
    (hrows : ∀ topic, topic.table? = some (row.schema, row.name) → topics topic) : s.tableOf row = s'.tableOf row := by
  have hfacts := h.facts (hsettings _ rfl) (hsettings _ rfl) (hsettings _ rfl) (hsettings _ rfl)
  rw [Schema.tableOf, Schema.tableOf, entry, entry, hfacts, h.schemasInDml (hsettings _ rfl),
    h.schemasInDdl (hsettings _ rfl), h.columnRows (hrows _ rfl), h.primaryKeyRows (hrows _ rfl),
    h.importedKeyRows (hrows _ rfl), h.uniqueRows (hrows _ rfl)]

theorem described (h : AgreeOn (fun _ => True) s s') : s.described = s'.described := by
  have hcontent : s.catalog.content .selectForUpdate = s'.catalog.content .selectForUpdate := h.content trivial
  have hselect : s.selectForUpdate = s'.selectForUpdate := hcontent
  have htables : s.tableOf = s'.tableOf := funext fun row => h.tableOf (fun _ _ => trivial) (fun _ _ => trivial)
  rw [Schema.described, Schema.described, h.facts trivial trivial trivial trivial, h.properTables trivial, htables,
    hselect, h.schemasInDml trivial, h.schemasInDdl trivial]

end Schema.AgreeOn

inductive Inquiry : Type → Type where
  | identifierQuoteString : Inquiry String
  | sqlKeywords : Inquiry (List String)
  | extraNameCharacters : Inquiry String
  | casePolicy : Inquiry CasePolicy
  | schemasInDml : Inquiry Bool
  | schemasInDdl : Inquiry Bool
  | selectForUpdate : Inquiry Bool
  | tables (types : List String) : Inquiry (List TableRow)
  | columns (schema table : String) : Inquiry (List ColumnRow)
  | primaryKeys (schema table : String) : Inquiry (List PrimaryKeyRow)
  | importedKeys (schema table : String) : Inquiry (List ImportedKeyRow)
  | indexInfo (schema table : String) (unique : Bool) : Inquiry (List IndexRow)
  | executeQuery (sql : String) : Inquiry Nat
  | columnCount (set : Nat) : Inquiry Nat
  | isAutoIncrement (set column : Nat) : Inquiry Bool
  | closeSet (set : Nat) : Inquiry Unit
  | isClosed : Inquiry Bool
  | close : Inquiry Unit
  | facts : Inquiry Facts
  | tablesBySchema (f : Facts) : Inquiry (Assoc String (List String))
  | columnMap (f : Facts) (schema table : String) : Inquiry (Assoc String Column)
  | primaryKey (f : Facts) (schema table : String) : Inquiry (Option UniqueConstraint)
  | foreignKeys (f : Facts) (schema table : String) : Inquiry (List ForeignKey)
  | uniqueConstraints (f : Facts) (schema table : String) : Inquiry (List UniqueConstraint)
  | qualifyDml (schema table : String) : Inquiry String
  | qualifyDdl (schema table : String) : Inquiry String
  | probe (relation : String) : Inquiry Bool
  | load : Inquiry Snapshot

namespace Inquiry

variable {α : Type} {s s' : Schema} {key : TableKey}

def run : Inquiry α → Access α
  | identifierQuoteString => Access.identifierQuoteString
  | sqlKeywords => Access.sqlKeywords
  | extraNameCharacters => Access.extraNameCharacters
  | casePolicy => Access.casePolicy
  | schemasInDml => Access.schemasInDml
  | schemasInDdl => Access.schemasInDdl
  | selectForUpdate => Access.selectForUpdate
  | tables types => Access.tables types
  | columns schema table => Access.columns schema table
  | primaryKeys schema table => Access.primaryKeys schema table
  | importedKeys schema table => Access.importedKeys schema table
  | indexInfo schema table unique => Access.indexInfo schema table unique
  | executeQuery sql => Access.executeQuery sql
  | columnCount set => Access.columnCount set
  | isAutoIncrement set column => Access.isAutoIncrement set column
  | closeSet set => Access.closeSet set
  | isClosed => Access.isClosed
  | close => Access.close
  | facts => Introspection.facts
  | tablesBySchema f => Introspection.tables f
  | columnMap f schema table => Introspection.columns f schema table
  | primaryKey f schema table => Introspection.primaryKey f schema table
  | foreignKeys f schema table => Introspection.foreignKeys f schema table
  | uniqueConstraints f schema table => Introspection.uniqueConstraints f schema table
  | qualifyDml schema table => Introspection.qualifyDml schema table
  | qualifyDdl schema table => Introspection.qualifyDdl schema table
  | probe relation => Access.probe relation
  | load => Snapshot.load

def concerns : Inquiry α → Topic → Prop
  | identifierQuoteString, topic => topic = .quoteString
  | sqlKeywords, topic => topic = .keywords
  | extraNameCharacters, topic => topic = .extraNameCharacters
  | casePolicy, topic => topic = .casePolicy
  | schemasInDml, topic | schemasInDdl, topic | qualifyDml .., topic | qualifyDdl .., topic => topic = .qualification
  | selectForUpdate, topic => topic = .selectForUpdate
  | tables _, topic | tablesBySchema _, topic => topic = .tables
  | columns schema table, topic | columnMap _ schema table, topic => topic = .columns (schema, table)
  | primaryKeys schema table, topic | primaryKey _ schema table, topic => topic = .primaryKeys (schema, table)
  | importedKeys schema table, topic | foreignKeys _ schema table, topic => topic = .importedKeys (schema, table)
  | indexInfo schema table _, topic | uniqueConstraints _ schema table, topic => topic = .indexes (schema, table)
  | executeQuery sql, topic => ∃ name, Access.emptySelect name = sql ∧ topic = .relation name
  | probe relation, topic => topic = .relation relation
  | columnCount _, _ | isAutoIncrement .., _ | closeSet _, _ | isClosed, _ | close, _ => False
  | facts, topic => topic = .quoteString ∨ topic = .keywords ∨ topic = .extraNameCharacters ∨ topic = .casePolicy
  | load, _ => True

theorem same_run (q : Inquiry α) (h : Schema.AgreeOn q.concerns s s') : Access.Same s s' q.run := by
  cases q with
  | identifierQuoteString => exact Access.same_ask h.fails (h.content rfl)
  | sqlKeywords => exact Access.same_ask h.fails (h.content rfl)
  | extraNameCharacters => exact Access.same_ask h.fails (h.content rfl)
  | casePolicy => exact Access.same_read h.fails (h.content rfl)
  | schemasInDml => exact Access.same_read h.fails (h.schemasInDml rfl)
  | schemasInDdl => exact Access.same_read h.fails (h.schemasInDdl rfl)
  | selectForUpdate => exact Access.same_read h.fails (h.content rfl)
  | tables types =>
    have htables : s.tableRows = s'.tableRows := h.content rfl
    exact Access.same_ask h.fails (by rw [htables])
  | columns schema table => exact Access.same_ask h.fails (h.columnRows rfl)
  | primaryKeys schema table => exact Access.same_ask h.fails (h.primaryKeyRows rfl)
  | importedKeys schema table => exact Access.same_ask h.fails (h.importedKeyRows rfl)
  | indexInfo schema table unique =>
    have hrows : s.indexRows schema table = s'.indexRows schema table := h.indexRows rfl
    exact Access.same_ask h.fails (by rw [hrows])
  | executeQuery sql => exact Access.same_executeQuery h.fails (h.answer? fun name hname => ⟨name, hname, rfl⟩)
  | columnCount set => exact Access.same_columnCount set
  | isAutoIncrement set column => exact Access.same_isAutoIncrement h.fails set column
  | closeSet set => exact Access.same_closeSet set
  | isClosed => exact Access.same_isClosed
  | close => exact Access.same_close
  | facts =>
    have hfacts := h.facts (.inl rfl) (.inr (.inl rfl)) (.inr (.inr (.inl rfl))) (.inr (.inr (.inr rfl)))
    exact Access.tells_facts.same h.fails rfl hfacts
  | tablesBySchema f =>
    have htells : Access.Tells (Introspection.tables f) _ _ := Access.tells_tableRows.map
    exact htells.same h.fails rfl (congrArg (Resync.tablesBySchema f) (h.properTables rfl))
  | columnMap f schema table =>
    exact Access.tells_columns.same h.fails rfl (congrArg (columnsOfRows f) (h.columnRows rfl))
  | primaryKey f schema table =>
    exact Access.tells_primaryKey.same h.fails rfl (congrArg (primaryKeyOfRows f schema table) (h.primaryKeyRows rfl))
  | foreignKeys f schema table =>
    exact Access.tells_foreignKeys.same h.fails rfl
      (congrArg (foreignKeysOfRows f schema table) (h.importedKeyRows rfl))
  | uniqueConstraints f schema table =>
    exact Access.tells_uniqueConstraints.same h.fails rfl
      (congrArg (uniqueConstraintsOfRows f schema table) (h.uniqueRows rfl))
  | qualifyDml schema table =>
    exact Access.tells_qualifyDml.same h.fails rfl (congrArg (qualify · schema table) (h.schemasInDml rfl))
  | qualifyDdl schema table =>
    exact Access.tells_qualifyDdl.same h.fails rfl (congrArg (qualify · schema table) (h.schemasInDdl rfl))
  | probe relation =>
    refine Access.same_probe h.fails (h.answer? fun name hname => ?_)
    rw [Access.emptySelect_inj.mp hname]
    rfl
  | load =>
    have hcalls : s.loadCalls = s'.loadCalls := by
      rw [Schema.loadCalls, Schema.loadCalls, h.properTables trivial]
    exact Access.tells_load.same h.fails hcalls h.described

end Inquiry

def Connection.hear (k : Connection) : List (Sigma Inquiry) → List (Sigma (Except Error)) × Connection
  | [] => ([], k)
  | ⟨α, q⟩ :: inquiries =>
    let (answer, k) := Access.on k q.run
    let (answers, k) := k.hear inquiries
    (⟨α, answer⟩ :: answers, k)

namespace Schema

variable {s s' : Schema}

theorem hear_over {inquiries : List (Sigma Inquiry)} (h : ∀ q ∈ inquiries, AgreeOn q.2.concerns s s')
    {k : Connection} (hk : k.schema = s) :
    (k.over s').hear inquiries = ((k.hear inquiries).1, (k.hear inquiries).2.over s') := by
  induction inquiries generalizing k with
  | nil => rfl
  | cons q inquiries ih =>
    obtain ⟨answer, k', hon, hk', hover⟩ := q.2.same_run (h q List.mem_cons_self) k hk
    simp only [Connection.hear, hon, hover, ih (fun q hq => h q (List.mem_cons_of_mem _ hq)) hk']

/-- Clauses that add rows to one table leave the entries of all others in a snapshot as they are. -/
theorem loaded_elsewhere {key : TableKey} (h : s.elsewhere key = s'.elsewhere key) :
    (∃ e, s.loaded = .error e ∧ s'.loaded = .error e) ∨
      s.loaded = .ok s.described ∧ s'.loaded = .ok s'.described ∧
        ∀ (i : Nat) (row : TableRow), s.properTables[i]? = some row → (row.schema, row.name) ≠ key →
          s'.described.tables[i]? = s.described.tables[i]? := by
  have hagree := agreeOn_of_elsewhere h
  have htables := hagree.properTables (Option.some_ne_none key).symm
  have hcalls : s.loadCalls = s'.loadCalls := by rw [loadCalls, loadCalls, htables]
  rw [loaded, loaded, Access.tells_load, Access.tells_load]
  simp only [reply, ← hcalls, ← funext hagree.fails]
  cases s.loadCalls.find? s.fails with
  | some call => exact .inl ⟨_, rfl, rfl⟩
  | none =>
    refine .inr ⟨rfl, rfl, fun i row hrow hne => ?_⟩
    have hentry : s.tableOf row = s'.tableOf row := by
      apply hagree.tableOf
      · intro topic ht
        rw [ht]
        exact (Option.some_ne_none key).symm
      · intro topic ht
        rw [ht]
        exact fun he => hne (Option.some.inj he)
    simp only [described, List.getElem?_map, ← htables, hrow, Option.map_some, hentry]

/-- A script may be reordered as long as the clauses about one topic stay in order: a connection in
whatever state answers every series of inquiries alike, and its state afterwards is the same. And
clauses that add rows to one table, wherever they are put in or left out, show in no inquiry that
does not concern these rows, nor in the entry of another table in a snapshot. -/
theorem answers_reordered (h : s.Reordered s') (k : Connection) (hk : k.schema = s) :
    (∀ inquiries, (k.over s').hear inquiries = ((k.hear inquiries).1, (k.hear inquiries).2.over s')) ∧
    ∀ (key : TableKey) (t : Schema), s.elsewhere key = t.elsewhere key →
      (∀ inquiries, (∀ q ∈ inquiries, ∀ topic, q.2.concerns topic → topic.table? ≠ some key) →
        (k.over t).hear inquiries = ((k.hear inquiries).1, (k.hear inquiries).2.over t)) ∧
      ((∃ e, s.loaded = .error e ∧ t.loaded = .error e) ∨
        s.loaded = .ok s.described ∧ t.loaded = .ok t.described ∧
          ∀ (i : Nat) (row : TableRow), s.properTables[i]? = some row → (row.schema, row.name) ≠ key →
            t.described.tables[i]? = s.described.tables[i]?) := by
  refine ⟨fun inquiries => hear_over (fun q _ => h.agreeOn _) hk, fun key t ht => ⟨?_, loaded_elsewhere ht⟩⟩
  intro inquiries hspared
  exact hear_over (fun q hq => (agreeOn_of_elsewhere ht).mono (hspared q hq)) hk

/-- Two tables whose names look alike behind those of their schemas. -/
def lookalikes : Schema :=
  ⟨[.table ⟨"a", "b.c", "TABLE"⟩, .column "a" "b.c" ⟨"id", 4, "int"⟩, .table ⟨"a.b", "c", "TABLE"⟩,
    .column "a.b" "c" ⟨"no", 12, "text"⟩, .column "a" "b.c" ⟨"at", 93, "time"⟩, .failOn "index_info"]⟩

def shuffled : Schema :=
  ⟨[.failOn "index_info", .column "a.b" "c" ⟨"no", 12, "text"⟩, .column "a" "b.c" ⟨"id", 4, "int"⟩,
    .column "a" "b.c" ⟨"at", 93, "time"⟩, .table ⟨"a", "b.c", "TABLE"⟩, .table ⟨"a.b", "c", "TABLE"⟩]⟩

def widened : Schema :=
  ⟨[.table ⟨"a", "b.c", "TABLE"⟩, .column "a" "b.c" ⟨"id", 4, "int"⟩, .table ⟨"a.b", "c", "TABLE"⟩,
    .column "a.b" "c" ⟨"id", 4, "int"⟩, .column "a" "b.c" ⟨"at", 93, "time"⟩, .failOn "index_info"]⟩

/-- Snapshots of the two fail alike, and the columns of the first table are the same in all three. -/
theorem answers_reordered_lookalikes :
    (({ schema := shuffled } : Connection).hear [⟨_, .load⟩, ⟨_, .columns "a" "b.c"⟩]).1 =
      (({ schema := lookalikes } : Connection).hear [⟨_, .load⟩, ⟨_, .columns "a" "b.c"⟩]).1 ∧
    (({ schema := widened } : Connection).hear [⟨_, .columns "a" "b.c"⟩]).1 =
      (({ schema := lookalikes } : Connection).hear [⟨_, .columns "a" "b.c"⟩]).1 := by
  have hreordered : lookalikes.Reordered shuffled := by decide +kernel
  obtain ⟨hall, hspared⟩ := answers_reordered hreordered { schema := lookalikes } rfl
  obtain ⟨hother, -⟩ := hspared ("a.b", "c") widened (by decide +kernel)
  have hcolumns := hother [⟨_, .columns "a" "b.c"⟩] fun q hq topic ht => by
    cases List.mem_singleton.mp hq
    cases ht
    decide
  have hboth := hall [⟨_, .load⟩, ⟨_, .columns "a" "b.c"⟩]
  exact ⟨congrArg (·.1) hboth, congrArg (·.1) hcolumns⟩

end Schema

end Resync
