import Resync.Proofs.Cluster.Faithful
import Resync.Proofs.Connection.Probe

/-! # Questions about filled columns

A snapshot is asked about its tables again and again, through several connections to its backend.
What it remembers is not seen in the answers, which are those of probes, also if tables share a
name. It is seen in the traffic: a relation that can be probed is probed once, and one that cannot
is probed at every question, unless no query can be run at all.
-/
namespace Resync

open Access (emptySelect)

structure Question where
  table : Table
  connection : Nat

namespace Schema

variable {s : Schema} {relations : List String} {relation other : String}

/-- How many queries it takes to answer so many questions about the relation. -/
def needed (s : Schema) (relation : String) (questions : Nat) : Nat :=
  if s.fails "execute_query" then 0
  else
    match s.probed relation with
    | .ok _ => min 1 questions
    | .error _ => questions

theorem needed_zero (s : Schema) (relation : String) : s.needed relation 0 = 0 := by
  unfold needed
  split
  · rfl
  · split
    · rfl
    · rfl

theorem needed_known {found : Bool} (hmem : relation ∈ relations) (hprobed : s.probed relation = .ok found)
    (other : String) :
    s.needed other ((relations ++ [relation]).count other) = s.needed other (relations.count other) := by
  rw [List.count_append, List.count_singleton]
  by_cases h : relation = other
  · subst h
    have hpos : 0 < relations.count relation := List.count_pos_iff.mpr hmem
    have hmin : min 1 (relations.count relation + 1) = min 1 (relations.count relation) := by omega
    rw [beq_self_eq_true, if_pos rfl, needed, needed, hprobed]
    simp only [hmin]
  · rw [beq_false_of_ne h, if_neg Bool.false_ne_true, Nat.add_zero]

theorem needed_unknown (hnew : ∀ found, s.probed relation = .ok found → relation ∉ relations) (other : String) :
    s.needed other ((relations ++ [relation]).count other) = s.needed other (relations.count other) +
      if s.fails "execute_query" then 0 else if relation = other then 1 else 0 := by
  rw [List.count_append, List.count_singleton]
  unfold needed
  cases s.fails "execute_query" with
  | true => rfl
  | false =>
    by_cases h : relation = other
    · subst h
      cases hprobed : s.probed relation with
      | error e => simp
      | ok found =>
        have hzero : relations.count relation = 0 := List.count_eq_zero.mpr (hnew found hprobed)
        simp [hzero]
    · simp [h]

end Schema

/-- The memo has the answers to the probes of these relations that do not fail, and no others. -/
def Memo.Knows (memo : Memo) (s : Schema) (relations : List String) : Prop :=
  ∀ relation found, memo.get? relation = some found ↔ relation ∈ relations ∧ s.probed relation = .ok found

namespace Memo.Knows

variable {memo : Memo} {s : Schema} {relations : List String} {relation : String}

theorem empty (s : Schema) : (∅ : Memo).Knows s [] := by
  intro relation found
  refine ⟨nofun, ?_⟩
  rintro ⟨hmem, -⟩
  cases hmem

theorem again (h : memo.Knows s relations) (hmem : relation ∈ relations) :
    memo.Knows s (relations ++ [relation]) := by
  intro other found
  have hsame : other ∈ relations ++ [relation] ↔ other ∈ relations := by
    rw [List.mem_append, List.mem_singleton]
    exact ⟨fun ho => ho.elim id fun he => he ▸ hmem, .inl⟩
  rw [h, hsame]

theorem failed {e : Error} (h : memo.Knows s relations) (hprobed : s.probed relation = .error e) :
    memo.Knows s (relations ++ [relation]) := by
  intro other found
  rw [h, List.mem_append, List.mem_singleton]
  refine ⟨fun ho => ⟨.inl ho.1, ho.2⟩, ?_⟩
  rintro ⟨ho | rfl, hfound⟩
  · exact ⟨ho, hfound⟩
  · rw [hprobed] at hfound
    cases hfound

theorem learned {found : Bool} (h : memo.Knows s relations) (hprobed : s.probed relation = .ok found) :
    Memo.Knows (memo.insert relation found) s (relations ++ [relation]) := by
  intro other answer
  rw [Assoc.get?_insert, List.mem_append, List.mem_singleton]
  by_cases he : relation = other
  · subst he
    rw [if_pos rfl, hprobed, Option.some.injEq, Except.ok.injEq]
    exact ⟨fun ha => ⟨.inr rfl, ha⟩, fun ha => ha.2⟩
  · rw [if_neg he, h]
    exact ⟨fun ho => ⟨.inl ho.1, ho.2⟩, fun ho => ⟨ho.1.resolve_right (Ne.symm he), ho.2⟩⟩

end Memo.Knows

namespace World

def Reaches (w : World) (connection : Nat) (s : Schema) : Prop :=
  ∃ handle k, w.connections[connection]? = some (handle, k) ∧ k.schema = s

def ran (w : World) (sql : String) : Nat := (w.connections.flatMap fun e => e.2.queries).count sql

def askAll (w : World) (n : Nat) : List Question → List (Except Error Bool) × World
  | [] => ([], w)
  | q :: rest =>
    let (answer, w) := w.autoIncrement n q.connection q.table.dml
    let (answers, w) := w.askAll n rest
    (answer :: answers, w)

variable {w w' : World} {n c : Nat} {p : Snapshot} {s : Schema} {relations : List String} {relation : String}

theorem Reaches.keeps {base : Nat} (h : w.Reaches c s) (hk : Keeps base w w') : w'.Reaches c s := by
  obtain ⟨handle, k, hc, hs⟩ := h
  obtain ⟨k', hc', hkeep⟩ := hk.connection c handle k hc
  exact ⟨handle, k', hc', hkeep.schema.trans hs⟩

theorem ran_set {handle sql : String} {k k' : Connection} {m : Nat}
    (hk : w.connections[c]? = some (handle, k)) (hcount : k'.queries.count sql = k.queries.count sql + m) :
    ((w.connections.set c (handle, k')).flatMap fun e => e.2.queries).count sql = w.ran sql + m := by
  unfold ran
  generalize w.connections = l at hk ⊢
  induction l generalizing c with
  | nil => cases hk
  | cons e l ih =>
    cases c with
    | zero =>
      cases hk
      rw [List.set_cons_zero, List.flatMap_cons, List.flatMap_cons, List.count_append, List.count_append, hcount]
      exact Nat.add_right_comm ..
    | succ c =>
      rw [List.set_cons_succ, List.flatMap_cons, List.flatMap_cons, List.count_append, List.count_append, ih hk,
        Nat.add_assoc]

theorem ran_probed {handle : String} {k : Connection} (hk : w.connections[c]? = some (handle, k))
    (relation other : String) :
    ((w.connections.set c (handle, k.probed relation)).flatMap fun e => e.2.queries).count (emptySelect other) =
      w.ran (emptySelect other) +
        if k.schema.fails "execute_query" then 0 else if relation = other then 1 else 0 := by
  refine ran_set hk ?_
  rw [k.queries_probed]
  split
  · rfl
  · rw [List.count_append, List.count_singleton]
    simp only [beq_iff_eq, Access.emptySelect_inj]

theorem autoIncrement_known {l : LiveSnapshot} {found : Bool} (hl : w.cache.live[n]? = some l)
    (hc : w.Reaches c s) (hm : l.memo.get? relation = some found) :
    w.autoIncrement n c relation = (.ok found, w) := by
  obtain ⟨handle, k, hk, -⟩ := hc
  have hset : w.connections.set c (handle, k) = w.connections := set_eq_self hk
  rw [autoIncrement_eq hk, Cache.on_autoIncrement_known hl hm]
  simp only [hset]

/-- What the world `w` has come to when snapshot `n` was asked about the relations. -/
structure Asked (p : Snapshot) (s : Schema) (n : Nat) (relations : List String) (w w' : World) : Prop where
  live : ∃ memo, w'.cache.live[n]? = some { snapshot := p, memo } ∧ memo.Knows s relations
  keeps : Keeps 0 w w'
  ran : ∀ relation, w'.ran (emptySelect relation) =
    w.ran (emptySelect relation) + s.needed relation (relations.count relation)

theorem Asked.refl (hlive : w.cache.live[n]? = some { snapshot := p }) (s : Schema) :
    Asked p s n [] w w where
  live := ⟨∅, hlive, .empty s⟩
  keeps := .of_eq rfl rfl
  ran relation := by rw [List.count_nil, Schema.needed_zero, Nat.add_zero]

theorem Asked.ask (h : Asked p s n relations w w') (hc : w.Reaches c s) (relation : String) :
    (w'.autoIncrement n c relation).1 = s.probed relation ∧
      Asked p s n (relations ++ [relation]) w (w'.autoIncrement n c relation).2 := by
  obtain ⟨memo, hlive, hknows⟩ := h.live
  have hkeeps : Keeps 0 w (w'.autoIncrement n c relation).2 :=
    h.keeps.trans (w'.autoIncrement_keeps n relation (Nat.zero_le c)).1
  have hreach : w'.Reaches c s := hc.keeps h.keeps
  cases hm : memo.get? relation with
  | some found =>
    obtain ⟨hmem, hprobed⟩ := (hknows relation found).mp hm
    rw [autoIncrement_known hlive hreach hm]
    refine ⟨hprobed.symm, ⟨memo, hlive, hknows.again hmem⟩, h.keeps, fun other => ?_⟩
    rw [h.ran, Schema.needed_known hmem hprobed]
  | none =>
    obtain ⟨handle, k, hk, rfl⟩ := hreach
    have hnew : ∀ found, k.schema.probed relation = .ok found → relation ∉ relations := by
      intro found hprobed hmem
      rw [(hknows relation found).mpr ⟨hmem, hprobed⟩] at hm
      cases hm
    have hran : ∀ other, ((w'.connections.set c (handle, k.probed relation)).flatMap fun e =>
        e.2.queries).count (emptySelect other) = w.ran (emptySelect other) +
          k.schema.needed other ((relations ++ [relation]).count other) := by
      intro other
      rw [Schema.needed_unknown hnew, ← Nat.add_assoc, ← h.ran]
      exact ran_probed hk relation other
    rw [autoIncrement_eq hk, Cache.on_autoIncrement_unknown hlive hm] at hkeeps ⊢
    cases hprobed : k.schema.probed relation with
    | error e =>
      rw [hprobed] at hkeeps
      exact ⟨rfl, ⟨memo, hlive, hknows.failed hprobed⟩, hkeeps, hran⟩
    | ok found =>
      rw [hprobed] at hkeeps
      have hlt : n < w'.cache.live.length := (List.getElem?_eq_some_iff.mp hlive).1
      exact ⟨rfl, ⟨memo.insert relation found, List.getElem?_set_self hlt, hknows.learned hprobed⟩,
        hkeeps, hran⟩

theorem Asked.askAll {questions : List Question} (h : Asked p s n relations w w')
    (hopen : ∀ q ∈ questions, w.Reaches q.connection s) :
    (w'.askAll n questions).1 = questions.map (fun q => s.probed q.table.dml) ∧
      Asked p s n (relations ++ questions.map (·.table.dml)) w (w'.askAll n questions).2 := by
  induction questions generalizing relations w' with
  | nil =>
    rw [List.map_nil, List.map_nil, List.append_nil]
    exact ⟨rfl, h⟩
  | cons q questions ih =>
    obtain ⟨hanswer, hasked⟩ := h.ask (hopen q List.mem_cons_self) q.table.dml
    obtain ⟨hanswers, hrest⟩ := ih hasked fun q' hq' => hopen q' (List.mem_cons_of_mem q hq')
    rw [List.append_assoc] at hrest
    exact ⟨congrArg₂ List.cons hanswer hanswers, hrest⟩

/-- The questions are answered as by probes through any other connection, and exactly the answers of
the probes that did not fail are remembered. A question that was answered is not sent again, so in all
each relation that can be probed is probed once, and each other one at every question. -/
theorem memo_unseen {questions : List Question} {k : Connection}
    (hlive : w.cache.live[n]? = some { snapshot := p })
    (hopen : ∀ q ∈ questions, w.Reaches q.connection k.schema) :
    (w.askAll n questions).1 = questions.map (fun q => (Access.on k (Access.probe q.table.dml)).1) ∧
    (∃ memo, (w.askAll n questions).2.cache.live[n]? = some { snapshot := p, memo } ∧
      ∀ relation found, memo.get? relation = some found ↔
        relation ∈ questions.map (·.table.dml) ∧ (Access.on k (Access.probe relation)).1 = .ok found) ∧
    (∀ (i : Nat) (q q' : Question) (found : Bool), questions[i]? = some q →
      (w.askAll n questions).1[i]? = some (.ok found) →
      q'.table.dml = q.table.dml → w.Reaches q'.connection k.schema →
      (w.askAll n questions).2.autoIncrement n q'.connection q'.table.dml =
        (.ok found, (w.askAll n questions).2)) ∧
    ∀ relation, (w.askAll n questions).2.ran (emptySelect relation) = w.ran (emptySelect relation) +
      k.schema.needed relation ((questions.map (·.table.dml)).count relation) := by
  simp only [Access.on_probe]
  obtain ⟨hanswers, hasked⟩ := (Asked.refl hlive k.schema).askAll hopen
  rw [List.nil_append] at hasked
  refine ⟨hanswers, hasked.live, ?_, hasked.ran⟩
  intro i q q' found hq hanswer hsame hreach
  rw [hanswers, List.getElem?_map, hq, Option.map_some, Option.some.injEq] at hanswer
  obtain ⟨memo, hmemo, hknown⟩ := hasked.live
  have hmem : q'.table.dml ∈ questions.map (·.table.dml) :=
    List.mem_map.mpr ⟨q, List.mem_of_getElem? hq, hsame.symm⟩
  rw [← hsame] at hanswer
  exact autoIncrement_known hmemo (hreach.keeps hasked.keeps) ((hknown _ found).mpr ⟨hmem, hanswer⟩)

/-- Without their schemas two tables have one name; the third one is no relation. -/
def stores : Schema :=
  ⟨[.qualification false true, .table ⟨"shop", "item", "TABLE"⟩, .table ⟨"depot", "item", "TABLE"⟩,
    .table ⟨"shop", "note", "TABLE"⟩, .autoIncrement "item" [false, true]]⟩

def doors : World where
  backends := ∅
  connections := [("a", { schema := stores }), ("b", { schema := stores })]
  active := ⟨[]⟩
  cache := { strategy := .eager, live := [{ snapshot := stores.described }] }

def everyTable : List Question :=
  [⟨stores.tableOf ⟨"shop", "item", "TABLE"⟩, 0⟩, ⟨stores.tableOf ⟨"shop", "note", "TABLE"⟩, 1⟩,
    ⟨stores.tableOf ⟨"depot", "item", "TABLE"⟩, 1⟩, ⟨stores.tableOf ⟨"shop", "note", "TABLE"⟩, 0⟩]

/-- One query is enough for the shared name, and the failing one is sent twice. -/
theorem memo_unseen_doors :
    stores.loaded = .ok stores.described ∧
    (doors.askAll 0 everyTable).1.map Except.toOption = [some true, none, some true, none] ∧
    (doors.askAll 0 everyTable).2.ran (emptySelect "item") = 1 ∧
    (doors.askAll 0 everyTable).2.ran (emptySelect "note") = 2 := by
  have hload : stores.loaded = .ok stores.described := Schema.loaded_eq_ok_iff.mpr ⟨by decide, rfl⟩
  have hopen : ∀ q ∈ everyTable, doors.Reaches q.connection stores := by
    intro q hq
    have hnumber : q.connection ∈ [0, 1, 1, 0] := List.mem_map_of_mem (f := (·.connection)) hq
    have hdoors : ∀ c ∈ [0, 1, 1, 0], doors.Reaches c stores := by
      simp only [List.forall_mem_cons]
      exact ⟨⟨"a", _, rfl, rfl⟩, ⟨"b", _, rfl, rfl⟩, ⟨"b", _, rfl, rfl⟩, ⟨"a", _, rfl, rfl⟩, nofun⟩
    exact hdoors _ hnumber
  obtain ⟨hanswers, -, -, hran⟩ := memo_unseen (n := 0) (k := { schema := stores }) rfl hopen
  have htold : everyTable.map (fun q => (Access.on { schema := stores } (Access.probe q.table.dml)).1.toOption) =
      [some true, none, some true, none] := by decide +kernel
  have hone : stores.needed "item" ((everyTable.map (·.table.dml)).count "item") = 1 := by decide +kernel
  have htwo : stores.needed "note" ((everyTable.map (·.table.dml)).count "note") = 2 := by decide +kernel
  refine ⟨hload, ?_, ?_, ?_⟩
  · exact (congrArg (List.map Except.toOption) hanswers).trans (List.map_map.trans htold)
  · have hzero : doors.ran (emptySelect "item") = 0 := rfl
    rw [hran "item", hzero, Nat.zero_add]
    exact hone
  · have hzero : doors.ran (emptySelect "note") = 0 := rfl
    rw [hran "note", hzero, Nat.zero_add]
    exact htwo

end World
end Resync
