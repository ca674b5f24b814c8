import Resync.Proofs.Schema.Topics
import Resync.Proofs.Snapshot.Description

/-! # Snapshots that cannot be taken

Taking a snapshot fails if a call that it reaches is scripted to fail, and the error is that of the
first such call. The calls for tables are repeated for each proper table, but the first table makes
all of them, so that the others add nothing. The connection is left as it was in any case.
-/
namespace Resync

namespace Schema

variable {α : Type} {s : Schema} {calls calls' : List String} {call : String} {a : α} {e : Error}

def HasTable (s : Schema) : Prop := ∃ row, .table row ∈ s.script ∧ row.type = "TABLE"

theorem hasTable_iff : s.HasTable ↔ ∃ row ∈ s.tableRows, row.type = "TABLE" := by
  simp only [HasTable, mem_tableRows]

instance (s : Schema) : Decidable s.HasTable := decidable_of_iff' _ hasTable_iff

/-- The calls that taking a snapshot reaches, each once, in the order in which they are first made. -/
def reached (s : Schema) : List String :=
  ["identifier_quote_string", "sql_keywords", "extra_name_characters", "tables"] ++
    if s.HasTable then tableCalls else []

theorem properTables_eq_nil_iff : s.properTables = [] ↔ ¬ s.HasTable := by
  rw [properTables, List.filter_eq_nil_iff, hasTable_iff, not_exists]
  simp only [decide_eq_true_eq, not_and]

theorem find?_flatMap_const {β : Type} (p : String → Bool) (calls : List String) (l : List β) :
    (l.flatMap fun _ => calls).find? p = if l = [] then none else calls.find? p := by
  induction l with
  | nil => rfl
  | cons x l ih =>
    rw [List.flatMap_cons, List.find?_append, ih, if_neg (List.cons_ne_nil x l)]
    cases hfirst : calls.find? p with
    | some call => rfl
    | none => split <;> rfl

/-- Repeating the calls for every table does not change which call fails first. -/
theorem find?_loadCalls (s : Schema) (p : String → Bool) : s.loadCalls.find? p = s.reached.find? p := by
  rw [loadCalls, reached, List.find?_append, List.find?_append, find?_flatMap_const]
  by_cases h : s.HasTable
  · rw [if_pos h, if_neg (mt properTables_eq_nil_iff.mp (not_not_intro h))]
  · rw [if_neg h, if_pos (properTables_eq_nil_iff.mpr h), List.find?_nil]

theorem reply_congr (a : α) (h : calls.find? s.fails = calls'.find? s.fails) :
    s.reply calls a = s.reply calls' a := by
  rw [reply, reply, h]

theorem reply_eq_error_iff : s.reply calls a = .error e ↔ ∃ before call after,
    calls = before ++ call :: after ∧ s.fails call = true ∧ (∀ c ∈ before, s.fails c = false) ∧
      e = .dataAccess (.call call) := by
  have hfirst : ∀ call, calls.find? s.fails = some call ↔ s.fails call = true ∧ ∃ before after,
      calls = before ++ call :: after ∧ ∀ c ∈ before, s.fails c = false := by
    intro call
    rw [List.find?_eq_some_iff_append]
    simp only [Bool.not_eq_true']
  rw [reply]
  cases h : calls.find? s.fails with
  | some failed =>
    rw [Except.error.injEq]
    constructor
    · rintro rfl
      obtain ⟨hfails, before, after, hcalls, hbefore⟩ := (hfirst failed).mp h
      exact ⟨before, failed, after, hcalls, hfails, hbefore, rfl⟩
    · rintro ⟨before, call, after, hcalls, hfails, hbefore, rfl⟩
      rw [(hfirst call).mpr ⟨hfails, before, after, hcalls, hbefore⟩] at h
      cases h
      rfl
  | none =>
    refine iff_of_false (fun hok => by cases hok) ?_
    rintro ⟨before, call, after, hcalls, hfails, hbefore, -⟩
    rw [(hfirst call).mpr ⟨hfails, before, after, hcalls, hbefore⟩] at h
    cases h

end Schema

/-- Taking a snapshot fails exactly if a call that it reaches is scripted to fail. The error is then
that of the first such call in the order of the calls, whatever other calls are scripted to fail and
however many tables there are. Without such a call the snapshot is the one that the schema describes.
In any case the connection is left as it was, with the queries and the result sets that it had. -/
theorem load_fault (k : Connection) :
    ((∃ e, (Access.on k Snapshot.load).1 = .error e) ↔
      ∃ call ∈ k.schema.reached, .failOn call ∈ k.schema.script) ∧
    (∀ e, (Access.on k Snapshot.load).1 = .error e ↔ ∃ before call after,
      k.schema.reached = before ++ call :: after ∧ .failOn call ∈ k.schema.script ∧
        (∀ c ∈ before, .failOn c ∉ k.schema.script) ∧ e = .dataAccess (.call call)) ∧
    ((∀ call ∈ k.schema.reached, .failOn call ∉ k.schema.script) →
      (Access.on k Snapshot.load).1 = .ok k.schema.described) ∧
    (Access.on k Snapshot.load).2 = k := by
  have hload : Access.on k Snapshot.load = (k.schema.reply k.schema.reached k.schema.described, k) := by
    rw [Access.tells_load, Schema.reply_congr _ (k.schema.find?_loadCalls k.schema.fails)]
  have hcalm : ∀ call, k.schema.fails call = false ↔ .failOn call ∉ k.schema.script := fun call => by
    rw [← Schema.fails_iff, Bool.not_eq_true]
  have herror : ∀ e, k.schema.reply k.schema.reached k.schema.described = .error e ↔ ∃ before call after,
      k.schema.reached = before ++ call :: after ∧ .failOn call ∈ k.schema.script ∧
        (∀ c ∈ before, .failOn c ∉ k.schema.script) ∧ e = .dataAccess (.call call) := by
    intro e
    simp only [Schema.reply_eq_error_iff, hcalm, Schema.fails_iff]
  rw [hload]
  refine ⟨⟨?_, ?_⟩, herror, fun h => ?_, rfl⟩
  · rintro ⟨e, he⟩
    obtain ⟨before, call, after, hcalls, hfails, -⟩ := (herror e).mp he
    exact ⟨call, by rw [hcalls]; exact List.mem_append_right _ List.mem_cons_self, hfails⟩
  · rintro ⟨call, hcall, hfails⟩
    cases hreply : k.schema.reply k.schema.reached k.schema.described with
    | error e => exact ⟨e, rfl⟩
    | ok p =>
      have hp := Schema.reply_eq_ok_iff.mp hreply
      have hnot := (hcalm call).mp (hp.1 call hcall)
      exact absurd hfails hnot
  · exact Schema.reply_eq_ok_iff.mpr ⟨fun call hcall => (hcalm call).mpr (h call hcall), rfl⟩

end Resync
