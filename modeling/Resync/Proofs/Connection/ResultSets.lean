import Mathlib.Data.Finset.Card
import Mathlib.Data.List.Range
import Resync.Proofs.Cluster.Connections

/-! # Result sets in use

On a connection queries are run, result sets are closed in any order and some of them several times, and
the connection itself is closed, with or without result sets that are still open. A ledger of it is kept
by the answers alone. The connection's own count of open result sets agrees with the ledger at all times,
so nothing is ever taken off it when it is zero.
-/
namespace Resync

inductive Use where
  | query (sql : String)
  | closeSet (number : Nat)
  | close
  deriving DecidableEq, Repr

namespace Use

def access : Use → Access (Option Nat)
  | query sql => some <$> Access.executeQuery sql
  | closeSet number => (fun _ => none) <$> Access.closeSet number
  | close => (fun _ => none) <$> Access.close

def statement? : Use → Option String
  | query sql => some sql
  | closeSet _ | close => none

end Use

/-- What is known of a connection from its answers. -/
structure Ledger where
  handed : List Nat := []
  /-- Those of them that were closed at least once. -/
  closed : Finset Nat := ∅
  /-- The statements that were run, whether or not there is a relation to answer them from. -/
  statements : List String := []

def Ledger.enter (l : Ledger) : Use → Except Error (Option Nat) → Ledger
  | .query sql, .ok (some n) => { l with handed := l.handed ++ [n], statements := l.statements ++ [sql] }
  | .query sql, .error (.dataAccess (.noRelation _)) => { l with statements := l.statements ++ [sql] }
  | .closeSet n, .ok _ => if n ∈ l.handed then { l with closed := insert n l.closed } else l
  | _, _ => l

structure Session where
  connection : Connection
  ledger : Ledger := {}

namespace Access

variable {k : Connection} {number : Nat} {r : ResultSet}

theorem on_closeSet_of_open (hr : k.sets[number]? = some r) (hopen : r.closed = false) :
    on k (closeSet number) =
      (.ok (), { k with sets := k.sets.set number { r with closed := true }, openSets := k.openSets - 1 }) := by
  unfold closeSet
  rw [on_modify]
  simp only [hr, hopen, Bool.false_eq_true, ↓reduceIte]

theorem on_closeSet_of_closed (hr : k.sets[number]? = some r) (hclosed : r.closed = true) :
    on k (closeSet number) = (.ok (), k) := by
  unfold closeSet
  rw [on_modify]
  simp only [hr, hclosed, ↓reduceIte]

theorem on_closeSet_of_unknown (hr : k.sets[number]? = none) : on k (closeSet number) = (.ok (), k) := by
  unfold closeSet
  rw [on_modify]
  simp only [hr]

theorem on_closeSet_eq (k : Connection) (number : Nat) :
    ∃ sets openSets, on k (closeSet number) = (.ok (), { k with sets, openSets }) := by
  cases hr : k.sets[number]? with
  | none => exact ⟨_, _, on_closeSet_of_unknown hr⟩
  | some r =>
    cases hclosed : r.closed with
    | true => exact ⟨_, _, on_closeSet_of_closed hr hclosed⟩
    | false => exact ⟨_, _, on_closeSet_of_open hr hclosed⟩

theorem on_executeQuery_of_error {sql : String} {e : Error} (h : (on k (executeQuery sql)).1 = .error e) :
    (on k (executeQuery sql)).2.openSets = k.openSets ∧ (on k (executeQuery sql)).2.sets = k.sets := by
  rw [on_executeQuery] at h ⊢
  cases hfails : k.schema.fails "execute_query" with
  | true => exact ⟨rfl, rfl⟩
  | false =>
    rw [hfails] at h
    cases hflags : answer? k.schema sql with
    | none => exact ⟨rfl, rfl⟩
    | some flags =>
      rw [hflags] at h
      cases h

end Access

namespace Session

def opened (schema : Schema) (failClose failState : Bool) : Session := ⟨{ schema, failClose, failState }, {}⟩

def step (s : Session) (u : Use) : Session :=
  ⟨(Access.on s.connection u.access).2, s.ledger.enter u (Access.on s.connection u.access).1⟩

def run (s : Session) (uses : List Use) : Session := uses.foldl step s

theorem step_query (s : Session) (sql : String) : s.step (.query sql) =
    if s.connection.schema.fails "execute_query" then s
    else
      match Access.answer? s.connection.schema sql with
      | none =>
        { connection := { s.connection with queries := s.connection.queries ++ [sql] }
          ledger := { s.ledger with statements := s.ledger.statements ++ [sql] } }
      | some flags =>
        { connection := { s.connection with
            queries := s.connection.queries ++ [sql]
            sets := s.connection.sets ++ [{ flags := flags }]
            openSets := s.connection.openSets + 1 }
          ledger := { s.ledger with
            handed := s.ledger.handed ++ [s.connection.sets.length]
            statements := s.ledger.statements ++ [sql] } } := by
  rw [step, Use.access, Access.on_map, Access.on_executeQuery]
  cases s.connection.schema.fails "execute_query" with
  | true => rfl
  | false =>
    cases Access.answer? s.connection.schema sql with
    | none => rfl
    | some flags => rfl

theorem step_closeSet (s : Session) (n : Nat) : s.step (.closeSet n) =
    { connection := (Access.on s.connection (Access.closeSet n)).2
      ledger :=
        if n ∈ s.ledger.handed then { s.ledger with closed := insert n s.ledger.closed } else s.ledger } :=
  rfl

theorem step_close (s : Session) : s.step .close = { s with connection := s.connection.shut } := by
  rw [step, Use.access, Access.on_map, Access.on_close]
  rfl

/-- The connection agrees with the ledger of its uses. -/
structure Balanced (s : Session) : Prop where
  numbered : s.ledger.handed = List.range s.connection.sets.length
  marked : ∀ n, n ∈ s.ledger.closed ↔ ∃ r, s.connection.sets[n]? = some r ∧ r.closed = true
  counted : s.connection.openSets + s.ledger.closed.card = s.connection.sets.length
  recorded : s.connection.queries = s.ledger.statements

variable {s : Session} {n : Nat}

theorem balanced_opened (schema : Schema) (failClose failState : Bool) :
    (opened schema failClose failState).Balanced :=
  ⟨rfl, fun n => by simp [opened], rfl, rfl⟩

namespace Balanced

theorem mem_handed (h : s.Balanced) : n ∈ s.ledger.handed ↔ ∃ r, s.connection.sets[n]? = some r := by
  rw [h.numbered, List.mem_range, ← Option.isSome_iff_exists, Option.isSome_iff_ne_none, ne_eq,
    List.getElem?_eq_none_iff, not_le]

theorem not_mem_closed {r : ResultSet} (h : s.Balanced) (hr : s.connection.sets[n]? = some r)
    (hopen : r.closed = false) : n ∉ s.ledger.closed := by
  rw [h.marked, hr]
  rintro ⟨r, ⟨⟩, hclosed⟩
  rw [hopen] at hclosed
  cases hclosed

/-- As long as a result set is open, not all of them are closed. -/
theorem card_closed_lt {r : ResultSet} (h : s.Balanced) (hr : s.connection.sets[n]? = some r)
    (hopen : r.closed = false) : s.ledger.closed.card < s.connection.sets.length := by
  have hsub : insert n s.ledger.closed ⊆ Finset.range s.connection.sets.length := by
    intro m hm
    rw [Finset.mem_range, ← List.mem_range, ← h.numbered, h.mem_handed]
    rcases Finset.mem_insert.mp hm with rfl | hm
    · exact ⟨r, hr⟩
    · obtain ⟨r', hr', -⟩ := (h.marked m).mp hm
      exact ⟨r', hr'⟩
  have hcard := Finset.card_le_card hsub
  rwa [Finset.card_insert_of_notMem (h.not_mem_closed hr hopen), Finset.card_range] at hcard

theorem openSets_pos {r : ResultSet} (h : s.Balanced) (hr : s.connection.sets[n]? = some r)
    (hopen : r.closed = false) : 0 < s.connection.openSets := by
  have hcard := h.card_closed_lt hr hopen
  rw [← h.counted] at hcard
  exact Nat.pos_of_lt_add_left hcard

theorem query (h : s.Balanced) (sql : String) : (s.step (.query sql)).Balanced := by
  rw [Session.step_query]
  split
  · exact h
  · split
    · exact ⟨h.numbered, h.marked, h.counted, congrArg (· ++ [sql]) h.recorded⟩
    · rename_i flags hflags
      refine ⟨?_, fun n => ?_, ?_, congrArg (· ++ [sql]) h.recorded⟩
      · rw [List.length_append, List.length_singleton, List.range_succ, h.numbered]
      · rw [h.marked]
        by_cases hn : n < s.connection.sets.length
        · rw [List.getElem?_append_left hn]
        · rw [List.getElem?_eq_none (not_lt.mp hn), List.getElem?_append_right (not_lt.mp hn)]
          constructor
          · rintro ⟨r, ⟨⟩, -⟩
          · rintro ⟨r, hr, hclosed⟩
            rw [List.mem_singleton.mp (List.mem_of_getElem? hr)] at hclosed
            cases hclosed
      · rw [List.length_append, List.length_singleton, ← h.counted, Nat.add_right_comm]

theorem closeSet (h : s.Balanced) (n : Nat) : (s.step (.closeSet n)).Balanced := by
  rw [Session.step_closeSet]
  cases hr : s.connection.sets[n]? with
  | none =>
    have hn : n ∉ s.ledger.handed := by
      rw [h.mem_handed, hr]
      nofun
    rw [Access.on_closeSet_of_unknown hr, if_neg hn]
    exact h
  | some r =>
    rw [if_pos (h.mem_handed.mpr ⟨r, hr⟩)]
    cases hclosed : r.closed with
    | true =>
      have hmem : n ∈ s.ledger.closed := (h.marked n).mpr ⟨r, hr, hclosed⟩
      rw [Access.on_closeSet_of_closed hr hclosed, Finset.insert_eq_of_mem hmem]
      exact h
    | false =>
      rw [Access.on_closeSet_of_open hr hclosed]
      have hlt : n < s.connection.sets.length := (List.getElem?_eq_some_iff.mp hr).1
      refine ⟨h.numbered.trans (congrArg List.range List.length_set.symm), fun m => ?_, ?_, h.recorded⟩
      · rw [Finset.mem_insert, h.marked, List.getElem?_set]
        by_cases hm : n = m
        · subst hm
          rw [if_pos rfl, if_pos hlt]
          exact ⟨fun _ => ⟨_, rfl, rfl⟩, fun _ => .inl rfl⟩
        · rw [if_neg hm, or_iff_right (Ne.symm hm)]
      · change s.connection.openSets - 1 + (insert n s.ledger.closed).card = (s.connection.sets.set n _).length
        have hpos := h.openSets_pos hr hclosed
        rw [Finset.card_insert_of_notMem (h.not_mem_closed hr hclosed), List.length_set, ← h.counted]
        omega

theorem close (h : s.Balanced) : (s.step .close).Balanced := by
  rw [Session.step_close]
  exact ⟨h.numbered, h.marked, h.counted, h.recorded⟩

theorem step (h : s.Balanced) (u : Use) : (s.step u).Balanced := by
  cases u with
  | query sql => exact h.query sql
  | closeSet n => exact h.closeSet n
  | close => exact h.close

theorem run (h : s.Balanced) (uses : List Use) : (s.run uses).Balanced := by
  induction uses generalizing s with
  | nil => exact h
  | cons u uses ih => exact ih (h.step u)

end Balanced

theorem schema_step (s : Session) (u : Use) : (s.step u).connection.schema = s.connection.schema := by
  cases u with
  | query sql =>
    rw [step_query]
    split
    · rfl
    · split
      · rfl
      · rfl
  | closeSet n =>
    obtain ⟨sets, openSets, hon⟩ := Access.on_closeSet_eq s.connection n
    rw [step_closeSet, hon]
  | close => rw [step_close, Connection.shut]

theorem queries_step (s : Session) (u : Use) : (s.step u).connection.queries = s.connection.queries ++
    if s.connection.schema.fails "execute_query" then [] else u.statement?.toList := by
  cases u with
  | query sql =>
    rw [step_query]
    split
    · exact (List.append_nil _).symm
    · split
      · rfl
      · rfl
  | closeSet n =>
    obtain ⟨sets, openSets, hon⟩ := Access.on_closeSet_eq s.connection n
    rw [step_closeSet, hon, Use.statement?, Option.toList_none, ite_self, List.append_nil]
  | close =>
    rw [step_close, Connection.shut, Use.statement?, Option.toList_none, ite_self, List.append_nil]

theorem queries_run (s : Session) (uses : List Use) : (s.run uses).connection.queries = s.connection.queries ++
    if s.connection.schema.fails "execute_query" then [] else uses.filterMap Use.statement? := by
  induction uses generalizing s with
  | nil => rw [List.filterMap_nil, ite_self, List.append_nil, run, List.foldl_nil]
  | cons u uses ih =>
    have hrun : s.run (u :: uses) = (s.step u).run uses := rfl
    rw [hrun, ih, schema_step, queries_step, List.append_assoc]
    congr 1
    split
    · rfl
    · cases hu : u.statement? with
      | none => rw [List.filterMap_cons_none hu]; rfl
      | some sql => rw [List.filterMap_cons_some hu]; rfl

/-- Whatever is done to a connection, its count of open result sets is the number of those that were handed
out less the number of those that were closed, however often. So the count goes down by one when an open
result set is closed, and it stays as it is when one is closed again, when the connection is closed and
when a query fails, which hands out nothing. The statements on record are those that were run, in their
order: all of them if queries can be run, and none otherwise. -/
theorem sets_balance (schema : Schema) (failClose failState : Bool) (uses : List Use) :
    let s := (opened schema failClose failState).run uses
    let k := s.connection
    k.openSets + s.ledger.closed.card = s.ledger.handed.length ∧
    s.ledger.handed.Nodup ∧ (∀ n ∈ s.ledger.closed, n ∈ s.ledger.handed) ∧
    (∀ n ∈ s.ledger.handed, n ∉ s.ledger.closed →
      (Access.on k (Access.closeSet n)).2.openSets + 1 = k.openSets) ∧
    (∀ n ∈ s.ledger.closed, Access.on k (Access.closeSet n) = (.ok (), k)) ∧
    (Access.on k Access.close).2.openSets = k.openSets ∧
    (∀ sql e, (Access.on k (Access.executeQuery sql)).1 = .error e →
      (Access.on k (Access.executeQuery sql)).2.openSets = k.openSets ∧
      (Access.on k (Access.executeQuery sql)).2.sets = k.sets) ∧
    k.queries = s.ledger.statements ∧
    k.queries = if schema.fails "execute_query" then [] else uses.filterMap Use.statement? := by
  intro s k
  have hs : s.Balanced := (balanced_opened schema failClose failState).run uses
  have hclosed : ∀ n ∈ s.ledger.closed, n ∈ s.ledger.handed := by
    intro n hn
    obtain ⟨r, hr, -⟩ := (hs.marked n).mp hn
    exact hs.mem_handed.mpr ⟨r, hr⟩
  refine ⟨?_, ?_, hclosed, fun n hn hopen => ?_, fun n hn => ?_, ?_, fun sql e =>
    Access.on_executeQuery_of_error, hs.recorded, ?_⟩
  · rw [hs.numbered, List.length_range]
    exact hs.counted
  · rw [hs.numbered]
    exact List.nodup_range
  · obtain ⟨r, hr⟩ := hs.mem_handed.mp hn
    have hr' : r.closed = false := Bool.eq_false_iff.mpr fun h => hopen ((hs.marked n).mpr ⟨r, hr, h⟩)
    rw [Access.on_closeSet_of_open hr hr']
    exact Nat.sub_add_cancel (hs.openSets_pos hr hr')
  · obtain ⟨r, hr, hr'⟩ := (hs.marked n).mp hn
    exact Access.on_closeSet_of_closed hr hr'
  · rw [Access.on_close]
    rfl
  · exact queries_run (opened schema failClose failState) uses

def twoSets : List Use :=
  [.query (Access.emptySelect "orders"), .query "SELECT 1", .query (Access.emptySelect "orders"), .closeSet 1,
    .closeSet 1, .close]

/-- The first result set is still open, and the statement that nothing is known about is on record. -/
theorem sets_balance_twoSets :
    let s := (opened ⟨[.autoIncrement "orders" [true, false]]⟩ false false).run twoSets
    s.ledger.handed = [0, 1] ∧ s.ledger.closed = {1} ∧ s.connection.openSets = 1 ∧
    (Access.on s.connection (Access.closeSet 0)).2.openSets = 0 ∧
    Access.on s.connection (Access.closeSet 1) = (.ok (), s.connection) ∧
    s.connection.queries = [Access.emptySelect "orders", "SELECT 1", Access.emptySelect "orders"] := by
  intro s
  have hhanded : s.ledger.handed = [0, 1] := by decide +kernel
  have hclosed : s.ledger.closed = {1} := by decide +kernel
  obtain ⟨hcount, -, -, hopen, hagain, -, -, -, hqueries⟩ :=
    sets_balance ⟨[.autoIncrement "orders" [true, false]]⟩ false false twoSets
  have hone : s.connection.openSets = 1 := by
    have hsum : s.connection.openSets + s.ledger.closed.card = s.ledger.handed.length := hcount
    rw [hhanded, hclosed] at hsum
    exact Nat.succ.inj hsum
  have hzero := hopen 0 (by rw [hhanded]; decide) (by rw [hclosed]; decide)
  refine ⟨hhanded, hclosed, hone, ?_, hagain 1 (by rw [hclosed]; decide), hqueries⟩
  exact Nat.succ.inj (hzero.trans hone)

end Session
end Resync
