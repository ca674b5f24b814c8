import Resync.Proofs.Registry.Calls

/-! # What a call to close leaves behind

A call to close waits for the attempts in progress at the cells that it visits. Once it has
returned, every connection that was opened before it had left the cell of the backend is
closed, unless it fails to close or does not tell whether it is closed.
-/
namespace Resync.RegistryCall

open Job

variable {w : World} {codec : Codec} {calls : List RegistryCall} {moves : List Move}
  {j j' : Job Empty Answer} {k : ProcessId} {s : Process Empty Answer}

inductive Pending : Process Empty Answer → List String → Prop
  | closing {s : Process Empty Answer} {todo : List String} (h : s.closing? = some (todo, closed)) :
      Pending s todo
  | answered : Pending (.running (.done (.ok none))) []
  | returned : Pending (.ended (.value (.ok none))) []

/-- Connection `c` was opened when process `k` had already left the cell of the backend. -/
def OpenedLate (j₀ : Job Empty Answer) (moves : List Move) (k : ProcessId) (c : Nat) (o : Opened) : Prop :=
  ∃ before after j₁ s todo, moves = before ++ after ∧ j₀.play? before = some j₁ ∧
    j₁.opened.length ≤ c ∧ j₁.process? k = some s ∧ Pending s todo ∧ o.backend ∉ todo

theorem OpenedLate.mono {j₀ : Job Empty Answer} {c : Nat} {o : Opened} {m : Move}
    (h : OpenedLate j₀ moves k c o) : OpenedLate j₀ (moves ++ [m]) k c o := by
  obtain ⟨before, after, j₁, s, todo, rfl, h⟩ := h
  exact ⟨before, after ++ [m], j₁, s, todo, by rw [List.append_assoc], h⟩

/-- The call to close has not begun, or was ended from outside, or has taken care of the cells
that it has left. -/
inductive Closing (j₀ : Job Empty Answer) (moves : List Move) (k : ProcessId)
    (j : Job Empty Answer) : Process Empty Answer → Prop
  | asked (h : j.registry.closed = false) : Closing j₀ moves k j (.running (program .close))
  | cancelled : Closing j₀ moves k j (.ended .cancelled)
  | pending {s : Process Empty Answer} {todo : List String} (hp : Pending s todo)
      (h : j.Swept (OpenedLate j₀ moves k) todo) : Closing j₀ moves k j s

theorem Closing.own {j₀ : Job Empty Answer} {ticket : Option Nat} {inSpan : Bool} {base i : Nat}
    (h : Closing j₀ moves k j s) (ht : j.tasks[k]? = some ⟨s, ticket, inSpan⟩)
    (hr : Rule j k ticket inSpan s j') (horder : j.traffic.Orderly) (hl : j.Linked base) :
    ∃ s', j'.process? k = some s' ∧ Closing j₀ (moves ++ [.step k i]) k j' s' := by
  have hp := process?_of_task ht
  have hc : Change j (.step k i) j' := .step ht hr
  have hlate : ∀ c o, OpenedLate j₀ moves k c o → OpenedLate j₀ (moves ++ [.step k i]) k c o :=
    fun c o h => h.mono
  cases h with
  | asked h =>
    cases hr with
    | reply hq => cases hq
    | drain =>
      refine ⟨_, process?_next hp, .pending (.closing rfl) ?_⟩
      exact (swept_drain (OpenedLate j₀ moves k) horder h).change hl hc hlate
        fun c o hc ho => absurd (List.getElem?_eq_some_iff.mp ho).1 (Nat.not_lt_of_le hc)
    | fail hs | fill hs => cases hs
  | cancelled =>
    cases hr with
    | fail hs | fill hs => cases hs
  | pending hpend h =>
    cases hpend with
    | closing hcl =>
      obtain ⟨s', hs', h'⟩ := hr.sweep ht horder hl hcl h
      refine ⟨s', hs', ?_⟩
      rcases h' with ⟨todo', hcl', h'⟩ | ⟨rfl, h'⟩
      · exact .pending (.closing hcl') fun c o ho => (h' c o ho).imp_right (.imp_right (hlate c o))
      · exact .pending .answered fun c o ho => (h' c o ho).imp_right (.imp_right (hlate c o))
    | answered =>
      cases hr with
      | finish =>
        refine ⟨_, process?_next hp, .pending .returned ?_⟩
        exact h.change hl hc hlate
          fun c o hc ho => absurd (List.getElem?_eq_some_iff.mp ho).1 (Nat.not_lt_of_le hc)
      | fail hs | fill hs => cases hs
    | returned =>
      cases hr with
      | fail hs | fill hs => cases hs

/-- What a call to close has taken care of, at any point of a run with no other such call. -/
theorem closing_of_play? (h : (ofCalls w codec calls).play? moves = some j)
    (hk : calls[k]? = some .close) (hone : ∀ p, calls[p]? = some .close → p = k) :
    ∃ s, j.process? k = some s ∧ Closing (ofCalls w codec calls) moves k j s := by
  refine play?_history (P := fun moves j =>
    ∃ s, j.process? k = some s ∧ Closing (ofCalls w codec calls) moves k j s) ?_ ?_ h
  · refine ⟨_, ?_, .asked rfl⟩
    rw [process?_ofCalls, hk]
    rfl
  · rintro moves j m j' hj ⟨s, hs, hclosing⟩ hc
    have horder : j.traffic.Orderly := orderly_play? orderly_ofCalls hj
    have hl : j.Linked w.connections.length := (linked_play? linked_ofCalls hj).1
    by_cases hm : ∃ i, m = .step k i
    · obtain ⟨i, rfl⟩ := hm
      cases hc with
      | @step p i s' ticket inSpan j' ht hr =>
        rw [process?_of_task ht] at hs
        cases hs
        exact hclosing.own ht hr horder hl
    · rcases hc.others hs fun i hi => hm ⟨i, hi⟩ with hs' | ⟨-, hs'⟩
      · refine ⟨s, hs', ?_⟩
        cases hclosing with
        | asked ho =>
          refine .asked (Bool.eq_false_iff.mpr fun hcl => ?_)
          obtain ⟨p, i, hmi, next, hp⟩ := hc.closes ho hcl
          obtain ⟨call, hcall⟩ := call_of_process? hj hp
          obtain ⟨t, ht, hstage⟩ := stage_of_play? hj hcall
          rw [hp] at ht
          cases ht
          cases call with
          | request m => cases hstage
          | close =>
            rw [hone p hcall] at hmi
            exact hm ⟨i, hmi⟩
        | cancelled => exact .cancelled
        | @pending s todo hpend hsw =>
          refine .pending hpend (hsw.change hl hc (fun c o h => h.mono) fun c o hlen ho => ?_)
          by_cases hb : o.backend ∈ todo
          · exact .inl hb
          · exact .inr ⟨moves, [m], j, s, todo, rfl, hj, hlen, hs, hpend, hb⟩
      · exact ⟨_, hs', .cancelled⟩

/-- Once the only call to close has returned, every connection that was opened before the call
had left its cell is closed, if its backend tells whether connections are closed and does not
fail to close them. -/
theorem released_of_close (w : World) (codec : Codec) (calls : List RegistryCall) (moves : List Move)
    (j : Job Empty Answer) (k : ProcessId) (h : (ofCalls w codec calls).play? moves = some j)
    (hk : calls[k]? = some .close) (hone : ∀ p, calls[p]? = some .close → p = k)
    (hret : j.outcome? k = some (.value (.ok none))) (c : Nat) (o : Opened)
    (ho : j.opened[c]? = some o) :
    (∃ m connection, j.world.connections[o.number]? = some (m.handle, connection) ∧
      ((w.backend m).failState = false → (w.backend m).failClose = false →
        connection.closed = true)) ∨
    OpenedLate (ofCalls w codec calls) moves k c o := by
  obtain ⟨s, hs, hclosing⟩ := closing_of_play? h hk hone
  rw [outcome?_eq_some.mp hret] at hs
  cases hs
  cases hclosing with
  | @pending s todo hpend hsw =>
    rcases hsw c o ho with ⟨o', ho', hr⟩ | hb | hl
    · obtain ⟨hl, hkeep⟩ := linked_play? linked_ofCalls h
      rw [ho] at ho'
      cases ho'
      have hnumber : w.connections.length ≤ o.number := by
        rw [hl.number c o ho]
        exact Nat.le_add_right _ _
      exact .inl (hkeep.closed hnumber hr)
    · cases hpend with
      | closing hcl => cases hcl
      | returned => cases hb
    · exact .inr hl

/-- A call to close that comes while the connection is being opened waits and closes it. -/
theorem released_of_close_waiting :
    ∃ j, (ofCalls (.single { id := "db", schema := ⟨[]⟩ }) .plain
        [.request ⟨"db", "db"⟩, .close]).play?
        [.step 0 0, .step 0 0, .step 0 0, .step 1 0, .step 1 0, .step 0 0, .step 1 0, .step 1 0,
          .step 1 0] = some j ∧
      ((∃ m connection, j.world.connections[0]? = some (m.handle, connection) ∧
        (((World.single { id := "db", schema := ⟨[]⟩ }).backend m).failState = false →
          ((World.single { id := "db", schema := ⟨[]⟩ }).backend m).failClose = false →
          connection.closed = true)) ∨
      OpenedLate (ofCalls (.single { id := "db", schema := ⟨[]⟩ }) .plain [.request ⟨"db", "db"⟩, .close])
        [.step 0 0, .step 0 0, .step 0 0, .step 1 0, .step 1 0, .step 0 0, .step 1 0, .step 1 0,
          .step 1 0] 1 0 ⟨"db", 0⟩) := by
  refine ⟨_, rfl, released_of_close _ _ _ _ _ 1 rfl rfl ?_ rfl 0 ⟨"db", 0⟩ rfl⟩
  intro p hp
  match p, hp with
  | 0, hp => cases hp
  | 1, _ => rfl

/-- A connection whose closing would succeed stays open if it does not tell whether it is closed,
or if it is opened after the call to close has left its cell. -/
theorem open_after_close :
    (∃ j connection, (ofCalls (.single { id := "db", schema := ⟨[]⟩, failState := true }) .plain
        [.request ⟨"db", "db"⟩, .close]).play?
        [.step 0 0, .step 0 0, .step 0 0, .step 0 0, .step 0 0, .step 1 0, .step 1 0, .step 1 0,
          .step 1 0] = some j ∧
      j.outcome? 0 = some (.value (.ok (some 0))) ∧ j.outcome? 1 = some (.value (.ok none)) ∧
      j.world.connections[0]? = some ("db", connection) ∧ connection.failClose = false ∧
      connection.closed = false) ∧
    ∃ j connection, (ofCalls (.single { id := "db", schema := ⟨[]⟩ }) .plain
        [.request ⟨"db", "db"⟩, .close]).play?
        [.step 0 0, .step 1 0, .step 1 0, .step 1 0, .step 1 0, .step 0 0, .step 0 0, .step 0 0,
          .step 0 0] = some j ∧
      j.outcome? 0 = some (.value (.ok (some 0))) ∧ j.outcome? 1 = some (.value (.ok none)) ∧
      j.world.connections[0]? = some ("db", connection) ∧ connection.failClose = false ∧
      connection.closed = false :=
  ⟨⟨_, _, rfl, rfl, rfl, rfl, rfl, rfl⟩, ⟨_, _, rfl, rfl, rfl, rfl, rfl, rfl⟩⟩

end Resync.RegistryCall
