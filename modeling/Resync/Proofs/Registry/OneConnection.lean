import Resync.Proofs.Registry.Calls

/-! # One connection for each backend

Whatever the order in which calls of a registry make their steps, at most one attempt for a
backend succeeds, and every request for the backend is answered by that connection, or by
the error of its own attempt, or by the refusal of a closed registry. An attempt that fails
passes the turn on, and nobody waits for ever: as long as a call has not returned, some call
can make a step.
-/
namespace Resync.RegistryCall

open Job

variable {j : Job Empty Answer} {p : ProcessId} {s : Process Empty Answer} {A : Answer → Prop} {B : Prop}
  {call : RegistryCall} {ticket : Option Nat} {inSpan : Bool}

/-- A call that has not returned has a step, unless it waits for the clock or for the turn at a
cell. -/
theorem can_step (ht : j.tasks[p]? = some ⟨s, ticket, inSpan⟩) (hs : Stage A B call s)
    (hn : ∀ o, s ≠ .ended o)
    (hd : ∀ m a due next, s = .awaiting m a due next → due ≤ j.world.now)
    (hc : ∀ b, s.cell? = some b → (j.registry.cell b).isReady = true ∨
      (j.registry.cell b).holder? = some p) :
    ∃ j' woken, j.step p 0 = some (j', woken) := by
  have hcell : ∀ b, s.cell? = some b → (∃ c, j.registry.cell b = .ready c) ∨
      ∃ queue, j.registry.cell b = .held p queue := by
    intro b hb
    cases hcb : j.registry.cell b with
    | free => simpa [hcb, Cell.isReady, Cell.holder?] using hc b hb
    | ready c => exact .inl ⟨c, rfl⟩
    | held holder queue =>
      have := hc b hb
      simp only [hcb, Cell.isReady, Cell.holder?, Bool.false_eq_true, false_or, Option.some.injEq] at this
      exact .inr ⟨queue, by rw [this]⟩
  cases hs with
  | asked =>
    cases call with
    | request m =>
      simp only [step, ht, program, advance, answer]
      split
      · exact ⟨_, _, rfl⟩
      · exact ⟨_, _, rfl⟩
    | close =>
      simp only [step, ht, program, advance, answer]
      exact ⟨_, _, rfl⟩
  | admitted =>
    simp only [step, ht]
    exact ⟨_, _, rfl⟩
  | @queued m =>
    simp only [step, ht, atCell]
    rcases hcell m.id rfl with ⟨c, h⟩ | ⟨queue, h⟩
    · simp only [h]
      exact ⟨_, _, rfl⟩
    · simp only [h, ↓reduceIte]
      split
      · exact ⟨_, _, rfl⟩
      · exact ⟨_, _, rfl⟩
  | opening h =>
    simp only [step, ht]
    exact ⟨_, _, rfl⟩
  | awaiting h =>
    simp only [step, ht, if_pos (hd _ _ _ _ rfl)]
    exact ⟨_, _, rfl⟩
  | visiting h =>
    simp only [step, ht]
    split
    · exact ⟨_, _, rfl⟩
    · exact ⟨_, _, rfl⟩
  | @lingering b todo h =>
    simp only [step, ht, linger]
    rcases hcell b rfl with ⟨c, h⟩ | ⟨queue, h⟩
    · simp only [h]
      exact ⟨_, _, rfl⟩
    · simp only [h, ↓reduceIte]
      exact ⟨_, _, rfl⟩
  | answered h =>
    simp only [step, ht, advance]
    exact ⟨_, _, rfl⟩
  | returned h => exact absurd rfl (hn _)
  | cancelled => exact absurd rfl (hn _)

theorem outcome?_eq_none (hp : j.process? p = some s) : j.outcome? p = none ↔ ∀ o, s ≠ .ended o := by
  simp only [outcome?, hp]
  cases s <;> simp

theorem can_move (hp : j.process? p = some s) (hs : Stage A B call s) (hn : ∀ o, s ≠ .ended o)
    (hc : ∀ b, s.cell? = some b → (j.registry.cell b).isReady = true ∨
      (j.registry.cell b).holder? = some p) :
    ∃ d j', j.play? [.elapse d, .step p 0] = some j' := by
  obtain ⟨⟨s', ticket, inSpan⟩, ht, hst⟩ := Option.map_eq_some_iff.mp hp
  cases hst
  obtain ⟨d, hd⟩ : ∃ d, ∀ m a due next, s' = .awaiting m a due next → due ≤ j.world.timeAfter d := by
    cases hs with
    | @awaiting m a due h =>
      refine ⟨due - j.world.now, ?_⟩
      intro m' a' due' next' he
      cases he
      exact Nat.le_min.mpr ⟨by omega, h⟩
    | _ => exact ⟨0, nofun⟩
  obtain ⟨j', woken, hstep⟩ :=
    can_step (j := { j with world := { j.world with now := j.world.timeAfter d } }) ht hs hn hd hc
  refine ⟨d, j', ?_⟩
  simp only [play?_cons, move?, Option.bind_some, hstep, Option.map_some, play?_nil]

variable {w : World} {codec : Codec} {calls : List RegistryCall} {moves : List Move}

/-- As long as a call has not returned, some call can go on. -/
theorem live (h : (ofCalls w codec calls).play? moves = some j) (hp : p < calls.length)
    (hn : j.outcome? p = none) : ∃ q d j', j.play? [.elapse d, .step q 0] = some j' := by
  have horder : j.traffic.Orderly := orderly_play? orderly_ofCalls h
  obtain ⟨s, hs, hstage⟩ := stage_of_play? h (List.getElem?_eq_getElem hp)
  have hne := (outcome?_eq_none hs).mp hn
  have hplace : j.traffic.place p = s.place := by
    simp [traffic, place, hs]
  -- A call that waits at a cell is not the one to go on, but whoever has the turn there is.
  by_cases hw : ∃ b, s.cell? = some b ∧ (j.registry.cell b).isReady = false
  · obtain ⟨b, hb, hr⟩ := hw
    have hmem : p ∈ (j.registry.cell b).members :=
      (horder.member_iff p b).mpr ⟨by rw [hplace, Process.cell?_place, hb], hr⟩
    obtain ⟨q, rest, hq⟩ := List.exists_cons_of_ne_nil (List.ne_nil_of_mem hmem)
    have hh : (j.registry.cell b).holder? = some q := by
      rw [Cell.holder?_eq, hq]
      rfl
    have hqplace : (j.place q).cell? = some b :=
      ((horder.member_iff q b).mp (by
        rw [show j.traffic.registry = j.registry from rfl, hq]
        exact List.mem_cons_self)).1
    cases hqs : j.process? q with
    | none => simp [place, hqs, Place.cell?] at hqplace
    | some t =>
      obtain ⟨call, hcall⟩ := call_of_process? h hqs
      obtain ⟨t', ht', hqstage⟩ := stage_of_play? h hcall
      rw [hqs] at ht'
      cases ht'
      have hcell : t.cell? = some b := by
        rw [← Process.cell?_place]
        simpa [place, hqs] using hqplace
      have hqne : ∀ o, t ≠ .ended o := by
        rintro o rfl
        cases hcell
      obtain ⟨d, j', hj'⟩ := can_move hqs hqstage hqne fun b' hb' => by
        rw [hcell] at hb'
        cases hb'
        exact .inr hh
      exact ⟨q, d, j', hj'⟩
  · obtain ⟨d, j', hj'⟩ := can_move hs hstage hne fun b hb =>
      .inl (Bool.not_eq_false _ ▸ fun hr => hw ⟨b, hb, hr⟩)
    exact ⟨p, d, j', hj'⟩

/-- What holds at any point of a run from `j₀` to `j` of calls that nobody else disturbs. -/
structure OneConnection (j₀ : Job Empty Answer) (calls : List RegistryCall) (moves : List Move)
    (j : Job Empty Answer) : Prop where
  once : (j.opened.map (·.backend)).Nodup
  length : j.world.connections.length = j₀.world.connections.length + j.opened.length
  number : ∀ c o, j.opened[c]? = some o → o.number = j₀.world.connections.length + c
  /-- An answer is the connection of the backend, or the error of a closed registry or of an
  attempt that the call has made itself. -/
  answer : ∀ p call r, calls[p]? = some call → j.outcome? p = some (.value r) →
    Explained j₀ moves j p call r
  /-- Whenever an attempt has failed, the one that made it went on with the error, the turn was passed on
  and no one else was affected. -/
  passesOn : ∀ before after p k m e j₁ j₂, moves = before ++ .step p k :: after →
    j₀.play? before = some j₁ → j₁.move? (.step p k) = some j₂ → ConnectError j₁ p m e →
    PassesOn j₁ j₂ p m e
  live : ∀ p < calls.length, j.outcome? p = none → ∃ q d j', j.play? [.elapse d, .step q 0] = some j'
  size_open : (∀ p k, calls[p]? = some .close → Move.step p k ∉ moves) →
    j.registry.size = j.opened.length
  size_closed : (∃ p k, calls[p]? = some .close ∧ Move.step p k ∈ moves) → j.registry.size = 0

/-- Each backend has one connection, whatever the order of the steps. -/
theorem one_connection (w : World) (codec : Codec) (calls : List RegistryCall) (moves : List Move)
    (j : Job Empty Answer) (h : (ofCalls w codec calls).play? moves = some j) :
    OneConnection (ofCalls w codec calls) calls moves j := by
  have horder : j.traffic.Orderly := orderly_play? orderly_ofCalls h
  have hlinked : j.Linked w.connections.length := (linked_play? linked_ofCalls h).1
  have hclosed := closed_iff h
  constructor
  · exact horder.backends_nodup
  · exact hlinked.length
  · exact hlinked.number
  · intro p call r hp hr
    obtain ⟨s, hs, hstage⟩ := stage_of_play? h hp
    simp only [outcome?, hs] at hr
    split at hr
    · rename_i o he
      cases he
      cases hr
      cases hstage with
      | returned h => exact h
    · cases hr
  · intro before after p k m e j₁ j₂ hm h₁ h₂ he
    exact he.passesOn (orderly_play? orderly_ofCalls h₁) h₂
  · intro p hp hn
    exact live h hp hn
  · intro hno
    have hc : j.registry.closed = false := Bool.eq_false_iff.mpr fun hc => by
      obtain ⟨p, k, hp, hk⟩ := hclosed.mp hc
      exact hno p k hp hk
    have hsize := horder.size_eq
    rw [show j.traffic.registry = j.registry from rfl, hc] at hsize
    exact hsize
  · intro hsome
    have hsize := horder.size_eq
    rw [show j.traffic.registry = j.registry from rfl, hclosed.mpr hsome] at hsize
    exact hsize

/-- Two requests that come to the cell together share the connection that the first one opens. -/
theorem one_connection_shared :
    ∃ j, (ofCalls (.single { id := "db", schema := ⟨[]⟩ }) .plain
        [.request ⟨"db", "db"⟩, .request ⟨"db", "db"⟩, .close]).play?
        [.step 0 0, .step 1 0, .step 0 0, .step 1 0, .step 0 0, .step 2 0, .step 2 0, .step 0 0,
          .step 1 0, .step 1 0, .step 0 0, .step 2 0] = some j ∧
      j.outcome? 0 = some (.value (.ok (some 0))) ∧ j.outcome? 1 = some (.value (.ok (some 0))) ∧
      OneConnection
        (ofCalls (.single { id := "db", schema := ⟨[]⟩ }) .plain
          [.request ⟨"db", "db"⟩, .request ⟨"db", "db"⟩, .close])
        [.request ⟨"db", "db"⟩, .request ⟨"db", "db"⟩, .close]
        [.step 0 0, .step 1 0, .step 0 0, .step 1 0, .step 0 0, .step 2 0, .step 2 0, .step 0 0,
          .step 1 0, .step 1 0, .step 0 0, .step 2 0] j :=
  ⟨_, rfl, rfl, rfl, one_connection _ _ _ _ _ rfl⟩

end Resync.RegistryCall
