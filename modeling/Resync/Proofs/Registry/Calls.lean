import Resync.Proofs.Job.Sweep

/-! # Calls of a registry

Requests for connections and calls to close, each a process of its own, at a registry that
nobody else uses. A call goes through stages, from the question to the answer. What an
answer means is explained by the run that led to it: a connection is one of the job's, and
an error is that of a closed registry or of an attempt that the same call has made.
-/
namespace Resync

inductive RegistryCall where
  | request (m : Member)
  | close
  deriving DecidableEq, Repr

namespace RegistryCall

/-- A request is answered by a connection, a call to close by none. -/
abbrev Answer := Except Error (Option Nat)

def connected (r : Except Error Nat) : Program Empty Answer := .done (r.map some)

def closed (_ : Unit) : Program Empty Answer := .done (.ok none)

def program : RegistryCall → Program Empty Answer
  | request m => .ask (.connection m) connected
  | close => .ask .closeRegistry closed

end RegistryCall

def Job.ofCalls (w : World) (codec : Codec) (calls : List RegistryCall) :
    Job Empty RegistryCall.Answer where
  world := w
  codec := codec
  pool := .ofCapacity 1
  tasks := calls.map fun call => ⟨.running call.program, none, false⟩

namespace Job

variable {ν τ : Type} {j j' : Job ν τ} {p : ProcessId} {s : Process ν τ} {ticket : Option Nat}
  {inSpan : Bool} {m : Member} {e : Error}

/-- The process is on its way to a connection to `m`, and goes on as the outcome tells. -/
inductive Connecting (m : Member) (next : Except Error Nat → Program ν τ) : Process ν τ → Prop
  | queued : Connecting m next (.queued m next)
  | opening {a : Attempt} : Connecting m next (.opening m a next)
  | awaiting {a : Attempt} {due : Nat} : Connecting m next (.awaiting m a due next)

theorem connecting_of_settles {a : Attempt} {next : Except Error Nat → Program ν τ}
    (hs : s.Settles j.world.now m a next) : Connecting m next s := by
  cases hs with
  | opening h => exact .opening
  | awaiting h => exact .awaiting

inductive ConnectError (j : Job ν τ) (p : ProcessId) (m : Member) (e : Error) : Prop
  | attempt {next : Except Error Nat → Program ν τ} (hp : j.process? p = some (.queued m next))
      (hh : (j.registry.cell m.id).holder? = some p)
      (ha : (j.world.attempt j.codec m).1 = .error e)
  | settle {s : Process ν τ} {a : Attempt} {next : Except Error Nat → Program ν τ}
      (hp : j.process? p = some s) (hs : s.Settles j.world.now m a next)
      (ha : (j.world.settle m a).1 = .error e)

/-- The attempt of `p` to connect to `m` has failed. It goes on with the error, the turn at the cell
goes from it to the next in the queue, and nothing else happens at the registry. -/
structure PassesOn (j j' : Job ν τ) (p : ProcessId) (m : Member) (e : Error) : Prop where
  reported : ∃ s next, j.process? p = some s ∧ Connecting m next s ∧
    j'.process? p = some (.running (next (.error e)))
  members : (j.registry.cell m.id).members = p :: (j'.registry.cell m.id).members
  openable : (j'.registry.cell m.id).isReady = false
  cells : ∀ b, b ≠ m.id → j'.registry.cell b = j.registry.cell b
  closed : j'.registry.closed = j.registry.closed
  opened : j'.opened = j.opened
  others : ∀ q ≠ p, j'.process? q = j.process? q

/-- A failed attempt is reported to the one that made it and to no one else, and the turn goes on. -/
theorem ConnectError.passesOn {k : Nat} (horder : j.traffic.Orderly) (hc : ConnectError j p m e)
    (h : j.move? (.step p k) = some j') : PassesOn j j' p m e := by
  obtain ⟨⟨j₁, woken⟩, hstep, rfl⟩ := Option.map_eq_some_iff.mp h
  obtain ⟨s, ticket, inSpan, ht, hr⟩ := step_rule hstep
  have hp := process?_of_task ht
  have hpass : ∀ (world : World) (next : Except Error Nat → Program ν τ),
      (j.registry.cell m.id).holder? = some p → Connecting m next s →
      PassesOn j ({ j with world, registry := (j.registry.change m.id Cell.pass).1 }.setProcess p
        (.running (next (.error e)))) p m e := by
    intro world next hh hs
    have hm : (j.registry.cell m.id).members = p :: (j.registry.cell m.id).pass.1.members := by
      rw [Cell.holder?_eq] at hh
      obtain ⟨rest, hm⟩ := List.head?_eq_some_iff.mp hh
      rw [Cell.members_pass, hm]
      rfl
    have hn : (j.registry.cell m.id).isReady = false := Bool.eq_false_iff.mpr fun hr => by
      rw [Cell.members_of_isReady hr] at hm
      cases hm
    constructor
    · exact ⟨s, next, hp, hs, process?_next hp⟩
    · simp only [setProcess_registry, Registry.cell_change, if_pos]
      exact hm
    · simp only [setProcess_registry, Registry.cell_change, if_pos]
      rw [Cell.isReady_pass, hn]
    · intro b hb
      simp only [setProcess_registry, Registry.cell_change, if_neg fun he => hb (Eq.symm he)]
    · rfl
    · rfl
    · intro q hq
      rw [process?_setProcess, if_neg hq]
      rfl
  cases hc with
  | attempt hq hh ha =>
    rw [hp] at hq
    cases hq
    cases hr with
    | take hc =>
      rw [hc] at hh
      cases hh
    | begin hh' ha' =>
      rw [ha'] at ha
      cases ha
    | refuse hh' ha' =>
      rw [ha'] at ha
      cases ha
      exact hpass _ _ hh .queued
    | fail hs | fill hs => cases hs
  | settle hq hs ha =>
    rw [hp] at hq
    cases hq
    have hh := horder.holder_of_opening p m.id ((place_of_task ht).trans hs.place)
    rcases hr.of_settles hs with ⟨e', world, ha', rfl⟩ | ⟨number, world, ha', -⟩
    · rw [ha'] at ha
      cases ha
      exact hpass _ _ hh (connecting_of_settles hs)
    · rw [ha'] at ha
      cases ha

end Job

namespace RegistryCall

open Job

/-- Where the process of a call can stand: its answer has the given property, and a call to
close that has begun brings the other one about. -/
inductive Stage (A : Answer → Prop) (B : Prop) : RegistryCall → Process Empty Answer → Prop
  | asked {call : RegistryCall} : Stage A B call (.running call.program)
  | admitted {m : Member} : Stage A B (.request m) (.admitted m connected)
  | queued {m : Member} : Stage A B (.request m) (.queued m connected)
  | opening {m : Member} {a : Attempt} (h : ∀ due, a.due = some due → due ≤ World.lastTime) :
      Stage A B (.request m) (.opening m a connected)
  | awaiting {m : Member} {a : Attempt} {due : Nat} (h : due ≤ World.lastTime) :
      Stage A B (.request m) (.awaiting m a due connected)
  | visiting {todo : List String} (h : B) : Stage A B .close (.visiting todo closed)
  | lingering {b : String} {todo : List String} (h : B) : Stage A B .close (.lingering b todo closed)
  | answered {call : RegistryCall} {r : Answer} (h : A r) : Stage A B call (.running (.done r))
  | returned {call : RegistryCall} {r : Answer} (h : A r) : Stage A B call (.ended (.value r))
  | cancelled {call : RegistryCall} : Stage A B call (.ended .cancelled)

variable {A A' : Answer → Prop} {B B' : Prop} {call : RegistryCall} {s : Process Empty Answer}

theorem Stage.mono (h : Stage A B call s) (hA : ∀ r, A r → A' r) (hB : B → B') :
    Stage A' B' call s := by
  cases h with
  | asked => exact .asked
  | admitted => exact .admitted
  | queued => exact .queued
  | opening h => exact .opening h
  | awaiting h => exact .awaiting h
  | visiting h => exact .visiting (hB h)
  | lingering h => exact .lingering (hB h)
  | answered h => exact .answered (hA _ h)
  | returned h => exact .returned (hA _ h)
  | cancelled => exact .cancelled

variable {j j' : Job Empty Answer} {p : ProcessId} {ticket : Option Nat} {inSpan : Bool}

/-- A step of a request: it comes to an answer only by a closed registry, by a connection that
is there, or by an attempt of its own. -/
theorem request_step {m : Member} (ht : j.tasks[p]? = some ⟨s, ticket, inSpan⟩)
    (hr : Rule j p ticket inSpan s j') (h : Stage A B (.request m) s) (hA : ∀ r, A r → A' r)
    (hclosed : j.registry.closed = true → A' (.error (.registryClosed m.id)))
    (hready : ∀ c, j.registry.cell m.id = .ready c → A' (.ok (some c)))
    (herror : ∀ e, ConnectError j p m e → A' (.error e))
    (hopened : ∀ n, j'.opened = j.opened ++ [⟨m.id, n⟩] → A' (.ok (some j.opened.length))) :
    ∃ s', j'.process? p = some s' ∧ Stage A' B' (.request m) s' := by
  have hp := process?_of_task ht
  have hsettle : ∀ a, s.Settles j.world.now m a connected →
      ∃ s', j'.process? p = some s' ∧ Stage A' B' (.request m) s' := by
    intro a hs
    rcases hr.of_settles hs with ⟨e, world, ha, rfl⟩ | ⟨number, world, ha, rfl⟩
    · exact ⟨_, process?_next hp, .answered (herror e (.settle hp hs (by rw [ha])))⟩
    · exact ⟨_, process?_next hp, .answered (hopened number rfl)⟩
  cases h with
  | asked =>
    cases hr with
    | reply hq =>
      simp only [reply?] at hq
      split at hq
      · rename_i hc
        cases hq
        exact ⟨_, process?_next hp, .answered (hclosed hc)⟩
      · cases hq
    | enter ha => exact ⟨_, process?_next hp, .admitted⟩
    | fail hs | fill hs => cases hs
  | admitted =>
    cases hr with
    | find hc => exact ⟨_, process?_next hp, .answered (hready _ hc)⟩
    | approach hc => exact ⟨_, process?_next hp, .queued⟩
    | fail hs | fill hs => cases hs
  | queued =>
    cases hr with
    | take hc => exact ⟨_, process?_next hp, .answered (hready _ hc)⟩
    | begin hh ha => exact ⟨_, process?_next hp, .opening fun due => World.due_of_attempt ha⟩
    | refuse hh ha => exact ⟨_, process?_next hp, .answered (herror _ (.attempt hp hh (by rw [ha])))⟩
    | fail hs | fill hs => cases hs
  | opening hd =>
    cases hr with
    | await h => exact ⟨_, process?_timer hp, .awaiting (hd _ h)⟩
    | fail hs | fill hs =>
      cases hs with
      | opening h => exact hsettle _ (.opening h)
  | awaiting hd =>
    cases hr with
    | fail hs | fill hs =>
      cases hs with
      | awaiting h => exact hsettle _ (.awaiting h)
  | answered h =>
    cases hr with
    | finish => exact ⟨_, process?_next hp, .returned (hA _ h)⟩
    | fail hs | fill hs => cases hs
  | returned h =>
    cases hr with
    | fail hs | fill hs => cases hs
  | cancelled =>
    cases hr with
    | fail hs | fill hs => cases hs

theorem close_step (ht : j.tasks[p]? = some ⟨s, ticket, inSpan⟩) (hr : Rule j p ticket inSpan s j')
    (h : Stage A B .close s) (hA : ∀ r, A r → A' r) (hB : B → B')
    (hclosed : j'.registry.closed = true → B') (hdone : B' → A' (.ok none)) :
    ∃ s', j'.process? p = some s' ∧ Stage A' B' .close s' := by
  have hp := process?_of_task ht
  cases h with
  | asked =>
    cases hr with
    | reply hq => cases hq
    | drain => exact ⟨_, process?_next hp, .visiting (hclosed rfl)⟩
    | fail hs | fill hs => cases hs
  | visiting h =>
    cases hr with
    | visitReady hi hc => exact ⟨_, process?_next (by rw [release_eq]; exact hp), .visiting (hB h)⟩
    | visitFree hi hc => exact ⟨_, process?_next hp, .visiting (hB h)⟩
    | visitHeld hi hc => exact ⟨_, process?_next hp, .lingering (hB h)⟩
    | depart => exact ⟨_, process?_next hp, .answered (hdone (hB h))⟩
    | fail hs | fill hs => cases hs
  | lingering h =>
    cases hr with
    | lingerReady hc => exact ⟨_, process?_next (by rw [release_eq]; exact hp), .visiting (hB h)⟩
    | lingerPass hh => exact ⟨_, process?_next hp, .visiting (hB h)⟩
    | fail hs | fill hs => cases hs
  | answered h =>
    cases hr with
    | finish => exact ⟨_, process?_next hp, .returned (hA _ h)⟩
    | fail hs | fill hs => cases hs
  | returned h =>
    cases hr with
    | fail hs | fill hs => cases hs
  | cancelled =>
    cases hr with
    | fail hs | fill hs => cases hs

inductive Explained (j₀ : Job Empty Answer) (moves : List Move) (j : Job Empty Answer)
    (p : ProcessId) : RegistryCall → Answer → Prop
  | opened {m : Member} {c n : Nat} (h : j.opened[c]? = some ⟨m.id, n⟩) :
      Explained j₀ moves j p (.request m) (.ok (some c))
  | refused {m : Member} (h : j.registry.closed = true) :
      Explained j₀ moves j p (.request m) (.error (.registryClosed m.id))
  | failed {m : Member} {e : Error} {before after : List Move} {k : Nat} {j₁ : Job Empty Answer}
      (hm : moves = before ++ .step p k :: after) (h₁ : j₀.play? before = some j₁)
      (he : ConnectError j₁ p m e) : Explained j₀ moves j p (.request m) (.error e)
  | closed (h : j.registry.closed = true) : Explained j₀ moves j p .close (.ok none)

theorem Explained.mono {j₀ : Job Empty Answer} {moves : List Move} {m : Move} {r : Answer}
    (h : Explained j₀ moves j p call r) (hc : Change j m j') :
    Explained j₀ (moves ++ [m]) j' p call r := by
  obtain ⟨q, released, hs⟩ := hc.traffic
  cases h with
  | opened h =>
    obtain ⟨more, hm⟩ := hc.opened
    rw [← List.getElem?_append_left (List.getElem?_eq_some_iff.mp h).1, ← hm] at h
    exact .opened h
  | refused h => exact .refused (hs.closed h)
  | failed hm h₁ he =>
    rw [hm, List.append_assoc, List.cons_append]
    exact .failed rfl h₁ he
  | closed h => exact .closed (hs.closed h)

section Runs

variable {w : World} {codec : Codec} {calls : List RegistryCall} {moves : List Move}

theorem process?_ofCalls (w : World) (codec : Codec) (calls : List RegistryCall) (p : ProcessId) :
    (ofCalls w codec calls).process? p = calls[p]?.map fun call => .running call.program := by
  simp only [process?, ofCalls, List.getElem?_map, Option.map_map]
  rfl

theorem place_ofCalls (p : ProcessId) : (ofCalls w codec calls).place p = .away := by
  rw [place, process?_ofCalls]
  cases calls[p]? with
  | none => rfl
  | some call => rfl

theorem orderly_ofCalls : (ofCalls w codec calls).traffic.Orderly := by
  refine .of_away place_ofCalls (fun b => rfl) (fun b c h => ?_) (fun c o h => ?_)
  · cases h
  · cases h

theorem linked_ofCalls : (ofCalls w codec calls).Linked w.connections.length where
  length := rfl
  number c o h := by cases h

theorem stage_of_play? (h : (ofCalls w codec calls).play? moves = some j) {p : ProcessId}
    {call : RegistryCall} (hp : calls[p]? = some call) :
    ∃ s, j.process? p = some s ∧
      Stage (Explained (ofCalls w codec calls) moves j p call) (j.registry.closed = true) call s := by
  have horder : j.traffic.Orderly := orderly_play? orderly_ofCalls h
  refine play?_history (P := fun moves j => ∃ s, j.process? p = some s ∧
    Stage (Explained (ofCalls w codec calls) moves j p call) (j.registry.closed = true) call s) ?_ ?_ h
  · refine ⟨_, ?_, .asked⟩
    rw [process?_ofCalls, hp]
    rfl
  · rintro moves j m j' hj ⟨s, hs, hstage⟩ hc
    have horder : j.traffic.Orderly := orderly_play? orderly_ofCalls hj
    have hmono : ∀ r, Explained (ofCalls w codec calls) moves j p call r →
        Explained (ofCalls w codec calls) (moves ++ [m]) j' p call r := fun r hr => hr.mono hc
    have hclosed : j.registry.closed = true → j'.registry.closed = true := by
      obtain ⟨q, released, ht⟩ := hc.traffic
      exact ht.closed
    by_cases hm : ∃ k, m = .step p k
    · obtain ⟨k, rfl⟩ := hm
      have hc' := hc
      cases hc with
      | @step p k s' ticket inSpan j' ht hr =>
        rw [process?_of_task ht] at hs
        cases hs
        cases call with
        | close => exact close_step ht hr hstage hmono hclosed id fun hb => .closed hb
        | request m =>
          refine request_step ht hr hstage hmono (fun hcl => .refused (hclosed hcl)) ?_ ?_ ?_
          · intro c hready
            obtain ⟨n, hn⟩ := horder.opened_of_ready m.id c hready
            exact (Explained.opened hn).mono hc'
          · intro e he
            exact .failed rfl hj he
          · intro n hn
            have hlast : j'.opened[j.opened.length]? = some ⟨m.id, n⟩ := by
              rw [hn, List.getElem?_append_right (Nat.le_refl _), Nat.sub_self]
              rfl
            exact .opened hlast
    · rcases hc.others hs fun k hk => hm ⟨k, hk⟩ with hs' | ⟨-, hs'⟩
      · exact ⟨s, hs', hstage.mono hmono hclosed⟩
      · exact ⟨_, hs', .cancelled⟩

theorem length_of_play? (h : (ofCalls w codec calls).play? moves = some j) :
    j.tasks.length = calls.length := by
  refine play?_history (P := fun _ j => j.tasks.length = calls.length) ?_ ?_ h
  · simp [ofCalls]
  · intro moves j m j' hj hl hc
    cases hc with
    | @step p k s ticket inSpan j' ht hr =>
      rcases hr.length with he | ⟨-, body, next, rfl⟩
      · exact he.trans hl
      · have hlt := (List.getElem?_eq_some_iff.mp ht).1
        rw [hl] at hlt
        obtain ⟨s, hs, hstage⟩ := stage_of_play? hj (List.getElem?_eq_getElem hlt)
        rw [process?_of_task ht] at hs
        cases hs
        cases hcall : calls[p] with
        | request m =>
          rw [hcall] at hstage
          cases hstage
        | close =>
          rw [hcall] at hstage
          cases hstage
    | leave ht hs => exact (length_setProcess ..).trans hl
    | _ => exact hl

theorem call_of_process? (h : (ofCalls w codec calls).play? moves = some j) {p : ProcessId}
    {s : Process Empty Answer} (hs : j.process? p = some s) : ∃ call, calls[p]? = some call := by
  obtain ⟨t, ht, -⟩ := Option.map_eq_some_iff.mp hs
  have hlt := (List.getElem?_eq_some_iff.mp ht).1
  rw [length_of_play? h] at hlt
  exact ⟨_, List.getElem?_eq_getElem hlt⟩

theorem closed_iff (h : (ofCalls w codec calls).play? moves = some j) :
    j.registry.closed = true ↔ ∃ p k, calls[p]? = some .close ∧ Move.step p k ∈ moves := by
  refine play?_history (P := fun moves j =>
    j.registry.closed = true ↔ ∃ p k, calls[p]? = some .close ∧ Move.step p k ∈ moves) ?_ ?_ h
  · simp [ofCalls]
  · intro moves j m j' hj hiff hc
    have hclosed : j.registry.closed = true → j'.registry.closed = true := by
      obtain ⟨q, released, ht⟩ := hc.traffic
      exact ht.closed
    constructor
    · intro hj'
      by_cases hcl : j.registry.closed = true
      · obtain ⟨p, k, hp, hk⟩ := hiff.mp hcl
        exact ⟨p, k, hp, List.mem_append_left _ hk⟩
      · obtain ⟨p, k, rfl, next, hp⟩ := hc.closes (Bool.eq_false_iff.mpr hcl) hj'
        obtain ⟨call, hcall⟩ := call_of_process? hj hp
        obtain ⟨s, hs, hstage⟩ := stage_of_play? hj hcall
        rw [hp] at hs
        cases hs
        cases call with
        | request m => cases hstage
        | close => exact ⟨p, k, hcall, List.mem_append_right _ List.mem_cons_self⟩
    · rintro ⟨p, k, hp, hk⟩
      rcases List.mem_append.mp hk with hk | hk
      · exact hclosed (hiff.mpr ⟨p, k, hp, hk⟩)
      · cases List.mem_singleton.mp hk
        obtain ⟨s, hs, hstage⟩ := stage_of_play? hj hp
        cases hc with
        | @step p k s' ticket inSpan j' ht hr =>
          rw [process?_of_task ht] at hs
          cases hs
          cases hstage with
          | asked =>
            cases hr with
            | reply hq => cases hq
            | drain => rfl
            | fail hs | fill hs => cases hs
          | visiting h => exact hclosed h
          | lingering h => exact hclosed h
          | answered h =>
            cases h with
            | closed h => exact hclosed h
          | returned h =>
            cases h with
            | closed h => exact hclosed h
          | cancelled =>
            cases hr with
            | fail hs | fill hs => cases hs

end Runs

end RegistryCall
end Resync
