import Mathlib.Data.List.Nodup
import Mathlib.Data.List.Perm.Basic
import Resync.Proofs.Registry.Calls

/-! # Connections are closed once

When nobody else is on the way to a connection, a call to close visits all cells in some
order and returns. Every connection of the registry that tells that it is open was asked to
close once, all others were left alone, and each failure was reported once. What comes of it
does not depend on the order. From then on the registry holds nothing, refuses every request
and has nothing left to close.
-/
namespace Resync

namespace World

def releaseAll (w : World) (inSpan : Bool) (l : List Opened) : World :=
  l.foldl (fun w o => w.release inSpan o.backend o.number) w

def complaint? (w : World) (inSpan : Bool) (o : Opened) : Option Log.Entry :=
  (w.connections[o.number]?).bind fun e => (e.2.complaint? o.backend).map (.event · inSpan)

variable {w : World} {inSpan : Bool} {l : List Opened} {o : Opened}

theorem releaseAll_append (w : World) (inSpan : Bool) (l l' : List Opened) :
    w.releaseAll inSpan (l ++ l') = (w.releaseAll inSpan l).releaseAll inSpan l' :=
  List.foldl_append

theorem length_releaseAll (w : World) (inSpan : Bool) (l : List Opened) :
    (w.releaseAll inSpan l).connections.length = w.connections.length := by
  induction l generalizing w with
  | nil => rfl
  | cons o l ih =>
    have hl := w.length_release inSpan o.backend o.number
    exact (ih (w.release inSpan o.backend o.number)).trans hl

theorem connection_release (ho : o.number < w.connections.length) (n : Nat) :
    (w.release inSpan o.backend o.number).connections[n]? =
      if n = o.number then (w.connections[n]?).map fun e => (e.1, e.2.released)
      else w.connections[n]? := by
  obtain ⟨⟨handle, k⟩, hk⟩ : ∃ e, w.connections[o.number]? = some e := ⟨_, List.getElem?_eq_getElem ho⟩
  rw [release_eq inSpan o.backend hk]
  by_cases hn : n = o.number
  · rw [if_pos hn, hn, hk]
    exact List.getElem?_set_self ho
  · rw [if_neg hn]
    exact List.getElem?_set_ne fun he => hn he.symm

theorem log_release (ho : o.number < w.connections.length) :
    (w.release inSpan o.backend o.number).log = w.log ++ (w.complaint? inSpan o).toList := by
  obtain ⟨⟨handle, k⟩, hk⟩ : ∃ e, w.connections[o.number]? = some e := ⟨_, List.getElem?_eq_getElem ho⟩
  rw [release_eq inSpan o.backend hk, complaint?, hk]
  rfl

/-- Releasing a connection does nothing to what is reported when another one is released. -/
theorem complaint?_release {o' : Opened} (ho : o.number < w.connections.length)
    (hne : o'.number ≠ o.number) :
    (w.release inSpan o.backend o.number).complaint? inSpan o' = w.complaint? inSpan o' := by
  unfold complaint?
  rw [connection_release ho, if_neg hne]

theorem connection_releaseAll (inSpan : Bool) (hl : ∀ o ∈ l, o.number < w.connections.length)
    (hd : (l.map (·.number)).Nodup) (n : Nat) :
    (w.releaseAll inSpan l).connections[n]? =
      if n ∈ l.map (·.number) then (w.connections[n]?).map fun e => (e.1, e.2.released)
      else w.connections[n]? := by
  induction l generalizing w with
  | nil => rfl
  | cons o l ih =>
    have ho : o.number < w.connections.length := hl o List.mem_cons_self
    rw [List.map_cons, List.nodup_cons] at hd
    have hl' : ∀ o' ∈ l, o'.number < (w.release inSpan o.backend o.number).connections.length := by
      intro o' ho'
      rw [length_release]
      exact hl o' (List.mem_cons_of_mem _ ho')
    have hrest := ih hl' hd.2
    rw [connection_release ho] at hrest
    change ((w.release inSpan o.backend o.number).releaseAll inSpan l).connections[n]? = _
    rw [hrest, List.map_cons]
    by_cases hn : n = o.number
    · have hnot : n ∉ l.map (·.number) := by
        rw [hn]
        exact hd.1
      rw [if_neg hnot, if_pos hn, if_pos (List.mem_cons.mpr (.inl hn))]
    · have hiff : n ∈ o.number :: l.map (·.number) ↔ n ∈ l.map (·.number) := by
        rw [List.mem_cons]
        exact or_iff_right hn
      rw [if_neg hn]
      simp only [hiff]

theorem log_releaseAll (hl : ∀ o ∈ l, o.number < w.connections.length)
    (hd : (l.map (·.number)).Nodup) :
    (w.releaseAll inSpan l).log = w.log ++ l.filterMap (w.complaint? inSpan) := by
  induction l generalizing w with
  | nil => exact (List.append_nil _).symm
  | cons o l ih =>
    have ho : o.number < w.connections.length := hl o List.mem_cons_self
    rw [List.map_cons, List.nodup_cons] at hd
    have hl' : ∀ o' ∈ l, o'.number < (w.release inSpan o.backend o.number).connections.length := by
      intro o' ho'
      rw [length_release]
      exact hl o' (List.mem_cons_of_mem _ ho')
    have hrest : l.filterMap ((w.release inSpan o.backend o.number).complaint? inSpan) =
        l.filterMap (w.complaint? inSpan) := by
      refine List.filterMap_congr fun o' ho' => complaint?_release ho fun he => hd.1 ?_
      exact List.mem_map.mpr ⟨o', ho', he⟩
    change ((w.release inSpan o.backend o.number).releaseAll inSpan l).log = _
    rw [ih hl' hd.2, hrest, log_release ho, List.append_assoc]
    cases hc : w.complaint? inSpan o with
    | none => rw [List.filterMap_cons_none hc, Option.toList_none, List.nil_append]
    | some e => rw [List.filterMap_cons_some hc, Option.toList_some, List.singleton_append]

end World

namespace Job

variable {ν τ : Type} {j j' : Job ν τ} {p : ProcessId} {ticket : Option Nat} {inSpan : Bool}
  {next : Unit → Program ν τ} {base : Nat}

theorem setProcess_setProcess (j : Job ν τ) (p : ProcessId) (s s' : Process ν τ) :
    (j.setProcess p s).setProcess p s' = j.setProcess p s' := by
  simp only [setProcess, List.modify_modify_eq]
  rfl

theorem setProcess_self {s : Process ν τ} (hp : j.process? p = some s) : j.setProcess p s = j := by
  obtain ⟨t, ht, rfl⟩ := Option.map_eq_some_iff.mp hp
  have htasks : j.tasks.modify p (fun t' => { t' with process := t.process }) = j.tasks := by
    refine List.ext_getElem? fun q => ?_
    rw [List.getElem?_modify]
    by_cases hq : p = q
    · rw [← hq, ht]
      simp
    · simp [hq]
  rw [setProcess, htasks]

def openedAt? (j : Job ν τ) (b : String) : Option Opened :=
  (j.registry.cell b).connection?.bind fun c => j.opened[c]?

theorem backend_of_openedAt? (horder : j.traffic.Orderly) {b : String} {o : Opened}
    (h : j.openedAt? b = some o) : o.backend = b ∧ o ∈ j.opened := by
  obtain ⟨c, hc, ho⟩ := Option.bind_eq_some_iff.mp h
  obtain ⟨n, hn⟩ := horder.opened_of_ready b c (Cell.connection?_eq_some.mp hc)
  have hn' : j.opened[c]? = some ⟨b, n⟩ := hn
  rw [ho] at hn'
  cases hn'
  exact ⟨rfl, List.mem_of_getElem? ho⟩

theorem openedAt?_backend (horder : j.traffic.Orderly) {o : Opened} (ho : o ∈ j.opened) :
    o.backend ∈ j.registry.cells.keys ∧ j.openedAt? o.backend = some o := by
  obtain ⟨c, hc⟩ := List.mem_iff_getElem?.mp ho
  have hr : j.registry.cell o.backend = .ready c := horder.ready_of_opened c o hc
  refine ⟨Registry.mem_keys_of_ready hr, ?_⟩
  rw [openedAt?, hr]
  exact hc

theorem opened_nodup (horder : j.traffic.Orderly) : j.opened.Nodup :=
  List.Nodup.of_map _ horder.backends_nodup

/-- In whatever order the cells are visited, the connections found there are those that were opened. -/
theorem visited_perm (horder : j.traffic.Orderly) {order : List String}
    (h : order.Perm j.registry.cells.keys) : (order.filterMap j.openedAt?).Perm j.opened := by
  have hkeys : order.Nodup := h.nodup_iff.mpr j.registry.cells.keys_nodup
  have hinj : ∀ b b' o, o ∈ j.openedAt? b → o ∈ j.openedAt? b' → b = b' := by
    intro b b' o hb hb'
    exact (backend_of_openedAt? horder hb).1.symm.trans (backend_of_openedAt? horder hb').1
  have hnodup : (order.filterMap j.openedAt?).Nodup := hkeys.filterMap hinj
  rw [List.perm_ext_iff_of_nodup hnodup (opened_nodup horder)]
  intro o
  rw [List.mem_filterMap]
  constructor
  · rintro ⟨b, -, hb⟩
    exact (backend_of_openedAt? horder hb).2
  · intro ho
    obtain ⟨hkey, hat⟩ := openedAt?_backend horder ho
    exact ⟨o.backend, h.mem_iff.mpr hkey, hat⟩

theorem Linked.numbers_nodup (hl : j.Linked base) : (j.opened.map (·.number)).Nodup := by
  rw [List.Nodup, List.pairwise_iff_getElem]
  intro i k hi hk hik he
  rw [List.length_map] at hi hk
  rw [List.getElem_map, List.getElem_map] at he
  have hni := hl.number i _ (List.getElem?_eq_getElem hi)
  have hnk := hl.number k _ (List.getElem?_eq_getElem hk)
  omega

theorem Linked.number_lt (hl : j.Linked base) {o : Opened} (ho : o ∈ j.opened) :
    o.number < j.world.connections.length := by
  obtain ⟨c, hc⟩ := List.mem_iff_getElem?.mp ho
  have hlt := (List.getElem?_eq_some_iff.mp hc).1
  have hn := hl.number c o hc
  have hlen := hl.length
  omega

/-- The connections in the given cells were released, and the process that has visited them has
got to `s`. -/
def visited (j : Job ν τ) (p : ProcessId) (inSpan : Bool) (cells : List String) (s : Process ν τ) :
    Job ν τ :=
  { j with world := j.world.releaseAll inSpan (cells.filterMap j.openedAt?) }.setProcess p s

theorem visited_visited (j : Job ν τ) (p : ProcessId) (inSpan : Bool) (cells cells' : List String)
    (s s' : Process ν τ) :
    (j.visited p inSpan cells s).visited p inSpan cells' s' = j.visited p inSpan (cells ++ cells') s' := by
  have hworld : (j.world.releaseAll inSpan (cells.filterMap j.openedAt?)).releaseAll inSpan
      (cells'.filterMap j.openedAt?) =
        j.world.releaseAll inSpan ((cells ++ cells').filterMap j.openedAt?) := by
    rw [← World.releaseAll_append, List.filterMap_append]
  have hset : ∀ world : World, ({ j with world }.setProcess p s).setProcess p s' =
      { j with world }.setProcess p s' := fun world => setProcess_setProcess _ p s s'
  exact (hset _).trans (congrArg (fun world => { j with world }.setProcess p s') hworld)

theorem visit_eq (horder : j.traffic.Orderly) {b : String} (hb : (j.registry.cell b).members = [])
    (todo : List String) :
    j.visit p inSpan b todo next = j.visited p inSpan [b] (.visiting todo next) := by
  have hone : [b].filterMap j.openedAt? = (j.openedAt? b).toList := by
    cases h : j.openedAt? b with
    | none => exact List.filterMap_cons_none h
    | some o => exact List.filterMap_cons_some h
  rw [visit, visited, hone, openedAt?]
  cases hc : j.registry.cell b with
  | free => rfl
  | held holder queue =>
    rw [hc] at hb
    cases hb
  | ready c =>
    obtain ⟨n, hn⟩ := horder.opened_of_ready b c hc
    have hn' : j.opened[c]? = some ⟨b, n⟩ := hn
    simp only [release, Cell.connection?, Option.bind_some, hn']
    rfl

/-- All visits, when nobody stands at a cell. Their order is any that the choices make. -/
theorem play?_visits {choices : List Nat} {todo : List String} (horder : j.traffic.Orderly)
    (hquiet : ∀ b, (j.registry.cell b).members = [])
    (ht : j.tasks[p]? = some ⟨.visiting todo next, ticket, inSpan⟩)
    (hlen : choices.length = todo.length) :
    ∃ order : List String, order.Perm todo ∧
      j.play? (choices.map (.step p)) = some (j.visited p inSpan order (.visiting [] next)) := by
  induction choices generalizing j todo with
  | nil =>
    have htodo : todo = [] := List.eq_nil_of_length_eq_zero hlen.symm
    subst htodo
    exact ⟨[], .refl _, congrArg some (setProcess_self (process?_of_task ht)).symm⟩
  | cons choice choices ih =>
    rw [List.length_cons] at hlen
    have hlt : choice % todo.length < todo.length := Nat.mod_lt _ (by omega)
    generalize hi : choice % todo.length = i at hlt
    have hb : todo[i]? = some todo[i] := List.getElem?_eq_getElem hlt
    have hstep : j.move? (.step p choice) =
        some (j.visited p inSpan [todo[i]] (.visiting (todo.eraseIdx i) next)) := by
      simp only [move?, step, ht, hi, hb, visit_eq horder (hquiet todo[i]), Option.map_some]
    have hplay : j.play? [.step p choice] =
        some (j.visited p inSpan [todo[i]] (.visiting (todo.eraseIdx i) next)) := by
      rw [play?_cons, hstep]
      rfl
    have ht' : (j.visited p inSpan [todo[i]] (.visiting (todo.eraseIdx i) next)).tasks[p]? =
        some ⟨.visiting (todo.eraseIdx i) next, ticket, inSpan⟩ := by
      simp [visited, setProcess, ht]
    have hlen' : choices.length = (todo.eraseIdx i).length := by
      rw [List.length_eraseIdx_of_lt hlt]
      omega
    obtain ⟨order, hperm, hrest⟩ := ih (orderly_play? horder hplay) hquiet ht' hlen'
    refine ⟨todo[i] :: order, (hperm.cons _).trans (List.getElem_cons_eraseIdx_perm hlt), ?_⟩
    rw [List.map_cons, play?_cons, hstep, Option.bind_some, hrest, visited_visited]
    rfl

theorem play?_close {choices : List Nat} (horder : j.traffic.Orderly)
    (hquiet : ∀ b, (j.registry.cell b).members = []) (hopen : j.registry.closed = false)
    (ht : j.tasks[p]? = some ⟨.running (.ask .closeRegistry next), ticket, inSpan⟩)
    (hlen : choices.length = j.registry.cells.size + 2) :
    ∃ order : List String, order.Perm j.registry.cells.keys ∧ j.play? (choices.map (.step p)) =
      some ({ j with registry := j.registry.drain.2 }.visited p inSpan order (.running (next ()))) := by
  obtain ⟨first, rest, rfl⟩ := List.exists_cons_of_length_eq_add_one hlen
  rw [List.length_cons] at hlen
  obtain ⟨middle, last, rfl⟩ : ∃ middle last, rest = middle ++ [last] := by
    rcases List.eq_nil_or_concat rest with h | ⟨middle, last, h⟩
    · rw [h] at hlen
      simp at hlen
    · exact ⟨middle, last, by rw [h, List.concat_eq_append]⟩
  let drained : Job ν τ := { j with registry := j.registry.drain.2 }.setProcess p
    (.visiting j.registry.cells.keys next)
  have hfirst : j.move? (.step p first) = some drained := by
    simp only [move?, step, ht, advance, answer, Registry.drain, hopen, Bool.false_eq_true, ↓reduceIte,
      Option.map_some, drained]
  have horder' : drained.traffic.Orderly := by
    have hplay : j.play? [.step p first] = some drained := by
      rw [play?_cons, hfirst]
      rfl
    exact orderly_play? horder hplay
  have ht' : drained.tasks[p]? = some ⟨.visiting j.registry.cells.keys next, ticket, inSpan⟩ := by
    simp [drained, setProcess, ht]
  have hmiddle : middle.length = j.registry.cells.keys.length := by
    rw [Assoc.keys, List.length_map, ← Assoc.size]
    rw [List.length_append, List.length_singleton] at hlen
    omega
  obtain ⟨order, hperm, hvisits⟩ := play?_visits horder' hquiet ht' hmiddle
  refine ⟨order, hperm, ?_⟩
  have hlast : (drained.visited p inSpan order (.visiting [] next)).move? (.step p last) =
      some ((drained.visited p inSpan order (.visiting [] next)).setProcess p (.running (next ()))) := by
    have htask : (drained.visited p inSpan order (.visiting [] next)).tasks[p]? =
        some ⟨.visiting [] next, ticket, inSpan⟩ := by
      simp [visited, setProcess, ht']
    simp only [move?, step, htask, List.getElem?_nil, Option.map_some]
  rw [List.map_cons, play?_cons, hfirst, Option.bind_some, List.map_append, play?_append, hvisits,
    Option.bind_some, List.map_singleton, play?_cons, hlast, Option.bind_some, play?_nil]
  congr 1
  rw [visited, setProcess_setProcess]
  exact setProcess_setProcess { j with
    world := j.world.releaseAll inSpan (order.filterMap j.openedAt?)
    registry := j.registry.drain.2 } p _ _

structure Unvisited (j : Job ν τ) : Prop where
  registry : j.registry = {}
  opened : j.opened = []
  away : ∀ p, j.place p = .away

theorem Unvisited.orderly (h : j.Unvisited) : j.traffic.Orderly := by
  refine .of_away h.away (fun b => ?_) (fun b c hc => ?_) (fun c o ho => ?_)
  · simp only [traffic, h.registry]
    rfl
  · simp only [traffic, h.registry] at hc
    cases hc
  · simp only [traffic, h.opened] at ho
    cases ho

theorem Unvisited.linked (h : j.Unvisited) : j.Linked j.world.connections.length where
  length := by rw [h.opened]; rfl
  number c o ho := by
    rw [h.opened] at ho
    cases ho

structure ClosedOnce (j j' : Job ν τ) (p : ProcessId) (inSpan : Bool) (next : Unit → Program ν τ) :
    Prop where
  returned : j'.process? p = some (.running (next ()))
  /-- A connection that is open and tells so was asked to close once; it is closed unless that
  fails. -/
  asked : ∀ o ∈ j.opened, ∃ handle k, j.world.connections[o.number]? = some (handle, k) ∧
    (k.failState = false → k.closed = false → j'.world.connections[o.number]? =
      some (handle, { k with closings := k.closings + 1, closed := !k.failClose }))
  spared : ∀ n handle k, j.world.connections[n]? = some (handle, k) →
    ((∃ o ∈ j.opened, o.number = n) → k.failState = true ∨ k.closed = true) →
    j'.world.connections[n]? = some (handle, k)
  length : j'.world.connections.length = j.world.connections.length
  log : ∃ warnings, j'.world.log = j.world.log ++ warnings ∧
    warnings.Perm (j.opened.filterMap (j.world.complaint? inSpan))

structure Shut (j : Job ν τ) : Prop where
  size : j.registry.size = 0
  refuses : ∀ p choice m next, j.process? p = some (.running (.ask (.connection m) next)) →
    j.move? (.step p choice) = some (j.setProcess p (.running (next (.error (.registryClosed m.id)))))
  unmoved : ∀ p choice choice' next, j.process? p = some (.running (.ask .closeRegistry next)) →
    j.play? [.step p choice, .step p choice'] = some (j.setProcess p (.running (next ())))

theorem shut_of_closed (h : j.registry.closed = true) : j.Shut where
  size := by rw [Registry.size, if_pos h]
  refuses p choice m next hp := by
    obtain ⟨⟨s, ticket, inSpan⟩, ht, rfl⟩ := Option.map_eq_some_iff.mp hp
    have hadmit : j.registry.admit? m.id = none := by rw [Registry.admit?, if_pos h]
    simp only [move?, step, ht, advance, answer, hadmit, Option.map_some]
  unmoved p choice choice' next hp := by
    obtain ⟨⟨s, ticket, inSpan⟩, ht, rfl⟩ := Option.map_eq_some_iff.mp hp
    have hdrain : j.registry.drain = ([], j.registry) := by
      rw [Registry.drain, if_pos h, ← h]
    have hfirst : j.move? (.step p choice) = some (j.setProcess p (.visiting [] next)) := by
      simp only [move?, step, ht, advance, answer, hdrain, Option.map_some]
    have ht' : (j.setProcess p (.visiting [] next)).tasks[p]? = some ⟨.visiting [] next, ticket, inSpan⟩ := by
      simp [setProcess, ht]
    rw [play?_cons, hfirst, Option.bind_some, play?_cons]
    simp only [move?, step, ht', List.getElem?_nil, Option.map_some, Option.bind_some, play?_nil,
      setProcess_setProcess]

theorem members_of_away (horder : j.traffic.Orderly) (haway : ∀ q, j.place q = .away) (b : String) :
    (j.registry.cell b).members = [] := by
  refine List.eq_nil_iff_forall_not_mem.mpr fun q hq => ?_
  have hplace := ((horder.member_iff q b).mp hq).1
  rw [show j.traffic.place q = .away from haway q] at hplace
  cases hplace

theorem closedOnce_visited (horder : j.traffic.Orderly) (hl : j.Linked base) {order : List String}
    (hperm : order.Perm j.registry.cells.keys)
    (ht : j.tasks[p]? = some ⟨.running (.ask .closeRegistry next), ticket, inSpan⟩) :
    ClosedOnce j ({ j with registry := j.registry.drain.2 }.visited p inSpan order (.running (next ()))) p
      inSpan next := by
  have hvisited := visited_perm horder hperm
  have hlt : ∀ o ∈ order.filterMap j.openedAt?, o.number < j.world.connections.length :=
    fun o ho => hl.number_lt (hvisited.mem_iff.mp ho)
  have hnumbers := hvisited.map (·.number)
  have hnodup : ((order.filterMap j.openedAt?).map (·.number)).Nodup :=
    hnumbers.nodup_iff.mpr hl.numbers_nodup
  have hconnection := World.connection_releaseAll inSpan hlt hnodup
  constructor
  · exact process?_next (process?_of_task ht)
  · intro o ho
    obtain ⟨⟨handle, k⟩, hk⟩ : ∃ e, j.world.connections[o.number]? = some e :=
      ⟨_, List.getElem?_eq_getElem (hl.number_lt ho)⟩
    refine ⟨handle, k, hk, fun hs hc => ?_⟩
    have hmem : o.number ∈ (order.filterMap j.openedAt?).map (·.number) :=
      hnumbers.mem_iff.mpr (List.mem_map_of_mem ho)
    refine (hconnection o.number).trans ?_
    rw [if_pos hmem, hk, Option.map_some, Connection.released_of_open hs hc]
  · intro n handle k hk hspared
    refine (hconnection n).trans ?_
    split
    · rename_i hmem
      obtain ⟨o, ho, hn⟩ := List.mem_map.mp (hnumbers.mem_iff.mp hmem)
      rw [hk, Option.map_some, Connection.released_of_spared (hspared ⟨o, ho, hn⟩)]
    · exact hk
  · exact World.length_releaseAll ..
  · exact ⟨_, World.log_releaseAll hlt hnodup, hvisited.filterMap _⟩

theorem ClosedOnce.connections_eq {j₁ j₂ : Job ν τ} (h₁ : ClosedOnce j j₁ p inSpan next)
    (h₂ : ClosedOnce j j₂ p inSpan next) : j₁.world.connections = j₂.world.connections := by
  refine List.ext_getElem? fun n => ?_
  cases hk : j.world.connections[n]? with
  | none =>
    have hn := List.getElem?_eq_none_iff.mp hk
    rw [List.getElem?_eq_none_iff.mpr (h₁.length ▸ hn), List.getElem?_eq_none_iff.mpr (h₂.length ▸ hn)]
  | some e =>
    obtain ⟨handle, k⟩ := e
    by_cases hspared : (∃ o ∈ j.opened, o.number = n) → k.failState = true ∨ k.closed = true
    · rw [h₁.spared n handle k hk hspared, h₂.spared n handle k hk hspared]
    · rw [Classical.not_imp, not_or, Bool.not_eq_true, Bool.not_eq_true] at hspared
      obtain ⟨⟨o, ho, rfl⟩, hs, hc⟩ := hspared
      obtain ⟨handle₁, k₁, hk₁, h₁⟩ := h₁.asked o ho
      obtain ⟨handle₂, k₂, hk₂, h₂⟩ := h₂.asked o ho
      rw [hk] at hk₁ hk₂
      cases hk₁
      cases hk₂
      rw [h₁ hs hc, h₂ hs hc]

theorem ClosedOnce.log_perm {j₁ j₂ : Job ν τ} (h₁ : ClosedOnce j j₁ p inSpan next)
    (h₂ : ClosedOnce j j₂ p inSpan next) : j₁.world.log.Perm j₂.world.log := by
  obtain ⟨warnings₁, hlog₁, hperm₁⟩ := h₁.log
  obtain ⟨warnings₂, hlog₂, hperm₂⟩ := h₂.log
  rw [hlog₁, hlog₂]
  exact (hperm₁.trans hperm₂.symm).append_left _

/-- A registry that is closed while nobody is on the way to a connection. -/
theorem closed_once {j₀ j : Job ν τ} {moves : List Move} {p : ProcessId} {ticket : Option Nat}
    {inSpan : Bool} {next : Unit → Program ν τ} (h₀ : j₀.Unvisited) (h : j₀.play? moves = some j)
    (hopen : j.registry.closed = false) (haway : ∀ q, j.place q = .away)
    (ht : j.tasks[p]? = some ⟨.running (.ask .closeRegistry next), ticket, inSpan⟩) :
    (∀ choices : List Nat, choices.length = j.registry.cells.size + 2 →
      ∃ j', j.play? (choices.map (.step p)) = some j' ∧ ClosedOnce j j' p inSpan next ∧
        ∀ later j'', j'.play? later = some j'' → j''.Shut) ∧
    ∀ choices choices' : List Nat, choices.length = j.registry.cells.size + 2 →
      choices'.length = j.registry.cells.size + 2 →
      ∀ j₁ j₂, j.play? (choices.map (.step p)) = some j₁ → j.play? (choices'.map (.step p)) = some j₂ →
        j₁.world.connections = j₂.world.connections ∧ j₁.world.log.Perm j₂.world.log := by
  have horder : j.traffic.Orderly := orderly_play? h₀.orderly h
  have hl : j.Linked j₀.world.connections.length := (linked_play? h₀.linked h).1
  have hclose : ∀ choices : List Nat, choices.length = j.registry.cells.size + 2 →
      ∃ j', j.play? (choices.map (.step p)) = some j' ∧ ClosedOnce j j' p inSpan next ∧
        j'.registry.closed = true := by
    intro choices hlen
    obtain ⟨order, hperm, hplay⟩ := play?_close horder (members_of_away horder haway) hopen ht hlen
    exact ⟨_, hplay, closedOnce_visited horder hl hperm ht, rfl⟩
  constructor
  · intro choices hlen
    obtain ⟨j', hplay, honce, hclosed⟩ := hclose choices hlen
    refine ⟨j', hplay, honce, fun later j'' hlater => shut_of_closed ?_⟩
    refine play?_keeps (P := fun j => j.registry.closed = true) (fun j m j' hj hc => ?_) hclosed hlater
    obtain ⟨q, released, hs⟩ := hc.traffic
    exact hs.closed hj
  · intro choices choices' hlen hlen' j₁ j₂ hj₁ hj₂
    obtain ⟨j₁', hplay₁, honce₁, -⟩ := hclose choices hlen
    obtain ⟨j₂', hplay₂, honce₂, -⟩ := hclose choices' hlen'
    rw [hj₁] at hplay₁
    rw [hj₂] at hplay₂
    cases hplay₁
    cases hplay₂
    exact ⟨honce₁.connections_eq honce₂, honce₁.log_perm honce₂⟩

section Example

def threeBackends : World where
  backends := Assoc.ofList
    [("a", { id := "a", schema := ⟨[]⟩ }), ("b", { id := "b", schema := ⟨[]⟩, failClose := true }),
      ("c", { id := "c", schema := ⟨[]⟩ })]
  active := ⟨[]⟩
  cache := { strategy := .none }

def threeConnections : Job Empty Unit where
  world := threeBackends
  codec := .plain
  pool := .ofCapacity 1
  tasks := [⟨.running (.ask (.connection ⟨"a", "a"⟩) fun _ => .ask (.connection ⟨"b", "b"⟩) fun _ =>
    .ask (.connection ⟨"c", "c"⟩) fun _ => .ask (.closeConnection 0) fun _ =>
      .ask .closeRegistry fun _ => .done ()), none, false⟩]

theorem place_of_tasks {t : Task ν τ} (htasks : j.tasks = [t]) (ht : t.process.place = .away)
    (q : ProcessId) : j.place q = .away := by
  cases q with
  | zero => simp [place, process?, htasks, ht]
  | succ q => simp [place, process?, htasks]

/-- The connection that was closed before is left alone, and the one that fails to close is
reported. -/
theorem closed_once_mixed :
    ∃ j j' : Job Empty Unit, threeConnections.Unvisited ∧
      threeConnections.play? (List.replicate 13 (.step 0 0)) = some j ∧ j.registry.closed = false ∧
      (∀ q, j.place q = .away) ∧ j.play? ([0, 1, 1, 0, 0].map (.step 0)) = some j' ∧
      ClosedOnce j j' 0 false (fun _ => .done ()) ∧
      j'.world.log = [.event (.closeFailed "b" (.dataAccess (.call "close"))) false] ∧ j'.Shut := by
  have hnew : threeConnections.Unvisited := ⟨rfl, rfl, place_of_tasks rfl rfl⟩
  obtain ⟨j, hplay, hopen, htasks, hsize, j', hclose, hlog⟩ : ∃ j,
      threeConnections.play? (List.replicate 13 (.step 0 0)) = some j ∧ j.registry.closed = false ∧
      j.tasks = [⟨.running (.ask .closeRegistry fun _ => .done ()), none, false⟩] ∧
      j.registry.cells.size = 3 ∧ ∃ j', j.play? ([0, 1, 1, 0, 0].map (.step 0)) = some j' ∧
        j'.world.log = [.event (.closeFailed "b" (.dataAccess (.call "close"))) false] :=
    ⟨_, rfl, rfl, rfl, rfl, _, rfl, rfl⟩
  have haway := place_of_tasks htasks rfl
  have ht : j.tasks[0]? = some ⟨.running (.ask .closeRegistry fun _ => .done ()), none, false⟩ := by
    rw [htasks]
    rfl
  obtain ⟨j₁, hplay₁, honce, hshut⟩ :=
    (closed_once hnew hplay hopen haway ht).1 [0, 1, 1, 0, 0] (by rw [hsize]; rfl)
  rw [hclose] at hplay₁
  cases hplay₁
  exact ⟨j, j', hnew, hplay, hopen, haway, hclose, honce, hlog, hshut [] j' rfl⟩

/-- A connection that does not tell whether it is closed is not asked to close, although closing it
would not fail. -/
theorem unasked_of_failState :
    ∃ j k, (ofCalls (.single { id := "db", schema := ⟨[]⟩, failState := true }) .plain
        [.request ⟨"db", "db"⟩, .close]).play?
        [.step 0 0, .step 0 0, .step 0 0, .step 0 0, .step 0 0, .step 1 0, .step 1 0, .step 1 0, .step 1 0] =
          some j ∧
      j.outcome? 1 = some (.value (.ok none)) ∧ j.world.connections[0]? = some ("db", k) ∧
      k.closed = false ∧ k.failClose = false ∧ k.closings = 0 :=
  ⟨_, _, rfl, rfl, rfl, rfl, rfl, rfl⟩

end Example

end Job
end Resync
