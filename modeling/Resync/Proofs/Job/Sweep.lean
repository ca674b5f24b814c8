import Resync.Proofs.Job.Traffic

/-! # Closing a registry

A process that closes a registry has cells still to visit. Every connection of the job that
leads to none of them is released by then, except those that were opened after their cells
had been visited. A visit to a cell takes care of the connection in it, and at a cell that
is not ready there is none.
-/
namespace Resync

def Process.closing? {ν τ : Type} : Process ν τ → Option (List String × (Unit → Program ν τ))
  | visiting todo next => some (todo, next)
  | lingering b todo next => some (b :: todo, next)
  | _ => none

theorem Registry.mem_keys_of_ready {r : Registry} {b : String} {c : Nat} (h : r.cell b = .ready c) :
    b ∈ r.cells.keys := by
  cases hg : r.cells.get? b with
  | none => simp [Registry.cell, hg] at h
  | some cell => exact (Assoc.mem_keys ..).mpr ⟨cell, hg⟩

namespace Job

variable {ν τ : Type} {j j' : Job ν τ} {m : Move} {p : ProcessId} {s : Process ν τ} {ticket : Option Nat}
  {inSpan : Bool} {base : Nat} {late : Nat → Opened → Prop} {todo todo' : List String}

/-- Every connection is released, but for those that lead to the given backends, and those
that came late. -/
def Swept (j : Job ν τ) (late : Nat → Opened → Prop) (todo : List String) : Prop :=
  ∀ c o, j.opened[c]? = some o → j.Released c ∨ o.backend ∈ todo ∨ late c o

/-- When a registry is closed, the cells of all its connections are left to visit. -/
theorem swept_drain (late : Nat → Opened → Prop) (horder : j.traffic.Orderly)
    (hc : j.registry.closed = false) : j.Swept late j.registry.drain.1 := by
  intro c o ho
  have hr : j.registry.cell o.backend = .ready c := horder.ready_of_opened c o ho
  rw [Registry.drain, hc]
  exact .inr (.inl (Registry.mem_keys_of_ready hr))

/-- What others do meanwhile: a connection that they open leads to a backend that is left
to visit, or it comes late. -/
theorem Swept.change {late' : Nat → Opened → Prop} (h : j.Swept late todo) (hl : j.Linked base)
    (hc : Change j m j') (hlate : ∀ c o, late c o → late' c o)
    (hn : ∀ c o, j.opened.length ≤ c → j'.opened[c]? = some o → o.backend ∈ todo ∨ late' c o) :
    j'.Swept late' todo := by
  intro c o ho
  by_cases hlt : c < j.opened.length
  · obtain ⟨more, hm⟩ := hc.opened
    rw [hm, List.getElem?_append_left hlt] at ho
    rcases h c o ho with hr | hb | hc'
    · exact .inl (hc.released hl hr)
    · exact .inr (.inl hb)
    · exact .inr (.inr (hlate c o hc'))
  · exact .inr (hn c o (Nat.le_of_not_lt hlt) ho)

theorem Swept.visit (h : j.Swept late todo) (hl : j.Linked base) (hc : Change j m j')
    (ho : j'.opened = j.opened)
    (hb : ∀ c o, j.opened[c]? = some o → o.backend ∈ todo → j'.Released c ∨ o.backend ∈ todo') :
    j'.Swept late todo' := by
  intro c o hco
  rw [ho] at hco
  rcases h c o hco with hr | hm | hc'
  · exact .inl (hc.released hl hr)
  · rcases hb c o hco hm with hr | hm'
    · exact .inl hr
    · exact .inr (.inl hm')
  · exact .inr (.inr hc')

theorem mem_eraseIdx {b b' : String} {i : Nat} (h : b ∈ todo) (hi : todo[i]? = some b')
    (hb : b ≠ b') : b ∈ todo.eraseIdx i := by
  obtain ⟨k, hk⟩ := List.mem_iff_getElem?.mp h
  refine List.mem_eraseIdx_iff_getElem?.mpr ⟨k, ?_, hk⟩
  rintro rfl
  rw [hi] at hk
  exact hb (Option.some.inj hk).symm

theorem released_of_ready {b : String} {c : Nat} {o : Opened} (horder : j.traffic.Orderly)
    (hl : j.Linked base) (hc : j.registry.cell o.backend = .ready c)
    (hw : j'.world = (j.release inSpan b c).world) (hop : j'.opened = j.opened) : j'.Released c := by
  obtain ⟨n, hn⟩ := horder.opened_of_ready o.backend c hc
  have hn' : j.opened[c]? = some ⟨o.backend, n⟩ := hn
  have hlt := (List.getElem?_eq_some_iff.mp hn').1
  have hnum := hl.number c _ hn'
  have hlen := hl.length
  refine ⟨_, by rw [hop]; exact hn', ?_⟩
  rw [hw, release, hn']
  exact World.release_released inSpan b (by omega)

theorem Rule.sweep {next : Unit → Program ν τ} (ht : j.tasks[p]? = some ⟨s, ticket, inSpan⟩)
    (hr : Rule j p ticket inSpan s j') (horder : j.traffic.Orderly) (hl : j.Linked base)
    (hv : s.closing? = some (todo, next)) (h : j.Swept late todo) :
    ∃ s', j'.process? p = some s' ∧
      ((∃ todo', s'.closing? = some (todo', next) ∧ j'.Swept late todo') ∨
        s' = .running (next ()) ∧ j'.Swept late []) := by
  have hchange := Change.step (k := 0) ht hr
  have hp := process?_of_task ht
  have hready : ∀ c o, j.opened[c]? = some o → j.registry.cell o.backend = .ready c :=
    horder.ready_of_opened
  cases hr with
  | @visitReady todo next i b c hi hc =>
    cases hv
    refine ⟨_, process?_next (by rw [release_eq]; exact hp), .inl ⟨_, rfl, ?_⟩⟩
    have hop : ((j.release inSpan b c).setProcess p (.visiting (todo.eraseIdx i) next)).opened =
        j.opened := by
      rw [release_eq]
      rfl
    refine h.visit hl hchange hop fun c' o ho hm => ?_
    by_cases hb : o.backend = b
    · have hc' := hready c' o ho
      rw [hb, hc] at hc'
      cases hc'
      exact .inl (released_of_ready horder hl (hready c o ho) rfl hop)
    · exact .inr (mem_eraseIdx hm hi hb)
  | @visitFree todo next i b hi hc =>
    cases hv
    refine ⟨_, process?_next hp, .inl ⟨_, rfl, ?_⟩⟩
    refine h.visit hl hchange rfl fun c o ho hm => .inr (mem_eraseIdx hm hi ?_)
    rintro hb
    have hc' := hready c o ho
    rw [hb, hc] at hc'
    cases hc'
  | @visitHeld todo next i b holder queue hi hc =>
    cases hv
    refine ⟨_, process?_next hp, .inl ⟨_, rfl, ?_⟩⟩
    refine h.visit hl hchange rfl fun c o ho hm => .inr ?_
    by_cases hb : o.backend = b
    · exact List.mem_cons.mpr (.inl hb)
    · exact List.mem_cons_of_mem _ (mem_eraseIdx hm hi hb)
  | depart =>
    cases hv
    exact ⟨_, process?_next hp, .inr ⟨rfl, h.visit hl hchange rfl fun c o ho hm => .inr hm⟩⟩
  | @lingerReady b todo next c hc =>
    cases hv
    refine ⟨_, process?_next (by rw [release_eq]; exact hp), .inl ⟨_, rfl, ?_⟩⟩
    have hop : ((j.release inSpan b c).setProcess p (.visiting todo next)).opened = j.opened := by
      rw [release_eq]
      rfl
    refine h.visit hl hchange hop fun c' o ho hm => ?_
    rcases List.mem_cons.mp hm with hb | hm
    · have hc' := hready c' o ho
      rw [hb, hc] at hc'
      cases hc'
      exact .inl (released_of_ready horder hl (hready c o ho) rfl hop)
    · exact .inr hm
  | @lingerPass b todo next hh =>
    cases hv
    refine ⟨_, process?_next hp, .inl ⟨_, rfl, ?_⟩⟩
    refine h.visit hl hchange rfl fun c o ho hm => .inr ?_
    rcases List.mem_cons.mp hm with hb | hm
    · have hc' := hready c o ho
      rw [hb] at hc'
      rw [hc'] at hh
      cases hh
    · exact hm
  | fail hs => cases hs <;> cases hv
  | fill hs => cases hs <;> cases hv
  | _ => cases hv

end Job
end Resync
