import Resync.Proofs.Job.Served
import Resync.Proofs.Job.Synchronization

/-! # What a context serves

Programs are run in a context one after another. A backend that the context has connected to is
served by it through all of them: until the context is closed, a request for the backend is answered
with its connection, and the request makes no attempt to connect.
-/
namespace Resync

/-- What may have become of a context: programs were run in it, each of them in any interleaving and
with whatever had become of the cluster by then. -/
inductive Context.Follows (x : Context) : Context → Prop
  | refl : Follows x x
  | run {ν τ : Type} {x' : Context} (h : Follows x x') (c : Cluster) (program : Program ν τ) (inSpan : Bool)
      {moves : List Move} {j : Job ν τ} (hj : ((x'.job c).spawn program inSpan).2.play? moves = some j) :
      Follows x (x'.after j)

/-- The job has connection `c` to a backend, and no other. Whenever a process asks for the backend, it
is let in unless the registry is closed, and then it has that connection. The steps of the request change
nothing but where the process stands, so no attempt to connect is made. -/
structure Job.Reuses {ν τ : Type} (j : Job ν τ) (c : Nat) (o : Opened) : Prop where
  opened : j.opened[c]? = some o
  only : ∀ c' o', j.opened[c']? = some o' → o'.backend = o.backend → c' = c
  request : ∀ p k m next, m.id = o.backend → j.registry.closed = false →
    j.process? p = some (.running (.ask (.connection m) next)) →
    j.move? (.step p k) = some (j.setProcess p (.admitted m next))
  answer : ∀ p k m next, m.id = o.backend → j.process? p = some (.admitted m next) →
    j.move? (.step p k) = some (j.setProcess p (.running (next (.ok c))))

namespace Context

variable {ν τ : Type} {x x' : Context} {c : Nat} {o : Opened} {j : Job ν τ} {moves : List Move}

structure Serves (x : Context) (c : Nat) (o : Opened) : Prop where
  ready : x.registry.cell o.backend = .ready c
  opened : x.opened[c]? = some o
  only : ∀ c' o', x.opened[c']? = some o' → o'.backend = o.backend → c' = c

theorem Follows.perform (h : x.Follows x') (fuel allowance : Nat) (cluster : Cluster) (inSpan : Bool)
    (program : Program ν τ) : x.Follows (x'.perform fuel allowance cluster inSpan program).context := by
  obtain ⟨moves, ts, hplay⟩ := Schedule.run_interleaving fuel
    { job := ((x'.job cluster).spawn program inSpan).2
      main := some 0
      current := some 0
      allowance := allowance } [] (timely_spawn ..) Nat.zero_lt_one
  have hrun := h.run cluster program inSpan hplay
  exact hrun

theorem Serves.spawn (h : x.Serves c o) (cluster : Cluster) (program : Program ν τ) (inSpan : Bool) :
    ((x.job cluster).spawn program inSpan).2.traffic.Served c o where
  ready := h.ready
  opened := h.opened
  only := h.only
  calm p := by
    have haway := place_spawn x cluster program inSpan p
    intro hp
    cases hp.symm.trans haway

theorem Serves.after (h : j.traffic.Served c o) (x : Context) : (x.after j).Serves c o :=
  ⟨h.ready, h.opened, h.only⟩

/-- A context serves a backend for good. -/
theorem Follows.serves (hx : x.Follows x') (h : x.Serves c o) : x'.Serves c o := by
  induction hx with
  | refl => exact h
  | run hx cluster program inSpan hj ih =>
    exact Serves.after (Job.served_play? (ih.spawn cluster program inSpan) hj) _

theorem reuses_of_served (h : j.traffic.Served c o) : j.Reuses c o where
  opened := h.opened
  only := h.only
  request _ k _ _ hm hopen hp := Job.move?_request h hm hopen hp k
  answer _ k _ _ hm hp := Job.move?_admitted h hm hp k

theorem Follows.reuses (hx : x.Follows x') (h : x.Serves c o) {cluster : Cluster} {program : Program ν τ}
    {inSpan : Bool} (hj : ((x'.job cluster).spawn program inSpan).2.play? moves = some j) : j.Reuses c o :=
  reuses_of_served (Job.served_play? ((hx.serves h).spawn cluster program inSpan) hj)

/-- The attempts to connect that programs make in a context are for backends that it does not serve. -/
theorem Follows.tried (hx : x.Follows x') {served : List String}
    (h : ∀ b ∈ served, ∃ c n, x.Serves c ⟨b, n⟩) {cluster : Cluster} {program : Program ν τ} {inSpan : Bool}
    (hj : ((x'.job cluster).spawn program inSpan).2.play? moves = some j) :
    ∃ ms, (∀ m ∈ ms, m.id ∉ served) ∧ cluster.world.Tried ms j.world := by
  refine Job.tried_play? (j := ((x'.job cluster).spawn program inSpan).2) (fun b hb => ?_) hj
  obtain ⟨c, n, hserves⟩ := h b hb
  exact ⟨c, n, (hx.serves hserves).spawn cluster program inSpan⟩

end Context
end Resync
