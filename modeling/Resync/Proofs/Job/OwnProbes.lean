import Resync.Proofs.Job.Conduct
import Resync.Proofs.Job.Traffic

/-! # Probes through own connections

A program keeps to its own connections if it connects to known backends only and asks a
snapshot about filled columns only through a connection that it has to the snapshot's own
backend. Processes go on so, and in a job every connection that a process has leads where the
process takes it to lead.
-/
namespace Resync

/-- What is known about connections: by its number, the backend that a connection leads to. -/
abbrev Leads := Nat → String → Prop

namespace Leads

def add (l : Leads) (c : Nat) (b : String) : Leads := fun c' b' => l c' b' ∨ c' = c ∧ b' = b

theorem add_mono {l l' : Leads} (h : ∀ c b, l c b → l' c b) (c : Nat) (b : String) :
    ∀ c' b', l.add c b c' b' → l'.add c b c' b' := fun c' b' => Or.imp_left (h c' b')

theorem of_add {l : Leads} {c : Nat} {b : String} (h : l c b) : ∀ c' b', l.add c b c' b' → l c' b' := by
  rintro c' b' (hl | ⟨rfl, rfl⟩)
  · exact hl
  · exact h

end Leads

def Request.IsPlain (q : Request) : Prop :=
  (∀ m, q ≠ .connection m) ∧ ∀ side c relation, q ≠ .autoIncrement side c relation

/-- The program, and every task that it submits, connects to known backends only and asks the
snapshot of either side only through connections that lead to its own backend. -/
inductive Program.ProbesOwn {ν τ : Type} (known : Member → Prop) (own : Side → String) :
    Leads → Program ν τ → Prop
  | done {l : Leads} {result : τ} : ProbesOwn known own l (.done result)
  | panic {l : Leads} : ProbesOwn known own l .panic
  | note {l : Leads} {n : ν} {next : Program ν τ} (h : ProbesOwn known own l next) :
      ProbesOwn known own l (.note n next)
  | submit {l : Leads} {body : Program ν τ} {next : Except Error ProcessId → Program ν τ}
      (hb : ProbesOwn known own l body) (h : ∀ r, ProbesOwn known own l (next r)) :
      ProbesOwn known own l (.submit body next)
  | connection {l : Leads} {m : Member} {next : Except Error Nat → Program ν τ} (hm : known m)
      (he : ∀ e, ProbesOwn known own l (next (.error e)))
      (hc : ∀ c, ProbesOwn known own (l.add c m.id) (next (.ok c))) :
      ProbesOwn known own l (.ask (.connection m) next)
  | autoIncrement {l : Leads} {side : Side} {c : Nat} {relation : String}
      {next : Except Error Bool → Program ν τ} (hc : l c (own side))
      (h : ∀ r, ProbesOwn known own l (next r)) :
      ProbesOwn known own l (.ask (.autoIncrement side c relation) next)
  | ask {l : Leads} {q : Request} {next : q.Reply τ → Program ν τ} (hq : q.IsPlain)
      (h : ∀ r, ProbesOwn known own l (next r)) : ProbesOwn known own l (.ask q next)

section Programs

variable {ν τ : Type} {known : Member → Prop} {own : Side → String} {l l' : Leads}

theorem Program.ProbesOwn.mono {p : Program ν τ} (h : p.ProbesOwn known own l)
    (hl : ∀ c b, l c b → l' c b) : p.ProbesOwn known own l' := by
  induction h generalizing l' with
  | done => exact .done
  | panic => exact .panic
  | note h ih => exact .note (ih hl)
  | submit hb h ihb ih => exact .submit (ihb hl) fun r => ih r hl
  | connection hm he hc ihe ihc =>
    exact .connection hm (fun e => ihe e hl) fun c => ihc c (Leads.add_mono hl c _)
  | autoIncrement hc h ih => exact .autoIncrement (hl _ _ hc) fun r => ih r hl
  | ask hq h ih => exact .ask hq fun r => ih r hl

theorem Program.ProbesOwn.andThen {p : Program ν τ} {f : τ → Program ν τ} (h : p.ProbesOwn known own l)
    (hf : ∀ t l, (f t).ProbesOwn known own l) : (p.andThen f).ProbesOwn known own l := by
  induction h with
  | done => exact hf _ _
  | panic => exact .panic
  | note h ih => exact .note ih
  | submit hb h ihb ih => exact .submit hb ih
  | connection hm he hc ihe ihc => exact .connection hm ihe ihc
  | autoIncrement hc h ih => exact .autoIncrement hc ih
  | ask hq h ih => exact .ask hq ih

def Process.Connects (known : Member → Prop) (own : Side → String) (l : Leads) (m : Member)
    (next : Except Error Nat → Program ν τ) : Prop :=
  known m ∧ (∀ e, (next (.error e)).ProbesOwn known own l) ∧
    ∀ c, (next (.ok c)).ProbesOwn known own (l.add c m.id)

def Process.ProbesOwn (known : Member → Prop) (own : Side → String) (l : Leads) : Process ν τ → Prop
  | fresh body => body.ProbesOwn known own l
  | running program => program.ProbesOwn known own l
  | admitted m next | queued m next | opening m _ next | awaiting m _ _ next =>
    Connects known own l m next
  | asleep _ next | visiting _ next | lingering _ _ next => ∀ r, (next r).ProbesOwn known own l
  | ended _ => True

theorem Process.Connects.mono {m : Member} {next : Except Error Nat → Program ν τ}
    (h : Connects known own l m next) (hl : ∀ c b, l c b → l' c b) : Connects known own l' m next :=
  ⟨h.1, fun e => (h.2.1 e).mono hl, fun c => (h.2.2 c).mono (Leads.add_mono hl c _)⟩

theorem Process.ProbesOwn.mono {s : Process ν τ} (h : s.ProbesOwn known own l)
    (hl : ∀ c b, l c b → l' c b) : s.ProbesOwn known own l' := by
  cases s with
  | fresh body => exact Program.ProbesOwn.mono h hl
  | running program => exact Program.ProbesOwn.mono h hl
  | admitted m next => exact Process.Connects.mono h hl
  | queued m next => exact Process.Connects.mono h hl
  | opening m a next => exact Process.Connects.mono h hl
  | awaiting m a due next => exact Process.Connects.mono h hl
  | asleep due next => exact fun r => (h r).mono hl
  | visiting todo next => exact fun r => (h r).mono hl
  | lingering b todo next => exact fun r => (h r).mono hl
  | ended o => trivial

theorem Process.Settles.connects {now : Nat} {m : Member} {a : Attempt}
    {next : Except Error Nat → Program ν τ} {s : Process ν τ} (hs : s.Settles now m a next)
    (h : s.ProbesOwn known own l) : Connects known own l m next := by
  cases hs with
  | opening hd => exact h
  | awaiting hd => exact h

end Programs

namespace Job

variable {ν τ : Type} {j j' : Job ν τ} {m : Move} {p : ProcessId} {s : Process ν τ} {ticket : Option Nat}
  {inSpan : Bool} {known : Member → Prop} {own : Side → String}

def told (j : Job ν τ) (side : Side) (c : Nat) (relation : String) : Except Error Bool :=
  (j.access c fun w n => w.autoIncrement (j.snapshot side) n relation).1

def leads (j : Job ν τ) : Leads := fun c b => ∃ n, j.opened[c]? = some ⟨b, n⟩

theorem leads_of_ready (horder : j.traffic.Orderly) {b : String} {c : Nat}
    (hc : j.registry.cell b = .ready c) : j.leads c b := horder.opened_of_ready b c hc

theorem Change.leads (hc : Change j m j') : ∀ c b, j.leads c b → j'.leads c b := by
  rintro c b ⟨n, hn⟩
  obtain ⟨more, hmore⟩ := hc.opened
  have hlt := (List.getElem?_eq_some_iff.mp hn).1
  exact ⟨n, by rw [hmore, List.getElem?_append_left hlt, hn]⟩

theorem Rule.probesOwn (ht : j.tasks[p]? = some ⟨s, ticket, inSpan⟩) (hr : Rule j p ticket inSpan s j')
    (horder : j.traffic.Orderly) (h : s.ProbesOwn known own j.leads) :
    ∃ s', j'.process? p = some s' ∧ s'.ProbesOwn known own j'.leads := by
  have hp := process?_of_task ht
  have hset : ∀ (j₁ : Job ν τ) (s' : Process ν τ), j₁.tasks = j.tasks → j₁.opened = j.opened →
      s'.ProbesOwn known own j.leads →
      ∃ s'', (j₁.setProcess p s').process? p = some s'' ∧
        s''.ProbesOwn known own (j₁.setProcess p s').leads := by
    intro j₁ s' h₁ ho hs'
    refine ⟨s', process?_next (by rw [process?, h₁]; exact hp), hs'.mono ?_⟩
    rintro c b ⟨n, hn⟩
    exact ⟨n, by rw [setProcess_opened, ho]; exact hn⟩
  have htimer : ∀ (due : Nat) (s' : Process ν τ), s'.ProbesOwn known own j.leads →
      ∃ s'', ((j.setProcess p s').setTimer p due).process? p = some s'' ∧
        s''.ProbesOwn known own ((j.setProcess p s').setTimer p due).leads := by
    intro due s' hs'
    obtain ⟨timers, htimers⟩ := (j.setProcess p s').setTimer_eq p due
    rw [htimers]
    exact hset j s' rfl rfl hs'
  have hfound : ∀ {m : Member} {c : Nat} {next : Except Error Nat → Program ν τ},
      Process.Connects known own j.leads m next → j.registry.cell m.id = .ready c →
      (next (.ok c)).ProbesOwn known own j.leads := by
    intro m c next h hc
    exact (h.2.2 c).mono (Leads.of_add (leads_of_ready horder hc))
  cases hr with
  | start hk hp => exact hset _ _ rfl rfl h
  | lineUp hk hg hp => exact hset _ _ rfl rfl h
  | finish => exact hset _ _ rfl rfl trivial
  | panic => exact hset _ _ rfl rfl trivial
  | note =>
    cases h with
    | note h => exact hset _ _ rfl rfl h
  | reject hs =>
    cases h with
    | submit hb h => exact hset _ _ rfl rfl (h _)
  | @accept body next hs =>
    cases h with
    | submit hb h => exact ⟨_, process?_next (process?_accept body hp), h _⟩
  | reply hq =>
    cases h with
    | connection hm he hc =>
      simp only [reply?] at hq
      split at hq
      · cases hq
        exact hset _ _ rfl rfl (he _)
      · cases hq
    | autoIncrement hc h => exact hset _ _ rfl rfl (h _)
    | ask hq h => exact hset _ _ rfl rfl (h _)
  | enter ha =>
    cases h with
    | connection hm he hc => exact hset _ _ rfl rfl ⟨hm, he, hc⟩
    | ask hq h => exact absurd rfl (hq.1 _)
  | shutdown =>
    cases h with
    | ask hq h => exact hset _ _ rfl rfl (h _)
  | drain =>
    cases h with
    | ask hq h => exact hset _ _ rfl rfl h
  | sleep =>
    cases h with
    | ask hq h => exact htimer _ _ h
  | wake hd => exact hset _ _ rfl rfl (h _)
  | find hc => exact hset _ _ rfl rfl (hfound h hc)
  | take hc => exact hset _ _ rfl rfl (hfound h hc)
  | approach hc => exact hset _ _ rfl rfl h
  | begin hh ha => exact hset _ _ rfl rfl h
  | refuse hh ha => exact hset _ _ rfl rfl (h.2.1 _)
  | await hd => exact htimer _ _ h
  | fail hs ha => exact hset _ _ rfl rfl ((hs.connects h).2.1 _)
  | @fill s m a next number world hs ha =>
    refine ⟨_, process?_next hp, ((hs.connects h).2.2 _).mono ?_⟩
    rintro c b (⟨n, hn⟩ | ⟨rfl, rfl⟩)
    · have hlt := (List.getElem?_eq_some_iff.mp hn).1
      exact ⟨n, (List.getElem?_append_left hlt).trans hn⟩
    · exact ⟨number, List.getElem?_concat_length⟩
  | visitReady hi hc => exact hset _ _ (by rw [release_eq]) (by rw [release_eq]) h
  | visitFree hi hc => exact hset _ _ rfl rfl h
  | visitHeld hi hc => exact hset _ _ rfl rfl h
  | depart => exact hset _ _ rfl rfl (h _)
  | lingerReady hc => exact hset _ _ (by rw [release_eq]) (by rw [release_eq]) h
  | lingerPass hh => exact hset _ _ rfl rfl h

def ProbesOwn (known : Member → Prop) (own : Side → String) (j : Job ν τ) : Prop :=
  ∀ p s, j.process? p = some s → s.ProbesOwn known own j.leads

theorem Change.probesOwn (hc : Change j m j') (horder : j.traffic.Orderly) (h : j.ProbesOwn known own) :
    j'.ProbesOwn known own := by
  have hleads := hc.leads
  intro q t ht
  cases hc with
  | @step p k s ticket inSpan j' htask hr =>
    have hs := h p s (process?_of_task htask)
    by_cases hqp : q = p
    · subst hqp
      obtain ⟨s', hs', hown⟩ := hr.probesOwn htask horder hs
      rw [ht] at hs'
      cases hs'
      exact hown
    · rcases hr.others_before hqp ht with ht' | ⟨body, next, rfl, rfl⟩
      · exact (h q t ht').mono hleads
      · cases hs with
        | submit hb h => exact hb.mono hleads
  | elapse => exact h q t ht
  | signal => exact h q t ht
  | @leave p s ticket inSpan timers htask hs =>
    rw [process?_setProcess] at ht
    split at ht
    · obtain ⟨s', -, rfl⟩ := Option.map_eq_some_iff.mp ht
      trivial
    · exact h q t ht
  | idle => exact h q t ht

end Job
end Resync
