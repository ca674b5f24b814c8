import Resync.Cluster.ActiveSet

/-! # Active sets under change

Backends are activated and deactivated in any order, some of them several times and under the same id.
What is left is told by the changes alone: an entry is there from its activation up to the first
deactivation of its id behind it, and the entries stand in the order in which they came.
-/
namespace Resync.ActiveSet

inductive Change where
  | activate (m : Member)
  | deactivate (m : Member)
  deriving DecidableEq, Repr

namespace Change

def drops (id : String) : Change → Bool
  | activate _ => false
  | deactivate m => m.id = id

/-- None of the changes makes the entry leave. -/
def spare (changes : List Change) (m : Member) : Bool := !changes.any (drops m.id)

/-- The entries that are activated and not made to leave by a later change. -/
def lasting : List Change → List Member
  | [] => []
  | activate m :: later => if spare later m then m :: lasting later else lasting later
  | deactivate _ :: later => lasting later

variable {m m' : Member} {changes later : List Change}

theorem spare_deactivate : spare (deactivate m' :: later) m = (decide (m.id ≠ m'.id) && spare later m) := by
  have hdrops : (!drops m.id (deactivate m')) = decide (m.id ≠ m'.id) := by
    rw [drops, decide_not, decide_eq_decide.mpr eq_comm]
  rw [spare, List.any_cons, Bool.not_or, hdrops, spare]

theorem spare_of_forall (h : ∀ m', deactivate m' ∈ changes → m'.id ≠ m.id) : spare changes m = true := by
  rw [spare, Bool.not_eq_true', List.any_eq_false]
  intro c hc
  cases c with
  | activate m' => nofun
  | deactivate m' => exact fun hdrops => h m' hc (of_decide_eq_true hdrops)

theorem activate_mem_of_mem_lasting (h : m ∈ lasting changes) : activate m ∈ changes := by
  induction changes with
  | nil => cases h
  | cons c changes ih =>
    cases c with
    | activate first =>
      rw [lasting] at h
      split at h
      · rcases List.mem_cons.mp h with rfl | h
        · exact List.mem_cons_self
        · exact List.mem_cons_of_mem _ (ih h)
      · exact List.mem_cons_of_mem _ (ih h)
    | deactivate first => exact List.mem_cons_of_mem _ (ih h)

end Change

open Change (spare lasting)

variable {a : ActiveSet} {m : Member} {later : List Change}

def change (a : ActiveSet) : Change → ActiveSet
  | .activate m => a.activate m
  | .deactivate m => a.deactivate m

def changed (a : ActiveSet) (changes : List Change) : ActiveSet := changes.foldl change a

theorem members_changed (a : ActiveSet) (changes : List Change) :
    (a.changed changes).members = a.members.filter (spare changes) ++ lasting changes := by
  induction changes generalizing a with
  | nil => exact ((List.append_nil _).trans (List.filter_eq_self.mpr fun _ _ => rfl)).symm
  | cons c changes ih =>
    have hstep : a.changed (c :: changes) = (a.change c).changed changes := rfl
    rw [hstep, ih]
    cases c with
    | activate m =>
      have hnew : [m].filter (spare changes) ++ lasting changes = lasting (.activate m :: changes) := by
        rw [lasting, List.filter_cons]
        split
        · rfl
        · rfl
      rw [change, activate, List.filter_append, List.append_assoc, hnew]
      rfl
    | deactivate m =>
      have hold : (a.deactivate m).members.filter (spare changes) =
          a.members.filter (spare (.deactivate m :: changes)) := by
        rw [deactivate, List.filter_filter]
        exact List.filter_congr fun m' _ => (Bool.and_comm ..).trans Change.spare_deactivate.symm
      rw [change, hold, lasting]

theorem contains_iff : a.contains m = true ↔ ∃ m' ∈ a.members, m'.id = m.id := by
  rw [contains, List.any_eq_true]
  simp only [beq_iff_eq]

theorem next?_activate (a : ActiveSet) (m : Member) : (a.activate m).next? = a.next?.or (some m) :=
  List.head?_append

theorem next?_deactivate (h : ∀ first, a.next? = some first → first.id ≠ m.id) :
    (a.deactivate m).next? = a.next? := by
  obtain ⟨members⟩ := a
  cases members with
  | nil => rfl
  | cons first rest =>
    have hfirst : decide (first.id ≠ m.id) = true := decide_eq_true (h first rfl)
    rw [deactivate, List.filter_cons, if_pos hfirst]
    rfl

theorem contains_of_deactivated (a : ActiveSet) (h : ∀ m', .activate m' ∈ later → m'.id ≠ m.id) :
    (a.changed (.deactivate m :: later)).contains m = false := by
  rw [Bool.eq_false_iff, ne_eq, contains_iff]
  rintro ⟨m', hm', hid⟩
  rw [members_changed, List.mem_append, List.mem_filter] at hm'
  rcases hm' with ⟨-, hspare⟩ | hlasting
  · rw [Change.spare_deactivate, hid, decide_eq_false (not_not_intro rfl)] at hspare
    cases hspare
  · exact h m' (Change.activate_mem_of_mem_lasting hlasting) hid

theorem contains_of_activated (a : ActiveSet) (h : spare later m = true) :
    (a.changed (.activate m :: later)).contains m = true := by
  rw [contains_iff]
  refine ⟨m, ?_, rfl⟩
  rw [members_changed, lasting, if_pos h]
  exact List.mem_append_right _ List.mem_cons_self

/-- After any changes the set has the entries that it had and those that were activated, without the ones
whose id was deactivated later, in the order in which they came and as often. How many there are, which is
the first and what the set contains is read off these entries. The first one changes only if its id is
deactivated, or if there was none; an id that was deactivated is absent up to its next activation, and
present from there up to its next deactivation. -/
theorem members_told_by_changes (a : ActiveSet) (changes : List Change) :
    let b := a.changed changes
    b.members = a.members.filter (spare changes) ++ lasting changes ∧
    b.count = b.members.length ∧
    (∀ m, b.next? = some m ↔ ∃ rest, b.members = m :: rest) ∧ (b.next? = none ↔ b.members = []) ∧
    (∀ m, b.contains m = true ↔ ∃ m' ∈ b.members, m'.id = m.id) ∧
    (∀ m, (∀ first, b.next? = some first → first.id ≠ m.id) → (b.deactivate m).next? = b.next?) ∧
    (∀ m, b.members ≠ [] → (b.activate m).next? = b.next?) ∧
    (∀ m, b.members = [] → (b.activate m).next? = some m) ∧
    (∀ m later, (∀ m', .activate m' ∈ later → m'.id ≠ m.id) →
      (b.changed (.deactivate m :: later)).contains m = false) ∧
    ∀ m later, (∀ m', .deactivate m' ∈ later → m'.id ≠ m.id) →
      (b.changed (.activate m :: later)).contains m = true := by
  intro b
  have hnone : b.next? = none ↔ b.members = [] := List.head?_eq_none_iff
  refine ⟨a.members_changed changes, rfl, fun m => List.head?_eq_some_iff, hnone, fun m => contains_iff,
    fun m => next?_deactivate, fun m hm => ?_, fun m hm => ?_, fun m later => contains_of_deactivated b,
    fun m later h => contains_of_activated b (Change.spare_of_forall h)⟩
  · obtain ⟨first, hfirst⟩ := Option.ne_none_iff_exists'.mp (mt hnone.mp hm)
    rw [next?_activate, hfirst, Option.or_some]
    rfl
  · rw [next?_activate, hnone.mpr hm, Option.none_or]

def namesakes : ActiveSet := ⟨[⟨"a", "a"⟩, ⟨"b", "b"⟩, ⟨"a2", "a"⟩, ⟨"b", "b"⟩]⟩

/-- Deactivating one of the handles takes both of them away; activated again they stand at the end. -/
theorem members_told_by_changes_namesakes :
    let b := namesakes.changed [.activate ⟨"c", "c"⟩, .deactivate ⟨"a2", "a"⟩, .activate ⟨"a", "a"⟩]
    b.members = [⟨"b", "b"⟩, ⟨"b", "b"⟩, ⟨"c", "c"⟩, ⟨"a", "a"⟩] ∧ b.next? = some ⟨"b", "b"⟩ ∧
    (b.deactivate ⟨"a2", "a"⟩).next? = some ⟨"b", "b"⟩ ∧ (b.activate ⟨"d", "d"⟩).next? = some ⟨"b", "b"⟩ ∧
    (b.changed [.deactivate ⟨"a2", "a"⟩, .activate ⟨"d", "d"⟩]).contains ⟨"a", "a"⟩ = false := by
  intro b
  obtain ⟨hmembers, -, hnext, -, -, hdeactivate, hactivate, -, habsent, -⟩ :=
    members_told_by_changes namesakes [.activate ⟨"c", "c"⟩, .deactivate ⟨"a2", "a"⟩, .activate ⟨"a", "a"⟩]
  have hfirst : b.next? = some ⟨"b", "b"⟩ := (hnext _).mpr ⟨_, hmembers⟩
  refine ⟨hmembers, hfirst, (hdeactivate _ ?_).trans hfirst, (hactivate _ ?_).trans hfirst, ?_⟩
  · intro first h
    rw [hfirst] at h
    cases h
    decide
  · decide
  · refine habsent ⟨"a2", "a"⟩ [.activate ⟨"d", "d"⟩] fun m' hm' => ?_
    cases List.mem_singleton.mp hm'
    decide

end Resync.ActiveSet
