import Resync.Proofs.Assoc.Lookup
import Resync.Proofs.Registry.Traffic

/-! # Order at the cells

The invariant of a registry in use: those at a cell are exactly the processes that stand
there, once each, only the one with the turn opens, and the cells that are ready are
exactly the connections that were opened, each at the cell of its own backend. So no two
connections that were opened lead to the same backend.
-/
namespace Resync

def Cell.connection? : Cell → Option Nat
  | ready c => some c
  | _ => none

theorem Cell.connection?_eq_some {cell : Cell} {c : Nat} :
    cell.connection? = some c ↔ cell = ready c := by
  cases cell <;> simp [connection?]

namespace Traffic

open Function (update)

structure Orderly (t : Traffic) : Prop where
  member_iff : ∀ p b, p ∈ (t.registry.cell b).members ↔
    (t.place p).cell? = some b ∧ (t.registry.cell b).isReady = false
  nodup : ∀ b, (t.registry.cell b).members.Nodup
  holder_of_opening : ∀ p b, t.place p = .opening b → (t.registry.cell b).holder? = some p
  opened_of_ready : ∀ b c, t.registry.cell b = .ready c → ∃ n, t.opened[c]? = some ⟨b, n⟩
  ready_of_opened : ∀ c o, t.opened[c]? = some o → t.registry.cell o.backend = .ready c

namespace Orderly

variable {t t' : Traffic} {p : ProcessId}

/-- When nobody has come to the registry yet, the cells need only fit the connections. -/
theorem of_away (hp : ∀ p, t.place p = .away) (hm : ∀ b, (t.registry.cell b).members = [])
    (hr : ∀ b c, t.registry.cell b = .ready c → ∃ n, t.opened[c]? = some ⟨b, n⟩)
    (ho : ∀ c o, t.opened[c]? = some o → t.registry.cell o.backend = .ready c) : t.Orderly where
  member_iff p b := by simp [hm, hp, Place.cell?]
  nodup b := by
    rw [hm]
    exact List.nodup_nil
  holder_of_opening p b h := by
    rw [hp] at h
    cases h
  opened_of_ready := hr
  ready_of_opened := ho

/-- A process goes from one place to another, and its membership goes with it. -/
theorem move {r : Registry} {pl : Place} (h : t.Orderly)
    (hr : ∀ b, r.cell b = t.registry.cell b)
    (hm : ∀ b, (t.registry.cell b).isReady = false → ((t.place p).cell? = some b ↔ pl.cell? = some b))
    (ho : ∀ b, pl = .opening b → (t.registry.cell b).holder? = some p) :
    Orderly { t with registry := r, place := update t.place p pl } where
  member_iff q b := by
    simp only [hr]
    rw [h.member_iff q b]
    by_cases hq : q = p
    · subst hq
      rw [Function.update_self]
      constructor
      · rintro ⟨h₁, h₂⟩
        exact ⟨(hm b h₂).mp h₁, h₂⟩
      · rintro ⟨h₁, h₂⟩
        exact ⟨(hm b h₂).mpr h₁, h₂⟩
    · rw [Function.update_of_ne hq]
  nodup b := by
    simp only [hr]
    exact h.nodup b
  holder_of_opening q b hq := by
    simp only [hr]
    simp only at hq
    by_cases hqp : q = p
    · subst hqp
      rw [Function.update_self] at hq
      exact ho b hq
    · rw [Function.update_of_ne hqp] at hq
      exact h.holder_of_opening q b hq
  opened_of_ready b c hc := by
    simp only [hr] at hc
    exact h.opened_of_ready b c hc
  ready_of_opened c o hc := by
    simp only [hr]
    exact h.ready_of_opened c o hc

theorem wander {r : Registry} {pl : Place} (h : t.Orderly)
    (hr : ∀ b, r.cell b = t.registry.cell b)
    (hp : ∀ b, (t.registry.cell b).isReady = false → (t.place p).cell? ≠ some b)
    (hpl : pl.cell? = none) : Orderly { t with registry := r, place := update t.place p pl } := by
  refine h.move hr (fun b hb => ?_) (fun b hb => ?_)
  · rw [hpl]
    exact ⟨fun he => absurd he (hp b hb), nofun⟩
  · rw [hb] at hpl
    cases hpl

theorem change {r : Registry} {b : String} {cell : Cell} {pl : Place} (h : t.Orderly)
    (hr : ∀ b', r.cell b' = if b = b' then cell else t.registry.cell b')
    (hn : (t.registry.cell b).isReady = false) (hc : cell.isReady = false)
    (hp : (t.place p).cell? = none ∨ (t.place p).cell? = some b)
    (hpl : pl.cell? = none ∨ pl.cell? = some b) (ho : ∀ b', pl ≠ .opening b')
    (hd : cell.members.Nodup) (hm : p ∈ cell.members ↔ pl.cell? = some b)
    (hq : ∀ q ≠ p, q ∈ cell.members ↔ q ∈ (t.registry.cell b).members)
    (hh : ∀ q ≠ p, (t.registry.cell b).holder? = some q → cell.holder? = some q) :
    Orderly { t with registry := r, place := update t.place p pl } where
  member_iff q b' := by
    simp only [hr]
    by_cases hb : b = b'
    · subst hb
      rw [if_pos rfl]
      by_cases hqp : q = p
      · subst hqp
        rw [Function.update_self, hm]
        simp [hc]
      · rw [Function.update_of_ne hqp, hq q hqp, h.member_iff q b, hn, hc]
    · rw [if_neg hb, h.member_iff q b']
      by_cases hqp : q = p
      · subst hqp
        rw [Function.update_self]
        have hne : ∀ {x : Option String}, x = none ∨ x = some b → x ≠ some b' := by
          rintro x (rfl | rfl) he
          · cases he
          · exact hb (Option.some.inj he)
        simp [hne hp, hne hpl]
      · rw [Function.update_of_ne hqp]
  nodup b' := by
    simp only [hr]
    split
    · exact hd
    · exact h.nodup b'
  holder_of_opening q b' hqb := by
    simp only [hr]
    simp only at hqb
    by_cases hqp : q = p
    · subst hqp
      rw [Function.update_self] at hqb
      exact absurd hqb (ho b')
    · rw [Function.update_of_ne hqp] at hqb
      split
      · rename_i hb
        subst hb
        exact hh q hqp (h.holder_of_opening q b hqb)
      · exact h.holder_of_opening q b' hqb
  opened_of_ready b' c hb := by
    simp only [hr] at hb
    split at hb
    · rw [hb] at hc
      cases hc
    · exact h.opened_of_ready b' c hb
  ready_of_opened c o hc' := by
    simp only [hr]
    have ho := h.ready_of_opened c o hc'
    split
    · rename_i hb
      rw [hb, ho] at hn
      cases hn
    · exact ho

theorem approach {b : String} {pl : Place} (h : t.Orderly)
    (hn : (t.registry.cell b).isReady = false) (hp : (t.place p).cell? = none)
    (hpl : pl.cell? = some b) (ho : ∀ b', pl ≠ .opening b') :
    Orderly { t with registry := t.registry.approach b p, place := update t.place p pl } := by
  have hmem := Cell.members_approach p hn
  have hnot : p ∉ (t.registry.cell b).members := by
    rw [h.member_iff, hp]
    simp
  refine h.change (t.registry.cell_approach b · p) hn ?_ (.inl hp) (.inr hpl) ho ?_ ?_ ?_ ?_
  · rw [Cell.isReady_approach, hn]
  · rw [hmem, List.nodup_append]
    exact ⟨h.nodup b, by simp, fun q hq p' hp' he => hnot (by simp_all)⟩
  · simp [hmem, hpl]
  · intro q hq
    simp [hmem, hq]
  · intro q hq hh
    rw [Cell.holder?_eq] at hh ⊢
    rw [hmem]
    cases hl : (t.registry.cell b).members with
    | nil => simp [hl] at hh
    | cons q' l => simpa [hl] using hh

theorem pass {b : String} {pl : Place} (h : t.Orderly)
    (hh : (t.registry.cell b).holder? = some p) (hpl : pl.cell? = none) :
    Orderly
      { t with
        registry := (t.registry.change b Cell.pass).1
        place := update t.place p pl } := by
  obtain ⟨queue, hq⟩ : ∃ queue, t.registry.cell b = .held p queue := by
    cases hc : t.registry.cell b with
    | free => simp [hc, Cell.holder?] at hh
    | ready c => simp [hc, Cell.holder?] at hh
    | held holder queue =>
      simp only [hc, Cell.holder?, Option.some.injEq] at hh
      exact ⟨queue, by rw [hh]⟩
  have hn : (t.registry.cell b).isReady = false := by rw [hq]; rfl
  have hmem : (t.registry.cell b).members = p :: queue := by rw [hq]; rfl
  have hd := h.nodup b
  have hp : (t.place p).cell? = some b := ((h.member_iff p b).mp (by simp [hmem])).1
  have hpass : (t.registry.cell b).pass.1.members = queue := by rw [Cell.members_pass, hmem]; rfl
  rw [hmem, List.nodup_cons] at hd
  refine h.change (t.registry.cell_change b · Cell.pass) hn ?_ (.inr hp) (.inl hpl) ?_ ?_ ?_ ?_ ?_
  · rw [Cell.isReady_pass, hn]
  · rintro b' rfl
    cases hpl
  · rw [hpass]
    exact hd.2
  · rw [hpass, hpl]
    simp [hd.1]
  · intro q hqp
    rw [hpass, hmem]
    simp [hqp]
  · intro q hqp hq'
    rw [hh] at hq'
    exact absurd (Option.some.inj hq').symm hqp

theorem fill {b : String} {n : Nat} (h : t.Orderly) (hp : t.place p = .opening b) :
    Orderly
      { registry := (t.registry.change b (Cell.fill t.opened.length)).1
        opened := t.opened ++ [⟨b, n⟩]
        place := update t.place p .away } := by
  have hh := h.holder_of_opening p b hp
  have hcell : ∀ b', (t.registry.change b (Cell.fill t.opened.length)).1.cell b' =
      if b = b' then .ready t.opened.length else t.registry.cell b' := by
    intro b'
    rw [Registry.cell_change, Cell.fill_of_holder _ hh]
  have hn : (t.registry.cell b).isReady = false := by
    cases hc : t.registry.cell b with
    | free => rfl
    | held holder queue => rfl
    | ready c => simp [hc, Cell.holder?] at hh
  constructor
  · intro q b'
    simp only [hcell]
    by_cases hb : b = b'
    · subst hb
      simp [Cell.members, Cell.isReady]
    · rw [if_neg hb, h.member_iff q b']
      by_cases hqp : q = p
      · subst hqp
        rw [Function.update_self, hp]
        simp [Place.cell?, hb]
      · rw [Function.update_of_ne hqp]
  · intro b'
    simp only [hcell]
    split
    · simp [Cell.members]
    · exact h.nodup b'
  · intro q b' hq
    have hqp : q ≠ p := by
      rintro rfl
      simp at hq
    simp only [Function.update_of_ne hqp] at hq
    have hq' := h.holder_of_opening q b' hq
    have hb : b ≠ b' := by
      rintro rfl
      rw [hh] at hq'
      exact hqp (Option.some.inj hq').symm
    simp only [hcell, if_neg hb]
    exact hq'
  · intro b' c hc
    simp only [hcell] at hc
    split at hc
    · rename_i hb
      cases hc
      exact ⟨n, by simp [hb]⟩
    · obtain ⟨n', hn'⟩ := h.opened_of_ready b' c hc
      have hlt := (List.getElem?_eq_some_iff.mp hn').1
      exact ⟨n', by simpa [List.getElem?_append_left hlt] using hn'⟩
  · intro c o hc
    simp only [hcell]
    rw [List.getElem?_append] at hc
    split at hc
    · have ho := h.ready_of_opened c o hc
      have hb : b ≠ o.backend := by
        rintro rfl
        rw [ho] at hn
        cases hn
      rw [if_neg hb]
      exact ho
    · rename_i hlt
      rw [List.getElem?_singleton] at hc
      split at hc
      · cases hc
        rw [if_pos rfl]
        congr 1
        omega
      · cases hc

theorem leave (h : t.Orderly) :
    Orderly
      { t with
        registry := t.registry.leave p (t.place p).cell?
        place := update t.place p .away } := by
  cases hc : (t.place p).cell? with
  | none =>
    refine h.wander (fun b => rfl) (fun b _ => ?_) rfl
    rw [hc]
    rintro ⟨⟩
  | some b =>
    by_cases hn : (t.registry.cell b).isReady = true
    · refine h.wander (fun b' => ?_) (fun b' hb' he => ?_) rfl
      · simp only [Registry.leave, Registry.cell_change]
        split
        · rename_i hb
          subst hb
          cases hb : t.registry.cell b with
          | free => rfl
          | ready c => rfl
          | held holder queue => simp [hb, Cell.isReady] at hn
        · rfl
      · rw [hc] at he
        cases he
        rw [hn] at hb'
        cases hb'
    · have hn' : (t.registry.cell b).isReady = false := Bool.eq_false_iff.mpr hn
      have hmem := Cell.members_leave _ p (h.nodup b)
      have haway : ∀ b', Place.away ≠ .opening b' := by rintro b' ⟨⟩
      refine h.change (t.registry.cell_change b · (Cell.leave p)) hn' ?_ (.inr hc) (.inl rfl) haway
        ?_ ?_ ?_ ?_
      · rw [Cell.isReady_leave, hn']
      · rw [hmem]
        exact (h.nodup b).filter _
      · simp [hmem, Place.cell?]
      · intro q hq
        simp [hmem, hq]
      · intro q hq hh
        rw [Cell.holder?_eq] at hh ⊢
        rw [hmem]
        cases hl : (t.registry.cell b).members with
        | nil => simp [hl] at hh
        | cons q' l =>
          simp only [hl, List.head?_cons, Option.some.injEq] at hh
          simp [hh, hq]

theorem step {released : Option Nat} (h : t.Orderly) (hs : Step t p released t') : t'.Orderly := by
  have hready : ∀ {b : String} {c : Nat}, t.registry.cell b = .ready c →
      (t.place p).cell? = some b →
      ∀ b', (t.registry.cell b').isReady = false → (t.place p).cell? ≠ some b' := by
    intro b c hc hp b' hb' he
    rw [hp] at he
    cases he
    rw [hc] at hb'
    cases hb'
  have hnone : (t.place p).cell? = none →
      ∀ b', (t.registry.cell b').isReady = false → (t.place p).cell? ≠ some b' := by
    intro hp b' _ he
    rw [hp] at he
    cases he
  cases hs with
  | stay => exact h
  | enter hp hr => exact h.wander (Registry.cell_admit? hr) (hnone (by rw [hp]; rfl)) rfl
  | take hp hc =>
    refine h.wander (fun _ => rfl) ?_ rfl
    rcases hp with hp | hp
    · exact hnone (by rw [hp]; rfl)
    · exact hready hc (by rw [hp]; rfl)
  | approach hp hc => exact h.approach hc (by rw [hp]; rfl) rfl nofun
  | begin hp hh =>
    refine h.move (fun _ => rfl) (fun b' _ => by rw [hp]; rfl) ?_
    rintro b' hb'
    cases hb'
    exact hh
  | fail hp =>
    rcases hp with ⟨-, hh⟩ | hp
    · exact h.pass hh rfl
    · exact h.pass (h.holder_of_opening p _ hp) rfl
  | fill hp => exact h.fill hp
  | drain hp => exact h.wander (fun _ => rfl) (hnone (by rw [hp]; rfl)) rfl
  | visitReady hp hi hc => exact h.wander (fun _ => rfl) (hnone (by rw [hp]; rfl)) rfl
  | visitFree hp hi hc => exact h.wander (fun _ => rfl) (hnone (by rw [hp]; rfl)) rfl
  | visitHeld hp hi hc =>
    have hn := Bool.eq_false_iff.mpr fun hn => hc (Cell.members_of_isReady hn)
    exact h.approach hn (by rw [hp]; rfl) rfl nofun
  | depart hp => exact h.wander (fun _ => rfl) (hnone (by rw [hp]; rfl)) rfl
  | lingerReady hp hc => exact h.wander (fun _ => rfl) (hready hc (by rw [hp]; rfl)) rfl
  | lingerPass hp hh => exact h.pass hh rfl
  | leave => exact h.leave

theorem backends_nodup (h : t.Orderly) : (t.opened.map (·.backend)).Nodup := by
  rw [List.Nodup, List.pairwise_iff_getElem]
  intro i k hi hk hik he
  rw [List.length_map] at hi hk
  rw [List.getElem_map, List.getElem_map] at he
  have hri := h.ready_of_opened i _ (List.getElem?_eq_getElem hi)
  have hrk := h.ready_of_opened k _ (List.getElem?_eq_getElem hk)
  rw [he, hrk] at hri
  have := Cell.ready.inj hri
  omega

/-- As long as the registry is not closed, it holds exactly what was opened. -/
theorem size_eq (h : t.Orderly) :
    t.registry.size = if t.registry.closed then 0 else t.opened.length := by
  unfold Registry.size
  split
  · rfl
  · have hmem : ∀ b c, (b, Cell.ready c) ∈ t.registry.cells.pairs ↔ t.registry.cell b = .ready c := by
      intro b c
      rw [Assoc.mem_pairs, Registry.cell]
      cases t.registry.cells.get? b with
      | none => simp
      | some cell => simp
    have hnodup : (t.registry.cells.pairs.filterMap fun e => e.2.connection?).Nodup := by
      rw [List.Nodup, List.pairwise_filterMap]
      refine (List.pairwise_map.mp t.registry.cells.keys_nodup).imp_of_mem ?_
      rintro ⟨b, cell⟩ ⟨b', cell'⟩ hb hb' hne c hc c' hc' rfl
      cases Cell.connection?_eq_some.mp hc
      cases Cell.connection?_eq_some.mp hc'
      obtain ⟨n, hn⟩ := h.opened_of_ready b c ((hmem b c).mp hb)
      obtain ⟨n', hn'⟩ := h.opened_of_ready b' c ((hmem b' c).mp hb')
      rw [hn] at hn'
      cases hn'
      exact hne rfl
    have hperm : (t.registry.cells.pairs.filterMap fun e => e.2.connection?).Perm
        (List.range t.opened.length) := by
      rw [List.perm_ext_iff_of_nodup hnodup List.nodup_range]
      intro c
      rw [List.mem_filterMap, List.mem_range]
      constructor
      · rintro ⟨⟨b, cell⟩, hb, hc⟩
        cases Cell.connection?_eq_some.mp hc
        obtain ⟨n, hn⟩ := h.opened_of_ready b c ((hmem b c).mp hb)
        exact (List.getElem?_eq_some_iff.mp hn).1
      · intro hc
        have ho := h.ready_of_opened c _ (List.getElem?_eq_getElem hc)
        exact ⟨(_, .ready c), (hmem _ c).mpr ho, rfl⟩
    have hlen := hperm.length_eq
    rw [List.length_range, List.length_filterMap_eq_countP] at hlen
    rw [← hlen, Assoc.values, List.filter_map, List.length_map, List.countP_eq_length_filter]
    congr 1
    refine List.filter_congr ?_
    rintro ⟨b, cell⟩ -
    cases cell with
    | free => rfl
    | held holder queue => rfl
    | ready c => rfl

end Orderly
end Traffic
end Resync
