import Resync.Pattern.Basic
import Resync.Pattern.ClassRun
import Resync.Proofs.Text.Scan

/-! # Reading a class that is spelled out

Whatever characters are put into a class as literals, the reader takes each of them for itself: none
begins a range, a complement, a set, another class or an operator, and none ends the class.
-/
namespace Resync.Pattern

open Scan

variable {c d low high : Char} {rest : List Char} {fuel : Nat} {s : Members}

theorem literal_of_mem (h : c ∈ metaCharacters) : literal c = ['\\', c] :=
  if_pos (List.contains_iff_mem.mpr h)

theorem literal_of_not_mem (h : c ∉ metaCharacters) : literal c = [c] :=
  if_neg fun hc => h (List.contains_iff_mem.mp hc)

theorem standsForItself_of_mem (h : c ∈ metaCharacters) : standsForItself c = true := by
  have hall : metaCharacters.all standsForItself = true := by decide
  exact List.all_eq_true.mp hall c h

/-- A literal does not begin with a character that means something, but for the backslash. -/
theorem char_literal (hd : d ∈ metaCharacters) (hne : d ≠ '\\') (c : Char) (rest : List Char) :
    char d (literal c ++ rest) = none := by
  by_cases hc : c ∈ metaCharacters
  · rw [literal_of_mem hc, List.cons_append, char_cons, if_neg (Ne.symm hne)]
  · have hcd : c ≠ d := by
      rintro rfl
      exact hc hd
    rw [literal_of_not_mem hc, List.singleton_append, char_cons, if_neg hcd]

theorem escape_of_mem (hc : c ∈ metaCharacters) (rest : List Char) : escape {} (c :: rest) = some (.char c, rest) := by
  unfold escape
  rw [bind_apply, satisfy_cons, if_pos rfl, Option.bind_some]
  simp only [standsForItself_of_mem hc, if_true]
  rfl

theorem member_of_not_mem (hc : c ∉ metaCharacters) (rest : List Char) : member {} (c :: rest) = some (.char c, rest) := by
  unfold member
  rw [bind_apply, satisfy_cons, if_pos rfl, Option.bind_some]
  simp only
  split
  · exact absurd (by decide) hc
  · rfl

theorem member_literal (c : Char) (rest : List Char) : member {} (literal c ++ rest) = some (.char c, rest) := by
  by_cases hc : c ∈ metaCharacters
  · rw [literal_of_mem hc]
    change ((escape {} (c :: rest)).bind _) = _
    rw [escape_of_mem hc]
    rfl
  · rw [literal_of_not_mem hc]
    exact member_of_not_mem hc rest

theorem rangeSign_of_char (h : char '-' rest = none) : rangeSign {} rest = none := by
  unfold rangeSign
  rw [bind_apply, h, Option.bind_none]

theorem memberOrRange_literal (c : Char) (h : char '-' rest = none) :
    memberOrRange {} (literal c ++ rest) = some (some (c, c), rest) := by
  unfold memberOrRange
  rw [bind_apply, member_literal, Option.bind_some]
  change (maybe (rangeSign {}) rest).bind _ = _
  rw [maybe_apply, rangeSign_of_char h]
  rfl

theorem memberOrRange_range (hlow : low ∉ metaCharacters) (hhigh : high ∉ metaCharacters) (hle : low ≤ high)
    (rest : List Char) : memberOrRange {} (low :: '-' :: high :: rest) = some (some (low, high), rest) := by
  have hsign : rangeSign {} ('-' :: high :: rest) = some ((), high :: rest) := by
    unfold rangeSign
    rw [bind_apply, char_cons, if_pos rfl, Option.bind_some, bind_apply, get_apply, Option.bind_some]
    have hbehind : behindHyphen {} (high :: rest) = some high := rfl
    revert hbehind
    generalize behindHyphen {} (high :: rest) = next
    intro hbehind
    split
    · cases hbehind
    · cases hbehind
      exact absurd (by decide) hhigh
    · cases hbehind
      exact absurd (by decide) hhigh
    · rfl
  unfold memberOrRange
  rw [bind_apply, member_of_not_mem hlow, Option.bind_some]
  change (maybe (rangeSign {}) ('-' :: high :: rest)).bind _ = _
  rw [maybe_apply, hsign]
  change (member {} (high :: rest)).bind _ = _
  rw [member_of_not_mem hhigh, Option.bind_some]
  simp only [hle, if_true]
  rfl

theorem operator_literal (c : Char) (rest : List Char) : operator (literal c ++ rest) = none := by
  have hword : ∀ d ∈ metaCharacters, d ≠ '\\' → word [d, d] (literal c ++ rest) = none := by
    intro d hd hne
    change (char d (literal c ++ rest)).bind _ = _
    rw [char_literal hd hne, Option.bind_none]
  unfold operator
  rw [orElse_apply, orElse_apply, hword '&' (by decide) (by decide), hword '-' (by decide) (by decide),
    hword '~' (by decide) (by decide)]
  rfl

/-- What neither ends the class nor begins another one nor is an operator is a member. -/
theorem classRest_member {range : Option Range} {cs : List Char} (hend : char ']' cs = none)
    (hnest : char '[' cs = none) (hop : operator cs = none) (hmember : memberOrRange {} cs = some (range, rest)) :
    classRest {} (fuel + 1) s [] cs = classRest {} fuel (s.add 0 range) [] rest := by
  rw [classRest]
  change (maybe (char ']') cs).bind _ = _
  rw [maybe_apply, hend]
  change (maybe (char '[') cs).bind _ = _
  rw [maybe_apply, hnest]
  change (maybe operator cs).bind _ = _
  rw [maybe_apply, hop]
  change (memberOrRange {} cs).bind _ = _
  rw [hmember]
  rfl

theorem classRest_end {cs : List Char} (hend : char ']' cs = some ((), rest)) :
    classRest {} (fuel + 1) s [] cs = some (s, rest) := by
  rw [classRest]
  change (maybe (char ']') cs).bind _ = _
  rw [maybe_apply, hend]
  rfl

theorem classRest_literal (c : Char) (h : char '-' rest = none) :
    classRest {} (fuel + 1) s [] (literal c ++ rest) = classRest {} fuel (s.add 0 (some (c, c))) [] rest :=
  classRest_member (char_literal (by decide) (by decide) c rest) (char_literal (by decide) (by decide) c rest)
    (operator_literal c rest) (memberOrRange_literal c h)

theorem classRest_range (hlow : low ∉ metaCharacters) (hhigh : high ∉ metaCharacters) (hle : low ≤ high) :
    classRest {} (fuel + 1) s [] (low :: '-' :: high :: rest) =
      classRest {} fuel (s.add 0 (some (low, high))) [] rest := by
  have hliteral : low :: '-' :: high :: rest = literal low ++ ('-' :: high :: rest) := by
    rw [literal_of_not_mem hlow]
    rfl
  refine classRest_member ?_ ?_ ?_ (memberOrRange_range hlow hhigh hle rest)
  · rw [hliteral]
    exact char_literal (by decide) (by decide) ..
  · rw [hliteral]
    exact char_literal (by decide) (by decide) ..
  · rw [hliteral]
    exact operator_literal ..

def Members.spelled (ranges : List Range) : Members where
  depths := List.replicate ranges.length 0
  ranges := some ranges

theorem Members.add_spelled (ranges : List Range) (range : Range) :
    (spelled ranges).add 0 (some range) = spelled (ranges ++ [range]) := by
  simp [spelled, add, List.replicate_succ]

theorem Members.depth_spelled {ranges : List Range} (h : 2 ≤ ranges.length) : (spelled ranges).depth = 1 := by
  obtain ⟨n, hn⟩ := Nat.exists_eq_add_of_le' h
  have hmax : ∀ n : Nat, (List.replicate n 0).foldl max 0 = 0 := by
    intro n
    induction n with
    | zero => rfl
    | succ n ih => exact ih
  change together (List.replicate ranges.length 0) = 1
  rw [hn]
  change 1 + (List.replicate n 0).foldl max 0 = 1
  rw [hmax]

section Literals

variable {extra : List Char} {ranges : List Range}

def single (c : Char) : Range := (c, c)

theorem char_hyphen_literals (extra rest : List Char) : char '-' (extra.flatMap literal ++ ']' :: rest) = none := by
  cases extra with
  | nil => exact char_cons ..
  | cons c extra =>
    rw [List.flatMap_cons, List.append_assoc]
    exact char_literal (by decide) (by decide) ..

theorem classRest_literals (hfuel : extra.length < fuel) :
    classRest {} fuel (.spelled ranges) [] (extra.flatMap literal ++ ']' :: rest) =
      some (.spelled (ranges ++ extra.map single), rest) := by
  induction extra generalizing fuel ranges with
  | nil =>
    obtain ⟨fuel, rfl⟩ := Nat.exists_eq_add_of_lt hfuel
    rw [List.map_nil, List.append_nil]
    exact classRest_end (char_cons ..)
  | cons c extra ih =>
    obtain ⟨n, rfl⟩ : ∃ n, fuel = n + 1 := ⟨fuel - 1, by omega⟩
    rw [List.length_cons] at hfuel
    rw [List.flatMap_cons, List.append_assoc, classRest_literal c (char_hyphen_literals extra rest),
      Members.add_spelled, ih (by omega), List.append_assoc]
    rfl

theorem length_le_literals (extra : List Char) : extra.length ≤ (extra.flatMap literal).length := by
  have hone : ∀ c, 1 ≤ (literal c).length := by
    intro c
    unfold literal
    split
    · exact Nat.le_succ 1
    · exact Nat.le_refl 1
  induction extra with
  | nil => exact Nat.le_refl 0
  | cons c extra ih =>
    have hc := hone c
    rw [List.flatMap_cons, List.length_append, List.length_cons]
    omega

def wordRanges : List Range := [('A', 'Z'), ('a', 'z'), ('0', '9'), ('_', '_')]

def wordClass (extra : List Char) : List Char :=
  'A' :: '-' :: 'Z' :: 'a' :: '-' :: 'z' :: '0' :: '-' :: '9' :: '_' :: (extra.flatMap literal ++ [']'])

/-- The class is read as what it spells out, whatever the characters are. -/
theorem bracketed_wordClass (extra rest : List Char) :
    bracketed {} (wordClass extra ++ rest) = some (.spelled (wordRanges ++ extra.map single), rest) := by
  obtain ⟨n, hn, hlt⟩ : ∃ n, (wordClass extra ++ rest).length + 1 = n + 4 ∧ extra.length < n := by
    have hextra := length_le_literals extra
    have hlength : (wordClass extra ++ rest).length = (extra.flatMap literal).length + rest.length + 11 := by
      simp only [wordClass, List.cons_append, List.length_cons, List.length_append, List.length_nil]
      omega
    exact ⟨(wordClass extra ++ rest).length - 3, by omega, by omega⟩
  have hstart : classStart {} (wordClass extra ++ rest) = some ({}, wordClass extra ++ rest) := rfl
  unfold bracketed
  rw [bind_apply, hstart, Option.bind_some, bind_apply, get_apply, Option.bind_some, hn]
  change classRest {} (n + 4) (.spelled []) [] ('A' :: '-' :: 'Z' :: 'a' :: '-' :: 'z' :: '0' :: '-' :: '9' ::
    (literal '_' ++ ((extra.flatMap literal ++ [']']) ++ rest))) = _
  rw [List.append_assoc, List.singleton_append, classRest_range (by decide) (by decide) (by decide), Members.add_spelled,
    classRest_range (by decide) (by decide) (by decide), Members.add_spelled,
    classRest_range (by decide) (by decide) (by decide), Members.add_spelled,
    classRest_literal '_' (char_hyphen_literals extra rest), Members.add_spelled]
  exact classRest_literals hlt

def wordPattern (extra : List Char) : List Char := '^' :: '[' :: (wordClass extra ++ ['+', '$'])

theorem runOf?_wordPattern (extra : List Char) : runOf? (wordPattern extra) = some (wordRanges ++ extra.map single) := by
  have hread : classRun (wordPattern extra) = some (.spelled (wordRanges ++ extra.map single), []) := by
    change (bracketed {} (wordClass extra ++ ['+', '$'])).bind _ = _
    rw [bracketed_wordClass]
    rfl
  rw [runOf?, all?, hread]
  rfl

theorem items_cons {p : Progress} (hp : p.mode = {}) (c : Char) (rest : List Char) :
    items (fuel + 1) p (c :: rest) = (item p (c :: rest)).bind fun r => items fuel r.1 r.2 := by
  rw [items, hp]
  rfl

theorem fault?_wordPattern (extra : List Char) : fault? (wordPattern extra) = none := by
  obtain ⟨n, hn⟩ : ∃ n, (wordPattern extra).length + 1 = n + 5 := by
    refine ⟨(wordPattern extra).length - 4, ?_⟩
    simp only [wordPattern, List.length_cons, List.length_append, List.length_nil]
    omega
  have hdepth : (Members.spelled (wordRanges ++ extra.map single)).depth = 1 := by
    apply Members.depth_spelled
    simp [wordRanges]
  have hclass : item (Progress.add {} 0) ('[' :: (wordClass extra ++ ['+', '$'])) =
      some ((Progress.add {} 0).add 2, ['+', '$']) := by
    change (bracketed {} (wordClass extra ++ ['+', '$'])).bind _ = _
    rw [bracketed_wordClass, Option.bind_some]
    simp only [hdepth]
    rfl
  have hread : items (n + 5) {} (wordPattern extra) =
      some ({ group := { items := [some 0, some 3, some 0] } }, []) := by
    rw [wordPattern, items_cons rfl]
    change items (n + 4) (Progress.add {} 0) ('[' :: (wordClass extra ++ ['+', '$'])) = _
    rw [items_cons rfl, hclass, Option.bind_some]
    rfl
  rw [fault?, hn, hread]
  rfl

theorem inRanges_single : inRanges (extra.map single) c = true ↔ c ∈ extra := by
  rw [inRanges, List.any_eq_true]
  constructor
  · rintro ⟨range, hrange, hc⟩
    obtain ⟨d, hd, rfl⟩ := List.mem_map.mp hrange
    rw [Bool.and_eq_true] at hc
    have heq : c = d := Char.le_antisymm (of_decide_eq_true hc.2) (of_decide_eq_true hc.1)
    rwa [heq]
  · intro hc
    refine ⟨single c, List.mem_map_of_mem hc, ?_⟩
    rw [Bool.and_eq_true]
    exact ⟨decide_eq_true (Char.le_refl c), decide_eq_true (Char.le_refl c)⟩

theorem inRanges_wordRanges : inRanges wordRanges c = true ↔ c.isAlphanum = true ∨ c = '_' := by
  have hunderscore : '_' ≤ c ∧ c ≤ '_' ↔ c = '_' :=
    ⟨fun h => Char.le_antisymm h.2 h.1, fun h => h ▸ ⟨Char.le_refl _, Char.le_refl _⟩⟩
  have hupper : c.isUpper = true ↔ 'A' ≤ c ∧ c ≤ 'Z' := decide_eq_true_iff
  have hlower : c.isLower = true ↔ 'a' ≤ c ∧ c ≤ 'z' :=
    Bool.and_eq_true_iff.trans (and_congr decide_eq_true_iff decide_eq_true_iff)
  have hdigit : c.isDigit = true ↔ '0' ≤ c ∧ c ≤ '9' :=
    Bool.and_eq_true_iff.trans (and_congr decide_eq_true_iff decide_eq_true_iff)
  have halphanum : c.isAlphanum = true ↔ (c.isUpper = true ∨ c.isLower = true) ∨ c.isDigit = true :=
    Bool.or_eq_true_iff.trans (or_congr_left Bool.or_eq_true_iff)
  rw [halphanum, hupper, hlower, hdigit, ← hunderscore]
  simp only [inRanges, wordRanges, List.any_cons, List.any_nil, Bool.or_false, Bool.or_eq_true, Bool.and_eq_true,
    decide_eq_true_eq, or_assoc]

theorem isRun_wordPattern {text : List Char} : isRun (wordPattern extra) text = true ↔
    text ≠ [] ∧ ∀ c ∈ text, c.isAlphanum = true ∨ c = '_' ∨ c ∈ extra := by
  have hin : ∀ c, inRanges (wordRanges ++ extra.map single) c = true ↔ c.isAlphanum = true ∨ c = '_' ∨ c ∈ extra := by
    intro c
    rw [← inRanges_single, ← or_assoc, ← inRanges_wordRanges, ← Bool.or_eq_true, inRanges, List.any_append]
    rfl
  rw [isRun, runOf?_wordPattern, Option.any_some, Bool.and_eq_true, List.all_eq_true]
  simp only [hin, Bool.not_eq_true', List.isEmpty_eq_false_iff]

end Literals

end Resync.Pattern
