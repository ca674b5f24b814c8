import Resync.Text.Blank

/-! # Trimmed texts

Blank characters around a text do not count once it is trimmed, and a text without blank characters
is trimmed already.
-/
namespace Resync.Text

variable {before cs after : List Char}

theorem dropBlank_append (h : ∀ c ∈ before, isBlank c = true) (cs : List Char) :
    dropBlank (before ++ cs) = dropBlank cs :=
  List.dropWhile_append_of_pos h

theorem dropBlank_of_forall (h : ∀ c ∈ cs, isBlank c = false) : dropBlank cs = cs := by
  cases cs with
  | nil => rfl
  | cons c cs =>
    have hc := h c List.mem_cons_self
    rw [dropBlank, List.dropWhile_cons_of_neg (by simp [hc])]

theorem trimBlank_of_forall (h : ∀ c ∈ cs, isBlank c = false) : trimBlank cs = cs := by
  have hreverse : ∀ c ∈ cs.reverse, isBlank c = false := fun c hc => h c (List.mem_reverse.mp hc)
  rw [trimBlank, dropBlank_of_forall h, dropBlank_of_forall hreverse, List.reverse_reverse]

theorem trimBlank_surround (hb : ∀ c ∈ before, isBlank c = true) (ha : ∀ c ∈ after, isBlank c = true) :
    trimBlank (before ++ cs ++ after) = trimBlank cs := by
  have hreverse : ∀ c ∈ after.reverse, isBlank c = true := fun c hc => ha c (List.mem_reverse.mp hc)
  have hafter : dropBlank after = [] := by
    have hnil := dropBlank_append ha []
    rwa [List.append_nil] at hnil
  unfold trimBlank
  rw [List.append_assoc, dropBlank_append hb]
  have hdrop : dropBlank (cs ++ after) =
      if (dropBlank cs).isEmpty = true then dropBlank after else dropBlank cs ++ after :=
    List.dropWhile_append
  rw [hdrop]
  split
  · rename_i hempty
    rw [hafter, List.isEmpty_iff.mp hempty]
  · rw [List.reverse_append, dropBlank_append hreverse]

end Resync.Text
