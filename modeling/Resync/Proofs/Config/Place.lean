import Mathlib.Data.List.Induction
import Resync.Config.Search

/-! # Places by their paths

A place in a tree is reached from the top if there is a directory at every step of the way. Then the path
that is written from the names of the place leads there, wherever it is taken from.
-/
namespace Resync

def IsName (name : String) : Prop :=
  name ≠ "" ∧ name ≠ "." ∧ name ≠ ".." ∧ '/' ∉ name.toList ∧ '\x00' ∉ name.toList

instance (name : String) : Decidable (IsName name) := inferInstanceAs (Decidable (_ ∧ _))

theorem isName_configName : IsName configName := by decide

theorem Host.mem_upwards {directory place : List String} :
    place ∈ Host.upwards directory ↔ place <+: directory := by
  rw [Host.upwards, List.mem_map]
  constructor
  · rintro ⟨n, -, rfl⟩
    exact List.take_prefix n directory
  · intro h
    refine ⟨place.length, ?_, (List.prefix_iff_eq_take.mp h).symm⟩
    rw [List.mem_reverse, List.mem_range]
    exact Nat.lt_succ_of_le h.length_le

theorem mem_of_mem_intercalate {α : Type} {a : α} {sep : List α} {parts : List (List α)}
    (h : a ∈ sep.intercalate parts) : a ∈ sep ∨ ∃ part ∈ parts, a ∈ part := by
  induction parts with
  | nil => cases h
  | cons part parts ih =>
    cases parts with
    | nil =>
      rw [List.intercalate_singleton] at h
      exact .inr ⟨part, List.mem_cons_self, h⟩
    | cons next parts =>
      rw [List.intercalate_cons_cons, List.mem_append, List.mem_append] at h
      rcases h with (h | h) | h
      · exact .inr ⟨part, List.mem_cons_self, h⟩
      · exact .inl h
      · exact (ih h).imp_right fun ⟨other, hother, hmem⟩ => ⟨other, List.mem_cons_of_mem _ hother, hmem⟩

section Text

variable {names : List String} (hne : names ≠ []) (h : ∀ name ∈ names, IsName name)
include hne

/-- The slash in front stands behind an empty name. -/
theorem toList_text : (FilePath.found names).text.toList = ['/'].intercalate ([] :: names.map String.toList) := by
  obtain ⟨first, rest, rfl⟩ := List.exists_cons_of_ne_nil hne
  rw [FilePath.text, String.toList_append, String.toList_intercalate, List.map_cons, List.intercalate_cons_cons,
    List.nil_append]
  rfl

include h

theorem pathNames_text : pathNames (FilePath.found names).text = "" :: names := by
  have hslash : ∀ part ∈ [] :: names.map String.toList, '/' ∉ part := by
    intro part hpart
    rcases List.mem_cons.mp hpart with rfl | hpart
    · exact List.not_mem_nil
    · obtain ⟨name, hname, rfl⟩ := List.mem_map.mp hpart
      exact (h name hname).2.2.2.1
  rw [pathNames, toList_text hne, List.splitOn_intercalate _ hslash (List.cons_ne_nil _ _), List.map_cons,
    List.map_map]
  congr 1
  exact (List.map_congr_left fun _ _ => String.ofList_toList).trans (List.map_id _)

theorem contains_zero_text : (FilePath.found names).text.toList.contains '\x00' = false := by
  rw [List.contains_eq_mem, decide_eq_false_iff_not, toList_text hne]
  intro hzero
  rcases mem_of_mem_intercalate hzero with hzero | ⟨part, hpart, hzero⟩
  · exact absurd (List.mem_singleton.mp hzero) (by decide)
  · rcases List.mem_cons.mp hpart with rfl | hpart
    · cases hzero
    · obtain ⟨name, hname, rfl⟩ := List.mem_map.mp hpart
      exact (h name hname).2.2.2.2 hzero

end Text

def textSize : List String → Nat
  | [] => 0
  | name :: names => name.utf8ByteSize + 1 + textSize names

theorem textSize_append (names rest : List String) : textSize (names ++ rest) = textSize names + textSize rest := by
  induction names with
  | nil => simp [textSize]
  | cons name names ih =>
    simp only [List.cons_append, textSize, ih]
    omega

theorem utf8ByteSize_intercalate (name : String) (names : List String) :
    ("/".intercalate (name :: names)).utf8ByteSize = name.utf8ByteSize + textSize names := by
  have hslash : "/".utf8ByteSize = 1 := by decide
  induction names generalizing name with
  | nil => simp [textSize]
  | cons next names ih =>
    rw [String.intercalate_cons_cons, String.utf8ByteSize_append, String.utf8ByteSize_append, ih, textSize]
    omega

theorem utf8ByteSize_text {names : List String} (hne : names ≠ []) :
    (FilePath.found names).text.utf8ByteSize = textSize names := by
  have hslash : "/".utf8ByteSize = 1 := by decide
  obtain ⟨first, rest, rfl⟩ := List.exists_cons_of_ne_nil hne
  rw [FilePath.text, String.utf8ByteSize_append, utf8ByteSize_intercalate, textSize]
  omega

theorem front_text (names : List String) : (FilePath.found names).text.front = '/' := by
  rw [FilePath.text, String.front_eq, String.front?_eq, String.toList_append]
  rfl

theorem isEmpty_text (names : List String) : (FilePath.found names).text.isEmpty = false := by
  rw [String.isEmpty_eq_false_iff, FilePath.text, ne_eq, ← String.toList_inj, String.toList_append]
  exact List.cons_ne_nil _ _

namespace FileTree

variable {t : FileTree} {directory place : List String} {name : String}

/-- There is a directory at the place and at every place on the way to it. -/
structure HasDirectory (t : FileTree) (place : List String) : Prop where
  names : ∀ name ∈ place, IsName name
  directories : ∀ above ∈ Host.upwards place, t.entry? above = some .directory

theorem HasDirectory.of_above {above : List String} (h : t.HasDirectory directory) (habove : above <+: directory) :
    t.HasDirectory above :=
  ⟨fun name hname => h.names name (habove.subset hname), fun place hplace =>
    h.directories place (Host.mem_upwards.mpr ((Host.mem_upwards.mp hplace).trans habove))⟩

theorem walk_of_isName (hplace : t.entry? place = some .directory) (hname : IsName name) :
    t.walk place name = some (place ++ [name]) := by
  obtain ⟨hempty, hhere, habove, -⟩ := hname
  rw [walk, if_pos hplace, stepFrom, if_neg (not_or.mpr ⟨hempty, hhere⟩), if_neg habove]

theorem foldlM_walk (hdirectories : ∀ above, above <+: directory → t.entry? above = some .directory)
    (hnames : ∀ name ∈ directory, IsName name) : directory.foldlM t.walk [] = some directory := by
  induction directory using List.reverseRecOn with
  | nil => rfl
  | append_singleton front name ih =>
    have hfront : front <+: front ++ [name] := List.prefix_append front [name]
    have hwalked := ih (fun above h => hdirectories above (h.trans hfront)) fun n hn =>
      hnames n (List.mem_append_left _ hn)
    have hname : IsName name := hnames name (List.mem_append_right _ List.mem_cons_self)
    rw [List.foldlM_append, hwalked]
    exact (bind_pure _).trans (walk_of_isName (hdirectories front hfront) hname)

/-- From anywhere the path of an entry leads to the entry, unless it is too long to lead anywhere. -/
theorem HasDirectory.resolve?_text (h : t.HasDirectory directory) (hname : IsName name) (start : List String) :
    t.resolve? start (FilePath.found (directory ++ [name])).text =
      if (FilePath.found (directory ++ [name])).fits then some (directory ++ [name]) else none := by
  have hnames : ∀ n ∈ directory ++ [name], IsName n := by
    intro n hn
    rcases List.mem_append.mp hn with hn | hn
    · exact h.names n hn
    · rwa [List.mem_singleton.mp hn]
  have hdirectories : ∀ above, above <+: directory → t.entry? above = some .directory :=
    fun above habove => h.directories above (Host.mem_upwards.mpr habove)
  have hne : directory ++ [name] ≠ [] := List.append_ne_nil_of_right_ne_nil _ (List.cons_ne_nil _ _)
  have htop : t.walk [] "" = some [] := rfl
  have hlast : t.walk directory name = some (directory ++ [name]) :=
    walk_of_isName (hdirectories directory List.prefix_rfl) hname
  have hwalk : (pathNames (FilePath.found (directory ++ [name])).text).foldlM t.walk [] =
      some (directory ++ [name]) := by
    rw [pathNames_text hne hnames, List.foldlM_cons, htop, Option.bind_eq_bind, Option.bind_some,
      List.foldlM_append, foldlM_walk hdirectories h.names]
    exact (bind_pure _).trans hlast
  rw [resolve?, isEmpty_text, contains_zero_text hne hnames, Bool.false_or, Bool.or_false, if_pos (front_text _),
    hwalk, FilePath.fits]
  by_cases hlimit : (FilePath.found (directory ++ [name])).text.utf8ByteSize ≤ pathLimit
  · rw [decide_eq_true hlimit, decide_eq_false (Nat.not_lt.mpr hlimit)]
    rfl
  · rw [decide_eq_false hlimit, decide_eq_true (Nat.not_le.mp hlimit)]
    rfl

end FileTree
end Resync
