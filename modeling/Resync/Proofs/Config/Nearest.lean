import Mathlib.Logic.Function.Iterate
import Resync.Proofs.Config.Place

/-! # The nearest configuration

The search looks into the working directory and then into one directory above after the other, so it ends
at the top at the latest. It takes the deepest configuration on the way, and what is read from there is all
that counts: no other configuration is looked at instead, nor does any other change the outcome.
-/
namespace Resync

def configPath (directory : List String) : FilePath := .found (directory ++ [configName])

theorem fits_of_above {above directory : List String} (h : above <+: directory)
    (hfits : (configPath directory).fits = true) : (configPath above).fits = true := by
  have hname : ∀ place : List String, place ++ [configName] ≠ [] := fun place =>
    List.append_ne_nil_of_right_ne_nil _ (List.cons_ne_nil _ _)
  obtain ⟨rest, rfl⟩ := h
  simp only [FilePath.fits, configPath, decide_eq_true_eq, utf8ByteSize_text (hname _), textSize_append] at hfits ⊢
  omega

namespace FileTree

/-- The configuration's path leads from the directory to an entry, whatever it is. -/
def hasConfig (t : FileTree) (directory : List String) : Bool :=
  (configPath directory).fits && (t.entry? (directory ++ [configName])).isSome

def nearest? (t : FileTree) (directory : List String) : Option (List String) :=
  (Host.upwards directory).find? t.hasConfig

/-- The deepest one of the directories up from `start` that have a configuration. -/
structure Nearest (t : FileTree) (start directory : List String) : Prop where
  above : directory <+: start
  has : t.hasConfig directory = true
  deepest : ∀ other, other <+: start → t.hasConfig other = true → other <+: directory

variable {t t' : FileTree} {start directory : List String}

theorem nearest?_nil (t : FileTree) : t.nearest? [] = if t.hasConfig [] then some [] else none :=
  List.find?_singleton

theorem nearest?_concat (t : FileTree) (directory : List String) (name : String) :
    t.nearest? (directory ++ [name]) =
      if t.hasConfig (directory ++ [name]) then some (directory ++ [name]) else t.nearest? directory := by
  have hrest : (List.range (directory.length + 1)).reverse.map (directory ++ [name]).take =
      Host.upwards directory := by
    apply List.map_congr_left
    intro n hn
    rw [List.mem_reverse, List.mem_range, Nat.lt_succ_iff] at hn
    exact List.take_append_of_le_length hn
  have hfirst : (directory ++ [name]).take (directory ++ [name]).length = directory ++ [name] := List.take_length
  have hupwards : Host.upwards (directory ++ [name]) = (directory ++ [name]) :: Host.upwards directory := by
    rw [Host.upwards, List.range_succ, List.reverse_concat, List.map_cons, hfirst, ← hrest, List.length_append,
      List.length_singleton]
  rw [nearest?, hupwards, List.find?_cons, nearest?]
  cases t.hasConfig (directory ++ [name]) with
  | true => rfl
  | false => rfl

theorem nearest?_eq_none_iff :
    t.nearest? start = none ↔ ∀ directory, directory <+: start → t.hasConfig directory = false := by
  rw [nearest?, List.find?_eq_none]
  simp only [Host.mem_upwards, Bool.not_eq_true]

theorem nearest_of_nearest?_eq_some (h : t.nearest? start = some directory) : t.Nearest start directory := by
  refine ⟨Host.mem_upwards.mp (List.mem_of_find?_eq_some h), List.find?_some h, fun other hother hhas => ?_⟩
  induction start using List.reverseRecOn with
  | nil =>
    rw [List.prefix_nil.mp hother]
    exact List.nil_prefix
  | append_singleton start name ih =>
    rw [nearest?_concat] at h
    split at h
    · cases h
      exact hother
    · rename_i hno
      rcases List.prefix_concat_iff.mp hother with rfl | hother
      · exact absurd hhas hno
      · exact ih h hother

theorem nearest?_eq_some_iff : t.nearest? start = some directory ↔ t.Nearest start directory := by
  refine ⟨nearest_of_nearest?_eq_some, fun h => ?_⟩
  cases hfound : t.nearest? start with
  | none =>
    have hnone := nearest?_eq_none_iff.mp hfound directory h.above
    rw [h.has] at hnone
    cases hnone
  | some found =>
    have h' := nearest_of_nearest?_eq_some hfound
    have hle : found.length ≤ directory.length := (h.deepest found h'.above h'.has).length_le
    rw [(h'.deepest directory h.above h.has).eq_of_length_le hle]

/-- What is nearest is nearest in every tree with the same entries from there down to the start. -/
theorem Nearest.of_agree (h : t.Nearest start directory)
    (hagree : ∀ other, directory <+: other → other <+: start → t'.hasConfig other = t.hasConfig other) :
    t'.Nearest start directory := by
  refine ⟨h.above, (hagree directory List.prefix_rfl h.above).trans h.has, fun other hother hhas => ?_⟩
  rcases List.prefix_or_prefix_of_prefix hother h.above with hup | hdown
  · exact hup
  · rw [hagree other hdown hother] at hhas
    exact h.deepest other hother hhas

end FileTree

inductive Search where
  | looking (directory : List String)
  | ended (result : Option FilePath)
  deriving DecidableEq, Repr

def Search.round (t : FileTree) : Search → Search
  | looking directory =>
    if t.hasConfig directory then ended (some (configPath directory))
    else if directory = [] then ended none
    else looking directory.dropLast
  | ended result => ended result

namespace Host

variable {h : Host} {directory : List String}

theorem isSome_entry?_configPath (h : Host) (directory : List String) :
    (h.entry? (configPath directory)).isSome = h.tree.hasConfig directory := by
  simp only [configPath, entry?, place?, FileTree.hasConfig]
  split
  · rename_i hfits
    rw [hfits]
    rfl
  · rename_i hfits
    rw [Bool.not_eq_true] at hfits
    rw [hfits]
    rfl

theorem findConfig?_eq (h : Host) :
    h.findConfig? = (h.tree.nearest? h.workingDirectory).map configPath := by
  have hentry : (fun path => (h.entry? path).isSome) ∘ configPath = h.tree.hasConfig :=
    funext h.isSome_entry?_configPath
  rw [findConfig?, FileTree.nearest?, ← hentry]
  exact List.find?_map

/-- The search is over when it has looked into every directory on the way to the top. -/
theorem rounds_looking (t : FileTree) {n : Nat} (hn : directory.length < n) :
    (Search.round t)^[n] (.looking directory) = .ended ((t.nearest? directory).map configPath) := by
  have hended : ∀ result n, (Search.round t)^[n] (.ended result) = .ended result :=
    fun result n => Function.iterate_fixed rfl n
  induction directory using List.reverseRecOn generalizing n with
  | nil =>
    obtain ⟨n, rfl⟩ := Nat.exists_eq_succ_of_ne_zero (Nat.ne_zero_of_lt hn)
    rw [Function.iterate_succ_apply, FileTree.nearest?_nil, Search.round, if_pos rfl]
    split
    · exact hended _ n
    · exact hended _ n
  | append_singleton directory name ih =>
    obtain ⟨n, rfl⟩ := Nat.exists_eq_succ_of_ne_zero (Nat.ne_zero_of_lt hn)
    rw [List.length_append, List.length_singleton, Nat.succ_lt_succ_iff] at hn
    rw [Function.iterate_succ_apply, FileTree.nearest?_concat, Search.round]
    split
    · exact hended _ n
    · rw [if_neg (List.append_ne_nil_of_right_ne_nil _ (List.cons_ne_nil _ _)), List.dropLast_concat]
      exact ih hn

section Reading

variable {path path' : FilePath} {e : LoadFault}

theorem message_of_loadFile (he : h.loadFile path = .error e) :
    e.message = "Failed to read config file: " ++ Text.literal path.text ∨
      e.message = "Failed to parse config file: " ++ Text.literal path.text := by
  unfold loadFile at he
  split at he
  · cases he
    exact .inl rfl
  · split at he
    · cases he
      exact .inr rfl
    · cases he

theorem message_ne_notFound (he : h.loadFile path = .error e) : e.message ≠ "hadb.toml not found" := by
  have hread : "Failed to read config file: ".toList.head? = some 'F' := by decide
  have hparse : "Failed to parse config file: ".toList.head? = some 'F' := by decide
  have hnone : "hadb.toml not found".toList.head? = some 'h' := by decide
  have hfirst : e.message.toList.head? = some 'F' := by
    rcases message_of_loadFile he with hmessage | hmessage
    · rw [hmessage, String.toList_append, List.head?_append, hread, Option.some_or]
    · rw [hmessage, String.toList_append, List.head?_append, hparse, Option.some_or]
  intro hmessage
  rw [hmessage, hnone] at hfirst
  cases hfirst

theorem loadFile_congr (htext : path.text = path'.text) (hread : h.read? path = h.read? path') :
    (h.loadFile path).mapError LoadFault.message = (h.loadFile path').mapError LoadFault.message := by
  have hunreadable : (LoadFault.unreadable path).message = (LoadFault.unreadable path').message :=
    congrArg (fun s => "Failed to read config file: " ++ Text.literal s) htext
  have hunparsable : (LoadFault.unparsable path).message = (LoadFault.unparsable path').message :=
    congrArg (fun s => "Failed to parse config file: " ++ Text.literal s) htext
  unfold loadFile
  rw [hread]
  cases h.read? path' with
  | none => exact congrArg Except.error hunreadable
  | some text =>
    simp only
    cases Settings.parse? h.environment text with
    | none => exact congrArg Except.error hunparsable
    | some s => rfl

/-- What is read at a place depends on what stands there, and not on the rest of the tree. -/
theorem loadFile_of_agree {t : FileTree} {place : List String} (hagree : t.entry? place = h.tree.entry? place) :
    ({ h with tree := t } : Host).loadFile (.found place) = h.loadFile (.found place) := by
  have hentry : Host.entry? { h with tree := t } (.found place) = h.entry? (.found place) := by
    simp only [place?, entry?]
    split
    · exact hagree
    · rfl
  unfold loadFile read?
  rw [hentry]

/-- Of a configuration's path the same is read when it is given. -/
theorem read?_given (hwd : h.tree.HasDirectory h.workingDirectory) (hd : directory <+: h.workingDirectory) :
    h.read? (.given (configPath directory).text) = h.read? (configPath directory) := by
  have hplace : h.place? (.given (configPath directory).text) = h.place? (configPath directory) :=
    (hwd.of_above hd).resolve?_text isName_configName h.workingDirectory
  unfold read? entry?
  rw [hplace]

end Reading

/-- The configuration in the directory is used, whatever else the tree has. -/
structure Uses (h : Host) (directory : List String) : Prop where
  found : h.findConfig? = some (configPath directory)
  loaded : h.load = h.loadFile (configPath directory)
  given : h.tree.HasDirectory h.workingDirectory →
    h.load.mapError LoadFault.message =
      (h.loadFile (.given (configPath directory).text)).mapError LoadFault.message
  named : ∀ e, h.load = .error e →
    e.message = "Failed to read config file: " ++ Text.literal (configPath directory).text ∨
      e.message = "Failed to parse config file: " ++ Text.literal (configPath directory).text
  /-- Only what the directories from the working directory up to this one have under the configuration's
  name bears on the outcome. -/
  alone : ∀ t : FileTree,
    (∀ other, directory <+: other → other <+: h.workingDirectory →
      t.entry? (other ++ [configName]) = h.tree.entry? (other ++ [configName])) →
    ({ h with tree := t } : Host).load = h.load

theorem findConfig?_of_nearest (hd : h.tree.Nearest h.workingDirectory directory) :
    h.findConfig? = some (configPath directory) := by
  rw [findConfig?_eq, FileTree.nearest?_eq_some_iff.mpr hd, Option.map_some]

theorem load_of_nearest (hd : h.tree.Nearest h.workingDirectory directory) :
    h.load = h.loadFile (configPath directory) := by
  rw [load, findConfig?_of_nearest hd]

theorem load_of_none (hnone : h.tree.nearest? h.workingDirectory = none) : h.load = .error .notFound := by
  rw [load, findConfig?_eq, hnone, Option.map_none]

theorem uses_nearest (hd : h.tree.Nearest h.workingDirectory directory) : h.Uses directory where
  found := findConfig?_of_nearest hd
  loaded := load_of_nearest hd
  given hwd := by
    have hgiven : (h.loadFile (.given (configPath directory).text)).mapError LoadFault.message =
        (h.loadFile (configPath directory)).mapError LoadFault.message :=
      loadFile_congr rfl (read?_given hwd hd.above)
    rw [load_of_nearest hd, hgiven]
  named e he := message_of_loadFile ((load_of_nearest hd).symm.trans he)
  alone t hagree := by
    have hd' : ({ h with tree := t } : Host).tree.Nearest h.workingDirectory directory :=
      hd.of_agree fun other hdown hother => by
        rw [FileTree.hasConfig, FileTree.hasConfig, hagree other hdown hother]
    rw [load_of_nearest hd, load_of_nearest hd', configPath]
    exact loadFile_of_agree (hagree directory List.prefix_rfl hd.above)

/-- A directory with the configuration's name stands between the working directory and a configuration that
could be read. -/
def shadowed : Host where
  tree := ⟨[(["srv", "hadb.toml"], .file "[codec]\nkind = 'base64'".toUTF8.toList),
    (["srv", "app", "hadb.toml"], .directory), (["srv", "app", "bin", "old", "hadb.toml"], .file []),
    (["srv", "web", "hadb.toml"], .file [])]⟩
  workingDirectory := ["srv", "app", "bin"]
  environment := []

end Host
end Resync
