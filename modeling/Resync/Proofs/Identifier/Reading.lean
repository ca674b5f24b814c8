import Resync.Identifier.Quoting
import Resync.Proofs.Pattern.ClassRun

/-! # Reading identifiers

A backend takes what stands between two quote strings for a name as it is, and folds the case
of any other token. What quoting makes of a name is read as that name, and a name is left
without quotes only if it is a plain run of allowed characters and no reserved word.
-/
namespace Resync

theorem Text.lower_eq_empty {s : String} (h : Text.lower s = "") : s = "" := by
  have hlower : Text.lowerFrom [] s.toList = [] := by
    have := congrArg String.toList h
    rwa [Text.lower, String.toList_ofList] at this
  cases hs : s.toList with
  | nil => exact String.toList_inj.mp hs
  | cons c after =>
    rw [hs, Text.lowerFrom] at hlower
    have hc : Text.lowerAt [] c after = [] := (List.append_eq_nil_iff.mp hlower).1
    unfold Text.lowerAt at hc
    split at hc
    · cases hc
    · split at hc
      · cases hc
      · cases hc

namespace Identifier

/-- What a backend with this policy makes of the case of a token without quotes. -/
def CasePolicy.fold (p : CasePolicy) (token : String) : String :=
  if p.mixedCase then token
  else if p.storesLower then String.ofList (token.toList.map Char.toLower)
  else if p.storesUpper then String.ofList (token.toList.map Char.toUpper)
  else token

section Folding

variable {c : Char} {token : String} {p : CasePolicy}

theorem toLower_eq_self (h : c.isUpper = false) : c.toLower = c := by
  have hc : ¬ (c.val ≥ 'A'.val ∧ c.val ≤ 'Z'.val) := of_decide_eq_false h
  unfold Char.toLower
  rw [dif_neg hc]

theorem toUpper_eq_self (h : c.isLower = false) : c.toUpper = c := by
  have hc : ¬ ('a'.val ≤ c.val ∧ c.val ≤ 'z'.val) := by
    intro hc
    have hlower : c.isLower = true :=
      (Bool.and_eq_true ..).mpr ⟨decide_eq_true hc.1, decide_eq_true hc.2⟩
    rw [h] at hlower
    cases hlower
  unfold Char.toUpper
  rw [dif_neg hc]

theorem map_eq_self {f : Char → Char} (h : ∀ c ∈ token.toList, f c = c) :
    String.ofList (token.toList.map f) = token := by
  have hmap : token.toList.map f = token.toList := by
    have := List.map_congr_left h
    rwa [List.map_id'] at this
  rw [hmap, String.ofList_toList]

/-- Folding leaves alone what needs no quotes, if quotes can save a name at all. -/
theorem CasePolicy.fold_eq_self (hp : p.mixedCase = true ∨ p.mixedCaseQuoted = true)
    (h : p.requiresQuoting token = false) : p.fold token = token := by
  unfold fold
  by_cases hm : p.mixedCase = true
  · rw [if_pos hm]
  rw [if_neg hm]
  have hquoted : p.mixedCaseQuoted = true := hp.resolve_left hm
  have hcase : (p.storesLower && token.toList.any Char.isUpper) = false ∧
      (p.storesUpper && token.toList.any Char.isLower) = false := by
    simpa [requiresQuoting, hm, hquoted] using h
  by_cases hl : p.storesLower = true
  · rw [if_pos hl]
    apply map_eq_self
    intro c hc
    have hupper : token.toList.any Char.isUpper = false := by simpa [hl] using hcase.1
    exact toLower_eq_self (by simpa using List.any_eq_false.mp hupper c hc)
  rw [if_neg hl]
  by_cases hu : p.storesUpper = true
  · rw [if_pos hu]
    apply map_eq_self
    intro c hc
    have hlower : token.toList.any Char.isLower = false := by simpa [hu] using hcase.2
    exact toUpper_eq_self (by simpa using List.any_eq_false.mp hlower c hc)
  · rw [if_neg hu]

end Folding

namespace Facts

variable {f : Facts} {token body name : String}

theorem isQuoted_iff : f.isQuoted name = true ↔ f.quoteString.toList <+: name.toList :=
  List.isPrefixOf_iff_prefix

theorem isQuoted_wrap (f : Facts) (name : String) : f.isQuoted (f.wrap name) = true := by
  rw [isQuoted_iff, wrap, String.toList_append, String.toList_append, List.append_assoc]
  exact List.prefix_append _ _

def body? (f : Facts) (token : String) : Option String :=
  let q := f.quoteString.toList
  let rest := token.toList.drop q.length
  if q.isPrefixOf token.toList && q.isSuffixOf rest then
    some (String.ofList (rest.take (rest.length - q.length)))
  else none

theorem body?_eq_some_iff :
    f.body? token = some body ↔ token = f.quoteString ++ body ++ f.quoteString := by
  unfold body?
  constructor
  · intro h
    simp only at h
    split at h
    · rename_i hq
      rw [Bool.and_eq_true, List.isPrefixOf_iff_prefix, List.isSuffixOf_iff_suffix] at hq
      obtain ⟨⟨rest, hrest⟩, ⟨middle, hmiddle⟩⟩ := hq
      rw [← hrest, List.drop_left] at h hmiddle
      rw [← hmiddle] at h hrest
      have hbody : body.toList = middle := by
        rw [← Option.some.inj h, String.toList_ofList]
        simp
      apply String.toList_inj.mp
      rw [String.toList_append, String.toList_append, hbody, ← hrest, List.append_assoc]
    · cases h
  · rintro rfl
    have hdrop : (f.quoteString ++ body ++ f.quoteString).toList.drop f.quoteString.toList.length =
        body.toList ++ f.quoteString.toList := by
      rw [String.toList_append, String.toList_append, List.append_assoc, List.drop_left]
    have hprefix : f.quoteString.toList.isPrefixOf
        (f.quoteString ++ body ++ f.quoteString).toList = true := f.isQuoted_wrap body
    have hsuffix : f.quoteString.toList.isSuffixOf (body.toList ++ f.quoteString.toList) = true := by
      rw [List.isSuffixOf_iff_suffix]
      exact List.suffix_append _ _
    simp only [hdrop, hprefix, hsuffix, Bool.and_self, ↓reduceIte]
    simp

def read (f : Facts) (token : String) : String :=
  match f.body? token with
  | some body => body
  | none => f.policy.fold token

theorem read_wrap (f : Facts) (name : String) : f.read (f.wrap name) = name := by
  have hbody : f.body? (f.wrap name) = some name := body?_eq_some_iff.mpr rfl
  simp only [read, hbody]

theorem read_of_not_isQuoted (h : f.isQuoted token = false) : f.read token = f.policy.fold token := by
  have hbody : f.body? token = none := by
    rw [Option.eq_none_iff_forall_ne_some]
    intro body hb
    have hquoted : f.isQuoted (f.wrap body) = true := f.isQuoted_wrap body
    have htoken : token = f.wrap body := body?_eq_some_iff.mp hb
    rw [← htoken, h] at hquoted
    cases hquoted
  simp only [read, hbody]

/-- A name is left as it is only if it needs no quotes, unless it begins with the quote string. -/
theorem requiresQuoting_of_quote (h : f.isQuoted name = false) (hq : f.quote name = name) :
    f.requiresQuoting name = false := by
  apply Bool.eq_false_iff.mpr
  intro hr
  rw [quote, if_neg (by rw [h]; nofun), if_pos hr] at hq
  have hquoted := f.isQuoted_wrap name
  rw [hq, h] at hquoted
  cases hquoted

/-- The extra characters stand in the pattern as literals behind the word characters. -/
theorem namePattern_eq (extra : List Char) : namePattern extra = Pattern.wordPattern extra := by
  unfold namePattern Pattern.wordPattern Pattern.wordClass
  simp

theorem isPlain_iff : f.isPlain name = true ↔
    name ≠ "" ∧ ∀ c ∈ name.toList, c.isAlphanum = true ∨ c = '_' ∨ c ∈ f.extra := by
  have hempty : name.toList = [] ↔ name = "" := ⟨fun h => String.toList_inj.mp h, fun h => by rw [h]; rfl⟩
  rw [isPlain, namePattern_eq, Pattern.isRun_wordPattern, ne_eq, hempty]

theorem isReserved_ofReport {q extra : String} {keywords : List String} {policy : CasePolicy}
    (hn : name ≠ "") :
    (ofReport q keywords extra policy).isReserved name = true ↔
      Text.lower name ∈ reservedWords ++ keywords.map normalKeyword := by
  have hlower : Text.lower name ≠ "" := fun h => hn (Text.lower_eq_empty h)
  have hword : isReservedWord (Text.lower name) = true ↔ Text.lower name ∈ reservedWords :=
    List.contains_iff_mem
  have hkeyword : (ofReport q keywords extra policy).keywords.contains (Text.lower name) = true ↔
      Text.lower name ∈ keywords.map normalKeyword ∧ isReservedWord (Text.lower name) = false := by
    rw [List.contains_iff_mem, ofReport, List.mem_filter]
    simp [hlower]
  rw [isReserved, Bool.or_eq_true, hword, hkeyword, List.mem_append]
  constructor
  · rintro (h | ⟨h, -⟩)
    · exact .inl h
    · exact .inr h
  · intro h
    by_cases hr : Text.lower name ∈ reservedWords
    · exact .inl hr
    · exact .inr ⟨h.resolve_left hr, Bool.eq_false_iff.mpr fun hw => hr (hword.mp hw)⟩

/-- A backend that can keep the case of a name reads what quoting makes of the name as that name.
A name that is left without quotes has no characters but allowed ones, one at least, and is no
reserved word. -/
theorem read_quote (q extra : String) (keywords : List String) (policy : CasePolicy)
    (hp : policy.mixedCase = true ∨ policy.mixedCaseQuoted = true) (name : String)
    (hn : ¬ q.toList <+: name.toList) :
    (ofReport q keywords extra policy).read ((ofReport q keywords extra policy).quote name) = name ∧
    ((ofReport q keywords extra policy).quote name = name →
      name ≠ "" ∧ (∀ c ∈ name.toList, c.isAlphanum = true ∨ c = '_' ∨ c ∈ extra.toList) ∧
      Text.lower name ∉ reservedWords ++ keywords.map normalKeyword) := by
  have hquoted : (ofReport q keywords extra policy).isQuoted name = false :=
    Bool.eq_false_iff.mpr fun h => hn (isQuoted_iff.mp h)
  constructor
  · rw [quote, if_neg (by rw [hquoted]; nofun)]
    split
    · exact read_wrap _ name
    · rename_i hr
      rw [read_of_not_isQuoted hquoted]
      have hcase : policy.requiresQuoting name = false := by
        have := Bool.eq_false_iff.mpr hr
        rw [requiresQuoting, Bool.or_eq_false_iff] at this
        exact this.2
      exact CasePolicy.fold_eq_self hp hcase
  · intro hq
    have hr := requiresQuoting_of_quote hquoted hq
    rw [requiresQuoting, Bool.or_eq_false_iff, Bool.or_eq_false_iff] at hr
    obtain ⟨⟨hreserved, hplain⟩, -⟩ := hr
    obtain ⟨hne, hchars⟩ := isPlain_iff.mp (by simpa using hplain)
    refine ⟨hne, hchars, fun hmem => ?_⟩
    rw [(isReserved_ofReport hne).mpr hmem] at hreserved
    cases hreserved

/-- A backend's keyword is read behind its quotes, and a plain name as it stands. -/
theorem read_quote_keyword :
    (ofReport "`" [" RowNum"] "$" ⟨false, true, true, true⟩).quote "rownum" = "`rownum`" ∧
    (ofReport "`" [" RowNum"] "$" ⟨false, true, true, true⟩).read "`rownum`" = "rownum" ∧
    (ofReport "`" [" RowNum"] "$" ⟨false, true, true, false⟩).read "price$" = "price$" ∧
    Text.lower "price$" ∉ reservedWords ++ [" RowNum"].map normalKeyword := by
  have hkeyword : (ofReport "`" [" RowNum"] "$" ⟨false, true, true, true⟩).quote "rownum" = "`rownum`" := by
    decide +kernel
  have hplain : (ofReport "`" [" RowNum"] "$" ⟨false, true, true, false⟩).quote "price$" = "price$" := by
    decide +kernel
  have hread := (read_quote "`" "$" [" RowNum"] ⟨false, true, true, true⟩ (.inr rfl) "rownum" (by decide)).1
  obtain ⟨hreadPlain, hreserved⟩ :=
    read_quote "`" "$" [" RowNum"] ⟨false, true, true, false⟩ (.inr rfl) "price$" (by decide)
  rw [hkeyword] at hread
  rw [hplain] at hreadPlain
  exact ⟨hkeyword, hread, hreadPlain, (hreserved hplain).2.2⟩

end Facts
end Identifier
end Resync
