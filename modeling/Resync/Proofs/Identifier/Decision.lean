import Resync.Proofs.Identifier.Reading
import Resync.Proofs.Text.Blank

/-! # When an identifier is quoted

The extra characters of a backend are put into the pattern of its identifiers as literals, so each of
them stands for itself there, whatever it means in patterns. With what is said about keywords this
leaves five reasons for quoting an identifier, and there are no others.
-/
namespace Resync.Identifier

theorem normalKeyword_eq_empty {word : String} : normalKeyword word = "" ↔ Text.trim word = "" := by
  refine ⟨Text.lower_eq_empty, fun h => ?_⟩
  rw [normalKeyword, h]
  rfl

def MustQuote (keywords : List String) (extra : String) (policy : CasePolicy) (name : String) : Prop :=
  name = "" ∨
  (∃ c ∈ name.toList, ¬ (c.isAlphanum = true ∨ c = '_' ∨ c ∈ extra.toList)) ∨
  Text.lower name ∈ reservedWords ∨
  (∃ word ∈ keywords, Text.trim word ≠ "" ∧ Text.lower name = Text.lower (Text.trim word)) ∨
  policy.requiresQuoting name = true

namespace Facts

variable {q extra : String} {keywords keywords' : List String} {policy : CasePolicy} {name : String} {f f' : Facts}

/-- An identifier is reserved if a standard or the backend has its lower-case form, whether or not
standard words are kept among the backend's. -/
theorem isReserved_iff : (ofReport q keywords extra policy).isReserved name = true ↔
    Text.lower name ∈ reservedWords ∨
      ∃ word ∈ keywords, Text.trim word ≠ "" ∧ Text.lower name = Text.lower (Text.trim word) := by
  have hword : isReservedWord (Text.lower name) = true ↔ Text.lower name ∈ reservedWords :=
    List.contains_iff_mem
  have hstored : Text.lower name ∈ (ofReport q keywords extra policy).keywords ↔
      (∃ word ∈ keywords, Text.trim word ≠ "" ∧ Text.lower name = Text.lower (Text.trim word)) ∧
        Text.lower name ∉ reservedWords := by
    rw [ofReport, List.mem_filter, List.mem_map, Bool.and_eq_true, decide_eq_true_iff, Bool.not_eq_true',
      ← Bool.not_eq_true, hword]
    constructor
    · rintro ⟨⟨word, hmem, hkey⟩, hne, hnot⟩
      rw [← hkey, ne_eq, normalKeyword_eq_empty] at hne
      exact ⟨⟨word, hmem, hne, hkey.symm⟩, hnot⟩
    · rintro ⟨⟨word, hmem, hne, hkey⟩, hnot⟩
      have hkey' : normalKeyword word = Text.lower name := hkey.symm
      refine ⟨⟨word, hmem, hkey'⟩, ?_, hnot⟩
      rwa [← hkey', ne_eq, normalKeyword_eq_empty]
  rw [isReserved, Bool.or_eq_true, hword, List.contains_iff_mem, hstored]
  by_cases hreserved : Text.lower name ∈ reservedWords
  · simp only [hreserved, true_or]
  · simp only [hreserved, false_or, not_false_eq_true, and_true]

theorem isReserved_unfiltered (name : String) :
    { ofReport q keywords extra policy with
      keywords := (keywords.map normalKeyword).filter (· ≠ "") }.isReserved name =
      (ofReport q keywords extra policy).isReserved name := by
  simp only [isReserved]
  cases hword : isReservedWord (Text.lower name) with
  | true => rfl
  | false =>
    rw [Bool.false_or, Bool.false_or, Bool.eq_iff_iff, List.contains_iff_mem, List.contains_iff_mem, ofReport,
      List.mem_filter, List.mem_filter, hword, Bool.not_false, Bool.and_true]

theorem isReserved_congr (q extra : String) (policy : CasePolicy) (name : String)
    (h : ∀ word, word ∈ keywords'.map Text.trim ↔ word ∈ keywords.map Text.trim) :
    (ofReport q keywords' extra policy).isReserved name = (ofReport q keywords extra policy).isReserved name := by
  have htrimmed : ∀ keywords : List String,
      (∃ word ∈ keywords, Text.trim word ≠ "" ∧ Text.lower name = Text.lower (Text.trim word)) ↔
        ∃ word ∈ keywords.map Text.trim, word ≠ "" ∧ Text.lower name = Text.lower word := by
    intro keywords
    constructor
    · rintro ⟨word, hmem, hword⟩
      exact ⟨_, List.mem_map_of_mem hmem, hword⟩
    · rintro ⟨_, hmem, hword⟩
      obtain ⟨word, hraw, rfl⟩ := List.mem_map.mp hmem
      exact ⟨word, hraw, hword⟩
  rw [Bool.eq_iff_iff, isReserved_iff, isReserved_iff, htrimmed, htrimmed]
  simp only [h]

theorem requiresQuoting_iff : (ofReport q keywords extra policy).requiresQuoting name = true ↔
    MustQuote keywords extra policy name := by
  have hplain : (!(ofReport q keywords extra policy).isPlain name) = true ↔
      name = "" ∨ ∃ c ∈ name.toList, ¬ (c.isAlphanum = true ∨ c = '_' ∨ c ∈ extra.toList) := by
    rw [Bool.not_eq_true', ← Bool.not_eq_true, isPlain_iff, Classical.not_and_iff_not_or_not, Classical.not_not,
      Classical.not_forall]
    simp only [ofReport, Classical.not_imp]
  rw [requiresQuoting, Bool.or_eq_true, Bool.or_eq_true, isReserved_iff, hplain, MustQuote]
  constructor
  · rintro (((h | h) | h | h) | h)
    · exact .inr (.inr (.inl h))
    · exact .inr (.inr (.inr (.inl h)))
    · exact .inl h
    · exact .inr (.inl h)
    · exact .inr (.inr (.inr (.inr h)))
  · rintro (h | h | h | h | h)
    · exact .inl (.inr (.inl h))
    · exact .inl (.inr (.inr h))
    · exact .inl (.inl (.inl h))
    · exact .inl (.inl (.inr h))
    · exact .inr h

theorem quote_congr (hquote : f.quoteString = f'.quoteString) (hextra : f.extra = f'.extra)
    (hpolicy : f.policy = f'.policy) (hreserved : f.isReserved name = f'.isReserved name) :
    f.quote name = f'.quote name := by
  have hquoted : f.isQuoted name = f'.isQuoted name := by rw [isQuoted, isQuoted, hquote]
  have hrequires : f.requiresQuoting name = f'.requiresQuoting name := by
    rw [requiresQuoting, requiresQuoting, isPlain, isPlain, hextra, hpolicy, hreserved]
  have hwrap : f.wrap name = f'.wrap name := by rw [wrap, wrap, hquote]
  rw [quote, quote, hquoted, hrequires, hwrap]

theorem wrap_ne (hq : ¬ f.quoteString.toList <+: name.toList) : f.wrap name ≠ name := by
  intro h
  have hquoted := isQuoted_iff.mp (f.isQuoted_wrap name)
  rw [h] at hquoted
  exact hq hquoted

/-- The pattern of a backend's identifiers can be used, and its class has the word characters and
each of the extra characters, and no others. An identifier that does not begin with the quote string
is quoted exactly if one of the five reasons holds. It does not matter whether standard words are
kept among the keywords, nor in which order, how often and between which blanks the keywords come. -/
theorem quote_decision (q extra : String) (keywords : List String) (policy : CasePolicy) :
    Pattern.fault? (namePattern extra.toList) = none ∧
    Pattern.runOf? (namePattern extra.toList) =
      some ([('A', 'Z'), ('a', 'z'), ('0', '9'), ('_', '_')] ++ extra.toList.map fun c => (c, c)) ∧
    (∀ name, q.toList <+: name.toList → (ofReport q keywords extra policy).quote name = name) ∧
    (∀ name, ¬ q.toList <+: name.toList →
      ((ofReport q keywords extra policy).quote name = q ++ name ++ q ↔ MustQuote keywords extra policy name) ∧
      (¬ MustQuote keywords extra policy name → (ofReport q keywords extra policy).quote name = name)) ∧
    (∀ name, (ofReport q keywords extra policy).isReserved name =
      { ofReport q keywords extra policy with
        keywords := (keywords.map normalKeyword).filter (· ≠ "") }.isReserved name) ∧
    ∀ keywords', (∀ word, word ∈ keywords'.map Text.trim ↔ word ∈ keywords.map Text.trim) → ∀ name,
      (ofReport q keywords' extra policy).isReserved name = (ofReport q keywords extra policy).isReserved name ∧
      (ofReport q keywords' extra policy).quote name = (ofReport q keywords extra policy).quote name := by
  refine ⟨?_, ?_, ?_, ?_, ?_, ?_⟩
  · rw [namePattern_eq]
    exact Pattern.fault?_wordPattern _
  · rw [namePattern_eq]
    exact Pattern.runOf?_wordPattern _
  · intro name hq
    have hquoted : (ofReport q keywords extra policy).isQuoted name = true := isQuoted_iff.mpr hq
    rw [quote, if_pos hquoted]
  · intro name hq
    have hquoted : ¬ (ofReport q keywords extra policy).isQuoted name = true := fun h => hq (isQuoted_iff.mp h)
    have hwrap : (ofReport q keywords extra policy).wrap name ≠ name := wrap_ne hq
    rw [quote, if_neg hquoted, ← requiresQuoting_iff]
    by_cases hr : (ofReport q keywords extra policy).requiresQuoting name = true
    · rw [if_pos hr]
      exact ⟨iff_of_true rfl hr, fun h => absurd hr h⟩
    · rw [if_neg hr]
      exact ⟨iff_of_false hwrap.symm hr, fun _ => rfl⟩
  · exact fun name => (isReserved_unfiltered name).symm
  · intro keywords' hsame name
    have hreserved := isReserved_congr q extra policy name hsame
    exact ⟨hreserved, quote_congr rfl rfl rfl hreserved⟩

/-- Put into the class as they are, the first three signs would be a range that ends the class, and
the comma would be in it. -/
theorem quote_decision_signs :
    Pattern.fault? (namePattern "+-]^&&~".toList) = none ∧
    (ofReport "\"" [" RowNum\n"] "+-]^&&~" ⟨true, true, false, false⟩).quote "a+b" = "a+b" ∧
    (ofReport "\"" [" RowNum\n"] "+-]^&&~" ⟨true, true, false, false⟩).quote "a,b" = "\"" ++ "a,b" ++ "\"" ∧
    (ofReport "\"" [" RowNum\n"] "+-]^&&~" ⟨true, true, false, false⟩).quote "ROWNUM" = "\"" ++ "ROWNUM" ++ "\"" := by
  obtain ⟨hfault, -, -, hquote, -⟩ := quote_decision "\"" "+-]^&&~" [" RowNum\n"] ⟨true, true, false, false⟩
  refine ⟨hfault, (hquote "a+b" (by decide +kernel)).2 ?_, (hquote "a,b" (by decide +kernel)).1.mpr ?_,
    (hquote "ROWNUM" (by decide +kernel)).1.mpr ?_⟩
  · rintro (h | ⟨c, hc, h⟩ | h | ⟨word, hword, -, h⟩ | h)
    · exact absurd h (by decide)
    · have hall : ("a+b".toList.all fun c => c.isAlphanum = true ∨ c = '_' ∨ c ∈ "+-]^&&~".toList) = true := by
        decide +kernel
      exact h (of_decide_eq_true (List.all_eq_true.mp hall c hc))
    · exact absurd h (by decide +kernel)
    · cases List.mem_singleton.mp hword
      exact absurd h (by decide +kernel)
    · exact absurd h (by decide)
  · exact .inr (.inl ⟨',', by decide, by decide +kernel⟩)
  · exact .inr (.inr (.inr (.inl ⟨_, List.mem_singleton.mpr rfl, by decide +kernel, by decide +kernel⟩)))

end Facts
end Resync.Identifier
