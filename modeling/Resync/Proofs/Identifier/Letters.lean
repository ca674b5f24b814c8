import Resync.Proofs.Identifier.Decision
import Resync.Proofs.Identifier.Written
import Resync.Proofs.Text.Letters

/-! # Letters that folding would change

A backend that folds what stands without quotes changes the letters of the other case. A name is quoted
for the sake of such a letter if the letter is one of ASCII. Any other letter may not stand without
quotes at all, unless the backend lists it among its extra characters; so these are the letters that are
overlooked. A name in which all are overlooked is written as if the backend did not fold.
-/
namespace Resync.Identifier

/-- The character is allowed by the backend and lies outside ASCII, where case is not looked at. -/
def Overlooked (extra : String) (c : Char) : Prop := 128 ≤ c.toNat ∧ c ∈ extra.toList

instance (extra : String) (c : Char) : Decidable (Overlooked extra c) := inferInstanceAs (Decidable (_ ∧ _))

def CasePolicy.unfolded (p : CasePolicy) : CasePolicy := { p with mixedCase := true }

section Letters

variable {p : CasePolicy} {name extra : String} {c : Char}

theorem CasePolicy.requiresQuoting_iff (hm : p.mixedCase = false) (hk : p.mixedCaseQuoted = true) :
    p.requiresQuoting name = true ↔
      (p.storesLower = true ∧ ∃ c ∈ name.toList, c.isUpper = true) ∨
        p.storesUpper = true ∧ ∃ c ∈ name.toList, c.isLower = true := by
  simp only [requiresQuoting, hm, hk, Bool.not_false, Bool.true_and, Bool.or_eq_true, Bool.and_eq_true,
    List.any_eq_true]

theorem ascii_of_isUpper (h : c.isUpper = true) : c.toNat < 128 := by
  have hc : 'A' ≤ c ∧ c ≤ 'Z' := of_decide_eq_true h
  have hle : c.toNat ≤ 'Z'.toNat := hc.2
  exact Nat.lt_of_le_of_lt hle (by decide)

theorem ascii_of_isLower (h : c.isLower = true) : c.toNat < 128 := by
  have hle : c.toNat ≤ 'z'.toNat := of_decide_eq_true (Bool.and_eq_true_iff.mp h).2
  exact Nat.lt_of_le_of_lt hle (by decide)

theorem ascii_of_isDigit (h : c.isDigit = true) : c.toNat < 128 := by
  have hle : c.toNat ≤ '9'.toNat := of_decide_eq_true (Bool.and_eq_true_iff.mp h).2
  exact Nat.lt_of_le_of_lt hle (by decide)

theorem ascii_of_isAlphanum (h : c.isAlphanum = true) : c.toNat < 128 := by
  rcases Bool.or_eq_true_iff.mp h with halpha | hdigit
  · exact (Bool.or_eq_true_iff.mp halpha).elim ascii_of_isUpper ascii_of_isLower
  · exact ascii_of_isDigit hdigit

theorem not_allowed (hc : 128 ≤ c.toNat) (h : ¬ Overlooked extra c) :
    ¬ (c.isAlphanum = true ∨ c = '_' ∨ c ∈ extra.toList) := by
  rintro (halphanum | rfl | hextra)
  · exact absurd (ascii_of_isAlphanum halphanum) (Nat.not_lt.mpr hc)
  · exact absurd hc (by decide)
  · exact h ⟨hc, hextra⟩

/-- A letter that is not overlooked is a reason for quotes: in ASCII for its case, and elsewhere
because it is not allowed. -/
theorem mustQuote_of_letter {keywords : List String} {policy : CasePolicy} {letter ascii : Char → Bool}
    (hascii : ∀ c : Char, c.toNat < 128 → letter c = ascii c)
    (hcase : (∃ c ∈ name.toList, ascii c = true) → policy.requiresQuoting name = true)
    (h : ∃ c ∈ name.toList, letter c = true ∧ ¬ Overlooked extra c) : MustQuote keywords extra policy name := by
  obtain ⟨c, hmem, hletter, hseen⟩ := h
  rcases Nat.lt_or_ge c.toNat 128 with hc | hc
  · rw [hascii c hc] at hletter
    exact .inr (.inr (.inr (.inr (hcase ⟨c, hmem, hletter⟩))))
  · exact .inr (.inl ⟨c, hmem, not_allowed hc hseen⟩)

theorem not_ascii_of_overlooked {letter ascii : Char → Bool}
    (hascii : ∀ c : Char, c.toNat < 128 → letter c = ascii c)
    (hsmall : ∀ c : Char, ascii c = true → c.toNat < 128)
    (h : ∀ c ∈ name.toList, letter c = true → Overlooked extra c) : ¬ ∃ c ∈ name.toList, ascii c = true := by
  rintro ⟨c, hmem, hc⟩
  have hlt := hsmall c hc
  exact absurd hlt (Nat.not_lt.mpr (h c hmem (by rw [hascii c hlt, hc])).1)

end Letters

namespace Facts

variable {q extra : String} {keywords : List String} {policy : CasePolicy} {name : String}

theorem quote_unfolded (h : policy.requiresQuoting name = false) :
    (ofReport q keywords extra policy).quote name = (ofReport q keywords extra policy.unfolded).quote name := by
  have hrequires : (ofReport q keywords extra policy).requiresQuoting name =
      (ofReport q keywords extra policy.unfolded).requiresQuoting name := by
    have hpolicy : policy.requiresQuoting name = policy.unfolded.requiresQuoting name := by
      rw [h]
      rfl
    unfold requiresQuoting
    exact congrArg _ hpolicy
  unfold quote
  rw [hrequires]
  rfl

/-- On a backend that folds names to lower case unless they are quoted, a capital letter in a name that
does not begin with the quote string puts quotes around the name, unless it is overlooked; on one that
folds to upper case a small letter does. If all such letters are overlooked, the name is written as
on a backend that does not fold. -/
theorem quote_letters (hstart : ¬ q.toList <+: name.toList) (hm : policy.mixedCase = false)
    (hk : policy.mixedCaseQuoted = true) :
    (policy.storesLower = true → (∃ c ∈ name.toList, Text.isCapital c = true ∧ ¬ Overlooked extra c) →
      (ofReport q keywords extra policy).quote name = q ++ name ++ q) ∧
    (policy.storesUpper = true → (∃ c ∈ name.toList, Text.isSmall c = true ∧ ¬ Overlooked extra c) →
      (ofReport q keywords extra policy).quote name = q ++ name ++ q) ∧
    ((policy.storesLower = true → ∀ c ∈ name.toList, Text.isCapital c = true → Overlooked extra c) →
      (policy.storesUpper = true → ∀ c ∈ name.toList, Text.isSmall c = true → Overlooked extra c) →
      (ofReport q keywords extra policy).quote name = (ofReport q keywords extra policy.unfolded).quote name) := by
  have hcase := @CasePolicy.requiresQuoting_iff policy name hm hk
  refine ⟨fun hlower hletter => ?_, fun hupper hletter => ?_, fun hcapital hsmall => ?_⟩
  · refine quote_eq_wrap hstart (requiresQuoting_iff.mpr ?_)
    exact mustQuote_of_letter (fun c => Text.isCapital_ascii) (fun h => hcase.mpr (.inl ⟨hlower, h⟩)) hletter
  · refine quote_eq_wrap hstart (requiresQuoting_iff.mpr ?_)
    exact mustQuote_of_letter (fun c => Text.isSmall_ascii) (fun h => hcase.mpr (.inr ⟨hupper, h⟩)) hletter
  · refine quote_unfolded (Bool.eq_false_iff.mpr fun hfolds => ?_)
    rcases hcase.mp hfolds with ⟨hlower, h⟩ | ⟨hupper, h⟩
    · exact not_ascii_of_overlooked (fun c => Text.isCapital_ascii) (fun c => ascii_of_isUpper) (hcapital hlower) h
    · exact not_ascii_of_overlooked (fun c => Text.isSmall_ascii) (fun c => ascii_of_isLower) (hsmall hupper) h

/-- A small letter that is listed among the extra characters does not hide a capital letter behind it, a
capital letter outside ASCII counts if it is not listed, and one that is listed counts for nothing. -/
theorem quote_letters_accents :
    (ofReport "\"" [] "é" ⟨false, true, true, false⟩).quote "éB" = "\"" ++ "éB" ++ "\"" ∧
    (ofReport "\"" [] "é" ⟨false, true, true, false⟩).quote "École" = "\"" ++ "École" ++ "\"" ∧
    (ofReport "\"" [] "ÉÀ" ⟨false, true, false, true⟩).quote "ÉtÀ" = "\"" ++ "ÉtÀ" ++ "\"" ∧
    (ofReport "\"" [] "É" ⟨false, true, true, false⟩).quote "École" =
      (ofReport "\"" [] "É" ⟨true, true, true, false⟩).quote "École" := by
  obtain ⟨hlower, -, -⟩ := @quote_letters "\"" "é" [] ⟨false, true, true, false⟩ "éB" (by decide) rfl rfl
  obtain ⟨hforeign, -, -⟩ := @quote_letters "\"" "é" [] ⟨false, true, true, false⟩ "École" (by decide) rfl rfl
  obtain ⟨-, hupper, -⟩ := @quote_letters "\"" "ÉÀ" [] ⟨false, true, false, true⟩ "ÉtÀ" (by decide) rfl rfl
  obtain ⟨-, -, hoverlooked⟩ :=
    @quote_letters "\"" "É" [] ⟨false, true, true, false⟩ "École" (by decide) rfl rfl
  refine ⟨hlower rfl ⟨'B', by decide, by decide +kernel, by decide⟩,
    hforeign rfl ⟨'É', by decide, by decide +kernel, by decide⟩,
    hupper rfl ⟨'t', by decide, by decide +kernel, by decide⟩, hoverlooked (fun _ c hc hcapital => ?_) nofun⟩
  have hall : ("École".toList.all fun c => !Text.isCapital c || decide (Overlooked "É" c)) = true := by
    decide +kernel
  have hc := List.all_eq_true.mp hall c hc
  rw [hcapital] at hc
  exact of_decide_eq_true hc

/-- Folding would change both names, quotes would save them, and keywords are compared without regard to
the case of these very letters, but the names are left without quotes. -/
theorem letter_overlooked :
    ¬ "\"".toList <+: "École".toList ∧ 'É' ∈ "École".toList ∧ Text.isCapital 'É' = true ∧
    (ofReport "\"" [] "Éé" ⟨false, true, true, false⟩).quote "École" = "École" ∧
    Text.lower "École" = "école" ∧
    (ofReport "\"" ["école"] "Éé" ⟨false, true, true, false⟩).isReserved "École" = true ∧
    ¬ "\"".toList <+: "CAFé".toList ∧ 'é' ∈ "CAFé".toList ∧ Text.isSmall 'é' = true ∧
    (ofReport "\"" [] "Éé" ⟨false, true, false, true⟩).quote "CAFé" = "CAFé" := by
  refine ⟨by decide, by decide, by decide +kernel, by decide +kernel, by decide +kernel, by decide +kernel,
    by decide, by decide, by decide +kernel, by decide +kernel⟩

end Facts
end Resync.Identifier
