import Resync.Proofs.Identifier.Reading

/-! # Written forms

A name is in written form if quoting leaves it as it is. Whatever the quote string is, quoting
brings every name into this form, and two names that do not begin with the quote string are told
apart by their written forms.
-/
namespace Resync.Identifier.Facts

variable {f : Facts} {name other : String}

def Written (f : Facts) (name : String) : Prop := f.quote name = name

/-- The name does not begin with the quote string, if that is not empty. -/
def Bare (f : Facts) (name : String) : Prop :=
  f.quoteString ≠ "" → ¬ f.quoteString.toList <+: name.toList

instance : Decidable (f.Written name) := inferInstanceAs (Decidable (f.quote name = name))

instance : Decidable (f.Bare name) := inferInstanceAs (Decidable (_ → ¬ _))

theorem written_of_isQuoted (h : f.isQuoted name = true) : f.Written name := by
  rw [Written, quote, if_pos h]

theorem isQuoted_of_empty (h : f.quoteString = "") (name : String) : f.isQuoted name = true := by
  rw [isQuoted_iff, h]
  exact List.nil_prefix

theorem quote_eq_wrap (hq : ¬ f.quoteString.toList <+: name.toList) (h : f.requiresQuoting name = true) :
    f.quote name = f.wrap name := by
  have hquoted : ¬ f.isQuoted name = true := fun hquoted => hq (isQuoted_iff.mp hquoted)
  rw [quote, if_neg hquoted, if_pos h]

theorem quote_eq_or (f : Facts) (name : String) : f.quote name = name ∨ f.quote name = f.wrap name := by
  unfold quote
  split
  · exact .inl rfl
  · split
    · exact .inr rfl
    · exact .inl rfl

theorem written_quote (f : Facts) (name : String) : f.Written (f.quote name) := by
  rcases f.quote_eq_or name with h | h
  · have hname : f.Written name := h
    rwa [h]
  · rw [h]
    exact written_of_isQuoted (f.isQuoted_wrap name)

theorem wrap_injective (f : Facts) : Function.Injective f.wrap := by
  intro name other h
  rw [← f.read_wrap name, h, f.read_wrap other]

/-- What is written as it stands is not what the quotes of another name make. -/
theorem Bare.ne_wrap (hb : f.Bare name) (hq : f.quoteString ≠ "") (other : String) :
    name ≠ f.wrap other := by
  rintro rfl
  exact hb hq (isQuoted_iff.mp (f.isQuoted_wrap other))

theorem quote_inj (hn : f.Bare name) (ho : f.Bare other) : f.quote name = f.quote other ↔ name = other := by
  refine ⟨fun h => ?_, fun h => by rw [h]⟩
  by_cases hq : f.quoteString = ""
  · have hname : f.quote name = name := written_of_isQuoted (isQuoted_of_empty hq name)
    have hother : f.quote other = other := written_of_isQuoted (isQuoted_of_empty hq other)
    rwa [hname, hother] at h
  rcases f.quote_eq_or name with h₁ | h₁
  · rcases f.quote_eq_or other with h₂ | h₂
    · rwa [h₁, h₂] at h
    · rw [h₁, h₂] at h
      exact absurd h (hn.ne_wrap hq other)
  · rcases f.quote_eq_or other with h₂ | h₂
    · rw [h₁, h₂] at h
      exact absurd h.symm (ho.ne_wrap hq name)
    · rw [h₁, h₂] at h
      exact f.wrap_injective h

end Resync.Identifier.Facts
