import Resync.Text.Scan

/-! # What a scan takes

A scan of a text comes to nothing, or to a value and the rest of the text. The lemmas say so for
each scan from the front of the text, so that a scan of a text whose beginning is known is computed
by rewriting.
-/
namespace Resync.Scan

variable {α β : Type} {p q : Scan α} {f : Char → Bool} {c d : Char} {cs : List Char}

theorem bind_apply (p : Scan α) (f : α → Scan β) (cs : List Char) :
    (p >>= f) cs = (p cs).bind fun r => f r.1 r.2 := rfl

theorem get_apply (cs : List Char) : (get : Scan (List Char)) cs = some (cs, cs) := rfl

theorem satisfy_cons (f : Char → Bool) (c : Char) (cs : List Char) :
    satisfy f (c :: cs) = if f c then some (c, cs) else none := by
  unfold satisfy
  rw [bind_apply, get_apply, Option.bind_some]
  cases h : f c with
  | true => simp only [h, ↓reduceIte]; rfl
  | false => simp only [h, Bool.false_eq_true, ↓reduceIte]; rfl

theorem char_cons (c d : Char) (cs : List Char) : char c (d :: cs) = if d = c then some ((), cs) else none := by
  unfold char
  rw [bind_apply, satisfy_cons]
  by_cases h : d = c
  · rw [if_pos (beq_iff_eq.mpr h), if_pos h]
    rfl
  · rw [if_neg (by simpa using h), if_neg h]
    rfl

theorem orElse_apply (p q : Scan α) (cs : List Char) : (p <|> q) cs = (p cs).or (q cs) := by
  change (p cs <|> q cs) = _
  cases p cs with
  | none => rfl
  | some r => rfl

theorem maybe_apply (p : Scan α) (cs : List Char) :
    maybe p cs = some ((p cs).elim (none, cs) fun r => (some r.1, r.2)) := by
  unfold maybe
  rw [orElse_apply]
  change ((p cs).bind fun r => some (some r.1, r.2)).or _ = _
  cases p cs with
  | none => rfl
  | some r => rfl

end Resync.Scan
