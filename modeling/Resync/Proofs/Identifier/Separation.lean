import Resync.Proofs.Identifier.Token
import Resync.Snapshot.Basic

/-! # Names before a separator

In a statement a name ends where its quotes are closed, or at the first character that may not stand
without quotes. So if the backend's quote sign is in neither of two names, the texts that go on behind
them with such a character are the same only if the names are, whatever follows. The period between the
names of a schema and of a table is such a character unless the backend allows it in names.
-/
namespace Resync

/-- A run of characters of one kind ends at the first character of another kind. -/
theorem Text.run_append_inj {p : Char → Bool} {c d : Char} {run other rest after : List Char}
    (hrun : ∀ c ∈ run, p c = true) (hother : ∀ c ∈ other, p c = true) (hc : p c = false) (hd : p d = false)
    (h : run ++ c :: rest = other ++ d :: after) : run = other ∧ c :: rest = d :: after := by
  have htake : ∀ {text : List Char} {e : Char} (rest : List Char), (∀ c ∈ text, p c = true) → p e = false →
      (text ++ e :: rest).takeWhile p = text := by
    intro text e rest htext he
    rw [List.takeWhile_append_of_pos htext, List.takeWhile_cons_of_neg (by rw [he]; nofun), List.append_nil]
  have hsame : run = other := by rw [← htake rest hrun hc, h, htake after hother hd]
  subst hsame
  exact ⟨rfl, List.append_cancel_left h⟩

theorem toList_qualify (schema table : String) (rest : List Char) :
    (qualify true schema table).toList ++ rest = schema.toList ++ '.' :: (table.toList ++ rest) := by
  rw [qualify, if_pos rfl, String.toList_append, String.toList_append, List.append_assoc, List.append_assoc]
  rfl

namespace Identifier.Facts

variable {f : Facts} {q : Char} {name other first second : String} {rest after : List Char}

/-- A name without quotes ends before the text. -/
def Stops (f : Facts) (text : List Char) : Prop := ∃ c rest, text = c :: rest ∧ f.allows c = false

theorem stops_of_not_mem {c : Char} (hword : (c.isAlphanum || c == '_') = false) (hc : c ∉ f.extra)
    (rest : List Char) : f.Stops (c :: rest) := by
  refine ⟨c, rest, rfl, ?_⟩
  rw [allows, hword, Bool.false_or, List.contains_eq_mem]
  exact decide_eq_false hc

/-- The text is how a name without the quote sign is written. -/
def Writes (f : Facts) (q : Char) (text : String) : Prop := ∃ name : String, q ∉ name.toList ∧ f.quote name = text

theorem writes_quote (h : q ∉ name.toList) : f.Writes q (f.quote name) := ⟨name, h, rfl⟩

theorem writes_map_quote {names : List String} (h : ∀ name ∈ names, q ∉ name.toList) :
    ∀ text ∈ names.map f.quote, f.Writes q text := by
  intro text htext
  obtain ⟨name, hname, rfl⟩ := List.mem_map.mp htext
  exact writes_quote (h name hname)

theorem forall_allows (hplain : f.isPlain name = true) : ∀ c ∈ name.toList, f.allows c = true :=
  fun c hc => allows_iff.mpr ((isPlain_iff.mp hplain).2 c hc)

theorem plain_ne_wrapped (hplain : f.isPlain name = true) (hn : q ∉ name.toList) (rest after : List Char) :
    name.toList ++ rest ≠ q :: after := by
  intro h
  cases hname : name.toList with
  | nil => exact (isPlain_iff.mp hplain).1 (String.toList_inj.mp hname)
  | cons c cs =>
    rw [hname, List.cons_append, List.cons.injEq] at h
    rw [hname, h.1] at hn
    exact hn List.mem_cons_self

section OneSign

variable (hq : f.quoteString = String.singleton q)
include hq

theorem bare_of_not_mem (h : q ∉ name.toList) : f.Bare name := by
  rintro - ⟨rest, hrest⟩
  rw [hq, String.toList_singleton] at hrest
  exact h (hrest ▸ List.mem_cons_self)

/-- A name without the quote sign is written plain or between two signs. -/
theorem quote_forms (h : q ∉ name.toList) :
    (f.isPlain name = true ∧ (f.quote name).toList = name.toList) ∨
      (f.quote name).toList = q :: (name.toList ++ [q]) := by
  have hhead : name.toList.head? ≠ some q := fun hhead => h (List.mem_of_mem_head? hhead)
  cases hr : f.requiresQuoting name with
  | true =>
    rw [quote_of_requiresQuoting hq hhead hr, toList_wrap hq]
    exact .inr rfl
  | false =>
    rw [quote_of_plain hr]
    exact .inl ⟨isPlain_of_plain hr, rfl⟩

/-- A written name that cannot go on in what follows is known from the text that begins with it. -/
theorem quote_append_inj (hn : q ∉ name.toList) (ho : q ∉ other.toList) (hrest : f.Stops rest)
    (hafter : f.Stops after) (h : (f.quote name).toList ++ rest = (f.quote other).toList ++ after) :
    name = other ∧ rest = after := by
  obtain ⟨c, rest, rfl, hc⟩ := hrest
  obtain ⟨d, after, rfl, hd⟩ := hafter
  rcases quote_forms hq hn with ⟨hplain, hname⟩ | hname
  · rcases quote_forms hq ho with ⟨hplain', hother⟩ | hother
    · rw [hname, hother] at h
      obtain ⟨hsame, htail⟩ := Text.run_append_inj (forall_allows hplain) (forall_allows hplain') hc hd h
      exact ⟨String.toList_inj.mp hsame, htail⟩
    · rw [hname, hother] at h
      exact absurd h (plain_ne_wrapped hplain hn _ _)
  · rcases quote_forms hq ho with ⟨hplain', hother⟩ | hother
    · rw [hname, hother] at h
      exact absurd h.symm (plain_ne_wrapped hplain' ho _ _)
    · have hinner : ∀ {name : String}, q ∉ name.toList → ∀ c ∈ name.toList, (c != q) = true :=
        fun hq c hc => bne_iff_ne.mpr fun he => hq (he ▸ hc)
      have hclosing : (q != q) = false := bne_self_eq_false' q
      rw [hname, hother, List.cons_append, List.cons_append, List.append_assoc, List.append_assoc,
        List.singleton_append, List.singleton_append, List.cons.injEq] at h
      obtain ⟨hsame, htail⟩ := Text.run_append_inj (hinner hn) (hinner ho) hclosing hclosing h.2
      exact ⟨String.toList_inj.mp hsame, (List.cons.inj htail).2⟩

theorem Writes.append_inj (hfirst : f.Writes q first) (hsecond : f.Writes q second) (hrest : f.Stops rest)
    (hafter : f.Stops after) (h : first.toList ++ rest = second.toList ++ after) :
    first = second ∧ rest = after := by
  obtain ⟨name, hn, rfl⟩ := hfirst
  obtain ⟨other, ho, rfl⟩ := hsecond
  obtain ⟨rfl, htail⟩ := quote_append_inj hq hn ho hrest hafter h
  exact ⟨rfl, htail⟩

theorem Writes.qualified_inj {table table' : String} (hperiod : '.' ∉ f.extra) (hfirst : f.Writes q first)
    (hsecond : f.Writes q second)
    (h : (qualify true first table).toList ++ rest = (qualify true second table').toList ++ after) :
    first = second ∧ table.toList ++ rest = table'.toList ++ after := by
  have hstops : ∀ text, f.Stops ('.' :: text) := stops_of_not_mem (by decide) hperiod
  rw [toList_qualify, toList_qualify] at h
  obtain ⟨hschema, htail⟩ := hfirst.append_inj hq hsecond (hstops _) (hstops _) h
  exact ⟨hschema, (List.cons.inj htail).2⟩

end OneSign

end Identifier.Facts
end Resync
