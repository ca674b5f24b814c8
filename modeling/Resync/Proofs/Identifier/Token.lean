import Mathlib.Data.List.TakeWhile
import Resync.Proofs.Identifier.Written

/-! # Identifiers as tokens

A backend reads a statement token by token. An identifier without quotes goes on as long as allowed
characters come. One that begins with the quote sign ends at the next quote sign that is not doubled.
Quoting puts a name between two signs without doubling those inside it, so the token ends with the
text if the signs inside come in pairs, and otherwise ends inside the name or goes on behind the text.
-/
namespace Resync.Identifier

def doubled (q : Char) (text : List Char) : List Char :=
  text.flatMap fun c => if c = q then [q, q] else [c]

/-- The name that is read behind an opening quote sign, and what follows its closing sign. Two signs
in a row stand for one in the name. -/
def scanQuoted (q : Char) : List Char → Option (List Char × List Char)
  | [] => none
  | [c] => if c = q then some ([], []) else none
  | c :: d :: cs =>
    if c = q then
      if d = q then (scanQuoted q cs).map fun r => (q :: r.1, r.2) else some ([], d :: cs)
    else (scanQuoted q (d :: cs)).map fun r => (c :: r.1, r.2)

section Doubling

variable {q c : Char} {cs rest name : List Char}

theorem doubled_nil (q : Char) : doubled q [] = [] := rfl

theorem doubled_self (q : Char) (cs : List Char) : doubled q (q :: cs) = q :: q :: doubled q cs := by
  rw [doubled, List.flatMap_cons, if_pos rfl]
  rfl

theorem doubled_cons (h : c ≠ q) (cs : List Char) : doubled q (c :: cs) = c :: doubled q cs := by
  rw [doubled, List.flatMap_cons, if_neg h]
  rfl

theorem doubled_eq_self (h : q ∉ cs) : doubled q cs = cs := by
  induction cs with
  | nil => rfl
  | cons c cs ih =>
    rw [List.mem_cons, not_or] at h
    rw [doubled_cons (Ne.symm h.1), ih h.2]

theorem length_doubled (q : Char) (cs : List Char) : (doubled q cs).length = cs.length + cs.count q := by
  induction cs with
  | nil => rfl
  | cons c cs ih =>
    by_cases hc : c = q
    · subst hc
      rw [doubled_self, List.length_cons, List.length_cons, ih, List.length_cons, List.count_cons_self]
      omega
    · rw [doubled_cons hc, List.length_cons, ih, List.length_cons, List.count_cons_of_ne hc]
      omega

theorem doubled_eq_self_iff : doubled q cs = cs ↔ q ∉ cs := by
  refine ⟨fun h => ?_, doubled_eq_self⟩
  have hlength := length_doubled q cs
  rw [h] at hlength
  exact List.count_eq_zero.mp (by omega)

theorem scanQuoted_cons (h : c ≠ q) (cs : List Char) :
    scanQuoted q (c :: cs) = (scanQuoted q cs).map fun r => (c :: r.1, r.2) := by
  cases cs with
  | nil => exact if_neg h
  | cons d cs => rw [scanQuoted, if_neg h]

theorem scanQuoted_pair (q : Char) (cs : List Char) :
    scanQuoted q (q :: q :: cs) = (scanQuoted q cs).map fun r => (q :: r.1, r.2) := by
  rw [scanQuoted, if_pos rfl, if_pos rfl]

theorem scanQuoted_close (h : cs.head? ≠ some q) : scanQuoted q (q :: cs) = some ([], cs) := by
  cases cs with
  | nil => rw [scanQuoted, if_pos rfl]
  | cons d cs =>
    have hd : d ≠ q := fun hd => h (by rw [hd]; rfl)
    rw [scanQuoted, if_pos rfl, if_neg hd]

/-- A doubled text is read off the front, and the scan goes on behind it. -/
theorem scanQuoted_doubled (q : Char) (name cs : List Char) :
    scanQuoted q (doubled q name ++ cs) = (scanQuoted q cs).map fun r => (name ++ r.1, r.2) := by
  induction name with
  | nil =>
    rw [doubled_nil, List.nil_append]
    exact Option.map_id'.symm
  | cons c name ih =>
    by_cases hc : c = q
    · subst hc
      rw [doubled_self, List.cons_append, List.cons_append, scanQuoted_pair, ih, Option.map_map]
      rfl
    · rw [doubled_cons hc, List.cons_append, scanQuoted_cons hc, ih, Option.map_map]
      rfl

theorem scanQuoted_of_doubled (h : rest.head? ≠ some q) (name : List Char) :
    scanQuoted q (doubled q name ++ q :: rest) = some (name, rest) := by
  rw [scanQuoted_doubled, scanQuoted_close h, Option.map_some, List.append_nil]

/-- A text is doubled up to its end or up to a single sign. -/
theorem doubled_or_single (q : Char) (cs : List Char) :
    (∃ name, cs = doubled q name) ∨ ∃ name rest, cs = doubled q name ++ q :: rest ∧ rest.head? ≠ some q := by
  fun_induction scanQuoted q cs with
  | case1 => exact .inl ⟨[], rfl⟩
  | case2 => exact .inr ⟨[], [], rfl, nofun⟩
  | case3 c hc => exact .inl ⟨[c], (doubled_cons hc []).symm⟩
  | case4 cs ih =>
    obtain ⟨name, rfl⟩ | ⟨name, rest, rfl, hrest⟩ := ih
    · exact .inl ⟨q :: name, (doubled_self q name).symm⟩
    · exact .inr ⟨q :: name, rest, by rw [doubled_self]; rfl, hrest⟩
  | case5 d cs hd => exact .inr ⟨[], d :: cs, rfl, by simpa using hd⟩
  | case6 c d cs hc ih =>
    obtain ⟨name, hname⟩ | ⟨name, rest, hname, hrest⟩ := ih
    · exact .inl ⟨c :: name, by rw [doubled_cons hc, hname]⟩
    · exact .inr ⟨c :: name, rest, by rw [doubled_cons hc, hname]; rfl, hrest⟩

/-- The scan ends at the first single sign. -/
theorem scanQuoted_eq_some_iff : scanQuoted q cs = some (name, rest) ↔
    cs = doubled q name ++ q :: rest ∧ rest.head? ≠ some q := by
  constructor
  · intro h
    obtain ⟨text, rfl⟩ | ⟨text, after, rfl, hafter⟩ := doubled_or_single q cs
    · rw [← List.append_nil (doubled q text), scanQuoted_doubled] at h
      cases h
    · rw [scanQuoted_of_doubled hafter] at h
      cases h
      exact ⟨rfl, hafter⟩
  · rintro ⟨rfl, hrest⟩
    exact scanQuoted_of_doubled hrest name

end Doubling

namespace Facts

variable {f : Facts} {q : Char} {name : String} {rest : List Char}

def allows (f : Facts) (c : Char) : Bool := c.isAlphanum || c == '_' || f.extra.contains c

/-- The name that the first token of the text stands for, and the rest of the text, if the text
begins with an identifier. -/
def token? (f : Facts) (q : Char) : List Char → Option (List Char × List Char)
  | [] => none
  | c :: cs =>
    if c = q then scanQuoted q cs
    else if f.allows c then some ((c :: cs).takeWhile f.allows, (c :: cs).dropWhile f.allows)
    else none

/-- The text is a plain run of allowed characters that does not begin with the quote sign, or a text
between two quote signs in which every sign is doubled. -/
def Safe (f : Facts) (q : Char) (text : String) : Prop :=
  (f.isPlain text = true ∧ text.toList.head? ≠ some q) ∨ ∃ body, text.toList = q :: doubled q body ++ [q]

def Ends (f : Facts) (q : Char) (rest : List Char) : Prop :=
  ∀ c ∈ rest.head?, c ≠ q ∧ f.allows c = false

theorem Ends.head?_ne (h : f.Ends q rest) : rest.head? ≠ some q := fun hc => (h q hc).1 rfl

theorem ends_nil (f : Facts) (q : Char) : f.Ends q [] := nofun

theorem allows_iff {c : Char} : f.allows c = true ↔ c.isAlphanum = true ∨ c = '_' ∨ c ∈ f.extra := by
  rw [allows, Bool.or_eq_true, Bool.or_eq_true, beq_iff_eq, List.contains_iff_mem, or_assoc]

theorem token?_sign (f : Facts) (q : Char) (cs : List Char) : f.token? q (q :: cs) = scanQuoted q cs := by
  rw [token?, if_pos rfl]

theorem token?_plain (hplain : f.isPlain name = true) (hn : name.toList.head? ≠ some q) (hrest : f.Ends q rest) :
    f.token? q (name.toList ++ rest) = some (name.toList, rest) := by
  obtain ⟨hne, hchars⟩ := isPlain_iff.mp hplain
  have hall : ∀ c ∈ name.toList, f.allows c = true := fun c hc => allows_iff.mpr (hchars c hc)
  have hstop : rest.takeWhile f.allows = [] ∧ rest.dropWhile f.allows = rest := by
    cases rest with
    | nil => exact ⟨rfl, rfl⟩
    | cons d rest =>
      have hd : ¬ f.allows d = true := Bool.eq_false_iff.mp (hrest d rfl).2
      exact ⟨List.takeWhile_cons_of_neg hd, List.dropWhile_cons_of_neg hd⟩
  cases htext : name.toList with
  | nil => exact absurd (String.toList_inj.mp htext) hne
  | cons c cs =>
    have hc : c ≠ q := fun hc => hn (by rw [htext, hc]; rfl)
    have hallowed : f.allows c = true := hall c (by rw [htext]; exact List.mem_cons_self)
    rw [htext] at hall
    rw [List.cons_append, token?, if_neg hc, if_pos hallowed, ← List.cons_append,
      List.takeWhile_append_of_pos hall, List.dropWhile_append_of_pos hall, hstop.1, hstop.2, List.append_nil]

theorem token?_quoted (hrest : rest.head? ≠ some q) (body : List Char) :
    f.token? q (q :: doubled q body ++ [q] ++ rest) = some (body, rest) := by
  rw [List.cons_append, List.cons_append, token?_sign, List.append_assoc]
  exact scanQuoted_of_doubled hrest body

/-- Safe texts are those that are one token from their beginning to their end. -/
theorem safe_iff_token? {text : String} :
    f.Safe q text ↔ ∃ token, f.token? q text.toList = some (token, []) := by
  constructor
  · rintro (⟨hplain, hhead⟩ | ⟨body, hbody⟩)
    · have htoken := token?_plain hplain hhead (f.ends_nil q)
      rw [List.append_nil] at htoken
      exact ⟨_, htoken⟩
    · have htoken := f.token?_quoted (f.ends_nil q).head?_ne body
      rw [List.append_nil, ← hbody] at htoken
      exact ⟨_, htoken⟩
  · rintro ⟨token, htoken⟩
    cases htext : text.toList with
    | nil =>
      rw [htext] at htoken
      cases htoken
    | cons c cs =>
      rw [htext] at htoken
      by_cases hc : c = q
      · subst hc
        rw [token?_sign, scanQuoted_eq_some_iff] at htoken
        exact .inr ⟨token, by rw [htext, htoken.1]; rfl⟩
      · rw [token?, if_neg hc] at htoken
        split at htoken
        · have hdrop : (c :: cs).dropWhile f.allows = [] := congrArg Prod.snd (Option.some.inj htoken)
          have hall : ∀ d ∈ text.toList, f.allows d = true := by
            rw [htext]
            exact List.dropWhile_eq_nil_iff.mp hdrop
          have hne : text ≠ "" := by
            rintro rfl
            cases htext
          refine .inl ⟨isPlain_iff.mpr ⟨hne, fun d hd => allows_iff.mp (hall d hd)⟩, ?_⟩
          rw [htext]
          exact fun h => hc (Option.some.inj h)
        · cases htoken

/-- A safe text stays one token whatever follows it, unless what follows continues an identifier. -/
theorem token?_append {text : String} {token : List Char} (h : f.token? q text.toList = some (token, []))
    (hrest : f.Ends q rest) : f.token? q (text.toList ++ rest) = some (token, rest) := by
  obtain ⟨hplain, hhead⟩ | ⟨body, hbody⟩ := safe_iff_token?.mpr ⟨token, h⟩
  · have hown := token?_plain hplain hhead (f.ends_nil q)
    rw [List.append_nil, h] at hown
    cases hown
    exact token?_plain hplain hhead hrest
  · have hown := f.token?_quoted (f.ends_nil q).head?_ne body
    rw [List.append_nil, ← hbody, h] at hown
    cases hown
    rw [hbody]
    exact token?_quoted hrest.head?_ne token

theorem token?_append_iff {text : String} {token : List Char} :
    (∀ rest, f.Ends q rest → f.token? q (text.toList ++ rest) = some (token, rest)) ↔
      f.token? q text.toList = some (token, []) := by
  refine ⟨fun h => ?_, fun h rest hrest => token?_append h hrest⟩
  have hown := h [] (f.ends_nil q)
  rwa [List.append_nil] at hown

theorem quote_of_plain (h : f.requiresQuoting name = false) : f.quote name = name := by
  rw [quote, h]
  split <;> rfl

theorem isPlain_of_plain (h : f.requiresQuoting name = false) : f.isPlain name = true := by
  rw [requiresQuoting, Bool.or_eq_false_iff, Bool.or_eq_false_iff] at h
  simpa using h.1.2

section OneSign

variable (hq : f.quoteString = String.singleton q)
include hq

theorem toList_wrap (name : String) : (f.wrap name).toList = q :: name.toList ++ [q] := by
  rw [wrap, hq, String.toList_append, String.toList_append, String.toList_singleton]
  rfl

theorem quote_of_requiresQuoting (hn : name.toList.head? ≠ some q) (h : f.requiresQuoting name = true) :
    f.quote name = f.wrap name := by
  refine quote_eq_wrap ?_ h
  rw [hq, String.toList_singleton]
  rintro ⟨rest, hrest⟩
  exact hn (by rw [← hrest]; rfl)

theorem token?_wrap (name : String) (rest : List Char) :
    f.token? q ((f.wrap name).toList ++ rest) = scanQuoted q (name.toList ++ q :: rest) := by
  rw [toList_wrap hq, List.cons_append, List.cons_append, token?_sign, List.append_assoc]
  rfl

theorem token?_wrap_eq_iff {token : List Char} :
    f.token? q (f.wrap name).toList = some (token, []) ↔ name.toList = doubled q token := by
  have htoken := token?_wrap hq name []
  rw [List.append_nil] at htoken
  rw [htoken, scanQuoted_eq_some_iff, List.append_cancel_right_eq]
  exact and_iff_left nofun

/-- The token that a name is quoted to ends with the text exactly if the name needs no quotes or the
quote signs in it come in pairs, and then it does so whatever follows. It is read back as the name
exactly if no sign stands in a name that needs quotes. Otherwise a sign stands alone: if it is the
last character of the name, the closing sign is taken for its second half and the token goes on into
what follows, else the token ends before the rest of the name, which is read as a part of the statement. -/
theorem quote_token (hn : name.toList.head? ≠ some q) :
    (f.Safe q (f.quote name) ↔ (f.requiresQuoting name = true → ∃ token, name.toList = doubled q token)) ∧
    (f.Safe q (f.quote name) ↔ ∃ token, ∀ rest, f.Ends q rest →
      f.token? q ((f.quote name).toList ++ rest) = some (token, rest)) ∧
    ((∀ rest, f.Ends q rest → f.token? q ((f.quote name).toList ++ rest) = some (name.toList, rest)) ↔
      (f.requiresQuoting name = true → q ∉ name.toList)) ∧
    (¬ f.Safe q (f.quote name) → ∃ token after, name.toList = doubled q token ++ q :: after ∧
      after.head? ≠ some q ∧ ∀ rest, f.token? q ((f.quote name).toList ++ rest) =
        if after = [] then (scanQuoted q rest).map fun r => (token ++ q :: r.1, r.2)
        else some (token, after ++ q :: rest)) := by
  have hwhole : f.Safe q (f.quote name) ↔ ∃ token, ∀ rest, f.Ends q rest →
      f.token? q ((f.quote name).toList ++ rest) = some (token, rest) := by
    rw [safe_iff_token?]
    exact exists_congr fun token => token?_append_iff.symm
  cases h : f.requiresQuoting name with
  | false =>
    have htoken : ∀ rest, f.Ends q rest → f.token? q ((f.quote name).toList ++ rest) = some (name.toList, rest) := by
      rw [quote_of_plain h]
      exact fun rest => token?_plain (isPlain_of_plain h) hn
    have hsafe : f.Safe q (f.quote name) := hwhole.mpr ⟨_, htoken⟩
    exact ⟨iff_of_true hsafe nofun, hwhole, iff_of_true htoken nofun, absurd hsafe⟩
  | true =>
    rw [quote_of_requiresQuoting hq hn h] at hwhole ⊢
    have hsafe : f.Safe q (f.wrap name) ↔ ∃ token, name.toList = doubled q token := by
      rw [safe_iff_token?]
      exact exists_congr fun token => token?_wrap_eq_iff hq
    refine ⟨by rw [hsafe, imp_iff_right rfl], hwhole, ?_, fun hunsafe => ?_⟩
    · rw [token?_append_iff, token?_wrap_eq_iff hq, eq_comm, doubled_eq_self_iff, imp_iff_right rfl]
    · obtain ⟨token, htoken⟩ | ⟨token, after, hname, hafter⟩ := doubled_or_single q name.toList
      · exact absurd (hsafe.mpr ⟨token, htoken⟩) hunsafe
      refine ⟨token, after, hname, hafter, fun rest => ?_⟩
      rw [token?_wrap hq, hname, List.append_assoc, scanQuoted_doubled, List.cons_append]
      split
      · rename_i hnil
        rw [hnil, List.nil_append, scanQuoted_pair, Option.map_map]
        rfl
      · rename_i hcons
        have hhead : (after ++ q :: rest).head? ≠ some q := by
          cases after with
          | nil => exact absurd rfl hcons
          | cons c after => exact hafter
        rw [scanQuoted_close hhead, Option.map_some, List.append_nil]

end OneSign

/-- A reserved word is read back behind its signs, two signs in a row are read as one, and with a sign
at the end of a name the token goes on into the statement. -/
theorem quote_token_signs :
    (ofReport "`" [] "" ⟨false, true, true, false⟩).token? '`'
      (((ofReport "`" [] "" ⟨false, true, true, false⟩).quote "select").toList ++ [' ']) =
      some ("select".toList, [' ']) ∧
    (ofReport "`" [] "" ⟨false, true, true, false⟩).Safe '`'
      ((ofReport "`" [] "" ⟨false, true, true, false⟩).quote "a``b") ∧
    (ofReport "`" [] "" ⟨false, true, true, false⟩).token? '`'
      (((ofReport "`" [] "" ⟨false, true, true, false⟩).quote "a`").toList ++ " = `b".toList) =
      some ("a` = ".toList, ['b']) := by
  obtain ⟨-, -, hread, -⟩ := quote_token (f := ofReport "`" [] "" ⟨false, true, true, false⟩) (q := '`')
    (by decide) (show "select".toList.head? ≠ some '`' by decide)
  obtain ⟨hpairs, -⟩ := quote_token (f := ofReport "`" [] "" ⟨false, true, true, false⟩) (q := '`')
    (by decide) (show "a``b".toList.head? ≠ some '`' by decide)
  obtain ⟨hlast, -, -, hgoesOn⟩ := quote_token (f := ofReport "`" [] "" ⟨false, true, true, false⟩) (q := '`')
    (by decide) (show "a`".toList.head? ≠ some '`' by decide)
  have hends : (ofReport "`" [] "" ⟨false, true, true, false⟩).Ends '`' [' '] := by
    rintro c hc
    cases hc
    exact ⟨by decide, by decide⟩
  have hscan : scanQuoted '`' "a`".toList = some (['a'], []) := by decide +kernel
  refine ⟨hread.mpr (fun _ => by decide) _ hends, hpairs.mpr fun _ => ⟨"a`b".toList, by decide⟩, ?_⟩
  have hunsafe : ¬ (ofReport "`" [] "" ⟨false, true, true, false⟩).Safe '`'
      ((ofReport "`" [] "" ⟨false, true, true, false⟩).quote "a`") := by
    intro hsafe
    obtain ⟨token, htoken⟩ := hlast.mp hsafe (by decide +kernel)
    rw [htoken, ← List.append_nil (doubled '`' token), scanQuoted_doubled] at hscan
    cases hscan
  obtain ⟨token, after, hname, hafter, htoken⟩ := hgoesOn hunsafe
  rw [scanQuoted_eq_some_iff.mpr ⟨hname, hafter⟩] at hscan
  cases hscan
  rw [htoken]
  rfl

/-- The name of a backend with the usual facts ends its own token: the rest of it is left for the
statement. -/
theorem quote_breaks_out :
    (ofReport "\"" [] "" ⟨false, true, true, false⟩).quoteString = String.singleton '"' ∧
    "a\"b".toList.head? ≠ some '"' ∧
    (ofReport "\"" [] "" ⟨false, true, true, false⟩).quote "a\"b" = "\"a\"b\"" ∧
    ¬ (ofReport "\"" [] "" ⟨false, true, true, false⟩).Safe '"' "\"a\"b\"" ∧
    (ofReport "\"" [] "" ⟨false, true, true, false⟩).token? '"' "\"a\"b\"".toList =
      some (['a'], ['b', '"']) := by
  have htoken : (ofReport "\"" [] "" ⟨false, true, true, false⟩).token? '"' "\"a\"b\"".toList =
      some (['a'], ['b', '"']) := by
    decide +kernel
  refine ⟨by decide, by decide, by decide +kernel, fun hsafe => ?_, htoken⟩
  obtain ⟨token, hwhole⟩ := safe_iff_token?.mp hsafe
  rw [htoken] at hwhole
  cases hwhole

end Facts
end Resync.Identifier
