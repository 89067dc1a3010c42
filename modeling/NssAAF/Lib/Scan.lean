import Mathlib.Tactic.Common
import Mathlib.Data.List.TakeWhile

/-!
# Scanning text

The readers of a formatted scan: words, literal characters and decimal numbers. Each of them reads
from the front of a list of characters and returns what is left, or nothing if it fails. What counts
as white space is a parameter. A line break is an error where white space is skipped.

* `word_of_all` reads a text without white space as one word.
* `uint_toString` reads back a number that was written, up to the first character that is no digit.
* `cut_append` splits a text at the first separator, and `last_cut_inj` at the last one.
-/

namespace Scan

variable (space : Char → Bool)

def skipSpace : List Char → Option (List Char)
  | [] => some []
  | c :: cs =>
    if c = '\n' then none
    else if space c then skipSpace cs
    else some (c :: cs)

/-- The next word, up to white space. -/
def word (cs : List Char) : Option (List Char × List Char) :=
  match skipSpace space cs with
  | none => none
  | some [] => none
  | some (c :: cs) =>
    some ((c :: cs).takeWhile fun c => !space c, (c :: cs).dropWhile fun c => !space c)

/-- A character that has to be there. -/
def literal (c : Char) : List Char → Option (List Char)
  | [] => none
  | d :: cs => if d = c then some cs else none

/-- A decimal number below `bound`. -/
def uint (bound : ℕ) (cs : List Char) : Option (ℕ × List Char) :=
  match skipSpace space cs with
  | none => none
  | some cs =>
    let digits := cs.takeWhile Char.isDigit
    if digits ≠ [] ∧ Nat.ofDigitChars 10 digits 0 < bound then
      some (Nat.ofDigitChars 10 digits 0, cs.dropWhile Char.isDigit)
    else none

def parseUint (bound : ℕ) (cs : List Char) : Option ℕ :=
  if cs ≠ [] ∧ cs.all Char.isDigit ∧ Nat.ofDigitChars 10 cs 0 < bound then
    some (Nat.ofDigitChars 10 cs 0)
  else none

/-- The text before the first separator, and the text after it if there is one. -/
def cut (sep : Char) (cs : List Char) : List Char × Option (List Char) :=
  match cs.dropWhile (· ≠ sep) with
  | [] => (cs, none)
  | _ :: rest => (cs.takeWhile (· ≠ sep), some rest)

variable {space}

theorem skipSpace_cons {c : Char} {cs : List Char} (hline : c ≠ '\n') (hc : space c = false) :
    skipSpace space (c :: cs) = some (c :: cs) := by
  unfold skipSpace
  rw [if_neg hline, hc, if_neg Bool.false_ne_true]

theorem word_of_all (hspace : space '\n' = true) {cs : List Char} (hne : cs ≠ [])
    (h : ∀ c ∈ cs, space c = false) : word space cs = some (cs, []) := by
  have hkeep : ∀ c ∈ cs, (!space c) = true := by
    intro c hc
    rw [h c hc]
    rfl
  cases cs with
  | nil => exact absurd rfl hne
  | cons c cs =>
    have hc := h c (List.mem_cons_self ..)
    have hline : c ≠ '\n' := by
      rintro rfl
      rw [hspace] at hc
      cases hc
    unfold word
    rw [skipSpace_cons hline hc]
    dsimp only
    rw [List.takeWhile_eq_self_iff.mpr hkeep, List.dropWhile_eq_nil_iff.mpr hkeep]

theorem toDigits_ne_nil (n : ℕ) : Nat.toDigits 10 n ≠ [] := by
  have hlen := Nat.length_toDigits_pos (b := 10) (n := n)
  exact List.length_pos_iff.mp hlen

/-- A number that was written is read back, up to a character that is no digit. -/
theorem uint_toString (hspace : ∀ c, c.isDigit = true → space c = false) {n bound : ℕ}
    (hn : n < bound) {c : Char} (hc : c.isDigit = false) (cs : List Char) :
    uint space bound ((toString n).toList ++ c :: cs) = some (n, c :: cs) := by
  rw [Nat.toString_eq_repr, Nat.toList_repr]
  have hdigits : ∀ d ∈ Nat.toDigits 10 n, d.isDigit = true :=
    fun d hd => Nat.isDigit_of_mem_toDigits (by decide) (by decide) hd
  have hvalue : Nat.ofDigitChars 10 (Nat.toDigits 10 n) 0 = n :=
    Nat.ofDigitChars_toDigits (by decide) (by decide)
  have hne := toDigits_ne_nil n
  generalize Nat.toDigits 10 n = ds at hdigits hvalue hne
  cases ds with
  | nil => exact absurd rfl hne
  | cons d ds =>
    have hd := hdigits d (List.mem_cons_self ..)
    have hline : d ≠ '\n' := by
      rintro rfl
      cases hd
    have htake : ((d :: ds) ++ c :: cs).takeWhile Char.isDigit = d :: ds := by
      rw [List.takeWhile_append_of_pos hdigits, List.takeWhile_cons, hc]
      exact List.append_nil _
    have hdrop : ((d :: ds) ++ c :: cs).dropWhile Char.isDigit = c :: cs := by
      rw [List.dropWhile_append_of_pos hdigits, List.dropWhile_cons, hc]
      rfl
    unfold uint
    rw [List.cons_append, skipSpace_cons hline (hspace d hd)]
    dsimp only
    rw [← List.cons_append, htake, hdrop, hvalue, if_pos ⟨hne, hn⟩]

theorem parseUint_eq_none {bound : ℕ} {cs : List Char} {c : Char} (hmem : c ∈ cs)
    (hc : c.isDigit = false) : parseUint bound cs = none := by
  unfold parseUint
  refine if_neg fun h => ?_
  have := List.all_eq_true.mp h.2.1 c hmem
  rw [hc] at this
  cases this

theorem all_ne_of_not_mem {sep : Char} {cs : List Char} (h : sep ∉ cs) :
    ∀ c ∈ cs, decide (c ≠ sep) = true := by
  intro c hc
  exact decide_eq_true fun heq => h (heq ▸ hc)

theorem cut_of_not_mem {sep : Char} {cs : List Char} (h : sep ∉ cs) : cut sep cs = (cs, none) := by
  unfold cut
  rw [List.dropWhile_eq_nil_iff.mpr (all_ne_of_not_mem h)]

theorem cut_append {sep : Char} {cs : List Char} (h : sep ∉ cs) (rest : List Char) :
    cut sep (cs ++ sep :: rest) = (cs, some rest) := by
  have hkeep := all_ne_of_not_mem h
  have hstop : decide (sep ≠ sep) = false := decide_eq_false (not_not.mpr rfl)
  unfold cut
  rw [List.dropWhile_append_of_pos hkeep, List.takeWhile_append_of_pos hkeep, List.dropWhile_cons,
    List.takeWhile_cons, hstop]
  simp

theorem last_cut_inj {sep : Char} {as bs cs ds : List Char} (hcs : sep ∉ cs) (hds : sep ∉ ds)
    (h : as ++ sep :: cs = bs ++ sep :: ds) : as = bs ∧ cs = ds := by
  have hrev : cs.reverse ++ sep :: as.reverse = ds.reverse ++ sep :: bs.reverse := by
    simpa using congrArg List.reverse h
  have hcut := congrArg (cut sep) hrev
  rw [cut_append (by simpa using hcs), cut_append (by simpa using hds)] at hcut
  simp only [Prod.mk.injEq, Option.some.injEq, List.reverse_inj] at hcut
  exact ⟨hcut.2, hcut.1⟩

theorem not_mem_toString_nat {c : Char} (hdigit : c.isDigit = false) (n : ℕ) :
    c ∉ (toString n).toList := by
  intro hc
  rw [Nat.toString_eq_repr, Nat.toList_repr] at hc
  have := Nat.isDigit_of_mem_toDigits (by decide) (by decide) hc
  rw [hdigit] at this
  cases this

theorem toString_nat_inj {m n : ℕ} (h : (toString m).toList = (toString n).toList) : m = n := by
  have hvalue : ∀ k : ℕ, Nat.ofDigitChars 10 (toString k).toList 0 = k := by
    intro k
    rw [Nat.toString_eq_repr, Nat.toList_repr]
    exact Nat.ofDigitChars_toDigits (by decide) (by decide)
  rw [← hvalue m, h, hvalue n]

theorem not_mem_toString_int {c : Char} (hdigit : c.isDigit = false) (hsign : c ≠ '-') (n : ℤ) :
    c ∉ (toString n).toList := by
  cases n with
  | ofNat m => exact not_mem_toString_nat hdigit m
  | negSucc m =>
    show c ∉ ("-" ++ toString (m + 1)).toList
    rw [String.toList_append, List.mem_append, not_or]
    exact ⟨fun hm => hsign (List.mem_singleton.mp hm), not_mem_toString_nat hdigit (m + 1)⟩

end Scan
