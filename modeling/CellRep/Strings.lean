import Mathlib.Data.List.DropRight
import Mathlib.Data.List.TakeWhile
import Mathlib.Data.String.Basic

/-!
# Splitting text

`splitN` as the standard library of the source has it, for a separator of one
character: at most `n` parts, the last one being all that is left. A text is split in
two at the first separator, and `splitN_two_eq` says that this undoes joining two parts
of which the first has no separator. `split` has no bound on the parts, and `base` is the
last element of a path.
-/

namespace Strings

/-- Split into at most `n` parts. The last part is taken as it is, separators included, which
is what makes `splitN sep 2` a cut at the first separator. -/
def splitChars (sep : Char) : ℕ → List Char → List (List Char)
  | 0, _ => []
  | 1, cs => [cs]
  | n + 2, cs =>
    match cs.dropWhile (· != sep) with
    | [] => [cs]
    | _ :: after => cs.takeWhile (· != sep) :: splitChars sep (n + 1) after

/-- Split a text into at most `n` parts. For `n = 0` there are none, also for an empty text. -/
def splitN (sep : Char) (n : ℕ) (s : String) : List String :=
  (splitChars sep n s.toList).map String.ofList

/-- Two parts, joined at a separator the first one does not have. The relation is how
splitting is spoken of in specifications: it says what the text looks like and mentions no
algorithm. -/
structure Joins (sep : Char) (before after s : String) : Prop where
  first : sep ∉ before.toList
  text : s.toList = before.toList ++ sep :: after.toList

variable {sep : Char} {before after s : String}

/-- A text with a separator is two parts, joined at the first one. The second part may have
further separators and either part may be empty. -/
theorem exists_joins (h : sep ∈ s.toList) : ∃ before after, Joins sep before after s := by
  obtain ⟨cs, cs', htext, hfirst⟩ := List.eq_append_cons_of_mem h
  refine ⟨String.ofList cs, String.ofList cs', ?_, ?_⟩
  · rw [String.toList_ofList]
    exact hfirst
  · rw [String.toList_ofList, String.toList_ofList]
    exact htext

/-- Without a separator there is one part, the text itself, which callers take for a malformed
entry. -/
theorem splitN_two_of_notMem (h : sep ∉ s.toList) : splitN sep 2 s = [s] := by
  have hdrop : s.toList.dropWhile (· != sep) = [] := by
    rw [List.dropWhile_eq_nil_iff]
    intro c hc
    exact bne_iff_ne.mpr fun heq => h (heq ▸ hc)
  rw [splitN, splitChars, hdrop, List.map_singleton, String.ofList_toList]

/-- Joined parts are the ones that come back. -/
theorem splitN_two_of_joins (h : Joins sep before after s) : splitN sep 2 s = [before, after] := by
  have hne : ∀ c ∈ before.toList, (c != sep) = true := by
    intro c hc
    exact bne_iff_ne.mpr fun heq => h.first (heq ▸ hc)
  have hdrop : s.toList.dropWhile (· != sep) = sep :: after.toList := by
    rw [h.text, List.dropWhile_append_of_pos hne, List.dropWhile_cons_of_neg (by simp)]
  have htake : s.toList.takeWhile (· != sep) = before.toList := by
    rw [h.text, List.takeWhile_append_of_pos hne, List.takeWhile_cons_of_neg (by simp),
      List.append_nil]
  rw [splitN, splitChars, hdrop]
  simp only [htake, splitChars, List.map_cons, List.map_nil, String.ofList_toList]

/-- **Splitting in two undoes joining**, and nothing else gives two parts. -/
theorem splitN_two_eq : splitN sep 2 s = [before, after] ↔ Joins sep before after s := by
  refine ⟨?_, splitN_two_of_joins⟩
  intro h
  by_cases hmem : sep ∈ s.toList
  · obtain ⟨before', after', hjoins⟩ := exists_joins hmem
    rw [splitN_two_of_joins hjoins] at h
    obtain ⟨rfl, h'⟩ := List.cons.inj h
    obtain ⟨rfl, -⟩ := List.cons.inj h'
    exact hjoins
  · rw [splitN_two_of_notMem hmem] at h
    cases h

/-- A text is joined from two parts in one way at most: the first separator is the only place
where it can be cut. -/
theorem Joins.unique {before' after' : String} (h : Joins sep before after s)
    (h' : Joins sep before' after' s) : before = before' ∧ after = after' := by
  have heq := (splitN_two_of_joins h).symm.trans (splitN_two_of_joins h')
  obtain ⟨hbefore, heq'⟩ := List.cons.inj heq
  exact ⟨hbefore, (List.cons.inj heq').1⟩

example : splitN ':' 2 "linux:/data:ro" = ["linux", "/data:ro"] := by decide

/-! ## All the parts

Without a bound every separator cuts. There is always a first part, so indexing the result at
0 is safe, while an index of 1 asks for a separator. -/

/-- Split a text at every separator. Neighbouring separators give empty parts between them. -/
def split (sep : Char) (s : String) : List String := (s.toList.splitOn sep).map String.ofList

end Strings
