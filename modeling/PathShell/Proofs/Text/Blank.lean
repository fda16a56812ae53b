import Mathlib.Data.List.Induction
import PathShell.Text.Blank

/-!
# Words

Blanks at the ends of a text are no part of any word, and a text without words is made of blanks. Words
that are set apart by blanks are found again.
-/

namespace PathShell
namespace Text

/-- The runs of characters that the words are made of. -/
def runs (cs : List Char) : List (List Char) := (cs.splitOnP isBlank).filter (!·.isEmpty)

theorem words_eq_map_runs (text : String) : words text = (runs text.toList).map String.ofList := rfl

theorem runs_cons_blank {c : Char} (blank : isBlank c) (cs : List Char) : runs (c :: cs) = runs cs := by
  simp [runs, List.splitOnP_cons_eq_if_modifyHead, blank]

theorem runs_concat_blank {c : Char} (blank : isBlank c) (cs : List Char) :
    runs (cs ++ [c]) = runs cs := by
  simp [runs, List.splitOnP_append_cons cs [] blank]

theorem runs_skipBlanks (cs : List Char) : runs (skipBlanks cs) = runs cs := by
  induction cs with
  | nil => rfl
  | cons c cs ih =>
    by_cases blank : isBlank c
    · rw [runs_cons_blank blank, ← ih, skipBlanks, List.dropWhile_cons_of_pos blank, skipBlanks]
    · rw [skipBlanks, List.dropWhile_cons_of_neg blank]

theorem runs_skipBlanks_reverse (cs : List Char) : runs (skipBlanks cs.reverse).reverse = runs cs := by
  induction cs using List.reverseRecOn with
  | nil => rfl
  | append_singleton cs c ih =>
    rw [List.reverse_append, List.reverse_singleton, List.singleton_append]
    by_cases blank : isBlank c
    · rw [runs_concat_blank blank, ← ih, skipBlanks, List.dropWhile_cons_of_pos blank, skipBlanks]
    · rw [skipBlanks, List.dropWhile_cons_of_neg blank, List.reverse_cons, List.reverse_reverse]

theorem words_trim (text : String) : words (trim text) = words text := by
  rw [words_eq_map_runs, words_eq_map_runs, trim, String.toList_ofList, runs_skipBlanks_reverse,
    runs_skipBlanks]

theorem runs_eq_nil_iff (cs : List Char) : runs cs = [] ↔ cs.all isBlank := by
  induction cs with
  | nil => simp [runs]
  | cons c cs ih =>
    by_cases blank : isBlank c
    · rw [runs_cons_blank blank, ih]
      simp [blank]
    · -- The first run has at least this character.
      obtain ⟨run, others, split⟩ := List.exists_cons_of_ne_nil (List.splitOnP_ne_nil isBlank cs)
      have filled : runs (c :: cs) ≠ [] := by
        simp [runs, List.splitOnP_cons_eq_if_modifyHead, blank, split]
      simp [filled, blank]

/-- Only a text of blanks has no words. -/
theorem words_eq_nil_iff (text : String) : words text = [] ↔ text.toList.all isBlank := by
  rw [words_eq_map_runs, List.map_eq_nil_iff, runs_eq_nil_iff]

/-! ## Words set apart -/

/-- Something without a blank. -/
def IsWord (text : String) : Prop := text ≠ "" ∧ ∀ c ∈ text.toList, isBlank c = false

instance (text : String) : Decidable (IsWord text) :=
  decidable_of_iff (text ≠ "" ∧ text.toList.all (!isBlank ·)) (by simp [IsWord])

theorem words_of_isWord {text : String} (word : IsWord text) : words text = [text] := by
  rw [words_eq_map_runs, runs, List.splitOnP_eq_singleton word.2]
  simp [word.1]

/-- A word before a blank is the first word. -/
theorem words_append {text : String} (word : IsWord text) (rest : String) :
    words (text ++ " " ++ rest) = text :: words rest := by
  have whole : (text ++ " " ++ rest).toList = text.toList ++ ' ' :: rest.toList := by simp
  have blank : isBlank ' ' = true := by decide
  rw [words_eq_map_runs, words_eq_map_runs, whole, runs, runs,
    List.splitOnP_append_cons_of_forall_mem word.2 ' ' blank]
  simp [word.1]

end Text
end PathShell
