import PathShell.Text.Pieces

/-!
# Lines

A text is made of lines in one way only: cut at its newlines. What lines a text has is said by how they
give the text back, so nothing of it belongs to no line. A text contains a pattern where it has something
before it and something after it.
-/

namespace PathShell
namespace Text

/-! ## Lines of a text -/

/-- The text is these lines, with a newline between neighbours and none inside. -/
structure HasLines (text : String) (lines : List String) : Prop where
  nonempty : lines ≠ []
  plain : ∀ line ∈ lines, '\n' ∉ line.toList
  joined : join "\n" lines = text

theorem not_mem_of_mem_splitOn {separator : Char} {cs piece : List Char}
    (among : piece ∈ cs.splitOn separator) : separator ∉ piece := by
  induction cs generalizing piece with
  | nil =>
    rw [List.splitOn_nil, List.mem_singleton] at among
    simp [among]
  | cons c cs ih =>
    rw [List.splitOn_cons_eq_if_modifyHead] at among
    by_cases cut : c = separator
    · rw [if_pos (beq_iff_eq.mpr cut)] at among
      rcases List.mem_cons.mp among with rfl | later
      · simp
      · exact ih later
    · -- The character goes to the first of the other pieces.
      obtain ⟨first, others, split⟩ := List.exists_cons_of_ne_nil (List.splitOn_ne_nil separator cs)
      rw [if_neg (by simpa using cut), split, List.modifyHead_cons] at among
      rw [split] at ih
      rcases List.mem_cons.mp among with rfl | later
      · have inside := ih List.mem_cons_self
        simp [Ne.symm cut, inside]
      · exact ih (List.mem_cons_of_mem first later)

theorem join_pieces (text : String) : join "\n" (pieces '\n' text) = text := by
  have cut : (pieces '\n' text).map String.toList = text.toList.splitOn '\n' := by
    simp [pieces, Function.comp_def]
  have newline : "\n".toList = ['\n'] := rfl
  rw [join, cut, newline, List.intercalate_splitOn, String.ofList_toList]

theorem hasLines_pieces (text : String) : HasLines text (pieces '\n' text) := by
  refine ⟨?_, fun line among => ?_, join_pieces text⟩
  · rw [pieces, ne_eq, List.map_eq_nil_iff]
    exact List.splitOn_ne_nil '\n' text.toList
  · obtain ⟨piece, cut, rfl⟩ := List.mem_map.mp among
    rw [String.toList_ofList]
    exact not_mem_of_mem_splitOn cut

/-- The lines of a text are its pieces between newlines, and no other texts. -/
theorem hasLines_iff {text : String} {lines : List String} :
    HasLines text lines ↔ lines = pieces '\n' text := by
  constructor
  · rintro ⟨nonempty, plain, rfl⟩
    have newline : "\n".toList = ['\n'] := rfl
    have characters : ∀ cs ∈ lines.map String.toList, '\n' ∉ cs := by
      simpa using plain
    have restored := List.splitOn_intercalate '\n' characters (by simpa using nonempty)
    rw [pieces, join, String.toList_ofList, newline, restored]
    simp [Function.comp_def]
  · rintro rfl
    exact hasLines_pieces text

/-! ## Patterns -/

/-- `pattern` stands in `text`, with something before it and something after it. -/
def Contains (pattern text : String) : Prop := ∃ before after, text = before ++ pattern ++ after

theorem occurs_iff_infix {pattern cs : List Char} : occurs pattern cs ↔ pattern <:+: cs := by
  induction cs with
  | nil => simp [occurs]
  | cons c cs ih => rw [occurs, Bool.or_eq_true, ih, List.isPrefixOf_iff_prefix, List.infix_cons_iff]

theorem contains_iff {pattern text : String} : contains pattern text ↔ Contains pattern text := by
  rw [contains, occurs_iff_infix, Contains]
  constructor
  · rintro ⟨before, after, whole⟩
    refine ⟨String.ofList before, String.ofList after, ?_⟩
    rw [← String.toList_inj, ← whole]
    simp
  · rintro ⟨before, after, rfl⟩
    exact ⟨before.toList, after.toList, by simp⟩

instance (pattern text : String) : Decidable (Contains pattern text) :=
  decidable_of_iff _ contains_iff

theorem contains_empty (text : String) : Contains "" text := ⟨"", text, by simp⟩

/-- What stands in a text brings all its characters with it. -/
theorem mem_of_contains {pattern text : String} (contains : Contains pattern text) {c : Char}
    (inside : c ∈ pattern.toList) : c ∈ text.toList := by
  obtain ⟨before, after, rfl⟩ := contains
  simp [inside]

end Text
end PathShell
