import PathShell.Proofs.FileSystem.Listing

/-!
# Removing

A removal takes away the node at a path and, where that is a directory, all that lies below it; the
other entries stay as they are, in their order. So listings are emptied from that directory on downwards,
and any other one misses at most the entry of the path itself: the child of another directory lies below
the path only if the directory does. The empty path is the exception, since its children are those of the
root.
-/

namespace PathShell
namespace FileSystem

/-! ## What is left -/

instance (fs : FileSystem) (source key : String) : Decidable (fs.Spans source key) :=
  inferInstanceAs (Decidable (_ ∨ _ ∧ _))

/-- Without what `path` spans. -/
def withoutSpan (fs : FileSystem) (path : String) : FileSystem :=
  ⟨fs.entries.filter fun key => ¬ fs.Spans path key⟩

theorem get?_withoutSpan (fs : FileSystem) (path key : String) :
    (fs.withoutSpan path).get? key = if fs.Spans path key then none else fs.get? key := by
  rw [get?, withoutSpan, OrderedMap.get?_filter]
  by_cases spans : fs.Spans path key
  · simp [spans]
  · simp [spans, get?]

theorem erase_eq_withoutSpan {fs : FileSystem} {path : String} (other : fs.get? path ≠ some .directory) :
    fs.erase path = fs.withoutSpan path := by
  refine congrArg FileSystem.mk (OrderedMap.ext_entries (List.filter_congr fun entry _ => ?_))
  simp [Spans, other]

theorem clearBelow_erase_eq_withoutSpan {fs : FileSystem} {path : String}
    (directory : fs.get? path = some .directory) :
    (fs.erase path).clearBelow path = fs.withoutSpan path := by
  refine congrArg FileSystem.mk (OrderedMap.ext_entries ?_)
  refine (List.filter_filter ..).trans (List.filter_congr fun entry _ => ?_)
  simp [Spans, directory, Bool.and_comm]

/-! ## What a removal does -/

/-- What stood at `path` and, if that was a directory, all that lay below it is gone, `count` keys in
    all, and nothing else. -/
structure Removed (before after : FileSystem) (path : String) (count : Nat) : Prop where
  /-- The other entries have their nodes and their order. -/
  rest : after.entries.entries = before.entries.entries.filter fun entry => ¬ before.Spans path entry.1
  count : count = before.entries.keys.countP (· ∉ after.entries.keys)
  /-- A directory that is gone lists nothing, nor does anything below it. -/
  emptied : before.get? path = some .directory →
    ∀ dir, before.Spans path dir → after.list dir = []
  /-- Any other directory lists what it did, but for the entry of `path`. -/
  listed : ∀ dir, dir ≠ "" → ¬ before.Spans path dir →
    after.list dir = (before.list dir).filter fun entry => Path.join dir entry.name ≠ path

theorem list_withoutSpan (fs : FileSystem) (path dir : String) :
    (fs.withoutSpan path).list dir =
      (fs.list dir).filter fun entry => ¬ fs.Spans path (Path.join dir entry.name) :=
  fs.list_filter _ dir

theorem list_withoutSpan_of_spans {fs : FileSystem} {path dir : String}
    (directory : fs.get? path = some .directory) (spans : fs.Spans path dir) :
    (fs.withoutSpan path).list dir = [] := by
  have within : path = dir ∨ Path.isBelow path dir := spans.imp Eq.symm And.right
  rw [list_withoutSpan, List.filter_eq_nil_iff]
  intro entry _
  have gone : fs.Spans path (Path.join dir entry.name) :=
    .inr ⟨directory, Path.isBelow_join within entry.name⟩
  simp [gone]

theorem list_withoutSpan_of_not_spans {fs : FileSystem} {path dir : String} (filled : dir ≠ "")
    (apart : ¬ fs.Spans path dir) :
    (fs.withoutSpan path).list dir =
      (fs.list dir).filter fun entry => Path.join dir entry.name ≠ path := by
  rw [list_withoutSpan]
  refine List.filter_congr fun entry listed => ?_
  have plain : '/' ∉ entry.name.toList := (mem_list_iff.mp listed).1.2
  have stays : ¬ (fs.get? path = some .directory ∧ Path.isBelow path (Path.join dir entry.name)) := by
    rintro ⟨directory, below⟩
    rcases Path.within_of_isBelow_join filled plain below with same | inside
    · exact apart (.inl same.symm)
    · exact apart (.inr ⟨directory, inside⟩)
  have only : fs.Spans path (Path.join dir entry.name) ↔ Path.join dir entry.name = path :=
    or_iff_left stays
  rw [decide_eq_decide, only]

/-- How many keys a path spans. -/
def spanSize (fs : FileSystem) (path : String) : Nat :=
  fs.entries.keys.countP (· ∉ (fs.withoutSpan path).entries.keys)

theorem size_withoutSpan (fs : FileSystem) (path : String) :
    fs.size = (fs.withoutSpan path).size + fs.spanSize path :=
  fs.entries.size_filter _

theorem removed_withoutSpan (fs : FileSystem) (path : String) :
    Removed fs (fs.withoutSpan path) path (fs.spanSize path) :=
  ⟨rfl, rfl, fun directory _ spans => list_withoutSpan_of_spans directory spans,
    fun _ filled apart => list_withoutSpan_of_not_spans filled apart⟩

end FileSystem

namespace Edit

open FileSystem

/-- Where something is at the path, a removal takes what the path spans, and counts it. -/
theorem run_remove_of_contains {fs : FileSystem} {path : String} (present : fs.contains path) :
    (remove path).run fs = .ok (fs.spanSize path) (fs.withoutSpan path) := by
  have single : fs.size = (fs.erase path).size + 1 := OrderedMap.size_erase present
  have sizes := fs.size_withoutSpan path
  rw [run_remove]
  cases found : fs.get? path with
  | none => exact absurd found (contains_iff.mp present)
  | some node =>
    cases node with
    | file file =>
      have left : fs.erase path = fs.withoutSpan path := erase_eq_withoutSpan (by simp [found])
      rw [left] at single
      have counted : fs.spanSize path = 1 := by omega
      rw [left, counted]
    | directory =>
      have left : (fs.erase path).clearBelow path = fs.withoutSpan path :=
        clearBelow_erase_eq_withoutSpan found
      have fewer : (fs.withoutSpan path).size ≤ (fs.erase path).size := by
        rw [← left]
        exact List.length_filter_le ..
      have counted : fs.spanSize path = 1 + ((fs.erase path).size - (fs.withoutSpan path).size) := by
        omega
      dsimp only
      rw [left, counted]

theorem run_remove_of_not_contains {fs : FileSystem} {path : String} (absent : ¬ fs.contains path) :
    (remove path).run fs = .error (.notFound path) fs := by
  have nothing : fs.get? path = none := by simpa [contains_iff] using absent
  rw [run_remove, nothing]

/-- A removal fails just if nothing is at the path, and changes nothing then; else it takes what the path
    spans, and no listing shows anything of it any more. -/
theorem removes_spanned (fs : FileSystem) (path : String) :
    ((remove path).run fs = .error (.notFound path) fs ↔ ¬ fs.contains path) ∧
    ((∃ count after, (remove path).run fs = .ok count after) ↔ fs.contains path) ∧
    ∀ count after, (remove path).run fs = .ok count after → Removed fs after path count := by
  by_cases present : fs.contains path
  · have ran := run_remove_of_contains present
    refine ⟨by simp [ran, present], by simp [ran, present], ?_⟩
    intro count after other
    rw [ran] at other
    cases other
    exact fs.removed_withoutSpan path
  · have failed := run_remove_of_not_contains present
    simp [failed, present]

/-- A directory with one in it, beside a file whose name begins alike. -/
theorem removes_spanned_directories :
    let note : Node := .file ⟨"milk", .epoch⟩
    let fs := (((root.insert "/a" .directory).insert "/ab" note).insert "/a/b" .directory).insert
      "/a/b/c" note
    let after := root.insert "/ab" note
    (remove "/a").run fs = .ok 3 after ∧ Removed fs after "/a" 3 := by
  intro note fs after
  have present : fs.contains "/a" := by decide
  have left : fs.withoutSpan "/a" = after := by decide
  have counted : fs.spanSize "/a" = 3 := by decide
  have ran : (remove "/a").run fs = .ok 3 after := by
    rw [run_remove_of_contains present, left, counted]
  exact ⟨ran, (removes_spanned fs "/a").2.2 3 after ran⟩

end Edit
end PathShell
