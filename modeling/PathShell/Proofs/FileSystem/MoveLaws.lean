import PathShell.Proofs.FileSystem.Remove

/-!
# Moving, copying and removing

How the three go together. Where no node that goes along gets to a path of its source, it does not matter
whether the source is taken away before the nodes are put at their places or after that, so that a move is
a copy whose source is removed. And a move to a place where nothing was, nor below it, is undone by
moving back: what the target spans then is what came from the source.
-/

namespace PathShell
namespace FileSystem

/-! ## Taking the source away -/

/-- What is kept anyway may be grafted before or after the rest is taken away. -/
theorem filter_graft {keep : String → Bool} {source target : String} {nodes : List (String × Node)}
    (kept : ∀ entry ∈ nodes, keep (Path.rebase source target entry.1)) (fs : FileSystem) :
    (⟨(fs.graft source target nodes).entries.filter keep⟩ : FileSystem) =
      graft ⟨fs.entries.filter keep⟩ source target nodes := by
  induction nodes generalizing fs with
  | nil => rfl
  | cons entry rest ih =>
    have inserted : (fs.insert (Path.rebase source target entry.1) entry.2).entries.filter keep =
        (fs.entries.filter keep).insert (Path.rebase source target entry.1) entry.2 :=
      OrderedMap.filter_insert (kept entry List.mem_cons_self) entry.2 fs.entries
    have others := ih (fun other among => kept other (List.mem_cons_of_mem entry among))
      (fs.insert (Path.rebase source target entry.1) entry.2)
    rw [inserted] at others
    exact others

section Collected

variable {fs : FileSystem} {source target : String} {nodes : List (String × Node)}
  (collected : fs.subtree source target = .ok nodes)

include collected

theorem contains_of_subtree : fs.contains source := by
  rw [contains_iff]
  intro absent
  simp [subtree, absent] at collected

/-- To prune a subtree is to take what its source spans. -/
theorem prune_eq_withoutSpan : fs.prune nodes = fs.withoutSpan source := by
  refine congrArg FileSystem.mk (OrderedMap.ext_entries (List.filter_congr fun entry member => ?_))
  have found : fs.get? entry.1 = some entry.2 := OrderedMap.get?_eq_some_iff.mpr member
  have among : entry.1 ∈ nodes.map Prod.fst ↔ fs.Spans source entry.1 := by
    rw [List.mem_map]
    constructor
    · rintro ⟨⟨key, node⟩, inside, rfl⟩
      exact ((mem_subtree_iff collected).mp inside).1
    · intro spans
      exact ⟨entry, (mem_subtree_iff collected).mpr ⟨spans, found⟩, rfl⟩
  dsimp only
  rw [any_eq_of_paths rfl, decide_not, decide_eq_decide.mpr among]

/-- Where the source does not lie below the target, no node gets to a path that the source spans. -/
theorem not_spans_of_arrives (different : source ≠ target) (apart : ¬ Path.isBelow target source)
    {entry : String × Node} (member : entry ∈ nodes) :
    ¬ fs.Spans source (Path.rebase source target entry.1) := by
  obtain ⟨rest, whole⟩ := Path.begins_iff.mp (begins_of_mem_subtree collected entry member)
  have along : fs.Spans source entry.1 := ((mem_subtree_iff collected).mp member).1
  rw [whole] at along
  rw [whole, Path.rebase_append]
  intro reached
  exact apart (Path.isBelow_of_begins_slash (begins_of_spans collected different along reached))

/-- The source of a copy that does not lie below the target is still there, with its node. -/
theorem get?_source_graft (different : source ≠ target) (apart : ¬ Path.isBelow target source) :
    (fs.graft source target nodes).get? source = fs.get? source := by
  refine get?_graft_of_apart collected fs fun rest lands along _ => apart ?_
  exact Path.isBelow_of_begins_slash (begins_of_spans collected different along (.inl lands.symm))

/-- Taken away after the copy, the source leaves what it leaves when it is taken away before. -/
theorem withoutSpan_graft (different : source ≠ target) (apart : ¬ Path.isBelow target source) :
    (fs.graft source target nodes).withoutSpan source =
      (fs.withoutSpan source).graft source target nodes := by
  have stays := get?_source_graft collected different apart
  have spans (key : String) : (fs.graft source target nodes).Spans source key ↔ fs.Spans source key := by
    rw [Spans, Spans, stays]
  simp only [withoutSpan, spans]
  refine filter_graft (fun entry member => ?_) fs
  exact decide_eq_true (not_spans_of_arrives collected different apart member)

end Collected

/-! ## Vacant places -/

/-- Nothing is at `path`, nor below it. -/
def Vacant (fs : FileSystem) (path : String) : Prop :=
  ∀ key, key = path ∨ Path.isBelow path key → ¬ fs.contains key

theorem get?_of_vacant {fs : FileSystem} {path key : String} (vacant : fs.Vacant path)
    (within : key = path ∨ Path.isBelow path key) : fs.get? key = none := by
  by_contra held
  exact vacant key within (contains_iff.mpr held)

theorem exists_rest_of_spans {fs : FileSystem} {source key : String} (spans : fs.Spans source key) :
    ∃ rest, key = source ++ rest := by
  rcases spans with rfl | ⟨-, below⟩
  · exact ⟨"", String.append_empty.symm⟩
  · exact Path.begins_iff.mp (Path.begins_of_isBelow below)

/-- Two paths with the same node span what goes on from them alike, unless one of them is the root. -/
theorem spans_append_iff {before after : FileSystem} {source target : String} (placed : source ≠ "/")
    (aimed : target ≠ "/") (same : after.get? target = before.get? source) (rest : String) :
    after.Spans target (target ++ rest) ↔ before.Spans source (source ++ rest) := by
  simp [Spans, same, Path.isBelow_append_iff placed, Path.isBelow_append_iff aimed]

end FileSystem

namespace Edit

open FileSystem

/-- A move to another place, to one that is no directory above its source, fails just as the copy does,
    and else leaves what the copy leaves once the source is removed, which cannot fail. -/
theorem moves_as_copied_and_removed (fs : FileSystem) {source target : String}
    (different : source ≠ target) (apart : ¬ Path.isBelow target source) :
    ((∃ after, (move source target).run fs = .ok () after) ↔
      ∃ between, (copy source target).run fs = .ok () between) ∧
    (∀ cause left, (move source target).run fs = .error cause left ↔
      (copy source target).run fs = .error cause left) ∧
    ∀ between, (copy source target).run fs = .ok () between →
      ∃ count after, (remove source).run between = .ok count after ∧
        (move source target).run fs = .ok () after := by
  rw [run_move_of_ne different, run_copy_of_ne different]
  cases collected : fs.subtree source target with
  | error cause => simp
  | ok nodes =>
    refine ⟨by simp, by simp, ?_⟩
    intro between copied
    cases copied
    have found : fs.get? source ≠ none := contains_iff.mp (contains_of_subtree collected)
    have present : (fs.graft source target nodes).contains source := by
      rw [contains_iff, get?_source_graft collected different apart]
      exact found
    refine ⟨_, _, run_remove_of_contains present, ?_⟩
    rw [withoutSpan_graft collected different apart, ← prune_eq_withoutSpan collected]

/-- A directory moves to the place of another one, and what is in it over a file there. -/
theorem moves_as_copied_and_removed_over :
    let note : Node := .file ⟨"milk", .epoch⟩
    let fs := (((root.insert "/b" .directory).insert "/a" .directory).insert "/a/f" note).insert
      "/b/f" (.file ⟨"", .epoch⟩)
    let between := fs.insert "/b/f" note
    "/a" ≠ "/b" ∧ ¬ Path.isBelow "/b" "/a" ∧ (copy "/a" "/b").run fs = .ok () between ∧
      ∃ count after, (remove "/a").run between = .ok count after ∧
        (move "/a" "/b").run fs = .ok () after := by
  intro note fs between
  have different : "/a" ≠ "/b" := by decide
  have apart : ¬ Path.isBelow "/b" "/a" := by decide
  have copied : (copy "/a" "/b").run fs = .ok () between :=
    (run_copy_eq_ok_iff different).mpr ⟨[("/a", .directory), ("/a/f", note)], by decide, by decide⟩
  exact ⟨different, apart, copied,
    (moves_as_copied_and_removed fs different apart).2.2 between copied⟩

/-! ## Moving back -/

section Moved

variable {fs after : FileSystem} {source target : String} (different : source ≠ target)
  (ran : (move source target).run fs = .ok () after)

include different ran

theorem contains_of_move : fs.contains source := by
  obtain ⟨nodes, collected, -⟩ := (run_move_eq_ok_iff different).mp ran
  exact contains_of_subtree collected

/-- What a move leaves at the places where nodes arrive. -/
theorem get?_moved_of_spans {rest : String} (spans : fs.Spans source (source ++ rest))
    (present : fs.contains (source ++ rest)) :
    after.get? (target ++ rest) = fs.get? (source ++ rest) := by
  obtain ⟨nodes, collected, rfl⟩ := (run_move_eq_ok_iff different).mp ran
  exact get?_graft_of_spans collected (fs.prune nodes) spans present

/-- What it leaves elsewhere. -/
theorem get?_moved_of_apart {key : String}
    (apart : ∀ rest, key = target ++ rest → fs.Spans source (source ++ rest) →
      ¬ fs.contains (source ++ rest)) :
    after.get? key = if fs.Spans source key then none else fs.get? key := by
  obtain ⟨nodes, collected, rfl⟩ := (run_move_eq_ok_iff different).mp ran
  rw [get?_graft_of_apart collected _ apart, prune_eq_withoutSpan collected, get?_withoutSpan]

/-- The source itself arrives at the target itself. -/
theorem get?_moved_target : after.get? target = fs.get? source := by
  have present : fs.contains (source ++ "") := by
    rw [String.append_empty]
    exact contains_of_move different ran
  have arrived := get?_moved_of_spans different ran (.inl String.append_empty) present
  rwa [String.append_empty, String.append_empty] at arrived

variable (placed : source ≠ "/") (aimed : target ≠ "/")

include placed aimed

/-- The target of a move spans what went along with its source. -/
theorem spans_moved_iff (rest : String) :
    after.Spans target (target ++ rest) ↔ fs.Spans source (source ++ rest) :=
  spans_append_iff placed aimed (get?_moved_target different ran) rest

variable (vacant : fs.Vacant target)

include vacant

/-- At and below a target that was vacant there is just what arrived. -/
theorem contains_moved_iff {rest : String} (spans : fs.Spans source (source ++ rest)) :
    after.contains (target ++ rest) ↔ fs.contains (source ++ rest) := by
  have within : target ++ rest = target ∨ Path.isBelow target (target ++ rest) :=
    ((spans_moved_iff different ran placed aimed rest).mpr spans).imp_right And.right
  by_cases present : fs.contains (source ++ rest)
  · rw [contains_iff, get?_moved_of_spans different ran spans present, ← contains_iff]
  · have missed : ∀ other, target ++ rest = target ++ other → fs.Spans source (source ++ other) →
        ¬ fs.contains (source ++ other) := by
      intro other same _
      rwa [← (String.append_right_inj target).mp same]
    have nothing := get?_moved_of_apart different ran missed
    rw [get?_of_vacant vacant within, ite_self] at nothing
    simp [contains_iff, nothing, present]

/-- Moved there and back, every node is where it was, and nowhere else. -/
theorem get?_moved_back {back : FileSystem} (returned : (move target source).run after = .ok () back)
    (key : String) : back.get? key = fs.get? key := by
  have spans_iff := spans_moved_iff different ran placed aimed
  by_cases went : fs.Spans source key ∧ fs.contains key
  · obtain ⟨spans, present⟩ := went
    obtain ⟨rest, rfl⟩ := exists_rest_of_spans spans
    have arrived := (contains_moved_iff different ran placed aimed vacant spans).mpr present
    rw [get?_moved_of_spans different.symm returned ((spans_iff rest).mpr spans) arrived,
      get?_moved_of_spans different ran spans present]
  · have missed : ∀ rest, key = source ++ rest → after.Spans target (target ++ rest) →
        ¬ after.contains (target ++ rest) := by
      rintro rest rfl reached arrived
      have spans := (spans_iff rest).mp reached
      exact went ⟨spans, (contains_moved_iff different ran placed aimed vacant spans).mp arrived⟩
    rw [get?_moved_of_apart different.symm returned missed]
    split
    · next reached => exact (get?_of_vacant vacant (reached.imp_right And.right)).symm
    · next apart =>
      have stays : ∀ rest, key = target ++ rest → fs.Spans source (source ++ rest) →
          ¬ fs.contains (source ++ rest) := by
        rintro rest rfl spans _
        exact apart ((spans_iff rest).mpr spans)
      rw [get?_moved_of_apart different ran stays]
      split
      · next spans =>
        by_contra held
        exact went ⟨spans, contains_iff.mpr (Ne.symm held)⟩
      · rfl

end Moved

/-- A move to a place where nothing is, nor below it, is undone by moving back: that cannot fail, and
    leaves every path with the node that it had before. -/
theorem moves_back (fs : FileSystem) {source target : String} (placed : source ≠ "/")
    (aimed : target ≠ "/") (vacant : fs.Vacant target) {after : FileSystem}
    (ran : (move source target).run fs = .ok () after) :
    ∃ back, (move target source).run after = .ok () back ∧ back.sameEntries fs ∧
      ∀ key, back.get? key = fs.get? key := by
  have free : ¬ fs.contains target := vacant target (.inl rfl)
  have different : source ≠ target := by
    rintro rfl
    rw [move, if_pos rfl, run_ask, requireNode, if_neg free] at ran
    cases ran
  have present : fs.contains source := contains_of_move different ran
  obtain ⟨others, collected⟩ : ∃ others, after.subtree target source = .ok others := by
    refine (subtree_answers after aimed source).2.2.mpr ⟨?_, ?_⟩
    · rw [contains_iff, get?_moved_target different ran, ← contains_iff]
      exact present
    · rintro ⟨-, begins⟩
      exact vacant source (.inr (Path.isBelow_of_begins_slash begins)) present
  have returned := (run_move_eq_ok_iff different.symm).mpr ⟨others, collected, rfl⟩
  have restored := get?_moved_back different ran placed aimed vacant returned
  exact ⟨_, returned, OrderedMap.sameEntries_iff.mpr restored, restored⟩

/-- A directory moves beside one whose name begins alike, and back. -/
theorem moves_back_beside :
    let note : Node := .file ⟨"milk", .epoch⟩
    let fs := (((root.insert "/a" .directory).insert "/a/b" .directory).insert "/a/b/a" note).insert
      "/bc" .directory
    let after := (((root.insert "/bc" .directory).insert "/b" .directory).insert "/b/b" .directory).insert
      "/b/b/a" note
    "/a" ≠ "/" ∧ "/b" ≠ "/" ∧ fs.Vacant "/b" ∧ (move "/a" "/b").run fs = .ok () after ∧
      ∃ back, (move "/b" "/a").run after = .ok () back ∧ back.sameEntries fs ∧
        ∀ key, back.get? key = fs.get? key := by
  intro note fs after
  have placed : "/a" ≠ "/" := by decide
  have aimed : "/b" ≠ "/" := by decide
  have vacant : fs.Vacant "/b" := by
    have apart : ∀ key ∈ fs.entries.keys, ¬ (key = "/b" ∨ Path.isBelow "/b" key) := by decide
    intro key within present
    exact apart key (OrderedMap.contains_iff_mem_keys.mp present) within
  have ran : (move "/a" "/b").run fs = .ok () after :=
    (run_move_eq_ok_iff (by decide)).mpr
      ⟨[("/a", .directory), ("/a/b", .directory), ("/a/b/a", note)], by decide, by decide⟩
  exact ⟨placed, aimed, vacant, ran, moves_back fs placed aimed vacant ran⟩

end Edit
end PathShell
