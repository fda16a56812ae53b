import PathShell.Proofs.FileSystem.Transfer

/-!
# Copying

What a copy answers, and the file system that it leaves: which node stands where, and in which order.
All nodes are collected before the first is put anywhere, so that each arrives as it was. But where the
source lies below the target, a node may arrive at a path of the source itself and take the place of
another node there.
-/

namespace PathShell
namespace FileSystem

/-! ## What a copy does -/

/-- What stood at `source`, and below it, stands at `target` too; `rests` is what follows the source in
    the paths that go along. -/
structure Copied (before after : FileSystem) (source target : String) (rests : List String) : Prop where
  carried : before.carried source = rests.map (source ++ ·)
  distinct : rests.Nodup
  /-- Every node that goes along stands, as it was before, at its place under the target. -/
  arrived : ∀ rest ∈ rests, ∃ node, before.get? (source ++ rest) = some node ∧
    after.get? (target ++ rest) = some node
  /-- Any other path has the node it had, or still none. -/
  kept : ∀ key, key ∉ rests.map (target ++ ·) → after.get? key = before.get? key
  /-- Paths that were there keep their places, and the other targets follow at the end. -/
  order : after.entries.keys =
    before.entries.keys ++ (rests.map (target ++ ·)).filter (· ∉ before.entries.keys)
  growth : after.size = before.size + (rests.map (target ++ ·)).countP (· ∉ before.entries.keys)

theorem copied_graft {fs : FileSystem} {source target : String} {rests : List String}
    {nodes : List (String × Node)} (carried : fs.carried source = rests.map (source ++ ·))
    (distinct : rests.Nodup) (paths : nodes.map Prod.fst = rests.map (source ++ ·))
    (held : ∀ entry ∈ nodes, fs.get? entry.1 = some entry.2) :
    Copied fs (fs.graft source target nodes) source target rests := by
  have order : (fs.graft source target nodes).entries.keys =
      fs.entries.keys ++ (rests.map (target ++ ·)).filter (· ∉ fs.entries.keys) :=
    keys_graft paths distinct fs
  refine ⟨carried, distinct, arrived_graft paths held fs,
    fun key apart => get?_graft_of_not_mem paths fs apart, order, ?_⟩
  have lengths := congrArg List.length order
  rw [List.length_append, ← List.countP_eq_length_filter, ← OrderedMap.size_eq_length_keys,
    ← OrderedMap.size_eq_length_keys] at lengths
  exact lengths

end FileSystem

namespace Edit

open FileSystem

variable {fs : FileSystem} {source target : String}

theorem run_copy_of_ne (different : source ≠ target) (fs : FileSystem) :
    (copy source target).run fs =
      match fs.subtree source target with
      | .ok nodes => .ok () (fs.graft source target nodes)
      | .error cause => .error cause fs := by
  rw [copy, if_neg different, EStateM.run_bind, run_ask]
  cases fs.subtree source target <;> rfl

theorem run_copy_eq_error_iff (different : source ≠ target) {cause : FileError} :
    (copy source target).run fs = .error cause fs ↔ fs.subtree source target = .error cause := by
  rw [run_copy_of_ne different]
  cases fs.subtree source target with
  | ok nodes => simp
  | error found => simp

theorem run_copy_eq_ok_iff (different : source ≠ target) {after : FileSystem} :
    (copy source target).run fs = .ok () after ↔
      ∃ nodes, fs.subtree source target = .ok nodes ∧ fs.graft source target nodes = after := by
  rw [run_copy_of_ne different]
  cases fs.subtree source target with
  | ok nodes => simp
  | error found => simp

/-- What a copy to another place does, for any source but the root. It fails, and changes nothing, where
    there is no source or where a directory would get below itself; else the nodes that go along stand
    at their places under the target as well, and all other nodes stay. -/
theorem copies_carried (fs : FileSystem) {source target : String} (placed : source ≠ "/")
    (different : source ≠ target) :
    ((copy source target).run fs = .error (.notFound source) fs ↔ ¬ fs.contains source) ∧
    ((copy source target).run fs = .error (.invalidTarget source target) fs ↔
      fs.get? source = some .directory ∧ Path.Begins (source ++ "/") target) ∧
    ((∃ after, (copy source target).run fs = .ok () after) ↔
      fs.contains source ∧
        ¬ (fs.get? source = some .directory ∧ Path.Begins (source ++ "/") target)) ∧
    ∀ after, (copy source target).run fs = .ok () after →
      ∃ rests, Copied fs after source target rests := by
  obtain ⟨missing, inside, succeeds⟩ := subtree_answers fs placed target
  refine ⟨?_, ?_, ?_, ?_⟩
  · rw [run_copy_eq_error_iff different, missing]
  · rw [run_copy_eq_error_iff different, inside]
  · rw [← succeeds]
    simp [run_copy_eq_ok_iff different]
  · intro after ran
    obtain ⟨nodes, collected, rfl⟩ := (run_copy_eq_ok_iff different).mp ran
    obtain ⟨rests, carried, distinct⟩ := fs.exists_rests source
    have paths := (paths_of_subtree collected placed).trans carried
    have held : ∀ entry ∈ nodes, fs.get? entry.1 = some entry.2 :=
      fun _ member => ((mem_subtree_iff collected).mp member).2
    exact ⟨rests, copied_graft carried distinct paths held⟩

/-- A directory is copied to the place of the one above it, and what lies in it to its own place. -/
theorem copies_carried_upwards :
    let note : Node := .file ⟨"milk", .epoch⟩
    let fs := ((root.insert "/a" .directory).insert "/a/a" .directory).insert "/a/a/a" note
    let after := ((root.insert "/a" .directory).insert "/a/a" note).insert "/a/a/a" note
    "/a/a" ≠ "/" ∧ "/a/a" ≠ "/a" ∧ (copy "/a/a" "/a").run fs = .ok () after ∧
      ∃ rests, Copied fs after "/a/a" "/a" rests := by
  intro note fs after
  have placed : "/a/a" ≠ "/" := by decide
  have different : "/a/a" ≠ "/a" := by decide
  have ran : (copy "/a/a" "/a").run fs = .ok () after :=
    (run_copy_eq_ok_iff different).mpr ⟨[("/a/a", .directory), ("/a/a/a", note)], by decide, by decide⟩
  exact ⟨placed, different, ran, (copies_carried fs placed different).2.2.2 after ran⟩

/-! ## What becomes of the source -/

/-- A copy leaves the nodes of its source just if none of them arrives at a path of the source that
    another node had, and none can unless the source lies below the target: then all that the source
    spans reads as before. -/
theorem copy_leaves_source_iff (fs : FileSystem) {source target : String} (different : source ≠ target)
    {after : FileSystem} (ran : (copy source target).run fs = .ok () after) :
    ((∀ key, fs.Spans source key → fs.contains key → after.get? key = fs.get? key) ↔
      ∀ rest, fs.Spans source (source ++ rest) → fs.contains (source ++ rest) →
        fs.Spans source (target ++ rest) → fs.contains (target ++ rest) →
        fs.get? (target ++ rest) = fs.get? (source ++ rest)) ∧
    (¬ Path.Begins (target ++ "/") source →
      ∀ key, fs.Spans source key → after.get? key = fs.get? key) := by
  obtain ⟨nodes, collected, rfl⟩ := (run_copy_eq_ok_iff different).mp ran
  refine ⟨⟨?_, ?_⟩, ?_⟩
  · intro same rest carried present reached taken
    rw [← get?_graft_of_spans collected fs carried present]
    exact (same _ reached taken).symm
  · intro fits key spans present
    by_cases grafted : ∃ rest, key = target ++ rest ∧ fs.Spans source (source ++ rest) ∧
        fs.contains (source ++ rest)
    · obtain ⟨rest, rfl, carried, there⟩ := grafted
      rw [get?_graft_of_spans collected fs carried there, fits rest carried there spans present]
    · refine get?_graft_of_apart collected fs fun rest lands carried there => ?_
      exact grafted ⟨rest, lands, carried, there⟩
  · intro apart key spans
    refine get?_graft_of_apart collected fs fun rest lands carried _ => apart ?_
    exact begins_of_spans collected different carried (lands ▸ spans)

/-- A directory is copied beside itself. -/
theorem copy_beside_leaves_source :
    let note : Node := .file ⟨"milk", .epoch⟩
    let fs := (root.insert "/a" .directory).insert "/a/f" note
    let after := (fs.insert "/b" .directory).insert "/b/f" note
    "/a" ≠ "/b" ∧ (copy "/a" "/b").run fs = .ok () after ∧
      ∀ key, fs.Spans "/a" key → after.get? key = fs.get? key := by
  intro note fs after
  have different : "/a" ≠ "/b" := by decide
  have ran : (copy "/a" "/b").run fs = .ok () after :=
    (run_copy_eq_ok_iff different).mpr ⟨[("/a", .directory), ("/a/f", note)], by decide, by decide⟩
  exact ⟨different, ran, (copy_leaves_source_iff fs different ran).2 (by decide)⟩

/-- A directory is copied to the place of the one above it, and the file in it, which has the same name,
    takes its own place. -/
theorem copy_upwards_replaces_source :
    let note : Node := .file ⟨"milk", .epoch⟩
    let fs := ((root.insert "/a" .directory).insert "/a/a" .directory).insert "/a/a/a" note
    let after := ((root.insert "/a" .directory).insert "/a/a" note).insert "/a/a/a" note
    "/a/a" ≠ "/a" ∧ (copy "/a/a" "/a").run fs = .ok () after ∧ fs.Spans "/a/a" "/a/a" ∧
      fs.get? "/a/a" = some .directory ∧ after.get? "/a/a" = some note := by
  intro note fs after
  have different : "/a/a" ≠ "/a" := by decide
  have ran : (copy "/a/a" "/a").run fs = .ok () after :=
    (run_copy_eq_ok_iff different).mpr ⟨[("/a/a", .directory), ("/a/a/a", note)], by decide, by decide⟩
  exact ⟨different, ran, .inl rfl, by decide, by decide⟩

end Edit
end PathShell
