import PathShell.Proofs.FileSystem.Transfer

/-!
# Moving

What a move answers, and the file system that it leaves: which node stands where, and in which order.
The nodes that go along leave the map before the first of them arrives, so that a target may well be a
path that one of them had.
-/

namespace PathShell
namespace FileSystem

/-! ## What is left once the nodes have gone -/

theorem any_eq_of_paths {nodes : List (String × Node)} {paths : List String}
    (same : nodes.map Prod.fst = paths) (key : String) :
    (nodes.any fun entry => entry.1 = key) = decide (key ∈ paths) := by
  rw [Bool.eq_iff_iff, List.any_eq_true, decide_eq_true_eq, ← same, List.mem_map]
  simp

theorem keys_prune {nodes : List (String × Node)} {paths : List String}
    (same : nodes.map Prod.fst = paths) (fs : FileSystem) :
    (fs.prune nodes).entries.keys = fs.entries.keys.filter (· ∉ paths) := by
  rw [prune, OrderedMap.keys_filter]
  refine List.filter_congr fun key _ => ?_
  rw [any_eq_of_paths same, decide_not]

theorem get?_prune {nodes : List (String × Node)} {paths : List String}
    (same : nodes.map Prod.fst = paths) (fs : FileSystem) (key : String) :
    (fs.prune nodes).get? key = if key ∈ paths then none else fs.get? key := by
  rw [get?, prune, OrderedMap.get?_filter, any_eq_of_paths same]
  by_cases inside : key ∈ paths
  · simp [inside]
  · simp [inside, get?]

/-! ## What a move does -/

/-- What stood at `source`, and below it, stands at `target`; `rests` is what follows the source in the
    paths that go along. -/
structure Moved (before after : FileSystem) (source target : String) (rests : List String) : Prop where
  carried : before.carried source = rests.map (source ++ ·)
  distinct : rests.Nodup
  /-- Every node that goes along gets to its place under the target. -/
  arrived : ∀ rest ∈ rests, ∃ node, before.get? (source ++ rest) = some node ∧
    after.get? (target ++ rest) = some node
  /-- It stands nowhere else: the nodes at the targets are those that went along, each once. -/
  whole : ((after.entries.entries.filter fun entry => entry.1 ∈ rests.map (target ++ ·)).map
    Prod.snd).Perm ((before.entries.entries.filter fun entry =>
      entry.1 ∈ rests.map (source ++ ·)).map Prod.snd)
  /-- The paths that it left are gone, unless another one got there. -/
  gone : ∀ key ∈ rests.map (source ++ ·), key ∉ rests.map (target ++ ·) → after.get? key = none
  /-- Any other path has the node it had, or still none. -/
  kept : ∀ key, key ∉ rests.map (source ++ ·) → key ∉ rests.map (target ++ ·) →
    after.get? key = before.get? key
  /-- Paths that stay keep their places, and the other targets follow at the end. -/
  order : let staying := before.entries.keys.filter (· ∉ rests.map (source ++ ·))
    after.entries.keys = staying ++ (rests.map (target ++ ·)).filter (· ∉ staying)

theorem moved_graft_prune {fs : FileSystem} {source target : String} {rests : List String}
    {nodes : List (String × Node)} (carried : fs.carried source = rests.map (source ++ ·))
    (distinct : rests.Nodup) (paths : nodes.map Prod.fst = rests.map (source ++ ·))
    (held : ∀ entry ∈ nodes, fs.get? entry.1 = some entry.2) :
    Moved fs ((fs.prune nodes).graft source target nodes) source target rests := by
  have arrived : ∀ rest ∈ rests, ∃ node, fs.get? (source ++ rest) = some node ∧
      ((fs.prune nodes).graft source target nodes).get? (target ++ rest) = some node :=
    arrived_graft paths held (fs.prune nodes)
  refine ⟨carried, distinct, arrived, ?_, ?_, ?_, ?_⟩
  · -- Both sides list the nodes at `rests`, in some order.
    have before := OrderedMap.values_perm (nodup_targets source distinct) fs.entries
    have after := OrderedMap.values_perm (nodup_targets target distinct)
      ((fs.prune nodes).graft source target nodes).entries
    refine after.trans (List.Perm.trans (List.Perm.of_eq ?_) before.symm)
    rw [List.filterMap_map, List.filterMap_map]
    refine List.filterMap_congr fun rest member => ?_
    obtain ⟨node, stood, stands⟩ := arrived rest member
    exact stands.trans stood.symm
  · intro key left apart
    rw [get?_graft_of_not_mem paths _ apart, get?_prune paths, if_pos left]
  · intro key stays apart
    rw [get?_graft_of_not_mem paths _ apart, get?_prune paths, if_neg stays]
  · rw [keys_graft paths distinct, keys_prune paths]

end FileSystem

namespace Edit

open FileSystem

theorem run_move_of_ne {source target : String} (different : source ≠ target) (fs : FileSystem) :
    (move source target).run fs =
      match fs.subtree source target with
      | .ok nodes => .ok () ((fs.prune nodes).graft source target nodes)
      | .error cause => .error cause fs := by
  rw [move, if_neg different, EStateM.run_bind, run_ask]
  cases fs.subtree source target <;> rfl

theorem run_move_eq_ok_iff {source target : String} (different : source ≠ target)
    {fs after : FileSystem} : (move source target).run fs = .ok () after ↔
      ∃ nodes, fs.subtree source target = .ok nodes ∧
        (fs.prune nodes).graft source target nodes = after := by
  rw [run_move_of_ne different]
  cases fs.subtree source target with
  | ok nodes => simp
  | error cause => simp

/-- What a move does, for any source but the root. To its own place a node moves just if it is there,
    and nothing changes. To any other place the move fails, and changes nothing, where there is no
    source or where a directory would get below itself; else the nodes that go along get to their
    places, and all other nodes keep theirs. -/
theorem moves_carried (fs : FileSystem) {source : String} (placed : source ≠ "/") (target : String) :
    (source = target → (move source target).run fs =
      if fs.contains source then .ok () fs else .error (.notFound source) fs) ∧
    (source ≠ target →
      ((move source target).run fs = .error (.notFound source) fs ↔ ¬ fs.contains source) ∧
      ((move source target).run fs = .error (.invalidTarget source target) fs ↔
        fs.get? source = some .directory ∧ Path.Begins (source ++ "/") target) ∧
      ((∃ after, (move source target).run fs = .ok () after) ↔
        fs.contains source ∧
          ¬ (fs.get? source = some .directory ∧ Path.Begins (source ++ "/") target)) ∧
      ∀ after, (move source target).run fs = .ok () after →
        ∃ rests, Moved fs after source target rests) := by
  constructor
  · rintro rfl
    rw [move, if_pos rfl, run_ask, requireNode]
    cases fs.contains source <;> rfl
  · intro different
    rw [run_move_of_ne different]
    rcases subtree_cases fs placed target with
      ⟨missing, failed⟩ | ⟨directory, inside, failed⟩ | ⟨present, outside, nodes, carries, paths, held⟩
    · have nothing : fs.get? source ≠ some .directory := by
        intro found
        exact missing (Option.isSome_of_eq_some found)
      simp [failed, missing, nothing]
    · have present : fs.contains source := Option.isSome_of_eq_some directory
      simp [failed, directory, inside, present]
    · obtain ⟨rests, carried, distinct⟩ := fs.exists_rests source
      have moved : Moved fs ((fs.prune nodes).graft source target nodes) source target rests :=
        moved_graft_prune carried distinct (paths.trans carried) held
      simp only [carries]
      refine ⟨?_, ?_, ?_, ?_⟩
      · simp [present]
      · simp [outside]
      · simp [present, outside]
      · intro after left
        cases left
        exact ⟨rests, moved⟩

/-- A directory moves to the place of the one above it, and what lies in it to its own old place. -/
theorem moves_carried_upwards :
    let note : Node := .file ⟨"milk", .epoch⟩
    let fs := ((root.insert "/a" .directory).insert "/a/a" .directory).insert "/a/a/a" note
    let after := (root.insert "/a" .directory).insert "/a/a" note
    "/a/a" ≠ "/" ∧ (move "/a/a" "/a").run fs = .ok () after ∧
      ∃ rests, Moved fs after "/a/a" "/a" rests := by
  intro note fs after
  have placed : "/a/a" ≠ "/" := by decide
  obtain ⟨-, -, succeeds, moved⟩ := (moves_carried fs placed "/a").2 (by decide)
  obtain ⟨landed, ran⟩ := succeeds.mpr ⟨by decide, by decide⟩
  have same : landed = after := by
    have leaves : (move "/a/a" "/a").left fs = after := by decide
    rw [← left_of_run ran, leaves]
  rw [same] at ran
  exact ⟨placed, ran, moved after ran⟩

end Edit
end PathShell
