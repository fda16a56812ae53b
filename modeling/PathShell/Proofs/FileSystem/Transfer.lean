import PathShell.Proofs.FileSystem.Edit

/-!
# What a transfer carries

A node goes along with all that lies below it, and every path it carries is the path of the node with
something after it. What comes after stays the same at the target, so that no two of the nodes get to
the same place, and what becomes of the other entries is told by their paths alone. The root lies below
itself: its node is collected twice, but both times it is the same.
-/

namespace PathShell
namespace FileSystem

/-- The paths of what goes along when the node at `source` is transferred: its own first, then, if it is
    a directory, those below it in their order. -/
def carried (fs : FileSystem) (source : String) : List String :=
  source ::
    if fs.get? source = some .directory then
      fs.entries.keys.filter fun key => Path.Begins (source ++ "/") key
    else []

theorem begins_of_mem_carried {fs : FileSystem} {source key : String}
    (member : key ∈ fs.carried source) : Path.Begins source key := by
  rcases List.mem_cons.mp member with rfl | below
  · exact Path.begins_refl key
  · split at below
    · have slash : Path.Begins source (source ++ "/") := Path.begins_iff.mpr ⟨"/", rfl⟩
      have begins : Path.Begins (source ++ "/") key := of_decide_eq_true (List.mem_filter.mp below).2
      exact slash.trans begins
    · cases below

/-- A directory does not lie below itself. -/
theorem nodup_carried (fs : FileSystem) (source : String) : (fs.carried source).Nodup := by
  rw [carried, List.nodup_cons]
  split
  · refine ⟨fun inside => ?_, fs.entries.nodup.filter _⟩
    have begins : Path.Begins (source ++ "/") source := of_decide_eq_true (List.mem_filter.mp inside).2
    have longer := begins.length_le
    rw [String.toList_append, List.length_append] at longer
    have slash : "/".toList.length = 1 := rfl
    omega
  · exact ⟨List.not_mem_nil, List.nodup_nil⟩

/-- Every path that goes along is the source with something after it, and never the same. -/
theorem exists_rests (fs : FileSystem) (source : String) :
    ∃ rests : List String, fs.carried source = rests.map (source ++ ·) ∧ rests.Nodup := by
  have begins : ∀ key ∈ fs.carried source, Path.Begins source key := fun _ => begins_of_mem_carried
  obtain ⟨rests, carried⟩ := Path.exists_rests_of_begins begins
  refine ⟨rests, carried, ?_⟩
  have nodup := fs.nodup_carried source
  rw [carried] at nodup
  exact nodup.of_map

/-! ## The subtree -/

/-- `key` is `source` or, where a directory is there, lies below it. -/
def Spans (fs : FileSystem) (source key : String) : Prop :=
  key = source ∨ fs.get? source = some .directory ∧ Path.isBelow source key

/-- A transfer finds nothing to carry, or a directory that would get below itself, or the nodes at the
    paths that go along. -/
theorem subtree_cases (fs : FileSystem) {source : String} (placed : source ≠ "/") (target : String) :
    (¬ fs.contains source ∧ fs.subtree source target = .error (.notFound source)) ∨
    (fs.get? source = some .directory ∧ Path.Begins (source ++ "/") target ∧
      fs.subtree source target = .error (.invalidTarget source target)) ∨
    (fs.contains source ∧ ¬ (fs.get? source = some .directory ∧ Path.Begins (source ++ "/") target) ∧
      ∃ nodes, fs.subtree source target = .ok nodes ∧ nodes.map Prod.fst = fs.carried source ∧
        ∀ entry ∈ nodes, fs.get? entry.1 = some entry.2) := by
  rw [contains_iff, subtree, carried]
  cases found : fs.get? source with
  | none => exact .inl ⟨by simp, rfl⟩
  | some node =>
    cases node with
    | file file =>
      refine .inr (.inr ⟨by simp, by simp, _, rfl, by simp, fun entry member => ?_⟩)
      rw [List.mem_singleton.mp member]
      exact found
    | directory =>
      dsimp only
      by_cases inside : Path.Begins (source ++ "/") target
      · have below := (Path.isBelow_iff_of_ne_root placed).mpr inside
        exact .inr (.inl ⟨rfl, inside, if_pos below⟩)
      · have apart := fun below => inside ((Path.isBelow_iff_of_ne_root placed).mp below)
        refine .inr (.inr ⟨by simp, fun both => inside both.2, _, if_neg apart, ?_, ?_⟩)
        · rw [List.map_cons, if_pos rfl, OrderedMap.keys, List.filter_map]
          congr 2
          refine List.filter_congr fun entry _ => ?_
          rw [Bool.eq_iff_iff, Path.isBelow_iff_of_ne_root placed]
          simp
        · intro entry member
          rcases List.mem_cons.mp member with rfl | below
          · exact found
          · exact OrderedMap.get?_eq_some_iff.mpr (List.mem_filter.mp below).1

/-- Each answer of a transfer that collects its nodes, by the condition for it. -/
theorem subtree_answers (fs : FileSystem) {source : String} (placed : source ≠ "/") (target : String) :
    (fs.subtree source target = .error (.notFound source) ↔ ¬ fs.contains source) ∧
    (fs.subtree source target = .error (.invalidTarget source target) ↔
      fs.get? source = some .directory ∧ Path.Begins (source ++ "/") target) ∧
    ((∃ nodes, fs.subtree source target = .ok nodes) ↔
      fs.contains source ∧
        ¬ (fs.get? source = some .directory ∧ Path.Begins (source ++ "/") target)) := by
  rcases subtree_cases fs placed target with
    ⟨missing, failed⟩ | ⟨directory, inside, failed⟩ | ⟨present, outside, nodes, carries, -, -⟩
  · have nothing : fs.get? source ≠ some .directory := fun found =>
      missing (Option.isSome_of_eq_some found)
    simp [failed, missing, nothing]
  · have present : fs.contains source := Option.isSome_of_eq_some directory
    simp [failed, directory, inside, present]
  · simp [carries, present, outside]

section Collected

variable {fs : FileSystem} {source target : String} {nodes : List (String × Node)}
  (collected : fs.subtree source target = .ok nodes)

include collected

/-- A subtree has the nodes that its source spans, be that the root or not. -/
theorem mem_subtree_iff {key : String} {node : Node} :
    (key, node) ∈ nodes ↔ fs.Spans source key ∧ fs.get? key = some node := by
  rw [subtree] at collected
  rw [Spans]
  split at collected
  · cases collected
  · next file found =>
    cases collected
    simp only [List.mem_singleton, Prod.mk.injEq, found]
    constructor
    · rintro ⟨rfl, rfl⟩
      exact ⟨.inl rfl, found⟩
    · rintro ⟨rfl | ⟨directory, -⟩, held⟩
      · exact ⟨rfl, by simpa [found] using held.symm⟩
      · cases directory
  · next found =>
    split at collected
    · cases collected
    · cases collected
      simp only [List.mem_cons, Prod.mk.injEq, List.mem_filter, ← OrderedMap.get?_eq_some_iff, found,
        true_and]
      constructor
      · rintro (⟨rfl, rfl⟩ | ⟨held, below⟩)
        · exact ⟨.inl rfl, found⟩
        · exact ⟨.inr below, held⟩
      · rintro ⟨rfl | below, held⟩
        · exact .inl ⟨rfl, by simpa [found] using held.symm⟩
        · exact .inr ⟨held, below⟩

/-- They come in the order of the paths that go along. -/
theorem paths_of_subtree (placed : source ≠ "/") : nodes.map Prod.fst = fs.carried source := by
  rcases subtree_cases fs placed target with
    ⟨-, failed⟩ | ⟨-, -, failed⟩ | ⟨-, -, others, carries, paths, -⟩
  · rw [collected] at failed
    cases failed
  · rw [collected] at failed
    cases failed
  · rw [collected] at carries
    cases carries
    exact paths

/-- A directory that is transferred is not placed below itself. -/
theorem not_isBelow_of_subtree (directory : fs.get? source = some .directory) :
    ¬ Path.isBelow source target := by
  intro below
  rw [subtree, directory] at collected
  simp [below] at collected

/-- Where the source spans a path that something which goes along gets to, it lies below the target. -/
theorem begins_of_spans (different : source ≠ target) {rest : String}
    (along : fs.Spans source (source ++ rest)) (reached : fs.Spans source (target ++ rest)) :
    Path.Begins (target ++ "/") source := by
  by_cases directory : fs.get? source = some .directory
  · simp only [Spans, directory, true_and] at along reached
    exact Path.begins_of_reaches different (not_isBelow_of_subtree collected directory) along reached
  · simp only [Spans, directory, false_and, or_false] at along reached
    have nothing : rest = "" := by simpa using along
    rw [nothing, String.append_empty] at reached
    exact absurd reached.symm different

/-- Every path of a subtree is the source with something after it. -/
theorem exists_rests_of_subtree : ∃ rests : List String,
    nodes.map Prod.fst = rests.map (source ++ ·) ∧
      ∀ rest, rest ∈ rests ↔ fs.Spans source (source ++ rest) ∧ fs.contains (source ++ rest) := by
  have begins : ∀ key ∈ nodes.map Prod.fst, Path.Begins source key := by
    intro key member
    obtain ⟨entry, inside, rfl⟩ := List.mem_map.mp member
    exact begins_of_mem_subtree collected entry inside
  obtain ⟨rests, paths⟩ := Path.exists_rests_of_begins begins
  refine ⟨rests, paths, fun rest => ?_⟩
  have path : rest ∈ rests ↔ source ++ rest ∈ nodes.map Prod.fst := by
    rw [paths, List.mem_map_of_injective fun _ _ same => (String.append_right_inj source).mp same]
  rw [path, contains, OrderedMap.contains, Option.isSome_iff_exists, List.mem_map]
  constructor
  · rintro ⟨⟨key, node⟩, member, rfl⟩
    obtain ⟨spans, held⟩ := (mem_subtree_iff collected).mp member
    exact ⟨spans, node, held⟩
  · rintro ⟨spans, node, held⟩
    exact ⟨_, (mem_subtree_iff collected).mpr ⟨spans, held⟩, rfl⟩

end Collected

/-! ## Grafting -/

section Graft

variable {source target : String} {rests : List String} {nodes : List (String × Node)}

/-- The members that a graft inserts. -/
def grafts (source target : String) (nodes : List (String × Node)) : List (String × Node) :=
  nodes.map fun entry => (Path.rebase source target entry.1, entry.2)

theorem entries_graft (fs : FileSystem) (source target : String) (nodes : List (String × Node)) :
    (fs.graft source target nodes).entries =
      (grafts source target nodes).foldl (fun map member => map.insert member.1 member.2)
        fs.entries := by
  rw [grafts, List.foldl_map]
  induction nodes generalizing fs with
  | nil => rfl
  | cons entry rest ih => exact ih _

theorem keys_grafts (paths : nodes.map Prod.fst = rests.map (source ++ ·)) :
    (grafts source target nodes).map Prod.fst = rests.map (target ++ ·) := by
  have rebased := congrArg (List.map (Path.rebase source target)) paths
  rw [List.map_map, List.map_map] at rebased
  rw [grafts, List.map_map]
  refine Eq.trans rebased (List.map_congr_left fun rest _ => ?_)
  exact Path.rebase_append source target rest

theorem nodup_targets (target : String) (nodup : rests.Nodup) : (rests.map (target ++ ·)).Nodup :=
  nodup.map fun _ _ same => by simpa using same

/-- No two nodes get to the same place. -/
theorem nodup_grafts (paths : nodes.map Prod.fst = rests.map (source ++ ·)) (nodup : rests.Nodup) :
    ((grafts source target nodes).map Prod.fst).Nodup := by
  rw [keys_grafts paths]
  exact nodup_targets target nodup

/-- Paths that are there keep their places, and the others follow in the order of the nodes. -/
theorem keys_graft (paths : nodes.map Prod.fst = rests.map (source ++ ·)) (nodup : rests.Nodup)
    (fs : FileSystem) :
    (fs.graft source target nodes).entries.keys =
      fs.entries.keys ++ (rests.map (target ++ ·)).filter (· ∉ fs.entries.keys) := by
  rw [entries_graft, OrderedMap.keys_foldl_insert (nodup_grafts paths nodup), keys_grafts paths]

/-- Every node stands at its place under the target. -/
theorem get?_graft_of_mem (paths : nodes.map Prod.fst = rests.map (source ++ ·)) {before : FileSystem}
    (held : ∀ entry ∈ nodes, before.get? entry.1 = some entry.2) (fs : FileSystem) {rest : String}
    (member : rest ∈ rests) :
    (fs.graft source target nodes).get? (target ++ rest) = before.get? (source ++ rest) := by
  have agree : ∀ grafted ∈ grafts source target nodes, grafted.1 = target ++ rest →
      some grafted.2 = before.get? (source ++ rest) := by
    intro grafted among same
    obtain ⟨entry, inside, rfl⟩ := List.mem_map.mp among
    have path : entry.1 ∈ rests.map (source ++ ·) := paths ▸ List.mem_map_of_mem inside
    obtain ⟨other, -, whole⟩ := List.mem_map.mp path
    rw [← whole, Path.rebase_append, String.append_right_inj] at same
    rw [← held entry inside, ← whole, same]
  have among : target ++ rest ∈ (grafts source target nodes).map Prod.fst := by
    rw [keys_grafts paths]
    exact List.mem_map_of_mem member
  rw [get?, entries_graft, OrderedMap.get?_foldl_insert agree, if_pos among]

/-- So the node that a path had is found at its target. -/
theorem arrived_graft (paths : nodes.map Prod.fst = rests.map (source ++ ·)) {before : FileSystem}
    (held : ∀ entry ∈ nodes, before.get? entry.1 = some entry.2) (fs : FileSystem) :
    ∀ rest ∈ rests, ∃ node, before.get? (source ++ rest) = some node ∧
      (fs.graft source target nodes).get? (target ++ rest) = some node := by
  intro rest member
  have path : source ++ rest ∈ nodes.map Prod.fst := paths ▸ List.mem_map_of_mem member
  obtain ⟨⟨key, node⟩, inside, rfl⟩ := List.mem_map.mp path
  exact ⟨node, held _ inside, (get?_graft_of_mem paths held fs member).trans (held _ inside)⟩

/-- Any other path keeps its node. -/
theorem get?_graft_of_not_mem (paths : nodes.map Prod.fst = rests.map (source ++ ·))
    (fs : FileSystem) {key : String} (apart : key ∉ rests.map (target ++ ·)) :
    (fs.graft source target nodes).get? key = fs.get? key := by
  rw [← keys_grafts paths] at apart
  have agree : ∀ grafted ∈ grafts source target nodes, grafted.1 = key → some grafted.2 = none :=
    fun _ among same => absurd (same ▸ List.mem_map_of_mem among) apart
  rw [get?, entries_graft, OrderedMap.get?_foldl_insert agree, if_neg apart]
  rfl

end Graft

/-! ## Grafting what was collected -/

section Collected

variable {fs : FileSystem} {source target : String} {nodes : List (String × Node)}
  (collected : fs.subtree source target = .ok nodes)

include collected

/-- A node that goes along stands at its place under the target, whatever it was grafted onto. -/
theorem get?_graft_of_spans (base : FileSystem) {rest : String}
    (spans : fs.Spans source (source ++ rest)) (present : fs.contains (source ++ rest)) :
    (base.graft source target nodes).get? (target ++ rest) = fs.get? (source ++ rest) := by
  obtain ⟨rests, paths, whole⟩ := exists_rests_of_subtree collected
  have held : ∀ entry ∈ nodes, fs.get? entry.1 = some entry.2 :=
    fun _ member => ((mem_subtree_iff collected).mp member).2
  exact get?_graft_of_mem paths held base ((whole rest).mpr ⟨spans, present⟩)

/-- A path that no node gets to keeps its node. -/
theorem get?_graft_of_apart (base : FileSystem) {key : String}
    (apart : ∀ rest, key = target ++ rest → fs.Spans source (source ++ rest) →
      ¬ fs.contains (source ++ rest)) :
    (base.graft source target nodes).get? key = base.get? key := by
  obtain ⟨rests, paths, whole⟩ := exists_rests_of_subtree collected
  refine get?_graft_of_not_mem paths base fun inside => ?_
  obtain ⟨rest, member, rfl⟩ := List.mem_map.mp inside
  obtain ⟨spans, present⟩ := (whole rest).mp member
  exact apart rest rfl spans present

end Collected

end FileSystem
end PathShell
