import PathShell.Proofs.FileSystem.Copy
import PathShell.Proofs.FileSystem.Move

/-!
# Listings

A directory lists the segments that make a key with it. Moved or copied, it lists at its target what it
listed before, since what follows its path in a key stays the same. Only the root makes its children
without a slash of its own: what comes from another directory has a slash too many there, and what
comes from the root lacks one in another directory.
-/

namespace PathShell
namespace FileSystem

/-- An entry is listed just if its name is a segment that makes a key with the directory, and it tells
    what kind of node is there. -/
theorem mem_list_iff {fs : FileSystem} {dir : String} {entry : ListedEntry} :
    entry ∈ fs.list dir ↔ Path.IsSegment entry.name ∧
      ∃ node, fs.get? (Path.join dir entry.name) = some node ∧ node.isDirectory = entry.isDirectory := by
  rw [list, List.mem_filterMap]
  constructor
  · rintro ⟨⟨key, node⟩, member, listed⟩
    obtain ⟨name, named, rfl⟩ := Option.map_eq_some_iff.mp listed
    obtain ⟨segment, rfl⟩ := Path.childName?_eq_some_iff.mp named
    exact ⟨segment, node, OrderedMap.get?_eq_some_iff.mpr member, rfl⟩
  · rintro ⟨segment, node, found, kind⟩
    refine ⟨(Path.join dir entry.name, node), OrderedMap.get?_eq_some_iff.mp found, ?_⟩
    rw [Path.childName?_eq_some_iff.mpr ⟨segment, rfl⟩, Option.map_some, kind]

/-- Every child is listed under the last segment of its key. -/
theorem list_eq_basenames (fs : FileSystem) (dir : String) :
    fs.list dir = fs.entries.entries.filterMap fun entry =>
      if (Path.childName? dir entry.1).isSome then
        some ⟨Path.basename entry.1, entry.2.isDirectory⟩
      else none := by
  rw [list]
  refine List.filterMap_congr fun entry _ => ?_
  cases named : Path.childName? dir entry.1 with
  | none => rfl
  | some name => simp [Path.basename_of_childName? named]

/-- The entries are those of the keys that are children, in the order of the keys. -/
theorem keys_list (fs : FileSystem) (dir : String) :
    (fs.list dir).map (fun entry => Path.join dir entry.name) =
      fs.entries.keys.filter fun key => (Path.childName? dir key).isSome := by
  rw [list, List.map_filterMap, OrderedMap.keys, ← List.filterMap_eq_filter, List.filterMap_map]
  refine List.filterMap_congr fun entry _ => ?_
  cases named : Path.childName? dir entry.1 with
  | none => simp [named, Option.guard]
  | some name =>
    obtain ⟨-, whole⟩ := Path.childName?_eq_some_iff.mp named
    simp [named, Option.guard, ← whole]

theorem keys_list_sublist (fs : FileSystem) (dir : String) :
    ((fs.list dir).map fun entry => Path.join dir entry.name).Sublist fs.entries.keys := by
  rw [keys_list]
  exact List.filter_sublist

theorem nodup_names_list (fs : FileSystem) (dir : String) :
    ((fs.list dir).map ListedEntry.name).Nodup := by
  have nodup := fs.entries.nodup.sublist (fs.keys_list_sublist dir)
  refine List.Nodup.of_map (Path.join dir) ?_
  rwa [List.map_map]

/-- Keys that are taken away are no longer listed, and nothing else changes in a listing. -/
theorem list_filter (fs : FileSystem) (keep : String → Bool) (dir : String) :
    list ⟨fs.entries.filter keep⟩ dir =
      (fs.list dir).filter fun entry => keep (Path.join dir entry.name) := by
  rw [list, list, OrderedMap.filter, List.filterMap_filter, List.filter_filterMap]
  refine List.filterMap_congr fun entry _ => ?_
  cases named : Path.childName? dir entry.1 with
  | none => simp
  | some name =>
    obtain ⟨-, whole⟩ := Path.childName?_eq_some_iff.mp named
    by_cases kept : keep entry.1
    · simp [← whole, kept, Option.filter]
    · simp [← whole, kept, Option.filter]

/-! ## Transfers -/

/-- What a directory lists is listed where its nodes are grafted, unless one of the two is the root. -/
theorem mem_list_graft {fs : FileSystem} {source target : String} {nodes : List (String × Node)}
    (placed : source ≠ "/") (aimed : target ≠ "/") (directory : fs.get? source = some .directory)
    (collected : fs.subtree source target = .ok nodes) (base : FileSystem) {entry : ListedEntry}
    (listed : entry ∈ fs.list source) : entry ∈ (base.graft source target nodes).list target := by
  obtain ⟨segment, node, found, kind⟩ := mem_list_iff.mp listed
  have child (dir : String) (other : dir ≠ "/") : Path.join dir entry.name = dir ++ ("/" ++ entry.name) := by
    rw [Path.join, if_neg other, String.append_assoc]
  have below : Path.isBelow source (Path.join source entry.name) :=
    Path.isBelow_of_begins_join (Path.begins_refl _)
  rw [child source placed] at found below
  have stands := get?_graft_of_spans collected base (.inr ⟨directory, below⟩) (Option.isSome_of_eq_some found)
  rw [mem_list_iff, child target aimed, stands]
  exact ⟨segment, node, found, kind⟩

end FileSystem

namespace Edit

open FileSystem

/-- Whatever a directory shows, it shows at the place that it is copied or moved to, unless it is the
    root or gets to the place of the root. -/
theorem transfers_show_children (fs : FileSystem) {source target : String} (placed : source ≠ "/")
    (aimed : target ≠ "/") (different : source ≠ target)
    (directory : fs.get? source = some .directory) :
    (∀ after, (copy source target).run fs = .ok () after →
      ∀ entry ∈ fs.list source, entry ∈ after.list target) ∧
    (∀ after, (move source target).run fs = .ok () after →
      ∀ entry ∈ fs.list source, entry ∈ after.list target) := by
  constructor
  · intro after ran entry listed
    obtain ⟨nodes, collected, rfl⟩ := (run_copy_eq_ok_iff different).mp ran
    exact mem_list_graft placed aimed directory collected fs listed
  · intro after ran entry listed
    obtain ⟨nodes, collected, rfl⟩ := (run_move_eq_ok_iff different).mp ran
    exact mem_list_graft placed aimed directory collected (fs.prune nodes) listed

/-- A directory with a note is copied to the place of the one above it. -/
theorem transfers_show_children_upwards :
    let note : Node := .file ⟨"milk", .epoch⟩
    let fs := ((root.insert "/a" .directory).insert "/a/a" .directory).insert "/a/a/a" note
    let after := ((root.insert "/a" .directory).insert "/a/a" note).insert "/a/a/a" note
    "/a/a" ≠ "/" ∧ "/a" ≠ "/" ∧ "/a/a" ≠ "/a" ∧ fs.get? "/a/a" = some .directory ∧
      (copy "/a/a" "/a").run fs = .ok () after ∧ ∀ entry ∈ fs.list "/a/a", entry ∈ after.list "/a" := by
  intro note fs after
  have placed : "/a/a" ≠ "/" := by decide
  have aimed : "/a" ≠ "/" := by decide
  have different : "/a/a" ≠ "/a" := by decide
  have directory : fs.get? "/a/a" = some .directory := by decide
  have ran : (copy "/a/a" "/a").run fs = .ok () after :=
    (run_copy_eq_ok_iff different).mpr ⟨[("/a/a", .directory), ("/a/a/a", note)], by decide, by decide⟩
  exact ⟨placed, aimed, different, directory, ran,
    (transfers_show_children fs placed aimed different directory).1 after ran⟩

/-- A copy to the root, and one of the root, with children that their new directory does not list. -/
theorem root_transfers_hide_children :
    let fs := (root.insert "/a" .directory).insert "/a/b" .directory
    let into := fs.insert "//b" .directory
    let apart := ((fs.insert "x" .directory).insert "xa" .directory).insert "xa/b" .directory
    (fs.get? "/a" = some .directory ∧ (copy "/a" "/").run fs = .ok () into ∧
      ⟨"b", true⟩ ∈ fs.list "/a" ∧ ⟨"b", true⟩ ∉ into.list "/") ∧
    (fs.get? "/" = some .directory ∧ (copy "/" "x").run fs = .ok () apart ∧
      ⟨"a", true⟩ ∈ fs.list "/" ∧ ⟨"a", true⟩ ∉ apart.list "x") := by
  intro fs into apart
  have toRoot : (copy "/a" "/").run fs = .ok () into :=
    (run_copy_eq_ok_iff (by decide)).mpr
      ⟨[("/a", .directory), ("/a/b", .directory)], by decide, by decide⟩
  -- The root is collected twice: it begins with its own stem.
  have ofRoot : (copy "/" "x").run fs = .ok () apart :=
    (run_copy_eq_ok_iff (by decide)).mpr
      ⟨[("/", .directory), ("/", .directory), ("/a", .directory), ("/a/b", .directory)], by decide,
        by decide⟩
  exact ⟨⟨by decide, toRoot, by decide, by decide⟩, ⟨by decide, ofRoot, by decide, by decide⟩⟩

end Edit
end PathShell
