import PathShell.Proofs.FileSystem.Edit

/-!
# What edits look at

An edit is confined to a set of paths if the entries at other paths are nothing to it: on two file
systems with the same entries inside the set, in the same order, it answers alike and leaves the same
entries inside. Every edit of the file system is confined to any set that holds what begins with the
paths it is given.
-/

namespace PathShell

/-! ## Entries inside a set of paths -/

namespace FileSystem

/-- The entries whose paths are `inside`, in order. -/
def part (inside : String → Bool) (fs : FileSystem) : List (String × Node) :=
  fs.entries.entries.filter fun entry => inside entry.1

theorem part_of_part {inside narrow : String → Bool} (covers : ∀ key, narrow key → inside key)
    (fs : FileSystem) : fs.part narrow = (fs.part inside).filter fun entry => narrow entry.1 := by
  simp only [part, List.filter_filter]
  refine List.filter_congr fun entry _ => ?_
  cases met : narrow entry.1 with
  | false => rfl
  | true => simp [covers _ met]

theorem part_insert {inside : String → Bool} {path : String} (member : inside path) (node : Node)
    (fs : FileSystem) : (fs.insert path node).part inside = OrderedMap.put path node (fs.part inside) :=
  OrderedMap.filter_put member node fs.entries.entries

theorem part_filter (inside keep : String → Bool) (fs : FileSystem) :
    part inside ⟨fs.entries.filter keep⟩ = (fs.part inside).filter fun entry => keep entry.1 := by
  simp only [part, OrderedMap.filter, List.filter_filter]
  exact List.filter_congr fun entry _ => Bool.and_comm ..

section Same

variable {inside : String → Bool} {left right : FileSystem}

theorem part_mono {narrow : String → Bool} (covers : ∀ key, narrow key → inside key)
    (same : left.part inside = right.part inside) : left.part narrow = right.part narrow := by
  rw [part_of_part covers, part_of_part covers, same]

theorem part_filter_eq (same : left.part inside = right.part inside) (keep : String → Bool) :
    part inside ⟨left.entries.filter keep⟩ = part inside ⟨right.entries.filter keep⟩ := by
  rw [part_filter, part_filter, same]

theorem get?_eq_of_part (same : left.part inside = right.part inside) {key : String}
    (member : inside key) : left.get? key = right.get? key := by
  have found (fs : FileSystem) : (fs.part inside).lookup key = fs.get? key := by
    have looked := OrderedMap.lookup_filter inside key fs.entries.entries
    rwa [if_pos member] at looked
  rw [← found, ← found, same]

/-- A listing takes notice of what lies below the directory only. -/
theorem list_eq_filterMap_part (fs : FileSystem) (dir : String) :
    fs.list dir = (fs.part (Path.isBelow dir)).filterMap fun entry =>
      (Path.childName? dir entry.1).map fun name => ⟨name, entry.2.isDirectory⟩ := by
  rw [list, part, List.filterMap_filter]
  congr 1
  funext entry
  cases below : Path.isBelow dir entry.1 with
  | true => rfl
  | false => simp [Path.childName?, below]

theorem subtree_eq_of_part (same : left.part inside = right.part inside) {source : String}
    (covers : ∀ key, Path.Begins source key → inside key) (target : String) :
    left.subtree source target = right.subtree source target := by
  have top := get?_eq_of_part same (covers source (Path.begins_refl source))
  have below : left.part (Path.isBelow source) = right.part (Path.isBelow source) :=
    part_mono (fun key lies => covers key (Path.begins_of_isBelow lies)) same
  change left.entries.entries.filter _ = right.entries.entries.filter _ at below
  rw [subtree, subtree, top, below]

theorem part_graft_eq (same : left.part inside = right.part inside) {source target : String}
    (covers : ∀ key, Path.Begins target key → inside key) (nodes : List (String × Node)) :
    (left.graft source target nodes).part inside = (right.graft source target nodes).part inside := by
  induction nodes generalizing left right with
  | nil => exact same
  | cons entry rest ih =>
    have member := covers _ (Path.begins_rebase source target entry.1)
    exact ih (by rw [part_insert member, part_insert member, same])

/-- How many entries lie below a directory depends on these entries only. -/
theorem size_clearBelow (fs : FileSystem) (dir : String) :
    fs.size - (fs.clearBelow dir).size = (fs.part (Path.isBelow dir)).length := by
  have both := List.length_eq_countP_add_countP (fun entry => Path.isBelow dir entry.1)
    (l := fs.entries.entries)
  simp only [List.countP_eq_length_filter, Bool.not_eq_true, Bool.decide_eq_false] at both
  simp only [size, OrderedMap.size, clearBelow, OrderedMap.filter, part]
  omega

end Same

end FileSystem

/-! ## Edits on two file systems -/

namespace Edit

variable {ε ε' α β : Type} {inside : String → Bool}

/-- The same value or the same failure, with the same entries inside. -/
inductive SameResult (inside : String → Bool) :
    EStateM.Result ε FileSystem α → EStateM.Result ε FileSystem α → Prop
  | ok {left right : FileSystem} (value : α) (same : left.part inside = right.part inside) :
      SameResult inside (.ok value left) (.ok value right)
  | error {left right : FileSystem} (cause : ε) (same : left.part inside = right.part inside) :
      SameResult inside (.error cause left) (.error cause right)

/-- On file systems with the same entries inside, the edit answers alike and leaves the same entries
    inside. -/
def Confined (inside : String → Bool) (edit : Edit ε α) : Prop :=
  ∀ left right, left.part inside = right.part inside →
    SameResult inside (edit.run left) (edit.run right)

theorem confined_pure (value : α) : Confined inside (pure value : Edit ε α) :=
  fun _ _ same => .ok value same

theorem confined_throw (cause : ε) : Confined inside (throw cause : Edit ε α) :=
  fun _ _ same => .error cause same

theorem confined_modify {change : FileSystem → FileSystem}
    (alike : ∀ left right, left.part inside = right.part inside →
      (change left).part inside = (change right).part inside) :
    Confined inside (modify change : Edit ε Unit) :=
  fun left right same => .ok () (alike left right same)

theorem Confined.bind {edit : Edit ε α} {next : α → Edit ε β} (first : edit.Confined inside)
    (second : ∀ value, (next value).Confined inside) : (edit >>= next).Confined inside := by
  intro left right same
  have began := first left right same
  rw [EStateM.run_bind, EStateM.run_bind]
  generalize edit.run left = leftBegan at began ⊢
  generalize edit.run right = rightBegan at began ⊢
  cases began with
  | ok value between => exact second value _ _ between
  | error cause between => exact .error cause between

theorem Confined.adaptExcept {edit : Edit ε α} (confined : edit.Confined inside) (wrap : ε → ε') :
    Confined inside (edit.adaptExcept wrap : Edit ε' α) := by
  intro left right same
  have ran := confined left right same
  rw [EStateM.run_adaptExcept, EStateM.run_adaptExcept]
  generalize edit.run left = leftRan at ran ⊢
  generalize edit.run right = rightRan at ran ⊢
  cases ran with
  | ok value after => exact .ok value after
  | error cause after => exact .error (wrap cause) after

/-- What is done with the whole file system has to be the same where the entries inside are. -/
theorem confined_get_bind {next : FileSystem → Edit ε α}
    (alike : ∀ left right, left.part inside = right.part inside → next left = next right)
    (confined : ∀ fs, (next fs).Confined inside) : (get >>= next).Confined inside := by
  intro left right same
  rw [EStateM.run_bind, EStateM.run_bind]
  change SameResult inside ((next left).run left) ((next right).run right)
  rw [alike left right same]
  exact confined right left right same

theorem confined_ask {question : FileSystem → Except ε α}
    (alike : ∀ left right, left.part inside = right.part inside → question left = question right) :
    (ask question).Confined inside := by
  refine confined_get_bind (fun left right same => by rw [alike left right same]) fun fs => ?_
  split
  · exact confined_pure _
  · exact confined_throw _

/-! ## The edits of the file system -/

variable {path source target : String}

theorem confined_ask_read (member : inside path) : (ask (·.read path)).Confined inside := by
  refine confined_ask fun left right same => ?_
  simp only [FileSystem.read, FileSystem.get?_eq_of_part same member]

theorem confined_ask_requireNode (member : inside path) :
    (ask (·.requireNode path)).Confined inside := by
  refine confined_ask fun left right same => ?_
  have found := congrArg Option.isSome (FileSystem.get?_eq_of_part same member)
  change left.contains path = right.contains path at found
  simp only [FileSystem.requireNode, found]

theorem confined_insert (member : inside path) (node : Node) :
    Confined inside (modify (·.insert path node) : Edit ε Unit) := by
  refine confined_modify fun left right same => ?_
  rw [FileSystem.part_insert member, FileSystem.part_insert member, same]

theorem confined_filter (keep : String → Bool) :
    Confined inside (modify fun fs => ⟨fs.entries.filter keep⟩ : Edit ε Unit) :=
  confined_modify fun _ _ same => FileSystem.part_filter_eq same keep

theorem confined_makeDirectory (member : inside path) : (makeDirectory path).Confined inside := by
  refine confined_get_bind (fun left right same => ?_) fun fs => ?_
  · have found := congrArg Option.isSome (FileSystem.get?_eq_of_part same member)
    change left.contains path = right.contains path at found
    rw [found]
  · split
    · exact confined_throw _
    · exact confined_insert member .directory

/-- The sizes before and after differ alike, though they may not be the same. -/
theorem confined_remove (covers : ∀ key, Path.Begins path key → inside key) :
    (remove path).Confined inside := by
  intro left right same
  have found := FileSystem.get?_eq_of_part same (covers path (Path.begins_refl path))
  have erased : (left.erase path).part inside = (right.erase path).part inside :=
    FileSystem.part_filter_eq same (· ≠ path)
  rw [run_remove, run_remove, found]
  rcases right.get? path with _ | file | _
  · exact .error _ same
  · exact .ok 1 erased
  · have below : (left.erase path).part (Path.isBelow path) =
        (right.erase path).part (Path.isBelow path) :=
      FileSystem.part_mono (fun key lies => covers key (Path.begins_of_isBelow lies)) erased
    dsimp only
    rw [FileSystem.size_clearBelow, FileSystem.size_clearBelow, below]
    exact .ok _ (FileSystem.part_filter_eq erased _)

theorem confined_ask_subtree (covers : ∀ key, Path.Begins source key → inside key) :
    (ask (·.subtree source target)).Confined inside :=
  confined_ask fun _ _ same => FileSystem.subtree_eq_of_part same covers target

theorem confined_graft (covers : ∀ key, Path.Begins target key → inside key)
    (nodes : List (String × Node)) :
    Confined inside (modify (·.graft source target nodes) : Edit ε Unit) :=
  confined_modify fun _ _ same => FileSystem.part_graft_eq same covers nodes

section Transfer

variable (fromSource : ∀ key, Path.Begins source key → inside key)
  (fromTarget : ∀ key, Path.Begins target key → inside key)

include fromSource fromTarget

theorem confined_move : (move source target).Confined inside := by
  rw [move]
  split
  · exact confined_ask_requireNode (fromSource source (Path.begins_refl source))
  · exact (confined_ask_subtree fromSource).bind fun nodes =>
      (confined_filter _).bind fun _ => confined_graft fromTarget nodes

theorem confined_copy : (copy source target).Confined inside := by
  rw [copy]
  split
  · exact confined_ask_requireNode (fromSource source (Path.begins_refl source))
  · exact (confined_ask_subtree fromSource).bind fun nodes => confined_graft fromTarget nodes

end Transfer

end Edit
end PathShell
