import PathShell.Proofs.FileSystem
import PathShell.Proofs.Path

/-!
# What edits leave behind

An edit changes the one file system there is, and a failure does not undo what came before it. Three
properties pass from the parts of an edit to the whole: to change nothing, not to fail after a change
(`Atomic`), and to change only entries whose paths lie inside a set (`Within`). Every edit of the file
system is atomic, and changes only what begins with the paths it is given.
-/

namespace PathShell

/-! ## Entries outside a set of paths -/

namespace FileSystem

/-- The entries whose paths are not `inside`, in order. -/
def outside (inside : String → Bool) (fs : FileSystem) : List (String × Node) :=
  fs.entries.entries.filter fun entry => !inside entry.1

theorem get?_eq_lookup_outside {inside : String → Bool} {key : String} (apart : inside key = false)
    (fs : FileSystem) : fs.get? key = (fs.outside inside).lookup key := by
  have found := OrderedMap.lookup_filter (fun key => !inside key) key fs.entries.entries
  simp only [apart, Bool.not_false, if_true] at found
  rw [outside, found]
  rfl

theorem get?_eq_of_outside {inside : String → Bool} {before after : FileSystem}
    (same : after.outside inside = before.outside inside) {key : String}
    (apart : inside key = false) : after.get? key = before.get? key := by
  rw [get?_eq_lookup_outside apart, get?_eq_lookup_outside apart, same]

/-- A path that is not `inside` has the node it had, or still none, and the order of these paths is as
    it was. -/
structure SameOutside (inside : String → Bool) (before after : FileSystem) : Prop where
  nodes : ∀ key, inside key = false → after.get? key = before.get? key
  order : after.entries.keys.filter (!inside ·) = before.entries.keys.filter (!inside ·)

theorem sameOutside_of_outside {inside : String → Bool} {before after : FileSystem}
    (same : after.outside inside = before.outside inside) : SameOutside inside before after := by
  refine ⟨fun key apart => get?_eq_of_outside same apart, ?_⟩
  rw [OrderedMap.keys, OrderedMap.keys, List.filter_map, List.filter_map]
  exact congrArg (List.map Prod.fst) same

theorem outside_insert {inside : String → Bool} {path : String} (member : inside path)
    (node : Node) (fs : FileSystem) : (fs.insert path node).outside inside = fs.outside inside := by
  have dropped : (!inside path) = false := by simp [member]
  exact @OrderedMap.filter_put_of_dropped _ (!inside ·) path dropped node fs.entries.entries

theorem outside_filter {inside keep : String → Bool} (dropped : ∀ key, keep key = false → inside key)
    (fs : FileSystem) : outside inside ⟨fs.entries.filter keep⟩ = fs.outside inside := by
  simp only [outside, OrderedMap.filter, List.filter_filter]
  refine List.filter_congr fun entry _ => ?_
  cases kept : keep entry.1 with
  | true => simp
  | false => simp [dropped _ kept]

theorem outside_erase {inside : String → Bool} {path : String} (member : inside path)
    (fs : FileSystem) : (fs.erase path).outside inside = fs.outside inside :=
  outside_filter (fun key gone => by
    have same : key = path := by simpa using gone
    exact same ▸ member) fs

theorem outside_clearBelow {inside : String → Bool} {dir : String}
    (covers : ∀ key, Path.isBelow dir key → inside key) (fs : FileSystem) :
    (fs.clearBelow dir).outside inside = fs.outside inside :=
  outside_filter (fun key gone => covers key (by simpa using gone)) fs

theorem outside_prune {inside : String → Bool} {nodes : List (String × Node)}
    (covers : ∀ entry ∈ nodes, inside entry.1) (fs : FileSystem) :
    (fs.prune nodes).outside inside = fs.outside inside := by
  refine outside_filter (fun key gone => ?_) fs
  simp only [Bool.not_eq_false', List.any_eq_true, decide_eq_true_eq] at gone
  obtain ⟨entry, member, rfl⟩ := gone
  exact covers entry member

theorem outside_graft {inside : String → Bool} {source target : String}
    (covers : ∀ key, Path.Begins target key → inside key) (nodes : List (String × Node))
    (fs : FileSystem) : (fs.graft source target nodes).outside inside = fs.outside inside := by
  induction nodes generalizing fs with
  | nil => rfl
  | cons entry rest ih =>
    have member := covers _ (Path.begins_rebase source target entry.1)
    exact (ih _).trans (outside_insert member entry.2 fs)

/-- Every path of a subtree begins with the path of its top. -/
theorem begins_of_mem_subtree {fs : FileSystem} {source target : String}
    {nodes : List (String × Node)} (collected : fs.subtree source target = .ok nodes) :
    ∀ entry ∈ nodes, Path.Begins source entry.1 := by
  intro entry member
  rw [subtree] at collected
  split at collected
  · contradiction
  · cases collected
    rw [List.mem_singleton.mp member]
    exact Path.begins_refl source
  · split at collected
    · contradiction
    · cases collected
      rcases List.mem_cons.mp member with rfl | below
      · exact Path.begins_refl source
      · exact Path.begins_of_isBelow (List.mem_filter.mp below).2

end FileSystem

namespace Edit

variable {ε ε' α β : Type}

/-! ## Reading, succeeding, failing without a trace -/

/-- The file system as an edit leaves it, whether it fails or not. -/
def left (edit : Edit ε α) (fs : FileSystem) : FileSystem :=
  match edit.run fs with
  | .ok _ after => after
  | .error _ after => after

/-- The edit changes nothing. -/
def Reads (edit : Edit ε α) : Prop := ∀ fs, edit.left fs = fs

/-- The edit cannot fail. -/
def Succeeds (edit : Edit ε α) : Prop := ∀ fs, ∃ value after, edit.run fs = .ok value after

/-- Where the edit fails it has changed nothing. -/
def Atomic (edit : Edit ε α) : Prop := ∀ fs cause after, edit.run fs = .error cause after → after = fs

/-- The edit changes only entries whose paths are `inside`: the others keep their nodes and their
    order. -/
def Within (inside : String → Bool) (edit : Edit ε α) : Prop :=
  ∀ fs, (edit.left fs).outside inside = fs.outside inside

/-- Where the edit succeeds, its value fits the file system that it leaves. -/
def Ensures (fits : α → FileSystem → Prop) (edit : Edit ε α) : Prop :=
  ∀ fs value after, edit.run fs = .ok value after → fits value after

theorem left_bind (edit : Edit ε α) (next : α → Edit ε β) (fs : FileSystem) :
    (edit >>= next).left fs =
      match edit.run fs with
      | .ok value after => (next value).left after
      | .error _ after => after := by
  simp only [left, EStateM.run_bind]
  cases edit.run fs <;> rfl

theorem left_adaptExcept (wrap : ε → ε') (edit : Edit ε α) (fs : FileSystem) :
    left (edit.adaptExcept wrap) fs = edit.left fs := by
  simp only [left, EStateM.run_adaptExcept]
  cases edit.run fs <;> rfl

theorem left_of_run {edit : Edit ε α} {fs after : FileSystem} {value : α}
    (ran : edit.run fs = .ok value after) : edit.left fs = after := by
  simp [left, ran]

theorem left_of_run_error {edit : Edit ε α} {fs after : FileSystem} {cause : ε}
    (ran : edit.run fs = .error cause after) : edit.left fs = after := by
  simp [left, ran]

theorem reads_pure (value : α) : Reads (pure value : Edit ε α) := fun _ => rfl
theorem reads_throw (cause : ε) : Reads (throw cause : Edit ε α) := fun _ => rfl
theorem reads_get : Reads (get : Edit ε FileSystem) := fun _ => rfl

theorem Reads.bind {edit : Edit ε α} {next : α → Edit ε β} (first : edit.Reads)
    (second : ∀ value, (next value).Reads) : (edit >>= next).Reads := by
  intro fs
  rw [left_bind]
  cases ran : edit.run fs with
  | ok value after =>
    have same : after = fs := (left_of_run ran).symm.trans (first fs)
    exact same ▸ second value after
  | error cause after => exact (left_of_run_error ran).symm.trans (first fs)

theorem Reads.adaptExcept {edit : Edit ε α} (reads : edit.Reads) (wrap : ε → ε') :
    Reads (edit.adaptExcept wrap : Edit ε' α) :=
  fun fs => (left_adaptExcept wrap edit fs).trans (reads fs)

theorem succeeds_pure (value : α) : Succeeds (pure value : Edit ε α) := fun fs => ⟨value, fs, rfl⟩

theorem succeeds_modify (change : FileSystem → FileSystem) :
    Succeeds (modify change : Edit ε Unit) := fun fs => ⟨(), change fs, rfl⟩

theorem Succeeds.bind {edit : Edit ε α} {next : α → Edit ε β} (first : edit.Succeeds)
    (second : ∀ value, (next value).Succeeds) : (edit >>= next).Succeeds := by
  intro fs
  obtain ⟨value, between, ran⟩ := first fs
  obtain ⟨result, after, ended⟩ := second value between
  exact ⟨result, after, by rw [EStateM.run_bind, ran]; exact ended⟩

theorem Reads.atomic {edit : Edit ε α} (reads : edit.Reads) : edit.Atomic :=
  fun fs _ _ failed => (left_of_run_error failed).symm.trans (reads fs)

theorem Succeeds.atomic {edit : Edit ε α} (succeeds : edit.Succeeds) : edit.Atomic := by
  intro fs cause after failed
  obtain ⟨value, other, ran⟩ := succeeds fs
  rw [ran] at failed
  contradiction

/-- What only reads may come before an atomic edit. -/
theorem Reads.bind_atomic {edit : Edit ε α} {next : α → Edit ε β} (first : edit.Reads)
    (second : ∀ value, (next value).Atomic) : (edit >>= next).Atomic := by
  intro fs cause after failed
  rw [EStateM.run_bind] at failed
  cases ran : edit.run fs with
  | ok value between =>
    have same : between = fs := (left_of_run ran).symm.trans (first fs)
    rw [ran] at failed
    exact (second value between cause after failed).trans same
  | error _ between =>
    rw [ran] at failed
    cases failed
    exact (left_of_run_error ran).symm.trans (first fs)

/-- What cannot fail may come after an atomic edit. -/
theorem Atomic.bind_succeeds {edit : Edit ε α} {next : α → Edit ε β} (first : edit.Atomic)
    (second : ∀ value, (next value).Succeeds) : (edit >>= next).Atomic := by
  intro fs cause after failed
  rw [EStateM.run_bind] at failed
  cases ran : edit.run fs with
  | ok value between =>
    obtain ⟨result, other, ended⟩ := second value between
    simp only [ran, ended] at failed
    contradiction
  | error _ between =>
    rw [ran] at failed
    cases failed
    exact first fs _ _ ran

theorem Atomic.adaptExcept {edit : Edit ε α} (atomic : edit.Atomic) (wrap : ε → ε') :
    Atomic (edit.adaptExcept wrap : Edit ε' α) := by
  intro fs cause after failed
  rw [EStateM.run_adaptExcept] at failed
  cases ran : edit.run fs with
  | ok value other => rw [ran] at failed; contradiction
  | error inner other =>
    rw [ran] at failed
    cases failed
    exact atomic fs inner _ ran

/-! ## Staying inside, and what values tell -/

theorem Reads.within {edit : Edit ε α} (reads : edit.Reads) (inside : String → Bool) :
    edit.Within inside := fun fs => by rw [reads fs]

theorem within_modify {inside : String → Bool} {change : FileSystem → FileSystem}
    (keeps : ∀ fs, (change fs).outside inside = fs.outside inside) :
    Within inside (modify change : Edit ε Unit) := keeps

theorem Within.bind {inside : String → Bool} {edit : Edit ε α} {next : α → Edit ε β}
    (first : edit.Within inside) (second : ∀ value, (next value).Within inside) :
    (edit >>= next).Within inside := by
  intro fs
  have start := first fs
  rw [left_bind]
  cases ran : edit.run fs with
  | ok value after =>
    rw [left_of_run ran] at start
    exact (second value after).trans start
  | error cause after =>
    rw [left_of_run_error ran] at start
    exact start

theorem Within.adaptExcept {inside : String → Bool} {edit : Edit ε α} (within : edit.Within inside)
    (wrap : ε → ε') : Within inside (edit.adaptExcept wrap : Edit ε' α) :=
  fun fs => by rw [left_adaptExcept, within fs]

theorem ensures_pure {fits : α → FileSystem → Prop} {value : α} (holds : ∀ fs, fits value fs) :
    Ensures fits (pure value : Edit ε α) := by
  intro fs result after ran
  cases ran
  exact holds fs

theorem ensures_throw {fits : α → FileSystem → Prop} (cause : ε) :
    Ensures fits (throw cause : Edit ε α) := by
  intro fs result after ran
  cases ran

/-- What comes first may be forgotten. -/
theorem Ensures.bind {fits : β → FileSystem → Prop} {edit : Edit ε α} {next : α → Edit ε β}
    (second : ∀ value, (next value).Ensures fits) : (edit >>= next).Ensures fits := by
  intro fs value after ran
  rw [EStateM.run_bind] at ran
  cases began : edit.run fs with
  | ok first between => rw [began] at ran; exact second first between value after ran
  | error cause between => rw [began] at ran; contradiction

/-! ## The edits of the file system -/

theorem run_ask (question : FileSystem → Except ε α) (fs : FileSystem) :
    (ask question).run fs =
      match question fs with
      | .ok value => .ok value fs
      | .error cause => .error cause fs := by
  simp only [ask, EStateM.run_bind, EStateM.run_get]
  cases question fs <;> rfl

theorem run_ask_of_ok {question : FileSystem → Except ε α} {fs : FileSystem} {value : α}
    (answered : question fs = .ok value) : (ask question).run fs = .ok value fs := by
  rw [run_ask, answered]

theorem run_ask_of_error {question : FileSystem → Except ε α} {fs : FileSystem} {cause : ε}
    (refused : question fs = .error cause) : (ask question).run fs = .error cause fs := by
  rw [run_ask, refused]

theorem reads_ask (question : FileSystem → Except ε α) : (ask question).Reads := by
  intro fs
  rw [left, run_ask]
  cases question fs <;> rfl

theorem atomic_makeDirectory (path : String) : (makeDirectory path).Atomic := by
  refine reads_get.bind_atomic fun fs => ?_
  split
  · exact (reads_throw _).atomic
  · exact (succeeds_modify _).atomic

theorem run_makeDirectory (path : String) (fs : FileSystem) :
    (makeDirectory path).run fs =
      if fs.contains path then .error (.alreadyExists path) fs
      else .ok () (fs.insert path .directory) := by
  simp only [makeDirectory, EStateM.run_bind, EStateM.run_get]
  split <;> rfl

theorem run_write (now : Instant) (path content : String) (fs : FileSystem) :
    (write now path content).run fs =
      match fs.get? path with
      | some (.file _) => .ok () (fs.insert path (.file ⟨content, now⟩))
      | some .directory => .error (.notAFile path) fs
      | none => .error (.notFound path) fs := by
  simp only [write, EStateM.run_bind, EStateM.run_get]
  rcases fs.get? path with _ | _ | _ <;> rfl

theorem run_remove (path : String) (fs : FileSystem) :
    (remove path).run fs =
      match fs.get? path with
      | some (.file _) => .ok 1 (fs.erase path)
      | some .directory =>
        let cleared := (fs.erase path).clearBelow path
        .ok (1 + ((fs.erase path).size - cleared.size)) cleared
      | none => .error (.notFound path) fs := by
  simp only [remove, take, EStateM.run_bind, EStateM.run_get]
  rcases fs.get? path with _ | _ | _ <;> rfl

theorem atomic_take (path : String) : (take path).Atomic := by
  refine reads_get.bind_atomic fun fs => ?_
  split
  · exact ((succeeds_modify _).bind fun _ => succeeds_pure _).atomic
  · exact (reads_throw _).atomic

/-- The node is gone before the rest is looked at, but then nothing can fail any more. -/
theorem atomic_remove (path : String) : (remove path).Atomic := by
  refine (atomic_take path).bind_succeeds fun node => ?_
  split
  · exact fun fs => ⟨_, _, rfl⟩
  · exact succeeds_pure _

theorem atomic_move (source target : String) : (move source target).Atomic := by
  rw [move]
  split
  · exact (reads_ask _).atomic
  · exact (reads_ask _).bind_atomic fun _ =>
      ((succeeds_modify _).bind fun _ => succeeds_modify _).atomic

theorem atomic_copy (source target : String) : (copy source target).Atomic := by
  rw [copy]
  split
  · exact (reads_ask _).atomic
  · exact (reads_ask _).bind_atomic fun _ => (succeeds_modify _).atomic

section Within

variable {inside : String → Bool} {path source target : String}

theorem within_makeDirectory (covers : ∀ key, Path.Begins path key → inside key) :
    (makeDirectory path).Within inside := by
  refine (reads_get.within inside).bind fun fs => ?_
  split
  · exact (reads_throw _).within inside
  · exact within_modify (FileSystem.outside_insert (covers path (Path.begins_refl path)) _)

theorem within_touch (now : Instant) (covers : ∀ key, Path.Begins path key → inside key) :
    (touch now path : Edit ε Unit).Within inside :=
  within_modify (FileSystem.outside_insert (covers path (Path.begins_refl path)) _)

theorem within_take (member : inside path) : (take path).Within inside := by
  refine (reads_get.within inside).bind fun fs => ?_
  split
  · exact (within_modify (FileSystem.outside_erase member)).bind fun _ =>
      (reads_pure _).within inside
  · exact (reads_throw _).within inside

theorem within_remove (covers : ∀ key, Path.Begins path key → inside key) :
    (remove path).Within inside := by
  refine (within_take (covers path (Path.begins_refl path))).bind fun node => ?_
  have cleared : Within inside (modify (·.clearBelow path) : Edit FileError Unit) :=
    within_modify (FileSystem.outside_clearBelow fun key below =>
      covers key (Path.begins_of_isBelow below))
  split
  · exact (reads_get.within inside).bind fun _ => cleared.bind fun _ =>
      (reads_get.bind fun _ => reads_pure _).within inside
  · exact (reads_pure _).within inside

theorem within_move (fromSource : ∀ key, Path.Begins source key → inside key)
    (fromTarget : ∀ key, Path.Begins target key → inside key) :
    (move source target).Within inside := by
  rw [move]
  split
  · exact (reads_ask _).within inside
  · intro fs
    rw [left_bind, run_ask]
    cases collected : fs.subtree source target with
    | error cause => rfl
    | ok nodes =>
      have gone := FileSystem.outside_prune (fun entry member =>
        fromSource _ (FileSystem.begins_of_mem_subtree collected entry member)) fs
      exact (FileSystem.outside_graft fromTarget nodes _).trans gone

theorem within_copy (fromTarget : ∀ key, Path.Begins target key → inside key) :
    (copy source target).Within inside := by
  rw [copy]
  split
  · exact (reads_ask _).within inside
  · exact ((reads_ask _).within inside).bind fun nodes =>
      within_modify (FileSystem.outside_graft fromTarget nodes)

end Within

end Edit
end PathShell
