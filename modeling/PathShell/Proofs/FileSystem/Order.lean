import PathShell.FileSystem.Stored
import PathShell.Proofs.FileSystem.MoveLaws

/-!
# The order of the entries

File systems that are equal as maps differ in the order of their entries only. Whatever they are asked
for, they give the same answer, but for the order of a listing, and are equal as maps again: what is
collected for a transfer gets to the same places in any order, since no two of the nodes get to one place.
-/

namespace PathShell

/-! ## Equal as maps -/

namespace FileSystem

theorem sameEntries_iff {left right : FileSystem} :
    left.sameEntries right ↔ ∀ path, left.get? path = right.get? path :=
  OrderedMap.sameEntries_iff

theorem get?_ensureRoot_eq (fs : FileSystem) (path : String) :
    fs.ensureRoot.get? path = if path = "/" then some ((fs.get? "/").getD .directory) else fs.get? path := by
  by_cases rooted : fs.contains "/"
  · rw [ensureRoot_of_contains rooted]
    obtain ⟨node, found⟩ := Option.isSome_iff_exists.mp rooted
    by_cases root : path = "/"
    · have held : fs.get? "/" = some node := found
      simp [root, held]
    · rw [if_neg root]
  · have missing : fs.get? "/" = none := by simpa [contains_iff] using rooted
    have entries := fs.entries_ensureRoot
    rw [if_neg rooted] at entries
    change fs.ensureRoot.entries.entries.lookup path = _
    rw [entries]
    by_cases root : path = "/"
    · simp [root, missing]
    · have other : (path == "/") = false := by simpa using root
      rw [List.lookup_cons, other, if_neg root]
      rfl

section Same

variable {left right : FileSystem} (same : left.sameEntries right)

include same

theorem get?_eq_of_same (path : String) : left.get? path = right.get? path := sameEntries_iff.mp same path

theorem contains_eq_of_same (path : String) : left.contains path = right.contains path :=
  congrArg Option.isSome (get?_eq_of_same same path)

theorem perm_of_same : left.entries.entries.Perm right.entries.entries :=
  OrderedMap.perm_of_sameEntries same

theorem list_perm (dir : String) : (left.list dir).Perm (right.list dir) :=
  (perm_of_same same).filterMap _

theorem size_eq_of_same : left.size = right.size := (perm_of_same same).length_eq

theorem sameEntries_insert (path : String) (node : Node) :
    (left.insert path node).sameEntries (right.insert path node) := by
  rw [sameEntries_iff]
  intro other
  rw [get?_insert, get?_insert, get?_eq_of_same same]

theorem sameEntries_ensureRoot : left.ensureRoot.sameEntries right.ensureRoot := by
  rw [sameEntries_iff]
  intro path
  rw [get?_ensureRoot_eq, get?_ensureRoot_eq, get?_eq_of_same same, get?_eq_of_same same]

theorem spans_iff_of_same (source key : String) : left.Spans source key ↔ right.Spans source key := by
  rw [Spans, Spans, get?_eq_of_same same]

theorem sameEntries_withoutSpan (path : String) :
    (left.withoutSpan path).sameEntries (right.withoutSpan path) := by
  rw [sameEntries_iff]
  intro key
  rw [get?_withoutSpan, get?_withoutSpan, get?_eq_of_same same]
  exact if_congr (spans_iff_of_same same path key) rfl rfl

theorem spanSize_eq_of_same (path : String) : left.spanSize path = right.spanSize path := by
  have leftSizes := left.size_withoutSpan path
  have rightSizes := right.size_withoutSpan path
  have whole := size_eq_of_same same
  have rest := size_eq_of_same (sameEntries_withoutSpan same path)
  omega

/-- A transfer that collects something from the one collects something from the other, and fails alike. -/
theorem subtree_of_same (source target : String) :
    (∃ cause, left.subtree source target = .error cause ∧ right.subtree source target = .error cause) ∨
      ∃ nodes others, left.subtree source target = .ok nodes ∧ right.subtree source target = .ok others := by
  rw [subtree, subtree, get?_eq_of_same same]
  cases right.get? source with
  | none => exact .inl ⟨_, rfl, rfl⟩
  | some node =>
    cases node with
    | file file => exact .inr ⟨_, _, rfl, rfl⟩
    | directory =>
      dsimp only
      by_cases inside : Path.isBelow source target
      · exact .inl ⟨_, if_pos inside, if_pos inside⟩
      · exact .inr ⟨_, _, if_neg inside, if_neg inside⟩

/-- The order in which nodes are collected makes no difference where they are grafted. -/
theorem sameEntries_graft {source target : String} {nodes others : List (String × Node)}
    (collected : left.subtree source target = .ok nodes)
    (collectedToo : right.subtree source target = .ok others) {base other : FileSystem}
    (alike : base.sameEntries other) :
    (base.graft source target nodes).sameEntries (other.graft source target others) := by
  rw [sameEntries_iff]
  intro key
  by_cases arrives : ∃ rest, key = target ++ rest ∧ left.Spans source (source ++ rest) ∧
      left.contains (source ++ rest)
  · obtain ⟨rest, rfl, along, present⟩ := arrives
    have alongToo := (spans_iff_of_same same source (source ++ rest)).mp along
    have presentToo := (contains_eq_of_same same (source ++ rest)) ▸ present
    rw [get?_graft_of_spans collected base along present,
      get?_graft_of_spans collectedToo other alongToo presentToo, get?_eq_of_same same]
  · rw [get?_graft_of_apart collected base, get?_graft_of_apart collectedToo other, get?_eq_of_same alike]
    · intro rest lands along present
      exact arrives ⟨rest, lands, (spans_iff_of_same same _ _).mpr along,
        (contains_eq_of_same same _).trans present⟩
    · intro rest lands along present
      exact arrives ⟨rest, lands, along, present⟩

end Same

end FileSystem

/-! ## Edits -/

namespace Edit

open FileSystem

variable {ε α : Type}

/-- The same value or the same failure, with file systems that are equal as maps. -/
inductive Matches : EStateM.Result ε FileSystem α → EStateM.Result ε FileSystem α → Prop where
  | ok {left right : FileSystem} (value : α) (same : left.sameEntries right) :
    Matches (.ok value left) (.ok value right)
  | error {left right : FileSystem} (cause : ε) (same : left.sameEntries right) :
    Matches (.error cause left) (.error cause right)

/-- On file systems that are equal as maps, the edit does the same. -/
def IgnoresOrder (edit : Edit ε α) : Prop :=
  ∀ left right, left.sameEntries right → Matches (edit.run left) (edit.run right)

theorem ignoresOrder_ask {question : FileSystem → Except ε α}
    (alike : ∀ left right, left.sameEntries right → question left = question right) :
    (ask question).IgnoresOrder := by
  intro left right same
  rw [run_ask, run_ask, alike left right same]
  cases question right with
  | ok value => exact .ok value same
  | error cause => exact .error cause same

theorem ignoresOrder_look {look : FileSystem → α}
    (alike : ∀ left right, left.sameEntries right → look left = look right) :
    IgnoresOrder (get >>= fun fs => pure (look fs) : Edit ε α) := by
  intro left right same
  rw [EStateM.run_bind, EStateM.run_bind, EStateM.run_get, EStateM.run_get]
  dsimp only
  rw [alike left right same]
  exact .ok (look right) same

theorem ignoresOrder_modify {change : FileSystem → FileSystem}
    (alike : ∀ left right, left.sameEntries right → (change left).sameEntries (change right)) :
    IgnoresOrder (modify change : Edit ε Unit) :=
  fun left right same => .ok () (alike left right same)

theorem ignoresOrder_makeDirectory (path : String) : (makeDirectory path).IgnoresOrder := by
  intro left right same
  rw [run_makeDirectory, run_makeDirectory, contains_eq_of_same same]
  by_cases taken : right.contains path
  · rw [if_pos taken, if_pos taken]
    exact .error _ same
  · rw [if_neg taken, if_neg taken]
    exact .ok () (sameEntries_insert same path .directory)

theorem ignoresOrder_write (now : Instant) (path content : String) :
    (write now path content).IgnoresOrder := by
  intro left right same
  rw [run_write, run_write, get?_eq_of_same same]
  rcases right.get? path with _ | file | _
  · exact .error _ same
  · exact .ok () (sameEntries_insert same path _)
  · exact .error _ same

theorem ignoresOrder_remove (path : String) : (remove path).IgnoresOrder := by
  intro left right same
  by_cases present : right.contains path
  · have presentToo : left.contains path := (contains_eq_of_same same path).trans present
    rw [run_remove_of_contains present, run_remove_of_contains presentToo, spanSize_eq_of_same same]
    exact .ok _ (sameEntries_withoutSpan same path)
  · have absentToo : ¬ left.contains path := by rwa [contains_eq_of_same same]
    rw [run_remove_of_not_contains present, run_remove_of_not_contains absentToo]
    exact .error _ same

theorem ignoresOrder_ask_requireNode (path : String) : (ask (·.requireNode path)).IgnoresOrder := by
  refine ignoresOrder_ask fun left right same => ?_
  rw [requireNode, requireNode, contains_eq_of_same same]

/-- What a transfer collects is grafted onto what it leaves of the file system before. -/
theorem ignoresOrder_transfer {edit : Edit FileError Unit} {source target : String}
    {leaves : FileSystem → List (String × Node) → FileSystem}
    (runs : ∀ fs, edit.run fs =
      match fs.subtree source target with
      | .ok nodes => .ok () ((leaves fs nodes).graft source target nodes)
      | .error cause => .error cause fs)
    (alike : ∀ left right nodes others, left.sameEntries right → left.subtree source target = .ok nodes →
      right.subtree source target = .ok others → (leaves left nodes).sameEntries (leaves right others)) :
    edit.IgnoresOrder := by
  intro left right same
  rw [runs, runs]
  rcases subtree_of_same same source target with
    ⟨cause, failed, failedToo⟩ | ⟨nodes, others, collected, collectedToo⟩
  · rw [failed, failedToo]
    exact .error cause same
  · rw [collected, collectedToo]
    have remains := alike left right nodes others same collected collectedToo
    exact .ok () (sameEntries_graft same collected collectedToo remains)

theorem ignoresOrder_move (source target : String) : (move source target).IgnoresOrder := by
  by_cases stays : source = target
  · rw [move, if_pos stays]
    exact ignoresOrder_ask_requireNode source
  · refine ignoresOrder_transfer (run_move_of_ne stays) ?_
    intro left right nodes others same collected collectedToo
    rw [prune_eq_withoutSpan collected, prune_eq_withoutSpan collectedToo]
    exact sameEntries_withoutSpan same source

theorem ignoresOrder_copy (source target : String) : (copy source target).IgnoresOrder := by
  by_cases stays : source = target
  · rw [copy, if_pos stays]
    exact ignoresOrder_ask_requireNode source
  · exact ignoresOrder_transfer (run_copy_of_ne stays) fun _ _ _ _ same _ _ => same

theorem IgnoresOrder.answering {edit : Edit ε α} (ignores : edit.IgnoresOrder) {β : Type}
    (answer : α → β) : IgnoresOrder (edit >>= fun value => pure (answer value) : Edit ε β) := by
  intro left right same
  have ran := ignores left right same
  rw [EStateM.run_bind, EStateM.run_bind]
  generalize edit.run left = leftRan at ran ⊢
  generalize edit.run right = rightRan at ran ⊢
  cases ran with
  | ok value after => exact .ok (answer value) after
  | error cause after => exact .error cause after

end Edit

/-! ## Requests -/

/-- What a file system can be asked for. -/
inductive FileRequest where
  | makeDirectory (path : String)
  | touch (now : Instant) (path : String)
  | write (now : Instant) (path content : String)
  | remove (path : String)
  | read (path : String)
  | move (source target : String)
  | copy (source target : String)
  | requireDirectory (path : String)
  | contains (path : String)
  | lookUp (path : String)
  | ensureRoot
  | list (dir : String)

/-- What it answers, unless it fails. -/
inductive FileAnswer where
  | done
  | removed (count : Nat)
  | content (text : String)
  | present (found : Bool)
  | node (found : Option Node)
  | listing (entries : List ListedEntry)

/-- The edit that a request stands for. -/
def FileRequest.edit : FileRequest → Edit FileError FileAnswer
  | .makeDirectory path => Edit.makeDirectory path >>= fun _ => pure .done
  | .touch now path => Edit.touch now path >>= fun _ => pure .done
  | .write now path content => Edit.write now path content >>= fun _ => pure .done
  | .remove path => Edit.remove path >>= fun count => pure (.removed count)
  | .read path => Edit.ask (·.read path) >>= fun text => pure (.content text)
  | .move source target => Edit.move source target >>= fun _ => pure .done
  | .copy source target => Edit.copy source target >>= fun _ => pure .done
  | .requireDirectory path => Edit.ask (·.requireDirectory path) >>= fun _ => pure .done
  | .contains path => get >>= fun fs => pure (.present (fs.contains path))
  | .lookUp path => get >>= fun fs => pure (.node (fs.get? path))
  | .ensureRoot => modify (·.ensureRoot) >>= fun _ => pure .done
  | .list dir => get >>= fun fs => pure (.listing (fs.list dir))

/-- A listing alone shows the order. -/
theorem FileRequest.ignoresOrder (request : FileRequest) (unlisted : ∀ dir, request ≠ .list dir) :
    request.edit.IgnoresOrder := by
  cases request with
  | list dir => exact absurd rfl (unlisted dir)
  | makeDirectory path => exact (Edit.ignoresOrder_makeDirectory path).answering _
  | touch now path =>
    refine Edit.IgnoresOrder.answering ?_ _
    exact Edit.ignoresOrder_modify fun _ _ same => FileSystem.sameEntries_insert same path _
  | write now path content => exact (Edit.ignoresOrder_write now path content).answering _
  | remove path => exact (Edit.ignoresOrder_remove path).answering _
  | read path =>
    refine Edit.IgnoresOrder.answering (Edit.ignoresOrder_ask fun _ _ same => ?_) _
    rw [FileSystem.read, FileSystem.read, FileSystem.get?_eq_of_same same]
  | move source target => exact (Edit.ignoresOrder_move source target).answering _
  | copy source target => exact (Edit.ignoresOrder_copy source target).answering _
  | requireDirectory path =>
    refine Edit.IgnoresOrder.answering (Edit.ignoresOrder_ask fun _ _ same => ?_) _
    rw [FileSystem.requireDirectory, FileSystem.requireDirectory, FileSystem.get?_eq_of_same same]
  | contains path =>
    refine Edit.ignoresOrder_look fun _ _ same => ?_
    rw [FileSystem.contains_eq_of_same same]
  | lookUp path =>
    refine Edit.ignoresOrder_look fun _ _ same => ?_
    rw [FileSystem.get?_eq_of_same same]
  | ensureRoot =>
    refine Edit.IgnoresOrder.answering ?_ _
    exact Edit.ignoresOrder_modify fun _ _ same => FileSystem.sameEntries_ensureRoot same

/-- The same answer or the same failure; listings may come in another order. -/
inductive SameAnswer : Except FileError FileAnswer → Except FileError FileAnswer → Prop where
  | same (answer : Except FileError FileAnswer) : SameAnswer answer answer
  | listing {entries others : List ListedEntry} (perm : entries.Perm others) :
    SameAnswer (.ok (.listing entries)) (.ok (.listing others))

namespace FileSystem

/-- The answer to a request, and the file system after it. -/
def perform (fs : FileSystem) (request : FileRequest) : Except FileError FileAnswer × FileSystem :=
  match request.edit.run fs with
  | .ok answer after => (.ok answer, after)
  | .error cause after => (.error cause, after)

/-- The answers to requests in turn. -/
def answers (fs : FileSystem) : List FileRequest → List (Except FileError FileAnswer)
  | [] => []
  | request :: rest => (fs.perform request).1 :: (fs.perform request).2.answers rest

/-- The file system after requests in turn. -/
def afterAll (fs : FileSystem) (requests : List FileRequest) : FileSystem :=
  requests.foldl (fun fs request => (fs.perform request).2) fs

/-- Two file systems answer a request alike, and are equal as maps after it. -/
structure AnswersAlike (left right : FileSystem) (request : FileRequest) : Prop where
  answer : SameAnswer (left.perform request).1 (right.perform request).1
  after : (left.perform request).2.sameEntries (right.perform request).2

section Same

variable {left right : FileSystem} (same : left.sameEntries right)

include same

theorem answersAlike_of_ignoresOrder {request : FileRequest} (ignores : request.edit.IgnoresOrder) :
    AnswersAlike left right request := by
  have ran := ignores left right same
  suffices alike : SameAnswer (left.perform request).1 (right.perform request).1 ∧
      (left.perform request).2.sameEntries (right.perform request).2 from ⟨alike.1, alike.2⟩
  rw [perform, perform]
  generalize request.edit.run left = leftRan at ran ⊢
  generalize request.edit.run right = rightRan at ran ⊢
  cases ran with
  | ok answer after => exact ⟨.same (.ok answer), after⟩
  | error cause after => exact ⟨.same (.error cause), after⟩

theorem answersAlike (request : FileRequest) : AnswersAlike left right request := by
  by_cases listing : ∃ dir, request = .list dir
  · obtain ⟨dir, rfl⟩ := listing
    exact ⟨.listing (list_perm same dir), same⟩
  · exact answersAlike_of_ignoresOrder same (request.ignoresOrder fun dir asks => listing ⟨dir, asks⟩)

theorem answers_of_same (requests : List FileRequest) :
    List.Forall₂ SameAnswer (left.answers requests) (right.answers requests) ∧
      (left.afterAll requests).sameEntries (right.afterAll requests) := by
  induction requests generalizing left right with
  | nil => exact ⟨.nil, same⟩
  | cons request rest ih =>
    have first := answersAlike same request
    obtain ⟨others, after⟩ := ih first.after
    exact ⟨.cons first.answer others, after⟩

/-- They are stored as the same members. -/
theorem stored_of_same : ∃ members others : List (String × Json.Value),
    left.stored = (Json.Value.object members).compact ∧
      right.stored = (Json.Value.object others).compact ∧ members.Perm others :=
  ⟨_, _, rfl, rfl, (perm_of_same same).map _⟩

/-- File systems that are equal as maps answer every request alike and are equal as maps after it, and so
    they are after any number of requests. The order of their entries is seen only in the order of what
    is listed, and in the order of the members of what is stored. -/
theorem answers_ignore_order :
    (∀ request, AnswersAlike left right request) ∧
      ∀ requests, List.Forall₂ SameAnswer (left.answers requests) (right.answers requests) ∧
        (left.afterAll requests).sameEntries (right.afterAll requests) ∧
        ∃ members others : List (String × Json.Value),
          (left.afterAll requests).stored = (Json.Value.object members).compact ∧
            (right.afterAll requests).stored = (Json.Value.object others).compact ∧
            members.Perm others := by
  refine ⟨answersAlike same, fun requests => ?_⟩
  obtain ⟨alike, after⟩ := answers_of_same same requests
  exact ⟨alike, after, stored_of_same after⟩

end Same

/-- The root goes along twice when it is copied, and what it holds gets to places that are taken. -/
theorem answers_ignore_swapped_order :
    let note : Node := .file ⟨"milk", .epoch⟩
    let left := ((root.insert "/a" .directory).insert "/a/b" note).insert "x/a" note
    let right := (((⟨.empty⟩ : FileSystem).insert "x/a" note).insert "/a/b" note).insert "/a" .directory
      |>.insert "/" .directory
    let requests : List FileRequest := [.copy "/" "x", .move "xa" "/a/b", .list "", .remove "/", .list "x"]
    left.sameEntries right ∧ left ≠ right ∧
      List.Forall₂ SameAnswer (left.answers requests) (right.answers requests) ∧
      (left.afterAll requests).sameEntries (right.afterAll requests) := by
  intro note left right requests
  have same : left.sameEntries right := by decide
  obtain ⟨alike, after, -⟩ := (answers_ignore_order same).2 requests
  exact ⟨same, by decide, alike, after⟩

end FileSystem
end PathShell
