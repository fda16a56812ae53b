import Mathlib.Data.List.Forall2
import PathShell.FileSystem.Stored
import PathShell.Proofs.FileSystem
import PathShell.Proofs.Json.RoundTrip

/-!
# What a stored text means

An object of members is read as a file system just if every member is the stored form of a node. Each
path stands where it comes first and has the node that it comes with last. Of the members of a node
only those that belong to its type count, in whatever order and whatever else stands among them.
-/

namespace PathShell

/-! ## Nodes -/

/-- The values of the members with a name, in order. -/
def valuesOf (name : String) (members : List (String × Json.Value)) : List Json.Value :=
  (members.filter (·.1 = name)).map Prod.snd

/-- The content of a file is written as a string, the empty one at will as nothing. -/
inductive WritesContent : List Json.Value → String → Prop where
  | absent : WritesContent [] ""
  | string (text : String) : WritesContent [.string text] text

/-- The time of a file is written as a string, the epoch at will as `null` or nothing. -/
inductive WritesInstant : List Json.Value → Instant → Prop where
  | absent : WritesInstant [] .epoch
  | null : WritesInstant [.null] .epoch
  | string {text : String} {instant : Instant} (read : Instant.ofText? text = some instant) :
      WritesInstant [.string text] instant

/-- The values that are a stored form of a node: objects, and arrays of the type and then the other two
    in order. -/
inductive WritesNode : Json.Value → Node → Prop where
  | directory {members : List (String × Json.Value)}
      (kind : valuesOf "type" members = [.string "directory"]) : WritesNode (.object members) .directory
  | file {members : List (String × Json.Value)} {file : File}
      (kind : valuesOf "type" members = [.string "file"])
      (content : WritesContent (valuesOf "content" members) file.content)
      (modified : WritesInstant (valuesOf "lastModified" members) file.modified) :
      WritesNode (.object members) (.file file)
  | directoryItems : WritesNode (.array [.string "directory"]) .directory
  | fileItems {contents times : List Json.Value} {file : File}
      (content : WritesContent contents file.content) (modified : WritesInstant times file.modified)
      (order : contents = [] → times = []) :
      WritesNode (.array (.string "file" :: (contents ++ times))) (.file file)

theorem soleMember?_eq_some_iff {name : String} {members : List (String × Json.Value)}
    {value : Option Json.Value} :
    soleMember? name members = some value ↔ valuesOf name members = value.toList := by
  rw [soleMember?, valuesOf]
  generalize members.filter (·.1 = name) = named
  match named with
  | [] => cases value <;> simp
  | [member] => cases value <;> simp
  | _ :: _ :: _ => cases value <;> simp

theorem storedContent?_eq_some_iff {value : Option Json.Value} {content : String} :
    storedContent? value = some content ↔ WritesContent value.toList content := by
  constructor
  · intro read
    match value with
    | none => cases read; exact .absent
    | some (.string _) => cases read; exact .string _
  · intro written
    match value with
    | none => cases written; rfl
    | some value => cases written; rfl

theorem storedInstant?_eq_some_iff {value : Option Json.Value} {instant : Instant} :
    storedInstant? value = some instant ↔ WritesInstant value.toList instant := by
  constructor
  · intro read
    match value with
    | none => cases read; exact .absent
    | some .null => cases read; exact .null
    | some (.string text) => exact .string read
  · intro written
    match value with
    | none => cases written; rfl
    | some value =>
      cases written with
      | null => rfl
      | string read => exact read

theorem File.ofParts?_eq_some_iff {content modified : Option Json.Value} {file : File} :
    File.ofParts? content modified = some file ↔
      WritesContent content.toList file.content ∧ WritesInstant modified.toList file.modified := by
  rw [← storedContent?_eq_some_iff, ← storedInstant?_eq_some_iff, File.ofParts?]
  cases storedContent? content with
  | none => simp
  | some text =>
    cases storedInstant? modified with
    | none => simp
    | some instant => cases file; simp

theorem WritesContent.length_le {values : List Json.Value} {content : String}
    (written : WritesContent values content) : values.length ≤ 1 := by
  cases written <;> simp

theorem WritesInstant.length_le {values : List Json.Value} {instant : Instant}
    (written : WritesInstant values instant) : values.length ≤ 1 := by
  cases written <;> simp

/-- What is written of a file are its parts, each there or not. -/
theorem exists_ofParts? {contents times : List Json.Value} {file : File}
    (content : WritesContent contents file.content) (modified : WritesInstant times file.modified) :
    ∃ text time, contents = Option.toList text ∧ times = Option.toList time ∧
      File.ofParts? text time = some file := by
  have optional {values : List Json.Value} (few : values.length ≤ 1) :
      ∃ value, values = Option.toList value := by
    match values with
    | [] => exact ⟨none, rfl⟩
    | [value] => exact ⟨some value, rfl⟩
  obtain ⟨text, rfl⟩ := optional content.length_le
  obtain ⟨time, rfl⟩ := optional modified.length_le
  exact ⟨text, time, rfl, rfl, File.ofParts?_eq_some_iff.mpr ⟨content, modified⟩⟩

theorem Node.ofMembers?_eq_some_iff {members : List (String × Json.Value)} {node : Node} :
    Node.ofMembers? members = some node ↔ WritesNode (.object members) node := by
  constructor
  · intro read
    rw [Node.ofMembers?] at read
    split at read
    · next kind named =>
      rw [soleMember?_eq_some_iff] at named
      split at read
      · next directory =>
        cases read
        exact .directory (by rw [named, directory]; rfl)
      split at read
      · next file =>
        split at read
        · next content modified contentNamed modifiedNamed =>
          rw [soleMember?_eq_some_iff] at contentNamed modifiedNamed
          rw [Option.map_eq_some_iff] at read
          obtain ⟨file', parts, rfl⟩ := read
          rw [File.ofParts?_eq_some_iff, ← contentNamed, ← modifiedNamed] at parts
          exact .file (by rw [named, file]; rfl) parts.1 parts.2
        · cases read
      · cases read
    · cases read
  · intro written
    cases written with
    | directory kind =>
      have named : soleMember? "type" members = some (some (.string "directory")) :=
        soleMember?_eq_some_iff.mpr kind
      simp [Node.ofMembers?, named]
    | @file _ file kind content modified =>
      have named : soleMember? "type" members = some (some (.string "file")) :=
        soleMember?_eq_some_iff.mpr kind
      obtain ⟨text, time, contents, times, parts⟩ := exists_ofParts? content modified
      rw [← soleMember?_eq_some_iff] at contents times
      simp [Node.ofMembers?, named, contents, times, parts]

/-- The items of a file behind its type. -/
theorem writesNode_of_ofParts? (text time : Option Json.Value) {node : Node}
    (read : (File.ofParts? text time).map Node.file = some node) (order : text = none → time = none) :
    WritesNode (.array (.string "file" :: (text.toList ++ time.toList))) node := by
  rw [Option.map_eq_some_iff] at read
  obtain ⟨file, parts, rfl⟩ := read
  obtain ⟨content, modified⟩ := File.ofParts?_eq_some_iff.mp parts
  refine .fileItems content modified fun absent => ?_
  rw [order (by simpa using absent)]
  rfl

theorem Node.ofItems?_eq_some_iff {items : List Json.Value} {node : Node} :
    Node.ofItems? items = some node ↔ WritesNode (.array items) node := by
  constructor
  · intro read
    match items with
    | [] => cases read
    | .null :: _ => cases read
    | .bool _ :: _ => cases read
    | .number _ :: _ => cases read
    | .array _ :: _ => cases read
    | .object _ :: _ => cases read
    | .string kind :: rest =>
      by_cases directory : kind = "directory"
      · subst directory
        cases rest with
        | nil => cases read; exact .directoryItems
        | cons => cases read
      by_cases file : kind = "file"
      · subst file
        match rest with
        | [] => exact writesNode_of_ofParts? none none read fun _ => rfl
        | [content] => exact writesNode_of_ofParts? (some content) none read nofun
        | [content, modified] => exact writesNode_of_ofParts? (some content) (some modified) read nofun
        | _ :: _ :: _ :: _ => cases read
      · simp [Node.ofItems?, directory, file] at read
  · intro written
    cases written with
    | directoryItems => rfl
    | fileItems content modified order =>
      obtain ⟨text, time, rfl, rfl, parts⟩ := exists_ofParts? content modified
      match text, time with
      | none, none => simp [Node.ofItems?, parts]
      | some _, none => simp [Node.ofItems?, parts]
      | some _, some _ => simp [Node.ofItems?, parts]
      | none, some _ => cases order rfl

theorem Node.ofJson?_eq_some_iff {value : Json.Value} {node : Node} :
    Node.ofJson? value = some node ↔ WritesNode value node := by
  cases value with
  | object members => exact Node.ofMembers?_eq_some_iff
  | array items => exact Node.ofItems?_eq_some_iff
  | null => exact ⟨nofun, nofun⟩
  | bool value => exact ⟨nofun, nofun⟩
  | number text => exact ⟨nofun, nofun⟩
  | string text => exact ⟨nofun, nofun⟩

/-! ## Members in turn -/

namespace FileSystem

theorem nodes?_append (front back : List (String × Json.Value)) :
    nodes? (front ++ back) = (nodes? front).bind fun first => (nodes? back).map (first ++ ·) := by
  induction front with
  | nil => cases rest : nodes? back <;> simp [nodes?, rest]
  | cons member front ih =>
    rw [List.cons_append, nodes?, nodes?, ih]
    cases Node.ofJson? member.2 with
    | none => rfl
    | some node =>
      cases nodes? front with
      | none => rfl
      | some first => cases nodes? back <;> rfl

theorem paths_of_nodes? {members : List (String × Json.Value)} {nodes : List (String × Node)}
    (read : nodes? members = some nodes) : nodes.map Prod.fst = members.map Prod.fst := by
  induction members generalizing nodes with
  | nil => cases read; rfl
  | cons member rest ih =>
    rw [nodes?] at read
    split at read
    · next node others made also =>
      cases read
      rw [List.map_cons, List.map_cons, ih also]
    · cases read

/-- All members are nodes just if each of them is. -/
theorem exists_nodes?_iff (members : List (String × Json.Value)) :
    (∃ nodes, nodes? members = some nodes) ↔ ∀ member ∈ members, ∃ node, WritesNode member.2 node := by
  induction members with
  | nil => exact ⟨fun _ => nofun, fun _ => ⟨[], rfl⟩⟩
  | cons member rest ih =>
    rw [List.forall_mem_cons, ← ih, nodes?]
    simp only [← Node.ofJson?_eq_some_iff]
    cases Node.ofJson? member.2 with
    | none => simp
    | some node => cases nodes? rest <;> simp

/-- The last member with a path is the node there. -/
theorem exists_last_of_nodes? {before after : List (String × Json.Value)} {path : String}
    {value : Json.Value} {nodes : List (String × Node)}
    (read : nodes? (before ++ (path, value) :: after) = some nodes) (last : path ∉ after.map Prod.fst) :
    ∃ node, WritesNode value node ∧ (OrderedMap.ofList nodes).get? path = some node := by
  rw [nodes?_append, Option.bind_eq_some_iff] at read
  obtain ⟨front, -, rest⟩ := read
  rw [Option.map_eq_some_iff] at rest
  obtain ⟨others, behind, rfl⟩ := rest
  rw [nodes?] at behind
  split at behind
  · next node back made also =>
    cases behind
    refine ⟨node, Node.ofJson?_eq_some_iff.mp made, ?_⟩
    refine OrderedMap.get?_ofList_last front ?_ node
    rwa [paths_of_nodes? also]
  · cases behind

/-- The file system that the members of an object stand for: their paths, each once and where it comes
    first, with the node that it comes with last, and a root before them if it is missing. -/
structure HoldsMembers (fs : FileSystem) (members : List (String × Json.Value)) : Prop where
  paths : fs.entries.keys =
    if "/" ∈ members.map Prod.fst then (members.map Prod.fst).eraseDups
    else "/" :: (members.map Prod.fst).eraseDups
  root : "/" ∉ members.map Prod.fst → fs.get? "/" = some .directory
  last : ∀ before path value after, members = before ++ (path, value) :: after →
    path ∉ after.map Prod.fst → ∃ node, WritesNode value node ∧ fs.get? path = some node

theorem get?_ensureRoot {fs : FileSystem} {path : String} {node : Node}
    (found : fs.get? path = some node) : fs.ensureRoot.get? path = some node := by
  have entry : (path, node) ∈ fs.entries.entries := OrderedMap.get?_eq_some_iff.mp found
  refine OrderedMap.get?_eq_some_iff.mpr ?_
  rw [entries_ensureRoot]
  split
  · exact entry
  · exact List.mem_cons_of_mem _ entry

theorem holdsMembers_of_nodes? {members : List (String × Json.Value)} {nodes : List (String × Node)}
    (read : nodes? members = some nodes) :
    HoldsMembers (⟨.ofList nodes⟩ : FileSystem).ensureRoot members := by
  have keys : (OrderedMap.ofList nodes).keys = (members.map Prod.fst).eraseDups := by
    rw [OrderedMap.keys_ofList, paths_of_nodes? read]
  have rooted : (⟨.ofList nodes⟩ : FileSystem).contains "/" ↔ "/" ∈ members.map Prod.fst := by
    rw [contains, OrderedMap.contains_iff_mem_keys, keys, List.mem_eraseDups]
  have entries := entries_ensureRoot ⟨.ofList nodes⟩
  constructor
  · rw [OrderedMap.keys, entries]
    simp only [rooted]
    split
    · exact keys
    · exact congrArg ("/" :: ·) keys
  · intro missing
    rw [if_neg (fun inside => missing (rooted.mp inside))] at entries
    refine OrderedMap.get?_eq_some_iff.mpr ?_
    rw [entries]
    exact List.mem_cons_self
  · rintro before path value after rfl last
    obtain ⟨node, written, found⟩ := exists_last_of_nodes? read last
    exact ⟨node, written, get?_ensureRoot found⟩

theorem ofStored?_of_read? {text : String} {members : List (String × Json.Value)}
    (read : Json.read? text = some (.object members)) :
    ofStored? text = (nodes? members).map fun nodes => (⟨.ofList nodes⟩ : FileSystem).ensureRoot := by
  rw [ofStored?, read]
  rfl

/-- The text of an object is read just if every one of its members is the stored form of a node, also
    those whose path comes again; then it is read as the file system that the members stand for. -/
theorem decodes_members {text : String} {members : List (String × Json.Value)}
    (read : Json.read? text = some (.object members)) :
    ((∃ fs, ofStored? text = some fs) ↔ ∀ member ∈ members, ∃ node, WritesNode member.2 node) ∧
      ∀ fs, ofStored? text = some fs → fs.HoldsMembers members := by
  rw [ofStored?_of_read? read]
  constructor
  · rw [← exists_nodes?_iff]
    cases nodes? members <;> simp
  · intro fs held
    rw [Option.map_eq_some_iff] at held
    obtain ⟨nodes, all, rfl⟩ := held
    exact holdsMembers_of_nodes? all

theorem decodes_repeated_path :
    let text := "\x7b\"/b\":\x7b\"type\":\"file\"\x7d,\"/a\":[\"file\"],\"/b\":[\"directory\"]\x7d"
    let members := [("/b", .object [("type", .string "file")]), ("/a", .array [.string "file"]),
      ("/b", .array [.string "directory"])]
    Json.read? text = some (.object members) ∧
      ∃ fs, ofStored? text = some fs ∧ fs.HoldsMembers members ∧
        fs.entries.keys = ["/", "/b", "/a"] ∧ fs.get? "/b" = some .directory := by
  intro text members
  have written : text = (Json.Value.object members).compact := by
    simp only [text, members]
    decide +kernel
  have read : Json.read? text = some (.object members) := by
    rw [written]
    refine Json.read?_compact ?_ (by decide)
    simp [members, Json.Value.Sound, Json.SoundMembers, Json.SoundItems]
  have valid : ∀ member ∈ members, ∃ node, WritesNode member.2 node := by
    simp only [members, List.forall_mem_cons]
    simp only [← Node.ofJson?_eq_some_iff]
    exact ⟨⟨_, rfl⟩, ⟨_, rfl⟩, ⟨_, rfl⟩, nofun⟩
  obtain ⟨fs, held⟩ := (decodes_members read).1.mpr valid
  have holds := (decodes_members read).2 fs held
  obtain ⟨node, written, found⟩ := holds.last (members.take 2) "/b" _ [] rfl nofun
  cases Node.ofJson?_eq_some_iff.mpr written
  exact ⟨read, fs, held, holds, holds.paths, found⟩

end FileSystem

/-! ## What is not read -/

/-- The members with one of the names, in order. -/
def named (names : List String) (members : List (String × Json.Value)) : List (String × Json.Value) :=
  members.filter (·.1 ∈ names)

/-- Objects with the same members that a node is read from, in whatever order and with whatever others
    among them. Of a directory only the type is read. -/
inductive SameNode (first second : List (String × Json.Value)) : Prop where
  | any (same : (named ["type", "content", "lastModified"] first).Perm
      (named ["type", "content", "lastModified"] second))
  | directory (kind : ("type", .string "directory") ∈ first)
      (same : (named ["type"] first).Perm (named ["type"] second))

theorem valuesOf_perm {names : List String} {name : String} (among : name ∈ names)
    {first second : List (String × Json.Value)}
    (same : (named names first).Perm (named names second)) :
    (valuesOf name first).Perm (valuesOf name second) := by
  have within (members : List (String × Json.Value)) :
      (named names members).filter (·.1 = name) = members.filter (·.1 = name) := by
    rw [named, List.filter_filter]
    refine List.filter_congr fun member _ => ?_
    by_cases asked : member.1 = name
    · simp [asked, among]
    · simp [asked]
  have kept := (same.filter (·.1 = name)).map Prod.snd
  rwa [within, within] at kept

theorem SameNode.symm {first second : List (String × Json.Value)} (same : SameNode first second) :
    SameNode second first := by
  cases same with
  | any same => exact .any same.symm
  | directory kind same =>
    have inside : ("type", .string "directory") ∈ named ["type"] second :=
      same.subset (List.mem_filter.mpr ⟨kind, by simp⟩)
    exact .directory (List.mem_filter.mp inside).1 same.symm

theorem eq_of_perm {values others : List Json.Value} (few : values.length ≤ 1)
    (same : values.Perm others) : others = values := by
  match values with
  | [] => exact same.nil_eq.symm
  | [value] => exact (List.singleton_perm.mp same).symm

theorem WritesNode.of_sameNode {first second : List (String × Json.Value)} {node : Node}
    (written : WritesNode (.object first) node) (same : SameNode first second) :
    WritesNode (.object second) node := by
  have kindAgrees : (valuesOf "type" first).Perm (valuesOf "type" second) := by
    cases same with
    | any same => exact valuesOf_perm (by simp) same
    | directory kind same => exact valuesOf_perm (by simp) same
  cases written with
  | directory kind =>
    rw [kind] at kindAgrees
    exact .directory (List.singleton_perm.mp kindAgrees).symm
  | file kind content modified =>
    cases same with
    | any same =>
      rw [kind] at kindAgrees
      have contents := eq_of_perm content.length_le (valuesOf_perm (by simp) same)
      have times := eq_of_perm modified.length_le (valuesOf_perm (by simp) same)
      exact .file (List.singleton_perm.mp kindAgrees).symm (contents ▸ content) (times ▸ modified)
    | directory other same =>
      -- A directory is no file, so nothing is left to show.
      have listed : .string "directory" ∈ valuesOf "type" first :=
        List.mem_map_of_mem (List.mem_filter.mpr ⟨other, by simp⟩)
      rw [kind] at listed
      simp at listed

/-- Members with the same path whose nodes are written as objects and agree in what is read. -/
def SameMember (first second : String × Json.Value) : Prop :=
  first.1 = second.1 ∧ ∃ a b, first.2 = .object a ∧ second.2 = .object b ∧ SameNode a b

theorem SameMember.ofJson?_eq {first second : String × Json.Value} (same : SameMember first second) :
    Node.ofJson? first.2 = Node.ofJson? second.2 := by
  obtain ⟨-, a, b, left, right, agree⟩ := same
  refine Option.ext fun node => ?_
  rw [left, right, Node.ofJson?_eq_some_iff, Node.ofJson?_eq_some_iff]
  exact ⟨fun written => written.of_sameNode agree, fun written => written.of_sameNode agree.symm⟩

namespace FileSystem

theorem nodes?_congr {first second : List (String × Json.Value)}
    (same : List.Forall₂ SameMember first second) : nodes? first = nodes? second := by
  induction same with
  | nil => rfl
  | cons member _ ih => rw [nodes?, nodes?, member.ofJson?_eq, member.1, ih]

theorem exists_object {first second : List (String × Json.Value)}
    (same : List.Forall₂ SameMember first second) :
    ∀ member ∈ first, ∃ node, member.2 = Json.Value.object node := by
  induction same with
  | nil => nofun
  | cons member _ ih =>
    obtain ⟨-, node, -, left, -⟩ := member
    exact List.forall_mem_cons.mpr ⟨⟨node, left⟩, ih⟩

theorem exists_last_of_mem {members : List (String × Json.Value)} {path : String}
    (inside : path ∈ members.map Prod.fst) :
    ∃ before value after, members = before ++ (path, value) :: after ∧ path ∉ after.map Prod.fst := by
  induction members with
  | nil => cases inside
  | cons member rest ih =>
    by_cases later : path ∈ rest.map Prod.fst
    · obtain ⟨before, value, after, rfl, last⟩ := ih later
      exact ⟨member :: before, value, after, rfl, last⟩
    · obtain rfl : path = member.1 := by simpa [later] using inside
      exact ⟨[], member.2, rest, rfl, later⟩

/-- A file is written by the last member with its path. -/
theorem HoldsMembers.exists_last {fs : FileSystem} {members : List (String × Json.Value)}
    (holds : fs.HoldsMembers members) {path : String} {file : File}
    (found : fs.get? path = some (.file file)) :
    ∃ before value after, members = before ++ (path, value) :: after ∧ path ∉ after.map Prod.fst ∧
      WritesNode value (.file file) := by
  have inside : path ∈ members.map Prod.fst := by
    have key : path ∈ fs.entries.keys :=
      OrderedMap.contains_iff_mem_keys.mp (Option.isSome_of_eq_some found)
    rw [holds.paths] at key
    split at key
    · exact List.mem_eraseDups.mp key
    · next missing =>
      rcases List.mem_cons.mp key with rfl | key
      · rw [holds.root missing] at found
        cases found
      · exact List.mem_eraseDups.mp key
  obtain ⟨before, value, after, split, last⟩ := exists_last_of_mem inside
  obtain ⟨node, written, held⟩ := holds.last before path value after split last
  cases found.symm.trans held
  exact ⟨before, value, after, split, last, written⟩

/-- Texts whose objects agree in what is read of each node are read alike: whether they can be read,
    and as which file system. The size of a file is the length of its content in bytes, and the content
    is that of the last member with its path, whatever else the text says. -/
theorem reads_agreeing_texts {first second : String} {members others : List (String × Json.Value)}
    (read : Json.read? first = some (.object members))
    (readOther : Json.read? second = some (.object others))
    (same : List.Forall₂ SameMember members others) :
    ofStored? first = ofStored? second ∧
      ∀ fs, ofStored? first = some fs → ∀ path file, fs.get? path = some (.file file) →
        file.size = file.content.toUTF8.size ∧
          ∃ before node after, members = before ++ (path, .object node) :: after ∧
            path ∉ after.map Prod.fst ∧ WritesContent (valuesOf "content" node) file.content := by
  constructor
  · rw [ofStored?_of_read? read, ofStored?_of_read? readOther, nodes?_congr same]
  · intro fs held path file found
    refine ⟨rfl, ?_⟩
    rw [ofStored?_of_read? read, Option.map_eq_some_iff] at held
    obtain ⟨nodes, all, rfl⟩ := held
    obtain ⟨before, value, after, split, last, written⟩ := (holdsMembers_of_nodes? all).exists_last found
    obtain ⟨node, shape⟩ := exists_object same (path, value) (by simp [split])
    obtain rfl : value = .object node := shape
    cases written with
    | file _ content _ => exact ⟨before, node, after, split, last, content⟩

theorem reads_text_with_stale_size :
    let first := "\x7b\"/a\":\x7b\"type\":\"file\",\"size\":21,\"content\":\"é\"\x7d\x7d"
    let second := "\x7b\"/a\":\x7b\"x\":[null],\"content\":\"é\",\"x\":true,\"type\":\"file\"\x7d\x7d"
    let members := [("/a", .object [("type", .string "file"), ("size", .ofNat 21),
      ("content", .string "é")])]
    let others := [("/a", .object [("x", .array [.null]), ("content", .string "é"), ("x", .bool true),
      ("type", .string "file")])]
    Json.read? first = some (.object members) ∧ Json.read? second = some (.object others) ∧
      List.Forall₂ SameMember members others ∧ ofStored? first = ofStored? second ∧
      (ofStored? second).bind (·.get? "/a") = some (.file ⟨"é", .epoch⟩) ∧
      (⟨"é", .epoch⟩ : File).size = 2 := by
  intro first second members others
  have writtenFirst : first = (Json.Value.object members).compact := by
    simp only [first, members]
    decide +kernel
  have writtenSecond : second = (Json.Value.object others).compact := by
    simp only [second, others]
    decide +kernel
  have read : Json.read? first = some (.object members) := by
    rw [writtenFirst]
    refine Json.read?_compact ?_ (by decide)
    have number : (Json.Value.ofNat 21).Sound := Json.sound_ofNat (by decide)
    simp [members, Json.Value.Sound, Json.SoundMembers, number]
  have readOther : Json.read? second = some (.object others) := by
    rw [writtenSecond]
    refine Json.read?_compact ?_ (by decide)
    simp [others, Json.Value.Sound, Json.SoundMembers, Json.SoundItems]
  have same : List.Forall₂ SameMember members others :=
    .cons ⟨rfl, _, _, rfl, rfl, .any (.swap ..)⟩ .nil
  have alike := (reads_agreeing_texts read readOther same).1
  exact ⟨read, readOther, same, alike, by decide +kernel, by decide⟩

end FileSystem
end PathShell
