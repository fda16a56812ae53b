import PathShell.Path

/-!
# Where paths lie

An entry of a directory has the path that its stem and its name make. So whatever begins with the path
of an entry lies below the directory, and neither the directory nor the root does. A name without a
slash makes a child; what comes before the last slash of a path names its parent, but the parent has it
for a child only if nothing of the path is lost there.
-/

namespace PathShell
namespace Path

/-- `key` is `path`, or goes on from it. -/
def Begins (path key : String) : Prop := path.toList <+: key.toList

instance (path key : String) : Decidable (Begins path key) :=
  inferInstanceAs (Decidable (path.toList <+: key.toList))

/-- `key` lies below `dir` and is longer than its stem. -/
def strictlyBelow (dir key : String) : Bool := isBelow dir key && key ≠ stem dir

theorem begins_refl (path : String) : Begins path path := List.prefix_refl _

theorem isBelow_iff {dir key : String} : isBelow dir key ↔ Begins (stem dir) key := by
  rw [isBelow, Begins, List.isPrefixOf_iff_prefix]

theorem begins_stem (dir : String) : Begins dir (stem dir) := by
  by_cases root : dir = "/"
  · simp [Begins, stem, root]
  · simp [Begins, stem, root]

theorem begins_of_isBelow {dir key : String} (below : isBelow dir key) : Begins dir key :=
  (begins_stem dir).trans (isBelow_iff.mp below)

theorem begins_rebase (source target path : String) : Begins target (rebase source target path) := by
  simp [Begins, rebase]

theorem begins_iff {path key : String} : Begins path key ↔ ∃ rest, key = path ++ rest := by
  constructor
  · rintro ⟨rest, whole⟩
    exact ⟨String.ofList rest, by rw [← String.toList_inj, String.toList_append, String.toList_ofList, whole]⟩
  · rintro ⟨rest, rfl⟩
    rw [Begins, String.toList_append]
    exact List.prefix_append ..

theorem drop_length_append (first rest : String) :
    (first ++ rest).toList.drop first.length = rest.toList := by
  rw [String.toList_append, ← String.length_toList, List.drop_left]

theorem rebase_append (source target rest : String) :
    rebase source target (source ++ rest) = target ++ rest := by
  rw [rebase, after, drop_length_append, String.ofList_toList]

/-- Paths that begin alike are what they begin with, each with something after it. -/
theorem exists_rests_of_begins {path : String} {keys : List String}
    (begins : ∀ key ∈ keys, Begins path key) : ∃ rests : List String, keys = rests.map (path ++ ·) := by
  refine ⟨keys.map (after path.length), ?_⟩
  rw [List.map_map]
  refine ((List.map_congr_left fun key member => ?_).trans (List.map_id keys)).symm
  obtain ⟨rest, rfl⟩ := begins_iff.mp (begins key member)
  exact rebase_append path path rest

/-- Below any directory but the root lies what begins with its path and a slash. -/
theorem isBelow_iff_of_ne_root {dir key : String} (placed : dir ≠ "/") :
    isBelow dir key ↔ Begins (dir ++ "/") key := by
  rw [isBelow_iff, stem, if_neg placed]

/-! ## Entries of a directory -/

theorem join_eq_stem_append (dir name : String) : join dir name = stem dir ++ name := by
  by_cases root : dir = "/"
  · simp [join, stem, root]
  · simp [join, stem, root]

theorem slash_mem_join (dir name : String) : '/' ∈ (join dir name).toList := by
  by_cases root : dir = "/"
  · simp [join, root]
  · simp [join, root]

theorem isBelow_of_begins_join {dir name key : String} (begins : Begins (join dir name) key) :
    isBelow dir key := by
  rw [isBelow_iff]
  refine List.IsPrefix.trans ?_ begins
  rw [join_eq_stem_append, String.toList_append]
  exact List.prefix_append _ _

theorem strictlyBelow_of_begins_join {dir name key : String} (named : name ≠ "")
    (begins : Begins (join dir name) key) : strictlyBelow dir key := by
  have longer := begins.length_le
  have positive : name.length ≠ 0 := by simpa using named
  have different : key ≠ stem dir := by
    rintro rfl
    rw [String.length_toList, String.length_toList, join_eq_stem_append, String.length_append] at longer
    omega
  simp [strictlyBelow, isBelow_of_begins_join begins, different]

theorem length_stem_le {dir key : String} (below : isBelow dir key) :
    (stem dir).toList.length ≤ key.toList.length :=
  (isBelow_iff.mp below).length_le

theorem not_strictlyBelow_self (dir : String) : strictlyBelow dir dir = false := by
  by_cases root : dir = "/"
  · simp [strictlyBelow, stem, root]
  · have apart : ¬ isBelow dir dir := by
      intro below
      have longer := length_stem_le below
      have slash : (stem dir).toList.length = dir.toList.length + 1 := by simp [stem, root]
      omega
    simp [strictlyBelow, apart]

theorem not_strictlyBelow_root (dir : String) : strictlyBelow dir "/" = false := by
  by_cases below : isBelow dir "/"
  · have same : "/" = stem dir := by
      have ends : (stem dir).toList <+: ['/'] := isBelow_iff.mp below
      have positive : (stem dir).toList ≠ [] := by
        by_cases root : dir = "/"
        · simp [stem, root]
        · simp [stem, root]
      have whole : (stem dir).toList = ['/'] :=
        ends.eq_of_length_le (List.length_pos_iff.mpr positive)
      exact (String.toList_inj.mp whole).symm
    simp [strictlyBelow, ← same]
  · simp [strictlyBelow, below]

/-! ## Paths above and below each other -/

theorem begins_append_iff {path left right : String} :
    Begins (path ++ left) (path ++ right) ↔ Begins left right := by
  simp only [Begins, String.toList_append]
  exact List.prefix_append_right_inj _

theorem begins_append_slash (path rest : String) : Begins (path ++ "/") (path ++ ("/" ++ rest)) :=
  begins_iff.mpr ⟨rest, (String.append_assoc ..).symm⟩

/-- What begins a text with a slash at its end is the whole text, or begins what comes before the
    slash. -/
theorem begins_concat_slash_iff {path before : String} :
    Begins path (before ++ "/") ↔ path = before ++ "/" ∨ Begins path before := by
  have whole : (before ++ "/").toList = before.toList ++ ['/'] := by simp
  rw [Begins, whole, List.prefix_concat_iff, ← whole, String.toList_inj, Begins]

theorem isBelow_of_begins_slash {dir key : String} (begins : Begins (dir ++ "/") key) :
    isBelow dir key := by
  by_cases root : dir = "/"
  · subst root
    have doubled : Begins "/" ("/" ++ "/") := begins_iff.mpr ⟨"/", rfl⟩
    exact isBelow_iff.mpr (doubled.trans begins)
  · exact (isBelow_iff_of_ne_root root).mpr begins

/-- Of what goes on from a directory other than the root, just that lies below it which goes on with a
    slash. -/
theorem isBelow_append_iff {dir rest : String} (placed : dir ≠ "/") :
    isBelow dir (dir ++ rest) ↔ Begins "/" rest := by
  rw [isBelow_iff_of_ne_root placed, begins_append_iff]

theorem exists_slash_of_isBelow_append {dir rest : String} (placed : dir ≠ "/")
    (below : isBelow dir (dir ++ rest)) : ∃ last : String, rest = "/" ++ last :=
  begins_iff.mp ((isBelow_append_iff placed).mp below)

/-- Of two directories above one path, one is the other or lies below it. -/
theorem begins_slash_cases {left right key : String} (first : Begins (left ++ "/") key)
    (second : Begins (right ++ "/") key) :
    left = right ∨ Begins (left ++ "/") right ∨ Begins (right ++ "/") left := by
  rcases List.prefix_or_prefix_of_prefix first second with above | above
  · rcases begins_concat_slash_iff.mp above with same | above
    · exact .inl ((String.append_left_inj "/").mp same)
    · exact .inr (.inl above)
  · rcases begins_concat_slash_iff.mp above with same | above
    · exact .inl ((String.append_left_inj "/").mp same).symm
    · exact .inr (.inr above)

theorem isBelow_root_self : isBelow "/" "/" := by decide

/-- What lies below the root begins with a slash, which is there at the start of the path already, unless
    that is empty. -/
theorem eq_empty_or_isBelow_root {path rest : String} (below : isBelow "/" (path ++ rest)) :
    path = "" ∨ isBelow "/" path := by
  have slash : Begins "/" (path ++ rest) := isBelow_iff.mp below
  have goes : Begins path (path ++ rest) := begins_iff.mpr ⟨rest, rfl⟩
  rcases List.prefix_or_prefix_of_prefix slash goes with above | short
  · exact .inr (isBelow_iff.mpr above)
  · have single : path.toList <+: [] ++ ['/'] := short
    rcases List.prefix_concat_iff.mp single with same | empty
    · have root : path = "/" := String.toList_inj.mp same
      subst root
      exact .inr isBelow_root_self
    · exact .inl (String.toList_eq_nil_iff.mp (List.prefix_nil.mp empty))

/-- Where a path at or below `source` gets to another one when `target`, which does not lie below
    `source`, takes the place of `source`, then `source` lies below `target`. -/
theorem begins_of_reaches {source target rest : String} (different : source ≠ target)
    (outside : ¬ isBelow source target)
    (carried : source ++ rest = source ∨ isBelow source (source ++ rest))
    (reached : target ++ rest = source ∨ isBelow source (target ++ rest)) :
    Begins (target ++ "/") source := by
  by_cases root : source = "/"
  · subst root
    have below : isBelow "/" (target ++ rest) := by
      rcases reached with same | below
      · rw [same]
        exact isBelow_root_self
      · exact below
    rcases eq_empty_or_isBelow_root below with rfl | inside
    · exact begins_refl "/"
    · exact absurd inside outside
  · rcases carried with top | below
    · have nothing : rest = "" := by simpa using top
      rw [nothing, String.append_empty] at reached
      rcases reached with same | inside
      · exact absurd same.symm different
      · exact absurd inside outside
    · obtain ⟨last, rfl⟩ := exists_slash_of_isBelow_append root below
      have goes := begins_append_slash target last
      rcases reached with same | meets
      · exact same ▸ goes
      · rcases begins_slash_cases goes ((isBelow_iff_of_ne_root root).mp meets) with same | above | inside
        · exact absurd same.symm different
        · exact above
        · exact absurd ((isBelow_iff_of_ne_root root).mpr inside) outside

/-! ## Entries of directories below -/

theorem isBelow_join {path dir : String} (within : path = dir ∨ isBelow path dir) (name : String) :
    isBelow path (join dir name) := by
  have child : isBelow dir (join dir name) := isBelow_of_begins_join (begins_refl _)
  rcases within with rfl | below
  · exact child
  · exact isBelow_iff.mpr ((isBelow_iff.mp below).trans (begins_of_isBelow child))

theorem exists_stem_eq_append_slash (path : String) : ∃ before : String, stem path = before ++ "/" := by
  by_cases root : path = "/"
  · exact ⟨"", by rw [stem, if_pos root, String.empty_append]⟩
  · exact ⟨path, by rw [stem, if_neg root]⟩

/-- What ends with a slash, and begins a text at whose end a name stands, begins it before the name. -/
theorem begins_of_begins_append {path before name : String} (plain : '/' ∉ name.toList)
    (begins : Begins (path ++ "/") (before ++ name)) : Begins (path ++ "/") before := by
  have goes : Begins before (before ++ name) := begins_iff.mpr ⟨name, rfl⟩
  rcases List.prefix_or_prefix_of_prefix begins goes with inside | short
  · exact inside
  · rcases begins_concat_slash_iff.mp short with same | above
    · exact same ▸ begins_refl _
    · obtain ⟨rest, rfl⟩ := begins_iff.mp above
      rw [String.append_assoc, begins_append_iff] at begins
      have slash : '/' ∈ (rest ++ "/").toList := by simp
      exact absurd (begins.subset slash) plain

/-- A child lies below a path only if its directory does, or is that path itself. The empty path is left
    out: its children are those of the root. -/
theorem within_of_isBelow_join {path dir name : String} (filled : dir ≠ "") (plain : '/' ∉ name.toList)
    (below : isBelow path (join dir name)) : path = dir ∨ isBelow path dir := by
  obtain ⟨before, slashed⟩ := exists_stem_eq_append_slash path
  rw [isBelow_iff, join_eq_stem_append, slashed] at below
  have inside : Begins (stem path) (stem dir) := by
    rw [slashed]
    exact begins_of_begins_append plain below
  by_cases root : dir = "/"
  · have same : stem dir = dir := by rw [root]; rfl
    rw [same] at inside
    exact .inr (isBelow_iff.mpr inside)
  · have same : stem dir = dir ++ "/" := by rw [stem, if_neg root]
    rw [same] at inside
    rcases begins_concat_slash_iff.mp inside with whole | above
    · by_cases top : path = "/"
      · subst top
        have nothing : "" ++ "/" = dir ++ "/" := whole
        exact absurd ((String.append_left_inj "/").mp nothing).symm filled
      · rw [stem, if_neg top] at whole
        exact .inl ((String.append_left_inj "/").mp whole)
    · exact .inr (isBelow_iff.mpr above)

/-! ## Segments -/

/-- A name that makes a path of one more segment. -/
def IsSegment (name : String) : Prop := name ≠ "" ∧ '/' ∉ name.toList

theorem resolve_of_isSegment {name : String} (segment : IsSegment name) (other : name ≠ "..")
    (cwd : String) : resolve name cwd = join cwd name := by
  have relative : name.toList.head? ≠ some '/' := fun first =>
    segment.2 (List.mem_of_mem_head? first)
  rw [resolve, if_neg other, if_neg relative]

/-- A path with a slash is what comes before its last slash, the slash, and what comes after it. -/
theorem exists_last_slash {path : String} (slashed : '/' ∈ path.toList) :
    ∃ before last : String, path = before ++ "/" ++ last ∧ '/' ∉ last.toList := by
  obtain ⟨last, before, reversed, plain⟩ :=
    List.eq_append_cons_of_mem (List.mem_reverse.mpr slashed)
  refine ⟨String.ofList before.reverse, String.ofList last.reverse, ?_, by simpa using plain⟩
  have whole := congrArg List.reverse reversed
  rw [List.reverse_reverse] at whole
  rw [← String.toList_inj, whole]
  simp

section LastSlash

variable {last : String} (plain : '/' ∉ last.toList) (before : String)

include plain

theorem ne_slash_of_mem_reverse : ∀ c ∈ last.toList.reverse, decide (c ≠ '/') := by
  intro c member
  have different : c ≠ '/' := fun same => plain (same ▸ List.mem_reverse.mp member)
  simpa using different

theorem parent_append : parent (before ++ "/" ++ last) = if before = "" then "/" else before := by
  have reversed : (before ++ "/" ++ last).toList.reverse =
      last.toList.reverse ++ '/' :: before.toList.reverse := by simp
  rw [parent, reversed, List.dropWhile_append_of_pos (ne_slash_of_mem_reverse plain)]
  simp

theorem basename_append : basename (before ++ "/" ++ last) = last := by
  have reversed : (before ++ "/" ++ last).toList.reverse =
      last.toList.reverse ++ '/' :: before.toList.reverse := by simp
  rw [basename, reversed, List.takeWhile_append_of_pos (ne_slash_of_mem_reverse plain)]
  simp

end LastSlash

/-- Climbing from a child leads back to its directory. Only from the children of the empty path it leads
    to the root instead. -/
theorem parent_join {dir name : String} (filled : dir ≠ "") (plain : '/' ∉ name.toList) :
    parent (join dir name) = dir := by
  by_cases root : dir = "/"
  · have child : join dir name = "" ++ "/" ++ name := by rw [join, if_pos root, String.empty_append]
    rw [child, parent_append plain, if_pos rfl, root]
  · rw [join, if_neg root, parent_append plain, if_neg filled]

/-- The children of a directory are the paths that it makes with a segment. -/
theorem childName?_eq_some_iff {dir path name : String} :
    childName? dir path = some name ↔ IsSegment name ∧ path = join dir name := by
  rw [join_eq_stem_append, childName?]
  constructor
  · intro named
    split at named
    · next below =>
      obtain ⟨rest, rfl⟩ := begins_iff.mp (isBelow_iff.mp below.2)
      rw [drop_length_append] at named
      dsimp only at named
      split at named
      · next segment =>
        rw [String.ofList_toList] at named
        cases named
        exact ⟨⟨by simpa using segment.1, segment.2⟩, rfl⟩
      · cases named
    · cases named
  · rintro ⟨segment, rfl⟩
    have below : isBelow dir (stem dir ++ name) := isBelow_iff.mpr (begins_iff.mpr ⟨name, rfl⟩)
    have other : stem dir ++ name ≠ dir := by
      intro same
      have strict := strictlyBelow_of_begins_join segment.1 (begins_refl (join dir name))
      rw [join_eq_stem_append, same, not_strictlyBelow_self] at strict
      cases strict
    have filled : name.toList ≠ [] := by simpa using segment.1
    rw [if_pos ⟨other, below⟩, drop_length_append]
    dsimp only
    rw [if_pos ⟨filled, segment.2⟩, String.ofList_toList]

theorem basename_join {name : String} (plain : '/' ∉ name.toList) (dir : String) :
    basename (join dir name) = name := by
  obtain ⟨before, slashed⟩ := exists_stem_eq_append_slash dir
  rw [join_eq_stem_append, slashed, basename_append plain]

/-- The name of a child is the last segment of its path. -/
theorem basename_of_childName? {dir path name : String} (named : childName? dir path = some name) :
    basename path = name := by
  obtain ⟨segment, rfl⟩ := childName?_eq_some_iff.mp named
  exact basename_join segment.2 dir

/-- A path is the child of its parent that its last segment names, unless it ends with a slash, or has
    nothing but a slash before its last one. -/
theorem childName?_parent_iff {path : String} (slashed : '/' ∈ path.toList) :
    childName? (parent path) path = some (basename path) ↔
      basename path ≠ "" ∧ path ≠ "//" ++ basename path := by
  obtain ⟨before, last, rfl, plain⟩ := exists_last_slash slashed
  rw [basename_append plain, parent_append plain, childName?_eq_some_iff, IsSegment]
  by_cases top : before = ""
  · subst top
    have single : "/" ++ last ≠ "//" ++ last := by
      rw [ne_eq, String.append_left_inj]
      decide
    simp [join, plain, single]
  · rw [if_neg top, join]
    by_cases root : before = "/"
    · subst root
      simp
    · have other : before ++ "/" ++ last ≠ "//" ++ last := by
        intro same
        have doubled : before ++ "/" = "/" ++ "/" := (String.append_left_inj last).mp same
        exact root ((String.append_left_inj "/").mp doubled)
      simp [root, other, plain]

end Path
end PathShell
