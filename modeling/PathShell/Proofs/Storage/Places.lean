import PathShell.Proofs.Storage.Disk

/-!
# Places of a disk

Which place a path names is decided by its segments alone; the disk decides only whether the path can be
followed there. So it can be said beforehand which files a change may touch, and a path never names the
place that it names with `.tmp` behind it.
-/

namespace PathShell
namespace Disk

/-! ## The place that a path names -/

/-- The trail on which segments end. -/
def walk (trail : Trail) : List String → Trail
  | [] => trail
  | segment :: rest =>
    if segment = "" ∨ segment = "." then walk trail rest
    else if segment = ".." then walk (climb trail) rest
    else walk (segment :: trail) rest

/-- The place that a path names, if it can be followed. -/
def placeNamed (path : String) : String :=
  placeOf (walk (departure path).1 (departure path).2)

theorem walk_append (trail : Trail) (segments more : List String) :
    walk trail (segments ++ more) = walk (walk trail segments) more := by
  induction segments generalizing trail with
  | nil => rfl
  | cons segment rest ih =>
    simp only [List.cons_append, walk]
    split
    · exact ih trail
    split
    · exact ih (climb trail)
    · exact ih (segment :: trail)

theorem walk_empty {segments : List String} (empty : segments.all (· = "") = true) (trail : Trail) :
    walk trail segments = trail := by
  induction segments with
  | nil => rfl
  | cons segment rest ih =>
    simp only [List.all_cons, Bool.and_eq_true, decide_eq_true_eq] at empty
    rw [walk, if_pos (.inl empty.1), ih empty.2]

theorem follow_place {disk : Disk} {trail : Trail} {segments : List String} {place : String}
    {slash : Bool} (led : disk.follow trail segments = .ok (.entry place slash)) :
    place = placeOf (walk trail segments) := by
  induction segments generalizing trail with
  | nil => cases led
  | cons segment rest ih =>
    simp only [follow, walk] at led ⊢
    by_cases stay : segment = "" ∨ segment = "."
    · simp only [if_pos stay] at led ⊢
      exact ih led
    simp only [if_neg stay] at led ⊢
    by_cases climbs : segment = ".."
    · simp only [if_pos climbs] at led ⊢
      exact ih led
    simp only [if_neg climbs] at led ⊢
    split at led
    · cases led
    split at led
    · next last =>
      cases led
      rw [List.isEmpty_iff.mp last, walk]
    split at led
    · exact ih led
    · cases led
    · split at led
      · next empty =>
        cases led
        rw [walk_empty empty]
      · cases led

/-- Wherever a path leads to an entry, on whatever disk, it is at the place that the path names. -/
theorem locate_place {disk : Disk} {path place : String} {slash : Bool}
    (led : disk.locate path = .ok (.entry place slash)) : place = placeNamed path := by
  simp only [locate] at led
  split at led
  · cases led
  split at led
  · cases led
  split at led
  · cases led
  · exact follow_place led

/-! ## The file beside -/

/-- Another text adds its length, and at most one for the slash before it. -/
theorem length_join_concat (texts : List String) (text : String) :
    (Text.join "/" texts).length + text.length ≤ (Text.join "/" (texts ++ [text])).length ∧
      (Text.join "/" (texts ++ [text])).length ≤ (Text.join "/" texts).length + 1 + text.length := by
  have one : "/".length = 1 := rfl
  simp only [Text.join, String.length_ofList, List.map_append, List.map_cons, List.map_nil]
  induction texts with
  | nil => simp [String.length_toList]
  | cons first rest ih =>
    cases rest with
    | nil =>
      simp only [List.map_cons, List.map_nil, List.cons_append, List.nil_append,
        List.intercalate_cons_cons, List.intercalate_singleton, List.length_append,
        String.length_toList]
      omega
    | cons next rest =>
      simp only [List.map_cons, List.cons_append, List.intercalate_cons_cons,
        List.length_append] at ih ⊢
      omega

theorem length_placeOf_cons (segment : String) (trail : Trail) :
    (placeOf trail).length + segment.length ≤ (placeOf (segment :: trail)).length ∧
      (placeOf (segment :: trail)).length ≤ (placeOf trail).length + 1 + segment.length := by
  rw [placeOf, placeOf, List.reverse_cons]
  exact length_join_concat _ _

theorem splitOn_append {separator : Char} {tail : List Char} (whole : separator ∉ tail)
    (cs : List Char) :
    ∃ before last, cs.splitOn separator = before ++ [last] ∧
      (cs ++ tail).splitOn separator = before ++ [last ++ tail] := by
  induction cs with
  | nil => exact ⟨[], [], List.splitOn_nil _, by simpa using List.splitOn_eq_singleton whole⟩
  | cons c cs ih =>
    obtain ⟨before, last, cut, cutLonger⟩ := ih
    simp only [List.splitOn, List.cons_append, List.splitOnP_cons_eq_if_modifyHead] at cut cutLonger ⊢
    rw [cut, cutLonger]
    split
    · exact ⟨[] :: before, last, rfl, rfl⟩
    · cases before with
      | nil => exact ⟨[], c :: last, rfl, rfl⟩
      | cons first before => exact ⟨(c :: first) :: before, last, rfl, rfl⟩

theorem placeNamed_eq {path first : String} {rest : List String}
    (cut : Text.pieces '/' path = first :: rest) :
    placeNamed path = placeOf (if first = "" then walk [""] rest else walk [] (first :: rest)) := by
  have departs : departure path = if first = "" then ([""], rest) else ([], first :: rest) := by
    rw [departure, cut]
    split
    · next same =>
      cases same
      rw [if_pos rfl]
    · next relative =>
      have named : first ≠ "" := by
        rintro rfl
        exact relative rest rfl
      rw [if_neg named]
  rw [placeNamed, departs]
  split
  · rfl
  · rfl

theorem length_placeOf_climb (trail : Trail) :
    (placeOf (climb trail)).length ≤ (placeOf trail).length + 3 := by
  have two : "..".length = 2 := rfl
  fun_cases climb trail with
  | case1 => exact Nat.le_add_right _ _
  | case2 =>
    have bounds := length_placeOf_cons ".." []
    omega
  | case3 above =>
    have bounds := length_placeOf_cons ".." (".." :: above)
    omega
  | case4 segment above =>
    have bounds := length_placeOf_cons segment above
    omega

/-- A segment of more than two characters names an entry. -/
theorem walk_single {segment : String} (long : 2 < segment.length) (trail : Trail) :
    walk trail [segment] = segment :: trail := by
  have stays : ¬ (segment = "" ∨ segment = ".") := by
    rintro (rfl | rfl)
    · exact absurd long (by decide)
    · exact absurd long (by decide)
  have climbs : segment ≠ ".." := by
    rintro rfl
    exact absurd long (by decide)
  rw [walk, if_neg stays, if_neg climbs, walk]

/-- What a path names is longer with `.tmp` behind its last segment. -/
theorem length_walk_lt (trail : Trail) (before : List String) (last : String) :
    (placeOf (walk trail (before ++ [last]))).length <
      (placeOf (walk trail (before ++ [last ++ ".tmp"]))).length := by
  have lengths : (last ++ ".tmp").length = last.length + 4 := by
    rw [String.length_append]
    rfl
  have long : 2 < (last ++ ".tmp").length := by omega
  rw [walk_append, walk_append, walk_single long]
  generalize walk trail before = above
  have bounds := length_placeOf_cons (last ++ ".tmp") above
  simp only [walk]
  split
  · omega
  split
  · have shorter := length_placeOf_climb above
    omega
  · have plain := length_placeOf_cons last above
    omega

/-- No path names the place that it names with `.tmp` behind it. -/
theorem placeNamed_ne_temporary (path : String) : placeNamed path ≠ placeNamed (path ++ ".tmp") := by
  have whole : '/' ∉ ".tmp".toList := by decide
  obtain ⟨before, last, cut, cutLonger⟩ := splitOn_append whole path.toList
  have pieces : Text.pieces '/' path = before.map String.ofList ++ [String.ofList last] := by
    rw [Text.pieces, cut, List.map_append, List.map_singleton]
  have longer : Text.pieces '/' (path ++ ".tmp") =
      before.map String.ofList ++ [String.ofList last ++ ".tmp"] := by
    rw [Text.pieces, String.toList_append, cutLonger, List.map_append, List.map_singleton,
      String.ofList_append, String.ofList_toList]
  generalize before.map String.ofList = before at pieces longer
  generalize String.ofList last = last at pieces longer
  have shorter : (placeNamed path).length < (placeNamed (path ++ ".tmp")).length := by
    cases before with
    | nil =>
      -- An empty path departs from a root; its neighbour does not.
      have relative : last ++ ".tmp" ≠ "" := by
        intro empty
        have lengths := congrArg String.length empty
        rw [String.length_append] at lengths
        exact absurd lengths (Nat.ne_of_gt (Nat.lt_add_left _ (by decide)))
      rw [placeNamed_eq pieces, placeNamed_eq longer, if_neg relative]
      split
      · next empty =>
        subst empty
        decide
      · exact length_walk_lt [] [] last
    | cons first before =>
      rw [placeNamed_eq pieces, placeNamed_eq longer]
      split
      · exact length_walk_lt [""] before last
      · exact length_walk_lt [] (first :: before) last
  intro same
  rw [same] at shorter
  exact absurd shorter (Nat.lt_irrefl _)

/-! ## What a change touches -/

/-- The file at a place, whatever is in it; a directory is none. -/
def fileAt? (disk : Disk) (place : String) : Option DiskNode :=
  (disk.nodes.get? place).filter (· ≠ .directory)

/-- No file has changed, come or gone but at these places, and no directory has gone. -/
structure Touches (places : List String) (before after : Disk) : Prop where
  files : ∀ place ∉ places, after.fileAt? place = before.fileAt? place
  directories : KeepsDirectories before after

variable {places : List String} {before middle after disk : Disk}

theorem Touches.refl (places : List String) (disk : Disk) : Touches places disk disk :=
  ⟨fun _ _ => rfl, fun _ directory => directory⟩

theorem Touches.trans (first : Touches places before middle) (second : Touches places middle after) :
    Touches places before after :=
  ⟨fun place other => (second.files place other).trans (first.files place other),
    fun place directory => second.directories place (first.directories place directory)⟩

theorem Touches.mono {more : List String} (touches : Touches places before after)
    (inside : places ⊆ more) : Touches more before after :=
  ⟨fun place other => touches.files place fun member => other (inside member), touches.directories⟩

theorem touches_insert {place : String} (noDirectory : disk.nodes.get? place ≠ some .directory)
    (node : DiskNode) : Touches [place] disk ⟨disk.nodes.insert place node⟩ := by
  refine ⟨fun other apart => ?_, keepsDirectories_insert noDirectory node⟩
  rw [List.mem_singleton] at apart
  simp [fileAt?, apart]

theorem touches_makeDirectory {path : String} (made : disk.makeDirectory path = .ok after) :
    Touches [] disk after := by
  rw [makeDirectory] at made
  split at made
  · cases made
  · cases made
  · next place slash led =>
    split at made
    · cases made
    · next free =>
      cases made
      rw [OrderedMap.contains, Option.not_isSome_iff_eq_none] at free
      have noDirectory : disk.nodes.get? place ≠ some .directory := by simp [free]
      have touches := touches_insert noDirectory .directory
      refine ⟨fun other _ => ?_, touches.directories⟩
      by_cases same : other = place
      · simp [fileAt?, same, free]
      · exact touches.files other (by simpa using same)

theorem touches_makeDirectories (disk : Disk) (absolute : Bool) (trail : Trail) :
    Touches [] disk (disk.makeDirectories absolute trail).2 := by
  induction trail generalizing disk with
  | nil => exact .refl [] disk
  | cons segment above ih =>
    rw [makeDirectories]
    generalize (if absolute then "/" else "") ++ placeOf (segment :: above) = path
    split
    · next made => exact touches_makeDirectory made
    · have parents := ih disk
      split
      · next failed =>
        rw [failed] at parents
        exact parents
      · next done =>
        rw [done] at parents
        split
        · next made => exact parents.trans (touches_makeDirectory made)
        · split
          · exact parents
          · exact parents
    · split
      · exact .refl [] disk
      · exact .refl [] disk

theorem touches_makeParents (disk : Disk) (path : String) :
    Touches [] disk (disk.makeParents path).2 :=
  touches_makeDirectories disk _ _

theorem touches_writeText {path content : String} (wrote : disk.writeText path content = .ok after) :
    Touches [placeNamed path] disk after := by
  obtain ⟨place, led, noDirectory, rfl⟩ := writeText_eq_ok wrote
  rw [← locate_place led]
  exact touches_insert noDirectory _

theorem touches_replaced {written : Disk} {beside path content : String}
    (wrote : disk.writeText beside content = .ok written)
    (renamed : written.rename beside path = .ok after) :
    Touches [placeNamed path, placeNamed beside] disk after := by
  obtain ⟨origin, place, from_, to_, keeps, rfl⟩ := replaced_eq wrote renamed
  rw [← locate_place from_, ← locate_place to_]
  refine ⟨fun other apart => ?_, keeps⟩
  simp only [List.mem_cons, List.not_mem_nil, or_false, not_or] at apart
  simp [fileAt?, OrderedMap.get?_erase, apart.1, apart.2]

/-! ## Reading a file that is not touched -/

theorem readText_eq_ok {path text : String} :
    disk.readText path = .ok text ↔
      disk.locate path = .ok (.entry (placeNamed path) false) ∧
        disk.fileAt? (placeNamed path) = some (.text text) := by
  constructor
  · intro read
    rw [readText] at read
    split at read
    · cases read
    · cases read
    · next place slash led =>
      split at read
      · next stands =>
        cases read
        cases slash with
        | true =>
          rw [get?_of_locate_slash led] at stands
          cases stands
        | false =>
          have named := locate_place led
          subst named
          exact ⟨led, by simp [fileAt?, stands]⟩
      all_goals cases read
  · rintro ⟨led, stands⟩
    rw [fileAt?, Option.filter_eq_some_iff] at stands
    simp only [readText, led, stands.1]

/-- A text is still read where the file that holds it is not touched. -/
theorem readText_of_touches {path text : String} (touches : Touches places before after)
    (outside : placeNamed path ∉ places) (read : before.readText path = .ok text) :
    after.readText path = .ok text := by
  rw [readText_eq_ok] at read ⊢
  exact ⟨locate_of_keepsDirectories touches.directories read.1,
    (touches.files _ outside).trans read.2⟩

end Disk
end PathShell
