import Mathlib.Data.List.Induction
import Mathlib.Data.List.Nodup
import Mathlib.Data.List.Perm.Subperm
import PathShell.OrderedMap

/-!
# Laws of insertion-ordered maps

What a look-up finds after each change of a map, how many keys are left, and when building a map from
members leaves them as they are. Maps are the same, but for the order of their entries, where every
look-up finds the same.
-/

namespace PathShell
namespace OrderedMap

variable {α : Type}

theorem ext_entries {a b : OrderedMap α} (same : a.entries = b.entries) : a = b := by
  cases a; cases b; cases same; rfl

/-! ## Look-ups -/

theorem lookup_eq_some_iff_mem {key : String} {value : α} {entries : List (String × α)}
    (nodup : (entries.map Prod.fst).Nodup) :
    entries.lookup key = some value ↔ (key, value) ∈ entries := by
  induction entries with
  | nil => simp
  | cons entry rest ih =>
    obtain ⟨first, held⟩ := entry
    simp only [List.map_cons, List.nodup_cons] at nodup
    by_cases same : key = first
    · subst same
      have absent : (key, value) ∉ rest := fun inside => nodup.1 (List.mem_map_of_mem inside)
      simp [absent, eq_comm]
    · have different : (key == first) = false := by simpa using same
      simp [List.lookup_cons, different, same, ih nodup.2]

theorem get?_eq_some_iff {map : OrderedMap α} {key : String} {value : α} :
    map.get? key = some value ↔ (key, value) ∈ map.entries :=
  lookup_eq_some_iff_mem map.nodup

theorem get?_eq_none_iff {map : OrderedMap α} {key : String} :
    map.get? key = none ↔ key ∉ map.keys := by
  simp [get?, keys, List.lookup_eq_none_iff]
  grind

theorem contains_iff_mem_keys {map : OrderedMap α} {key : String} :
    map.contains key ↔ key ∈ map.keys := by
  rw [contains, Option.isSome_iff_ne_none, ne_eq, get?_eq_none_iff, Classical.not_not]

/-! ## Changes -/

theorem put_fresh {key : String} {value : α} {entries : List (String × α)}
    (fresh : key ∉ entries.map Prod.fst) : put key value entries = entries ++ [(key, value)] := by
  induction entries with
  | nil => rfl
  | cons entry rest ih =>
    simp only [List.map_cons, List.mem_cons, not_or] at fresh
    have other : ¬ entry.1 = key := fun same => fresh.1 same.symm
    simp [put, other, ih fresh.2]

/-- Among the keys of a set, one of them is written as it is among all. -/
theorem filter_put {keep : String → Bool} {key : String} (kept : keep key) (value : α)
    (entries : List (String × α)) :
    (put key value entries).filter (fun entry => keep entry.1) =
      put key value (entries.filter fun entry => keep entry.1) := by
  induction entries with
  | nil => simp [put, kept]
  | cons entry rest ih =>
    by_cases same : entry.1 = key
    · simp [put, same, kept]
    · by_cases inside : keep entry.1
      · simp [put, same, inside, ih]
      · simp [put, same, inside, ih]

/-- Among others it is not seen. -/
theorem filter_put_of_dropped {keep : String → Bool} {key : String} (dropped : keep key = false)
    (value : α) (entries : List (String × α)) :
    (put key value entries).filter (fun entry => keep entry.1) =
      entries.filter fun entry => keep entry.1 := by
  induction entries with
  | nil => simp [put, dropped]
  | cons entry rest ih =>
    by_cases same : entry.1 = key
    · simp [put, same, dropped]
    · simp [put, same, List.filter_cons, ih]

theorem lookup_put (key other : String) (value : α) (entries : List (String × α)) :
    (put key value entries).lookup other = if other = key then some value else entries.lookup other := by
  induction entries with
  | nil => by_cases asked : other = key <;> simp [put, asked]
  | cons entry rest ih =>
    obtain ⟨first, held⟩ := entry
    by_cases same : first = key
    · subst same
      by_cases asked : other = first
      · simp [put, asked]
      · have different : (other == first) = false := by simpa using asked
        simp [put, List.lookup_cons, different, asked]
    · by_cases asked : other = first
      · simp [put, same, asked]
      · have different : (other == first) = false := by simpa using asked
        simp [put, same, List.lookup_cons, different, ih]

@[simp] theorem get?_insert (map : OrderedMap α) (key other : String) (value : α) :
    (map.insert key value).get? other = if other = key then some value else map.get? other :=
  lookup_put key other value map.entries

theorem lookup_filter (keep : String → Bool) (key : String) (entries : List (String × α)) :
    (entries.filter fun entry => keep entry.1).lookup key =
      if keep key then entries.lookup key else none := by
  induction entries with
  | nil => simp
  | cons entry rest ih =>
    obtain ⟨first, held⟩ := entry
    by_cases same : key = first
    · subst same
      by_cases kept : keep key
      · simp [kept]
      · simp [kept, ih]
    · have different : (key == first) = false := by simpa using same
      by_cases kept : keep first
      · simp [kept, List.lookup_cons, different, ih]
      · simp [kept, List.lookup_cons, different, ih]

@[simp] theorem get?_filter (map : OrderedMap α) (keep : String → Bool) (key : String) :
    (map.filter keep).get? key = if keep key then map.get? key else none :=
  lookup_filter keep key map.entries

@[simp] theorem get?_erase (map : OrderedMap α) (key other : String) :
    (map.erase key).get? other = if other = key then none else map.get? other := by
  by_cases same : other = key
  · simp [erase, same]
  · simp [erase, same]

theorem filter_insert {keep : String → Bool} {key : String} (kept : keep key) (value : α)
    (map : OrderedMap α) : (map.insert key value).filter keep = (map.filter keep).insert key value :=
  ext_entries (filter_put kept value map.entries)

theorem keys_filter (map : OrderedMap α) (keep : String → Bool) :
    (map.filter keep).keys = map.keys.filter keep := by
  rw [keys, keys, List.filter_map]
  rfl

theorem insertFront_of_contains {map : OrderedMap α} {key : String} (inside : map.contains key)
    (value : α) : map.insertFront key value = map := by
  have member : key ∈ map.entries.map Prod.fst := contains_iff_mem_keys.mp inside
  simp [insertFront, member]

theorem entries_insertFront (map : OrderedMap α) (key : String) (value : α) :
    (map.insertFront key value).entries =
      if map.contains key then map.entries else (key, value) :: map.entries := by
  by_cases inside : map.contains key
  · simp [insertFront_of_contains inside, inside]
  · have absent : key ∉ map.entries.map Prod.fst := fun member =>
      inside (contains_iff_mem_keys.mpr member)
    simp only [insertFront, absent, inside]
    rfl

/-! ## Counting keys -/

theorem size_eq_length_keys (map : OrderedMap α) : map.size = map.keys.length := by
  rw [size, keys, List.length_map]

/-- What a filter takes away are the keys that are gone. -/
theorem size_filter (map : OrderedMap α) (keep : String → Bool) :
    map.size = (map.filter keep).size + map.keys.countP (· ∉ (map.filter keep).keys) := by
  have gone : map.keys.countP (· ∉ (map.filter keep).keys) = map.keys.countP fun key => ¬ keep key := by
    refine List.countP_congr fun key member => ?_
    simp [keys_filter, member]
  rw [size_eq_length_keys, size_eq_length_keys, gone, keys_filter, ← List.countP_eq_length_filter]
  exact List.length_eq_countP_add_countP keep

theorem size_erase {map : OrderedMap α} {key : String} (inside : map.contains key) :
    map.size = (map.erase key).size + 1 := by
  have member : key ∈ map.keys := contains_iff_mem_keys.mp inside
  have gone : map.keys.countP (· ∉ (map.erase key).keys) = map.keys.count key := by
    refine List.countP_congr fun other among => ?_
    simp [erase, keys_filter, among]
  have single : map.keys.count key = 1 := List.count_eq_one_of_mem map.nodup member
  rw [← single, ← gone]
  exact map.size_filter (· ≠ key)

/-! ## Maps but for their order -/

theorem sameEntries_iff [DecidableEq α] {a b : OrderedMap α} :
    a.sameEntries b ↔ ∀ key, a.get? key = b.get? key := by
  have all : (a.entries.all fun entry => b.get? entry.1 = some entry.2) ↔
      ∀ key value, a.get? key = some value → b.get? key = some value := by
    simp [get?_eq_some_iff]
  rw [sameEntries, Bool.and_eq_true, all, decide_eq_true_eq, size_eq_length_keys, size_eq_length_keys]
  constructor
  · rintro ⟨sizes, found⟩ key
    cases held : a.get? key with
    | some value => exact (found key value held).symm
    | none =>
      have inside : a.keys ⊆ b.keys := by
        intro other member
        rw [← contains_iff_mem_keys, contains, Option.isSome_iff_exists] at member ⊢
        obtain ⟨value, holds⟩ := member
        exact ⟨value, found other value holds⟩
      have whole : a.keys.Perm b.keys :=
        (List.Nodup.subperm a.nodup inside).perm_of_length_le (Nat.le_of_eq sizes.symm)
      rw [get?_eq_none_iff, whole.mem_iff] at held
      exact (get?_eq_none_iff.mpr held).symm
  · intro same
    refine ⟨?_, fun key value held => (same key).symm.trans held⟩
    refine ((List.perm_ext_iff_of_nodup a.nodup b.nodup).mpr fun key => ?_).length_eq
    change key ∈ a.keys ↔ key ∈ b.keys
    rw [← contains_iff_mem_keys, ← contains_iff_mem_keys, contains, contains, same]

/-- So their entries are the same, in whatever order. -/
theorem perm_of_sameEntries [DecidableEq α] {a b : OrderedMap α} (same : a.sameEntries b) :
    a.entries.Perm b.entries := by
  have once (map : OrderedMap α) : map.entries.Nodup := List.Nodup.of_map Prod.fst map.nodup
  refine (List.perm_ext_iff_of_nodup (once a) (once b)).mpr fun ⟨key, value⟩ => ?_
  rw [← get?_eq_some_iff, ← get?_eq_some_iff, sameEntries_iff.mp same]

/-! ## Members in turn -/

theorem foldl_insert_fresh (members : List (String × α)) (map : OrderedMap α)
    (nodup : ((map.entries ++ members).map Prod.fst).Nodup) :
    (members.foldl (fun map member => map.insert member.1 member.2) map).entries =
      map.entries ++ members := by
  induction members generalizing map with
  | nil => simp
  | cons member rest ih =>
    have fresh : member.1 ∉ map.entries.map Prod.fst := by
      rw [List.map_append, List.nodup_append] at nodup
      exact fun inside => nodup.2.2 _ inside _ (by simp) rfl
    have inserted : (map.insert member.1 member.2).entries = map.entries ++ [member] :=
      put_fresh fresh
    rw [List.foldl_cons, ih _ (by simpa [inserted] using nodup), inserted]
    simp

/-- Keys that are there keep their places, and the others follow in the order of the members. -/
theorem keys_foldl_insert {members : List (String × α)} (nodup : (members.map Prod.fst).Nodup)
    (map : OrderedMap α) :
    (members.foldl (fun map member => map.insert member.1 member.2) map).keys =
      map.keys ++ (members.map Prod.fst).filter (· ∉ map.keys) := by
  induction members generalizing map with
  | nil => simp
  | cons member rest ih =>
    rw [List.map_cons, List.nodup_cons] at nodup
    have first : (map.insert member.1 member.2).keys =
        if member.1 ∈ map.keys then map.keys else map.keys ++ [member.1] := map_fst_put ..
    rw [List.foldl_cons, ih nodup.2, first, List.map_cons]
    by_cases inside : member.1 ∈ map.keys
    · simp [inside]
    · have others : (rest.map Prod.fst).filter (· ∉ map.keys ++ [member.1]) =
          (rest.map Prod.fst).filter (· ∉ map.keys) := by
        refine List.filter_congr fun key among => ?_
        have different : key ≠ member.1 := fun same => nodup.1 (same ▸ among)
        simp [different]
      rw [if_neg inside, others, List.filter_cons_of_pos (by simpa using inside), List.append_assoc,
        List.singleton_append]

/-- Members that agree on a key decide its value; without any the key has the value it had. -/
theorem get?_foldl_insert {members : List (String × α)} {key : String} {found : Option α}
    (agree : ∀ member ∈ members, member.1 = key → some member.2 = found) (map : OrderedMap α) :
    (members.foldl (fun map member => map.insert member.1 member.2) map).get? key =
      if key ∈ members.map Prod.fst then found else map.get? key := by
  induction members generalizing map with
  | nil => simp
  | cons member rest ih =>
    have later := fun other among => agree other (List.mem_cons_of_mem member among)
    rw [List.foldl_cons, ih later, get?_insert, List.map_cons]
    by_cases inside : key ∈ rest.map Prod.fst
    · simp [inside]
    · by_cases same : key = member.1
      · simp [← same, inside, agree member List.mem_cons_self same.symm]
      · simp [same, inside]

/-- Each key comes once, in the order of the first members with them. -/
theorem keys_ofList (members : List (String × α)) :
    (ofList members).keys = (members.map Prod.fst).eraseDups := by
  induction members using List.reverseRecOn with
  | nil => rfl
  | append_singleton front member ih =>
    have shape : ofList (front ++ [member]) = (ofList front).insert member.1 member.2 := by
      simp [ofList]
    have inserted : ((ofList front).insert member.1 member.2).keys =
        if member.1 ∈ (ofList front).keys then (ofList front).keys
        else (ofList front).keys ++ [member.1] := map_fst_put ..
    rw [shape, inserted, ih, List.map_append, List.map_singleton, List.eraseDups_append]
    by_cases inside : member.1 ∈ front.map Prod.fst
    · simp [List.removeAll, inside]
    · simp [List.removeAll, inside, List.eraseDups_cons]

/-- The last member with a key decides its value. -/
theorem get?_ofList_last (before : List (String × α)) {after : List (String × α)} {key : String}
    (last : key ∉ after.map Prod.fst) (value : α) :
    (ofList (before ++ (key, value) :: after)).get? key = some value := by
  have others (member : String × α) (among : member ∈ after) (same : member.1 = key) :
      some member.2 = none := absurd (List.mem_map_of_mem among) (same ▸ last)
  rw [ofList, List.foldl_append, List.foldl_cons, get?_foldl_insert others, if_neg last, get?_insert,
    if_pos rfl]

/-- The values of some keys are found among the entries in another order, each as often. -/
theorem values_perm {keys : List String} (nodup : keys.Nodup) (map : OrderedMap α) :
    ((map.entries.filter fun entry => entry.1 ∈ keys).map Prod.snd).Perm (keys.filterMap map.get?) := by
  have entries : (map.entries.filter fun entry => entry.1 ∈ keys).Perm
      (keys.filterMap fun key => (map.get? key).map (key, ·)) := by
    refine (List.perm_ext_iff_of_nodup ?_ ?_).mpr fun entry => ?_
    · exact (List.Nodup.of_map Prod.fst map.nodup).filter _
    · refine nodup.filterMap fun a b entry fromA fromB => ?_
      simp only [Option.mem_def, Option.map_eq_some_iff] at fromA fromB
      obtain ⟨_, _, rfl⟩ := fromA
      obtain ⟨_, _, same⟩ := fromB
      exact (congrArg Prod.fst same).symm
    · simp only [List.mem_filter, decide_eq_true_eq, List.mem_filterMap, Option.map_eq_some_iff,
        get?_eq_some_iff]
      constructor
      · rintro ⟨inside, member⟩
        exact ⟨entry.1, member, entry.2, inside, rfl⟩
      · rintro ⟨key, member, value, inside, rfl⟩
        exact ⟨inside, member⟩
  have forgotten : (fun key => ((map.get? key).map (key, ·)).map Prod.snd) = map.get? := by
    funext key
    simp [Function.comp_def]
  have values := entries.map Prod.snd
  rwa [List.map_filterMap, forgotten] at values

/-- Members without a repeated key are the entries of their map. -/
theorem entries_ofList {members : List (String × α)} (nodup : (members.map Prod.fst).Nodup) :
    (ofList members).entries = members := by
  have built := foldl_insert_fresh members empty (by simpa [empty] using nodup)
  simpa [ofList, empty] using built

theorem ofList_entries (map : OrderedMap α) : ofList map.entries = map :=
  ext_entries (entries_ofList map.nodup)

end OrderedMap
end PathShell
