/-!
# Insertion-ordered maps

A map from texts to values that keeps its entries in the order in which their keys came. A value that
is replaced keeps the place of the one before it; a key that is removed leaves the others in order.
-/

namespace PathShell

/-- Entries in order, each key once. -/
structure OrderedMap (α : Type) where
  entries : List (String × α)
  nodup : (entries.map Prod.fst).Nodup

namespace OrderedMap

variable {α : Type}

instance [DecidableEq α] : DecidableEq (OrderedMap α) := fun a b =>
  decidable_of_iff (a.entries = b.entries) ⟨fun h => by cases a; cases b; congr, fun h => h ▸ rfl⟩

def empty : OrderedMap α := ⟨[], List.nodup_nil⟩

instance : EmptyCollection (OrderedMap α) := ⟨empty⟩
instance : Inhabited (OrderedMap α) := ⟨empty⟩

def keys (map : OrderedMap α) : List String := map.entries.map Prod.fst

def size (map : OrderedMap α) : Nat := map.entries.length

/-- The value of a key. -/
def get? (map : OrderedMap α) (key : String) : Option α := map.entries.lookup key

def contains (map : OrderedMap α) (key : String) : Bool := (map.get? key).isSome

/-! ## Writing -/

/-- Entries with the value of `key` replaced, or a new entry at the end. -/
def put (key : String) (value : α) : List (String × α) → List (String × α)
  | [] => [(key, value)]
  | entry :: rest => if entry.1 = key then (key, value) :: rest else entry :: put key value rest

theorem map_fst_put (key : String) (value : α) (entries : List (String × α)) :
    (put key value entries).map Prod.fst =
      if key ∈ entries.map Prod.fst then entries.map Prod.fst else entries.map Prod.fst ++ [key] := by
  induction entries with
  | nil => simp [put]
  | cons entry rest ih =>
    by_cases same : entry.1 = key
    · simp [put, same]
    · have other : ¬ key = entry.1 := fun h => same h.symm
      by_cases inside : key ∈ rest.map Prod.fst
      · simp [put, same, ih, inside]
      · simp [put, same, ih, inside, other]

theorem nodup_put (key : String) (value : α) {entries : List (String × α)}
    (nodup : (entries.map Prod.fst).Nodup) : ((put key value entries).map Prod.fst).Nodup := by
  rw [map_fst_put]
  split
  · exact nodup
  · next fresh =>
    rw [List.nodup_append]
    refine ⟨nodup, by simp, fun a inside b single => ?_⟩
    simp only [List.mem_singleton] at single
    rintro rfl
    exact fresh (single ▸ inside)

/-- `key` holds `value`, at its old place if it has one, else at the end. -/
def insert (map : OrderedMap α) (key : String) (value : α) : OrderedMap α :=
  ⟨put key value map.entries, nodup_put key value map.nodup⟩

/-- The entries whose key satisfies `keep`. -/
def filter (map : OrderedMap α) (keep : String → Bool) : OrderedMap α :=
  ⟨map.entries.filter fun entry => keep entry.1,
    map.nodup.sublist (List.Sublist.map Prod.fst List.filter_sublist)⟩

/-- The entries of all other keys. -/
def erase (map : OrderedMap α) (key : String) : OrderedMap α := map.filter (· ≠ key)

/-- A new key comes first. -/
def insertFront (map : OrderedMap α) (key : String) (value : α) : OrderedMap α :=
  if fresh : key ∈ map.entries.map Prod.fst then map
  else ⟨(key, value) :: map.entries, by simpa using ⟨by simpa using fresh, map.nodup⟩⟩

/-- The members one after the other: a repeated key keeps its first place and takes the last value. -/
def ofList (members : List (String × α)) : OrderedMap α :=
  members.foldl (fun map member => map.insert member.1 member.2) empty

/-- The same keys with the same values, in whatever order. -/
def sameEntries [DecidableEq α] (a b : OrderedMap α) : Bool :=
  a.size = b.size && a.entries.all fun entry => b.get? entry.1 = some entry.2

end OrderedMap
end PathShell
