import PathShell.Proofs.Storage

/-!
# What a store is asked for

A store can keep a record of what it was asked to set, and of what it granted. It is faithful if a text
that it grants stands under its key from then on, and a text that it refuses leaves no trace.
-/

namespace PathShell

/-- A text that was to be set under a key. -/
structure Request where
  key : String
  value : String
  granted : Bool
  deriving DecidableEq

/-- A store with all that it was asked to set, the oldest request first. -/
structure Recorded (σ : Type) where
  store : σ
  requests : List Request

namespace Recorded

variable {σ : Type} [Storage σ]

/-- The record of a store begins. -/
def begin (store : σ) : Recorded σ := ⟨store, []⟩

/-- How many requests were granted. -/
def grants (recorded : Recorded σ) : Nat := recorded.requests.countP (·.granted)

/-- The text that was granted last for a key. -/
def latest? (recorded : Recorded σ) (key : String) : Option String :=
  (recorded.requests.reverse.find? fun request => request.granted && request.key = key).map (·.value)

/-- Every request goes on to the store. -/
instance : Storage (Recorded σ) where
  get recorded key := Storage.get recorded.store key
  set recorded key value :=
    let answered := Storage.set recorded.store key value
    (answered.1, ⟨answered.2, recorded.requests ++ [⟨key, value, answered.1.isOk⟩]⟩)
  report recorded key := Storage.report recorded.store key

theorem length_requests_set (recorded : Recorded σ) (key value : String) :
    (Storage.set recorded key value).2.requests.length = recorded.requests.length + 1 := by
  simp [Storage.set]

theorem grants_set_of_ok {recorded : Recorded σ} {key value : String}
    (granted : (Storage.set recorded.store key value).1 = .ok ()) :
    (Storage.set recorded key value).2.grants = recorded.grants + 1 := by
  simp [Storage.set, grants, granted, Except.isOk, Except.toBool]

theorem grants_set_of_error {recorded : Recorded σ} {key value : String} {error : StorageError}
    (refused : (Storage.set recorded.store key value).1 = .error error) :
    (Storage.set recorded key value).2.grants = recorded.grants := by
  simp [Storage.set, grants, refused, Except.isOk, Except.toBool]

theorem latest?_set_of_ok {recorded : Recorded σ} {key value : String}
    (granted : (Storage.set recorded.store key value).1 = .ok ()) (other : String) :
    (Storage.set recorded key value).2.latest? other =
      if other = key then some value else recorded.latest? other := by
  simp only [Storage.set, latest?, granted, Except.isOk, Except.toBool, List.reverse_append,
    List.reverse_singleton, List.singleton_append, List.find?_cons, Bool.true_and]
  by_cases same : other = key
  · simp [same]
  · simp [same, Ne.symm same]

theorem latest?_set_of_error {recorded : Recorded σ} {key value : String} {error : StorageError}
    (refused : (Storage.set recorded.store key value).1 = .error error) (other : String) :
    (Storage.set recorded key value).2.latest? other = recorded.latest? other := by
  simp [Storage.set, latest?, refused, Except.isOk, Except.toBool]

end Recorded

/-- A call of a store. -/
inductive Call where
  | get (key : String)
  | set (key value : String)

namespace Storage

variable {σ : Type} [Storage σ]

/-- The store that a call leaves; reading leaves it as it is. -/
def afterCall (store : σ) : Call → σ
  | .get _ => store
  | .set key value => (Storage.set store key value).2

/-- The store after calls in turn. -/
def afterCalls (store : σ) (calls : List Call) : σ := calls.foldl afterCall store

/-- Whatever has been set before: what is granted is found under its key, and nothing changes under
    any other key or when a request is refused. -/
structure Faithful (store : σ) : Prop where
  granted (settings : List (String × String)) (key value other : String) :
    let before := setAll store settings
    (set before key value).1 = .ok () →
      get (set before key value).2 other =
        if other = key then .ok (some value) else get before other
  refused (settings : List (String × String)) (key value other : String) (error : StorageError) :
    let before := setAll store settings
    (set before key value).1 = .error error → get (set before key value).2 other = get before other

theorem faithful_set {store : σ} (faithful : Faithful store) (key value : String) :
    Faithful (Storage.set store key value).2 :=
  ⟨fun settings => faithful.granted ((key, value) :: settings),
    fun settings => faithful.refused ((key, value) :: settings)⟩

/-- A store is faithful where an invariant of setting says that it is now. -/
theorem faithful_of_invariant (Holds : σ → Prop)
    (granted : ∀ store key value other, Holds store → (set store key value).1 = .ok () →
      get (set store key value).2 other = if other = key then .ok (some value) else get store other)
    (refused : ∀ store key value other error, Holds store →
      (set store key value).1 = .error error → get (set store key value).2 other = get store other)
    (kept : ∀ store key value, Holds store → Holds (set store key value).2)
    {store : σ} (holds : Holds store) : Faithful store := by
  have always (settings : List (String × String)) : Holds (setAll store settings) := by
    induction settings generalizing store with
    | nil => exact holds
    | cons setting rest ih => exact ih (kept store setting.1 setting.2 holds)
  exact ⟨fun settings key value other => granted _ key value other (always settings),
    fun settings key value other error => refused _ key value other error (always settings)⟩

end Storage

/-- Whichever settings fail, a store in memory that can be read is faithful. -/
theorem UnreliableStore.faithful {store : UnreliableStore} (readable : store.getFails = false) :
    Storage.Faithful store := by
  refine Storage.faithful_of_invariant (fun store => store.getFails = false) ?_ ?_ ?_ readable
  · intro store key value other readable granted
    simp only [Storage.set] at granted ⊢
    split at granted
    · cases granted
    · next grants =>
      simp only [grants, Storage.get, readable, Bool.false_eq_true, if_false, OrderedMap.get?_insert]
      split <;> rfl
  · intro store key value other error readable refused
    simp only [Storage.set] at refused ⊢
    split at refused
    · next fails => simp [fails, Storage.get]
    · cases refused
  · intro store key value readable
    simp only [Storage.set]
    split <;> exact readable

end PathShell
