import PathShell.Storage
import PathShell.Proofs.OrderedMap

/-!
# Laws of stores

A text that was set is what stands under its key, and nothing changes under any other key. Stores that
never fail are those on which no reading and no setting does, whatever was set before.
-/

namespace PathShell

/-- What was set is found under its key; what stands under other keys stays. -/
class LawfulStorage (σ : Type) [Storage σ] : Prop where
  get_set (store : σ) (key value other : String) (wrote : (Storage.set store key value).1 = .ok ()) :
    Storage.get (Storage.set store key value).2 other =
      if other = key then .ok (some value) else Storage.get store other

namespace Storage

variable {σ : Type} [Storage σ]

/-- The store after texts were set in turn. -/
def setAll (store : σ) (settings : List (String × String)) : σ :=
  settings.foldl (fun store setting => (set store setting.1 setting.2).2) store

/-- Whatever has been set, reading and setting any key succeed. -/
structure NeverFails (store : σ) : Prop where
  get (settings : List (String × String)) (key : String) :
    ∃ found, Storage.get (setAll store settings) key = .ok found
  set (settings : List (String × String)) (key value : String) :
    (Storage.set (setAll store settings) key value).1 = .ok ()

theorem neverFails_set {store : σ} (reliable : NeverFails store) (key value : String) :
    NeverFails (Storage.set store key value).2 :=
  ⟨fun settings => reliable.get ((key, value) :: settings),
    fun settings => reliable.set ((key, value) :: settings)⟩

/-- A store never fails where an invariant of setting says that nothing fails now. -/
theorem neverFails_of_invariant (Holds : σ → Prop)
    (get : ∀ store key, Holds store → ∃ found, Storage.get store key = .ok found)
    (set : ∀ store key value, Holds store →
      (Storage.set store key value).1 = .ok () ∧ Holds (Storage.set store key value).2)
    {store : σ} (holds : Holds store) : NeverFails store := by
  have always (settings : List (String × String)) : Holds (setAll store settings) := by
    induction settings generalizing store with
    | nil => exact holds
    | cons setting rest ih => exact ih (set store setting.1 setting.2 holds).2
  exact ⟨fun settings key => get _ key (always settings),
    fun settings key value => (set _ key value (always settings)).1⟩

section Lift

variable {τ : Type} [Storage τ] (lift : σ → τ)
  (lifted : ∀ store key value,
    Storage.set (lift store) key value = (Storage.set store key value).map id lift)

include lifted

theorem setAll_lift (store : σ) (settings : List (String × String)) :
    setAll (lift store) settings = lift (setAll store settings) := by
  induction settings generalizing store with
  | nil => rfl
  | cons setting rest ih =>
    have first : (Storage.set (lift store) setting.1 setting.2).2 =
        lift (Storage.set store setting.1 setting.2).2 := congrArg Prod.snd (lifted ..)
    change setAll (Storage.set (lift store) setting.1 setting.2).2 rest = _
    rw [first]
    exact ih _

/-- A store that passes everything on to another never fails if the other does not. -/
theorem neverFails_lift (got : ∀ store key, Storage.get (lift store) key = Storage.get store key)
    {store : σ} (reliable : NeverFails store) : NeverFails (lift store) := by
  refine ⟨fun settings key => ?_, fun settings key value => ?_⟩
  · rw [setAll_lift lift lifted, got]
    exact reliable.get settings key
  · rw [setAll_lift lift lifted, lifted]
    exact reliable.set settings key value

end Lift

end Storage

/-! ## In memory -/

instance : LawfulStorage MemoryStore where
  get_set store key value other _ := by
    have found := OrderedMap.get?_insert store.cells key other value
    simp only [Storage.set, Storage.get, found]
    split <;> rfl

theorem MemoryStore.neverFails (store : MemoryStore) : Storage.NeverFails store :=
  Storage.neverFails_of_invariant (fun _ => True) (fun _ _ _ => ⟨_, rfl⟩)
    (fun _ _ _ _ => ⟨rfl, trivial⟩) trivial

end PathShell
