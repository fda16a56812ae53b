import PathShell.Storage.Disk
import PathShell.Proofs.OrderedMap

/-!
# Replacing a file

Where a path leads depends on the directories that it passes, and writing or renaming a file leaves
every directory. So what is written beside a file and renamed to it is what is read from it.
-/

namespace PathShell
namespace Disk

/-- Every directory of one disk is a directory of the other. -/
def KeepsDirectories (before after : Disk) : Prop :=
  ∀ place, before.nodes.get? place = some .directory → after.nodes.get? place = some .directory

/-! ## Following paths -/

/-- An entry that is named with a slash behind it is missing; any other is found wherever the same
    directories are. -/
theorem follow_entry {disk : Disk} {trail : Trail} {segments : List String} {place : String}
    {slash : Bool} (led : disk.follow trail segments = .ok (.entry place slash)) :
    (slash = true ∧ disk.nodes.get? place = none) ∨
      (slash = false ∧ ∀ other, KeepsDirectories disk other →
        other.follow trail segments = .ok (.entry place false)) := by
  induction segments generalizing trail with
  | nil => cases led
  | cons segment rest ih =>
    simp only [follow] at led ⊢
    by_cases stay : segment = "" ∨ segment = "."
    · simp only [if_pos stay] at led ⊢
      exact ih led
    simp only [if_neg stay] at led ⊢
    by_cases climbs : segment = ".."
    · simp only [if_pos climbs] at led ⊢
      exact ih led
    simp only [if_neg climbs] at led ⊢
    by_cases long : maxName < segment.utf8ByteSize
    · rw [if_pos long] at led
      cases led
    simp only [if_neg long] at led ⊢
    by_cases last : rest.isEmpty
    · simp only [if_pos last] at led ⊢
      cases led
      exact .inr ⟨rfl, fun _ _ => rfl⟩
    simp only [if_neg last] at led ⊢
    cases stands : disk.nodes.get? (placeOf (segment :: trail)) with
    | none =>
      simp only [stands] at led
      split at led
      · cases led
        exact .inl ⟨rfl, stands⟩
      · cases led
    | some node =>
      cases node with
      | directory =>
        simp only [stands] at led
        rcases ih led with missing | ⟨plain, found⟩
        · exact .inl missing
        · refine .inr ⟨plain, fun other keeps => ?_⟩
          simp only [keeps _ stands]
          exact found other keeps
      | _ =>
        simp only [stands] at led
        cases led

theorem locate_entry {disk : Disk} {path place : String} {slash : Bool}
    (led : disk.locate path = .ok (.entry place slash)) :
    (slash = true ∧ disk.nodes.get? place = none) ∨
      (slash = false ∧ ∀ other, KeepsDirectories disk other →
        other.locate path = .ok (.entry place false)) := by
  simp only [locate] at led ⊢
  split at led
  · cases led
  split at led
  · cases led
  split at led
  · cases led
  · next filled noNul short =>
    simp only [if_neg filled, if_neg noNul, if_neg short]
    exact follow_entry led

theorem locate_of_keepsDirectories {before after : Disk} (keeps : KeepsDirectories before after)
    {path place : String} (led : before.locate path = .ok (.entry place false)) :
    after.locate path = .ok (.entry place false) := by
  rcases locate_entry led with ⟨slash, -⟩ | ⟨-, found⟩
  · cases slash
  · exact found after keeps

theorem get?_of_locate_slash {disk : Disk} {path place : String}
    (led : disk.locate path = .ok (.entry place true)) : disk.nodes.get? place = none := by
  rcases locate_entry led with ⟨-, missing⟩ | ⟨plain, -⟩
  · exact missing
  · cases plain

/-! ## Changes that succeed -/

theorem writeText_eq_ok {disk after : Disk} {path content : String}
    (wrote : disk.writeText path content = .ok after) :
    ∃ place, disk.locate path = .ok (.entry place false) ∧
      disk.nodes.get? place ≠ some .directory ∧
      after = ⟨disk.nodes.insert place (.text content)⟩ := by
  rw [writeText] at wrote
  split at wrote
  · cases wrote
  · cases wrote
  · next place slash led =>
    cases slash with
    | true =>
      rw [get?_of_locate_slash led] at wrote
      cases wrote
    | false =>
      split at wrote
      · cases wrote
      · cases wrote
      · next node noDirectory noLocked stands =>
        cases wrote
        refine ⟨place, led, ?_, rfl⟩
        rw [stands]
        rintro ⟨⟩
        exact noDirectory rfl
      · next missing =>
        cases wrote
        exact ⟨place, led, by simp [missing], rfl⟩

theorem rename_eq_ok {disk after : Disk} {source target : String}
    (renamed : disk.rename source target = .ok after) :
    ∃ origin slash place node, disk.locate source = .ok (.entry origin slash) ∧
      disk.locate target = .ok (.entry place false) ∧ disk.nodes.get? origin = some node ∧
      disk.nodes.get? place ≠ some .directory ∧
      after = ⟨(disk.nodes.erase origin).insert place node⟩ := by
  rw [rename] at renamed
  split at renamed
  · cases renamed
  · cases renamed
  · cases renamed
  · cases renamed
  · next origin slash place ends from_ to_ =>
    split at renamed
    · cases renamed
    · cases renamed
    · next node found noDirectory =>
      split at renamed
      · cases renamed
      · next allowed =>
        cases renamed
        cases ends with
        | true =>
          rw [get?_of_locate_slash to_] at allowed
          exact absurd rfl allowed
        | false =>
          exact ⟨origin, slash, place, node, from_, to_, found, noDirectory, rfl⟩

theorem writeText_of_free {disk : Disk} {path place : String}
    (led : disk.locate path = .ok (.entry place false))
    (noDirectory : disk.nodes.get? place ≠ some .directory)
    (noLock : disk.nodes.get? place ≠ some .locked) (content : String) :
    disk.writeText path content = .ok ⟨disk.nodes.insert place (.text content)⟩ := by
  simp only [writeText, led]
  split
  · contradiction
  · contradiction
  · rfl
  · rfl

theorem rename_of_found {disk : Disk} {source target origin place : String} {node : DiskNode}
    (from_ : disk.locate source = .ok (.entry origin false))
    (to_ : disk.locate target = .ok (.entry place false))
    (found : disk.nodes.get? origin = some node)
    (noDirectory : disk.nodes.get? place ≠ some .directory) :
    disk.rename source target = .ok ⟨(disk.nodes.erase origin).insert place node⟩ := by
  simp only [rename, from_, to_, found]
  split
  · contradiction
  · rfl

/-! ## Replacing -/

theorem keepsDirectories_insert {disk : Disk} {place : String}
    (noDirectory : disk.nodes.get? place ≠ some .directory) (node : DiskNode) :
    KeepsDirectories disk ⟨disk.nodes.insert place node⟩ := by
  intro other directory
  have apart : other ≠ place := by
    rintro rfl
    exact noDirectory directory
  simp [apart, directory]

/-- A file that takes another name keeps every directory. -/
theorem keepsDirectories_move {disk : Disk} {origin place : String} {node : DiskNode}
    (found : disk.nodes.get? origin = some node) (file : node ≠ .directory)
    (noDirectory : disk.nodes.get? place ≠ some .directory) :
    KeepsDirectories disk ⟨(disk.nodes.erase origin).insert place node⟩ := by
  intro other directory
  have apart : other ≠ place := by
    rintro rfl
    exact noDirectory directory
  have moved : other ≠ origin := by
    rintro rfl
    rw [found] at directory
    cases directory
    exact file rfl
  simpa [OrderedMap.get?_erase, apart, moved] using directory

/-- What is written beside a file and then takes its name is all that changes. -/
theorem replaced_eq {disk written after : Disk} {beside path content : String}
    (wrote : disk.writeText beside content = .ok written)
    (renamed : written.rename beside path = .ok after) :
    ∃ origin place, disk.locate beside = .ok (.entry origin false) ∧
      after.locate path = .ok (.entry place false) ∧ KeepsDirectories disk after ∧
      after = ⟨((disk.nodes.insert origin (.text content)).erase origin).insert place
        (.text content)⟩ := by
  -- Neither place holds a directory when it changes, so both paths lead where they led before.
  obtain ⟨origin, led, noDirectory, rfl⟩ := writeText_eq_ok wrote
  have keeps := keepsDirectories_insert noDirectory (.text content)
  obtain ⟨origin', slash, place, node, from_, to_, found, noTarget, rfl⟩ := rename_eq_ok renamed
  rw [locate_of_keepsDirectories keeps led] at from_
  cases from_
  have same : node = .text content := by simpa using found.symm
  subst same
  have keeps' := keepsDirectories_move found (by simp) noTarget
  exact ⟨origin, place, led, locate_of_keepsDirectories keeps' to_,
    fun other directory => keeps' other (keeps other directory), rfl⟩

/-- It is what the file holds. -/
theorem readText_of_replaced {disk written after : Disk} {beside path content : String}
    (wrote : disk.writeText beside content = .ok written)
    (renamed : written.rename beside path = .ok after) : after.readText path = .ok content := by
  obtain ⟨origin, place, -, led, -, rfl⟩ := replaced_eq wrote renamed
  simp [readText, led]

end Disk
end PathShell
