import TrafficFabric.Repository

set_option autoImplicit false

/- What a sequence of file operations leaves behind, finished or stopped by a crash. -/
namespace TrafficFabric

namespace Directory

/-- The directories differ in their temporaries at most. -/
structure SameFiles (directory found : Directory) : Prop where
  files : found.files = directory.files
  unsynced : found.unsynced = directory.unsynced

theorem SameFiles.refl (directory : Directory) : SameFiles directory directory := ⟨rfl, rfl⟩

/-- The directory after an atomic replacement. -/
def replaced (directory : Directory) (file : FileName) (bytes : List UInt8) : Directory :=
  directory.performAll (PlanRepository.writeAtomic file bytes)

variable {directory found : Directory} {file : FileName} {bytes : List UInt8}

theorem replaced_same : (directory.replaced file bytes).files file = some bytes := by
  cases file <;> rfl

theorem replaced_other {other : FileName} (differs : other ≠ file) :
    (directory.replaced file bytes).files other = directory.files other := by
  cases file <;> cases other <;> first | rfl | exact absurd rfl differs

theorem replaced_temporaries (none : directory.temporaries = fun _ => none) :
    (directory.replaced file bytes).temporaries = fun _ => Option.none := by
  funext other
  cases file <;> cases other <;>
    simp [replaced, PlanRepository.writeAtomic, performAll, perform, setTemporary, setFile, none]

theorem replaced_unsynced (synced : directory.unsynced = []) :
    (directory.replaced file bytes).unsynced = [] := by
  cases file
  · exact synced
  · exact synced
  · rfl

theorem performAll_append (first rest : List DiskAction) :
    directory.performAll (first ++ rest) = (directory.performAll first).performAll rest :=
  List.foldl_append

/-! Stopping. -/

theorem Stops.split {first rest : List DiskAction} (stops : Stops directory (first ++ rest) found) :
    Stops directory first found ∨ Stops (directory.performAll first) rest found := by
  induction first generalizing directory with
  | nil => exact Or.inr stops
  | cons action first ih =>
      cases stops with
      | here => exact Or.inl (Stops.here _ _)
      | writing _ _ _ _ _ torn => exact Or.inl (Stops.writing _ _ _ _ _ torn)
      | later stops =>
          rcases ih stops with before | after
          · exact Or.inl (Stops.later before)
          · exact Or.inr after

/-- A stop in an atomic replacement leaves the old files or the new ones. -/
theorem Stops.writeAtomic (stops : Stops directory (PlanRepository.writeAtomic file bytes) found) :
    SameFiles directory found ∨ found = directory.replaced file bytes := by
  cases stops with
  | here => exact Or.inl (SameFiles.refl directory)
  | writing => exact Or.inl ⟨rfl, rfl⟩
  | later stops =>
      cases stops with
      | here => exact Or.inl ⟨rfl, rfl⟩
      | later stops =>
          cases stops with
          | here => exact Or.inr rfl

/-- A stop before or after a single operation on the journal. -/
theorem Stops.single {action : DiskAction} (whole : ∀ file bytes, action ≠ .writeTemporary file bytes)
    (stops : Stops directory [action] found) : found = directory ∨ found = directory.perform action := by
  cases stops with
  | here => exact Or.inl rfl
  | writing file bytes part rest torn => exact absurd rfl (whole _ _)
  | later stops =>
      cases stops with
      | here => exact Or.inr rfl

/-- Removing temporaries never touches a file. -/
theorem Stops.discarding {actions : List DiskAction}
    (discards : ∀ action ∈ actions, ∃ file, action = .removeTemporary file)
    (stops : Stops directory actions found) : SameFiles directory found := by
  induction actions generalizing directory with
  | nil =>
      cases stops with
      | here => exact SameFiles.refl _
  | cons action rest ih =>
      obtain ⟨file, rfl⟩ := discards action List.mem_cons_self
      cases stops with
      | here => exact SameFiles.refl _
      | later stops =>
          have same := ih (fun action member => discards action (List.mem_cons_of_mem _ member)) stops
          exact ⟨same.files, same.unsynced⟩

/-- With nothing left to synchronise a crash loses nothing more. -/
theorem cut_synced (synced : directory.unsynced = []) {kept : List UInt8}
    (prefixed : kept <+: directory.unsynced) : directory.cut kept = directory := by
  rw [synced] at prefixed
  have empty : kept = [] := List.prefix_nil.1 prefixed
  subst empty
  obtain ⟨files, temporaries, unsynced⟩ := directory
  change unsynced = [] at synced
  subst synced
  have same : (fun other => if other = FileName.journal then
      (files .journal).map fun bytes => bytes ++ [] else files other) = files := by
    funext other
    by_cases same : other = .journal
    · subst same
      rw [if_pos rfl]
      cases files .journal with
      | none => rfl
      | some journal => exact congrArg some (List.append_nil journal)
    · rw [if_neg same]
  exact congrArg (fun files => Directory.mk files temporaries []) same

end Directory

end TrafficFabric
