import RemovableMedia.Import.Pipeline

/-!
# What imports report

On its way to a decision an import reports only one kind of thing: that a media
folder could not be had.  Whatever the collaborators answer, nothing else is
reported.
-/

namespace RemovableMedia

namespace LogEntry

def IsFolderMissing : LogEntry → Prop
  | folderMissing _ _ _ => True
  | _ => False

end LogEntry

namespace Inquiry

variable {α β : Type} {allowed : LogEntry → Prop}

/-- Whatever is answered, all that is reported is allowed. -/
def ReportsOnly (allowed : LogEntry → Prop) : Inquiry α → Prop
  | done _ => True
  | report entry next => allowed entry ∧ next.ReportsOnly allowed
  | ask _ next => ∀ answer, (next answer).ReportsOnly allowed

namespace ReportsOnly

theorem bind {inquiry : Inquiry α} {next : α → Inquiry β}
    (first : inquiry.ReportsOnly allowed)
    (later : ∀ result, (next result).ReportsOnly allowed) :
    (inquiry.bind next).ReportsOnly allowed := by
  induction inquiry with
  | done result => exact later result
  | report entry rest induction => exact ⟨first.1, induction first.2⟩
  | ask query rest induction =>
      intro answer
      exact induction answer (first answer)

theorem of_mem_log {inquiry : Inquiry α} (only : inquiry.ReportsOnly allowed)
    (collaborators : Collaborators) :
    ∀ entry ∈ (inquiry.run collaborators).log, allowed entry := by
  induction inquiry with
  | done result => simp [run]
  | report entry next induction =>
      intro reported member
      rcases List.mem_cons.mp member with rfl | later
      · exact only.1
      · exact induction only.2 reported later
  | ask query next induction =>
      unfold run
      cases collaborators query with
      | done answer => exact induction (.ok answer) (only (.ok answer))
      | failed error => exact induction (.error error) (only (.error error))
      | panicked => simp

end ReportsOnly

end Inquiry

/-! ## The stages of a decision -/

namespace ImportStage

variable {α β : Type}

/-- The computation reports nothing but missing folders. -/
def Discreet (computation : ImportStage α) : Prop :=
  computation.run.ReportsOnly LogEntry.IsFolderMissing

namespace Discreet

theorem pure (value : α) : Discreet (Pure.pure value) := trivial

theorem throw (failure : ImportFailure) :
    Discreet (α := α) (MonadExcept.throw failure) := trivial

theorem bind {computation : ImportStage α} {next : α → ImportStage β}
    (first : Discreet computation) (later : ∀ value, Discreet (next value)) :
    Discreet (computation >>= next) := by
  refine Inquiry.ReportsOnly.bind first ?_
  rintro (failure | value)
  · exact trivial
  · exact later value

theorem lift {inquiry : Inquiry α}
    (only : inquiry.ReportsOnly LogEntry.IsFolderMissing) :
    Discreet (ExceptT.lift inquiry) :=
  Inquiry.ReportsOnly.bind only fun _ => trivial

theorem consult (query : ImportQuery) : Discreet (consult query) :=
  fun _ => trivial

theorem resolveVolume (metadata : VolumeMetadata) :
    Discreet (resolveVolume metadata) := by
  unfold ImportStage.resolveVolume
  split
  · exact consult _
  · exact throw _

theorem checkAllowed (volume : VolumeHandle) :
    Discreet (checkAllowed volume) := by
  apply bind
  · apply bind (consult _)
    intro (enabled : Bool)
    cases enabled with
    | true => exact consult _
    | false => exact pure false
  · intro allowed
    split
    · exact throw _
    · exact pure ()

theorem askFolders (root : DirectoryHandle) (names : List String) :
    (askFolders root names).ReportsOnly LogEntry.IsFolderMissing := by
  induction names with
  | nil => exact trivial
  | cons name names induction =>
      intro answer
      exact Inquiry.ReportsOnly.bind induction fun _ => trivial

theorem firstFolder (volumeId : String)
    (answers : List (String × Except HostError DirectoryHandle)) :
    (firstFolder volumeId answers).ReportsOnly LogEntry.IsFolderMissing := by
  induction answers with
  | nil => exact trivial
  | cons answer answers induction =>
      rcases answer with ⟨name, error | folder⟩
      · exact ⟨trivial, induction⟩
      · exact trivial

theorem findMediaFolder (folders : List String) (volume : VolumeHandle) :
    Discreet (findMediaFolder folders volume) := by
  apply bind (consult _)
  intro root
  apply bind (lift (askFolders root folders))
  intro answers
  apply bind (lift (firstFolder volume.volumeId answers))
  rintro (_ | folder)
  · exact throw _
  · exact pure folder

end Discreet

end ImportStage

/-- An import reports nothing but missing folders. -/
theorem reportsOnly_decideImport (folders : List String)
    (metadata : VolumeMetadata) :
    (decideImport folders metadata).ReportsOnly LogEntry.IsFolderMissing := by
  apply ImportStage.Discreet.bind (.resolveVolume metadata)
  intro volume
  apply ImportStage.Discreet.bind (.checkAllowed volume)
  intro _
  apply ImportStage.Discreet.bind (.findMediaFolder folders volume)
  intro folder
  apply ImportStage.Discreet.bind (.consult .isCompanionImporting)
  intro (companion : Bool)
  cases companion with
  | true => exact .pure _
  | false => exact .pure _

end RemovableMedia
