import RemovableMedia.Import.Sources
import RemovableMedia.Proofs.Import.Run

/-!
# Imports from mounted volumes

With volumes of the file system and the policy of the settings, an import sends
a request to navigate exactly when one closed condition holds of the file system,
the settings and the volume.
-/

namespace RemovableMedia

/-! ## Directories -/

namespace FileSystem

variable {files : FileSystem}

theorem requireDirectory_eq_ok_iff {path : String} :
    files.requireDirectory path = .ok () ↔ files.isDirectory path = true := by
  unfold requireDirectory isDirectory
  rcases files.kind path with fault | _ | _
  · cases fault <;> simp
  · simp
  · simp

theorem resolveVolume_eq_ok_iff {volumeId : String} {volume : VolumeHandle} :
    files.resolveVolume volumeId = .ok volume ↔
      Path.isAbsolute volumeId = true ∧ files.isDirectory volumeId = true ∧
        volume = ⟨volumeId, volumeId⟩ := by
  rw [← requireDirectory_eq_ok_iff, resolveVolume]
  cases Path.isAbsolute volumeId with
  | false => simp [bind, Except.bind, throw, throwThe, MonadExceptOf.throw]
  | true =>
    cases files.requireDirectory volumeId with
    | error error => simp [bind, Except.bind]
    | ok found => simp [bind, Except.bind, pure, Except.pure, eq_comm]

theorem displayRoot_eq_ok_iff {volume : VolumeHandle}
    {root : DirectoryHandle} :
    files.displayRoot volume = .ok root ↔
      files.isDirectory volume.mountPath = true ∧
        root = .root volume.volumeId := by
  rw [← requireDirectory_eq_ok_iff, displayRoot]
  cases files.requireDirectory volume.mountPath with
  | error error => simp [bind, Except.bind]
  | ok found => simp [bind, Except.bind, pure, Except.pure, eq_comm]

theorem subdirectory_eq_ok_iff {parent folder : DirectoryHandle}
    {name : String} :
    files.subdirectory parent name = .ok folder ↔
      files.isDirectory (localPath (parent.child name)) = true ∧
        folder = parent.child name := by
  rw [← requireDirectory_eq_ok_iff, subdirectory]
  cases files.requireDirectory (localPath (parent.child name)) with
  | error error => simp [bind, Except.bind]
  | ok found => simp [bind, Except.bind, pure, Except.pure, eq_comm]

end FileSystem

/-- A folder right below the root of a volume. -/
theorem DirectoryHandle.child_root (volumeId name : String) :
    (DirectoryHandle.root volumeId).child name = ⟨volumeId, "/" ++ name⟩ := by
  simp [child, root]

theorem Path.withoutLeadingSlashes_slash (path : String) :
    withoutLeadingSlashes ("/" ++ path) = withoutLeadingSlashes path := by
  simp [withoutLeadingSlashes]

/-- Where a media folder of a volume is, if it is there. -/
def FileSystem.mediaPath (volumeId name : String) : String :=
  Path.join volumeId (Path.withoutLeadingSlashes name)

theorem FileSystem.localPath_child_root (volumeId name : String) :
    localPath ((DirectoryHandle.root volumeId).child name) =
      mediaPath volumeId name := by
  rw [DirectoryHandle.child_root, localPath, Path.withoutLeadingSlashes_slash]
  rfl

theorem ImportSettings.isEligible_iff {settings : ImportSettings}
    {mountPath : String} :
    settings.isEligible mountPath = true ↔
      ∃ root ∈ settings.eligibleRoots,
        Path.components root <+: Path.components mountPath := by
  simp only [isEligible, Path.isAtOrBelow, List.any_eq_true,
    List.isPrefixOf_iff_prefix]

/-! ## When a folder is opened -/

/-- The volume is opened in the media folder of this name. -/
structure Opens (files : FileSystem) (config : HandlerConfig)
    (metadata : VolumeMetadata) (volumeId name : String) : Prop where
  identified : metadata.volumeId = some volumeId
  absolute : Path.isAbsolute volumeId = true
  mounted : files.isDirectory volumeId = true
  enabled : config.imports.enabled = true
  eligible : ∃ root ∈ config.imports.eligibleRoots,
    Path.components root <+: Path.components volumeId
  unattended : config.imports.companionAppHandlesImport = false
  first : config.mediaFolders.find?
      (fun name => files.isDirectory
        (Path.join volumeId (Path.withoutLeadingSlashes name))) = some name

example : Opens
    ⟨fun path =>
      if path = "/media/CARD/" ∨ path = "/media/CARD/dcim" then .ok .directory
      else .error .missing⟩
    {} { volumeId := some "/media/CARD/" } "/media/CARD/" "dcim" := by
  constructor <;> decide

namespace ImportScript

variable {files : FileSystem} {settings : ImportSettings}

theorem subdirectory_ofFiles (volumeId name : String) :
    ((ofFiles files settings).subdirectory (.root volumeId) name).toOption =
      if files.isDirectory (FileSystem.mediaPath volumeId name) then
        some ⟨volumeId, "/" ++ name⟩
      else none := by
  have child := DirectoryHandle.child_root volumeId name
  have place := FileSystem.localPath_child_root volumeId name
  cases answered : files.subdirectory (.root volumeId) name with
  | ok folder =>
    obtain ⟨there, same⟩ := FileSystem.subdirectory_eq_ok_iff.mp answered
    rw [place] at there
    rw [if_pos there, ← child, ← same]
    exact congrArg Except.toOption answered
  | error error =>
    have missing :
        ¬ files.isDirectory (FileSystem.mediaPath volumeId name) := by
      intro there
      rw [← place] at there
      have found := FileSystem.subdirectory_eq_ok_iff.mpr ⟨there, rfl⟩
      exact absurd (answered.symm.trans found) (by simp)
    rw [if_neg missing]
    exact congrArg Except.toOption answered

theorem folder?_ofFiles (volumeId : String) (folders : List String) :
    (ofFiles files settings).folder? (.root volumeId) folders =
      (folders.find? fun name =>
        files.isDirectory (FileSystem.mediaPath volumeId name)).map
          fun name => ⟨volumeId, "/" ++ name⟩ := by
  induction folders with
  | nil => rfl
  | cons name later ih =>
    unfold folder? at ih ⊢
    rw [List.findSome?_cons, subdirectory_ofFiles, List.find?_cons]
    cases files.isDirectory (FileSystem.mediaPath volumeId name) with
    | true => rfl
    | false => exact ih

variable {config : HandlerConfig} {metadata : VolumeMetadata}

theorem passes_of_opens {volumeId name : String}
    (opens : Opens files config metadata volumeId name) :
    (ofFiles files config.imports).Passes config.mediaFolders metadata
      ⟨volumeId, volumeId⟩ ⟨volumeId, "/" ++ name⟩ false := by
  have named : volumeId ≠ "" := by
    rintro rfl
    exact absurd opens.absolute (by simp [Path.isAbsolute])
  constructor
  · refine ⟨volumeId, opens.identified, named, ?_⟩
    exact FileSystem.resolveVolume_eq_ok_iff.mpr
      ⟨opens.absolute, opens.mounted, rfl⟩
  · exact congrArg Except.ok opens.enabled
  · exact congrArg Except.ok (ImportSettings.isEligible_iff.mpr opens.eligible)
  · refine ⟨.root volumeId, ?_, ?_⟩
    · exact FileSystem.displayRoot_eq_ok_iff.mpr ⟨opens.mounted, rfl⟩
    · rw [← folder?_eq_some_iff, folder?_ofFiles]
      exact congrArg (Option.map _) opens.first
  · exact congrArg Except.ok opens.unattended

theorem opens_of_passes {volume : VolumeHandle} {folder : DirectoryHandle}
    (passes : (ofFiles files config.imports).Passes config.mediaFolders metadata
      volume folder false) :
    ∃ name, Opens files config metadata volume.volumeId name ∧
      folder = ⟨volume.volumeId, "/" ++ name⟩ := by
  obtain ⟨id, identified, named, resolved⟩ := passes.resolved
  obtain ⟨root, shown, first⟩ := passes.found
  obtain ⟨absolute, mounted, rfl⟩ :=
    FileSystem.resolveVolume_eq_ok_iff.mp resolved
  obtain ⟨_, rfl⟩ := FileSystem.displayRoot_eq_ok_iff.mp shown
  rw [← folder?_eq_some_iff, folder?_ofFiles, Option.map_eq_some_iff] at first
  obtain ⟨name, first, rfl⟩ := first
  refine ⟨name, ?_, rfl⟩
  constructor
  · exact identified
  · exact absolute
  · exact mounted
  · exact Except.ok.inj passes.enabled
  · exact ImportSettings.isEligible_iff.mp (Except.ok.inj passes.eligible)
  · exact Except.ok.inj passes.companion
  · exact first

/-- A folder is opened exactly where the condition holds. -/
theorem result_ofFiles_iff {volumeId : String} {folder : DirectoryHandle} :
    ((ofFiles files config.imports).findings config.mediaFolders
        metadata).result = some (.ok (.openFolder volumeId folder)) ↔
      ∃ name, Opens files config metadata volumeId name ∧
        folder = ⟨volumeId, "/" ++ name⟩ := by
  constructor
  · intro result
    obtain ⟨volume, rfl, passes⟩ := passes_of_result result
    exact opens_of_passes passes
  · rintro ⟨name, opens, rfl⟩
    exact result_of_passes (passes_of_opens opens)

end ImportScript

namespace Router

variable {σ : Type}

/-- An import from a mounted volume sends one request when there is a folder to
open, for the first such folder, and none otherwise. -/
theorem import_navigates_iff_opens (files : FileSystem)
    (config : HandlerConfig) (metadata : VolumeMetadata) (router : Router σ) :
    ∃ sent : List NavigationRequest,
      (router.runImport config (.ofFiles files config.imports)
        metadata).outbox = router.outbox.take sent ∧
      sent.length ≤ 1 ∧
      ∀ request, request ∈ sent ↔ ∃ volumeId name,
        Opens files config metadata volumeId name ∧
        request =
          { volumeId := some volumeId, filePath := some ("/" ++ name) } := by
  obtain ⟨decision, result⟩ := exists_result
    (.ofFiles files config.imports) config.mediaFolders metadata
  have concludes := concludes_runImport config result router
  refine ⟨ImportDecision.navigations decision, concludes.outbox,
    length_navigations_le decision, fun request => ?_⟩
  rw [mem_navigations_iff]
  constructor
  · rintro ⟨volumeId, folder, rfl, rfl⟩
    obtain ⟨name, opens, rfl⟩ := ImportScript.result_ofFiles_iff.mp result
    exact ⟨volumeId, name, opens, rfl⟩
  · rintro ⟨volumeId, name, opens, rfl⟩
    have opened := ImportScript.result_ofFiles_iff.mpr ⟨name, opens, rfl⟩
    have same := Option.some.inj (result.symm.trans opened)
    exact ⟨volumeId, ⟨volumeId, "/" ++ name⟩, same, rfl⟩

end Router

end RemovableMedia
