import RemovableMedia.Host.Screen
import RemovableMedia.Proofs.Import.Stages
import RemovableMedia.Proofs.Router.Navigations
import RemovableMedia.Proofs.Router.Tracking

/-!
# What an import does

An import that runs to its end asks what its decision asks, and then does one
thing at most: it sends a request to navigate, or it orders the navigation
notification of the volume's device, if there is a device to name.
-/

namespace RemovableMedia

open DecisionStage

/-- What comes of a decision that goes by the script. -/
def ImportScript.findings (script : ImportScript) (folders : List String)
    (metadata : VolumeMetadata) :
    Findings (Except ImportFailure ImportDecision) :=
  (decideImport folders metadata).run script.collaborators

namespace Router

variable {σ : Type}

/-- Runs an import that goes by the script to its end. -/
def runImport (config : HandlerConfig) (script : ImportScript)
    (metadata : VolumeMetadata) (router : Router σ) : Router σ :=
  router.finishTask ⟨config, script.collaborators⟩
    (.start config.mediaFolders metadata)

/-! ## Questions -/

theorem queries_send (router : Router σ) (request : NavigationRequest) :
    (router.send request).queries = router.queries := by
  unfold send
  split <;> rfl

theorem queries_conclude (router : Router σ) (metadata : VolumeMetadata)
    (decision : Except ImportFailure ImportDecision) :
    (router.conclude metadata decision).queries = router.queries := by
  rcases decision with failure | ⟨volumeId, folder⟩ | _
  · simp only [conclude]
    split <;> rfl
  · exact queries_send _ _
  · rfl

theorem queries_foldl_record (entries : List LogEntry) (router : Router σ) :
    (entries.foldl record router).queries = router.queries := by
  rw [foldl_record]

theorem queries_runImport (config : HandlerConfig) (script : ImportScript)
    (metadata : VolumeMetadata) (router : Router σ) :
    (router.runImport config script metadata).queries = router.queries ++
      (script.findings config.mediaFolders metadata).queries := by
  simp only [runImport, finishTask, ImportTask.start, ImportScript.findings]
  split
  · rw [queries_conclude, queries_foldl_record]
  · exact queries_foldl_record _ _

/-! ## Effects -/

/-- What an import leaves when it ends: the order for a notification, if it
shows one, and the requests to navigate that it sends. -/
def Concludes (shown : Option String) (sent : List NavigationRequest)
    (router next : Router σ) : Prop :=
  Leaves
    (shown.elim router.center fun path =>
      router.center.requestShow .deviceNavigation path none)
    sent router next

/-- The device whose notification is shown for a decision. -/
def shown? (metadata : VolumeMetadata) :
    Except ImportFailure ImportDecision → Option String
  | .ok _ => none
  | .error _ => metadata.notifiableDevicePath?

theorem navigations_decided (volume : VolumeHandle) (folder : DirectoryHandle)
    (companion : Bool) :
    ImportDecision.navigations (.ok (decided volume folder companion)) =
      if companion then []
      else [.volumeFolder volume.volumeId folder.fullPath] := by
  cases companion <;> rfl

/-- Nothing but a folder that is opened makes an import send a request. -/
theorem mem_navigations_iff {request : NavigationRequest}
    {decision : Except ImportFailure ImportDecision} :
    request ∈ ImportDecision.navigations decision ↔
      ∃ volumeId folder, decision = .ok (.openFolder volumeId folder) ∧
        request = .volumeFolder volumeId folder.fullPath := by
  rcases decision with failure | ⟨volumeId, folder⟩ | _
  · simp [ImportDecision.navigations]
  · simp [ImportDecision.navigations]
  · simp [ImportDecision.navigations]

theorem length_navigations_le (decision : Except ImportFailure ImportDecision) :
    (ImportDecision.navigations decision).length ≤ 1 := by
  rcases decision with failure | ⟨volumeId, folder⟩ | _
  · exact Nat.zero_le 1
  · exact Nat.le_refl 1
  · exact Nat.zero_le 1

theorem concludes_runImport (config : HandlerConfig) {script : ImportScript}
    {metadata : VolumeMetadata}
    {decision : Except ImportFailure ImportDecision}
    (result : (script.findings config.mediaFolders metadata).result =
      some decision) (router : Router σ) :
    Concludes (shown? metadata decision) (ImportDecision.navigations decision)
      router (router.runImport config script metadata) := by
  let setting : Setting := ⟨config, script.collaborators⟩
  let task : ImportTask := .start config.mediaFolders metadata
  have leaves := Leaves.of_makes (makes_finishTask setting router task)
    (sends_finishTask setting router task)
    (tracker_finishTask setting router task)
  have result : ((decideImport config.mediaFolders metadata).run
      script.collaborators).result = some decision := result
  simp only [setting, task, ImportTask.start, ImportTask.finalRequests,
    Yield.ofTask, Yield.navigations, result, Option.elim_some] at leaves
  rcases decision with failure | decision
  · unfold ImportDecision.requests at leaves
    unfold Concludes shown?
    cases notifiable : metadata.notifiableDevicePath? with
    | none =>
      rw [notifiable] at leaves
      exact leaves
    | some path =>
      rw [notifiable] at leaves
      exact leaves
  · exact leaves

/-- An import goes through its stages in their order.  It asks what they ask, up
to the first that fails, and comes to the failure of that one.  If none fails, it
comes to the first folder that is there, or leaves the volume to the companion. -/
theorem import_follows_stages (config : HandlerConfig) (script : ImportScript)
    (metadata : VolumeMetadata) (router : Router σ) :
    let folders := config.mediaFolders
    let stages := script.stages folders metadata
    let next := router.runImport config script metadata
    (script.findings folders metadata).queries = asked stages ∧
    next.queries = router.queries ++ asked stages ∧
    (∀ failure, firstFailure? stages = some failure →
      (script.findings folders metadata).result = some (.error failure) ∧
      Concludes metadata.notifiableDevicePath? [] router next) ∧
    (firstFailure? stages = none → ∃ volume folder companion,
      script.Passes folders metadata volume folder companion ∧
      (script.findings folders metadata).result =
        some (.ok (decided volume folder companion)) ∧
      Concludes none
        (if companion then []
          else [.volumeFolder volume.volumeId folder.fullPath]) router next) := by
  intro folders stages next
  have asks : (script.findings folders metadata).queries = asked stages :=
    queries_decideImport script folders metadata
  refine ⟨asks, ?_, ?_, ?_⟩
  · rw [← asks]
    exact queries_runImport config script metadata router
  · intro failure failed
    have result : (script.findings folders metadata).result =
        some (.error failure) := result_of_failure failed
    exact ⟨result, concludes_runImport config result router⟩
  · intro passed
    obtain ⟨volume, folder, companion, passes⟩ :=
      ImportScript.passes_of_firstFailure? passed
    have result := result_of_passes passes
    have concludes := concludes_runImport config result router
    rw [navigations_decided] at concludes
    exact ⟨volume, folder, companion, passes, result, concludes⟩

/-! ## A card -/

/-- A card with one folder, whose name is in lower case. -/
def cardScript : ImportScript where
  resolveVolume volumeId := .ok ⟨volumeId, "/media/CARD"⟩
  isImportEnabled := .ok true
  isVolumeEligible _ := .ok true
  displayRoot volume := .ok (.root volume.volumeId)
  subdirectory parent name :=
    if name = "dcim" then .ok (parent.child name)
    else .error (.notFound name)
  isCompanionImporting := .ok false

def cardMetadata : VolumeMetadata := { volumeId := some "removable:CARD" }

/-- Both folders are asked for, and that the first is not there does not count. -/
theorem import_follows_stages_of_card :
    let folders := HandlerConfig.mediaFolders {}
    let router : Router Screen := ofConfig {} {}
    let next := router.runImport {} cardScript cardMetadata
    firstFailure? (cardScript.stages folders cardMetadata) = none ∧
    next.queries =
      [.resolveVolume "removable:CARD", .isImportEnabled,
        .isVolumeEligible ⟨"removable:CARD", "/media/CARD"⟩,
        .displayRoot ⟨"removable:CARD", "/media/CARD"⟩,
        .subdirectory (.root "removable:CARD") "DCIM",
        .subdirectory (.root "removable:CARD") "dcim",
        .isCompanionImporting] ∧
    ∃ volume folder companion,
      cardScript.Passes folders cardMetadata volume folder companion ∧
      (cardScript.findings folders cardMetadata).result =
        some (.ok (decided volume folder companion)) ∧
      Concludes none
        (if companion then []
          else [.volumeFolder volume.volumeId folder.fullPath]) router next := by
  intro folders router next
  obtain ⟨_, queries, _, success⟩ :=
    import_follows_stages {} cardScript cardMetadata router
  have passed : firstFailure? (cardScript.stages folders cardMetadata) = none := rfl
  refine ⟨passed, ?_, success passed⟩
  rw [queries]
  rfl

/-- A volume without an identifier and without a device type. -/
def shareMetadata : VolumeMetadata := { devicePath := some "/dev/sdb" }

/-- The import fails at its first stage, and no notification is shown. -/
theorem import_of_share_shows_nothing :
    let router : Router Screen := ofConfig {} {}
    (cardScript.findings (HandlerConfig.mediaFolders {})
        shareMetadata).result =
        some (.error .missingVolumeId) ∧
    ∀ path, (router.runImport {} cardScript shareMetadata).center ≠
      router.center.requestShow .deviceNavigation path none := by
  intro router
  have result : (cardScript.findings (HandlerConfig.mediaFolders {})
      shareMetadata).result = some (.error .missingVolumeId) := result_of_failure rfl
  refine ⟨result, fun path same => ?_⟩
  have unchanged := (concludes_runImport {} result router).center
  have lengths := congrArg (fun center : Center =>
    (center.queues.get .deviceNavigation).waiting.length)
    (unchanged.symm.trans same)
  exact absurd lengths Nat.zero_ne_one

end Router

end RemovableMedia
