import RemovableMedia.Import.Pipeline
import RemovableMedia.Import.Script

/-!
# Stages of an import decision

A decision goes through stages.  Each asks its questions, and fails or does not;
the first that fails is the last to ask anything, and its failure is what the
decision comes to.  The choice of a folder is one stage: it asks for all folders,
and fails only when none is there.
-/

namespace RemovableMedia

/-- The identifier that a volume is asked for by, if it has one to speak of. -/
def VolumeMetadata.identifier? (metadata : VolumeMetadata) : Option String :=
  metadata.volumeId.filter (· ≠ "")

structure DecisionStage where
  queries : List ImportQuery
  failure? : Option ImportFailure

namespace DecisionStage

/-- The questions of the stages up to the first that fails. -/
def asked : List DecisionStage → List ImportQuery
  | [] => []
  | stage :: later =>
      match stage.failure? with
      | some _ => stage.queries
      | none => stage.queries ++ asked later

def firstFailure? (stages : List DecisionStage) : Option ImportFailure :=
  stages.findSome? failure?

theorem firstFailure?_cons (stage : DecisionStage)
    (later : List DecisionStage) :
    firstFailure? (stage :: later) =
      stage.failure?.or (firstFailure? later) := by
  rw [firstFailure?, List.findSome?_cons]
  cases stage.failure? <;> rfl

theorem asked_append_of_failure {early : List DecisionStage}
    {failure : ImportFailure} (failed : firstFailure? early = some failure)
    (late : List DecisionStage) : asked (early ++ late) = asked early := by
  induction early with
  | nil => exact absurd failed (Option.some_ne_none _).symm
  | cons stage later ih =>
    rw [List.cons_append, asked, asked]
    cases own : stage.failure? with
    | some failure => rfl
    | none =>
      have passed : firstFailure? later = some failure := by
        simpa [firstFailure?, own] using failed
      simp only [ih passed]

theorem asked_append_of_success {early : List DecisionStage}
    (passed : firstFailure? early = none) (late : List DecisionStage) :
    asked (early ++ late) = asked early ++ asked late := by
  induction early with
  | nil => rfl
  | cons stage later ih =>
    obtain ⟨own, others⟩ : stage.failure? = none ∧
        firstFailure? later = none := by
      simpa [firstFailure?] using passed
    simp only [List.cons_append, asked, own, ih others, List.append_assoc]

theorem firstFailure?_append (early late : List DecisionStage) :
    firstFailure? (early ++ late) =
      (firstFailure? early).or (firstFailure? late) :=
  List.findSome?_append

end DecisionStage

open DecisionStage

namespace Inquiry

variable {α β : Type} {collaborators : Collaborators}

/-- What is asked after an inquiry that came to its end is asked after it. -/
theorem run_bind {inquiry : Inquiry α} {result : α}
    (ended : (inquiry.run collaborators).result = some result)
    (next : α → Inquiry β) :
    ((inquiry.bind next).run collaborators).queries =
        (inquiry.run collaborators).queries ++
          ((next result).run collaborators).queries ∧
      ((inquiry.bind next).run collaborators).result =
        ((next result).run collaborators).result := by
  induction inquiry with
  | done found =>
    rw [Option.some.inj ended]
    exact ⟨rfl, rfl⟩
  | report entry rest ih => exact ih ended
  | ask query rest ih =>
    simp only [bind, run] at ended ⊢
    cases answered : collaborators query with
    | done answer =>
      simp only [answered] at ended ⊢
      obtain ⟨queries, result⟩ := ih (.ok answer) ended
      exact ⟨congrArg (query :: ·) queries, result⟩
    | failed error =>
      simp only [answered] at ended ⊢
      obtain ⟨queries, result⟩ := ih (.error error) ended
      exact ⟨congrArg (query :: ·) queries, result⟩
    | panicked => simp [answered] at ended

end Inquiry

/-- Going by the script, the computation goes through the stages, and comes to
the value unless one of them fails. -/
structure Follows {α : Type} (script : ImportScript)
    (computation : ImportStage α) (stages : List DecisionStage) (value : α) :
    Prop where
  queries : (computation.run.run script.collaborators).queries = asked stages
  result : (computation.run.run script.collaborators).result =
    some ((firstFailure? stages).elim (.ok value) .error)

namespace Follows

variable {α β : Type} {script : ImportScript}

theorem pure (value : α) : Follows script (Pure.pure value) [] value :=
  ⟨rfl, rfl⟩

theorem throw (failure : ImportFailure) (value : α) :
    Follows script (MonadExcept.throw failure) [⟨[], some failure⟩] value :=
  ⟨rfl, rfl⟩

/-- Stages may be divided otherwise. -/
theorem regroup {computation : ImportStage α}
    {stages others : List DecisionStage} {value : α}
    (follows : Follows script computation stages value)
    (queries : asked others = asked stages)
    (failure : firstFailure? others = firstFailure? stages) :
    Follows script computation others value := by
  constructor
  · rw [queries, follows.queries]
  · rw [failure, follows.result]

theorem bind {computation : ImportStage α} {next : α → ImportStage β}
    {early late : List DecisionStage} {middle : α} {value : β}
    (first : Follows script computation early middle)
    (second : firstFailure? early = none →
      Follows script (next middle) late value) :
    Follows script (computation >>= next) (early ++ late) value := by
  have composed := Inquiry.run_bind first.result (ExceptT.bindCont next)
  cases failed : firstFailure? early with
  | some failure =>
    rw [failed] at composed
    constructor
    · rw [asked_append_of_failure failed, ← first.queries]
      exact composed.1.trans (List.append_nil _)
    · rw [firstFailure?_append, failed]
      exact composed.2
  | none =>
    have second := second failed
    rw [failed] at composed
    constructor
    · rw [asked_append_of_success failed, ← first.queries, ← second.queries]
      exact composed.1
    · rw [firstFailure?_append, failed, Option.none_or, ← second.result]
      exact composed.2

end Follows

/-! ## Stages of a script -/

/-- How a stage fails that needs an answer. -/
def hostFailure? {α : Type} : Except HostError α → Option ImportFailure
  | .ok _ => none
  | .error error => some (.host error)

/-- How a stage fails that needs the answer yes about a volume. -/
def refusal? (volume : VolumeHandle) :
    Except HostError Bool → Option ImportFailure
  | .ok true => none
  | .ok false => some (.importDisabled volume.volumeId)
  | .error error => some (.host error)

/-- The answer that later stages go on with.  After an error there are none, so
it does not matter which one is taken. -/
def settled {α : Type} (answer : Except HostError α) (otherwise : α) : α :=
  match answer with
  | .ok found => found
  | .error _ => otherwise

/-- What is decided when no stage fails. -/
def decided (volume : VolumeHandle) (folder : DirectoryHandle)
    (companion : Bool) : ImportDecision :=
  if companion then .companionHandles
  else .openFolder volume.volumeId folder

namespace ImportScript

variable (script : ImportScript)

def volume (id : String) : VolumeHandle :=
  settled (script.resolveVolume id) ⟨id, id⟩

def root (volume : VolumeHandle) : DirectoryHandle :=
  settled (script.displayRoot volume) (.root volume.volumeId)

/-- The first of the folders that is there. -/
def folder? (root : DirectoryHandle) (folders : List String) :
    Option DirectoryHandle :=
  folders.findSome? fun name => (script.subdirectory root name).toOption

def permissionStages (volume : VolumeHandle) : List DecisionStage := [
  ⟨[.isImportEnabled], refusal? volume script.isImportEnabled⟩,
  ⟨[.isVolumeEligible volume],
    refusal? volume (script.isVolumeEligible volume)⟩]

/-- The stage that looks for the folders fails only when none is there. -/
def folderStage (folders : List String) (root : DirectoryHandle)
    (volumeId : String) : DecisionStage where
  queries := folders.map (.subdirectory root)
  failure? :=
    match script.folder? root folders with
    | some _ => none
    | none => some (.mediaFolderNotFound volumeId)

def folderStages (folders : List String) (volume : VolumeHandle) :
    List DecisionStage := [
  ⟨[.displayRoot volume], hostFailure? (script.displayRoot volume)⟩,
  script.folderStage folders (script.root volume) volume.volumeId]

/-- The folder that is opened, when there is one. -/
def folder (folders : List String) (volume : VolumeHandle) : DirectoryHandle :=
  (script.folder? (script.root volume) folders).getD (script.root volume)

/-- All stages of the decision about a volume.  Without an identifier there is
one stage, which fails. -/
def stages (folders : List String) (metadata : VolumeMetadata) :
    List DecisionStage :=
  match metadata.identifier? with
  | none => [⟨[], some .missingVolumeId⟩]
  | some id =>
      let volume := script.volume id
      [⟨[.resolveVolume id], hostFailure? (script.resolveVolume id)⟩] ++
        (script.permissionStages volume ++
          (script.folderStages folders volume ++
            [⟨[.isCompanionImporting],
              hostFailure? script.isCompanionImporting⟩]))

end ImportScript

namespace Follows

variable {script : ImportScript}

theorem consult (query : ImportQuery) (otherwise : query.Answer) :
    Follows script (ImportStage.consult query)
      [⟨[query], hostFailure? (script.answer query)⟩]
      (settled (script.answer query) otherwise) := by
  have asks : script.collaborators query = .ofExcept (script.answer query) :=
    rfl
  unfold ImportStage.consult
  cases answered : script.answer query with
  | ok found =>
    rw [answered] at asks
    constructor
    · simp [Inquiry.run, asks, Outcome.ofExcept, asked, hostFailure?,
        ExceptT.run, ExceptT.mk]
    · simp [Inquiry.run, asks, Outcome.ofExcept, firstFailure?, hostFailure?,
        ExceptT.run, ExceptT.mk, settled]
      rfl
  | error error =>
    rw [answered] at asks
    constructor
    · simp [Inquiry.run, asks, Outcome.ofExcept, asked, hostFailure?,
        ExceptT.run, ExceptT.mk]
    · simp [Inquiry.run, asks, Outcome.ofExcept, firstFailure?, hostFailure?,
        ExceptT.run, ExceptT.mk]
      rfl

/-- Whether a volume is eligible is asked only where import is enabled. -/
theorem isAllowed (volume : VolumeHandle) :
    Follows script (ImportStage.isAllowed volume)
      ([⟨[.isImportEnabled], hostFailure? script.isImportEnabled⟩] ++
        if settled script.isImportEnabled false then
          [⟨[.isVolumeEligible volume],
            hostFailure? (script.isVolumeEligible volume)⟩]
        else [])
      (settled script.isImportEnabled false &&
        settled (script.isVolumeEligible volume) false) := by
  apply bind (consult .isImportEnabled false)
  intro passed
  have answer : settled (script.answer .isImportEnabled) false =
    settled script.isImportEnabled false := rfl
  rw [answer]
  cases settled script.isImportEnabled false with
  | false => exact pure false
  | true => exact consult (.isVolumeEligible volume) false

theorem checkAllowed (volume : VolumeHandle) :
    Follows script (ImportStage.checkAllowed volume)
      (script.permissionStages volume) () := by
  have refused (allowed : Bool) : Follows script
      (if !allowed then MonadExcept.throw (.importDisabled volume.volumeId)
        else Pure.pure ())
      (if allowed then []
        else [⟨[], some (.importDisabled volume.volumeId)⟩]) () := by
    cases allowed with
    | false => exact throw _ ()
    | true => exact pure ()
  have checked : Follows script (ImportStage.checkAllowed volume) _ () :=
    bind (isAllowed volume) fun _ => refused _
  apply checked.regroup
  · unfold ImportScript.permissionStages
    rcases script.isImportEnabled with error | _ | _
    · rfl
    · rfl
    · rcases script.isVolumeEligible volume with error | _ | _ <;> rfl
  · unfold ImportScript.permissionStages
    rcases script.isImportEnabled with error | _ | _
    · rfl
    · rfl
    · rcases script.isVolumeEligible volume with error | _ | _ <;> rfl

/-- All folders are asked for, whichever are there. -/
theorem run_askFolders (script : ImportScript) (root : DirectoryHandle)
    (folders : List String) :
    ((ImportStage.askFolders root folders).run script.collaborators).queries =
        folders.map (.subdirectory root) ∧
      ((ImportStage.askFolders root folders).run script.collaborators).result =
        some (folders.map fun name => (name, script.subdirectory root name)) := by
  induction folders with
  | nil => exact ⟨rfl, rfl⟩
  | cons name folders ih =>
    have asks : script.collaborators (.subdirectory root name) =
        .ofExcept (script.subdirectory root name) := rfl
    obtain ⟨queries, result⟩ := Inquiry.run_bind ih.2 fun answers =>
      .done ((name, script.subdirectory root name) :: answers)
    rw [ih.1] at queries
    have queries := congrArg (.subdirectory root name :: ·)
      (queries.trans (List.append_nil _))
    unfold ImportStage.askFolders Inquiry.run
    rw [asks, List.map_cons, List.map_cons]
    cases answered : script.subdirectory root name with
    | ok folder =>
      rw [answered] at queries result
      exact ⟨queries, result⟩
    | error error =>
      rw [answered] at queries result
      exact ⟨queries, result⟩

/-- The choice among the answers asks nothing. -/
theorem run_firstFolder (collaborators : Collaborators) (volumeId : String)
    (answers : List (String × Except HostError DirectoryHandle)) :
    ((ImportStage.firstFolder volumeId answers).run collaborators).queries =
        [] ∧
      ((ImportStage.firstFolder volumeId answers).run collaborators).result =
        some (answers.findSome? fun answer => answer.2.toOption) := by
  induction answers with
  | nil => exact ⟨rfl, rfl⟩
  | cons answer rest ih =>
    obtain ⟨name, folder | error⟩ := answer
    · exact ih
    · exact ⟨rfl, rfl⟩

/-- An inquiry that comes to its end does not fail. -/
theorem lift {α : Type} {inquiry : Inquiry α} {queries : List ImportQuery}
    (asks : (inquiry.run script.collaborators).queries = queries) {value : α}
    (ended : (inquiry.run script.collaborators).result = some value) :
    Follows script (ExceptT.lift inquiry) [⟨queries, none⟩] value := by
  subst asks
  obtain ⟨queries, result⟩ := Inquiry.run_bind ended
    fun found => Inquiry.done (Except.ok (ε := ImportFailure) found)
  exact ⟨queries, result⟩

/-- The folders and the choice among them are one stage. -/
theorem chooseFolder (folders : List String) (root : DirectoryHandle)
    (volumeId : String) (otherwise : DirectoryHandle) :
    Follows script
      (do
        let answers ← ExceptT.lift (ImportStage.askFolders root folders)
        match ← ExceptT.lift (ImportStage.firstFolder volumeId answers) with
        | some folder => return folder
        | none => MonadExcept.throw (ImportFailure.mediaFolderNotFound volumeId))
      [script.folderStage folders root volumeId]
      ((script.folder? root folders).getD otherwise) := by
  obtain ⟨asked, answered⟩ := run_askFolders script root folders
  obtain ⟨silent, chosen⟩ := run_firstFolder script.collaborators volumeId
    (folders.map fun name => (name, script.subdirectory root name))
  have first : (folders.map fun name =>
      (name, script.subdirectory root name)).findSome?
        (fun answer => answer.2.toOption) = script.folder? root folders := by
    rw [List.findSome?_map]
    rfl
  rw [first] at chosen
  have last (folder? : Option DirectoryHandle) : Follows script
      (match folder? with
        | some folder => Pure.pure folder
        | none => MonadExcept.throw (.mediaFolderNotFound volumeId))
      (match folder? with
        | some _ => []
        | none => [⟨[], some (.mediaFolderNotFound volumeId)⟩])
      (folder?.getD otherwise) := by
    cases folder? with
    | some folder => exact pure folder
    | none => exact throw _ _
  apply regroup (bind (lift asked answered) fun _ =>
    bind (lift silent chosen) fun _ => last _)
  · unfold ImportScript.folderStage
    cases script.folder? root folders with
    | some folder => rfl
    | none => simp [DecisionStage.asked]
  · unfold ImportScript.folderStage
    cases script.folder? root folders <;> rfl

theorem findMediaFolder (folders : List String) (volume : VolumeHandle) :
    Follows script (ImportStage.findMediaFolder folders volume)
      (script.folderStages folders volume) (script.folder folders volume) :=
  bind (consult (.displayRoot volume) (.root volume.volumeId)) fun _ =>
    chooseFolder folders (script.root volume) volume.volumeId _

theorem resolveVolume_of_missing {metadata : VolumeMetadata}
    (missing : metadata.identifier? = none) (otherwise : VolumeHandle) :
    Follows script (ImportStage.resolveVolume metadata)
      [⟨[], some .missingVolumeId⟩] otherwise := by
  unfold VolumeMetadata.identifier? at missing
  unfold ImportStage.resolveVolume
  rw [missing]
  exact throw _ _

theorem resolveVolume_of_identified {metadata : VolumeMetadata} {id : String}
    (identified : metadata.identifier? = some id) :
    Follows script (ImportStage.resolveVolume metadata)
      [⟨[.resolveVolume id], hostFailure? (script.resolveVolume id)⟩]
      (script.volume id) := by
  unfold VolumeMetadata.identifier? at identified
  unfold ImportStage.resolveVolume
  rw [identified]
  exact consult (.resolveVolume id) ⟨id, id⟩

theorem decide_of_missing {metadata : VolumeMetadata}
    (missing : metadata.identifier? = none)
    (folders : List String) :
    Follows script (ImportStage.decide folders metadata)
      (script.stages folders metadata) .companionHandles := by
  unfold ImportScript.stages
  rw [missing]
  have failed : Follows script (ImportStage.decide folders metadata)
      ([⟨[], some .missingVolumeId⟩] ++ []) .companionHandles := by
    apply bind (resolveVolume_of_missing missing ⟨"", ""⟩)
    intro passed
    exact absurd passed (Option.some_ne_none _)
  exact failed

theorem decide_of_identified {metadata : VolumeMetadata} {id : String}
    (identified : metadata.identifier? = some id)
    (folders : List String) :
    Follows script (ImportStage.decide folders metadata)
      (script.stages folders metadata)
      (decided (script.volume id) (script.folder folders (script.volume id))
        (settled script.isCompanionImporting false)) := by
  unfold ImportScript.stages
  rw [identified]
  apply bind (resolveVolume_of_identified identified)
  intro _
  apply bind (checkAllowed (script.volume id))
  intro _
  apply bind (findMediaFolder folders (script.volume id))
  intro _
  have last (companion : Bool) : Follows script
      (if companion then Pure.pure ImportDecision.companionHandles
        else Pure.pure (.openFolder (script.volume id).volumeId
          (script.folder folders (script.volume id)))) []
      (decided (script.volume id) (script.folder folders (script.volume id))
        companion) := by
    cases companion with
    | false => exact pure _
    | true => exact pure _
  apply bind (consult .isCompanionImporting false)
  intro _
  exact last (settled script.isCompanionImporting false)

end Follows

/-! ## When no stage fails -/

theorem settled_of_hostFailure? {α : Type} {answer : Except HostError α}
    (passed : hostFailure? answer = none) (otherwise : α) :
    answer = .ok (settled answer otherwise) := by
  cases answer with
  | ok found => rfl
  | error error => exact absurd passed (Option.some_ne_none _)

theorem eq_true_of_refusal? {volume : VolumeHandle}
    {answer : Except HostError Bool} (passed : refusal? volume answer = none) :
    answer = .ok true := by
  rcases answer with error | _ | _
  · exact absurd passed (Option.some_ne_none _)
  · exact absurd passed (Option.some_ne_none _)
  · rfl

namespace ImportScript

/-- The folder is the first of the named ones that is there. -/
inductive FirstFolder (script : ImportScript) (root : DirectoryHandle) :
    List String → DirectoryHandle → Prop where
  | here {name : String} {folder : DirectoryHandle} (later : List String) :
      script.subdirectory root name = .ok folder →
      FirstFolder script root (name :: later) folder
  | there {name : String} {error : HostError} {later : List String}
      {folder : DirectoryHandle} :
      script.subdirectory root name = .error error →
      FirstFolder script root later folder →
      FirstFolder script root (name :: later) folder

theorem folder?_eq_some_iff {script : ImportScript} {root : DirectoryHandle}
    {folders : List String} {folder : DirectoryHandle} :
    script.folder? root folders = some folder ↔
      script.FirstFolder root folders folder := by
  unfold folder?
  induction folders with
  | nil =>
    constructor
    · intro found
      exact absurd found (Option.some_ne_none _).symm
    · intro first
      cases first
  | cons name later ih =>
    rw [List.findSome?_cons]
    cases answered : script.subdirectory root name with
    | ok found =>
      constructor
      · intro same
        rw [← Option.some.inj same]
        exact .here later answered
      · intro first
        cases first with
        | here _ own => rw [← Except.ok.inj (answered.symm.trans own)]; rfl
        | there own _ => exact absurd (answered.symm.trans own) (by simp)
    | error error =>
      constructor
      · intro found
        exact .there answered (ih.mp found)
      · intro first
        cases first with
        | here _ own => exact absurd (answered.symm.trans own) (by simp)
        | there _ rest => exact ih.mpr rest

/-- Every stage has the answer that it needs. -/
structure Passes (script : ImportScript) (folders : List String)
    (metadata : VolumeMetadata) (volume : VolumeHandle)
    (folder : DirectoryHandle) (companion : Bool) : Prop where
  resolved : ∃ id, metadata.volumeId = some id ∧ id ≠ "" ∧
    script.resolveVolume id = .ok volume
  enabled : script.isImportEnabled = .ok true
  eligible : script.isVolumeEligible volume = .ok true
  found : ∃ root, script.displayRoot volume = .ok root ∧
    script.FirstFolder root folders folder
  companion : script.isCompanionImporting = .ok companion

variable {script : ImportScript} {folders : List String}
  {metadata : VolumeMetadata}

theorem volume_of_resolved {id : String} {volume : VolumeHandle}
    (resolved : script.resolveVolume id = .ok volume) :
    script.volume id = volume := by
  rw [ImportScript.volume, resolved, settled]

theorem root_of_shown {volume : VolumeHandle} {root : DirectoryHandle}
    (shown : script.displayRoot volume = .ok root) :
    script.root volume = root := by
  rw [ImportScript.root, shown, settled]

theorem identifier?_eq_some_iff {id : String} :
    metadata.identifier? = some id ↔ metadata.volumeId = some id ∧ id ≠ "" := by
  rw [VolumeMetadata.identifier?, Option.filter_eq_some_iff,
    decide_eq_true_iff]

theorem firstFailure?_stages_of_passes {volume : VolumeHandle}
    {folder : DirectoryHandle} {companion : Bool}
    (passes : script.Passes folders metadata volume folder companion) :
    firstFailure? (script.stages folders metadata) = none := by
  obtain ⟨id, given, named, resolved⟩ := passes.resolved
  obtain ⟨root, shown, first⟩ := passes.found
  rw [stages, identifier?_eq_some_iff.mpr ⟨given, named⟩]
  simp only [volume_of_resolved resolved, permissionStages, folderStages,
    folderStage, root_of_shown shown, firstFailure?_append, firstFailure?_cons,
    resolved, passes.enabled, passes.eligible, shown,
    folder?_eq_some_iff.mpr first, passes.companion]
  rfl

theorem passes_of_firstFailure?
    (passed : firstFailure? (script.stages folders metadata) = none) :
    ∃ volume folder companion,
      script.Passes folders metadata volume folder companion := by
  unfold stages at passed
  cases identified : metadata.identifier? with
  | none => simp [identified, firstFailure?] at passed
  | some id =>
    rw [identified] at passed
    simp only [permissionStages, folderStages, folderStage,
      firstFailure?_append, firstFailure?_cons, Option.or_eq_none_iff] at passed
    obtain ⟨⟨resolved, _⟩, ⟨enabled, eligible, _⟩, ⟨shown, found, _⟩,
      companion, _⟩ := passed
    obtain ⟨given, named⟩ := identifier?_eq_some_iff.mp identified
    have first : script.folder? (script.root (script.volume id)) folders =
        some (script.folder folders (script.volume id)) := by
      unfold folder
      split at found
      · next folder first =>
          rw [first]
          rfl
      · exact absurd found (Option.some_ne_none _)
    refine ⟨script.volume id, script.folder folders (script.volume id),
      settled script.isCompanionImporting false, ?_⟩
    constructor
    · exact ⟨id, given, named, settled_of_hostFailure? resolved _⟩
    · exact eq_true_of_refusal? enabled
    · exact eq_true_of_refusal? eligible
    · have root := settled_of_hostFailure? shown
        (.root (script.volume id).volumeId)
      exact ⟨_, root, folder?_eq_some_iff.mp first⟩
    · exact settled_of_hostFailure? companion false

end ImportScript

/-! ## The decision -/

section Decision

open ImportScript

variable (script : ImportScript) (folders : List String)
  (metadata : VolumeMetadata)

theorem exists_follows : ∃ decision,
    Follows script (ImportStage.decide folders metadata)
      (script.stages folders metadata) decision := by
  cases identified : metadata.identifier? with
  | none => exact ⟨_, Follows.decide_of_missing identified folders⟩
  | some id => exact ⟨_, Follows.decide_of_identified identified folders⟩

/-- The decision asks what the stages ask, up to the first that fails. -/
theorem queries_decideImport :
    ((decideImport folders metadata).run script.collaborators).queries =
      asked (script.stages folders metadata) := by
  obtain ⟨decision, follows⟩ := exists_follows script folders metadata
  exact follows.queries

/-- Going by a script, every decision comes to an end. -/
theorem exists_result : ∃ decision,
    ((decideImport folders metadata).run script.collaborators).result =
      some decision := by
  obtain ⟨decision, follows⟩ := exists_follows script folders metadata
  exact ⟨_, follows.result⟩

variable {script folders metadata}

theorem result_of_failure {failure : ImportFailure}
    (failed : firstFailure? (script.stages folders metadata) = some failure) :
    ((decideImport folders metadata).run script.collaborators).result =
      some (.error failure) := by
  obtain ⟨decision, follows⟩ := exists_follows script folders metadata
  have result := follows.result
  rw [failed] at result
  exact result

theorem result_of_passes {volume : VolumeHandle} {folder : DirectoryHandle}
    {companion : Bool}
    (passes : script.Passes folders metadata volume folder companion) :
    ((decideImport folders metadata).run script.collaborators).result =
      some (.ok (decided volume folder companion)) := by
  obtain ⟨id, given, named, resolved⟩ := passes.resolved
  obtain ⟨root, shown, first⟩ := passes.found
  have identified := identifier?_eq_some_iff.mpr ⟨given, named⟩
  have follows : Follows script _ _ _ :=
    Follows.decide_of_identified identified folders
  have result := follows.result
  have folderIs : script.folder folders volume = folder := by
    rw [ImportScript.folder, root_of_shown shown,
      folder?_eq_some_iff.mpr first, Option.getD_some]
  have companionIs : settled script.isCompanionImporting false = companion := by
    rw [passes.companion, settled]
  rw [firstFailure?_stages_of_passes passes, volume_of_resolved resolved,
    folderIs, companionIs] at result
  exact result

/-- A folder is opened only if every stage has its answer, and no companion takes
care of the volume. -/
theorem passes_of_result {volumeId : String} {folder : DirectoryHandle}
    (result : ((decideImport folders metadata).run script.collaborators).result =
      some (.ok (.openFolder volumeId folder))) :
    ∃ volume, volume.volumeId = volumeId ∧
      script.Passes folders metadata volume folder false := by
  cases failed : firstFailure? (script.stages folders metadata) with
  | some failure =>
    have other := result.symm.trans (result_of_failure failed)
    exact absurd other (by simp)
  | none =>
    obtain ⟨volume, found, companion, passes⟩ := passes_of_firstFailure? failed
    have same := result.symm.trans (result_of_passes passes)
    cases companion with
    | true => exact absurd same (by simp [decided])
    | false =>
      obtain ⟨rfl, rfl⟩ :=
        ImportDecision.openFolder.inj (Except.ok.inj (Option.some.inj same))
      exact ⟨volume, rfl, passes⟩

end Decision

end RemovableMedia
