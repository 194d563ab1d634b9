import RemovableMedia.Proofs.Import.Reports
import RemovableMedia.Proofs.Router.Navigations

/-!
# What the log says of imports that crashed

The log says that an import crashed when its end is noted, or when it is run to
its end.  Nothing else that happens to a router adds such an entry: not events,
not the turns of workers, and not the turns of imports either.
-/

namespace RemovableMedia

/-! ## Workers -/

variable {σ : Type}

namespace Desk

/-- How often the log says that an import crashed. -/
def reported (desk : Desk σ) : Nat :=
  desk.log.countP (· = .importTaskFailed)

theorem reported_record (desk : Desk σ) {entry : LogEntry}
    (other : entry ≠ .importTaskFailed) :
    (desk.record entry).reported = desk.reported := by
  simp [reported, record, List.countP_append, other]

theorem reported_record_importTaskFailed (desk : Desk σ) :
    (desk.record .importTaskFailed).reported = desk.reported + 1 := by
  simp [reported, record, List.countP_append]

theorem reported_foldl_record (desk : Desk σ) {entries : List LogEntry}
    (others : ∀ entry ∈ entries, entry ≠ .importTaskFailed) :
    (entries.foldl record desk).reported = desk.reported := by
  rw [foldl_record, reported, List.countP_append]
  have none : entries.countP (· = .importTaskFailed) = 0 :=
    List.countP_eq_zero.mpr (by simpa using others)
  rw [none]
  rfl

end Desk

section Workers

variable [NotificationHost σ]

theorem Order.reported_resume (order : Order) (desk : Desk σ) :
    (order.resume desk).2.reported = desk.reported := by
  unfold resume
  cases order with
  | create id content =>
      simp only
      split
      · rfl
      · exact Desk.reported_record _ (by simp)
      · rfl
  | createOnce id content =>
      simp only
      split
      · split
        · exact Desk.reported_record _ (by simp)
        · rfl
      · exact Desk.reported_record _ (by simp)
      · rfl
  | clear id =>
      simp only
      split
      · exact Desk.reported_record _ (by simp)
      · rfl
      · exact Desk.reported_record _ (by simp)
      · rfl

namespace Center

theorem eq_jobPanicked_of_reportLog? {family : Family} {report : Report}
    {entry : LogEntry} (logged : reportLog? family report = some entry) :
    entry = .jobPanicked family.heading := by
  cases report <;> simp_all [reportLog?, Report.log?]

theorem reported_turn (center : Center) (family : Family) (desk : Desk σ) :
    (center.turn family desk).2.reported = desk.reported := by
  have worked : ((center.queues.get family).turn desk).2.2.reported =
      desk.reported :=
    Queue.turn_keeps Order.reported_resume _ desk
  simp only [turn]
  cases logged : reportLog? family
      ((center.queues.get family).turn desk).1 with
  | none => exact worked
  | some entry =>
      obtain rfl := eq_jobPanicked_of_reportLog? logged
      exact (Desk.reported_record _ (by simp)).trans worked

theorem reported_flushFamily (center : Center) (desk : Desk σ)
    (family : Family) :
    (center.flushFamily desk family).2.reported = desk.reported := by
  have worked : ((center.queues.get family).flush desk).2.2.reported =
      desk.reported :=
    Queue.finishAll_keeps Order.reported_resume _ desk
  refine (Desk.reported_foldl_record _ ?_).trans worked
  intro entry member
  obtain ⟨report, _, logged⟩ := List.mem_filterMap.mp member
  simp [eq_jobPanicked_of_reportLog? logged]

theorem reported_flushFamilies (families : List Family) (center : Center)
    (desk : Desk σ) :
    (center.flushFamilies desk families).2.reported = desk.reported := by
  induction families generalizing center desk with
  | nil => rfl
  | cons family families induction =>
      exact (induction _ _).trans (center.reported_flushFamily desk family)

theorem reported_flush (center : Center) (desk : Desk σ) :
    (center.flush desk).2.reported = desk.reported :=
  reported_flushFamilies Family.all center desk

end Center

end Workers

namespace Router

/-- How often the log says that an import crashed. -/
def reported (router : Router σ) : Nat := router.desk.reported

theorem reported_record (router : Router σ) {entry : LogEntry}
    (other : entry ≠ .importTaskFailed) :
    (router.record entry).reported = router.reported :=
  router.desk.reported_record other

theorem reported_foldl_record (router : Router σ) {entries : List LogEntry}
    (others : ∀ entry ∈ entries, entry ≠ .importTaskFailed) :
    (entries.foldl record router).reported = router.reported := by
  rw [foldl_record]
  exact router.desk.reported_foldl_record others

/-! ## Events -/

theorem reported_requestShow (router : Router σ) (kind : NotificationKind)
    (path : String) (message : Option String) :
    (router.requestShow kind path message).reported = router.reported :=
  router.desk.reported_record (by simp)

theorem reported_requestHide (router : Router σ) (kind : NotificationKind)
    (path : String) :
    (router.requestHide kind path).reported = router.reported :=
  router.desk.reported_record (by simp)

theorem reported_send (router : Router σ) (request : NavigationRequest) :
    (router.send request).reported = router.reported := by
  unfold send
  split
  · rfl
  · exact router.reported_record (by simp)

theorem reported_forget (router : Router σ) (path : String) :
    (router.forget path).reported = router.reported := by
  unfold forget
  simp only
  split
  · exact reported_record _ (by simp)
  · rfl

theorem reported_deviceChanged (router : Router σ) (event : DeviceChanged) :
    (router.deviceChanged event).reported = router.reported := by
  unfold deviceChanged
  cases event.change <;>
    simp [reported_requestShow, reported_requestHide, reported_forget,
      reported_record]

theorem reported_foldl_execute (setting : Setting)
    (actions : List NotificationAction) (router : Router σ) :
    (actions.foldl (execute setting) router).reported = router.reported := by
  induction actions generalizing router with
  | nil => rfl
  | cons action actions induction =>
      have first : (router.execute setting action).reported =
          router.reported := by
        cases action with
        | «show» kind path message =>
            exact router.reported_requestShow kind path _
        | hide kind path => exact router.reported_requestHide kind path
      exact (induction (router.execute setting action)).trans first

theorem reported_track (setting : Setting) (router : Router σ)
    (event : MountCompleted) :
    (router.track setting event).reported = router.reported := by
  unfold track
  simp only
  split
  · rw [reported_foldl_execute]
    split
    · rfl
    · exact reported_record _ (by simp)
  · rfl

theorem reported_buttonClicked (setting : Setting) (router : Router σ)
    (notificationId : String) :
    (router.buttonClicked setting notificationId).reported =
      router.reported := by
  unfold buttonClicked
  split
  · exact router.reported_record (by simp)
  · split
    · exact router.reported_record (by simp)
    · simp [reported_send, reported_record, reported_requestHide]

theorem reported_dispatch (setting : Setting) (router : Router σ)
    (event : HostEvent) :
    (router.dispatch setting event).reported = router.reported := by
  rcases event with change | result | click
  · exact router.reported_deviceChanged change
  · rw [dispatch, mountCompleted, reported_track]
    split
    · rfl
    · split
      · exact router.reported_requestHide _ _
      · rfl
  · exact router.reported_buttonClicked setting click.notificationId

end Router

/-! ## Imports -/

namespace ImportTask

def isCrashed : ImportTask → Bool
  | crashed => true
  | _ => false

/-- The import reports nothing but missing folders. -/
def Discreet : ImportTask → Prop
  | running _ inquiry => inquiry.ReportsOnly LogEntry.IsFolderMissing
  | _ => True

theorem discreet_start (folders : List String) (metadata : VolumeMetadata) :
    (start folders metadata).Discreet :=
  reportsOnly_decideImport folders metadata

theorem Discreet.afterTurn {task : ImportTask} (discreet : task.Discreet)
    (collaborators : Collaborators) :
    (task.afterTurn collaborators).Discreet := by
  rcases task with ⟨metadata, decision | ⟨entry, next⟩ | ⟨query, next⟩⟩ | _ | _
  · exact trivial
  · exact discreet.2
  · unfold ImportTask.afterTurn
    cases answered : collaborators query with
    | done answer =>
        simp only [answered]
        exact discreet (.ok answer)
    | failed error =>
        simp only [answered]
        exact discreet (.error error)
    | panicked =>
        simp only [answered]
        exact trivial
  · exact trivial
  · exact trivial

end ImportTask

theorem LogEntry.IsFolderMissing.ne_importTaskFailed {entry : LogEntry}
    (missing : entry.IsFolderMissing) : entry ≠ .importTaskFailed := by
  rintro rfl
  exact missing

namespace Yield

/-- The imports that crash. -/
def crashes : Yield VolumeMetadata where
  ofEvent _ _ := []
  ofEnd metadata
    | none => [metadata]
    | some _ => []

/-- A turn in which an import crashes leaves it crashed. -/
theorem crashes_ofTurn (collaborators : Collaborators) (task : ImportTask) :
    (crashes.ofTurn collaborators task).length + task.isCrashed.toNat =
      (task.afterTurn collaborators).isCrashed.toNat := by
  rcases task with ⟨metadata, decision | ⟨entry, next⟩ | ⟨query, next⟩⟩ | _ | _
  · rfl
  · rfl
  · unfold ofTurn ImportTask.afterTurn
    cases answered : collaborators query <;>
      simp [answered, crashes, ImportTask.isCrashed]
  · rfl
  · rfl

end Yield

namespace Router

open Yield

theorem reported_conclude (router : Router σ) (metadata : VolumeMetadata)
    (decision : Except ImportFailure ImportDecision) :
    (router.conclude metadata decision).reported = router.reported := by
  rcases decision with failure | ⟨volumeId, folder⟩ | _
  · unfold conclude
    cases metadata.notifiableDevicePath? <;>
      simp [reported_requestShow, reported_record]
  · simp [conclude, reported_send, reported_record]
  · exact router.reported_record (by simp)

theorem reported_taskTurn (setting : Setting) (router : Router σ)
    {task : ImportTask} (discreet : task.Discreet) :
    (router.taskTurn setting task).1.reported = router.reported := by
  rcases task with ⟨metadata, decision | ⟨entry, next⟩ | ⟨query, next⟩⟩ | _ | _
  · exact router.reported_conclude metadata decision
  · exact router.reported_record discreet.1.ne_importTaskFailed
  · unfold taskTurn
    cases answered : setting.collaborators query <;> simp [answered, reported]
  · rfl
  · rfl

/-- An import that is run to its end is reported if it crashes, or has crashed
before. -/
theorem reported_finishTask (setting : Setting) (router : Router σ)
    {task : ImportTask} (discreet : task.Discreet) :
    (router.finishTask setting task).reported =
      router.reported + (crashes.ofTask setting.collaborators task).length +
        task.isCrashed.toNat := by
  rcases task with ⟨metadata, inquiry⟩ | _ | _
  · let findings := inquiry.run setting.collaborators
    have others : ∀ entry ∈ findings.log, entry ≠ .importTaskFailed :=
      fun entry member =>
        (Inquiry.ReportsOnly.of_mem_log discreet _ entry
          member).ne_importTaskFailed
    have noted := reported_foldl_record
      { router with queries := router.queries ++ findings.queries } others
    unfold finishTask
    simp only [ofTask]
    cases (inquiry.run setting.collaborators).result with
    | none =>
        refine (Desk.reported_record_importTaskFailed _).trans ?_
        exact congrArg (· + 1) noted
    | some decision => exact (reported_conclude _ _ _).trans noted
  · rfl
  · exact router.desk.reported_record_importTaskFailed

end Router

end RemovableMedia
