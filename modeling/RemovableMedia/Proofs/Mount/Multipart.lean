import RemovableMedia.Proofs.Mount.Run

/-!
# The multipart message

While a device is not removed, it is told at most once that several of its
partitions are in trouble: when a mount brings it into `multipartError`.  From
then on nothing more is said or retracted about it.
-/

namespace RemovableMedia

namespace NotificationAction

/-- Does the action show the multipart message for the device? -/
def announcesMultipart (path : String) : NotificationAction → Bool
  | .show _ other (some message) =>
      other = path && message.cause = .multipart
  | _ => false

theorem devicePath_of_announcesMultipart {path : String}
    {action : NotificationAction}
    (announces : action.announcesMultipart path = true) :
    action.devicePath = path := by
  unfold announcesMultipart at announces
  split at announces
  · simp only [Bool.and_eq_true, decide_eq_true_eq] at announces
    exact announces.1
  · simp at announces

end NotificationAction

namespace MountCompleted

open NotificationAction

theorem not_announcesMultipart_showFailure (event : MountCompleted)
    (path : String) :
    (event.showFailure path).announcesMultipart path = false := by
  unfold showFailure
  split <;> simp [announcesMultipart]

theorem countP_retraction (event : MountCompleted) (path : String)
    (current : MountStatus) :
    (event.retraction path current).countP (announcesMultipart path) = 0 := by
  unfold retraction
  split
  · split <;> simp [announcesMultipart]
  · rfl

theorem countP_announcement (event : MountCompleted) (path : String)
    (next : MountStatus) :
    (event.announcement path next).countP (announcesMultipart path) =
      if next = .multipartError then 1 else 0 := by
  cases next <;>
    simp [announcement, not_announcesMultipart_showFailure]
  simp [announcesMultipart]

theorem countP_actions (event : MountCompleted) (path : String)
    (current : MountStatus) :
    (event.actions path current).countP (announcesMultipart path) =
      if current ≠ .multipartError ∧
        event.nextStatus current = .multipartError ∧
        event.operation = .mount then 1 else 0 := by
  by_cases absorbed : current = .multipartError
  · subst current
    simp [actions]
  · cases operation : event.operation with
    | unmount => simp [actions, operation, countP_retraction]
    | mount =>
        simp [actions, operation, absorbed, countP_retraction,
          countP_announcement]

end MountCompleted

/-- Does the step take in the result of a mount? -/
def TrackerStep.isMount : TrackerStep → Bool
  | apply event => event.operation = .mount
  | remove _ => false

namespace MountTracker

open NotificationAction

/-- A step announces the multipart message once if it brings the device into
`multipartError` by a mount, and otherwise not at all. -/
theorem countP_emittedBy (tracker : MountTracker) (step : TrackerStep)
    (path : String) :
    (tracker.emittedBy step).countP (announcesMultipart path) =
      if tracker.status path ≠ .multipartError ∧
        (tracker.step step).status path = .multipartError ∧
        step.isMount = true then 1 else 0 := by
  cases result : step.resultFor? path with
  | some event =>
      have applied : step = .apply event := by
        cases step with
        | remove other => simp [TrackerStep.resultFor?] at result
        | apply own =>
            simp only [TrackerStep.resultFor?, Option.ite_none_right_eq_some,
              Option.some.injEq] at result
            rw [result.2]
      rw [emittedBy_of_result tracker result,
        status_step_of_result tracker result, event.countP_actions]
      simp [applied, TrackerStep.isMount]
  | none =>
      have silent : (tracker.emittedBy step).countP
          (announcesMultipart path) = 0 := by
        rw [List.countP_eq_zero]
        intro action member announces
        exact devicePath_ne_of_mem_emittedBy tracker result member
          (devicePath_of_announcesMultipart announces)
      rw [silent, if_neg]
      rintro ⟨before, after, mount⟩
      by_cases removed : step = .remove path
      · subst step
        simp [TrackerStep.isMount] at mount
      · rw [status_step_of_none tracker removed result] at after
        exact before after

/-- In `multipartError`, a step other than the removal of the device does
nothing to it. -/
theorem step_of_multipartError {tracker : MountTracker} {path : String}
    (absorbed : tracker.status path = .multipartError) {step : TrackerStep}
    (kept : step ≠ .remove path) :
    (∀ action ∈ tracker.emittedBy step, action.devicePath ≠ path) ∧
      (tracker.step step).status path = .multipartError := by
  cases result : step.resultFor? path with
  | some event =>
      rw [emittedBy_of_result tracker result,
        status_step_of_result tracker result, absorbed]
      exact ⟨by simp [MountCompleted.actions], rfl⟩
  | none =>
      refine ⟨fun action member =>
        devicePath_ne_of_mem_emittedBy tracker result member, ?_⟩
      rw [status_step_of_none tracker kept result, absorbed]

theorem run_of_multipartError {tracker : MountTracker} {path : String}
    (absorbed : tracker.status path = .multipartError)
    {life : List TrackerStep} (kept : .remove path ∉ life) :
    (∀ action ∈ tracker.emitted life, action.devicePath ≠ path) ∧
      (tracker.run life).status path = .multipartError := by
  induction life generalizing tracker with
  | nil => exact ⟨by simp [emitted], absorbed⟩
  | cons step life induction =>
      simp only [List.mem_cons, not_or] at kept
      obtain ⟨silent, stays⟩ :=
        step_of_multipartError absorbed (Ne.symm kept.1)
      obtain ⟨laterSilent, laterStays⟩ := induction stays kept.2
      refine ⟨?_, laterStays⟩
      intro action member
      rcases List.mem_append.mp member with first | later
      · exact silent action first
      · exact laterSilent action later

theorem countP_emitted_le_one (tracker : MountTracker) (path : String)
    {life : List TrackerStep} (kept : .remove path ∉ life) :
    (tracker.emitted life).countP (announcesMultipart path) ≤ 1 := by
  induction life generalizing tracker with
  | nil => simp [emitted]
  | cons step life induction =>
      simp only [List.mem_cons, not_or] at kept
      rw [emitted, List.countP_append, countP_emittedBy]
      split
      · next entered =>
          have silent := (run_of_multipartError entered.2.1 kept.2).1
          have nothing : ((tracker.step step).emitted life).countP
              (announcesMultipart path) = 0 := by
            rw [List.countP_eq_zero]
            intro action member announces
            exact silent action member
              (devicePath_of_announcesMultipart announces)
          simp [nothing]
      · simpa using induction (tracker.step step) kept.2

/-- Whatever a tracker went through before: up to the next removal of a device
the multipart message is shown at most once for it; a step shows it exactly if
it brings the device into `multipartError` and is a mount; and in
`multipartError` the device stays, without any further action, until it is
removed. -/
theorem multipart_announced_once_until_removed (tracker : MountTracker)
    (path : String) :
    (∀ life : List TrackerStep, .remove path ∉ life →
      (tracker.emitted life).countP (announcesMultipart path) ≤ 1) ∧
    (∀ step : TrackerStep,
      (∃ action ∈ tracker.emittedBy step, action.announcesMultipart path) ↔
        tracker.status path ≠ .multipartError ∧
          (tracker.step step).status path = .multipartError ∧
          step.isMount) ∧
    (tracker.status path = .multipartError →
      ∀ life : List TrackerStep, .remove path ∉ life →
        (∀ action ∈ tracker.emitted life, action.devicePath ≠ path) ∧
          (tracker.run life).status path = .multipartError) := by
  refine ⟨fun life kept => countP_emitted_le_one tracker path kept, ?_,
    fun absorbed life kept => run_of_multipartError absorbed kept⟩
  intro step
  rw [← List.countP_pos_iff, countP_emittedBy]
  split <;> simp [*]

/-- Two partitions of a card fail, one after the other. -/
def failingPartitions : List TrackerStep :=
  [.apply (.ofCard .unsupportedFilesystem false),
    .apply (.ofCard (.failure "error_unknown") false)]

theorem multipart_announced_once_for_failingPartitions :
    (emitted {} failingPartitions).countP
        (announcesMultipart "/dev/sdb") ≤ 1 ∧
      ∀ action ∈ (run {} failingPartitions).emitted failingPartitions,
        action.devicePath ≠ "/dev/sdb" := by
  have kept : .remove "/dev/sdb" ∉ failingPartitions := by decide
  have absorbed :
      (run {} failingPartitions).status "/dev/sdb" = .multipartError := by
    decide
  have first := multipart_announced_once_until_removed {} "/dev/sdb"
  have later := multipart_announced_once_until_removed
    (run {} failingPartitions) "/dev/sdb"
  exact ⟨first.1 failingPartitions kept,
    (later.2.2 absorbed failingPartitions kept).1⟩

end MountTracker

end RemovableMedia
