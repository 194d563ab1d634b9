import Mathlib.Data.List.Induction
import RemovableMedia.Config.Settings
import RemovableMedia.Notification.Content
import RemovableMedia.Proofs.Mount.Verdict

/-!
# The standing of a device

A device has a status and possibly a failure notification, and both move with
its mount results.  As long as all of them are mounts, a failed device shows
the failure that gave it its status.
-/

namespace RemovableMedia

namespace FailureCause

/-- The kind of notification that tells of such a failure. -/
def kind : FailureCause → NotificationKind
  | unsupported => .deviceFail
  | unknown => .deviceFailUnknown
  | multipart => .deviceFail

end FailureCause

namespace HandlerConfig

/-- What is shown of a failure: the template of its kind, with the message
put in. -/
def failureContent (config : HandlerConfig) (message : FailureMessage) :
    NotificationContent :=
  let template := config.messages.template message.cause.kind
  { title := template.title
    message := config.messages.render message
    icon := config.icon
    buttonLabel := template.buttonLabel }

end HandlerConfig

namespace MountStatus

def isFailure : MountStatus → Bool
  | onlyParentError => true
  | childError => true
  | multipartError => true
  | noResult => false
  | success => false

end MountStatus

namespace MountCompleted

open ResultKind

/-- What the event has to say of the failed status that it brings about. -/
def failureMessage (event : MountCompleted) (status : MountStatus) :
    FailureMessage where
  cause :=
    if status = .multipartError then .multipart
    else if event.outcome = .unsupportedFilesystem then .unsupported
    else .unknown
  label := event.volume.label?

/-- Whatever the failed status, what is shown is that message, as a
notification of its kind. -/
theorem announcement_of_isFailure (event : MountCompleted) (path : String)
    {status : MountStatus} (failed : status.isFailure = true) :
    event.announcement path status =
      [.show (event.failureMessage status).cause.kind path
        (some (event.failureMessage status))] := by
  have single : ∀ other, other ≠ MountStatus.multipartError →
      event.showFailure path =
        .show (event.failureMessage other).cause.kind path
          (some (event.failureMessage other)) := by
    intro other notMultipart
    unfold showFailure failureMessage
    rw [if_neg notMultipart]
    cases event.outcome with
    | success => rfl
    | unsupportedFilesystem => rfl
    | failure code => rfl
  cases status with
  | onlyParentError =>
      have shows := single .onlyParentError (by simp)
      exact congrArg (fun action => [action]) shows
  | childError =>
      have shows := single .childError (by simp)
      exact congrArg (fun action => [action]) shows
  | multipartError => rfl
  | noResult => simp [MountStatus.isFailure] at failed
  | success => simp [MountStatus.isFailure] at failed

/-- The event is the one among the results that gave a failed device its
status: the latest failure of the device itself, or the failure of a partition,
or the result that brought the device into `multipartError`. -/
def Settles (event : MountCompleted) (results : List MountCompleted) : Prop :=
  match verdict (results.map kind) with
  | .onlyParentError =>
      (results.filter (·.kind = .parentFailure)).getLast? = some event
  | .childError => results.filter (·.kind = .childFailure) = [event]
  | .multipartError =>
      ∃ earlier later, results = earlier ++ event :: later ∧
        verdict (earlier.map kind) ≠ .multipartError ∧
        verdict ((earlier ++ [event]).map kind) = .multipartError
  | _ => False

variable {results : List MountCompleted}

/-- As long as the device is not in `multipartError`, the last result gives it
its status. -/
theorem settles_concat
    (notYet : verdict (results.map kind) ≠ .multipartError)
    {event : MountCompleted}
    (failed : (verdict ((results ++ [event]).map kind)).isFailure = true) :
    event.Settles (results ++ [event]) := by
  have next : verdict ((results ++ [event]).map kind) =
      event.nextStatus (verdict (results.map kind)) := by
    rw [List.map_append]
    exact event.verdict_concat _
  unfold Settles
  split
  · next single =>
      rw [next] at single
      have own := (nextStatus_eq_single (.inl single)).2
      rw [single] at own
      have fails : event.kind = .parentFailure := status_injective own.symm
      simp [fails]
  · next single =>
      rw [next] at single
      obtain ⟨early, own⟩ := nextStatus_eq_single (.inr single)
      rw [single] at own
      have fails : event.kind = .childFailure := status_injective own.symm
      have parents := parents_iff_verdict.mpr early
      have none : results.filter (·.kind = .childFailure) = [] := by
        rw [List.filter_eq_nil_iff]
        intro result member
        simp [parents result member]
      simp [fails, none]
  · next entered => exact ⟨results, [], rfl, notYet, entered⟩
  · next noParent noChild noMultipart =>
      cases status : verdict ((results ++ [event]).map kind) with
      | onlyParentError => exact absurd status noParent
      | childError => exact absurd status noChild
      | multipartError => exact absurd status noMultipart
      | noResult =>
          rw [status] at failed
          exact absurd failed (by decide)
      | success =>
          rw [status] at failed
          exact absurd failed (by decide)

/-- In `multipartError`, no result counts any more. -/
theorem settles_concat_of_multipartError
    (absorbed : verdict (results.map kind) = .multipartError)
    {event : MountCompleted} (settles : event.Settles results)
    (last : MountCompleted) : event.Settles (results ++ [last]) := by
  have stays : verdict ((results ++ [last]).map kind) = .multipartError := by
    rw [List.map_append]
    change verdict (results.map kind ++ [last.kind]) = _
    rw [last.verdict_concat, absorbed]
    rfl
  unfold Settles at settles ⊢
  rw [absorbed] at settles
  rw [stays]
  obtain ⟨earlier, later, split, notYet, entered⟩ := settles
  exact ⟨earlier, later ++ [last], by simp [split], notYet, entered⟩

end MountCompleted

/-- The status of a device, and what its failure notification shows. -/
structure Standing where
  status : MountStatus
  failure : Option NotificationContent

namespace Standing

/-- The standing of a device without results. -/
def initial : Standing := ⟨.noResult, none⟩

/-- The standing after one more result. -/
def after (config : HandlerConfig) (standing : Standing)
    (event : MountCompleted) : Standing where
  status := event.nextStatus standing.status
  failure :=
    if standing.status = .multipartError then standing.failure
    else if event.operation = .mount ∧
        (event.nextStatus standing.status).isFailure then
      some (config.failureContent
        (event.failureMessage (event.nextStatus standing.status)))
    else if standing.status = .onlyParentError ∧
        event.volume.isParentDevice = false then
      none
    else standing.failure

def afterAll (config : HandlerConfig) (standing : Standing)
    (results : List MountCompleted) : Standing :=
  results.foldl (after config) standing

variable (config : HandlerConfig)

theorem afterAll_concat (standing : Standing) (results : List MountCompleted)
    (event : MountCompleted) :
    afterAll config standing (results ++ [event]) =
      (afterAll config standing results).after config event := by
  simp [afterAll]

theorem status_afterAll {standing : Standing}
    (fresh : standing.status = .noResult) (results : List MountCompleted) :
    (afterAll config standing results).status =
      ResultKind.verdict (results.map MountCompleted.kind) := by
  induction results using List.reverseRecOn with
  | nil => exact fresh
  | append_singleton results event induction =>
      rw [afterAll_concat, List.map_append]
      change event.nextStatus _ = _
      rw [induction]
      exact (event.verdict_concat _).symm

/-- After mounts only, a failed device shows the failure that gave it its
status. -/
theorem failure_afterAll_of_mounts {standing : Standing}
    (fresh : standing.status = .noResult) {results : List MountCompleted}
    (mounts : ∀ event ∈ results, event.operation = .mount)
    (failed : (afterAll config standing results).status.isFailure = true) :
    ∃ event : MountCompleted, event.Settles results ∧
      (afterAll config standing results).failure =
        some (config.failureContent (event.failureMessage
          (afterAll config standing results).status)) := by
  induction results using List.reverseRecOn with
  | nil =>
      change standing.status.isFailure = true at failed
      rw [fresh] at failed
      exact absurd failed (by decide)
  | append_singleton results last induction =>
      have status := status_afterAll config fresh results
      have lastMount : last.operation = .mount := mounts last (by simp)
      rw [afterAll_concat] at failed ⊢
      -- In `multipartError` the earlier event keeps its say; otherwise the last
      -- result sets the status and, as a mount, is shown.
      by_cases absorbed :
          (afterAll config standing results).status = .multipartError
      · have stays : (afterAll config standing results).after config last =
            afterAll config standing results := by
          simp only [after, absorbed, MountCompleted.nextStatus, if_true]
          rw [← absorbed]
        rw [stays] at failed ⊢
        obtain ⟨event, settles, shows⟩ := induction
          (fun event member => mounts event (by simp [member])) failed
        rw [status] at absorbed
        exact ⟨event,
          MountCompleted.settles_concat_of_multipartError absorbed settles last,
          shows⟩
      · have nextStatus := status_afterAll config fresh (results ++ [last])
        rw [afterAll_concat] at nextStatus
        refine ⟨last, ?_, ?_⟩
        · apply MountCompleted.settles_concat
          · rw [← status]
            exact absorbed
          · rw [← nextStatus]
            exact failed
        · change (if _ then _ else if _ then _ else _) = _
          rw [if_neg absorbed, if_pos ⟨lastMount, failed⟩]
          rfl

end Standing

end RemovableMedia
