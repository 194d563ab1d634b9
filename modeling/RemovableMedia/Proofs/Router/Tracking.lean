import RemovableMedia.Proofs.Mount.Run
import RemovableMedia.Router.Schedule

/-!
# What the tracker of a router gets to know

Only two things reach the tracker: the result of a mount, and the removal of a
device.  Neither the other events nor the background work change it.
-/

namespace RemovableMedia

namespace HostEvent

/-- What the event means for the tracker. -/
def trackerSteps : HostEvent → List TrackerStep
  | .deviceChanged event =>
      if event.change = .removed then [.remove event.devicePath] else []
  | .mountCompleted event => [.apply event]
  | .buttonClicked _ => []

end HostEvent

namespace Router

variable {σ : Type}

theorem tracker_send (router : Router σ) (request : NavigationRequest) :
    (router.send request).tracker = router.tracker := by
  unfold send
  split <;> rfl

theorem tracker_foldl_execute (setting : Setting)
    (actions : List NotificationAction) (router : Router σ) :
    (actions.foldl (execute setting) router).tracker = router.tracker := by
  induction actions generalizing router with
  | nil => rfl
  | cons action actions induction =>
      rw [List.foldl_cons, induction]
      rcases action with ⟨kind, path, message⟩ | ⟨kind, path⟩
      · rfl
      · rfl

theorem tracker_track (setting : Setting) (router : Router σ)
    (event : MountCompleted) :
    (router.track setting event).tracker =
      router.tracker.step (.apply event) := by
  unfold track MountTracker.step
  cases relevant : event.relevantPath? with
  | none => simp [MountTracker.apply, relevant]
  | some path =>
      simp only [MountTracker.apply, relevant, tracker_foldl_execute]
      split <;> rfl

theorem tracker_forget (router : Router σ) (path : String) :
    (router.forget path).tracker = router.tracker.step (.remove path) := by
  unfold forget
  simp only
  split <;> rfl

theorem tracker_dispatch (setting : Setting) (router : Router σ)
    (event : HostEvent) :
    (router.dispatch setting event).tracker =
      router.tracker.run event.trackerSteps := by
  rcases event with ⟨change, path⟩ | event | ⟨id⟩
  · simp only [dispatch, deviceChanged, HostEvent.trackerSteps]
    cases change with
    | removed => exact tracker_forget _ path
    | disabled => rfl
    | hardUnplugged => rfl
    | formatStart => rfl
    | formatSuccess => rfl
    | formatFail => rfl
    | unknown code => rfl
  · simp only [dispatch, mountCompleted, HostEvent.trackerSteps,
      tracker_track, MountTracker.run_cons, MountTracker.run_nil]
    split
    · rfl
    · split <;> rfl
  · simp only [dispatch, buttonClicked, HostEvent.trackerSteps,
      MountTracker.run_nil]
    split
    · rfl
    · split
      · rfl
      · exact tracker_send _ _

theorem tracker_conclude (router : Router σ) (metadata : VolumeMetadata)
    (decision : Except ImportFailure ImportDecision) :
    (router.conclude metadata decision).tracker = router.tracker := by
  rcases decision with failure | ⟨volumeId, folder⟩ | _
  · simp only [conclude]
    split <;> rfl
  · exact tracker_send _ _
  · rfl

theorem tracker_taskTurn (setting : Setting) (router : Router σ)
    (task : ImportTask) :
    (router.taskTurn setting task).1.tracker = router.tracker := by
  rcases task with ⟨metadata, decision | ⟨entry, next⟩ | ⟨query, next⟩⟩ | _ | _
  · exact tracker_conclude router metadata decision
  · rfl
  · simp only [taskTurn]
    split <;> rfl
  · rfl
  · rfl

theorem tracker_foldl_record (entries : List LogEntry) (router : Router σ) :
    (entries.foldl record router).tracker = router.tracker := by
  rw [foldl_record]

theorem tracker_finishTask (setting : Setting) (router : Router σ)
    (task : ImportTask) :
    (router.finishTask setting task).tracker = router.tracker := by
  rcases task with ⟨metadata, inquiry⟩ | _ | _
  · simp only [finishTask]
    split
    · rw [tracker_conclude, tracker_foldl_record]
    · exact tracker_foldl_record _ _
  · rfl
  · rfl

theorem tracker_drain (setting : Setting) (router : Router σ) :
    (router.drain setting).tracker = router.tracker := by
  have finished : ∀ (tasks : List ImportTask) (router : Router σ),
      (tasks.foldl (finishTask setting) router).tracker = router.tracker := by
    intro tasks
    induction tasks with
    | nil => exact fun router => rfl
    | cons task tasks induction =>
        intro router
        rw [List.foldl_cons, induction, tracker_finishTask]
  exact finished router.tasks { router with tasks := [] }

end Router

end RemovableMedia
