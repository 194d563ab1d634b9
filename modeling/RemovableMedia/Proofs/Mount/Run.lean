import RemovableMedia.Mount.Tracker

/-!
# Runs of the tracker

A tracker takes in mount results and removals of devices in any order.  A run
is a list of such steps; it leaves a tracker behind, and the actions that the
results gave rise to on the way.
-/

namespace RemovableMedia

namespace NotificationAction

def devicePath : NotificationAction → String
  | .show _ path _ => path
  | .hide _ path => path

end NotificationAction

inductive TrackerStep where
  | apply (event : MountCompleted)
  | remove (path : String)
  deriving DecidableEq, Repr

namespace TrackerStep

/-- The event of the step, if its result bears on the device. -/
def resultFor? (path : String) : TrackerStep → Option MountCompleted
  | apply event => if event.relevantPath? = some path then some event else none
  | remove _ => none

end TrackerStep

namespace MountCompleted

/-- The result of mounting a card, as a whole or one of its partitions. -/
def ofCard (outcome : MountOutcome) (isParentDevice : Bool) :
    MountCompleted where
  operation := .mount
  outcome := outcome
  shouldNotify := true
  volume := {
    devicePath := some "/dev/sdb"
    deviceType := some "usb"
    deviceLabel := some "CARD"
    isParentDevice := isParentDevice }

theorem devicePath_showFailure (event : MountCompleted) (path : String) :
    (event.showFailure path).devicePath = path := by
  unfold showFailure
  split <;> rfl

/-- An event gives rise to actions for its own device only. -/
theorem devicePath_of_mem_actions (event : MountCompleted) {path : String}
    {current : MountStatus} {action : NotificationAction}
    (member : action ∈ event.actions path current) :
    action.devicePath = path := by
  have retracted : ∀ action ∈ event.retraction path current,
      action.devicePath = path := by
    unfold retraction
    split
    · split <;> simp [NotificationAction.devicePath]
    · simp
  have announced : ∀ next, ∀ action ∈ event.announcement path next,
      action.devicePath = path := by
    intro next
    cases next <;> simp [announcement, devicePath_showFailure]
    rfl
  unfold actions at member
  split at member
  · simp at member
  · exact retracted action member
  · rcases List.mem_append.mp member with early | late
    · exact retracted action early
    · exact announced _ action late

end MountCompleted

namespace MountTracker

def step (tracker : MountTracker) : TrackerStep → MountTracker
  | .apply event => (tracker.apply event).2
  | .remove path => (tracker.remove path).2

def run (tracker : MountTracker) (steps : List TrackerStep) : MountTracker :=
  steps.foldl step tracker

def emittedBy (tracker : MountTracker) :
    TrackerStep → List NotificationAction
  | .apply event => ((tracker.apply event).1.map MountUpdate.actions).getD []
  | .remove _ => []

/-- The actions that go with a run, in order. -/
def emitted (tracker : MountTracker) :
    List TrackerStep → List NotificationAction
  | [] => []
  | step :: steps =>
      tracker.emittedBy step ++ (tracker.step step).emitted steps

@[simp] theorem run_nil (tracker : MountTracker) : tracker.run [] = tracker :=
  rfl

@[simp] theorem run_cons (tracker : MountTracker) (step : TrackerStep)
    (steps : List TrackerStep) :
    tracker.run (step :: steps) = (tracker.step step).run steps := rfl

theorem run_concat (tracker : MountTracker) (steps : List TrackerStep)
    (step : TrackerStep) :
    tracker.run (steps ++ [step]) = (tracker.run steps).step step := by
  simp [run]

/-! ## One device -/

theorem find?_apply (tracker : MountTracker) (event : MountCompleted)
    (path : String) :
    (tracker.apply event).2.statuses.find? path =
      if event.relevantPath? = some path then
        some (event.nextStatus (tracker.status path))
      else tracker.statuses.find? path := by
  unfold apply
  cases relevant : event.relevantPath? with
  | none => simp
  | some own =>
      by_cases same : own = path
      · subst own
        simp
      · simp [same, Registry.find?_insert_of_ne _ _ (Ne.symm same)]

theorem find?_step (tracker : MountTracker) (step : TrackerStep)
    (path : String) :
    (tracker.step step).statuses.find? path =
      if step = .remove path then none
      else match step.resultFor? path with
        | some event => some (event.nextStatus (tracker.status path))
        | none => tracker.statuses.find? path := by
  cases step with
  | apply event =>
      simp only [MountTracker.step, find?_apply, TrackerStep.resultFor?]
      split <;> simp
  | remove other =>
      by_cases same : other = path
      · subst other
        simp [MountTracker.step, remove]
      · simp [MountTracker.step, remove, TrackerStep.resultFor?, same,
          Registry.find?_erase_of_ne _ (Ne.symm same)]

theorem status_step_of_result (tracker : MountTracker) {step : TrackerStep}
    {path : String} {event : MountCompleted}
    (result : step.resultFor? path = some event) :
    (tracker.step step).status path =
      event.nextStatus (tracker.status path) := by
  have kept : step ≠ .remove path := by
    rintro rfl
    simp [TrackerStep.resultFor?] at result
  unfold status
  rw [find?_step, if_neg kept, result]
  rfl

theorem status_step_of_none (tracker : MountTracker) {step : TrackerStep}
    {path : String} (kept : step ≠ .remove path)
    (other : step.resultFor? path = none) :
    (tracker.step step).status path = tracker.status path := by
  unfold status
  rw [find?_step, if_neg kept, other]

/-! ## Actions of a step -/

theorem emittedBy_of_result (tracker : MountTracker) {step : TrackerStep}
    {path : String} {event : MountCompleted}
    (result : step.resultFor? path = some event) :
    tracker.emittedBy step = event.actions path (tracker.status path) := by
  cases step with
  | remove other => simp [TrackerStep.resultFor?] at result
  | apply own =>
      simp only [TrackerStep.resultFor?, Option.ite_none_right_eq_some,
        Option.some.injEq] at result
      obtain ⟨relevant, rfl⟩ := result
      simp [emittedBy, apply, relevant]

/-- A step has no actions for a device that its result does not bear on. -/
theorem devicePath_ne_of_mem_emittedBy (tracker : MountTracker)
    {step : TrackerStep} {path : String} (other : step.resultFor? path = none)
    {action : NotificationAction} (member : action ∈ tracker.emittedBy step) :
    action.devicePath ≠ path := by
  cases step with
  | remove removed => simp [emittedBy] at member
  | apply event =>
      cases relevant : event.relevantPath? with
      | none => simp [emittedBy, apply, relevant] at member
      | some own =>
          have result :
              (TrackerStep.apply event).resultFor? own = some event := by
            simp [TrackerStep.resultFor?, relevant]
          rw [emittedBy_of_result tracker result] at member
          rw [event.devicePath_of_mem_actions member]
          rintro rfl
          simp [TrackerStep.resultFor?, relevant] at other

end MountTracker

end RemovableMedia
