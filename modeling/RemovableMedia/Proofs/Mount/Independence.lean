import RemovableMedia.Proofs.Mount.Run

/-!
# Devices do not know of each other

What becomes of a device depends only on the steps that concern it: its own
results and its removals.  All other steps can be left out of a run, and neither
its status nor the actions for it are any different.
-/

namespace RemovableMedia

namespace TrackerStep

/-- Is the step a result or the removal of the device? -/
def concerns (path : String) (step : TrackerStep) : Bool :=
  step = .remove path || (step.resultFor? path).isSome

theorem not_concerns_iff {path : String} {step : TrackerStep} :
    step.concerns path = false ↔
      step ≠ .remove path ∧ step.resultFor? path = none := by
  simp [concerns]

end TrackerStep

namespace MountCompleted

theorem devicePath_of_relevantPath? {event : MountCompleted} {path : String}
    (relevant : event.relevantPath? = some path) :
    event.volume.devicePath = some path :=
  VolumeMetadata.devicePath_of_notifiable
    (Option.ite_none_right_eq_some.mp relevant).2

end MountCompleted

namespace MountTracker

open TrackerStep

/-! ## Steps -/

/-- The two trackers know the same of the device. -/
def Agree (path : String) (left right : MountTracker) : Prop :=
  left.statuses.find? path = right.statuses.find? path

variable {path : String} {left right : MountTracker}

theorem Agree.status (agree : Agree path left right) :
    left.status path = right.status path :=
  congrArg (fun known => known.getD MountStatus.noResult) agree

/-- A step does the same to a device wherever the same is known of it. -/
theorem Agree.afterStep (agree : Agree path left right)
    (step : TrackerStep) :
    Agree path (left.step step) (right.step step) := by
  have same : left.statuses.find? path = right.statuses.find? path := agree
  unfold Agree
  rw [find?_step, find?_step, agree.status, same]

theorem agree_step_of_not_concerns (tracker : MountTracker)
    {step : TrackerStep} (other : step.concerns path = false) :
    Agree path (tracker.step step) tracker := by
  obtain ⟨kept, noResult⟩ := not_concerns_iff.mp other
  unfold Agree
  rw [find?_step, if_neg kept, noResult]

/-- The actions for a device are those of its own results, and of these all. -/
theorem emittedBy_filter (tracker : MountTracker) (step : TrackerStep)
    (path : String) :
    (tracker.emittedBy step).filter (·.devicePath = path) =
      match step.resultFor? path with
      | some event => event.actions path (tracker.status path)
      | none => [] := by
  cases result : step.resultFor? path with
  | some event =>
      rw [emittedBy_of_result tracker result]
      apply List.filter_eq_self.mpr
      intro action member
      exact decide_eq_true (event.devicePath_of_mem_actions member)
  | none =>
      apply List.filter_eq_nil_iff.mpr
      intro action member own
      exact devicePath_ne_of_mem_emittedBy tracker result member
        (of_decide_eq_true own)

/-- A step that concerns a device has no actions for any other. -/
theorem emittedBy_of_concerns (tracker : MountTracker)
    {step : TrackerStep} (own : step.concerns path = true) :
    tracker.emittedBy step =
      match step.resultFor? path with
      | some event => event.actions path (tracker.status path)
      | none => [] := by
  cases result : step.resultFor? path with
  | some event => exact emittedBy_of_result tracker result
  | none =>
      have removes : step = .remove path := by
        simpa [concerns, result] using own
      rw [removes]
      rfl

/-! ## Runs -/

/-- To leave out the steps of others changes neither what is known of a device
nor the actions for it. -/
theorem run_filter_concerns (agree : Agree path left right)
    (steps : List TrackerStep) :
    Agree path (left.run steps) (right.run (steps.filter (concerns path))) ∧
      (left.emitted steps).filter (·.devicePath = path) =
        right.emitted (steps.filter (concerns path)) := by
  induction steps generalizing left right with
  | nil => exact ⟨agree, rfl⟩
  | cons step steps induction =>
      rw [emitted, List.filter_append, emittedBy_filter, agree.status]
      -- Both runs take a step that concerns the device, and only the first one
      -- takes any other.
      cases own : step.concerns path with
      | true =>
          obtain ⟨same, later⟩ := induction (agree.afterStep step)
          rw [List.filter_cons_of_pos own, emitted,
            emittedBy_of_concerns right own, later]
          exact ⟨same, rfl⟩
      | false =>
          have unmoved := agree_step_of_not_concerns left own
          obtain ⟨same, later⟩ := induction (unmoved.trans agree)
          rw [List.filter_cons_of_neg (Bool.eq_false_iff.mp own), later,
            (not_concerns_iff.mp own).2]
          exact ⟨same, rfl⟩

/-- A run is the same for a device as the run of its own steps.  All actions of a
result are for the device that it is a result of, and a result of no device
leaves every status and the number of devices as they were. -/
theorem devices_independent (tracker : MountTracker)
    (steps : List TrackerStep) :
    (∀ path,
      let own := steps.filter (concerns path)
      (tracker.run steps).status path = (tracker.run own).status path ∧
        (tracker.emitted steps).filter (·.devicePath = path) =
          tracker.emitted own) ∧
    ∀ event,
      let applied := (tracker.run steps).apply event
      (∀ update, applied.1 = some update → ∀ action ∈ update.actions,
        event.volume.devicePath = some action.devicePath) ∧
      (applied.1 = none →
        (∀ path, applied.2.status path = (tracker.run steps).status path) ∧
          applied.2.trackedDevices = (tracker.run steps).trackedDevices) := by
  refine ⟨?_, ?_⟩
  · intro path own
    have same : Agree path tracker tracker := rfl
    obtain ⟨agree, emitted⟩ := run_filter_concerns same steps
    exact ⟨agree.status, emitted⟩
  · intro event applied
    simp only [applied, apply]
    cases relevant : event.relevantPath? with
    | none => exact ⟨by simp, fun _ => ⟨fun _ => rfl, rfl⟩⟩
    | some path =>
        refine ⟨?_, by simp⟩
        rintro update ⟨⟩ action member
        rw [event.devicePath_of_mem_actions member]
        exact MountCompleted.devicePath_of_relevantPath? relevant

/-- The same result, but of a card in another slot. -/
def inOtherSlot (event : MountCompleted) : MountCompleted :=
  { event with volume.devicePath := some "/dev/sdc" }

/-- Two cards fail in turn.  A partition of the first one is mounted after all,
and the second one is pulled out. -/
def twoCards : List TrackerStep :=
  [.apply (.ofCard (.failure "error_unknown") true),
    .apply (inOtherSlot (.ofCard .unsupportedFilesystem false)),
    .apply (.ofCard .success false),
    .remove "/dev/sdc"]

/-- A result that nobody is to be told of comes after them. -/
theorem devices_independent_for_twoCards :
    let silent := { MountCompleted.ofCard .success false with
      shouldNotify := false }
    let applied := (run {} twoCards).apply silent
    (emitted {} twoCards).filter (·.devicePath = "/dev/sdb") =
        emitted {} (twoCards.filter (concerns "/dev/sdb")) ∧
      (emitted {} twoCards).length = 3 ∧ applied.1 = none ∧
      applied.2.trackedDevices = (run {} twoCards).trackedDevices := by
  intro silent applied
  have unheard : applied.1 = none := by decide
  obtain ⟨own, others⟩ := devices_independent {} twoCards
  exact ⟨(own "/dev/sdb").2, by decide, unheard,
    ((others silent).2 unheard).2⟩

end MountTracker

end RemovableMedia
