import RemovableMedia.Proofs.Router.Run

/-!
# What concerns the failure notification of a device

Everything that happens to a router makes requests, but only few of them are
about the failure notification of a given device: those that its own mount
results give rise to, those that go with a change of the device, and the press
of the button on that notification.  Without the last two the notification
and the status of the device depend on its mount results alone.
-/

namespace RemovableMedia

namespace RouterStep

/-- The mount result of the step, if it bears on the device. -/
def resultFor? (path : String) : RouterStep → Option MountCompleted
  | .event (.mountCompleted result) =>
      (TrackerStep.apply result).resultFor? path
  | _ => none

/-- The mount results that bear on the device, in order. -/
def results (path : String) (steps : List RouterStep) : List MountCompleted :=
  steps.filterMap (resultFor? path)

/-- The step is no change of the device and no press of the button on its
failure notification. -/
def Spares (path : String) : RouterStep → Prop
  | .event (.deviceChanged change) => change.devicePath ≠ path
  | .event (.buttonClicked click) =>
      click.notificationId ≠ Family.deviceFail.identity path
  | _ => True

theorem eq_event_of_resultFor? {path : String} {step : RouterStep}
    {event : MountCompleted} (result : step.resultFor? path = some event) :
    step = .event (.mountCompleted event) := by
  unfold resultFor? at result
  split at result
  · next own =>
      simp only [TrackerStep.resultFor?, Option.ite_none_right_eq_some,
        Option.some.injEq] at result
      rw [result.2]
  · simp at result

end RouterStep

namespace Request

theorem devicePath_ofAction (catalog : MessageCatalog)
    (action : NotificationAction) :
    (ofAction catalog action).devicePath = action.devicePath := by
  rcases action with ⟨kind, path, message⟩ | ⟨kind, path⟩
  · rfl
  · rfl

end Request

theorem DeviceChanged.devicePath_of_mem_requests {event : DeviceChanged}
    {request : Request} (member : request ∈ event.requests) :
    request.devicePath = event.devicePath := by
  unfold requests at member
  split at member
  all_goals
    simp only [List.mem_cons, List.not_mem_nil, or_false] at member
    try rcases member with rfl | rfl
    all_goals rfl

namespace Router

open RouterStep

variable {σ : Type} {setting : Setting} {router : Router σ} {path : String}

/-- Only the press of its own button hides a failure notification. -/
theorem devicePath_ne_of_mem_clickRequests {notificationId : String}
    (elsewhere : notificationId ≠ Family.deviceFail.identity path)
    {request : Request}
    (member : request ∈ clickRequests setting notificationId)
    (failure : request.kind.family = .deviceFail) :
    request.devicePath ≠ path := by
  unfold clickRequests at member
  cases parsed : NotificationId.parse? notificationId with
  | none => simp [parsed] at member
  | some id =>
      rw [parsed] at member
      obtain ⟨⟨kind, target⟩, chosen, rfl⟩ := List.mem_map.mp member
      have heading : id.heading = Family.deviceFail.heading := by
        simp only [clickTarget?, Option.mem_toList] at chosen
        split at chosen
        · cases chosen
          simp [Request.kind, NotificationKind.family] at failure
        · split at chosen
          · assumption
          · split at chosen
            · cases chosen
              simp [Request.kind, NotificationKind.family] at failure
            · simp at chosen
      rintro rfl
      apply elsewhere
      rw [← NotificationId.text_of_parse? parsed]
      unfold Family.identity
      rw [← heading]
      rfl

/-- Where a step has no result of the device, its requests are about the
failure notifications of other devices at most. -/
theorem elsewhere_of_no_result {step : RouterStep}
    (spares : step.Spares path) (other : step.resultFor? path = none) :
    ∀ request ∈ router.stepRequests setting step,
      request.kind.family = .deviceFail → request.devicePath ≠ path := by
  have navigation : ∀ request : Request, request.kind = .deviceNavigation →
      request.kind.family = .deviceFail → request.devicePath ≠ path := by
    intro request kind failure
    simp [kind, NotificationKind.family] at failure
  intro request member failure
  rcases step with (change | result | click) | ⟨_, _ | index⟩ | _ | _
  · rw [DeviceChanged.devicePath_of_mem_requests member]
    exact spares
  · rcases List.mem_append.mp member with unmounted | tracked
    · obtain ⟨own, _, rfl⟩ := List.mem_map.mp unmounted
      exact navigation _ rfl failure
    · change (TrackerStep.apply result).resultFor? path = none at other
      obtain ⟨action, emitted, rfl⟩ := List.mem_map.mp tracked
      rw [Request.devicePath_ofAction]
      exact MountTracker.devicePath_ne_of_mem_emittedBy router.tracker other
        emitted
  · exact devicePath_ne_of_mem_clickRequests spares member failure
  · simp [stepRequests] at member
  · change request ∈ (router.tasks[index]?).elim []
      ImportTask.turnRequests at member
    cases running : router.tasks[index]? with
    | none => simp [running] at member
    | some task =>
        rw [running] at member
        exact navigation request (kind_of_mem_turnRequests member) failure
  · obtain ⟨task, _, final⟩ := List.mem_flatMap.mp member
    exact navigation request (kind_of_mem_finalRequests final) failure
  · simp [stepRequests] at member

variable [NotificationHost σ]

theorem mountStatus_step_of_no_result {step : RouterStep}
    (spares : step.Spares path) (other : step.resultFor? path = none) :
    (router.step setting step).mountStatus path = router.mountStatus path := by
  unfold mountStatus
  rw [tracker_step]
  rcases step with (change | result | click) | _ | _ | _
  · simp only [RouterStep.trackerSteps, HostEvent.trackerSteps]
    split
    · have kept : TrackerStep.remove change.devicePath ≠ .remove path :=
        fun same => spares (TrackerStep.remove.inj same)
      exact MountTracker.status_step_of_none router.tracker kept rfl
    · rfl
  · have kept : TrackerStep.apply result ≠ .remove path := by simp
    exact MountTracker.status_step_of_none router.tracker kept other
  all_goals rfl

theorem mountStatus_step_of_result {step : RouterStep}
    {event : MountCompleted} (result : step.resultFor? path = some event) :
    (router.step setting step).mountStatus path =
      event.nextStatus (router.mountStatus path) := by
  cases eq_event_of_resultFor? result
  change (TrackerStep.apply event).resultFor? path = some event at result
  unfold mountStatus
  rw [tracker_step]
  exact MountTracker.status_step_of_result router.tracker result

variable [ReliableHost σ]

/-- Steps without a result of the device change nothing of its failure
notification. -/
theorem outlook_step_of_no_result (sound : Sound setting router)
    {step : RouterStep} (spares : step.Spares path)
    (other : step.resultFor? path = none) :
    (router.step setting step).outlook .deviceFail path =
      router.outlook .deviceFail path := by
  rw [(sound_and_outlook_step sound step).2]
  exact Request.amendAll_of_elsewhere (elsewhere_of_no_result spares other) _ _

/-- A result of the device moves its failure notification by the actions that
the tracker takes on it. -/
theorem outlook_step_of_result (sound : Sound setting router)
    {step : RouterStep} {event : MountCompleted}
    (result : step.resultFor? path = some event) :
    (router.step setting step).outlook .deviceFail path =
      Request.amendAll (Center.ofConfig setting.config).content
        ((event.actions path (router.mountStatus path)).map
          (Request.ofAction setting.config.messages))
        .deviceFail path (router.outlook .deviceFail path) := by
  cases eq_event_of_resultFor? result
  change (TrackerStep.apply event).resultFor? path = some event at result
  have unmounted : ∀ request ∈
      (unmountedPath? event).toList.map (Request.hide .deviceNavigation),
      request.kind.family = .deviceFail → request.devicePath ≠ path := by
    intro request member failure
    obtain ⟨own, _, rfl⟩ := List.mem_map.mp member
    simp [Request.kind, NotificationKind.family] at failure
  have emitted : router.tracker.emittedBy (.apply event) =
      event.actions path (router.mountStatus path) :=
    MountTracker.emittedBy_of_result router.tracker result
  rw [(sound_and_outlook_step sound _).2, stepRequests, requests,
    Request.amendAll_append, Request.amendAll_of_elsewhere unmounted, emitted]

end Router

end RemovableMedia
