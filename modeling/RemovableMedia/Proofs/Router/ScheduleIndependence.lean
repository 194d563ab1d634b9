import RemovableMedia.Proofs.Router.Shutdown

/-!
# What does not depend on the schedule

Background work never feeds back into the tracker, and imports make no requests
but about navigation.  So two courses with the same events agree on all that one
can see of them, as long as collaborators answer one question in one way; only
the order of what concerns navigation may differ.
-/

namespace RemovableMedia

open HostCall

/-- The calls with a heading that requests come to. -/
theorem under_callsFor (setting : Setting) (heading : String)
    (requests : List Request) :
    under heading (callsFor setting requests) = callsFor setting
      (requests.filter fun request =>
        request.kind.family.heading = heading) := by
  simp only [under, callsFor, List.filter_map, Function.comp_def,
    Request.headingOf_call]

namespace Course

variable {σ : Type} [NotificationHost σ] {setting : Setting} {host : σ}

/-- Nobody but these collaborators is consulted. -/
def Consults (course : Course setting host) (collaborators : Collaborators) :
    Prop :=
  ∀ consulted ∈ course.allSteps.filterMap ServiceStep.collaborators?,
    consulted = collaborators

theorem Consults.foreseen {β : Type} (yield : Yield β)
    {course : Course setting host}
    (consults : course.Consults setting.collaborators) :
    ∀ step ∈ course.allSteps, yield.Foreseen setting step.collaborators? := by
  intro step member collaborators consulted
  rw [consults collaborators (List.mem_filterMap.mpr ⟨step, member, consulted⟩)]

/-- What is not requested by imports is requested by the events, in their
order. -/
theorem filter_requests (course : Course setting host)
    {counts : Request → Bool}
    (others : ∀ request : Request, request.kind = .deviceNavigation →
      counts request = false) :
    (course.collect (.requests setting)).filter counts =
      ((Yield.requests setting).ofEvents (fun _ => []) {}
        course.events).filter counts := by
  rw [← course.events_allSteps]
  apply Yield.filter_ofRun
  intro metadata decision?
  apply List.filter_eq_nil_iff.mpr
  intro request member
  cases decision? with
  | none => exact absurd member List.not_mem_nil
  | some decision =>
      rw [others request (Router.kind_of_mem_requests member)]
      exact Bool.false_ne_true

theorem outbox_final (course : Course setting host) :
    course.final.router.outbox.requests =
      course.collect (.navigations setting) := by
  have sent := course.opened.outbox_run setting course.allSteps
  exact congrArg Outbox.requests sent

/-- Two courses with the same events, whose imports get the same answers, on a
host that is the same at first: at whatever points the same events have
happened, each device has the same status.  In the end the host got the same
calls with the same contents under every heading, in the same order but for
navigation, and the same requests to navigate were sent. -/
theorem schedule_independent [RecordingHost σ]
    (left right : Course setting host) (sameEvents : left.events = right.events)
    (leftConsults : left.Consults setting.collaborators)
    (rightConsults : right.Consults setting.collaborators) :
    (∀ leftPast rightPast, leftPast <+: left.allSteps →
      rightPast <+: right.allSteps →
      ServiceStep.events leftPast = ServiceStep.events rightPast →
      ∀ path, (left.opened.run setting leftPast).router.mountStatus path =
        (right.opened.run setting rightPast).router.mountStatus path) ∧
      (∀ heading, heading ≠ Family.deviceNavigation.heading →
        under heading (RecordingHost.calls left.final.router.desk.host) =
          under heading (RecordingHost.calls right.final.router.desk.host)) ∧
      (under Family.deviceNavigation.heading
        (RecordingHost.calls left.final.router.desk.host)).Perm
        (under Family.deviceNavigation.heading
          (RecordingHost.calls right.final.router.desk.host)) ∧
      left.final.router.outbox.requests.Perm
        right.final.router.outbox.requests := by
  have samePerm : ∀ {β : Type} (yield : Yield β),
      (left.collect yield).Perm (right.collect yield) := by
    intro β yield
    have leftPerm := left.collect_perm (leftConsults.foreseen yield)
    rw [sameEvents] at leftPerm
    exact leftPerm.trans
      (right.collect_perm (rightConsults.foreseen yield)).symm
  refine ⟨?_, ?_, ?_, ?_⟩
  · intro leftPast rightPast _ _ samePast path
    have leftTracker := left.opened.tracker_run setting leftPast
    have rightTracker := right.opened.tracker_run setting rightPast
    rw [samePast] at leftTracker
    exact congrArg (MountTracker.status · path)
      (leftTracker.trans rightTracker.symm)
  · intro heading other
    have others : ∀ request : Request, request.kind = .deviceNavigation →
        decide (request.kind.family.heading = heading) = false := by
      intro request navigation
      apply decide_eq_false
      rw [navigation]
      exact other.symm
    rw [calls_final, calls_final, under_callsFor, under_callsFor,
      left.filter_requests others, right.filter_requests others, sameEvents]
  · rw [calls_final, calls_final]
    exact (((samePerm _).map _).filter _).append_left _
  · rw [outbox_final, outbox_final]
    exact samePerm _

/-- Whether the import of a card that is pulled out fails early or late makes a
difference to the order of calls about navigation, and to nothing else. -/
theorem schedule_independent_for_pulledCard :
    under Family.deviceNavigation.heading
        promptCourse.final.router.desk.host.calls ≠
      under Family.deviceNavigation.heading
        lateCourse.final.router.desk.host.calls ∧
      (under Family.deviceNavigation.heading
        promptCourse.final.router.desk.host.calls).Perm
        (under Family.deviceNavigation.heading
          lateCourse.final.router.desk.host.calls) := by
  have promptConsults : promptCourse.Consults pulledSetting.collaborators :=
    fun _ => List.eq_of_mem_replicate (n := 2)
  have lateConsults : lateCourse.Consults pulledSetting.collaborators :=
    fun _ => List.eq_of_mem_replicate (n := 1)
  have independent := schedule_independent promptCourse lateCourse rfl
    promptConsults lateConsults
  exact ⟨by decide +kernel, independent.2.2.1⟩

end Course

end RemovableMedia
