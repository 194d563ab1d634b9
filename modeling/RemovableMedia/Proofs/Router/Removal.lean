import RemovableMedia.Proofs.Router.DeviceResults
import RemovableMedia.Proofs.Router.LastRequest

/-!
# The removal of a device

A removal hides the failure notification of the device and makes the tracker
forget it.  Whatever was under way before, nothing but a later event that names
the device undoes this.  Other devices do not notice the removal.
-/

namespace RemovableMedia

open HostCall

namespace HostEvent

/-- The event is about the device. -/
def Names (path : String) : HostEvent → Prop
  | deviceChanged event => event.devicePath = path
  | mountCompleted event => event.volume.devicePath = some path
  | buttonClicked event =>
      ∃ id, NotificationId.parse? event.notificationId = some id ∧
        id.devicePath = path

end HostEvent

namespace MountCompleted

theorem resultFor?_of_unnamed {event : MountCompleted} {path : String}
    (unnamed : event.volume.devicePath ≠ some path) :
    (TrackerStep.apply event).resultFor? path = none := by
  apply if_neg
  intro relevant
  have notifiable := (Option.ite_none_right_eq_some.mp relevant).2
  exact unnamed (VolumeMetadata.devicePath_of_notifiable notifiable)

end MountCompleted

/-! ## Events that do not name a device -/

section Unnamed

variable {path : String}

theorem HostEvent.resultFor?_of_unnamed {event : HostEvent}
    (unnamed : ¬ event.Names path) :
    ∀ step ∈ event.trackerSteps, step.resultFor? path = none := by
  intro step member
  rcases event with change | result | click
  · simp only [trackerSteps] at member
    split at member
    · rw [List.mem_singleton.mp member]
      rfl
    · exact absurd member List.not_mem_nil
  · rw [List.mem_singleton.mp member]
    exact MountCompleted.resultFor?_of_unnamed unnamed
  · exact absurd member List.not_mem_nil

theorem RouterStep.spares_of_unnamed {step : RouterStep}
    (unnamed : ∀ event, step.event? = some event → ¬ event.Names path) :
    step.Spares path ∧ step.resultFor? path = none := by
  rcases step with (change | result | click) | ⟨_, _⟩ | _ | _
  · exact ⟨unnamed _ rfl, rfl⟩
  · exact ⟨trivial, MountCompleted.resultFor?_of_unnamed (unnamed _ rfl)⟩
  · refine ⟨?_, rfl⟩
    intro own
    apply unnamed _ rfl
    refine ⟨⟨Family.deviceFail.heading, path⟩, ?_, rfl⟩
    rw [own]
    exact Family.parse?_identity .deviceFail path
  · exact ⟨trivial, rfl⟩
  · exact ⟨trivial, rfl⟩
  · exact ⟨trivial, rfl⟩

/-- A step without an event that names the device makes no request about its
failure notification. -/
theorem ServiceStep.elsewhere_of_unnamed {σ : Type} (setting : Setting)
    {step : ServiceStep}
    (unnamed : ∀ event, step.event? = some event → ¬ event.Names path)
    (service : Service σ) :
    ∀ request ∈ (Yield.requests setting).ofStep service step,
      request.kind.family = .deviceFail → request.devicePath ≠ path := by
  intro request member failure
  rcases step with own | _ | ⟨collaborators, index⟩ | index | _
  · change request ∈ (Yield.requests setting).ofRouterStep service.router own
      at member
    rw [Yield.requests_ofRouterStep] at member
    obtain ⟨spares, other⟩ := RouterStep.spares_of_unnamed unnamed
    exact Router.elsewhere_of_no_result spares other request member failure
  · exact absurd member List.not_mem_nil
  · cases found : service.taken[index]? with
    | none => simp [Yield.ofStep, found] at member
    | some task =>
        rw [Yield.ofStep_taken _ found, Yield.requests_ofTurn] at member
        rw [Router.kind_of_mem_turnRequests member] at failure
        simp [NotificationKind.family] at failure
  · exact absurd member List.not_mem_nil
  · exact absurd member List.not_mem_nil

/-- A device that is not tracked gets tracked only by a result of its own. -/
theorem MountTracker.find?_run_of_none {tracker : MountTracker}
    (untracked : tracker.statuses.find? path = none) {steps : List TrackerStep}
    (others : ∀ step ∈ steps, step.resultFor? path = none) :
    (tracker.run steps).statuses.find? path = none := by
  induction steps generalizing tracker with
  | nil => exact untracked
  | cons step steps induction =>
      have stillUntracked :
          (tracker.step step).statuses.find? path = none := by
        rw [find?_step]
        split
        · rfl
        · rw [others step List.mem_cons_self]
          exact untracked
      exact induction stillUntracked fun later member =>
        others later (List.mem_cons_of_mem _ member)

end Unnamed

/-! ## What a removal does at once -/

def HostEvent.removal (path : String) : HostEvent :=
  .deviceChanged ⟨.removed, path⟩

namespace Center

theorem about_submit (center : Center) (family : Family) (order : Order)
    {id : String} (other : order.id ≠ id) (queue : Family) :
    about id (callsOf
        ((center.submit family order).queues.get queue).entries) =
      about id (callsOf (center.queues.get queue).entries) := by
  rw [entries_submit]
  split
  · have none : about id (callsOf [.job order]) = [] := by
      apply about_of_none
      intro call member
      obtain ⟨entry, present, made⟩ := List.mem_filterMap.mp member
      cases List.mem_singleton.mp present
      rw [Order.id_of_call made]
      exact other
    rw [callsOf_append, about_append, none, List.append_nil]
  · rfl

end Center

namespace Router

variable {σ : Type}

/-- For the device everything is as it was: its status, what the host shows, the
calls that wait in the queues, and the imports. -/
structure Unmoved (path : String) (router next : Router σ) : Prop where
  tracked : next.tracker.statuses.find? path =
    router.tracker.statuses.find? path
  host : next.desk.host = router.desk.host
  waiting : ∀ family queue : Family,
    about (family.identity path)
        (callsOf (next.center.queues.get queue).entries) =
      about (family.identity path)
        (callsOf (router.center.queues.get queue).entries)
  tasks : next.tasks = router.tasks

/-- Other devices do not notice the removal. -/
theorem unmoved_removal (setting : Setting) (router : Router σ)
    {path other : String} (different : other ≠ path) :
    Unmoved other router (router.dispatch setting (.removal path)) := by
  have made := makes_dispatch setting router (.removal path)
  have tracker := tracker_dispatch setting router (.removal path)
  constructor
  · rw [tracker]
    have kept : TrackerStep.remove path ≠ .remove other :=
      fun same => different (TrackerStep.remove.inj same).symm
    exact (MountTracker.find?_step router.tracker (.remove path) other).trans
      (if_neg kept)
  · exact made.host
  · intro family queue
    let hide := Order.clear (Family.deviceFail.identity path)
    have elsewhere : hide.id ≠ family.identity other :=
      fun same => different (Family.identity_eq_iff.mp same).2.symm
    -- The failure notification is shared by two kinds, so it is hidden twice.
    let once := router.center.submit .deviceFail hide
    have first := router.center.about_submit .deviceFail hide elsewhere queue
    have second := once.about_submit .deviceFail hide elsewhere queue
    rw [made.center]
    exact second.trans first
  · exact tasks_dispatch setting router (.removal path)

end Router

/-! ## What remains of it -/

namespace Course

variable {σ : Type} [NotificationHost σ] {setting : Setting} {host : σ}
  {course : Course setting host} {before after : List RouterStep}
  {path : String}

theorem unnamed_rest {after : List RouterStep}
    (others : ∀ event ∈ after.filterMap RouterStep.event?,
      ¬ event.Names path) :
    ∀ step ∈ course.rest after, ∀ event, step.event? = some event →
      ¬ event.Names path := by
  intro step member event happened
  apply others
  rw [← course.events_rest after]
  exact List.mem_filterMap.mpr ⟨step, member, happened⟩

theorem untracked_final
    (cut : course.steps = before ++ .event (.removal path) :: after)
    (others : ∀ event ∈ after.filterMap RouterStep.event?,
      ¬ event.Names path) :
    course.final.router.tracker.statuses.find? path = none := by
  let removed :=
    (course.past before).step setting (.router (.event (.removal path)))
  have final : course.final = removed.run setting (course.rest after) := by
    rw [Course.final, course.allSteps_eq cut, Service.run_append]
    rfl
  have forgotten : removed.router.tracker.statuses.find? path = none := by
    have tracker := Service.tracker_step setting (course.past before)
      (.router (.event (.removal path)))
    rw [tracker]
    exact (MountTracker.find?_step _ (.remove path) path).trans (if_pos rfl)
  rw [final, Service.tracker_run, course.events_rest]
  apply MountTracker.find?_run_of_none forgotten
  intro step member
  obtain ⟨event, happened, own⟩ := List.mem_flatMap.mp member
  exact HostEvent.resultFor?_of_unnamed (others event happened) step own

/-- The last that is requested about the failure notification is to hide it. -/
theorem lastCall?_of_removal
    (cut : course.steps = before ++ .event (.removal path) :: after)
    (others : ∀ event ∈ after.filterMap RouterStep.event?,
      ¬ event.Names path) :
    course.lastCall? .deviceFail path =
      some (.clear (Family.deviceFail.identity path)) := by
  have elsewhere : ∀ request ∈ course.collectAfter (.requests setting) before
      (.removal path) after,
      request.kind.family = .deviceFail → request.devicePath ≠ path :=
    Yield.forall_mem_ofRun
      (fun step member service =>
        ServiceStep.elsewhere_of_unnamed setting
          (unnamed_rest others step member) service) _
  have later := lastAbout?_callsFor_of_elsewhere setting elsewhere
  have now : lastAbout? (Family.deviceFail.identity path)
      (callsFor setting ((Yield.requests setting).ofEvent
        (course.past before).router.tracker (.removal path))) =
      some (.clear (Family.deviceFail.identity path)) := by
    exact (lastAbout?_concat _
      [.clear (Family.deviceFail.identity path)] _).trans (if_pos rfl)
  rw [lastCall?, course.collect_eq cut, callsFor_append, callsFor_append,
    lastAbout?_append, lastAbout?_append, later, now]
  rfl

/-- Whatever happened before a device was removed, and whatever happens then to
other devices: on a host that does not fail to clear, the device has no result
in the end, is not tracked, and its failure notification is not visible.  Other
devices do not notice the removal. -/
theorem removal_clears [ErasingHost σ] (erases : ErasingHost.Erases host)
    (cut : course.steps = before ++ .event (.removal path) :: after)
    (others : ∀ event ∈ after.filterMap RouterStep.event?,
      ¬ event.Names path) :
    course.final.router.mountStatus path = .noResult ∧
      course.final.router.tracker.statuses.find? path = none ∧
      ¬ ErasingHost.Visible course.final.router.desk.host
        (Family.deviceFail.identity path) ∧
      ∀ other, other ≠ path → Router.Unmoved other (course.past before).router
        ((course.past before).router.dispatch setting (.removal path)) := by
  have untracked := untracked_final cut others
  refine ⟨?_, untracked, ?_, ?_⟩
  · rw [Router.mountStatus, MountTracker.status, untracked]
    rfl
  · exact course.hidden_final erases (lastCall?_of_removal cut others)
  · exact fun other => Router.unmoved_removal setting _

/-- A card fails and is removed; then another device is unplugged. -/
def removedCourse : Course pulledSetting ({} : Screen) where
  steps := [.event (.mountCompleted (.ofCard (.failure "error_unknown") true)),
    .event (.removal "/dev/sdb"),
    .event (.deviceChanged ⟨.hardUnplugged, "/dev/sdc"⟩)]
  order := .standard
  wait := patience 4
  silent := silent_patience_four
  settled := by rfl

theorem removal_clears_failingCard :
    removedCourse.final.router.mountStatus "/dev/sdb" = .noResult ∧
      ¬ ErasingHost.Visible removedCourse.final.router.desk.host
        (Family.deviceFail.identity "/dev/sdb") := by
  let unplugged : HostEvent := .deviceChanged ⟨.hardUnplugged, "/dev/sdc"⟩
  have cut : removedCourse.steps =
      [.event (.mountCompleted (.ofCard (.failure "error_unknown") true))] ++
        .event (.removal "/dev/sdb") :: [.event unplugged] := rfl
  have others : ∀ event ∈ [unplugged], ¬ event.Names "/dev/sdb" := by
    intro event member
    cases List.mem_singleton.mp member
    exact (by decide : "/dev/sdc" ≠ "/dev/sdb")
  have erases : ErasingHost.Erases ({} : Screen) := rfl
  have cleared := removal_clears erases cut others
  exact ⟨cleared.1, cleared.2.2.1⟩

end Course

end RemovableMedia
