import RemovableMedia.Proofs.Router.LastRequest

/-!
# Navigation after an unmount

An unmount hides the navigation notification of its device.  Only imports ask to
show it, and an import is not called off when its device is unmounted.  So the
notification may be visible after the last unmount, but only through an import of
the device that was still running when it was unmounted.
-/

namespace RemovableMedia

open ReliableHost

namespace MountCompleted

/-- The mounting or unmounting of a volume on the device succeeded, and it is to
be told. -/
structure Reports (path : String) (event : MountCompleted) : Prop where
  succeeded : event.outcome.isSuccess = true
  told : event.shouldNotify = true
  device : event.volume.devicePath = some path

theorem Reports.unmountedPath? {path : String} {event : MountCompleted}
    (reports : event.Reports path) (unmounts : event.operation = .unmount) :
    Router.unmountedPath? event = some path := by
  simp [Router.unmountedPath?, reports.succeeded, reports.told, unmounts,
    reports.device]

/-- The tracker acts on failure notifications only. -/
theorem family_of_mem_actions (catalog : MessageCatalog)
    {event : MountCompleted} {path : String} {current : MountStatus}
    {action : NotificationAction}
    (member : action ∈ event.actions path current) :
    (Request.ofAction catalog action).kind.family = .deviceFail := by
  have retracted : ∀ action ∈ event.retraction path current,
      (Request.ofAction catalog action).kind.family = .deviceFail := by
    intro action member
    unfold retraction at member
    split at member
    · split at member
      · exact absurd member List.not_mem_nil
      · rw [List.mem_singleton.mp member]
        rfl
    · exact absurd member List.not_mem_nil
  have failure : (Request.ofAction catalog
      (event.showFailure path)).kind.family = .deviceFail := by
    unfold showFailure
    split
    · rfl
    · rfl
  have announced : ∀ next, ∀ action ∈ event.announcement path next,
      (Request.ofAction catalog action).kind.family = .deviceFail := by
    intro next action member
    cases next with
    | noResult => exact absurd member List.not_mem_nil
    | success => exact absurd member List.not_mem_nil
    | onlyParentError =>
        rw [List.mem_singleton.mp member]
        exact failure
    | childError =>
        rw [List.mem_singleton.mp member]
        exact failure
    | multipartError =>
        rw [List.mem_singleton.mp member]
        rfl
  unfold actions at member
  split at member
  · exact absurd member List.not_mem_nil
  · exact retracted action member
  · rcases List.mem_append.mp member with early | late
    · exact retracted action early
    · exact announced _ action late

end MountCompleted

/-! ## Who asks for navigation -/

namespace Router

variable {σ : Type} {setting : Setting}

theorem family_of_mem_emittedBy {tracker : MountTracker}
    {event : MountCompleted} {action : NotificationAction}
    (member : action ∈ tracker.emittedBy (.apply event)) :
    (Request.ofAction setting.config.messages action).kind.family =
      .deviceFail := by
  cases relevant : event.relevantPath? with
  | none =>
      simp [MountTracker.emittedBy, MountTracker.apply, relevant] at member
  | some path =>
      have result : (TrackerStep.apply event).resultFor? path = some event :=
        if_pos relevant
      rw [MountTracker.emittedBy_of_result tracker result] at member
      exact MountCompleted.family_of_mem_actions _ member

/-- No event asks to show the navigation notification. -/
theorem show_navigation_not_mem (router : Router σ) (event : HostEvent)
    (path : String) (message : Option String) :
    .show .deviceNavigation path message ∉ router.requests setting event := by
  intro member
  rcases event with ⟨change, own⟩ | result | click
  · cases change <;> simp [requests, DeviceChanged.requests] at member
  · rcases List.mem_append.mp member with unmounted | tracked
    · simp at unmounted
    · obtain ⟨action, emitted, same⟩ := List.mem_map.mp tracked
      have failure :
          (Request.ofAction setting.config.messages action).kind.family =
            .deviceFail := family_of_mem_emittedBy emitted
      rw [same] at failure
      simp [Request.kind, NotificationKind.family] at failure
  · simp only [requests, clickRequests] at member
    split at member
    · exact absurd member List.not_mem_nil
    · simp at member

end Router

namespace Yield

variable {setting : Setting} {path : String} {message : Option String}

theorem notifiable_of_show {metadata : VolumeMetadata}
    {decision : Except ImportFailure ImportDecision}
    (member : .show .deviceNavigation path message ∈
      ImportDecision.requests metadata decision) :
    metadata.notifiableDevicePath? = some path := by
  cases decision with
  | ok decision => exact absurd member List.not_mem_nil
  | error failure =>
      simp only [ImportDecision.requests, List.mem_map,
        Option.mem_toList] at member
      obtain ⟨own, notifiable, same⟩ := member
      cases same
      exact notifiable

theorem ended_of_show_turn {collaborators : Collaborators} {task : ImportTask}
    (member : .show .deviceNavigation path message ∈
      (requests setting).ofTurn collaborators task) :
    ∃ metadata ∈ ends.ofTurn collaborators task,
      metadata.notifiableDevicePath? = some path := by
  rw [requests_ofTurn] at member
  rcases task with ⟨metadata, decision | ⟨entry, next⟩ | ⟨query, next⟩⟩ | _ | _
  · exact ⟨metadata, List.mem_cons_self, notifiable_of_show member⟩
  all_goals exact absurd member List.not_mem_nil

theorem ended_of_show_task {collaborators : Collaborators} {task : ImportTask}
    (member : .show .deviceNavigation path message ∈
      (requests setting).ofTask collaborators task) :
    ∃ metadata ∈ ends.ofTask collaborators task,
      metadata.notifiableDevicePath? = some path := by
  rw [requests_ofTask] at member
  cases task with
  | running metadata inquiry =>
      refine ⟨metadata, List.mem_cons_self, ?_⟩
      simp only [ImportTask.finalRequests] at member
      cases result : (inquiry.run collaborators).result with
      | none => simp [result] at member
      | some decision =>
          rw [result] at member
          exact notifiable_of_show member
  | finished => exact absurd member List.not_mem_nil
  | crashed => exact absurd member List.not_mem_nil

variable {σ : Type}

/-- Whenever a step asks to show the navigation notification of a device, one of
its imports ends in the step. -/
theorem ended_of_show_step {service : Service σ} {step : ServiceStep}
    (member : .show .deviceNavigation path message ∈
      (requests setting).ofStep service step) :
    ∃ metadata ∈ ends.ofStep service step,
      metadata.notifiableDevicePath? = some path := by
  have turned : ∀ (task? : Option ImportTask) collaborators,
      .show .deviceNavigation path message ∈
        task?.elim [] ((requests setting).ofTurn collaborators) →
      ∃ metadata ∈ task?.elim [] (ends.ofTurn collaborators),
        metadata.notifiableDevicePath? = some path := by
    intro task? collaborators member
    cases task? with
    | none => exact absurd member List.not_mem_nil
    | some task => exact ended_of_show_turn member
  rcases step with (event | ⟨collaborators, family | index⟩ | collaborators | _)
    | _ | ⟨collaborators, index⟩ | index | _
  · exact absurd member (Router.show_navigation_not_mem _ event path message)
  · exact absurd member List.not_mem_nil
  · exact turned _ collaborators member
  · obtain ⟨task, running, own⟩ := List.mem_flatMap.mp member
    obtain ⟨metadata, ended, notifiable⟩ := ended_of_show_task own
    exact ⟨metadata, List.mem_flatMap.mpr ⟨task, running, ended⟩, notifiable⟩
  · exact absurd member List.not_mem_nil
  · exact absurd member List.not_mem_nil
  · exact turned _ collaborators member
  · exact absurd member List.not_mem_nil
  · exact absurd member List.not_mem_nil

variable [NotificationHost σ]

theorem ended_of_show_run {service : Service σ} {steps : List ServiceStep}
    (member : .show .deviceNavigation path message ∈
      (requests setting).ofRun setting service steps) :
    ∃ metadata ∈ ends.ofRun setting service steps,
      metadata.notifiableDevicePath? = some path := by
  induction steps generalizing service with
  | nil => exact absurd member List.not_mem_nil
  | cons step steps induction =>
      rcases List.mem_append.mp member with now | later
      · obtain ⟨metadata, ended, notifiable⟩ := ended_of_show_step now
        exact ⟨metadata, List.mem_append_left _ ended, notifiable⟩
      · obtain ⟨metadata, ended, notifiable⟩ := induction later
        exact ⟨metadata, List.mem_append_right _ ended, notifiable⟩

end Yield

/-! ## After the last unmount -/

namespace Request

/-- What is visible where nothing was visible was asked for. -/
theorem exists_show_of_amendAll {contents : Contents} {requests : List Request}
    {family : Family} {path : String}
    (visible : amendAll contents requests family path none ≠ none) :
    ∃ kind message, kind.family = family ∧
      .show kind path message ∈ requests := by
  induction requests using List.reverseRecOn with
  | nil => exact absurd rfl visible
  | append_singleton requests request induction =>
      rw [amendAll_append] at visible
      change request.amend contents family path _ ≠ none at visible
      unfold amend at visible
      split at visible
      · next own =>
          cases request with
          | hide kind own => exact absurd rfl visible
          | «show» kind ownPath message =>
              obtain ⟨sameFamily, samePath⟩ := own
              refine ⟨kind, message, sameFamily, List.mem_append_right _ ?_⟩
              rw [← samePath]
              exact List.mem_cons_self
      · obtain ⟨kind, message, own, member⟩ := induction visible
        exact ⟨kind, message, own, List.mem_append_left _ member⟩

end Request

theorem NotificationKind.eq_deviceNavigation {kind : NotificationKind}
    (own : kind.family = .deviceNavigation) : kind = .deviceNavigation := by
  cases kind <;> first | rfl | exact absurd own (by decide)

namespace Course

variable {σ : Type} [NotificationHost σ] {setting : Setting} {host : σ}
  {course : Course setting host} {before after : List RouterStep}
  {unmount : MountCompleted} {path : String}

/-- At an unmount nothing is left of what was requested about navigation
before. -/
theorem amendAll_of_unmount (contents : Contents)
    (cut : course.steps = before ++ .event (.mountCompleted unmount) :: after)
    (unmounted : Router.unmountedPath? unmount = some path)
    (now : Option NotificationContent) :
    Request.amendAll contents (course.collect (.requests setting))
        .deviceNavigation path now =
      Request.amendAll contents
        (course.collectAfter (.requests setting) before
          (.mountCompleted unmount) after)
        .deviceNavigation path none := by
  let tracker := (course.past before).router.tracker
  let actions := (tracker.emittedBy (.apply unmount)).map
    (Request.ofAction setting.config.messages)
  have requested : (Yield.requests setting).ofEvent tracker
      (.mountCompleted unmount) = .hide .deviceNavigation path :: actions := by
    change (Router.unmountedPath? unmount).toList.map
      (Request.hide .deviceNavigation) ++ actions = _
    rw [unmounted]
    rfl
  have elsewhere : ∀ request ∈ actions,
      request.kind.family = .deviceNavigation → request.devicePath ≠ path := by
    intro request member navigation
    obtain ⟨action, emitted, rfl⟩ := List.mem_map.mp member
    rw [Router.family_of_mem_emittedBy emitted] at navigation
    simp at navigation
  have hidden : ∀ earlier, Request.amendAll contents
      (.hide .deviceNavigation path :: actions) .deviceNavigation path earlier =
      none := by
    intro earlier
    have first : Request.amend contents (.hide .deviceNavigation path)
        .deviceNavigation path earlier = none := if_pos ⟨rfl, rfl⟩
    exact (Request.amendAll_of_elsewhere elsewhere contents _).trans first
  rw [course.collect_eq cut, Request.amendAll_append, Request.amendAll_append,
    requested, hidden]

/-- An import that ended since the last unmount of its device was running at the
unmount. -/
theorem running_of_ended
    (unmounts : unmount.operation = .unmount)
    (last : ∀ result : MountCompleted,
      .mountCompleted result ∈ after.filterMap RouterStep.event? →
        ¬ result.Reports path)
    {metadata : VolumeMetadata}
    (ended : metadata ∈ course.collectAfter .ends before
      (.mountCompleted unmount) after)
    (notifiable : metadata.notifiableDevicePath? = some path) :
    ∃ inquiry, .running metadata inquiry ∈
      (course.past before).router.tasks := by
  rcases Yield.started_or_running ended with started | ⟨inquiry, running⟩
  · rw [course.events_rest] at started
    obtain ⟨event, happened, starts⟩ := List.mem_filterMap.mp started
    obtain ⟨result, rfl, mounted, rfl⟩ := HostEvent.of_started? starts
    simp only [Router.startsImport, Bool.and_eq_true] at mounted
    exact absurd ⟨mounted.1.1, mounted.1.2,
      VolumeMetadata.devicePath_of_notifiable notifiable⟩ (last result happened)
  · refine ⟨inquiry, ?_⟩
    have starts : (HostEvent.mountCompleted unmount).started? = none := by
      simp [HostEvent.started?, Router.startsImport, unmounts]
    have kept := Router.tasks_dispatch setting (course.past before).router
      (.mountCompleted unmount)
    rw [starts] at kept
    have imports : ((course.past before).step setting
        (.router (.event (.mountCompleted unmount)))).imports =
        (course.past before).router.tasks := by
      rw [Service.imports, course.past_eq]
      rw [course.past_eq] at kept
      exact (List.append_nil _).trans kept
    rwa [imports] at running

/-- On a host that works, what one sees of navigation to a device after its last
unmount is what was requested since.  If one sees something, an import of the
device was still running at the unmount. -/
theorem navigation_after_unmount [ReliableHost σ] (works : Works host)
    (cut : course.steps = before ++ .event (.mountCompleted unmount) :: after)
    (reports : unmount.Reports path) (unmounts : unmount.operation = .unmount)
    (last : ∀ result : MountCompleted,
      .mountCompleted result ∈ after.filterMap RouterStep.event? →
        ¬ result.Reports path) :
    shown course.final.router.desk.host
        (Family.deviceNavigation.identity path) =
      Request.amendAll (Center.ofConfig setting.config).content
        (course.collectAfter (.requests setting) before
          (.mountCompleted unmount) after)
        .deviceNavigation path none ∧
      (shown course.final.router.desk.host
          (Family.deviceNavigation.identity path) ≠ none →
        ∃ metadata inquiry,
          .running metadata inquiry ∈ (course.past before).router.tasks ∧
            metadata.notifiableDevicePath? = some path) := by
  have unmounted := reports.unmountedPath? unmounts
  have seen := course.shown_final works .deviceNavigation path
  rw [amendAll_of_unmount _ cut unmounted] at seen
  refine ⟨seen, ?_⟩
  intro visible
  rw [seen] at visible
  obtain ⟨kind, message, own, requested⟩ :=
    Request.exists_show_of_amendAll visible
  cases NotificationKind.eq_deviceNavigation own
  obtain ⟨metadata, ended, notifiable⟩ := Yield.ended_of_show_run requested
  obtain ⟨inquiry, running⟩ := running_of_ended unmounts last ended notifiable
  exact ⟨metadata, inquiry, running, notifiable⟩

/-- If the import of a card that is pulled out failed before, nothing is
visible. -/
theorem navigation_hidden_after_pulledCard :
    shown promptCourse.final.router.desk.host
      (Family.deviceNavigation.identity "/dev/sdb") = none := by
  let before : List RouterStep :=
    [.event (.mountCompleted (.ofCard .success false)),
      .turn pulledSetting.collaborators (.task 0)]
  have cut : promptCourse.steps =
      before ++ .event (.mountCompleted pulledCard) :: [] := rfl
  have reports : pulledCard.Reports "/dev/sdb" := ⟨rfl, rfl, rfl⟩
  have works : Works ({} : Screen) := rfl
  have hidden := navigation_after_unmount works cut reports rfl (by simp)
  have ended : (promptCourse.past before).router.tasks = [.finished] := rfl
  by_contra visible
  obtain ⟨metadata, inquiry, running, _⟩ := hidden.2 visible
  rw [ended] at running
  exact absurd (List.mem_singleton.mp running) (by simp)

/-- If the import of a card that is pulled out fails only then, one sees the
navigation notification of the card in the end, though it was hidden at first
and the last that succeeded is the unmount. -/
theorem navigation_visible_after_pulledCard :
    shown ({} : Screen) (Family.deviceNavigation.identity "/dev/sdb") = none ∧
      lateCourse.steps =
        [.event (.mountCompleted (.ofCard .success false)),
          .event (.mountCompleted pulledCard)] ∧
      pulledCard.Reports "/dev/sdb" ∧ pulledCard.operation = .unmount ∧
      shown lateCourse.final.router.desk.host
        (Family.deviceNavigation.identity "/dev/sdb") ≠ none := by
  have visible : lateCourse.final.router.desk.host.shown.find?
      (Family.deviceNavigation.identity "/dev/sdb") ≠ none := by
    decide +kernel
  exact ⟨rfl, rfl, ⟨rfl, rfl, rfl⟩, rfl, visible⟩

end Course

end RemovableMedia
