import RemovableMedia.Proofs.Router.Shutdown

/-!
# The last request decides

What is visible for a device in a family at the end of a course depends on the
last request about it, and on nothing else that happened to the host: the one
that was made last is carried out last.  To find it, a course is cut at an
event.
-/

namespace RemovableMedia

open HostCall

theorem lastAbout?_callsFor_of_elsewhere (setting : Setting)
    {requests : List Request} {family : Family} {path : String}
    (elsewhere : ∀ request ∈ requests, request.kind.family = family →
      request.devicePath ≠ path) :
    lastAbout? (family.identity path) (callsFor setting requests) = none := by
  have none : about (family.identity path) (callsFor setting requests) =
      [] := by
    apply about_of_none
    intro call member same
    obtain ⟨request, made, rfl⟩ := List.mem_map.mp member
    rw [Request.id_call] at same
    obtain ⟨sameFamily, samePath⟩ := Family.identity_eq_iff.mp same
    exact elsewhere request made sameFamily samePath
  rw [lastAbout?, none]
  rfl

/-- The last call about a device in a family leaves what the requests come
to. -/
theorem seenAfter_lastAbout?_callsFor (setting : Setting)
    (requests : List Request) (family : Family) (path : String)
    (now : Option NotificationContent) :
    seenAfter now
        (lastAbout? (family.identity path) (callsFor setting requests)) =
      Request.amendAll (Center.ofConfig setting.config).content requests
        family path now := by
  induction requests using List.reverseRecOn with
  | nil => rfl
  | append_singleton requests request induction =>
      let contents := (Center.ofConfig setting.config).content
      have own : (request.call contents).id = family.identity path ↔
          request.kind.family = family ∧ request.devicePath = path := by
        rw [Request.id_call, Family.identity_eq_iff]
      have added : callsFor setting (requests ++ [request]) =
          callsFor setting requests ++ [request.call contents] :=
        callsFor_append setting requests [request]
      rw [added, lastAbout?_concat, Request.amendAll_append]
      by_cases same : request.kind.family = family ∧ request.devicePath = path
      · rw [if_pos (own.mpr same)]
        change _ = request.amend contents family path _
        rw [Request.amend, if_pos same]
        cases request with
        | «show» kind path message => rfl
        | hide kind path => rfl
      · rw [if_neg (mt own.mp same), induction]
        exact (if_neg same).symm

/-- What is true of all that comes of each step is true of all that comes of a
run. -/
theorem Yield.forall_mem_ofRun {β σ : Type} [NotificationHost σ]
    {yield : Yield β} {setting : Setting} {Holds : β → Prop}
    {steps : List ServiceStep}
    (step : ∀ step ∈ steps, ∀ (service : Service σ),
      ∀ item ∈ yield.ofStep service step, Holds item)
    (service : Service σ) :
    ∀ item ∈ yield.ofRun setting service steps, Holds item := by
  induction steps generalizing service with
  | nil => exact fun _ member => absurd member List.not_mem_nil
  | cons first steps induction =>
      intro item member
      rcases List.mem_append.mp member with now | later
      · exact step first List.mem_cons_self service item now
      · exact induction
          (fun other member => step other (List.mem_cons_of_mem _ member)) _
          item later

namespace Service

open ReliableHost

variable {σ : Type} [NotificationHost σ] [ReliableHost σ] {setting : Setting}
  {host : σ}

/-- On a host that works, one sees in a family what was requested there as soon
as its worker has nothing left to do. -/
theorem shown_of_entries_nil (works : Works host) {order : FlushOrder}
    {steps : List ServiceStep} {family : Family}
    (empty : (((opened setting host order).run setting
      steps).router.center.queues.get family).entries = []) (path : String) :
    shown ((opened setting host order).run setting steps).router.desk.host
        (family.identity path) =
      Request.amendAll (Center.ofConfig setting.config).content
        ((Yield.requests setting).ofRun setting (opened setting host order)
          steps)
        family path (shown host (family.identity path)) := by
  obtain ⟨done, accounts⟩ :=
    accounts_run (accounts_opened setting host order) steps
  have made := accounts.calls family
  rw [empty, List.nil_append] at made
  have sameCalls : under family.heading (callsFor setting
      ((Yield.requests setting).ofRun setting (opened setting host order)
        steps)) = under family.heading done :=
    made.trans (List.append_nil _)
  have last : lastAbout? (family.identity path) done =
      lastAbout? (family.identity path) (callsFor setting
        ((Yield.requests setting).ofRun setting (opened setting host order)
          steps)) := by
    rw [← lastAbout?_under, headingOf_identity, ← sameCalls,
      ← headingOf_identity family path, lastAbout?_under]
  rw [accounts.host, (shown_performAll works done _).2, last,
    seenAfter_lastAbout?_callsFor]

end Service

namespace Course

variable {σ : Type} [NotificationHost σ] {setting : Setting} {host : σ}

/-! ## A course cut at an event -/

section Cut

variable (course : Course setting host) {before after : List RouterStep}
  {event : HostEvent}

/-- The service after the first steps. -/
def past (before : List RouterStep) : Service σ :=
  course.opened.run setting (before.map .router)

/-- The imports are not waited for yet. -/
theorem past_eq (before : List RouterStep) :
    course.past before = { course.opened with
      router := course.opened.router.run setting before } :=
  course.opened.run_map_router setting before

theorem allSteps_eq (cut : course.steps = before ++ .event event :: after) :
    course.allSteps = before.map .router ++
      .router (.event event) :: course.rest after := by
  simp [allSteps, rest, cut]

/-- What comes of the course after the event. -/
def collectAfter {β : Type} (yield : Yield β) (before : List RouterStep)
    (event : HostEvent) (after : List RouterStep) : List β :=
  yield.ofRun setting
    ((course.past before).step setting (.router (.event event)))
    (course.rest after)

theorem collect_eq (cut : course.steps = before ++ .event event :: after)
    {β : Type} (yield : Yield β) :
    course.collect yield =
      yield.ofRun setting course.opened (before.map .router) ++
        (yield.ofEvent (course.past before).router.tracker event ++
          course.collectAfter yield before event after) := by
  rw [collect, course.allSteps_eq cut, Yield.ofRun_append]
  rfl

end Cut

/-! ## The end -/

variable (course : Course setting host)

/-- The call that the last request about a device in a family comes to. -/
def lastCall? (family : Family) (path : String) : Option HostCall :=
  lastAbout? (family.identity path)
    (callsFor setting (course.collect (.requests setting)))

theorem exists_lastAbout : ∃ done,
    course.final.router.desk.host = performAll done host ∧
      ∀ (family : Family) path, lastAbout? (family.identity path) done =
        course.lastCall? family path := by
  obtain ⟨done, performed, requested⟩ := course.exists_done
  refine ⟨done, performed, ?_⟩
  intro family path
  rw [lastCall?, ← lastAbout?_under, requested, lastAbout?_under]

theorem hidden_final [ErasingHost σ] (erases : ErasingHost.Erases host)
    {family : Family} {path : String}
    (cleared : course.lastCall? family path =
      some (.clear (family.identity path))) :
    ¬ ErasingHost.Visible course.final.router.desk.host
      (family.identity path) := by
  obtain ⟨done, performed, last⟩ := course.exists_lastAbout
  rw [performed]
  apply (ErasingHost.hidden_performAll erases done _).2
  rw [last, cleared]

theorem shown_final [ReliableHost σ] (works : ReliableHost.Works host)
    (family : Family) (path : String) :
    ReliableHost.shown course.final.router.desk.host (family.identity path) =
      Request.amendAll (Center.ofConfig setting.config).content
        (course.collect (.requests setting)) family path
        (ReliableHost.shown host (family.identity path)) :=
  Service.shown_of_entries_nil works (course.entries_final family) path

end Course

end RemovableMedia
