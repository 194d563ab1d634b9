import RemovableMedia.Proofs.Host.Calls
import RemovableMedia.Proofs.Router.Balance
import RemovableMedia.Proofs.Router.Settling

/-!
# Shutting a router down

A course is all that happens to a router from its setup until whoever shuts it
down has waited for everything.  Events stop when the waiting begins; the
background work goes on in any order.  At the end of a course nothing is lost:
the imports that were started are over, and the requests that were made have
reached the host, each family in its order.
-/

namespace RemovableMedia

open HostCall

/-- What happens to a router that is set up for the host, and shut down. -/
structure Course {σ : Type} [NotificationHost σ] (setting : Setting)
    (host : σ) where
  /-- What happens until someone begins to shut the router down. -/
  steps : List RouterStep
  order : FlushOrder
  /-- What happens from then on. -/
  wait : List ServiceStep
  silent : ∀ step ∈ wait, step.event? = none
  settled : ((Service.opened setting host order).run setting
    (steps.map .router ++ .close :: wait)).stage = .settled

namespace Course

variable {σ : Type} [NotificationHost σ] {setting : Setting} {host : σ}
  (course : Course setting host)

/-- Some steps, and all that happens from the shutdown on. -/
def rest (after : List RouterStep) : List ServiceStep :=
  after.map .router ++ .close :: course.wait

def allSteps : List ServiceStep := course.rest course.steps

def opened : Service σ := .opened setting host course.order

def final : Service σ := course.opened.run setting course.allSteps

/-- What comes of the course, in order. -/
def collect {β : Type} (yield : Yield β) : List β :=
  yield.ofRun setting course.opened course.allSteps

def events : List HostEvent := course.steps.filterMap RouterStep.event?

theorem events_rest (after : List RouterStep) :
    ServiceStep.events (course.rest after) =
      after.filterMap RouterStep.event? := by
  have quiet : ServiceStep.events course.wait = [] :=
    List.filterMap_eq_nil_iff.mpr course.silent
  have served : ServiceStep.events (after.map .router) =
      after.filterMap RouterStep.event? := by
    rw [ServiceStep.events, List.filterMap_map]
    rfl
  rw [rest, ServiceStep.events_append, served, ServiceStep.events_cons, quiet]
  exact List.append_nil _

theorem events_allSteps :
    ServiceStep.events course.allSteps = course.events :=
  course.events_rest course.steps

theorem accounts : ∃ done, Router.Accounts setting host
    (course.collect (.requests setting)) done course.final.router :=
  Service.accounts_run (Service.accounts_opened setting host course.order)
    course.allSteps

theorem settling : course.final.Settling :=
  Service.settling_closed setting host course.order course.steps course.silent

/-- In the end no import runs and every queue is empty. -/
theorem confined : Router.Confined [] course.final.router :=
  course.settling.confined course.settled

theorem imports_final : course.final.imports = [] := by
  apply course.settling.imports_eq_nil
  rw [show course.final.stage = .settled from course.settled]
  rfl

theorem entries_final (family : Family) :
    (course.final.router.center.queues.get family).entries = [] :=
  course.confined.empty family List.not_mem_nil

/-- What was requested has been done, each family in its order. -/
theorem exists_done : ∃ done,
    course.final.router.desk.host = performAll done host ∧
      ∀ heading, under heading done = under heading
        (callsFor setting (course.collect (.requests setting))) := by
  obtain ⟨done, accounts⟩ := course.accounts
  refine ⟨done, accounts.host, ?_⟩
  intro heading
  by_cases known : ∃ family : Family, heading = family.heading
  · obtain ⟨family, rfl⟩ := known
    rw [accounts.calls, course.entries_final]
    exact (List.append_nil _).symm
  · have unrequested : ∀ call ∈ callsFor setting
        (course.collect (.requests setting)), headingOf call.id ≠ heading := by
      intro call member same
      obtain ⟨request, _, rfl⟩ := List.mem_map.mp member
      exact known ⟨_, same.symm.trans (request.headingOf_call _)⟩
    have undone : ∀ call ∈ done, headingOf call.id ≠ heading := by
      intro call member same
      obtain ⟨family, own⟩ := accounts.headed call member
      exact known ⟨family, same.symm.trans own⟩
    rw [under_of_none unrequested, under_of_none undone]

/-- What comes of a course is, in some order, what comes of its events and of
the imports that they start. -/
theorem collect_perm {β : Type} {yield : Yield β}
    (foreseen : ∀ step ∈ course.allSteps,
      yield.Foreseen setting step.collaborators?) :
    (course.collect yield).Perm
      (yield.ofEvents (yield.ofStart setting) {} course.events) := by
  have balance := yield.balance_run course.opened foreseen
  have fresh : course.opened.router.tracker = {} := rfl
  have before : course.opened.imports = [] := rfl
  have after : (course.opened.run setting course.allSteps).imports = [] :=
    course.imports_final
  rw [events_allSteps, fresh, before, after] at balance
  simpa [Yield.pending, collect] using balance

/-- Each import that an event started is over, once. -/
theorem ended_perm : (course.collect .ends).Perm
    (course.events.filterMap HostEvent.started?) := by
  rw [← Yield.ofEvents_ends setting {}]
  exact course.collect_perm fun step _ => Yield.foreseen_ends setting _

theorem calls_final [RecordingHost σ] (heading : String) :
    under heading (RecordingHost.calls course.final.router.desk.host) =
      under heading (RecordingHost.calls host) ++ under heading
        (callsFor setting (course.collect (.requests setting))) := by
  obtain ⟨done, performed, requested⟩ := course.exists_done
  rw [performed, RecordingHost.calls_performAll, under_append, requested]

/-! ## Nothing is lost -/

/-- However the background work went on, and whatever calls to the host failed:
in the end no import is pending or running, each import that an event started
has come to its end once, and the queues are idle.  The calls that requests of
events, presses of buttons and imports come to have each been made once, and
those under one heading in the order of the requests. -/
theorem shutdown_loses_nothing [RecordingHost σ]
    (course : Course setting host) :
    course.final.imports = [] ∧
      (course.collect .ends).Perm
        (course.events.filterMap HostEvent.started?) ∧
      (∀ family,
        (course.final.router.center.queues.get family).isIdle = true) ∧
      ∀ heading,
        under heading (RecordingHost.calls course.final.router.desk.host) =
          under heading (RecordingHost.calls host) ++ under heading
            (callsFor setting (course.collect (.requests setting))) := by
  refine ⟨course.imports_final, course.ended_perm, ?_, course.calls_final⟩
  intro family
  rw [Queue.eq_of_entries_nil (course.entries_final family)]
  rfl

/-! ## A card that is pulled out

A card is mounted and unmounted again.  Its volume has no identifier, so that
its import fails; but this may happen only after the card was unmounted.
-/

def pulledSetting : Setting where
  collaborators := fun _ => .failed (.unavailable "no such card")

def pulledCard : MountCompleted :=
  { MountCompleted.ofCard .success false with operation := .unmount }

/-- Waits for one import, and then gives each worker some turns before the next
queue is waited for. -/
def patience (turns : Nat) : List ServiceStep :=
  let collaborators := pulledSetting.collaborators
  [.proceed, .taken collaborators 0, .join 0, .proceed] ++
    Family.all.flatMap fun family =>
      List.replicate turns (.router (.turn collaborators (.worker family))) ++
        [.proceed]

theorem silent_patience_four : ∀ step ∈ patience 4, step.event? = none := by
  decide

/-- The import fails before the card is unmounted. -/
def promptCourse : Course pulledSetting ({} : Screen) where
  steps := [.event (.mountCompleted (.ofCard .success false)),
    .turn pulledSetting.collaborators (.task 0),
    .event (.mountCompleted pulledCard)]
  order := .standard
  wait := patience 4
  silent := silent_patience_four
  settled := by rfl

/-- The import fails after the card was unmounted. -/
def lateCourse : Course pulledSetting ({} : Screen) where
  steps := [.event (.mountCompleted (.ofCard .success false)),
    .event (.mountCompleted pulledCard)]
  order := .standard
  wait := patience 4
  silent := silent_patience_four
  settled := by rfl

end Course

end RemovableMedia
