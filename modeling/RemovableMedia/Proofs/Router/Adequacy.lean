import RemovableMedia.Proofs.Router.Shutdown

/-!
# Every router can be shut down

To wait in small steps is no more and no less than to wait in one go: after any
steps there is a course that ends, and it leaves the router as `Router.settle`
does, but for the order of what the queues write into the log.
-/

namespace RemovableMedia

namespace ServiceStep

/-- Steps with which whoever waits goes on, while no events happen. -/
def Silent (steps : List ServiceStep) : Prop :=
  ∀ step ∈ steps, step.event? = none

theorem Silent.append {first second : List ServiceStep} (early : Silent first)
    (late : Silent second) : Silent (first ++ second) := by
  intro step member
  rcases List.mem_append.mp member with inFirst | inSecond
  · exact early step inFirst
  · exact late step inSecond

theorem Silent.cons {step : ServiceStep} {steps : List ServiceStep}
    (now : step.event? = none) (later : Silent steps) :
    Silent (step :: steps) :=
  List.forall_mem_cons.mpr ⟨now, later⟩

end ServiceStep

open ServiceStep

namespace Center

variable {σ : Type} [NotificationHost σ]

/-- A mark makes no difference to what a flush of the family leaves. -/
theorem flushFamily_mark (center : Center) (family : Family) (desk : Desk σ) :
    let marked :=
      center.withQueue family ((center.queues.get family).mark 0)
    (marked.flushFamily desk family).1 =
        (center.flushFamily desk family).1 ∧
      (marked.flushFamily desk family).2.host =
        (center.flushFamily desk family).2.host := by
  intro marked
  have queue : marked.queues.get family =
      (center.queues.get family).mark 0 :=
    center.get_withQueue_self family _
  constructor
  · rw [center_flushFamily, center_flushFamily, queue]
    exact center.withQueue_withQueue family _ _
  · have entries : ((center.queues.get family).mark 0).entries =
        (center.queues.get family).entries ++ [.mark 0] := by
      simp [Queue.mark, Queue.entries]
    rw [host_flushFamily, host_flushFamily, queue, entries, hostAfter,
      List.foldl_append]
    rfl

/-- What a flush leaves does not depend on the log. -/
theorem flushFamilies_congr (families : List Family) {left right : Center}
    {leftDesk rightDesk : Desk σ} (center : left = right)
    (host : leftDesk.host = rightDesk.host) :
    (left.flushFamilies leftDesk families).1 =
        (right.flushFamilies rightDesk families).1 ∧
      (left.flushFamilies leftDesk families).2.host =
        (right.flushFamilies rightDesk families).2.host := by
  induction families generalizing left right leftDesk rightDesk with
  | nil => exact ⟨center, host⟩
  | cons family families induction =>
      subst right
      have hosts : (left.flushFamily leftDesk family).2.host =
          (left.flushFamily rightDesk family).2.host := by
        rw [host_flushFamily, host_flushFamily, host]
      exact induction rfl hosts

end Center

namespace Router

variable {σ : Type}

/-- What is left of an import after a turn finishes as the import does. -/
theorem finishTask_taskTurn (setting : Setting) (router : Router σ)
    (task : ImportTask) :
    (router.taskTurn setting task).1.finishTask setting
        (router.taskTurn setting task).2 = router.finishTask setting task := by
  rcases task with ⟨metadata, decision | ⟨entry, next⟩ | ⟨query, next⟩⟩ | _ | _
  · simp [taskTurn, finishTask, Inquiry.run]
  · rfl
  · cases answered : setting.collaborators query with
    | done answer => simp [taskTurn, finishTask, Inquiry.run, answered]
    | failed error => simp [taskTurn, finishTask, Inquiry.run, answered]
    | panicked => simp [taskTurn, finishTask, Inquiry.run, answered]
  · rfl
  · rfl

end Router

namespace Service

variable {σ : Type} [NotificationHost σ] {setting : Setting}

/-! ## The imports -/

/-- The service with the router after some imports that were waited for. -/
def noted (service : Service σ) (router : Router σ) (left : List ImportTask) :
    Service σ :=
  { service with router, stage := .imports left }

theorem step_join_first {service : Service σ} {task : ImportTask}
    {left : List ImportTask} (stage : service.stage = .imports (task :: left))
    (ended : task.isRunning = false) :
    service.step setting (.join 0) =
      service.noted (service.router.finishTask setting task) left := by
  obtain ⟨router, order, _⟩ := service
  cases stage
  cases task with
  | running metadata inquiry => simp [ImportTask.isRunning] at ended
  | finished => rfl
  | crashed => rfl

theorem step_taken_first (setting : Setting) {service : Service σ}
    {task : ImportTask} {left : List ImportTask}
    (stage : service.stage = .imports (task :: left)) :
    service.step setting (.taken setting.collaborators 0) =
      service.noted (service.router.taskTurn setting task).1
        ((service.router.taskTurn setting task).2 :: left) := by
  obtain ⟨router, order, _⟩ := service
  cases stage
  rfl

/-- The first import can be waited for, and then the router is as if it had been
finished in one go. -/
def CanFinish (setting : Setting) (task : ImportTask) : Prop :=
  ∀ (service : Service σ) left, service.stage = .imports (task :: left) →
    ∃ steps, Silent steps ∧ service.run setting steps =
      service.noted (service.router.finishTask setting task) left

theorem canFinish_of_ended {task : ImportTask}
    (ended : task.isRunning = false) :
    CanFinish (σ := σ) setting task := by
  intro service left stage
  refine ⟨[.join 0], .cons rfl (by simp [Silent]), ?_⟩
  exact step_join_first stage ended

theorem canFinish_of_afterTurn {task : ImportTask}
    (later : CanFinish (σ := σ) setting
      (task.afterTurn setting.collaborators)) :
    CanFinish (σ := σ) setting task := by
  intro service left stage
  let turned := service.router.taskTurn setting task
  have first := step_taken_first setting stage
  rw [← Router.taskTurn_snd setting service.router] at later
  obtain ⟨steps, silent, ran⟩ :=
    later (service.noted turned.1 (turned.2 :: left)) left rfl
  refine ⟨.taken setting.collaborators 0 :: steps, silent.cons rfl, ?_⟩
  change (service.step setting (.taken setting.collaborators 0)).run setting
    steps = _
  rw [first]
  refine ran.trans ?_
  change service.noted (turned.1.finishTask setting turned.2) left = _
  rw [Router.finishTask_taskTurn]

theorem canFinish (task : ImportTask) : CanFinish (σ := σ) setting task := by
  cases task with
  | finished => exact canFinish_of_ended rfl
  | crashed => exact canFinish_of_ended rfl
  | running metadata inquiry =>
      induction inquiry with
      | done decision => exact canFinish_of_afterTurn (canFinish_of_ended rfl)
      | report entry next induction => exact canFinish_of_afterTurn induction
      | ask query next induction =>
          apply canFinish_of_afterTurn
          simp only [ImportTask.afterTurn]
          split
          · next answer _ => exact induction (.ok answer)
          · next error _ => exact induction (.error error)
          · exact canFinish_of_ended rfl

theorem exists_run_tasks (setting : Setting) (tasks : List ImportTask)
    {service : Service σ}
    (stage : service.stage = .imports tasks) :
    ∃ steps, Silent steps ∧ service.run setting steps = service.noted
      (tasks.foldl (Router.finishTask setting) service.router) [] := by
  induction tasks generalizing service with
  | nil =>
      obtain ⟨router, order, _⟩ := service
      cases stage
      exact ⟨[], by simp [Silent], rfl⟩
  | cons task tasks induction =>
      obtain ⟨first, firstSilent, ran⟩ := canFinish task service tasks stage
      let finished :=
        service.noted (service.router.finishTask setting task) tasks
      have stage : finished.stage = .imports tasks := rfl
      obtain ⟨later, laterSilent, rest⟩ := induction stage
      refine ⟨first ++ later, firstSilent.append laterSilent, ?_⟩
      rw [run_append, ran, rest]
      rfl

/-- The imports can be waited for, and then the router is as if it had been
drained in one go. -/
theorem exists_run_drain (setting : Setting) {service : Service σ}
    (stage : service.stage = .imports []) :
    ∃ steps, Silent steps ∧ service.run setting steps =
      service.noted (service.router.drain setting) [] := by
  cases tasks : service.router.tasks with
  | nil =>
      have drained : service.router.drain setting = service.router := by
        obtain ⟨⟨_, _, _, _, _, _⟩, _, _⟩ := service
        cases tasks
        rfl
      refine ⟨[], by simp [Silent], ?_⟩
      rw [drained]
      obtain ⟨router, order, _⟩ := service
      cases stage
      rfl
  | cons task left =>
      have takenOver : service.step setting .proceed = service.takeOver := by
        change service.proceed = _
        unfold proceed
        rw [stage]
        simp [tasks]
      have waits : service.takeOver.stage = .imports service.router.tasks := rfl
      obtain ⟨steps, silent, ran⟩ :=
        exists_run_tasks setting service.router.tasks waits
      refine ⟨.proceed :: steps, silent.cons rfl, ?_⟩
      change (service.step setting .proceed).run setting steps = _
      rw [takenOver, ran]
      rfl

/-! ## The notifications -/

/-- Turns of the workers of some families. -/
def workerSteps (setting : Setting) (families : List Family) :
    List ServiceStep :=
  families.map fun family =>
    .router (.turn setting.collaborators (.worker family))

theorem silent_workerSteps (setting : Setting) (families : List Family) :
    Silent (workerSteps setting families) := by
  intro step member
  obtain ⟨family, _, rfl⟩ := List.mem_map.mp member
  rfl

/-- The service with what the workers left of the center and on the desk. -/
def worked (service : Service σ) (left : Center × Desk σ) : Service σ :=
  { service with
    router := { service.router with center := left.1, desk := left.2 } }

theorem run_workerSteps (families : List Family) (service : Service σ) :
    service.run setting (workerSteps setting families) =
      service.worked
        (service.router.center.turns service.router.desk families) := by
  induction families generalizing service with
  | nil => rfl
  | cons family families induction =>
      exact induction (service.worked
        (service.router.center.turn family service.router.desk))

omit [NotificationHost σ] in
theorem proceed_of_empty {service : Service σ} {family : Family}
    {families : List Family}
    (stage : service.stage = .notifications family families)
    (empty : (service.router.center.queues.get family).entries = []) :
    service.proceed = service.await families := by
  have reached :
      (service.router.center.queues.get family).isMarked = false := by
    simp [Queue.isMarked, empty]
  unfold proceed
  rw [stage]
  simp [reached]

/-- The queues can be waited for, and then the center and the host are as if all
of them had been flushed in one go. -/
theorem exists_run_await (setting : Setting) (families : List Family)
    (service : Service σ) :
    ∃ steps desk, Silent steps ∧
      desk.host = (service.router.center.flushFamilies service.router.desk
        families).2.host ∧
      (service.await families).run setting steps =
        { service.worked
            ((service.router.center.flushFamilies service.router.desk
              families).1, desk) with stage := .settled } := by
  induction families generalizing service with
  | nil => exact ⟨[], service.router.desk, by simp [Silent], rfl, rfl⟩
  | cons family families induction =>
      let center := service.router.center
      let desk := service.router.desk
      let waiting := service.await (family :: families)
      obtain ⟨count, sameCenter, sameHost⟩ :=
        waiting.router.center.exists_turns_flushFamily desk family
          (Nat.le_refl _)
      let left :=
        waiting.router.center.turns desk (List.replicate count family)
      obtain ⟨markCenter, markHost⟩ := center.flushFamily_mark family desk
      have leftCenter : left.1 = (center.flushFamily desk family).1 :=
        sameCenter.trans markCenter
      have leftHost : left.2.host = (center.flushFamily desk family).2.host :=
        sameHost.trans markHost
      let turned := waiting.worked left
      have ran : waiting.run setting
          (workerSteps setting (List.replicate count family)) = turned :=
        run_workerSteps _ waiting
      have empty : (turned.router.center.queues.get family).entries = [] := by
        change (left.1.queues.get family).entries = []
        rw [leftCenter, Center.entries_flushFamily, if_pos rfl]
      have stage : turned.stage = .notifications family families := rfl
      obtain ⟨steps, later, silent, host, rest⟩ := induction turned
      obtain ⟨flushedCenter, flushedHost⟩ :=
        Center.flushFamilies_congr families leftCenter leftHost
      refine ⟨workerSteps setting (List.replicate count family) ++
        .proceed :: steps, later, ?_, host.trans flushedHost, ?_⟩
      · exact (silent_workerSteps setting _).append (silent.cons rfl)
      · rw [run_append, ran]
        change (turned.proceed).run setting steps = _
        rw [proceed_of_empty stage empty, rest]
        change { service.worked ((left.1.flushFamilies left.2 families).1,
          later) with stage := .settled } = _
        rw [flushedCenter]
        rfl

end Service

namespace Router

variable {σ : Type}

/-- The two routers differ in their logs at most. -/
structure Alike (left right : Router σ) : Prop where
  tracker : left.tracker = right.tracker
  center : left.center = right.center
  host : left.desk.host = right.desk.host
  tasks : left.tasks = right.tasks
  outbox : left.outbox = right.outbox
  queries : left.queries = right.queries

end Router

/-- After any steps a router can be shut down, and then it is as if someone had
waited in one go, for the imports and then for the notifications. -/
theorem Course.exists_settled {σ : Type} [NotificationHost σ]
    (setting : Setting) (host : σ) (steps : List RouterStep) :
    ∃ course : Course setting host, course.steps = steps ∧
      course.final.router.Alike
        (((Router.ofConfig setting.config host).run setting steps).settle
          setting) := by
  let router := (Router.ofConfig setting.config host).run setting steps
  let closed : Service σ := ⟨router, .standard, .imports []⟩
  have waiting : closed.stage = .imports [] := rfl
  obtain ⟨waits, silent, drained⟩ := Service.exists_run_drain setting waiting
  let served := closed.noted (router.drain setting) []
  have idle : served.router.tasks = [] :=
    (Router.sends_drain setting router).tasks
  have proceeds : served.proceed = served.await Family.all := by
    change (if served.router.tasks.isEmpty then _ else _) = _
    rw [idle]
    rfl
  obtain ⟨later, desk, laterSilent, flushed, settled⟩ :=
    Service.exists_run_await setting Family.all served
  have ran : (Service.opened setting host .standard).run setting
      (steps.map .router ++ .close :: (waits ++ .proceed :: later)) =
      { served.worked ((served.router.center.flushFamilies served.router.desk
        Family.all).1, desk) with stage := .settled } := by
    rw [Service.run_append, Service.run_map_router]
    change closed.run setting (waits ++ .proceed :: later) = _
    rw [Service.run_append, drained]
    change served.proceed.run setting later = _
    rw [proceeds, settled]
  let course : Course setting host := {
    steps := steps
    order := .standard
    wait := waits ++ .proceed :: later
    silent := silent.append (laterSilent.cons rfl)
    settled := by rw [ran] }
  have final : course.final = { served.worked
      ((served.router.center.flushFamilies served.router.desk
        Family.all).1, desk) with stage := .settled } := ran
  refine ⟨course, rfl, ?_⟩
  rw [final]
  exact ⟨rfl, rfl, flushed, rfl, rfl, rfl⟩

end RemovableMedia
