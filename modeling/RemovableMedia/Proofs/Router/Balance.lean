import RemovableMedia.Proofs.Router.Navigations

/-!
# The balance of a run

Whatever comes of an import may come early or late, and in part, but it comes
once.  So what came of a run, together with what is still to come of its
imports, is what comes of its events and of the imports that these started, in
some order.  With the events kept apart, what comes of them is in their order.
-/

namespace RemovableMedia

namespace ImportTask

variable {β : Type} (yielded : ImportTask → List β) {tasks : List ImportTask}
  {index : Nat} {task : ImportTask}

/-- One import goes on: what it loses is what came of it. -/
theorem perm_flatMap_set {rest : ImportTask} {part : List β}
    (found : tasks[index]? = some task)
    (split : yielded task = part ++ yielded rest) :
    (part ++ (tasks.set index rest).flatMap yielded).Perm
      (tasks.flatMap yielded) := by
  induction tasks generalizing index with
  | nil => simp at found
  | cons first tasks induction =>
      cases index with
      | zero =>
          cases found
          simp [split]
      | succ index =>
          have later := induction (by simpa using found)
          have moved := List.perm_append_comm_assoc part (yielded first)
            ((tasks.set index rest).flatMap yielded)
          exact moved.trans (later.append_left (yielded first))

theorem flatMap_eraseIdx (found : tasks[index]? = some task)
    (none : yielded task = []) :
    (tasks.eraseIdx index).flatMap yielded = tasks.flatMap yielded := by
  induction tasks generalizing index with
  | nil => simp at found
  | cons first tasks induction =>
      cases index with
      | zero =>
          cases found
          simp [none]
      | succ index =>
          have later := induction (by simpa using found)
          simp [later]

end ImportTask

namespace Yield

variable {β : Type} (yield : Yield β)

theorem flatMap_filter_isRunning (collaborators : Collaborators)
    (tasks : List ImportTask) :
    (tasks.filter ImportTask.isRunning).flatMap
        (yield.ofTask collaborators) =
      tasks.flatMap (yield.ofTask collaborators) := by
  induction tasks with
  | nil => rfl
  | cons task tasks induction =>
      cases running : task.isRunning with
      | true => simp [running, induction]
      | false =>
          simp [running, induction,
            yield.ofTask_of_not_running collaborators running]

/-- What becomes of an import from its start on. -/
def ofStart (setting : Setting) (metadata : VolumeMetadata) : List β :=
  yield.ofTask setting.collaborators
    (.start setting.config.mediaFolders metadata)

/-- What is still to come of the imports. -/
def pending (setting : Setting) (tasks : List ImportTask) : List β :=
  tasks.flatMap (yield.ofTask setting.collaborators)

/-- Whoever is consulted, the same comes of an import. -/
def Foreseen (setting : Setting) (consulted : Option Collaborators) : Prop :=
  ∀ collaborators, consulted = some collaborators →
    yield.ofTask collaborators = yield.ofTask setting.collaborators

variable {σ : Type}

theorem pending_dispatch (setting : Setting) (router : Router σ)
    (event : HostEvent) :
    yield.pending setting (router.dispatch setting event).tasks =
      yield.pending setting router.tasks ++
        event.started?.toList.flatMap (yield.ofStart setting) := by
  unfold pending
  rw [Router.tasks_dispatch]
  cases event.started? with
  | none => simp
  | some metadata =>
      simp [List.flatMap_append, yield.flatMap_filter_isRunning, ofStart]

variable [NotificationHost σ] {setting : Setting}

/-- A step of the router keeps the balance. -/
theorem balance_routerStep (router : Router σ) (step : RouterStep)
    (foreseen : yield.Foreseen setting step.collaborators?) :
    (yield.ofRouterStep router step ++
        yield.pending setting (router.step setting step).tasks).Perm
      (yield.ofEvents (yield.ofStart setting) router.tracker
          step.event?.toList ++
        yield.pending setting router.tasks) := by
  rcases step with event | ⟨collaborators, family | index⟩ | collaborators | _
  · have split : yield.ofEvents (yield.ofStart setting) router.tracker
        (RouterStep.event event).event?.toList =
        yield.ofEvent router.tracker event ++
          event.started?.toList.flatMap (yield.ofStart setting) :=
      List.append_nil _
    have dispatched := yield.pending_dispatch setting router event
    change (yield.ofEvent router.tracker event ++
      yield.pending setting (router.dispatch setting event).tasks).Perm _
    rw [split, dispatched, List.append_assoc]
    exact List.perm_append_comm.append_left _
  · exact List.Perm.refl _
  · simp only [Router.step, Router.turn, ofRouterStep]
    cases found : router.tasks[index]? with
    | none => exact List.Perm.refl _
    | some task =>
        have same := foreseen collaborators rfl
        have split := yield.ofTask_eq collaborators task
        rw [same] at split
        simp only [Router.taskTurn_snd, (Router.sends_taskTurn
          { setting with collaborators } router task).tasks]
        exact ImportTask.perm_flatMap_set _ found split
  · have none : (router.drain { setting with collaborators }).tasks = [] :=
      (Router.sends_drain { setting with collaborators } router).tasks
    simp only [Router.step, ofRouterStep, none, foreseen collaborators rfl]
    exact (List.append_nil _).symm ▸ List.Perm.refl _
  · exact List.Perm.refl _

theorem pending_append (setting : Setting) (first second : List ImportTask) :
    yield.pending setting (first ++ second) =
      yield.pending setting first ++ yield.pending setting second :=
  List.flatMap_append

/-- A step of a service keeps the balance. -/
theorem balance_step (service : Service σ) (step : ServiceStep)
    (foreseen : yield.Foreseen setting step.collaborators?) :
    (yield.ofStep service step ++
        yield.pending setting (service.step setting step).imports).Perm
      (yield.ofEvents (yield.ofStart setting) service.router.tracker
          step.event?.toList ++
        yield.pending setting service.imports) := by
  have moves := service.moves_step setting step
  generalize service.step setting step = next at moves
  cases moves with
  | router own =>
      have balance := yield.balance_routerStep service.router own foreseen
      have both := balance.append_right (yield.pending setting service.taken)
      rw [List.append_assoc, List.append_assoc, ← pending_append,
        ← pending_append] at both
      exact both
  | close stage =>
      have none : service.taken = [] := by simp [Service.taken, stage]
      rw [Service.imports, Service.imports, none]
      exact List.Perm.refl _
  | @turn collaborators index task stage found =>
      have same := foreseen collaborators rfl
      have split := yield.ofTask_eq collaborators task
      rw [same] at split
      have balance := (ImportTask.perm_flatMap_set _ found split).append_left
        (yield.pending setting service.router.tasks)
      have sent := Router.sends_taskTurn { setting with collaborators }
        service.router task
      rw [yield.ofStep_taken found, Router.taskTurn_snd, Service.imports,
        Service.imports, pending_append, pending_append, sent.tasks]
      exact (List.perm_append_comm_assoc _ _ _).trans balance
  | @join index task entries stage found ended =>
      have same : yield.pending setting (service.taken.eraseIdx index) =
          yield.pending setting service.taken :=
        ImportTask.flatMap_eraseIdx _ found
          (yield.ofTask_of_not_running _ ended)
      have kept := (Router.sends_foldl_record entries service.router).tasks
      rw [Service.imports, Service.imports, pending_append, pending_append,
        kept, ← same]
      exact List.Perm.refl _
  | takeOver stage =>
      have none : service.taken = [] := by simp [Service.taken, stage]
      rw [Service.imports, Service.imports, none, List.append_nil]
      exact List.Perm.refl _
  | @await families due =>
      have none : service.taken = [] := by
        cases due with
        | first stage => simp [Service.taken, stage]
        | next stage => simp [Service.taken, stage]
      rw [Service.imports, Service.imports, none]
      cases families with
      | nil => exact List.Perm.refl _
      | cons family families => exact List.Perm.refl _
  | nothing other idle =>
      rw [ofStep_of_idle _ other idle, ServiceStep.event?_of_ne other]
      exact List.Perm.refl _

/-- What came of a run, with what is still to come of its imports, is what
comes of its events and of the imports that there were and that they started. -/
theorem balance_run (service : Service σ) {steps : List ServiceStep}
    (foreseen : ∀ step ∈ steps,
      yield.Foreseen setting step.collaborators?) :
    (yield.ofRun setting service steps ++
        yield.pending setting (service.run setting steps).imports).Perm
      (yield.ofEvents (yield.ofStart setting) service.router.tracker
          (ServiceStep.events steps) ++
        yield.pending setting service.imports) := by
  induction steps generalizing service with
  | nil => exact List.Perm.refl _
  | cons step steps induction =>
      have first := yield.balance_step service step
        (foreseen step List.mem_cons_self)
      have later := induction (service.step setting step) fun later member =>
        foreseen later (List.mem_cons_of_mem _ member)
      rw [ServiceStep.events_cons, ofEvents_append,
        ← Service.tracker_step setting, ofRun, List.append_assoc,
        List.append_assoc]
      have delayed := later.append_left (yield.ofStep service step)
      have moved := delayed.trans (List.perm_append_comm_assoc _ _ _)
      have replaced := moved.trans (first.append_left _)
      exact replaced.trans (List.perm_append_comm_assoc _ _ _)

/-! ## Imports that end -/

theorem ofEvents_ends (setting : Setting) (tracker : MountTracker)
    (events : List HostEvent) :
    ends.ofEvents (ends.ofStart setting) tracker events =
      events.filterMap HostEvent.started? := by
  induction events generalizing tracker with
  | nil => rfl
  | cons event events induction =>
      rw [ofEvents, induction, List.filterMap_cons]
      cases event.started? with
      | none => rfl
      | some metadata => rfl

/-- An import ends in any case. -/
theorem foreseen_ends (setting : Setting) (consulted : Option Collaborators) :
    ends.Foreseen setting consulted := by
  intro collaborators _
  funext task
  cases task with
  | running metadata inquiry => rfl
  | finished => rfl
  | crashed => rfl

/-- An import that ends in a run was running before, or an event of the run
started it. -/
theorem started_or_running {service : Service σ} {steps : List ServiceStep}
    {metadata : VolumeMetadata}
    (ended : metadata ∈ ends.ofRun setting service steps) :
    metadata ∈ (ServiceStep.events steps).filterMap HostEvent.started? ∨
      ∃ inquiry, .running metadata inquiry ∈ service.imports := by
  have balance := ends.balance_run service fun step (_ : step ∈ steps) =>
    foreseen_ends setting step.collaborators?
  rw [ofEvents_ends] at balance
  have counted := balance.subset (List.mem_append_left _ ended)
  rcases List.mem_append.mp counted with started | pending
  · exact .inl started
  · obtain ⟨task, there, own⟩ := List.mem_flatMap.mp pending
    cases task with
    | running other inquiry =>
        cases List.mem_singleton.mp own
        exact .inr ⟨inquiry, there⟩
    | finished => exact absurd own List.not_mem_nil
    | crashed => exact absurd own List.not_mem_nil

/-! ## What does not come of imports -/

section Events

variable {yield} {counts : β → Bool}
  (silent : ∀ metadata decision?,
    (yield.ofEnd metadata decision?).filter counts = [])

include silent

theorem filter_ofTurn (collaborators : Collaborators) (task : ImportTask) :
    (yield.ofTurn collaborators task).filter counts = [] := by
  unfold ofTurn
  split
  · exact silent _ _
  · split
    · exact silent _ _
    · rfl
  · rfl

theorem filter_ofTask (collaborators : Collaborators) (task : ImportTask) :
    (yield.ofTask collaborators task).filter counts = [] := by
  cases task with
  | running metadata inquiry => exact silent _ _
  | finished => rfl
  | crashed => rfl

omit [NotificationHost σ] in
theorem filter_ofStep (service : Service σ) (step : ServiceStep) :
    (yield.ofStep service step).filter counts =
      (yield.ofEvents (fun _ => []) service.router.tracker
        step.event?.toList).filter counts := by
  have silentTurn : ∀ (task? : Option ImportTask) collaborators,
      (task?.elim [] (yield.ofTurn collaborators)).filter counts = [] := by
    intro task? collaborators
    cases task? with
    | none => rfl
    | some task => exact filter_ofTurn silent collaborators task
  rcases step with (event | ⟨collaborators, family | index⟩ | collaborators | _)
    | _ | ⟨collaborators, index⟩ | index | _
  · change (yield.ofEvent service.router.tracker event).filter counts = _
    cases started : event.started? with
    | none => simp [ServiceStep.event?, RouterStep.event?, ofEvents, started]
    | some metadata =>
        simp [ServiceStep.event?, RouterStep.event?, ofEvents, started]
  · rfl
  · exact silentTurn _ collaborators
  · change (service.router.tasks.flatMap
      (yield.ofTask collaborators)).filter counts = []
    rw [List.filter_flatMap]
    simp [filter_ofTask silent]
  · rfl
  · rfl
  · exact silentTurn _ collaborators
  · rfl
  · rfl

/-- What does not come of imports comes of the events alone, in their order,
however the imports go on. -/
theorem filter_ofRun (service : Service σ) (steps : List ServiceStep) :
    (yield.ofRun setting service steps).filter counts =
      (yield.ofEvents (fun _ => []) service.router.tracker
        (ServiceStep.events steps)).filter counts := by
  induction steps generalizing service with
  | nil => rfl
  | cons step steps induction =>
      rw [ServiceStep.events_cons, ofEvents_append,
        ← Service.tracker_step setting, ofRun, List.filter_append,
        List.filter_append, induction, filter_ofStep silent]

end Events

end Yield

end RemovableMedia
