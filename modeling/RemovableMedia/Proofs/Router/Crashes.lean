import RemovableMedia.Proofs.Router.CrashEntries
import RemovableMedia.Proofs.Router.Settling

/-!
# Imports that crash

Whoever shuts a router down notes the end of each import, and reports those that
crashed.  But an event that starts an import first drops those that are over, and
nobody is told of one that had crashed.  So each crash is reported in the end, or
it was overlooked in this way.
-/

namespace RemovableMedia

namespace ImportTask

/-- How many of the imports have crashed. -/
def crashCount (tasks : List ImportTask) : Nat :=
  tasks.countP isCrashed

theorem crashCount_append (first second : List ImportTask) :
    crashCount (first ++ second) = crashCount first + crashCount second :=
  List.countP_append

theorem crashCount_cons (task : ImportTask) (tasks : List ImportTask) :
    crashCount (task :: tasks) = task.isCrashed.toNat + crashCount tasks := by
  rw [crashCount, List.countP_cons, Nat.add_comm]
  cases task <;> rfl

theorem crashCount_eq_zero_iff {tasks : List ImportTask} :
    crashCount tasks = 0 ↔ crashed ∉ tasks := by
  rw [crashCount, List.countP_eq_zero]
  constructor
  · intro none there
    exact none crashed there rfl
  · intro none task there ended
    cases task with
    | running metadata inquiry => simp [isCrashed] at ended
    | finished => simp [isCrashed] at ended
    | crashed => exact none there

theorem crashCount_filter_isRunning (tasks : List ImportTask) :
    crashCount (tasks.filter isRunning) = 0 := by
  rw [crashCount_eq_zero_iff]
  intro there
  simpa [isRunning] using (List.mem_filter.mp there).2

variable {tasks : List ImportTask} {index : Nat} {task : ImportTask}

theorem crashCount_set (found : tasks[index]? = some task)
    (rest : ImportTask) :
    crashCount (tasks.set index rest) + task.isCrashed.toNat =
      crashCount tasks + rest.isCrashed.toNat := by
  induction tasks generalizing index with
  | nil => simp at found
  | cons first tasks induction =>
      cases index with
      | zero =>
          cases found
          simp only [List.set_cons_zero, crashCount_cons]
          omega
      | succ index =>
          have later := induction (by simpa using found)
          simp only [List.set_cons_succ, crashCount_cons]
          omega

theorem crashCount_eraseIdx (found : tasks[index]? = some task) :
    crashCount (tasks.eraseIdx index) + task.isCrashed.toNat =
      crashCount tasks := by
  induction tasks generalizing index with
  | nil => simp at found
  | cons first tasks induction =>
      cases index with
      | zero =>
          cases found
          simp only [List.eraseIdx_cons_zero, crashCount_cons]
          omega
      | succ index =>
          have later := induction (by simpa using found)
          simp only [List.eraseIdx_cons_succ, crashCount_cons]
          omega

/-- The imports report nothing but missing folders. -/
def AllDiscreet (tasks : List ImportTask) : Prop :=
  ∀ task ∈ tasks, task.Discreet

theorem AllDiscreet.of_getElem? (discreet : AllDiscreet tasks)
    (found : tasks[index]? = some task) : task.Discreet :=
  discreet task (List.mem_of_getElem? found)

theorem AllDiscreet.set (discreet : AllDiscreet tasks) {rest : ImportTask}
    (own : rest.Discreet) : AllDiscreet (tasks.set index rest) := by
  intro other member
  rcases List.mem_or_eq_of_mem_set member with there | rfl
  · exact discreet other there
  · exact own

end ImportTask

open ImportTask Yield

/-! ## Steps of a router -/

namespace Router

variable {σ : Type}

/-- The crashes that were reported, and those of imports that are still there. -/
def noticed (router : Router σ) : Nat :=
  router.reported + crashCount router.tasks

theorem noticed_record_importTaskFailed (router : Router σ) :
    (router.record .importTaskFailed).noticed = router.noticed + 1 :=
  (congrArg (· + crashCount router.tasks)
    router.desk.reported_record_importTaskFailed).trans
      (Nat.add_right_comm _ _ _)

/-- The crashed imports that are dropped when the event starts an import. -/
def overlookedBy (router : Router σ) (event : HostEvent) : Nat :=
  if event.started?.isSome then crashCount router.tasks else 0

theorem crashCount_dispatch (setting : Setting) (router : Router σ)
    (event : HostEvent) :
    crashCount (router.dispatch setting event).tasks +
      router.overlookedBy event = crashCount router.tasks := by
  rw [tasks_dispatch, overlookedBy]
  cases event.started? with
  | none => rfl
  | some metadata =>
      have fresh : crashCount
          [ImportTask.start setting.config.mediaFolders metadata] = 0 := rfl
      simp [crashCount_append, crashCount_filter_isRunning, fresh]

theorem allDiscreet_dispatch (setting : Setting) {router : Router σ}
    (discreet : AllDiscreet router.tasks) (event : HostEvent) :
    AllDiscreet (router.dispatch setting event).tasks := by
  rw [tasks_dispatch]
  cases event.started? with
  | none => exact discreet
  | some metadata =>
      intro task member
      rcases List.mem_append.mp member with kept | own
      · exact discreet task (List.mem_filter.mp kept).1
      · obtain rfl := List.mem_singleton.mp own
        exact discreet_start _ metadata

theorem reported_foldl_finishTask (setting : Setting)
    {tasks : List ImportTask} (discreet : AllDiscreet tasks)
    (router : Router σ) :
    (tasks.foldl (finishTask setting) router).reported =
      router.reported +
        (tasks.flatMap (crashes.ofTask setting.collaborators)).length +
        crashCount tasks := by
  induction tasks generalizing router with
  | nil => rfl
  | cons task tasks induction =>
      obtain ⟨own, others⟩ := List.forall_mem_cons.mp discreet
      have first := router.reported_finishTask setting own
      have later := induction others (router.finishTask setting task)
      rw [List.foldl_cons, later, first, List.flatMap_cons, List.length_append,
        crashCount_cons]
      omega

/-- An import that crashes in its turn stays among the imports. -/
theorem crashes_taskTurn (setting : Setting) (router : Router σ)
    {tasks : List ImportTask} {index : Nat} {task : ImportTask}
    (discreet : AllDiscreet tasks) (found : tasks[index]? = some task) :
    let turned := router.taskTurn setting task
    AllDiscreet (tasks.set index turned.2) ∧
      turned.1.reported + crashCount (tasks.set index turned.2) =
        router.reported + crashCount tasks +
          (crashes.ofTurn setting.collaborators task).length := by
  intro turned
  have own := discreet.of_getElem? found
  have left : turned.2 = task.afterTurn setting.collaborators :=
    router.taskTurn_snd setting task
  have quiet := router.reported_taskTurn setting own
  have crashing := crashes_ofTurn setting.collaborators task
  have counted := crashCount_set found turned.2
  rw [← left] at crashing
  refine ⟨discreet.set (left ▸ own.afterTurn _), ?_⟩
  change turned.1.reported = router.reported at quiet
  omega

variable [NotificationHost σ]

/-- A crash in a step of a router is noticed, and stays so unless it is
overlooked in the step. -/
theorem crashes_step (setting : Setting) {router : Router σ}
    (discreet : AllDiscreet router.tasks) (step : RouterStep) :
    AllDiscreet (router.step setting step).tasks ∧
      (router.step setting step).noticed +
          step.event?.elim 0 router.overlookedBy =
        router.noticed + (crashes.ofRouterStep router step).length := by
  rcases step with event | ⟨collaborators, family | index⟩ | collaborators | _
  · refine ⟨allDiscreet_dispatch setting discreet event, ?_⟩
    have dropped := router.crashCount_dispatch setting event
    change (router.dispatch setting event).noticed +
      router.overlookedBy event = router.noticed
    rw [noticed, noticed, reported_dispatch, ← dropped, Nat.add_assoc]
  · refine ⟨discreet, ?_⟩
    have worked := router.center.reported_turn family router.desk
    exact congrArg (· + crashCount router.tasks) worked
  · simp only [Router.step, turn, ofRouterStep]
    cases found : router.tasks[index]? with
    | none => exact ⟨discreet, rfl⟩
    | some task =>
        have kept := (sends_taskTurn { setting with collaborators } router
          task).tasks
        simp only [kept]
        exact router.crashes_taskTurn { setting with collaborators } discreet
          found
  · have none : (router.drain { setting with collaborators }).tasks = [] :=
      (sends_drain { setting with collaborators } router).tasks
    have counted := reported_foldl_finishTask { setting with collaborators }
      discreet { router with tasks := [] }
    simp only [Router.step, noticed, none, ofRouterStep]
    refine ⟨by simp [AllDiscreet], ?_⟩
    change (router.drain { setting with collaborators }).reported + 0 + 0 = _
    exact counted.trans (Nat.add_right_comm _ _ _)
  · refine ⟨discreet, ?_⟩
    have flushed := router.center.reported_flush router.desk
    exact congrArg (· + crashCount router.tasks) flushed

end Router

/-! ## Steps of a service -/

namespace Service

variable {σ : Type}

/-- The crashed imports that are dropped in the step. -/
def overlookedBy (service : Service σ) (step : ServiceStep) : Nat :=
  step.event?.elim 0 service.router.overlookedBy

theorem overlookedBy_eq_zero_iff {service : Service σ} {step : ServiceStep} :
    service.overlookedBy step = 0 ↔
      ∀ event, step = .router (.event event) → event.started?.isSome →
        .crashed ∉ service.router.tasks := by
  rcases step with (event | _ | _ | _) | _ | _ | _ | _
  · simp only [overlookedBy, ServiceStep.event?, RouterStep.event?,
      Option.elim_some, Router.overlookedBy, ite_eq_right_iff,
      crashCount_eq_zero_iff]
    constructor
    · rintro none _ ⟨⟩
      exact none
    · exact fun none => none event rfl
  all_goals simp [overlookedBy, ServiceStep.event?, RouterStep.event?]

/-- The crashes that were reported, and those of imports that are still to be
waited for. -/
def noticed (service : Service σ) : Nat :=
  service.router.reported + crashCount service.imports

theorem noticed_eq (service : Service σ) :
    service.noticed = service.router.noticed + crashCount service.taken := by
  rw [noticed, imports, crashCount_append, Router.noticed, Nat.add_assoc]

/-- The two services know the same of imports. -/
structure SameImports (service next : Service σ) : Prop where
  imports : next.imports = service.imports
  reported : next.router.reported = service.router.reported

theorem sameImports_close (service : Service σ) :
    SameImports service service.close := by
  unfold close
  split
  · next serving => exact ⟨by simp [imports, taken, serving], rfl⟩
  · exact ⟨rfl, rfl⟩

theorem sameImports_await {service : Service σ} (none : service.taken = [])
    (families : List Family) :
    SameImports service (service.await families) := by
  constructor
  · rw [imports, imports, none]
    cases families <;> rfl
  · cases families <;> rfl

/-- To wait for the next thing changes nothing about the imports. -/
theorem sameImports_proceed (service : Service σ) :
    SameImports service service.proceed := by
  unfold proceed
  split
  · next stage =>
      have none : service.taken = [] := by simp [taken, stage]
      split
      · exact sameImports_await none _
      · refine ⟨?_, rfl⟩
        rw [imports, imports, none, List.append_nil]
        rfl
  · next family families stage =>
      split
      · exact ⟨rfl, rfl⟩
      · exact sameImports_await (by simp [taken, stage]) families
  · exact ⟨rfl, rfl⟩

theorem SameImports.crashes {service next : Service σ}
    (same : SameImports service next)
    (discreet : AllDiscreet service.imports) :
    AllDiscreet next.imports ∧ next.noticed = service.noticed := by
  rw [noticed, noticed, same.imports, same.reported]
  exact ⟨discreet, rfl⟩

/-- The end of an import is noted: if it crashed, it is reported. -/
theorem crashes_join {service : Service σ}
    (discreet : AllDiscreet service.imports) (index : Nat) :
    AllDiscreet (service.join index).imports ∧
      (service.join index).noticed = service.noticed := by
  unfold join
  cases found : service.taken[index]? with
  | none => exact ⟨discreet, rfl⟩
  | some task =>
      have erased := crashCount_eraseIdx found
      have left : AllDiscreet
          (service.router.tasks ++ service.taken.eraseIdx index) := by
        obtain ⟨standing, waited⟩ := List.forall_mem_append.mp discreet
        refine List.forall_mem_append.mpr ⟨standing, fun other member => ?_⟩
        exact waited other (List.mem_of_mem_eraseIdx member)
      cases task with
      | running metadata inquiry => exact ⟨discreet, rfl⟩
      | finished =>
          refine ⟨left, ?_⟩
          rw [noticed_eq, noticed_eq, ← erased]
          rfl
      | crashed =>
          refine ⟨left, ?_⟩
          rw [noticed_eq, noticed_eq, ← erased, ← Nat.add_assoc,
            Nat.add_right_comm]
          exact congrArg (· + crashCount (service.taken.eraseIdx index))
            service.router.noticed_record_importTaskFailed

variable [NotificationHost σ]

/-- A crash in a step of a service is noticed, and stays so unless it is
overlooked in the step. -/
theorem crashes_step (setting : Setting) {service : Service σ}
    (discreet : AllDiscreet service.imports) (step : ServiceStep) :
    AllDiscreet (service.step setting step).imports ∧
      (service.step setting step).noticed + service.overlookedBy step =
        service.noticed + (crashes.ofStep service step).length := by
  obtain ⟨standing, waited⟩ := List.forall_mem_append.mp discreet
  -- Only a step of the router drops imports; to wait moves them at most.
  cases step with
  | router own =>
      obtain ⟨kept, balance⟩ := Router.crashes_step setting standing own
      refine ⟨List.forall_mem_append.mpr ⟨kept, waited⟩, ?_⟩
      rw [noticed_eq, noticed_eq, Nat.add_right_comm, Nat.add_right_comm _ _
        (crashes.ofStep service _).length]
      exact congrArg (· + crashCount service.taken) balance
  | close => exact service.sameImports_close.crashes discreet
  | taken collaborators index =>
      simp only [Service.step, takenTurn]
      cases found : service.taken[index]? with
      | none =>
          refine ⟨discreet, ?_⟩
          simp [ofStep, found, overlookedBy, ServiceStep.event?]
      | some task =>
          let turned :=
            service.router.taskTurn { setting with collaborators } task
          have kept : turned.1.tasks = service.router.tasks :=
            (Router.sends_taskTurn _ service.router task).tasks
          obtain ⟨left, balance⟩ :
              AllDiscreet (service.taken.set index turned.2) ∧
                turned.1.reported +
                    crashCount (service.taken.set index turned.2) =
                  service.router.reported + crashCount service.taken +
                    (crashes.ofTurn collaborators task).length :=
            service.router.crashes_taskTurn { setting with collaborators }
              waited found
          rw [noticed_eq, noticed_eq, ofStep_taken _ found]
          change AllDiscreet
              (turned.1.tasks ++ service.taken.set index turned.2) ∧
            turned.1.noticed + crashCount (service.taken.set index turned.2) =
              service.router.noticed + crashCount service.taken +
                (crashes.ofTurn collaborators task).length
          rw [Router.noticed, Router.noticed, kept]
          exact ⟨List.forall_mem_append.mpr ⟨standing, left⟩, by omega⟩
  | join index => exact crashes_join discreet index
  | proceed => exact service.sameImports_proceed.crashes discreet

/-! ## Runs of a service -/

/-- The crashed imports that are dropped in a run. -/
def overlooked (setting : Setting) (service : Service σ) :
    List ServiceStep → Nat
  | [] => 0
  | step :: steps =>
      service.overlookedBy step +
        overlooked setting (service.step setting step) steps

/-- The crashes of a run are noticed or overlooked. -/
theorem crashes_run (setting : Setting) {service : Service σ}
    (discreet : AllDiscreet service.imports) (steps : List ServiceStep) :
    (service.run setting steps).noticed + service.overlooked setting steps =
      service.noticed + (crashes.ofRun setting service steps).length := by
  induction steps generalizing service with
  | nil => rfl
  | cons step steps induction =>
      obtain ⟨kept, first⟩ := crashes_step setting discreet step
      have later := induction kept
      rw [ofRun, List.length_append, overlooked]
      change ((service.step setting step).run setting steps).noticed + _ = _
      omega

/-- None is overlooked exactly if there is none that crashed whenever an event
starts an import. -/
theorem overlooked_eq_zero_iff (setting : Setting) (service : Service σ)
    (steps : List ServiceStep) :
    service.overlooked setting steps = 0 ↔
      ∀ before event after,
        steps = before ++ .router (.event event) :: after →
          event.started?.isSome →
            .crashed ∉ (service.run setting before).router.tasks := by
  induction steps generalizing service with
  | nil => simp [overlooked]
  | cons step steps induction =>
      rw [overlooked, Nat.add_eq_zero_iff, overlookedBy_eq_zero_iff, induction]
      constructor
      · rintro ⟨now, later⟩ before event after split
        rcases before with _ | ⟨first, before⟩
        · obtain ⟨rfl, rfl⟩ := List.cons.inj split
          exact now event rfl
        · obtain ⟨rfl, rest⟩ := List.cons.inj split
          exact later before event after rest
      · intro none
        refine ⟨fun event same => none [] event steps (same ▸ rfl), ?_⟩
        intro before event after split
        exact none (step :: before) event after (congrArg (step :: ·) split)

/-- However the work goes on, by the time that all imports were waited for, each of
them that crashed was reported once, unless it still stood among the imports when
an event started another one.  So all are reported exactly if this was never the
case. -/
theorem crashes_reported_unless_overlooked (setting : Setting) (host : σ)
    (order : FlushOrder) (steps : List RouterStep) {wait : List ServiceStep}
    (silent : ∀ step ∈ wait, step.event? = none)
    (ended : ((opened setting host order).run setting
      (steps.map .router ++ .close :: wait)).stage.importsOver = true) :
    let start := opened setting host order
    let all := steps.map .router ++ .close :: wait
    let reported := (start.run setting all).router.reported
    let crashed := crashes.ofRun setting start all
    reported + start.overlooked setting all = crashed.length ∧
      (reported = crashed.length ↔
        ∀ before event after,
          all = before ++ .router (.event event) :: after →
            event.started?.isSome →
              .crashed ∉ (start.run setting before).router.tasks) := by
  intro start all reported crashed
  have settling := settling_closed setting host order steps silent
  have none : (start.run setting all).imports = [] :=
    settling.imports_eq_nil ended
  have balance : reported + start.overlooked setting all = crashed.length := by
    have fresh : AllDiscreet start.imports := by
      intro task there
      exact absurd there List.not_mem_nil
    have counted := crashes_run setting fresh all
    rw [noticed, none] at counted
    change reported + 0 + _ = 0 + 0 + crashed.length at counted
    omega
  refine ⟨balance, ?_⟩
  -- By the balance, none is unreported exactly if none was overlooked.
  rw [← overlooked_eq_zero_iff]
  omega

/-! ### Two cards

Whoever is asked about a card panics.  One card is mounted, its import crashes,
and then another card is mounted.
-/

def panicSetting : Setting where
  collaborators := fun _ => .panicked

def cardMounted : RouterStep :=
  .event (.mountCompleted
    { MountCompleted.ofCard .success false with
      volume.volumeId := some "removable:CARD" })

def firstCrashes : RouterStep := .turn panicSetting.collaborators (.task 0)

/-- Waits for one import. -/
def waitForOne : List ServiceStep :=
  [.proceed, .taken panicSetting.collaborators 0, .join 0, .proceed]

/-- Someone waits for the import of the first card before the second comes. -/
theorem crashes_reported_for_waitedCards :
    let start := opened panicSetting ({} : Screen) .standard
    let steps :=
      [cardMounted, firstCrashes, .drain panicSetting.collaborators, cardMounted]
    let all := steps.map .router ++ .close :: waitForOne
    let crashed := crashes.ofRun panicSetting start all
    (start.run panicSetting all).router.reported = crashed.length ∧
      crashed.length = 2 := by
  intro start steps all crashed
  have silent : ∀ step ∈ waitForOne, step.event? = none := by decide
  have balance : (start.run panicSetting all).router.reported +
      start.overlooked panicSetting all = crashed.length :=
    (crashes_reported_unless_overlooked panicSetting ({} : Screen) .standard
      steps silent (by decide)).1
  have none : start.overlooked panicSetting all = 0 := by decide
  rw [none, Nat.add_zero] at balance
  exact ⟨balance, by decide⟩

/-- Nobody waits for the import of the first card, and its crash is not
reported. -/
theorem crash_unreported_for_hastyCards :
    let start := opened panicSetting ({} : Screen) .standard
    let steps := [cardMounted, firstCrashes, cardMounted]
    let all := steps.map .router ++ .close :: waitForOne
    let final := start.run panicSetting all
    final.stage.importsOver = true ∧
      (crashes.ofRun panicSetting start all).length = 2 ∧
      final.router.reported = 1 := by
  decide

end Service

end RemovableMedia
