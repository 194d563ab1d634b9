import RemovableMedia.Proofs.Import.Run
import RemovableMedia.Proofs.Router.Adequacy

/-!
# Routers that differ in their logs

Nothing that a router does depends on what was logged.  Two routers that differ
in their logs at most therefore differ in nothing else later, whatever happens
to both of them, and the same holds of two services that have come equally far
in shutting down.
-/

namespace RemovableMedia

/-! ## Questions to collaborators -/

/-- The question that is asked in the next turn of an import. -/
def ImportTask.nextQueries : ImportTask → List ImportQuery
  | running _ (.ask query _) => [query]
  | _ => []

/-- The questions that are asked until an import is over. -/
def ImportTask.lastQueries (collaborators : Collaborators) :
    ImportTask → List ImportQuery
  | running _ inquiry => (inquiry.run collaborators).queries
  | _ => []

namespace Router

variable {σ : Type}

theorem queries_foldl_execute (setting : Setting)
    (actions : List NotificationAction) (router : Router σ) :
    (actions.foldl (execute setting) router).queries = router.queries := by
  induction actions generalizing router with
  | nil => rfl
  | cons action actions induction =>
      rw [List.foldl_cons, induction]
      cases action with
      | «show» kind path message => rfl
      | hide kind path => rfl

theorem queries_track (setting : Setting) (router : Router σ)
    (event : MountCompleted) :
    (router.track setting event).queries = router.queries := by
  unfold track
  simp only
  split
  · rw [queries_foldl_execute]
    split <;> rfl
  · rfl

theorem queries_deviceChanged (router : Router σ) (event : DeviceChanged) :
    (router.deviceChanged event).queries = router.queries := by
  unfold deviceChanged
  cases event.change with
  | removed =>
      simp only [forget]
      split <;> rfl
  | disabled => rfl
  | hardUnplugged => rfl
  | formatStart => rfl
  | formatSuccess => rfl
  | formatFail => rfl
  | unknown code => rfl

theorem queries_buttonClicked (setting : Setting) (router : Router σ)
    (notificationId : String) :
    (router.buttonClicked setting notificationId).queries =
      router.queries := by
  unfold buttonClicked
  split
  · rfl
  · split
    · rfl
    · exact queries_send _ _

/-- Events ask nobody anything. -/
theorem queries_dispatch (setting : Setting) (router : Router σ)
    (event : HostEvent) :
    (router.dispatch setting event).queries = router.queries := by
  rcases event with change | result | click
  · exact queries_deviceChanged router change
  · simp only [dispatch, mountCompleted, queries_track]
    split
    · rfl
    · split <;> rfl
  · exact queries_buttonClicked setting router click.notificationId

theorem queries_taskTurn (setting : Setting) (router : Router σ)
    (task : ImportTask) :
    (router.taskTurn setting task).1.queries =
      router.queries ++ task.nextQueries := by
  rcases task with ⟨metadata, decision | ⟨entry, next⟩ | ⟨query, next⟩⟩ | _ | _
  · exact (queries_conclude router metadata decision).trans
      (List.append_nil _).symm
  · exact (List.append_nil _).symm
  · simp only [taskTurn]
    split <;> rfl
  · exact (List.append_nil _).symm
  · exact (List.append_nil _).symm

theorem queries_finishTask (setting : Setting) (router : Router σ)
    (task : ImportTask) :
    (router.finishTask setting task).queries =
      router.queries ++ task.lastQueries setting.collaborators := by
  rcases task with ⟨metadata, inquiry⟩ | _ | _
  · simp only [finishTask]
    split
    · rw [queries_conclude, queries_foldl_record]
      rfl
    · exact queries_foldl_record _ _
  · exact (List.append_nil _).symm
  · exact (List.append_nil _).symm

theorem queries_drain (setting : Setting) (router : Router σ) :
    (router.drain setting).queries = router.queries ++
      router.tasks.flatMap (ImportTask.lastQueries setting.collaborators) := by
  have finished : ∀ (tasks : List ImportTask) (router : Router σ),
      (tasks.foldl (finishTask setting) router).queries = router.queries ++
        tasks.flatMap (ImportTask.lastQueries setting.collaborators) := by
    intro tasks
    induction tasks with
    | nil => exact fun router => (List.append_nil _).symm
    | cons task tasks induction =>
        intro router
        rw [List.foldl_cons, induction, queries_finishTask, List.append_assoc,
          List.flatMap_cons]
  exact finished router.tasks { router with tasks := [] }

/-! ## Routers -/

namespace Alike

variable (setting : Setting) {left middle right : Router σ}

theorem refl (router : Router σ) : router.Alike router :=
  ⟨rfl, rfl, rfl, rfl, rfl, rfl⟩

theorem trans (first : left.Alike middle) (second : middle.Alike right) :
    left.Alike right :=
  ⟨first.tracker.trans second.tracker, first.center.trans second.center,
    first.host.trans second.host, first.tasks.trans second.tasks,
    first.outbox.trans second.outbox, first.queries.trans second.queries⟩

theorem record (alike : left.Alike right) (entry : LogEntry) :
    (left.record entry).Alike (right.record entry) :=
  ⟨alike.tracker, alike.center, alike.host, alike.tasks, alike.outbox,
    alike.queries⟩

/-- What an event asks for depends on the tracker alone. -/
theorem requests (alike : left.Alike right) (event : HostEvent) :
    left.requests setting event = right.requests setting event := by
  cases event with
  | deviceChanged event => rfl
  | mountCompleted event => simp only [Router.requests, alike.tracker]
  | buttonClicked event => rfl

theorem dispatch (alike : left.Alike right) (event : HostEvent) :
    (left.dispatch setting event).Alike (right.dispatch setting event) where
  tracker := by rw [tracker_dispatch, tracker_dispatch, alike.tracker]
  center := by
    rw [(makes_dispatch setting left event).center,
      (makes_dispatch setting right event).center, alike.center,
      alike.requests setting]
  host := by
    rw [(makes_dispatch setting left event).host,
      (makes_dispatch setting right event).host, alike.host]
  tasks := by rw [tasks_dispatch, tasks_dispatch, alike.tasks]
  outbox := by rw [outbox_dispatch, outbox_dispatch, alike.outbox]
  queries := by rw [queries_dispatch, queries_dispatch, alike.queries]

theorem taskTurn (alike : left.Alike right) (task : ImportTask) :
    (left.taskTurn setting task).1.Alike
      (right.taskTurn setting task).1 where
  tracker := by rw [tracker_taskTurn, tracker_taskTurn, alike.tracker]
  center := by
    rw [(makes_taskTurn setting left task).center,
      (makes_taskTurn setting right task).center, alike.center]
  host := by
    rw [(makes_taskTurn setting left task).host,
      (makes_taskTurn setting right task).host, alike.host]
  tasks := by
    rw [(sends_taskTurn setting left task).tasks,
      (sends_taskTurn setting right task).tasks, alike.tasks]
  outbox := by
    rw [(sends_taskTurn setting left task).outbox,
      (sends_taskTurn setting right task).outbox, alike.outbox]
  queries := by rw [queries_taskTurn, queries_taskTurn, alike.queries]

theorem drain (alike : left.Alike right) :
    (left.drain setting).Alike (right.drain setting) where
  tracker := by rw [tracker_drain, tracker_drain, alike.tracker]
  center := by
    rw [(makes_drain setting left).center, (makes_drain setting right).center,
      alike.center, alike.tasks]
  host := by
    rw [(makes_drain setting left).host, (makes_drain setting right).host,
      alike.host]
  tasks := by
    rw [(sends_drain setting left).tasks, (sends_drain setting right).tasks]
  outbox := by
    rw [(sends_drain setting left).outbox, (sends_drain setting right).outbox,
      alike.outbox, alike.tasks]
  queries := by rw [queries_drain, queries_drain, alike.queries, alike.tasks]

variable [NotificationHost σ]

theorem flush (alike : left.Alike right) : left.flush.Alike right.flush := by
  obtain ⟨center, host⟩ :=
    Center.flushFamilies_congr Family.all alike.center alike.host
  exact ⟨alike.tracker, center, host, alike.tasks, alike.outbox,
    alike.queries⟩

theorem workerTurn (alike : left.Alike right) (family : Family) :
    (left.turn setting (.worker family)).Alike
      (right.turn setting (.worker family)) := by
  obtain ⟨center, host⟩ := left.center.turn_congr family alike.host
  rw [alike.center] at center host
  exact ⟨alike.tracker, by simpa [turn, alike.center] using center,
    by simpa [turn, alike.center] using host, alike.tasks, alike.outbox,
    alike.queries⟩

theorem importTurn (alike : left.Alike right) (index : Nat) :
    (left.turn setting (.task index)).Alike
      (right.turn setting (.task index)) := by
  simp only [turn, alike.tasks]
  cases right.tasks[index]? with
  | none => exact alike
  | some task =>
      have turned := alike.taskTurn setting task
      refine ⟨turned.tracker, turned.center, turned.host, ?_, turned.outbox,
        turned.queries⟩
      simp only [turned.tasks, taskTurn_snd]

/-- Routers that differ in their logs at most are still so after any step. -/
theorem step (alike : left.Alike right) (step : RouterStep) :
    (left.step setting step).Alike (right.step setting step) := by
  cases step with
  | event event => exact alike.dispatch setting event
  | turn collaborators turn =>
      let setting := { setting with collaborators }
      cases turn with
      | worker family => exact alike.workerTurn setting family
      | task index => exact alike.importTurn setting index
  | drain collaborators => exact alike.drain { setting with collaborators }
  | flush => exact alike.flush

end Alike

end Router

/-! ## Services -/

namespace Service

variable {σ : Type}

/-- The two services have come equally far, and their routers differ in their
logs at most. -/
structure Alike (left right : Service σ) : Prop where
  router : left.router.Alike right.router
  order : left.order = right.order
  stage : left.stage = right.stage

namespace Alike

variable (setting : Setting) {left middle right : Service σ}

theorem refl (service : Service σ) : service.Alike service :=
  ⟨.refl service.router, rfl, rfl⟩

theorem trans (first : left.Alike middle) (second : middle.Alike right) :
    left.Alike right :=
  ⟨first.router.trans second.router, first.order.trans second.order,
    first.stage.trans second.stage⟩

theorem taken (alike : left.Alike right) : left.taken = right.taken := by
  simp only [Service.taken, alike.stage]

theorem imports (alike : left.Alike right) : left.imports = right.imports := by
  simp only [Service.imports, alike.taken, alike.router.tasks]

theorem close (alike : left.Alike right) : left.close.Alike right.close := by
  unfold Service.close
  rw [alike.stage]
  split
  · exact ⟨alike.router, alike.order, rfl⟩
  · exact alike

theorem takenTurn (alike : left.Alike right) (index : Nat) :
    (left.takenTurn setting index).Alike (right.takenTurn setting index) := by
  unfold Service.takenTurn
  rw [alike.taken]
  cases right.taken[index]? with
  | none => exact alike
  | some task =>
      refine ⟨alike.router.taskTurn setting task, alike.order, ?_⟩
      simp only [Router.taskTurn_snd]

theorem join (alike : left.Alike right) (index : Nat) :
    (left.join index).Alike (right.join index) := by
  unfold Service.join
  rw [alike.taken]
  split
  · exact ⟨alike.router, alike.order, rfl⟩
  · exact ⟨alike.router.record .importTaskFailed, alike.order, rfl⟩
  · exact alike

theorem takeOver (alike : left.Alike right) :
    left.takeOver.Alike right.takeOver where
  router :=
    ⟨alike.router.tracker, alike.router.center, alike.router.host, rfl,
      alike.router.outbox, alike.router.queries⟩
  order := alike.order
  stage := congrArg Stage.imports alike.router.tasks

theorem await (alike : left.Alike right) (families : List Family) :
    (left.await families).Alike (right.await families) := by
  cases families with
  | nil => exact ⟨alike.router, alike.order, rfl⟩
  | cons family families =>
      refine ⟨⟨alike.router.tracker, ?_, alike.router.host, alike.router.tasks,
        alike.router.outbox, alike.router.queries⟩, alike.order, rfl⟩
      simp only [Service.await, Router.mark, alike.router.center]

theorem proceed (alike : left.Alike right) :
    left.proceed.Alike right.proceed := by
  unfold Service.proceed
  rw [alike.stage, alike.router.tasks, alike.order]
  split
  · split
    · exact alike.await right.order.families
    · exact alike.takeOver
  · next family families _ =>
      rw [alike.router.center]
      split
      · exact alike
      · exact alike.await families
  · exact alike

variable [NotificationHost σ]

theorem step (alike : left.Alike right) (step : ServiceStep) :
    (left.step setting step).Alike (right.step setting step) := by
  cases step with
  | router step =>
      exact ⟨alike.router.step setting step, alike.order, alike.stage⟩
  | close => exact alike.close
  | taken collaborators index =>
      exact alike.takenTurn { setting with collaborators } index
  | join index => exact alike.join index
  | proceed => exact alike.proceed

end Alike

end Service

end RemovableMedia
