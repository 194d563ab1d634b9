import RemovableMedia.Proofs.Router.Account
import RemovableMedia.Proofs.Router.Navigations

/-!
# How a service settles

Once the imports are over and no events happen any more, nothing new gets into
the queues: what is in them only becomes less.  So a queue whose mark was
reached is empty from then on, and when the last mark is reached all of them
are.
-/

namespace RemovableMedia

namespace Queue

/-- Nothing stands in the queue that nobody waits for. -/
def EndsMarked {Job : Type} (queue : Queue Job) : Prop :=
  queue.entries = [] ∨
    ∃ before waiter, queue.entries = before ++ [.mark waiter]

theorem EndsMarked.suffix {Job : Type} {queue next : Queue Job}
    (marked : queue.EndsMarked) (left : next.entries <:+ queue.entries) :
    next.EndsMarked := by
  rcases marked with empty | ⟨before, waiter, entries⟩
  · rw [empty] at left
    exact .inl (List.suffix_nil.mp left)
  · rw [entries] at left
    rcases List.suffix_concat_iff.mp left with none | ⟨nextBefore, same, _⟩
    · exact .inl none
    · exact .inr ⟨nextBefore, waiter, same⟩

theorem EndsMarked.empty {Job : Type} {queue : Queue Job}
    (marked : queue.EndsMarked) (reached : queue.isMarked = false) :
    queue.entries = [] := by
  rcases marked with empty | ⟨before, waiter, entries⟩
  · exact empty
  · simp [isMarked, entries, Entry.isMark] at reached

end Queue

/-- Are the imports over? -/
def Stage.importsOver : Stage → Bool
  | serving => false
  | imports _ => false
  | notifications _ _ => true
  | settled => true

namespace Router

variable {σ : Type}

/-- No imports run, and only the queues of these families have something in
them. -/
structure Confined (families : List Family) (router : Router σ) : Prop where
  tasks : router.tasks = []
  empty : ∀ family, family ∉ families →
    (router.center.queues.get family).entries = []

/-- No imports run, and queues have become shorter at most. -/
structure Ebbs (router next : Router σ) : Prop where
  tasks : next.tasks = []
  left : ∀ family, (next.center.queues.get family).entries <:+
    (router.center.queues.get family).entries

theorem Ebbs.refl {router : Router σ} (tasks : router.tasks = []) :
    Ebbs router router :=
  ⟨tasks, fun _ => List.suffix_refl _⟩

theorem Confined.ebbs {families : List Family} {router next : Router σ}
    (confined : Confined families router) (ebbs : Ebbs router next) :
    Confined families next := by
  refine ⟨ebbs.tasks, ?_⟩
  intro family outside
  have left := ebbs.left family
  rw [confined.empty family outside] at left
  exact List.suffix_nil.mp left

variable [NotificationHost σ]

/-- Where no imports run, a step without an event adds nothing to a queue. -/
theorem ebbs_step (setting : Setting) {router : Router σ}
    (orderly : router.center.Orderly) (tasks : router.tasks = [])
    {step : RouterStep} (silent : step.event? = none) :
    Ebbs router (router.step setting step) := by
  rcases step with event | ⟨collaborators, family | index⟩ | collaborators | _
  · simp [RouterStep.event?] at silent
  · obtain ⟨done, performed⟩ :=
      Center.performs_turn orderly family router.desk
    exact ⟨tasks, performed.left⟩
  · simp only [Router.step, turn, tasks, List.getElem?_nil]
    exact .refl tasks
  · simp only [Router.step, drain, tasks, List.foldl_nil]
    exact ⟨rfl, fun _ => List.suffix_refl _⟩
  · obtain ⟨done, performed⟩ := Center.performs_flush orderly router.desk
    exact ⟨tasks, performed.left⟩

end Router

namespace Service

open Router

variable {σ : Type}

/-- What is true of a service that settles: only the queues that are still to
be waited for have something in them. -/
def Settling (service : Service σ) : Prop :=
  match service.stage with
  | .serving => True
  | .imports _ => True
  | .notifications family families =>
      Confined (family :: families) service.router ∧
        (service.router.center.queues.get family).EndsMarked
  | .settled => Confined [] service.router

/-- A service that has settled has nothing left to do. -/
theorem Settling.confined {service : Service σ} (settling : service.Settling)
    (settled : service.stage = .settled) : Confined [] service.router := by
  unfold Settling at settling
  rw [settled] at settling
  exact settling

theorem Settling.waiting {service : Service σ} (settling : service.Settling)
    {family : Family} {families : List Family}
    (stage : service.stage = .notifications family families) :
    Confined (family :: families) service.router ∧
      (service.router.center.queues.get family).EndsMarked := by
  unfold Settling at settling
  rw [stage] at settling
  exact settling

/-- Once the imports are over, none is left. -/
theorem Settling.imports_eq_nil {service : Service σ}
    (settling : service.Settling) (ended : service.stage.importsOver = true) :
    service.imports = [] := by
  obtain ⟨router, order, stage⟩ := service
  cases stage with
  | serving => simp [Stage.importsOver] at ended
  | imports taken => simp [Stage.importsOver] at ended
  | notifications family families =>
      have confined : Confined (family :: families) router := settling.1
      simp [imports, taken, confined.tasks]
  | settled =>
      have confined : Confined [] router := settling
      simp [imports, taken, confined.tasks]

theorem settling_await {service : Service σ} {families : List Family}
    (confined : Confined families service.router) :
    (service.await families).Settling := by
  cases families with
  | nil => exact confined
  | cons family families =>
      refine ⟨⟨confined.tasks, ?_⟩, ?_⟩
      · intro other outside
        have different : other ≠ family :=
          fun same => outside (same ▸ List.mem_cons_self)
        change ((service.router.mark family).center.queues.get other).entries =
          []
        rw [entries_mark, if_neg different]
        exact confined.empty other outside
      · refine .inr ⟨(service.router.center.queues.get family).entries, 0, ?_⟩
        change ((service.router.mark family).center.queues.get family).entries =
          _
        rw [entries_mark, if_pos rfl]

variable [NotificationHost σ] {setting : Setting}

theorem settling_step {service : Service σ}
    (orderly : service.router.center.Orderly) (settling : service.Settling)
    {step : ServiceStep} (silent : step.event? = none) :
    (service.step setting step).Settling := by
  have moves := service.moves_step setting step
  generalize service.step setting step = next at moves
  cases moves with
  | router own =>
      obtain ⟨router, order, stage⟩ := service
      cases stage with
      | serving => exact trivial
      | imports taken => exact trivial
      | notifications family families =>
          obtain ⟨confined, marked⟩ := settling
          have ebbs := ebbs_step setting orderly confined.tasks silent
          exact ⟨confined.ebbs ebbs, marked.suffix (ebbs.left family)⟩
      | settled =>
          have confined : Confined [] router := settling
          exact confined.ebbs (ebbs_step setting orderly confined.tasks silent)
  | close => exact trivial
  | turn => exact trivial
  | join => exact trivial
  | takeOver => exact trivial
  | await due =>
      apply settling_await
      cases due with
      | first stage none =>
          exact ⟨none, fun family outside =>
            absurd (service.order.complete family) outside⟩
      | @next family _ stage reached =>
          obtain ⟨confined, marked⟩ := settling.waiting stage
          refine ⟨confined.tasks, ?_⟩
          intro other outside
          by_cases same : other = family
          · subst other
            exact marked.empty reached
          · exact confined.empty other (by simp [same, outside])
  | nothing => exact settling

/-- Without events a service that settles goes on settling. -/
theorem settling_run {host : σ} {requests : List Request}
    {done : List HostCall} {service : Service σ}
    (accounts : Accounts setting host requests done service.router)
    (settling : service.Settling) {steps : List ServiceStep}
    (silent : ∀ step ∈ steps, step.event? = none) :
    (service.run setting steps).Settling := by
  induction steps generalizing service requests done with
  | nil => exact settling
  | cons step steps induction =>
      have quiet := silent step List.mem_cons_self
      obtain ⟨_, stepped⟩ := accounts_step accounts step
      exact induction stepped
        (settling_step accounts.orderly settling quiet)
        fun later member => silent later (List.mem_cons_of_mem _ member)

/-- A service that no event reaches any more, once it is being shut down,
settles. -/
theorem settling_closed (setting : Setting) (host : σ) (order : FlushOrder)
    (steps : List RouterStep) {wait : List ServiceStep}
    (silent : ∀ step ∈ wait, step.event? = none) :
    ((opened setting host order).run setting
      (steps.map .router ++ .close :: wait)).Settling := by
  let start := opened setting host order
  obtain ⟨done, accounts⟩ := accounts_run
    (accounts_opened setting host order) (steps.map .router)
  have serving : (start.run setting (steps.map .router)).Settling := by
    rw [run_map_router]
    exact trivial
  rw [run_append]
  apply settling_run accounts serving
  intro step member
  rcases List.mem_cons.mp member with rfl | waited
  · rfl
  · exact silent step waited

end Service

end RemovableMedia
