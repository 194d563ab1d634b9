import RemovableMedia.Proofs.Router.Requests
import RemovableMedia.Proofs.Router.Tracking

/-!
# Runs of the router

Between events, workers and imports take turns in any order, and what the
collaborators answer may change from turn to turn.  At any time someone may
wait for the imports, or for the notifications.  A run is a list of such steps.

On a host that works, the outlook of a device in a family moves with the
requests of the steps only; the turns of workers change nothing of it.  So
what is visible in the end follows from the requests that were made.
-/

namespace RemovableMedia

open ReliableHost

inductive RouterStep where
  | event (event : HostEvent)
  | turn (collaborators : Collaborators) (turn : Turn)
  /-- Someone waits for the imports. -/
  | drain (collaborators : Collaborators)
  /-- Someone waits for the notifications. -/
  | flush

def RouterStep.trackerSteps : RouterStep → List TrackerStep
  | .event happened => happened.trackerSteps
  | _ => []

namespace Router

variable {σ : Type}

/-- The requests that go with a step. -/
def stepRequests (setting : Setting) (router : Router σ) :
    RouterStep → List Request
  | .event event => router.requests setting event
  | .turn _ (.task index) =>
      (router.tasks[index]?).elim [] ImportTask.turnRequests
  | .turn _ (.worker _) => []
  | .drain collaborators =>
      router.tasks.flatMap (ImportTask.finalRequests collaborators)
  | .flush => []

variable [NotificationHost σ]

def step (setting : Setting) (router : Router σ) : RouterStep → Router σ
  | .event event => router.dispatch setting event
  | .turn collaborators turn =>
      router.turn { setting with collaborators } turn
  | .drain collaborators => router.drain { setting with collaborators }
  | .flush => router.flush

def run (setting : Setting) (router : Router σ) (steps : List RouterStep) :
    Router σ :=
  steps.foldl (step setting) router

theorem tracker_step (setting : Setting) (router : Router σ)
    (step : RouterStep) :
    (router.step setting step).tracker =
      router.tracker.run step.trackerSteps := by
  cases step with
  | event event => exact tracker_dispatch setting router event
  | turn collaborators turn =>
      cases turn with
      | worker family => rfl
      | task index =>
          simp only [Router.step, Router.turn]
          split
          · rfl
          · exact tracker_taskTurn _ router _
  | drain collaborators => exact tracker_drain _ router
  | flush => rfl

theorem mountStatus_settle (setting : Setting) (router : Router σ)
    (path : String) :
    (router.settle setting).mountStatus path = router.mountStatus path := by
  have drained := tracker_drain setting router
  exact congrArg (MountTracker.status · path) drained

variable [ReliableHost σ]

/-- What will be visible for a device in a family once all orders are carried
out. -/
def outlook (router : Router σ) (family : Family) (path : String) :
    Option NotificationContent :=
  router.center.outlook router.desk.host family path

/-- The host works, orders are in the right queues, and notifications have the
contents that the settings ask for. -/
structure Sound (setting : Setting) (router : Router σ) : Prop where
  works : Works router.desk.host
  addressed : router.center.Addressed
  content : router.center.content = (Center.ofConfig setting.config).content

theorem sound_ofConfig (setting : Setting) {host : σ} (works : Works host) :
    Sound setting (ofConfig setting.config host) where
  works := works
  addressed := Center.addressed_ofConfig setting.config
  content := rfl

variable {setting : Setting} {router next : Router σ}

theorem Makes.sound {requests : List Request}
    (made : Makes requests router next) (sound : Sound setting router) :
    Sound setting next where
  works := made.host ▸ sound.works
  addressed := by
    rw [made.center]
    exact Center.addressed_requestAll sound.addressed requests
  content := by
    rw [made.center, Center.content_requestAll, sound.content]

theorem Makes.outlook {requests : List Request}
    (made : Makes requests router next) (sound : Sound setting router)
    (family : Family) (path : String) :
    next.outlook family path =
      Request.amendAll (Center.ofConfig setting.config).content requests
        family path (router.outlook family path) := by
  unfold Router.outlook
  rw [made.center, made.host, Center.outlook_requestAll, sound.content]

theorem sound_of_advances (sound : Sound setting router)
    (advances : router.center.Advances next.center router.desk.host
      next.desk.host) : Sound setting next where
  works := advances.works
  addressed := advances.addressed
  content := advances.content.trans sound.content

/-- A step keeps a router sound, and moves the outlook along with its
requests. -/
theorem sound_and_outlook_step (sound : Sound setting router)
    (step : RouterStep) :
    Sound setting (router.step setting step) ∧
      ∀ family path, (router.step setting step).outlook family path =
        Request.amendAll (Center.ofConfig setting.config).content
          (router.stepRequests setting step) family path
          (router.outlook family path) := by
  cases step with
  | event event =>
      have made := makes_dispatch setting router event
      exact ⟨made.sound sound, made.outlook sound⟩
  | turn collaborators turn =>
      cases turn with
      | worker family =>
          have advances :=
            Center.advances_turn sound.addressed family sound.works
          exact ⟨sound_of_advances sound advances, advances.outlook⟩
      | task index =>
          have made :=
            makes_turn_task { setting with collaborators } router index
          exact ⟨made.sound sound, made.outlook sound⟩
  | drain collaborators =>
      have made := makes_drain { setting with collaborators } router
      exact ⟨made.sound sound, made.outlook sound⟩
  | flush =>
      have advances := Center.advances_flush sound.addressed sound.works
      exact ⟨sound_of_advances sound advances, advances.outlook⟩

theorem sound_run (sound : Sound setting router) (steps : List RouterStep) :
    Sound setting (router.run setting steps) := by
  induction steps generalizing router with
  | nil => exact sound
  | cons step steps induction =>
      exact induction (sound_and_outlook_step sound step).1

/-- The router was set up for a host that works, and any steps were taken
since. -/
def Arises (setting : Setting) (router : Router σ) : Prop :=
  ∃ (host : σ) (steps : List RouterStep), Works host ∧
    router = (ofConfig setting.config host).run setting steps

theorem Arises.sound (arises : Arises setting router) :
    Sound setting router := by
  obtain ⟨host, steps, works, rfl⟩ := arises
  exact sound_run (sound_ofConfig setting works) steps

/-! ## The end of a run -/

/-- Once everything is waited for, one sees what was to be expected; only
about the navigation notification the imports still had a say. -/
theorem shown_settle (sound : Sound setting router) {family : Family}
    (other : family ≠ .deviceNavigation) (path : String) :
    shown (router.settle setting).desk.host (family.identity path) =
      router.outlook family path := by
  obtain ⟨drained, amended⟩ :=
    sound_and_outlook_step sound (.drain setting.collaborators)
  have elsewhere :
      ∀ request ∈ router.stepRequests setting (.drain setting.collaborators),
        request.kind.family = family → request.devicePath ≠ path := by
    intro request member sameFamily
    obtain ⟨task, _, final⟩ := List.mem_flatMap.mp member
    rw [kind_of_mem_finalRequests final] at sameFamily
    exact absurd sameFamily.symm other
  calc
    shown (router.settle setting).desk.host (family.identity path) =
        (router.drain setting).outlook family path :=
      Center.shown_flush drained.addressed drained.works family path
    _ = router.outlook family path := by
      rw [← Request.amendAll_of_elsewhere elsewhere
        (Center.ofConfig setting.config).content (router.outlook family path)]
      exact amended family path

end Router

end RemovableMedia
