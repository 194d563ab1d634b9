import Mathlib.Logic.Function.Basic
import RemovableMedia.Proofs.Notification.Request
import RemovableMedia.Proofs.Queue.Run

/-!
# Calls to a center and turns of its workers

An order takes a turn for each call that it makes to the host, and what it does
depends on the host alone.  Callers ask the center to show and hide
notifications, and between any two calls the workers of the queues take turns.
A turn makes one call to the host at most, so a list of calls and turns is an
interleaving of the workers and of their calls to the host.
-/

namespace RemovableMedia

/-! ## One order -/

namespace Order

variable {σ : Type} [NotificationHost σ]

/-- The host after the call that the order makes. -/
def afterCall (order : Order) (host : σ) : σ :=
  match order with
  | create id content => (NotificationHost.create id content host).2
  | createOnce _ _ => (NotificationHost.visibleIds host).2
  | clear id => (NotificationHost.clear id host).2

/-- What is left of an order to show once, when the host has answered what is
visible. -/
def restAfterAnswer (id : String) (content : NotificationContent) :
    Outcome (List String) → Option Order
  | .done visible => if id ∈ visible then none else some (create id content)
  | .failed _ => some (create id content)
  | .panicked => none

/-- What is left of the order after the call that it makes. -/
def restAfterCall (order : Order) (host : σ) : Option Order :=
  match order with
  | createOnce id content =>
      restAfterAnswer id content (NotificationHost.visibleIds host).1
  | _ => none

theorem host_resume (order : Order) (desk : Desk σ) :
    (order.resume desk).2.host = order.afterCall desk.host := by
  cases order with
  | create id content =>
      simp only [resume, afterCall]
      split <;> rfl
  | clear id =>
      simp only [resume, afterCall]
      split <;> rfl
  | createOnce id content =>
      simp only [resume, afterCall]
      split
      · split <;> rfl
      · rfl
      · rfl

theorem rest?_resume (order : Order) (desk : Desk σ) :
    (order.resume desk).1.rest? = order.restAfterCall desk.host := by
  cases order with
  | create id content =>
      simp only [resume, restAfterCall]
      split <;> rfl
  | clear id =>
      simp only [resume, restAfterCall]
      split <;> rfl
  | createOnce id content =>
      simp only [resume, restAfterCall]
      cases (NotificationHost.visibleIds desk.host).1 with
      | done visible =>
          by_cases shown : id ∈ visible
          · simp [restAfterAnswer, shown, Progress.rest?]
          · simp [restAfterAnswer, shown, Progress.rest?]
      | failed error => rfl
      | panicked => rfl

/-- Something is left of an order only if it is to create something once. -/
theorem eq_createOnce_of_rest {order rest : Order} {host : σ}
    (left : order.restAfterCall host = some rest) :
    ∃ id content, order = createOnce id content ∧ rest = create id content := by
  cases order with
  | create id content => simp [restAfterCall] at left
  | clear id => simp [restAfterCall] at left
  | createOnce id content =>
      refine ⟨id, content, rfl, ?_⟩
      change restAfterAnswer id content _ = some rest at left
      unfold restAfterAnswer at left
      split at left
      · split at left
        · simp at left
        · exact (Option.some.inj left).symm
      · exact (Option.some.inj left).symm
      · simp at left

end Order

/-- A turn of a worker that has an order in hand. -/
theorem Queue.turn_of_order {σ : Type} [NotificationHost σ]
    {queue : Queue Order} {order : Order} {behind : List (Entry Order)}
    (entries : queue.entries = .job order :: behind) (desk : Desk σ) :
    (queue.turn desk).2.1 =
        ⟨queue.name, order.restAfterCall desk.host, behind⟩ ∧
      (queue.turn desk).2.2.host = order.afterCall desk.host := by
  have left : (Routine.resume order desk).1.rest? =
      order.restAfterCall desk.host := order.rest?_resume desk
  rw [turn_of_job entries, left]
  exact ⟨rfl, order.host_resume desk⟩

/-! ## Calls -/

inductive CenterCall where
  | show (kind : NotificationKind) (devicePath : String)
      (message : Option String)
  | showOnce (kind : NotificationKind) (devicePath : String)
  | hide (kind : NotificationKind) (devicePath : String)
  deriving DecidableEq, Repr

namespace CenterCall

def family : CenterCall → Family
  | .show kind _ _ => kind.family
  | .showOnce kind _ => kind.family
  | .hide kind _ => kind.family

/-- The order that the call becomes. -/
def order (contents : Contents) : CenterCall → Order
  | .show kind path message =>
      .create (kind.idFor path).text (contents kind message)
  | .showOnce kind path =>
      .createOnce (kind.idFor path).text (contents kind none)
  | .hide kind path => .clear (kind.idFor path).text

theorem id_order (contents : Contents) (call : CenterCall) :
    ∃ path, (call.order contents).id = call.family.identity path := by
  rcases call with ⟨kind, path, message⟩ | ⟨kind, path⟩ | ⟨kind, path⟩
  · exact ⟨path, rfl⟩
  · exact ⟨path, rfl⟩
  · exact ⟨path, rfl⟩

end CenterCall

namespace Center

def accept (center : Center) : CenterCall → Center
  | .show kind path message => center.requestShow kind path message
  | .showOnce kind path => center.requestShowOnce kind path
  | .hide kind path => center.requestHide kind path

theorem accept_eq_submit (center : Center) (call : CenterCall) :
    center.accept call =
      center.submit call.family (call.order center.content) := by
  cases call <;> rfl

end Center

inductive CenterStep where
  | call (call : CenterCall)
  /-- The worker of a family has a turn. -/
  | turn (family : Family)
  deriving DecidableEq, Repr

/-- The calls among the steps, in order. -/
def CenterStep.call? : CenterStep → Option CenterCall
  | call own => some own
  | turn _ => none

/-! ## Turns at the host -/

/-- A turn of a worker. -/
structure HostTurn (σ : Type) where
  /-- The call to the center that the worker was not done with. -/
  call : Option CenterCall
  before : σ
  after : σ

/-- A center at work, with what its workers did so far. -/
structure Office (σ : Type) where
  center : Center
  desk : Desk σ
  /-- The calls that the worker of a family is not done with, in order. -/
  pending : Family → List CenterCall := fun _ => []
  /-- The turns of all workers, in order. -/
  turns : List (HostTurn σ) := []

namespace Office

variable {σ : Type}

def opened (config : HandlerConfig) (host : σ) : Office σ where
  center := .ofConfig config
  desk := { host }

variable [NotificationHost σ]

def step (office : Office σ) : CenterStep → Office σ
  | .call call =>
      { office with
        center := office.center.accept call
        pending := Function.update office.pending call.family
          (office.pending call.family ++ [call]) }
  | .turn family =>
      let (center, desk) := office.center.turn family office.desk
      let calls := office.pending family
      -- A worker is done with a call when nothing is left of its order.
      let pending :=
        if (center.queues.get family).current.isSome then calls else calls.tail
      { center
        desk
        pending := Function.update office.pending family pending
        turns := office.turns ++ [⟨calls.head?, office.desk.host, desk.host⟩] }

def run (office : Office σ) (steps : List CenterStep) : Office σ :=
  steps.foldl step office

theorem run_concat (office : Office σ) (steps : List CenterStep)
    (step : CenterStep) :
    office.run (steps ++ [step]) = (office.run steps).step step := by
  simp [run]

theorem content_step (office : Office σ) (step : CenterStep) :
    (office.step step).center.content = office.center.content := by
  cases step with
  | call call => cases call <;> rfl
  | turn family => rfl

end Office

end RemovableMedia
