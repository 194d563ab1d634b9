import RemovableMedia.Config.Settings
import RemovableMedia.Host.Basic
import RemovableMedia.Notification.Identity
import RemovableMedia.Notification.PerFamily
import RemovableMedia.Queue.Basic

/-!
# The notification center

Showing and hiding notifications is ordered at once and done later.  Orders
for one family go through one queue, so they reach the host in the order in
which they were given, whichever kind they are for.
-/

namespace RemovableMedia

/-- What a queue of the center has to do. -/
inductive Order where
  | create (id : String) (content : NotificationContent)
  /-- Creates a notification unless one with its identity is visible. -/
  | createOnce (id : String) (content : NotificationContent)
  | clear (id : String)
  deriving DecidableEq, Repr

/-- The host that orders are carried out on, and the log about it. -/
structure Desk (σ : Type) where
  host : σ
  log : Log := []

namespace Desk

variable {σ : Type}

def record (desk : Desk σ) (entry : LogEntry) : Desk σ :=
  { desk with log := desk.log ++ [entry] }

theorem foldl_record (entries : List LogEntry) (desk : Desk σ) :
    entries.foldl record desk = { desk with log := desk.log ++ entries } := by
  induction entries generalizing desk with
  | nil => simp
  | cons entry entries induction =>
      rw [List.foldl_cons, induction (desk.record entry)]
      simp [record]

end Desk

namespace Order

variable {σ : Type} [NotificationHost σ]

/-- The number of turns that may follow the next. -/
def turns : Order → Nat
  | createOnce _ _ => 1
  | _ => 0

/-- One call to the host.  An order to create once makes its second call in a
turn of its own. -/
def resume (order : Order) (desk : Desk σ) : Progress Order × Desk σ :=
  match order with
  | create id content =>
      let (outcome, host) := NotificationHost.create id content desk.host
      let desk := { desk with host }
      match outcome with
      | .done () => (.completed, desk)
      | .failed error => (.completed, desk.record (.showFailed id error))
      | .panicked => (.panicked, desk)
  | createOnce id content =>
      let (outcome, host) := NotificationHost.visibleIds desk.host
      let desk := { desk with host }
      match outcome with
      | .done visible =>
          if id ∈ visible then (.completed, desk.record (.alreadyVisible id))
          else (.pending (create id content), desk)
      | .failed error =>
          (.pending (create id content), desk.record (.listFailed error))
      | .panicked => (.panicked, desk)
  | clear id =>
      let (outcome, host) := NotificationHost.clear id desk.host
      let desk := { desk with host }
      match outcome with
      | .done true => (.completed, desk.record (.cleared id))
      | .done false => (.completed, desk)
      | .failed error => (.completed, desk.record (.clearFailed id error))
      | .panicked => (.panicked, desk)

instance : Routine Order (Desk σ) where
  resume := resume
  turns := turns
  turns_decrease order rest desk pending := by
    unfold resume at pending
    cases order with
    | create id content =>
        simp only at pending
        split at pending <;> simp at pending
    | createOnce id content =>
        simp only at pending
        split at pending
        · split at pending
          · simp at pending
          · simp only [Progress.pending.injEq] at pending
            simp [← pending, turns]
        · simp only [Progress.pending.injEq] at pending
          simp [← pending, turns]
        · simp at pending
    | clear id =>
        simp only at pending
        split at pending <;> simp at pending

end Order

/-- The queues of all families, and what notifications are made of. -/
structure Center where
  messages : MessageCatalog
  icon : String
  queues : PerFamily (Queue Order)

namespace Center

/-- A center with nothing to do. -/
def ofConfig (config : HandlerConfig) : Center where
  messages := config.messages
  icon := config.icon
  queues := .tabulate fun family => { name := family.heading }

/-- What a kind shows: its template, with another message if one is given. -/
def content (center : Center) (kind : NotificationKind)
    (message : Option String) : NotificationContent :=
  let template := center.messages.template kind
  { title := template.title
    message := message.getD template.message
    icon := center.icon
    buttonLabel := template.buttonLabel }

/-- Puts an order in the queue of its family. -/
def submit (center : Center) (family : Family) (order : Order) : Center :=
  let queue := (center.queues.get family).submit order
  { center with queues := center.queues.set family queue }

/-- Orders to create or update the notification of a kind for a device. -/
def requestShow (center : Center) (kind : NotificationKind) (devicePath : String)
    (message : Option String) : Center :=
  let id := (kind.idFor devicePath).text
  center.submit kind.family (.create id (center.content kind message))

/-- Orders to create the notification of a kind for a device, unless one with
its identity is visible. -/
def requestShowOnce (center : Center) (kind : NotificationKind)
    (devicePath : String) : Center :=
  let id := (kind.idFor devicePath).text
  center.submit kind.family (.createOnce id (center.content kind none))

/-- Orders to remove the notification of a kind for a device. -/
def requestHide (center : Center) (kind : NotificationKind)
    (devicePath : String) : Center :=
  center.submit kind.family (.clear (kind.idFor devicePath).text)

/-- Are all queues empty and all workers at rest? -/
def isIdle (center : Center) : Bool :=
  Family.all.all fun family => (center.queues.get family).isIdle

variable {σ : Type} [NotificationHost σ]

/-- The entry that a report of a queue asks for. -/
def reportLog? (family : Family) : Report → Option LogEntry :=
  Report.log? family.heading

/-- One turn of the worker of a family. -/
def turn (center : Center) (family : Family) (desk : Desk σ) :
    Center × Desk σ :=
  let (report, queue, desk) := (center.queues.get family).turn desk
  ({ center with queues := center.queues.set family queue },
    (reportLog? family report).elim desk desk.record)

/-- Lets the worker of a family run until its queue is empty. -/
def flushFamily (center : Center) (desk : Desk σ) (family : Family) :
    Center × Desk σ :=
  let (reports, queue, desk) := (center.queues.get family).flush desk
  ({ center with queues := center.queues.set family queue },
    (reports.filterMap (reportLog? family)).foldl Desk.record desk)

/-- Waits until every order is carried out. -/
def flush (center : Center) (desk : Desk σ) : Center × Desk σ :=
  Family.all.foldl (fun (center, desk) => center.flushFamily desk)
    (center, desk)

end Center

end RemovableMedia
