import RemovableMedia.Proofs.Notification.Center

/-!
# Requests to the center

A center is asked to show a notification of some kind, or to hide it.  What
will be visible after a list of requests can be told from the requests alone,
as each of them becomes an order of its own family.
-/

namespace RemovableMedia

inductive Request where
  | show (kind : NotificationKind) (devicePath : String)
      (message : Option String)
  | hide (kind : NotificationKind) (devicePath : String)
  deriving DecidableEq, Repr

/-- What notifications of each kind show, with a message of their own or
without. -/
abbrev Contents := NotificationKind → Option String → NotificationContent

namespace Request

def kind : Request → NotificationKind
  | .show kind _ _ => kind
  | .hide kind _ => kind

def devicePath : Request → String
  | .show _ path _ => path
  | .hide _ path => path

/-- The request that carries out an action of the tracker. -/
def ofAction (catalog : MessageCatalog) : NotificationAction → Request
  | .show kind path message => .show kind path (message.map catalog.render)
  | .hide kind path => .hide kind path

def outcome (contents : Contents) : Request → Option NotificationContent
  | .show kind _ message => some (contents kind message)
  | .hide _ _ => none

/-- What is visible for a device in a family once the request is carried
out. -/
def amend (contents : Contents) (request : Request) (family : Family)
    (path : String) (now : Option NotificationContent) :
    Option NotificationContent :=
  if request.kind.family = family ∧ request.devicePath = path then
    request.outcome contents
  else now

def amendAll (contents : Contents) (requests : List Request) (family : Family)
    (path : String) (now : Option NotificationContent) :
    Option NotificationContent :=
  requests.foldl (fun now request => request.amend contents family path now)
    now

theorem amendAll_append (contents : Contents) (first second : List Request)
    (family : Family) (path : String) (now : Option NotificationContent) :
    amendAll contents (first ++ second) family path now =
      amendAll contents second family path
        (amendAll contents first family path now) :=
  List.foldl_append

theorem amendAll_of_elsewhere {requests : List Request} {family : Family}
    {path : String}
    (elsewhere : ∀ request ∈ requests,
      request.kind.family = family → request.devicePath ≠ path)
    (contents : Contents) (now : Option NotificationContent) :
    amendAll contents requests family path now = now := by
  induction requests with
  | nil => rfl
  | cons request requests induction =>
      have head : request.amend contents family path now = now :=
        if_neg fun both => elsewhere request List.mem_cons_self both.1 both.2
      rw [amendAll, List.foldl_cons, head]
      exact induction fun later member =>
        elsewhere later (List.mem_cons_of_mem _ member)

end Request

namespace Center

def request (center : Center) : Request → Center
  | .show kind path message => center.requestShow kind path message
  | .hide kind path => center.requestHide kind path

def requestAll (center : Center) (requests : List Request) : Center :=
  requests.foldl request center

theorem content_requestAll (center : Center) (requests : List Request) :
    (center.requestAll requests).content = center.content := by
  induction requests generalizing center with
  | nil => rfl
  | cons request requests induction =>
      have first : (center.request request).content = center.content := by
        rcases request with ⟨kind, path, message⟩ | ⟨kind, path⟩
        · rfl
        · rfl
      exact (induction (center.request request)).trans first

theorem addressed_requestAll {center : Center} (addressed : center.Addressed)
    (requests : List Request) : (center.requestAll requests).Addressed := by
  induction requests generalizing center with
  | nil => exact addressed
  | cons request requests induction =>
      apply induction
      rcases request with ⟨kind, path, message⟩ | ⟨kind, path⟩
      · exact addressed_submit addressed ⟨path, rfl⟩
      · exact addressed_submit addressed ⟨path, rfl⟩

variable {σ : Type} [NotificationHost σ] [ReliableHost σ]

theorem outlook_request (center : Center) (host : σ) (request : Request)
    (family : Family) (path : String) :
    (center.request request).outlook host family path =
      request.amend center.content family path
        (center.outlook host family path) := by
  rcases request with ⟨kind, own, message⟩ | ⟨kind, own⟩
  · have ownOrder : (Order.create (kind.family.identity own)
        (center.content kind message)).id = kind.family.identity own := rfl
    have submitted :=
      center.outlook_submit host kind.family _ ownOrder family path
    simp only [Order.amend, if_true] at submitted
    exact submitted
  · have ownOrder : (Order.clear (kind.family.identity own)).id =
        kind.family.identity own := rfl
    have submitted :=
      center.outlook_submit host kind.family _ ownOrder family path
    simp only [Order.amend, if_true] at submitted
    exact submitted

theorem outlook_requestAll (center : Center) (host : σ)
    (requests : List Request) (family : Family) (path : String) :
    (center.requestAll requests).outlook host family path =
      Request.amendAll center.content requests family path
        (center.outlook host family path) := by
  induction requests generalizing center with
  | nil => rfl
  | cons request requests induction =>
      have first := center.outlook_request host request family path
      have kept := center.content_requestAll [request]
      change ((center.request request).requestAll requests).outlook
        host family path = _
      rw [induction, first]
      exact congrArg (fun contents => Request.amendAll contents requests family
        path (request.amend center.content family path
          (center.outlook host family path))) kept

end Center

end RemovableMedia
