import RemovableMedia.Proofs.Router.Clicks
import RemovableMedia.Proofs.Router.DeviceResults
import RemovableMedia.Proofs.Router.Unmount

/-!
# The notification of a format under way

The start of a format shows a notification of its own family, and its end hides
it, whether the format succeeded or failed.  Nothing else makes requests in that
family: mount results are about failures, imports about navigation, and presses
on the notification lead nowhere.  So the last format event of a device decides.
-/

namespace RemovableMedia

open ReliableHost HostCall

namespace DeviceChange

def isFormat : DeviceChange → Bool
  | formatStart => true
  | formatSuccess => true
  | formatFail => true
  | _ => false

end DeviceChange

namespace HostEvent

/-- What the event says of a format of the device. -/
def format? (path : String) : HostEvent → Option DeviceChange
  | .deviceChanged event =>
      if event.devicePath = path ∧ event.change.isFormat then some event.change
      else none
  | _ => none

/-- What the last of the events about a format of the device says of it. -/
def lastFormat? (path : String) (events : List HostEvent) :
    Option DeviceChange :=
  (events.filterMap (format? path)).getLast?

theorem lastFormat?_append (path : String) (first second : List HostEvent) :
    lastFormat? path (first ++ second) =
      (lastFormat? path second).or (lastFormat? path first) := by
  rw [lastFormat?, List.filterMap_append, List.getLast?_append]
  rfl

theorem lastFormat?_cons (path : String) (event : HostEvent)
    (events : List HostEvent) :
    lastFormat? path (event :: events) =
      (lastFormat? path events).or (event.format? path) := by
  have alone : lastFormat? path [event] = event.format? path := by
    cases said : event.format? path <;> simp [lastFormat?, said]
  rw [← alone]
  exact lastFormat?_append path [event] events

end HostEvent

/-! ## Requests of events -/

/-- What one sees of a format after the last that was said of it, where one saw
`now` when nothing was said yet. -/
def formatNotice (contents : Contents) (now : Option NotificationContent) :
    Option DeviceChange → Option NotificationContent
  | none => now
  | some .formatStart => some (contents .formatStart none)
  | some _ => none

theorem formatNotice_or (contents : Contents)
    (now : Option NotificationContent) (later earlier : Option DeviceChange) :
    formatNotice contents now (later.or earlier) =
      formatNotice contents (formatNotice contents now earlier) later := by
  cases later with
  | none => rfl
  | some change => cases change <;> rfl

namespace Request

/-- Requests of other families change nothing of what one sees in a family. -/
theorem amendAll_filter_family (contents : Contents) (requests : List Request)
    (family : Family) (path : String) (now : Option NotificationContent) :
    amendAll contents
        (requests.filter fun request => request.kind.family = family)
        family path now =
      amendAll contents requests family path now := by
  induction requests generalizing now with
  | nil => rfl
  | cons request requests induction =>
      by_cases own : request.kind.family = family
      · rw [List.filter_cons_of_pos (by simpa using own)]
        exact induction (request.amend contents family path now)
      · have kept : request.amend contents family path now = now :=
          if_neg fun both => own both.1
        rw [List.filter_cons_of_neg (by simpa using own), induction]
        exact congrArg (amendAll contents requests family path) kept.symm

end Request

namespace Router

variable {setting : Setting} {path : String}

/-- A press hides no notification but a clickable one. -/
theorem isClickable_of_mem_clickRequests {notificationId : String}
    {request : Request}
    (member : request ∈ clickRequests setting notificationId) :
    request.kind.family.isClickable = true := by
  unfold clickRequests at member
  split at member
  · exact absurd member List.not_mem_nil
  · obtain ⟨⟨kind, target⟩, chosen, rfl⟩ := List.mem_map.mp member
    simp only [clickTarget?, Option.mem_toList] at chosen
    split at chosen
    · cases chosen
      rfl
    · split at chosen
      · cases chosen
        rfl
      · split at chosen
        · cases chosen
          rfl
        · exact absurd chosen (Option.some_ne_none _).symm

end Router

namespace Yield

variable {setting : Setting} {path : String} (contents : Contents)

/-- An event moves what one sees of a format of the device if it is about one,
and leaves it as it is otherwise. -/
theorem amendAll_ofEvent (tracker : MountTracker) (event : HostEvent)
    (now : Option NotificationContent) :
    Request.amendAll contents ((requests setting).ofEvent tracker event)
        .formatStart path now =
      formatNotice contents now (event.format? path) := by
  rcases event with ⟨change, own⟩ | result | click
  · change Request.amendAll contents (DeviceChanged.requests ⟨change, own⟩)
      .formatStart path now = _
    by_cases same : own = path
    · subst own
      cases change <;>
        simp [DeviceChanged.requests, HostEvent.format?, DeviceChange.isFormat,
          formatNotice, Request.amendAll, Request.amend, Request.kind,
          Request.devicePath, Request.outcome, NotificationKind.family]
    · have unsaid : HostEvent.format? path (.deviceChanged ⟨change, own⟩) =
          none := if_neg fun both => same both.1
      rw [unsaid]
      apply Request.amendAll_of_elsewhere
      intro request member _
      rw [DeviceChanged.devicePath_of_mem_requests member]
      exact same
  · apply Request.amendAll_of_elsewhere
    intro request member started
    rcases List.mem_append.mp member with unmounted | tracked
    · obtain ⟨own, _, rfl⟩ := List.mem_map.mp unmounted
      exact absurd started (by simp [Request.kind, NotificationKind.family])
    · obtain ⟨action, emitted, rfl⟩ := List.mem_map.mp tracked
      rw [Router.family_of_mem_emittedBy emitted] at started
      exact absurd started (by decide)
  · apply Request.amendAll_of_elsewhere
    intro request member started
    have clickable := Router.isClickable_of_mem_clickRequests member
    rw [started] at clickable
    exact absurd clickable (by decide)

theorem amendAll_ofEvents (tracker : MountTracker) (events : List HostEvent)
    (now : Option NotificationContent) :
    Request.amendAll contents
        ((requests setting).ofEvents (fun _ => []) tracker events)
        .formatStart path now =
      formatNotice contents now (HostEvent.lastFormat? path events) := by
  induction events generalizing tracker now with
  | nil => rfl
  | cons event events induction =>
      have started : event.started?.toList.flatMap
          (fun _ => ([] : List Request)) = [] := by simp
      rw [ofEvents, started, List.append_nil, Request.amendAll_append,
        amendAll_ofEvent, induction, HostEvent.lastFormat?_cons,
        formatNotice_or]

variable {σ : Type} [NotificationHost σ]

/-- Imports have no say in it. -/
theorem amendAll_ofRun (service : Service σ) (steps : List ServiceStep)
    (now : Option NotificationContent) :
    Request.amendAll contents ((requests setting).ofRun setting service steps)
        .formatStart path now =
      formatNotice contents now
        (HostEvent.lastFormat? path (ServiceStep.events steps)) := by
  have silent : ∀ metadata decision?,
      ((requests setting).ofEnd metadata decision?).filter
        (fun request => decide (request.kind.family = .formatStart)) = [] := by
    intro metadata decision?
    apply List.filter_eq_nil_iff.mpr
    intro request member
    cases decision? with
    | none => exact absurd member List.not_mem_nil
    | some decision =>
        rw [Router.kind_of_mem_requests member]
        decide
  rw [← Request.amendAll_filter_family, filter_ofRun silent,
    Request.amendAll_filter_family, amendAll_ofEvents]

end Yield

/-! ## What one sees -/

namespace Service

variable {σ : Type} [NotificationHost σ] [ReliableHost σ] {setting : Setting}
  {host : σ}

/-- The service after the steps and a flush. -/
def flushed (setting : Setting) (host : σ) (order : FlushOrder)
    (steps : List ServiceStep) : Router σ :=
  ((opened setting host order).run setting steps).router.flush

theorem shown_flushed_formatStart (works : Works host) (order : FlushOrder)
    (steps : List ServiceStep) (path : String) :
    shown (flushed setting host order steps).desk.host
        (Family.formatStart.identity path) =
      formatNotice (Center.ofConfig setting.config).content
        (shown host (Family.formatStart.identity path))
        (HostEvent.lastFormat? path (ServiceStep.events steps)) := by
  let past := (opened setting host order).run setting steps
  have further : (opened setting host order).run setting
      (steps ++ [.router .flush]) = { past with
        router := flushed setting host order steps } :=
    (opened setting host order).run_append setting steps [.router .flush]
  have empty : (((opened setting host order).run setting
      (steps ++ [.router .flush])).router.center.queues.get
        .formatStart).entries = [] := by
    rw [further]
    exact past.router.center.entries_flush past.router.desk .formatStart
  have events : ServiceStep.events (steps ++ [.router .flush]) =
      ServiceStep.events steps := by
    rw [ServiceStep.events_append]
    exact List.append_nil _
  have seen := shown_of_entries_nil works empty path
  rw [further, Yield.amendAll_ofRun, events] at seen
  exact seen

end Service

namespace Course

variable {σ : Type} [NotificationHost σ] [ReliableHost σ] {setting : Setting}
  {host : σ}

theorem shown_final_formatStart (course : Course setting host)
    (works : Works host) (path : String) :
    shown course.final.router.desk.host (Family.formatStart.identity path) =
      formatNotice (Center.ofConfig setting.config).content
        (shown host (Family.formatStart.identity path))
        (HostEvent.lastFormat? path course.events) := by
  rw [course.shown_final works, collect, Yield.amendAll_ofRun, events_allSteps]

end Course

theorem formatNotice_ne_none_iff (contents : Contents)
    (said : Option DeviceChange) :
    formatNotice contents none said ≠ none ↔ said = some .formatStart := by
  cases said with
  | none => simp [formatNotice]
  | some change => cases change <;> simp [formatNotice]

/-- On a host that works and at first shows no start of a format of the device:
after any events, with any work in the background, one sees the start once the
orders are carried out if and only if the last event about a format of the device
is the start of one.  This is so after a flush at any time, and also when the
router is shut down bit by bit.  A step without such an event changes nothing of
what one sees. -/
theorem formatStart_follows_format {σ : Type} [NotificationHost σ]
    [ReliableHost σ] (setting : Setting) {host : σ} (works : Works host)
    {path : String}
    (hidden : shown host (Family.formatStart.identity path) = none) :
    (∀ (order : FlushOrder) (steps : List ServiceStep),
      shown (Service.flushed setting host order steps).desk.host
          (Family.formatStart.identity path) ≠ none ↔
        HostEvent.lastFormat? path (ServiceStep.events steps) =
          some .formatStart) ∧
    (∀ course : Course setting host,
      shown course.final.router.desk.host
          (Family.formatStart.identity path) ≠ none ↔
        HostEvent.lastFormat? path course.events = some .formatStart) ∧
    ∀ (order : FlushOrder) (steps : List ServiceStep) (step : ServiceStep),
      (∀ event, step.event? = some event → event.format? path = none) →
      shown (Service.flushed setting host order (steps ++ [step])).desk.host
          (Family.formatStart.identity path) =
        shown (Service.flushed setting host order steps).desk.host
          (Family.formatStart.identity path) := by
  refine ⟨?_, ?_, ?_⟩
  · intro order steps
    rw [Service.shown_flushed_formatStart works, hidden]
    exact formatNotice_ne_none_iff _ _
  · intro course
    rw [course.shown_final_formatStart works, hidden]
    exact formatNotice_ne_none_iff _ _
  · intro order steps step unsaid
    have nothing : HostEvent.lastFormat? path (ServiceStep.events [step]) =
        none := by
      cases happened : step.event? with
      | none => simp [ServiceStep.events, happened, HostEvent.lastFormat?]
      | some event =>
          simp [ServiceStep.events, happened, HostEvent.lastFormat?,
            unsaid event happened]
    rw [Service.shown_flushed_formatStart works,
      Service.shown_flushed_formatStart works, ServiceStep.events_append,
      HostEvent.lastFormat?_append, nothing]
    rfl

namespace Course

/-- Two cards are formatted.  Someone presses the notification of the first, and
the format of the second fails. -/
def formattingCourse : Course pulledSetting ({} : Screen) where
  steps := [.event (.deviceChanged ⟨.formatStart, "/dev/sdb"⟩),
    .event (.deviceChanged ⟨.formatStart, "/dev/sdc"⟩),
    .event (.buttonClicked ⟨"formatStart:/dev/sdb"⟩),
    .event (.deviceChanged ⟨.formatFail, "/dev/sdc"⟩)]
  order := .standard
  wait := patience 4
  silent := silent_patience_four
  settled := by rfl

theorem formatStart_follows_format_of_twoCards :
    shown formattingCourse.final.router.desk.host
        (Family.formatStart.identity "/dev/sdb") ≠ none ∧
      ¬ shown formattingCourse.final.router.desk.host
        (Family.formatStart.identity "/dev/sdc") ≠ none := by
  have works : Works ({} : Screen) := rfl
  have started : HostEvent.lastFormat? "/dev/sdb" formattingCourse.events =
      some .formatStart := by decide
  have ended : HostEvent.lastFormat? "/dev/sdc" formattingCourse.events ≠
      some .formatStart := by decide
  constructor
  · exact ((formatStart_follows_format pulledSetting works rfl).2.1
      formattingCourse).mpr started
  · exact mt ((formatStart_follows_format pulledSetting works rfl).2.1
      formattingCourse).mp ended

end Course

end RemovableMedia
