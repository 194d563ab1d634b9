import RemovableMedia.Proofs.Router.Alike
import RemovableMedia.Proofs.Router.Clicks

/-!
# Events that leave no trace

Some events mean nothing to a router: a change of a kind it does not know, a
mount result that nobody wants to be told of, a failure of a volume that cannot
be named, and a press on a text that is no clickable identity.  The conditions
are checked in different places, and each of them lets through nothing but an
entry in the log.

A run with such events in between is the same run.
-/

namespace RemovableMedia

open ServiceStep

/-- There is no such text, or it is empty. -/
def Lacking (text : Option String) : Prop :=
  text.getD "" = ""

namespace HostEvent

/-- The event means nothing to the router. -/
inductive Inert : HostEvent → Prop where
  | unknownChange (code devicePath : String) :
      Inert (.deviceChanged ⟨.unknown code, devicePath⟩)
  | unannounced {event : MountCompleted} : event.shouldNotify = false →
      Inert (.mountCompleted event)
  | nameless {event : MountCompleted} : event.outcome.isSuccess = false →
      Lacking event.volume.deviceType ∨ Lacking event.volume.devicePath →
      Inert (.mountCompleted event)
  | foreignClick {event : ButtonClicked} :
      ':' ∉ event.notificationId.toList → Inert (.buttonClicked event)
  | idleClick {event : ButtonClicked} :
      headingOf event.notificationId ∉
        ["deviceNavigation", "deviceImport", "deviceFail"] →
      Inert (.buttonClicked event)

end HostEvent

/-! ## One event -/

theorem VolumeMetadata.notifiableDevicePath?_eq_none {volume : VolumeMetadata}
    (nameless : Lacking volume.deviceType ∨ Lacking volume.devicePath) :
    volume.notifiableDevicePath? = none := by
  unfold notifiableDevicePath?
  split
  · next deviceType path hasType hasPath =>
      rw [hasType, hasPath] at nameless
      apply if_neg
      rintro ⟨typed, named⟩
      exact nameless.elim typed named
  · rfl

theorem Family.heading_mem_of_isClickable {family : Family}
    (clickable : family.isClickable = true) :
    family.heading ∈ ["deviceNavigation", "deviceImport", "deviceFail"] := by
  cases family with
  | deviceNavigation => simp [heading]
  | deviceFail => simp [heading]
  | deviceImport => simp [heading]
  | hardUnplugged => exact absurd clickable Bool.false_ne_true
  | formatStart => exact absurd clickable Bool.false_ne_true
  | formatSuccess => exact absurd clickable Bool.false_ne_true
  | formatFail => exact absurd clickable Bool.false_ne_true

theorem MountCompleted.relevantPath?_of_unannounced {event : MountCompleted}
    (unannounced : event.shouldNotify = false) :
    event.relevantPath? = none := by
  simp [relevantPath?, unannounced]

theorem MountCompleted.relevantPath?_of_nameless {event : MountCompleted}
    (nameless : Lacking event.volume.deviceType ∨
      Lacking event.volume.devicePath) :
    event.relevantPath? = none := by
  simp [relevantPath?, VolumeMetadata.notifiableDevicePath?_eq_none nameless]

namespace Router

variable {σ : Type}

/-- A mount result changes nothing if it bears on no device and is no success
that one is to be told of. -/
theorem mountCompleted_eq_self (setting : Setting) (router : Router σ)
    {event : MountCompleted} (irrelevant : event.relevantPath? = none)
    (quiet : (event.outcome.isSuccess && event.shouldNotify) = false) :
    router.mountCompleted setting event = router := by
  have starts : startsImport event = false := by simp [startsImport, quiet]
  have unmounted : unmountedPath? event = none := by
    simp [unmountedPath?, quiet]
  simp [mountCompleted, starts, unmounted, track, irrelevant]

theorem alike_of_not_clickable (setting : Setting) (router : Router σ)
    {id : String} (other : ∀ family : Family, family.isClickable = true →
      ':' ∈ id.toList → headingOf id ≠ family.heading) :
    router.Alike (router.buttonClicked setting id) := by
  have leaves := leaves_of_not_clickable setting router other
  exact ⟨leaves.tracker.symm, leaves.center.symm, leaves.host.symm,
    leaves.tasks.symm, by rw [leaves.outbox, Outbox.take_nil],
    (queries_buttonClicked setting router id).symm⟩

/-- An inert event changes nothing but the log, whatever the router knows. -/
theorem alike_dispatch (setting : Setting) (router : Router σ)
    {event : HostEvent} (inert : event.Inert) :
    router.Alike (router.dispatch setting event) := by
  cases inert with
  | unknownChange code devicePath => exact ⟨rfl, rfl, rfl, rfl, rfl, rfl⟩
  | unannounced unannounced =>
      have irrelevant := MountCompleted.relevantPath?_of_unannounced unannounced
      rw [dispatch, mountCompleted_eq_self setting router irrelevant
        (by simp [unannounced])]
      exact .refl router
  | nameless failed nameless =>
      have irrelevant := MountCompleted.relevantPath?_of_nameless nameless
      rw [dispatch, mountCompleted_eq_self setting router irrelevant
        (by simp [failed])]
      exact .refl router
  | foreignClick foreign =>
      exact alike_of_not_clickable setting router
        fun _ _ colon => absurd colon foreign
  | idleClick idle =>
      apply alike_of_not_clickable setting router
      intro family clickable _ heading
      exact idle (heading ▸ family.heading_mem_of_isClickable clickable)

end Router

theorem HostEvent.Inert.started? {event : HostEvent} (inert : event.Inert) :
    event.started? = none := by
  cases inert with
  | unknownChange code devicePath => rfl
  | unannounced unannounced =>
      simp [HostEvent.started?, Router.startsImport, unannounced]
  | nameless failed nameless =>
      simp [HostEvent.started?, Router.startsImport, failed]
  | foreignClick foreign => rfl
  | idleClick idle => rfl

/-! ## Events in between -/

/-- Any number of inert events is put between the steps of the first list to get
the second one. -/
inductive Padded : List ServiceStep → List ServiceStep → Prop where
  | nil : Padded [] []
  | keep (step : ServiceStep) {plain padded : List ServiceStep} :
      Padded plain padded → Padded (step :: plain) (step :: padded)
  | insert {event : HostEvent} {plain padded : List ServiceStep} :
      event.Inert → Padded plain padded →
      Padded plain (.router (.event event) :: padded)

namespace Padded

variable {plain padded : List ServiceStep}

/-- The steps of a padded run up to some time are those of the plain run up to
some time, padded. -/
theorem split_padded {before after : List ServiceStep}
    (padding : Padded plain (before ++ after)) :
    ∃ first second, plain = first ++ second ∧ Padded first before ∧
      Padded second after := by
  induction before generalizing plain with
  | nil => exact ⟨[], plain, rfl, .nil, padding⟩
  | cons step before induction =>
      cases padding with
      | keep _ later =>
          obtain ⟨first, second, rfl, early, late⟩ := induction later
          exact ⟨step :: first, second, rfl, early.keep step, late⟩
      | insert inert later =>
          obtain ⟨first, second, rfl, early, late⟩ := induction later
          exact ⟨first, second, rfl, early.insert inert, late⟩

theorem split_plain (padding : Padded plain padded)
    {first second : List ServiceStep} (split : plain = first ++ second) :
    ∃ before after, padded = before ++ after ∧ Padded first before ∧
      Padded second after := by
  induction padding generalizing first with
  | nil =>
      obtain ⟨rfl, rfl⟩ := List.nil_eq_append_iff.mp split
      exact ⟨[], [], rfl, .nil, .nil⟩
  | @keep step plain padded later induction =>
      cases first with
      | nil =>
          obtain rfl : step :: plain = second := split
          exact ⟨[], step :: padded, rfl, .nil, later.keep step⟩
      | cons head first =>
          obtain ⟨rfl, rest⟩ := List.cons.inj split
          obtain ⟨before, after, rfl, early, late⟩ := induction rest
          exact ⟨step :: before, after, rfl, early.keep step, late⟩
  | @insert event plain padded inert later induction =>
      obtain ⟨before, after, rfl, early, late⟩ := induction split
      exact ⟨.router (.event event) :: before, after, rfl, early.insert inert,
        late⟩

/-- The same imports are started. -/
theorem started (padding : Padded plain padded) :
    (events plain).filterMap HostEvent.started? =
      (events padded).filterMap HostEvent.started? := by
  induction padding with
  | nil => rfl
  | keep step later induction =>
      rw [events_cons, events_cons, List.filterMap_append,
        List.filterMap_append, induction]
  | @insert event plain padded inert later induction =>
      rw [events_cons, List.filterMap_append, induction]
      simp [ServiceStep.event?, RouterStep.event?, inert.started?]

variable {σ : Type} [NotificationHost σ]

/-- Padding makes no difference to where a run leads, but for the log. -/
theorem alike_run (padding : Padded plain padded) (setting : Setting)
    {left right : Service σ} (alike : left.Alike right) :
    (left.run setting plain).Alike (right.run setting padded) := by
  induction padding generalizing left right with
  | nil => exact alike
  | keep step later induction => exact induction (alike.step setting step)
  | insert inert later induction =>
      -- The plain run stands still here, and the other one only logs something.
      have ignored := Router.alike_dispatch setting right.router inert
      exact induction (alike.trans ⟨ignored, rfl, rfl⟩)

end Padded

/-! ## Whole runs -/

/-- What can be seen of a service after some steps is what can be seen of it
after the other ones. -/
structure SeenAlike {σ : Type} [NotificationHost σ] [RecordingHost σ]
    (setting : Setting) (service : Service σ)
    (steps others : List ServiceStep) : Prop where
  status : ∀ path, (service.run setting steps).router.mountStatus path =
    (service.run setting others).router.mountStatus path
  tracked : (service.run setting steps).router.tracker.statuses =
    (service.run setting others).router.tracker.statuses
  calls : RecordingHost.calls (service.run setting steps).router.desk.host =
    RecordingHost.calls (service.run setting others).router.desk.host
  host : (service.run setting steps).router.desk.host =
    (service.run setting others).router.desk.host
  started : (events steps).filterMap HostEvent.started? =
    (events others).filterMap HostEvent.started?
  imports : (service.run setting steps).imports =
    (service.run setting others).imports
  queries : (service.run setting steps).router.queries =
    (service.run setting others).router.queries
  navigations : (service.run setting steps).router.outbox =
    (service.run setting others).router.outbox

section Runs

variable {σ : Type} [NotificationHost σ] [RecordingHost σ]

theorem Padded.seenAlike {plain padded : List ServiceStep}
    (padding : Padded plain padded) (setting : Setting)
    (service : Service σ) : SeenAlike setting service plain padded := by
  have alike := padding.alike_run setting (.refl service)
  have tracker := alike.router.tracker
  have host := alike.router.host
  exact {
    status := fun path => congrArg (MountTracker.status · path) tracker
    tracked := congrArg MountTracker.statuses tracker
    calls := congrArg RecordingHost.calls host
    host := host
    started := padding.started
    imports := alike.imports
    queries := alike.router.queries
    navigations := alike.router.outbox }

/-- Inert events between the steps of a run are not seen in anything, neither in
the end nor on the way there: whatever was seen at some time of the one run is
seen at a time of the other one, from which on the one is padded like before. -/
theorem inert_events_leave_no_trace (setting : Setting) (service : Service σ)
    {plain padded : List ServiceStep} (padding : Padded plain padded) :
    SeenAlike setting service plain padded ∧
    (∀ before after, padded = before ++ after → ∃ first second,
      plain = first ++ second ∧ Padded first before ∧ Padded second after ∧
        SeenAlike setting service first before) ∧
    ∀ first second, plain = first ++ second → ∃ before after,
      padded = before ++ after ∧ Padded first before ∧ Padded second after ∧
        SeenAlike setting service first before := by
  refine ⟨padding.seenAlike setting service, ?_, ?_⟩
  · rintro before after rfl
    obtain ⟨first, second, split, early, late⟩ := padding.split_padded
    exact ⟨first, second, split, early, late,
      early.seenAlike setting service⟩
  · intro first second split
    obtain ⟨before, after, padded, early, late⟩ := padding.split_plain split
    exact ⟨before, after, padded, early, late,
      early.seenAlike setting service⟩

/-- Between the failure of a card and its notification come events of every
inert kind. -/
theorem inert_events_leave_no_trace_of_failure :
    let setting : Setting := { collaborators := fun _ => .panicked }
    let service : Service Screen := .opened setting {} .standard
    let failure : MountCompleted := {
      operation := .mount
      outcome := .failure "error_unknown"
      shouldNotify := true
      volume := { devicePath := some "/dev/sdb", deviceType := some "usb" } }
    let failed : ServiceStep := .router (.event (.mountCompleted failure))
    let shown : ServiceStep :=
      .router (.turn setting.collaborators (.worker .deviceFail))
    let inert : List ServiceStep := [
      .router (.event (.deviceChanged ⟨.unknown "format_starts", "/dev/sdb"⟩)),
      .router (.event (.mountCompleted { failure with
        outcome := .success, shouldNotify := false })),
      .router (.event (.mountCompleted { failure with
        volume := { devicePath := some "/dev/sdb", deviceType := some "" } })),
      .router (.event (.buttonClicked ⟨"deviceFail"⟩)),
      .router (.event (.buttonClicked ⟨"formatFail:/dev/sdb"⟩))]
    let final := service.run setting (failed :: (inert ++ [shown]))
    Padded [failed, shown] (failed :: (inert ++ [shown])) ∧
      final.router.mountStatus "/dev/sdb" = .childError ∧
      (RecordingHost.calls final.router.desk.host).map HostCall.id =
        ["deviceFail:/dev/sdb"] := by
  intro setting service failure failed shown inert final
  have padding : Padded [failed, shown] (failed :: (inert ++ [shown])) := by
    refine .keep failed (.insert ?_ (.insert ?_ (.insert ?_ (.insert ?_
      (.insert ?_ (.keep shown .nil))))))
    · exact .unknownChange _ _
    · exact .unannounced rfl
    · exact .nameless rfl (.inl rfl)
    · exact .foreignClick (by decide)
    · exact .idleClick (by decide)
  obtain ⟨seen, -⟩ := inert_events_leave_no_trace setting service padding
  refine ⟨padding, ?_, ?_⟩
  · rw [← seen.status]
    decide
  · rw [← seen.calls]
    decide

end Runs

end RemovableMedia
