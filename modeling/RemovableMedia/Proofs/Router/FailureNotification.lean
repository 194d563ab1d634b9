import RemovableMedia.Proofs.Mount.Lingering
import RemovableMedia.Proofs.Router.DeviceResults

/-!
# Failure notifications of a router

The standing of a device in a router moves with the mount results of the
device, and with nothing else that happens in between.  So what is said about
standings holds of what one sees on the host after everything is waited for.
-/

namespace RemovableMedia

open ReliableHost RouterStep

/-! ## One result -/

namespace MountCompleted

variable (config : HandlerConfig) (event : MountCompleted) (path : String)
  (now : Option NotificationContent)

/-- What one sees of the failures of a device after the actions. -/
def failureAfter (actions : List NotificationAction) :
    Option NotificationContent :=
  Request.amendAll (Center.ofConfig config).content
    (actions.map (Request.ofAction config.messages)) .deviceFail path now

theorem failureAfter_show (message : FailureMessage) :
    failureAfter config path now
        [.show message.cause.kind path (some message)] =
      some (config.failureContent message) := by
  have own : message.cause.kind.family = .deviceFail := by
    cases message.cause <;> rfl
  exact if_pos ⟨own, rfl⟩

theorem failureAfter_retraction (current : MountStatus) :
    failureAfter config path now (event.retraction path current) =
      if current = .onlyParentError ∧ event.volume.isParentDevice = false then
        none
      else now := by
  cases current with
  | onlyParentError =>
      unfold retraction
      cases event.volume.isParentDevice with
      | true => rfl
      | false => exact if_pos ⟨rfl, rfl⟩
  | noResult => rfl
  | success => rfl
  | childError => rfl
  | multipartError => rfl

theorem failureAfter_announcement (next : MountStatus) :
    failureAfter config path now (event.announcement path next) =
      if next.isFailure then
        some (config.failureContent (event.failureMessage next))
      else now := by
  split
  · next failed =>
      rw [event.announcement_of_isFailure path failed]
      exact failureAfter_show config path now _
  · next unfailed =>
      cases next with
      | noResult => rfl
      | success => rfl
      | onlyParentError => simp [MountStatus.isFailure] at unfailed
      | childError => simp [MountStatus.isFailure] at unfailed
      | multipartError => simp [MountStatus.isFailure] at unfailed

/-- The actions that the tracker takes on a result give the device the standing
that it has after the result. -/
theorem failureAfter_actions (current : MountStatus) :
    failureAfter config path now (event.actions path current) =
      (Standing.after config ⟨current, now⟩ event).failure := by
  cases operation : event.operation with
  | unmount =>
      have taken : event.actions path current =
          event.retraction path current := by
        unfold actions
        rw [operation]
        cases current <;> rfl
      rw [taken, failureAfter_retraction]
      cases current <;> simp [Standing.after, operation]
  | mount =>
      by_cases absorbed : current = .multipartError
      · subst current
        rfl
      · have taken : event.actions path current =
            event.retraction path current ++
              event.announcement path (event.nextStatus current) := by
          unfold actions
          rw [operation]
          split
          · exact absurd rfl absorbed
          · contradiction
          · rfl
        have inOrder : failureAfter config path now
            (event.actions path current) =
            failureAfter config path
              (failureAfter config path now (event.retraction path current))
              (event.announcement path (event.nextStatus current)) := by
          rw [taken]
          unfold failureAfter
          rw [List.map_append, Request.amendAll_append]
        rw [inOrder, failureAfter_retraction, failureAfter_announcement]
        simp [Standing.after, absorbed, operation]

end MountCompleted

/-! ## A run -/

namespace Router

variable {σ : Type} [NotificationHost σ] [ReliableHost σ]
  {setting : Setting} {router : Router σ} {path : String}

/-- What the status of a device is, and what will be visible of its
failures. -/
def standing (router : Router σ) (path : String) : Standing :=
  ⟨router.mountStatus path, router.outlook .deviceFail path⟩

theorem standing_step_of_no_result (sound : Sound setting router)
    {step : RouterStep} (spares : step.Spares path)
    (other : step.resultFor? path = none) :
    (router.step setting step).standing path = router.standing path := by
  unfold standing
  rw [mountStatus_step_of_no_result spares other,
    outlook_step_of_no_result sound spares other]

theorem standing_step_of_result (sound : Sound setting router)
    {step : RouterStep} {event : MountCompleted}
    (result : step.resultFor? path = some event) :
    (router.step setting step).standing path =
      (router.standing path).after setting.config event := by
  have failure := outlook_step_of_result sound result
  rw [← MountCompleted.failureAfter, MountCompleted.failureAfter_actions]
    at failure
  unfold standing
  rw [mountStatus_step_of_result result, failure]
  rfl

/-- In a run that spares a device, its standing moves with its results. -/
theorem standing_run (sound : Sound setting router)
    {steps : List RouterStep} (spared : ∀ step ∈ steps, step.Spares path) :
    (router.run setting steps).standing path =
      (router.standing path).afterAll setting.config (results path steps) := by
  induction steps generalizing router with
  | nil => rfl
  | cons step steps induction =>
      have spares := spared step List.mem_cons_self
      have later := induction (sound_and_outlook_step sound step).1
        fun later member => spared later (List.mem_cons_of_mem _ member)
      change ((router.step setting step).run setting steps).standing path = _
      rw [later]
      cases result : step.resultFor? path with
      | none =>
          rw [standing_step_of_no_result sound spares result]
          simp [results, result]
      | some event =>
          rw [standing_step_of_result sound result]
          simp [results, result, Standing.afterAll]

/-- After a run that spares a device and once everything is waited for, its
status and what one sees of its failures are those of its standing. -/
theorem settled_run (sound : Sound setting router) {steps : List RouterStep}
    (spared : ∀ step ∈ steps, step.Spares path) :
    ((router.run setting steps).settle setting).mountStatus path =
        ((router.standing path).afterAll setting.config
          (results path steps)).status ∧
      shown ((router.run setting steps).settle setting).desk.host
          (Family.deviceFail.identity path) =
        ((router.standing path).afterAll setting.config
          (results path steps)).failure := by
  have ran := standing_run sound spared
  constructor
  · rw [mountStatus_settle, ← ran]
    rfl
  · rw [shown_settle (sound_run sound steps) (by simp), ← ran]
    rfl

/-! ## A card

A router with a screen for a host and no collaborators to speak of, which gets
to know how the mounting of a card goes.
-/

def cardSteps (results : List MountCompleted) : List RouterStep :=
  results.map fun result => .event (.mountCompleted result)

def cardSetting : Setting where
  collaborators := fun _ => .panicked

def cardRouter : Router Screen := ofConfig cardSetting.config {}

theorem arises_cardRouter : Arises cardSetting cardRouter :=
  ⟨{}, [], rfl, rfl⟩

theorem spares_of_mem_cardSteps (results : List MountCompleted) :
    ∀ step ∈ cardSteps results, step.Spares "/dev/sdb" := by
  intro step member
  obtain ⟨result, _, rfl⟩ := List.mem_map.mp member
  exact trivial

theorem hidden_cardRouter :
    shown (cardRouter.settle cardSetting).desk.host
      (Family.deviceFail.identity "/dev/sdb") = none := by
  rw [shown_settle arises_cardRouter.sound (by simp)]
  rfl

/-! ## What one sees of a failed device -/

/-- A device that was not tracked and then got results of mounts only, with
anything else in between but changes of the device and presses of the button on
its failure notification: once everything is waited for and the device has
failed, one sees the failure that the result which gave it its status stands
for. -/
theorem shown_failure_of_mounts (arises : Arises setting router)
    (untracked : router.mountStatus path = .noResult)
    {steps : List RouterStep} (spared : ∀ step ∈ steps, step.Spares path)
    (mounts : ∀ event ∈ results path steps, event.operation = .mount)
    (failed : (((router.run setting steps).settle setting).mountStatus
      path).isFailure = true) :
    ∃ event : MountCompleted, event.Settles (results path steps) ∧
      shown ((router.run setting steps).settle setting).desk.host
          (Family.deviceFail.identity path) =
        some (setting.config.failureContent (event.failureMessage
          (((router.run setting steps).settle setting).mountStatus path))) := by
  obtain ⟨status, failure⟩ := settled_run arises.sound spared
  rw [status] at failed ⊢
  rw [failure]
  exact Standing.failure_afterAll_of_mounts setting.config untracked mounts
    failed

/-- A card that fails as a whole, and then one of its partitions fails. -/
def failingCard : List RouterStep :=
  cardSteps [.ofCard (.failure "error_unknown") true,
    .ofCard .unsupportedFilesystem false]

theorem shown_failure_of_failingCard :
    ∃ event : MountCompleted,
      event.Settles (results "/dev/sdb" failingCard) ∧
      shown ((cardRouter.run cardSetting failingCard).settle
          cardSetting).desk.host (Family.deviceFail.identity "/dev/sdb") =
        some (cardSetting.config.failureContent (event.failureMessage
          (((cardRouter.run cardSetting failingCard).settle
            cardSetting).mountStatus "/dev/sdb"))) := by
  have spared := spares_of_mem_cardSteps
    [.ofCard (.failure "error_unknown") true,
      .ofCard .unsupportedFilesystem false]
  apply shown_failure_of_mounts arises_cardRouter rfl spared
  · decide
  · rw [(settled_run arises_cardRouter.sound spared).1]
    rfl

/-- A device that was not tracked and showed no failure, and then got any
results: if its status is `success` in the end, one sees a failure exactly if
one of the device itself lingers. -/
theorem failure_shown_iff_lingers (arises : Arises setting router)
    (untracked : router.mountStatus path = .noResult)
    (hidden : shown (router.settle setting).desk.host
      (Family.deviceFail.identity path) = none)
    {steps : List RouterStep} (spared : ∀ step ∈ steps, step.Spares path)
    (succeeded : ((router.run setting steps).settle setting).mountStatus path =
      .success) :
    shown ((router.run setting steps).settle setting).desk.host
        (Family.deviceFail.identity path) ≠ none ↔
      MountCompleted.Lingers (results path steps) := by
  obtain ⟨status, failure⟩ := settled_run arises.sound spared
  have start : router.standing path = Standing.initial := by
    rw [shown_settle arises.sound (by simp)] at hidden
    unfold standing
    rw [untracked, hidden]
    rfl
  rw [status, start] at succeeded
  rw [failure, start]
  exact (Standing.reflects_afterAll setting.config _).failure
    (by simp [succeeded]) (by simp [succeeded])

/-- A card that fails as a whole and then is mounted, as a whole or in part. -/
def recoveringCard (isParentDevice : Bool) : List RouterStep :=
  cardSteps [.ofCard (.failure "error_unknown") true,
    .ofCard .success isParentDevice]

theorem failure_hidden_on_recoveringCard :
    shown ((cardRouter.run cardSetting (recoveringCard false)).settle
      cardSetting).desk.host (Family.deviceFail.identity "/dev/sdb") =
      none := by
  have spared := spares_of_mem_cardSteps
    [.ofCard (.failure "error_unknown") true, .ofCard .success false]
  have succeeded := (settled_run arises_cardRouter.sound spared).1
  have shown_iff := failure_shown_iff_lingers arises_cardRouter rfl
    hidden_cardRouter spared succeeded
  by_contra stays
  exact absurd (shown_iff.mp stays) (by decide)

/-- The failure of a card stays on the screen when the card itself succeeds. -/
theorem failure_stays_on_recoveringCard :
    cardRouter.mountStatus "/dev/sdb" = .noResult ∧
      shown (cardRouter.settle cardSetting).desk.host
        (Family.deviceFail.identity "/dev/sdb") = none ∧
      ((cardRouter.run cardSetting (recoveringCard true)).settle
        cardSetting).mountStatus "/dev/sdb" = .success ∧
      shown ((cardRouter.run cardSetting (recoveringCard true)).settle
        cardSetting).desk.host (Family.deviceFail.identity "/dev/sdb") ≠
        none := by
  have spared := spares_of_mem_cardSteps
    [.ofCard (.failure "error_unknown") true, .ofCard .success true]
  obtain ⟨status, failure⟩ := settled_run arises_cardRouter.sound spared
  refine ⟨rfl, hidden_cardRouter, ?_, ?_⟩
  · exact status
  · rw [recoveringCard, failure]
    exact Option.some_ne_none
      (cardSetting.config.failureContent ⟨.unknown, some "CARD"⟩)

end Router

end RemovableMedia
