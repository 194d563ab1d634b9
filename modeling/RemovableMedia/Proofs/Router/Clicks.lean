import RemovableMedia.Proofs.Notification.Lane
import RemovableMedia.Proofs.Router.Navigations
import RemovableMedia.Proofs.Router.Tracking

/-!
# Presses of buttons

A press names the notification it was made on by a text, which is read as an
identity and written again for the host.  The heading ends at the first colon and
whatever follows is the device, so the text that is written is the text that came.
-/

namespace RemovableMedia

/-- The text of an identity after its first colon. -/
def deviceOf (id : String) : String :=
  String.ofList (id.toList.dropWhile (· ≠ ':')).tail

namespace NotificationId

theorem splitColon?_eq (letters : List Char) :
    splitColon? letters =
      if ':' ∈ letters then
        some (letters.takeWhile (· ≠ ':'), (letters.dropWhile (· ≠ ':')).tail)
      else none := by
  induction letters with
  | nil => rfl
  | cons letter letters ih =>
    by_cases colon : letter = ':'
    · subst letter
      simp [splitColon?]
    · rw [splitColon?]
      · rw [ih]
        by_cases later : ':' ∈ letters
        · simp [later, colon]
        · simp [later, Ne.symm colon]
      · exact colon

/-- A text is an identity exactly when it has a colon. -/
theorem parse?_eq (text : String) :
    parse? text =
      if ':' ∈ text.toList then some ⟨headingOf text, deviceOf text⟩
      else none := by
  rw [parse?, splitColon?_eq]
  split <;> rfl

end NotificationId

namespace Family

/-- Presses on notifications of these families lead somewhere. -/
def isClickable : Family → Bool
  | deviceNavigation => true
  | deviceFail => true
  | deviceImport => true
  | _ => false

end Family

namespace Router

variable {σ : Type}

/-- Where a press on a notification of the family leads to. -/
def clickRequest (setting : Setting) (family : Family) (devicePath : String) :
    NavigationRequest where
  devicePath := some devicePath
  filePath :=
    if family = .deviceImport then some setting.config.importTarget else none

theorem leaves_buttonClicked (setting : Setting) (router : Router σ)
    (id : String) :
    Leaves (router.center.requestAll (clickRequests setting id))
      (clickNavigations setting id) router (router.buttonClicked setting id) :=
  .of_makes (makes_buttonClicked setting router id)
    (sends_buttonClicked setting router id)
    (tracker_dispatch setting router (.buttonClicked ⟨id⟩))

/-- A press leads somewhere if the family of the notification is clickable. -/
theorem exists_clickTarget (setting : Setting) {family : Family}
    (clickable : family.isClickable = true) (devicePath : String) :
    ∃ kind : NotificationKind, kind.family = family ∧
      clickTarget? setting ⟨family.heading, devicePath⟩ =
        some (kind, clickRequest setting family devicePath) := by
  cases family with
  | deviceNavigation => exact ⟨.deviceNavigation, rfl, rfl⟩
  | deviceFail => exact ⟨.deviceFail, rfl, rfl⟩
  | deviceImport => exact ⟨.deviceImport, rfl, rfl⟩
  | hardUnplugged => exact absurd clickable Bool.false_ne_true
  | formatStart => exact absurd clickable Bool.false_ne_true
  | formatSuccess => exact absurd clickable Bool.false_ne_true
  | formatFail => exact absurd clickable Bool.false_ne_true

theorem clickTarget?_eq_none (setting : Setting) {id : NotificationId}
    (other : ∀ family : Family, family.isClickable = true →
      id.heading ≠ family.heading) :
    clickTarget? setting id = none := by
  rw [clickTarget?, if_neg (other .deviceNavigation rfl),
    if_neg (other .deviceFail rfl), if_neg (other .deviceImport rfl)]

theorem leaves_of_clickable (setting : Setting) (router : Router σ)
    {id : String} {family : Family} (clickable : family.isClickable = true)
    (colon : ':' ∈ id.toList) (heading : headingOf id = family.heading) :
    Leaves (router.center.submit family (.clear id))
      [clickRequest setting family (deviceOf id)] router
      (router.buttonClicked setting id) := by
  have leaves := leaves_buttonClicked setting router id
  have parsed : NotificationId.parse? id =
      some ⟨family.heading, deviceOf id⟩ := by
    rw [NotificationId.parse?_eq, if_pos colon, heading]
  have again : NotificationId.text ⟨family.heading, deviceOf id⟩ = id :=
    NotificationId.text_of_parse? parsed
  obtain ⟨kind, rfl, target⟩ :=
    exists_clickTarget setting clickable (deviceOf id)
  have hides : clickRequests setting id = [.hide kind (deviceOf id)] := by
    simp [clickRequests, parsed, target]
  have sends : clickNavigations setting id =
      [clickRequest setting kind.family (deviceOf id)] := by
    simp [clickNavigations, parsed, target]
  rw [hides, sends] at leaves
  have cleared : router.center.requestAll [.hide kind (deviceOf id)] =
      router.center.submit kind.family (.clear id) :=
    congrArg (fun text => router.center.submit kind.family (.clear text)) again
  rw [cleared] at leaves
  exact leaves

theorem leaves_of_not_clickable (setting : Setting) (router : Router σ)
    {id : String} (other : ∀ family : Family, family.isClickable = true →
      ':' ∈ id.toList → headingOf id ≠ family.heading) :
    Leaves router.center [] router (router.buttonClicked setting id) := by
  have leaves := leaves_buttonClicked setting router id
  have nowhere : clickRequests setting id = [] ∧
      clickNavigations setting id = [] := by
    unfold clickRequests clickNavigations
    rw [NotificationId.parse?_eq]
    by_cases colon : ':' ∈ id.toList
    · rw [if_pos colon]
      have target : clickTarget? setting ⟨headingOf id, deviceOf id⟩ = none := by
        apply clickTarget?_eq_none
        intro family clickable
        exact other family clickable colon
      simp [target]
    · rw [if_neg colon]
      exact ⟨rfl, rfl⟩
  rw [nowhere.1, nowhere.2] at leaves
  exact leaves

theorem headingOf_idFor (kind : NotificationKind) (devicePath : String) :
    headingOf (kind.idFor devicePath).text = kind.family.heading :=
  headingOf_identity kind.family devicePath

theorem deviceOf_idFor (kind : NotificationKind) (devicePath : String) :
    deviceOf (kind.idFor devicePath).text = devicePath := by
  have parsed := kind.family.parse?_identity devicePath
  rw [NotificationId.parse?_eq] at parsed
  split at parsed
  · exact congrArg NotificationId.devicePath (Option.some.inj parsed)
  · exact absurd parsed (Option.some_ne_none _).symm

/-- A press on a text with a clickable heading clears the notification of that
very text and asks to navigate to what follows the first colon.  A press on any
other text does nothing.  So a press on what a kind shows for a device comes back
to it. -/
theorem click_comes_back (setting : Setting) (router : Router σ) :
    (∀ (id : String) (family : Family), family.isClickable = true →
      ':' ∈ id.toList → headingOf id = family.heading →
      Leaves (router.center.submit family (.clear id))
        [clickRequest setting family (deviceOf id)] router
        (router.buttonClicked setting id)) ∧
    (∀ id : String,
      (∀ family : Family, family.isClickable = true → ':' ∈ id.toList →
        headingOf id ≠ family.heading) →
      Leaves router.center [] router (router.buttonClicked setting id)) ∧
    ∀ (kind : NotificationKind) (devicePath : String)
      (message : Option String),
      let id := (kind.idFor devicePath).text
      let clicked := router.buttonClicked setting id
      (router.requestShow kind devicePath message).center =
        router.center.submit kind.family
          (.create id (router.center.content kind message)) ∧
      if kind.family.isClickable then
        Leaves (router.center.submit kind.family (.clear id))
          [clickRequest setting kind.family devicePath] router clicked
      else Leaves router.center [] router clicked := by
  refine ⟨?_, ?_, ?_⟩
  · intro id family clickable colon heading
    exact leaves_of_clickable setting router clickable colon heading
  · intro id other
    exact leaves_of_not_clickable setting router other
  · intro kind devicePath message id clicked
    refine ⟨rfl, ?_⟩
    have heading : headingOf id = kind.family.heading :=
      headingOf_idFor kind devicePath
    have colon : ':' ∈ id.toList := by
      simp [id, NotificationKind.idFor, NotificationId.text]
    split
    · next clickable =>
        have leaves :=
          leaves_of_clickable setting router clickable colon heading
        rw [deviceOf_idFor] at leaves
        exact leaves
    · next idle =>
        apply leaves_of_not_clickable setting router
        intro family clickable _ same
        have owner := Family.heading_injective (heading.symm.trans same)
        exact idle (owner ▸ clickable)

/-- The device may have colons of its own. -/
theorem click_comes_back_with_colons :
    let setting : Setting := { collaborators := fun _ => .panicked }
    let router : Router Screen := ofConfig {} {}
    let clicked := router.buttonClicked setting "deviceImport:a::b:"
    clicked.outbox.requests = [.deviceFolder "a::b:" "DCIM"] ∧
      clicked.center = router.center.submit .deviceImport
        (.clear "deviceImport:a::b:") := by
  intro setting router clicked
  have colon : ':' ∈ "deviceImport:a::b:".toList := by decide
  have heading : headingOf "deviceImport:a::b:" =
      Family.heading .deviceImport := by decide
  have leaves := (click_comes_back setting router).1 "deviceImport:a::b:"
    .deviceImport rfl colon heading
  exact ⟨by rw [leaves.outbox]; decide, leaves.center⟩

end Router

end RemovableMedia
