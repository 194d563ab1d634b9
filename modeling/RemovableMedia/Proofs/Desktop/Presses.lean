import RemovableMedia.Proofs.Desktop.Run

/-!
# Presses reach the notification they were made on

A press comes with a number of the daemon's.  It is forwarded to the notification
that was last created under this number and that still stands: nobody cleared it
and the daemon did not close it.  For this the table must not have one number for
two notifications, and it never has as long as the daemon gives no number away
that the table has for another notification.
-/

namespace RemovableMedia

open DesktopStep

variable {δ : Type}

/-! ## What stands after some steps -/

/-- The last success in creating the notification gave it this number, and
neither was it cleared since nor the number closed. -/
def Stands (steps : List (DesktopStep δ)) (id : String) (number : UInt32) :
    Prop :=
  ∃ before created after,
    steps = before ++ created :: after ∧
      created.numberFor? id = some number ∧
      ∀ later ∈ after,
        later.numberFor? id = none ∧ later.ends id number = false

theorem not_stands_nil (id : String) (number : UInt32) :
    ¬ Stands ([] : List (DesktopStep δ)) id number := by
  rintro ⟨before, created, after, split, -⟩
  simp at split

theorem stands_concat_iff {steps : List (DesktopStep δ)}
    {step : DesktopStep δ} {id : String} {number : UInt32} :
    Stands (steps ++ [step]) id number ↔
      step.numberFor? id = some number ∨
        step.numberFor? id = none ∧ step.ends id number = false ∧
          Stands steps id number := by
  constructor
  · rintro ⟨before, created, after, split, numbered, quiet⟩
    rcases after.eq_nil_or_concat' with rfl | ⟨after, last, rfl⟩
    · obtain ⟨rfl, rfl⟩ := List.append_singleton_inj.mp split
      exact .inl numbered
    · rw [← List.cons_append, ← List.append_assoc] at split
      obtain ⟨rfl, rfl⟩ := List.append_singleton_inj.mp split
      obtain ⟨unnumbered, lasting⟩ := quiet step (by simp)
      exact .inr ⟨unnumbered, lasting, before, created, after, rfl, numbered,
        fun later member => quiet later (List.mem_append_left _ member)⟩
  · rintro (numbered | ⟨unnumbered, lasting, before, created, after, rfl,
      numbered, quiet⟩)
    · exact ⟨steps, step, [], rfl, numbered, by simp⟩
    · refine ⟨before, created, after ++ [step], by simp, numbered, ?_⟩
      intro later member
      rcases List.mem_append.mp member with earlier | last
      · exact quiet later earlier
      · obtain rfl := List.mem_singleton.mp last
        exact ⟨unnumbered, lasting⟩

/-- A step gives a number to one notification at most. -/
theorem DesktopStep.eq_of_numberFor? {step : DesktopStep δ} {id other : String}
    {number : UInt32} (own : step.numberFor? id = some number)
    (others : step.numberFor? other = some number) : id = other := by
  rcases step with ⟨created, content, fault | given, daemon⟩ | _ | _
  · simp [numberFor?] at own
  · simp only [numberFor?, Option.ite_none_right_eq_some] at own others
    exact own.1.symm.trans others.1
  · simp [numberFor?] at own
  · simp [numberFor?] at own

namespace WatchedDesktop

variable {watched start : WatchedDesktop δ}

theorem find?_run_eq_some_iff (attentive : start.Attentive)
    (empty : start.desktop.table = .empty) (steps : List (DesktopStep δ))
    (id : String) (number : UInt32) :
    (start.run steps).desktop.table.find? id = some number ↔
      Stands steps id number := by
  induction steps using List.reverseRecOn with
  | nil => simp [run, empty, not_stands_nil]
  | append_singleton steps step induction =>
      rw [run_concat, stands_concat_iff,
        find?_step_eq_some_iff (attentive_run attentive steps), induction]

/-! ## No number for two notifications -/

/-- If the daemon gives a notification a number, then the table has it for no
other one. -/
def Permits (watched : WatchedDesktop δ) (step : DesktopStep δ) : Prop :=
  ∀ id number, step.numberFor? id = some number →
    ∀ other, watched.desktop.table.find? other = some number → other = id

theorem permits_create_iff {id : String} {content : NotificationContent}
    {number : UInt32} {daemon : δ} :
    watched.Permits (.create id content (.ok number) daemon) ↔
      ∀ entry ∈ watched.desktop.table.entries,
        entry.2 = number → entry.1 = id := by
  simp only [Permits, numberFor?, Option.ite_none_right_eq_some,
    Registry.find?_eq_some_iff_mem]
  constructor
  · rintro permits ⟨other, _⟩ member rfl
    exact permits id _ ⟨rfl, rfl⟩ other member
  · rintro permits _ _ ⟨rfl, given⟩ other member
    obtain rfl := Option.some.inj given
    exact permits _ member rfl

instance : ∀ step, Decidable (watched.Permits step)
  | .create _ _ (.ok _) _ => decidable_of_iff _ permits_create_iff.symm
  | .create _ _ (.error _) _ => isTrue nofun
  | .clear _ _ => isTrue nofun
  | .signal _ => isTrue nofun

/-- The daemon never gives away a number that the table has for another
notification. -/
def PermitsAll (watched : WatchedDesktop δ) : List (DesktopStep δ) → Prop
  | [] => True
  | step :: steps =>
      watched.Permits step ∧ (watched.step step).PermitsAll steps

instance decidablePermitsAll :
    ∀ (watched : WatchedDesktop δ) steps, Decidable (watched.PermitsAll steps)
  | _, [] => isTrue trivial
  | watched, step :: steps =>
      have := decidablePermitsAll (watched.step step) steps
      inferInstanceAs (Decidable (_ ∧ _))

theorem permitsAll_concat {steps : List (DesktopStep δ)}
    {step : DesktopStep δ} :
    watched.PermitsAll (steps ++ [step]) ↔
      watched.PermitsAll steps ∧ (watched.run steps).Permits step := by
  induction steps generalizing watched with
  | nil => simp [PermitsAll, run]
  | cons first steps induction =>
      simp only [List.cons_append, PermitsAll, induction, and_assoc, run,
        List.foldl_cons]

/-- No two notifications have the same number. -/
def Unambiguous (table : Registry String UInt32) : Prop :=
  ∀ ⦃id other number⦄, table.find? id = some number →
    table.find? other = some number → id = other

theorem unambiguous_step (attentive : watched.Attentive)
    (unambiguous : Unambiguous watched.desktop.table) {step : DesktopStep δ}
    (permits : watched.Permits step) :
    Unambiguous (watched.step step).desktop.table := by
  intro id other number own others
  rw [find?_step_eq_some_iff attentive] at own others
  -- Either of the two numbers was given in this step, or it is from before.
  rcases own with given | ⟨-, -, own⟩ <;>
    rcases others with otherGiven | ⟨-, -, others⟩
  · exact eq_of_numberFor? given otherGiven
  · exact (permits id number given other others).symm
  · exact permits other number otherGiven id own
  · exact unambiguous own others

theorem unambiguous_run (attentive : start.Attentive)
    (empty : start.desktop.table = .empty) {steps : List (DesktopStep δ)}
    (permits : start.PermitsAll steps) :
    Unambiguous (start.run steps).desktop.table := by
  induction steps using List.reverseRecOn with
  | nil =>
      intro id other number found
      simp [run, empty] at found
  | append_singleton steps step induction =>
      obtain ⟨earlier, last⟩ := permitsAll_concat.mp permits
      rw [run_concat]
      exact unambiguous_step (attentive_run attentive steps)
        (induction earlier) last

/-! ## Presses -/

/-- The notification that a step is a press on. -/
def pressedBy? (watched : WatchedDesktop δ) : DesktopStep δ → Option String
  | .signal (.actionInvoked number key) => watched.desktop.pressed? number key
  | _ => none

/-- Nothing but the press is forwarded. -/
theorem clicks_step (attentive : watched.Attentive) (step : DesktopStep δ) :
    (watched.step step).clicks =
      watched.clicks ++ (watched.pressedBy? step).toList := by
  rcases step with _ | _ | (⟨number, key⟩ | number | name)
  · exact (List.append_nil _).symm
  · exact (List.append_nil _).symm
  · rw [WatchedDesktop.step, receive_actionInvoked attentive, pressedBy?]
    cases watched.desktop.pressed? number key with
    | none => exact (List.append_nil _).symm
    | some id => rw [Option.elim_some, forward_of_presses attentive.presses]; rfl
  · rw [WatchedDesktop.step, receive_notificationClosed attentive]
    exact (List.append_nil _).symm
  · obtain ⟨log, received⟩ := watched.receive_malformed name
    rw [WatchedDesktop.step, received]
    exact (List.append_nil _).symm

/-- The notification found under a number is the one that has the number. -/
theorem keyOf?_eq_some_iff {table : Registry String UInt32}
    (unambiguous : Unambiguous table) {id : String} {number : UInt32} :
    table.keyOf? number = some id ↔ table.find? id = some number := by
  refine ⟨Registry.find?_of_keyOf?, fun found => ?_⟩
  cases first : table.keyOf? number with
  | none => exact absurd found (Registry.find?_ne_of_keyOf?_eq_none first id)
  | some other =>
      rw [unambiguous found (Registry.find?_of_keyOf? first)]

theorem pressedBy?_eq_some_iff
    (unambiguous : Unambiguous watched.desktop.table) {step : DesktopStep δ}
    {id : String} :
    watched.pressedBy? step = some id ↔
      ∃ number, step = .signal (.actionInvoked number buttonKey) ∧
        watched.desktop.table.find? id = some number := by
  constructor
  · intro pressed
    rcases step with _ | _ | (⟨number, key⟩ | number | name)
    case signal.actionInvoked =>
      obtain ⟨rfl, found⟩ := Option.ite_none_right_eq_some.mp pressed
      exact ⟨number, rfl, (keyOf?_eq_some_iff unambiguous).mp found⟩
    all_goals simp [pressedBy?] at pressed
  · rintro ⟨number, rfl, found⟩
    have first := (keyOf?_eq_some_iff unambiguous).mpr found
    simpa [pressedBy?, Desktop.pressed?] using first

/-! ## Whole runs -/

/-- A watched desktop forwards a press of the button as the notification that
stands under the pressed number, and nothing else.  No two notifications stand
under one number.  To clear a notification, or to create one, is a step of this
kind, and one that is created anew replaces what the table has for it. -/
theorem press_reaches_standing [NotificationDaemon δ] {desktop : Desktop δ}
    (watches : watch desktop true = .ok start)
    (empty : desktop.table = .empty) {steps : List (DesktopStep δ)}
    (permits : start.PermitsAll steps) :
    let now := start.run steps
    (∀ step, ∃ forwarded? : Option String,
      (now.step step).clicks = now.clicks ++ forwarded?.toList ∧
        ∀ id, forwarded? = some id ↔
          ∃ number, step = .signal (.actionInvoked number buttonKey) ∧
            Stands steps id number) ∧
    Unambiguous now.desktop.table ∧
    (∀ id number, now.desktop.table.find? id = some number ↔
      Stands steps id number) ∧
    (∀ id, ∃ daemon,
      (NotificationHost.clear id now).2 = now.step (.clear id daemon)) ∧
    ∀ id content,
      let notice := now.desktop.notice id content
      let called := NotificationDaemon.notify notice now.desktop.daemon
      (NotificationHost.create id content now).2 =
          now.step (.create id content called.1 called.2) ∧
        notice.replacesId = (now.desktop.table.find? id).getD 0 := by
  intro now
  have attentive := attentive_watch watches
  have fresh : start.desktop.table = .empty :=
    (table_watch watches).trans empty
  have unambiguous := unambiguous_run attentive fresh permits
  have stands := find?_run_eq_some_iff attentive fresh steps
  refine ⟨?_, unambiguous, stands, now.exists_clear_eq_step, ?_⟩
  · intro step
    refine ⟨now.pressedBy? step,
      clicks_step (attentive_run attentive steps) step, fun id => ?_⟩
    simp only [now, pressedBy?_eq_some_iff unambiguous, stands]
  · intro id content
    exact ⟨now.create_eq_step id content, rfl⟩

/-- Two notifications are created.  The second is closed, and created once more
after a call that failed, and the first is cleared. -/
def twoNotifications (content : NotificationContent) :
    List (DesktopStep ScriptedDaemon) :=
  [.create "mount:/dev/sdb" content (.ok 1) {},
    .create "mount:/dev/sdc" content (.ok 2) {},
    .signal (.notificationClosed 2),
    .create "mount:/dev/sdc" content (.error "no answer") {},
    .create "mount:/dev/sdc" content (.ok 3) {},
    .clear "mount:/dev/sdb" {}]

theorem press_reaches_standing_for_twoNotifications :
    let desktop : Desktop ScriptedDaemon :=
      { appName := "cards", daemon := {} }
    let start : WatchedDesktop ScriptedDaemon :=
      { desktop, forwards := true, forgets := true, log := [.watching] }
    let steps := twoNotifications { title := "", message := "", icon := "" }
    let now := start.run steps
    watch desktop true = .ok start ∧ start.PermitsAll steps ∧
      Stands steps "mount:/dev/sdc" 3 ∧
      (now.step (.signal (.actionInvoked 3 buttonKey))).clicks =
        ["mount:/dev/sdc"] := by
  intro desktop start steps now
  have watches : watch desktop true = .ok start := rfl
  have permits : start.PermitsAll steps := by decide
  obtain ⟨forwarding, -, stands, -⟩ :=
    press_reaches_standing watches rfl permits
  have standing : Stands steps "mount:/dev/sdc" 3 :=
    (stands _ _).mp (by decide)
  obtain ⟨forwarded?, clicks, reaches⟩ :=
    forwarding (.signal (.actionInvoked 3 buttonKey))
  have forwarded := (reaches _).mpr ⟨3, rfl, standing⟩
  refine ⟨watches, permits, standing, clicks.trans ?_⟩
  rw [forwarded]
  decide

end WatchedDesktop

end RemovableMedia
