import RemovableMedia.Desktop.Watch
import RemovableMedia.Proofs.Registry

/-!
# Runs of a watched desktop

Notifications are created and cleared, and the daemon tells of presses and of
what it closed.  The daemon is any at all: it answers a call with a number of its
choice or with an error, and nothing is known of it afterwards.

The number that the table has for a notification is the one that the daemon gave
when it last created it, as long as neither the notification was cleared nor the
number closed since.
-/

namespace RemovableMedia

inductive DesktopStep (δ : Type) where
  /-- A notification was to be created, and the daemon answered. -/
  | create (id : String) (content : NotificationContent)
      (answer : Except String UInt32) (daemon : δ)
  /-- A notification was cleared, whatever the daemon answered. -/
  | clear (id : String) (daemon : δ)
  | signal (signal : Signal)

variable {δ : Type}

namespace DesktopStep

/-- The number that the daemon answers with, if the step creates the
notification with success. -/
def numberFor? (id : String) : DesktopStep δ → Option UInt32
  | create other _ (.ok number) _ => if other = id then some number else none
  | _ => none

/-- Is the notification cleared, or the number closed? -/
def ends (id : String) (number : UInt32) : DesktopStep δ → Bool
  | clear other _ => other = id
  | signal (.notificationClosed other) => other = number
  | _ => false

end DesktopStep

namespace WatchedDesktop

open DesktopStep

def step (watched : WatchedDesktop δ) : DesktopStep δ → WatchedDesktop δ
  | .create id _ answer daemon =>
      (watched.call fun desktop =>
        Desktop.noteAnswer id answer { desktop with daemon }).2
  | .clear id daemon =>
      { watched with
        desktop := { (watched.desktop.takeNumber id).2 with daemon } }
  | .signal told => watched.receive told

def run (watched : WatchedDesktop δ) (steps : List (DesktopStep δ)) :
    WatchedDesktop δ :=
  steps.foldl step watched

theorem run_concat (watched : WatchedDesktop δ) (steps : List (DesktopStep δ))
    (step : DesktopStep δ) :
    watched.run (steps ++ [step]) = (watched.run steps).step step := by
  simp [run]

/-! ## What the host does are such steps -/

theorem create_eq_step [NotificationDaemon δ]
    (watched : WatchedDesktop δ) (id : String) (content : NotificationContent) :
    let called := NotificationDaemon.notify
      (watched.desktop.notice id content) watched.desktop.daemon
    (NotificationHost.create id content watched).2 =
      watched.step (.create id content called.1 called.2) := rfl

theorem exists_clear_eq_step [NotificationDaemon δ]
    (watched : WatchedDesktop δ) (id : String) :
    ∃ daemon, (NotificationHost.clear id watched).2 =
      watched.step (.clear id daemon) := by
  change ∃ daemon, (call (Desktop.clear id) watched).2 =
    watched.step (.clear id daemon)
  simp only [call, Desktop.clear, Desktop.takeNumber]
  cases watched.desktop.table.find? id with
  | none => exact ⟨watched.desktop.daemon, rfl⟩
  | some number =>
      exact ⟨(NotificationDaemon.close number watched.desktop.daemon).2, rfl⟩

/-! ## Watching -/

/-- Both watchers are at work, and someone reads the presses. -/
structure Attentive (watched : WatchedDesktop δ) : Prop where
  forwards : watched.forwards = true
  forgets : watched.forgets = true
  presses : watched.presses = true

theorem attentive_watch {desktop : Desktop δ} {start : WatchedDesktop δ}
    (watches : watch desktop true = .ok start) : start.Attentive := by
  cases watches
  exact ⟨rfl, rfl, rfl⟩

theorem table_watch {desktop : Desktop δ} {start : WatchedDesktop δ}
    (watches : watch desktop true = .ok start) :
    start.desktop.table = desktop.table := by
  cases watches
  rfl

variable {watched : WatchedDesktop δ}

theorem forward_of_presses (presses : watched.presses = true) (id : String) :
    watched.forward id =
      { watched with
        clicks := watched.clicks ++ [id]
        log := watched.log ++ [.buttonPressed id] } :=
  if_pos presses

/-- What the watcher of presses makes of a signal. -/
theorem receive_actionInvoked (attentive : watched.Attentive)
    (number : UInt32) (key : String) :
    watched.receive (.actionInvoked number key) =
      (watched.desktop.pressed? number key).elim watched watched.forward := by
  rw [receive, if_pos attentive.forwards]
  cases watched.desktop.pressed? number key <;> rfl

theorem receive_notificationClosed (attentive : watched.Attentive)
    (number : UInt32) :
    watched.receive (.notificationClosed number) =
      { watched with desktop := watched.desktop.forget number } :=
  if_pos attentive.forgets

theorem receive_malformed (watched : WatchedDesktop δ) (name : String) :
    ∃ log, watched.receive (.malformed name) = { watched with log } := by
  rw [receive]
  split
  · exact ⟨_, rfl⟩
  · exact ⟨watched.log, rfl⟩

theorem attentive_step (attentive : watched.Attentive) (step : DesktopStep δ) :
    (watched.step step).Attentive := by
  obtain ⟨forwards, forgets, presses⟩ := attentive
  rcases step with _ | _ | (⟨number, key⟩ | number | name)
  · exact ⟨forwards, forgets, presses⟩
  · exact ⟨forwards, forgets, presses⟩
  · simp only [WatchedDesktop.step,
      receive_actionInvoked ⟨forwards, forgets, presses⟩]
    cases watched.desktop.pressed? number key with
    | none => exact ⟨forwards, forgets, presses⟩
    | some id =>
        rw [Option.elim_some, forward_of_presses presses]
        exact ⟨forwards, forgets, presses⟩
  · rw [WatchedDesktop.step,
      receive_notificationClosed ⟨forwards, forgets, presses⟩]
    exact ⟨forwards, forgets, presses⟩
  · obtain ⟨log, received⟩ := watched.receive_malformed name
    rw [WatchedDesktop.step, received]
    exact ⟨forwards, forgets, presses⟩

theorem attentive_run (attentive : watched.Attentive)
    (steps : List (DesktopStep δ)) : (watched.run steps).Attentive := by
  induction steps generalizing watched with
  | nil => exact attentive
  | cons step steps induction => exact induction (attentive_step attentive step)

/-! ## The table -/

/-- After a step, the table has the number with which the notification was just
created, or else the one from before unless the step put an end to it. -/
theorem find?_step_eq_some_iff (attentive : watched.Attentive)
    (step : DesktopStep δ) (id : String) (number : UInt32) :
    (watched.step step).desktop.table.find? id = some number ↔
      step.numberFor? id = some number ∨
        step.numberFor? id = none ∧ step.ends id number = false ∧
          watched.desktop.table.find? id = some number := by
  rcases step with ⟨other, content, fault | given, daemon⟩ | ⟨other, daemon⟩ |
    (⟨pressed, key⟩ | closed | name)
  · simp [WatchedDesktop.step, call, Desktop.noteAnswer, numberFor?, ends]
  · by_cases own : other = id
    · simp [WatchedDesktop.step, call, Desktop.noteAnswer, numberFor?, own]
    · simp [WatchedDesktop.step, call, Desktop.noteAnswer, numberFor?, ends,
        Registry.find?_insert, own]
  · by_cases own : other = id
    · simp [WatchedDesktop.step, Desktop.takeNumber, numberFor?, ends, own]
    · simp [WatchedDesktop.step, Desktop.takeNumber, numberFor?, ends,
        Registry.find?_erase, own]
  · simp only [WatchedDesktop.step, receive_actionInvoked attentive]
    cases watched.desktop.pressed? pressed key with
    | none => simp [numberFor?, ends]
    | some own =>
        simp [forward_of_presses attentive.presses, numberFor?, ends]
  · simp [WatchedDesktop.step, receive_notificationClosed attentive,
      Desktop.forget, Registry.find?_filterValues, numberFor?, ends,
      Option.filter_eq_some_iff, and_comm, eq_comm (a := closed)]
  · obtain ⟨log, received⟩ := watched.receive_malformed name
    simp [WatchedDesktop.step, received, numberFor?, ends]

end WatchedDesktop

end RemovableMedia
