import RemovableMedia.Desktop.Basic
import RemovableMedia.Proofs.Registry

/-!
# What is left of a failed call

A call to the desktop fails if the daemon refuses it.  Creating looks at the
table first and changes it last, so that a call that fails has changed nothing
but the daemon.  Clearing changes the table first: when the daemon then fails to
close the notification, the number is lost, and the notification can neither be
closed, nor replaced, nor pressed by its identity.
-/

namespace RemovableMedia

namespace Desktop

variable {δ : Type} [NotificationDaemon δ] {desktop after : Desktop δ}
  {id : String} {error : HostError}

/-- A call that fails to create has asked the daemon, and done nothing else. -/
theorem eq_of_create_failed {content : NotificationContent}
    (failed : desktop.create id content = (.failed error, after)) :
    ∃ daemon, after = { desktop with daemon } := by
  simp only [create, sendNotice] at failed
  let notice := desktop.notice id content
  cases answered : (NotificationDaemon.notify notice desktop.daemon).1 with
  | ok number => simp [notice, answered, noteAnswer] at failed
  | error fault =>
      simp only [notice, answered, noteAnswer, Prod.mk.injEq] at failed
      exact ⟨_, failed.2.symm⟩

/-- A call that fails to clear has had a number to forget, which the daemon did
not close. -/
theorem eq_of_clear_failed
    (failed : desktop.clear id = (.failed error, after)) :
    ∃ number fault daemon, desktop.table.find? id = some number ∧
      NotificationDaemon.close number desktop.daemon =
        (.error fault, daemon) ∧
      after = { desktop with table := desktop.table.erase id, daemon } := by
  simp only [clear, takeNumber] at failed
  cases found : desktop.table.find? id with
  | none => simp [found] at failed
  | some number =>
      simp only [found, closeNumber] at failed
      cases answered : NotificationDaemon.close number desktop.daemon with
      | mk answer daemon =>
          cases answer with
          | ok _ => simp [answered] at failed
          | error fault =>
              simp only [answered, Prod.mk.injEq] at failed
              exact ⟨number, fault, daemon, rfl, answered, failed.2.symm⟩

/-- To clear a notification is to have the daemon close the number of it. -/
theorem daemon_clear (desktop : Desktop δ) {number : UInt32}
    (found : desktop.table.find? id = some number) :
    (desktop.clear id).2.daemon =
      (NotificationDaemon.close number desktop.daemon).2 := by
  simp only [clear, takeNumber, found, closeNumber]

/-- What the table does not have is cleared without a word to the daemon. -/
theorem clear_of_find?_eq_none (desktop : Desktop δ)
    (missing : desktop.table.find? id = none) :
    desktop.clear id =
      (.done false, { desktop with table := desktop.table.erase id }) := by
  simp only [clear, takeNumber, missing]

omit [NotificationDaemon δ] in
theorem find?_of_pressed? {number : UInt32} {key : String}
    (pressed : desktop.pressed? number key = some id) :
    desktop.table.find? id = some number :=
  Registry.find?_of_keyOf? (Option.ite_none_right_eq_some.mp pressed).2

/-! ## The table after a failure -/

/-- Whatever daemon it is, the table outlasts a call that fails to create: the
daemon will be asked to close, and to replace, the same numbers as before, and
the same presses are recognised.  The table never outlasts a call that fails to
clear.  The one notification, which the daemon was asked to close and did not,
is lost: clearing it again asks nothing of the daemon, creating it again replaces
nothing, and no press is recognised as its own. -/
theorem table_after_failure (desktop : Desktop δ) (id : String) :
    (∀ content error after,
      desktop.create id content = (.failed error, after) →
        after.table = desktop.table ∧
        (∀ other content, after.notice other content =
          desktop.notice other content) ∧
        (∀ number key, after.pressed? number key =
          desktop.pressed? number key) ∧
        ∀ other number, desktop.table.find? other = some number →
          (after.clear other).2.daemon =
            (NotificationDaemon.close number after.daemon).2) ∧
    ∀ error after, desktop.clear id = (.failed error, after) →
      (∃ number fault, desktop.table.find? id = some number ∧
        NotificationDaemon.close number desktop.daemon =
          (.error fault, after.daemon)) ∧
      (∀ other, after.table.find? other =
        if id = other then none else desktop.table.find? other) ∧
      after.table ≠ desktop.table ∧
      (after.clear id).1 = .done false ∧
      (after.clear id).2.daemon = after.daemon ∧
      (∀ content, (after.notice id content).replacesId = 0) ∧
      ∀ number key, after.pressed? number key ≠ some id := by
  constructor
  · intro content error after failed
    obtain ⟨daemon, rfl⟩ := eq_of_create_failed failed
    exact ⟨rfl, fun _ _ => rfl, fun _ _ => rfl,
      fun other number found => daemon_clear _ found⟩
  · intro error after failed
    obtain ⟨number, fault, daemon, found, refused, rfl⟩ :=
      eq_of_clear_failed failed
    have missing : (desktop.table.erase id).find? id = none :=
      desktop.table.find?_erase_self id
    have cleared := clear_of_find?_eq_none
      { desktop with table := desktop.table.erase id, daemon } missing
    refine ⟨⟨number, fault, found, refused⟩, desktop.table.find?_erase id, ?_,
      by rw [cleared], by rw [cleared],
      fun content => by simp [notice, missing], ?_⟩
    · intro same
      change desktop.table.erase id = desktop.table at same
      rw [same, found] at missing
      contradiction
    · intro pressed key recognised
      have kept := find?_of_pressed? recognised
      rw [missing] at kept
      contradiction

/-- One notification is shown, and the daemon refuses whatever comes next. -/
def refusedDesktop : Desktop ScriptedDaemon where
  appName := "Removable Devices"
  table := Registry.empty.insert "deviceFail:/dev/sdb" 1
  daemon :=
    { lastId := 1
      notifyFault := some "busy"
      closeFault := some "gone"
      shown := Registry.empty.insert 1
        { appName := "Removable Devices", replacesId := 0, icon := "i",
          summary := "t", body := "m", actions := [] } }

theorem table_after_failure_refusedDesktop :
    let content : NotificationContent :=
      { title := "t", message := "m", icon := "i" }
    let created := refusedDesktop.create "deviceFail:/dev/sdb" content
    let cleared := refusedDesktop.clear "deviceFail:/dev/sdb"
    created.1 = .failed (callFailed "Notify" "deviceFail:/dev/sdb"
        (ScriptedDaemon.faultText "busy")) ∧
      created.2.table = refusedDesktop.table ∧
      cleared.1 = .failed (callFailed "CloseNotification"
        "deviceFail:/dev/sdb" (ScriptedDaemon.faultText "gone")) ∧
      cleared.2.table ≠ refusedDesktop.table ∧
      (cleared.2.clear "deviceFail:/dev/sdb").1 = .done false := by
  intro content created cleared
  have notCreated : created.1 = .failed (callFailed "Notify"
      "deviceFail:/dev/sdb" (ScriptedDaemon.faultText "busy")) := by decide
  have notCleared : cleared.1 = .failed (callFailed "CloseNotification"
      "deviceFail:/dev/sdb" (ScriptedDaemon.faultText "gone")) := by decide
  obtain ⟨creating, clearing⟩ :=
    table_after_failure refusedDesktop "deviceFail:/dev/sdb"
  obtain ⟨kept, -⟩ :=
    creating content _ created.2 (Prod.ext notCreated rfl)
  obtain ⟨-, -, lost, again, -⟩ :=
    clearing _ cleared.2 (Prod.ext notCleared rfl)
  exact ⟨notCreated, kept, notCleared, lost, again⟩

/-- A notification is created on a fresh desktop, and the daemon fails to close
it.  It stays on the screen, and once the daemon answers again, clearing it does
not close it. -/
theorem table_lost_to_failed_clear :
    let content : NotificationContent :=
      { title := "t", message := "m", icon := "i" }
    let desktop : Desktop ScriptedDaemon :=
      { appName := "Removable Devices", daemon := {} }
    let created := desktop.create "deviceFail:/dev/sdb" content
    let faulty := { created.2 with
      daemon := { created.2.daemon with closeFault := some "gone" } }
    let cleared := faulty.clear "deviceFail:/dev/sdb"
    let recovered := { cleared.2 with
      daemon := { cleared.2.daemon with closeFault := none } }
    let again := recovered.clear "deviceFail:/dev/sdb"
    created.1 = .done () ∧
      faulty.table.find? "deviceFail:/dev/sdb" = some 1 ∧
      cleared.1 = .failed (callFailed "CloseNotification"
        "deviceFail:/dev/sdb" (ScriptedDaemon.faultText "gone")) ∧
      cleared.2.table.find? "deviceFail:/dev/sdb" = none ∧
      again.1 = .done false ∧ again.2.daemon.shown.contains 1 = true := by
  decide

end Desktop

end RemovableMedia
