import RemovableMedia.Host.Screen
import RemovableMedia.Proofs.Registry

/-!
# What calls do to a screen

Whether or not a call fails, it is kept on record, the faults stay as they are,
and what is shown under other identities stays as well.
-/

namespace RemovableMedia.Screen

variable (id : String) (content : NotificationContent) (screen : Screen)

@[simp] theorem calls_create : (screen.create id content).2.calls =
    screen.calls ++ [.create id content] := by
  unfold create
  cases screen.faults.create <;> rfl

@[simp] theorem faults_create :
    (screen.create id content).2.faults = screen.faults := by
  unfold create
  cases screen.faults.create <;> rfl

@[simp] theorem calls_clear :
    (screen.clear id).2.calls = screen.calls ++ [.clear id] := by
  unfold clear
  cases screen.faults.clear <;> rfl

@[simp] theorem faults_clear :
    (screen.clear id).2.faults = screen.faults := by
  unfold clear
  cases screen.faults.clear <;> rfl

theorem visibleIds_snd : screen.visibleIds.2 =
    { screen with visibleQueries := screen.visibleQueries + 1 } := by
  unfold visibleIds
  cases screen.faults.visibleIds <;> rfl

variable {id} {other : String}

theorem find?_create_of_ne (different : id ≠ other) :
    (screen.create id content).2.shown.find? other =
      screen.shown.find? other := by
  unfold create
  cases screen.faults.create with
  | some fault => rfl
  | none => rw [Registry.find?_insert, if_neg different]

theorem find?_clear_of_ne (different : id ≠ other) :
    (screen.clear id).2.shown.find? other = screen.shown.find? other := by
  unfold clear
  cases screen.faults.clear with
  | some fault => rfl
  | none => rw [Registry.find?_erase, if_neg different]

end RemovableMedia.Screen
