import RemovableMedia.Notification.Kind

/-!
# One thing for each family

A table with a place for every family of notifications.
-/

namespace RemovableMedia

/-- A thing for each family. -/
structure PerFamily (α : Type) where
  deviceNavigation : α
  deviceImport : α
  deviceFail : α
  hardUnplugged : α
  formatStart : α
  formatSuccess : α
  formatFail : α

namespace PerFamily

variable {α : Type}

/-- The table with these things. -/
def tabulate (value : Family → α) : PerFamily α where
  deviceNavigation := value .deviceNavigation
  deviceImport := value .deviceImport
  deviceFail := value .deviceFail
  hardUnplugged := value .hardUnplugged
  formatStart := value .formatStart
  formatSuccess := value .formatSuccess
  formatFail := value .formatFail

def get (table : PerFamily α) : Family → α
  | .deviceNavigation => table.deviceNavigation
  | .deviceImport => table.deviceImport
  | .deviceFail => table.deviceFail
  | .hardUnplugged => table.hardUnplugged
  | .formatStart => table.formatStart
  | .formatSuccess => table.formatSuccess
  | .formatFail => table.formatFail

/-- Another thing for one family. -/
def set (table : PerFamily α) (family : Family) (value : α) : PerFamily α :=
  match family with
  | .deviceNavigation => { table with deviceNavigation := value }
  | .deviceImport => { table with deviceImport := value }
  | .deviceFail => { table with deviceFail := value }
  | .hardUnplugged => { table with hardUnplugged := value }
  | .formatStart => { table with formatStart := value }
  | .formatSuccess => { table with formatSuccess := value }
  | .formatFail => { table with formatFail := value }

@[simp] theorem get_tabulate (value : Family → α) (family : Family) :
    (tabulate value).get family = value family := by
  cases family <;> rfl

@[simp] theorem get_set_self (table : PerFamily α) (family : Family)
    (value : α) : (table.set family value).get family = value := by
  cases family <;> rfl

theorem get_set_of_ne (table : PerFamily α) {family other : Family}
    (value : α) (different : other ≠ family) :
    (table.set family value).get other = table.get other := by
  cases family <;> cases other <;> first | rfl | exact absurd rfl different

theorem set_get_self (table : PerFamily α) (family : Family) :
    table.set family (table.get family) = table := by
  cases family <;> rfl

theorem set_set_self (table : PerFamily α) (family : Family)
    (first second : α) :
    (table.set family first).set family second = table.set family second := by
  cases family <;> rfl

end PerFamily

end RemovableMedia
