/-!
# Kinds of notifications

A kind is what a notification is about.  Kinds of one family write to the
same notification of a device and replace one another there.
-/

namespace RemovableMedia

/-- Notifications of one device that replace one another. -/
inductive Family where
  | deviceNavigation
  | deviceImport
  | deviceFail
  | hardUnplugged
  | formatStart
  | formatSuccess
  | formatFail
  deriving DecidableEq, Repr

namespace Family

/-- The text that the identities of the family start with. -/
def heading : Family → String
  | deviceNavigation => "deviceNavigation"
  | deviceImport => "deviceImport"
  | deviceFail => "deviceFail"
  | hardUnplugged => "hardUnplugged"
  | formatStart => "formatStart"
  | formatSuccess => "formatSuccess"
  | formatFail => "formatFail"

def all : List Family :=
  [deviceNavigation, deviceImport, deviceFail, hardUnplugged, formatStart,
    formatSuccess, formatFail]

theorem mem_all (family : Family) : family ∈ all := by
  cases family <;> decide

theorem heading_injective {left right : Family}
    (same : left.heading = right.heading) : left = right := by
  cases left <;> cases right <;> first | rfl | exact absurd same (by decide)

end Family

/-- What a notification is about. -/
inductive NotificationKind where
  | deviceNavigation
  | deviceImport
  | deviceFail
  | deviceFailUnknown
  | deviceExternalStorageDisabled
  | deviceHardUnplugged
  | formatStart
  | formatSuccess
  | formatFail
  deriving DecidableEq, Repr

namespace NotificationKind

def all : List NotificationKind :=
  [deviceNavigation, deviceImport, deviceFail, deviceFailUnknown,
    deviceExternalStorageDisabled, deviceHardUnplugged, formatStart,
    formatSuccess, formatFail]

/-- The family whose notification a kind writes to. -/
def family : NotificationKind → Family
  | deviceNavigation => .deviceNavigation
  | deviceImport => .deviceImport
  | deviceFail => .deviceFail
  | deviceFailUnknown => .deviceFail
  | deviceExternalStorageDisabled => .deviceFail
  | deviceHardUnplugged => .hardUnplugged
  | formatStart => .formatStart
  | formatSuccess => .formatSuccess
  | formatFail => .formatFail

/-- The text of a kind on the wire. -/
def code : NotificationKind → String
  | deviceNavigation => "device_navigation"
  | deviceImport => "device_import"
  | deviceFail => "device_fail"
  | deviceFailUnknown => "device_fail_unknown"
  | deviceExternalStorageDisabled => "device_external_storage_disabled"
  | deviceHardUnplugged => "device_hard_unplugged"
  | formatStart => "format_start"
  | formatSuccess => "format_success"
  | formatFail => "format_fail"

end NotificationKind

end RemovableMedia
