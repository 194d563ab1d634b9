import RemovableMedia.Config.Decode

/-!
# Fields of settings

Settings are read field by field, and every field has a default of its own.  The
messages have one field for each kind of notification and one for each text of a
failure; what they decode to is said of all kinds at once and of all texts at
once.
-/

namespace RemovableMedia

namespace Toml

/-- The numbers in fields that mean nothing are in range. -/
def Fields.Fits (names : List String) (fields : Fields) : Prop :=
  ∀ field ∈ fields, field.1 ∈ names ∨ field.2.isInRange = true

theorem fields?_table_eq_some_iff {names : List String}
    {entries fields : Fields} :
    fields? names (.table entries) = some fields ↔
      entries.Fits names ∧ entries = fields := by
  simp [fields?, Fields.Fits]

namespace Fields

/-- The value that is given for a field. -/
def value? (fields : Fields) (name : String) : Option Value :=
  (fields.find? fun field => field.1 = name).map Prod.snd

variable {α : Type} {fields : Fields} {name : String}

theorem read_of_given {value : Value} (given : fields.value? name = some value)
    (decode : Value → Option α) (default : α) :
    fields.read name decode default = decode value := by
  unfold value? at given
  rw [read, given]

theorem read_of_missing (missing : fields.value? name = none)
    (decode : Value → Option α) (default : α) :
    fields.read name decode default = some default := by
  unfold value? at missing
  rw [read, missing]

theorem read_congr {others : Fields}
    (same : fields.value? name = others.value? name)
    (decode : Value → Option α) (default : α) :
    fields.read name decode default = others.read name decode default := by
  cases given : others.value? name with
  | none => rw [read_of_missing given, read_of_missing (same.trans given)]
  | some value => rw [read_of_given given, read_of_given (same.trans given)]

/-- What holds of a default and of all that is decoded holds of a field. -/
theorem of_read {decode : Value → Option α} {default result : α}
    {P : α → Prop} (read : fields.read name decode default = some result)
    (byDefault : P default)
    (decoded : ∀ value, decode value = some result → P result) : P result := by
  cases given : fields.value? name with
  | none =>
      rw [read_of_missing given] at read
      exact Option.some.inj read ▸ byDefault
  | some value =>
      rw [read_of_given given] at read
      exact decoded value read

/-- The fields of other names. -/
def without (fields : Fields) (name : String) : Fields :=
  fields.filter fun field => field.1 ≠ name

theorem value?_without_of_ne (fields : Fields) {name other : String}
    (different : other ≠ name) :
    (fields.without name).value? other = fields.value? other := by
  induction fields with
  | nil => rfl
  | cons field fields induction =>
      unfold value? without at induction ⊢
      by_cases own : field.1 = name
      · have passed : field.1 ≠ other := fun same =>
          different (same.symm.trans own)
        rw [List.filter_cons_of_neg (by simpa using own), induction,
          List.find?_cons_of_neg (by simpa using passed)]
      · rw [List.filter_cons_of_pos (by simpa using own), List.find?_cons,
          List.find?_cons]
        split
        · rfl
        · exact induction

theorem fits_of_without {names : List String} {name : String}
    (known : name ∈ names) (fits : (fields.without name).Fits names) :
    fields.Fits names := by
  intro field member
  by_cases own : field.1 = name
  · exact .inl (own ▸ known)
  · exact fits field (List.mem_filter.mpr ⟨member, by simpa using own⟩)

end Fields

end Toml

open Toml

namespace Template

theorem decode?_eq_some_iff {default template : Template} {value : Value} :
    decode? default value = some template ↔
      ∃ fields, fields? fieldNames value = some fields ∧
        fields.read "title" text? default.title = some template.title ∧
        fields.read "message" text? default.message = some template.message ∧
        fields.read "button_label" button? default.buttonLabel =
          some template.buttonLabel := by
  simp only [decode?, Option.bind_eq_bind, Option.bind_eq_some_iff,
    Option.pure_def, Option.some.injEq]
  constructor
  · rintro ⟨fields, found, title, readTitle, message, readMessage, label,
      readLabel, rfl⟩
    exact ⟨fields, found, readTitle, readMessage, readLabel⟩
  · rintro ⟨fields, found, readTitle, readMessage, readLabel⟩
    exact ⟨fields, found, _, readTitle, _, readMessage, _, readLabel, rfl⟩

end Template

/-- The texts of failures that belong to no template. -/
inductive FailureText where
  | unsupported
  | unknown
  | multipart
  | multipartUnlabelled
  deriving DecidableEq, Repr

/-- The name of the field that gives the text. -/
def FailureText.fieldName : FailureText → String
  | unsupported => "device_unsupported"
  | unknown => "device_unknown"
  | multipart => "multipart_device_unsupported"
  | multipartUnlabelled => "multipart_device_unsupported_default"

namespace MessageCatalog

def text (catalog : MessageCatalog) : FailureText → String
  | .unsupported => catalog.deviceUnsupported
  | .unknown => catalog.deviceUnknown
  | .multipart => catalog.multipartUnsupported
  | .multipartUnlabelled => catalog.multipartUnsupportedDefault

/-- The catalog with these templates and texts. -/
def tabulate (template : NotificationKind → Template)
    (text : FailureText → String) : MessageCatalog where
  deviceNavigation := template .deviceNavigation
  deviceImport := template .deviceImport
  deviceFail := template .deviceFail
  deviceFailUnknown := template .deviceFailUnknown
  deviceExternalStorageDisabled := template .deviceExternalStorageDisabled
  deviceHardUnplugged := template .deviceHardUnplugged
  formatStart := template .formatStart
  formatSuccess := template .formatSuccess
  formatFail := template .formatFail
  deviceUnsupported := text .unsupported
  deviceUnknown := text .unknown
  multipartUnsupported := text .multipart
  multipartUnsupportedDefault := text .multipartUnlabelled

@[simp] theorem template_tabulate (template : NotificationKind → Template)
    (text : FailureText → String) (kind : NotificationKind) :
    (tabulate template text).template kind = template kind := by
  cases kind <;> rfl

@[simp] theorem text_tabulate (template : NotificationKind → Template)
    (text : FailureText → String) (own : FailureText) :
    (tabulate template text).text own = text own := by
  cases own <;> rfl

/-- A catalog is its templates and its texts. -/
theorem ext_of_template_text {left right : MessageCatalog}
    (templates : ∀ kind, left.template kind = right.template kind)
    (texts : ∀ own, left.text own = right.text own) : left = right := by
  change tabulate left.template left.text = tabulate right.template right.text
  rw [funext templates, funext texts]

theorem decode?_eq_some_iff {value : Value} {catalog : MessageCatalog} :
    decode? value = some catalog ↔
      ∃ fields, fields? fieldNames value = some fields ∧
        (∀ kind : NotificationKind,
          fields.read kind.code
              (Template.decode? (({} : MessageCatalog).template kind))
              (({} : MessageCatalog).template kind) =
            some (catalog.template kind)) ∧
        ∀ own : FailureText,
          fields.read own.fieldName text? (({} : MessageCatalog).text own) =
            some (catalog.text own) := by
  constructor
  · intro decoded
    obtain ⟨fields, found, decoded⟩ := Option.bind_eq_some_iff.mp decoded
    obtain ⟨deviceNavigation, _, decoded⟩ := Option.bind_eq_some_iff.mp decoded
    obtain ⟨deviceImport, _, decoded⟩ := Option.bind_eq_some_iff.mp decoded
    obtain ⟨deviceFail, _, decoded⟩ := Option.bind_eq_some_iff.mp decoded
    obtain ⟨deviceFailUnknown, _, decoded⟩ := Option.bind_eq_some_iff.mp decoded
    obtain ⟨deviceExternalStorageDisabled, _, decoded⟩ :=
      Option.bind_eq_some_iff.mp decoded
    obtain ⟨deviceHardUnplugged, _, decoded⟩ :=
      Option.bind_eq_some_iff.mp decoded
    obtain ⟨formatStart, _, decoded⟩ := Option.bind_eq_some_iff.mp decoded
    obtain ⟨formatSuccess, _, decoded⟩ := Option.bind_eq_some_iff.mp decoded
    obtain ⟨formatFail, _, decoded⟩ := Option.bind_eq_some_iff.mp decoded
    obtain ⟨deviceUnsupported, _, decoded⟩ := Option.bind_eq_some_iff.mp decoded
    obtain ⟨deviceUnknown, _, decoded⟩ := Option.bind_eq_some_iff.mp decoded
    obtain ⟨multipartUnsupported, _, decoded⟩ :=
      Option.bind_eq_some_iff.mp decoded
    obtain ⟨multipartUnsupportedDefault, _, decoded⟩ :=
      Option.bind_eq_some_iff.mp decoded
    cases Option.some.inj decoded
    refine ⟨fields, found, ?_, ?_⟩
    · intro kind
      cases kind <;> assumption
    · intro own
      cases own <;> assumption
  · rintro ⟨fields, found, templates, texts⟩
    refine Option.bind_eq_some_iff.mpr ⟨_, found, ?_⟩
    refine Option.bind_eq_some_iff.mpr ⟨_, templates .deviceNavigation, ?_⟩
    refine Option.bind_eq_some_iff.mpr ⟨_, templates .deviceImport, ?_⟩
    refine Option.bind_eq_some_iff.mpr ⟨_, templates .deviceFail, ?_⟩
    refine Option.bind_eq_some_iff.mpr ⟨_, templates .deviceFailUnknown, ?_⟩
    refine Option.bind_eq_some_iff.mpr
      ⟨_, templates .deviceExternalStorageDisabled, ?_⟩
    refine Option.bind_eq_some_iff.mpr ⟨_, templates .deviceHardUnplugged, ?_⟩
    refine Option.bind_eq_some_iff.mpr ⟨_, templates .formatStart, ?_⟩
    refine Option.bind_eq_some_iff.mpr ⟨_, templates .formatSuccess, ?_⟩
    refine Option.bind_eq_some_iff.mpr ⟨_, templates .formatFail, ?_⟩
    refine Option.bind_eq_some_iff.mpr ⟨_, texts .unsupported, ?_⟩
    refine Option.bind_eq_some_iff.mpr ⟨_, texts .unknown, ?_⟩
    refine Option.bind_eq_some_iff.mpr ⟨_, texts .multipart, ?_⟩
    exact Option.bind_eq_some_iff.mpr ⟨_, texts .multipartUnlabelled, rfl⟩

end MessageCatalog

namespace HandlerConfig

theorem decode?_eq_some_iff {value : Value} {config : HandlerConfig} :
    decode? value = some config ↔
      ∃ fields, fields? fieldNames value = some fields ∧
        fields.read "log_level" LogLevel.decode? .info = some config.logLevel ∧
        fields.read "app_name" text? ({} : HandlerConfig).appName =
          some config.appName ∧
        fields.read "icon" text? ({} : HandlerConfig).icon =
          some config.icon ∧
        fields.read "media_folders" texts?
          ({} : HandlerConfig).mediaFolders = some config.mediaFolders ∧
        fields.read "import_target" text? ({} : HandlerConfig).importTarget =
          some config.importTarget ∧
        fields.read "import" ImportSettings.decode? {} = some config.imports ∧
        fields.read "messages" MessageCatalog.decode? {} =
          some config.messages := by
  simp only [decode?, Option.bind_eq_bind, Option.bind_eq_some_iff,
    Option.pure_def, Option.some.injEq]
  constructor
  · rintro ⟨fields, found, logLevel, level, appName, name, icon, image,
      mediaFolders, folders, importTarget, target, imports, policy, messages,
      catalog, rfl⟩
    exact ⟨fields, found, level, name, image, folders, target, policy, catalog⟩
  · rintro ⟨fields, found, level, name, image, folders, target, policy,
      catalog⟩
    exact ⟨fields, found, _, level, _, name, _, image, _, folders, _, target,
      _, policy, _, catalog, rfl⟩

end HandlerConfig

end RemovableMedia
