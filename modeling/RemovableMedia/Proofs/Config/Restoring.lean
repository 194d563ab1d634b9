import RemovableMedia.Config.Encode
import RemovableMedia.Config.Restore
import RemovableMedia.Config.Table
import RemovableMedia.Proofs.Config.Fields
import RemovableMedia.Proofs.Json.Recovery

/-!
# Settings that are written and read again

All settings are written, as a table and as JSON, and all are read again as they
were but for the buttons.  A button that is not there is written as one of which
nothing is said, and so it comes back if there is one by default.
-/

namespace RemovableMedia

open Toml Json Record Field Decoder

/-! ## Buttons -/

namespace Template

/-- A label that is there has a text. -/
def Labelled (template : Template) : Prop := template.buttonLabel ≠ some ""

/-- The template with the button that there is by default, if it has none. -/
def restored (default template : Template) : Template :=
  { template with buttonLabel := template.buttonLabel.or default.buttonLabel }

theorem restored_eq_self_iff {default template : Template} :
    restored default template = template ↔
      (default.buttonLabel ≠ none → template.buttonLabel ≠ none) := by
  obtain ⟨title, message, label⟩ := template
  obtain ⟨_, _, defaultLabel⟩ := default
  cases label <;> cases defaultLabel <;> simp [restored]

theorem labelled_of_button? {value : Toml.Value} {label : Option String}
    (read : button? value = some label) : label ≠ some "" := by
  rintro rfl
  obtain ⟨text, _, made⟩ := Option.map_eq_some_iff.mp read
  split at made
  · exact absurd made (by simp)
  · next nonempty => exact nonempty (Option.some.inj made)

theorem labelled_of_decode? {default template : Template} {value : Toml.Value}
    (labelled : default.Labelled)
    (decoded : decode? default value = some template) :
    template.Labelled := by
  obtain ⟨fields, _, _, _, read⟩ := decode?_eq_some_iff.mp decoded
  exact Fields.of_read (P := (· ≠ some "")) read labelled
    fun _ => labelled_of_button?

end Template

namespace MessageCatalog

/-- All labels of the catalog have a text. -/
def Labelled (catalog : MessageCatalog) : Prop :=
  ∀ kind, (catalog.template kind).Labelled

theorem labelled_default : ({} : MessageCatalog).Labelled := by
  intro kind
  cases kind <;> simp [Template.Labelled, template]

theorem labelled_of_decode? {catalog : MessageCatalog} {value : Toml.Value}
    (decoded : decode? value = some catalog) : catalog.Labelled := by
  obtain ⟨fields, _, templates, _⟩ := decode?_eq_some_iff.mp decoded
  intro kind
  exact Fields.of_read (templates kind) (labelled_default kind)
    fun _ => Template.labelled_of_decode? (labelled_default kind)

/-- The catalog with all buttons that there are by default. -/
def restored (catalog : MessageCatalog) : MessageCatalog :=
  .tabulate
    (fun kind =>
      (({} : MessageCatalog).template kind).restored (catalog.template kind))
    catalog.text

theorem restored_eq_self_iff {catalog : MessageCatalog} :
    catalog.restored = catalog ↔
      ∀ kind, (({} : MessageCatalog).template kind).buttonLabel ≠ none →
        (catalog.template kind).buttonLabel ≠ none := by
  constructor
  · intro same kind
    have own := congrArg (fun catalog => catalog.template kind) same
    simp only [restored, template_tabulate] at own
    exact Template.restored_eq_self_iff.mp own
  · intro kept
    apply ext_of_template_text
    · intro kind
      rw [restored, template_tabulate]
      exact Template.restored_eq_self_iff.mpr (kept kind)
    · intro own
      rw [restored, text_tabulate]

end MessageCatalog

namespace HandlerConfig

theorem labelled_of_decode? {config : HandlerConfig} {value : Toml.Value}
    (decoded : decode? value = some config) : config.messages.Labelled := by
  obtain ⟨fields, _, _, _, _, _, _, _, read⟩ := decode?_eq_some_iff.mp decoded
  exact Fields.of_read read MessageCatalog.labelled_default
    fun _ => MessageCatalog.labelled_of_decode?

def restored (config : HandlerConfig) : HandlerConfig :=
  { config with messages := config.messages.restored }

theorem restored_eq_self_iff {config : HandlerConfig} :
    config.restored = config ↔
      ∀ kind, (({} : MessageCatalog).template kind).buttonLabel ≠ none →
        (config.messages.template kind).buttonLabel ≠ none := by
  rw [← MessageCatalog.restored_eq_self_iff]
  constructor
  · exact congrArg messages
  · intro same
    rw [restored, same]

end HandlerConfig

/-! ## Tables -/

theorem Toml.texts?_textArray (texts : List String) :
    texts? (textArray texts) = some texts := by
  induction texts with
  | nil => rfl
  | cons text texts induction =>
      simp only [textArray, texts?] at induction ⊢
      rw [List.map_cons, List.mapM_cons, induction]
      rfl

namespace ImportSettings

theorem decode?_toToml (settings : ImportSettings) :
    decode? settings.toToml = some settings := by
  simp only [decode?, Option.bind_eq_bind, Option.bind_eq_some_iff]
  exact ⟨_, rfl, _, rfl, _, texts?_textArray settings.eligibleRoots, _, rfl,
    rfl⟩

end ImportSettings

namespace LogLevel

theorem decode?_code (level : LogLevel) :
    decode? (.string level.code) = some level := by
  cases level <;> rfl

end LogLevel

namespace Template

theorem decode?_toToml {template : Template} (labelled : template.Labelled)
    (default : Template) :
    decode? default template.toToml = some (default.restored template) := by
  obtain ⟨title, message, label⟩ := template
  cases label with
  | none => rfl
  | some label =>
      have nonempty : label ≠ "" := fun empty => labelled (congrArg some empty)
      have read : button? (.string label) = some (some label) := by
        simp [button?, text?, nonempty]
      exact decode?_eq_some_iff.mpr ⟨_, rfl, rfl, rfl, read⟩

end Template

namespace MessageCatalog

theorem decode?_toToml {catalog : MessageCatalog}
    (labelled : catalog.Labelled) :
    decode? catalog.toToml = some catalog.restored := by
  refine decode?_eq_some_iff.mpr ⟨_, rfl, ?_, ?_⟩
  · intro kind
    rw [restored, template_tabulate, ← Template.decode?_toToml (labelled kind)]
    cases kind <;> exact Fields.read_of_given rfl _ _
  · intro own
    rw [restored, text_tabulate]
    cases own <;> rfl

end MessageCatalog

namespace HandlerConfig

theorem decode?_toToml {config : HandlerConfig}
    (labelled : config.messages.Labelled) :
    decode? config.toToml = some config.restored :=
  decode?_eq_some_iff.mpr ⟨_, rfl, LogLevel.decode?_code config.logLevel,
    rfl, rfl, texts?_textArray config.mediaFolders, rfl,
    config.imports.decode?_toToml, MessageCatalog.decode?_toToml labelled⟩

end HandlerConfig

/-! ## JSON -/

theorem Json.Decoder.list_textList (expected : String) (texts : List String) :
    Decoder.list (textAs expected) (textList texts) = .ok texts := by
  induction texts with
  | nil => rfl
  | cons text texts induction =>
      simp only [textList, Decoder.list] at induction ⊢
      rw [List.map_cons, List.mapM_cons, induction]
      rfl

namespace LogLevel

theorem decode_code (source : Source) (level : LogLevel) :
    decode source (.text level.code) = .ok level := by
  cases level <;> rfl

end LogLevel

namespace ImportSettings

theorem decode_encode (source : Source) (settings : ImportSettings) :
    decode source settings.encode = .ok settings := by
  have listed : roots (textList settings.eligibleRoots) =
      .ok settings.eligibleRoots := list_textList _ _
  rw [decode, encode, Record.decode, members_cons rfl rfl rfl,
    members_cons rfl (check_defaulted _ listed) rfl, members_cons rfl rfl rfl]
  refine bind_ok rfl ?_
  refine bind_ok rfl ?_
  refine bind_ok (Found.defaulted_of_given rfl listed _) ?_
  exact bind_ok rfl rfl

end ImportSettings

namespace Template

theorem decode_encode (source : Source) (template : Template) :
    TemplateKeys.decode source template.encode =
      .ok ⟨some template.title, some template.message,
        template.buttonLabel⟩ := by
  obtain ⟨title, message, label⟩ := template
  cases label <;> rfl

theorem overriding_eq_restored {template : Template}
    (labelled : template.Labelled) (default : Template) :
    TemplateKeys.overriding ⟨some template.title, some template.message,
      template.buttonLabel⟩ default = default.restored template := by
  obtain ⟨title, message, label⟩ := template
  cases label with
  | none => rfl
  | some label =>
      have nonempty : label ≠ "" := fun empty => labelled (congrArg some empty)
      simp [TemplateKeys.overriding, TemplateKeys.button, restored, nonempty]

theorem read_written (source : Source) {template : Template}
    (labelled : template.Labelled) {found : Found} {name : String}
    (given : found.value? name = some template.encode) (default : Template) :
    (found.defaulted name (TemplateKeys.decode source) {}).map
        (fun keys => keys.overriding default) =
      .ok (default.restored template) := by
  rw [Found.defaulted_of_given given (template.decode_encode source)]
  exact congrArg Except.ok (overriding_eq_restored labelled default)

end Template

theorem Json.Found.text_of_given {found : Found} {name text : String}
    (given : found.value? name = some (.text text)) (default : String) :
    (found.defaulted name (Decoder.optional .text) none).map
        (fun text => text.getD default) = .ok text := by
  have decoded : Decoder.optional .text (.text text) = .ok (some text) := rfl
  rw [defaulted_of_given given decoded]
  rfl

namespace MessageCatalog

theorem decode_encode (source : Source) {catalog : MessageCatalog}
    (labelled : catalog.Labelled) :
    decode source catalog.encode = .ok catalog.restored := by
  have own (template : Template) := Template.decode_encode source template
  have text (text : String) : Decoder.optional .text (.text text) =
    .ok (some text) := rfl
  have read (kind : NotificationKind) :=
    @Template.read_written source _ (labelled kind)
  have readText := @Found.text_of_given
  rw [decode, encode, Record.decode,
    members_cons rfl (check_defaulted _ (own _)) rfl,
    members_cons rfl (check_defaulted _ (own _)) rfl,
    members_cons rfl (check_defaulted _ (own _)) rfl,
    members_cons rfl (check_defaulted _ (own _)) rfl,
    members_cons rfl (check_defaulted _ (own _)) rfl,
    members_cons rfl (check_defaulted _ (own _)) rfl,
    members_cons rfl (check_defaulted _ (own _)) rfl,
    members_cons rfl (check_defaulted _ (own _)) rfl,
    members_cons rfl (check_defaulted _ (own _)) rfl,
    members_cons rfl (check_defaulted _ (text _)) rfl,
    members_cons rfl (check_defaulted _ (text _)) rfl,
    members_cons rfl (check_defaulted _ (text _)) rfl,
    members_cons rfl (check_defaulted _ (text _)) rfl]
  -- All members are found; the fields are built from them one by one.
  refine bind_ok rfl ?_
  refine bind_ok (read .deviceNavigation rfl _) ?_
  refine bind_ok (read .deviceImport rfl _) ?_
  refine bind_ok (read .deviceFail rfl _) ?_
  refine bind_ok (read .deviceFailUnknown rfl _) ?_
  refine bind_ok (read .deviceExternalStorageDisabled rfl _) ?_
  refine bind_ok (read .deviceHardUnplugged rfl _) ?_
  refine bind_ok (read .formatStart rfl _) ?_
  refine bind_ok (read .formatSuccess rfl _) ?_
  refine bind_ok (read .formatFail rfl _) ?_
  refine bind_ok (readText rfl _) ?_
  refine bind_ok (readText rfl _) ?_
  refine bind_ok (readText rfl _) ?_
  exact bind_ok (readText rfl _) rfl

end MessageCatalog

namespace HandlerConfig

theorem decode_encode (source : Source) {config : HandlerConfig}
    (labelled : config.messages.Labelled) :
    decode source config.encode = .ok config.restored := by
  have level := config.logLevel.decode_code source
  have folders : Decoder.list .text (textList config.mediaFolders) =
      .ok config.mediaFolders := list_textList _ _
  have imports := config.imports.decode_encode source
  have messages := MessageCatalog.decode_encode source labelled
  rw [decode, encode, Record.decode,
    members_cons rfl (check_defaulted _ level) rfl,
    members_cons rfl rfl rfl, members_cons rfl rfl rfl,
    members_cons rfl (check_defaulted _ folders) rfl,
    members_cons rfl rfl rfl,
    members_cons rfl (check_defaulted _ imports) rfl,
    members_cons rfl (check_defaulted _ messages) rfl]
  refine bind_ok rfl ?_
  refine bind_ok (Found.defaulted_of_given rfl level _) ?_
  refine bind_ok rfl ?_
  refine bind_ok rfl ?_
  refine bind_ok (Found.defaulted_of_given rfl folders _) ?_
  refine bind_ok rfl ?_
  refine bind_ok (Found.defaulted_of_given rfl imports _) ?_
  exact bind_ok (Found.defaulted_of_given rfl messages _) rfl

end HandlerConfig

/-! ### Texts -/

theorem isTextual_textList (texts : List String) :
    (textList texts).isTextual = true := by
  induction texts with
  | nil => rfl
  | cons text texts induction => exact induction

namespace Template

theorem isTextual_encode (template : Template) :
    template.encode.isTextual = true := by
  obtain ⟨title, message, label⟩ := template
  cases label <;> rfl

end Template

namespace HandlerConfig

theorem isTextual_encode (config : HandlerConfig) :
    config.encode.isTextual = true := by
  simp [encode, ImportSettings.encode, MessageCatalog.encode, Value.isTextual,
    membersTextual, member, Value.text, isTextual_textList,
    Template.isTextual_encode]

/-- What is read of settings that were written. -/
theorem read_written {config : HandlerConfig}
    (labelled : config.messages.Labelled) :
    decode? config.toToml = some config.restored ∧
      decodeText (decode .direct) config.encode.toText =
        .ok config.restored := by
  refine ⟨decode?_toToml labelled, ?_⟩
  rw [Json.decodeText_toText _ config.isTextual_encode]
  exact decode_encode .direct labelled

end HandlerConfig

/-- Settings that a text describes are written, as a table and as JSON, and read
again as they were, except that buttons that there are by default are there
again.  So nothing is lost exactly if none of those was removed. -/
theorem written_settings_restored {text : String} {config : HandlerConfig}
    (described : HandlerConfig.ofToml? text = some config) :
    HandlerConfig.decode? config.toToml = some config.restored ∧
      decodeText (HandlerConfig.decode .direct) config.encode.toText =
        .ok config.restored ∧
      (config.restored = config ↔
        ∀ kind, (({} : MessageCatalog).template kind).buttonLabel ≠ none →
          (config.messages.template kind).buttonLabel ≠ none) := by
  obtain ⟨document, _, decoded⟩ := Option.bind_eq_some_iff.mp described
  have labelled := HandlerConfig.labelled_of_decode? decoded
  obtain ⟨table, json⟩ := HandlerConfig.read_written labelled
  exact ⟨table, json, HandlerConfig.restored_eq_self_iff⟩

def helpfulText : String :=
  "[messages.device_fail]\nbutton_label = \"Help\"\n"

/-- Devices that are not supported have a button, which they do not by
default. -/
def helpfulConfig : HandlerConfig where
  messages := { deviceFail := {
    ({} : MessageCatalog).deviceFail with buttonLabel := some "Help" } }

theorem written_settings_restored_of_helpfulConfig :
    HandlerConfig.ofToml? helpfulText = some helpfulConfig ∧
      HandlerConfig.decode? helpfulConfig.toToml = some helpfulConfig ∧
      decodeText (HandlerConfig.decode .direct) helpfulConfig.encode.toText =
        .ok helpfulConfig := by
  have read : document? helpfulText =
      some [("messages", .table [
        ("device_fail", .table [("button_label", .string "Help")])])] := by
    decide +kernel
  have described : HandlerConfig.ofToml? helpfulText = some helpfulConfig := by
    rw [HandlerConfig.ofToml?, read]
    rfl
  obtain ⟨table, json, kept⟩ := written_settings_restored described
  have same : helpfulConfig.restored = helpfulConfig := by
    apply kept.mpr
    intro kind
    cases kind <;> decide
  rw [same] at table json
  exact ⟨described, table, json⟩

/-- Settings with a button that was removed.  It is there again once they were
written and read. -/
theorem removed_button_comes_back :
    ∃ config again : HandlerConfig,
      HandlerConfig.ofToml?
          "[messages.device_navigation]\nbutton_label = \"\"\n" =
        some config ∧
      HandlerConfig.decode? config.toToml = some again ∧
      decodeText (HandlerConfig.decode .direct) config.encode.toText =
        .ok again ∧
      config.messages.deviceNavigation.buttonLabel = none ∧
      again.messages.deviceNavigation.buttonLabel = some "Open" := by
  have read : document?
      "[messages.device_navigation]\nbutton_label = \"\"\n" =
      some [("messages", .table [
        ("device_navigation", .table [("button_label", .string "")])])] := by
    decide +kernel
  obtain ⟨config, decoded, removed⟩ : ∃ config,
      HandlerConfig.decode? (.table [("messages", .table [
        ("device_navigation", .table [("button_label", .string "")])])]) =
        some config ∧ config.messages.deviceNavigation.buttonLabel = none :=
    ⟨_, rfl, rfl⟩
  obtain ⟨table, json⟩ := HandlerConfig.read_written
    (HandlerConfig.labelled_of_decode? decoded)
  refine ⟨config, config.restored, ?_, table, json, removed, ?_⟩
  · rw [HandlerConfig.ofToml?, read]
    exact decoded
  · change config.messages.deviceNavigation.buttonLabel.or (some "Open") = _
    rw [removed]
    rfl

end RemovableMedia
