import RemovableMedia.Config.Keys
import RemovableMedia.Proofs.Config.Fields
import RemovableMedia.Proofs.Notification.LastWord

/-!
# Configured texts

Every text of the settings has a key of its own.  A text that is given takes the
place of the default of the same kind and the same field, and of nothing else;
it is what the host gets when a notification of that kind is shown.
-/

namespace RemovableMedia

open Toml HostCall RecordingHost

/-- The texts that the keys of the messages give. -/
structure MessageKeys where
  template : NotificationKind → TemplateKeys := fun _ => {}
  text : FailureText → Option String := fun _ => none

namespace TemplateKeys

/-- The value of a table, if there is one, lists just these texts. -/
def ListedIn (keys : TemplateKeys) : Option Value → Prop
  | none => keys = {}
  | some value => ∃ fields, fields? Template.fieldNames value = some fields ∧
      fields.value? "title" = keys.title.map .string ∧
      fields.value? "message" = keys.message.map .string ∧
      fields.value? "button_label" = keys.buttonLabel.map .string

end TemplateKeys

namespace MessageKeys

def ListedIn (keys : MessageKeys) : Option Value → Prop
  | none => keys = {}
  | some value =>
      ∃ fields, fields? MessageCatalog.fieldNames value = some fields ∧
        (∀ kind, (keys.template kind).ListedIn (fields.value? kind.code)) ∧
        ∀ own, fields.value? own.fieldName = (keys.text own).map .string

def templateOf (keys : MessageKeys) (kind : NotificationKind) : Template :=
  (keys.template kind).overriding (({} : MessageCatalog).template kind)

def textOf (keys : MessageKeys) (own : FailureText) : String :=
  (keys.text own).getD (({} : MessageCatalog).text own)

/-- What is shown of a kind, unless another message is given. -/
def content (keys : MessageKeys) (icon : String) (kind : NotificationKind)
    (message : Option String) : NotificationContent where
  title := (keys.templateOf kind).title
  message := message.getD (keys.templateOf kind).message
  icon
  buttonLabel := (keys.templateOf kind).buttonLabel

/-- The text of a failure.  Without a label, failures of one volume fall back on
the messages of their kinds. -/
def render (keys : MessageKeys) (message : FailureMessage) : String :=
  let named (own : FailureText) (label : String) : String :=
    String.ofList (expandLabel label.toList (keys.textOf own).toList)
  match message.cause, message.label with
  | .unsupported, some label => named .unsupported label
  | .unknown, some label => named .unknown label
  | .multipart, some label => named .multipart label
  | .unsupported, none => (keys.templateOf .deviceFail).message
  | .unknown, none => (keys.templateOf .deviceFailUnknown).message
  | .multipart, none => keys.textOf .multipartUnlabelled

def catalog (keys : MessageKeys) : MessageCatalog :=
  .tabulate keys.templateOf keys.textOf

end MessageKeys

/-! ## Decoding -/

theorem Toml.Fields.read_listed {fields : Fields} {name : String}
    {given : Option String}
    (listed : fields.value? name = given.map .string) (default : String) :
    fields.read name text? default = some (given.getD default) := by
  cases given with
  | none => exact read_of_missing listed text? default
  | some text => exact read_of_given listed text? default

theorem TemplateKeys.decode?_of_listed {keys : TemplateKeys} {value : Value}
    (listed : keys.ListedIn (some value)) (default : Template) :
    Template.decode? default value = some (keys.overriding default) := by
  obtain ⟨fields, found, title, message, label⟩ := listed
  refine Template.decode?_eq_some_iff.mpr ⟨fields, found,
    Fields.read_listed title _, Fields.read_listed message _, ?_⟩
  unfold overriding button
  cases given : keys.buttonLabel with
  | none =>
      rw [given] at label
      exact Fields.read_of_missing label Template.button? _
  | some text =>
      rw [given] at label
      exact Fields.read_of_given label Template.button? _

namespace MessageKeys

variable {keys : MessageKeys}

theorem decode?_of_listed {value : Value}
    (listed : keys.ListedIn (some value)) :
    MessageCatalog.decode? value = some keys.catalog := by
  obtain ⟨fields, found, templates, texts⟩ := listed
  refine MessageCatalog.decode?_eq_some_iff.mpr ⟨fields, found, ?_, ?_⟩
  · intro kind
    have own := templates kind
    rw [catalog, MessageCatalog.template_tabulate]
    cases given : fields.value? kind.code with
    | none =>
        rw [given] at own
        rw [Fields.read_of_missing given, templateOf, own]
        rfl
    | some value =>
        rw [given] at own
        rw [Fields.read_of_given given]
        exact TemplateKeys.decode?_of_listed own _
  · intro own
    rw [catalog, MessageCatalog.text_tabulate]
    exact Fields.read_listed (texts own) _

theorem read_of_listed {fields : Fields}
    (listed : keys.ListedIn (fields.value? "messages")) :
    fields.read "messages" MessageCatalog.decode? {} = some keys.catalog := by
  cases given : fields.value? "messages" with
  | none =>
      rw [given] at listed
      rw [Fields.read_of_missing given, listed]
      rfl
  | some value =>
      rw [given] at listed
      rw [Fields.read_of_given given]
      exact decode?_of_listed listed

theorem content_catalog (config : HandlerConfig) (kind : NotificationKind)
    (message : Option String) :
    (Center.ofConfig { config with messages := keys.catalog }).content kind
        message = keys.content config.icon kind message := by
  have template : keys.catalog.template kind = keys.templateOf kind :=
    MessageCatalog.template_tabulate _ _ kind
  simp only [Center.content, Center.ofConfig, template]
  rfl

theorem render_catalog (message : FailureMessage) :
    keys.catalog.render message = keys.render message := by
  obtain ⟨cause, label⟩ := message
  cases cause <;> cases label <;> rfl

end MessageKeys

/-- What is given for the messages is of no account for the other settings. -/
theorem HandlerConfig.decode?_with_messages {fields : Fields}
    {rest : HandlerConfig} {catalog : MessageCatalog}
    (others : decode? (.table (fields.without "messages")) = some rest)
    (messages : fields.read "messages" MessageCatalog.decode? {} =
      some catalog) :
    decode? (.table fields) = some { rest with messages := catalog } := by
  obtain ⟨found, taken, level, name, image, folders, target, policy, _⟩ :=
    decode?_eq_some_iff.mp others
  obtain ⟨fits, rfl⟩ := fields?_table_eq_some_iff.mp taken
  have whole := fields?_table_eq_some_iff.mpr
    ⟨Fields.fits_of_without (by decide) fits, rfl⟩
  have apart {α : Type} {own : String} (different : own ≠ "messages")
      (decode : Value → Option α) (default : α) :
      (fields.without "messages").read own decode default =
        fields.read own decode default :=
    Fields.read_congr (fields.value?_without_of_ne different) decode default
  rw [apart (by decide)] at level name image folders target policy
  exact decode?_eq_some_iff.mpr ⟨fields, whole, level, name, image, folders,
    target, policy, messages⟩

/-- A document whose other settings can be taken in gives its texts to the
notifications, and to nothing else.  Whatever was asked before, a notification
that is shown reaches the host with the title, the message and the button that
are given for its kind, or with the defaults of its kind; a message that it is
shown with takes the place of the one of its kind.  The text of a failure is the
one that is given for it, or its default. -/
theorem shown_as_configured {σ : Type} [NotificationHost σ] [RecordingHost σ]
    {text : String} {document : Fields} {rest : HandlerConfig}
    {keys : MessageKeys} (read : document? text = some document)
    (others : HandlerConfig.decode? (.table (document.without "messages")) =
      some rest)
    (listed : keys.ListedIn (document.value? "messages")) :
    ∃ config, HandlerConfig.ofToml? text = some config ∧
      { config with messages := rest.messages } = rest ∧
      (∀ (host : σ) (steps : List CenterStep) (kind : NotificationKind)
          (path : String) (message : Option String) (turned : List Family),
        let office := (Office.opened config host).run
          (steps ++ .call (.show kind path message) :: turned.map .turn)
        lastAbout? (kind.idFor path).text
            (calls (office.center.flush office.desk).2.host) =
          some (.create (kind.idFor path).text
            (keys.content config.icon kind message))) ∧
      ∀ message, config.messages.render message = keys.render message := by
  refine ⟨{ rest with messages := keys.catalog }, ?_, rfl, ?_,
    MessageKeys.render_catalog⟩
  · rw [HandlerConfig.ofToml?, read]
    exact HandlerConfig.decode?_with_messages others
      (MessageKeys.read_of_listed listed)
  · intro host steps kind path message turned
    rw [← MessageKeys.content_catalog]
    exact Office.lastAbout?_show _ host steps kind path message turned

/-- Cards that can be opened get a title of their own and no button. -/
def cardText : String :=
  "icon = \"card\"\n[messages.device_navigation]\n" ++
    "button_label = \"\"\ntitle = \"Card\"\n"

def cardDocument : Fields := [
  ("icon", .string "card"),
  ("messages", .table [("device_navigation", .table [
    ("button_label", .string ""), ("title", .string "Card")])])]

def cardKeys : MessageKeys where
  template
    | .deviceNavigation => { title := some "Card", buttonLabel := some "" }
    | _ => {}

/-- A card is plugged in. -/
def cardOffice (config : HandlerConfig) : Office Screen :=
  (Office.opened config {}).run
    [.call (.show .deviceNavigation "/dev/sdb" none)]

theorem shown_as_configured_for_card :
    ∃ config, HandlerConfig.ofToml? cardText = some config ∧
      lastAbout? "deviceNavigation:/dev/sdb" (calls
          ((cardOffice config).center.flush (cardOffice config).desk).2.host) =
        some (.create "deviceNavigation:/dev/sdb" {
          title := "Card"
          message := "Explore the device's content in the file manager."
          icon := "card" }) ∧
      config.messages.render ⟨.unknown, some "USB"⟩ =
        "Sorry, the device USB could not be recognized." := by
  have read : document? cardText = some cardDocument := by decide +kernel
  have others :
      HandlerConfig.decode? (.table (cardDocument.without "messages")) =
        some { icon := "card" } := rfl
  have listed : cardKeys.ListedIn (cardDocument.value? "messages") := by
    refine ⟨_, rfl, ?_, ?_⟩
    · intro kind
      cases kind with
      | deviceNavigation => exact ⟨_, rfl, rfl, rfl, rfl⟩
      | _ => exact rfl
    · intro own
      cases own <;> rfl
  obtain ⟨config, decoded, same, shown, rendered⟩ :=
    @shown_as_configured Screen _ _ _ _ _ _ read others listed
  have icon : config.icon = "card" := congrArg HandlerConfig.icon same
  refine ⟨config, decoded, ?_, rendered ⟨.unknown, some "USB"⟩⟩
  have seen := shown {} [] .deviceNavigation "/dev/sdb" none []
  rw [icon] at seen
  exact seen

end RemovableMedia
