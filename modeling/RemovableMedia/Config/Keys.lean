import RemovableMedia.Config.Messages

/-!
# Texts in place of the defaults

Settings of messages only give what differs.  The keys of a template give some
of its texts, and an empty label stands for no button.
-/

namespace RemovableMedia

/-- The texts that the keys of a template give. -/
structure TemplateKeys where
  title : Option String := none
  message : Option String := none
  buttonLabel : Option String := none
  deriving DecidableEq, Repr

namespace TemplateKeys

/-- The button with these keys: an empty label takes the default away. -/
def button (keys : TemplateKeys) (default : Option String) : Option String :=
  match keys.buttonLabel with
  | none => default
  | some label => if label = "" then none else some label

/-- A template with the texts that are given. -/
def overriding (keys : TemplateKeys) (default : Template) : Template where
  title := keys.title.getD default.title
  message := keys.message.getD default.message
  buttonLabel := keys.button default.buttonLabel

end TemplateKeys

end RemovableMedia
