import RemovableMedia.Json.Decode
import RemovableMedia.Proofs.Json.ReadBack

/-!
# Decoding what was encoded

A decoder recovers a value when the value is encoded to text alone and what it is
encoded to decodes to it again; then the written text does too.  A record is
decoded from an object one member at a time, each of which has to be accepted
under its own name.
-/

namespace RemovableMedia.Json

variable {α : Type}

/-- What succeeds in two steps succeeds in each of them. -/
theorem of_bind {ε β : Type} {first : Except ε β} {next : β → Except ε α}
    {result : α} (ended : (first >>= next) = .ok result) :
    ∃ middle, first = .ok middle ∧ next middle = .ok result := by
  cases first with
  | error error => exact absurd ended (by simp [bind, Except.bind])
  | ok middle => exact ⟨middle, rfl, ended⟩

/-- Two steps that succeed succeed together. -/
theorem bind_ok {ε β : Type} {first : Except ε β} {middle : β}
    {next : β → Except ε α} {result : α} (begun : first = .ok middle)
    (ended : next middle = .ok result) : first >>= next = .ok result := by
  rw [begun]
  exact ended

theorem of_map {ε β : Type} {tried : Except ε α} {change : α → β} {result : β}
    (succeeded : tried.map change = .ok result) :
    ∃ value, tried = .ok value ∧ change value = result := by
  cases tried with
  | error error => exact absurd succeeded (by simp [Except.map])
  | ok value => exact ⟨value, rfl, Except.ok.inj succeeded⟩

theorem of_mapError {ε ε' : Type} {tried : Except ε α} {change : ε → ε'}
    {result : α} (succeeded : tried.mapError change = .ok result) :
    tried = .ok result := by
  cases tried with
  | error error =>
    have failed : Except.error (change error) = .ok result := succeeded
    exact absurd failed (by simp)
  | ok value => rw [Except.ok.inj succeeded]

theorem decodeText_toText (decoder : Decoder α) {value : Value}
    (textual : value.isTextual = true) :
    decodeText decoder value.toText = decoder value := by
  rw [decodeText, Document.read_toText textual]
  cases decoder value <;> rfl

theorem of_decodeText {decoder : Decoder α} {text : String} {result : α}
    (decoded : decodeText decoder text = .ok result) :
    decoder (Document.read text).value = .ok result := by
  obtain ⟨value, read, ended⟩ := of_bind decoded
  split at ended
  · obtain ⟨_, broken, _⟩ := of_bind ended
    exact absurd broken (by simp)
  · rw [read, Except.ok.inj ended]

/-- The value is encoded to something textual that decodes to it again. -/
structure Recovers (decoder : Decoder α) (encode : α → Value) (value : α) :
    Prop where
  textual : (encode value).isTextual = true
  decoded : decoder (encode value) = .ok value

theorem Recovers.decodeText_toText {decoder : Decoder α} {encode : α → Value}
    {value : α} (recovers : Recovers decoder encode value) :
    decodeText decoder (encode value).toText = .ok value := by
  rw [Json.decodeText_toText decoder recovers.textual]
  exact recovers.decoded

/-! ## Texts and choices -/

namespace Decoder

theorem optional_optionalText (text : Option String) :
    Decoder.optional .text (.optionalText text) = .ok text := by
  cases text with
  | none => rfl
  | some text => rfl

theorem of_text {value : Value} {text : String}
    (decoded : Decoder.text value = .ok text) : value = .text text := by
  unfold Decoder.text textAs at decoded
  split at decoded
  · next found => rw [Except.ok.inj decoded]; rfl
  · exact absurd decoded (by simp)

theorem of_coded {ofText : String → Except String α} {value : Value}
    {result : α} (decoded : coded ofText value = .ok result) :
    ∃ text, value = .text text ∧ ofText text = .ok result := by
  obtain ⟨text, read, meant⟩ := of_bind decoded
  exact ⟨text, of_text read, of_mapError meant⟩

end Decoder

theorem Value.isTextual_optionalText (text : Option String) :
    (Value.optionalText text).isTextual = true := by
  cases text with
  | none => rfl
  | some text => rfl

/-! ## Records -/

namespace Field

variable {decoder : Decoder α} {value : Value} {result : α}

theorem check_required (name : String)
    (decoded : decoder value = .ok result) :
    (required name decoder).check value = .ok () := by
  simp [required, decoded, Except.map]

theorem check_defaulted (name : String)
    (decoded : decoder value = .ok result) :
    (defaulted name decoder).check value = .ok () := by
  simp [defaulted, decoded, Except.map]

end Field

namespace Found

variable {found : Found} {name : String} {decoder : Decoder α} {result : α}

theorem defaulted_of_given {value : Value}
    (given : found.value? name = some value)
    (decoded : decoder value = .ok result) (default : α) :
    found.defaulted name decoder default = .ok result := by
  rw [defaulted, given]
  exact decoded

theorem of_required (built : found.required name decoder = .ok result) :
    ∃ value, decoder value = .ok result := by
  unfold required at built
  split at built
  · next value _ => exact ⟨value, built⟩
  · exact absurd built (by simp)

end Found

namespace Record

variable {record : Record α}

theorem members_cons {name : String} {field : Field}
    (known : record.field? name = some field) {value : Value}
    (accepted : field.check value = .ok ()) {found : Found}
    (fresh : (found.value? name).isSome = false)
    (rest : List (Value × Value)) :
    record.members found (member name value :: rest) =
      record.members ((name, value) :: found) rest := by
  simp only [member, Value.text]
  rw [members]
  simp only [known, fresh, accepted]
  rfl

/-- Whatever a record is decoded from, its value is built from fields that were
found. -/
theorem exists_build {source : Source} {value : Value} {result : α}
    (decoded : record.decode source value = .ok result) :
    ∃ found, record.build found = .ok result := by
  unfold decode at decoded
  split at decoded
  · obtain ⟨found, _, built⟩ := of_bind decoded
    exact ⟨found, built⟩
  · obtain ⟨found, _, built⟩ := of_bind decoded
    exact ⟨found, built⟩
  · exact absurd decoded (by simp)

end Record

end RemovableMedia.Json
