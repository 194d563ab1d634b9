import Mathlib.Control.Monad.Basic
import RemovableMedia.Proofs.Json.Recovery
import RemovableMedia.Proofs.Notification.Identity
import RemovableMedia.Wire.Format

/-!
# Round trips over the wire

What a text decodes to is encoded to a text that decodes to it again.  Most types
have this for every value; codes and identities have it for those values that a
text can stand for at all.
-/

namespace RemovableMedia

open Json Record Field Decoder

/-! ## Names -/

namespace MountOperation

theorem recovers (source : Source) (operation : MountOperation) :
    Recovers (decode source) encode operation := by
  cases operation with
  | mount => exact ⟨rfl, rfl⟩
  | unmount => exact ⟨rfl, rfl⟩

end MountOperation

namespace MountStatus

theorem recovers (source : Source) (status : MountStatus) :
    Recovers (decode source) encode status := by
  cases status <;> exact ⟨rfl, rfl⟩

end MountStatus

namespace NotificationKind

theorem recovers (source : Source) (kind : NotificationKind) :
    Recovers (decode source) encode kind := by
  cases kind <;> exact ⟨rfl, rfl⟩

end NotificationKind

namespace HostErrorKind

theorem recovers (source : Source) (kind : HostErrorKind) :
    Recovers (decode source) encode kind := by
  cases kind <;> exact ⟨rfl, rfl⟩

end HostErrorKind

/-! ## Codes and identities -/

namespace DeviceChange

/-- A change is canonical if its code is read as the change itself; a known code
that is kept as an unknown one is not. -/
def IsCanonical (change : DeviceChange) : Prop :=
  ofCode change.code = change

theorem isCanonical_ofCode (code : String) : (ofCode code).IsCanonical := by
  rw [IsCanonical, code_ofCode]

theorem eq_encode_of_decode {value : Json.Value} {change : DeviceChange}
    (decoded : decode value = .ok change) : value = change.encode := by
  obtain ⟨code, rfl, meant⟩ := of_coded decoded
  rw [← Except.ok.inj meant, encode, code_ofCode]

theorem isCanonical_of_decode {value : Json.Value} {change : DeviceChange}
    (decoded : decode value = .ok change) : change.IsCanonical := by
  obtain ⟨code, rfl, meant⟩ := of_coded decoded
  exact Except.ok.inj meant ▸ isCanonical_ofCode code

theorem recovers {change : DeviceChange} (canonical : change.IsCanonical) :
    Recovers decode encode change :=
  ⟨rfl, congrArg Except.ok canonical⟩

end DeviceChange

namespace MountOutcome

def IsCanonical (outcome : MountOutcome) : Prop :=
  ofCode outcome.code = outcome

theorem isCanonical_ofCode (code : String) : (ofCode code).IsCanonical := by
  rw [IsCanonical, code_ofCode]

theorem eq_encode_of_decode {value : Json.Value} {outcome : MountOutcome}
    (decoded : decode value = .ok outcome) : value = outcome.encode := by
  obtain ⟨code, rfl, meant⟩ := of_coded decoded
  rw [← Except.ok.inj meant, encode, code_ofCode]

theorem isCanonical_of_decode {value : Json.Value} {outcome : MountOutcome}
    (decoded : decode value = .ok outcome) : outcome.IsCanonical := by
  obtain ⟨code, rfl, meant⟩ := of_coded decoded
  exact Except.ok.inj meant ▸ isCanonical_ofCode code

theorem recovers {outcome : MountOutcome} (canonical : outcome.IsCanonical) :
    Recovers decode encode outcome :=
  ⟨rfl, congrArg Except.ok canonical⟩

end MountOutcome

namespace NotificationId

/-- An identity is canonical if its text is read as the identity itself. -/
def IsCanonical (id : NotificationId) : Prop :=
  parse? id.text = some id

theorem isCanonical_of_decode {value : Json.Value} {id : NotificationId}
    (decoded : decode value = .ok id) : id.IsCanonical := by
  obtain ⟨text, rfl, meant⟩ := of_coded decoded
  unfold ofText at meant
  split at meant
  · next found parsed =>
      have same := Except.ok.inj meant
      rw [same] at parsed
      rw [IsCanonical, text_of_parse? parsed]
      exact parsed
  · exact absurd meant (by simp)

theorem recovers {id : NotificationId} (canonical : id.IsCanonical) :
    Recovers decode encode id := by
  have meant : ofText id.text = .ok id := by
    rw [ofText, canonical]
  constructor
  · rfl
  · exact congrArg (Except.mapError Json.DecodeError.refusedText) meant

end NotificationId

/-! ## Records -/

namespace VolumeMetadata

theorem recovers (source : Source) (volume : VolumeMetadata) :
    Recovers (decode source) encode volume := by
  have optional (text : Option String) := optional_optionalText text
  constructor
  · simp [encode, Value.isTextual, membersTextual, member, Value.text,
      Value.isTextual_optionalText]
  · rw [decode, encode, Record.decode,
      members_cons rfl (check_defaulted _ (optional _)) rfl,
      members_cons rfl (check_defaulted _ (optional _)) rfl,
      members_cons rfl (check_defaulted _ (optional _)) rfl,
      members_cons rfl rfl rfl,
      members_cons rfl (check_defaulted _ (optional _)) rfl]
    simp [members, bind, Except.bind, record, Found.defaulted, Found.value?,
      optional, Decoder.boolean]
    rfl

end VolumeMetadata

namespace VolumeHandle

theorem recovers (source : Source) (volume : VolumeHandle) :
    Recovers (decode source) encode volume :=
  ⟨rfl, rfl⟩

end VolumeHandle

namespace DirectoryHandle

theorem recovers (source : Source) (directory : DirectoryHandle) :
    Recovers (decode source) encode directory :=
  ⟨rfl, rfl⟩

end DirectoryHandle

namespace HostError

theorem recovers (source : Source) (error : HostError) :
    Recovers (decode source) encode error := by
  obtain ⟨kind, message⟩ := error
  cases kind <;> exact ⟨rfl, rfl⟩

end HostError

namespace NotificationContent

theorem recovers (source : Source) (content : NotificationContent) :
    Recovers (decode source) encode content := by
  obtain ⟨title, message, icon, buttonLabel⟩ := content
  cases buttonLabel <;> exact ⟨rfl, rfl⟩

end NotificationContent

namespace NavigationRequest

theorem recovers (source : Source) (request : NavigationRequest) :
    Recovers (decode source) encode request := by
  obtain ⟨devicePath, volumeId, filePath⟩ := request
  cases devicePath <;> cases volumeId <;> cases filePath <;>
    exact ⟨rfl, rfl⟩

end NavigationRequest

namespace ButtonClicked

theorem recovers (source : Source) (event : ButtonClicked) :
    Recovers (decode source) encode event :=
  ⟨rfl, rfl⟩

end ButtonClicked

/-! ## Events -/

namespace DeviceChanged

theorem recovers (source : Source) {event : DeviceChanged}
    (canonical : event.change.IsCanonical) :
    Recovers (decode source) encode event := by
  have change := DeviceChange.recovers canonical
  constructor
  · rfl
  · rw [decode, encode, Record.decode, members,
      members_cons rfl (check_required _ change.decoded) rfl]
    exact congrArg (Except.map fun change =>
      DeviceChanged.mk change event.devicePath) change.decoded

theorem isCanonical_of_decode {source : Source} {value : Json.Value}
    {event : DeviceChanged} (decoded : decode source value = .ok event) :
    event.change.IsCanonical := by
  obtain ⟨found, built⟩ := exists_build decoded
  obtain ⟨change, read, built⟩ := of_bind built
  obtain ⟨devicePath, _, built⟩ := of_bind built
  obtain ⟨coded, read⟩ := Found.of_required read
  rw [← Except.ok.inj built]
  exact DeviceChange.isCanonical_of_decode read

end DeviceChanged

namespace MountCompleted

theorem recovers (source : Source) {event : MountCompleted}
    (canonical : event.outcome.IsCanonical) :
    Recovers (decode source) encode event := by
  have outcome := MountOutcome.recovers canonical
  have operation := MountOperation.recovers source event.operation
  have volume := VolumeMetadata.recovers source event.volume
  have flag : Decoder.boolean (.boolean event.shouldNotify) =
      .ok event.shouldNotify := rfl
  constructor
  · simp [encode, members, Value.isTextual, membersTextual, member, Value.text,
      volume.textual, operation.textual, outcome.textual]
  · rw [decode, encode, Record.decode, members,
      members_cons rfl (check_required _ operation.decoded) rfl,
      members_cons rfl (check_required _ outcome.decoded) rfl,
      members_cons rfl (check_defaulted _ flag) rfl,
      members_cons rfl (check_required _ volume.decoded) rfl]
    simp [Record.members, bind, Except.bind, record, Found.required,
      Found.defaulted, Found.value?, Decoder.boolean, operation.decoded,
      outcome.decoded, volume.decoded]
    rfl

theorem isCanonical_of_decode {source : Source} {value : Json.Value}
    {event : MountCompleted} (decoded : decode source value = .ok event) :
    event.outcome.IsCanonical := by
  obtain ⟨found, built⟩ := exists_build decoded
  obtain ⟨operation, _, built⟩ := of_bind built
  obtain ⟨outcome, read, built⟩ := of_bind built
  obtain ⟨shouldNotify, _, built⟩ := of_bind built
  obtain ⟨volume, _, built⟩ := of_bind built
  obtain ⟨coded, read⟩ := Found.of_required read
  rw [← Except.ok.inj built]
  exact MountOutcome.isCanonical_of_decode read

end MountCompleted

namespace HostEvent

/-- A member that an event may have beside its tag. -/
def IsField (entry : Json.Value × Json.Value) : Prop :=
  ∃ name value, entry = member name value ∧ name ≠ tagName ∧
    value.isReadable innerLevels = true

theorem separate_fields (tag : Tag) (entries : List (Json.Value × Json.Value))
    (fields : ∀ entry ∈ entries, IsField entry) :
    separate (some tag) entries = .ok (some tag, entries) := by
  induction entries with
  | nil => rfl
  | cons entry rest ih =>
    obtain ⟨name, value, rfl, other, readable⟩ :=
      fields entry List.mem_cons_self
    have rest := ih fun entry here => fields entry (List.mem_cons_of_mem _ here)
    simp only [member, Value.text, separate, if_neg other, readable, rest]
    rfl

theorem decode_tagged {name : String} {tag : Tag}
    (named : tagChoice.ofName name = .ok tag)
    (entries : List (Json.Value × Json.Value))
    (fields : ∀ entry ∈ entries, IsField entry) :
    decode (.object (tagMember name :: entries)) =
      decodeAs (.object entries) tag := by
  have identified : tagChoice.identifier (.text name) = .ok tag := named
  have separated := separate_fields tag entries fields
  simp only [decode, tagMember, member, Value.text, separate, if_pos] at *
  simp only [identified, bind, Except.bind, separated]

theorem isField_member {name : String} (other : name ≠ tagName)
    {value : Json.Value} (readable : value.isReadable innerLevels = true) :
    IsField (member name value) :=
  ⟨name, value, rfl, other, readable⟩

end HostEvent

namespace DeviceChanged

theorem isField_members (event : DeviceChanged) :
    ∀ entry ∈ event.members, HostEvent.IsField entry := by
  simp only [members, List.mem_cons, List.not_mem_nil, or_false,
    forall_eq_or_imp, forall_eq]
  exact ⟨HostEvent.isField_member (by decide) rfl,
    HostEvent.isField_member (by decide) rfl⟩

end DeviceChanged

namespace VolumeMetadata

theorem isReadable_encode (volume : VolumeMetadata) :
    volume.encode.isReadable HostEvent.innerLevels = true := by
  have text (text : Option String) (levels : Nat) :
      (Value.optionalText text).isReadable levels = true := by
    cases text <;> rfl
  simp [encode, Value.isReadable, membersReadable, member, Value.text, text,
    HostEvent.innerLevels]

end VolumeMetadata

namespace MountCompleted

theorem isField_members (event : MountCompleted) :
    ∀ entry ∈ event.members, HostEvent.IsField entry := by
  simp only [members, List.mem_cons, List.not_mem_nil, or_false,
    forall_eq_or_imp, forall_eq]
  refine ⟨HostEvent.isField_member (by decide) rfl,
    HostEvent.isField_member (by decide) rfl,
    HostEvent.isField_member (by decide) rfl,
    HostEvent.isField_member (by decide) ?_⟩
  exact event.volume.isReadable_encode

end MountCompleted

namespace ButtonClicked

theorem isField_members (event : ButtonClicked) :
    ∀ entry ∈ event.members, HostEvent.IsField entry := by
  simp only [members, List.mem_cons, List.not_mem_nil, or_false, forall_eq]
  exact HostEvent.isField_member (by decide) rfl

end ButtonClicked

namespace HostEvent

theorem decode_of_decodeFields {name : String} {tag : Tag}
    (named : tagChoice.ofName name = .ok tag)
    {entries : List (Json.Value × Json.Value)}
    (fields : ∀ entry ∈ entries, IsField entry) {event : HostEvent}
    (decoded : decodeFields (.object entries) tag = .ok event) :
    decode (.object (tagMember name :: entries)) = .ok event := by
  rw [decode_tagged named entries fields, decodeAs, decoded]
  rfl

/-- Whatever an event is decoded from, its fields are decoded in the end. -/
theorem exists_fields_of_decode {value : Json.Value} {event : HostEvent}
    (decoded : decode value = .ok event) :
    ∃ fields tag, decodeFields fields tag = .ok event := by
  unfold decode at decoded
  split at decoded
  · next members =>
    obtain ⟨⟨tag, others⟩, _, ended⟩ := of_bind decoded
    cases tag with
    | none => exact absurd ended (by simp [throw, throwThe, MonadExceptOf.throw])
    | some tag => exact ⟨.object others, tag, of_mapError ended⟩
  · exact absurd decoded (by simp)
  · next first rest =>
    obtain ⟨tag, _, ended⟩ := of_bind decoded
    split at ended
    · exact ⟨.array rest, tag, of_mapError ended⟩
    · exact absurd ended (by simp [throw, throwThe, MonadExceptOf.throw])
  · exact absurd decoded (by simp)

def IsCanonical : HostEvent → Prop
  | deviceChanged event => event.change.IsCanonical
  | mountCompleted event => event.outcome.IsCanonical
  | buttonClicked _ => True

theorem isCanonical_of_decode {value : Json.Value} {event : HostEvent}
    (decoded : decode value = .ok event) : event.IsCanonical := by
  obtain ⟨fields, tag, read⟩ := exists_fields_of_decode decoded
  cases tag with
  | deviceChanged =>
    obtain ⟨changed, found, rfl⟩ := of_map read
    exact DeviceChanged.isCanonical_of_decode found
  | mountCompleted =>
    obtain ⟨completed, found, rfl⟩ := of_map read
    exact MountCompleted.isCanonical_of_decode found
  | buttonClicked =>
    obtain ⟨clicked, _, rfl⟩ := of_map read
    trivial

theorem recovers {event : HostEvent} (canonical : event.IsCanonical) :
    Recovers decode encode event := by
  cases event with
  | deviceChanged changed =>
    have fields := DeviceChanged.recovers .takenIn canonical
    constructor
    · exact fields.textual
    · apply decode_of_decodeFields rfl changed.isField_members
      exact congrArg (Except.map deviceChanged) fields.decoded
  | mountCompleted completed =>
    have fields := MountCompleted.recovers .takenIn canonical
    constructor
    · exact fields.textual
    · apply decode_of_decodeFields rfl completed.isField_members
      exact congrArg (Except.map mountCompleted) fields.decoded
  | buttonClicked clicked =>
    have fields := ButtonClicked.recovers .takenIn clicked
    constructor
    · exact fields.textual
    · apply decode_of_decodeFields rfl clicked.isField_members
      exact congrArg (Except.map buttonClicked) fields.decoded

end HostEvent

/-! ## All types -/

namespace WireType

/-- Is the value one that a text can stand for?  Only codes and identities, and
the events that hold a code, have others. -/
def IsCanonical : (type : WireType) → type.Carrier → Prop
  | hostEvent, event => event.IsCanonical
  | deviceChanged, event => event.change.IsCanonical
  | mountCompleted, event => event.outcome.IsCanonical
  | notificationId, id => id.IsCanonical
  | deviceChange, change => change.IsCanonical
  | mountOutcome, outcome => outcome.IsCanonical
  | _, _ => True

theorem isCanonical_of_decode (type : WireType) {value : Json.Value}
    {result : type.Carrier} (decoded : type.decode value = .ok result) :
    type.IsCanonical result := by
  cases type with
  | hostEvent => exact HostEvent.isCanonical_of_decode decoded
  | deviceChanged => exact DeviceChanged.isCanonical_of_decode decoded
  | mountCompleted => exact MountCompleted.isCanonical_of_decode decoded
  | notificationId => exact NotificationId.isCanonical_of_decode decoded
  | deviceChange => exact DeviceChange.isCanonical_of_decode decoded
  | mountOutcome => exact MountOutcome.isCanonical_of_decode decoded
  | _ => trivial

theorem recovers_of_isCanonical (type : WireType) {value : type.Carrier}
    (canonical : type.IsCanonical value) :
    Recovers type.decode type.encode value := by
  cases type with
  | hostEvent => exact HostEvent.recovers canonical
  | deviceChanged => exact DeviceChanged.recovers .direct canonical
  | mountCompleted => exact MountCompleted.recovers .direct canonical
  | buttonClicked => exact ButtonClicked.recovers .direct value
  | volumeMetadata => exact VolumeMetadata.recovers .direct value
  | volumeHandle => exact VolumeHandle.recovers .direct value
  | directoryHandle => exact DirectoryHandle.recovers .direct value
  | navigationRequest => exact NavigationRequest.recovers .direct value
  | notificationContent => exact NotificationContent.recovers .direct value
  | notificationId => exact NotificationId.recovers canonical
  | notificationKind => exact NotificationKind.recovers .direct value
  | hostError => exact HostError.recovers .direct value
  | hostErrorKind => exact HostErrorKind.recovers .direct value
  | deviceChange => exact DeviceChange.recovers canonical
  | mountOperation => exact MountOperation.recovers .direct value
  | mountOutcome => exact MountOutcome.recovers canonical
  | mountStatus => exact MountStatus.recovers .direct value

/-- A value is read back from its own text exactly when it is canonical. -/
theorem ofText_toText_iff (type : WireType) (value : type.Carrier) :
    type.ofText (type.toText value) = .ok value ↔ type.IsCanonical value := by
  constructor
  · intro decoded
    exact type.isCanonical_of_decode (of_decodeText decoded)
  · intro canonical
    exact (type.recovers_of_isCanonical canonical).decodeText_toText

/-- What a text decodes to is written as a text that decodes to it again and is
written in the same way; every canonical value comes of a text.  A code is
written as it was read, and every text is a code. -/
theorem wire_round_trip :
    (∀ (type : WireType) (text : String) (value : type.Carrier),
      type.ofText text = .ok value →
        type.ofText (type.toText value) = .ok value ∧
        (type.ofText (type.toText value)).map type.toText =
          .ok (type.toText value)) ∧
    (∀ (type : WireType) (value : type.Carrier), type.IsCanonical value →
      type.ofText (type.toText value) = .ok value) ∧
    (∀ code : String,
      (∃ change, deviceChange.decode (.text code) = .ok change ∧
        deviceChange.encode change = .text code) ∧
      ∃ outcome, mountOutcome.decode (.text code) = .ok outcome ∧
        mountOutcome.encode outcome = .text code) ∧
    ∀ value,
      (∀ change, deviceChange.decode value = .ok change →
        value = deviceChange.encode change) ∧
      ∀ outcome, mountOutcome.decode value = .ok outcome →
        value = mountOutcome.encode outcome := by
  refine ⟨?_, ?_, fun code => ⟨?_, ?_⟩, fun value => ⟨?_, ?_⟩⟩
  · intro type text value decoded
    have canonical := type.isCanonical_of_decode (of_decodeText decoded)
    have again := (type.ofText_toText_iff value).mpr canonical
    exact ⟨again, by rw [again]; rfl⟩
  · intro type value canonical
    exact (type.ofText_toText_iff value).mpr canonical
  · refine ⟨DeviceChange.ofCode code, rfl, ?_⟩
    exact congrArg Value.text (DeviceChange.code_ofCode code)
  · refine ⟨MountOutcome.ofCode code, rfl, ?_⟩
    exact congrArg Value.text (MountOutcome.code_ofCode code)
  · intro change decoded
    exact DeviceChange.eq_encode_of_decode decoded
  · intro outcome decoded
    exact MountOutcome.eq_encode_of_decode decoded

def arrayText : String :=
  "[\"device_changed\", \"scan\\u005fstarted\", \"/dev/\\ud83d\\udcbe\"]"

def arrayEvent : HostEvent :=
  .deviceChanged ⟨.unknown "scan_started", "/dev/💾"⟩

/-- An array with escapes in it stands for an event, which is then written as an
object with plain characters. -/
theorem wire_round_trip_of_array :
    hostEvent.ofText arrayText = .ok arrayEvent ∧
      hostEvent.ofText (hostEvent.toText arrayEvent) = .ok arrayEvent ∧
      (hostEvent.ofText (hostEvent.toText arrayEvent)).map hostEvent.toText =
        .ok (hostEvent.toText arrayEvent) := by
  have decoded : hostEvent.ofText arrayText = .ok arrayEvent := by
    decide +kernel
  exact ⟨decoded,
    wire_round_trip.1 hostEvent arrayText arrayEvent decoded⟩

end WireType

end RemovableMedia
