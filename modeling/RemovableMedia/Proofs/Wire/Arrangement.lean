import RemovableMedia.Proofs.Json.Members
import RemovableMedia.Proofs.Wire.RoundTrip

/-!
# Rearranged objects

An object of the wire means the same when its members stand in another order and
when there are members among them that its type does not know.  The same goes for
the object within it that describes a volume.  The tag of an event may stand
anywhere.
-/

namespace RemovableMedia

open Json Record

/-! ## Arrangements -/

/-- The names that have a meaning in the objects of a type, and how these are
read. -/
structure Outline where
  source : Source := .direct
  names : List String
  /-- Members that are objects themselves, and the names in them. -/
  inner : List (String × List String) := []

namespace Outline

/-- The value of a member, which may be an object that is extended itself. -/
inductive Same (outline : Outline) (name : String) (value : Json.Value) :
    Json.Value → Prop where
  | unchanged : Same outline name value value
  | extended {names : List String}
      {members others : List (Json.Value × Json.Value)}
      (known : (name, names) ∈ outline.inner) (object : value = .object members)
      (more : Extends names outline.source (HostEvent.innerLevels - 1)
        members others) :
      Same outline name value (.object others)

/-- The members of an object, and those of the objects within it, in any order and
with foreign ones among them. -/
def Rearranged (outline : Outline)
    (members others : List (Json.Value × Json.Value)) : Prop :=
  ∃ kept, List.Forall₂ (SameMember outline.Same) members kept ∧
    Extends outline.names outline.source HostEvent.innerLevels kept others

/-- The outline of an event with these fields. -/
def ofEvent (names : List String) (inner : List (String × List String)) :
    Outline where
  source := .takenIn
  names := HostEvent.tagName :: names
  inner := inner

end Outline

/-- The member of a mount result that is an object itself. -/
def MountCompleted.volumeField : String := "volumeMetadata"

/-- The objects within a mount result. -/
def MountCompleted.inner : List (String × List String) :=
  [(volumeField, VolumeMetadata.record.names)]

namespace WireType

/-- The outline of the objects that a value of the type is decoded from. -/
def outline? : (type : WireType) → type.Carrier → Option Outline
  | hostEvent, .deviceChanged _ =>
      some (.ofEvent DeviceChanged.record.names [])
  | hostEvent, .mountCompleted _ =>
      some (.ofEvent (MountCompleted.record .takenIn).names
        MountCompleted.inner)
  | hostEvent, .buttonClicked _ =>
      some (.ofEvent ButtonClicked.record.names [])
  | deviceChanged, _ => some { names := DeviceChanged.record.names }
  | mountCompleted, _ =>
      some {
        names := (MountCompleted.record .direct).names
        inner := MountCompleted.inner }
  | buttonClicked, _ => some { names := ButtonClicked.record.names }
  | volumeMetadata, _ => some { names := VolumeMetadata.record.names }
  | volumeHandle, _ => some { names := VolumeHandle.record.names }
  | directoryHandle, _ => some { names := DirectoryHandle.record.names }
  | navigationRequest, _ => some { names := NavigationRequest.record.names }
  | notificationContent, _ =>
      some { names := NotificationContent.record.names }
  | hostError, _ => some { names := (HostError.record .direct).names }
  | _, _ => none

end WireType

/-! ## Records -/

theorem VolumeMetadata.looksUp : VolumeMetadata.record.LooksUp := by
  intro found others same
  simp only [record, Found.defaulted, same]

theorem DeviceChanged.looksUp : DeviceChanged.record.LooksUp := by
  intro found others same
  simp only [record, Found.required, same]

theorem ButtonClicked.looksUp : ButtonClicked.record.LooksUp := by
  intro found others same
  simp only [record, Found.required, same]

theorem NavigationRequest.looksUp : NavigationRequest.record.LooksUp := by
  intro found others same
  simp only [record, Found.defaulted, same]

theorem VolumeHandle.looksUp : VolumeHandle.record.LooksUp := by
  intro found others same
  simp only [record, Found.required, same]

theorem DirectoryHandle.looksUp : DirectoryHandle.record.LooksUp := by
  intro found others same
  simp only [record, Found.required, same]

theorem NotificationContent.looksUp : NotificationContent.record.LooksUp := by
  intro found others same
  simp only [record, Found.required, Found.defaulted, same]

theorem HostError.looksUp (source : Source) :
    (HostError.record source).LooksUp := by
  intro found others same
  simp only [record, Found.required, same]

theorem MountCompleted.looksUp (source : Source) :
    (MountCompleted.record source).LooksUp := by
  intro found others same
  simp only [record, Found.required, Found.defaulted, same]

namespace Outline

theorem eq_of_same_flat {outline : Outline} (flat : outline.inner = [])
    {name : String} {value other : Json.Value}
    (same : outline.Same name value other) : other = value := by
  cases same with
  | unchanged => rfl
  | extended known _ _ =>
      rw [flat] at known
      exact absurd known List.not_mem_nil

variable {outline : Outline} {members others : List (Json.Value × Json.Value)}

theorem decode_rearranged {α : Type} {record : Record α} (source : Source)
    {result : α} (known : ∀ name ∈ record.names, name ∈ outline.names)
    (looksUp : record.LooksUp) (respects : record.Respects outline.Same)
    (decoded : record.decode source (.object members) = .ok result)
    (again : outline.Rearranged members others) :
    record.decode source (.object others) = .ok result := by
  obtain ⟨kept, alike, more⟩ := again
  exact decode_extends looksUp (decode_alike respects decoded alike)
    (more.mono known)

/-- Where no member is an object itself. -/
theorem decode_rearranged_flat {α : Type} {record : Record α} (source : Source)
    {result : α} (known : ∀ name ∈ record.names, name ∈ outline.names)
    (flat : outline.inner = []) (looksUp : record.LooksUp)
    (decoded : record.decode source (.object members) = .ok result)
    (again : outline.Rearranged members others) :
    record.decode source (.object others) = .ok result :=
  decode_rearranged source known looksUp
    (respects_of_eq looksUp (eq_of_same_flat flat)) decoded again

end Outline

namespace MountCompleted

variable {outline : Outline}

theorem decode_volume_of_same {source : Source} {name : String}
    (within : outline.inner = inner)
    {value other : Json.Value} (same : outline.Same name value other)
    {volume : VolumeMetadata}
    (decoded : VolumeMetadata.decode source value = .ok volume) :
    VolumeMetadata.decode source other = .ok volume := by
  cases same with
  | unchanged => exact decoded
  | extended known object more =>
      rw [within, inner, List.mem_singleton] at known
      obtain ⟨_, rfl⟩ := Prod.mk.inj known
      rw [object] at decoded
      exact decode_extends VolumeMetadata.looksUp decoded more

theorem eq_of_same (within : outline.inner = inner) {name : String}
    (other : name ≠ volumeField) {value changed : Json.Value}
    (same : outline.Same name value changed) : changed = value := by
  cases same with
  | unchanged => rfl
  | extended known _ _ =>
      rw [within, inner, List.mem_singleton] at known
      exact absurd (Prod.mk.inj known).1 other

theorem respects (source : Source)
    (within : outline.inner = inner) :
    (record source).Respects outline.Same := by
  constructor
  · intro name field value other named same accepted
    by_cases volume : name = volumeField
    · subst volume
      obtain rfl : field =
          .required volumeField (VolumeMetadata.decode source) :=
        (Option.some.inj named).symm
      obtain ⟨held, decoded, _⟩ := of_map accepted
      exact Field.check_required _ (decode_volume_of_same within same decoded)
    · rwa [eq_of_same within volume same]
  · intro name value other unnamed same whole
    have volume : name ≠ volumeField := by
      rintro rfl
      exact absurd unnamed (by simp [field?_eq_none_iff, record, names,
        Field.required, volumeField])
    rwa [eq_of_same within volume same]
  · intro found others result alike built
    obtain ⟨operation, readOperation, built⟩ := of_bind built
    obtain ⟨outcome, readOutcome, built⟩ := of_bind built
    obtain ⟨shouldNotify, readFlag, built⟩ := of_bind built
    obtain ⟨volume, readVolume, built⟩ := of_bind built
    have unchanged {name : String} (other : name ≠ volumeField) :
        found.value? name = others.value? name :=
      eq_of_rel (eq_of_same within other) (alike name)
    have volumeToo : others.required volumeField
        (VolumeMetadata.decode source) = .ok volume := by
      have rel := alike volumeField
      change found.required volumeField _ = _ at readVolume
      unfold Found.required at readVolume ⊢
      generalize found.value? volumeField = value at rel readVolume
      generalize others.value? volumeField = other at rel ⊢
      cases rel with
      | none => exact absurd readVolume (by simp)
      | some same => exact decode_volume_of_same within same readVolume
    rw [Found.required, unchanged (by decide)] at readOperation readOutcome
    rw [Found.defaulted, unchanged (by decide)] at readFlag
    exact bind_ok readOperation (bind_ok readOutcome (bind_ok readFlag
      (bind_ok volumeToo built)))

end MountCompleted

/-! ## Events -/

namespace HostEvent

/-- Is the member the tag of an event? -/
def isTag : Json.Value × Json.Value → Bool
  | (.string (some name), _) => name = tagName
  | _ => false

/-- A member that an event may have. -/
def IsPart (entry : Json.Value × Json.Value) : Prop :=
  (∃ value, entry = member tagName value) ∨ IsField entry

/-- What an event is about, after members with these tags. -/
inductive Tagged : Option Tag → List (Json.Value × Json.Value) →
    Option Tag → Prop where
  | untagged (before : Option Tag) : Tagged before [] before
  | tagged {value : Json.Value} {tag : Tag}
      (named : tagChoice.identifier value = .ok tag) :
      Tagged none [member tagName value] (some tag)

variable {before after : Option Tag} {name : String} {value : Json.Value}
  {entry : Json.Value × Json.Value}
  {entries rest others : List (Json.Value × Json.Value)}

theorem exists_member_of_separate
    (ended : separate before (entry :: entries) = .ok (after, rest)) :
    ∃ name value, entry = member name value := by
  obtain ⟨key, value⟩ := entry
  rcases key with _ | _ | _ | (_ | name) | _ | _ | _
  case string.some => exact ⟨name, value, rfl⟩
  all_goals exact absurd ended (by simp [separate])

theorem separate_cons_tag_iff :
    separate before (member tagName value :: entries) = .ok (after, rest) ↔
      before = none ∧ ∃ tag, tagChoice.identifier value = .ok tag ∧
        separate (some tag) entries = .ok (after, rest) := by
  simp only [member, Value.text, separate, if_true]
  cases before with
  | some _ => simp
  | none =>
      constructor
      · intro ended
        obtain ⟨tag, named, ended⟩ := of_bind ended
        exact ⟨rfl, tag, named, ended⟩
      · rintro ⟨_, tag, named, ended⟩
        exact bind_ok named ended

theorem separate_cons_field_iff (other : name ≠ tagName) :
    separate before (member name value :: entries) = .ok (after, rest) ↔
      value.isReadable innerLevels = true ∧
        ∃ later, separate before entries = .ok (after, later) ∧
          rest = member name value :: later := by
  simp only [member, Value.text, separate, if_neg other]
  cases value.isReadable innerLevels with
  | false => simp
  | true =>
      rw [if_pos rfl]
      constructor
      · intro ended
        obtain ⟨⟨found, later⟩, separated, joined⟩ := of_bind ended
        obtain ⟨rfl, rfl⟩ := Prod.mk.inj (Except.ok.inj joined)
        exact ⟨rfl, later, separated, rfl⟩
      · rintro ⟨_, later, ended, rfl⟩
        exact bind_ok ended rfl

theorem isTag_tag (value : Json.Value) :
    isTag (member tagName value) = true := by
  simp [isTag, member, Value.text]

theorem isTag_field (other : name ≠ tagName) (value : Json.Value) :
    isTag (member name value) = false := by
  simp [isTag, member, Value.text, other]

theorem tagged_some_iff {tag : Tag} :
    Tagged (some tag) entries after ↔ entries = [] ∧ after = some tag := by
  constructor
  · rintro ⟨⟩
    exact ⟨rfl, rfl⟩
  · rintro ⟨rfl, rfl⟩
    exact .untagged _

theorem tagged_cons_iff :
    Tagged before (member tagName value :: entries) after ↔
      before = none ∧ ∃ tag, tagChoice.identifier value = .ok tag ∧
        entries = [] ∧ after = some tag := by
  constructor
  · intro tagged
    generalize listed : member tagName value :: entries = tags at tagged
    cases tagged with
    | untagged => exact absurd listed (List.cons_ne_nil _ _)
    | tagged named =>
        obtain ⟨same, rfl⟩ := List.cons.inj listed
        obtain ⟨_, rfl⟩ := Prod.mk.inj same
        exact ⟨rfl, _, named, rfl, rfl⟩
  · rintro ⟨rfl, tag, named, rfl, rfl⟩
    exact .tagged named

/-- The members of an event are its fields and at most one tag, wherever that
stands. -/
theorem separate_eq_ok_iff :
    separate before entries = .ok (after, rest) ↔
      (∀ entry ∈ entries, IsPart entry) ∧
        Tagged before (entries.filter isTag) after ∧
        rest = entries.filter (!isTag ·) := by
  induction entries generalizing before rest with
  | nil =>
      constructor
      · intro ended
        obtain ⟨rfl, rfl⟩ := Prod.mk.inj (Except.ok.inj ended)
        exact ⟨by simp, .untagged _, rfl⟩
      · rintro ⟨_, tagged, rfl⟩
        cases tagged
        rfl
  | cons entry entries induction =>
      rw [List.forall_mem_cons]
      constructor
      · intro ended
        obtain ⟨name, value, rfl⟩ := exists_member_of_separate ended
        by_cases tag : name = tagName
        · subst tag
          rw [separate_cons_tag_iff] at ended
          obtain ⟨unset, tag, named, ended⟩ := ended
          obtain ⟨parts, tagged, rfl⟩ := induction.mp ended
          rw [tagged_some_iff] at tagged
          rw [List.filter_cons_of_pos (isTag_tag value), tagged_cons_iff,
            List.filter_cons_of_neg (by simp [isTag_tag])]
          exact ⟨⟨.inl ⟨value, rfl⟩, parts⟩, ⟨unset, tag, named, tagged⟩, rfl⟩
        · rw [separate_cons_field_iff tag] at ended
          obtain ⟨readable, later, ended, rfl⟩ := ended
          obtain ⟨parts, tagged, rfl⟩ := induction.mp ended
          rw [List.filter_cons_of_neg (by simp [isTag_field tag]),
            List.filter_cons_of_pos (by simp [isTag_field tag])]
          exact ⟨⟨.inr ⟨name, value, rfl, tag, readable⟩, parts⟩, tagged, rfl⟩
      · rintro ⟨⟨⟨value, rfl⟩ | ⟨name, value, rfl, tag, readable⟩, parts⟩,
          tagged, whole⟩
        · rw [List.filter_cons_of_pos (isTag_tag value), tagged_cons_iff]
            at tagged
          obtain ⟨unset, tag, named, tagged⟩ := tagged
          rw [List.filter_cons_of_neg (by simp [isTag_tag])] at whole
          exact separate_cons_tag_iff.mpr ⟨unset, tag, named,
            induction.mpr ⟨parts, tagged_some_iff.mpr tagged, whole⟩⟩
        · rw [List.filter_cons_of_neg (by simp [isTag_field tag])] at tagged
          rw [List.filter_cons_of_pos (by simp [isTag_field tag])] at whole
          exact (separate_cons_field_iff tag).mpr ⟨readable, _,
            induction.mpr ⟨parts, tagged, rfl⟩, whole⟩

variable {outline : Outline}

/-- The outline of an event: it is taken in whole, and the tag stands for itself. -/
structure IsOutline (outline : Outline) : Prop where
  source : outline.source = .takenIn
  tag : tagName ∈ outline.names
  inner : ∀ entry ∈ outline.inner, entry.1 ≠ tagName

theorem isReadable_of_foreign {names : List String} {levels : Nat}
    (foreign : IsForeign names .takenIn levels entry) :
    ∃ name value, entry = member name value ∧
      value.isReadable levels = true := by
  obtain ⟨name, value, same, _, readable⟩ := foreign
  exact ⟨name, value, same, readable⟩

theorem isReadable_of_same (event : IsOutline outline) {other : Json.Value}
    (same : outline.Same name value other)
    (readable : value.isReadable innerLevels = true) :
    other.isReadable innerLevels = true := by
  cases same with
  | unchanged => exact readable
  | extended _ object more =>
      obtain ⟨added, foreign, order⟩ := more
      rw [event.source] at foreign
      rw [object, Value.isReadable, Bool.and_eq_true, membersReadable_iff]
        at readable
      rw [Value.isReadable, Bool.and_eq_true, membersReadable_iff]
      refine ⟨rfl, fun entry listed => ?_⟩
      rcases List.mem_append.mp (order.mem_iff.mp listed) with own | extra
      · exact readable.2 entry own
      · exact isReadable_of_foreign (foreign entry extra)

theorem isPart_of_same (event : IsOutline outline) 
    {changed : Json.Value × Json.Value}
    (same : SameMember outline.Same entry changed) (part : IsPart entry) :
    IsPart changed := by
  obtain ⟨name, value, other, rfl, rfl, same⟩ := same
  by_cases tag : name = tagName
  · exact .inl ⟨other, by rw [tag]⟩
  · rcases part with ⟨held, named⟩ | ⟨own, held, named, _, readable⟩
    · have key := (Prod.mk.inj named).1
      cases key
      exact absurd rfl tag
    · obtain ⟨key, rfl⟩ := Prod.mk.inj named
      cases key
      exact .inr ⟨name, other, rfl, tag,
        isReadable_of_same event same readable⟩

theorem isPart_of_alike (event : IsOutline outline)
    (alike : List.Forall₂ (SameMember outline.Same) entries others)
    (parts : ∀ entry ∈ entries, IsPart entry) :
    ∀ entry ∈ others, IsPart entry := by
  induction alike with
  | nil => exact parts
  | cons same _ induction =>
      rw [List.forall_mem_cons] at parts ⊢
      exact ⟨isPart_of_same event same parts.1, induction parts.2⟩

theorem eq_of_same_tag (event : IsOutline outline) {other : Json.Value}
    (same : outline.Same tagName value other) : other = value := by
  cases same with
  | unchanged => rfl
  | extended known _ _ => exact absurd rfl (event.inner _ known)

theorem filter_alike (event : IsOutline outline)
    (alike : List.Forall₂ (SameMember outline.Same) entries others) :
    others.filter isTag = entries.filter isTag ∧
      List.Forall₂ (SameMember outline.Same) (entries.filter (!isTag ·))
        (others.filter (!isTag ·)) := by
  induction alike with
  | nil => exact ⟨rfl, .nil⟩
  | cons same _ induction =>
      obtain ⟨name, value, other, rfl, rfl, same⟩ := same
      by_cases tag : name = tagName
      · subst tag
        rw [eq_of_same_tag event same, List.filter_cons_of_pos (isTag_tag _),
          List.filter_cons_of_pos (isTag_tag _),
          List.filter_cons_of_neg (by simp [isTag_tag]),
          List.filter_cons_of_neg (by simp [isTag_tag])]
        exact ⟨by rw [induction.1], induction.2⟩
      · rw [List.filter_cons_of_neg (by simp [isTag_field tag]),
          List.filter_cons_of_neg (by simp [isTag_field tag]),
          List.filter_cons_of_pos (by simp [isTag_field tag]),
          List.filter_cons_of_pos (by simp [isTag_field tag])]
        exact ⟨induction.1,
          .cons ⟨name, value, other, rfl, rfl, same⟩ induction.2⟩

theorem isTag_of_foreign (event : IsOutline outline)
    (foreign : IsForeign outline.names outline.source innerLevels entry) :
    isTag entry = false := by
  obtain ⟨name, value, rfl, unknown, _⟩ := foreign
  refine isTag_field ?_ value
  rintro rfl
  exact unknown event.tag

theorem isPart_of_foreign (event : IsOutline outline)
    (foreign : IsForeign outline.names outline.source innerLevels entry) :
    IsPart entry := by
  obtain ⟨name, value, rfl, unknown, passed⟩ := foreign
  rw [event.source] at passed
  refine .inr ⟨name, value, rfl, ?_, passed⟩
  rintro rfl
  exact unknown event.tag

theorem Tagged.perm {tags same : List (Json.Value × Json.Value)}
    (tagged : Tagged before tags after) (order : same.Perm tags) :
    Tagged before same after := by
  cases tagged with
  | untagged =>
      rw [order.eq_nil]
      exact .untagged before
  | tagged named =>
      rw [order.eq_singleton]
      exact .tagged named

/-- The tag and the fields of a rearranged event. -/
theorem separate_rearranged (event : IsOutline outline)
    (ended : separate before entries = .ok (after, rest))
    (again : outline.Rearranged entries others) :
    ∃ later, separate before others = .ok (after, later) ∧
      outline.Rearranged rest later := by
  obtain ⟨kept, alike, added, foreign, order⟩ := again
  obtain ⟨parts, tagged, rfl⟩ := separate_eq_ok_iff.mp ended
  obtain ⟨tags, fields⟩ := filter_alike event alike
  have untagged : added.filter isTag = [] := by
    rw [List.filter_eq_nil_iff]
    intro entry listed
    rw [isTag_of_foreign event (foreign entry listed)]
    exact Bool.false_ne_true
  have unchanged : added.filter (!isTag ·) = added := by
    rw [List.filter_eq_self]
    intro entry listed
    rw [isTag_of_foreign event (foreign entry listed)]
    rfl
  have tagsToo := order.filter isTag
  rw [List.filter_append, untagged, List.append_nil, tags] at tagsToo
  have fieldsToo := order.filter (!isTag ·)
  rw [List.filter_append, unchanged] at fieldsToo
  refine ⟨_, separate_eq_ok_iff.mpr ⟨fun entry listed => ?_,
    tagged.perm tagsToo, rfl⟩, _, fields, added, foreign, fieldsToo⟩
  rcases List.mem_append.mp (order.mem_iff.mp listed) with own | extra
  · exact isPart_of_alike event alike parts entry own
  · exact isPart_of_foreign event (foreign entry extra)

/-- What an event is decoded from is its tag and an object of its fields. -/
theorem decode_object_eq_ok_iff {event : HostEvent} :
    decode (.object entries) = .ok event ↔ ∃ tag fields,
      separate none entries = .ok (some tag, fields) ∧
        decodeFields (.object fields) tag = .ok event := by
  constructor
  · intro decoded
    obtain ⟨⟨tag, fields⟩, separated, ended⟩ := of_bind decoded
    cases tag with
    | none => exact absurd ended (by simp [throw, throwThe, MonadExceptOf.throw])
    | some tag => exact ⟨tag, fields, separated, of_mapError ended⟩
  · rintro ⟨tag, fields, separated, decoded⟩
    refine bind_ok separated ?_
    change (decodeFields (.object fields) tag).mapError _ = _
    rw [decoded]
    rfl

theorem isOutline_ofEvent {names : List String}
    {inner : List (String × List String)}
    (other : ∀ entry ∈ inner, entry.1 ≠ tagName) :
    IsOutline (.ofEvent names inner) :=
  ⟨rfl, List.mem_cons_self, other⟩

theorem names_mem_ofEvent {names : List String}
    {inner : List (String × List String)} :
    ∀ name ∈ names, name ∈ (Outline.ofEvent names inner).names :=
  fun _ known => List.mem_cons_of_mem _ known

/-- The fields of a rearranged event mean what they meant. -/
theorem decodeFields_rearranged {event : HostEvent}
    (outlined : WireType.hostEvent.outline? event = some outline) {tag : Tag}
    (decoded : decodeFields (.object entries) tag = .ok event)
    (again : outline.Rearranged entries others) :
    decodeFields (.object others) tag = .ok event := by
  cases tag with
  | deviceChanged =>
      obtain ⟨changed, found, rfl⟩ := of_map decoded
      obtain rfl := Option.some.inj outlined
      exact congrArg (Except.map deviceChanged)
        (Outline.decode_rearranged_flat .takenIn names_mem_ofEvent rfl
          DeviceChanged.looksUp found again)
  | mountCompleted =>
      obtain ⟨completed, found, rfl⟩ := of_map decoded
      obtain rfl := Option.some.inj outlined
      exact congrArg (Except.map mountCompleted)
        (Outline.decode_rearranged .takenIn names_mem_ofEvent
          (MountCompleted.looksUp _) (MountCompleted.respects _ rfl) found again)
  | buttonClicked =>
      obtain ⟨clicked, found, rfl⟩ := of_map decoded
      obtain rfl := Option.some.inj outlined
      exact congrArg (Except.map buttonClicked)
        (Outline.decode_rearranged_flat .takenIn names_mem_ofEvent rfl
          ButtonClicked.looksUp found again)

theorem isOutline_of_outline? {event : HostEvent}
    (outlined : WireType.hostEvent.outline? event = some outline) :
    IsOutline outline := by
  cases event with
  | deviceChanged =>
      obtain rfl := Option.some.inj outlined
      exact isOutline_ofEvent (by simp)
  | mountCompleted =>
      obtain rfl := Option.some.inj outlined
      exact isOutline_ofEvent
        (by simp [MountCompleted.inner, MountCompleted.volumeField, tagName])
  | buttonClicked =>
      obtain rfl := Option.some.inj outlined
      exact isOutline_ofEvent (by simp)

theorem decode_rearranged {event : HostEvent}
    (outlined : WireType.hostEvent.outline? event = some outline)
    (decoded : decode (.object entries) = .ok event)
    (again : outline.Rearranged entries others) :
    decode (.object others) = .ok event := by
  obtain ⟨tag, fields, separated, read⟩ := decode_object_eq_ok_iff.mp decoded
  obtain ⟨later, separatedToo, fieldsAgain⟩ :=
    separate_rearranged (isOutline_of_outline? outlined) separated again
  exact decode_object_eq_ok_iff.mpr ⟨tag, later, separatedToo,
    decodeFields_rearranged outlined read fieldsAgain⟩

end HostEvent

namespace WireType

theorem decode_rearranged (type : WireType) {outline : Outline}
    {members others : List (Json.Value × Json.Value)} {value : type.Carrier}
    (outlined : type.outline? value = some outline)
    (decoded : type.decode (.object members) = .ok value)
    (again : outline.Rearranged members others) :
    type.decode (.object others) = .ok value := by
  have own (names : List String) : ∀ name ∈ names, name ∈ names :=
    fun _ known => known
  cases type with
  | hostEvent => exact HostEvent.decode_rearranged outlined decoded again
  | mountCompleted =>
      obtain rfl := Option.some.inj outlined
      exact Outline.decode_rearranged .direct (own _)
        (MountCompleted.looksUp _) (MountCompleted.respects _ rfl) decoded again
  | deviceChanged =>
      obtain rfl := Option.some.inj outlined
      exact Outline.decode_rearranged_flat .direct (own _) rfl
        DeviceChanged.looksUp decoded again
  | buttonClicked =>
      obtain rfl := Option.some.inj outlined
      exact Outline.decode_rearranged_flat .direct (own _) rfl
        ButtonClicked.looksUp decoded again
  | volumeMetadata =>
      obtain rfl := Option.some.inj outlined
      exact Outline.decode_rearranged_flat .direct (own _) rfl
        VolumeMetadata.looksUp decoded again
  | volumeHandle =>
      obtain rfl := Option.some.inj outlined
      exact Outline.decode_rearranged_flat .direct (own _) rfl
        VolumeHandle.looksUp decoded again
  | directoryHandle =>
      obtain rfl := Option.some.inj outlined
      exact Outline.decode_rearranged_flat .direct (own _) rfl
        DirectoryHandle.looksUp decoded again
  | navigationRequest =>
      obtain rfl := Option.some.inj outlined
      exact Outline.decode_rearranged_flat .direct (own _) rfl
        NavigationRequest.looksUp decoded again
  | notificationContent =>
      obtain rfl := Option.some.inj outlined
      exact Outline.decode_rearranged_flat .direct (own _) rfl
        NotificationContent.looksUp decoded again
  | hostError =>
      obtain rfl := Option.some.inj outlined
      exact Outline.decode_rearranged_flat .direct (own _) rfl
        (HostError.looksUp _) decoded again
  | _ => exact absurd outlined (by simp [outline?])

/-- An object stands for the same value when its members, and those of the object
that describes a volume in it, come in any other order with foreign members among
them.  So do two texts of such objects. -/
theorem rearranged_object_stands_for_same (type : WireType) {outline : Outline}
    {members others : List (Json.Value × Json.Value)} {value : type.Carrier}
    (outlined : type.outline? value = some outline)
    (again : outline.Rearranged members others) :
    (type.decode (.object members) = .ok value →
      type.decode (.object others) = .ok value) ∧
    ∀ text other, (Document.read text).value = .object members →
      Document.read other = ⟨.object others, false⟩ →
      type.ofText text = .ok value → type.ofText other = .ok value := by
  refine ⟨fun decoded => type.decode_rearranged outlined decoded again, ?_⟩
  intro text other read readOther meant
  have decoded := of_decodeText meant
  rw [read] at decoded
  have decodedToo := type.decode_rearranged outlined decoded again
  rw [ofText, decodeText, readOther]
  exact bind_ok decodedToo rfl

def tagLast : List (Json.Value × Json.Value) := [
  member "eventType" (.text "mount"),
  member "status" (.text "success"),
  member "volumeMetadata" (.object [
    member "deviceLabel" (.text "CARD"),
    member "volumeId" (.text "/media/card")]),
  HostEvent.tagMember "mount_completed"]

/-- The members before in reverse, with a foreign one first in either object. -/
def foreignFirst : List (Json.Value × Json.Value) := [
  member "note" (.object [HostEvent.tagMember "device_changed"]),
  HostEvent.tagMember "mount_completed",
  member "volumeMetadata" (.object [
    member "sizes" (.array [.null, .array []]),
    member "volumeId" (.text "/media/card"),
    member "deviceLabel" (.text "CARD")]),
  member "status" (.text "success"),
  member "eventType" (.text "mount")]

def cardMounted : HostEvent :=
  .mountCompleted {
    operation := .mount
    outcome := .success
    shouldNotify := false
    volume := { deviceLabel := some "CARD", volumeId := some "/media/card" } }

theorem rearranged_foreignFirst :
    (Outline.ofEvent (MountCompleted.record .takenIn).names
      MountCompleted.inner).Rearranged tagLast foreignFirst := by
  refine ⟨[
    member "eventType" (.text "mount"),
    member "status" (.text "success"),
    member "volumeMetadata" (.object [
      member "sizes" (.array [.null, .array []]),
      member "volumeId" (.text "/media/card"),
      member "deviceLabel" (.text "CARD")]),
    HostEvent.tagMember "mount_completed"], ?_,
    [member "note" (.object [HostEvent.tagMember "device_changed"])], ?_,
    (List.reverse_perm _).symm⟩
  · refine .cons ⟨_, _, _, rfl, rfl, .unchanged⟩
      (.cons ⟨_, _, _, rfl, rfl, .unchanged⟩
        (.cons ⟨_, _, _, rfl, rfl, ?_⟩
          (.cons ⟨_, _, _, rfl, rfl, .unchanged⟩ .nil)))
    refine .extended List.mem_cons_self rfl
      ⟨[member "sizes" (.array [.null, .array []])], ?_,
        (List.reverse_perm _).symm⟩
    rw [List.forall_mem_singleton]
    exact ⟨_, _, rfl, by decide, rfl⟩
  · rw [List.forall_mem_singleton]
    exact ⟨_, _, rfl, by decide, rfl⟩

/-- The tag before or after the fields, and a foreign member with an object of its
own in it. -/
theorem rearranged_object_stands_for_same_mounted :
    hostEvent.decode (.object tagLast) = .ok cardMounted ∧
      hostEvent.decode (.object foreignFirst) = .ok cardMounted ∧
      hostEvent.ofText (Json.Value.object tagLast).toText = .ok cardMounted ∧
      hostEvent.ofText (Json.Value.object foreignFirst).toText =
        .ok cardMounted := by
  have decoded : hostEvent.decode (.object tagLast) = .ok cardMounted := by
    rfl
  have textual : (Json.Value.object tagLast).isTextual = true := by
    decide
  have textualToo : (Json.Value.object foreignFirst).isTextual = true := by
    decide
  have meant : hostEvent.ofText (Json.Value.object tagLast).toText =
      .ok cardMounted := by
    rw [ofText, decodeText_toText hostEvent.decode textual, decoded]
  have same := rearranged_object_stands_for_same hostEvent
    (show hostEvent.outline? cardMounted = _ from rfl) rearranged_foreignFirst
  exact ⟨decoded, same.1 decoded, meant,
    same.2 _ _ (by rw [Document.read_toText textual])
      (Document.read_toText textualToo) meant⟩

end WireType

end RemovableMedia
