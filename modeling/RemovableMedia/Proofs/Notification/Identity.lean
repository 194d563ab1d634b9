import RemovableMedia.Notification.Identity

/-!
# Texts of identities

A text is split at its first colon, so the text of an identity gives the
identity back as long as its heading has no colon.  The headings of families
have none: two identities of families have one text only if they are the same.
-/

namespace RemovableMedia

namespace NotificationId

theorem splitColon?_append {heading : List Char} (plain : ':' ∉ heading)
    (path : List Char) :
    splitColon? (heading ++ ':' :: path) = some (heading, path) := by
  induction heading with
  | nil => rfl
  | cons head heading induction =>
      simp only [List.mem_cons, not_or] at plain
      have skipped : splitColon? (head :: (heading ++ ':' :: path)) =
          (splitColon? (heading ++ ':' :: path)).map
            fun split => (head :: split.1, split.2) := by
        rw [splitColon?]
        exact fun colon => plain.1 colon.symm
      rw [List.cons_append, skipped, induction plain.2]
      rfl

theorem eq_append_of_splitColon? {letters heading path : List Char}
    (split : splitColon? letters = some (heading, path)) :
    letters = heading ++ ':' :: path := by
  induction letters generalizing heading with
  | nil => simp [splitColon?] at split
  | cons head letters induction =>
      by_cases colon : head = ':'
      · subst head
        simp only [splitColon?, Option.some.injEq, Prod.mk.injEq] at split
        obtain ⟨rfl, rfl⟩ := split
        rfl
      · rw [splitColon?, Option.map_eq_some_iff] at split
        · obtain ⟨⟨later, rest⟩, laterSplit, same⟩ := split
          simp only [Prod.mk.injEq] at same
          obtain ⟨rfl, rfl⟩ := same
          rw [induction laterSplit]
          rfl
        · exact colon

theorem splitColon?_eq_none_iff {letters : List Char} :
    splitColon? letters = none ↔ ':' ∉ letters := by
  constructor
  · intro unsplit member
    obtain ⟨heading, path, rfl, plain⟩ := List.eq_append_cons_of_mem member
    rw [splitColon?_append plain] at unsplit
    exact Option.some_ne_none _ unsplit
  · intro plain
    cases split : splitColon? letters with
    | none => rfl
    | some parts =>
        rw [eq_append_of_splitColon? split] at plain
        exact absurd (List.mem_append_right _ List.mem_cons_self) plain

/-- The colon at which a text is split is its first. -/
theorem colon_not_mem_of_splitColon? {letters heading path : List Char}
    (split : splitColon? letters = some (heading, path)) : ':' ∉ heading := by
  have member : ':' ∈ letters := by
    rw [eq_append_of_splitColon? split]
    exact List.mem_append_right _ List.mem_cons_self
  obtain ⟨first, rest, rfl, plain⟩ := List.eq_append_cons_of_mem member
  rw [splitColon?_append plain] at split
  obtain ⟨rfl, rfl⟩ := Prod.mk.inj (Option.some.inj split)
  exact plain

/-- What was split off a text makes up the text. -/
theorem text_of_parse? {letters : String} {id : NotificationId}
    (parsed : parse? letters = some id) : id.text = letters := by
  obtain ⟨⟨heading, path⟩, split, rfl⟩ := Option.map_eq_some_iff.mp parsed
  have joined := eq_append_of_splitColon? split
  apply String.toList_injective
  simp [text, joined]

theorem parse?_text {id : NotificationId} (plain : ':' ∉ id.heading.toList) :
    parse? id.text = some id := by
  have letters :
      id.text.toList = id.heading.toList ++ ':' :: id.devicePath.toList := by
    simp [text]
  unfold parse?
  rw [letters, splitColon?_append plain]
  simp

theorem parse?_eq_none_iff {letters : String} :
    parse? letters = none ↔ ':' ∉ letters.toList := by
  rw [parse?, Option.map_eq_none_iff, splitColon?_eq_none_iff]

theorem parse?_eq_some_iff {letters : String} {id : NotificationId} :
    parse? letters = some id ↔ ':' ∉ id.heading.toList ∧ id.text = letters := by
  constructor
  · intro parsed
    refine ⟨?_, text_of_parse? parsed⟩
    obtain ⟨⟨heading, path⟩, split, rfl⟩ := Option.map_eq_some_iff.mp parsed
    rw [String.toList_ofList]
    exact colon_not_mem_of_splitColon? split
  · rintro ⟨plain, rfl⟩
    exact parse?_text plain

end NotificationId

namespace Family

theorem colon_not_mem_heading (family : Family) :
    ':' ∉ family.heading.toList := by
  cases family <;> decide

/-- The text under which the family shows its notification of a device. -/
def identity (family : Family) (devicePath : String) : String :=
  NotificationId.text ⟨family.heading, devicePath⟩

theorem parse?_identity (family : Family) (devicePath : String) :
    NotificationId.parse? (family.identity devicePath) =
      some ⟨family.heading, devicePath⟩ :=
  NotificationId.parse?_text family.colon_not_mem_heading

theorem identity_eq_iff {left right : Family} {leftPath rightPath : String} :
    left.identity leftPath = right.identity rightPath ↔
      left = right ∧ leftPath = rightPath := by
  constructor
  · intro same
    have parsed := congrArg NotificationId.parse? same
    simp only [parse?_identity, Option.some.injEq,
      NotificationId.mk.injEq] at parsed
    exact ⟨heading_injective parsed.1, parsed.2⟩
  · rintro ⟨rfl, rfl⟩
    rfl

end Family

/-- Texts and identities determine each other.  A text stands for no identity
exactly if it has no colon; it stands for the identity of which it is the text and
whose heading has no colon, and for no other.  So the notifications of two kinds
for two devices have one text exactly if the devices are one and the kinds have one
heading. -/
theorem identity_texts_unambiguous :
    (∀ letters : String,
      NotificationId.parse? letters = none ↔ ':' ∉ letters.toList) ∧
    (∀ (letters : String) (id : NotificationId),
      NotificationId.parse? letters = some id ↔
        ':' ∉ id.heading.toList ∧ id.text = letters) ∧
    ∀ (kind other : NotificationKind) (path otherPath : String),
      (kind.idFor path).text = (other.idFor otherPath).text ↔
        path = otherPath ∧ kind.family.heading = other.family.heading := by
  refine ⟨fun letters => NotificationId.parse?_eq_none_iff,
    fun letters id => NotificationId.parse?_eq_some_iff, ?_⟩
  intro kind other path otherPath
  constructor
  · intro same
    obtain ⟨families, paths⟩ := Family.identity_eq_iff.mp same
    exact ⟨paths, congrArg Family.heading families⟩
  · rintro ⟨rfl, headings⟩
    exact congrArg (fun heading => NotificationId.text ⟨heading, path⟩) headings

example : NotificationId.parse? "deviceImport:/dev/disk/by-id:usb-1" =
    some ⟨"deviceImport", "/dev/disk/by-id:usb-1"⟩ := by
  decide

end RemovableMedia
