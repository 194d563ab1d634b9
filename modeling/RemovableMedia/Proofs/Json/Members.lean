import Mathlib.Data.List.Forall2
import Mathlib.Data.List.Nodup
import RemovableMedia.Proofs.Json.Recovery

/-!
# Members in any order

A record finds its fields by their names.  So the order of the members of an object
makes no difference, and neither do members that are no fields, as long as their
values can be taken in.
-/

namespace RemovableMedia.Json

variable {α : Type}

/-! ## Values that can be taken in -/

mutual

theorem Value.isWhole_of_isReadable {levels : Nat} (value : Value)
    (readable : value.isReadable levels = true) : value.isWhole = true := by
  cases value with
  | null => rfl
  | boolean _ => rfl
  | number _ => rfl
  | string _ => rfl
  | array items =>
      rw [Value.isReadable, Bool.and_eq_true] at readable
      exact itemsWhole_of_itemsReadable items readable.2
  | object members =>
      rw [Value.isReadable, Bool.and_eq_true] at readable
      exact membersWhole_of_membersReadable members readable.2
  | broken => exact absurd readable (by simp [Value.isReadable])

theorem itemsWhole_of_itemsReadable {levels : Nat} (items : List Value)
    (readable : itemsReadable levels items = true) :
    itemsWhole items = true := by
  cases items with
  | nil => rfl
  | cons item rest =>
      rw [itemsReadable, Bool.and_eq_true] at readable
      rw [itemsWhole, Bool.and_eq_true]
      exact ⟨item.isWhole_of_isReadable readable.1,
        itemsWhole_of_itemsReadable rest readable.2⟩

theorem membersWhole_of_membersReadable {levels : Nat}
    (members : List (Value × Value))
    (readable : membersReadable levels members = true) :
    membersWhole members = true := by
  cases members with
  | nil => rfl
  | cons entry rest =>
      obtain ⟨key, value⟩ := entry
      rcases key with _ | _ | _ | (_ | name) | _ | _ | _
      case string.some =>
        rw [membersReadable, Bool.and_eq_true] at readable
        rw [membersWhole, Bool.and_eq_true]
        exact ⟨value.isWhole_of_isReadable readable.1,
          membersWhole_of_membersReadable rest readable.2⟩
      all_goals exact absurd readable (by simp [membersReadable])

end

/-- Members can be taken in if each of them has a name and a value that can. -/
theorem membersReadable_iff {levels : Nat} {members : List (Value × Value)} :
    membersReadable levels members = true ↔ ∀ entry ∈ members,
      ∃ name value, entry = member name value ∧
        value.isReadable levels = true := by
  induction members with
  | nil => simp [membersReadable]
  | cons entry rest induction =>
      obtain ⟨key, value⟩ := entry
      rw [List.forall_mem_cons, ← induction]
      rcases key with _ | _ | _ | (_ | name) | _ | _ | _
      case string.some =>
        rw [membersReadable, Bool.and_eq_true]
        simp [member, Value.text]
      all_goals simp [membersReadable, member, Value.text]

/-! ## Fields that were found -/

namespace Found

variable {found others : Found} {name : String} {value : Value}

theorem value?_cons_self (name : String) (value : Value) (found : Found) :
    Found.value? ((name, value) :: found) name = some value := by
  simp [value?]

theorem value?_cons_of_ne {other : String} (differ : other ≠ name)
    (value : Value) (found : Found) :
    Found.value? ((other, value) :: found) name = found.value? name := by
  simp [value?, differ]

theorem value?_eq_some_iff (once : (found.map Prod.fst).Nodup) :
    found.value? name = some value ↔ (name, value) ∈ found := by
  induction found with
  | nil => simp [value?]
  | cons entry found induction =>
      obtain ⟨own, held⟩ := entry
      rw [List.map_cons, List.nodup_cons] at once
      by_cases same : own = name
      · subst same
        rw [value?_cons_self, List.mem_cons]
        constructor
        · intro held
          exact .inl (by rw [Option.some.inj held])
        · rintro (first | later)
          · rw [(Prod.mk.inj first).2]
          · exact absurd (List.mem_map_of_mem later) once.1
      · rw [value?_cons_of_ne same, induction once.2]
        simp [Ne.symm same]

/-- Where no name comes twice, the order makes no difference. -/
theorem value?_perm (once : (found.map Prod.fst).Nodup)
    (same : found.Perm others) (name : String) :
    found.value? name = others.value? name := by
  have onceToo : (others.map Prod.fst).Nodup :=
    (same.map Prod.fst).nodup_iff.mp once
  ext value
  rw [value?_eq_some_iff once, value?_eq_some_iff onceToo, same.mem_iff]

end Found

/-! ## Members of records -/

namespace Record

/-- What a record accepts under a name: the value of a field, or one that is passed
over. -/
inductive Takes (record : Record α) (name : String) (value : Value) : Prop where
  | field {field : Field} (known : record.field? name = some field)
      (accepted : field.check value = .ok ())
  | other (unknown : record.field? name = none)
      (whole : value.isWhole = true)

/-- A member that a record accepts. -/
def TakesMember (record : Record α) (entry : Value × Value) : Prop :=
  ∃ name value, entry = member name value ∧ record.Takes name value

/-- The field that a member is, if it is one. -/
def fieldOf? (record : Record α) : Value × Value → Option (String × Value)
  | (.string (some name), value) =>
      if (record.field? name).isSome then some (name, value) else none
  | _ => none

/-- The members that are fields, by their names. -/
def given (record : Record α) (members : List (Value × Value)) : Found :=
  members.filterMap record.fieldOf?

variable {record : Record α}

theorem given_cons_field {name : String} {field : Field}
    (known : record.field? name = some field) (value : Value)
    (rest : List (Value × Value)) :
    record.given (member name value :: rest) =
      (name, value) :: record.given rest := by
  simp [given, fieldOf?, member, Value.text, known]

theorem given_cons_other {name : String}
    (unknown : record.field? name = none) (value : Value)
    (rest : List (Value × Value)) :
    record.given (member name value :: rest) = record.given rest := by
  simp [given, fieldOf?, member, Value.text, unknown]

/-- The names of members, pairwise distinct and none of them found before. -/
def Fresh (found given : Found) : Prop :=
  (given.map Prod.fst).Nodup ∧
    ∀ name ∈ given.map Prod.fst, found.value? name = none

theorem fresh_cons_iff {found given : Found} {name : String} {value : Value} :
    Fresh found ((name, value) :: given) ↔
      found.value? name = none ∧ Fresh ((name, value) :: found) given := by
  simp only [Fresh, List.map_cons, List.nodup_cons, List.forall_mem_cons]
  constructor
  · rintro ⟨⟨once, distinct⟩, unseen, others⟩
    refine ⟨unseen, distinct, fun other listed => ?_⟩
    have differ : name ≠ other := fun same => once (by rwa [same])
    rw [Found.value?_cons_of_ne differ]
    exact others other listed
  · rintro ⟨unseen, distinct, others⟩
    have differ : ∀ other ∈ given.map Prod.fst, name ≠ other := by
      rintro other listed rfl
      have seen := others name listed
      rw [Found.value?_cons_self] at seen
      exact Option.some_ne_none value seen
    refine ⟨⟨fun listed => differ name listed rfl, distinct⟩, unseen, ?_⟩
    intro other listed
    rw [← others other listed,
      Found.value?_cons_of_ne (differ other listed)]

theorem exists_member_of_members {entry : Value × Value} {found result : Found}
    {rest : List (Value × Value)}
    (ended : record.members found (entry :: rest) = .ok result) :
    ∃ name value, entry = member name value := by
  obtain ⟨key, value⟩ := entry
  rcases key with _ | _ | _ | (_ | name) | _ | _ | _
  case string.some => exact ⟨name, value, rfl⟩
  all_goals exact absurd ended (by simp [members])

theorem members_cons_field_iff {name : String} {field : Field}
    (known : record.field? name = some field) {value : Value}
    {found result : Found} {rest : List (Value × Value)} :
    record.members found (member name value :: rest) = .ok result ↔
      found.value? name = none ∧ field.check value = .ok () ∧
        record.members ((name, value) :: found) rest = .ok result := by
  constructor
  · intro ended
    simp only [member, Value.text] at ended
    rw [members] at ended
    simp only [known] at ended
    cases unseen : found.value? name with
    | some _ =>
        rw [unseen] at ended
        obtain ⟨_, refused, _⟩ := of_bind ended
        exact absurd refused (by simp)
    | none =>
        rw [unseen] at ended
        obtain ⟨accepted, checked, onward⟩ := of_bind ended
        exact ⟨rfl, checked, onward⟩
  · rintro ⟨unseen, accepted, ended⟩
    rw [members_cons known accepted (by rw [unseen]; rfl)]
    exact ended

theorem members_cons_other_iff {name : String}
    (unknown : record.field? name = none) {value : Value}
    {found result : Found} {rest : List (Value × Value)} :
    record.members found (member name value :: rest) = .ok result ↔
      value.isWhole = true ∧ record.members found rest = .ok result := by
  simp only [member, Value.text]
  rw [members]
  simp only [unknown]
  split
  · next whole => rw [whole, and_iff_right rfl]
  · next torn =>
      constructor
      · intro ended
        exact absurd ended (by simp)
      · rintro ⟨whole, _⟩
        exact absurd whole torn

theorem takesMember_iff {name : String} {value : Value} :
    record.TakesMember (member name value) ↔ record.Takes name value := by
  constructor
  · rintro ⟨own, held, same, takes⟩
    obtain ⟨named, rfl⟩ := Prod.mk.inj same
    cases named
    exact takes
  · exact fun takes => ⟨name, value, rfl, takes⟩

/-- What is found in members, and when. -/
theorem members_eq_ok_iff {found result : Found}
    {members : List (Value × Value)} :
    record.members found members = .ok result ↔
      (∀ entry ∈ members, record.TakesMember entry) ∧
        Fresh found (record.given members) ∧
        result = (record.given members).reverse ++ found := by
  induction members generalizing found with
  | nil =>
      have empty : Fresh found [] := ⟨List.nodup_nil, by simp⟩
      constructor
      · intro ended
        exact ⟨by simp, empty, (Except.ok.inj ended).symm⟩
      · rintro ⟨_, _, rfl⟩
        rfl
  | cons entry rest induction =>
      rw [List.forall_mem_cons]
      constructor
      · intro ended
        obtain ⟨name, value, rfl⟩ := exists_member_of_members ended
        rw [takesMember_iff]
        cases named : record.field? name with
        | some field =>
            rw [members_cons_field_iff named, induction] at ended
            obtain ⟨unseen, accepted, taken, fresh, rfl⟩ := ended
            rw [given_cons_field named, fresh_cons_iff]
            exact ⟨⟨.field named accepted, taken⟩, ⟨unseen, fresh⟩, by simp⟩
        | none =>
            rw [members_cons_other_iff named, induction] at ended
            obtain ⟨whole, taken, fresh, rfl⟩ := ended
            rw [given_cons_other named]
            exact ⟨⟨.other named whole, taken⟩, fresh, rfl⟩
      · rintro ⟨⟨⟨name, value, rfl, takes⟩, taken⟩, fresh, whole⟩
        cases takes with
        | field named accepted =>
            rw [given_cons_field named] at fresh whole
            rw [fresh_cons_iff] at fresh
            rw [members_cons_field_iff named, induction, whole]
            exact ⟨fresh.1, accepted, taken, fresh.2, by simp⟩
        | other named sound =>
            rw [given_cons_other named] at fresh whole
            rw [members_cons_other_iff named, induction]
            exact ⟨sound, taken, fresh, whole⟩

/-! ## Order and additions -/

end Record

/-- Can a value that nothing asks for be passed over?  What is taken in before it
is decoded is read whole, so the value must be readable where it stands. -/
def Source.passesOver (source : Source) (levels : Nat) (value : Value) : Bool :=
  match source with
  | .takenIn => value.isReadable levels
  | _ => value.isWhole

theorem Value.isWhole_of_passesOver {source : Source} {levels : Nat}
    {value : Value} (passed : source.passesOver levels value = true) :
    value.isWhole = true := by
  cases source with
  | takenIn => exact value.isWhole_of_isReadable passed
  | direct => exact passed
  | given => exact passed

/-- A member that has none of these names, with a value that can be passed over. -/
def IsForeign (names : List String) (source : Source) (levels : Nat)
    (entry : Value × Value) : Prop :=
  ∃ name value, entry = member name value ∧ name ∉ names ∧
    source.passesOver levels value = true

/-- The same members in any order, and foreign ones among them. -/
def Extends (names : List String) (source : Source) (levels : Nat)
    (members others : List (Value × Value)) : Prop :=
  ∃ added, (∀ entry ∈ added, IsForeign names source levels entry) ∧
    others.Perm (members ++ added)

theorem Extends.mono {names fewer : List String} {source : Source}
    {levels : Nat} {members others : List (Value × Value)}
    (more : Extends names source levels members others)
    (known : ∀ name ∈ fewer, name ∈ names) :
    Extends fewer source levels members others := by
  obtain ⟨added, foreign, order⟩ := more
  refine ⟨added, fun entry listed => ?_, order⟩
  obtain ⟨name, value, same, unknown, passed⟩ := foreign entry listed
  exact ⟨name, value, same, mt (known name) unknown, passed⟩

namespace Record

variable {record : Record α}

def names (record : Record α) : List String := record.fields.map Field.name

theorem field?_eq_none_iff {name : String} :
    record.field? name = none ↔ name ∉ record.names := by
  rw [field?, names, List.find?_eq_none, List.mem_map]
  constructor
  · rintro other ⟨field, listed, same⟩
    exact other field listed (by simpa using same)
  · intro missing field listed same
    exact missing ⟨field, listed, by simpa using same⟩

/-- The fields of a record are looked up by their names. -/
def LooksUp (record : Record α) : Prop :=
  ∀ found others : Found, (∀ name, found.value? name = others.value? name) →
    record.build found = record.build others

theorem given_eq_nil_of_foreign {source : Source} {levels : Nat}
    {added : List (Value × Value)}
    (foreign : ∀ entry ∈ added, IsForeign record.names source levels entry) :
    record.given added = [] := by
  induction added with
  | nil => rfl
  | cons entry rest induction =>
      rw [List.forall_mem_cons] at foreign
      obtain ⟨⟨name, value, rfl, unknown, _⟩, later⟩ := foreign
      rw [given_cons_other (field?_eq_none_iff.mpr unknown), induction later]

theorem takesMember_of_foreign {source : Source} {levels : Nat}
    {entry : Value × Value}
    (foreign : IsForeign record.names source levels entry) :
    record.TakesMember entry := by
  obtain ⟨name, value, same, unknown, passed⟩ := foreign
  exact ⟨name, value, same, .other (field?_eq_none_iff.mpr unknown)
    (Value.isWhole_of_passesOver passed)⟩

theorem decode_extends {source origin : Source} {levels : Nat}
    {members others : List (Value × Value)} {result : α}
    (looksUp : record.LooksUp)
    (decoded : record.decode source (.object members) = .ok result)
    (more : Extends record.names origin levels members others) :
    record.decode source (.object others) = .ok result := by
  obtain ⟨found, taken, built⟩ := of_bind decoded
  obtain ⟨added, foreign, order⟩ := more
  rw [members_eq_ok_iff, List.append_nil] at taken
  obtain ⟨takes, ⟨once, _⟩, rfl⟩ := taken
  have given : (record.given others).Perm (record.given members) := by
    have listed := order.filterMap record.fieldOf?
    rw [List.filterMap_append] at listed
    have none := given_eq_nil_of_foreign foreign
    rw [given] at none
    rwa [none, List.append_nil] at listed
  have onceToo : ((record.given others).map Prod.fst).Nodup :=
    (given.map Prod.fst).nodup_iff.mpr once
  have ended : record.members [] others =
      .ok (record.given others).reverse := by
    rw [members_eq_ok_iff, List.append_nil]
    refine ⟨fun entry listed => ?_, ⟨onceToo, fun _ _ => rfl⟩, rfl⟩
    rcases List.mem_append.mp (order.mem_iff.mp listed) with own | extra
    · exact takes entry own
    · exact takesMember_of_foreign (foreign entry extra)
  have same : record.build (record.given others).reverse =
      record.build (record.given members).reverse := by
    apply looksUp
    apply Found.value?_perm
    · rw [List.map_reverse]
      exact List.nodup_reverse.mpr onceToo
    · exact (List.reverse_perm _).trans
        (given.trans (List.reverse_perm _).symm)
  exact bind_ok ended (same.trans built)

end Record

/-! ## Values that are taken for the same -/

theorem eq_of_rel {β : Type} {Same : β → β → Prop}
    (equal : ∀ {value other : β}, Same value other → other = value)
    {value other : Option β} (rel : Option.Rel Same value other) :
    value = other := by
  cases rel with
  | none => rfl
  | some same => rw [equal same]

/-- A member whose value was changed for one that is the same under its name. -/
def SameMember (Same : String → Value → Value → Prop)
    (entry changed : Value × Value) : Prop :=
  ∃ name value other, entry = member name value ∧ changed = member name other ∧
    Same name value other

def SameField (Same : String → Value → Value → Prop)
    (entry changed : String × Value) : Prop :=
  entry.1 = changed.1 ∧ Same entry.1 entry.2 changed.2

theorem Found.value?_alike {Same : String → Value → Value → Prop}
    {found others : Found} (alike : List.Forall₂ (SameField Same) found others)
    (name : String) :
    Option.Rel (Same name) (found.value? name) (others.value? name) := by
  induction alike with
  | nil => exact .none
  | @cons entry changed found others same _ induction =>
      obtain ⟨own, value⟩ := entry
      obtain ⟨_, other⟩ := changed
      obtain ⟨rfl, same⟩ := same
      by_cases named : own = name
      · subst named
        rw [value?_cons_self, value?_cons_self]
        exact .some same
      · rw [value?_cons_of_ne named, value?_cons_of_ne named]
        exact induction

namespace Record

/-- What a record accepts and what it is built as does not depend on which of the
values that are the same under a name it gets. -/
structure Respects (record : Record α)
    (Same : String → Value → Value → Prop) : Prop where
  accepted : ∀ {name : String} {field : Field} {value other : Value},
    record.field? name = some field → Same name value other →
      field.check value = .ok () → field.check other = .ok ()
  whole : ∀ {name : String} {value other : Value},
    record.field? name = none → Same name value other →
      value.isWhole = true → other.isWhole = true
  build : ∀ {found others : Found} {result : α},
    (∀ name, Option.Rel (Same name) (found.value? name)
      (others.value? name)) →
      record.build found = .ok result → record.build others = .ok result

variable {record : Record α} {Same : String → Value → Value → Prop}

theorem respects_of_eq (looksUp : record.LooksUp)
    (equal : ∀ {name : String} {value other : Value},
      Same name value other → other = value) : record.Respects Same := by
  constructor
  · intro name field value other _ same accepted
    rwa [equal same]
  · intro name value other _ same whole
    rwa [equal same]
  · intro found others result alike built
    rwa [← looksUp found others fun name => eq_of_rel equal (alike name)]

theorem members_alike (respects : record.Respects Same)
    {members changed : List (Value × Value)}
    (alike : List.Forall₂ (SameMember Same) members changed)
    {found others : Found}
    (before : List.Forall₂ (SameField Same) found others) {result : Found}
    (ended : record.members found members = .ok result) :
    ∃ after, record.members others changed = .ok after ∧
      List.Forall₂ (SameField Same) result after := by
  induction alike generalizing found others with
  | nil =>
      rw [← Except.ok.inj ended]
      exact ⟨others, rfl, before⟩
  | cons same _ induction =>
      obtain ⟨name, value, other, rfl, rfl, same⟩ := same
      cases named : record.field? name with
      | some field =>
          rw [members_cons_field_iff named] at ended
          obtain ⟨unseen, accepted, ended⟩ := ended
          have unseenToo : others.value? name = none := by
            have rel := Found.value?_alike before name
            rw [unseen] at rel
            generalize others.value? name = other at rel ⊢
            cases rel
            rfl
          have entry : SameField Same (name, value) (name, other) :=
            ⟨rfl, same⟩
          obtain ⟨after, read, alike⟩ := induction (.cons entry before) ended
          exact ⟨after, (members_cons_field_iff named).mpr
            ⟨unseenToo, respects.accepted named same accepted, read⟩, alike⟩
      | none =>
          rw [members_cons_other_iff named] at ended
          obtain ⟨after, read, alike⟩ := induction before ended.2
          exact ⟨after, (members_cons_other_iff named).mpr
            ⟨respects.whole named same ended.1, read⟩, alike⟩

theorem decode_alike {source : Source} (respects : record.Respects Same)
    {members changed : List (Value × Value)} {result : α}
    (decoded : record.decode source (.object members) = .ok result)
    (alike : List.Forall₂ (SameMember Same) members changed) :
    record.decode source (.object changed) = .ok result := by
  obtain ⟨found, read, built⟩ := of_bind decoded
  obtain ⟨after, readToo, alike⟩ := members_alike respects alike .nil read
  exact bind_ok readToo (respects.build (Found.value?_alike alike) built)

end Record

end RemovableMedia.Json
