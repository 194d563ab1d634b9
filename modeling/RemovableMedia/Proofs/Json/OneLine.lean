import RemovableMedia.Proofs.Json.ReadBack

/-!
# Written values have no control characters

A string escapes whatever lies below the space, and all else that is written is
punctuation and words.  So the text of a value is one line, whatever characters
its strings are made of.
-/

namespace RemovableMedia.Json

/-- No character lies below the space. -/
def Plain (text : List Char) : Prop :=
  ∀ c ∈ text, 0x20 ≤ c.toNat

instance (text : List Char) : Decidable (Plain text) :=
  List.decidableBAll _ text

theorem plain_append_iff {first second : List Char} :
    Plain (first ++ second) ↔ Plain first ∧ Plain second :=
  List.forall_mem_append

theorem plain_cons_iff {c : Char} {text : List Char} :
    Plain (c :: text) ↔ 0x20 ≤ c.toNat ∧ Plain text :=
  List.forall_mem_cons

theorem Plain.lineFeed_not_mem {text : List Char} (plain : Plain text) :
    '\n' ∉ text :=
  fun member => absurd (plain '\n' member) (by decide)

private theorem plain_controlEscape : ∀ code < 0x20,
    Plain ['\\', 'u', '0', '0', Nat.digitChar (code / 16),
      Nat.digitChar (code % 16)] := by
  decide

theorem plain_escapedChar (c : Char) : Plain (escapedChar c) := by
  unfold escapedChar
  split
  case h_8 =>
    split
    · next control => exact plain_controlEscape c.toNat control
    · next noControl =>
        exact plain_cons_iff.mpr ⟨Nat.not_lt.mp noControl, by decide⟩
  all_goals decide

theorem plain_stringText (text : String) : Plain (stringText text) := by
  have escaped : Plain (text.toList.flatMap escapedChar) := by
    intro c member
    obtain ⟨original, _, written⟩ := List.mem_flatMap.mp member
    exact plain_escapedChar original c written
  have opened := plain_cons_iff.mpr ⟨(by decide : 0x20 ≤ '"'.toNat), escaped⟩
  exact plain_append_iff.mpr ⟨opened, by decide⟩

mutual

theorem plain_write (value : Value) (textual : value.isTextual = true) :
    Plain value.write := by
  cases value with
  | null => decide
  | boolean truth =>
      cases truth with
      | true => decide
      | false => decide
  | number number => simp [Value.isTextual] at textual
  | string text =>
      cases text with
      | none => simp [Value.isTextual] at textual
      | some text => exact plain_stringText text
  | array items =>
      have inner := plain_writeItems items textual
      exact plain_append_iff.mpr
        ⟨plain_cons_iff.mpr ⟨by decide, inner⟩, by decide⟩
  | object members =>
      have inner := plain_writeMembers members textual
      exact plain_append_iff.mpr
        ⟨plain_cons_iff.mpr ⟨by decide, inner⟩, by decide⟩
  | broken => simp [Value.isTextual] at textual

theorem plain_writeItems (items : List Value)
    (textual : itemsTextual items = true) : Plain (writeItems items) := by
  cases items with
  | nil => decide
  | cons item items =>
      simp only [itemsTextual, Bool.and_eq_true] at textual
      have first := plain_write item textual.1
      have others := plain_writeItems items textual.2
      cases items with
      | nil => exact first
      | cons next items =>
          exact plain_append_iff.mpr
            ⟨first, plain_cons_iff.mpr ⟨by decide, others⟩⟩

theorem plain_writeMembers (members : List (Value × Value))
    (textual : membersTextual members = true) :
    Plain (writeMembers members) := by
  cases members with
  | nil => decide
  | cons member members =>
      obtain ⟨key, value⟩ := member
      obtain ⟨name, rfl⟩ := key_of_membersTextual textual
      simp only [Value.text, membersTextual, Bool.and_eq_true] at textual
      have entered : Plain (stringText name ++ ':' :: value.write) :=
        plain_append_iff.mpr ⟨plain_stringText name,
          plain_cons_iff.mpr ⟨by decide, plain_write value textual.1⟩⟩
      have others := plain_writeMembers members textual.2
      cases members with
      | nil => exact entered
      | cons next members =>
          exact plain_append_iff.mpr
            ⟨entered, plain_cons_iff.mpr ⟨by decide, others⟩⟩

end

/-- Whatever its strings hold, the text of a value is one line. -/
theorem lineFeed_not_mem_toText {value : Value}
    (textual : value.isTextual = true) : '\n' ∉ value.toText.toList := by
  rw [Value.toText, String.toList_ofList]
  exact (plain_write value textual).lineFeed_not_mem

end RemovableMedia.Json
