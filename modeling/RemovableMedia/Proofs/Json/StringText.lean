import RemovableMedia.Json.Token
import RemovableMedia.Json.Writer

/-!
# Strings as they are written

Whatever a writer puts for a character is read as that character, and nothing
that is written within a string ends it.  A written string is one token, and the
token is the string.
-/

namespace RemovableMedia.Json

/-- The digits that are written for a control character spell its number. -/
private theorem hexValue?_of_control : ∀ code < 0x20,
    Text.hexValue? ['0', '0', Nat.digitChar (code / 16),
      Nat.digitChar (code % 16)] = some code := by
  decide

private theorem ofCode_of_control (c : Char) (control : c.toNat < 0x20) :
    StringUnit.ofCode c.toNat = .char c := by
  have whole : isHalf c.toNat = false := by
    simp only [isHalf, Bool.and_eq_false_iff, decide_eq_false_iff_not]
    omega
  rw [StringUnit.ofCode, whole, if_neg Bool.false_ne_true, Char.ofNat_toNat]

theorem stringUnits?_escapedChar (c : Char) (rest : List Char) :
    stringUnits? (escapedChar c ++ rest) =
      (stringUnits? rest).map fun (units, after) =>
        (.char c :: units, after) := by
  unfold escapedChar
  split
  case h_8 notQuote notBackslash _ _ _ _ _ =>
    split
    · next control =>
        have code := hexValue?_of_control c.toNat control
        have unit := ofCode_of_control c control
        cases read : stringUnits? rest with
        | none => simp [stringUnits?, code, read]
        | some result => simp [stringUnits?, code, unit, read]
    · next noControl =>
        have plain : ¬(c.toNat < 0x20 ∨ c = '\\') :=
          not_or.mpr ⟨noControl, notBackslash⟩
        rw [List.cons_append, List.nil_append, stringUnits?, if_neg plain]
        · cases stringUnits? rest <;> rfl
        · exact notQuote
        · intro _ _ _ _ _ same
          exact absurd same notBackslash
        · intro _ _ same
          exact absurd same notBackslash
  all_goals
    cases read : stringUnits? rest with
    | none => simp [stringUnits?, simpleEscape?, read]
    | some result => simp [stringUnits?, simpleEscape?, read]

theorem stringUnits?_escaped (text rest : List Char) :
    stringUnits? (text.flatMap escapedChar ++ '"' :: rest) =
      some (text.map .char, rest) := by
  induction text with
  | nil => rfl
  | cons c text induction =>
      rw [List.flatMap_cons, List.append_assoc, stringUnits?_escapedChar,
        induction]
      rfl

/-- Characters have no halves to be joined. -/
theorem joinUnits?_chars (text : List Char) :
    joinUnits? (text.map .char) = some text := by
  induction text with
  | nil => rfl
  | cons c text induction =>
      rw [List.map_cons, joinUnits?, induction]
      rfl

/-- A written string is read up to its end, and no further. -/
theorem Token.lex_stringText (text : String) (rest : List Char) :
    Token.lex '"' (text.toList.flatMap escapedChar ++ '"' :: rest) =
      (.scalar (.text text), rest) := by
  have units := stringUnits?_escaped text.toList rest
  have joined := joinUnits?_chars text.toList
  simp only [Token.lex, units, Value.ofUnits, joined, Option.map_some,
    String.ofList_toList]
  rfl

end RemovableMedia.Json
