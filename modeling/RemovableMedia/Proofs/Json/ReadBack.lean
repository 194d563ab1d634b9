import RemovableMedia.Json.Reader
import RemovableMedia.Proofs.Json.StringText

/-!
# Written values read back

A value that is made of texts, truth values and nulls, in objects and arrays, is
read back from its text exactly as it was, whatever text follows it.  Numbers are
left out: nothing that goes over the wire has one.
-/

namespace RemovableMedia.Json

mutual

/-- Is the value made of texts, truth values and nulls alone? -/
def Value.isTextual : Value → Bool
  | .null => true
  | .boolean _ => true
  | .string (some _) => true
  | .array items => itemsTextual items
  | .object members => membersTextual members
  | _ => false

def itemsTextual : List Value → Bool
  | [] => true
  | item :: rest => item.isTextual && itemsTextual rest

def membersTextual : List (Value × Value) → Bool
  | [] => true
  | (.string (some _), value) :: rest =>
      value.isTextual && membersTextual rest
  | _ :: _ => false

end

theorem key_of_membersTextual {key value : Value}
    {members : List (Value × Value)}
    (textual : membersTextual ((key, value) :: members) = true) :
    ∃ name, key = .text name := by
  rcases key with _ | _ | _ | (_ | name) | _ | _ | _
  case string.some => exact ⟨name, rfl⟩
  all_goals simp [membersTextual] at textual

private theorem writeItems_cons {item : Value} {items : List Value}
    (more : items ≠ []) :
    writeItems (item :: items) = item.write ++ ',' :: writeItems items := by
  cases items with
  | nil => exact absurd rfl more
  | cons next items => rfl

private theorem writeMembers_cons {name : String} {value : Value}
    {members : List (Value × Value)} (more : members ≠ []) :
    writeMembers ((.text name, value) :: members) =
      stringText name ++ ':' :: (value.write ++ ',' :: writeMembers members) := by
  cases members with
  | nil => exact absurd rfl more
  | cons next members => simp [writeMembers, Value.text, Value.write]

namespace Reader

/-- The reader after more text. -/
def readOn (reader : Reader) (text : List Char) : Reader :=
  (scan text).foldl step reader

theorem readOn_token {c : Char} {text rest : List Char} {token : Token}
    (lexed : Token.lex c text = (token, rest)) (solid : isSpace c = false)
    (reader : Reader) :
    reader.readOn (c :: text) = (reader.step token).readOn rest := by
  have scanned : scan (c :: text) = token :: scan rest := by
    rw [scan, solid, if_neg Bool.false_ne_true, lexed]
  rw [readOn, scanned]
  rfl

/-- Brackets, colons and commas are tokens of their own, whatever follows. -/
theorem readOn_mark (c : Char) (mark : Token)
    (lexed : ∀ text, Token.lex c text = (mark, text))
    (solid : isSpace c = false) (reader : Reader) (text : List Char) :
    reader.readOn (c :: text) = (reader.step mark).readOn text :=
  readOn_token (lexed text) solid reader

/-- A value may follow next, within these containers. -/
structure Awaits (frames : List Frame) (reader : Reader) : Prop where
  scalar : ∀ value, reader.step (.scalar value) = resume value frames
  array : reader.step .arrayStart = .firstItem frames
  object : reader.step .objectStart = .firstKey frames

theorem awaits_start (frames : List Frame) : Awaits frames (.start frames) :=
  ⟨fun _ => rfl, rfl, rfl⟩

theorem awaits_firstItem (frames : List Frame) :
    Awaits (.array [] :: frames) (.firstItem frames) :=
  ⟨fun _ => rfl, rfl, rfl⟩

/-- A key may follow next, after these members. -/
def AwaitsKey (members : List (Value × Value)) (frames : List Frame)
    (reader : Reader) : Prop :=
  ∀ key, reader.step (.scalar (.text key)) =
    .afterKey members (.text key) frames

theorem awaitsKey_firstKey (frames : List Frame) :
    AwaitsKey [] frames (.firstKey frames) :=
  fun _ => rfl

theorem awaitsKey_nextKey (members : List (Value × Value))
    (frames : List Frame) :
    AwaitsKey members frames (.nextKey members frames) :=
  fun _ => rfl

theorem readOn_stringText (reader : Reader) (text : String)
    (rest : List Char) :
    reader.readOn (stringText text ++ rest) =
      (reader.step (.scalar (.text text))).readOn rest := by
  have lexed := Token.lex_stringText text rest
  have letters : stringText text ++ rest =
      '"' :: (text.toList.flatMap escapedChar ++ '"' :: rest) := by
    simp [stringText]
  rw [letters, readOn_token lexed rfl]

mutual

theorem readOn_write {frames : List Frame} {reader : Reader}
    (awaits : Awaits frames reader) (value : Value)
    (textual : value.isTextual = true) (rest : List Char) :
    reader.readOn (value.write ++ rest) = (resume value frames).readOn rest := by
  cases value with
  | null =>
      rw [← awaits.scalar]
      exact readOn_token rfl rfl reader
  | boolean truth =>
      rw [← awaits.scalar]
      cases truth with
      | true => exact readOn_token rfl rfl reader
      | false => exact readOn_token rfl rfl reader
  | number number => simp [Value.isTextual] at textual
  | string text =>
      cases text with
      | none => simp [Value.isTextual] at textual
      | some text =>
          rw [← awaits.scalar]
          exact readOn_stringText reader text rest
  | array items =>
      have letters : (Value.array items).write ++ rest =
          '[' :: (writeItems items ++ ']' :: rest) := by
        simp [Value.write]
      rw [letters, readOn_mark '[' .arrayStart (fun _ => rfl) rfl, awaits.array]
      by_cases empty : items = []
      · rw [empty]
        exact readOn_token rfl rfl (.firstItem frames)
      · exact readOn_writeItems (awaits_firstItem frames) items empty textual rest
  | object members =>
      have letters : (Value.object members).write ++ rest =
          '\u007b' :: (writeMembers members ++ '\u007d' :: rest) := by
        simp [Value.write]
      rw [letters, readOn_mark '\u007b' .objectStart (fun _ => rfl) rfl,
        awaits.object]
      by_cases empty : members = []
      · rw [empty]
        exact readOn_token rfl rfl (.firstKey frames)
      · exact readOn_writeMembers (awaitsKey_firstKey frames) members empty textual
          rest
  | broken => simp [Value.isTextual] at textual

theorem readOn_writeItems {before : List Value} {frames : List Frame}
    {reader : Reader} (awaits : Awaits (.array before :: frames) reader)
    (items : List Value) (nonempty : items ≠ [])
    (textual : itemsTextual items = true) (rest : List Char) :
    reader.readOn (writeItems items ++ ']' :: rest) =
      (resume (.array (before.reverse ++ items)) frames).readOn rest := by
  cases items with
  | nil => exact absurd rfl nonempty
  | cons item items =>
      simp only [itemsTextual, Bool.and_eq_true] at textual
      by_cases last : items = []
      · subst last
        have read := readOn_write awaits item textual.1 (']' :: rest)
        rw [writeItems, read, resume,
          readOn_mark ']' .arrayEnd (fun _ => rfl) rfl, step,
          List.reverse_cons]
      · have read := readOn_write awaits item textual.1
          (',' :: (writeItems items ++ ']' :: rest))
        have onward := readOn_writeItems
          (awaits_start (.array (item :: before) :: frames)) items last
          textual.2 rest
        rw [writeItems_cons last, List.append_assoc, List.cons_append, read,
          resume, readOn_mark ',' .comma (fun _ => rfl) rfl, step, onward,
          List.reverse_cons, List.append_assoc, List.singleton_append]

theorem readOn_writeMembers {before : List (Value × Value)}
    {frames : List Frame} {reader : Reader}
    (awaits : AwaitsKey before frames reader) (members : List (Value × Value))
    (nonempty : members ≠ []) (textual : membersTextual members = true)
    (rest : List Char) :
    reader.readOn (writeMembers members ++ '\u007d' :: rest) =
      (resume (.object (before.reverse ++ members)) frames).readOn rest := by
  cases members with
  | nil => exact absurd rfl nonempty
  | cons member members =>
      obtain ⟨key, value⟩ := member
      obtain ⟨name, rfl⟩ := key_of_membersTextual textual
      simp only [Value.text, membersTextual, Bool.and_eq_true] at textual
      have entered (rest : List Char) :
          reader.readOn (stringText name ++ ':' :: (value.write ++ rest)) =
            (Reader.afterMember ((.text name, value) :: before) frames).readOn
              rest := by
        rw [readOn_stringText, awaits,
          readOn_mark ':' .colon (fun _ => rfl) rfl, step]
        exact readOn_write (awaits_start _) value textual.1 rest
      by_cases last : members = []
      · subst last
        have letters : writeMembers [(.text name, value)] ++ '\u007d' :: rest =
            stringText name ++ ':' :: (value.write ++ '\u007d' :: rest) := by
          simp [writeMembers, Value.text, Value.write]
        rw [letters, entered,
          readOn_mark '\u007d' .objectEnd (fun _ => rfl) rfl, step,
          List.reverse_cons]
      · have onward := readOn_writeMembers
          (awaitsKey_nextKey ((.text name, value) :: before) frames) members
          last textual.2 rest
        rw [writeMembers_cons last, List.append_assoc, List.cons_append,
          List.append_assoc, List.cons_append, entered,
          readOn_mark ',' .comma (fun _ => rfl) rfl, step, onward,
          List.reverse_cons, List.append_assoc, List.singleton_append]

end

end Reader

theorem Document.read_toText {value : Value}
    (textual : value.isTextual = true) :
    Document.read value.toText = ⟨value, false⟩ := by
  have read := Reader.readOn_write (Reader.awaits_start []) value textual []
  have ended : (Reader.complete value false).readOn [] =
      .complete value false := by
    rw [Reader.readOn, scan]
    rfl
  rw [List.append_nil, Reader.resume, ended, Reader.readOn] at read
  rw [Document.read, Value.toText, String.toList_ofList, Document.ofTokens,
    read]
  rfl

end RemovableMedia.Json
