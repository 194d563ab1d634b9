import Mathlib.Tactic.SplitIfs
import RemovableMedia.Proofs.Json.OneLine
import RemovableMedia.Proofs.Wire.RoundTrip
import RemovableMedia.Session.Input

/-!
# Reading what was written

Output is made of lines, each a request with a line feed after it.  No byte of a
request is a line feed, neither as a character of its own nor as a part of one,
so whoever splits the bytes at line feeds finds the requests, and can read each.
-/

namespace RemovableMedia

namespace Input

/-- The bytes as which a text is written. -/
def bytes (text : String) : List UInt8 :=
  text.toUTF8.data.toList

theorem bytes_eq (text : String) :
    bytes text = text.toList.flatMap String.utf8EncodeChar := by
  rw [bytes, String.toUTF8_eq_toByteArray, ← String.utf8Encode_toList]
  exact List.toList_data_toByteArray

theorem bytes_append (first second : String) :
    bytes (first ++ second) = bytes first ++ bytes second := by
  simp only [bytes_eq, String.toList_append, List.flatMap_append]

theorem decode?_bytes (text : String) : decode? (bytes text) = some text := by
  have same : (⟨(bytes text).toArray⟩ : ByteArray) = text.toByteArray := rfl
  rw [decode?, same, String.fromUTF8?, dif_pos text.isValidUTF8]
  rfl

private theorem lineFeed_eq_ofNat_iff {code : Nat} :
    lineFeed = UInt8.ofNat code ↔ code % 256 = 10 := by
  rw [← UInt8.toNat_inj, UInt8.toNat_ofNat', eq_comm]
  rfl

/-- Only the line feed is encoded with its byte: the bytes of a longer encoding
all have the highest bit. -/
theorem eq_of_lineFeed_mem_utf8EncodeChar {c : Char}
    (member : lineFeed ∈ String.utf8EncodeChar c) : c = '\n' := by
  apply Char.toNat_inj.mp
  change c.val.toNat = 10
  simp only [String.utf8EncodeChar] at member
  split_ifs at member
  all_goals
    simp only [List.mem_cons, List.not_mem_nil, or_false,
      lineFeed_eq_ofNat_iff] at member
    omega

theorem lineFeed_not_mem_bytes {text : String} (oneLine : '\n' ∉ text.toList) :
    lineFeed ∉ bytes text := by
  intro member
  rw [bytes_eq] at member
  obtain ⟨c, own, encoded⟩ := List.mem_flatMap.mp member
  exact oneLine (eq_of_lineFeed_mem_utf8EncodeChar encoded ▸ own)

theorem split_line {line : List UInt8} (oneLine : lineFeed ∉ line)
    (rest : List UInt8) :
    split (line ++ lineFeed :: rest) = line :: split rest := by
  induction line with
  | nil => rfl
  | cons byte line induction =>
      obtain ⟨other, others⟩ := not_or.mp (oneLine ∘ List.mem_cons.mpr)
      rw [List.cons_append, split, if_neg (Ne.symm other), induction others]

end Input

namespace NavigationRequest

theorem lineFeed_not_mem_line (request : NavigationRequest) :
    '\n' ∉ request.line.toList :=
  Json.lineFeed_not_mem_toText (request.recovers .direct).textual

theorem stream_cons (request : NavigationRequest)
    (requests : List NavigationRequest) :
    stream (request :: requests) = request.line ++ "\n" ++ stream requests := by
  simp [stream, String.join_cons]

/-- The lines of a stream are those of its requests. -/
theorem split_stream (requests : List NavigationRequest) :
    Input.split (Input.bytes (stream requests)) =
      requests.map fun request => Input.bytes request.line := by
  induction requests with
  | nil => rfl
  | cons request requests induction =>
      have oneLine :=
        Input.lineFeed_not_mem_bytes request.lineFeed_not_mem_line
      have ended : Input.bytes (stream (request :: requests)) =
          Input.bytes request.line ++
            Input.lineFeed :: Input.bytes (stream requests) := by
        rw [stream_cons, Input.bytes_append, Input.bytes_append,
          List.append_assoc]
        rfl
      rw [ended, Input.split_line oneLine, induction]
      rfl

theorem ofText_line (request : NavigationRequest) :
    WireType.navigationRequest.ofText request.line = .ok request :=
  (request.recovers .direct).decodeText_toText

/-- Whatever the requests name, the text that they are written as has one line
for each of them, and the lines are decoded to the same requests in the same
order. -/
theorem stream_read_back (requests : List NavigationRequest) :
    let lines := Input.split (Input.bytes (stream requests))
    lines.length = requests.length ∧
      (lines.map fun line =>
        (Input.decode? line).map WireType.navigationRequest.ofText) =
        requests.map fun request => some (.ok request) := by
  intro lines
  have split : lines =
      requests.map fun request => Input.bytes request.line :=
    split_stream requests
  rw [split]
  refine ⟨List.length_map _, ?_⟩
  rw [List.map_map]
  apply List.map_congr_left
  intro request _
  rw [Function.comp_apply, Input.decode?_bytes, Option.map_some, ofText_line]

/-- A line feed and a quotation mark in a path end neither the line nor the
string. -/
example : stream [.device "/dev/\n\"", {}] =
    "\x7b\"devicePath\":\"/dev/\\n\\\"\"\x7d\n\x7b\x7d\n" := by
  decide

end NavigationRequest

end RemovableMedia
