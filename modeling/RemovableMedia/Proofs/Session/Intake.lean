import RemovableMedia.Session.Basic

/-!
# Which lines of the input are heard

A line that can be read holds an event, or it is reported as malformed, or it is
blank, and whatever it is the next line is taken in as if nothing had happened.
A line that is not UTF-8 is different: nothing after it is taken in.

So the events that are dispatched are those of the lines before the first one
that cannot be read, and an event that stands after it is lost.
-/

namespace RemovableMedia

/-! ## Lines that can be read -/

namespace Input

def isReadable (line : List UInt8) : Bool :=
  (decode? line).isSome

theorem readable_eq (lines : List (List UInt8)) :
    readable lines =
      ((lines.takeWhile isReadable).filterMap decode?,
        !lines.all isReadable) := by
  induction lines with
  | nil => rfl
  | cons line lines induction =>
      cases decoded : decode? line with
      | none => simp [readable, isReadable, decoded]
      | some text =>
          simp [readable, isReadable, decoded, induction]

end Input

namespace Session

/-! ## What a line comes to -/

/-- The event that a line holds, blanks around it aside. -/
def eventOf? (line : List UInt8) : Option HostEvent := do
  let text ← Input.decode? line
  (Json.decodeText HostEvent.decode (Input.trimmed text)).toOption

/-- What is done about a line. -/
inductive Intake where
  | dispatch (event : HostEvent)
  | report (entry : LogEntry)

namespace Intake

def event? : Intake → Option HostEvent
  | dispatch event => some event
  | report _ => none

end Intake

/-- What is done about the text of a line; nothing if it is blank. -/
def intakeOf? (text : String) : Option Intake :=
  let text := Input.trimmed text
  if text = "" then none
  else match Json.decodeText HostEvent.decode text with
    | .ok event => some (.dispatch event)
    | .error error => some (.report (.malformedEvent error.message))

theorem event?_intakeOf? (text : String) :
    (intakeOf? text).bind Intake.event? =
      (Json.decodeText HostEvent.decode (Input.trimmed text)).toOption := by
  unfold intakeOf?
  simp only
  split
  · next blank =>
      rw [blank]
      decide +kernel
  · cases Json.decodeText HostEvent.decode (Input.trimmed text) <;> rfl

namespace Progress

def takeIn (setting : Setting) (progress : Progress) : Intake → Progress
  | .dispatch event => progress.goOn (progress.router.dispatch setting event)
  | .report entry => progress.record entry

theorem line_eq (setting : Setting) (progress : Progress) (text : String) :
    progress.line setting text =
      (intakeOf? text).elim progress (progress.takeIn setting) := by
  simp only [line, intakeOf?]
  split
  · rfl
  · cases Json.decodeText HostEvent.decode (Input.trimmed text) <;> rfl

theorem foldl_line (setting : Setting) (texts : List String)
    (progress : Progress) :
    texts.foldl (line setting) progress =
      (texts.filterMap intakeOf?).foldl (takeIn setting) progress := by
  induction texts generalizing progress with
  | nil => rfl
  | cons text texts induction =>
      rw [List.foldl_cons, induction, line_eq]
      cases intake : intakeOf? text with
      | none => rw [List.filterMap_cons_none intake]; rfl
      | some intake' => rw [List.filterMap_cons_some intake]; rfl

end Progress

/-! ## What the input comes to -/

/-- All that is done about the lines of the input, in order. -/
def intakes (input : List UInt8) : List Intake :=
  let (texts, unreadable) := Input.readable (Input.split input)
  texts.filterMap intakeOf? ++
    if unreadable then [.report .unreadableInput] else []

/-- The events that the router gets from the input, in order. -/
def dispatched (input : List UInt8) : List HostEvent :=
  (intakes input).filterMap Intake.event?

/-- What follows on the last line. -/
def afterInput (setting : Setting) (environment : Environment)
    (progress : Progress) : Progress :=
  let progress :=
    if (Input.split environment.input).all Input.isReadable then
      let (interrupted, progress) :=
        progress.attend setting environment.happenings
      progress.record (if interrupted then .interrupted else .inputClosed)
    else progress
  (progress.settle setting).record .stopped

theorem serve_eq (setting : Setting) (environment : Environment)
    (start : Progress) :
    serve setting environment start =
      afterInput setting environment
        ((intakes environment.input).foldl (Progress.takeIn setting) start) := by
  simp only [serve, afterInput, intakes, Input.readable_eq,
    Progress.foldl_line, List.foldl_append]
  cases (Input.split environment.input).all Input.isReadable <;> rfl

theorem eventOf?_eq (line : List UInt8) :
    ((Input.decode? line).bind intakeOf?).bind Intake.event? =
      eventOf? line := by
  rw [Option.bind_assoc]
  simp only [event?_intakeOf?]
  rfl

theorem dispatched_eq (input : List UInt8) :
    dispatched input =
      ((Input.split input).takeWhile Input.isReadable).filterMap eventOf? := by
  have noEvent : ∀ unreadable : Bool,
      (if unreadable then [Intake.report .unreadableInput] else []).filterMap
        Intake.event? = [] := by
    decide
  simp only [dispatched, intakes, Input.readable_eq, List.filterMap_append,
    noEvent, List.append_nil, List.filterMap_filterMap, eventOf?_eq]

/-- A session dispatches the events of the lines before the first one that cannot
be read, each once and in order.  These are all events of the input exactly if
none stands after such a line. -/
theorem serve_dispatches_until_unreadable (setting : Setting)
    (environment : Environment) (start : Progress) :
    let lines := Input.split environment.input
    let heard := dispatched environment.input
    serve setting environment start =
        afterInput setting environment
          ((intakes environment.input).foldl (Progress.takeIn setting) start) ∧
      heard = (lines.takeWhile Input.isReadable).filterMap eventOf? ∧
      (heard = lines.filterMap eventOf? ↔
        ∀ line ∈ lines.dropWhile Input.isReadable, eventOf? line = none) := by
  intro lines heard
  have before : heard =
      (lines.takeWhile Input.isReadable).filterMap eventOf? :=
    dispatched_eq environment.input
  refine ⟨serve_eq setting environment start, before, ?_⟩
  -- The events of all lines are those heard, and then those after.
  have all : lines.filterMap eventOf? =
      heard ++ (lines.dropWhile Input.isReadable).filterMap eventOf? := by
    rw [before, ← List.filterMap_append, List.takeWhile_append_dropWhile]
  rw [all, List.self_eq_append_right, List.filterMap_eq_nil_iff]

def storageDisabled : HostEvent :=
  .deviceChanged { change := .disabled, devicePath := "/dev/sdb" }

def disabledLine : List UInt8 :=
  storageDisabled.encode.toText.toUTF8.toList

/-- A line of one byte that is not UTF-8 costs the event after it. -/
theorem event_lost_after_unreadableLine :
    let input := 0xFF :: Input.lineFeed :: disabledLine
    (Input.split input).filterMap eventOf? = [storageDisabled] ∧
      dispatched input = [] ∧
      (run { input := disabledLine } []).calls.length = 1 ∧
      (run { input } []).calls = [] := by
  decide +kernel

end Session

end RemovableMedia
