import RemovableMedia.Queue.Basic

/-!
# Errands

The plainest jobs: an errand says that it starts, pauses a number of times,
and then either panics or says that it ends.
-/

namespace RemovableMedia

/-- A job that tells of its start and its end. -/
structure Errand where
  number : Int
  pauses : Nat := 0
  panics : Bool := false
  begun : Bool := false
  deriving DecidableEq, Repr

namespace Errand

/-- What an errand says. -/
inductive Moment where
  | start (number : Int)
  | finish (number : Int)
  deriving DecidableEq, Repr

/-- What was said so far, in order. -/
abbrev Diary := List Moment

/-- One turn, up to the next pause or to the end. -/
def resume (errand : Errand) (diary : Diary) : Progress Errand × Diary :=
  let diary :=
    if errand.begun then diary else diary ++ [.start errand.number]
  match errand.pauses with
  | pauses + 1 => (.pending { errand with pauses, begun := true }, diary)
  | 0 =>
      if errand.panics then (.panicked, diary)
      else (.completed, diary ++ [.finish errand.number])

instance : Routine Errand Diary where
  resume := resume
  turns errand := errand.pauses
  turns_decrease errand rest diary pending := by
    unfold resume at pending
    cases pauses : errand.pauses with
    | zero =>
        simp only [pauses] at pending
        split at pending <;> simp at pending
    | succ fewer =>
        simp only [pauses, Progress.pending.injEq] at pending
        simp [← pending]

end Errand

end RemovableMedia
