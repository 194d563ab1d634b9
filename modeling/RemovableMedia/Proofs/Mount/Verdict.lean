import Mathlib.Data.List.TakeWhile
import RemovableMedia.Mount.Tracker

/-!
# The verdict on a list of results

What the results of a device amount to can be read off the whole list, without
taking them in one after another.  Failures of the device itself count only as
long as nothing else was reported; of the rest, several results with a failure
among them are one failure of the whole.
-/

namespace RemovableMedia

/-- How a mount result counts for the status of its device. -/
inductive ResultKind where
  | success
  /-- A failure of the device itself, which holds the partition table. -/
  | parentFailure
  /-- A failure of one partition. -/
  | childFailure
  deriving DecidableEq, Repr

namespace MountCompleted

def kind (event : MountCompleted) : ResultKind :=
  if event.outcome.isSuccess then .success
  else if event.volume.isParentDevice then .parentFailure
  else .childFailure

theorem kind_eq_success_iff (event : MountCompleted) :
    event.kind = .success ↔ event.outcome.isSuccess = true := by
  unfold kind
  cases event.outcome.isSuccess <;> cases event.volume.isParentDevice <;> simp

theorem kind_eq_parentFailure_iff (event : MountCompleted) :
    event.kind = .parentFailure ↔
      event.outcome.isSuccess = false ∧
        event.volume.isParentDevice = true := by
  unfold kind
  cases event.outcome.isSuccess <;> cases event.volume.isParentDevice <;> simp

end MountCompleted

namespace ResultKind

/-- The status of a device with this result alone. -/
def status : ResultKind → MountStatus
  | success => .success
  | parentFailure => .onlyParentError
  | childFailure => .childError

theorem status_injective {left right : ResultKind}
    (same : left.status = right.status) : left = right := by
  cases left <;> cases right <;> simp [status] at same ⊢

/-- The results from the first that is no failure of the device itself. -/
def dropParents (results : List ResultKind) : List ResultKind :=
  results.dropWhile (· = parentFailure)

/-- The status of a device with these results. -/
def verdict (results : List ResultKind) : MountStatus :=
  if results = [] then .noResult
  else if dropParents results = [] then .onlyParentError
  else if ∀ kind ∈ dropParents results, kind = success then .success
  else if dropParents results = [childFailure] then .childError
  else .multipartError

theorem dropParents_concat_of_eq_nil {results : List ResultKind}
    (parents : dropParents results = []) (kind : ResultKind) :
    dropParents (results ++ [kind]) = dropParents [kind] := by
  unfold dropParents at parents ⊢
  simp [List.dropWhile_append, parents]

theorem dropParents_concat_of_ne_nil {results : List ResultKind}
    (later : dropParents results ≠ []) (kind : ResultKind) :
    dropParents (results ++ [kind]) = dropParents results ++ [kind] := by
  unfold dropParents at later ⊢
  simp [List.dropWhile_append, later]

@[simp] theorem verdict_nil : verdict [] = .noResult := rfl

theorem eq_nil_of_verdict {results : List ResultKind}
    (none : verdict results = .noResult) : results = [] := by
  unfold verdict at none
  split at none
  · assumption
  · repeat' split at none
    all_goals simp at none

theorem verdict_singleton (kind : ResultKind) :
    verdict [kind] = kind.status := by
  cases kind <;> rfl

/-- One more result after nothing but failures of the device itself counts as
if it were the first. -/
theorem verdict_concat_of_eq_nil {results : List ResultKind}
    (parents : dropParents results = []) (kind : ResultKind) :
    verdict (results ++ [kind]) = kind.status := by
  rw [← verdict_singleton kind]
  simp [verdict, dropParents_concat_of_eq_nil parents]

theorem verdict_of_eq_nil {results : List ResultKind}
    (parents : dropParents results = []) :
    verdict results = .noResult ∨ verdict results = .onlyParentError := by
  unfold verdict
  rw [if_pos parents]
  split
  · exact .inl rfl
  · exact .inr rfl

theorem verdict_of_ne_nil {results : List ResultKind}
    (later : dropParents results ≠ []) :
    verdict results = .success ∨ verdict results = .childError ∨
      verdict results = .multipartError := by
  have nonempty : results ≠ [] := by
    rintro rfl
    exact later rfl
  unfold verdict
  rw [if_neg nonempty, if_neg later]
  split
  · exact .inl rfl
  · split
    · exact .inr (.inl rfl)
    · exact .inr (.inr rfl)

theorem verdict_eq_success_iff {results : List ResultKind}
    (later : dropParents results ≠ []) :
    verdict results = .success ↔
      ∀ kind ∈ dropParents results, kind = success := by
  have nonempty : results ≠ [] := by
    rintro rfl
    exact later rfl
  unfold verdict
  rw [if_neg nonempty, if_neg later]
  split
  · next all => simpa using all
  · next mixed =>
      constructor
      · split <;> simp
      · exact fun all => absurd all mixed

/-- A result after one that is no failure of the device itself keeps the
status only if all of them are successes. -/
theorem verdict_concat_of_ne_nil {results : List ResultKind}
    (later : dropParents results ≠ []) (kind : ResultKind) :
    verdict (results ++ [kind]) =
      if verdict results = .success ∧ kind = success then .success
      else .multipartError := by
  have rest := dropParents_concat_of_ne_nil later kind
  have stillLater : dropParents (results ++ [kind]) ≠ [] := by simp [rest]
  have succeeded : verdict (results ++ [kind]) = .success ↔
      verdict results = .success ∧ kind = success := by
    rw [verdict_eq_success_iff stillLater, verdict_eq_success_iff later, rest]
    simp [or_imp, forall_and]
  split
  · next both => exact succeeded.mpr both
  · next mixed =>
      have failed := mt succeeded.mp mixed
      have several : dropParents (results ++ [kind]) ≠ [childFailure] := by
        rw [rest]
        intro one
        exact later (List.append_eq_singleton_iff.mp one |>.resolve_right
          (by simp) |>.1)
      rw [verdict_eq_success_iff stillLater] at failed
      unfold verdict
      rw [if_neg (by simp), if_neg stillLater, if_neg failed, if_neg several]

end ResultKind

namespace MountCompleted

open ResultKind

theorem firstStatus_eq (event : MountCompleted) :
    event.firstStatus = event.kind.status := by
  unfold firstStatus kind
  cases event.outcome.isSuccess <;> cases event.volume.isParentDevice <;> rfl

/-- The status of a device moves along with the verdict on its results. -/
theorem verdict_concat (results : List ResultKind) (event : MountCompleted) :
    verdict (results ++ [event.kind]) = event.nextStatus (verdict results) := by
  by_cases parents : dropParents results = []
  · rw [verdict_concat_of_eq_nil parents, ← event.firstStatus_eq]
    rcases verdict_of_eq_nil parents with none | onlyParents
    · rw [none]
      rfl
    · rw [onlyParents]
      rfl
  · rw [verdict_concat_of_ne_nil parents]
    simp only [kind_eq_success_iff]
    rcases verdict_of_ne_nil parents with success | child | multipart
    · simp [success, nextStatus]
    · simp [child, nextStatus]
    · simp [multipart, nextStatus]

/-- Nothing but failures of the device itself was reported as long as there is
no other status. -/
theorem parents_iff_verdict {results : List MountCompleted} :
    (∀ event ∈ results, event.kind = .parentFailure) ↔
      verdict (results.map kind) = .noResult ∨
        verdict (results.map kind) = .onlyParentError := by
  have dropped : (∀ event ∈ results, event.kind = .parentFailure) ↔
      dropParents (results.map kind) = [] := by
    unfold dropParents
    rw [List.dropWhile_eq_nil_iff]
    simp
  rw [dropped]
  constructor
  · exact verdict_of_eq_nil
  · intro early
    by_contra later
    rcases verdict_of_ne_nil later with settled | settled | settled
    all_goals simp [settled] at early

/-- A single failure is the result of a device with which nothing else has
happened than that the device itself failed. -/
theorem nextStatus_eq_single {event : MountCompleted} {current : MountStatus}
    (single : event.nextStatus current = .onlyParentError ∨
      event.nextStatus current = .childError) :
    (current = .noResult ∨ current = .onlyParentError) ∧
      event.nextStatus current = event.kind.status := by
  rw [← event.firstStatus_eq]
  cases current with
  | noResult => exact ⟨.inl rfl, rfl⟩
  | onlyParentError => exact ⟨.inr rfl, rfl⟩
  | childError => simp [nextStatus] at single
  | multipartError => simp [nextStatus] at single
  | success =>
      unfold nextStatus at single
      cases succeeded : event.outcome.isSuccess with
      | true => simp [succeeded] at single
      | false => simp [succeeded] at single

end MountCompleted

end RemovableMedia
