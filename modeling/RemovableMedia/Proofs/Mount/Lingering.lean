import Mathlib.Data.List.TakeWhile
import RemovableMedia.Proofs.Mount.Standing

/-!
# Failures that linger

The failure of the device itself is taken back when it is followed by a result
of a partition.  If instead the device itself succeeds, nothing takes its
failure back any more, and it lingers next to the status `success`.
-/

namespace RemovableMedia

namespace MountCompleted

/-- The device itself failed to be mounted, and the first result that is no
such failure is again one of the device itself. -/
def Lingers (results : List MountCompleted) : Prop :=
  (∃ event ∈ results.takeWhile (·.kind = .parentFailure),
    event.operation = .mount) ∧
  ∀ event ∈ results.find? (·.kind ≠ .parentFailure),
    event.volume.isParentDevice = true

instance (results : List MountCompleted) : Decidable (Lingers results) :=
  inferInstanceAs (Decidable (_ ∧ _))

variable {results : List MountCompleted}

theorem lingers_of_parents
    (parents : ∀ event ∈ results, event.kind = .parentFailure) :
    Lingers results ↔ ∃ event ∈ results, event.operation = .mount := by
  have all : results.takeWhile (·.kind = .parentFailure) = results := by
    rw [List.takeWhile_eq_self_iff]
    simpa using parents
  have nothingElse : results.find? (·.kind ≠ .parentFailure) = none := by
    simpa using parents
  unfold Lingers
  rw [all, nothingElse]
  simp

/-- The first result that is no failure of the device itself decides. -/
theorem lingers_concat_of_parents
    (parents : ∀ event ∈ results, event.kind = .parentFailure)
    {first : MountCompleted} (other : first.kind ≠ .parentFailure) :
    Lingers (results ++ [first]) ↔
      Lingers results ∧ first.volume.isParentDevice = true := by
  have all : (results ++ [first]).takeWhile (·.kind = .parentFailure) =
      results := by
    rw [List.takeWhile_append_of_pos (by simpa using parents)]
    simp [other]
  have decisive : (results ++ [first]).find? (·.kind ≠ .parentFailure) =
      some first := by
    rw [List.find?_append, List.find?_eq_none.mpr (by simpa using parents)]
    simp [other]
  rw [lingers_of_parents parents]
  unfold Lingers
  rw [all, decisive]
  simp

theorem lingers_concat_of_other
    (other : ¬ ∀ event ∈ results, event.kind = .parentFailure)
    (last : MountCompleted) :
    Lingers (results ++ [last]) ↔ Lingers results := by
  have stops : (results ++ [last]).takeWhile (·.kind = .parentFailure) =
      results.takeWhile (·.kind = .parentFailure) := by
    rw [List.takeWhile_append, if_neg]
    intro whole
    apply other
    have all : results.takeWhile (·.kind = .parentFailure) = results :=
      (List.takeWhile_prefix _).eq_of_length whole
    rw [List.takeWhile_eq_self_iff] at all
    simpa using all
  have found : (results.find? (·.kind ≠ .parentFailure)).isSome = true := by
    simpa using other
  obtain ⟨first, decisive⟩ := Option.isSome_iff_exists.mp found
  have stillDecisive : (results ++ [last]).find? (·.kind ≠ .parentFailure) =
      some first := by
    rw [List.find?_append, decisive]
    rfl
  unfold Lingers
  rw [stops, stillDecisive, decisive]

end MountCompleted

namespace Standing

open MountCompleted

variable (config : HandlerConfig) {standing : Standing}
  {event : MountCompleted}

/-- A success changes what is shown only if it is the first result of a
partition after a failure of the device itself. -/
theorem failure_after_of_success (succeeds : event.kind = .success)
    (noChild : standing.status ≠ .childError) :
    (standing.after config event).failure =
      if standing.status = .onlyParentError ∧
          event.volume.isParentDevice = false then
        none
      else standing.failure := by
  have isSuccess := event.kind_eq_success_iff.mp succeeds
  cases current : standing.status with
  | childError => exact absurd current noChild
  | noResult => simp [after, current, nextStatus, firstStatus, isSuccess,
      MountStatus.isFailure]
  | success => simp [after, current, nextStatus, isSuccess,
      MountStatus.isFailure]
  | onlyParentError => simp [after, current, nextStatus, firstStatus, isSuccess,
      MountStatus.isFailure]
  | multipartError => simp [after, current]

/-- A failure of the device itself, first or again, is shown if it is a
mount. -/
theorem failure_after_of_parentFailure (fails : event.kind = .parentFailure)
    (early : standing.status = .noResult ∨
      standing.status = .onlyParentError) :
    (standing.after config event).failure =
      if event.operation = .mount then
        some (config.failureContent (event.failureMessage .onlyParentError))
      else standing.failure := by
  obtain ⟨failed, parent⟩ := event.kind_eq_parentFailure_iff.mp fails
  rcases early with current | current
  · simp [after, current, nextStatus, firstStatus, failed, parent,
      MountStatus.isFailure]
  · simp [after, current, nextStatus, firstStatus, failed, parent,
      MountStatus.isFailure]

/-- The standing goes with the results: as long as no partition failed, a
failure is shown exactly if one of the device itself lingers. -/
structure Reflects (results : List MountCompleted) (standing : Standing) :
    Prop where
  status : standing.status =
    ResultKind.verdict (results.map MountCompleted.kind)
  failure : standing.status ≠ .childError →
    standing.status ≠ .multipartError →
    (standing.failure ≠ none ↔ Lingers results)

variable {results : List MountCompleted}

/-- One more result while only the device itself has failed. -/
theorem failure_after_of_parents (reflects : Reflects results standing)
    (parents : ∀ event ∈ results, event.kind = .parentFailure)
    (noChild : (standing.after config event).status ≠ .childError) :
    (standing.after config event).failure ≠ none ↔
      Lingers (results ++ [event]) := by
  have early := parents_iff_verdict.mp parents
  rw [← reflects.status] at early
  have notChild : standing.status ≠ .childError := by
    rcases early with current | current <;> simp [current]
  have notMultipart : standing.status ≠ .multipartError := by
    rcases early with current | current <;> simp [current]
  have shown := reflects.failure notChild notMultipart
  cases kind : event.kind with
  | parentFailure =>
      have stillParents : ∀ result ∈ results ++ [event],
          result.kind = .parentFailure := by
        simpa [or_imp, forall_and, kind] using parents
      rw [lingers_of_parents parents] at shown
      rw [failure_after_of_parentFailure config kind early,
        lingers_of_parents stillParents]
      split
      · next mount => simp [mount]
      · next unmount => simpa [unmount] using shown
  | success =>
      have other : event.kind ≠ .parentFailure := by simp [kind]
      rw [failure_after_of_success config kind notChild,
        lingers_concat_of_parents parents other]
      cases parent : event.volume.isParentDevice with
      | true => simpa using shown
      | false =>
          -- Without results there was nothing to take back.
          rcases early with current | current
          · have nothing : results = [] := by
              rw [reflects.status] at current
              exact List.map_eq_nil_iff.mp
                (ResultKind.eq_nil_of_verdict current)
            subst results
            simpa [current, Lingers] using shown
          · simp [current]
  | childFailure =>
      have child : event.firstStatus = .childError := by
        rw [event.firstStatus_eq, kind]
        rfl
      rcases early with current | current
      · simp [after, current, nextStatus, child] at noChild
      · simp [after, current, nextStatus, child] at noChild

/-- One more result after something else than failures of the device itself. -/
theorem failure_after_of_other (reflects : Reflects results standing)
    (other : ¬ ∀ event ∈ results, event.kind = .parentFailure)
    (noMultipart : (standing.after config event).status ≠ .multipartError) :
    (standing.after config event).failure ≠ none ↔
      Lingers (results ++ [event]) := by
  have late := mt parents_iff_verdict.mpr other
  rw [← reflects.status] at late
  rw [lingers_concat_of_other other]
  cases current : standing.status with
  | noResult => exact absurd (.inl current) late
  | onlyParentError => exact absurd (.inr current) late
  | childError => simp [after, current, nextStatus] at noMultipart
  | multipartError => simp [after, current, nextStatus] at noMultipart
  | success =>
      have succeeds : event.kind = .success := by
        rw [event.kind_eq_success_iff]
        by_contra failed
        simp [after, current, nextStatus, failed] at noMultipart
      have shown := reflects.failure (by simp [current]) (by simp [current])
      rw [failure_after_of_success config succeeds (by simp [current])]
      simpa [current] using shown

theorem reflects_after (reflects : Reflects results standing)
    (event : MountCompleted) :
    Reflects (results ++ [event]) (standing.after config event) := by
  constructor
  · change event.nextStatus standing.status = _
    rw [reflects.status, List.map_append]
    exact (event.verdict_concat _).symm
  · intro noChild noMultipart
    by_cases parents : ∀ event ∈ results, event.kind = .parentFailure
    · exact failure_after_of_parents config reflects parents noChild
    · exact failure_after_of_other config reflects parents noMultipart

theorem reflects_afterAll (results : List MountCompleted) :
    Reflects results (afterAll config initial results) := by
  induction results using List.reverseRecOn with
  | nil => exact ⟨rfl, fun _ _ => by simp [afterAll, initial, Lingers]⟩
  | append_singleton results event induction =>
      rw [afterAll_concat]
      exact reflects_after config induction event

end Standing

end RemovableMedia
