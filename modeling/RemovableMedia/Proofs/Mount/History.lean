import Mathlib.Data.List.DropRight
import RemovableMedia.Proofs.Mount.Run
import RemovableMedia.Proofs.Mount.Verdict
import RemovableMedia.Proofs.Registry

/-!
# What a tracker remembers

After any run, the status of a device is the verdict on the results it got
since it was last removed, and the devices that are tracked are those that got
some.
-/

namespace RemovableMedia

namespace TrackerStep

/-- The results that bear on a device since it was last removed, in order. -/
def history (path : String) (steps : List TrackerStep) : List MountCompleted :=
  (steps.rtakeWhile (· ≠ .remove path)).filterMap (resultFor? path)

@[simp] theorem history_nil (path : String) : history path [] = [] := rfl

theorem history_concat_remove (path : String) (steps : List TrackerStep) :
    history path (steps ++ [.remove path]) = [] := by
  simp [history, List.rtakeWhile_concat_neg]

theorem history_concat {path : String} {step : TrackerStep}
    (kept : step ≠ .remove path) (steps : List TrackerStep) :
    history path (steps ++ [step]) =
      history path steps ++ (step.resultFor? path).toList := by
  simp only [history]
  rw [List.rtakeWhile_concat_pos _ _ _ (by simpa using kept),
    List.filterMap_append]
  cases result : step.resultFor? path <;> simp [result]

end TrackerStep

namespace MountTracker

open TrackerStep ResultKind

theorem find?_run (steps : List TrackerStep) (path : String) :
    (run {} steps).statuses.find? path =
      if history path steps = [] then none
      else some (verdict ((history path steps).map MountCompleted.kind)) := by
  induction steps using List.reverseRecOn with
  | nil => rfl
  | append_singleton steps step induction =>
      have current : (run {} steps).status path =
          verdict ((history path steps).map MountCompleted.kind) := by
        unfold status
        rw [induction]
        split
        · next none => simp [none]
        · rfl
      rw [run_concat, find?_step]
      -- A removal starts the history anew; any other step adds its result.
      by_cases removed : step = .remove path
      · subst step
        simp [history_concat_remove]
      · rw [if_neg removed, history_concat removed]
        cases result : step.resultFor? path with
        | none => simpa using induction
        | some event =>
            simp [current, MountCompleted.verdict_concat]

theorem status_run (steps : List TrackerStep) (path : String) :
    (run {} steps).status path =
      verdict ((history path steps).map MountCompleted.kind) := by
  unfold status
  rw [find?_run]
  split
  · next none => simp [none]
  · rfl

/-- After any run, the status of every device is the verdict on its results
since it was last removed, and the tracker holds as many devices as there are
with such results. -/
theorem status_run_eq_verdict_and_trackedDevices (steps : List TrackerStep) :
    (∀ path, (run {} steps).status path =
      verdict ((history path steps).map MountCompleted.kind)) ∧
    ((run {} steps).trackedDevices : ℕ∞) =
      {path | history path steps ≠ []}.encard := by
  refine ⟨status_run steps, ?_⟩
  unfold trackedDevices
  rw [Registry.size_eq_encard]
  congr 1
  ext path
  simp [find?_run]

/-- A failed device whose partition then fails as well, next to a partition
that is mounted. -/
example :
    verdict [.parentFailure, .childFailure, .success] = .multipartError := by
  decide

end MountTracker

end RemovableMedia
