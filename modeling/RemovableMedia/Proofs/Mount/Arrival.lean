import Mathlib.Data.List.Induction
import RemovableMedia.Proofs.Mount.Run
import RemovableMedia.Proofs.Mount.Verdict

/-!
# When the order of arrival matters

The partitions of a device report their results in no particular order, and
the device itself may report a failure of its own among them.  That failure is
forgotten if it comes first and counts if it comes later.  So the order matters
exactly if such a failure meets results that do without it: nothing but
successes, or a single failure of a partition.
-/

namespace RemovableMedia

namespace ResultKind

/-- The results that are no failures of the device itself. -/
def others (results : List ResultKind) : List ResultKind :=
  results.filter (· ≠ parentFailure)

/-- No failure of the device itself follows another result. -/
def ParentsFirst (results : List ResultKind) : Prop :=
  results.Pairwise fun earlier later =>
    later = parentFailure → earlier = parentFailure

/-- Results of which the device itself reported no failure, or nothing but
failures, or whose others are several with a failure among them. -/
def OrderFree (results : List ResultKind) : Prop :=
  parentFailure ∉ results ∨ (∀ kind ∈ results, kind = parentFailure) ∨
    2 ≤ (others results).length ∧ ∃ kind ∈ others results, kind ≠ success

theorem mem_others_iff {results : List ResultKind} {kind : ResultKind} :
    kind ∈ others results ↔ kind ∈ results ∧ kind ≠ parentFailure := by
  simp [others]

theorem others_perm {results order : List ResultKind}
    (perm : order.Perm results) : (others order).Perm (others results) :=
  perm.filter _

/-! ## What the first failures of the device hide -/

theorem dropParents_of_not_mem {results : List ResultKind}
    (none : parentFailure ∉ results) : dropParents results = results := by
  cases results with
  | nil => rfl
  | cons first rest =>
      have other : first ≠ parentFailure := fun same =>
        none (same ▸ List.mem_cons_self)
      simp [dropParents, other]

theorem others_dropParents (results : List ResultKind) :
    others (dropParents results) = others results := by
  induction results with
  | nil => rfl
  | cons first rest induction =>
      by_cases parent : first = parentFailure
      · have dropped : dropParents (first :: rest) = dropParents rest := by
          simp [dropParents, parent]
        have skipped : others (first :: rest) = others rest := by
          simp [others, parent]
        rw [dropped, skipped, induction]
      · simp [dropParents, parent]

/-- With the failures of the device first, the others are what counts. -/
theorem dropParents_of_parentsFirst {results : List ResultKind}
    (parentsFirst : ParentsFirst results) :
    dropParents results = others results := by
  induction results with
  | nil => rfl
  | cons first rest induction =>
      obtain ⟨before, restFirst⟩ := List.pairwise_cons.mp parentsFirst
      by_cases parent : first = parentFailure
      · simpa [dropParents, others, parent] using induction restFirst
      · have none : parentFailure ∉ first :: rest := by
          intro member
          rcases List.mem_cons.mp member with same | later
          · exact parent same.symm
          · exact parent (before _ later rfl)
        have whole : others (first :: rest) = first :: rest := by
          rw [others, List.filter_eq_self]
          intro kind member
          simpa using ne_of_mem_of_not_mem member none
        rw [whole, dropParents_of_not_mem none]

/-- A failure of the device that follows another result counts. -/
theorem mem_dropParents_of_not_parentsFirst {results : List ResultKind}
    (mixed : ¬ ParentsFirst results) :
    parentFailure ∈ dropParents results ∧ others results ≠ [] := by
  induction results with
  | nil => exact absurd List.Pairwise.nil mixed
  | cons first rest induction =>
      by_cases parent : first = parentFailure
      · have restMixed : ¬ ParentsFirst rest := fun restFirst =>
          mixed (List.pairwise_cons.mpr ⟨fun _ _ _ => parent, restFirst⟩)
        simpa [dropParents, others, parent] using induction restMixed
      · refine ⟨?_, ?_⟩
        · by_contra absent
          have whole : dropParents (first :: rest) = first :: rest := by
            simp [dropParents, parent]
          rw [whole] at absent
          apply mixed
          apply List.pairwise_of_forall_mem_list
          intro earlier _ later member same
          exact absurd member (same ▸ absent)
        · simp [others, parent]

/-! ## Verdicts -/

theorem verdict_eq_multipartError {results : List ResultKind}
    (several : 2 ≤ (dropParents results).length)
    (failed : ∃ kind ∈ dropParents results, kind ≠ success) :
    verdict results = .multipartError := by
  have later : dropParents results ≠ [] := by
    intro none
    simp [none] at several
  have nonempty : results ≠ [] := by
    rintro rfl
    exact later rfl
  have mixed : ¬ ∀ kind ∈ dropParents results, kind = success := by
    obtain ⟨kind, member, failure⟩ := failed
    exact fun all => failure (all kind member)
  have noSingle : dropParents results ≠ [childFailure] := by
    intro single
    simp [single] at several
  unfold verdict
  rw [if_neg nonempty, if_neg later, if_neg mixed, if_neg noSingle]

theorem verdict_of_parents {results : List ResultKind}
    (nonempty : results ≠ []) (parents : ∀ kind ∈ results, kind = parentFailure) :
    verdict results = .onlyParentError := by
  have dropped : dropParents results = [] := by
    simpa [dropParents, List.dropWhile_eq_nil_iff] using parents
  unfold verdict
  rw [if_neg nonempty, if_pos dropped]

/-- Without failures of the device, the verdict asks for nothing that depends
on the order. -/
theorem verdict_perm_of_not_mem {results order : List ResultKind}
    (perm : order.Perm results) (none : parentFailure ∉ results) :
    verdict order = verdict results := by
  have noneEither : parentFailure ∉ order := fun member =>
    none (perm.mem_iff.mp member)
  have empty : order = [] ↔ results = [] := by
    rw [← List.length_eq_zero_iff, perm.length_eq, List.length_eq_zero_iff]
  have successes : (∀ kind ∈ order, kind = success) ↔
      ∀ kind ∈ results, kind = success :=
    forall_congr' fun kind => imp_congr_left perm.mem_iff
  have single : order = [childFailure] ↔ results = [childFailure] := by
    rw [← List.perm_singleton, ← List.perm_singleton]
    exact ⟨perm.symm.trans, perm.trans⟩
  unfold verdict
  simp only [dropParents_of_not_mem none, dropParents_of_not_mem noneEither,
    empty, successes, single]

theorem verdict_of_several {results : List ResultKind}
    (several : 2 ≤ (others results).length)
    (failed : ∃ kind ∈ others results, kind ≠ success) :
    verdict results = .multipartError := by
  have among : (others results).Sublist (dropParents results) := by
    rw [← others_dropParents]
    exact List.filter_sublist
  obtain ⟨kind, member, failure⟩ := failed
  exact verdict_eq_multipartError (several.trans among.length_le)
    ⟨kind, among.subset member, failure⟩

theorem verdict_perm_of_orderFree {results order : List ResultKind}
    (free : OrderFree results) (perm : order.Perm results) :
    verdict order = verdict results := by
  rcases free with none | parents | ⟨several, failed⟩
  · exact verdict_perm_of_not_mem perm none
  · by_cases empty : results = []
    · subst results
      rw [List.perm_nil.mp perm]
    · have nonempty : order ≠ [] := by
        rintro rfl
        exact empty (List.nil_perm.mp perm)
      rw [verdict_of_parents empty parents, verdict_of_parents nonempty
        fun kind member => parents kind (perm.mem_iff.mp member)]
  · have othersPerm := others_perm perm
    rw [verdict_of_several several failed, verdict_of_several]
    · rw [othersPerm.length_eq]
      exact several
    · obtain ⟨kind, member, failure⟩ := failed
      exact ⟨kind, othersPerm.mem_iff.mpr member, failure⟩

theorem verdict_of_not_parentsFirst {results : List ResultKind}
    (mixed : ¬ ParentsFirst results) : verdict results = .multipartError := by
  obtain ⟨counts, someOther⟩ := mem_dropParents_of_not_parentsFirst mixed
  refine verdict_eq_multipartError ?_ ⟨parentFailure, counts, by simp⟩
  -- One of the results that count is a failure of the device, another is not.
  obtain ⟨kind, member⟩ := List.exists_mem_of_ne_nil _ someOther
  rw [← others_dropParents, mem_others_iff] at member
  by_contra few
  obtain ⟨single, only⟩ : ∃ single, dropParents results = [single] := by
    rw [← List.length_eq_one_iff]
    have := List.length_pos_of_mem counts
    omega
  rw [only, List.mem_singleton] at counts member
  exact member.2 (member.1.trans counts.symm)

theorem verdict_of_single {results : List ResultKind}
    (single : dropParents results = [childFailure]) :
    verdict results = .childError := by
  have nonempty : results ≠ [] := by
    rintro rfl
    simp [dropParents] at single
  unfold verdict
  rw [if_neg nonempty, single]
  rfl

/-- Where the order matters, the others are successes or one failure. -/
theorem others_of_not_orderFree {results : List ResultKind}
    (bound : ¬ OrderFree results) :
    others results ≠ [] ∧
      ((∀ kind ∈ others results, kind = success) ∨
        others results = [childFailure]) := by
  unfold OrderFree at bound
  push Not at bound
  obtain ⟨_, ⟨kind, member, other⟩, few⟩ := bound
  have kept : kind ∈ others results := mem_others_iff.mpr ⟨member, other⟩
  refine ⟨List.ne_nil_of_mem kept, ?_⟩
  by_cases several : 2 ≤ (others results).length
  · exact .inl (few several)
  · have length : (others results).length = 1 := by
      have positive := List.length_pos_of_mem kept
      omega
    obtain ⟨only, single⟩ := List.length_eq_one_iff.mp length
    have notParent : only ≠ parentFailure := by
      have among : only ∈ others results := by simp [single]
      exact (mem_others_iff.mp among).2
    rw [single]
    cases only with
    | success => simp
    | childFailure => simp
    | parentFailure => exact absurd rfl notParent

theorem verdict_of_parentsFirst {results : List ResultKind}
    (bound : ¬ OrderFree results) (parentsFirst : ParentsFirst results) :
    verdict results = .success ∨ verdict results = .childError := by
  have counted := dropParents_of_parentsFirst parentsFirst
  obtain ⟨nonempty, plain⟩ := others_of_not_orderFree bound
  rw [← counted] at nonempty plain
  rcases plain with successes | single
  · exact .inl ((verdict_eq_success_iff nonempty).mpr successes)
  · exact .inr (verdict_of_single single)

theorem orderFree_perm {results order : List ResultKind}
    (perm : order.Perm results) : OrderFree order ↔ OrderFree results := by
  have othersPerm := others_perm perm
  simp only [OrderFree, perm.mem_iff, othersPerm.mem_iff, othersPerm.length_eq]

end ResultKind

namespace MountCompleted

open ResultKind

/-- Whatever the order of results, the failures of the device can be moved to
its front or to its end. -/
theorem exists_orders (results : List MountCompleted) :
    ∃ front back : List MountCompleted,
      front.Perm results ∧ back.Perm results ∧
        ParentsFirst (front.map kind) ∧
        (.parentFailure ∈ results.map kind → others (results.map kind) ≠ [] →
          ¬ ParentsFirst (back.map kind)) := by
  let isParent : MountCompleted → Bool := fun event =>
    event.kind = .parentFailure
  let parents := results.filter isParent
  let rest := results.filter (!isParent ·)
  have ofParents : ∀ one ∈ parents.map kind, one = .parentFailure := by
    intro one member
    obtain ⟨event, kept, rfl⟩ := List.mem_map.mp member
    simpa [isParent] using (List.mem_filter.mp kept).2
  have ofRest : ∀ one ∈ rest.map kind, one ≠ .parentFailure := by
    intro one member
    obtain ⟨event, kept, rfl⟩ := List.mem_map.mp member
    simpa [isParent] using (List.mem_filter.mp kept).2
  have perm : (parents ++ rest).Perm results := List.filter_append_perm _ _
  refine ⟨parents ++ rest, rest ++ parents, perm,
    List.perm_append_comm.trans perm, ?_, ?_⟩
  · rw [ParentsFirst, List.map_append, List.pairwise_append]
    refine ⟨?_, ?_, ?_⟩
    · apply List.pairwise_of_forall_mem_list
      intro earlier member _ _ _
      exact ofParents earlier member
    · apply List.pairwise_of_forall_mem_list
      intro _ _ later member same
      exact absurd same (ofRest later member)
    · intro earlier member _ _ _
      exact ofParents earlier member
  · intro parent other ordered
    obtain ⟨event, member, failure⟩ := List.mem_map.mp parent
    obtain ⟨one, kept⟩ := List.exists_mem_of_ne_nil _ other
    obtain ⟨among, notParent⟩ := mem_others_iff.mp kept
    obtain ⟨another, anotherMember, rfl⟩ := List.mem_map.mp among
    rw [ParentsFirst, List.map_append, List.pairwise_append] at ordered
    refine notParent (ordered.2.2 _ ?_ _ ?_ failure)
    · exact List.mem_map_of_mem (by simp [rest, isParent, anotherMember, notParent])
    · exact List.mem_map_of_mem (by simp [parents, isParent, member, failure])

end MountCompleted

namespace MountTracker

open ResultKind

/-- The status of a device that was not tracked is the verdict on the results
that came in. -/
theorem status_run_apply {tracker : MountTracker} {path : String}
    (untracked : tracker.statuses.find? path = none)
    {results : List MountCompleted}
    (relevant : ∀ event ∈ results, event.relevantPath? = some path) :
    (tracker.run (results.map .apply)).status path =
      verdict (results.map MountCompleted.kind) := by
  induction results using List.reverseRecOn with
  | nil => simp [status, untracked]
  | append_singleton results event induction =>
      have earlier : ∀ event ∈ results, event.relevantPath? = some path :=
        fun event member => relevant event (by simp [member])
      have result :
          (TrackerStep.apply event).resultFor? path = some event := by
        simp [TrackerStep.resultFor?, relevant event]
      rw [List.map_append, List.map_append, List.map_singleton, run_concat,
        status_step_of_result _ result, induction earlier]
      exact (event.verdict_concat _).symm

/-- The results of a device that was not tracked come in, in some order.  Every
order leads to the same status exactly if there is no failure of the device
itself among them, or nothing else, or the others are several with a failure
among them.  In any other case the status is `success` or `childError` if the
failures of the device come first, and `multipartError` if one of them follows
another result. -/
theorem arrival_order_matters {tracker : MountTracker} {path : String}
    (untracked : tracker.statuses.find? path = none)
    {results : List MountCompleted}
    (relevant : ∀ event ∈ results, event.relevantPath? = some path) :
    ((∀ order : List MountCompleted, order.Perm results →
        (tracker.run (order.map .apply)).status path =
          (tracker.run (results.map .apply)).status path) ↔
      OrderFree (results.map MountCompleted.kind)) ∧
    (¬ OrderFree (results.map MountCompleted.kind) →
      ∀ order : List MountCompleted, order.Perm results →
        (ParentsFirst (order.map MountCompleted.kind) →
          (tracker.run (order.map .apply)).status path = .success ∨
            (tracker.run (order.map .apply)).status path = .childError) ∧
        (¬ ParentsFirst (order.map MountCompleted.kind) →
          (tracker.run (order.map .apply)).status path = .multipartError)) := by
  have status : ∀ order : List MountCompleted, order.Perm results →
      (tracker.run (order.map .apply)).status path =
        verdict (order.map MountCompleted.kind) := fun order perm =>
    status_run_apply untracked fun event member =>
      relevant event (perm.mem_iff.mp member)
  have kinds : ∀ order : List MountCompleted, order.Perm results →
      (order.map MountCompleted.kind).Perm
        (results.map MountCompleted.kind) := fun _ perm => perm.map _
  have early : ∀ order : List MountCompleted, order.Perm results →
      ¬ OrderFree (results.map MountCompleted.kind) →
      ParentsFirst (order.map MountCompleted.kind) →
      verdict (order.map MountCompleted.kind) = .success ∨
        verdict (order.map MountCompleted.kind) = .childError :=
    fun order perm bound parentsFirst =>
      verdict_of_parentsFirst
        (mt (orderFree_perm (kinds order perm)).mp bound) parentsFirst
  refine ⟨⟨?_, ?_⟩, ?_⟩
  · intro same
    by_contra bound
    obtain ⟨front, back, frontPerm, backPerm, parentsFirst, mixed⟩ :=
      MountCompleted.exists_orders results
    have parent : .parentFailure ∈ results.map MountCompleted.kind := by
      by_contra none
      exact bound (.inl none)
    have late := verdict_of_not_parentsFirst
      (mixed parent (others_of_not_orderFree bound).1)
    have agree := (same front frontPerm).trans (same back backPerm).symm
    rw [status front frontPerm, status back backPerm, late] at agree
    rcases early front frontPerm bound parentsFirst with success | child
    · simp [success] at agree
    · simp [child] at agree
  · intro free order perm
    rw [status order perm, status results (.refl _)]
    exact verdict_perm_of_orderFree free (kinds order perm)
  · intro bound order perm
    rw [status order perm]
    exact ⟨early order perm bound, verdict_of_not_parentsFirst⟩

/-- A card that fails as a whole, and of which a partition is mounted. -/
def cardAndPartition : List MountCompleted :=
  [.ofCard (.failure "error_unknown") true, .ofCard .success false]

theorem arrival_order_matters_for_cardAndPartition :
    (∃ order : List MountCompleted, order.Perm cardAndPartition ∧
      (run {} (order.map .apply)).status "/dev/sdb" ≠
        (run {} (cardAndPartition.map .apply)).status "/dev/sdb") ∧
    (run {} (cardAndPartition.reverse.map .apply)).status "/dev/sdb" =
      .multipartError := by
  have untracked :
      ({} : MountTracker).statuses.find? "/dev/sdb" = none := rfl
  have relevant : ∀ event ∈ cardAndPartition,
      event.relevantPath? = some "/dev/sdb" := by decide
  have bound :
      ¬ OrderFree (cardAndPartition.map MountCompleted.kind) := by
    simp [OrderFree, others, cardAndPartition, MountCompleted.kind,
      MountCompleted.ofCard, MountOutcome.isSuccess]
  have mixed : ¬ ParentsFirst
      (cardAndPartition.reverse.map MountCompleted.kind) := by
    simp [ParentsFirst, cardAndPartition, MountCompleted.kind,
      MountCompleted.ofCard, MountOutcome.isSuccess]
  obtain ⟨free, other⟩ := arrival_order_matters untracked relevant
  refine ⟨?_, (other bound _ (List.reverse_perm _)).2 mixed⟩
  by_contra same
  push Not at same
  exact bound (free.mp same)

end MountTracker

end RemovableMedia
