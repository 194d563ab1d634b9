import RemovableMedia.Proofs.Queue.Run

/-!
# Visits of the worker

What a worker does splits into visits: it takes the entries of the queue in
the order in which they were handed over and stays with each until it is over.
A job has a visit to itself, and what happens there is up to the job and the
state that it meets; whether other jobs panic makes no difference to it.
-/

namespace RemovableMedia

/-! ## Visits -/

/-- The turns that a job can have from its first on, and what they come to. -/
inductive Routine.Comes {Job σ : Type} [Routine Job σ] (job : Job) :
    List (Shift Job σ) → Progress Job → Prop where
  | first (met : σ) :
      Comes job
        [⟨some job, met, (resume job met).1.report, (resume job met).2⟩]
        (resume job met).1
  | next {shifts : List (Shift Job σ)} {rest : Job} (met : σ) :
      Comes job shifts (.pending rest) →
      Comes job
        (shifts ++
          [⟨none, met, (resume rest met).1.report, (resume rest met).2⟩])
        (resume rest met).1

/-- The turns in which the worker is occupied with one entry. -/
structure Visit (Job σ : Type) where
  entry : Entry Job
  shifts : List (Shift Job σ)

namespace Visit

variable {Job σ : Type}

def panicked (visit : Visit Job σ) : Bool :=
  visit.shifts.any (·.report = .panicked)

variable [Routine Job σ]

/-- The job has completed or panicked; whoever waited was told. -/
def IsOver (visit : Visit Job σ) : Prop :=
  match visit.entry with
  | .job job => ∃ progress : Progress Job,
      Routine.Comes job visit.shifts progress ∧ progress.rest? = none
  | .mark waiter => ∃ state,
      visit.shifts = [⟨none, state, .reached waiter, state⟩]

/-- The job had turns, and this is what is left of it. -/
def IsUnderWay (visit : Visit Job σ) (rest : Job) : Prop :=
  ∃ job, visit.entry = .job job ∧
    Routine.Comes job visit.shifts (.pending rest)

end Visit

namespace Routine.Comes

variable {Job σ : Type} [Routine Job σ] {job : Job}
  {shifts : List (Shift Job σ)} {progress : Progress Job}

theorem report_eq_worked_or_last (comes : Comes job shifts progress)
    {shift : Shift Job σ} (member : shift ∈ shifts) :
    shift.report = .worked ∨ shift.report = progress.report := by
  induction comes with
  | first met =>
      rw [List.mem_singleton.mp member]
      exact .inr rfl
  | next met earlier induction =>
      rcases List.mem_append.mp member with before | last
      · left
        exact (induction before).elim id id
      · rw [List.mem_singleton.mp last]
        exact .inr rfl

theorem last_mem (comes : Comes job shifts progress) :
    ∃ shift ∈ shifts, shift.report = progress.report := by
  cases comes with
  | first met => exact ⟨_, List.mem_singleton_self _, rfl⟩
  | next met earlier =>
      exact ⟨_, List.mem_append_right _ (List.mem_singleton_self _), rfl⟩

theorem any_panicked (comes : Comes job shifts progress) :
    shifts.any (·.report = .panicked) = decide (progress.report = .panicked) := by
  rw [Bool.eq_iff_iff, List.any_eq_true, decide_eq_true_iff]
  constructor
  · rintro ⟨shift, member, panicked⟩
    have panicked := of_decide_eq_true panicked
    rcases comes.report_eq_worked_or_last member with worked | last
    · rw [worked] at panicked
      exact absurd panicked (by decide)
    · rw [← last, panicked]
  · intro panicked
    obtain ⟨shift, member, last⟩ := comes.last_mem
    exact ⟨shift, member, decide_eq_true (last.trans panicked)⟩

theorem report_ne_reached (comes : Comes job shifts progress)
    {shift : Shift Job σ} (member : shift ∈ shifts) (waiter : Nat) :
    shift.report ≠ .reached waiter := by
  rcases comes.report_eq_worked_or_last member with worked | last
  · rw [worked]
    simp
  · rw [last]
    cases progress <;> simp [Progress.report]

end Routine.Comes

/-! ## The account of a run -/

/-- The worker was occupied with these visits, one after another, and is now
with this one: they are to the first entries handed over, and a panic in a visit
is all that the log tells of. -/
structure Workshop.Account {Job σ : Type} [Routine Job σ]
    (shop : Workshop Job σ) (past : List (Visit Job σ))
    (now : Option (Visit Job σ)) : Prop where
  shifts : shop.shifts = (past ++ now.toList).flatMap Visit.shifts
  submitted : shop.submitted =
    (past ++ now.toList).map Visit.entry ++ shop.queue.waiting
  isOver : ∀ visit ∈ past, visit.IsOver
  free : now = none → shop.queue.current = none
  isUnderWay : ∀ visit ∈ now,
    ∃ rest, shop.queue.current = some rest ∧ visit.IsUnderWay rest
  log : shop.log = (past.filter Visit.panicked).map fun _ =>
    .jobPanicked shop.queue.name

namespace Workshop

variable {Job σ : Type} [Routine Job σ]

theorem account_opened (name : String) (state : σ) :
    (opened name state : Workshop Job σ).Account [] none where
  shifts := rfl
  submitted := rfl
  isOver := by simp
  free _ := rfl
  isUnderWay := by simp
  log := rfl

/-- The queue of the shop has a turn in which a job comes this far. -/
def worked (shop : Workshop Job σ) (waiting : List (Entry Job))
    (began : Option Job) (progress : Progress Job) (left : σ) :
    Workshop Job σ where
  queue := ⟨shop.queue.name, progress.rest?, waiting⟩
  state := left
  log := shop.log ++ (progress.report.log? shop.queue.name).toList
  submitted := shop.submitted
  shifts := shop.shifts ++ [⟨began, shop.state, progress.report, left⟩]

theorem step_turn_of_job {shop : Workshop Job σ} {job : Job}
    {behind : List (Entry Job)}
    (entries : shop.queue.entries = .job job :: behind) :
    shop.step .turn = shop.worked behind shop.queue.next?
      (Routine.resume job shop.state).1
      (Routine.resume job shop.state).2 := by
  have turn := Queue.turn_of_job entries shop.state
  have shift : shop.queue.shift? shop.state =
      some ⟨shop.queue.next?, shop.state,
        (Routine.resume job shop.state).1.report,
        (Routine.resume job shop.state).2⟩ := by
    unfold Queue.shift?
    rw [turn]
    cases (Routine.resume job shop.state).1 <;> rfl
  simp [step, worked, turn, shift]

/-- A turn prolongs the visit to a job, from its first turn on. -/
theorem account_worked {shop : Workshop Job σ} {past : List (Visit Job σ)}
    {job : Job} {earlier : List (Shift Job σ)} {waiting : List (Entry Job)}
    {began : Option Job} {progress : Progress Job} {left : σ}
    (shifts : shop.shifts = past.flatMap Visit.shifts ++ earlier)
    (submitted : shop.submitted =
      past.map Visit.entry ++ .job job :: waiting)
    (isOver : ∀ visit ∈ past, visit.IsOver)
    (log : shop.log = (past.filter Visit.panicked).map fun _ =>
      .jobPanicked shop.queue.name)
    (comes : Routine.Comes job
      (earlier ++ [⟨began, shop.state, progress.report, left⟩]) progress) :
    ∃ past now, (shop.worked waiting began progress left).Account past now := by
  let visit : Visit Job σ :=
    ⟨.job job, earlier ++ [⟨began, shop.state, progress.report, left⟩]⟩
  have panicked : visit.panicked = decide (progress.report = .panicked) :=
    comes.any_panicked
  have seen : shop.shifts ++ [⟨began, shop.state, progress.report, left⟩] =
      (past ++ [visit]).flatMap Visit.shifts := by
    simp [shifts, visit]
  have handedOver : shop.submitted =
      (past ++ [visit]).map Visit.entry ++ waiting := by
    simp [submitted, visit]
  cases rest : progress.rest? with
  | some later =>
      have pending : progress = .pending later := by
        cases progress <;> simp [Progress.rest?] at rest ⊢
        exact rest
      refine ⟨past, some visit, seen, handedOver, isOver, by simp, ?_, ?_⟩
      · rintro _ ⟨⟩
        exact ⟨later, rest, job, rfl, pending ▸ comes⟩
      · simp [worked, log, pending, Progress.report, Report.log?]
  | none =>
      refine ⟨past ++ [visit], none, ?_, ?_, ?_, fun _ => rest, by simp, ?_⟩
      · rw [Option.toList_none, List.append_nil]
        exact seen
      · rw [Option.toList_none, List.append_nil]
        exact handedOver
      · intro other member
        rcases List.mem_append.mp member with earlier | last
        · exact isOver other earlier
        · rw [List.mem_singleton.mp last]
          exact ⟨progress, comes, rest⟩
      · -- The log grows by an entry exactly if this visit ends in a panic.
        cases progress with
        | pending later => simp [Progress.rest?] at rest
        | completed =>
            simp [worked, log, panicked, Progress.report, Report.log?]
        | panicked =>
            simp [worked, log, panicked, Progress.report, Report.log?]

theorem account_turn {shop : Workshop Job σ} {past : List (Visit Job σ)}
    {now : Option (Visit Job σ)} (account : shop.Account past now) :
    ∃ past now, (shop.step .turn).Account past now := by
  cases now with
  | some visit =>
      obtain ⟨rest, current, job, entry, comes⟩ :=
        account.isUnderWay visit rfl
      have entries : shop.queue.entries = .job rest :: shop.queue.waiting := by
        simp [Queue.entries, current]
      have next : shop.queue.next? = none := by simp [Queue.next?, current]
      rw [step_turn_of_job entries, next]
      refine account_worked ?_ ?_ account.isOver account.log
        (Routine.Comes.next shop.state comes)
      · simpa using account.shifts
      · simpa [entry] using account.submitted
  | none =>
      have free := account.free rfl
      have waiting : shop.queue.entries = shop.queue.waiting := by
        simp [Queue.entries, free]
      have shifts : shop.shifts = past.flatMap Visit.shifts ++ [] := by
        simpa using account.shifts
      have submitted : shop.submitted =
          past.map Visit.entry ++ shop.queue.entries := by
        simpa [waiting] using account.submitted
      cases entries : shop.queue.entries with
      | nil =>
          have idle := Queue.turn_of_nil entries shop.state
          have same : shop.step .turn = shop := by
            simp [step, idle, Queue.shift?, Report.log?]
          rw [same]
          exact ⟨past, none, account⟩
      | cons entry behind =>
          rw [entries] at submitted waiting
          cases entry with
          | job job =>
              have next : shop.queue.next? = some job := by
                simp [Queue.next?, free, ← waiting]
              rw [step_turn_of_job entries, next]
              exact account_worked shifts submitted account.isOver account.log
                (Routine.Comes.first shop.state)
          | mark waiter =>
              have turn := Queue.turn_of_mark entries shop.state
              have next : shop.queue.next? = none := by
                simp [Queue.next?, free, ← waiting]
              let visit : Visit Job σ := ⟨.mark waiter,
                [⟨none, shop.state, .reached waiter, shop.state⟩]⟩
              have calm : visit.panicked = false := by
                simp [visit, Visit.panicked]
              refine ⟨past ++ [visit], none, ?_, ?_, ?_, fun _ => ?_, by simp,
                ?_⟩
              · simp [step, turn, Queue.shift?, next, shifts, visit]
              · simp [step, turn, submitted, visit]
              · intro other member
                rcases List.mem_append.mp member with earlier | last
                · exact account.isOver other earlier
                · rw [List.mem_singleton.mp last]
                  exact ⟨shop.state, rfl⟩
              · simp [step, turn]
              · simp [step, turn, account.log, calm, Report.log?]

theorem account_step {shop : Workshop Job σ} {past : List (Visit Job σ)}
    {now : Option (Visit Job σ)} (account : shop.Account past now)
    (step : QueueStep Job σ) :
    ∃ past now, (shop.step step).Account past now := by
  cases step with
  | submit job =>
      refine ⟨past, now, account.shifts, ?_, account.isOver, account.free,
        account.isUnderWay, account.log⟩
      simp [Workshop.step, Queue.submit, account.submitted]
  | flush =>
      refine ⟨past, now, account.shifts, ?_, account.isOver, account.free,
        account.isUnderWay, account.log⟩
      simp [Workshop.step, Queue.mark, account.submitted]
  | turn => exact account_turn account
  | meanwhile change =>
      exact ⟨past, now, account.shifts, account.submitted, account.isOver,
        account.free, account.isUnderWay, account.log⟩

theorem account_run {shop : Workshop Job σ} {past : List (Visit Job σ)}
    {now : Option (Visit Job σ)} (account : shop.Account past now)
    (steps : List (QueueStep Job σ)) :
    ∃ past now, (shop.run steps).Account past now := by
  induction steps generalizing shop past now with
  | nil => exact ⟨past, now, account⟩
  | cons step steps induction =>
      obtain ⟨_, _, next⟩ := account_step account step
      exact induction next

end Workshop

end RemovableMedia
