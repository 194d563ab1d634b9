import RemovableMedia.Proofs.Router.Yield

/-!
# The account of a router

Of the requests made so far some have reached the host and the others wait in
the queues, family by family in order.  The account is exact after every step of
a service: requests are added where events and imports make them, and workers
move them on.  To wait for something moves nothing.
-/

namespace RemovableMedia

open HostCall

/-- The calls that requests come to. -/
def callsFor (setting : Setting) (requests : List Request) : List HostCall :=
  requests.map (Request.call (Center.ofConfig setting.config).content)

theorem callsFor_append (setting : Setting) (first second : List Request) :
    callsFor setting (first ++ second) =
      callsFor setting first ++ callsFor setting second :=
  List.map_append

namespace Router

variable {σ : Type}

theorem entries_mark (router : Router σ) (family other : Family) :
    ((router.mark family).center.queues.get other).entries =
      if other = family then
        (router.center.queues.get other).entries ++ [.mark 0]
      else (router.center.queues.get other).entries := by
  split
  · next same =>
      subst other
      simp [mark, Queue.mark, Queue.entries]
  · next different =>
      rw [mark, Center.get_withQueue_of_ne _ _ different]

variable [NotificationHost σ]

/-- What a router that was set up for the host has done to it, and what it has
been asked for. -/
structure Accounts (setting : Setting) (host : σ) (requests : List Request)
    (done : List HostCall) (router : Router σ) : Prop where
  host : router.desk.host = performAll done host
  calls : ∀ family : Family,
    under family.heading (callsFor setting requests) =
      under family.heading done ++
        callsOf (router.center.queues.get family).entries
  headed : ∀ call ∈ done, ∃ family : Family, headingOf call.id = family.heading
  orderly : router.center.Orderly
  content : router.center.content = (Center.ofConfig setting.config).content

theorem accounts_ofConfig (setting : Setting) (host : σ) :
    Accounts setting host [] [] (ofConfig setting.config host) where
  host := rfl
  calls family := by
    have empty := Center.entries_ofConfig setting.config family
    simp [callsFor, under, callsOf, ofConfig, empty]
  headed call member := absurd member List.not_mem_nil
  orderly := Center.orderly_ofConfig setting.config
  content := rfl

namespace Accounts

variable {setting : Setting} {host : σ} {requests : List Request}
  {done : List HostCall} {router next : Router σ}

/-- More requests wait in the queues. -/
theorem makes (accounts : Accounts setting host requests done router)
    {more : List Request} (made : Makes more router next) :
    Accounts setting host (requests ++ more) done next := by
  obtain ⟨orderly, calls⟩ := Center.orderly_requestAll accounts.orderly more
  constructor
  · rw [made.host]
    exact accounts.host
  · intro family
    rw [made.center, calls, callsFor_append, under_append, accounts.calls,
      accounts.content, List.append_assoc]
    rfl
  · exact accounts.headed
  · rw [made.center]
    exact orderly
  · rw [made.center, Center.content_requestAll, accounts.content]

/-- Workers move requests on. -/
theorem performs (accounts : Accounts setting host requests done router)
    {later : List HostCall}
    (performs : router.center.Performs later next.center router.desk.host
      next.desk.host) :
    Accounts setting host requests (done ++ later) next := by
  constructor
  · rw [performAll_append, ← accounts.host]
    exact performs.host
  · intro family
    rw [accounts.calls, performs.calls, under_append, List.append_assoc]
  · intro call member
    rcases List.mem_append.mp member with early | late
    · exact accounts.headed call early
    · exact performs.headed call late
  · exact performs.orderly accounts.orderly
  · exact performs.content.trans accounts.content

theorem mark (accounts : Accounts setting host requests done router)
    (family : Family) :
    Accounts setting host requests done (router.mark family) := by
  constructor
  · exact accounts.host
  · intro other
    rw [accounts.calls, entries_mark]
    split
    · rw [callsOf_append]
      exact congrArg _ (List.append_nil _).symm
    · rfl
  · exact accounts.headed
  · intro other
    rw [entries_mark]
    split
    · apply (accounts.orderly other).append
      simp [Prompt]
    · exact accounts.orderly other
  · exact accounts.content

end Accounts

variable {setting : Setting} {host : σ} {requests : List Request}
  {done : List HostCall}

theorem accounts_step {router : Router σ}
    (accounts : Accounts setting host requests done router)
    (step : RouterStep) :
    ∃ done, Accounts setting host
      (requests ++ router.stepRequests setting step) done
      (router.step setting step) := by
  rcases step with event | ⟨collaborators, family | index⟩ | collaborators | _
  · exact ⟨done, accounts.makes (makes_dispatch setting router event)⟩
  · obtain ⟨later, performed⟩ :=
      Center.performs_turn accounts.orderly family router.desk
    rw [stepRequests, List.append_nil]
    exact ⟨done ++ later, accounts.performs performed⟩
  · exact ⟨done, accounts.makes
      (makes_turn_task { setting with collaborators } router index)⟩
  · exact ⟨done, accounts.makes
      (makes_drain { setting with collaborators } router)⟩
  · obtain ⟨later, performed⟩ :=
      Center.performs_flush accounts.orderly router.desk
    rw [stepRequests, List.append_nil]
    exact ⟨done ++ later, accounts.performs performed⟩

end Router

namespace Service

open Router

variable {σ : Type} [NotificationHost σ] {setting : Setting} {host : σ}
  {requests : List Request} {done : List HostCall}

theorem accounts_opened (setting : Setting) (host : σ) (order : FlushOrder) :
    Accounts setting host [] [] (opened setting host order).router :=
  accounts_ofConfig setting host

theorem accounts_step {service : Service σ}
    (accounts : Accounts setting host requests done service.router)
    (step : ServiceStep) :
    ∃ done, Accounts setting host
      (requests ++ (Yield.requests setting).ofStep service step) done
      (service.step setting step).router := by
  have moves := service.moves_step setting step
  generalize service.step setting step = next at moves
  cases moves with
  | router own =>
      have same := Yield.requests_ofRouterStep setting service.router own
      have stepped := Router.accounts_step accounts own
      rw [← same] at stepped
      exact stepped
  | close => exact ⟨done, accounts.makes ⟨rfl, rfl⟩⟩
  | @turn collaborators index task stage found =>
      rw [Yield.ofStep_taken _ found, Yield.requests_ofTurn]
      exact ⟨done, accounts.makes
        (makes_taskTurn { setting with collaborators } service.router task)⟩
  | join entries =>
      exact ⟨done, accounts.makes (makes_foldl_record entries service.router)⟩
  | takeOver => exact ⟨done, accounts.makes ⟨rfl, rfl⟩⟩
  | @await families due =>
      cases families with
      | nil => exact ⟨done, accounts.makes ⟨rfl, rfl⟩⟩
      | cons family families =>
          exact ⟨done, (accounts.mark family).makes ⟨rfl, rfl⟩⟩
  | nothing other idle =>
      rw [Yield.ofStep_of_idle _ other idle]
      exact ⟨done, accounts.makes ⟨rfl, rfl⟩⟩

/-- After any steps the account says what became of the requests made in
them. -/
theorem accounts_run {service : Service σ}
    (accounts : Accounts setting host requests done service.router)
    (steps : List ServiceStep) :
    ∃ done, Accounts setting host
      (requests ++ (Yield.requests setting).ofRun setting service steps) done
      (service.run setting steps).router := by
  induction steps generalizing service requests done with
  | nil =>
      rw [Yield.ofRun, List.append_nil]
      exact ⟨done, accounts⟩
  | cons step steps induction =>
      obtain ⟨first, stepped⟩ := accounts_step accounts step
      rw [Yield.ofRun, ← List.append_assoc]
      exact induction stepped

end Service

end RemovableMedia
