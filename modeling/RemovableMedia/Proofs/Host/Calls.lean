import RemovableMedia.Proofs.Host.Reliable
import RemovableMedia.Proofs.Host.Screen

/-!
# Calls and what a host makes of them

A list of calls, carried out one after another, takes a host from one state to
another whether or not they fail.  Of a host that keeps a record one can read
off which calls it got, and every host can be made to keep one.  What is visible
under an identity in the end depends on the last call about it: on a host that
works, and as far as clearing goes also on one that only never fails to clear.
-/

namespace RemovableMedia

namespace HostCall

/-- The calls about identities with one heading, in order. -/
def under (heading : String) (calls : List HostCall) : List HostCall :=
  calls.filter fun call => headingOf call.id = heading

/-- The calls about the identity, in order. -/
def about (id : String) (calls : List HostCall) : List HostCall :=
  calls.filter fun call => call.id = id

def lastAbout? (id : String) (calls : List HostCall) : Option HostCall :=
  (about id calls).getLast?

/-- What one sees after the last call, if there is one. -/
def seenAfter (before : Option NotificationContent) :
    Option HostCall → Option NotificationContent
  | some (create _ content) => some content
  | some (clear _) => none
  | none => before

theorem under_append (heading : String) (first second : List HostCall) :
    under heading (first ++ second) =
      under heading first ++ under heading second :=
  List.filter_append first second

theorem under_of_all {heading : String} {calls : List HostCall}
    (own : ∀ call ∈ calls, headingOf call.id = heading) :
    under heading calls = calls := by
  apply List.filter_eq_self.mpr
  intro call member
  exact decide_eq_true (own call member)

theorem under_of_none {heading : String} {calls : List HostCall}
    (other : ∀ call ∈ calls, headingOf call.id ≠ heading) :
    under heading calls = [] := by
  apply List.filter_eq_nil_iff.mpr
  intro call member
  simpa using other call member

/-- Whichever call about an identity comes last is found under its heading. -/
theorem lastAbout?_under (id : String) (calls : List HostCall) :
    lastAbout? id (under (headingOf id) calls) = lastAbout? id calls := by
  have sameCalls : about id (under (headingOf id) calls) = about id calls := by
    rw [about, under, List.filter_filter]
    apply List.filter_congr
    intro call _
    by_cases same : call.id = id
    · simp [same]
    · simp [same]
  exact congrArg List.getLast? sameCalls

theorem about_append (id : String) (first second : List HostCall) :
    about id (first ++ second) = about id first ++ about id second :=
  List.filter_append first second

theorem about_of_none {id : String} {calls : List HostCall}
    (other : ∀ call ∈ calls, call.id ≠ id) : about id calls = [] := by
  apply List.filter_eq_nil_iff.mpr
  intro call member
  simpa using other call member

/-- Later calls decide, if any of them is about the identity. -/
theorem lastAbout?_append (id : String) (first second : List HostCall) :
    lastAbout? id (first ++ second) =
      (lastAbout? id second).or (lastAbout? id first) := by
  rw [lastAbout?, about_append, List.getLast?_append]
  rfl

theorem lastAbout?_concat (id : String) (calls : List HostCall)
    (call : HostCall) :
    lastAbout? id (calls ++ [call]) =
      if call.id = id then some call else lastAbout? id calls := by
  rw [lastAbout?_append]
  split
  · next same => simp [lastAbout?, about, same]
  · next other => simp [lastAbout?, about, other]

section Perform

variable {σ : Type} [NotificationHost σ]

/-- The host after the call. -/
def perform (call : HostCall) (host : σ) : σ :=
  match call with
  | create id content => (NotificationHost.create id content host).2
  | clear id => (NotificationHost.clear id host).2

def performAll (calls : List HostCall) (host : σ) : σ :=
  calls.foldl (fun host call => call.perform host) host

theorem performAll_append (first second : List HostCall) (host : σ) :
    performAll (first ++ second) host =
      performAll second (performAll first host) :=
  List.foldl_append

theorem performAll_concat (calls : List HostCall) (call : HostCall)
    (host : σ) :
    performAll (calls ++ [call]) host = call.perform (performAll calls host) :=
  performAll_append calls [call] host

end Perform

end HostCall

open HostCall

/-! ## Hosts that keep a record -/

/-- A host that keeps a record of the calls to create and clear, in order,
those that failed too. -/
class RecordingHost (σ : Type) [NotificationHost σ] where
  calls : σ → List HostCall
  calls_create : ∀ id content host,
    calls (NotificationHost.create id content host).2 =
      calls host ++ [.create id content]
  calls_clear : ∀ id host,
    calls (NotificationHost.clear id host).2 = calls host ++ [.clear id]
  calls_visibleIds : ∀ host,
    calls (NotificationHost.visibleIds host).2 = calls host

namespace RecordingHost

variable {σ : Type} [NotificationHost σ] [RecordingHost σ]

theorem calls_performAll (done : List HostCall) (host : σ) :
    calls (performAll done host) = calls host ++ done := by
  induction done generalizing host with
  | nil => exact (List.append_nil _).symm
  | cons call done induction =>
      have first : calls (call.perform host) = calls host ++ [call] := by
        cases call with
        | create id content => exact calls_create id content host
        | clear id => exact calls_clear id host
      calc
        calls (performAll (call :: done) host) =
            calls (call.perform host) ++ done := induction _
        _ = calls host ++ (call :: done) := by simp [first]

end RecordingHost

namespace Screen

instance : RecordingHost Screen where
  calls := Screen.calls
  calls_create := calls_create
  calls_clear := calls_clear
  calls_visibleIds screen := by
    change (visibleIds screen).2.calls = screen.calls
    rw [visibleIds_snd]

end Screen

/-- A host of any kind with a record of its calls. -/
structure Recorded (σ : Type) where
  host : σ
  record : List HostCall := []

namespace Recorded

variable {σ : Type}

/-- The answer to a call, which goes on record. -/
def note {α : Type} (call : List HostCall) (answer : Outcome α × σ)
    (recorded : Recorded σ) : Outcome α × Recorded σ :=
  (answer.1, ⟨answer.2, recorded.record ++ call⟩)

variable [NotificationHost σ]

instance : NotificationHost (Recorded σ) where
  create id content recorded :=
    recorded.note [.create id content]
      (NotificationHost.create id content recorded.host)
  clear id recorded :=
    recorded.note [.clear id] (NotificationHost.clear id recorded.host)
  visibleIds recorded :=
    recorded.note [] (NotificationHost.visibleIds recorded.host)

instance : RecordingHost (Recorded σ) where
  calls := record
  calls_create _ _ _ := rfl
  calls_clear _ _ := rfl
  calls_visibleIds recorded := List.append_nil recorded.record

end Recorded

/-! ## The last call about an identity -/

/-- What a host that works shows once the calls are carried out. -/
theorem ReliableHost.shown_performAll {σ : Type} [NotificationHost σ]
    [ReliableHost σ] {host : σ} (works : Works host) (calls : List HostCall)
    (id : String) :
    Works (performAll calls host) ∧
      shown (performAll calls host) id =
        seenAfter (shown host id) (lastAbout? id calls) := by
  induction calls using List.reverseRecOn with
  | nil => exact ⟨works, rfl⟩
  | append_singleton calls call induction =>
      obtain ⟨stillWorks, shownSoFar⟩ := induction
      rw [performAll_concat, lastAbout?_concat]
      cases call with
      | create own content =>
          refine ⟨works_create stillWorks own content, ?_⟩
          change shown (NotificationHost.create own content _).2 id = _
          rw [shown_create stillWorks, shownSoFar]
          by_cases same : own = id
          · simp [same, HostCall.id, seenAfter]
          · simp [same, HostCall.id]
      | clear own =>
          refine ⟨works_clear stillWorks own, ?_⟩
          change shown (NotificationHost.clear own _).2 id = _
          rw [shown_clear stillWorks, shownSoFar]
          by_cases same : own = id
          · simp [same, HostCall.id, seenAfter]
          · simp [same, HostCall.id]

/-- A host of which one knows what is visible, and when it never fails to clear
what it is asked to clear.  Calls to create may fail on it. -/
class ErasingHost (σ : Type) [NotificationHost σ] where
  Visible : σ → String → Prop
  Erases : σ → Prop
  erases_create : ∀ {host : σ}, Erases host → ∀ id content,
    Erases (NotificationHost.create id content host).2
  erases_clear : ∀ {host : σ}, Erases host → ∀ id,
    Erases (NotificationHost.clear id host).2
  clear_done : ∀ {host : σ}, Erases host → ∀ id, ∃ visible,
    (NotificationHost.clear id host).1 = .done visible
  hidden_clear : ∀ {host : σ}, Erases host → ∀ id,
    ¬ Visible (NotificationHost.clear id host).2 id
  visible_create_of_ne : ∀ {host : σ}, Erases host → ∀ {own other : String},
    own ≠ other → ∀ content,
      (Visible (NotificationHost.create own content host).2 other ↔
        Visible host other)
  visible_clear_of_ne : ∀ {host : σ}, Erases host → ∀ {own other : String},
    own ≠ other →
      (Visible (NotificationHost.clear own host).2 other ↔ Visible host other)

/-- What is cleared last is not visible. -/
theorem ErasingHost.hidden_performAll {σ : Type} [NotificationHost σ]
    [ErasingHost σ] {host : σ} (erases : Erases host) (calls : List HostCall)
    (id : String) :
    Erases (performAll calls host) ∧
      (lastAbout? id calls = some (.clear id) →
        ¬ Visible (performAll calls host) id) := by
  induction calls using List.reverseRecOn with
  | nil => exact ⟨erases, by simp [lastAbout?, about]⟩
  | append_singleton calls call induction =>
      obtain ⟨stillErases, hidden⟩ := induction
      rw [performAll_concat, lastAbout?_concat]
      cases call with
      | create own content =>
          refine ⟨erases_create stillErases own content, ?_⟩
          change _ → ¬ Visible (NotificationHost.create own content _).2 id
          by_cases same : own = id
          · simp [same, HostCall.id]
          · rw [visible_create_of_ne stillErases same]
            simpa [same, HostCall.id] using hidden
      | clear own =>
          refine ⟨erases_clear stillErases own, ?_⟩
          change _ → ¬ Visible (NotificationHost.clear own _).2 id
          by_cases same : own = id
          · subst own
            exact fun _ => hidden_clear stillErases id
          · rw [visible_clear_of_ne stillErases same]
            simpa [same, HostCall.id] using hidden

namespace Screen

instance : ErasingHost Screen where
  Visible screen id := screen.shown.find? id ≠ none
  Erases screen := screen.faults.clear = none
  erases_create {screen} clears id content := by
    change (create id content screen).2.faults.clear = none
    rw [faults_create]
    exact clears
  erases_clear {screen} clears id := by
    change (clear id screen).2.faults.clear = none
    rw [faults_clear]
    exact clears
  clear_done {screen} clears id := by
    refine ⟨screen.shown.contains id, ?_⟩
    change (clear id screen).1 = _
    simp [clear, clears]
  hidden_clear {screen} clears id := by
    change ¬ (clear id screen).2.shown.find? id ≠ none
    simp [clear, clears]
  visible_create_of_ne {screen} _ own other different content := by
    change (create own content screen).2.shown.find? other ≠ none ↔ _
    rw [find?_create_of_ne content screen different]
  visible_clear_of_ne {screen} _ own other different := by
    change (clear own screen).2.shown.find? other ≠ none ↔ _
    rw [find?_clear_of_ne screen different]

end Screen

end RemovableMedia
