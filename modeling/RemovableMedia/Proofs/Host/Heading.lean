import RemovableMedia.Proofs.Host.Screen

/-!
# Screens seen under one heading

What a screen shows under identities with one heading, and the calls about
them, is a part of the screen of its own: calls about other identities leave it
alone, and what a call does to it depends on nothing else but the faults.
-/

namespace RemovableMedia.Screen

/-- The screens have the same faults, and under the heading they show the same
and got the same calls. -/
structure AgreeUnder (heading : String) (left right : Screen) : Prop where
  faults : left.faults = right.faults
  shown : ∀ id, headingOf id = heading →
    left.shown.find? id = right.shown.find? id
  calls : left.callsUnder heading = right.callsUnder heading

/-- The screens show the same and got the same calls, in the same order under
each heading. -/
structure Agree (left right : Screen) : Prop where
  shown : ∀ id, left.shown.find? id = right.shown.find? id
  calls : ∀ heading, left.callsUnder heading = right.callsUnder heading

theorem agree_of_headings {left right : Screen}
    (under : ∀ heading, AgreeUnder heading left right) : Agree left right where
  shown id := (under (headingOf id)).shown id rfl
  calls heading := (under heading).calls

namespace AgreeUnder

variable {heading : String} {left middle right : Screen}

theorem refl (heading : String) (screen : Screen) :
    AgreeUnder heading screen screen := ⟨rfl, fun _ _ => rfl, rfl⟩

theorem symm (agree : AgreeUnder heading left right) :
    AgreeUnder heading right left where
  faults := agree.faults.symm
  shown id under := (agree.shown id under).symm
  calls := agree.calls.symm

theorem trans (first : AgreeUnder heading left middle)
    (second : AgreeUnder heading middle right) :
    AgreeUnder heading left right where
  faults := first.faults.trans second.faults
  shown id under := (first.shown id under).trans (second.shown id under)
  calls := first.calls.trans second.calls

/-! The same call, carried out on both. -/

theorem create (agree : AgreeUnder heading left right) (id : String)
    (content : NotificationContent) :
    AgreeUnder heading (left.create id content).2
      (right.create id content).2 := by
  refine ⟨by simp [agree.faults], ?_, ?_⟩
  · intro other under
    have same := agree.shown other under
    unfold Screen.create
    rw [agree.faults]
    cases right.faults.create with
    | some fault => exact same
    | none => simp only [Registry.find?_insert, same]
  · have calls := agree.calls
    unfold callsUnder at calls ⊢
    simp [List.filter_append, calls]

theorem clear (agree : AgreeUnder heading left right) (id : String) :
    AgreeUnder heading (left.clear id).2 (right.clear id).2 := by
  refine ⟨by simp [agree.faults], ?_, ?_⟩
  · intro other under
    have same := agree.shown other under
    unfold Screen.clear
    rw [agree.faults]
    cases right.faults.clear with
    | some fault => exact same
    | none => simp only [Registry.find?_erase, same]
  · have calls := agree.calls
    unfold callsUnder at calls ⊢
    simp [List.filter_append, calls]

/-- A query fails on both alike or tells the same under the heading. -/
theorem visibleIds (agree : AgreeUnder heading left right) :
    AgreeUnder heading left.visibleIds.2 right.visibleIds.2 ∧
      (left.visibleIds.1 = right.visibleIds.1 ∨
        ∃ leftIds rightIds, left.visibleIds.1 = .done leftIds ∧
          right.visibleIds.1 = .done rightIds ∧
          ∀ id, headingOf id = heading → (id ∈ leftIds ↔ id ∈ rightIds)) := by
  unfold Screen.visibleIds
  rw [agree.faults]
  cases right.faults.visibleIds with
  | some fault =>
      exact ⟨⟨rfl, agree.shown, agree.calls⟩, .inl rfl⟩
  | none =>
      refine ⟨⟨rfl, agree.shown, agree.calls⟩,
        .inr ⟨_, _, rfl, rfl, ?_⟩⟩
      intro id under
      rw [Registry.mem_keys_iff, Registry.mem_keys_iff, agree.shown id under]

/-! A call about an identity with another heading. -/

theorem create_of_ne (screen : Screen) {id : String}
    (other : headingOf id ≠ heading) (content : NotificationContent) :
    AgreeUnder heading (screen.create id content).2 screen := by
  refine ⟨faults_create id content screen, ?_, ?_⟩
  · intro own under
    have different : id ≠ own := by
      rintro rfl
      exact other under
    exact find?_create_of_ne content screen different
  · simp [callsUnder, List.filter_append, HostCall.id, other]

theorem clear_of_ne (screen : Screen) {id : String}
    (other : headingOf id ≠ heading) :
    AgreeUnder heading (screen.clear id).2 screen := by
  refine ⟨faults_clear id screen, ?_, ?_⟩
  · intro own under
    have different : id ≠ own := by
      rintro rfl
      exact other under
    exact find?_clear_of_ne screen different
  · simp [callsUnder, List.filter_append, HostCall.id, other]

theorem visibleIds_self (heading : String) (screen : Screen) :
    AgreeUnder heading screen.visibleIds.2 screen := by
  rw [visibleIds_snd]
  exact ⟨rfl, fun _ _ => rfl, rfl⟩

end AgreeUnder

end RemovableMedia.Screen
