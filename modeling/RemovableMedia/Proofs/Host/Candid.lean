import RemovableMedia.Proofs.Host.Calls

/-!
# Candid hosts

A candid host tells truly what is visible, and what is visible under an identity
changes only by calls about that identity.  Calls to create or clear may fail on
it, and keeping a record of the calls does not matter.
-/

namespace RemovableMedia

/-- A host of which one knows what is visible, and when it tells so. -/
class CandidHost (σ : Type) [NotificationHost σ] where
  Visible : σ → String → Prop
  Candid : σ → Prop
  candid_create : ∀ {host : σ}, Candid host → ∀ id content,
    Candid (NotificationHost.create id content host).2
  candid_clear : ∀ {host : σ}, Candid host → ∀ id,
    Candid (NotificationHost.clear id host).2
  candid_visibleIds : ∀ {host : σ}, Candid host →
    Candid (NotificationHost.visibleIds host).2
  visibleIds_done : ∀ {host : σ}, Candid host → ∃ ids,
    (NotificationHost.visibleIds host).1 = .done ids ∧
      ∀ id, id ∈ ids ↔ Visible host id
  visible_visibleIds : ∀ {host : σ}, Candid host → ∀ id,
    Visible (NotificationHost.visibleIds host).2 id ↔ Visible host id
  visible_create_of_ne : ∀ {host : σ}, Candid host → ∀ {own other : String},
    own ≠ other → ∀ content,
      (Visible (NotificationHost.create own content host).2 other ↔
        Visible host other)
  visible_clear_of_ne : ∀ {host : σ}, Candid host → ∀ {own other : String},
    own ≠ other →
      (Visible (NotificationHost.clear own host).2 other ↔ Visible host other)
  visible_create : ∀ {host : σ}, Candid host → ∀ {id content},
    (NotificationHost.create id content host).1 = .done () →
      Visible (NotificationHost.create id content host).2 id

namespace Screen

instance : CandidHost Screen where
  Visible screen id := screen.shown.find? id ≠ none
  Candid screen := screen.faults.visibleIds = none
  candid_create {screen} told id content := by
    change (create id content screen).2.faults.visibleIds = none
    rw [faults_create]
    exact told
  candid_clear {screen} told id := by
    change (clear id screen).2.faults.visibleIds = none
    rw [faults_clear]
    exact told
  candid_visibleIds {screen} told := by
    change (visibleIds screen).2.faults.visibleIds = none
    rw [visibleIds_snd]
    exact told
  visibleIds_done {screen} told := by
    refine ⟨screen.shown.keys, ?_, Registry.mem_keys_iff _⟩
    change (visibleIds screen).1 = _
    simp [visibleIds, told]
  visible_visibleIds {screen} told id := by
    change (visibleIds screen).2.shown.find? id ≠ none ↔ _
    rw [visibleIds_snd]
  visible_create_of_ne {screen} _ own other different content := by
    change (create own content screen).2.shown.find? other ≠ none ↔ _
    rw [find?_create_of_ne content screen different]
  visible_clear_of_ne {screen} _ own other different := by
    change (clear own screen).2.shown.find? other ≠ none ↔ _
    rw [find?_clear_of_ne screen different]
  visible_create {screen} _ id content created := by
    change (create id content screen).1 = .done () at created
    change (create id content screen).2.shown.find? id ≠ none
    unfold create at created ⊢
    cases faulty : screen.faults.create with
    | some fault =>
        rw [faulty] at created
        cases fault with
        | failure error => exact absurd created (by simp [Fault.outcome])
        | panic => exact absurd created (by simp [Fault.outcome])
    | none => simp

end Screen

instance Recorded.candidHost {σ : Type} [NotificationHost σ] [CandidHost σ] :
    CandidHost (Recorded σ) where
  Visible recorded := CandidHost.Visible recorded.host
  Candid recorded := CandidHost.Candid recorded.host
  candid_create candid := CandidHost.candid_create candid
  candid_clear candid := CandidHost.candid_clear candid
  candid_visibleIds candid := CandidHost.candid_visibleIds candid
  visibleIds_done candid := CandidHost.visibleIds_done candid
  visible_visibleIds candid := CandidHost.visible_visibleIds candid
  visible_create_of_ne candid _ _ := CandidHost.visible_create_of_ne candid
  visible_clear_of_ne candid _ _ := CandidHost.visible_clear_of_ne candid
  visible_create candid _ _ := CandidHost.visible_create candid

end RemovableMedia
