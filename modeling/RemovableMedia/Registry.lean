/-!
# Registries

A registry holds at most one value for each key.  Everything the handler
remembers by name is kept in one: the mount status of a device, the server
number of a notification, the content a host shows.  `find?` is the view
through which registries are compared; the order of entries is of no account.
-/

namespace RemovableMedia

/-- Values under keys, with one value for each key. -/
structure Registry (κ α : Type) where
  entries : List (κ × α) := []
  distinct : (entries.map Prod.fst).Nodup := by simp

namespace Registry

variable {κ α : Type}

def empty : Registry κ α := {}

instance : Inhabited (Registry κ α) := ⟨empty⟩

instance : EmptyCollection (Registry κ α) := ⟨empty⟩

/-- The keys that have a value. -/
def keys (registry : Registry κ α) : List κ :=
  registry.entries.map Prod.fst

def size (registry : Registry κ α) : Nat :=
  registry.entries.length

/-- Keeps the entries whose value passes the test. -/
def filterValues (keep : α → Bool) (registry : Registry κ α) :
    Registry κ α where
  entries := registry.entries.filter fun entry => keep entry.2
  distinct :=
    registry.distinct.sublist ((List.filter_sublist).map Prod.fst)

/-- Some key that has this value. -/
def keyOf? [DecidableEq α] (registry : Registry κ α) (value : α) :
    Option κ :=
  (registry.entries.find? fun entry => entry.2 = value).map Prod.fst

variable [DecidableEq κ]

def find? (registry : Registry κ α) (key : κ) : Option α :=
  (registry.entries.find? fun entry => entry.1 = key).map Prod.snd

/-- Removes a key with its value. -/
def erase (registry : Registry κ α) (key : κ) : Registry κ α where
  entries := registry.entries.filter fun entry => entry.1 ≠ key
  distinct :=
    registry.distinct.sublist ((List.filter_sublist).map Prod.fst)

private theorem key_not_mem_erase (registry : Registry κ α) (key : κ) :
    key ∉ (registry.erase key).entries.map Prod.fst := by
  simp [erase]

/-- Gives the key this value, in place of the one it may have had. -/
def insert (registry : Registry κ α) (key : κ) (value : α) :
    Registry κ α where
  entries := (key, value) :: (registry.erase key).entries
  distinct := by
    have fresh := key_not_mem_erase registry key
    have others := (registry.erase key).distinct
    simpa using ⟨by simpa using fresh, by simpa using others⟩

def contains (registry : Registry κ α) (key : κ) : Bool :=
  (registry.find? key).isSome

@[simp] theorem find?_empty (key : κ) :
    (empty : Registry κ α).find? key = none := rfl

@[simp] theorem find?_insert_self (registry : Registry κ α) (key : κ)
    (value : α) : (registry.insert key value).find? key = some value := by
  simp [find?, insert]

@[simp] theorem find?_erase_self (registry : Registry κ α) (key : κ) :
    (registry.erase key).find? key = none := by
  simp [find?, erase]

theorem find?_erase_of_ne (registry : Registry κ α) {key other : κ}
    (different : other ≠ key) :
    (registry.erase key).find? other = registry.find? other := by
  simp only [find?, erase]
  congr 1
  induction registry.entries with
  | nil => rfl
  | cons entry entries induction =>
      by_cases same : entry.1 = key
      · have skipped : entry.1 ≠ other := fun equality =>
          different (equality.symm.trans same)
        simpa [same, skipped, List.find?_cons, different.symm] using induction
      · by_cases found : entry.1 = other
        · simp [found, different]
        · simpa [same, found] using induction

theorem find?_insert_of_ne (registry : Registry κ α) {key other : κ}
    (value : α) (different : other ≠ key) :
    (registry.insert key value).find? other = registry.find? other := by
  have skipped : key ≠ other := fun equality => different equality.symm
  rw [← registry.find?_erase_of_ne different]
  simp [find?, insert, skipped]

end Registry

end RemovableMedia
