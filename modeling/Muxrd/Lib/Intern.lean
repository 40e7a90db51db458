import Mathlib.Data.List.AList

set_option autoImplicit false

namespace Interning

/-- A machine counter: `next` is a checked increment, `rank` the number a value stands for. -/
structure Counter (Id : Type) where
  rank : Id -> Nat
  next : Id -> Option Id
  next_rank : ∀ id after, next id = some after -> rank after = rank id + 1

/-- What is known of a key: the entry it starts with, and how a later sighting changes its entry. -/
structure Sighting {Key Entry : Type} (keyOf : Entry -> Key) (key : Key) where
  entry : Entry
  update : Entry -> Entry
  key_entry : keyOf entry = key
  key_update : ∀ old, keyOf (update old) = keyOf old
  -- The entry does not depend on whether the key was seen before.
  settles : ∀ old, keyOf old = key -> update old = entry

variable {Key Id Entry : Type} [DecidableEq Key] [DecidableEq Id]

/-- A table that gives each key an id the first time it is seen and never takes one back. Once the
counter is exhausted the last id is given out again and again. -/
structure Table (counter : Counter Id) (keyOf : Entry -> Key) where
  nextId : Id
  byKey : AList (fun _ : Key => Id)
  byId : AList (fun _ : Id => Entry)
  below : ∀ key id, byKey.lookup key = some id ->
    counter.rank id < counter.rank nextId ∨ counter.next nextId = none
  owned : ∀ key id, byKey.lookup key = some id -> counter.rank id < counter.rank nextId ->
    ∃ entry, byId.lookup id = some entry ∧ keyOf entry = key

namespace Table

variable {counter : Counter Id} {keyOf : Entry -> Key}

def empty (firstId : Id) : Table counter keyOf :=
  { nextId := firstId
    byKey := ∅
    byId := ∅
    below := by simp
    owned := by simp }

def refresh (table : Table counter keyOf) (id : Id) {key : Key} (seen : Sighting keyOf key) :
    Table counter keyOf :=
  { table with
    byId :=
      match table.byId.lookup id with
      | some old => table.byId.insert id (seen.update old)
      | none => table.byId
    owned := by
      intro other otherId found low
      obtain ⟨entry, present, own⟩ := table.owned other otherId found low
      by_cases shared : otherId = id
      · subst shared
        exact ⟨seen.update entry, by simp [present], (seen.key_update entry).trans own⟩
      · refine ⟨entry, ?_, own⟩
        cases table.byId.lookup id <;> simp [AList.lookup_insert_ne shared, present] }

def enroll (table : Table counter keyOf) {key : Key} (seen : Sighting keyOf key) : Table counter keyOf :=
  { nextId := (counter.next table.nextId).getD table.nextId
    byKey := table.byKey.insert key table.nextId
    byId := table.byId.insert table.nextId seen.entry
    below := by
      intro other id found
      cases step : counter.next table.nextId with
      | none => exact .inr (by simp [step])
      | some after =>
        have rank := counter.next_rank _ _ step
        by_cases shared : other = key
        · subst shared
          obtain rfl : table.nextId = id := by simpa using found
          exact .inl (by simp [rank])
        · rw [AList.lookup_insert_ne shared] at found
          rcases table.below other id found with low | exhausted
          · exact .inl (by simp only [Option.getD_some]; omega)
          · simp [exhausted] at step
    owned := by
      intro other id found low
      by_cases shared : other = key
      · subst shared
        obtain rfl : table.nextId = id := by simpa using found
        exact ⟨seen.entry, AList.lookup_insert _, seen.key_entry⟩
      · rw [AList.lookup_insert_ne shared] at found
        have older : counter.rank id < counter.rank table.nextId := by
          cases step : counter.next table.nextId with
          | none => simpa [step] using low
          | some after =>
            rcases table.below other id found with older | exhausted
            · exact older
            · simp [exhausted] at step
        have apart : id ≠ table.nextId := by
          intro equal
          rw [equal] at older
          omega
        rw [AList.lookup_insert_ne apart]
        exact table.owned other id found older }

def assignOrGet (table : Table counter keyOf) {key : Key} (seen : Sighting keyOf key) :
    Id × Table counter keyOf :=
  match table.byKey.lookup key with
  | some id => (id, table.refresh id seen)
  | none => (table.nextId, table.enroll seen)

variable (table : Table counter keyOf) {key : Key} (seen : Sighting keyOf key)

theorem assignOrGet_known {id : Id} (known : table.byKey.lookup key = some id) :
    (table.assignOrGet seen).1 = id := by
  simp [assignOrGet, known]

theorem lookup_assigned :
    (table.assignOrGet seen).2.byKey.lookup key = some (table.assignOrGet seen).1 := by
  unfold assignOrGet
  cases known : table.byKey.lookup key with
  | some id => simpa [refresh] using known
  | none => simp [enroll]

theorem lookup_stable {other : Key} {id : Id} (known : table.byKey.lookup other = some id) :
    (table.assignOrGet seen).2.byKey.lookup other = some id := by
  unfold assignOrGet
  cases found : table.byKey.lookup key with
  | some taken => simpa [refresh] using known
  | none =>
    have apart : other ≠ key := by
      intro equal
      rw [equal, found] at known
      contradiction
    simpa [enroll, AList.lookup_insert_ne apart] using known

theorem rank_nextId :
    counter.rank table.nextId ≤ counter.rank (table.assignOrGet seen).2.nextId ∧
      counter.rank (table.assignOrGet seen).2.nextId ≤ counter.rank table.nextId + 1 := by
  unfold assignOrGet
  cases table.byKey.lookup key with
  | some id => simp [refresh]
  | none =>
    cases step : counter.next table.nextId with
    | none => simp [enroll, step]
    | some after => simp [enroll, step, counter.next_rank _ _ step]

theorem key_unique {first second : Key} {id : Id} (left : table.byKey.lookup first = some id)
    (right : table.byKey.lookup second = some id) (low : counter.rank id < counter.rank table.nextId) :
    first = second := by
  obtain ⟨leftEntry, leftFound, leftKey⟩ := table.owned first id left low
  obtain ⟨rightEntry, rightFound, rightKey⟩ := table.owned second id right low
  have same : leftEntry = rightEntry := Option.some.inj (leftFound.symm.trans rightFound)
  rw [← leftKey, ← rightKey, same]

theorem entry_settled (low : ∀ id, table.byKey.lookup key = some id -> counter.rank id < counter.rank table.nextId) :
    (table.assignOrGet seen).2.byId.lookup (table.assignOrGet seen).1 = some seen.entry := by
  unfold assignOrGet
  cases known : table.byKey.lookup key with
  | none => simp [enroll]
  | some id =>
    obtain ⟨old, found, own⟩ := table.owned key id known (low id known)
    simp [refresh, found, seen.settles old own]

theorem entry_assigned (room : counter.next table.nextId ≠ none) :
    (table.assignOrGet seen).2.byId.lookup (table.assignOrGet seen).1 = some seen.entry := by
  apply table.entry_settled seen
  intro id known
  exact (table.below key id known).resolve_right room

theorem entry_other {id : Id} (apart : id ≠ (table.assignOrGet seen).1) :
    (table.assignOrGet seen).2.byId.lookup id = table.byId.lookup id := by
  revert apart
  unfold assignOrGet
  cases known : table.byKey.lookup key with
  | none =>
    intro apart
    simpa [enroll] using AList.lookup_insert_ne apart
  | some taken =>
    intro apart
    cases found : table.byId.lookup taken with
    | none => simp [refresh, found]
    | some old => simpa [refresh, found] using AList.lookup_insert_ne apart

end Table

end Interning
