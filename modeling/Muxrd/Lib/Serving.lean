import Mathlib.Data.Finset.Card
import Mathlib.Data.Finset.Dedup
import Muxrd.Lib.FirstSeen

set_option autoImplicit false

namespace Interning

variable {Key Id Entry : Type}

def Counter.Spare (counter : Counter Id) : Nat -> Id -> Prop
  | 0, _ => True
  | more + 1, id => ∃ after, counter.next id = some after ∧ counter.Spare more after

theorem Counter.Spare.fewer {counter : Counter Id} {more fewer : Nat} {id : Id} (spare : counter.Spare more id)
    (less : fewer ≤ more) : counter.Spare fewer id := by
  induction fewer generalizing more id with
  | zero => trivial
  | succ fewer ih =>
    obtain ⟨more, rfl⟩ : ∃ rest, more = rest + 1 := ⟨more - 1, by omega⟩
    obtain ⟨after, advanced, spare⟩ := spare
    exact ⟨after, advanced, ih spare (by omega)⟩

variable [DecidableEq Key] [DecidableEq Id]

omit [DecidableEq Id] in
theorem latest_cons {keyOf : Entry -> Key} (call : Call keyOf) (rest : List (Call keyOf)) (key : Key) :
    latest (call :: rest) key = (latest rest key).or (if call.1 = key then some call.2.entry else none) := by
  induction rest using List.reverseRecOn with
  | nil => by_cases same : call.1 = key <;> simp [latest, same]
  | append_singleton rest last ih =>
    rw [← List.cons_append, latest_snoc, latest_snoc, ih]
    by_cases same : last.1 = key <;> simp [same]

omit [DecidableEq Id] in
theorem latest_of_agreeing {keyOf : Entry -> Key} {calls : List (Call keyOf)} {key : Key} {entry : Entry}
    (asked : key ∈ keysOf calls) (agree : ∀ call ∈ calls, call.1 = key -> call.2.entry = entry) :
    latest calls key = some entry := by
  obtain ⟨call, member, same⟩ := List.mem_map.mp asked
  have hit : (calls.reverse.find? fun call => call.1 = key).isSome :=
    List.find?_isSome.mpr ⟨call, List.mem_reverse.mpr member, decide_eq_true same⟩
  obtain ⟨last, here⟩ := Option.isSome_iff_exists.mp hit
  have own : last.1 = key := by simpa using List.find?_some here
  rw [latest, here, Option.map_some, agree last (List.mem_reverse.mp (List.mem_of_find?_eq_some here)) own]

variable {counter : Counter Id} {keyOf : Entry -> Key}

namespace Table

def unknown (table : Table counter keyOf) (keys : List Key) : Finset Key :=
  keys.toFinset.filter fun key => table.byKey.lookup key = none

theorem mem_unknown {table : Table counter keyOf} {keys : List Key} {key : Key} :
    key ∈ table.unknown keys ↔ key ∈ keys ∧ table.byKey.lookup key = none := by
  simp [unknown]

structure BelowExhaustion (table : Table counter keyOf) (keys : List Key) : Prop where
  low : ∀ key id, table.byKey.lookup key = some id -> counter.rank id < counter.rank table.nextId
  room : counter.Spare (table.unknown keys).card table.nextId

def entryOf (table : Table counter keyOf) (key : Key) : Option Entry :=
  (table.byKey.lookup key).bind table.byId.lookup

section Assigned

variable {table : Table counter keyOf} {key other : Key} {keys : List Key} (seen : Sighting keyOf key)

theorem lookup_other (apart : other ≠ key) :
    (table.assignOrGet seen).2.byKey.lookup other = table.byKey.lookup other := by
  unfold assignOrGet
  cases table.byKey.lookup key with
  | some id => rfl
  | none => exact AList.lookup_insert_ne apart

theorem BelowExhaustion.assigned (below : table.BelowExhaustion (key :: keys)) :
    (table.assignOrGet seen).2.BelowExhaustion keys := by
  cases known : table.byKey.lookup key with
  | some id =>
    have same : (table.assignOrGet seen).2 = table.refresh id seen := by simp [assignOrGet, known]
    have fewer : (table.refresh id seen).unknown keys ⊆ table.unknown (key :: keys) := by
      intro other member
      obtain ⟨asked, new⟩ := mem_unknown.mp member
      exact mem_unknown.mpr ⟨List.mem_cons_of_mem _ asked, new⟩
    rw [same]
    exact { low := below.low, room := below.room.fewer (Finset.card_le_card fewer) }
  | none =>
    have same : (table.assignOrGet seen).2 = table.enroll seen := by simp [assignOrGet, known]
    have first : key ∈ table.unknown (key :: keys) := mem_unknown.mpr ⟨List.mem_cons_self, known⟩
    have fewer : (table.enroll seen).unknown keys ⊆ (table.unknown (key :: keys)).erase key := by
      intro other member
      obtain ⟨asked, new⟩ := mem_unknown.mp member
      have apart : other ≠ key := by
        rintro rfl
        simp [enroll] at new
      rw [enroll, AList.lookup_insert_ne apart] at new
      exact Finset.mem_erase.mpr ⟨apart, mem_unknown.mpr ⟨List.mem_cons_of_mem _ asked, new⟩⟩
    have counted := Finset.card_erase_add_one first
    have room := below.room
    rw [← counted] at room
    obtain ⟨after, advanced, spare⟩ := room
    have rank := counter.next_rank _ _ advanced
    have next : (table.enroll seen).nextId = after := by simp [enroll, advanced]
    rw [same]
    constructor
    · intro other id found
      rw [next, rank]
      by_cases own : other = key
      · rw [own, enroll, AList.lookup_insert] at found
        rw [← Option.some.inj found]
        omega
      · rw [enroll, AList.lookup_insert_ne own] at found
        have low := below.low other id found
        omega
    · rw [next]
      exact spare.fewer (Finset.card_le_card fewer)

theorem entryOf_assigned (below : table.BelowExhaustion (key :: keys)) (other : Key) :
    (table.assignOrGet seen).2.entryOf other = if other = key then some seen.entry else table.entryOf other := by
  split_ifs with same
  · rw [same, entryOf, lookup_assigned, Option.bind_some]
    exact table.entry_settled seen (below.low key)
  · rw [entryOf, lookup_other seen same]
    cases found : table.byKey.lookup other with
    | none => simp [entryOf, found]
    | some id =>
      have apart : id ≠ (table.assignOrGet seen).1 := by
        rintro rfl
        have shared : (table.assignOrGet seen).2.byKey.lookup other = some (table.assignOrGet seen).1 := by
          rw [lookup_other seen same, found]
        have low := (below.assigned seen).low other _ shared
        exact same (key_unique _ shared (lookup_assigned _ seen) low)
      simp [entryOf, found, entry_other table seen apart]

end Assigned

theorem belowExhaustion_empty {firstId : Id} {keys : List Key} (spare : counter.Spare keys.length firstId) :
    (Table.empty firstId : Table counter keyOf).BelowExhaustion keys := by
  have few : ((Table.empty firstId : Table counter keyOf).unknown keys).card ≤ keys.length :=
    (Finset.card_filter_le _ _).trans (List.toFinset_card_le keys)
  exact { low := by simp [empty], room := spare.fewer few }

section Served

variable {table : Table counter keyOf} {calls : List (Call keyOf)}

theorem entryOf_serve (below : table.BelowExhaustion (keysOf calls)) (key : Key) :
    (table.serve calls).entryOf key = (latest calls key).or (table.entryOf key) := by
  induction calls generalizing table with
  | nil => simp [latest]
  | cons call rest ih =>
    have served : (table.assignOrGet call.2).2.serve rest = table.serve (call :: rest) := rfl
    rw [← served, ih (below.assigned call.2), entryOf_assigned call.2 below, latest_cons, Option.or_assoc]
    by_cases same : call.1 = key
    · simp [same]
    · simp [same, Ne.symm same]

theorem BelowExhaustion.served (below : table.BelowExhaustion (keysOf calls)) :
    (table.serve calls).BelowExhaustion [] := by
  induction calls generalizing table with
  | nil => exact below
  | cons call rest ih => exact ih (below.assigned call.2)

theorem lookup_served (table : Table counter keyOf) {key : Key} (asked : key ∈ keysOf calls) :
    ∃ id, (table.serve calls).byKey.lookup key = some id := by
  rw [← grants_keys table calls] at asked
  obtain ⟨grant, member, rfl⟩ := List.mem_map.mp asked
  exact ⟨grant.2, lookup_granted table calls member⟩

theorem BelowExhaustion.entry {keys : List Key} (below : table.BelowExhaustion keys) {key : Key} {id : Id}
    (known : table.byKey.lookup key = some id) :
    ∃ entry, table.byId.lookup id = some entry ∧ keyOf entry = key :=
  table.owned key id known (below.low key id known)

end Served

end Table

end Interning
