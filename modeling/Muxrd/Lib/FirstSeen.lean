import Mathlib.Data.List.Dedup
import Mathlib.Data.List.Induction
import Muxrd.Lib.Intern

set_option autoImplicit false

namespace Interning

variable {Key Id Entry : Type} [DecidableEq Key] [DecidableEq Id]

def firstSeen (keys : List Key) : List Key :=
  keys.reverse.dedup.reverse

@[simp] theorem firstSeen_nil : firstSeen ([] : List Key) = [] := rfl

theorem mem_firstSeen {keys : List Key} {key : Key} : key ∈ firstSeen keys ↔ key ∈ keys := by
  simp [firstSeen]

theorem firstSeen_again {keys : List Key} {key : Key} (seen : key ∈ keys) :
    firstSeen (keys ++ [key]) = firstSeen keys := by
  have before : key ∈ keys.reverse := List.mem_reverse.mpr seen
  simp only [firstSeen, List.reverse_append, List.reverse_singleton, List.singleton_append]
  rw [List.dedup_cons_of_mem before]

theorem firstSeen_new {keys : List Key} {key : Key} (new : key ∉ keys) :
    firstSeen (keys ++ [key]) = firstSeen keys ++ [key] := by
  have before : key ∉ keys.reverse := fun seen => new (List.mem_reverse.mp seen)
  simp only [firstSeen, List.reverse_append, List.reverse_singleton, List.singleton_append]
  rw [List.dedup_cons_of_notMem before, List.reverse_cons]

theorem firstSeen_length (keys : List Key) : (firstSeen keys).length = keys.dedup.length := by
  rw [firstSeen, List.length_reverse]
  exact (List.Perm.dedup (List.reverse_perm keys)).length_eq

theorem firstSeen_append_length (before after : List Key) :
    (firstSeen before).length ≤ (firstSeen (before ++ after)).length := by
  induction after using List.reverseRecOn with
  | nil => simp
  | append_singleton rest last ih =>
    rw [← List.append_assoc]
    by_cases seen : last ∈ before ++ rest
    · rw [firstSeen_again seen]
      exact ih
    · rw [firstSeen_new seen, List.length_append]
      omega

variable {counter : Counter Id} {keyOf : Entry -> Key}

abbrev Call (keyOf : Entry -> Key) := Sigma fun key : Key => Sighting keyOf key

def keysOf (calls : List (Call keyOf)) : List Key :=
  calls.map (·.1)

def latest (calls : List (Call keyOf)) (key : Key) : Option Entry :=
  (calls.reverse.find? fun call => call.1 = key).map (·.2.entry)

def Table.serve (table : Table counter keyOf) (calls : List (Call keyOf)) : Table counter keyOf :=
  calls.foldl (fun table call => (table.assignOrGet call.2).2) table

omit [DecidableEq Key] in
@[simp] theorem keysOf_append (first second : List (Call keyOf)) :
    keysOf (first ++ second) = keysOf first ++ keysOf second :=
  List.map_append

omit [DecidableEq Key] in
theorem keysOf_snoc (calls : List (Call keyOf)) (call : Call keyOf) :
    keysOf (calls ++ [call]) = keysOf calls ++ [call.1] :=
  keysOf_append calls [call]

theorem latest_snoc (calls : List (Call keyOf)) (call : Call keyOf) (key : Key) :
    latest (calls ++ [call]) key = if call.1 = key then some call.2.entry else latest calls key := by
  simp only [latest, List.reverse_append, List.reverse_singleton, List.singleton_append, List.find?_cons]
  by_cases same : call.1 = key <;> simp [same]

theorem latest_keyOf {calls : List (Call keyOf)} {key : Key} {entry : Entry} (found : latest calls key = some entry) :
    keyOf entry = key := by
  obtain ⟨call, first, rfl⟩ := Option.map_eq_some_iff.mp found
  have same : call.1 = key := by simpa using List.find?_some first
  rw [call.2.key_entry, same]

theorem latest_split (before after : List (Call keyOf)) (call : Call keyOf) (last : call.1 ∉ keysOf after) :
    latest (before ++ call :: after) call.1 = some call.2.entry := by
  induction after using List.reverseRecOn with
  | nil => simp [latest_snoc]
  | append_singleton rest other ih =>
    rw [keysOf_snoc, List.mem_append, not_or, List.mem_singleton] at last
    rw [← List.cons_append, ← List.append_assoc, latest_snoc, if_neg (Ne.symm last.2)]
    exact ih last.1

theorem latest_isSome {calls : List (Call keyOf)} {key : Key} (seen : key ∈ keysOf calls) :
    ∃ entry, latest calls key = some entry := by
  obtain ⟨call, member, same⟩ := List.mem_map.mp seen
  have hit : (calls.reverse.find? fun call => call.1 = key).isSome :=
    List.find?_isSome.mpr ⟨call, List.mem_reverse.mpr member, decide_eq_true same⟩
  obtain ⟨found, here⟩ := Option.isSome_iff_exists.mp hit
  exact ⟨found.2.entry, by simp [latest, here]⟩

namespace Table

def grants (table : Table counter keyOf) : List (Call keyOf) -> List (Key × Id)
  | [] => []
  | call :: rest => (call.1, (table.assignOrGet call.2).1) :: grants (table.assignOrGet call.2).2 rest

theorem lookup_serve (table : Table counter keyOf) (calls : List (Call keyOf)) {key : Key} {id : Id}
    (known : table.byKey.lookup key = some id) : (table.serve calls).byKey.lookup key = some id := by
  induction calls generalizing table with
  | nil => exact known
  | cons call rest ih => exact ih _ (table.lookup_stable call.2 known)

theorem lookup_granted (table : Table counter keyOf) (calls : List (Call keyOf)) {key : Key} {id : Id}
    (granted : (key, id) ∈ table.grants calls) : (table.serve calls).byKey.lookup key = some id := by
  induction calls generalizing table with
  | nil => simp [grants] at granted
  | cons call rest ih =>
    rcases List.mem_cons.mp granted with here | later
    · obtain ⟨rfl, rfl⟩ := Prod.mk.inj here
      exact lookup_serve _ rest (table.lookup_assigned call.2)
    · exact ih _ later

theorem grants_keys (table : Table counter keyOf) (calls : List (Call keyOf)) :
    (table.grants calls).map (·.1) = keysOf calls := by
  induction calls generalizing table with
  | nil => rfl
  | cons call rest ih => simp [grants, ih, keysOf]

@[simp] theorem serve_nil (table : Table counter keyOf) : table.serve [] = table := rfl

theorem serve_append (table : Table counter keyOf) (first second : List (Call keyOf)) :
    table.serve (first ++ second) = (table.serve first).serve second :=
  List.foldl_append

end Table

/-- What a table holds after the calls: the keys are numbered in the order they were first seen in, and each
id has the entry the last call for its key left. -/
structure Records (firstId : Id) (calls : List (Call keyOf)) (table : Table counter keyOf) : Prop where
  given : ∀ key ∈ keysOf calls, ∃ id, table.byKey.lookup key = some id
  known : ∀ key id, table.byKey.lookup key = some id ->
    key ∈ keysOf calls ∧ counter.rank id = counter.rank firstId + (firstSeen (keysOf calls)).idxOf key
  entries : ∀ id entry, table.byId.lookup id = some entry ↔
    ∃ key, table.byKey.lookup key = some id ∧ latest calls key = some entry
  -- The last id there is has been given out once the counter stays where it is.
  next : counter.rank table.nextId = counter.rank firstId + (firstSeen (keysOf calls)).length ∨
    counter.next table.nextId = none ∧
      counter.rank table.nextId + 1 = counter.rank firstId + (firstSeen (keysOf calls)).length

section Rules

variable {firstId : Id} {calls : List (Call keyOf)} {table : Table counter keyOf}

theorem records_empty : Records firstId [] (Table.empty firstId : Table counter keyOf) := by
  constructor <;> simp [Table.empty, keysOf]

theorem Records.key_unique (records : Records firstId calls table) {first second : Key} {id : Id}
    (left : table.byKey.lookup first = some id) (right : table.byKey.lookup second = some id) : first = second := by
  obtain ⟨seen, leftRank⟩ := records.known first id left
  obtain ⟨_, rightRank⟩ := records.known second id right
  have same : (firstSeen (keysOf calls)).idxOf first = (firstSeen (keysOf calls)).idxOf second := by omega
  exact (List.idxOf_inj (mem_firstSeen.mpr seen)).mp same

/-- There are ids for so many keys before the counter stays where it is. -/
def Holds (counter : Counter Id) (firstId : Id) (capacity : Nat) : Prop :=
  ∀ id, counter.next id = none -> counter.rank firstId + capacity ≤ counter.rank id + 1

theorem Records.unseen (records : Records firstId calls table) {key : Key} (new : table.byKey.lookup key = none) :
    key ∉ keysOf calls := by
  intro seen
  obtain ⟨id, known⟩ := records.given key seen
  simp [new] at known

theorem Records.again (records : Records firstId calls table) (call : Call keyOf) {id : Id}
    (known : table.byKey.lookup call.1 = some id) :
    Records firstId (calls ++ [call]) (table.assignOrGet call.2).2 := by
  have seen : call.1 ∈ keysOf calls := (records.known call.1 id known).1
  have keys : firstSeen (keysOf (calls ++ [call])) = firstSeen (keysOf calls) := by
    rw [keysOf_snoc]
    exact firstSeen_again seen
  obtain ⟨old, last⟩ := latest_isSome seen
  have present : table.byId.lookup id = some old := (records.entries id old).mpr ⟨call.1, known, last⟩
  have settled : call.2.update old = call.2.entry := call.2.settles old (latest_keyOf last)
  have byKey : (table.assignOrGet call.2).2.byKey = table.byKey := by simp [Table.assignOrGet, known, Table.refresh]
  have byId : (table.assignOrGet call.2).2.byId = table.byId.insert id call.2.entry := by
    simp [Table.assignOrGet, known, Table.refresh, present, settled]
  have nextId : (table.assignOrGet call.2).2.nextId = table.nextId := by
    simp [Table.assignOrGet, known, Table.refresh]
  constructor
  · rw [keysOf_snoc, byKey]
    intro key member
    rcases List.mem_append.mp member with before | last
    · exact records.given key before
    · rw [List.mem_singleton.mp last]
      exact ⟨id, known⟩
  · rw [byKey, keys, keysOf_snoc]
    intro key other found
    obtain ⟨member, rank⟩ := records.known key other found
    exact ⟨List.mem_append_left _ member, rank⟩
  · intro other entry
    simp only [byKey, byId, latest_snoc]
    by_cases same : other = id
    · subst same
      constructor
      · intro found
        refine ⟨call.1, known, ?_⟩
        simpa using found
      · rintro ⟨key, here, found⟩
        obtain rfl := records.key_unique here known
        simpa using found
    · rw [AList.lookup_insert_ne same, records.entries other entry]
      have apart (key : Key) (here : table.byKey.lookup key = some other) : call.1 ≠ key := by
        rintro rfl
        exact same (Option.some.inj (here.symm.trans known))
      constructor
      · rintro ⟨key, here, found⟩
        exact ⟨key, here, by rw [if_neg (apart key here), found]⟩
      · rintro ⟨key, here, found⟩
        rw [if_neg (apart key here)] at found
        exact ⟨key, here, found⟩
  · rw [nextId, keys]
    exact records.next

theorem Records.enroll (records : Records firstId calls table) (call : Call keyOf)
    (new : table.byKey.lookup call.1 = none)
    (room : counter.rank table.nextId = counter.rank firstId + (firstSeen (keysOf calls)).length) :
    Records firstId (calls ++ [call]) (table.assignOrGet call.2).2 := by
  have unseen := records.unseen new
  have keys : firstSeen (keysOf (calls ++ [call])) = firstSeen (keysOf calls) ++ [call.1] := by
    rw [keysOf_snoc]
    exact firstSeen_new unseen
  have position (key : Key) (seen : key ∈ keysOf calls) :
      (firstSeen (keysOf calls) ++ [call.1]).idxOf key = (firstSeen (keysOf calls)).idxOf key :=
    List.idxOf_append_of_mem (mem_firstSeen.mpr seen)
  have byKey : (table.assignOrGet call.2).2.byKey = table.byKey.insert call.1 table.nextId := by
    simp [Table.assignOrGet, new, Table.enroll]
  have byId : (table.assignOrGet call.2).2.byId = table.byId.insert table.nextId call.2.entry := by
    simp [Table.assignOrGet, new, Table.enroll]
  have nextId : (table.assignOrGet call.2).2.nextId = (counter.next table.nextId).getD table.nextId := by
    simp [Table.assignOrGet, new, Table.enroll]
  have unused (key : Key) : table.byKey.lookup key ≠ some table.nextId := by
    intro found
    obtain ⟨seen, rank⟩ := records.known key _ found
    have below := List.idxOf_lt_length_of_mem (mem_firstSeen.mpr seen)
    omega
  constructor
  · rw [keysOf_snoc, byKey]
    intro key member
    by_cases same : key = call.1
    · exact ⟨table.nextId, by rw [same, AList.lookup_insert]⟩
    · rw [AList.lookup_insert_ne same]
      apply records.given
      simpa [same] using member
  · rw [byKey, keys, keysOf_snoc]
    intro key id found
    by_cases same : key = call.1
    · subst same
      obtain rfl : table.nextId = id := by simpa using found
      have outside : call.1 ∉ firstSeen (keysOf calls) := fun seen => unseen (mem_firstSeen.mp seen)
      refine ⟨by simp, ?_⟩
      rw [room, List.idxOf_append_of_notMem outside]
      simp
    · rw [AList.lookup_insert_ne same] at found
      obtain ⟨member, rank⟩ := records.known key id found
      exact ⟨List.mem_append_left _ member, by rw [rank, position key member]⟩
  · intro id entry
    simp only [byKey, byId, latest_snoc]
    by_cases same : id = table.nextId
    · subst same
      constructor
      · intro found
        exact ⟨call.1, AList.lookup_insert _, by simpa using found⟩
      · rintro ⟨key, here, found⟩
        by_cases own : key = call.1
        · simpa [own] using found
        · rw [AList.lookup_insert_ne own] at here
          exact absurd here (unused key)
    · rw [AList.lookup_insert_ne same, records.entries id entry]
      constructor
      · rintro ⟨key, here, found⟩
        have own : key ≠ call.1 := by
          rintro rfl
          simp [new] at here
        exact ⟨key, by rw [AList.lookup_insert_ne own, here], by rw [if_neg (Ne.symm own), found]⟩
      · rintro ⟨key, here, found⟩
        by_cases own : key = call.1
        · subst own
          rw [AList.lookup_insert] at here
          exact absurd (Option.some.inj here).symm same
        · rw [AList.lookup_insert_ne own] at here
          rw [if_neg (Ne.symm own)] at found
          exact ⟨key, here, found⟩
  · rw [nextId, keys, List.length_append, List.length_singleton]
    cases advanced : counter.next table.nextId with
    | none => exact .inr ⟨advanced, by simp only [Option.getD_none]; omega⟩
    | some after =>
      have rank := counter.next_rank _ _ advanced
      exact .inl (by simp only [Option.getD_some]; omega)

theorem records_serve {capacity : Nat} (holds : Holds counter firstId capacity) (calls : List (Call keyOf))
    (few : (firstSeen (keysOf calls)).length ≤ capacity) :
    Records firstId calls ((Table.empty firstId : Table counter keyOf).serve calls) := by
  induction calls using List.reverseRecOn with
  | nil => exact records_empty
  | append_singleton calls call ih =>
    have records := ih (Nat.le_trans (by rw [keysOf_snoc]; exact firstSeen_append_length _ _) few)
    rw [Table.serve_append]
    cases found : ((Table.empty firstId : Table counter keyOf).serve calls).byKey.lookup call.1 with
    | some id => exact records.again call found
    | none =>
      apply records.enroll call found
      rcases records.next with room | ⟨stuck, full⟩
      · exact room
      · have limit := holds _ stuck
        rw [keysOf_snoc, firstSeen_new (records.unseen found), List.length_append, List.length_singleton] at few
        omega

/-- Ids handed out for keys: `handed` are the answers, `seen` the keys asked for, and the two lookups are what
is left at the end. -/
structure Numbering (handed : List (Key × Id)) (number : Id -> Nat) (seen : List Key) (idOf : Key -> Option Id)
    (keyOf : Id -> Option Key) : Prop where
  same : ∀ key first second, (key, first) ∈ handed -> (key, second) ∈ handed -> first = second
  distinct : ∀ first second id, (first, id) ∈ handed -> (second, id) ∈ handed -> first = second
  numbered : ∀ key id, (key, id) ∈ handed -> number id = (firstSeen seen).idxOf key + 1
  inverse : ∀ key id, idOf key = some id ↔ keyOf id = some key
  known : ∀ key id, keyOf id = some key ↔ (key, id) ∈ handed

theorem numbering_serve {capacity : Nat} (holds : Holds counter firstId capacity) (one : counter.rank firstId = 1)
    (calls : List (Call keyOf)) (few : (keysOf calls).dedup.length ≤ capacity) :
    Numbering ((Table.empty firstId : Table counter keyOf).grants calls) counter.rank (keysOf calls)
      ((Table.empty firstId : Table counter keyOf).serve calls).byKey.lookup
      (fun id => (((Table.empty firstId : Table counter keyOf).serve calls).byId.lookup id).map keyOf) := by
  have records := records_serve holds calls (by rwa [firstSeen_length])
  have granted (key : Key) (id : Id) : ((Table.empty firstId : Table counter keyOf).serve calls).byKey.lookup key =
      some id ↔ (key, id) ∈ (Table.empty firstId : Table counter keyOf).grants calls := by
    constructor
    · intro known
      have seen := (records.known key id known).1
      rw [← Table.grants_keys (Table.empty firstId : Table counter keyOf)] at seen
      obtain ⟨grant, member, rfl⟩ := List.mem_map.mp seen
      have same := Table.lookup_granted _ calls member
      rwa [← Option.some.inj (same.symm.trans known)]
    · exact Table.lookup_granted _ calls
  have inverse (key : Key) (id : Id) : ((Table.empty firstId : Table counter keyOf).serve calls).byKey.lookup key =
      some id ↔ (((Table.empty firstId : Table counter keyOf).serve calls).byId.lookup id).map keyOf = some key := by
    rw [Option.map_eq_some_iff]
    constructor
    · intro known
      obtain ⟨entry, last⟩ := latest_isSome (records.known key id known).1
      exact ⟨entry, (records.entries id entry).mpr ⟨key, known, last⟩, latest_keyOf last⟩
    · rintro ⟨entry, here, rfl⟩
      obtain ⟨key, known, last⟩ := (records.entries id entry).mp here
      rwa [latest_keyOf last]
  constructor
  · intro key first second left right
    exact Option.some.inj (((granted key first).mpr left).symm.trans ((granted key second).mpr right))
  · intro first second id left right
    exact records.key_unique ((granted first id).mpr left) ((granted second id).mpr right)
  · intro key id handed
    rw [(records.known key id ((granted key id).mpr handed)).2, one, Nat.add_comm]
  · exact inverse
  · exact fun key id => (inverse key id).symm.trans (granted key id)

end Rules

end Interning
