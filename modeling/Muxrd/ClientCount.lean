import Mathlib.Data.UInt
import Mathlib.Tactic.Common
import Muxrd.Lib.Weight

set_option autoImplicit false

namespace Muxrd.ClientCount

/-- An `Arc<AtomicUsize>`: how many handles share it, and what it counts. -/
structure Counter where
  handles : UInt64
  clients : UInt64
  deriving DecidableEq, Repr

def maxRefcount : Nat := 2 ^ 63 - 1

-- The process aborts when there are too many handles.
def Counter.clone (counter : Counter) : Option Counter :=
  if counter.handles.toNat ≤ maxRefcount then some { counter with handles := counter.handles + 1 } else none

structure SessionClients where
  inner : AList (fun _ : String => Counter)

namespace SessionClients

def new : SessionClients :=
  { inner := ∅ }

variable (clients : SessionClients) (session : String)

-- The map's own handle is the first one.
def counter : Counter :=
  (clients.inner.lookup session).getD { handles := 1, clients := 0 }

def attach : Option SessionClients :=
  (clients.counter session).clone.map fun counter =>
    { inner := clients.inner.insert session { counter with clients := counter.clients + 1 } }

def count : UInt32 :=
  ((clients.inner.lookup session).map fun counter => counter.clients.toUInt32).getD 0

def totalCount : UInt64 :=
  (clients.inner.entries.map fun entry => entry.2.clients).sum

-- `ClientGuard::drop`, and the guard's handle with it. A session's counter never leaves the map.
def dropGuard : SessionClients :=
  match clients.inner.lookup session with
  | some counter =>
    { inner := clients.inner.insert session
        { handles := counter.handles - 1, clients := counter.clients - 1 } }
  | none => clients

end SessionClients

structure Counts (clients : SessionClients) (held : String -> Nat) (all : Nat) : Prop where
  known : ∀ session counter, clients.inner.lookup session = some counter ->
    counter.clients.toNat = held session ∧ counter.handles.toNat = held session + 1 ∧ held session ≤ maxRefcount
  unknown : ∀ session, clients.inner.lookup session = none -> held session = 0
  sum : Weighing.total (fun counter => counter.clients.toNat) clients.inner = all

variable {clients next : SessionClients} {held : String -> Nat} {all : Nat} {session : String}

theorem counts_new : Counts SessionClients.new (fun _ => 0) 0 := by
  constructor <;> simp [SessionClients.new]

theorem Counts.counter (counts : Counts clients held all) (session : String) :
    (clients.counter session).clients.toNat = held session ∧
      (clients.counter session).handles.toNat = held session + 1 := by
  unfold SessionClients.counter
  cases found : clients.inner.lookup session with
  | none => simp [counts.unknown session found]
  | some counter =>
    obtain ⟨counted, shared, _⟩ := counts.known session counter found
    exact ⟨counted, shared⟩

theorem Counts.count (counts : Counts clients held all) (session : String) :
    (clients.count session).toNat = held session % 2 ^ 32 := by
  unfold SessionClients.count
  cases found : clients.inner.lookup session with
  | none => simp [counts.unknown session found]
  | some counter => simp [(counts.known session counter found).1]

theorem sum_toNat (values : List UInt64) : values.sum.toNat = (values.map UInt64.toNat).sum % 2 ^ 64 := by
  induction values with
  | nil => rfl
  | cons value rest ih =>
    rw [List.sum_cons, List.map_cons, List.sum_cons, UInt64.toNat_add, ih, Nat.add_mod_mod]

theorem Counts.totalCount (counts : Counts clients held all) : clients.totalCount.toNat = all % 2 ^ 64 := by
  rw [SessionClients.totalCount, sum_toNat, ← counts.sum]
  simp [Weighing.total, Function.comp_def]

theorem counts_replace (counts : Counts clients held all) {counter : Counter} {heldNow : String -> Nat} {allNow : Nat}
    (counted : counter.clients.toNat = heldNow session) (shared : counter.handles.toNat = heldNow session + 1)
    (room : heldNow session ≤ maxRefcount) (others : ∀ other, other ≠ session -> heldNow other = held other)
    (balance : allNow + held session = all + heldNow session) :
    Counts { inner := clients.inner.insert session counter } heldNow allNow := by
  constructor
  · intro other found here
    by_cases same : other = session
    · subst same
      obtain rfl : counter = found := by simpa using here
      exact ⟨counted, shared, room⟩
    · rw [AList.lookup_insert_ne same] at here
      rw [others other same]
      exact counts.known other found here
  · intro other missing
    by_cases same : other = session
    · subst same
      simp at missing
    · rw [AList.lookup_insert_ne same] at missing
      rw [others other same]
      exact counts.unknown other missing
  · have erased := Weighing.total_erase (fun counter : Counter => counter.clients.toNat) clients.inner session
    have own : Weighing.share (fun counter : Counter => counter.clients.toNat) clients.inner session = held session := by
      unfold Weighing.share
      cases found : clients.inner.lookup session with
      | none => simp [counts.unknown session found]
      | some old => simp [(counts.known session old found).1]
    rw [Weighing.total_insert, counted]
    rw [own, counts.sum] at erased
    omega

theorem counts_attach (counts : Counts clients held all) (attached : clients.attach session = some next)
    {heldNow : String -> Nat} (own : heldNow session = held session + 1)
    (others : ∀ other, other ≠ session -> heldNow other = held other) : Counts next heldNow (all + 1) := by
  obtain ⟨counter, cloned, rfl⟩ := Option.map_eq_some_iff.mp attached
  obtain ⟨counted, shared⟩ := counts.counter session
  unfold Counter.clone at cloned
  split_ifs at cloned with few
  obtain rfl := Option.some.inj cloned
  have room : held session + 1 ≤ maxRefcount := by omega
  have limit : maxRefcount = 2 ^ 63 - 1 := rfl
  apply counts_replace counts
  · rw [own, UInt64.toNat_add, counted]
    exact Nat.mod_eq_of_lt (by simp; omega)
  · rw [own, UInt64.toNat_add, shared]
    exact Nat.mod_eq_of_lt (by simp; omega)
  · omega
  · exact others
  · omega

theorem counts_dropGuard (counts : Counts clients held all) {heldNow : String -> Nat} {allNow : Nat}
    (own : held session = heldNow session + 1) (others : ∀ other, other ≠ session -> heldNow other = held other)
    (balance : all = allNow + 1) : Counts (clients.dropGuard session) heldNow allNow := by
  cases found : clients.inner.lookup session with
  | none =>
    have absent := counts.unknown session found
    omega
  | some counter =>
    obtain ⟨counted, shared, room⟩ := counts.known session counter found
    have less (value : UInt64) (positive : 1 ≤ value.toNat) : (value - 1).toNat = value.toNat - 1 :=
      UInt64.toNat_sub_of_le value 1 (by simpa [UInt64.le_iff_toNat_le] using positive)
    simp only [SessionClients.dropGuard, found]
    apply counts_replace counts
    · rw [less _ (by omega)]
      omega
    · rw [less _ (by omega)]
      omega
    · omega
    · exact others
    · omega

end Muxrd.ClientCount
