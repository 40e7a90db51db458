import Mathlib.Algebra.GroupWithZero.Nat
import Mathlib.Data.List.AList

set_option autoImplicit false

namespace Weighing

variable {Key Value : Type} [DecidableEq Key]

def total (weight : Value -> Nat) (map : AList fun _ : Key => Value) : Nat :=
  (map.entries.map fun entry => weight entry.2).sum

def share (weight : Value -> Nat) (map : AList fun _ : Key => Value) (key : Key) : Nat :=
  (map.lookup key).elim 0 weight

variable {weight : Value -> Nat}

omit [DecidableEq Key] in
@[simp] theorem total_empty : total weight (∅ : AList fun _ : Key => Value) = 0 := rfl

theorem sum_kerase (key : Key) (entries : List (Sigma fun _ : Key => Value)) (distinct : entries.NodupKeys) :
    ((entries.kerase key).map fun entry => weight entry.2).sum + (entries.dlookup key).elim 0 weight =
      (entries.map fun entry => weight entry.2).sum := by
  induction entries with
  | nil => simp
  | cons entry rest ih =>
    obtain ⟨fresh, later⟩ := List.nodupKeys_cons.mp distinct
    obtain ⟨other, here⟩ := entry
    by_cases same : key = other
    · subst same
      simp [Nat.add_comm]
    · rw [List.kerase_cons_ne same, List.dlookup_cons_ne _ _ same]
      simp only [List.map_cons, List.sum_cons]
      have rest := ih later
      omega

theorem total_erase (weight : Value -> Nat) (map : AList fun _ : Key => Value) (key : Key) :
    total weight (map.erase key) + share weight map key = total weight map :=
  sum_kerase key map.entries map.nodupKeys

theorem total_insert (map : AList fun _ : Key => Value) (key : Key) (value : Value) :
    total weight (map.insert key value) = total weight (map.erase key) + weight value := by
  rw [total, AList.entries_insert, List.map_cons, List.sum_cons, Nat.add_comm]
  rfl

variable {map : AList fun _ : Key => Value} {key : Key} {old : Value}

theorem total_fresh (fresh : key ∉ map) (value : Value) :
    total weight (map.insert key value) = total weight map + weight value := by
  have erased := total_erase weight map key
  rw [share, AList.lookup_eq_none.mpr fresh, Option.elim_none] at erased
  rw [total_insert]
  omega

theorem total_remove (found : map.lookup key = some old) :
    total weight (map.erase key) + weight old = total weight map := by
  have erased := total_erase weight map key
  rwa [share, found, Option.elim_some] at erased

theorem total_update (found : map.lookup key = some old) (value : Value) :
    total weight (map.insert key value) + weight old = total weight map + weight value := by
  have removed : total weight (map.erase key) + weight old = total weight map := total_remove found
  rw [total_insert]
  omega

theorem total_replace (found : map.lookup key = some old) {value : Value} (same : weight value = weight old) :
    total weight (map.insert key value) = total weight map := by
  have updated : total weight (map.insert key value) + weight old = total weight map + weight value :=
    total_update found value
  omega

theorem weight_le_total (found : map.lookup key = some old) : weight old ≤ total weight map := by
  have removed : total weight (map.erase key) + weight old = total weight map := total_remove found
  omega

theorem weights_le_total {other : Key} {further : Value} (found : map.lookup key = some old)
    (beside : map.lookup other = some further) (different : other ≠ key) :
    weight old + weight further ≤ total weight map := by
  have removed : total weight (map.erase key) + weight old = total weight map := total_remove found
  have left : weight further ≤ total weight (map.erase key) :=
    weight_le_total (by rwa [AList.lookup_erase_ne different])
  omega

end Weighing
