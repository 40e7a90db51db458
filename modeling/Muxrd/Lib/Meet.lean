import Mathlib.Order.Lattice
import Mathlib.Data.List.Basic

set_option autoImplicit false

namespace Meet

variable {Value : Type} [SemilatticeInf Value]

def meet : List Value -> Option Value
  | [] => none
  | value :: rest => some (rest.foldl (· ⊓ ·) value)

theorem le_foldl_inf (floor start : Value) (values : List Value) :
    floor ≤ values.foldl (· ⊓ ·) start ↔ floor ≤ start ∧ ∀ value ∈ values, floor ≤ value := by
  induction values generalizing start with
  | nil => simp
  | cons value rest ih =>
    rw [List.foldl_cons, ih, le_inf_iff, List.forall_mem_cons, and_assoc]

@[simp] theorem meet_eq_none {values : List Value} : meet values = none ↔ values = [] := by
  cases values <;> simp [meet]

theorem le_meet_iff {values : List Value} {least floor : Value} (met : meet values = some least) :
    floor ≤ least ↔ ∀ value ∈ values, floor ≤ value := by
  cases values with
  | nil => cases met
  | cons value rest =>
    rw [← Option.some.inj met, le_foldl_inf, List.forall_mem_cons]

theorem meet_le {values : List Value} {least value : Value} (met : meet values = some least)
    (member : value ∈ values) : least ≤ value :=
  (le_meet_iff met).mp le_rfl value member

theorem exists_meet {values : List Value} {value : Value} (member : value ∈ values) :
    ∃ least, meet values = some least := by
  cases met : meet values with
  | none => simp [meet_eq_none.mp met] at member
  | some least => exact ⟨least, rfl⟩

end Meet
