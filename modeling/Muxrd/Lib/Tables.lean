import Mathlib.Data.List.AList

set_option autoImplicit false

namespace AList

variable {Key Value : Type} [DecidableEq Key] {map : AList fun _ : Key => Value} {key other : Key} {value found : Value}

theorem of_lookup_insert (here : (map.insert key value).lookup other = some found) :
    (other = key ∧ found = value) ∨ (other ≠ key ∧ map.lookup other = some found) := by
  by_cases same : other = key
  · subst same
    rw [lookup_insert] at here
    exact .inl ⟨rfl, (Option.some.inj here).symm⟩
  · rw [lookup_insert_ne same] at here
    exact .inr ⟨same, here⟩

theorem of_lookup_erase (here : (map.erase key).lookup other = some found) :
    other ≠ key ∧ map.lookup other = some found := by
  have apart : other ≠ key := by
    rintro rfl
    rw [lookup_erase] at here
    cases here
  exact ⟨apart, by rwa [lookup_erase_ne apart] at here⟩

theorem erase_insert_fresh (fresh : key ∉ map) (value : Value) : (map.insert key value).erase key = map := by
  apply AList.ext
  change (map.insert key value).entries.kerase key = map.entries
  rw [entries_insert_of_notMem fresh]
  exact List.kerase_cons_eq rfl

end AList
