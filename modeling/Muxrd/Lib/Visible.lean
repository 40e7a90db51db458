import Mathlib.Data.List.AList

set_option autoImplicit false

namespace Visible

variable {Key : Type} {Value : Key -> Type}

theorem find?_filter_hit {visible wanted : Sigma Value -> Bool} {entries : List (Sigma Value)}
    {entry : Sigma Value}
    (found : entries.find? wanted = some entry) (shown : visible entry = true) :
    (entries.filter visible).find? wanted = some entry := by
  induction entries with
  | nil => simp at found
  | cons first rest ih =>
    by_cases hit : wanted first = true
    · rw [List.find?_cons_of_pos hit] at found
      obtain rfl := Option.some.inj found
      rw [List.filter_cons_of_pos shown, List.find?_cons_of_pos hit]
    · rw [List.find?_cons_of_neg hit] at found
      by_cases kept : visible first = true
      · rw [List.filter_cons_of_pos kept, List.find?_cons_of_neg hit, ih found]
      · rw [List.filter_cons_of_neg kept, ih found]

def Shows (visible : Sigma Value -> Bool) (whole part : AList Value) : Prop :=
  part.entries = whole.entries.filter visible

def only (visible : Sigma Value -> Bool) (map : AList Value) : AList Value :=
  ⟨map.entries.filter visible, map.nodupKeys.sublist List.filter_sublist⟩

variable {visible : Sigma Value -> Bool}

theorem shows_only (map : AList Value) : Shows visible map (only visible map) := rfl

variable [DecidableEq Key]

theorem mem_iff_lookup {map : AList Value} {key : Key} : key ∈ map ↔ ∃ value, map.lookup key = some value := by
  rw [← AList.lookup_isSome, Option.isSome_iff_exists]

theorem filter_kerase {key : Key} (entries : List (Sigma Value)) (distinct : entries.NodupKeys) :
    (entries.kerase key).filter visible = (entries.filter visible).kerase key := by
  induction entries with
  | nil => rfl
  | cons entry rest ih =>
    obtain ⟨absent, later⟩ := List.nodupKeys_cons.mp distinct
    by_cases same : key = entry.1
    · rw [List.kerase_cons_eq same]
      have gone : key ∉ (rest.filter visible).keys := by
        intro member
        apply absent
        rw [← same]
        exact (List.filter_sublist.map Sigma.fst).subset member
      by_cases shown : visible entry = true
      · rw [List.filter_cons_of_pos shown, List.kerase_cons_eq same]
      · rw [List.filter_cons_of_neg shown, List.kerase_of_notMem_keys gone]
    · rw [List.kerase_cons_ne same]
      by_cases shown : visible entry = true
      · rw [List.filter_cons_of_pos shown, List.filter_cons_of_pos shown, List.kerase_cons_ne same, ih later]
      · rw [List.filter_cons_of_neg shown, List.filter_cons_of_neg shown, ih later]

namespace Shows

variable {whole part : AList Value} {key : Key}

theorem lookup (shows : Shows visible whole part) :
    part.lookup key = (whole.lookup key).filter fun value => visible ⟨key, value⟩ := by
  ext value
  have left : part.lookup key = some value ↔ (⟨key, value⟩ : Sigma Value) ∈ part.entries := AList.mem_lookup_iff
  have right : whole.lookup key = some value ↔ (⟨key, value⟩ : Sigma Value) ∈ whole.entries := AList.mem_lookup_iff
  rw [Option.filter_eq_some_iff, left, right, shows, List.mem_filter]

theorem insert (shows : Shows visible whole part) (value : Value key)
    (shown : visible ⟨key, value⟩ = true) :
    Shows visible (whole.insert key value) (part.insert key value) := by
  unfold Shows at *
  rw [AList.entries_insert, AList.entries_insert, shows,
    List.filter_cons_of_pos shown, filter_kerase _ whole.nodupKeys]

theorem erase (shows : Shows visible whole part) (key : Key) :
    Shows visible (whole.erase key) (part.erase key) := by
  unfold Shows at *
  change part.entries.kerase key = (whole.entries.kerase key).filter visible
  rw [shows, filter_kerase _ whole.nodupKeys]

theorem insert_hidden (shows : Shows visible whole part) {value : Value key}
    (hidden : visible ⟨key, value⟩ = false) (absent : key ∉ part) :
    Shows visible (whole.insert key value) part := by
  unfold Shows at *
  rw [AList.entries_insert, List.filter_cons_of_neg (by simp [hidden]),
    filter_kerase _ whole.nodupKeys, ← shows, List.kerase_of_notMem_keys absent]

theorem erase_hidden (shows : Shows visible whole part) (absent : key ∉ part) :
    Shows visible (whole.erase key) part := by
  unfold Shows at *
  change part.entries = (whole.entries.kerase key).filter visible
  rw [filter_kerase _ whole.nodupKeys, ← shows, List.kerase_of_notMem_keys absent]

end Shows

end Visible
