import Mathlib.Data.List.AList
import Mathlib.Data.List.Induction

set_option autoImplicit false

namespace Grouping

variable {Key Item Value Holder Result : Type} [DecidableEq Key]

abbrev Groups (Key Value : Type) := AList (fun _ : Key => List Value)

def push (groups : Groups Key Value) (key : Key) (value : Value) : Groups Key Value :=
  groups.insert key ((groups.lookup key).getD [] ++ [value])

def group (keyOf : Item -> Key) (valueOf : Item -> Value) (items : List Item) : Groups Key Value :=
  items.foldl (fun groups item => push groups (keyOf item) (valueOf item)) ∅

/-- Every holder takes its group away with it. -/
def drain (keyOf : Holder -> Key) (build : Holder -> List Value -> Result) :
    Groups Key Value -> List Holder -> List Result
  | _, [] => []
  | groups, holder :: rest =>
    build holder ((groups.lookup (keyOf holder)).getD []) :: drain keyOf build (groups.erase (keyOf holder)) rest

theorem lookup_group (keyOf : Item -> Key) (valueOf : Item -> Value) (items : List Item) (key : Key) :
    ((group keyOf valueOf items).lookup key).getD [] = (items.filter (keyOf · = key)).map valueOf := by
  induction items using List.reverseRecOn with
  | nil => rfl
  | append_singleton before item ih =>
    rw [group, List.foldl_append, List.filter_append, List.map_append, ← ih]
    change ((push (group keyOf valueOf before) (keyOf item) (valueOf item)).lookup key).getD [] = _
    by_cases same : keyOf item = key
    · subst same
      simp [push]
    · simp [push, AList.lookup_insert_ne (Ne.symm same), same]

theorem drain_erased (keyOf : Holder -> Key) (build : Holder -> List Value -> Result)
    (groups : Groups Key Value) (key : Key) (holders : List Holder) (never : key ∉ holders.map keyOf) :
    drain keyOf build (groups.erase key) holders = drain keyOf build groups holders := by
  induction holders generalizing groups with
  | nil => rfl
  | cons holder rest ih =>
    rw [List.map_cons, List.mem_cons, not_or] at never
    rw [drain, drain, AList.lookup_erase_ne (Ne.symm never.1), AList.erase_erase, ih _ never.2]

theorem drain_distinct (keyOf : Holder -> Key) (build : Holder -> List Value -> Result)
    (groups : Groups Key Value) (holders : List Holder) (distinct : (holders.map keyOf).Nodup) :
    drain keyOf build groups holders =
      holders.map fun holder => build holder ((groups.lookup (keyOf holder)).getD []) := by
  induction holders with
  | nil => rfl
  | cons holder rest ih =>
    rw [List.map_cons, List.nodup_cons] at distinct
    rw [drain, drain_erased _ _ _ _ _ distinct.1, ih distinct.2, List.map_cons]

theorem flatMap_filter_perm (keyOf : Item -> Key) (items : List Item) (keys : List Key) (distinct : keys.Nodup) :
    (keys.flatMap fun key => items.filter (keyOf · = key)).Perm (items.filter (keyOf · ∈ keys)) := by
  induction keys with
  | nil => simp
  | cons key rest ih =>
    rw [List.nodup_cons] at distinct
    have own : (items.filter (keyOf · ∈ key :: rest)).filter (keyOf · = key) = items.filter (keyOf · = key) := by
      rw [List.filter_filter]
      congr 1
      funext item
      by_cases same : keyOf item = key <;> simp [same]
    have others : (items.filter (keyOf · ∈ key :: rest)).filter (fun item => !decide (keyOf item = key)) =
        items.filter (keyOf · ∈ rest) := by
      rw [List.filter_filter]
      congr 1
      funext item
      by_cases same : keyOf item = key <;> simp [same, distinct.1]
    have parts := List.filter_append_perm (fun item => decide (keyOf item = key)) (items.filter (keyOf · ∈ key :: rest))
    rw [own, others] at parts
    rw [List.flatMap_cons]
    exact ((ih distinct.2).append_left _).trans parts

end Grouping
