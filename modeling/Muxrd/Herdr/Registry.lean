import Muxrd.Lib.Intern

set_option autoImplicit false

namespace Muxrd.Herdr

open Interning

def counter32 : Counter UInt32 :=
  { rank := UInt32.toNat
    next := fun id => if id.toNat + 1 < UInt32.size then some (id + 1) else none
    next_rank := by
      intro id after stepped
      split_ifs at stepped with fits
      have value : (id + 1).toNat = id.toNat + 1 := by
        rw [UInt32.toNat_add]
        exact Nat.mod_eq_of_lt fits
      rw [← Option.some.inj stepped, value] }

def counter64 : Counter UInt64 :=
  { rank := UInt64.toNat
    next := fun id => if id.toNat + 1 < UInt64.size then some (id + 1) else none
    next_rank := by
      intro id after stepped
      split_ifs at stepped with fits
      have value : (id + 1).toNat = id.toNat + 1 := by
        rw [UInt64.toNat_add]
        exact Nat.mod_eq_of_lt fits
      rw [← Option.some.inj stepped, value] }

structure PaneEntry where
  herdrPaneId : String
  terminalId : String
  deriving DecidableEq, Repr

structure HerdrPaneRegistry where
  inner : Table counter32 PaneEntry.herdrPaneId

def paneSighting (herdrPaneId terminalId : String) : Sighting PaneEntry.herdrPaneId herdrPaneId :=
  { entry := { herdrPaneId, terminalId }
    update := fun entry => { entry with terminalId }
    key_entry := rfl
    key_update := fun _ => rfl
    settles := by
      intro old same
      rw [← same] }

namespace HerdrPaneRegistry

-- Ids start at 1: 0 is what an absent proto field reads as.
def new : HerdrPaneRegistry :=
  { inner := Table.empty 1 }

def assignOrGet (registry : HerdrPaneRegistry) (herdrPaneId terminalId : String) :
    UInt32 × HerdrPaneRegistry :=
  let (id, inner) := registry.inner.assignOrGet (paneSighting herdrPaneId terminalId)
  (id, { inner })

def herdrPaneId (registry : HerdrPaneRegistry) (id : UInt32) : Option String :=
  (registry.inner.byId.lookup id).map (·.herdrPaneId)

def terminalId (registry : HerdrPaneRegistry) (id : UInt32) : Option String :=
  (registry.inner.byId.lookup id).map (·.terminalId)

def idOf (registry : HerdrPaneRegistry) (pane : String) : Option UInt32 :=
  registry.inner.byKey.lookup pane

def hasRoom (registry : HerdrPaneRegistry) (panes : Nat) : Prop :=
  registry.inner.nextId.toNat + panes < UInt32.size

variable {registry : HerdrPaneRegistry} {pane other terminal : String}

theorem idOf_assigned :
    (registry.assignOrGet pane terminal).2.idOf pane = some (registry.assignOrGet pane terminal).1 :=
  registry.inner.lookup_assigned (paneSighting pane terminal)

theorem assignOrGet_known {id : UInt32} (known : registry.idOf pane = some id) :
    (registry.assignOrGet pane terminal).1 = id :=
  registry.inner.assignOrGet_known (paneSighting pane terminal) known

theorem idOf_stable {id : UInt32} (known : registry.idOf other = some id) :
    (registry.assignOrGet pane terminal).2.idOf other = some id :=
  registry.inner.lookup_stable (paneSighting pane terminal) known

theorem hasRoom_assigned {panes : Nat} (room : registry.hasRoom (panes + 1)) :
    (registry.assignOrGet pane terminal).2.hasRoom panes := by
  have bound : (registry.assignOrGet pane terminal).2.inner.nextId.toNat ≤
      registry.inner.nextId.toNat + 1 :=
    (registry.inner.rank_nextId (paneSighting pane terminal)).2
  unfold hasRoom at *
  omega

theorem not_exhausted {panes : Nat} (room : registry.hasRoom (panes + 1)) :
    counter32.next registry.inner.nextId ≠ none := by
  have fits : registry.inner.nextId.toNat + 1 < UInt32.size := by
    unfold hasRoom at room
    omega
  simp [counter32, fits]

theorem terminalId_assigned {panes : Nat} (room : registry.hasRoom (panes + 1)) :
    (registry.assignOrGet pane terminal).2.terminalId (registry.assignOrGet pane terminal).1 =
      some terminal := by
  have entry := registry.inner.entry_assigned (paneSighting pane terminal) (not_exhausted room)
  simp only [terminalId, assignOrGet]
  rw [entry]
  rfl

theorem terminalId_other {panes : Nat} {id : UInt32} (room : registry.hasRoom (panes + 1))
    (known : registry.idOf other = some id) (apart : other ≠ pane) :
    (registry.assignOrGet pane terminal).2.terminalId id = registry.terminalId id := by
  have different : id ≠ (registry.assignOrGet pane terminal).1 := by
    intro equal
    have stays : (registry.assignOrGet pane terminal).2.idOf other = some id := idOf_stable known
    have given : (registry.assignOrGet pane terminal).2.idOf pane =
        some (registry.assignOrGet pane terminal).1 := idOf_assigned
    have low := (registry.inner.below other id known).resolve_right (not_exhausted room)
    have grows := (registry.inner.rank_nextId (paneSighting pane terminal)).1
    rw [← equal] at given
    exact apart ((registry.assignOrGet pane terminal).2.inner.key_unique stays given
      (Nat.lt_of_lt_of_le low grows))
  exact congrArg (Option.map PaneEntry.terminalId)
    (registry.inner.entry_other (paneSighting pane terminal) different)

end HerdrPaneRegistry

structure HerdrTabRegistry where
  inner : Table counter64 (id : String -> String)

def tabSighting (herdrTabId : String) : Sighting (id : String -> String) herdrTabId :=
  { entry := herdrTabId
    update := id
    key_entry := rfl
    key_update := fun _ => rfl
    settles := fun _ same => same }

namespace HerdrTabRegistry

def new : HerdrTabRegistry :=
  { inner := Table.empty 1 }

def assignOrGet (registry : HerdrTabRegistry) (herdrTabId : String) : UInt64 × HerdrTabRegistry :=
  let (id, inner) := registry.inner.assignOrGet (tabSighting herdrTabId)
  (id, { inner })

def herdrTabId (registry : HerdrTabRegistry) (id : UInt64) : Option String :=
  registry.inner.byId.lookup id

end HerdrTabRegistry

end Muxrd.Herdr
