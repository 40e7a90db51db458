import Muxrd.Herdr.Registry
import Muxrd.Lib.FirstSeen

set_option autoImplicit false

namespace Muxrd.Herdr

open Interning

section Panes

/-- The operations on the pane registry. Each holds its lock from beginning to end, so any threads' calls come
one after the other. -/
inductive PaneOp
  | assignOrGet (pane terminal : String)
  | herdrPaneId (id : UInt32)
  | terminalId (id : UInt32)
  deriving DecidableEq, Repr

inductive PaneReply
  | assigned (id : UInt32)
  | looked (found : Option String)
  deriving DecidableEq, Repr

namespace HerdrPaneRegistry

def serve (registry : HerdrPaneRegistry) : PaneOp -> PaneReply × HerdrPaneRegistry
  | .assignOrGet pane terminal =>
    let (id, next) := registry.assignOrGet pane terminal
    (.assigned id, next)
  | .herdrPaneId id => (.looked (registry.herdrPaneId id), registry)
  | .terminalId id => (.looked (registry.terminalId id), registry)

def after (registry : HerdrPaneRegistry) (ops : List PaneOp) : HerdrPaneRegistry :=
  ops.foldl (fun registry op => (registry.serve op).2) registry

def handedOut (registry : HerdrPaneRegistry) : List PaneOp -> List (String × UInt32)
  | [] => []
  | op :: rest =>
    match op, (registry.serve op).1 with
    | .assignOrGet pane _, .assigned id => (pane, id) :: handedOut (registry.serve op).2 rest
    | _, _ => handedOut (registry.serve op).2 rest

end HerdrPaneRegistry

def paneCall : PaneOp -> Option (Call PaneEntry.herdrPaneId)
  | .assignOrGet pane terminal => some ⟨pane, paneSighting pane terminal⟩
  | .herdrPaneId _ | .terminalId _ => none

def panesOf (ops : List PaneOp) : List String :=
  ops.filterMap fun op => (paneCall op).map (·.1)

variable (registry : HerdrPaneRegistry) (ops : List PaneOp)

theorem paneRegistry_after : (registry.after ops).inner = registry.inner.serve (ops.filterMap paneCall) := by
  induction ops generalizing registry with
  | nil => rfl
  | cons op rest ih => cases op <;> exact ih _

theorem paneRegistry_handedOut : registry.handedOut ops = registry.inner.grants (ops.filterMap paneCall) := by
  induction ops generalizing registry with
  | nil => rfl
  | cons op rest ih =>
    cases op with
    | assignOrGet pane terminal => exact congrArg _ (ih _)
    | herdrPaneId id => exact ih registry
    | terminalId id => exact ih registry

theorem panesOf_keys : panesOf ops = keysOf (ops.filterMap paneCall) := by
  rw [panesOf, keysOf, List.map_filterMap]

theorem handedOut_panes : (registry.handedOut ops).map (·.1) = panesOf ops := by
  rw [paneRegistry_handedOut, panesOf_keys]
  exact Table.grants_keys _ _

theorem holds32 : Holds counter32 1 (UInt32.size - 1) := by
  intro id stuck
  have top : ¬ id.toNat + 1 < UInt32.size := by
    intro fits
    simp [counter32, fits] at stuck
  have one : counter32.rank 1 = 1 := rfl
  have rank : counter32.rank id = id.toNat := rfl
  omega

structure PaneIds (ops : List PaneOp) : Prop where
  numbering : Numbering (HerdrPaneRegistry.new.handedOut ops) UInt32.toNat (panesOf ops)
    (HerdrPaneRegistry.new.after ops).idOf (HerdrPaneRegistry.new.after ops).herdrPaneId
  terminal : ∀ before pane terminal after id, ops = before ++ .assignOrGet pane terminal :: after ->
    pane ∉ panesOf after -> (pane, id) ∈ HerdrPaneRegistry.new.handedOut ops ->
    (HerdrPaneRegistry.new.after ops).terminalId id = some terminal
  unknown : ∀ id, (∀ pane, (pane, id) ∉ HerdrPaneRegistry.new.handedOut ops) ->
    (HerdrPaneRegistry.new.after ops).herdrPaneId id = none ∧ (HerdrPaneRegistry.new.after ops).terminalId id = none

theorem paneIds (few : (panesOf ops).dedup.length ≤ UInt32.size - 1) : PaneIds ops := by
  rw [panesOf_keys] at few
  have records := records_serve holds32 (ops.filterMap paneCall) (by rwa [firstSeen_length])
  have left : (HerdrPaneRegistry.new.after ops).inner = (Table.empty 1).serve (ops.filterMap paneCall) :=
    paneRegistry_after HerdrPaneRegistry.new ops
  have numbering : Numbering (HerdrPaneRegistry.new.handedOut ops) UInt32.toNat (panesOf ops)
      (HerdrPaneRegistry.new.after ops).idOf (HerdrPaneRegistry.new.after ops).herdrPaneId := by
    have whole := numbering_serve holds32 rfl (ops.filterMap paneCall) few
    rw [← left] at whole
    rw [panesOf_keys, paneRegistry_handedOut]
    exact whole
  constructor
  · exact numbering
  · rintro before pane terminal later id rfl last handed
    have known := (numbering.inverse pane id).mpr ((numbering.known pane id).mpr handed)
    have recorded : latest ((before ++ .assignOrGet pane terminal :: later).filterMap paneCall) pane =
        some { herdrPaneId := pane, terminalId := terminal } := by
      rw [List.filterMap_append, List.filterMap_cons_some (f := paneCall) rfl]
      exact latest_split _ _ ⟨pane, paneSighting pane terminal⟩ (by rwa [← panesOf_keys])
    have entry := (records.entries id _).mpr ⟨pane, by rw [← left]; exact known, recorded⟩
    rw [HerdrPaneRegistry.terminalId, left, entry]
    rfl
  · intro id never
    have missing : (HerdrPaneRegistry.new.after ops).inner.byId.lookup id = none := by
      cases found : (HerdrPaneRegistry.new.after ops).inner.byId.lookup id with
      | none => rfl
      | some entry =>
        have pane := (numbering.known entry.herdrPaneId id).mp (by rw [HerdrPaneRegistry.herdrPaneId, found]; rfl)
        exact absurd pane (never _)
    simp [HerdrPaneRegistry.herdrPaneId, HerdrPaneRegistry.terminalId, missing]

end Panes

section Tabs

inductive TabOp
  | assignOrGet (tab : String)
  | herdrTabId (id : UInt64)
  deriving DecidableEq, Repr

inductive TabReply
  | assigned (id : UInt64)
  | looked (found : Option String)
  deriving DecidableEq, Repr

namespace HerdrTabRegistry

def idOf (registry : HerdrTabRegistry) (tab : String) : Option UInt64 :=
  registry.inner.byKey.lookup tab

def serve (registry : HerdrTabRegistry) : TabOp -> TabReply × HerdrTabRegistry
  | .assignOrGet tab =>
    let (id, next) := registry.assignOrGet tab
    (.assigned id, next)
  | .herdrTabId id => (.looked (registry.herdrTabId id), registry)

def after (registry : HerdrTabRegistry) (ops : List TabOp) : HerdrTabRegistry :=
  ops.foldl (fun registry op => (registry.serve op).2) registry

def handedOut (registry : HerdrTabRegistry) : List TabOp -> List (String × UInt64)
  | [] => []
  | op :: rest =>
    match op, (registry.serve op).1 with
    | .assignOrGet tab, .assigned id => (tab, id) :: handedOut (registry.serve op).2 rest
    | _, _ => handedOut (registry.serve op).2 rest

end HerdrTabRegistry

def tabCall : TabOp -> Option (Call (id : String -> String))
  | .assignOrGet tab => some ⟨tab, tabSighting tab⟩
  | .herdrTabId _ => none

def tabsOf (ops : List TabOp) : List String :=
  ops.filterMap fun op => (tabCall op).map (·.1)

variable (registry : HerdrTabRegistry) (ops : List TabOp)

theorem tabRegistry_after : (registry.after ops).inner = registry.inner.serve (ops.filterMap tabCall) := by
  induction ops generalizing registry with
  | nil => rfl
  | cons op rest ih => cases op <;> exact ih _

theorem tabRegistry_handedOut : registry.handedOut ops = registry.inner.grants (ops.filterMap tabCall) := by
  induction ops generalizing registry with
  | nil => rfl
  | cons op rest ih =>
    cases op with
    | assignOrGet tab => exact congrArg _ (ih _)
    | herdrTabId id => exact ih registry

theorem tabsOf_keys : tabsOf ops = keysOf (ops.filterMap tabCall) := by
  rw [tabsOf, keysOf, List.map_filterMap]

theorem holds64 : Holds counter64 1 (UInt64.size - 1) := by
  intro id stuck
  have top : ¬ id.toNat + 1 < UInt64.size := by
    intro fits
    simp [counter64, fits] at stuck
  have one : counter64.rank 1 = 1 := rfl
  have rank : counter64.rank id = id.toNat := rfl
  omega

structure TabIds (ops : List TabOp) : Prop where
  numbering : Numbering (HerdrTabRegistry.new.handedOut ops) UInt64.toNat (tabsOf ops)
    (HerdrTabRegistry.new.after ops).idOf (HerdrTabRegistry.new.after ops).herdrTabId
  unknown : ∀ id, (∀ tab, (tab, id) ∉ HerdrTabRegistry.new.handedOut ops) ->
    (HerdrTabRegistry.new.after ops).herdrTabId id = none

theorem tabIds (few : (tabsOf ops).dedup.length ≤ UInt64.size - 1) : TabIds ops := by
  have numbering : Numbering (HerdrTabRegistry.new.handedOut ops) UInt64.toNat (tabsOf ops)
      (HerdrTabRegistry.new.after ops).idOf (HerdrTabRegistry.new.after ops).herdrTabId := by
    have whole := numbering_serve holds64 rfl (ops.filterMap tabCall) (by rwa [← tabsOf_keys])
    have left : (HerdrTabRegistry.new.after ops).inner = (Table.empty 1).serve (ops.filterMap tabCall) :=
      tabRegistry_after HerdrTabRegistry.new ops
    have looked : (HerdrTabRegistry.new.after ops).herdrTabId =
        fun id => ((HerdrTabRegistry.new.after ops).inner.byId.lookup id).map fun tab => tab := by
      funext id
      simp [HerdrTabRegistry.herdrTabId]
    rw [← left] at whole
    rw [tabsOf_keys, tabRegistry_handedOut, looked]
    exact whole
  constructor
  · exact numbering
  · intro id never
    cases found : (HerdrTabRegistry.new.after ops).herdrTabId id with
    | none => rfl
    | some tab => exact absurd ((numbering.known tab id).mp found) (never tab)

end Tabs

/-- After any interleaving of the registries' operations, for no more panes or tabs than there are ids: ids
are stable, belong to one pane or tab, count up in the order of first calls, and lookups give back what
was put in. -/
theorem herdr_ids_stable :
    (∀ ops : List PaneOp, (panesOf ops).dedup.length ≤ UInt32.size - 1 -> PaneIds ops) ∧
      ∀ ops : List TabOp, (tabsOf ops).dedup.length ≤ UInt64.size - 1 -> TabIds ops :=
  ⟨paneIds, tabIds⟩

-- Two polls, between which the second pane's terminal is replaced, and lookups.
def polls : List PaneOp :=
  [.assignOrGet "p1" "t1", .assignOrGet "p2" "t2", .herdrPaneId 2, .assignOrGet "p1" "t1", .assignOrGet "p2" "t3",
    .terminalId 2]

theorem herdr_ids_stable_polls : PaneIds polls ∧ HerdrPaneRegistry.new.handedOut polls =
    [("p1", 1), ("p2", 2), ("p1", 1), ("p2", 2)] ∧ (HerdrPaneRegistry.new.after polls).terminalId 2 = some "t3" :=
  ⟨herdr_ids_stable.1 polls (by decide), by decide, by decide⟩

end Muxrd.Herdr
