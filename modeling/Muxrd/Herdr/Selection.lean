import Muxrd.Herdr.Polls
import Muxrd.Lib.Serving

set_option autoImplicit false

namespace Muxrd.Herdr

open Interning

namespace HerdrPaneRegistry

def BelowExhaustion (registry : HerdrPaneRegistry) (panes : List String) : Prop :=
  registry.inner.BelowExhaustion panes

theorem spare_of_hasRoom {registry : HerdrPaneRegistry} {panes : Nat} (room : registry.hasRoom panes) :
    counter32.Spare panes registry.inner.nextId := by
  unfold hasRoom at room
  generalize registry.inner.nextId = id at room
  induction panes generalizing id with
  | zero => trivial
  | succ panes ih =>
    have fits : id.toNat + 1 < UInt32.size := by omega
    have value : (id + 1).toNat = id.toNat + 1 := by
      rw [UInt32.toNat_add]
      exact Nat.mod_eq_of_lt fits
    refine ⟨id + 1, by simp [counter32, fits], ih (id + 1) ?_⟩
    omega

theorem belowExhaustion_new {panes : List String} (few : panes.length + 1 < UInt32.size) :
    new.BelowExhaustion panes := by
  have one : (1 : UInt32).toNat = 1 := rfl
  have room : HerdrPaneRegistry.new.hasRoom panes.length := by
    change (1 : UInt32).toNat + panes.length < UInt32.size
    omega
  exact Table.belowExhaustion_empty (spare_of_hasRoom room)

structure Resolves (registry : HerdrPaneRegistry) (pane : String) (id : UInt32) (terminal : String) : Prop where
  known : registry.idOf pane = some id
  owner : registry.herdrPaneId id = some pane
  terminal : registry.terminalId id = some terminal

theorem resolves_of_entry {registry : HerdrPaneRegistry} {pane terminal : String}
    (entry : registry.inner.entryOf pane = some { herdrPaneId := pane, terminalId := terminal }) :
    ∃ id, registry.Resolves pane id terminal := by
  obtain ⟨id, known, found⟩ := Option.bind_eq_some_iff.mp entry
  exact ⟨id, { known, owner := by simp [herdrPaneId, found], terminal := by simp [terminalId, found] }⟩

end HerdrPaneRegistry

section Registered

def paneCalls (panes : List PaneInfo) : List (Call PaneEntry.herdrPaneId) :=
  panes.map fun pane => ⟨pane.paneId, paneSighting pane.paneId pane.terminalId⟩

variable {panes : List PaneInfo} {registry : HerdrPaneRegistry}

theorem paneCalls_keys : keysOf (paneCalls panes) = panes.map (·.paneId) := by
  simp [keysOf, paneCalls]

theorem registerPanes_serve : (registerPanes panes registry).inner = registry.inner.serve (paneCalls panes) := by
  induction panes generalizing registry with
  | nil => rfl
  | cons pane rest ih => exact ih

theorem paneCalls_latest (distinct : (panes.map (·.paneId)).Nodup) {pane : PaneInfo} (listed : pane ∈ panes) :
    latest (paneCalls panes) pane.paneId = some { herdrPaneId := pane.paneId, terminalId := pane.terminalId } := by
  obtain ⟨before, after, rfl⟩ := List.append_of_mem listed
  have last : pane.paneId ∉ keysOf (paneCalls after) := by
    rw [paneCalls_keys]
    rw [List.map_append, List.map_cons] at distinct
    exact (List.nodup_cons.mp (List.nodup_append.mp distinct).2.1).1
  have split : paneCalls (before ++ pane :: after) =
      paneCalls before ++ ⟨pane.paneId, paneSighting pane.paneId pane.terminalId⟩ :: paneCalls after := by
    simp [paneCalls]
  rw [split]
  exact latest_split _ _ _ last

theorem registerPanes_resolves (distinct : (panes.map (·.paneId)).Nodup)
    (below : registry.BelowExhaustion (panes.map (·.paneId))) {pane : PaneInfo} (listed : pane ∈ panes) :
    ∃ id, (registerPanes panes registry).Resolves pane.paneId id pane.terminalId := by
  apply HerdrPaneRegistry.resolves_of_entry
  have served : registry.inner.BelowExhaustion (keysOf (paneCalls panes)) := by
    rw [paneCalls_keys]
    exact below
  rw [registerPanes_serve, Table.entryOf_serve served, paneCalls_latest distinct listed, Option.some_or]

end Registered

end Muxrd.Herdr

namespace Muxrd.Selection

open Herdr Interning

section Select

structure Pick where
  registry : HerdrPaneRegistry
  first : Option (UInt32 × String)
  focused : Option (UInt32 × String)

def selectStep (inTarget : PaneInfo -> Bool) (pick : Pick) (pane : PaneInfo) : Pick :=
  let (id, registry) := pick.registry.assignOrGet pane.paneId pane.terminalId
  if inTarget pane then
    { registry
      first := if pick.first.isNone then some (id, pane.terminalId) else pick.first
      focused := if pane.focused then some (id, pane.terminalId) else pick.focused }
  else { pick with registry }

def select (inTarget : PaneInfo -> Bool) (panes : List PaneInfo) (registry : HerdrPaneRegistry) :
    Option (UInt32 × String) × HerdrPaneRegistry :=
  let pick := panes.foldl (selectStep inTarget) { registry, first := none, focused := none }
  (pick.focused.or pick.first, pick.registry)

def pickTabPane (panes : List PaneInfo) (reg : HerdrPaneRegistry) (workspaceId herdrTabId : String) :
    Except String (UInt32 × String) × HerdrPaneRegistry :=
  let (picked, after) := select (·.tabId = herdrTabId) panes reg
  (picked.elim
    (.error ("herdr tab '" ++ herdrTabId ++ "' (ws '" ++ workspaceId ++ "') has no panes to attach")) .ok, after)

def resolveFocusedTerminal (api : Api) (workspaceId : String) (ids : Ids) :
    Except String (UInt32 × String) × Ids :=
  match api.paneList workspaceId with
  | .error message => (.error (listPanesFailed workspaceId message), ids)
  | .ok panes =>
    let (picked, after) := select (fun _ => true) panes ids.panes
    (picked.elim (.error ("herdr workspace '" ++ workspaceId ++ "' has no panes to attach")) .ok,
      { ids with panes := after })

def resolveTabFocusedPane (api : Api) (workspaceId herdrTabId : String) (ids : Ids) :
    Except String (UInt32 × String) × Ids :=
  match api.paneList workspaceId with
  | .error message => (.error (listPanesFailed workspaceId message), ids)
  | .ok panes =>
    let (picked, after) := pickTabPane panes ids.panes workspaceId herdrTabId
    (picked, { ids with panes := after })

end Select

section Callers

variable {inTarget : PaneInfo -> Bool} {panes : List PaneInfo} {registry : HerdrPaneRegistry}

-- What is left of a pick when the pane's id is dropped, as every caller does.
def Pick.terminals (pick : Pick) : Herdr.Pick :=
  { registry := pick.registry, first := pick.first.map (·.2), focused := pick.focused.map (·.2) }

theorem selectStep_terminals (pick : Pick) (pane : PaneInfo) :
    (selectStep inTarget pick pane).terminals = pickStep inTarget pick.terminals pane := by
  obtain ⟨registry, first, focused⟩ := pick
  unfold selectStep pickStep
  dsimp only
  split_ifs <;> cases first <;> simp_all [Pick.terminals]

theorem select_terminal :
    ((select inTarget panes registry).1.map (·.2), (select inTarget panes registry).2) =
      pickTerminal inTarget panes registry := by
  have folded (pick : Pick) : (panes.foldl (selectStep inTarget) pick).terminals =
      panes.foldl (pickStep inTarget) pick.terminals := by
    induction panes generalizing pick with
    | nil => rfl
    | cons pane rest ih => rw [List.foldl_cons, ih, selectStep_terminals, List.foldl_cons]
  have whole := folded { registry, first := none, focused := none }
  simp only [select, pickTerminal]
  rw [show Herdr.Pick.start registry = Pick.terminals { registry, first := none, focused := none } from rfl, ← whole]
  obtain ⟨after, first, focused⟩ := panes.foldl (selectStep inTarget) { registry, first := none, focused := none }
  cases focused <;> rfl

theorem resolveFocusedTerminal_terminal (api : Api) (workspaceId : String) (ids : Ids) :
    Prod.map (Except.map (·.2)) id (resolveFocusedTerminal api workspaceId ids) =
      Herdr.resolveFocusedTerminal api workspaceId ids := by
  unfold resolveFocusedTerminal Herdr.resolveFocusedTerminal
  cases api.paneList workspaceId with
  | error message => rfl
  | ok panes =>
    dsimp only
    rw [← select_terminal]
    rcases select (fun _ => true) panes ids.panes with ⟨picked, after⟩
    cases picked <;> rfl

theorem resolveTabFocusedPane_terminal (api : Api) (workspaceId herdrTabId : String) (ids : Ids) :
    Prod.map (Except.map (·.2)) id (resolveTabFocusedPane api workspaceId herdrTabId ids) =
      Herdr.resolveTabFocusedPane api workspaceId herdrTabId ids := by
  unfold resolveTabFocusedPane Herdr.resolveTabFocusedPane
  cases api.paneList workspaceId with
  | error message => rfl
  | ok panes =>
    dsimp only [pickTabPane]
    rw [← select_terminal]
    rcases select (·.tabId = herdrTabId) panes ids.panes with ⟨picked, after⟩
    cases picked <;> rfl

end Callers

section Scan

variable {inTarget : PaneInfo -> Bool} {panes : List PaneInfo} {registry start : HerdrPaneRegistry}

def Stands (registry : HerdrPaneRegistry) (pane : PaneInfo) (kept : UInt32 × String) : Prop :=
  registry.idOf pane.paneId = some kept.1 ∧ kept.2 = pane.terminalId

def focusedIn (inTarget : PaneInfo -> Bool) (panes : List PaneInfo) : Option PaneInfo :=
  panes.reverse.find? fun pane => inTarget pane && pane.focused

structure Follows (inTarget : PaneInfo -> Bool) (start : HerdrPaneRegistry) (seen : List PaneInfo) (pick : Pick) :
    Prop where
  registry : pick.registry = registerPanes seen start
  first : Option.Rel (Stands pick.registry) (seen.find? inTarget) pick.first
  focused : Option.Rel (Stands pick.registry) (focusedIn inTarget seen) pick.focused

theorem stands_assigned (registry : HerdrPaneRegistry) (pane : PaneInfo) :
    Stands (registry.assignOrGet pane.paneId pane.terminalId).2 pane
      ((registry.assignOrGet pane.paneId pane.terminalId).1, pane.terminalId) :=
  ⟨HerdrPaneRegistry.idOf_assigned, rfl⟩

theorem rel_assigned {candidate : Option PaneInfo} {kept : Option (UInt32 × String)} (pane : PaneInfo)
    (before : Option.Rel (Stands registry) candidate kept) :
    Option.Rel (Stands (registry.assignOrGet pane.paneId pane.terminalId).2) candidate kept := by
  cases before with
  | none => exact .none
  | some stands => exact .some ⟨HerdrPaneRegistry.idOf_stable stands.1, stands.2⟩

theorem selectStep_follows {seen : List PaneInfo} {pick : Pick} (pane : PaneInfo)
    (follows : Follows inTarget start seen pick) :
    Follows inTarget start (seen ++ [pane]) (selectStep inTarget pick pane) := by
  have registered : (pick.registry.assignOrGet pane.paneId pane.terminalId).2 = registerPanes (seen ++ [pane]) start := by
    rw [follows.registry, registerPanes, registerPanes, List.foldl_append]
    rfl
  have first := rel_assigned pane follows.first
  have focused := rel_assigned pane follows.focused
  have stands := stands_assigned pick.registry pane
  have scanned : focusedIn inTarget (seen ++ [pane]) =
      if inTarget pane && pane.focused then some pane else focusedIn inTarget seen := by
    rw [focusedIn, List.reverse_append, List.reverse_singleton, List.singleton_append, List.find?_cons]
    cases inTarget pane && pane.focused <;> rfl
  unfold selectStep
  dsimp only
  by_cases inside : inTarget pane = true
  · rw [if_pos inside]
    refine { registry := registered, first := ?_, focused := ?_ }
    · rw [List.find?_append, List.find?_cons_of_pos inside]
      cases candidate : seen.find? inTarget with
      | none =>
        rw [candidate] at first
        cases unset : pick.first with
        | none => exact .some stands
        | some kept =>
          rw [unset] at first
          cases first
      | some found =>
        rw [candidate] at first
        cases chosen : pick.first with
        | none =>
          rw [chosen] at first
          cases first
        | some kept =>
          rw [chosen] at first
          exact first
    · rw [scanned, inside, Bool.true_and]
      cases pane.focused with
      | true => exact .some stands
      | false => exact focused
  · rw [if_neg inside]
    refine { registry := registered, first := ?_, focused := ?_ }
    · rw [List.find?_append, List.find?_cons_of_neg inside, List.find?_nil, Option.or_none]
      exact first
    · rw [scanned, Bool.eq_false_iff.mpr inside, Bool.false_and, if_neg Bool.false_ne_true]
      exact focused

theorem select_follows (inTarget : PaneInfo -> Bool) (panes : List PaneInfo) (registry : HerdrPaneRegistry) :
    Follows inTarget registry panes
      (panes.foldl (selectStep inTarget) { registry, first := none, focused := none }) := by
  induction panes using List.reverseRecOn with
  | nil => exact { registry := rfl, first := .none, focused := .none }
  | append_singleton seen pane ih =>
    rw [List.foldl_append]
    exact selectStep_follows pane ih

end Scan

section Selected

variable {inTarget : PaneInfo -> Bool} {panes : List PaneInfo} {registry : HerdrPaneRegistry}

/-- The pane is one to attach to: in the target, and focused if any pane there is, else the first one listed. -/
structure IsTarget (inTarget : PaneInfo -> Bool) (panes : List PaneInfo) (pane : PaneInfo) : Prop where
  listed : pane ∈ panes
  inside : inTarget pane = true
  focused : (∃ other ∈ panes, inTarget other = true ∧ other.focused = true) -> pane.focused = true
  first : (∀ other ∈ panes, inTarget other = true -> other.focused = false) -> panes.find? inTarget = some pane

theorem isTarget_of_focused {pane : PaneInfo} (found : focusedIn inTarget panes = some pane) :
    IsTarget inTarget panes pane := by
  have both := List.find?_some found
  rw [Bool.and_eq_true] at both
  have listed := List.mem_reverse.mp (List.mem_of_find?_eq_some found)
  refine { listed, inside := both.1, focused := fun _ => both.2, first := ?_ }
  intro blurred
  rw [blurred pane listed both.1] at both
  cases both.2

theorem isTarget_of_first {pane : PaneInfo} (blurred : focusedIn inTarget panes = none)
    (found : panes.find? inTarget = some pane) : IsTarget inTarget panes pane := by
  refine { listed := List.mem_of_find?_eq_some found, inside := List.find?_some found, focused := ?_,
           first := fun _ => found }
  rintro ⟨other, listed, inside, focused⟩
  have missed := List.find?_eq_none.mp blurred other (List.mem_reverse.mpr listed)
  simp [inside, focused] at missed

structure Selected (inTarget : PaneInfo -> Bool) (panes : List PaneInfo) (before : HerdrPaneRegistry)
    (result : Except String (UInt32 × String)) (after : HerdrPaneRegistry) : Prop where
  found : (∃ picked, result = .ok picked) ↔ ∃ pane ∈ panes, inTarget pane = true
  picked : ∀ id terminal, result = .ok (id, terminal) ->
    ∃ pane, IsTarget inTarget panes pane ∧ after.Resolves pane.paneId id terminal ∧ pane.terminalId = terminal
  registered : ∀ pane ∈ panes, ∃ id, after.Resolves pane.paneId id pane.terminalId
  stable : ∀ paneId id, before.idOf paneId = some id -> after.idOf paneId = some id

theorem select_candidate (inTarget : PaneInfo -> Bool) (panes : List PaneInfo) (registry : HerdrPaneRegistry) :
    Option.Rel (Stands (registerPanes panes registry))
      ((focusedIn inTarget panes).or (panes.find? inTarget)) (select inTarget panes registry).1 := by
  have follows := select_follows inTarget panes registry
  have first := follows.first
  have focused := follows.focused
  rw [follows.registry] at first focused
  unfold select
  dsimp only
  generalize panes.foldl (selectStep inTarget) { registry, first := none, focused := none } = pick at first focused
  generalize focusedIn inTarget panes = candidate at focused
  obtain ⟨after, firstKept, focusedKept⟩ := pick
  cases focused with
  | some stands => exact .some stands
  | none => exact first

theorem select_selected (distinct : (panes.map (·.paneId)).Nodup)
    (below : registry.BelowExhaustion (panes.map (·.paneId))) (message : String) :
    Selected inTarget panes registry ((select inTarget panes registry).1.elim (.error message) .ok)
      (select inTarget panes registry).2 := by
  have after : (select inTarget panes registry).2 = registerPanes panes registry :=
    (select_follows inTarget panes registry).registry
  have candidate := select_candidate inTarget panes registry
  have registered (pane : PaneInfo) (listed : pane ∈ panes) := registerPanes_resolves distinct below listed
  rw [after]
  refine { found := ?_, picked := ?_, registered, stable := ?_ }
  · generalize (select inTarget panes registry).1 = picked at candidate
    generalize chosen : (focusedIn inTarget panes).or (panes.find? inTarget) = pane at candidate
    cases candidate with
    | none =>
      have missed := List.find?_eq_none.mp (Option.or_eq_none_iff.mp chosen).2
      constructor
      · rintro ⟨_, impossible⟩
        cases impossible
      · rintro ⟨pane, listed, inside⟩
        exact absurd inside (missed pane listed)
    | some stands =>
      refine iff_of_true ⟨_, rfl⟩ ?_
      rcases Option.or_eq_some_iff.mp chosen with focused | ⟨_, first⟩
      · have target := isTarget_of_focused focused
        exact ⟨_, target.listed, target.inside⟩
      · exact ⟨_, List.mem_of_find?_eq_some first, List.find?_some first⟩
  · intro id terminal picked
    generalize (select inTarget panes registry).1 = kept at candidate picked
    generalize chosen : (focusedIn inTarget panes).or (panes.find? inTarget) = pane at candidate
    cases candidate with
    | none => cases picked
    | @some pane kept stands =>
      obtain rfl : kept = (id, terminal) := Except.ok.inj picked
      have target : IsTarget inTarget panes pane := by
        rcases Option.or_eq_some_iff.mp chosen with focused | ⟨blurred, first⟩
        · exact isTarget_of_focused focused
        · exact isTarget_of_first blurred first
      obtain ⟨own, resolves⟩ := registered pane target.listed
      obtain rfl : own = id := Option.some.inj (resolves.known.symm.trans stands.1)
      obtain rfl : terminal = pane.terminalId := stands.2
      exact ⟨pane, target, resolves, rfl⟩
  · intro paneId id known
    rw [HerdrPaneRegistry.idOf, registerPanes_serve]
    exact Table.lookup_serve _ _ known

end Selected

/-- Attach targets are selected as herdr lists them, for a tab as for a whole workspace. -/
theorem attach_target_selected (panes : List PaneInfo) (distinct : (panes.map (·.paneId)).Nodup) (ids : Ids)
    (below : ids.panes.BelowExhaustion (panes.map (·.paneId))) :
    (∀ workspaceId herdrTabId, Selected (·.tabId = herdrTabId) panes ids.panes
      (pickTabPane panes ids.panes workspaceId herdrTabId).1 (pickTabPane panes ids.panes workspaceId herdrTabId).2) ∧
    ∀ api workspaceId, api.paneList workspaceId = .ok panes ->
      Selected (fun _ => true) panes ids.panes (resolveFocusedTerminal api workspaceId ids).1
        (resolveFocusedTerminal api workspaceId ids).2.panes := by
  constructor
  · intro workspaceId herdrTabId
    exact select_selected distinct below _
  · intro api workspaceId listed
    simp only [resolveFocusedTerminal, listed]
    exact select_selected distinct below _

section Listed

def listed (paneId tabId : String) (focused : Bool) : PaneInfo :=
  { paneId, terminalId := "t-" ++ paneId, tabId, focused, cwd := none, label := none, title := none }

-- The focus is in another tab than the one that is asked for.
def crossTab : List PaneInfo :=
  [listed "a" "left" true, listed "b" "right" false, listed "c" "right" false]

def freshIds : Ids :=
  { panes := .new, tabs := .new }

theorem attach_target_selected_crossTab :
    Selected (·.tabId = "right") crossTab freshIds.panes (pickTabPane crossTab freshIds.panes "w" "right").1
      (pickTabPane crossTab freshIds.panes "w" "right").2 ∧
    (pickTabPane crossTab freshIds.panes "w" "right").1 = .ok (2, "t-b") :=
  ⟨(attach_target_selected crossTab (by decide) freshIds (HerdrPaneRegistry.belowExhaustion_new (by decide))).1 "w"
    "right", by decide⟩

end Listed

end Muxrd.Selection
