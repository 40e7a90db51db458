import Muxrd.Herdr.Calls
import Muxrd.Herdr.Polls

set_option autoImplicit false

namespace Muxrd.Addressing

open Herdr Calls Transition
open Polls (Shared Assign Poll)

inductive SplitDirection
  | right
  | down
  deriving DecidableEq, Repr

inductive PaneDirection
  | left
  | right
  | up
  | down
  deriving DecidableEq, Repr

inductive PaneZoomMode
  | toggle
  | on
  | off
  deriving DecidableEq, Repr

section Texts

def SplitDirection.text : SplitDirection -> String
  | .right => "right"
  | .down => "down"

def PaneDirection.text : PaneDirection -> String
  | .left => "left"
  | .right => "right"
  | .up => "up"
  | .down => "down"

def PaneZoomMode.text : PaneZoomMode -> String
  | .toggle => "toggle"
  | .on => "on"
  | .off => "off"

end Texts

-- `skip_serializing_if = "Option::is_none"`
def optional (name : String) (value : Option String) : Params :=
  (value.map fun text => (name, Param.text text)).toList

def unknownTab (id : UInt64) : ActionAck :=
  ackErr ("unknown herdr tab id " ++ toString id)

section Operations

-- The method and the parameters of a request, or the ack that needs none.
abbrev Prepared := Except ActionAck (String × Params)

variable (ids : Ids)

def createWorkspace (label : Option String) : Prepared :=
  .ok ("workspace.create", [("focus", .flag true)] ++ optional "label" label)

def renameWorkspace (workspaceId label : String) : Prepared :=
  .ok ("workspace.rename", [("workspace_id", .text workspaceId), ("label", .text label)])

def closeWorkspace (workspaceId : String) : Prepared :=
  .ok ("workspace.close", [("workspace_id", .text workspaceId)])

def createTab (workspaceId label : Option String) : Prepared :=
  .ok ("tab.create", optional "workspace_id" workspaceId ++ [("focus", .flag true)] ++ optional "label" label)

def onTab (tabId : UInt64) (request : String -> String × Params) : Prepared :=
  match ids.tabs.herdrTabId tabId with
  | none => .error (unknownTab tabId)
  | some herdrTab => .ok (request herdrTab)

def focusTab (tabId : UInt64) : Prepared :=
  onTab ids tabId fun herdrTab => ("tab.focus", [("tab_id", .text herdrTab)])

def closeTab (tabId : UInt64) : Prepared :=
  onTab ids tabId fun herdrTab => ("tab.close", [("tab_id", .text herdrTab)])

def renameTab (tabId : UInt64) (label : String) : Prepared :=
  onTab ids tabId fun herdrTab => ("tab.rename", [("tab_id", .text herdrTab), ("label", .text label)])

def onPane (pane : UInt32) (request : String -> String × Params) : Prepared :=
  match ids.panes.herdrPaneId pane with
  | none => .error (unknownPane pane)
  | some paneId => .ok (request paneId)

def closePane (pane : UInt32) : Prepared :=
  onPane ids pane fun paneId => ("pane.close", [("pane_id", .text paneId)])

def renamePane (pane : UInt32) (label : Option String) : Prepared :=
  onPane ids pane fun paneId => ("pane.rename", [("pane_id", .text paneId)] ++ optional "label" label)

-- Without a pane the focused one is meant.
def resolveOptPane : Option UInt32 -> Except ActionAck (Option String)
  | none => .ok none
  | some pane =>
    match ids.panes.herdrPaneId pane with
    | none => .error (unknownPane pane)
    | some paneId => .ok (some paneId)

def splitPane (workspaceId : Option String) (target : Option UInt32) (direction : SplitDirection) (focus : Bool) :
    Prepared :=
  (resolveOptPane ids target).map fun targetPaneId =>
    ("pane.split", optional "workspace_id" workspaceId ++ optional "target_pane_id" targetPaneId ++
      [("direction", .text direction.text), ("focus", .flag focus)])

def focusPaneDirection (pane : Option UInt32) (direction : PaneDirection) : Prepared :=
  (resolveOptPane ids pane).map fun paneId =>
    ("pane.focus_direction", optional "pane_id" paneId ++ [("direction", .text direction.text)])

def zoomPane (pane : Option UInt32) (mode : PaneZoomMode) : Prepared :=
  (resolveOptPane ids pane).map fun paneId => ("pane.zoom", optional "pane_id" paneId ++ [("mode", .text mode.text)])

end Operations

inductive Operation
  | createWorkspace (label : Option String)
  | renameWorkspace (workspaceId label : String)
  | closeWorkspace (workspaceId : String)
  | createTab (workspaceId label : Option String)
  | focusTab (tabId : UInt64)
  | closeTab (tabId : UInt64)
  | renameTab (tabId : UInt64) (label : String)
  | splitPane (workspaceId : Option String) (target : Option UInt32) (direction : SplitDirection) (focus : Bool)
  | closePane (pane : UInt32)
  | renamePane (pane : UInt32) (label : Option String)
  | focusPaneDirection (pane : Option UInt32) (direction : PaneDirection)
  | zoomPane (pane : Option UInt32) (mode : PaneZoomMode)
  deriving DecidableEq, Repr

def prepare (ids : Ids) : Operation -> Prepared
  | .createWorkspace label => createWorkspace label
  | .renameWorkspace workspaceId label => renameWorkspace workspaceId label
  | .closeWorkspace workspaceId => closeWorkspace workspaceId
  | .createTab workspaceId label => createTab workspaceId label
  | .focusTab tabId => focusTab ids tabId
  | .closeTab tabId => closeTab ids tabId
  | .renameTab tabId label => renameTab ids tabId label
  | .splitPane workspaceId target direction focus => splitPane ids workspaceId target direction focus
  | .closePane pane => closePane ids pane
  | .renamePane pane label => renamePane ids pane label
  | .focusPaneDirection pane direction => focusPaneDirection ids pane direction
  | .zoomPane pane mode => zoomPane ids pane mode

def perform {Value : Type} (serde : Serde Value) (socket : String) (ids : Ids) (reqId : String) (operation : Operation)
    (meeting : Meeting) : Except CallError ActionAck × List UInt8 :=
  match prepare ids operation with
  | .error ack => (.ok ack, [])
  | .ok (method, params) => callAction serde socket { id := reqId, method, params } meeting

section Meaning

inductive Target
  | free
  | pane (id : UInt32)
  | tab (id : UInt64)
  deriving DecidableEq, Repr

def Operation.target : Operation -> Target
  | .focusTab tabId | .closeTab tabId | .renameTab tabId _ => .tab tabId
  | .closePane pane | .renamePane pane _ => .pane pane
  | .splitPane _ (some pane) _ _ | .focusPaneDirection (some pane) _ | .zoomPane (some pane) _ => .pane pane
  | _ => .free

def Operation.addressed (herdrId : String) : Operation -> String × Params
  | .focusTab _ => ("tab.focus", [("tab_id", .text herdrId)])
  | .closeTab _ => ("tab.close", [("tab_id", .text herdrId)])
  | .renameTab _ label => ("tab.rename", [("tab_id", .text herdrId), ("label", .text label)])
  | .closePane _ => ("pane.close", [("pane_id", .text herdrId)])
  | .renamePane _ label => ("pane.rename", [("pane_id", .text herdrId)] ++ optional "label" label)
  | .splitPane workspaceId target direction focus =>
    ("pane.split", optional "workspace_id" workspaceId ++ optional "target_pane_id" (target.map fun _ => herdrId) ++
      [("direction", .text direction.text), ("focus", .flag focus)])
  | .focusPaneDirection pane direction =>
    ("pane.focus_direction", optional "pane_id" (pane.map fun _ => herdrId) ++ [("direction", .text direction.text)])
  | .zoomPane pane mode =>
    ("pane.zoom", optional "pane_id" (pane.map fun _ => herdrId) ++ [("mode", .text mode.text)])
  | .createWorkspace label => ("workspace.create", [("focus", .flag true)] ++ optional "label" label)
  | .renameWorkspace workspaceId label =>
    ("workspace.rename", [("workspace_id", .text workspaceId), ("label", .text label)])
  | .closeWorkspace workspaceId => ("workspace.close", [("workspace_id", .text workspaceId)])
  | .createTab workspaceId label =>
    ("tab.create", optional "workspace_id" workspaceId ++ [("focus", .flag true)] ++ optional "label" label)

variable {ids : Ids} {operation : Operation}

theorem prepare_free (free : operation.target = .free) (herdrId : String) :
    prepare ids operation = .ok (operation.addressed herdrId) := by
  cases operation with
  | splitPane workspaceId target direction focus => cases target <;> first | rfl | cases free
  | focusPaneDirection pane direction => cases pane <;> first | rfl | cases free
  | zoomPane pane mode => cases pane <;> first | rfl | cases free
  | _ => first | rfl | cases free

theorem prepare_pane {pane : UInt32} (about : operation.target = .pane pane) :
    prepare ids operation =
      match ids.panes.herdrPaneId pane with
      | some paneId => .ok (operation.addressed paneId)
      | none => .error (unknownPane pane) := by
  cases operation with
  | splitPane workspaceId target direction focus =>
    cases target with
    | none => cases about
    | some target =>
      obtain rfl := Target.pane.inj about
      cases known : ids.panes.herdrPaneId target <;> simp [prepare, splitPane, resolveOptPane, known, Except.map,
        Operation.addressed]
  | focusPaneDirection target direction =>
    cases target with
    | none => cases about
    | some target =>
      obtain rfl := Target.pane.inj about
      cases known : ids.panes.herdrPaneId target <;> simp [prepare, focusPaneDirection, resolveOptPane, known,
        Except.map, Operation.addressed]
  | zoomPane target mode =>
    cases target with
    | none => cases about
    | some target =>
      obtain rfl := Target.pane.inj about
      cases known : ids.panes.herdrPaneId target <;> simp [prepare, zoomPane, resolveOptPane, known, Except.map,
        Operation.addressed]
  | closePane target =>
    obtain rfl := Target.pane.inj about
    cases known : ids.panes.herdrPaneId target <;> simp [prepare, closePane, onPane, known, Operation.addressed]
  | renamePane target label =>
    obtain rfl := Target.pane.inj about
    cases known : ids.panes.herdrPaneId target <;> simp [prepare, renamePane, onPane, known, Operation.addressed]
  | _ => cases about

theorem prepare_tab {tab : UInt64} (about : operation.target = .tab tab) :
    prepare ids operation =
      match ids.tabs.herdrTabId tab with
      | some herdrTab => .ok (operation.addressed herdrTab)
      | none => .error (unknownTab tab) := by
  cases operation with
  | focusTab target | closeTab target | renameTab target label =>
    obtain rfl := Target.tab.inj about
    cases known : ids.tabs.herdrTabId target <;> simp [prepare, focusTab, closeTab, renameTab, onTab, known,
      Operation.addressed]
  | splitPane workspaceId target direction focus => cases target <;> cases about
  | focusPaneDirection target direction => cases target <;> cases about
  | zoomPane target mode => cases target <;> cases about
  | _ => cases about

end Meaning

section Runs

/-- The registries with the polls over them, and the ids that these have been given for their layouts. -/
structure Backend where
  shared : Shared
  tabOps : List TabOp
  panes : List (String × UInt32)
  tabs : List (String × UInt64)

namespace Backend

def new : Backend :=
  { shared := .new, tabOps := [], panes := [], tabs := [] }

def hand (backend : Backend) : Option Assign -> Backend
  | none => backend
  | some (.pane paneId terminalId) =>
    { backend with
      panes := backend.panes ++ [(paneId, (backend.shared.ids.panes.assignOrGet paneId terminalId).1)] }
  | some (.tab tabId) =>
    { backend with
      tabOps := backend.tabOps ++ [.assignOrGet tabId]
      tabs := backend.tabs ++ [(tabId, (backend.shared.ids.tabs.assignOrGet tabId).1)] }

end Backend

def registering (shared : Shared) : Polls.Event -> Option Assign
  | .advance task =>
    match shared.polls.lookup task with
    | some (.registering (next :: _)) => some next
    | _ => none
  | _ => none

def step (backend : Backend) (event : Polls.Event) : Option Backend :=
  (Polls.step backend.shared event).map fun shared =>
    { backend.hand (registering backend.shared event) with shared }

structure Ledger (backend : Backend) : Prop where
  panesAfter : backend.shared.ids.panes = HerdrPaneRegistry.new.after backend.shared.registered
  panes : backend.panes = HerdrPaneRegistry.new.handedOut backend.shared.registered
  tabsAfter : backend.shared.ids.tabs = HerdrTabRegistry.new.after backend.tabOps
  tabs : backend.tabs = HerdrTabRegistry.new.handedOut backend.tabOps

theorem ledger_new : Ledger Backend.new :=
  ⟨rfl, rfl, rfl, rfl⟩

theorem settle_registries (shared : Shared) (task : Nat) (outcome : Except String Poll) :
    (shared.settle task outcome).ids = shared.ids ∧ (shared.settle task outcome).registered = shared.registered := by
  cases outcome <;> exact ⟨rfl, rfl⟩

theorem step_registries {shared after : Shared} {event : Polls.Event} (taken : Polls.step shared event = some after) :
    match registering shared event with
    | some next => after.ids = Polls.assign shared.ids next ∧ after.registered = shared.registered ++ next.paneOps
    | none => after.ids = shared.ids ∧ after.registered = shared.registered := by
  have begun {task : Nat} {poll : Poll} (began : shared.begin task poll = some after) :
      after.ids = shared.ids ∧ after.registered = shared.registered := by
    unfold Shared.begin at began
    split at began
    · cases began
    · obtain rfl := Option.some.inj began
      exact settle_registries _ _ _
  cases event with
  | queryLayout task workspaceId => exact begun taken
  | resolve task workspaceId => exact begun taken
  | focusPane pane =>
    obtain rfl := Option.some.inj taken
    exact ⟨rfl, rfl⟩
  | answer task api =>
    simp only [Polls.step] at taken
    split at taken
    · cases taken
    next poll waiting =>
      obtain ⟨outcome, _, rfl⟩ := Option.map_eq_some_iff.mp taken
      exact settle_registries { shared with reported := shared.reported ++ Polls.reports api poll } task outcome
  | advance task =>
    simp only [Polls.step, registering] at taken ⊢
    split at taken
    next tabs panes layouts waiting =>
      obtain rfl := Option.some.inj taken
      simp only [waiting]
      exact settle_registries _ _ _
    next waiting =>
      obtain rfl := Option.some.inj taken
      rw [waiting]
      exact ⟨rfl, rfl⟩
    next next pending waiting =>
      obtain rfl := Option.some.inj taken
      simp only [waiting]
      exact settle_registries (shared.register next) task (.ok (.registering pending))
    · cases taken

theorem pane_handed (ops : List PaneOp) (paneId terminalId : String) (registry : HerdrPaneRegistry) :
    registry.handedOut (ops ++ [.assignOrGet paneId terminalId]) =
      registry.handedOut ops ++ [(paneId, ((registry.after ops).assignOrGet paneId terminalId).1)] := by
  induction ops generalizing registry with
  | nil => rfl
  | cons op rest ih =>
    cases op with
    | assignOrGet pane terminal => exact congrArg _ (ih _)
    | herdrPaneId id => exact ih registry
    | terminalId id => exact ih registry

theorem tab_handed (ops : List TabOp) (tabId : String) (registry : HerdrTabRegistry) :
    registry.handedOut (ops ++ [.assignOrGet tabId]) =
      registry.handedOut ops ++ [(tabId, ((registry.after ops).assignOrGet tabId).1)] := by
  induction ops generalizing registry with
  | nil => rfl
  | cons op rest ih =>
    cases op with
    | assignOrGet tab => exact congrArg _ (ih _)
    | herdrTabId id => exact ih registry

theorem Ledger.step {backend next : Backend} {event : Polls.Event} (ledger : Ledger backend)
    (taken : step backend event = some next) : Ledger next := by
  obtain ⟨after, polled, rfl⟩ := Option.map_eq_some_iff.mp taken
  have registries := step_registries polled
  cases made : registering backend.shared event with
  | none =>
    rw [made] at registries
    obtain ⟨ids, registered⟩ := registries
    constructor
    · simpa [Backend.hand, ids, registered] using ledger.panesAfter
    · simpa [Backend.hand, registered] using ledger.panes
    · simpa [Backend.hand, ids] using ledger.tabsAfter
    · simpa [Backend.hand] using ledger.tabs
  | some assign =>
    rw [made] at registries
    obtain ⟨ids, registered⟩ := registries
    cases assign with
    | pane paneId terminalId =>
      constructor
      · simp only [ids, registered, Polls.assign, Assign.paneOps, HerdrPaneRegistry.after, List.foldl_append,
          ledger.panesAfter]
        rfl
      · simp only [Backend.hand, registered, Assign.paneOps, pane_handed, ← ledger.panesAfter, ledger.panes]
      · simpa only [Backend.hand, ids, Polls.assign] using ledger.tabsAfter
      · simpa only [Backend.hand] using ledger.tabs
    | tab tabId =>
      constructor
      · simpa only [ids, registered, Polls.assign, Assign.paneOps, List.append_nil] using ledger.panesAfter
      · simpa only [Backend.hand, registered, Assign.paneOps, List.append_nil] using ledger.panes
      · simp only [Backend.hand, ids, Polls.assign, HerdrTabRegistry.after, List.foldl_append, ledger.tabsAfter]
        rfl
      · simp only [Backend.hand, tab_handed, ← ledger.tabsAfter, ledger.tabs]

/-- What herdr calls the target: the pane or tab that the registry has given the id to, for a layout or for an
attach. -/
def Backend.Names (backend : Backend) (herdrId : String) : Target -> Prop
  | .free => True
  | .pane pane => (herdrId, pane) ∈ backend.panes
  | .tab tab => (herdrId, tab) ∈ backend.tabs

def unknown : Target -> ActionAck
  | .free => ackOk
  | .pane pane => unknownPane pane
  | .tab tab => unknownTab tab

structure Addressed (backend : Backend) (operation : Operation) : Prop where
  known : ∀ herdrId, backend.Names herdrId operation.target ->
    prepare backend.shared.ids operation = .ok (operation.addressed herdrId)
  missing : (∀ herdrId, ¬ backend.Names herdrId operation.target) ->
    prepare backend.shared.ids operation = .error (unknown operation.target)

theorem Ledger.addressed {backend : Backend} (ledger : Ledger backend)
    (panes : (backend.panes.map (·.1)).dedup.length ≤ UInt32.size - 1)
    (tabs : (backend.tabs.map (·.1)).dedup.length ≤ UInt64.size - 1) (operation : Operation) :
    Addressed backend operation := by
  cases about : operation.target with
  | free =>
    constructor
    · exact fun herdrId _ => prepare_free about herdrId
    · intro never
      rw [about] at never
      exact absurd trivial (never "")
  | pane pane =>
    rw [ledger.panes, handedOut_panes] at panes
    have known := (paneIds _ panes).numbering.known
    rw [← ledger.panesAfter, ← ledger.panes] at known
    constructor
    · intro herdrId named
      rw [about] at named
      rw [prepare_pane about, (known herdrId pane).mpr named]
    · intro never
      rw [about] at never ⊢
      cases found : backend.shared.ids.panes.herdrPaneId pane with
      | none => rw [prepare_pane about, found, unknown]
      | some herdrId => exact absurd ((known herdrId pane).mp found) (never herdrId)
  | tab tab =>
    have seen : backend.tabs.map (·.1) = tabsOf backend.tabOps := by
      rw [ledger.tabs, tabRegistry_handedOut, tabsOf_keys]
      exact Interning.Table.grants_keys _ _
    rw [seen] at tabs
    have known := (tabIds _ tabs).numbering.known
    rw [← ledger.tabsAfter, ← ledger.tabs] at known
    constructor
    · intro herdrId named
      rw [about] at named
      rw [prepare_tab about, (known herdrId tab).mpr named]
    · intro never
      rw [about] at never ⊢
      cases found : backend.shared.ids.tabs.herdrTabId tab with
      | none => rw [prepare_tab about, found, unknown]
      | some herdrId => exact absurd ((known herdrId tab).mp found) (never herdrId)

/-- However layout polls and attaches interleave, an action is acknowledged exactly if herdr has received the whole line
of the request, for the very pane or tab that the id was given to, and has answered within bounds that it is done. With
an id that was given to nothing nothing is sent. -/
theorem action_acknowledged_iff_performed {Value : Type} (serde : Serde Value) (socket reqId : String)
    (operation : Operation) (meeting : Meeting) {events : List Polls.Event} {backend : Backend}
    (ran : run step Backend.new events = some backend)
    (panes : (backend.panes.map (·.1)).dedup.length ≤ UInt32.size - 1)
    (tabs : (backend.tabs.map (·.1)).dedup.length ≤ UInt64.size - 1) :
    ((∃ ack, (perform serde socket backend.shared.ids reqId operation meeting).1 = .ok ack ∧ ack.ok = true) ↔
      ∃ herdrId value, backend.Names herdrId operation.target ∧
        Answers serde
          { id := reqId, method := (operation.addressed herdrId).1, params := (operation.addressed herdrId).2 }
          meeting (perform serde socket backend.shared.ids reqId operation meeting).2 (.ok value)) ∧
    ((∀ herdrId, ¬ backend.Names herdrId operation.target) ->
      perform serde socket backend.shared.ids reqId operation meeting = (.ok (unknown operation.target), [])) := by
  have ledger : Ledger backend := invariant_of_run (fun _ _ _ => Ledger.step) ledger_new ran
  have addressed := ledger.addressed panes tabs operation
  by_cases shown : ∃ herdrId, backend.Names herdrId operation.target
  · obtain ⟨herdrId, named⟩ := shown
    refine ⟨?_, fun never => absurd named (never herdrId)⟩
    have prepared := addressed.known herdrId named
    rw [perform, prepared]
    constructor
    · intro acknowledged
      obtain ⟨value, answers⟩ := callAction_acknowledged_iff.mp acknowledged
      exact ⟨herdrId, value, named, answers⟩
    · rintro ⟨other, value, also, answers⟩
      have same : operation.addressed herdrId = operation.addressed other :=
        Except.ok.inj (prepared.symm.trans (addressed.known other also))
      rw [← same] at answers
      exact callAction_acknowledged_iff.mpr ⟨value, answers⟩
  · have never := not_exists.mp shown
    have prepared := addressed.missing never
    have refused : perform serde socket backend.shared.ids reqId operation meeting =
        (.ok (unknown operation.target), []) := by rw [perform, prepared]
    refine ⟨?_, fun _ => refused⟩
    constructor
    · rintro ⟨ack, performed, ok⟩
      rw [refused] at performed
      obtain rfl := Except.ok.inj performed
      cases about : operation.target with
      | free =>
        rw [about] at never
        exact absurd trivial (never "")
      | pane pane =>
        rw [about] at ok
        cases ok
      | tab tab =>
        rw [about] at ok
        cases ok
    · rintro ⟨herdrId, _, named, _⟩
      exact absurd named (never herdrId)

-- A poll has listed two panes, and herdr is asked to close the second.
def listing : List Polls.Event :=
  [.resolve 0 "w1",
    .answer 0
      { workspaceList := .ok [], tabList := fun _ => .ok [],
        paneList := fun _ => .ok
          [⟨"p1", "t1", "b1", true, none, none, none⟩, ⟨"p2", "t2", "b1", false, none, none, none⟩],
        paneLayout := fun _ => .error "", paneZoom := fun _ => .error "" },
    .advance 0, .advance 0, .advance 0]

def closeRequest : ApiRequest :=
  { id := "muxrd-7", method := "pane.close", params := [("pane_id", .text "p2")] }

def sampleSerde : Serde Unit where
  toString req :=
    if req = closeRequest then
      .ok "\x7b\"id\":\"muxrd-7\",\"method\":\"pane.close\",\"params\":\x7b\"pane_id\":\"p2\"\x7d\x7d"
    else .error "not encoded"
  fromStr text :=
    if text = "\x7b\"id\":\"muxrd-7\",\"result\":\x7b\"type\":\"ok\"\x7d\x7d" then .ok (.ok ()) else .error "not decoded"

def closeMeeting : Meeting :=
  .connected 100
    [.bytes (RustStd.asBytes "\x7b\"id\":\"muxrd-7\",") (by decide +kernel), .interrupted,
      .bytes (RustStd.asBytes "\"result\":\x7b\"type\":\"ok\"\x7d\x7d\n") (by decide +kernel)]

def closeLine : String :=
  "\x7b\"id\":\"muxrd-7\",\"method\":\"pane.close\",\"params\":\x7b\"pane_id\":\"p2\"\x7d\x7d\n"

theorem close_answers : Answers sampleSerde closeRequest closeMeeting (RustStd.asBytes closeLine) (.ok ()) := by
  have trimmed : trimEnd "\x7b\"id\":\"muxrd-7\",\"result\":\x7b\"type\":\"ok\"\x7d\x7d\n" =
      "\x7b\"id\":\"muxrd-7\",\"result\":\x7b\"type\":\"ok\"\x7d\x7d" := by decide +kernel
  refine ⟨_, 100, _, _, rfl, rfl, rfl, ⟨?_, ?_, .inl ?_⟩, congrArg sampleSerde.fromStr trimmed⟩
  all_goals decide +kernel

theorem close_received :
    (callAction sampleSerde "api.sock" closeRequest closeMeeting).2 = RustStd.asBytes closeLine := by
  decide +kernel

theorem action_acknowledged_iff_performed_closed : ∃ backend, run step Backend.new listing = some backend ∧
    ∃ ack, (perform sampleSerde "api.sock" backend.shared.ids "muxrd-7" (.closePane 2) closeMeeting).1 = .ok ack ∧
      ack.ok = true := by
  have ran : ∃ backend, run step Backend.new listing = some backend ∧ backend.panes = [("p1", 1), ("p2", 2)] ∧
      backend.tabs = [] ∧ prepare backend.shared.ids (.closePane 2) = .ok (closeRequest.method, closeRequest.params) :=
    ⟨_, rfl, rfl, rfl, rfl⟩
  obtain ⟨backend, ran, panes, tabs, prepared⟩ := ran
  have performed := action_acknowledged_iff_performed sampleSerde "api.sock" "muxrd-7" (.closePane 2) closeMeeting ran
    (by rw [panes]; decide) (by rw [tabs]; decide)
  have named : backend.Names "p2" (.pane 2) := by
    have shown : ("p2", 2) ∈ backend.panes := by
      rw [panes]
      decide
    exact shown
  have received : (perform sampleSerde "api.sock" backend.shared.ids "muxrd-7" (.closePane 2) closeMeeting).2 =
      RustStd.asBytes closeLine := by
    rw [perform, prepared]
    exact close_received
  exact ⟨backend, ran, performed.1.mpr ⟨"p2", (), named, received.symm ▸ close_answers⟩⟩

end Runs

end Muxrd.Addressing
