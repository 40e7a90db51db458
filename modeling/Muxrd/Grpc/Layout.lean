import Muxrd.Multiplexer.Routing
import Muxrd.Relay.Registry

set_option autoImplicit false

namespace Muxrd.Layout

structure PaneMsg where
  id : UInt32
  title : String
  isFocused : Bool
  isFloating : Bool
  exited : Bool
  command : String
  cwd : String
  x : UInt32
  y : UInt32
  rows : UInt32
  cols : UInt32
  isPlugin : Bool
  isFullscreen : Bool
  deriving DecidableEq, Repr

structure TabMsg where
  position : UInt32
  name : String
  active : Bool
  hasBell : Bool
  panesToHide : UInt32
  tabId : UInt32
  panes : List PaneMsg
  fullscreenActive : Bool
  floatingPanesVisible : Bool
  deriving DecidableEq, Repr

structure Response where
  tabs : List TabMsg
  deriving DecidableEq, Repr

section Chosen

variable (control : ControlRegistry) (session connectionId : String)

def exactRelay : Option (String × Nat) :=
  if connectionId = "" then none
  else
    match control.lookup connectionId with
    | some entry => if entry.session = session then some (connectionId, entry.sender) else none
    | none => none

-- Any relay of the session, read-only ones and those of a collapsed session included.
def sessionRelay : Option (String × Nat) :=
  (control.entries.find? fun entry => entry.2.session = session).map fun entry => (entry.1, entry.2.sender)

def relayEntry : Option (String × Nat) :=
  (exactRelay control session connectionId).orElse fun _ => sessionRelay control session

end Chosen

section Respond

def paneIsClientVisible (isPlugin : Bool) : Bool := !isPlugin

def shouldApplyViewStateOverride (viaRelay : Bool) (requestConnectionId relayConnId : String) : Bool :=
  viaRelay && requestConnectionId ≠ "" && relayConnId = requestConnectionId

def relayView (viewState : ViewStateRegistry) (viaRelay : Bool) (connectionId relayConnId : String) :
    Option RelayViewState :=
  if shouldApplyViewStateOverride viaRelay connectionId relayConnId then
    (viewState.lookup relayConnId).map (·.state)
  else none

def activeOverride (view : Option RelayViewState) : Option UInt64 :=
  view.bind (·.activeTab)

def paneMsg (view : Option RelayViewState) (inActiveTab : Bool) (pane : PaneSnapshot) : PaneMsg :=
  -- The focus is overridden in the relay's active tab only; other tabs keep their own.
  let isFocused :=
    if inActiveTab then
      match view.bind (·.focusedPane) with
      | some focused => focused.isPlugin = pane.isPlugin && focused.id = pane.id
      | none => pane.isFocused
    else pane.isFocused
  { id := pane.id
    title := pane.title
    isFocused
    isFloating := pane.isFloating
    exited := pane.exited
    command := pane.command
    cwd := pane.cwd
    x := pane.x
    y := pane.y
    rows := pane.rows
    cols := pane.cols
    isPlugin := pane.isPlugin
    isFullscreen := pane.isFullscreen }

def tabMsg (view : Option RelayViewState) (tab : TabSnapshot) : TabMsg :=
  let shown := (activeOverride view).map fun active => decide (tab.tabId = active)
  { position := tab.position
    name := tab.name
    active := shown.getD tab.active
    hasBell := tab.hasBell
    panesToHide := tab.panesToHide
    tabId := tab.tabId.toUInt32
    panes := (tab.panes.filter fun pane => paneIsClientVisible pane.isPlugin).map
      (paneMsg view (shown.getD false))
    fullscreenActive := tab.fullscreenActive
    floatingPanesVisible := tab.floatingPanesVisible }

def respond (view : Option RelayViewState) (snapshot : LayoutSnapshot) : Response :=
  { tabs := snapshot.tabs.map (tabMsg view) }

def ephemeral (result : Except String LayoutSnapshot) : Except Status LayoutSnapshot :=
  result.mapError fun error => { code := .internal, message := [.text ("GetLayout query failed: " ++ error)] }

end Respond

section Facts

variable {control : ControlRegistry} {session connectionId : String}

theorem exactRelay_some {relay : String × Nat} : exactRelay control session connectionId = some relay ↔
    connectionId ≠ "" ∧ ∃ entry, control.lookup connectionId = some entry ∧ entry.session = session ∧
      relay = (connectionId, entry.sender) := by
  unfold exactRelay
  by_cases absent : connectionId = ""
  · simp [absent]
  · cases found : control.lookup connectionId with
    | none => simp [absent]
    | some entry =>
      by_cases same : entry.session = session
      · simp [absent, same, eq_comm]
      · simp [absent, same]

theorem sessionRelay_some {key : String} {sender : Nat}
    (chosen : sessionRelay control session = some (key, sender)) :
    ∃ entry, control.lookup key = some entry ∧ entry.session = session ∧ entry.sender = sender := by
  unfold sessionRelay at chosen
  rw [Option.map_eq_some_iff] at chosen
  obtain ⟨⟨found, entry⟩, first, same⟩ := chosen
  obtain ⟨rfl, rfl⟩ := Prod.mk.inj same
  refine ⟨entry, AList.mem_lookup_iff.mpr (List.mem_of_find?_eq_some first), ?_, rfl⟩
  simpa using List.find?_some first

end Facts

end Muxrd.Layout
