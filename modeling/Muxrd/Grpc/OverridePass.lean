import Mathlib.Algebra.GroupWithZero.Nat
import Muxrd.Grpc.Layout

set_option autoImplicit false

namespace Muxrd.Layout

def ExactMatch (viaRelay : Bool) (connectionId relayConnId : String) : Prop :=
  viaRelay = true ∧ connectionId ≠ "" ∧ relayConnId = connectionId

theorem shouldApplyViewStateOverride_iff {viaRelay : Bool} {connectionId relayConnId : String} :
    shouldApplyViewStateOverride viaRelay connectionId relayConnId = true ↔
      ExactMatch viaRelay connectionId relayConnId := by
  simp [shouldApplyViewStateOverride, ExactMatch, and_assoc]

def visiblePanes (tab : TabSnapshot) : List PaneSnapshot :=
  tab.panes.filter fun pane => !pane.isPlugin

structure KeepsPane (pane : PaneSnapshot) (msg : PaneMsg) : Prop where
  id : msg.id = pane.id
  title : msg.title = pane.title
  isFloating : msg.isFloating = pane.isFloating
  exited : msg.exited = pane.exited
  command : msg.command = pane.command
  cwd : msg.cwd = pane.cwd
  x : msg.x = pane.x
  y : msg.y = pane.y
  rows : msg.rows = pane.rows
  cols : msg.cols = pane.cols
  isPlugin : msg.isPlugin = pane.isPlugin
  isFullscreen : msg.isFullscreen = pane.isFullscreen

structure KeepsTab (tab : TabSnapshot) (msg : TabMsg) : Prop where
  position : msg.position = tab.position
  name : msg.name = tab.name
  hasBell : msg.hasBell = tab.hasBell
  panesToHide : msg.panesToHide = tab.panesToHide
  fullscreenActive : msg.fullscreenActive = tab.fullscreenActive
  floatingPanesVisible : msg.floatingPanesVisible = tab.floatingPanesVisible
  tabId : msg.tabId.toNat = tab.tabId.toNat % 2 ^ 32
  panes : List.Forall₂ KeepsPane (visiblePanes tab) msg.panes

structure Marked (current : UInt64) (focusedPane : Option PaneRef) (tab : TabSnapshot) (msg : TabMsg) : Prop where
  active : msg.active = true ↔ tab.tabId = current
  elsewhere : tab.tabId ≠ current ->
    List.Forall₂ (fun pane shown => shown.isFocused = pane.isFocused) (visiblePanes tab) msg.panes
  focused : tab.tabId = current -> ∀ focus, focusedPane = some focus ->
    List.Forall₂ (fun pane shown => shown.isFocused = true ↔ pane.id = focus.id ∧ pane.isPlugin = focus.isPlugin)
      (visiblePanes tab) msg.panes

section OneTab

variable (view : Option RelayViewState)

theorem keepsPane (inActiveTab : Bool) (pane : PaneSnapshot) : KeepsPane pane (paneMsg view inActiveTab pane) := by
  constructor <;> rfl

theorem keepsTab (tab : TabSnapshot) : KeepsTab tab (tabMsg view tab) := by
  constructor
  case tabId => exact UInt64.toNat_toUInt32 tab.tabId
  case panes =>
    simp only [tabMsg, paneIsClientVisible, visiblePanes, List.forall₂_map_right_iff, List.forall₂_same]
    intro pane _
    exact keepsPane view _ pane
  all_goals rfl

theorem marked {active : UInt64} (tab : TabSnapshot) {state : RelayViewState} (known : state.activeTab = some active) :
    Marked active state.focusedPane tab (tabMsg (some state) tab) := by
  constructor
  case active => simp [tabMsg, activeOverride, known]
  case elsewhere =>
    intro other
    simp [tabMsg, paneMsg, paneIsClientVisible, visiblePanes, activeOverride, known, other]
  case focused =>
    intro here focus focused
    simp only [tabMsg, paneIsClientVisible, visiblePanes, List.forall₂_map_right_iff, List.forall₂_same]
    intro pane _
    have override : (paneMsg (some state) true pane).isFocused =
        (decide (focus.isPlugin = pane.isPlugin) && decide (focus.id = pane.id)) := by
      simp [paneMsg, focused]
    simp only [activeOverride, known, here, Option.bind_some, Option.map_some, decide_true, Option.getD_some,
      override, Bool.and_eq_true, decide_eq_true_eq]
    constructor
    · intro same
      exact ⟨same.2.symm, same.1.symm⟩
    · intro same
      exact ⟨same.2.symm, same.1.symm⟩

end OneTab

theorem relayView_exact {viewState : ViewStateRegistry} {viaRelay : Bool} {connectionId relayConnId : String}
    {entry : ViewStateEntry} (matched : ExactMatch viaRelay connectionId relayConnId)
    (found : viewState.lookup relayConnId = some entry) :
    relayView viewState viaRelay connectionId relayConnId = some entry.state := by
  simp [relayView, shouldApplyViewStateOverride_iff.mpr matched, found]

theorem relayView_inexact {viaRelay : Bool} {connectionId relayConnId : String}
    (inexact : ¬ ExactMatch viaRelay connectionId relayConnId) (viewState : ViewStateRegistry) :
    relayView viewState viaRelay connectionId relayConnId = none := by
  rw [← shouldApplyViewStateOverride_iff] at inexact
  simp [relayView, inexact]

/-- What GetLayout answers for a snapshot, whichever relay answered the query. -/
theorem override_pass (snapshot : LayoutSnapshot) (viewState : ViewStateRegistry) (viaRelay : Bool)
    (connectionId relayConnId : String) :
    List.Forall₂ KeepsTab snapshot.tabs
        (respond (relayView viewState viaRelay connectionId relayConnId) snapshot).tabs ∧
      (¬ ExactMatch viaRelay connectionId relayConnId -> ∀ others : ViewStateRegistry,
        respond (relayView others viaRelay connectionId relayConnId) snapshot =
          respond (relayView viewState viaRelay connectionId relayConnId) snapshot) ∧
      (ExactMatch viaRelay connectionId relayConnId -> ∀ entry active,
        viewState.lookup relayConnId = some entry -> entry.state.activeTab = some active ->
          List.Forall₂ (Marked active entry.state.focusedPane) snapshot.tabs
            (respond (relayView viewState viaRelay connectionId relayConnId) snapshot).tabs) := by
  refine ⟨?keeps, ?independent, ?marks⟩
  case keeps =>
    simp only [respond, List.forall₂_map_right_iff, List.forall₂_same]
    intro tab _
    exact keepsTab _ tab
  case independent =>
    intro inexact others
    rw [relayView_inexact inexact, relayView_inexact inexact]
  case marks =>
    intro matched entry active found known
    rw [relayView_exact matched found]
    simp only [respond, List.forall₂_map_right_iff, List.forall₂_same]
    intro tab _
    exact marked tab known

-- The caller's own relay is on the second tab and has focused its right pane: the left pane loses the
-- focus it was queried with, the first tab keeps its own, and the plugin pane is left out.
def splitSnapshot : LayoutSnapshot :=
  let pane (id : UInt32) (isFocused isPlugin : Bool) : PaneSnapshot :=
    { id, title := "", isFocused, isFloating := false, exited := false, command := "", cwd := "", x := 0, y := 0,
      rows := 24, cols := 80, isPlugin, isFullscreen := false }
  let tab (tabId : UInt64) (position : UInt32) (active : Bool) (panes : List PaneSnapshot) : TabSnapshot :=
    { tabId, position, name := "", active, hasBell := false, panesToHide := 0, fullscreenActive := false,
      floatingPanesVisible := false, panes }
  { tabs := [tab 1 0 true [pane 1 true false], tab 2 1 false [pane 2 true false, pane 2 true true, pane 3 false false]] }

def splitViewState : ViewStateRegistry :=
  AList.insert "a" { session := "dev", state := { activeTab := some 2, focusedPane := some (.terminal 3) } } ∅

theorem override_pass_split :
    List.Forall₂ (Marked 2 (some (.terminal 3))) splitSnapshot.tabs
      (respond (relayView splitViewState true "a" "a") splitSnapshot).tabs :=
  (override_pass splitSnapshot splitViewState true "a" "a").2.2 ⟨rfl, by decide, rfl⟩
    { session := "dev", state := { activeTab := some 2, focusedPane := some (.terminal 3) } } 2 rfl rfl

example : (respond (relayView splitViewState true "a" "a") splitSnapshot).tabs.map
    (fun tab => (tab.active, tab.panes.map fun pane => (pane.id, pane.isFocused))) =
      [(false, [(1, true)]), (true, [(2, false), (3, true)])] := by decide

end Muxrd.Layout
