import Mathlib.Algebra.GroupWithZero.Nat
import Muxrd.Lib.Grouping
import Muxrd.Types

set_option autoImplicit false

namespace Muxrd.Zellij

open Grouping

/-- A tab as zellij's `ListTabs` reports it. A `usize` has 64 bits. -/
structure TabInfo where
  position : UInt64
  name : String
  active : Bool
  panesToHide : UInt64
  isFullscreenActive : Bool
  areFloatingPanesVisible : Bool
  tabId : UInt64
  hasBellNotification : Bool
  deriving DecidableEq, Repr

structure PaneInfo where
  id : UInt32
  isPlugin : Bool
  isFocused : Bool
  isFullscreen : Bool
  isFloating : Bool
  title : String
  exited : Bool
  paneX : UInt64
  paneY : UInt64
  paneRows : UInt64
  paneColumns : UInt64
  deriving DecidableEq, Repr

structure PaneListEntry where
  paneInfo : PaneInfo
  tabId : UInt64
  paneCommand : Option String
  paneCwd : Option String
  deriving DecidableEq, Repr

section Parse

def paneSnapshot (entry : PaneListEntry) : PaneSnapshot :=
  let p := entry.paneInfo
  { id := p.id
    title := p.title
    isFocused := p.isFocused
    isFloating := p.isFloating
    exited := p.exited
    command := entry.paneCommand.getD ""
    cwd := entry.paneCwd.getD ""
    x := p.paneX.toUInt32
    y := p.paneY.toUInt32
    rows := p.paneRows.toUInt32
    cols := p.paneColumns.toUInt32
    isPlugin := p.isPlugin
    isFullscreen := p.isFullscreen }

def tabSnapshot (tab : TabInfo) (panes : List PaneSnapshot) : TabSnapshot :=
  { tabId := tab.tabId
    position := tab.position.toUInt32
    name := tab.name
    active := tab.active
    hasBell := tab.hasBellNotification
    panesToHide := tab.panesToHide.toUInt32
    fullscreenActive := tab.isFullscreenActive
    floatingPanesVisible := tab.areFloatingPanesVisible
    panes }

/-- The two decoders are serde_json's. -/
structure Decoders where
  tabs : String -> Except String (List TabInfo)
  panes : String -> Except String (List PaneListEntry)

def parseZellijLayout (decoders : Decoders) (tabsJson panesJson : String) : Except String LayoutSnapshot :=
  match decoders.tabs tabsJson with
  | .error e => .error ("parse_zellij_layout: parse ListTabs JSON: " ++ e)
  | .ok tabs =>
    match decoders.panes panesJson with
    | .error e => .error ("parse_zellij_layout: parse ListPanes JSON: " ++ e)
    | .ok panes =>
      let panesByTab := group (·.tabId) paneSnapshot panes
      .ok { tabs := drain (·.tabId) tabSnapshot panesByTab tabs }

end Parse

section Carried

abbrev Reading := UInt64 -> UInt32 -> Prop

def verbatim : Reading := fun wide narrow => narrow.toNat = wide.toNat

def truncated : Reading := fun wide narrow => narrow.toNat = wide.toNat % 2 ^ 32

structure CarriedPane (reading : Reading) (entry : PaneListEntry) (pane : PaneSnapshot) : Prop where
  id : pane.id = entry.paneInfo.id
  title : pane.title = entry.paneInfo.title
  isFocused : pane.isFocused = entry.paneInfo.isFocused
  isFloating : pane.isFloating = entry.paneInfo.isFloating
  exited : pane.exited = entry.paneInfo.exited
  command : pane.command = entry.paneCommand.getD ""
  cwd : pane.cwd = entry.paneCwd.getD ""
  place : reading entry.paneInfo.paneX pane.x ∧ reading entry.paneInfo.paneY pane.y
  size : reading entry.paneInfo.paneRows pane.rows ∧ reading entry.paneInfo.paneColumns pane.cols
  isPlugin : pane.isPlugin = entry.paneInfo.isPlugin
  isFullscreen : pane.isFullscreen = entry.paneInfo.isFullscreen

structure CarriedTab (reading : Reading) (panes : List PaneListEntry) (tab : TabInfo) (snapshot : TabSnapshot) :
    Prop where
  tabId : snapshot.tabId = tab.tabId
  position : reading tab.position snapshot.position
  name : snapshot.name = tab.name
  active : snapshot.active = tab.active
  hasBell : snapshot.hasBell = tab.hasBellNotification
  panesToHide : reading tab.panesToHide snapshot.panesToHide
  fullscreenActive : snapshot.fullscreenActive = tab.isFullscreenActive
  floatingPanesVisible : snapshot.floatingPanesVisible = tab.areFloatingPanesVisible
  panes : List.Forall₂ (CarriedPane reading) (panes.filter (·.tabId = tab.tabId)) snapshot.panes

structure Partitioned (reading : Reading) (tabs : List TabInfo) (panes : List PaneListEntry)
    (snapshot : LayoutSnapshot) : Prop where
  carried : List.Forall₂ (CarriedTab reading panes) tabs snapshot.tabs
  once : (snapshot.tabs.flatMap (·.panes)).Perm
    ((panes.filter (·.tabId ∈ tabs.map (·.tabId))).map paneSnapshot)

def FailsOnlyUndecoded (decoders : Decoders) (tabsJson panesJson : String) : Prop :=
  (∃ message, parseZellijLayout decoders tabsJson panesJson = .error message) ↔
    (∃ e, decoders.tabs tabsJson = .error e) ∨ ∃ e, decoders.panes panesJson = .error e

theorem truncated_toUInt32 (wide : UInt64) : truncated wide wide.toUInt32 := by
  simp [truncated]

theorem carriedPane (entry : PaneListEntry) : CarriedPane truncated entry (paneSnapshot entry) := by
  constructor <;> first | rfl | exact ⟨truncated_toUInt32 _, truncated_toUInt32 _⟩

theorem carriedTab (panes : List PaneListEntry) (tab : TabInfo) :
    CarriedTab truncated panes tab
      (tabSnapshot tab ((panes.filter (·.tabId = tab.tabId)).map paneSnapshot)) := by
  constructor <;> first | rfl | exact truncated_toUInt32 _ | skip
  simp only [tabSnapshot, List.forall₂_map_right_iff, List.forall₂_same]
  exact fun entry _ => carriedPane entry

theorem parse_ok {decoders : Decoders} {tabsJson panesJson : String} {tabs : List TabInfo}
    {panes : List PaneListEntry} (tabsDecoded : decoders.tabs tabsJson = .ok tabs)
    (panesDecoded : decoders.panes panesJson = .ok panes) (distinct : (tabs.map (·.tabId)).Nodup) :
    parseZellijLayout decoders tabsJson panesJson =
      .ok { tabs := tabs.map fun tab =>
        tabSnapshot tab ((panes.filter (·.tabId = tab.tabId)).map paneSnapshot) } := by
  simp only [parseZellijLayout, tabsDecoded, panesDecoded]
  rw [drain_distinct _ _ _ _ distinct]
  simp only [lookup_group]

theorem partitioned (tabs : List TabInfo) (panes : List PaneListEntry) (distinct : (tabs.map (·.tabId)).Nodup) :
    Partitioned truncated tabs panes
      { tabs := tabs.map fun tab =>
          tabSnapshot tab ((panes.filter (·.tabId = tab.tabId)).map paneSnapshot) } := by
  constructor
  · simp only [List.forall₂_map_right_iff, List.forall₂_same]
    exact fun tab _ => carriedTab panes tab
  · have groups := (flatMap_filter_perm (·.tabId) panes (tabs.map (·.tabId)) distinct).map paneSnapshot
    rw [List.flatMap_map, List.map_flatMap] at groups
    rw [List.flatMap_map]
    exact groups

end Carried

/-- zellij's tabs and panes become a layout, without a loss, a copy or a change of order; `usize` fields are cut
to 32 bits on the way. -/
theorem zellij_layout_partitions (decoders : Decoders) (tabsJson panesJson : String) :
    (∀ tabs panes, decoders.tabs tabsJson = .ok tabs -> decoders.panes panesJson = .ok panes ->
      (tabs.map (·.tabId)).Nodup -> ∃ snapshot,
        parseZellijLayout decoders tabsJson panesJson = .ok snapshot ∧ Partitioned truncated tabs panes snapshot) ∧
    FailsOnlyUndecoded decoders tabsJson panesJson := by
  constructor
  · intro tabs panes tabsDecoded panesDecoded distinct
    exact ⟨_, parse_ok tabsDecoded panesDecoded distinct, partitioned tabs panes distinct⟩
  · unfold FailsOnlyUndecoded parseZellijLayout
    cases decoders.tabs tabsJson with
    | error e => simp
    | ok tabs => cases decoders.panes panesJson <;> simp

section Decoded

def tab (tabId : UInt64) : TabInfo :=
  { position := tabId, name := "tab", active := tabId = 0, panesToHide := 0, isFullscreenActive := false,
    areFloatingPanesVisible := false, tabId, hasBellNotification := false }

def pane (id : UInt32) (tabId paneX : UInt64) : PaneListEntry :=
  { paneInfo :=
      { id, isPlugin := false, isFocused := id = 1, isFullscreen := false, isFloating := false, title := "pane",
        exited := false, paneX, paneY := 0, paneRows := 24, paneColumns := 80 }
    tabId
    paneCommand := none
    paneCwd := some "/" }

def alternating : Decoders :=
  { tabs := fun _ => .ok [tab 0, tab 1]
    panes := fun _ => .ok [pane 1 0 0, pane 2 1 0, pane 3 7 0, pane 4 0 80] }

theorem zellij_layout_partitions_alternating : ∃ snapshot, parseZellijLayout alternating "" "" = .ok snapshot ∧
    Partitioned truncated [tab 0, tab 1] [pane 1 0 0, pane 2 1 0, pane 3 7 0, pane 4 0 80] snapshot ∧
    snapshot.tabs.map (·.panes.map (·.id)) = [[1, 4], [2]] := by
  obtain ⟨snapshot, parsed, parts⟩ := (zellij_layout_partitions alternating "" "").1 _ _ rfl rfl (by decide)
  refine ⟨snapshot, parsed, parts, ?_⟩
  rw [← Except.ok.inj parsed]
  decide

def wide : Decoders :=
  { tabs := fun _ => .ok [tab 0]
    panes := fun _ => .ok [pane 1 0 4294967296] }

theorem wide_place_not_carried : ∃ snapshot, parseZellijLayout wide "" "" = .ok snapshot ∧
    ¬ Partitioned verbatim [tab 0] [pane 1 0 4294967296] snapshot := by
  refine ⟨_, rfl, fun parts => ?_⟩
  cases parts.carried with
  | cons tab _ =>
    have panes : List.Forall₂ (CarriedPane verbatim) [pane 1 0 4294967296] [paneSnapshot (pane 1 0 4294967296)] :=
      tab.panes
    cases panes with
    | cons pane _ =>
      have kept : (0 : Nat) = 4294967296 := pane.place.1
      cases kept

end Decoded

end Muxrd.Zellij
