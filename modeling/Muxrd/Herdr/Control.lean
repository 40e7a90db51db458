import Muxrd.Herdr.Registry
import Muxrd.Types

set_option autoImplicit false

namespace Muxrd.Herdr

structure WorkspaceInfo where
  workspaceId : String
  label : String
  focused : Bool
  activeTabId : String
  deriving DecidableEq, Repr

structure TabInfo where
  tabId : String
  number : Nat
  label : String
  deriving DecidableEq, Repr

structure PaneInfo where
  paneId : String
  terminalId : String
  tabId : String
  focused : Bool
  cwd : Option String
  label : Option String
  title : Option String
  deriving DecidableEq, Repr

structure PaneLayoutRect where
  x : UInt16
  y : UInt16
  width : UInt16
  height : UInt16
  deriving DecidableEq, Repr

structure PaneLayoutPane where
  paneId : String
  focused : Bool
  rect : PaneLayoutRect
  deriving DecidableEq, Repr

structure PaneLayoutSnapshot where
  tabId : String
  zoomed : Bool
  panes : List PaneLayoutPane
  deriving DecidableEq, Repr

/-- What herdr answers to a request at one moment. An error is a transport or protocol failure, or a
herdr API error; for `pane.zoom` the latter is a failed ack. -/
structure Api where
  workspaceList : Except String (List WorkspaceInfo)
  tabList : String -> Except String (List TabInfo)
  paneList : String -> Except String (List PaneInfo)
  paneLayout : Option String -> Except String PaneLayoutSnapshot
  paneZoom : Option String -> Except String ActionAck

/-- herdr as one operation meets it: every request is a connection of its own, so the moments of its
requests differ. -/
abbrev Daemon := Nat -> Api

structure Ids where
  panes : HerdrPaneRegistry
  tabs : HerdrTabRegistry

def registerPanes (panes : List PaneInfo) (registry : HerdrPaneRegistry) : HerdrPaneRegistry :=
  panes.foldl (fun registry pane => (registry.assignOrGet pane.paneId pane.terminalId).2) registry

section Transcode

abbrev TabLayouts := AList (fun _ : String => PaneLayoutSnapshot)

-- Of two panes with one id the later is kept, as a map insertion does.
def infoByPane (panes : List PaneInfo) : AList (fun _ : String => PaneInfo) :=
  panes.foldl (fun infos pane => infos.insert pane.paneId pane) ∅

def transcodePane (infos : AList (fun _ : String => PaneInfo)) (zoomed : Bool) (pane : PaneLayoutPane)
    (registry : HerdrPaneRegistry) : PaneSnapshot × HerdrPaneRegistry :=
  let info := infos.lookup pane.paneId
  let (id, after) := registry.assignOrGet pane.paneId ((info.map (·.terminalId)).getD "")
  ({ id
     title := (info.bind fun found => found.title.orElse fun _ => found.label).getD ""
     isFocused := pane.focused
     isFloating := false
     exited := false
     command := ""
     cwd := (info.bind (·.cwd)).getD ""
     x := pane.rect.x.toUInt32
     y := pane.rect.y.toUInt32
     rows := pane.rect.height.toUInt32
     cols := pane.rect.width.toUInt32
     isPlugin := false
     isFullscreen := zoomed }, after)

def transcodePanes (infos : AList (fun _ : String => PaneInfo)) (zoomed : Bool) :
    List PaneLayoutPane -> HerdrPaneRegistry -> List PaneSnapshot × HerdrPaneRegistry
  | [], registry => ([], registry)
  | pane :: rest, registry =>
    let (snapshot, after) := transcodePane infos zoomed pane registry
    let (snapshots, final) := transcodePanes infos zoomed rest after
    (snapshot :: snapshots, final)

def transcodeTab (infos : AList (fun _ : String => PaneInfo)) (layouts : TabLayouts)
    (activeTabId : String)
    (tab : TabInfo) (ids : Ids) : TabSnapshot × Ids :=
  let (tabId, tabs) := ids.tabs.assignOrGet tab.tabId
  let layout := layouts.lookup tab.tabId
  let zoomed := (layout.map (·.zoomed)).getD false
  let (panes, registry) := transcodePanes infos zoomed ((layout.map (·.panes)).getD []) ids.panes
  ({ tabId
     position := UInt32.ofNat tab.number
     name := tab.label
     active := tab.tabId = activeTabId
     hasBell := false
     panesToHide := 0
     fullscreenActive := zoomed
     floatingPanesVisible := false
     panes }, { panes := registry, tabs })

def transcodeTabs (infos : AList (fun _ : String => PaneInfo)) (layouts : TabLayouts)
    (activeTabId : String) :
    List TabInfo -> Ids -> List TabSnapshot × Ids
  | [], ids => ([], ids)
  | tab :: rest, ids =>
    let (snapshot, after) := transcodeTab infos layouts activeTabId tab ids
    let (snapshots, final) := transcodeTabs infos layouts activeTabId rest after
    (snapshot :: snapshots, final)

def transcodeLayout (tabs : List TabInfo) (panes : List PaneInfo) (layouts : TabLayouts)
    (activeTabId : String) (ids : Ids) : LayoutSnapshot × Ids :=
  let (snapshots, after) := transcodeTabs (infoByPane panes) layouts activeTabId tabs
    { ids with panes := registerPanes panes ids.panes }
  ({ tabs := snapshots }, after)

end Transcode

section Queries

-- The first listed pane of each tab stands for the tab.
def representatives (panes : List PaneInfo) : AList (fun _ : String => String) :=
  panes.foldl (fun found pane =>
    if pane.tabId ∈ found then found else found.insert pane.tabId pane.paneId) ∅

-- One `pane.layout` for every tab that has a pane; `request` numbers the requests.
def fetchLayouts (daemon : Daemon) (representative : AList (fun _ : String => String)) :
    Nat -> List TabInfo -> TabLayouts -> Except String TabLayouts
  | _, [], layouts => .ok layouts
  | request, tab :: rest, layouts =>
    if tab.tabId ∈ layouts then fetchLayouts daemon representative request rest layouts
    else
      match representative.lookup tab.tabId with
      | none => fetchLayouts daemon representative request rest layouts
      | some paneId =>
        match (daemon request).paneLayout (some paneId) with
        | .error message => .error message
        | .ok layout =>
          fetchLayouts daemon representative (request + 1) rest (layouts.insert layout.tabId layout)

def queryLayout (daemon : Daemon) (workspaceId : String) (ids : Ids) :
    Except String LayoutSnapshot × Ids :=
  match (daemon 0).workspaceList, (daemon 1).tabList workspaceId, (daemon 2).paneList workspaceId with
  | .error message, _, _ => (.error message, ids)
  | .ok _, .error message, _ => (.error message, ids)
  | .ok _, .ok _, .error message => (.error message, ids)
  | .ok workspaces, .ok tabs, .ok panes =>
    let activeTabId := ((workspaces.find? (·.workspaceId = workspaceId)).map (·.activeTabId)).getD ""
    match fetchLayouts daemon (representatives panes) 3 tabs ∅ with
    | .error message => (.error message, ids)
    | .ok layouts =>
      let (snapshot, after) := transcodeLayout tabs panes layouts activeTabId ids
      (.ok snapshot, after)

def unknownPane (id : UInt32) : ActionAck :=
  { ok := false, error := some ("unknown herdr pane id " ++ toString id), info := none }

def zoomPane (daemon : Daemon) (pane : UInt32) (ids : Ids) : Except String ActionAck :=
  match ids.panes.herdrPaneId pane with
  | none => .ok (unknownPane pane)
  | some paneId => (daemon 0).paneZoom (some paneId)

def pickActiveOrFirst (workspaces : List WorkspaceInfo) : Option WorkspaceInfo :=
  (workspaces.find? (·.focused)).orElse fun _ => workspaces.head?

def activeOrFirstWorkspaceId (api : Api) : Except String String :=
  match api.workspaceList with
  | .error message => .error message
  | .ok workspaces =>
    match pickActiveOrFirst workspaces with
    | some workspace => .ok workspace.workspaceId
    | none => .error "herdr: daemon has no workspaces to attach"

def workspaceIdFor (api : Api) (session : String) : Except String String :=
  match api.workspaceList with
  | .error message => .error message
  | .ok workspaces =>
    match workspaces.filter (·.label = session) with
    | [] => .error ("herdr: no workspace with label '" ++ session ++ "'")
    | [workspace] => .ok workspace.workspaceId
    | _ :: _ :: _ =>
      .error ("herdr: ambiguous session: multiple herdr workspaces labeled '" ++ session ++ "'")

def herdrSession : String := "herdr"

def resolveWorkspace (api : Api) (session : String) : Except String String :=
  if session = herdrSession then activeOrFirstWorkspaceId api else workspaceIdFor api session

-- `HerdrBackend::query_layout`: the session is resolved first, at a moment of its own.
def backendQueryLayout (daemon : Daemon) (session : String) (ids : Ids) :
    Except String LayoutSnapshot × Ids :=
  match resolveWorkspace (daemon 0) session with
  | .error message => (.error message, ids)
  | .ok workspaceId => queryLayout (fun request => daemon (request + 1)) workspaceId ids

def spaceFromWorkspace (workspace : WorkspaceInfo) : SpaceSnapshot :=
  { id := workspace.workspaceId, name := workspace.label, active := workspace.focused }

def listSpaces (api : Api) : Except String (List SpaceSnapshot) :=
  api.workspaceList.map (·.map spaceFromWorkspace)

end Queries

end Muxrd.Herdr
