import Muxrd.Lib.Run
import Muxrd.Lib.Utf8
import Muxrd.Multiplexer.Sender

set_option autoImplicit false

namespace Muxrd.Inbound

/-- Bookkeeping of the model: which request a queued command came from, and under what token. -/
structure Ticket where
  id : Nat
  readOnlyCaller : Bool
  deriving DecidableEq, Repr

inductive Cause
  | frame
  | command (ticket : Ticket)
  | layoutTask
  | teardown
  deriving DecidableEq, Repr

inductive Reply
  | space (result : Except String Unit)
  | layout (result : Except String LayoutSnapshot)
  deriving DecidableEq

inductive Phase
  -- The guard exists, the view state is being queried and nothing is registered.
  | initialising
  | running
  | broken
  | deregistered
  | closed
  deriving DecidableEq, Repr

structure AttachReq where
  session : String
  rows : UInt32
  cols : UInt32
  deriving DecidableEq, Repr

inductive ClientFrame
  | attach (req : AttachReq)
  | input (bytes : List UInt8)
  | resize (rows cols : UInt32)
  | empty
  deriving DecidableEq, Repr

inductive FloatQuery
  | timedOut
  | failed
  | answered (isFloating visible : Bool) (focused : Option PaneRef)
  deriving DecidableEq, Repr

/-- One attached relay: the inbound task with its sender, the guard's cloned sender, the spawned layout
tasks, and everything they have done so far. -/
structure Relay (State World : Type) where
  readOnly : Bool
  connectionId : String
  session : String
  rows : UInt16
  cols : UInt16
  phase : Phase
  sender : State
  nudge : State
  nextQuerySeq : UInt64
  world : World
  viewState : ViewStateRegistry
  renderThreadAlive : Bool
  handedOff : List InFlightQuery
  pool : List (State × Nat)
  calls : List (Cause × MuxCall)
  replies : List (Nat × Reply)

def maxInputFrameBytes : Nat := 1024 * 1024

def clampDim (value : UInt32) (default : UInt16) : UInt16 :=
  if value = 0 then default else (min value 65535).toUInt16

def initRelayViewState (snapshot : LayoutSnapshot) : RelayViewState :=
  let active := snapshot.tabs.find? (·.active)
  { activeTab := active.map (·.tabId)
    focusedPane := active.bind fun tab =>
      (tab.panes.find? (·.isFocused)).map fun pane => { id := pane.id, isPlugin := pane.isPlugin }
    currentSpace := none }

section Arms

variable {Answer State World : Type}

namespace Relay

-- `view_state.get_mut(&connection_id)`: nothing happens when the entry is gone.
def updateView (update : RelayViewState -> RelayViewState)
    (relay : Relay State World) : Relay State World :=
  match relay.viewState.lookup relay.connectionId with
  | some entry =>
    { relay with
      viewState := relay.viewState.insert relay.connectionId { entry with state := update entry.state } }
  | none => relay

def answerReply (id : Nat) (reply : Reply) (relay : Relay State World) : Relay State World :=
  { relay with replies := relay.replies ++ [(id, reply)] }

variable (mux : MuxSender Answer State World)

def call (cause : Cause) (answer : Answer) (muxCall : MuxCall) (relay : Relay State World) :
    Except String Unit × Relay State World :=
  let (result, sender, world) := mux.call answer muxCall relay.sender relay.world
  (result, { relay with sender, world, calls := relay.calls ++ [(cause, muxCall)] })

end Relay

variable (mux : MuxSender Answer State World)

def onSwitchTab (ticket : Ticket) (answer : Answer) (tabId : UInt64) (relay : Relay State World) :
    Relay State World :=
  if relay.readOnly then relay
  else
    match relay.call mux (.command ticket) answer (.goToTab tabId) with
    | (.error _, after) => after
    | (.ok _, after) =>
      after.updateView fun state => { state with activeTab := some tabId, focusedPane := none }

def onFocusPane (ticket : Ticket) (answer : Answer) (pane : PaneRef) (relay : Relay State World) :
    Relay State World :=
  if relay.readOnly then relay
  else
    match relay.call mux (.command ticket) answer (.focusPane pane) with
    | (.error _, after) => after
    | (.ok _, after) => after.updateView fun state => { state with focusedPane := some pane }

def onSwitchSpace (ticket : Ticket) (answer : Answer) (workspaceId : String) (reply : Nat)
    (relay : Relay State World) : Relay State World :=
  if relay.readOnly then
    relay.answerReply reply (.space (.error "read-only token: SwitchSpace is not allowed"))
  else
    match relay.call mux (.command ticket) answer (.switchSpace workspaceId) with
    | (.error message, after) => after.answerReply reply (.space (.error message))
    | (.ok _, after) =>
      (after.updateView fun _ =>
        { activeTab := none, focusedPane := none, currentSpace := some workspaceId }).answerReply
          reply (.space (.ok ()))

-- `none` when the live query timed out and the toggle is skipped.
def resolveHint (pane : PaneRef) (hint : Option FloatingHint) (query : FloatQuery) :
    Option FullscreenHint :=
  match hint with
  | some hint =>
    some
      { isFloating := hint.targetIsFloating
        floatingVisible := hint.floatingVisible
        isFocusedFloating := hint.targetIsFocusedFloating }
  | none =>
    match query with
    | .timedOut => none
    | .failed => some { isFloating := false, floatingVisible := false, isFocusedFloating := false }
    | .answered isFloating visible focused =>
      some { isFloating, floatingVisible := visible, isFocusedFloating := focused = some pane }

def isHide (hint : FullscreenHint) : Bool :=
  hint.isFloating && hint.floatingVisible && hint.isFocusedFloating

def onToggleFullscreen (ticket : Ticket) (answer : Answer) (query : FloatQuery) (pane : PaneRef)
    (hint : Option FloatingHint) (relay : Relay State World) : Relay State World :=
  if relay.readOnly then relay
  else
    match resolveHint pane hint query with
    | none => relay
    | some resolved =>
      match relay.call mux (.command ticket) answer (.toggleFullscreen pane resolved) with
      | (.error _, after) => after
      | (.ok _, after) =>
        after.updateView fun state =>
          { state with focusedPane := if isHide resolved then none else some pane }

def handleQueryLayout (ticket : Ticket) (answer : Answer) (reply : Nat) (seq : UInt64)
    (relay : Relay State World) : Relay State World :=
  if mux.hasSyncLayout then { relay with pool := relay.pool ++ [(mux.boxClone relay.sender, reply)] }
  else if relay.renderThreadAlive then
    let armed : Relay State World :=
      { relay with handedOff := relay.handedOff ++ [{ seq, reply, tabs := none }] }
    (armed.call mux (.command ticket) answer .queryLayout).2
  else relay.answerReply reply (.layout (.error "render thread not available"))

def onControl (ticket : Ticket) (cmd : RelayControl) (query : FloatQuery) (answer : Answer)
    (relay : Relay State World) : Relay State World :=
  match cmd with
  | .switchTab tabId => onSwitchTab mux ticket answer tabId relay
  | .focusPane pane => onFocusPane mux ticket answer pane relay
  | .switchSpace workspaceId reply => onSwitchSpace mux ticket answer workspaceId reply relay
  | .toggleFullscreen pane hint => onToggleFullscreen mux ticket answer query pane hint relay
  | .queryLayout reply =>
    handleQueryLayout mux ticket answer reply relay.nextQuerySeq
      { relay with nextQuerySeq := relay.nextQuerySeq + 1 }

def forwardInput (answer : Answer) (bytes : List UInt8) (relay : Relay State World) :
    Except String Unit × Relay State World :=
  match RustStd.fromUtf8 bytes with
  | some text => relay.call mux .frame answer (.sendInputChars text)
  | none => relay.call mux .frame answer (.sendInputBytes bytes)

-- A failed send is logged and the loop goes on.
def onFrame (answer : Answer) (frame : ClientFrame) (relay : Relay State World) : Relay State World :=
  match frame with
  | .input bytes =>
    if relay.readOnly then relay
    else if bytes.length > maxInputFrameBytes then relay
    else (forwardInput mux answer bytes relay).2
  | .resize rows cols =>
    if relay.readOnly then relay
    else (relay.call mux .frame answer (.sendResize (clampDim rows 24) (clampDim cols 80))).2
  | .attach _ => relay
  | .empty => relay

-- `ShutdownGuard::drop`: the stop flag and the join belong to the reader, the nudge to the sender.
def dropGuard (answer : Answer) (relay : Relay State World) : Relay State World :=
  let nudged := if relay.readOnly then .sendClientExited else .sendResize relay.rows relay.cols
  let (_, nudge, world) := mux.call answer nudged relay.nudge relay.world
  { relay with phase := .closed, nudge, world, calls := relay.calls ++ [(.teardown, nudged)] }

-- The closure spawned on the blocking pool for a layout query.
def runLayoutTask (answer : Answer) (state : State) (reply : Nat) (relay : Relay State World) :
    Relay State World :=
  let (result, _, world) := mux.queryLayoutResult answer state relay.world
  let queried : Relay State World :=
    { relay with world, calls := relay.calls ++ [(.layoutTask, .queryLayoutResult)] }
  queried.answerReply reply
    (.layout (result.getD (.error "query_layout_result returned None for a sync-layout backend")))

inductive Event (Answer : Type)
  -- `attach_relay` after its view-state query, successful or not.
  | initialised (layout : Except String LayoutSnapshot)
  -- The attach future is dropped while that query runs.
  | cancelled (answer : Answer)
  | recheck (valid : Bool)
  | command (ticket : Ticket) (cmd : RelayControl) (query : FloatQuery) (answer : Answer)
  | frame (frame : ClientFrame) (answer : Answer)
  | streamError
  | streamEnd
  | deregister
  | dropGuard (answer : Answer)
  | layoutTask (index : Nat) (answer : Answer)
  | renderThreadEnds
  -- Other connections write their own entries of the shared map, and use the same backend.
  | sibling (connectionId : String) (entry : Option ViewStateEntry)
  | elsewhere (answer : Answer)

def step (relay : Relay State World) : Event Answer -> Option (Relay State World)
  | .initialised layout =>
    if relay.phase = .initialising then
      let state := match layout with
        | .ok snapshot => initRelayViewState snapshot
        | .error _ => {}
      some { relay with
        phase := .running
        viewState := relay.viewState.insert relay.connectionId { session := relay.session, state } }
    else none
  | .cancelled answer => if relay.phase = .initialising then some (dropGuard mux answer relay) else none
  | .recheck valid =>
    if relay.phase = .running then some (if valid then relay else { relay with phase := .broken }) else none
  | .command ticket cmd query answer =>
    if relay.phase = .running then some (onControl mux ticket cmd query answer relay) else none
  | .frame frame answer => if relay.phase = .running then some (onFrame mux answer frame relay) else none
  | .streamError | .streamEnd =>
    if relay.phase = .running then some { relay with phase := .broken } else none
  | .deregister =>
    if relay.phase = .broken then
      some { relay with phase := .deregistered, viewState := relay.viewState.erase relay.connectionId }
    else none
  | .dropGuard answer => if relay.phase = .deregistered then some (dropGuard mux answer relay) else none
  | .layoutTask index answer =>
    match relay.pool[index]? with
    | some (state, reply) =>
      some (runLayoutTask mux answer state reply { relay with pool := relay.pool.eraseIdx index })
    | none => none
  | .renderThreadEnds => some { relay with renderThreadAlive := false }
  | .sibling connectionId entry =>
    if connectionId = relay.connectionId then none
    else
      some { relay with
        viewState := match entry with
          | some entry => relay.viewState.insert connectionId entry
          | none => relay.viewState.erase connectionId }
  | .elsewhere answer => some { relay with world := mux.elsewhere answer relay.world }

end Arms

end Muxrd.Inbound
