import Muxrd.Lib.Sending
import Muxrd.Multiplexer.Sender

set_option autoImplicit false

namespace Muxrd.ZellijSender

open Sending

inductive PaneId
  | terminal (id : UInt32)
  | plugin (id : UInt32)
  deriving DecidableEq, Repr

inductive PercentOrFixed
  | percent (value : Nat)
  | fixed (value : Nat)
  deriving DecidableEq, Repr

structure FloatingPaneCoordinates where
  x : Option PercentOrFixed
  y : Option PercentOrFixed
  width : Option PercentOrFixed
  height : Option PercentOrFixed
  pinned : Option Bool
  borderless : Option Bool
  deriving DecidableEq, Repr

inductive Resize
  | increase
  | decrease
  deriving DecidableEq, Repr

inductive Direction
  | left
  | right
  | up
  | down
  deriving DecidableEq, Repr

/-- zellij's actions, as far as they are sent. What is left out of one, muxrd always leaves unset. -/
inductive Action
  | goToTabById (id : UInt64)
  | focusPaneByPaneId (paneId : PaneId)
  | hideFloatingPanes (tabId : Option Nat)
  | showFloatingPanes (tabId : Option Nat)
  | changeFloatingPaneCoordinates (paneId : PaneId) (coordinates : FloatingPaneCoordinates)
  | toggleFocusFullscreen
  | listTabs (showState showDimensions showPanes showLayout showAll outputJson : Bool)
  | listPanes (showTab showCommand showState showGeometry showAll outputJson : Bool)
  | writeChars (chars : String)
  | write (keyWithModifier : Option String) (bytes : List UInt8) (isKittyKeyboardProtocol : Bool)
  | writeToPaneId (bytes : List UInt8) (paneId : PaneId)
  | closeTerminalPane (paneId : UInt32)
  | closePluginPane (paneId : UInt32)
  | newFloatingPane (paneName : Option String) (nearCurrentPane : Bool)
  | newPane (paneName : Option String) (startSuppressed : Bool)
  | renameTerminalPane (paneId : UInt32) (name : List UInt8)
  | renamePluginPane (paneId : UInt32) (name : List UInt8)
  | resizeByPaneId (paneId : PaneId) (resize : Resize) (direction : Option Direction)
  | togglePaneEmbedOrFloatingByPaneId (paneId : PaneId)
  | toggleFocusFullscreenByPaneId (paneId : PaneId)
  | newTab (tabName : Option String) (shouldChangeFocusToNewTab : Bool)
  | closeTabById (id : UInt64)
  | renameTabById (id : UInt64) (name : String)
  | scrollUpByPaneId (paneId : PaneId)
  | scrollDownByPaneId (paneId : PaneId)
  | scrollToTopByPaneId (paneId : PaneId)
  | scrollToBottomByPaneId (paneId : PaneId)
  | pageScrollUpByPaneId (paneId : PaneId)
  | pageScrollDownByPaneId (paneId : PaneId)
  | halfPageScrollUpByPaneId (paneId : PaneId)
  | halfPageScrollDownByPaneId (paneId : PaneId)
  | renameSession (name : String)
  deriving DecidableEq, Repr

inductive ClientToServerMsg
  | attachClient (rows cols : Nat) (tabPositionToFocus : Option Nat) (paneToFocus : Option (UInt32 × Bool))
    (isWebClient : Bool)
  | action (action : Action) (terminalId : Option UInt32) (clientId : Option UInt16) (isCliClient : Bool)
  | terminalResize (rows cols : Nat)
  | clientExited
  deriving DecidableEq, Repr

abbrev Sender := Program ClientToServerMsg Unit

namespace AttachSender

def sendActionAsSelf (action : Action) : Sender :=
  send "failed to send self Action" (.action action none none false)

def sendChars (text : String) : Sender :=
  sendActionAsSelf (.writeChars text)

def sendBytes (bytes : List UInt8) : Sender :=
  sendActionAsSelf (.write none bytes false)

def sendResize (rows cols : UInt16) : Sender :=
  send "failed to send TerminalResize" (.terminalResize rows.toNat cols.toNat)

def sendClientExited : Sender :=
  send "failed to send ClientExited" .clientExited

end AttachSender

def paneIdFromTarget (paneId : UInt32) (isPlugin : Bool) : PaneId :=
  if isPlugin then .plugin paneId else .terminal paneId

def toPaneId (pane : PaneRef) : PaneId :=
  paneIdFromTarget pane.id pane.isPlugin

def fromPaneId : PaneId -> PaneRef
  | .terminal id => PaneRef.terminal id
  | .plugin id => PaneRef.plugin id

@[simp] theorem fromPaneId_toPaneId (pane : PaneRef) : fromPaneId (toPaneId pane) = pane := by
  obtain ⟨id, isPlugin⟩ := pane
  cases isPlugin <;> rfl

/-- What `AttachHandle::open` finds: the name's check, the path of its socket, and what `ipc_connect` answers. -/
structure Socket where
  checked : Except String Unit
  path : String
  pathExists : Bool
  connected : Except String Unit

def openAttach (socket : Socket) (sessionName : String) (rows cols : UInt16) : Sender := do
  ofExcept socket.checked
  if !socket.pathExists then
    throw ("socket " ++ socket.path ++ " does not exist — is session '" ++ sessionName ++
      "' actually running? (`zellij list-sessions`)")
  ofExcept (socket.connected.mapError fun cause => "ipc_connect failed for " ++ socket.path ++ ": " ++ cause)
  send "failed to send AttachClient handshake" (.attachClient rows.toNat cols.toNat none none false)

namespace ZellijMuxSender

open AttachSender

def goToTab (tabId : UInt64) : Sender :=
  sendActionAsSelf (.goToTabById tabId)

def focusPane (pane : PaneRef) : Sender :=
  sendActionAsSelf (.focusPaneByPaneId (toPaneId pane))

-- The trait's default.
def switchSpace (_ : String) : Sender :=
  throw "this backend does not support spaces"

def coordinates : FloatingPaneCoordinates :=
  { x := some (.percent 0)
    y := some (.percent 0)
    width := some (.percent 100)
    height := some (.percent 100)
    pinned := none
    borderless := some true }

def toggleFullscreen (pane : PaneRef) (hint : FullscreenHint) : Sender := do
  let paneId := toPaneId pane
  if hint.isFloating then
    if hint.floatingVisible && hint.isFocusedFloating then
      sendActionAsSelf (.hideFloatingPanes none)
    else
      sendActionAsSelf (.showFloatingPanes none)
      sendActionAsSelf (.focusPaneByPaneId paneId)
      sendActionAsSelf (.changeFloatingPaneCoordinates paneId coordinates)
  else
    sendActionAsSelf (.focusPaneByPaneId paneId)
    sendActionAsSelf .toggleFocusFullscreen

def listTabs : Action :=
  .listTabs true true false false true true

def listPanes : Action :=
  .listPanes true true true true true true

def queryLayout : Sender := do
  sendActionAsSelf listTabs
  sendActionAsSelf listPanes

def perform : MuxCall -> Sender
  | .goToTab tabId => goToTab tabId
  | .focusPane pane => focusPane pane
  | .switchSpace spaceId => switchSpace spaceId
  | .toggleFullscreen pane hint => toggleFullscreen pane hint
  | .queryLayout => queryLayout
  -- The default of the trait, `None`, is `queryLayoutResult` below.
  | .queryLayoutResult => pure ()
  | .sendInputChars text => sendChars text
  | .sendInputBytes bytes => sendBytes bytes
  | .sendResize rows cols => sendResize rows cols
  | .sendClientExited => sendClientExited

end ZellijMuxSender

/-- The sender half of an attach. Its clones share the socket; the outside says how many messages of a call the
socket takes. -/
def zellijMuxSender : MuxSender Nat Unit (List ClientToServerMsg) :=
  { call := fun lasts muxCall _ received =>
      let (result, pipe) := runProgram (ZellijMuxSender.perform muxCall) { lasts, received }
      (result, (), pipe.received)
    hasSyncLayout := false
    queryLayoutResult := fun _ _ received => (none, (), received)
    boxClone := id
    elsewhere := fun _ received => received }

section Scripts

def asSelf (action : Action) : ClientToServerMsg :=
  .action action none none false

def script : MuxCall -> List ClientToServerMsg
  | .goToTab tabId => [asSelf (.goToTabById tabId)]
  | .focusPane pane => [asSelf (.focusPaneByPaneId (toPaneId pane))]
  | .toggleFullscreen pane hint =>
    if hint.isFloating then
      if hint.floatingVisible && hint.isFocusedFloating then [asSelf (.hideFloatingPanes none)]
      else
        [asSelf (.showFloatingPanes none), asSelf (.focusPaneByPaneId (toPaneId pane)),
          asSelf (.changeFloatingPaneCoordinates (toPaneId pane) ZellijMuxSender.coordinates)]
    else [asSelf (.focusPaneByPaneId (toPaneId pane)), asSelf .toggleFocusFullscreen]
  | .queryLayout => [asSelf ZellijMuxSender.listTabs, asSelf ZellijMuxSender.listPanes]
  | .sendInputChars text => [asSelf (.writeChars text)]
  | .sendInputBytes bytes => [asSelf (.write none bytes false)]
  | .sendResize rows cols => [.terminalResize rows.toNat cols.toNat]
  | .sendClientExited => [.clientExited]
  | .switchSpace _ | .queryLayoutResult => []

theorem follows_asSelf (action : Action) : Follows (AttachSender.sendActionAsSelf action) [asSelf action] :=
  follows_send _ _

theorem follows_perform {muxCall : MuxCall} (spaceless : ∀ spaceId, muxCall ≠ .switchSpace spaceId) :
    Follows (ZellijMuxSender.perform muxCall) (script muxCall) := by
  cases muxCall with
  | switchSpace spaceId => exact absurd rfl (spaceless spaceId)
  | toggleFullscreen pane hint =>
    simp only [ZellijMuxSender.perform, ZellijMuxSender.toggleFullscreen, script]
    split_ifs
    · exact follows_asSelf _
    · exact (follows_asSelf _).bind ((follows_asSelf _).bind (follows_asSelf _))
    · exact (follows_asSelf _).bind (follows_asSelf _)
  | queryLayout => exact (follows_asSelf _).bind (follows_asSelf _)
  | queryLayoutResult =>
    constructor
    · intro pipe
      simp [script, Pipe.after]
      rfl
    · exact fun pipe => iff_of_true rfl (Nat.zero_le _)
  | goToTab | focusPane | sendInputChars | sendInputBytes => exact follows_asSelf _
  | sendResize | sendClientExited => exact follows_send _ _

theorem call_received (lasts : Nat) (muxCall : MuxCall) (received : List ClientToServerMsg) :
    (zellijMuxSender.call lasts muxCall () received).2.2 = received ++ (script muxCall).take lasts := by
  by_cases space : ∃ spaceId, muxCall = .switchSpace spaceId
  · obtain ⟨spaceId, rfl⟩ := space
    rw [script, List.take_nil, List.append_nil]
    rfl
  · exact congrArg Pipe.received ((follows_perform (not_exists.mp space)).pipe { lasts, received })

theorem call_done {lasts : Nat} {muxCall : MuxCall} {received : List ClientToServerMsg} {value : Unit}
    (done : (zellijMuxSender.call lasts muxCall () received).1 = .ok value) :
    (∀ spaceId, muxCall ≠ .switchSpace spaceId) ∧ (script muxCall).length ≤ lasts := by
  have spaceless (spaceId : String) : muxCall ≠ .switchSpace spaceId := by
    rintro rfl
    cases done
  exact ⟨spaceless, ((follows_perform spaceless).done { lasts, received }).mp done⟩

theorem call_failed {lasts : Nat} {muxCall : MuxCall} {received : List ClientToServerMsg} {failure : String}
    (failed : (zellijMuxSender.call lasts muxCall () received).1 = .error failure) :
    (∃ spaceId, muxCall = .switchSpace spaceId) ∨ lasts < (script muxCall).length := by
  by_contra neither
  push Not at neither
  have done : (zellijMuxSender.call lasts muxCall () received).1 = .ok () :=
    ((follows_perform neither.1).done { lasts, received }).mpr neither.2
  rw [done] at failed
  cases failed

theorem openAttach_received {socket : Socket} {sessionName : String} {rows cols : UInt16} {lasts : Nat}
    {pipe : Pipe ClientToServerMsg}
    (opens : runProgram (openAttach socket sessionName rows cols) { lasts, received := [] } = (.ok (), pipe)) :
    pipe.received = [.attachClient rows.toNat cols.toNat none none false] := by
  obtain ⟨checked, path, pathExists, connected⟩ := socket
  cases checked with
  | error message => cases opens
  | ok _ =>
    cases pathExists with
    | false => cases opens
    | true =>
      cases connected with
      | error cause => cases opens
      | ok _ =>
        cases lasts with
        | zero => cases opens
        | succ lasts =>
          cases opens
          rfl

end Scripts

end Muxrd.ZellijSender
