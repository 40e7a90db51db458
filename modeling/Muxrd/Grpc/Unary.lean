import Muxrd.Grpc.Service
import Muxrd.Lib.Utf8
import Muxrd.Multiplexer.ZellijSender

set_option autoImplicit false

namespace Muxrd.Unary

open Routing Registry Helpers Service ZellijSender

inductive ResizeKind
  | increase
  | decrease
  deriving DecidableEq, Repr

inductive ResizeDir
  | left
  | right
  | up
  | down
  deriving DecidableEq, Repr

inductive ScrollDir
  | up
  | down
  | toTop
  | toBottom
  | pageUp
  | pageDown
  | halfPageUp
  | halfPageDown
  deriving DecidableEq, Repr

inductive BackendCall
  | writeToPane (pane : PaneRef) (bytes : List UInt8)
  | focusPane (pane : PaneRef)
  | closePane (pane : PaneRef)
  | newPane (floating : Bool) (name : Option String)
  | renamePane (pane : PaneRef) (name : String)
  | resizePane (pane : PaneRef) (kind : ResizeKind) (dir : Option ResizeDir)
  | togglePaneFloating (pane : PaneRef)
  | togglePaneFullscreen (pane : PaneRef)
  | scrollPane (pane : PaneRef) (dir : ScrollDir)
  | newTab (name : Option String)
  | closeTab (tabId : UInt64)
  | goToTab (tabId : UInt64)
  | renameTab (tabId : UInt64) (name : String)
  | renameSession (newName : String)
  deriving DecidableEq, Repr

inductive Rpc
  | writeToPane (target : Option PaneTarget) (data : List UInt8)
  | focusPane (target : PaneTarget)
  | closePane (target : PaneTarget)
  | newPane (session : String) (floating : Bool) (paneName : String)
  | renamePane (target : Option PaneTarget) (name : String)
  | resizePane (target : Option PaneTarget) (resize direction : Int)
  | togglePaneFloating (target : PaneTarget)
  | togglePaneFullscreen (req : ToggleFullscreenReq)
  | scrollPane (target : Option PaneTarget) (direction : Int)
  | newTab (session tabName : String)
  | closeTab (session : String) (tabId : UInt64)
  | goToTab (session connectionId : String) (tabId : UInt64)
  | renameTab (session : String) (tabId : UInt64) (name : String)
  | renameSession (session name : String)
  deriving DecidableEq, Repr

def Rpc.name : Rpc -> String
  | .writeToPane _ _ => "WriteToPane"
  | .focusPane _ => "FocusPane"
  | .closePane _ => "ClosePane"
  | .newPane _ _ _ => "NewPane"
  | .renamePane _ _ => "RenamePane"
  | .resizePane _ _ _ => "ResizePane"
  | .togglePaneFloating _ => "TogglePaneFloating"
  | .togglePaneFullscreen _ => "TogglePaneFullscreen"
  | .scrollPane _ _ => "ScrollPane"
  | .newTab _ _ => "NewTab"
  | .closeTab _ _ => "CloseTab"
  | .goToTab _ _ _ => "GoToTab"
  | .renameTab _ _ _ => "RenameTab"
  | .renameSession _ _ => "RenameSession"

-- The handlers that look for a live relay first: the session id and the connection they look by, and their command.
def Rpc.command : Rpc -> Option (String × String × RelayControl)
  | .focusPane target => some (target.session, target.connectionId, .focusPane target.pane)
  | .togglePaneFullscreen req =>
    req.target.map fun target => (target.session, target.connectionId, .toggleFullscreen target.pane req.hint)
  | .goToTab session connectionId tabId => some (session, connectionId, .switchTab tabId)
  | _ => none

def Rpc.routed (rpc : Rpc) (relays : Registries) : Option ProtoAck :=
  rpc.command.bind fun (session, connectionId, cmd) =>
    (tryRouteControl relays.control relays.channels session connectionId cmd).1

def Rpc.observes : Rpc -> Bool
  | .focusPane _ | .scrollPane _ _ => true
  | _ => false

structure Accepted where
  kind : BackendKind
  session : String
  call : BackendCall
  deriving DecidableEq, Repr

section Handlers

variable {Backend : Type} (zellijValidate : String -> Except (List Piece) Unit) (backends : BackendSet Backend)
  (caller : Option Bool)

def maxWriteToPaneBytes : Nat := 1024 * 1024

def invalidArgument (message : String) : Status :=
  { code := .invalidArgument, message := [.text message] }

def onSession (id : String) (call : BackendCall) : Except Status Accepted := do
  let (kind, _, session) ← resolveSessionKind zellijValidate backends id
  return { kind, session, call }

-- A handler whose `target` is optional on the wire.
def onTarget (rpc : String) (target : Option PaneTarget) (call : PaneRef -> BackendCall) : Except Status Accepted :=
  match target with
  | none => throw (invalidArgument (rpc ++ ": target is required"))
  | some target => onSession zellijValidate backends target.session (call target.pane)

def writeToPane (target : Option PaneTarget) (data : List UInt8) : Except Status Accepted := do
  rejectIfReadOnly caller
  if data.length > maxWriteToPaneBytes then
    throw (invalidArgument ("WriteToPane: payload " ++ toString data.length ++ " bytes exceeds the " ++
      toString maxWriteToPaneBytes ++ " byte limit"))
  onTarget zellijValidate backends "WriteToPane" target (.writeToPane · data)

def focusPane (target : PaneTarget) : Except Status Accepted :=
  onSession zellijValidate backends target.session (.focusPane target.pane)

def closePane (target : PaneTarget) : Except Status Accepted := do
  rejectIfReadOnly caller
  onSession zellijValidate backends target.session (.closePane target.pane)

def ofText (text : String) : Option String :=
  if text.isEmpty then none else some text

def newPane (session : String) (floating : Bool) (paneName : String) : Except Status Accepted := do
  rejectIfReadOnly caller
  onSession zellijValidate backends session (.newPane floating (ofText paneName))

def renamePane (target : Option PaneTarget) (name : String) : Except Status Accepted := do
  rejectIfReadOnly caller
  onTarget zellijValidate backends "RenamePane" target (.renamePane · name)

def resizeKind (resize : Int) : ResizeKind :=
  if resize = 1 then .decrease else .increase

def resizeDir : Int -> Option ResizeDir
  | 1 => some .left
  | 2 => some .right
  | 3 => some .up
  | 4 => some .down
  | _ => none

def resizePane (target : Option PaneTarget) (resize direction : Int) : Except Status Accepted := do
  rejectIfReadOnly caller
  onTarget zellijValidate backends "ResizePane" target (.resizePane · (resizeKind resize) (resizeDir direction))

def togglePaneFloating (target : PaneTarget) : Except Status Accepted := do
  rejectIfReadOnly caller
  onSession zellijValidate backends target.session (.togglePaneFloating target.pane)

def togglePaneFullscreen (req : ToggleFullscreenReq) : Except Status Accepted := do
  rejectIfReadOnly caller
  match req.target with
  | none => throw (invalidArgument "TogglePaneFullscreen: missing target")
  | some target => onSession zellijValidate backends target.session (.togglePaneFullscreen target.pane)

def scrollDir : Int -> ScrollDir
  | 1 => .down
  | 2 => .toTop
  | 3 => .toBottom
  | 4 => .pageUp
  | 5 => .pageDown
  | 6 => .halfPageUp
  | 7 => .halfPageDown
  | _ => .up

-- No read-only gate.
def scrollPane (target : Option PaneTarget) (direction : Int) : Except Status Accepted :=
  onTarget zellijValidate backends "ScrollPane" target (.scrollPane · (scrollDir direction))

def newTab (session tabName : String) : Except Status Accepted := do
  rejectIfReadOnly caller
  onSession zellijValidate backends session (.newTab (ofText tabName))

def closeTab (session : String) (tabId : UInt64) : Except Status Accepted := do
  rejectIfReadOnly caller
  onSession zellijValidate backends session (.closeTab tabId)

def goToTab (session : String) (tabId : UInt64) : Except Status Accepted := do
  rejectIfReadOnly caller
  onSession zellijValidate backends session (.goToTab tabId)

def renameTab (session : String) (tabId : UInt64) (name : String) : Except Status Accepted := do
  rejectIfReadOnly caller
  let accepted ← onSession zellijValidate backends session (.renameTab tabId name)
  if name.isEmpty then throw (invalidArgument "tab name must not be empty")
  return accepted

def renameSession (session name : String) : Except Status Accepted := do
  rejectIfReadOnly caller
  let accepted ← onSession zellijValidate backends session (.renameSession name)
  validateSession zellijValidate name
  return accepted

def accept : Rpc -> Except Status Accepted
  | .writeToPane target data => writeToPane zellijValidate backends caller target data
  | .focusPane target => focusPane zellijValidate backends target
  | .closePane target => closePane zellijValidate backends caller target
  | .newPane session floating paneName => newPane zellijValidate backends caller session floating paneName
  | .renamePane target name => renamePane zellijValidate backends caller target name
  | .resizePane target resize direction => resizePane zellijValidate backends caller target resize direction
  | .togglePaneFloating target => togglePaneFloating zellijValidate backends caller target
  | .togglePaneFullscreen req => togglePaneFullscreen zellijValidate backends caller req
  | .scrollPane target direction => scrollPane zellijValidate backends target direction
  | .newTab session tabName => newTab zellijValidate backends caller session tabName
  | .closeTab session tabId => closeTab zellijValidate backends caller session tabId
  | .goToTab session _ tabId => goToTab zellijValidate backends caller session tabId
  | .renameTab session tabId name => renameTab zellijValidate backends caller session tabId name
  | .renameSession session name => renameSession zellijValidate backends caller session name

end Handlers

section Zellij

def toResize : ResizeKind -> Resize
  | .increase => .increase
  | .decrease => .decrease

def toDirection : ResizeDir -> Direction
  | .left => .left
  | .right => .right
  | .up => .up
  | .down => .down

/-- What `ZellijBackend` makes of a call, over the helpers of `actions.rs`. -/
def zellijAction : BackendCall -> Action
  | .writeToPane pane bytes => .writeToPaneId bytes (toPaneId pane)
  | .focusPane pane => .focusPaneByPaneId (toPaneId pane)
  | .closePane pane =>
    match toPaneId pane with
    | .terminal id => .closeTerminalPane id
    | .plugin id => .closePluginPane id
  | .newPane floating name => if floating then .newFloatingPane name false else .newPane name false
  | .renamePane pane name =>
    match toPaneId pane with
    | .terminal id => .renameTerminalPane id (RustStd.asBytes name)
    | .plugin id => .renamePluginPane id (RustStd.asBytes name)
  | .resizePane pane kind dir => .resizeByPaneId (toPaneId pane) (toResize kind) (dir.map toDirection)
  | .togglePaneFloating pane => .togglePaneEmbedOrFloatingByPaneId (toPaneId pane)
  | .togglePaneFullscreen pane => .toggleFocusFullscreenByPaneId (toPaneId pane)
  | .scrollPane pane dir =>
    match dir with
    | .up => .scrollUpByPaneId (toPaneId pane)
    | .down => .scrollDownByPaneId (toPaneId pane)
    | .toTop => .scrollToTopByPaneId (toPaneId pane)
    | .toBottom => .scrollToBottomByPaneId (toPaneId pane)
    | .pageUp => .pageScrollUpByPaneId (toPaneId pane)
    | .pageDown => .pageScrollDownByPaneId (toPaneId pane)
    | .halfPageUp => .halfPageScrollUpByPaneId (toPaneId pane)
    | .halfPageDown => .halfPageScrollDownByPaneId (toPaneId pane)
  | .newTab name => .newTab name true
  | .closeTab tabId => .closeTabById tabId
  | .goToTab tabId => .goToTabById tabId
  | .renameTab tabId name => .renameTabById tabId name
  | .renameSession newName => .renameSession newName

/-- The call an action stands for. The actions of a relay's own client stand for none. -/
def readAction : Action -> Option BackendCall
  | .writeToPaneId bytes paneId => some (.writeToPane (fromPaneId paneId) bytes)
  | .focusPaneByPaneId paneId => some (.focusPane (fromPaneId paneId))
  | .closeTerminalPane id => some (.closePane (PaneRef.terminal id))
  | .closePluginPane id => some (.closePane (PaneRef.plugin id))
  | .newFloatingPane name _ => some (.newPane true name)
  | .newPane name _ => some (.newPane false name)
  | .renameTerminalPane id name => (RustStd.fromUtf8 name).map (.renamePane (PaneRef.terminal id))
  | .renamePluginPane id name => (RustStd.fromUtf8 name).map (.renamePane (PaneRef.plugin id))
  | .resizeByPaneId paneId resize direction =>
    let kind := match resize with
      | .increase => .increase
      | .decrease => .decrease
    let dir := direction.map fun direction => match direction with
      | .left => .left
      | .right => .right
      | .up => .up
      | .down => .down
    some (.resizePane (fromPaneId paneId) kind dir)
  | .togglePaneEmbedOrFloatingByPaneId paneId => some (.togglePaneFloating (fromPaneId paneId))
  | .toggleFocusFullscreenByPaneId paneId => some (.togglePaneFullscreen (fromPaneId paneId))
  | .scrollUpByPaneId paneId => some (.scrollPane (fromPaneId paneId) .up)
  | .scrollDownByPaneId paneId => some (.scrollPane (fromPaneId paneId) .down)
  | .scrollToTopByPaneId paneId => some (.scrollPane (fromPaneId paneId) .toTop)
  | .scrollToBottomByPaneId paneId => some (.scrollPane (fromPaneId paneId) .toBottom)
  | .pageScrollUpByPaneId paneId => some (.scrollPane (fromPaneId paneId) .pageUp)
  | .pageScrollDownByPaneId paneId => some (.scrollPane (fromPaneId paneId) .pageDown)
  | .halfPageScrollUpByPaneId paneId => some (.scrollPane (fromPaneId paneId) .halfPageUp)
  | .halfPageScrollDownByPaneId paneId => some (.scrollPane (fromPaneId paneId) .halfPageDown)
  | .newTab name _ => some (.newTab name)
  | .closeTabById id => some (.closeTab id)
  | .goToTabById id => some (.goToTab id)
  | .renameTabById id name => some (.renameTab id name)
  | .renameSession name => some (.renameSession name)
  | _ => none

theorem readAction_zellijAction (call : BackendCall) : readAction (zellijAction call) = some call := by
  have pane (isPlugin : Bool) (id : UInt32) :
      toPaneId { id, isPlugin } = if isPlugin then .plugin id else .terminal id := rfl
  cases call with
  | closePane target =>
    obtain ⟨id, isPlugin⟩ := target
    cases isPlugin <;> rfl
  | renamePane target name =>
    obtain ⟨id, isPlugin⟩ := target
    cases isPlugin <;> simp [zellijAction, pane, readAction, PaneRef.terminal, PaneRef.plugin]
  | newPane floating name => cases floating <;> rfl
  | scrollPane target dir => cases dir <;> simp [zellijAction, readAction]
  | resizePane target kind dir =>
    rcases dir with _ | dir
    · cases kind <;> simp [zellijAction, readAction, toResize]
    · cases kind <;> cases dir <;> simp [zellijAction, readAction, toResize, toDirection]
  | _ => simp [zellijAction, readAction]

end Zellij

section Accepted

def Rpc.sessionId : Rpc -> Option String
  | .writeToPane target _ | .renamePane target _ | .resizePane target _ _ => target.map (·.session)
  | .scrollPane target _ => target.map (·.session)
  | .togglePaneFullscreen req => req.target.map (·.session)
  | .focusPane target | .closePane target | .togglePaneFloating target => some target.session
  | .newPane session _ _ | .newTab session _ | .closeTab session _ | .goToTab session _ _ => some session
  | .renameTab session _ _ | .renameSession session _ => some session

def Rpc.pane : Rpc -> Option PaneRef
  | .writeToPane target _ | .renamePane target _ | .resizePane target _ _ => target.map (·.pane)
  | .scrollPane target _ => target.map (·.pane)
  | .togglePaneFullscreen req => req.target.map (·.pane)
  | .focusPane target | .closePane target | .togglePaneFloating target => some target.pane
  | _ => none

def BackendCall.pane : BackendCall -> Option PaneRef
  | .writeToPane pane _ | .focusPane pane | .closePane pane | .renamePane pane _ => some pane
  | .resizePane pane _ _ | .togglePaneFloating pane | .togglePaneFullscreen pane | .scrollPane pane _ => some pane
  | _ => none

variable {Backend : Type} {zellijValidate : String -> Except (List Piece) Unit} {backends : BackendSet Backend}
  {caller : Option Bool} {rpc : Rpc} {accepted : Accepted}

theorem gate_passed {checks : Unit -> Except Status Accepted}
    (passes : (rejectIfReadOnly caller >>= checks) = .ok accepted) : caller = some false := by
  obtain ⟨_, passed, _⟩ := bind_ok.mp passes
  exact (rejectIfReadOnly_ok caller).mp passed

theorem accept_allowed (accepts : accept zellijValidate backends caller rpc = .ok accepted) :
    caller = some false ∨ rpc.observes = true := by
  cases rpc with
  | focusPane | scrollPane => exact .inr rfl
  | _ => exact .inl (gate_passed accepts)

def Taken (rpc : Rpc) (relays : Registries) : Prop :=
  ∃ session connectionId cmd sender sent, rpc.command = some (session, connectionId, cmd) ∧
    chosenSender relays.control session connectionId = some sender ∧ relays.channels.send sender cmd = some sent

theorem taken_of_routed {relays : Registries} {ack : ProtoAck} (routed : rpc.routed relays = some ack)
    (ok : ack.ok = true) : Taken rpc relays := by
  obtain ⟨⟨session, connectionId, cmd⟩, commands, answer⟩ := Option.bind_eq_some_iff.mp routed
  replace answer : (tryRouteControl relays.control relays.channels session connectionId cmd).1 = some ack := answer
  rcases tryRouteControl_cases relays.control relays.channels session connectionId cmd with
    ⟨sender, sent, info, delivered, _, own | ⟨shared, unnamed, fallback⟩⟩ | ⟨_, _, refused⟩ | ⟨_, _, unrouted⟩
  · have chosen : chosenSender relays.control session connectionId = some sender := by simp [chosenSender, own]
    exact ⟨session, connectionId, cmd, sender, sent, commands, chosen, delivered⟩
  · have chosen : chosenSender relays.control session connectionId = some sender := by
      simp [chosenSender, unnamed, shared, fallback]
    exact ⟨session, connectionId, cmd, sender, sent, commands, chosen, delivered⟩
  · rw [refused] at answer
    obtain rfl := Option.some.inj answer
    cases ok
  · rw [unrouted] at answer
    cases answer

structure Addressed (zellijValidate : String -> Except (List Piece) Unit) (backends : BackendSet Backend) (rpc : Rpc)
    (accepted : Accepted) : Prop where
  session : ∃ id backend, rpc.sessionId = some id ∧
    resolveSessionKind zellijValidate backends id = .ok (accepted.kind, backend, accepted.session)
  pane : accepted.call.pane = rpc.pane

theorem addressed_onSession {id : String} {call : BackendCall}
    (accepts : onSession zellijValidate backends id call = .ok accepted) (named : rpc.sessionId = some id)
    (pane : call.pane = rpc.pane) : Addressed zellijValidate backends rpc accepted := by
  obtain ⟨⟨kind, backend, session⟩, resolved, same⟩ := bind_ok.mp accepts
  obtain rfl := Except.ok.inj same
  exact { session := ⟨id, backend, named, resolved⟩, pane }

theorem addressed_onTarget {name : String} {target : Option PaneTarget} {call : PaneRef -> BackendCall}
    (accepts : onTarget zellijValidate backends name target call = .ok accepted)
    (named : rpc.sessionId = target.map (·.session)) (pane : ∀ pane, (call pane).pane = some pane)
    (same : rpc.pane = target.map (·.pane)) : Addressed zellijValidate backends rpc accepted := by
  cases target with
  | none => cases accepts
  | some target => exact addressed_onSession accepts named ((pane target.pane).trans same.symm)

theorem accept_addressed (accepts : accept zellijValidate backends caller rpc = .ok accepted) :
    Addressed zellijValidate backends rpc accepted := by
  cases rpc with
  | focusPane target => exact addressed_onSession accepts rfl rfl
  | scrollPane target direction =>
    rw [accept, scrollPane] at accepts
    exact addressed_onTarget accepts rfl (fun _ => rfl) rfl
  | writeToPane target data =>
    obtain ⟨_, _, accepts⟩ := bind_ok.mp accepts
    split_ifs at accepts
    · cases accepts
    · exact addressed_onTarget accepts rfl (fun _ => rfl) rfl
  | renamePane target name | resizePane target resize direction =>
    obtain ⟨_, _, accepts⟩ := bind_ok.mp accepts
    exact addressed_onTarget accepts rfl (fun _ => rfl) rfl
  | togglePaneFullscreen req =>
    obtain ⟨_, _, accepts⟩ := bind_ok.mp accepts
    obtain ⟨target, hasFloatingHint, _, _, _⟩ := req
    cases target with
    | none => cases accepts
    | some target => exact addressed_onSession accepts rfl rfl
  | renameTab session tabId name =>
    obtain ⟨_, _, accepts⟩ := bind_ok.mp accepts
    obtain ⟨found, resolved, accepts⟩ := bind_ok.mp accepts
    split_ifs at accepts
    · cases accepts
    · obtain rfl := Except.ok.inj accepts
      exact addressed_onSession resolved rfl rfl
  | renameSession session name =>
    obtain ⟨_, _, accepts⟩ := bind_ok.mp accepts
    obtain ⟨found, resolved, accepts⟩ := bind_ok.mp accepts
    obtain ⟨_, _, accepts⟩ := bind_ok.mp accepts
    obtain rfl := Except.ok.inj accepts
    exact addressed_onSession resolved rfl rfl
  | _ =>
    obtain ⟨_, _, accepts⟩ := bind_ok.mp accepts
    exact addressed_onSession accepts rfl rfl

end Accepted

end Muxrd.Unary
