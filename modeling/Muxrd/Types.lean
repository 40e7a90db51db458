import Mathlib.Data.List.AList

set_option autoImplicit false

namespace Muxrd

inductive BackendKind
  | zellij
  | herdr
  deriving DecidableEq, Repr

structure PaneRef where
  id : UInt32
  isPlugin : Bool
  deriving DecidableEq, Repr

def PaneRef.terminal (id : UInt32) : PaneRef :=
  { id, isPlugin := false }

def PaneRef.plugin (id : UInt32) : PaneRef :=
  { id, isPlugin := true }

structure FloatingHint where
  targetIsFloating : Bool
  floatingVisible : Bool
  targetIsFocusedFloating : Bool
  deriving DecidableEq, Repr

structure FullscreenHint where
  isFloating : Bool
  floatingVisible : Bool
  isFocusedFloating : Bool
  deriving DecidableEq, Repr

structure PaneSnapshot where
  id : UInt32
  title : String
  isFocused : Bool
  isFloating : Bool
  exited : Bool
  command : String
  cwd : String
  x : UInt32
  y : UInt32
  rows : UInt32
  cols : UInt32
  isPlugin : Bool
  isFullscreen : Bool
  deriving DecidableEq, Repr

structure TabSnapshot where
  tabId : UInt64
  position : UInt32
  name : String
  active : Bool
  hasBell : Bool
  panesToHide : UInt32
  fullscreenActive : Bool
  floatingPanesVisible : Bool
  panes : List PaneSnapshot
  deriving DecidableEq, Repr

structure LayoutSnapshot where
  tabs : List TabSnapshot
  deriving DecidableEq, Repr

structure SpaceSnapshot where
  id : String
  name : String
  active : Bool
  deriving DecidableEq, Repr

inductive MuxEvent
  | exit (reason : String)
  | renamedSession (name : String)
  | configUpdated
  | switchSession (name : String)
  deriving DecidableEq, Repr

inductive MuxServerMsg
  | render (content : List UInt8)
  | log (json : String)
  | event (event : MuxEvent)
  | other
  deriving DecidableEq, Repr

inductive Code
  | invalidArgument
  | notFound
  | permissionDenied
  | internal
  deriving DecidableEq, Repr

/-- A formatted text, kept as its pieces: `debug` is an argument written with `{:?}`. -/
inductive Piece
  | text (value : String)
  | debug (value : String)
  deriving DecidableEq, Repr

structure Status where
  code : Code
  message : List Piece
  deriving DecidableEq, Repr

structure ActionAck where
  ok : Bool
  error : Option String
  info : Option String
  deriving DecidableEq, Repr

structure ProtoAck where
  ok : Bool
  error : String
  info : String
  deriving DecidableEq, Repr

/-- Commands sent to a relay's inbound task. A oneshot reply channel is named by a number. -/
inductive RelayControl
  | switchTab (tabId : UInt64)
  | focusPane (pane : PaneRef)
  | switchSpace (workspaceId : String) (reply : Nat)
  | toggleFullscreen (pane : PaneRef) (hint : Option FloatingHint)
  | queryLayout (reply : Nat)
  deriving DecidableEq, Repr

structure InFlightQuery where
  seq : UInt64
  reply : Nat
  tabs : Option String
  deriving DecidableEq, Repr

structure RelayViewState where
  activeTab : Option UInt64 := none
  focusedPane : Option PaneRef := none
  currentSpace : Option String := none
  deriving DecidableEq, Repr

structure ControlEntry where
  session : String
  sender : Nat
  readOnly : Bool
  deriving DecidableEq, Repr

structure ViewStateEntry where
  session : String
  state : RelayViewState
  deriving DecidableEq, Repr

/-- The registries are keyed by connection id. The order of the entries is the order in which an
iteration over the map visits them; nothing relies on which order that is. -/
abbrev ControlRegistry := AList (fun _ : String => ControlEntry)

abbrev ViewStateRegistry := AList (fun _ : String => ViewStateEntry)

/-- An unbounded command channel: what waits in it, and whether its receiver still exists. -/
structure Channel (Command : Type) where
  queue : List Command
  receiverAlive : Bool
  deriving DecidableEq, Repr

abbrev Channels (Command : Type) := AList (fun _ : Nat => Channel Command)

section

variable {Command : Type}

-- `UnboundedSender::send`: `none` when the receiver is gone.
def Channels.send (channels : Channels Command) (sender : Nat) (cmd : Command) :
    Option (Channels Command) :=
  match channels.lookup sender with
  | some channel =>
    if channel.receiverAlive then
      some (channels.insert sender { channel with queue := channel.queue ++ [cmd] })
    else none
  | none => none

def Channels.isOpen (channels : Channels Command) (sender : Nat) : Bool :=
  match channels.lookup sender with
  | some channel => channel.receiverAlive
  | none => false

theorem Channels.send_eq_some {channels after : Channels Command} {sender : Nat} {cmd : Command} :
    channels.send sender cmd = some after ↔
      ∃ channel, channels.lookup sender = some channel ∧ channel.receiverAlive = true ∧
        after = channels.insert sender { channel with queue := channel.queue ++ [cmd] } := by
  unfold Channels.send
  cases channels.lookup sender with
  | none => simp
  | some channel =>
    dsimp only
    split_ifs with alive
    · constructor
      · rintro ⟨⟩
        exact ⟨channel, rfl, alive, rfl⟩
      · rintro ⟨_, ⟨⟩, _, rfl⟩
        rfl
    · simp [alive]

theorem Channels.isOpen_eq_true {channels : Channels Command} {sender : Nat} :
    channels.isOpen sender = true ↔
      ∃ channel, channels.lookup sender = some channel ∧ channel.receiverAlive = true := by
  unfold Channels.isOpen
  cases channels.lookup sender <;> simp

theorem Channels.send_isSome (channels : Channels Command) (sender : Nat) (cmd : Command) :
    (channels.send sender cmd).isSome = channels.isOpen sender := by
  rw [Bool.eq_iff_iff, Option.isSome_iff_exists, Channels.isOpen_eq_true]
  simp only [Channels.send_eq_some]
  constructor
  · rintro ⟨_, channel, found, alive, _⟩
    exact ⟨channel, found, alive⟩
  · rintro ⟨channel, found, alive⟩
    exact ⟨_, channel, found, alive, rfl⟩

theorem Channels.send_keeps {channels after : Channels Command} {sender : Nat} {cmd : Command}
    (sent : channels.send sender cmd = some after) {other : Nat} (member : other ∈ channels) :
    other ∈ after := by
  obtain ⟨channel, _, _, rfl⟩ := Channels.send_eq_some.mp sent
  simp [AList.mem_insert, member]

theorem Channels.send_changes {channels after : Channels Command} {sender : Nat} {cmd : Command}
    (sent : channels.send sender cmd = some after) (other : Nat) :
    after.lookup other ≠ channels.lookup other ↔ other = sender := by
  obtain ⟨channel, found, _, rfl⟩ := Channels.send_eq_some.mp sent
  by_cases same : other = sender
  · subst same
    have longer : ({ channel with queue := channel.queue ++ [cmd] } : Channel Command) ≠ channel := by
      intro equal
      simpa using congrArg (fun changed : Channel Command => changed.queue.length) equal
    simp [AList.lookup_insert, found, longer]
  · simp [AList.lookup_insert_ne same, same]

end

end Muxrd
