import Muxrd.Herdr.Atomicity
import Muxrd.Herdr.Focus

set_option autoImplicit false

namespace Muxrd.Herdr

open Framing

/-- One relay's socket to herdr, which the clones of its sender share. -/
structure Line where
  wire : Sink UInt8
  sent : List Sent

def Line.attachedTo (line : Line) : Option (String × HerdrPaneRegistry) :=
  lastAttach line.sent

structure Lines where
  ids : Ids
  line : Nat -> Line

structure LineSender where
  line : Nat
  sender : HerdrMuxSender
  deriving DecidableEq, Repr

def Lines.world (lines : Lines) (number : Nat) : World :=
  { ids := lines.ids, wire := (lines.line number).wire, sent := (lines.line number).sent }

def Lines.put (lines : Lines) (number : Nat) (world : World) : Lines :=
  { ids := world.ids
    line := Function.update lines.line number { wire := world.wire, sent := world.sent } }

section Calls

variable (serialize : ClientMessage -> Except String (List UInt8))

def callOnLine (answer : Answer) (muxCall : MuxCall) (state : LineSender) (lines : Lines) :
    Except String Unit × LineSender × Lines :=
  let (result, sender, world) := call serialize answer muxCall state.sender (lines.world state.line)
  (result, { state with sender }, lines.put state.line world)

def queryOnLine (answer : Answer) (state : LineSender) (lines : Lines) :
    Option (Except String LayoutSnapshot) × LineSender × Lines :=
  let (result, sender, world) := queryLayoutResult answer state.sender (lines.world state.line)
  (result, { state with sender }, lines.put state.line world)

-- `muxSender` for many relays at a time.
def lineSender : MuxSender Answer LineSender Lines :=
  { call := callOnLine serialize
    hasSyncLayout := true
    queryLayoutResult := queryOnLine
    boxClone := id
    elsewhere := fun answer lines => { lines with ids := (elsewhere answer (lines.world 0)).ids } }

def canSwitch (answer : Answer) (spaceId : String) (ids : Ids) : Bool :=
  match (resolveFocusedTerminal (answer.daemon 0) spaceId ids).1 with
  | .ok terminalId =>
    match encode serialize (.attachTerminal terminalId true) with
    | .ok frame => frame.length ≤ answer.socket.accepted
    | .error _ => false
  | .error _ => false

variable {serialize} {answer : Answer} {spaceId : String}

theorem send_isOk (msg : ClientMessage) (socket : SocketWrite) (world : World) :
    (send serialize msg socket world).1.isOk =
      match encode serialize msg with
      | .ok frame => decide (frame.length ≤ socket.accepted)
      | .error _ => false := by
  unfold send write writeMessage
  cases encoded : encode serialize msg with
  | error error => rfl
  | ok frame =>
    by_cases fits : frame.length ≤ socket.accepted
    · simp [Sink.write, fits, Except.mapError, Except.isOk, Except.toBool]
    · simp [Sink.write, fits, Except.mapError, Except.isOk, Except.toBool]

theorem reattach_isOk (terminalId : String) (socket : SocketWrite) (sender : HerdrMuxSender) (world : World) :
    (reattach serialize terminalId socket sender world).1.isOk =
      (send serialize (.attachTerminal terminalId true) socket world).1.isOk := by
  unfold reattach
  rcases send serialize (.attachTerminal terminalId true) socket world with ⟨_ | _, after⟩ <;> rfl

theorem switchSpace_isOk (sender : HerdrMuxSender) (world : World) :
    (switchSpace serialize answer spaceId sender world).1.isOk = canSwitch serialize answer spaceId world.ids := by
  unfold switchSpace canSwitch
  rcases resolveFocusedTerminal (answer.daemon 0) spaceId world.ids with ⟨_ | terminalId, ids⟩
  · rfl
  · have sent := @reattach_isOk serialize terminalId answer.socket sender { world with ids }
    rw [send_isOk] at sent
    simp only
    rw [← sent]
    cases reattach serialize terminalId answer.socket sender { world with ids } with
    | mk result after => cases result <;> rfl

variable {state left : LineSender} {lines after : Lines} {message : String}

theorem put_attachedTo {world : World} {number : Nat} (same : world.attachedTo = (lines.line number).attachedTo)
    (other : Nat) : ((lines.put number world).line other).attachedTo = (lines.line other).attachedTo := by
  by_cases here : other = number
  · subst here
    simpa [Lines.put, Line.attachedTo, World.attachedTo] using same
  · simp [Lines.put, Function.update_of_ne here]

theorem callOnLine_failed {muxCall : MuxCall} (repoints : muxCall.repoints = true)
    (failed : callOnLine serialize answer muxCall state lines = (.error message, left, after)) :
    left = state ∧ ∀ number, (after.line number).attachedTo = (lines.line number).attachedTo := by
  rcases called : call serialize answer muxCall state.sender (lines.world state.line) with
    ⟨result, sender, world⟩
  simp only [callOnLine, called, Prod.mk.injEq] at failed
  obtain ⟨rfl, rfl, rfl⟩ := failed
  constructor
  · rw [call_error repoints called]
  · exact put_attachedTo (call_failed called)

theorem callOnLine_switchSpace :
    (callOnLine serialize answer (.switchSpace spaceId) state lines).1.isOk =
      canSwitch serialize answer spaceId lines.ids :=
  switchSpace_isOk state.sender (lines.world state.line)

end Calls

end Muxrd.Herdr
