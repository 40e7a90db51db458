import Muxrd.Herdr.Frames
import Muxrd.Relay.Views

set_option autoImplicit false

namespace Muxrd

def MuxCall.repoints : MuxCall -> Bool
  | .goToTab _ | .focusPane _ | .switchSpace _ => true
  | _ => false

namespace Inbound

variable {Answer State World : Type} {mux : MuxSender Answer State World} {relay : Relay State World}

theorem onControl_called (writable : relay.readOnly = false) (ticket : Ticket) {cmd : RelayControl}
    {query : FloatQuery} (answer : Answer) {muxCall : MuxCall} (asked : asks query cmd = some muxCall) :
    ((onControl mux ticket cmd query answer relay).sender, (onControl mux ticket cmd query answer relay).world) =
      (mux.call answer muxCall relay.sender relay.world).2 := by
  have left {muxCall : MuxCall} {after : Relay State World} {result : Except String Unit}
      (called : relay.call mux (.command ticket) answer muxCall = (result, after)) :
      (after.sender, after.world) = (mux.call answer muxCall relay.sender relay.world).2 := by
    rw [(Relay.call_eq relay called).1]
  cases cmd with
  | queryLayout reply => simp [asks] at asked
  | switchTab tabId =>
    obtain rfl := Option.some.inj asked
    rcases called : relay.call mux (.command ticket) answer (.goToTab tabId) with ⟨_ | _, after⟩
    · simpa [onControl, onSwitchTab, writable, called] using left called
    · simpa [onControl, onSwitchTab, writable, called, updateView_sender] using left called
  | focusPane pane =>
    obtain rfl := Option.some.inj asked
    rcases called : relay.call mux (.command ticket) answer (.focusPane pane) with ⟨_ | _, after⟩
    · simpa [onControl, onFocusPane, writable, called] using left called
    · simpa [onControl, onFocusPane, writable, called, updateView_sender] using left called
  | switchSpace workspaceId reply =>
    obtain rfl := Option.some.inj asked
    rcases called : relay.call mux (.command ticket) answer (.switchSpace workspaceId) with ⟨_ | _, after⟩
    · simpa [onControl, onSwitchSpace, writable, called, Relay.answerReply] using left called
    · simpa [onControl, onSwitchSpace, writable, called, Relay.answerReply, updateView_sender] using left called
  | toggleFullscreen pane hint =>
    obtain ⟨resolved, hinted, rfl⟩ := Option.map_eq_some_iff.mp asked
    rcases called : relay.call mux (.command ticket) answer (.toggleFullscreen pane resolved) with ⟨_ | _, after⟩
    · simpa [onControl, onToggleFullscreen, writable, hinted, called] using left called
    · simpa [onControl, onToggleFullscreen, writable, hinted, called, updateView_sender] using left called

end Inbound

namespace Herdr

open Framing Inbound

section Calls

variable {serialize : ClientMessage -> Except String (List UInt8)} {answer : Answer}
  {sender left : HerdrMuxSender} {world after : World}

theorem writeMessage_done {msg : ClientMessage} {socket : SocketWrite} {sink : Sink UInt8} {value : Unit}
    (done : (writeMessage serialize msg socket sink).1 = .ok value) :
    ∃ frame, encode serialize msg = .ok frame ∧
      (writeMessage serialize msg socket sink).2.accepted = sink.accepted ++ frame := by
  unfold writeMessage at done ⊢
  cases encoded : encode serialize msg with
  | error error => simp [encoded] at done
  | ok frame =>
    by_cases fits : frame.length ≤ socket.accepted
    · refine ⟨frame, rfl, ?_⟩
      simp [Sink.write, fits, List.take_of_length_le fits]
    · simp [encoded, Sink.write, fits] at done

theorem write_done {context : String} {msg : ClientMessage} {socket : SocketWrite} {value : Unit}
    (written : write serialize context msg socket world = (.ok value, after)) :
    ∃ frame, encode serialize msg = .ok frame ∧ after.wire.accepted = world.wire.accepted ++ frame := by
  have parts := Prod.mk.inj written
  rw [← parts.2]
  cases result : (writeMessage serialize msg socket world.wire).1 with
  | error error => simp [write, result, Except.mapError] at written
  | ok _ => exact writeMessage_done result

theorem send_done {msg : ClientMessage} {socket : SocketWrite} {value : Unit}
    (sent : send serialize msg socket world = (.ok value, after)) :
    ∃ frame, encode serialize msg = .ok frame ∧ after.wire.accepted = world.wire.accepted ++ frame :=
  write_done sent

theorem reattach_error {terminalId message : String} {socket : SocketWrite}
    (failed : reattach serialize terminalId socket sender world = (.error message, left, after)) :
    left = sender := by
  unfold reattach at failed
  rcases sent : send serialize (.attachTerminal terminalId true) socket world with ⟨_ | _, written⟩
  · simp only [sent, Prod.mk.injEq] at failed
    exact failed.2.1.symm
  · simp [sent] at failed

theorem reattach_ok {terminalId : String} {socket : SocketWrite} {value : Unit}
    (done : reattach serialize terminalId socket sender world = (.ok value, left, after)) :
    left = { sender with currentTerminalId := terminalId } ∧
      ∃ frame, encode serialize (.attachTerminal terminalId true) = .ok frame ∧
        after.wire.accepted = world.wire.accepted ++ frame := by
  unfold reattach at done
  rcases sent : send serialize (.attachTerminal terminalId true) socket world with ⟨_ | _, written⟩
  · simp [sent] at done
  · simp only [sent, Prod.mk.injEq] at done
    refine ⟨done.2.1.symm, ?_⟩
    rw [← done.2.2]
    have whole := send_done sent
    exact whole

theorem call_error {muxCall : MuxCall} (repoints : muxCall.repoints = true) {message : String}
    (failed : call serialize answer muxCall sender world = (.error message, left, after)) : left = sender := by
  cases muxCall with
  | goToTab tabId =>
    simp only [call, goToTab] at failed
    split at failed
    · exact (Prod.mk.inj (Prod.mk.inj failed).2).1.symm
    · split at failed
      · exact (Prod.mk.inj (Prod.mk.inj failed).2).1.symm
      · exact reattach_error failed
  | focusPane pane =>
    simp only [call, focusPane] at failed
    split at failed
    · exact (Prod.mk.inj (Prod.mk.inj failed).2).1.symm
    · exact reattach_error failed
  | switchSpace spaceId =>
    simp only [call, switchSpace] at failed
    split at failed
    · exact (Prod.mk.inj (Prod.mk.inj failed).2).1.symm
    next terminalId ids _ =>
      rcases repointed : reattach serialize terminalId answer.socket sender { world with ids } with
        ⟨_ | _, kept, written⟩
      · simp only [repointed, Prod.mk.injEq] at failed
        rw [← failed.2.1]
        exact reattach_error repointed
      · simp [repointed] at failed
  | _ => simp [MuxCall.repoints] at repoints

def spaceAfter (workspaceId : String) : MuxCall -> String
  | .switchSpace spaceId => spaceId
  | _ => workspaceId

structure Repointed (serialize : ClientMessage -> Except String (List UInt8)) (muxCall : MuxCall)
    (sender left : HerdrMuxSender) (world after : World) : Prop where
  written : ∃ frame, encode serialize (.attachTerminal left.currentTerminalId true) = .ok frame ∧
    after.wire.accepted = world.wire.accepted ++ frame
  workspaceId : left.workspaceId = spaceAfter sender.workspaceId muxCall

theorem call_ok {muxCall : MuxCall} (repoints : muxCall.repoints = true) {value : Unit}
    (done : call serialize answer muxCall sender world = (.ok value, left, after)) :
    Repointed serialize muxCall sender left world after := by
  cases muxCall with
  | goToTab tabId =>
    simp only [call, goToTab] at done
    split at done
    · simp at done
    · split at done
      · simp at done
      next terminalId ids =>
        have repointed := reattach_ok done
        rw [repointed.1]
        exact { written := repointed.2, workspaceId := rfl }
  | focusPane pane =>
    simp only [call, focusPane] at done
    split at done
    · simp at done
    · have repointed := reattach_ok done
      rw [repointed.1]
      exact { written := repointed.2, workspaceId := rfl }
  | switchSpace spaceId =>
    simp only [call, switchSpace] at done
    split at done
    · simp at done
    next terminalId ids _ =>
      rcases stepped : reattach serialize terminalId answer.socket sender { world with ids } with
        ⟨_ | _, kept, written⟩
      · simp [stepped] at done
      · have repointed := reattach_ok stepped
        simp only [stepped, Prod.mk.injEq] at done
        rw [← done.2.1, ← done.2.2, repointed.1]
        exact { written := repointed.2, workspaceId := rfl }
  | _ => simp [MuxCall.repoints] at repoints

end Calls

section Arms

variable (serialize : ClientMessage -> Except String (List UInt8)) {relay next : Relay HerdrMuxSender World}

structure Unmoved (relay next : Relay HerdrMuxSender World) : Prop where
  sender : next.sender = relay.sender
  views : ∀ key, next.viewState.lookup key = relay.viewState.lookup key

structure Moved (query : FloatQuery) (cmd : RelayControl) (muxCall : MuxCall)
    (relay next : Relay HerdrMuxSender World) : Prop where
  repointed : Repointed serialize muxCall relay.sender next.sender relay.world next.world
  view : next.viewState.lookup relay.connectionId =
    (relay.viewState.lookup relay.connectionId).map fun entry => { entry with state := records query cmd entry.state }
  others : ∀ key, key ≠ relay.connectionId -> next.viewState.lookup key = relay.viewState.lookup key

/-- A tab, pane or space command of a writable herdr relay moves everything it is to move, or nothing. -/
theorem herdr_command_atomic (writable : relay.readOnly = false) (ticket : Ticket) {cmd : RelayControl}
    (query : FloatQuery) (answer : Answer) {muxCall : MuxCall} (asked : asks query cmd = some muxCall)
    (repoints : muxCall.repoints = true)
    (taken : step (muxSender serialize) relay (.command ticket cmd query answer) = some next) :
    (∀ message, (call serialize answer muxCall relay.sender relay.world).1 = .error message -> Unmoved relay next) ∧
      ((call serialize answer muxCall relay.sender relay.world).1 = .ok () ->
        Moved serialize query cmd muxCall relay next) := by
  have own := step_entry taken
  simp only [entryAfter, writable, asked] at own
  have others := (step_frame (by simp) taken).2
  simp only [step] at taken
  split_ifs at taken
  have stepped : (next.sender, next.world) =
      ((muxSender serialize).call answer muxCall relay.sender relay.world).2 := by
    rw [← Option.some.inj taken]
    exact onControl_called writable ticket answer asked
  rcases called : call serialize answer muxCall relay.sender relay.world with ⟨result, left, after⟩
  have made : (muxSender serialize).call answer muxCall relay.sender relay.world = (result, left, after) := called
  rw [made] at stepped own
  have sender : next.sender = left := congrArg Prod.fst stepped
  have world : next.world = after := congrArg Prod.snd stepped
  constructor
  · intro message failed
    obtain rfl : result = .error message := failed
    constructor
    · exact sender.trans (call_error repoints called)
    · intro key
      by_cases same : key = relay.connectionId
      · rw [same]
        exact own
      · exact others key same
  · intro done
    obtain rfl : result = .ok () := done
    refine { repointed := ?_, view := own, others := others }
    rw [sender, world]
    exact call_ok repoints called

end Arms

section Runs

-- The relay is told to switch to its own space, once with a socket that takes nothing.
def switchingSpace (accepted : Nat) : Event Answer :=
  .command ⟨0, false⟩ (.switchSpace "w1" 0) .failed (writing accepted)

theorem herdr_command_atomic_switch :
    ∃ relay unmoved moved, step (muxSender standard) attachedWriter (.initialised (.error "no layout")) = some relay ∧
      step (muxSender standard) relay (switchingSpace 0) = some unmoved ∧ Unmoved relay unmoved ∧
      step (muxSender standard) relay (switchingSpace 9) = some moved ∧
      Moved standard .failed (.switchSpace "w1" 0) (.switchSpace "w1") relay moved := by
  refine ⟨_, _, _, rfl, rfl, ?_, rfl, ?_⟩
  · exact (herdr_command_atomic standard rfl ⟨0, false⟩ .failed (writing 0) rfl rfl rfl).1 _ rfl
  · exact (herdr_command_atomic standard rfl ⟨0, false⟩ .failed (writing 9) rfl rfl rfl).2 rfl

end Runs

end Herdr

end Muxrd
