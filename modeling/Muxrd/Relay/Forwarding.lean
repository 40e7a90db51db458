import Muxrd.Relay.Attach
import Muxrd.Relay.Views

set_option autoImplicit false

namespace Muxrd.Inbound

def typed : MuxCall -> List UInt8
  | .sendInputChars text => RustStd.asBytes text
  | .sendInputBytes bytes => bytes
  | _ => []

def sized : MuxCall -> List (UInt16 × UInt16)
  | .sendResize rows cols => [(rows, cols)]
  | _ => []

section Acts

variable {Answer State World : Type} {mux : MuxSender Answer State World} {relay next : Relay State World}
  {event : Event Answer}

def Relay.acts (relay : Relay State World) : List (Cause × MuxCall) :=
  relay.calls.filter fun entry => !entry.2.isLayoutQuery

def act (relay : Relay State World) : Event Answer -> Option (Cause × MuxCall)
  | .command ticket cmd query _ => (asks query cmd).map fun muxCall => (.command ticket, muxCall)
  | .frame frame _ => (frameCall false frame).map fun muxCall => (.frame, muxCall)
  | .cancelled _ | .dropGuard _ => some (.teardown, .sendResize relay.rows relay.cols)
  | _ => none

theorem asks_plain {query : FloatQuery} {cmd : RelayControl} {muxCall : MuxCall}
    (asked : asks query cmd = some muxCall) :
    muxCall.isLayoutQuery = false ∧ typed muxCall = [] ∧ sized muxCall = [] := by
  cases cmd with
  | queryLayout reply => cases asked
  | toggleFullscreen pane hint =>
    obtain ⟨_, _, rfl⟩ := Option.map_eq_some_iff.mp asked
    exact ⟨rfl, rfl, rfl⟩
  | _ =>
    obtain rfl := Option.some.inj asked
    exact ⟨rfl, rfl, rfl⟩

theorem frameCall_plain {readOnly : Bool} {frame : ClientFrame} {muxCall : MuxCall}
    (forwarded : frameCall readOnly frame = some muxCall) : muxCall.isLayoutQuery = false := by
  cases frame with
  | attach req => cases forwarded
  | empty => cases forwarded
  | resize rows cols =>
    simp only [frameCall] at forwarded
    split_ifs at forwarded
    obtain rfl := Option.some.inj forwarded
    rfl
  | input bytes =>
    simp only [frameCall] at forwarded
    split_ifs at forwarded
    split at forwarded <;> obtain rfl := Option.some.inj forwarded <;> rfl

theorem acts_added {added : List (Cause × MuxCall)} (calls : next.calls = relay.calls ++ added) :
    next.acts = relay.acts ++ added.filter fun entry => !entry.2.isLayoutQuery := by
  simp [Relay.acts, calls]

theorem acts_same (calls : next.calls = relay.calls) : next.acts = relay.acts := by
  rw [Relay.acts, calls, Relay.acts]

theorem acts_dropGuard (writable : relay.readOnly = false) (answer : Answer) :
    (dropGuard mux answer relay).acts = relay.acts ++ [(.teardown, .sendResize relay.rows relay.cols)] := by
  have calls : (dropGuard mux answer relay).calls =
      relay.calls ++ [(.teardown, .sendResize relay.rows relay.cols)] := by
    simp [dropGuard, writable]
  simpa [MuxCall.isLayoutQuery] using acts_added calls

theorem step_acts (writable : relay.readOnly = false) (taken : step mux relay event = some next) :
    next.acts = relay.acts ++ (act relay event).toList := by
  cases event with
  | command ticket cmd query answer =>
    simp only [step] at taken
    split_ifs at taken
    rw [← Option.some.inj taken]
    have spec := onControl_spec mux ticket cmd query answer relay
    cases asked : asks query cmd with
    | none =>
      simp only [writable, asked] at spec
      rcases spec.calls with same | queried
      · simpa [act, asked] using acts_same same
      · simpa [act, asked, MuxCall.isLayoutQuery] using acts_added queried
    | some muxCall =>
      simp only [writable, asked] at spec
      simpa [act, asked, (asks_plain asked).1] using acts_added spec.calls
  | frame frame answer =>
    simp only [step] at taken
    split_ifs at taken
    obtain ⟨sender, world, spec⟩ := onFrame_spec mux answer frame relay
    rw [← Option.some.inj taken, spec, act, writable]
    cases forwarded : frameCall false frame with
    | none => simp [Relay.acts]
    | some muxCall => simp [Relay.acts, frameCall_plain forwarded]
  | cancelled answer | dropGuard answer =>
    simp only [step] at taken
    split_ifs at taken
    rw [← Option.some.inj taken]
    exact acts_dropGuard writable answer
  | recheck valid =>
    simp only [step] at taken
    split_ifs at taken <;> rw [← Option.some.inj taken] <;> simp [act, Relay.acts]
  | initialised | deregister | streamError | streamEnd | sibling =>
    simp only [step] at taken
    split_ifs at taken
    rw [← Option.some.inj taken]
    simp [act, Relay.acts]
  | layoutTask index answer =>
    simp only [step] at taken
    split at taken
    · rw [← Option.some.inj taken]
      simp [act, Relay.acts, runLayoutTask, Relay.answerReply, MuxCall.isLayoutQuery]
    · contradiction
  | renderThreadEnds | elsewhere =>
    rw [← Option.some.inj taken]
    simp [act, Relay.acts]

end Acts

section Input

def accepted {Answer : Type} : Event Answer -> List UInt8
  | .frame (.input bytes) _ => if bytes.length ≤ maxInputFrameBytes then bytes else []
  | _ => []

theorem typed_frameCall (bytes : List UInt8) :
    (frameCall false (.input bytes)).toList.flatMap typed =
      if bytes.length ≤ maxInputFrameBytes then bytes else [] := by
  by_cases long : bytes.length > maxInputFrameBytes
  · simp [frameCall, long, Nat.not_le.mpr long]
  · simp only [frameCall, Bool.false_eq_true, if_false, if_neg long, if_pos (Nat.not_lt.mp long)]
    cases valid : RustStd.fromUtf8 bytes with
    | some text => simpa [typed] using RustStd.asBytes_of_fromUtf8 valid
    | none => simp [typed]

variable {Answer State World : Type} {mux : MuxSender Answer State World} {relay next : Relay State World}
  {event : Event Answer}

theorem typed_act (relay : Relay State World) (event : Event Answer) :
    (act relay event).toList.flatMap (fun entry => typed entry.2) = accepted event := by
  cases event with
  | command ticket cmd query answer =>
    cases asked : asks query cmd with
    | none => simp [act, asked, accepted]
    | some muxCall => simp [act, asked, accepted, (asks_plain asked).2.1]
  | frame frame answer =>
    cases frame with
    | input bytes =>
      have handed := typed_frameCall bytes
      cases forwarded : frameCall false (.input bytes) <;> simpa [act, accepted, forwarded] using handed
    | _ => simp [act, frameCall, typed, accepted]
  | _ => simp [act, typed, accepted]

theorem writable_step (relay : Relay State World) (event : Event Answer) (next : Relay State World)
    (writable : relay.readOnly = false) (taken : step mux relay event = some next) : next.readOnly = false :=
  (congrArg Task.readOnly (step_task taken)).trans writable

theorem run_typed {final : Relay State World} {events : List (Event Answer)} (writable : relay.readOnly = false)
    (ran : Transition.run (step mux) relay events = some final) :
    final.acts.flatMap (fun entry => typed entry.2) =
      relay.acts.flatMap (fun entry => typed entry.2) ++ events.flatMap accepted := by
  have adds (relay : Relay State World) (event : Event Answer) (next : Relay State World)
      (writable : relay.readOnly = false) (taken : step mux relay event = some next) :
      next.acts.flatMap (fun entry => typed entry.2) =
        relay.acts.flatMap (fun entry => typed entry.2) ++ accepted event := by
    rw [step_acts writable taken, List.flatMap_append, typed_act]
  exact Transition.run_collects writable_step adds writable ran

theorem onFrame_eq (answer : Answer) (frame : ClientFrame) :
    onFrame mux answer frame relay =
      match frameCall relay.readOnly frame with
      | some muxCall => (relay.call mux .frame answer muxCall).2
      | none => relay := by
  cases frame with
  | attach req => rfl
  | empty => rfl
  | resize rows cols =>
    simp only [onFrame, frameCall]
    split_ifs <;> rfl
  | input bytes =>
    simp only [onFrame, frameCall, forwardInput]
    split_ifs
    · rfl
    · rfl
    · cases RustStd.fromUtf8 bytes <;> rfl

theorem step_oversized {bytes : List UInt8} {answer : Answer} (long : bytes.length > maxInputFrameBytes)
    (taken : step mux relay (.frame (.input bytes) answer) = some next) : next = relay := by
  simp only [step] at taken
  split_ifs at taken
  rw [← Option.some.inj taken, onFrame]
  split_ifs <;> rfl

end Input

end Muxrd.Inbound
