import Muxrd.Herdr.Atomicity
import Muxrd.Herdr.Deframing
import Muxrd.Relay.Forwarding

set_option autoImplicit false

namespace Muxrd

namespace Inbound

variable {Answer State World : Type} {mux : MuxSender Answer State World} {relay next : Relay State World}
  {event : Event Answer}

def speaker (relay : Relay State World) : Event Answer -> State
  | .cancelled _ | .dropGuard _ => relay.nudge
  | _ => relay.sender

def Succeeds (mux : MuxSender Answer State World) (relay : Relay State World) (event : Event Answer) : Prop :=
  ∀ entry ∈ act relay event, ∀ answer ∈ event.answer,
    (mux.call answer entry.2 (speaker relay event) relay.world).1.isOk = true

instance : Decidable (Succeeds mux relay event) :=
  inferInstanceAs (Decidable (∀ entry ∈ act relay event, ∀ answer ∈ event.answer, _ = true))

-- What other parties, and the layout queries out of band, do to the shared part.
inductive Aside (mux : MuxSender Answer State World) (world : World) : World -> Prop
  | nothing : Aside mux world world
  | query (answer : Answer) (state : State) : Aside mux world (mux.queryLayoutResult answer state world).2.2
  | elsewhere (answer : Answer) : Aside mux world (mux.elsewhere answer world)

theorem step_speaks (sync : mux.hasSyncLayout = true) (writable : relay.readOnly = false)
    (taken : step mux relay event = some next) :
    act relay event = none ∧ Aside mux relay.world next.world ∨
      ∃ entry answer, act relay event = some entry ∧ event.answer = some answer ∧
        next.world = (mux.call answer entry.2 (speaker relay event) relay.world).2.2 := by
  cases event with
  | command ticket cmd query answer =>
    simp only [step] at taken
    split_ifs at taken
    rw [← Option.some.inj taken]
    cases asked : asks query cmd with
    | some muxCall =>
      have called := @onControl_called _ _ _ mux relay writable ticket cmd query answer muxCall asked
      exact .inr ⟨_, answer, by rw [act, asked]; rfl, rfl, congrArg Prod.snd called⟩
    | none =>
      left
      refine ⟨by simp [act, asked], ?_⟩
      have same : (onControl mux ticket cmd query answer relay).world = relay.world := by
        cases cmd with
        | toggleFullscreen pane hint =>
          have unresolved : resolveHint pane hint query = none := by simpa [asks] using asked
          simp [onControl, onToggleFullscreen, writable, unresolved]
        | queryLayout reply => simp [onControl, handleQueryLayout, sync]
        | _ => cases asked
      rw [same]
      exact .nothing
  | frame frame answer =>
    simp only [step, onFrame_eq, writable] at taken
    split_ifs at taken
    rw [← Option.some.inj taken]
    cases forwarded : frameCall false frame with
    | none => exact .inl ⟨by simp [act, forwarded], .nothing⟩
    | some muxCall => exact .inr ⟨(.frame, muxCall), answer, by simp [act, forwarded], rfl, rfl⟩
  | cancelled answer | dropGuard answer =>
    simp only [step] at taken
    split_ifs at taken
    rw [← Option.some.inj taken]
    exact .inr ⟨_, answer, rfl, rfl, by simp [dropGuard, writable, speaker]⟩
  | recheck valid =>
    simp only [step] at taken
    split_ifs at taken
    · rw [← Option.some.inj taken]
      exact .inl ⟨rfl, .nothing⟩
    · rw [← Option.some.inj taken]
      exact .inl ⟨rfl, .nothing⟩
  | initialised | deregister | streamError | streamEnd | sibling =>
    simp only [step] at taken
    split_ifs at taken
    rw [← Option.some.inj taken]
    exact .inl ⟨rfl, .nothing⟩
  | layoutTask index answer =>
    simp only [step] at taken
    split at taken
    · rw [← Option.some.inj taken]
      exact .inl ⟨rfl, .query answer _⟩
    · contradiction
  | renderThreadEnds =>
    rw [← Option.some.inj taken]
    exact .inl ⟨rfl, .nothing⟩
  | elsewhere answer =>
    rw [← Option.some.inj taken]
    exact .inl ⟨rfl, .elsewhere answer⟩

end Inbound

namespace Herdr

open Framing Inbound Deframing Attach

section Wire

variable {client : Codec ClientMessage} {world after : World} {bytes : List UInt8}

def inputData : ClientMessage -> List UInt8
  | .input data => data
  | _ => []

def Carries (client : Codec ClientMessage) (world : World) (bytes : List UInt8) : Prop :=
  ∃ messages frames, Encodes client messages frames ∧ world.wire.accepted = frames.flatten ∧
    messages.flatMap inputData = bytes

theorem Carries.message {msg : ClientMessage} {frame : List UInt8} (carries : Carries client world bytes)
    (encoded : encode client.encode msg = .ok frame)
    (written : after.wire.accepted = world.wire.accepted ++ frame) :
    Carries client after (bytes ++ inputData msg) := by
  obtain ⟨messages, frames, encodes, wire, rfl⟩ := carries
  refine ⟨messages ++ [msg], frames ++ [frame], ?_, ?_, by simp⟩
  · exact List.rel_append encodes (.cons encoded .nil)
  · rw [written, wire, List.flatten_append, List.flatten_singleton]

theorem call_carries {answer : Answer} {muxCall : MuxCall} {sender left : HerdrMuxSender} {value : Unit}
    (carries : Carries client world bytes)
    (done : call client.encode answer muxCall sender world = (.ok value, left, after)) :
    Carries client after (bytes ++ typed muxCall) := by
  have sends (msg : ClientMessage) (data : inputData msg = typed muxCall)
      (sends : call client.encode answer muxCall sender world =
        ((send client.encode msg answer.socket world).1, sender, (send client.encode msg answer.socket world).2)) :
      Carries client after (bytes ++ typed muxCall) := by
    rw [sends, Prod.mk.injEq, Prod.mk.injEq] at done
    obtain ⟨frame, encoded, written⟩ := send_done (Prod.ext done.1 done.2.2)
    rw [← data]
    exact carries.message encoded written
  have repoints (isRepoint : muxCall.repoints = true) (silent : typed muxCall = []) :
      Carries client after (bytes ++ typed muxCall) := by
    obtain ⟨frame, encoded, written⟩ := (call_ok isRepoint done).written
    rw [silent]
    exact carries.message encoded written
  cases muxCall with
  | goToTab tabId => exact repoints rfl rfl
  | focusPane pane => exact repoints rfl rfl
  | switchSpace spaceId => exact repoints rfl rfl
  | sendInputChars text => exact sends (.input (RustStd.asBytes text)) rfl rfl
  | sendInputBytes data => exact sends (.input data) rfl rfl
  | sendResize rows cols => exact sends (.resize cols rows cellPxDisabled cellPxDisabled) rfl rfl
  | sendClientExited => exact sends .detach rfl rfl
  | toggleFullscreen pane hint =>
    simp only [call, toggleFullscreen] at done
    split at done
    · cases done
    · rw [← (Prod.mk.inj (Prod.mk.inj done).2).2]
      simpa [typed] using carries
  | queryLayout | queryLayoutResult =>
    rw [← (Prod.mk.inj (Prod.mk.inj done).2).2]
    simpa [typed] using carries

theorem carries_empty (ids : Ids) : Carries client { ids, wire := Sink.empty, sent := [] } [] :=
  ⟨[], [], .nil, rfl, rfl⟩

theorem handshakeSteps_carries {handshake : Handshake} {terminalId : String} {rows cols : UInt16} {value : Unit}
    (carries : Carries client world bytes)
    (done : handshakeSteps client.encode handshake terminalId rows cols world = (.ok value, after)) :
    Carries client after bytes := by
  unfold handshakeSteps at done
  split at done
  · cases done
  · split at done
    · cases done
    next greeted hello =>
      obtain ⟨helloFrame, helloEncoded, helloWritten⟩ := write_done hello
      have greeting := carries.message helloEncoded helloWritten
      split at done
      · cases done
      · split at done
        · cases done
        · split at done
          · cases done
          next attached attaching =>
            obtain ⟨frame, encoded, written⟩ := write_done attaching
            have sent : Carries client attached bytes := by
              simpa [inputData, helloMessage] using greeting.message encoded written
            rw [← (Prod.mk.inj done).2]
            exact sent

theorem backendOpenAttach_carries {daemon : Daemon} {handshake : Handshake} {session : String} {rows cols : UInt16}
    {ids : Ids} {sender : HerdrMuxSender}
    (opened : backendOpenAttach client.encode daemon handshake session rows cols ids = (.ok sender, world)) :
    Carries client world [] := by
  unfold backendOpenAttach at opened
  split at opened
  · cases opened
  · unfold openAttach at opened
    split at opened
    · cases opened
    · dsimp only at opened
      split at opened
      · cases opened
      next shaken =>
        rw [← (Prod.mk.inj opened).2]
        exact handshakeSteps_carries (carries_empty _) shaken

-- Layout is answered out of band, and other connections have wires of their own.
theorem aside_wire {serialize : ClientMessage -> Except String (List UInt8)}
    (aside : Aside (muxSender serialize) world after) : after.wire = world.wire := by
  cases aside <;> rfl

def Forwards (client : Codec ClientMessage) (relay : Relay HerdrMuxSender World) : Prop :=
  relay.readOnly = false ∧ Carries client relay.world (relay.acts.flatMap fun entry => typed entry.2)

theorem forwards_step (relay : Relay HerdrMuxSender World) (event : Event Answer)
    (next : Relay HerdrMuxSender World) (forwards : Forwards client relay)
    (succeeds : Succeeds (muxSender client.encode) relay event)
    (taken : step (muxSender client.encode) relay event = some next) : Forwards client next := by
  obtain ⟨writable, carries⟩ := forwards
  refine ⟨writable_step relay event next writable taken, ?_⟩
  rw [step_acts writable taken]
  rcases step_speaks rfl writable taken with ⟨silent, aside⟩ | ⟨entry, answer, acts, given, world⟩
  · rw [silent, Option.toList_none, List.append_nil]
    obtain ⟨messages, frames, encodes, wire, data⟩ := carries
    exact ⟨messages, frames, encodes, aside_wire aside ▸ wire, data⟩
  · rw [acts, Option.toList_some, List.flatMap_append, List.flatMap_singleton, world]
    have succeeded := succeeds entry acts answer given
    rcases called : (muxSender client.encode).call answer entry.2 (speaker relay event) relay.world with
      ⟨_ | value, left, after⟩
    · rw [called] at succeeded
      cases succeeded
    · exact call_carries carries called

end Wire

section Runs

variable {Answer State World Backend : Type}

/-- The input frames of up to the limit reach the backend byte for byte and in order, and so does the wire of a
herdr relay whose calls succeed. -/
theorem input_forwarded (mux : MuxSender Answer State World) {client : Codec ClientMessage}
    (codecExact : client.Exact) {opened : Opening Backend} (writable : opened.readOnly = false) (connectionId : String)
    (viewState : ViewStateRegistry) :
    (∀ sender world events final,
      Transition.run (step mux) (attached mux opened connectionId sender world viewState) events = some final ->
        final.acts.flatMap (fun entry => typed entry.2) = events.flatMap accepted) ∧
    (∀ relay next bytes answer, bytes.length > maxInputFrameBytes ->
      step mux relay (.frame (.input bytes) answer) = some next -> next = relay) ∧
    ∀ daemon handshake ids sender world events final,
      backendOpenAttach client.encode daemon handshake opened.session opened.rows opened.cols ids =
        (.ok sender, world) ->
      Transition.Meets (step (muxSender client.encode)) (Succeeds (muxSender client.encode))
        (attached (muxSender client.encode) opened connectionId sender world viewState) events ->
      Transition.run (step (muxSender client.encode))
        (attached (muxSender client.encode) opened connectionId sender world viewState) events = some final ->
      (∃ messages frames, Encodes client messages frames ∧ final.world.wire.accepted = frames.flatten) ∧
        ∀ messages frames, Encodes client messages frames -> final.world.wire.accepted = frames.flatten ->
          messages.flatMap inputData = events.flatMap accepted := by
  refine ⟨?handed, ?oversized, ?wire⟩
  case handed =>
    intro sender world events final ran
    exact run_typed writable ran
  case oversized =>
    intro relay next bytes answer long taken
    exact step_oversized long taken
  case wire =>
    intro daemon handshake ids sender world events final opens meets ran
    have initial : Forwards client (attached (muxSender client.encode) opened connectionId sender world viewState) :=
      ⟨writable, backendOpenAttach_carries opens⟩
    obtain ⟨_, sent, sentFrames, encodes, wire, data⟩ :=
      Transition.invariant_of_meets forwards_step initial meets ran
    refine ⟨⟨sent, sentFrames, encodes, wire⟩, ?_⟩
    intro messages frames read arrived
    have same : sent = messages := encodings_split codecExact encodes read (wire.symm.trans arrived)
    rw [← same, data]
    exact run_typed writable ran

end Runs

section Typing

-- What the run below sends: a character is cut in two between its frames.
def sampled : List ClientMessage :=
  [helloMessage 24 80, .attachTerminal "t1" true, .input [104, 195], .input [169], .input [105], .resize 80 24 0 0]

def sampledCodec : Codec ClientMessage where
  encode msg := if msg ∈ sampled then .ok (bincode msg) else .error "not encoded"
  decode bytes :=
    match sampled.find? fun msg => (bincode msg).isPrefixOf bytes with
    | some msg => .ok (msg, (bincode msg).length)
    | none => .error "not decoded"

theorem sampledCodec_exact : sampledCodec.Exact := by
  intro msg payload encoded rest
  simp only [sampledCodec] at encoded
  split_ifs at encoded with member
  obtain rfl := Except.ok.inj encoded
  simp only [sampled, List.mem_cons, List.not_mem_nil, or_false] at member
  rcases member with rfl | rfl | rfl | rfl | rfl | rfl <;> rfl

def typing : List (Event Answer) :=
  [.initialised (.error "no layout"), .frame (.input [104, 195]) (writing 100),
    .command ⟨0, false⟩ (.focusPane ⟨1, false⟩) .failed (writing 100), .frame (.input [169]) (writing 100),
    .frame (.input [105]) (writing 100), .streamEnd, .deregister, .dropGuard (writing 100)]

theorem input_forwarded_typing :
    ∃ world final messages frames,
      backendOpenAttach sampledCodec.encode (fun _ => oneWorkspace) smooth writer.session writer.rows writer.cols
          noIds = (.ok { workspaceId := "w1", currentTerminalId := "t1" }, world) ∧
        Transition.run (step (muxSender sampledCodec.encode))
          (attached (muxSender sampledCodec.encode) writer "c1" { workspaceId := "w1", currentTerminalId := "t1" }
            world ∅) typing = some final ∧
        Encodes sampledCodec messages frames ∧ final.world.wire.accepted = frames.flatten ∧
        messages.flatMap inputData = [104, 195, 169, 105] := by
  have forwarded := (input_forwarded (muxSender sampledCodec.encode) sampledCodec_exact (rfl : writer.readOnly = false)
    "c1" ∅).2.2 (fun _ => oneWorkspace) smooth noIds { workspaceId := "w1", currentTerminalId := "t1" } _ typing _ rfl
    (by decide) rfl
  obtain ⟨⟨messages, frames, encodes, wire⟩, same⟩ := forwarded
  exact ⟨_, _, messages, frames, rfl, rfl, encodes, wire, same messages frames encodes wire⟩

end Typing

end Herdr

end Muxrd
