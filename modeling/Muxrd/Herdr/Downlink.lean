import Muxrd.Herdr.Deframing
import Muxrd.Herdr.Frames
import Muxrd.Lib.ReadLine
import Muxrd.Lib.Run
import Muxrd.Relay.Fidelity

set_option autoImplicit false

namespace Muxrd.Downlink

open Herdr Herdr.Deframing Transport
open Watch (Watched image isExit)
open RenderLoop (connectionIdFrame)

section Opening

variable (codec : Codec Deframing.ServerMessage)

def heard : Deframing.ServerMessage -> Herdr.ServerMessage
  | .welcome version encoding error => .welcome version encoding error
  | _ => .other

def readWelcome (socket : Socket) : Except String Herdr.ServerMessage × Socket :=
  match readServerMessage codec socket with
  | (.ok msg, left) => (.ok (heard msg), left)
  | (.error error, left) => (.error error.display, left)

end Opening

structure Attached where
  watched : Watched
  wire : Socket

inductive Event
  -- A `recv` returns, or will return once the thread calls it.
  | arrives
  | other (event : Watch.Event)

def step (codec : Codec Deframing.ServerMessage) (attached : Attached) : Event -> Option Attached
  | .arrives =>
    let (received, wire) := recvFrom codec attached.wire
    let event : Watch.Event := match received with
      | some msg => .message msg
      | none => .streamEnds
    (Watch.step attached.watched event).map fun watched => { watched, wire }
  | .other (.message _) | .other .streamEnds => none
  | .other event => (Watch.step attached.watched event).map fun watched => { attached with watched }

section Bytes

def terminalBytes : Deframing.ServerMessage -> List UInt8
  | .terminal frame => frame.bytes
  | _ => []

def renderedBytes : RenderLoop.ServerFrame -> List UInt8
  | .render bytes => bytes
  | _ => []

theorem renderedBytes_image (msg : Deframing.ServerMessage) :
    (image (mapServerMessage msg)).flatMap renderedBytes = terminalBytes msg := by
  cases msg <;> simp [mapServerMessage, image, renderedBytes, terminalBytes]

end Bytes

section Receiving

variable {codec : Codec Deframing.ServerMessage} {messages : List Deframing.ServerMessage} {bytes part : List UInt8}
  {declared : Nat} {socket : Socket} {attached : Attached}

theorem readServerMessage_framed (codecExact : codec.Exact) {msg : Deframing.ServerMessage}
    (framed : FrameStream codec (msg :: messages) bytes) (calm : Calm socket) (arrives : content socket = bytes ++ part) :
    ∃ left behind, readServerMessage codec socket = (.ok msg, left) ∧ FrameStream codec messages behind ∧ Calm left ∧
      content left = behind ++ part := by
  cases framed with
  | @cons _ payload _ behind encoded fits rest =>
    have admissible : payload.length < 256 ^ 4 := by
      simp only [maxFrameSize] at fits
      omega
    have whole : content socket = leBytes 4 payload.length ++ (payload ++ (behind ++ part)) := by
      simpa using arrives
    obtain ⟨left, read, after, quiet⟩ := readServerMessage_whole codec (leBytes_length 4 payload.length)
      (fromLeBytes_leBytes admissible).symm fits whole
    rw [decodePayload_encoded codecExact encoded] at read
    exact ⟨left, behind, read, rest, quiet calm, after⟩

theorem recvFrom_cut (cut : CutFrame declared part) (calm : Calm socket) (arrives : content socket = part) :
    (recvFrom codec socket).1 = none := by
  obtain ⟨error, read⟩ := (repeated_cut codec cut calm arrives).1
  have failed : (readServerMessage codec socket).1 = .error error := by simpa [repeated] using read
  rcases outcome : readServerMessage codec socket with ⟨result, left⟩
  rw [outcome] at failed
  simp only at failed
  subst failed
  simp [recvFrom, outcome]

structure Drains (codec : Codec Deframing.ServerMessage) (messages : List Deframing.ServerMessage) (part : List UInt8)
    (attached : Attached) : Prop where
  running : attached.watched.reader.eof = false -> ∃ rest bytes,
    messages.map mapServerMessage = attached.watched.sent ++ rest.map mapServerMessage ∧
    FrameStream codec rest bytes ∧ Calm attached.wire ∧ content attached.wire = bytes ++ part
  ended : attached.watched.reader.eof = true -> attached.watched.sent = messages.map mapServerMessage

theorem Drains.prefix (drains : Drains codec messages part attached) :
    attached.watched.sent <+: messages.map mapServerMessage := by
  cases eof : attached.watched.reader.eof with
  | true => exact drains.ended eof ▸ List.prefix_rfl
  | false =>
    obtain ⟨rest, _, whole, _⟩ := drains.running eof
    exact ⟨_, whole.symm⟩

theorem aside_stream {watched next : Watched} {event : Watch.Event} (taken : Watch.step watched event = some next)
    (aside : (∀ msg, event ≠ .message msg) ∧ event ≠ .streamEnds) :
    next.sent = watched.sent ∧ next.reader.eof = watched.reader.eof := by
  cases event with
  | message msg => exact absurd rfl (aside.1 msg)
  | streamEnds => exact absurd rfl aside.2
  | reader =>
    obtain ⟨reader, thread, rfl⟩ := Watch.step_reader.mp taken
    refine ⟨rfl, ?_⟩
    have moves := Watch.step_moves thread
    generalize Watch.happenings watched.reader = done at moves
    cases moves with
    | captures json standing =>
      rcases RenderLoop.captureQueryLog_cases watched.reader json with
          ⟨_, captured⟩ | ⟨_, _, ⟨_, captured⟩ | ⟨_, _, captured⟩ | ⟨_, _, _, captured⟩⟩ <;>
        simp only [captured]
    | _ => rfl
  | handOff query =>
    simp only [Watch.step] at taken
    split_ifs at taken
    obtain rfl := Option.some.inj taken
    exact ⟨rfl, rfl⟩
  | stop | closeReply _ | clientReads | clientLeaves =>
    obtain rfl := Option.some.inj taken
    exact ⟨rfl, rfl⟩

theorem other_step {event : Watch.Event} {next : Attached} (taken : step codec attached (.other event) = some next) :
    ((∀ msg, event ≠ .message msg) ∧ event ≠ .streamEnds) ∧
      ∃ watched, Watch.step attached.watched event = some watched ∧ { attached with watched } = next := by
  cases event with
  | message msg => cases taken
  | streamEnds => cases taken
  | _ => exact ⟨by simp, Option.map_eq_some_iff.mp taken⟩

theorem Drains.step (codecExact : codec.Exact) (cut : CutFrame declared part) {event : Event} {next : Attached}
    (drains : Drains codec messages part attached) (taken : step codec attached event = some next) :
    Drains codec messages part next := by
  cases event with
  | arrives =>
    simp only [Downlink.step] at taken
    obtain ⟨watched, moved, rfl⟩ := Option.map_eq_some_iff.mp taken
    cases eof : attached.watched.reader.eof with
    | true =>
      cases received : (recvFrom codec attached.wire).1 with
      | some msg => simp [received, Watch.step, eof] at moved
      | none =>
        rw [received] at moved
        obtain rfl := Option.some.inj moved
        exact ⟨fun running => (by cases running), fun _ => drains.ended eof⟩
    | false =>
      obtain ⟨rest, bytes, whole, framed, calm, arrives⟩ := drains.running eof
      cases rest with
      | nil =>
        cases framed
        rw [recvFrom_cut cut calm (by simpa using arrives)] at moved
        obtain rfl := Option.some.inj moved
        exact ⟨fun running => (by cases running), fun _ => by simpa using whole.symm⟩
      | cons msg later =>
        obtain ⟨left, behind, read, framed, calm, arrives⟩ := readServerMessage_framed codecExact framed calm arrives
        have received : recvFrom codec attached.wire = (some (mapServerMessage msg), left) := by
          simp [recvFrom, read]
        simp only [received, Watch.step, eof, Bool.false_eq_true, if_false] at moved
        obtain rfl := Option.some.inj moved
        refine ⟨fun _ => ⟨later, behind, by simpa using whole, framed, ?_, ?_⟩, fun closed => ?_⟩
        · simpa [received] using calm
        · simpa [received] using arrives
        · simp at closed
  | other event =>
    obtain ⟨aside, watched, moved, rfl⟩ := other_step taken
    obtain ⟨sent, eof⟩ := aside_stream moved aside
    exact ⟨by rw [sent, eof]; exact drains.running, by rw [sent, eof]; exact drains.ended⟩

theorem watched_step {event : Event} {next : Attached} (taken : step codec attached event = some next) :
    ∃ inner, Watch.step attached.watched inner = some next.watched := by
  cases event with
  | arrives =>
    obtain ⟨watched, moved, rfl⟩ := Option.map_eq_some_iff.mp taken
    exact ⟨_, moved⟩
  | other event =>
    obtain ⟨_, watched, moved, rfl⟩ := other_step taken
    exact ⟨event, moved⟩

end Receiving

section Delivery

variable {serialize : ClientMessage -> Except String (List UInt8)} {handshake : Handshake}

theorem handshakeSteps_welcome {terminalId : String} {rows cols : UInt16} {world after : World}
    (done : handshakeSteps serialize handshake terminalId rows cols world = (.ok (), after)) :
    ∃ welcome, handshake.welcome = .ok welcome ∧ assertWelcome welcome = .ok () := by
  unfold handshakeSteps at done
  split at done
  · cases done
  split at done
  · cases done
  split at done
  · cases done
  next welcome heard =>
    split at done
    · cases done
    next accepted => exact ⟨welcome, heard, accepted⟩

theorem openAttach_welcome {api : Api} {workspaceId : String} {rows cols : UInt16} {ids : Ids} {sender : HerdrMuxSender}
    {world : World} (opened : openAttach serialize api handshake workspaceId rows cols ids = (.ok sender, world)) :
    ∃ welcome, handshake.welcome = .ok welcome ∧ assertWelcome welcome = .ok () := by
  simp only [openAttach] at opened
  split at opened
  · cases opened
  split at opened
  · cases opened
  next shaken => exact handshakeSteps_welcome shaken

theorem assertWelcome_heard {first : Deframing.ServerMessage} (accepted : assertWelcome (heard first) = .ok ()) :
    ∃ encoding, first = .welcome herdrProtocolVersion encoding none := by
  cases first with
  | welcome version encoding error =>
    cases error with
    | some error => cases accepted
    | none =>
      simp only [heard, assertWelcome] at accepted
      split_ifs at accepted with same
      exact ⟨encoding, by rw [same]⟩
  | _ => cases accepted

theorem handled_all {reader : RenderLoop.Reader} {handled cut all : List MuxServerMsg}
    (progress : Watch.Progress reader handled cut) (within : handled ++ cut ++ reader.incoming <+: all)
    (ended : reader.eof = true -> handled ++ cut ++ reader.incoming = all) (returned : reader.pc = .returned)
    (running : reader.stop = false) (listens : reader.receiverOpen = true) : handled = ReadLine.upTo isExit all := by
  have noExit {plain : List MuxServerMsg} (stays : Watch.Plain plain) : plain.any isExit = false := by
    rw [List.any_eq_false]
    intro msg member
    simp [stays msg member]
  simp only [Watch.Progress, returned] at progress
  rcases progress with ⟨before, reason, plain, rfl, rfl⟩ | ⟨plain, ⟨stopped, _⟩ | ⟨eof, empty, rfl⟩ | ⟨left, _⟩⟩
  · obtain ⟨rest, rfl⟩ := within
    simp only [List.append_nil, List.append_assoc, List.singleton_append, ReadLine.upTo_append_beyond (noExit plain)]
    rfl
  · rw [running] at stopped
    cases stopped
  · have same := ended eof
    rw [empty, List.append_nil, List.append_nil] at same
    rw [← same, ReadLine.upTo_whole (noExit plain)]
  · rw [listens] at left
    cases left

theorem rendered_prefix {messages : List Deframing.ServerMessage} {handled : List MuxServerMsg}
    (within : handled <+: messages.map mapServerMessage) :
    (handled.flatMap image).flatMap renderedBytes <+: messages.flatMap terminalBytes := by
  obtain ⟨taken, rfl⟩ : ∃ taken, handled = (messages.take taken).map mapServerMessage := by
    refine ⟨handled.length, ?_⟩
    rw [List.map_take]
    exact List.prefix_iff_eq_take.mp within
  have shown : (((messages.take taken).map mapServerMessage).flatMap image).flatMap renderedBytes =
      (messages.take taken).flatMap terminalBytes := by
    simp only [List.flatMap_assoc, List.flatMap_map, renderedBytes_image]
  rw [shown]
  conv_rhs => rw [← List.take_append_drop taken messages, List.flatMap_append]
  exact List.prefix_append _ _

end Delivery

/-- However the bytes of a herdr stream come in and whatever else happens to the relay, the client gets the terminal
output as herdr sent it, from the beginning and without a gap; and all of it up to herdr's own end, unless the relay
is stopped or the client leaves. The handshake takes just the Welcome off the stream. -/
theorem terminal_output_delivered {codec : Codec Deframing.ServerMessage} (codecExact : codec.Exact)
    {serialize : ClientMessage -> Except String (List UInt8)} {api : Api} {handshake : Handshake} {workspaceId : String}
    {rows cols : UInt16} {ids : Ids} {sender : HerdrMuxSender} {world : World} {first : Deframing.ServerMessage}
    {messages : List Deframing.ServerMessage} {bytes part : List UInt8} {declared : Nat} {socket : Socket}
    {connectionId : String} {events : List Event} {attached : Attached}
    (framed : FrameStream codec (first :: messages) bytes) (cut : CutFrame declared part) (calm : Calm socket)
    (arrives : content socket = bytes ++ part) (welcomed : handshake.welcome = (readWelcome codec socket).1)
    (opened : openAttach serialize api handshake workspaceId rows cols ids = (.ok sender, world))
    (ran : Transition.run (step codec) { watched := Watch.initial connectionId, wire := (readWelcome codec socket).2 }
      events = some attached) :
    (∃ encoding, first = .welcome herdrProtocolVersion encoding none) ∧
      attached.watched.frames.flatMap renderedBytes <+: messages.flatMap terminalBytes ∧
      ∃ handled, handled <+: messages.map mapServerMessage ∧
        attached.watched.frames = connectionIdFrame connectionId :: handled.flatMap image ∧
        (attached.watched.reader.pc = .returned -> attached.watched.reader.stop = false ->
          attached.watched.reader.receiverOpen = true ->
          handled = ReadLine.upTo isExit (messages.map mapServerMessage)) := by
  obtain ⟨left, behind, read, later, quiet, rest⟩ := readServerMessage_framed codecExact framed calm arrives
  have welcome : readWelcome codec socket = (.ok (heard first), left) := by simp [readWelcome, read]
  rw [welcome] at welcomed ran
  have accepted : assertWelcome (heard first) = .ok () := by
    obtain ⟨found, answered, accepted⟩ := openAttach_welcome opened
    obtain rfl := Except.ok.inj (welcomed.symm.trans answered)
    exact accepted
  have start : Drains codec messages part { watched := Watch.initial connectionId, wire := left } :=
    ⟨fun _ => ⟨messages, behind, rfl, later, quiet, rest⟩, fun ended => by cases ended⟩
  have drains : Drains codec messages part attached :=
    Transition.invariant_of_run (fun _ _ _ drains taken => Drains.step codecExact cut drains taken) start ran
  have keeps (state : Attached) (event : Event) (next : Attached)
      (faithful : ∃ handled cut, Watch.Faithful connectionId state.watched handled cut)
      (taken : step codec state event = some next) :
      ∃ handled cut, Watch.Faithful connectionId next.watched handled cut := by
    obtain ⟨inner, moved⟩ := watched_step taken
    exact Watch.faithful_step _ inner _ connectionId faithful moved
  have faithful : ∃ handled cut, Watch.Faithful connectionId attached.watched handled cut :=
    Transition.invariant_of_run keeps ⟨[], [], Watch.faithful_initial connectionId⟩ ran
  obtain ⟨handled, cut, faithful⟩ := faithful
  have sent := drains.prefix
  rw [faithful.sent] at sent
  have within : handled <+: messages.map mapServerMessage :=
    ((List.prefix_append _ _).trans (List.prefix_append _ _)).trans sent
  refine ⟨assertWelcome_heard accepted, ?_, handled, within, faithful.frames, ?_⟩
  · rw [faithful.frames, List.flatMap_cons]
    exact rendered_prefix within
  · have ended (eof : attached.watched.reader.eof = true) := faithful.sent.symm.trans (drains.ended eof)
    exact handled_all faithful.progress sent ended

section Sampled

def greeting : Deframing.ServerMessage :=
  .welcome 14 .terminalAnsi none

def hiFrame : Deframing.ServerMessage :=
  .terminal { seq := 1, width := 80, height := 24, full := true, bytes := [104, 105] }

-- bincode's standard encoding of three messages.
def sampledServer : Codec Deframing.ServerMessage where
  encode msg :=
    if msg = greeting then .ok [0, 14, 1, 0]
    else if msg = hiFrame then .ok [2, 1, 80, 24, 1, 2, 104, 105]
    else if msg = .serverShutdown none then .ok [4, 0]
    else .error "not encoded"
  decode
    | 0 :: 14 :: 1 :: 0 :: _ => .ok (greeting, 4)
    | 2 :: 1 :: 80 :: 24 :: 1 :: 2 :: 104 :: 105 :: _ => .ok (hiFrame, 8)
    | 4 :: 0 :: _ => .ok (.serverShutdown none, 2)
    | _ => .error "not decoded"

theorem sampledServer_exact : sampledServer.Exact := by
  intro msg payload encoded rest
  simp only [sampledServer] at encoded
  split_ifs at encoded with isGreeting isHi isShutdown
  · obtain rfl := Except.ok.inj encoded
    rw [isGreeting]
    rfl
  · obtain rfl := Except.ok.inj encoded
    rw [isHi]
    rfl
  · obtain rfl := Except.ok.inj encoded
    rw [isShutdown]
    rfl

def sampledStream : Socket :=
  [.bytes [4, 0, 0] (List.cons_ne_nil _ _), .bytes [0, 0, 14, 1, 0, 8, 0] (List.cons_ne_nil _ _), .interrupted,
    .bytes [0, 0, 2, 1, 80, 24, 1, 2, 104] (List.cons_ne_nil _ _),
    .bytes [105, 2, 0, 0, 0, 4, 0] (List.cons_ne_nil _ _)]

def relayed : List Event :=
  List.replicate 3 .arrives ++ List.replicate 14 (.other .reader)

theorem terminal_output_delivered_relayed : ∃ attached,
    Transition.run (step sampledServer)
      { watched := Watch.initial "c1", wire := (readWelcome sampledServer sampledStream).2 } relayed = some attached ∧
      attached.watched.frames.flatMap renderedBytes = [104, 105] ∧
      attached.watched.frames.flatMap renderedBytes <+: [hiFrame, .serverShutdown none].flatMap terminalBytes := by
  have small : 8 ≤ maxFrameSize := by decide
  have framed : FrameStream sampledServer [greeting, hiFrame, .serverShutdown none]
      [4, 0, 0, 0, 0, 14, 1, 0, 8, 0, 0, 0, 2, 1, 80, 24, 1, 2, 104, 105, 2, 0, 0, 0, 4, 0] :=
    .cons (rfl : sampledServer.encode greeting = .ok [0, 14, 1, 0]) (by decide)
      (.cons (rfl : sampledServer.encode hiFrame = .ok [2, 1, 80, 24, 1, 2, 104, 105]) small
        (.cons (rfl : sampledServer.encode (.serverShutdown none) = .ok [4, 0]) (by decide) .nil))
  have calm : Calm sampledStream := trivial
  obtain ⟨attached, ran, shown⟩ : ∃ attached, Transition.run (step sampledServer)
      { watched := Watch.initial "c1", wire := (readWelcome sampledServer sampledStream).2 } relayed = some attached ∧
      attached.watched.frames.flatMap renderedBytes = [104, 105] := ⟨_, rfl, rfl⟩
  have arrives : content sampledStream =
      [4, 0, 0, 0, 0, 14, 1, 0, 8, 0, 0, 0, 2, 1, 80, 24, 1, 2, 104, 105, 2, 0, 0, 0, 4, 0] ++ [] := rfl
  have delivered := terminal_output_delivered sampledServer_exact framed cutFrame_nil calm arrives
    (rfl : smooth.welcome = (readWelcome sampledServer sampledStream).1)
    (rfl : openAttach standard oneWorkspace smooth "w1" 24 80 noIds =
      (.ok { workspaceId := "w1", currentTerminalId := "t1" }, _)) ran
  exact ⟨attached, ran, shown, delivered.2.1⟩

end Sampled

end Muxrd.Downlink
