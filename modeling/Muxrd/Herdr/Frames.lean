import Muxrd.Herdr.Sender
import Muxrd.Relay.Shared
import Muxrd.Relay.Attach

set_option autoImplicit false

namespace Muxrd.Herdr

open Framing Inbound Attach

section Alignment

variable {serialize : ClientMessage -> Except String (List UInt8)}

def World.Aligned (serialize : ClientMessage -> Except String (List UInt8)) (world : World) : Prop :=
  Framing.Aligned (IsFrame serialize) world.wire

def Quiet (world : World) (socket : SocketWrite) : Prop :=
  world.wire.torn = true -> socket.accepted = 0

theorem write_world_aligned {world : World} {socket : SocketWrite} (aligned : world.Aligned serialize)
    (quiet : Quiet world socket) (context : String) (msg : ClientMessage) :
    (write serialize context msg socket world).2.Aligned serialize :=
  writeMessage_aligned aligned quiet

theorem reattach_world (terminalId : String) (socket : SocketWrite) (sender : HerdrMuxSender) (world : World) :
    (reattach serialize terminalId socket sender world).2.2 =
      (send serialize (.attachTerminal terminalId true) socket world).2 := by
  unfold reattach
  rcases send serialize (.attachTerminal terminalId true) socket world with ⟨_ | _, after⟩ <;> rfl

theorem call_world (answer : Answer) (muxCall : MuxCall) (sender : HerdrMuxSender) (world : World) :
    ∃ ids, (call serialize answer muxCall sender world).2.2 = { world with ids } ∨
      ∃ msg, (call serialize answer muxCall sender world).2.2 =
        (send serialize msg answer.socket { world with ids }).2 := by
  cases muxCall with
  | goToTab tabId =>
    simp only [call, goToTab]
    split
    · exact ⟨world.ids, .inl rfl⟩
    · split
      · exact ⟨_, .inl rfl⟩
      · exact ⟨_, .inr ⟨_, reattach_world _ _ _ _⟩⟩
  | focusPane pane =>
    simp only [call, focusPane]
    split
    · exact ⟨world.ids, .inl rfl⟩
    · exact ⟨world.ids, .inr ⟨_, reattach_world _ _ _ _⟩⟩
  | switchSpace spaceId =>
    simp only [call, switchSpace]
    split
    · exact ⟨_, .inl rfl⟩
    next terminalId ids _ =>
      have moved := @reattach_world serialize terminalId answer.socket sender { world with ids }
      split
      next failed => exact ⟨ids, .inr ⟨_, by rw [failed] at moved; exact moved⟩⟩
      next done => exact ⟨ids, .inr ⟨_, by rw [done] at moved; exact moved⟩⟩
  | toggleFullscreen pane hint =>
    simp only [call, toggleFullscreen]
    split
    · exact ⟨world.ids, .inl rfl⟩
    · exact ⟨world.ids, .inl rfl⟩
  | sendInputChars text => exact ⟨world.ids, .inr ⟨_, rfl⟩⟩
  | sendInputBytes bytes => exact ⟨world.ids, .inr ⟨_, rfl⟩⟩
  | sendResize rows cols => exact ⟨world.ids, .inr ⟨_, rfl⟩⟩
  | sendClientExited => exact ⟨world.ids, .inr ⟨_, rfl⟩⟩
  | queryLayout => exact ⟨world.ids, .inl rfl⟩
  | queryLayoutResult => exact ⟨world.ids, .inl rfl⟩

theorem call_aligned {answer : Answer} {world : World} (aligned : world.Aligned serialize)
    (quiet : Quiet world answer.socket) (muxCall : MuxCall) (sender : HerdrMuxSender) :
    (call serialize answer muxCall sender world).2.2.Aligned serialize := by
  have renamed (ids : Ids) : ({ world with ids } : World).Aligned serialize := aligned
  obtain ⟨ids, same | ⟨msg, same⟩⟩ := call_world answer muxCall sender world
  · rw [same]
    exact renamed ids
  · rw [same]
    exact write_world_aligned (renamed ids) quiet _ msg

theorem write_untorn {context : String} {msg : ClientMessage} {socket : SocketWrite} {world after : World}
    {value : Unit} (whole : world.wire.torn = false)
    (written : write serialize context msg socket world = (.ok value, after)) :
    after.wire.torn = false := by
  unfold write writeMessage at written
  cases encoded : encode serialize msg with
  | error error => simp [encoded, Except.mapError] at written
  | ok frame =>
    by_cases fits : frame.length ≤ socket.accepted
    · simp only [encoded, Sink.write, fits, decide_true, Prod.mk.injEq] at written
      rw [← written.2]
      simp only [whole, Bool.false_or, decide_eq_false_iff_not]
      omega
    · simp [encoded, Sink.write, fits, Except.mapError] at written

section Opening

variable {holds : World -> Prop}
  (writes : ∀ context msg socket world, world.wire.torn = false -> holds world ->
    holds (write serialize context msg socket world).2)

include writes

theorem handshake_keeps {world : World} (whole : world.wire.torn = false) (begun : holds world) (handshake : Handshake)
    (terminalId : String) (rows cols : UInt16) :
    holds (handshakeSteps serialize handshake terminalId rows cols world).2 := by
  have greeting := writes "send herdr Hello: " (helloMessage rows cols) handshake.hello world whole begun
  unfold handshakeSteps
  split
  · exact begun
  · split
    next failed => simpa [failed] using greeting
    next greeted done =>
      rw [done] at greeting
      have attaching := writes "send herdr AttachTerminal: " (.attachTerminal terminalId true) handshake.attach greeted
        (write_untorn whole done) greeting
      split
      · exact greeting
      · split
        · exact greeting
        · split
          next failed => simpa [failed] using attaching
          next attached => simpa [attached] using attaching

theorem openAttach_keeps (fresh : ∀ ids, holds { ids, wire := Sink.empty, sent := [] }) (api : Api)
    (handshake : Handshake) (workspaceId : String) (rows cols : UInt16) (ids : Ids) :
    holds (openAttach serialize api handshake workspaceId rows cols ids).2 := by
  unfold openAttach
  split
  · exact fresh _
  next terminalId ids _ =>
    have steps := handshake_keeps writes rfl (fresh ids) handshake terminalId rows cols
    dsimp only
    split
    next failed => simpa [failed] using steps
    next done => simpa [done] using steps

theorem backendOpenAttach_keeps (fresh : ∀ ids, holds { ids, wire := Sink.empty, sent := [] }) (daemon : Daemon)
    (handshake : Handshake) (session : String) (rows cols : UInt16) (ids : Ids) :
    holds (backendOpenAttach serialize daemon handshake session rows cols ids).2 := by
  unfold backendOpenAttach
  split
  · exact fresh ids
  · exact openAttach_keeps writes fresh _ handshake _ rows cols ids

end Opening

theorem backendOpenAttach_aligned (daemon : Daemon) (handshake : Handshake) (session : String)
    (rows cols : UInt16) (ids : Ids) :
    (backendOpenAttach serialize daemon handshake session rows cols ids).2.Aligned serialize := by
  refine backendOpenAttach_keeps ?_ (fun _ => aligned_empty) daemon handshake session rows cols ids
  intro context msg socket world whole aligned
  have quiet : Quiet world socket := by simp [Quiet, whole]
  exact write_world_aligned aligned quiet context msg

theorem worldStep_aligned {answer : Answer} {world after : World} (aligned : world.Aligned serialize)
    (quiet : Quiet world answer.socket) (stepped : WorldStep (muxSender serialize) answer world after) :
    after.Aligned serialize := by
  cases stepped with
  | call muxCall sender => exact call_aligned aligned quiet muxCall sender
  | query sender => exact aligned
  | elsewhere => exact aligned

def StaysQuiet (relay : Relay HerdrMuxSender World) (event : Event Answer) : Prop :=
  ∀ answer ∈ event.answer, Quiet relay.world answer.socket

instance (relay : Relay HerdrMuxSender World) (event : Event Answer) : Decidable (StaysQuiet relay event) :=
  inferInstanceAs (Decidable (∀ answer ∈ event.answer,
    relay.world.wire.torn = true -> answer.socket.accepted = 0))

theorem step_aligned (relay : Relay HerdrMuxSender World) (event : Event Answer)
    (next : Relay HerdrMuxSender World) (aligned : relay.world.Aligned serialize)
    (quiet : StaysQuiet relay event) (taken : step (muxSender serialize) relay event = some next) :
    next.world.Aligned serialize := by
  rcases step_world taken with same | ⟨answer, given, stepped⟩
  · rw [same]
    exact aligned
  · exact worldStep_aligned aligned (quiet answer given) stepped

end Alignment

section Logged

variable {serialize : ClientMessage -> Except String (List UInt8)}

/-- The frames of the messages, in their order; where a write broke off, with the part that went out. -/
inductive OnWire (serialize : ClientMessage -> Except String (List UInt8)) : List ClientMessage -> List UInt8 -> Prop
  | empty : OnWire serialize [] []
  | frame {msgs : List ClientMessage} {bytes frame : List UInt8} {msg : ClientMessage} :
      OnWire serialize msgs bytes -> encode serialize msg = .ok frame -> OnWire serialize (msgs ++ [msg]) (bytes ++ frame)
  | cut {msgs : List ClientMessage} {bytes frame part : List UInt8} {msg : ClientMessage} :
      OnWire serialize msgs bytes -> encode serialize msg = .ok frame -> part <+: frame ->
        part.length < frame.length -> OnWire serialize msgs (bytes ++ part)

def World.Logged (serialize : ClientMessage -> Except String (List UInt8)) (world : World) : Prop :=
  OnWire serialize (world.sent.map (·.msg)) world.wire.accepted

theorem write_logged {world : World} (logged : world.Logged serialize) (context : String) (msg : ClientMessage)
    (socket : SocketWrite) : (write serialize context msg socket world).2.Logged serialize := by
  unfold write writeMessage
  cases encoded : encode serialize msg with
  | error error => exact logged
  | ok frame =>
    by_cases fits : frame.length ≤ socket.accepted
    · simp only [Sink.write, fits, decide_true, World.Logged, Except.isOk, Except.toBool, if_true, List.map_append,
        List.take_of_length_le]
      exact logged.frame encoded
    · simp only [Sink.write, fits, decide_false, World.Logged, Except.isOk, Except.toBool]
      apply OnWire.cut logged encoded (List.take_prefix _ _)
      rw [List.length_take]
      omega

theorem call_logged {world : World} (logged : world.Logged serialize) (answer : Answer) (muxCall : MuxCall)
    (sender : HerdrMuxSender) : (call serialize answer muxCall sender world).2.2.Logged serialize := by
  have renamed (ids : Ids) : ({ world with ids } : World).Logged serialize := logged
  obtain ⟨ids, same | ⟨msg, same⟩⟩ := call_world answer muxCall sender world
  · rw [same]
    exact renamed ids
  · rw [same]
    exact write_logged (renamed ids) _ msg _

theorem worldStep_logged {answer : Answer} {world after : World} (logged : world.Logged serialize)
    (stepped : WorldStep (muxSender serialize) answer world after) : after.Logged serialize := by
  cases stepped with
  | call muxCall sender => exact call_logged logged answer muxCall sender
  | query sender => exact logged
  | elsewhere => exact logged

theorem backendOpenAttach_logged (daemon : Daemon) (handshake : Handshake) (session : String) (rows cols : UInt16)
    (ids : Ids) : (backendOpenAttach serialize daemon handshake session rows cols ids).2.Logged serialize := by
  refine backendOpenAttach_keeps ?_ (fun _ => .empty) daemon handshake session rows cols ids
  exact fun context msg socket _ _ logged => write_logged logged context msg socket

end Logged

section Runs

variable {Backend : Type}

theorem herdr_wire_framed (serialize : ClientMessage -> Except String (List UInt8)) (daemon : Daemon)
    (handshake : Handshake) (opened : Opening Backend) (ids : Ids) :
    Framed (IsFrame serialize)
        (backendOpenAttach serialize daemon handshake opened.session opened.rows opened.cols ids).2.wire.accepted ∧
      ∀ sender world connectionId viewState events final,
        backendOpenAttach serialize daemon handshake opened.session opened.rows opened.cols ids =
            (.ok sender, world) ->
          Transition.Meets (step (muxSender serialize)) StaysQuiet
            (attached (muxSender serialize) opened connectionId sender world viewState) events ->
          Transition.run (step (muxSender serialize))
              (attached (muxSender serialize) opened connectionId sender world viewState) events = some final ->
          Framed (IsFrame serialize) final.world.wire.accepted := by
  have opening : (backendOpenAttach serialize daemon handshake opened.session opened.rows opened.cols
      ids).2.Aligned serialize := backendOpenAttach_aligned daemon handshake _ _ _ ids
  constructor
  · exact opening.framed
  · intro sender world connectionId viewState events final opens meets ran
    rw [opens] at opening
    have aligned := Transition.invariant_of_meets step_aligned
      (opening : (attached (muxSender serialize) opened connectionId sender world viewState).world.Aligned
        serialize) meets ran
    exact aligned.framed

end Runs

section Torn

def standard (msg : ClientMessage) : Except String (List UInt8) :=
  .ok (bincode msg)

def oneWorkspace : Api :=
  { workspaceList := .ok [{ workspaceId := "w1", label := "main", focused := true, activeTabId := "tab1" }]
    tabList := fun _ => .ok [{ tabId := "tab1", number := 1, label := "shell" }]
    paneList := fun _ =>
      .ok [{ paneId := "p1", terminalId := "t1", tabId := "tab1", focused := true, cwd := none, label := none,
             title := none }]
    paneLayout := fun _ =>
      .ok { tabId := "tab1", zoomed := false,
            panes := [{ paneId := "p1", focused := true, rect := { x := 0, y := 0, width := 80, height := 24 } }] }
    paneZoom := fun _ => .ok { ok := true, error := none, info := none } }

def noIds : Ids :=
  { panes := HerdrPaneRegistry.new, tabs := HerdrTabRegistry.new }

def takesAll : SocketWrite :=
  { accepted := 65536, fault := "" }

def smooth : Handshake :=
  { connect := .ok (), hello := takesAll, welcome := .ok (.welcome 14 .terminalAnsi none), attach := takesAll,
    split := .ok () }

def writer : Opening Unit :=
  { id := "herdr:herdr", kind := .herdr, backend := (), session := "herdr", rows := 24, cols := 80,
    readOnly := false }

def writing (accepted : Nat) : Answer :=
  { daemon := fun _ => oneWorkspace, socket := { accepted, fault := "timed out" }, seenPanes := [],
    seenTabs := [] }

def openedWriter : Except String HerdrMuxSender × World :=
  backendOpenAttach standard (fun _ => oneWorkspace) smooth writer.session writer.rows writer.cols noIds

def attachedWriter : Relay HerdrMuxSender World :=
  attached (muxSender standard) writer "c1" { workspaceId := "w1", currentTerminalId := "t1" } openedWriter.2 ∅

-- The write of the typed `x` times out after five of its seven bytes.
def tornInput : List (Event Answer) :=
  [.initialised (.error "no layout"), .frame (.input [120]) (writing 5), .frame (.resize 24 80) (writing 9)]

theorem input_frame_complete {msg : ClientMessage} : bincode msg ≠ [1, 5, 0] := by
  intro same
  cases msg with
  | input data =>
    have body : sequence data = [5, 0] := by simpa [bincode, varint] using same
    unfold sequence varint at body
    split_ifs at body with short
    · have one : data = [0] := by
        simp only [List.cons_append, List.nil_append, List.cons.injEq] at body
        exact body.2
      simp [one] at body
    · simp at body
    · simp at body
    · simp at body
  | hello => simp [bincode, varint] at same
  | resize => simp [bincode, varint] at same
  | detach => simp [bincode, varint] at same
  | attachTerminal => simp [bincode, varint] at same

theorem torn_bytes_unframed : ¬ Framed (IsFrame standard) ([3, 0, 0, 0, 1] ++ [5, 0, 0, 0, 3, 80, 24, 0, 0]) := by
  intro framed
  obtain ⟨frames, correct, after, split⟩ := framed
  cases frames with
  | nil => simp at split
  | cons frame rest =>
    obtain ⟨msg, encoded⟩ := correct frame List.mem_cons_self
    obtain ⟨payload, serialized, fits, rfl⟩ := encode_ok encoded
    have same : bincode msg = payload := by simpa [standard] using serialized
    simp only [List.flatten_cons, List.append_assoc] at split
    have regrouped : leBytes 4 3 ++ ([1, 5, 0] ++ ([0, 0, 3, 80, 24, 0, 0] ++ after)) =
        leBytes 4 payload.length ++ (payload ++ rest.flatten) := split
    have header := List.append_inj_left regrouped (by simp)
    have length : 3 = payload.length := by
      apply leBytes_injective _ _ header <;> omega
    have content := List.append_inj_left (List.append_inj_right regrouped (by simp)) length
    exact input_frame_complete (same.trans content.symm)

/-- A resize after the torn input frame is read as the rest of it: the length says three bytes, and no
message is the three bytes that follow. -/
theorem torn_input_desynchronises :
    openedWriter.1.toOption = some { workspaceId := "w1", currentTerminalId := "t1" } ∧
      ∃ final, Transition.run (step (muxSender standard)) attachedWriter tornInput = some final ∧
        ¬ Framed (IsFrame standard) final.world.wire.accepted := by
  refine ⟨by decide, _, rfl, ?_⟩
  intro framed
  have hello : IsFrame standard [9, 0, 0, 0, 0, 14, 80, 24, 0, 0, 1, 0, 1] := ⟨helloMessage 24 80, by rfl⟩
  have attach : IsFrame standard [5, 0, 0, 0, 5, 2, 116, 49, 1] := ⟨.attachTerminal "t1" true, by rfl⟩
  have wire : Framed (IsFrame standard) ([9, 0, 0, 0, 0, 14, 80, 24, 0, 0, 1, 0, 1] ++
      ([5, 0, 0, 0, 5, 2, 116, 49, 1] ++ ([3, 0, 0, 0, 1] ++ [5, 0, 0, 0, 3, 80, 24, 0, 0]))) := framed
  have typed := (wire.drop_frame isFrame_prefixFree hello).drop_frame isFrame_prefixFree attach
  exact torn_bytes_unframed typed

-- The same input torn, and a socket that then takes nothing more.
def brokenPipe : List (Event Answer) :=
  [.initialised (.error "no layout"), .frame (.input [120]) (writing 5), .frame (.resize 24 80) (writing 0),
    .streamEnd, .deregister, .dropGuard (writing 0)]

theorem herdr_wire_framed_brokenPipe :
    ∃ final, Transition.run (step (muxSender standard)) attachedWriter brokenPipe = some final ∧
      Framed (IsFrame standard) final.world.wire.accepted := by
  have framed := (herdr_wire_framed standard (fun _ => oneWorkspace) smooth writer noIds).2
    { workspaceId := "w1", currentTerminalId := "t1" } openedWriter.2 "c1" ∅ brokenPipe
  exact ⟨_, rfl, framed _ rfl (by decide) rfl⟩

end Torn

end Muxrd.Herdr
