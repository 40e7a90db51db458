import Muxrd.Control.Socket

set_option autoImplicit false

namespace Muxrd.Control

open Transport Framing Prefixed Config
open Herdr (leBytes leBytes_length leBytes_injective)
open Herdr.Deframing (IoError fromLeBytes fromLeBytes_leBytes)

section Messages

variable {Message : Type} {json : Json Message}

def Carries (json : Json Message) (bytes : List UInt8) (msg : Message) : Prop :=
  ∃ body rest, Announced 4 fromLeBytes bytes body rest ∧ body.length ≤ maxControlMsg ∧ json.fromSlice body = .ok msg

theorem readMsg_ok_iff {stream : Stream} {msg : Message} :
    (readMsg json stream).1 = .ok msg ↔ Carries json (content stream) msg := by
  unfold readMsg
  rcases read : readPrefixed 4 maxControlMsg fromLeBytes stream with ⟨refusal | body, left⟩
  · constructor
    · intro accepted
      cases accepted
    · rintro ⟨body, rest, announced, fits, _⟩
      have found := readPrefixed_ok_iff.mpr ⟨⟨rest, announced⟩, fits⟩
      rw [read] at found
      cases found
  · have announced := announced_of_readPrefixed read
    constructor
    · intro accepted
      cases parsed : json.fromSlice body with
      | error error => simp [parsed, Except.mapError] at accepted
      | ok other =>
        obtain rfl : other = msg := by simpa [parsed, Except.mapError] using accepted
        exact ⟨body, _, announced.1, announced.2, parsed⟩
    · rintro ⟨other, rest, again, _, parsed⟩
      obtain ⟨rfl, _⟩ := announced.1.unique again
      simp [parsed, Except.mapError]

theorem announced_frame {bytes : List UInt8} (short : bytes.length < 256 ^ 4) :
    Announced 4 fromLeBytes (leBytes 4 bytes.length ++ bytes) bytes [] :=
  ⟨leBytes 4 bytes.length, leBytes_length 4 _, fromLeBytes_leBytes short, by simp⟩

theorem writeMsg_ok {msg : Message} {takes : Takes} {after : Sink UInt8}
    (written : writeMsg json msg takes .empty = (.ok (), after)) :
    ∃ bytes, json.toVec msg = .ok bytes ∧ bytes.length < 256 ^ 4 ∧ after.accepted = leBytes 4 bytes.length ++ bytes := by
  unfold writeMsg at written
  cases encoded : json.toVec msg with
  | error error => simp [encoded] at written
  | ok bytes =>
    by_cases long : bytes.length > 4294967295
    · simp [encoded, long] at written
    · simp only [encoded, long, if_false] at written
      rcases first : (Sink.empty : Sink UInt8).write (leBytes 4 bytes.length) takes.lengthPrefix with ⟨_ | _, headed⟩
      · simp [first] at written
      · rcases second : headed.write bytes takes.body with ⟨_ | _, whole⟩
        · simp [first, second] at written
        · simp only [first, second, Prod.mk.injEq] at written
          obtain ⟨_, rfl⟩ := written
          simp only [Sink.write, Prod.mk.injEq, decide_eq_true_eq] at first second
          refine ⟨bytes, rfl, by omega, ?_⟩
          rw [← second.2, ← first.2, List.take_of_length_le first.1, List.take_of_length_le second.1]
          rfl

theorem readMsg_written (jsonExact : json.Exact) {msg : Message} {bytes : List UInt8} (encoded : json.toVec msg = .ok bytes)
    (short : bytes.length < 256 ^ 4) {stream : Stream}
    (arrives : content stream = leBytes 4 bytes.length ++ bytes) :
    (readMsg json stream).1 =
      if bytes.length ≤ maxControlMsg then .ok msg else .error (.oversized bytes.length) := by
  split_ifs with fits
  · exact readMsg_ok_iff.mpr ⟨bytes, [], arrives ▸ announced_frame short, fits, jsonExact msg bytes encoded⟩
  · have large : fromLeBytes (leBytes 4 bytes.length) > maxControlMsg := by
      rw [fromLeBytes_leBytes short]
      omega
    obtain ⟨left, read, _⟩ := readPrefixed_oversized (leBytes_length 4 _) large arrives
    simp [readMsg, read, refused, fromLeBytes_leBytes short]

end Messages

section Loop

variable (requests : Json ControlRequest) (responses : Json ControlResponse) (serving : Serving)

theorem reading_asked_iff (conn : Conn) (req : ControlRequest) :
    conn.reading requests = .asked req ↔ Carries requests (content conn.arrives) req := by
  rw [← readMsg_ok_iff, Conn.reading]
  cases read : (readMsg requests conn.arrives).1 with
  | ok other => simp
  | error error => cases error <;> simp <;> rename_i stop <;> cases stop <;> simp <;> split_ifs <;> simp

def Incoming.last : Incoming -> Bool
  | .failed => false
  | .accepted conn => match conn.reading requests with
    | .blocked | .asked .shutdown => true
    | .bad _ | .asked .status => false

def Incoming.asksShutdown : Incoming -> Bool
  | .failed => false
  | .accepted conn => conn.reading requests = .asked .shutdown

def Incoming.reply : Incoming -> List UInt8
  | .failed => []
  | .accepted conn => match conn.reading requests with
    | .asked req => conn.reply responses serving req
    | .blocked | .bad _ => []

def handled : List Incoming -> List Incoming
  | [] => []
  | incoming :: rest => if incoming.last requests then [incoming] else incoming :: handled rest

theorem acceptLoop_eq (listener : Listener) (incoming : List Incoming) :
    acceptLoop requests responses serving listener incoming =
      let shot := (handled requests incoming).any (Incoming.asksShutdown requests)
      { armed := listener.armed && !shot
        fired := listener.fired + if listener.armed && shot then 1 else 0
        sent := listener.sent ++ (handled requests incoming).map (Incoming.reply requests responses serving) } := by
  induction incoming generalizing listener with
  | nil => simp [acceptLoop, handled]
  | cons first rest ih =>
    cases first with
    | failed => simp [acceptLoop, handled, Incoming.last, ih, Listener.send, Incoming.asksShutdown, Incoming.reply]
    | accepted conn =>
      cases reading : conn.reading requests with
      | blocked =>
        simp [acceptLoop, handled, Incoming.last, reading, Listener.send, Incoming.asksShutdown, Incoming.reply]
      | bad error =>
        simp [acceptLoop, handled, Incoming.last, reading, ih, Listener.send, Incoming.asksShutdown, Incoming.reply]
      | asked req =>
        cases req with
        | status =>
          simp [acceptLoop, handled, Incoming.last, reading, ih, Listener.send, Incoming.asksShutdown, Incoming.reply]
        | shutdown =>
          cases armed : listener.armed <;>
            simp [acceptLoop, handled, Incoming.last, reading, Listener.send, Listener.shoot, armed,
              Incoming.asksShutdown, Incoming.reply]

def Reaches (incoming : List Incoming) (index : Nat) : Prop :=
  ∀ earlier ∈ incoming.take index, earlier.last requests = false

instance (incoming : List Incoming) (index : Nat) : Decidable (Reaches requests incoming index) :=
  inferInstanceAs (Decidable (∀ earlier ∈ incoming.take index, earlier.last requests = false))

theorem handled_getElem (incoming : List Incoming) (index : Nat) :
    (handled requests incoming)[index]? = if Reaches requests incoming index then incoming[index]? else none := by
  induction incoming generalizing index with
  | nil => simp [handled]
  | cons first rest ih =>
    cases index with
    | zero => by_cases last : first.last requests <;> simp [handled, Reaches, last]
    | succ index =>
      have deeper : Reaches requests (first :: rest) (index + 1) ↔
          first.last requests = false ∧ Reaches requests rest index := by
        simp [Reaches]
      cases last : first.last requests with
      | true => simp [handled, deeper, last]
      | false => simp [handled, deeper, last, ih]

end Loop

def Sent {Message : Type} (json : Json Message) (msg : Message) (takes : Takes) (bytes : List UInt8) : Prop :=
  ∃ after, writeMsg json msg takes .empty = (.ok (), after) ∧ after.accepted = bytes

theorem Sent.carried {Message : Type} {json : Json Message} (jsonExact : json.Exact) {msg : Message} {takes : Takes}
    {bytes : List UInt8} (sent : Sent json msg takes bytes) {stream : Stream} (arrives : content stream = bytes) :
    (readMsg json stream).1 =
      if bytes.length ≤ 4 + maxControlMsg then .ok msg else .error (.oversized (bytes.length - 4)) := by
  obtain ⟨after, written, rfl⟩ := sent
  obtain ⟨payload, encoded, short, framed⟩ := writeMsg_ok written
  rw [readMsg_written jsonExact encoded short (arrives.trans framed), framed]
  have length : (leBytes 4 payload.length ++ payload).length = 4 + payload.length := by simp
  rw [length, Nat.add_sub_cancel_left]
  simp only [Nat.add_le_add_iff_left]

section

variable {requests : Json ControlRequest} {responses : Json ControlResponse} {serving : Serving}

theorem asksShutdown_iff (conn : Conn) :
    (Incoming.accepted conn).asksShutdown requests = true ↔ Carries requests (content conn.arrives) .shutdown := by
  rw [← reading_asked_iff]
  simp [Incoming.asksShutdown]

theorem reply_of_carries {conn : Conn} {req : ControlRequest} (asks : Carries requests (content conn.arrives) req) :
    (Incoming.accepted conn).reply requests responses serving = conn.reply responses serving req := by
  have reading := (reading_asked_iff requests conn req).mpr asks
  simp [Incoming.reply, reading]

theorem last_iff (each : Incoming) :
    each.last requests = true ↔ ∃ conn, each = .accepted conn ∧
      (conn.reading requests = .blocked ∨ Carries requests (content conn.arrives) .shutdown) := by
  cases each with
  | failed => simp [Incoming.last]
  | accepted conn =>
    simp only [← reading_asked_iff, Incoming.accepted.injEq, exists_eq_left']
    cases reading : conn.reading requests with
    | asked req => cases req <;> simp [Incoming.last, reading]
    | _ => simp [Incoming.last, reading]

/-- The listener over every list of connections. It gets to those before which none has asked for a shutdown, or
has sent less than a request and keeps its connection open; each of these is sent the reply to its own request and
nothing else. The shutdown trigger is fired once if one of them asks for it, and else never. A client that gets its
reply whole reads the answer, unless that is over the limit of a message. -/
theorem control_socket_serves (requestsExact : requests.Exact) (responsesExact : responses.Exact)
    (incoming : List Incoming) :
    let final := acceptLoop requests responses serving .spawned incoming
    (∀ each : Incoming, each.last requests = true ↔ ∃ conn, each = .accepted conn ∧
      (conn.reading requests = .blocked ∨ Carries requests (content conn.arrives) .shutdown)) ∧
    (∀ index : Nat, final.sent[index]? = if Reaches requests incoming index then
      incoming[index]?.map (Incoming.reply requests responses serving) else none) ∧
    (final.fired = if final.armed then 0 else 1) ∧
    (final.armed = false ↔ ∃ index conn, incoming[index]? = some (.accepted conn) ∧
      Reaches requests incoming index ∧ Carries requests (content conn.arrives) .shutdown) ∧
    ∀ conn req asking replied, Sent requests req asking (content conn.arrives) ->
      (content conn.arrives).length ≤ 4 + maxControlMsg ->
        Sent responses (serving.answer conn.moment req) conn.takes replied ->
        (Incoming.accepted conn).reply requests responses serving = replied ∧
        ∀ stream, content stream = replied -> (readMsg responses stream).1 =
          if replied.length ≤ 4 + maxControlMsg then .ok (serving.answer conn.moment req)
          else .error (.oversized (replied.length - 4)) := by
  intro final
  have loop : final = _ := acceptLoop_eq requests responses serving .spawned incoming
  refine ⟨last_iff, ?replies, ?once, ?shot, ?exchange⟩
  case replies =>
    intro index
    simp only [loop, Listener.spawned, List.nil_append, List.getElem?_map, handled_getElem]
    split_ifs <;> rfl
  case once =>
    cases shot : (handled requests incoming).any (Incoming.asksShutdown requests) <;>
      simp [loop, Listener.spawned, shot]
  case shot =>
    have asked : final.armed = false ↔ ∃ each ∈ handled requests incoming, each.asksShutdown requests = true := by
      simp [loop, Listener.spawned]
    rw [asked]
    constructor
    · rintro ⟨each, member, asks⟩
      obtain ⟨index, here⟩ := List.mem_iff_getElem?.mp member
      rw [handled_getElem] at here
      split_ifs at here with reaches
      cases each with
      | failed => cases asks
      | accepted conn => exact ⟨index, conn, here, reaches, (asksShutdown_iff conn).mp asks⟩
    · rintro ⟨index, conn, here, reaches, asks⟩
      have member : (handled requests incoming)[index]? = some (.accepted conn) := by
        rw [handled_getElem, if_pos reaches, here]
      exact ⟨_, List.mem_of_getElem? member, (asksShutdown_iff conn).mpr asks⟩
  case exchange =>
    intro conn req asking replied asked small sent
    have read := asked.carried requestsExact rfl
    rw [if_pos small] at read
    constructor
    · obtain ⟨after, written, rfl⟩ := sent
      rw [reply_of_carries (readMsg_ok_iff.mp read), Conn.reply, written]
    · intro stream arrives
      exact sent.carried responsesExact arrives

end

section Sampled

-- serde_json's encoding of the variants without fields.
def sampleRequests : Json ControlRequest where
  toVec
    | .shutdown => .ok [34, 83, 104, 117, 116, 100, 111, 119, 110, 34]
    | .status => .ok [34, 83, 116, 97, 116, 117, 115, 34]
  fromSlice bytes :=
    if bytes = [34, 83, 104, 117, 116, 100, 111, 119, 110, 34] then .ok .shutdown
    else if bytes = [34, 83, 116, 97, 116, 117, 115, 34] then .ok .status
    else .error "not decoded"

theorem sampleRequests_exact : sampleRequests.Exact := by
  intro msg bytes encoded
  cases msg <;> rw [← Except.ok.inj encoded] <;> rfl

def sampleResponses : Json ControlResponse where
  toVec
    | .ok => .ok [34, 79, 107, 34]
    | .status _ => .error "not encoded"
  fromSlice bytes := if bytes = [34, 79, 107, 34] then .ok .ok else .error "not decoded"

theorem sampleResponses_exact : sampleResponses.Exact := by
  intro msg bytes encoded
  cases msg with
  | ok =>
    rw [← Except.ok.inj encoded]
    rfl
  | status info => cases encoded

def sampleServing : Serving :=
  { version := "0.1.0", bindAddr := "127.0.0.1:50051", pid := 7, certMode := .selfSigned }

def sampleConn (arrives : Stream) : Incoming :=
  .accepted
    { arrives, closes := true, moment := { uptimeSecs := 3, clientCount := 0 },
      takes := { lengthPrefix := 4, body := 4, flushes := true } }

-- A length of 16 MiB, a length that breaks off, a shutdown request in two reads, and one more client.
def sampleIncoming : List Incoming :=
  [sampleConn [.bytes [0, 0, 0, 1, 34] (List.cons_ne_nil _ _)], .failed,
    sampleConn [.bytes [10, 0] (List.cons_ne_nil _ _)],
    sampleConn [.bytes [10, 0] (List.cons_ne_nil _ _), .interrupted,
      .bytes [0, 0, 34, 83, 104, 117, 116, 100, 111, 119, 110, 34] (List.cons_ne_nil _ _)],
    sampleConn [.bytes [10, 0, 0, 0, 34, 83, 104, 117, 116, 100, 111, 119, 110, 34] (List.cons_ne_nil _ _)]]

theorem control_socket_serves_sampled :
    let final := acceptLoop sampleRequests sampleResponses sampleServing .spawned sampleIncoming
    (List.range 5).map (final.sent[·]?) =
      [some [], some [], some [], some [4, 0, 0, 0, 34, 79, 107, 34], none] ∧ final.fired = 1 := by
  obtain ⟨_, replies, once, _⟩ :=
    @control_socket_serves _ _ sampleServing sampleRequests_exact sampleResponses_exact sampleIncoming
  refine ⟨?_, once.trans rfl⟩
  simp only [replies]
  rfl

end Sampled

end Muxrd.Control
