import Muxrd.Herdr.Wire
import Muxrd.Lib.Transport
import Muxrd.Types

set_option autoImplicit false

namespace Muxrd.Herdr.Deframing

open Framing Transport

structure CellData where
  symbol : String
  fg : UInt32
  bg : UInt32
  modifier : UInt16
  skip : Bool
  hyperlink : Option UInt32
  deriving DecidableEq, Repr

structure CursorState where
  x : UInt16
  y : UInt16
  visible : Bool
  shape : UInt8
  deriving DecidableEq, Repr

structure FrameData where
  cells : List CellData
  width : UInt16
  height : UInt16
  cursor : Option CursorState
  hyperlinks : List String
  graphics : List UInt8
  deriving DecidableEq, Repr

structure TerminalFrame where
  seq : UInt64
  width : UInt16
  height : UInt16
  full : Bool
  bytes : List UInt8
  deriving DecidableEq, Repr

inductive NotifyKind
  | sound
  | toast
  | systemToast
  deriving DecidableEq, Repr

/-- What herdr sends, in the order of the variants' tags. -/
inductive ServerMessage
  | welcome (version : UInt32) (encoding : RenderEncoding) (error : Option String)
  | frame (frame : FrameData)
  | terminal (frame : TerminalFrame)
  | graphics (bytes : List UInt8)
  | serverShutdown (reason : Option String)
  | notify (kind : NotifyKind) (message : String) (body : Option String)
  | clipboard (data : String)
  | windowTitle (title : Option String)
  | reloadSoundConfig
  | mouseCapture (enabled : Bool)
  deriving DecidableEq, Repr

/-- bincode under its standard configuration; `decode` also tells how many bytes it has used. -/
structure Codec (Message : Type) where
  encode : Message -> Except String (List UInt8)
  decode : List UInt8 -> Except String (Message × Nat)

def Codec.Exact {Message : Type} (codec : Codec Message) : Prop :=
  ∀ msg payload, codec.encode msg = .ok payload ->
    ∀ rest, codec.decode (payload ++ rest) = .ok (msg, payload.length)

structure IoError where
  isUnexpectedEof : Bool
  display : String
  deriving DecidableEq, Repr

abbrev Socket := List (Arrival UInt8 IoError)

def maxFrameSize : Nat := 2 * 1024 * 1024

-- `u32::from_le_bytes`.
def fromLeBytes : List UInt8 -> Nat
  | [] => 0
  | byte :: rest => byte.toNat + 256 * fromLeBytes rest

def readExactOrEof (count : Nat) (socket : Socket) : Except FramingError (List UInt8) × Socket :=
  match readExact count socket with
  | (.ok bytes, left) => (.ok bytes, left)
  | (.error .endOfStream, left) => (.error .unexpectedEof, left)
  | (.error (.failed fault), left) =>
    (.error (if fault.isUnexpectedEof then .unexpectedEof else .io fault.display), left)

section Reading

variable (codec : Codec ServerMessage)

def decodePayload (claimed : Nat) (payload : List UInt8) : Except FramingError ServerMessage :=
  match codec.decode payload with
  | .error error => .error (.bincode error)
  | .ok (msg, consumed) =>
    if consumed ≠ claimed then
      .error (.bincode ("decoded " ++ toString consumed ++ " bytes but frame claimed " ++ toString claimed ++
        " — trailing bytes not allowed"))
    else .ok msg

-- The length is checked before the payload is read.
def readServerMessage (socket : Socket) : Except FramingError ServerMessage × Socket :=
  match readExactOrEof 4 socket with
  | (.error error, left) => (.error error, left)
  | (.ok lenBuf, left) =>
    if fromLeBytes lenBuf > maxFrameSize then (.error (.oversized (fromLeBytes lenBuf) maxFrameSize), left)
    else
      match readExactOrEof (fromLeBytes lenBuf) left with
      | (.error error, left) => (.error error, left)
      | (.ok payload, left) => (decodePayload codec (fromLeBytes lenBuf) payload, left)

def mapServerMessage : ServerMessage -> MuxServerMsg
  | .terminal frame => .render frame.bytes
  | .serverShutdown reason => .event (.exit (reason.getD ""))
  | .welcome _ _ _ | .frame _ | .graphics _ | .notify _ _ _ | .clipboard _ | .windowTitle _ => .other
  | .reloadSoundConfig | .mouseCapture _ => .other

-- The end of the stream and a corrupt frame both end the relay.
def recvFrom (socket : Socket) : Option MuxServerMsg × Socket :=
  match readServerMessage codec socket with
  | (.ok msg, left) => (some (mapServerMessage msg), left)
  | (.error _, left) => (none, left)

end Reading

def repeated {Result : Type} (read : Socket -> Result × Socket) : Nat -> Socket -> List Result
  | 0, _ => []
  | calls + 1, socket => (read socket).1 :: repeated read calls (read socket).2

@[simp] theorem fromLeBytes_leBytes {width value : Nat} (fits : value < 256 ^ width) :
    fromLeBytes (leBytes width value) = value := by
  induction width generalizing value with
  | zero =>
    simp only [Nat.pow_zero] at fits
    simp only [leBytes, fromLeBytes]
    omega
  | succ width ih =>
    have high : value / 256 < 256 ^ width := by
      rw [Nat.pow_succ] at fits
      exact Nat.div_lt_of_lt_mul (by omega)
    have low : (UInt8.ofNat value).toNat = value % 256 := UInt8.toNat_ofNat'
    simp only [leBytes, fromLeBytes, ih high, low]
    omega

section Reads

variable {codec : Codec ServerMessage} {socket left : Socket} {count : Nat}

theorem readExactOrEof_enough (enough : count ≤ (content socket).length) :
    ∃ left, readExactOrEof count socket = (.ok ((content socket).take count), left) ∧
      content left = (content socket).drop count ∧ (Calm socket -> Calm left) := by
  rcases readExact_enough enough with ⟨left, read, after, calm⟩
  exact ⟨left, by simp [readExactOrEof, read], after, calm⟩

theorem readExactOrEof_short (short : (content socket).length < count) :
    ∃ error left, readExactOrEof count socket = (.error error, left) ∧
      (Calm socket -> error = .unexpectedEof ∧ left = []) := by
  rcases readExact_short short with ⟨stop, left, read, calm⟩
  cases stop with
  | endOfStream => exact ⟨_, left, by simp only [readExactOrEof, read], fun quiet => ⟨rfl, (calm quiet).2⟩⟩
  | failed fault =>
    refine ⟨if fault.isUnexpectedEof then .unexpectedEof else .io fault.display, left, ?_, ?_⟩
    · simp only [readExactOrEof, read]
    · intro quiet
      simpa using (calm quiet).1

theorem readExactOrEof_ok {bytes : List UInt8} (read : readExactOrEof count socket = (.ok bytes, left)) :
    bytes.length = count ∧ content socket = bytes ++ content left := by
  unfold readExactOrEof at read
  rcases found : readExact count socket with ⟨stop | taken, rest⟩
  · cases stop <;> simp [found] at read
  · have parts := content_of_readExact found
    simp only [found, Prod.mk.injEq, Except.ok.injEq] at read
    rwa [← read.1, ← read.2]

variable (codec) in
theorem readServerMessage_whole {lenBuf payload rest : List UInt8} (width : lenBuf.length = 4)
    (claimed : payload.length = fromLeBytes lenBuf) (fits : payload.length ≤ maxFrameSize)
    (arrives : content socket = lenBuf ++ (payload ++ rest)) :
    ∃ left, readServerMessage codec socket = (decodePayload codec payload.length payload, left) ∧
      content left = rest ∧ (Calm socket -> Calm left) := by
  have prefixed : 4 ≤ (content socket).length := by
    rw [arrives, List.length_append]
    omega
  rcases readExactOrEof_enough prefixed with ⟨behind, header, after, calm⟩
  rw [arrives, ← width, List.take_left] at header
  rw [arrives, ← width, List.drop_left] at after
  have enough : fromLeBytes lenBuf ≤ (content behind).length := by
    rw [after, List.length_append]
    omega
  rcases readExactOrEof_enough enough with ⟨left, body, behindBody, calmBody⟩
  rw [after, ← claimed, List.take_left] at body
  rw [after, ← claimed, List.drop_left] at behindBody
  refine ⟨left, ?_, behindBody, fun quiet => calmBody (calm quiet)⟩
  rw [width] at header
  simp [readServerMessage, header, ← claimed, Nat.not_lt.mpr fits, body]

variable (codec) in
theorem readServerMessage_cut {declared : Nat} {payload part : List UInt8} (header : declared < 2 ^ 32)
    (length : payload.length = declared) (cut : part <+: leBytes 4 declared ++ payload)
    (short : part.length < 4 + declared) (arrives : content socket = part) :
    ∃ error left, readServerMessage codec socket = (.error error, left) ∧
      (Calm socket -> declared ≤ maxFrameSize -> error = .unexpectedEof ∧ left = []) := by
  by_cases inPrefix : part.length < 4
  · rcases readExactOrEof_short (arrives ▸ inPrefix) with ⟨error, left, read, calm⟩
    exact ⟨error, left, by simp [readServerMessage, read], fun quiet _ => calm quiet⟩
  · have prefixed : 4 ≤ (content socket).length := by
      rw [arrives]
      omega
    rcases readExactOrEof_enough prefixed with ⟨behind, read, after, calm⟩
    have taken : (content socket).take 4 = leBytes 4 declared := by
      rcases cut with ⟨missing, whole⟩
      have first := congrArg (List.take 4) whole
      rw [List.take_append_of_le_length (by omega), List.take_append_of_le_length (by simp)] at first
      rw [arrives, first]
      exact List.take_of_length_le (by simp)
    have value : fromLeBytes (leBytes 4 declared) = declared := fromLeBytes_leBytes header
    rw [taken] at read
    by_cases large : declared > maxFrameSize
    · refine ⟨.oversized declared maxFrameSize, behind, ?_, ?_⟩
      · simp [readServerMessage, read, value, large]
      · intro _ admissible
        omega
    · have missing : (content behind).length < declared := by
        rw [after, arrives, List.length_drop]
        omega
      rcases readExactOrEof_short missing with ⟨error, left, stopped, calmBody⟩
      refine ⟨error, left, ?_, fun quiet _ => calmBody (calm quiet)⟩
      simp [readServerMessage, read, value, large, stopped]

theorem decodePayload_ok {claimed : Nat} {payload : List UInt8} {msg : ServerMessage}
    (decoded : decodePayload codec claimed payload = .ok msg) : codec.decode payload = .ok (msg, claimed) := by
  unfold decodePayload at decoded
  cases outcome : codec.decode payload with
  | error error => simp [outcome] at decoded
  | ok found =>
    by_cases whole : found.2 = claimed
    · simp only [outcome, whole, ne_eq, not_true_eq_false, if_false, Except.ok.injEq] at decoded
      rw [← decoded, ← whole]
    · simp [outcome, whole] at decoded

theorem readServerMessage_ok {msg : ServerMessage} (read : readServerMessage codec socket = (.ok msg, left)) :
    ∃ lenBuf payload, lenBuf.length = 4 ∧ payload.length = fromLeBytes lenBuf ∧
      fromLeBytes lenBuf ≤ maxFrameSize ∧ codec.decode payload = .ok (msg, payload.length) ∧
      content socket = lenBuf ++ (payload ++ content left) := by
  unfold readServerMessage at read
  rcases header : readExactOrEof 4 socket with ⟨error | lenBuf, behind⟩
  · simp [header] at read
  · simp only [header] at read
    by_cases large : fromLeBytes lenBuf > maxFrameSize
    · simp [large] at read
    · simp only [large, if_false] at read
      rcases body : readExactOrEof (fromLeBytes lenBuf) behind with ⟨error | payload, rest⟩
      · simp [body] at read
      · simp only [body, Prod.mk.injEq] at read
        have first := readExactOrEof_ok header
        have second := readExactOrEof_ok body
        refine ⟨lenBuf, payload, first.1, second.1, by omega, ?_, ?_⟩
        · rw [second.1]
          exact decodePayload_ok read.1
        · rw [first.2, second.2, read.2]

end Reads

section Streams

variable {codec : Codec ServerMessage}

inductive FrameStream (codec : Codec ServerMessage) : List ServerMessage -> List UInt8 -> Prop
  | nil : FrameStream codec [] []
  | cons {msg : ServerMessage} {payload : List UInt8} {messages : List ServerMessage} {bytes : List UInt8}
      (encoded : codec.encode msg = .ok payload) (fits : payload.length ≤ maxFrameSize)
      (rest : FrameStream codec messages bytes) :
      FrameStream codec (msg :: messages) (leBytes 4 payload.length ++ (payload ++ bytes))

theorem decodePayload_encoded (codecExact : codec.Exact) {msg : ServerMessage} {payload : List UInt8}
    (encoded : codec.encode msg = .ok payload) : decodePayload codec payload.length payload = .ok msg := by
  have decoded := codecExact msg payload encoded []
  rw [List.append_nil] at decoded
  simp [decodePayload, decoded]

theorem repeated_framed (codecExact : codec.Exact) {messages : List ServerMessage} {bytes tail : List UInt8}
    (framed : FrameStream codec messages bytes) {socket : Socket} (calm : Calm socket)
    (arrives : content socket = bytes ++ tail) :
    ∃ left, Calm left ∧ content left = tail ∧ ∀ more,
      repeated (readServerMessage codec) (messages.length + more) socket =
        messages.map .ok ++ repeated (readServerMessage codec) more left := by
  induction framed generalizing socket with
  | nil => exact ⟨socket, calm, arrives, fun more => by simp⟩
  | @cons msg payload messages bytes encoded fits rest ih =>
    have admissible : payload.length < 256 ^ 4 := by
      simp only [maxFrameSize] at fits
      omega
    have framed : content socket = leBytes 4 payload.length ++ (payload ++ (bytes ++ tail)) := by
      simpa using arrives
    have whole := readServerMessage_whole codec (leBytes_length 4 payload.length)
      (fromLeBytes_leBytes admissible).symm fits framed
    rcases whole with ⟨behind, read, after, quiet⟩
    rw [decodePayload_encoded codecExact encoded] at read
    rcases ih (quiet calm) after with ⟨left, calmLeft, tailLeft, others⟩
    refine ⟨left, calmLeft, tailLeft, ?_⟩
    intro more
    have count : (msg :: messages).length + more = messages.length + more + 1 := by
      simp only [List.length_cons]
      omega
    rw [count, repeated, read]
    simp [others more]

structure CutFrame (declared : Nat) (part : List UInt8) : Prop where
  header : declared < 2 ^ 32
  cut : ∃ payload : List UInt8, payload.length = declared ∧ part <+: leBytes 4 declared ++ payload
  short : part.length < 4 + declared

theorem cutFrame_nil : CutFrame 0 [] :=
  { header := by decide, cut := ⟨[], rfl, List.nil_prefix⟩, short := by decide }

variable (codec) in
theorem repeated_cut {declared : Nat} {part : List UInt8} (cut : CutFrame declared part) {socket : Socket}
    (calm : Calm socket) (arrives : content socket = part) :
    (∃ error, repeated (readServerMessage codec) 1 socket = [.error error]) ∧
      (declared ≤ maxFrameSize -> ∀ more,
        repeated (readServerMessage codec) more socket = List.replicate more (.error .unexpectedEof)) := by
  rcases cut.cut with ⟨payload, length, leading⟩
  rcases readServerMessage_cut codec cut.header length leading cut.short arrives with
    ⟨error, left, read, ended⟩
  constructor
  · exact ⟨error, by simp [repeated, read]⟩
  · intro admissible more
    have drained : ∀ calls, repeated (readServerMessage codec) calls [] =
        List.replicate calls (.error .unexpectedEof) := by
      intro calls
      induction calls with
      | zero => rfl
      | succ calls ih =>
        rw [List.replicate_succ, ← ih]
        rfl
    cases more with
    | zero => rfl
    | succ more =>
      have last := ended calm admissible
      rw [repeated, read, last.1, last.2, drained more, List.replicate_succ]

def received : Except FramingError ServerMessage -> Option MuxServerMsg
  | .ok msg => some (mapServerMessage msg)
  | .error _ => none

theorem repeated_recvFrom (calls : Nat) (socket : Socket) :
    repeated (recvFrom codec) calls socket = (repeated (readServerMessage codec) calls socket).map received := by
  induction calls generalizing socket with
  | zero => rfl
  | succ calls ih =>
    rcases read : readServerMessage codec socket with ⟨_ | _, left⟩ <;>
      simp [repeated, recvFrom, read, received, ih]

end Streams

section Encoding

variable {Message : Type} {codec : Codec Message}

theorem encode_eq {msg : Message} {payload : List UInt8} (encoded : codec.encode msg = .ok payload)
    (fits : payload.length < 2 ^ 32) : encode codec.encode msg = .ok (leBytes 4 payload.length ++ payload) := by
  have short : ¬ payload.length > 4294967295 := by omega
  simp [encode, encoded, short]

theorem encode_injective (codecExact : codec.Exact) {first second : Message} {frame : List UInt8}
    (one : encode codec.encode first = .ok frame) (other : encode codec.encode second = .ok frame) :
    first = second := by
  rcases encode_ok one with ⟨payload, encoded, fits, shape⟩
  rcases encode_ok other with ⟨payload', encoded', fits', shape'⟩
  have same : payload = payload' := by
    have split := shape.symm.trans shape'
    exact List.append_inj_right split (by simp)
  have decoded := codecExact first payload encoded []
  have decoded' := codecExact second payload' encoded' []
  rw [← same, decoded] at decoded'
  simp only [Except.ok.injEq, Prod.mk.injEq] at decoded'
  exact decoded'.1

def Encodes (codec : Codec Message) (messages : List Message) (frames : List (List UInt8)) : Prop :=
  List.Forall₂ (fun msg frame => encode codec.encode msg = .ok frame) messages frames

theorem Encodes.isFrame {messages : List Message} {frames : List (List UInt8)}
    (encodes : Encodes codec messages frames) : ∀ frame ∈ frames, IsFrame codec.encode frame := by
  induction encodes with
  | nil => simp
  | @cons msg frame messages frames encoded _ ih =>
    intro other member
    cases List.mem_cons.mp member with
    | inl first => exact ⟨msg, first ▸ encoded⟩
    | inr later => exact ih other later

theorem Encodes.injective (codecExact : codec.Exact) {first second : List Message} {frames : List (List UInt8)}
    (one : Encodes codec first frames) (other : Encodes codec second frames) : first = second := by
  induction one generalizing second with
  | nil =>
    cases other
    rfl
  | cons encoded _ ih =>
    cases other with
    | cons other others => rw [encode_injective codecExact encoded other, ih others]

theorem not_isFrame_nil : ¬ IsFrame codec.encode [] := by
  rintro ⟨msg, encoded⟩
  rcases encode_ok encoded with ⟨payload, _, _, shape⟩
  have length := congrArg List.length shape
  simp only [List.length_nil, List.length_append, leBytes_length] at length
  omega

theorem encodings_split (codecExact : codec.Exact) {first second : List Message} {frames others : List (List UInt8)}
    (one : Encodes codec first frames) (other : Encodes codec second others)
    (same : frames.flatten = others.flatten) : first = second := by
  have split := flatten_injective isFrame_prefixFree not_isFrame_nil one.isFrame other.isFrame same
  rw [← split] at other
  exact Encodes.injective codecExact one other

end Encoding

/-- Framing and deframing, for exact codecs of the messages herdr sends and of those it is sent. -/
theorem herdr_framing {codec : Codec ServerMessage} (codecExact : codec.Exact) {Message : Type}
    {client : Codec Message} (clientExact : client.Exact) :
    (∀ messages bytes, FrameStream codec messages bytes ->
      ∀ socket, Calm socket -> content socket = bytes -> ∀ more,
        repeated (readServerMessage codec) (messages.length + more) socket =
            messages.map .ok ++ List.replicate more (.error .unexpectedEof) ∧
          repeated (recvFrom codec) (messages.length + more) socket =
            messages.map (fun msg => some (mapServerMessage msg)) ++ List.replicate more none) ∧
    (∀ socket left msg, readServerMessage codec socket = (.ok msg, left) ->
      ∃ lenBuf payload, lenBuf.length = 4 ∧ payload.length = fromLeBytes lenBuf ∧
        fromLeBytes lenBuf ≤ maxFrameSize ∧ codec.decode payload = .ok (msg, payload.length) ∧
        content socket = lenBuf ++ (payload ++ content left)) ∧
    (∀ messages bytes declared part, FrameStream codec messages bytes -> CutFrame declared part ->
      ∀ socket, Calm socket -> content socket = bytes ++ part ->
        (∃ error, repeated (readServerMessage codec) (messages.length + 1) socket =
          messages.map .ok ++ [.error error]) ∧
        (declared ≤ maxFrameSize -> ∀ more, repeated (readServerMessage codec) (messages.length + more) socket =
          messages.map .ok ++ List.replicate more (.error .unexpectedEof))) ∧
    (∀ msg payload, client.encode msg = .ok payload -> payload.length < 2 ^ 32 ->
      encode client.encode msg = .ok (leBytes 4 payload.length ++ payload)) ∧
    ∀ first second frames others, Encodes client first frames -> Encodes client second others ->
      frames.flatten = others.flatten -> first = second := by
  have truncated : ∀ messages bytes declared part, FrameStream codec messages bytes -> CutFrame declared part ->
      ∀ socket, Calm socket -> content socket = bytes ++ part ->
        (∃ error, repeated (readServerMessage codec) (messages.length + 1) socket =
          messages.map .ok ++ [.error error]) ∧
        (declared ≤ maxFrameSize -> ∀ more, repeated (readServerMessage codec) (messages.length + more) socket =
          messages.map .ok ++ List.replicate more (.error .unexpectedEof)) := by
    intro messages bytes declared part framed cut socket calm arrives
    rcases repeated_framed codecExact framed calm arrives with ⟨left, calmLeft, tail, reads⟩
    have last := repeated_cut codec cut calmLeft tail
    constructor
    · rcases last.1 with ⟨error, stopped⟩
      exact ⟨error, by rw [reads 1, stopped]⟩
    · intro admissible more
      rw [reads more, last.2 admissible more]
  refine ⟨?complete, ?accepted, truncated, ?framed, ?split⟩
  case complete =>
    intro messages bytes framed socket calm arrives more
    have reads := (truncated messages bytes 0 [] framed cutFrame_nil socket calm (by simpa using arrives)).2
      (Nat.zero_le _) more
    refine ⟨reads, ?_⟩
    rw [repeated_recvFrom, reads]
    simp [received, Function.comp_def]
  case accepted =>
    intro socket left msg read
    exact readServerMessage_ok read
  case framed =>
    intro msg payload encoded fits
    exact encode_eq encoded fits
  case split =>
    intro first second frames others one other same
    exact encodings_split clientExact one other same

section Sampled

-- bincode's standard encoding of the messages that need no lengths.
def sampleServer : Codec ServerMessage where
  encode
    | .serverShutdown none => .ok [4, 0]
    | .reloadSoundConfig => .ok [8]
    | .mouseCapture enabled => .ok [9, if enabled then 1 else 0]
    | _ => .error "not encoded"
  decode
    | 4 :: 0 :: _ => .ok (.serverShutdown none, 2)
    | 8 :: _ => .ok (.reloadSoundConfig, 1)
    | 9 :: 0 :: _ => .ok (.mouseCapture false, 2)
    | 9 :: 1 :: _ => .ok (.mouseCapture true, 2)
    | _ => .error "not decoded"

theorem sampleServer_exact : sampleServer.Exact := by
  intro msg payload encoded rest
  cases msg with
  | reloadSoundConfig =>
    obtain rfl : [8] = payload := Except.ok.inj encoded
    rfl
  | mouseCapture enabled =>
    obtain rfl : [9, if enabled then 1 else 0] = payload := Except.ok.inj encoded
    cases enabled <;> rfl
  | serverShutdown reason =>
    cases reason with
    | none =>
      obtain rfl : [4, 0] = payload := Except.ok.inj encoded
      rfl
    | some reason => simp [sampleServer] at encoded
  | _ => simp [sampleServer] at encoded

def sampleClient : Codec ClientMessage where
  encode
    | .detach => .ok [4]
    | _ => .error "not encoded"
  decode
    | 4 :: _ => .ok (.detach, 1)
    | _ => .error "not decoded"

theorem sampleClient_exact : sampleClient.Exact := by
  intro msg payload encoded rest
  cases msg with
  | detach =>
    obtain rfl : [4] = payload := Except.ok.inj encoded
    rfl
  | _ => simp [sampleClient] at encoded

-- Two frames and half a length, in reads that respect neither frame nor header.
def sampledSocket : Socket :=
  [.bytes [2, 0] (List.cons_ne_nil _ _), .interrupted, .bytes [0, 0, 9, 1, 2, 0, 0, 0, 4] (List.cons_ne_nil _ _),
    .bytes [0, 7, 0] (List.cons_ne_nil _ _)]

theorem herdr_framing_sampled :
    repeated (readServerMessage sampleServer) 4 sampledSocket =
      [.ok (.mouseCapture true), .ok (.serverShutdown none), .error .unexpectedEof, .error .unexpectedEof] := by
  have framing := (herdr_framing sampleServer_exact sampleClient_exact).2.2.1
  have small : 2 ≤ maxFrameSize := by decide
  have framed : FrameStream sampleServer [.mouseCapture true, .serverShutdown none] [2, 0, 0, 0, 9, 1, 2, 0, 0, 0, 4, 0] :=
    .cons (rfl : sampleServer.encode (.mouseCapture true) = .ok [9, 1]) small
      (.cons (rfl : sampleServer.encode (.serverShutdown none) = .ok [4, 0]) small .nil)
  have cut : CutFrame 7 [7, 0] :=
    { header := by decide
      cut := ⟨List.replicate 7 0, by decide, [0, 0] ++ List.replicate 7 0, rfl⟩
      short := by decide }
  exact (framing _ _ 7 [7, 0] framed cut sampledSocket trivial rfl).2 (by decide) 2

end Sampled

end Muxrd.Herdr.Deframing
