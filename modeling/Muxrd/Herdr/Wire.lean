import Mathlib.Algebra.GroupWithZero.Nat
import Muxrd.Lib.Framing
import Muxrd.Lib.Utf8

set_option autoImplicit false

namespace Muxrd.Herdr

open Framing RustStd

inductive RenderEncoding
  | semanticFrame
  | terminalAnsi
  deriving DecidableEq, Repr

inductive ClientKeybindings
  | server
  | local (keysToml : String)
  deriving DecidableEq, Repr

inductive ClientLaunchMode
  | app
  | terminalAttach
  deriving DecidableEq, Repr

/-- The messages muxrd sends. The variants it never sends only keep the tags of the others. -/
inductive ClientMessage
  | hello (version : UInt32) (cols rows : UInt16) (cellWidthPx cellHeightPx : UInt32)
      (requestedEncoding : RenderEncoding) (keybindings : ClientKeybindings) (launchMode : ClientLaunchMode)
  | input (data : List UInt8)
  | resize (cols rows : UInt16) (cellWidthPx cellHeightPx : UInt32)
  | detach
  | attachTerminal (terminalId : String) (takeover : Bool)
  deriving DecidableEq, Repr

inductive FramingError
  | oversized (claimed max : Nat)
  | io (error : String)
  | bincode (error : String)
  | unexpectedEof
  deriving DecidableEq, Repr

def FramingError.display : FramingError -> String
  | .oversized claimed max => "frame length " ++ toString claimed ++ " exceeds maximum " ++ toString max
  | .io error => "I/O error: " ++ error
  | .bincode error => "bincode error: " ++ error
  | .unexpectedEof => "unexpected end of stream"

def leBytes : Nat -> Nat -> List UInt8
  | 0, _ => []
  | width + 1, value => UInt8.ofNat value :: leBytes width (value / 256)

def encode {Message : Type} (serialize : Message -> Except String (List UInt8)) (msg : Message) :
    Except FramingError (List UInt8) :=
  match serialize msg with
  | .error error => .error (.bincode error)
  | .ok payload =>
    if payload.length > 4294967295 then
      .error (.bincode
        ("payload length " ++ toString payload.length ++ " exceeds u32::MAX — too large to frame"))
    else .ok (leBytes 4 payload.length ++ payload)

-- The bytes the socket takes, and its error when these are not all.
structure SocketWrite where
  accepted : Nat
  fault : String
  deriving DecidableEq, Repr

def writeMessage (serialize : ClientMessage -> Except String (List UInt8)) (msg : ClientMessage)
    (socket : SocketWrite) (sink : Sink UInt8) : Except FramingError Unit × Sink UInt8 :=
  match encode serialize msg with
  | .error error => (.error error, sink)
  | .ok frame =>
    match sink.write frame socket.accepted with
    | (true, after) => (.ok (), after)
    | (false, after) => (.error (.io socket.fault), after)

def IsFrame {Message : Type} (serialize : Message -> Except String (List UInt8)) (frame : List UInt8) : Prop :=
  ∃ msg, encode serialize msg = .ok frame

@[simp] theorem leBytes_length (width value : Nat) : (leBytes width value).length = width := by
  induction width generalizing value with
  | zero => rfl
  | succ width ih => simp [leBytes, ih]

theorem leBytes_injective {width first second : Nat} (firstFits : first < 256 ^ width)
    (secondFits : second < 256 ^ width) (same : leBytes width first = leBytes width second) :
    first = second := by
  induction width generalizing first second with
  | zero => omega
  | succ width ih =>
    simp only [leBytes, List.cons.injEq] at same
    have low : first % 256 = second % 256 := by
      have bytes := congrArg UInt8.toNat same.1
      simpa using bytes
    have high : first / 256 = second / 256 := by
      apply ih _ _ same.2
      · rw [Nat.pow_succ] at firstFits
        exact Nat.div_lt_of_lt_mul (by omega)
      · rw [Nat.pow_succ] at secondFits
        exact Nat.div_lt_of_lt_mul (by omega)
    omega

section

variable {Message : Type} {serialize : Message -> Except String (List UInt8)}

theorem encode_ok {msg : Message} {frame : List UInt8}
    (encoded : encode serialize msg = .ok frame) :
    ∃ payload, serialize msg = .ok payload ∧ payload.length ≤ 4294967295 ∧
      frame = leBytes 4 payload.length ++ payload := by
  unfold encode at encoded
  cases payload : serialize msg with
  | error message => simp [payload] at encoded
  | ok bytes =>
    simp only [payload] at encoded
    split_ifs at encoded with long
    refine ⟨bytes, rfl, by omega, ?_⟩
    simpa using encoded.symm

theorem isFrame_prefixFree : PrefixFree (IsFrame serialize) := by
  have injective (first second : Nat) (firstFits : first ≤ 4294967295) (secondFits : second ≤ 4294967295)
      (same : leBytes 4 first = leBytes 4 second) : first = second := by
    apply leBytes_injective _ _ same <;> omega
  apply prefixFree_of_header (leBytes_length 4) injective
  intro frame encoded
  obtain ⟨msg, encoded⟩ := encoded
  obtain ⟨payload, _, fits, shape⟩ := encode_ok encoded
  exact ⟨payload, fits, shape⟩

theorem writeMessage_aligned {serialize : ClientMessage -> Except String (List UInt8)} {msg : ClientMessage}
    {socket : SocketWrite} {sink : Sink UInt8} (aligned : Aligned (IsFrame serialize) sink)
    (quiet : sink.torn = true -> socket.accepted = 0) :
    Aligned (IsFrame serialize) (writeMessage serialize msg socket sink).2 := by
  unfold writeMessage
  cases encoded : encode serialize msg with
  | error error => exact aligned
  | ok frame =>
    have written := write_aligned aligned (⟨msg, encoded⟩ : IsFrame serialize frame) quiet
    rcases outcome : sink.write frame socket.accepted with ⟨complete, after⟩
    rw [outcome] at written
    cases complete <;> simpa [outcome] using written

end

section Bincode

-- An unsigned integer under `config::standard()`: one byte below 251, else a width mark and the value
-- in little-endian order.
def varint (value : Nat) : List UInt8 :=
  if value < 251 then [UInt8.ofNat value]
  else if value < 2 ^ 16 then 251 :: leBytes 2 value
  else if value < 2 ^ 32 then 252 :: leBytes 4 value
  else 253 :: leBytes 8 value

def sequence (bytes : List UInt8) : List UInt8 :=
  varint bytes.length ++ bytes

def RenderEncoding.bytes : RenderEncoding -> List UInt8
  | .semanticFrame => varint 0
  | .terminalAnsi => varint 1

def ClientKeybindings.bytes : ClientKeybindings -> List UInt8
  | .server => varint 0
  | .local keysToml => varint 1 ++ sequence (asBytes keysToml)

def ClientLaunchMode.bytes : ClientLaunchMode -> List UInt8
  | .app => varint 0
  | .terminalAttach => varint 1

-- What bincode makes of a message: the position of its variant, then its fields in order.
def bincode : ClientMessage -> List UInt8
  | .hello version cols rows cellWidthPx cellHeightPx requestedEncoding keybindings launchMode =>
    varint 0 ++ varint version.toNat ++ varint cols.toNat ++ varint rows.toNat ++
      varint cellWidthPx.toNat ++ varint cellHeightPx.toNat ++ requestedEncoding.bytes ++
      keybindings.bytes ++ launchMode.bytes
  | .input data => varint 1 ++ sequence data
  | .resize cols rows cellWidthPx cellHeightPx =>
    varint 3 ++ varint cols.toNat ++ varint rows.toNat ++ varint cellWidthPx.toNat ++
      varint cellHeightPx.toNat
  | .detach => varint 4
  | .attachTerminal terminalId takeover =>
    varint 5 ++ sequence (asBytes terminalId) ++ [if takeover then 1 else 0]

example : bincode (.resize 80 24 0 0) = [3, 80, 24, 0, 0] := by decide

example : bincode (.attachTerminal "t1" true) = [5, 2, 116, 49, 1] := by decide

end Bincode

end Muxrd.Herdr
