import Muxrd.Config
import Muxrd.Herdr.Deframing
import Muxrd.Lib.Prefixed

set_option autoImplicit false

namespace Muxrd.Control

open Transport Framing Prefixed Config
open Herdr (leBytes leBytes_length leBytes_injective)
open Herdr.Deframing (IoError fromLeBytes fromLeBytes_leBytes)

inductive ControlRequest
  | shutdown
  | status
  deriving DecidableEq, Repr

structure StatusInfo where
  version : String
  bindAddr : String
  pid : UInt32
  uptimeSecs : UInt64
  clientCount : UInt64
  certMode : CertMode
  deriving DecidableEq, Repr

inductive ControlResponse
  | ok
  | status (info : StatusInfo)
  deriving DecidableEq, Repr

def maxControlMsg : Nat := 64 * 1024

inductive ControlError
  | absent
  | connect
  | serialize (error : String)
  | tooLarge
  | writePrefix
  | writeBody
  | flush
  | readPrefix (stop : Stop IoError)
  | oversized (length : Nat)
  | readBody (stop : Stop IoError)
  | deserialize (error : String)
  deriving DecidableEq, Repr

-- The outermost context of each error.
def ControlError.display : ControlError -> String
  | .absent => "control socket does not exist"
  | .connect => "control: connect"
  | .serialize _ => "control: serialize message"
  | .tooLarge => "control: message too large"
  | .writePrefix => "control: write length prefix"
  | .writeBody => "control: write body"
  | .flush => "control: flush"
  | .readPrefix _ => "control: read length prefix"
  | .oversized length =>
    "control: message length " ++ toString length ++ " exceeds maximum " ++ toString maxControlMsg
  | .readBody _ => "control: read body"
  | .deserialize _ => "control: deserialize message"

/-- serde_json for one type of message. -/
structure Json (Message : Type) where
  toVec : Message -> Except String (List UInt8)
  fromSlice : List UInt8 -> Except String Message

def Json.Exact {Message : Type} (json : Json Message) : Prop :=
  ∀ msg bytes, json.toVec msg = .ok bytes -> json.fromSlice bytes = .ok msg

abbrev Stream := List (Arrival UInt8 IoError)

/-- How much of the length and of the body the peer takes, and whether the flush succeeds. -/
structure Takes where
  lengthPrefix : Nat
  body : Nat
  flushes : Bool
  deriving DecidableEq, Repr

section Framing

variable {Message : Type} (json : Json Message)

def writeMsg (msg : Message) (takes : Takes) (sink : Sink UInt8) : Except ControlError Unit × Sink UInt8 :=
  match json.toVec msg with
  | .error error => (.error (.serialize error), sink)
  | .ok bytes =>
    if bytes.length > 4294967295 then (.error .tooLarge, sink)
    else
      match sink.write (leBytes 4 bytes.length) takes.lengthPrefix with
      | (false, sink) => (.error .writePrefix, sink)
      | (true, sink) =>
        match sink.write bytes takes.body with
        | (false, sink) => (.error .writeBody, sink)
        | (true, sink) => (if takes.flushes then .ok () else .error .flush, sink)

def refused : Refusal IoError -> ControlError
  | .header stop => .readPrefix stop
  | .oversized length => .oversized length
  | .body stop => .readBody stop

-- The length is checked before the body is read.
def readMsg (stream : Stream) : Except ControlError Message × Stream :=
  match readPrefixed 4 maxControlMsg fromLeBytes stream with
  | (.error refusal, left) => (.error (refused refusal), left)
  | (.ok bytes, left) => ((json.fromSlice bytes).mapError .deserialize, left)

end Framing

inductive Reached
  | absent
  | refused
  | connected (takes : Takes) (arrives : Stream)

def query (requests : Json ControlRequest) (responses : Json ControlResponse) (req : ControlRequest) :
    Reached -> Except ControlError ControlResponse
  | .absent => .error .absent
  | .refused => .error .connect
  | .connected takes arrives =>
    match (writeMsg requests req takes .empty).1 with
    | .error error => .error error
    | .ok _ => (readMsg responses arrives).1

section Listener

/-- What `spawn_listener` is given: the part of a status that stays as it is. -/
structure Serving where
  version : String
  bindAddr : String
  pid : UInt32
  certMode : CertMode
  deriving DecidableEq, Repr

/-- The part of a status that is read when it is asked for. -/
structure Moment where
  uptimeSecs : UInt64
  clientCount : UInt64
  deriving DecidableEq, Repr

def Serving.answer (serving : Serving) (moment : Moment) : ControlRequest -> ControlResponse
  | .status => .status
      { version := serving.version, bindAddr := serving.bindAddr, pid := serving.pid,
        uptimeSecs := moment.uptimeSecs, clientCount := moment.clientCount, certMode := serving.certMode }
  | .shutdown => .ok

structure Conn where
  arrives : Stream
  closes : Bool
  moment : Moment
  takes : Takes

inductive Incoming
  | failed
  | accepted (conn : Conn)

inductive Reading
  -- The read blocks: the client has not sent enough, and keeps the connection open.
  | blocked
  | bad (error : ControlError)
  | asked (req : ControlRequest)
  deriving DecidableEq, Repr

variable (requests : Json ControlRequest) (responses : Json ControlResponse) (serving : Serving)

def Conn.reading (conn : Conn) : Reading :=
  match (readMsg requests conn.arrives).1 with
  | .ok req => .asked req
  | .error error =>
    match error with
    | .readPrefix .endOfStream | .readBody .endOfStream => if conn.closes then .bad error else .blocked
    | _ => .bad error

def Conn.reply (conn : Conn) (req : ControlRequest) : List UInt8 :=
  (writeMsg responses (serving.answer conn.moment req) conn.takes .empty).2.accepted

/-- The accept loop's own state: whether the shutdown trigger is still there, how often it was fired, and what
each connection has been sent. -/
structure Listener where
  armed : Bool
  fired : Nat
  sent : List (List UInt8)
  deriving DecidableEq, Repr

def Listener.spawned : Listener :=
  { armed := true, fired := 0, sent := [] }

-- `trigger.lock().unwrap().take()`.
def Listener.shoot (listener : Listener) : Listener :=
  if listener.armed then { listener with armed := false, fired := listener.fired + 1 } else listener

def Listener.send (listener : Listener) (bytes : List UInt8) : Listener :=
  { listener with sent := listener.sent ++ [bytes] }

/-- The accept loop. It does not return while a read blocks, and leaves the loop behind a shutdown request. -/
def acceptLoop : Listener -> List Incoming -> Listener
  | listener, [] => listener
  | listener, .failed :: rest => acceptLoop (listener.send []) rest
  | listener, .accepted conn :: rest =>
    match conn.reading requests with
    | .blocked => listener.send []
    | .bad _ => acceptLoop (listener.send []) rest
    | .asked .status => acceptLoop (listener.send (conn.reply responses serving .status)) rest
    | .asked .shutdown => listener.shoot.send (conn.reply responses serving .shutdown)

end Listener

end Muxrd.Control
