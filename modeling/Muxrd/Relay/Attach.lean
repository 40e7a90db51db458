import Muxrd.Multiplexer.Routing
import Muxrd.Relay.Inbound

set_option autoImplicit false

namespace Muxrd.Attach

open Routing Inbound

inductive FirstFrame
  | closed
  | failed (error : String)
  | frame (frame : ClientFrame)

def attachRequest : FirstFrame -> Except Status AttachReq
  | .closed => .error { code := .invalidArgument, message := [.text "stream closed before AttachReq"] }
  | .failed error =>
    .error { code := .internal, message := [.text ("error reading first frame: " ++ error)] }
  | .frame (.attach req) => .ok req
  | .frame (.input _) | .frame (.resize _ _) =>
    .error
      { code := .invalidArgument
        message := [.text "first ClientFrame must be AttachReq (got input/resize)"] }
  | .frame .empty => .error { code := .invalidArgument, message := [.text "first ClientFrame had no kind"] }

def roFallbackRows : UInt16 := 50

def roFallbackCols : UInt16 := 200

-- The arguments of the backend's `open_attach`, with the opaque id the registries will store.
structure Opening (Backend : Type) where
  id : String
  kind : BackendKind
  backend : Backend
  session : String
  rows : UInt16
  cols : UInt16
  readOnly : Bool

section

variable {Backend : Type}

-- `querySessionSize` is `none` when the query fails or its task panics.
def attachSize (querySessionSize : Backend -> String -> Option (UInt16 × UInt16)) (backend : Backend)
    (session : String) (readOnly : Bool) (req : AttachReq) : UInt16 × UInt16 :=
  if readOnly then (querySessionSize backend session).getD (roFallbackRows, roFallbackCols)
  else (clampDim req.rows 24, clampDim req.cols 80)

def opening (zellijValidate : String -> Except (List Piece) Unit) (backends : BackendSet Backend)
    (querySessionSize : Backend -> String -> Option (UInt16 × UInt16)) (readOnly : Bool)
    (first : FirstFrame) : Except Status (Opening Backend) :=
  match attachRequest first with
  | .error status => .error status
  | .ok req =>
    match resolveSessionKind zellijValidate backends req.session with
    | .error status => .error status
    | .ok (kind, backend, session) =>
      let (rows, cols) := attachSize querySessionSize backend session readOnly req
      .ok { id := req.session, kind, backend, session, rows, cols, readOnly }

variable {Answer State World : Type}

-- The relay right after a successful `open_attach`: its render thread runs and its guard is armed.
def attached (mux : MuxSender Answer State World) (opened : Opening Backend) (connectionId : String)
    (sender : State) (world : World) (viewState : ViewStateRegistry) : Relay State World :=
  { readOnly := opened.readOnly
    connectionId
    session := opened.id
    rows := opened.rows
    cols := opened.cols
    phase := .initialising
    sender
    nudge := mux.boxClone sender
    nextQuerySeq := 0
    world
    viewState
    renderThreadAlive := true
    handedOff := []
    pool := []
    calls := []
    replies := [] }

theorem opening_readOnly_size (zellijValidate : String -> Except (List Piece) Unit)
    (backends : BackendSet Backend) (querySessionSize : Backend -> String -> Option (UInt16 × UInt16))
    (session : String) (rows cols otherRows otherCols : UInt32) :
    opening zellijValidate backends querySessionSize true (.frame (.attach { session, rows, cols })) =
      opening zellijValidate backends querySessionSize true
        (.frame (.attach { session, rows := otherRows, cols := otherCols })) := by
  simp [opening, attachRequest, attachSize]

end

end Muxrd.Attach
