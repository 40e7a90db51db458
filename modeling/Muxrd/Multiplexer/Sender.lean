import Muxrd.Types

set_option autoImplicit false

namespace Muxrd

inductive MuxCall
  | goToTab (tabId : UInt64)
  | focusPane (pane : PaneRef)
  | switchSpace (spaceId : String)
  | toggleFullscreen (pane : PaneRef) (hint : FullscreenHint)
  | queryLayout
  | queryLayoutResult
  | sendInputChars (text : String)
  | sendInputBytes (bytes : List UInt8)
  | sendResize (rows cols : UInt16)
  | sendClientExited
  deriving DecidableEq, Repr

def MuxCall.isLayoutQuery : MuxCall -> Bool
  | .queryLayout | .queryLayoutResult => true
  | _ => false

def MuxCall.isMutating : MuxCall -> Bool
  | .goToTab _ | .focusPane _ | .switchSpace _ | .toggleFullscreen _ _ => true
  | .sendInputChars _ | .sendInputBytes _ | .sendResize _ _ => true
  | .queryLayout | .queryLayoutResult | .sendClientExited => false

/-- A boxed sender. `State` is what the box owns, `World` what every clone and every other party shares
(the wire, the id registries), `Answer` what the outside decides about one call. -/
structure MuxSender (Answer State World : Type) where
  call : Answer -> MuxCall -> State -> World -> Except String Unit × State × World
  hasSyncLayout : Bool
  queryLayoutResult : Answer -> State -> World -> Option (Except String LayoutSnapshot) × State × World
  boxClone : State -> State
  elsewhere : Answer -> World -> World

def MuxSender.answering (hasSyncLayout : Bool) : MuxSender (Except String Unit) Unit Unit :=
  { call := fun answer _ state world => (answer, state, world)
    hasSyncLayout
    queryLayoutResult := fun answer state world =>
      (some (match answer with
        | .ok _ => .ok { tabs := [] }
        | .error message => .error message), state, world)
    boxClone := id
    elsewhere := fun _ world => world }

end Muxrd
