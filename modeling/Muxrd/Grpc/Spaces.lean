import Muxrd.Types

set_option autoImplicit false

namespace Muxrd.Spaces

structure Space where
  id : String
  name : String
  active : Bool
  deriving DecidableEq, Repr

-- The exact connection or nothing: a sibling's space is not the caller's.
def connectionCurrentSpace (viewState : ViewStateRegistry)
    (session connectionId : String) : Option String :=
  if connectionId = "" then none
  else
    match viewState.lookup connectionId with
    | some entry => if entry.session = session then entry.state.currentSpace else none
    | none => none

-- GetSpaces once the id is resolved; `listed` is what `list_spaces` answers.
def markedSpaces (listed : Except String (List SpaceSnapshot)) (viewState : ViewStateRegistry)
    (session connectionId : String) : Except Status (List Space) :=
  match listed with
  | .error error => .error { code := .internal, message := [.text ("GetSpaces: " ++ error)] }
  | .ok snapshots =>
    .ok (snapshots.map fun snapshot =>
      { id := snapshot.id
        name := snapshot.name
        active :=
          match connectionCurrentSpace viewState session connectionId with
          | some space => snapshot.id = space
          | none => snapshot.active })

-- The relay SwitchSpace and the re-pointing of CloseSpace steer: no session-scoped fallback.
def resolveSpaceRelay (control : ControlRegistry) (session connectionId : String) : Option Nat :=
  if connectionId = "" then none
  else
    match control.lookup connectionId with
    | some entry => if entry.session = session then some entry.sender else none
    | none => none

def maxSpaceIdLen : Nat := 128

def allowedInSpaceId (c : Char) : Bool :=
  c.isAlphanum || c = '_' || c = '-' || c = '.' || c = ':'

-- The length counts bytes. A byte of a longer UTF-8 sequence is never allowed.
def validateSpaceId (spaceId : String) : Except Status Unit :=
  if spaceId = "" then
    .error { code := .invalidArgument, message := [.text "space_id must not be empty"] }
  else if spaceId.utf8ByteSize > maxSpaceIdLen then
    .error { code := .invalidArgument, message := [.text "space_id too long (max 128 bytes)"] }
  else if spaceId.toList.all allowedInSpaceId then .ok ()
  else
    .error
      { code := .invalidArgument
        message := [.text "invalid space_id: only [A-Za-z0-9_-.:] characters are allowed"] }

def maxSpaceLabelLen : Nat := 64

def allowedInSpaceLabel (c : Char) : Bool :=
  c.isAlphanum || c = ' ' || c = '_' || c = '-' || c = '.'

def validateSpaceLabel (label : String) : Except Status Unit :=
  if label = "" then
    .error { code := .invalidArgument, message := [.text "space label must not be empty"] }
  else if label.utf8ByteSize > maxSpaceLabelLen then
    .error { code := .invalidArgument, message := [.text "space label too long (max 64 bytes)"] }
  else if label.toList.all allowedInSpaceLabel then .ok ()
  else
    .error
      { code := .invalidArgument
        message := [.text ("invalid space label: only [A-Za-z0-9], space, and the characters _-. are " ++
          "allowed")] }

def wouldCloseLastSpace (count : Nat) : Bool := count ≤ 1

end Muxrd.Spaces
