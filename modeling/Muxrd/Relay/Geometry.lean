import Mathlib.Order.Bounds.Basic
import Mathlib.Order.Lattice.Nat
import Muxrd.Lib.Meet
import Muxrd.Lib.Run
import Muxrd.Lib.Tables
import Muxrd.Multiplexer.Ephemeral
import Muxrd.Relay.Attach
import Muxrd.Relay.Commands

set_option autoImplicit false

namespace Muxrd.Geometry

open Actions Attach Ephemeral Inbound Meet

/-- Rows and columns; one size is below another when it is in both. -/
abbrev Size := Nat × Nat

def dims (size : UInt16 × UInt16) : Size :=
  (size.1.toNat, size.2.toNat)

def neutral : Size :=
  dims (neutralAttachRows, neutralAttachCols)

def fallback : Size :=
  dims (roFallbackRows, roFallbackCols)

inductive Role
  | native
  | writer
  | observer
  -- A query or an action over a connection of its own.
  | ephemeral
  deriving DecidableEq, Repr

-- Whether the session is meant to fit this client's terminal.
def Role.drives : Role -> Bool
  | .native | .writer => true
  | .observer | .ephemeral => false

structure Client where
  role : Role
  size : Size
  -- The size of its attach, which a relay's guard keeps for its nudge.
  attached : Size
  deriving DecidableEq, Repr

inductive Sizing
  | draining (stream : List ServerToClientMsg)
  | returned (size : Option (UInt16 × UInt16))
  deriving DecidableEq, Repr

structure Session where
  area : Size
  clients : AList fun _ : Nat => Client
  sizings : AList fun _ : Nat => Sizing

def created (area : Size) : Session :=
  { area, clients := ∅, sizings := ∅ }

/-- zellij-server, which is not part of this repository: the size that it gives a session of some size when it looks
at its clients' terminals, and whether it can send a message to a client of a session of some size. -/
structure ZellijServer where
  sessionSize : Size -> List Size -> Size
  sends : Size -> ServerToClientMsg -> Bool

/-- `min_client_terminal_size`: the session takes the minimum terminal size of its clients. -/
def TakesMinimum (zellij : ZellijServer) : Prop :=
  ∀ area sizes, sizes ≠ [] -> IsGLB {size | size ∈ sizes} (zellij.sessionSize area sizes)

/-- `display_area_*` of a listed tab is the geometry of the session. -/
def ListsGeometry (areas : String -> Except String (List TabArea)) (zellij : ZellijServer) : Prop :=
  ∀ area lines tabs, zellij.sends area (.log lines) = true -> areas ("\n".intercalate lines) = .ok tabs ->
    ∀ tab ∈ tabs, (tab.displayAreaRows.toNat, tab.displayAreaColumns.toNat) = area

namespace Session

variable (zellij : ZellijServer) (session : Session)

def sizes : List Size :=
  session.clients.entries.map (·.2.size)

def fitted : Session :=
  { session with area := zellij.sessionSize session.area session.sizes }

def setClient (id : Nat) (client : Client) : Session :=
  fitted zellij { session with clients := session.clients.insert id client }

def attach (id : Nat) (role : Role) (size : Size) : Session :=
  session.setClient zellij id { role, size, attached := size }

def setSizing (id : Nat) (sizing : Sizing) : Session :=
  { session with sizings := session.sizings.insert id sizing }

def fresh (id : Nat) : Prop :=
  id ∉ session.clients ∧ id ∉ session.sizings

instance (id : Nat) : Decidable (session.fresh id) :=
  inferInstanceAs (Decidable (_ ∧ _))

def driversSize : Option Size :=
  meet ((session.clients.entries.filter (·.2.role.drives)).map (·.2.size))

end Session

section Step

variable (areas : String -> Except String (List TabArea)) (zellij : ZellijServer)

def sizeAnswer (stream : List ServerToClientMsg) (deadline : Option Nat) : Option (UInt16 × UInt16) :=
  (querySessionSize areas (streaming stream deadline)).toOption

def relaySize (readOnly : Bool) (answer : Option (UInt16 × UInt16)) (req : AttachReq) : Size :=
  dims (attachSize (fun (_ : Unit) _ => answer) () req.session readOnly req)

def frameSize (client : Client) (frame : ClientFrame) : Option Size :=
  match frameCall (client.role = .observer) frame with
  | some (.sendResize rows cols) => some (dims (rows, cols))
  | _ => none

inductive Event
  | nativeAttaches (id : Nat) (size : Size)
  | nativeResizes (id : Nat) (size : Size)
  | writerAttaches (id : Nat) (req : AttachReq)
  | frame (id : Nat) (frame : ClientFrame)
  -- The guard of a read-write relay, at its teardown.
  | nudge (id : Nat)
  -- zellij drops a client, and fits the session to those that stay, or does not.
  | leaves (id : Nat) (fits : Bool)
  | ephemeralAttaches (id : Nat)
  -- A read-only attach asks for the session's size, over an ephemeral client under the same id.
  | asks (id : Nat)
  | refused (id : Nat)
  | message (id : Nat) (msg : ServerToClientMsg)
  | returns (id : Nat) (deadline : Option Nat)
  | observerAttaches (id sizing : Nat) (req : AttachReq)
  deriving DecidableEq, Repr

def step (session : Session) : Event -> Option Session
  | .nativeAttaches id size => if session.fresh id then some (session.attach zellij id .native size) else none
  | .nativeResizes id size =>
    match session.clients.lookup id with
    | none => none
    | some client => if client.role = .native then some (session.setClient zellij id { client with size }) else none
  | .writerAttaches id req =>
    if session.fresh id then some (session.attach zellij id .writer (relaySize false none req)) else none
  | .frame id frame =>
    match session.clients.lookup id with
    | none => none
    | some client =>
      if client.role = .writer ∨ client.role = .observer then
        match frameSize client frame with
        | some size => some (session.setClient zellij id { client with size })
        | none => some session
      else none
  | .nudge id =>
    match session.clients.lookup id with
    | none => none
    | some client =>
      if client.role = .writer then some (session.setClient zellij id { client with size := client.attached })
      else none
  | .leaves id fits =>
    let left := { session with clients := session.clients.erase id }
    some (if fits then left.fitted zellij else left)
  | .ephemeralAttaches id => if session.fresh id then some (session.attach zellij id .ephemeral neutral) else none
  | .asks id =>
    if session.fresh id then some ((session.attach zellij id .ephemeral neutral).setSizing id (.draining [])) else none
  | .refused id => if session.fresh id then some (session.setSizing id (.returned none)) else none
  | .message id msg =>
    match session.sizings.lookup id with
    | some (.draining stream) =>
      -- Only what is attached is answered.
      if id ∈ session.clients ∧ zellij.sends session.area msg then
        some (session.setSizing id (.draining (stream ++ [msg])))
      else none
    | _ => none
  | .returns id deadline =>
    match session.sizings.lookup id with
    | some (.draining stream) => some (session.setSizing id (.returned (sizeAnswer areas stream deadline)))
    | _ => none
  | .observerAttaches id sizing req =>
    match session.sizings.lookup sizing with
    | some (.returned answer) =>
      if session.fresh id then
        some { session.attach zellij id .observer (relaySize true answer req) with
          sizings := session.sizings.erase sizing }
      else none
    | _ => none

end Step

/-- The size that an event asks the session to fit. An observer whose query was answered asks for nothing: it
attaches with what the session told it. -/
def asked (session : Session) : Event -> Option Size
  | .nativeAttaches _ size | .nativeResizes _ size => some size
  | .writerAttaches _ req => some (relaySize false none req)
  | .frame id frame => (session.clients.lookup id).bind fun client => frameSize client frame
  | .nudge id => (session.clients.lookup id).map (·.attached)
  | .ephemeralAttaches _ | .asks _ => some neutral
  | .observerAttaches _ sizing req =>
    match session.sizings.lookup sizing with
    | some (.returned none) => some (relaySize true none req)
    | _ => none
  | .leaves _ _ | .refused _ | .message _ _ | .returns _ _ => none

section Stepped

def Event.target : Event -> Option Nat
  | .nativeResizes id _ | .frame id _ | .nudge id => some id
  | _ => none

def Event.leaving : Event -> Option Nat
  | .leaves id _ => some id
  | _ => none

def Event.bystands : Event -> Bool
  | .ephemeralAttaches _ | .asks _ | .observerAttaches _ _ _ => true
  | _ => false

variable (areas : String -> Except String (List TabArea)) (zellij : ZellijServer) (session : Session)

inductive Hears (id : Nat) : Sizing -> Prop
  | refused : Hears id (.returned none)
  | message {stream : List ServerToClientMsg} {msg : ServerToClientMsg}
      (here : session.sizings.lookup id = some (.draining stream)) (attached : id ∈ session.clients)
      (sent : zellij.sends session.area msg = true) : Hears id (.draining (stream ++ [msg]))
  | returned {stream : List ServerToClientMsg} (deadline : Option Nat)
      (here : session.sizings.lookup id = some (.draining stream)) :
      Hears id (.returned (sizeAnswer areas stream deadline))

inductive Stepped (event : Event) : Session -> Prop
  | attached {id : Nat} {role : Role} {size : Size} {sizings : AList fun _ : Nat => Sizing}
      (new : id ∉ session.clients) (bystands : role.drives = !event.bystands)
      (brought : asked session event = some size ∨ role = .observer ∧ ∃ sizing told,
        session.sizings.lookup sizing = some (.returned (some told)) ∧ size = dims told)
      (pending : ∀ key sizing, sizings.lookup key = some sizing ->
        session.sizings.lookup key = some sizing ∨ sizing = .draining [] ∧ size = neutral) :
      Stepped event { session.attach zellij id role size with sizings }
  | resized {id : Nat} {client : Client} {size : Size} (target : event.target = some id)
      (here : session.clients.lookup id = some client) (drives : client.role.drives = true)
      (asks : asked session event = some size) : Stepped event (session.setClient zellij id { client with size })
  | left {id : Nat} {fits : Bool} (leaving : event = .leaves id fits) :
      Stepped event (if fits then Session.fitted zellij { session with clients := session.clients.erase id }
        else { session with clients := session.clients.erase id })
  | sized {id : Nat} {sizing : Sizing} (hears : Hears areas zellij session id sizing)
      (silent : asked session event = none) : Stepped event (session.setSizing id sizing)
  | kept (silent : asked session event = none) : Stepped event session

variable {areas} {zellij} {session} {next : Session} {event : Event}

theorem frameSize_drives {client : Client} {frame : ClientFrame} {size : Size}
    (relay : client.role = .writer ∨ client.role = .observer) (framed : frameSize client frame = some size) :
    client.role.drives = true := by
  rcases relay with role | role
  · rw [role]
    rfl
  · cases frame <;> simp [frameSize, frameCall, role] at framed

theorem step_stepped (taken : step areas zellij session event = some next) :
    Stepped areas zellij session event next := by
  cases event with
  | nativeAttaches id size | writerAttaches id req | ephemeralAttaches id =>
    simp only [step] at taken
    split_ifs at taken with fresh
    rw [← Option.some.inj taken]
    exact .attached fresh.1 rfl (.inl rfl) fun _ _ here => .inl here
  | nativeResizes id size =>
    simp only [step] at taken
    split at taken
    · cases taken
    next client here =>
      split_ifs at taken with native
      rw [← Option.some.inj taken]
      exact .resized rfl here (by rw [native]; rfl) rfl
  | frame id frame =>
    simp only [step] at taken
    split at taken
    · cases taken
    next client here =>
      split_ifs at taken with relay
      split at taken
      next size framed =>
        rw [← Option.some.inj taken]
        exact .resized rfl here (frameSize_drives relay framed) (by simp [asked, here, framed])
      next framed =>
        rw [← Option.some.inj taken]
        exact .kept (by simp [asked, here, framed])
  | nudge id =>
    simp only [step] at taken
    split at taken
    · cases taken
    next client here =>
      split_ifs at taken with writer
      rw [← Option.some.inj taken]
      exact .resized rfl here (by rw [writer]; rfl) (by simp [asked, here])
  | leaves id fits =>
    simp only [step] at taken
    rw [← Option.some.inj taken]
    exact .left rfl
  | asks id =>
    simp only [step] at taken
    split_ifs at taken with fresh
    rw [← Option.some.inj taken]
    refine .attached fresh.1 rfl (.inl rfl) fun key sizing here => ?_
    rcases AList.of_lookup_insert here with ⟨_, new⟩ | ⟨_, old⟩
    · exact .inr ⟨new, rfl⟩
    · exact .inl old
  | refused id =>
    simp only [step] at taken
    split_ifs at taken
    rw [← Option.some.inj taken]
    exact .sized .refused rfl
  | message id msg =>
    simp only [step] at taken
    split at taken
    next stream here =>
      split_ifs at taken with answered
      rw [← Option.some.inj taken]
      exact .sized (.message here answered.1 answered.2) rfl
    · cases taken
  | returns id deadline =>
    simp only [step] at taken
    split at taken
    next stream here =>
      rw [← Option.some.inj taken]
      exact .sized (.returned deadline here) rfl
    · cases taken
  | observerAttaches id sizing req =>
    simp only [step] at taken
    split at taken
    next answer here =>
      split_ifs at taken with fresh
      rw [← Option.some.inj taken]
      refine .attached fresh.1 rfl ?_ fun _ _ here => .inl (AList.of_lookup_erase here).2
      cases answer with
      | none => exact .inl (by simp [asked, here])
      | some size => exact .inr ⟨rfl, sizing, size, here, rfl⟩
    · cases taken

end Stepped

end Muxrd.Geometry
