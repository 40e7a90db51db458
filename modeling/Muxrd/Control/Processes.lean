import Mathlib.Logic.Function.Basic
import Mathlib.Tactic.Common
import Muxrd.Lib.Net
import Muxrd.Lib.Run

set_option autoImplicit false

namespace Muxrd.Processes

abbrev Pid := Nat

/-- The `daemonize` crate and the file it keeps the process id in: what the file holds when it has been opened, what
when the process id has been written to it, and whether it goes with the process. -/
structure Daemonize where
  opens : List Char -> List Char
  writes : List Char -> Pid -> List Char
  removes : Bool

/-- `Daemonize::pid_file`: the file then holds the process id of the daemon, and is not unlinked again. -/
structure KeepsPid (daemonize : Daemonize) : Prop where
  writes : ∀ content pid, daemonize.writes content pid = Nat.toDigits 10 pid
  stays : daemonize.removes = false

inductive Mode
  | daemon
  | foreground
  deriving DecidableEq, Repr

/-- How far a server process has come in `cmd_start`, from the fork of the daemon or the start in the foreground. -/
inductive Phase
  | started
  -- The pidfile is open, and the process has not written to it yet.
  | opened (inode : Nat)
  | announced
  -- `spawn_listener` has removed what was at the path of the control socket.
  | unlinked
  | serving
  -- The shutdown trigger was fired: no more control connections, and requests in flight finish.
  | draining
  | returned
  | cleaning
  | exiting
  | dead
  deriving DecidableEq, Repr

structure Server where
  mode : Mode
  phase : Phase
  accepting : Bool
  deriving DecidableEq, Repr

namespace Server

def active (server : Server) : Bool :=
  match server.phase with
  | .exiting | .dead => false
  | _ => true

def alive (server : Server) : Bool :=
  server.phase ≠ .dead

def startsUp (server : Server) : Bool :=
  match server.phase with
  | .started | .opened _ | .announced | .unlinked => true
  | _ => false

def killed (server : Server) : Server :=
  { server with phase := .dead, accepting := false }

-- `trigger.take()`, and the break out of the accept loop.
def shutDown (server : Server) : Server :=
  { server with phase := if server.phase = .serving then .draining else server.phase, accepting := false }

end Server

structure Pidfile where
  inode : Nat
  content : List Char
  deriving DecidableEq, Repr

def parsePid (content : List Char) : Option Pid :=
  if content = [] || content.any (fun c => (RustStd.toDigit 10 c).isNone) then none
  else if RustStd.digitsValue 10 content < 2 ^ 31 then some (RustStd.digitsValue 10 content)
  else none

-- What a write at the start of a file leaves in it.
def overlay (content text : List Char) : List Char :=
  text ++ content.drop text.length

inductive Command
  | statusAsks
  | statusReads
  | statusChecks (pid : Pid)
  | statusSocket (seen : Option Pid)
  | statusPidfile (seen : Option Pid)
  | stopAsks
  | stopReads
  | stopSignals (pid : Pid)
  | stopSocket
  | stopPidfile
  | startAsks
  | startPidfile
  | startSocket
  | startForks
  -- The control panel stops the server without cleaning up.
  | panelAsks
  deriving DecidableEq, Repr

-- `fs::write` empties the file, then writes.
def Mode.opens (daemonize : Daemonize) (mode : Mode) (content : List Char) : List Char :=
  match mode with
  | .daemon => daemonize.opens content
  | .foreground => []

def Mode.writes (daemonize : Daemonize) (mode : Mode) (content : List Char) (pid : Pid) : List Char :=
  match mode with
  | .daemon => daemonize.writes content pid
  | .foreground => overlay content (Nat.toDigits 10 pid)

/-- What a step meets that is not up to it: the process id that a fork gives, and whether the process id that a command
asks about is another program's. -/
structure Chance where
  forked : Pid
  foreign : Bool
  deriving DecidableEq, Repr

structure Machine where
  servers : Pid -> Option Server
  pidBound : Pid
  pidfile : Option Pidfile
  nextInode : Nat
  -- The process whose listener the path of the control socket leads to.
  socket : Option Pid
  commands : Nat -> Option Command
  nextCommand : Nat

namespace Machine

def booted : Machine :=
  { servers := fun _ => none, pidBound := 0, pidfile := none, nextInode := 0, socket := none,
    commands := fun _ => none, nextCommand := 0 }

variable (machine : Machine)

def alive (pid : Pid) : Bool := (machine.servers pid).any Server.alive

-- A connection at the path of the socket is answered while that process runs its accept loop.
def listener : Option Pid :=
  machine.socket.filter fun pid => (machine.servers pid).any (·.accepting)

def readPidfile : Option Pid :=
  machine.pidfile.bind fun file => parsePid file.content

def setServer (pid : Pid) (server : Server) : Machine :=
  { machine with servers := Function.update machine.servers pid (some server) }

def setCommand (id : Nat) (command : Option Command) : Machine :=
  { machine with commands := Function.update machine.commands id command }

-- The process id may be that of one that is dead.
def fork (pid : Pid) (mode : Mode) : Machine :=
  { machine.setServer pid { mode, phase := .started, accepting := false } with
    pidBound := max machine.pidBound (pid + 1) }

def change (pid : Pid) (edit : Server -> Server) : Machine :=
  match machine.servers pid with
  | some server => machine.setServer pid (edit server)
  | none => machine

def perform (chance : Chance) : Command -> Machine × Option Command
  | .statusAsks => (machine, if machine.listener.isSome then none else some .statusReads)
  | .statusReads =>
    (machine, match machine.readPidfile with
      | some pid => some (.statusChecks pid)
      | none => some (.statusSocket none))
  | .statusChecks pid => (machine, if machine.alive pid || chance.foreign then none else some (.statusSocket (some pid)))
  | .statusSocket seen => ({ machine with socket := none }, some (.statusPidfile seen))
  | .statusPidfile _ => ({ machine with pidfile := none }, none)
  | .stopAsks =>
    match machine.listener with
    | some pid => (machine.change pid Server.shutDown, some .stopSocket)
    | none => (machine, some .stopReads)
  | .stopReads => (machine, some (match machine.readPidfile with
      | some pid => .stopSignals pid
      | none => .stopSocket))
  -- No handler is installed for SIGTERM.
  | .stopSignals pid => (machine.change pid Server.killed, some .stopSocket)
  | .stopSocket => ({ machine with socket := none }, some .stopPidfile)
  | .stopPidfile => ({ machine with pidfile := none }, none)
  | .startAsks => (machine, if machine.listener.isSome then none else some .startPidfile)
  | .startPidfile => ({ machine with pidfile := none }, some .startSocket)
  | .startSocket => ({ machine with socket := none }, some .startForks)
  | .startForks => (machine.fork chance.forked .daemon, none)
  | .panelAsks =>
    (match machine.listener with
      | some pid => machine.change pid Server.shutDown
      | none => machine, none)

variable (daemonize : Daemonize)

def openPidfile (mode : Mode) : Nat × Machine :=
  match machine.pidfile with
  | some file =>
    (file.inode, { machine with pidfile := some { file with content := mode.opens daemonize file.content } })
  | none =>
    let file := { inode := machine.nextInode, content := mode.opens daemonize [] }
    (machine.nextInode, { machine with pidfile := some file, nextInode := machine.nextInode + 1 })

-- The process id goes into the file that was opened, wherever that is by now.
def writePidfile (mode : Mode) (inode : Nat) (pid : Pid) : Machine :=
  { machine with
    pidfile := machine.pidfile.map fun file =>
      if file.inode = inode then { file with content := mode.writes daemonize file.content pid } else file }

/-- The next step of a server process; `goes` is whether the step succeeds where it can fail. -/
def serve (pid : Pid) (server : Server) (goes : Bool) : Option Machine :=
  let goesTo (phase : Phase) (after : Machine) : Option Machine := some (after.setServer pid { server with phase })
  match server.phase with
  | .started =>
    if goes then
      let (inode, after) := machine.openPidfile daemonize server.mode
      goesTo (.opened inode) after
    else goesTo .dead machine
  | .opened inode =>
    if goes then goesTo .announced (machine.writePidfile daemonize server.mode inode pid) else goesTo .dead machine
  | .announced => if goes then goesTo .unlinked { machine with socket := none } else goesTo .returned machine
  | .unlinked =>
    if goes && machine.socket.isNone then
      some ({ machine with socket := some pid }.setServer pid { server with phase := .serving, accepting := true })
    else goesTo .returned machine
  | .serving | .draining => goesTo .returned machine
  | .returned =>
    if server.mode = .foreground then goesTo .cleaning { machine with pidfile := none } else goesTo .cleaning machine
  | .cleaning => goesTo .exiting { machine with socket := none }
  | .exiting =>
    let left := if server.mode = .daemon && daemonize.removes then { machine with pidfile := none } else machine
    some (left.setServer pid server.killed)
  | .dead => none

end Machine

inductive Invocation
  | status
  | stop
  | start
  | panelStop
  deriving DecidableEq, Repr

def Invocation.first : Invocation -> Command
  | .status => .statusAsks
  | .stop => .stopAsks
  | .start => .startAsks
  | .panelStop => .panelAsks

inductive Event
  | invoke (invocation : Invocation)
  -- `start` without `--daemonize`: the process of the command becomes the server.
  | foreground (pid : Pid)
  | proceed (id : Nat) (chance : Chance)
  | serve (pid : Pid) (goes : Bool)
  | crash (pid : Pid)
  deriving DecidableEq, Repr

def Machine.free (machine : Machine) (pid : Pid) : Bool :=
  decide (0 < pid) && decide (pid < 2 ^ 31) && !machine.alive pid

def step (daemonize : Daemonize) (machine : Machine) : Event -> Option Machine
  | .invoke invocation =>
    some { machine.setCommand machine.nextCommand (some invocation.first) with nextCommand := machine.nextCommand + 1 }
  | .foreground pid => if machine.free pid then some (machine.fork pid .foreground) else none
  | .proceed id chance =>
    if machine.free chance.forked then
      (machine.commands id).map fun command =>
        (machine.perform chance command).1.setCommand id (machine.perform chance command).2
    else none
  | .serve pid goes => (machine.servers pid).bind fun server => machine.serve daemonize pid server goes
  | .crash pid => (machine.servers pid).map fun server => machine.setServer pid server.killed

end Muxrd.Processes
