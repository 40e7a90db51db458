import Muxrd.Control.Processes
import Muxrd.Lib.NetText

set_option autoImplicit false

namespace Muxrd.Processes

def Machine.All (machine : Machine) (test : Server -> Bool) : Prop :=
  ∀ pid server, machine.servers pid = some server -> test server = true

def tolerates : Command -> Server -> Bool
  | .startAsks => fun server => !server.active || server.accepting
  | .startPidfile | .startSocket | .startForks => fun server => !server.active
  | .statusAsks | .stopAsks | .panelAsks => fun server => !server.startsUp
  | _ => fun server => !server.startsUp && !(server.active && server.accepting)

-- The accept loop is spawned at the end of the start, and left for a shutdown.
def Server.sound (server : Server) : Bool :=
  match server.phase with
  | .started | .opened _ | .announced | .unlinked | .draining => !server.accepting
  | .serving => server.accepting
  | _ => true

def Server.named (server : Server) : Bool :=
  match server.phase with
  | .announced | .unlinked | .serving => true
  | _ => false

-- A process in the foreground writes over the whole of what the file holds.
def Server.Overwrites (server : Server) (pid : Pid) (content : List Char) : Prop :=
  server.mode = .foreground -> overlay content (Nat.toDigits 10 pid) = Nat.toDigits 10 pid

/-- One server at a time, reachable through the socket while it accepts and named in the pidfile while it serves;
and one command at a time, which finds what it relies on. -/
structure Inv (machine : Machine) : Prop where
  pids : ∀ pid server, machine.servers pid = some server -> pid < machine.pidBound ∧ pid < 2 ^ 31
  ids : ∀ id command, machine.commands id = some command -> id < machine.nextCommand
  one : ∀ first second server other, machine.servers first = some server -> machine.servers second = some other ->
    server.active = true -> other.active = true -> first = second
  sound : machine.All Server.sound
  reached : ∀ pid server, machine.servers pid = some server -> server.active = true -> server.accepting = true ->
    machine.socket = some pid
  named : ∀ pid server, machine.servers pid = some server -> server.named = true -> machine.readPidfile = some pid
  held : ∀ pid server inode, machine.servers pid = some server -> server.phase = .opened inode ->
    ∃ content, machine.pidfile = some { inode, content } ∧ server.Overwrites pid content
  single : ∀ id other command another, machine.commands id = some command -> machine.commands other = some another ->
    id = other
  allowed : ∀ id command, machine.commands id = some command -> machine.All (tolerates command)

theorem inv_booted : Inv Machine.booted := by
  constructor <;> simp [Machine.booted, Machine.All]

section Updates

variable {machine : Machine} {pid other : Pid} {server old : Server}

theorem setServer_cases {found : Server} (there : (machine.setServer pid server).servers other = some found) :
    (other = pid ∧ found = server) ∨ (other ≠ pid ∧ machine.servers other = some found) := by
  by_cases same : other = pid
  · subst same
    exact .inl ⟨rfl, by simpa [Machine.setServer] using there.symm⟩
  · exact .inr ⟨same, by simpa [Machine.setServer, same] using there⟩

theorem setCommand_cases {id key : Nat} {command : Option Command} {found : Command}
    (there : (machine.setCommand id command).commands key = some found) :
    (key = id ∧ command = some found) ∨ (key ≠ id ∧ machine.commands key = some found) := by
  by_cases same : key = id
  · subst same
    exact .inl ⟨rfl, by simpa [Machine.setCommand] using there⟩
  · exact .inr ⟨same, by simpa [Machine.setCommand, same] using there⟩

theorem All.setServer {test : Server -> Bool} (all : machine.All test) (meets : test server = true) :
    (machine.setServer pid server).All test := by
  intro other found there
  rcases setServer_cases there with ⟨_, rfl⟩ | ⟨_, there⟩
  · exact meets
  · exact all other found there

theorem Server.active_of_named (named : server.named = true) : server.active = true := by
  unfold Server.named at named
  unfold Server.active
  split at named <;> simp_all

theorem Inv.setServer (inv : Inv machine) (there : machine.servers pid = some old)
    (active : server.active = true -> old.active = true) (sound : server.sound = true)
    (tolerated : ∀ id command, machine.commands id = some command -> tolerates command old = true ->
      tolerates command server = true)
    (reached : server.active = true -> server.accepting = true -> machine.socket = some pid)
    (named : server.named = true -> machine.readPidfile = some pid)
    (held : ∀ inode, server.phase = .opened inode ->
      ∃ content, machine.pidfile = some { inode, content } ∧ server.Overwrites pid content) :
    Inv (machine.setServer pid server) where
  pids := by
    intro other found here
    rcases setServer_cases here with ⟨rfl, _⟩ | ⟨_, here⟩
    · exact inv.pids _ _ there
    · exact inv.pids other found here
  ids := inv.ids
  one := by
    intro first second one two here elsewhere oneActive twoActive
    rcases setServer_cases here with ⟨rfl, rfl⟩ | ⟨_, before⟩ <;>
      rcases setServer_cases elsewhere with ⟨rfl, rfl⟩ | ⟨_, beside⟩
    · rfl
    · exact inv.one _ _ _ _ there beside (active oneActive) twoActive
    · exact inv.one _ _ _ _ before there oneActive (active twoActive)
    · exact inv.one _ _ _ _ before beside oneActive twoActive
  sound := All.setServer inv.sound sound
  reached := by
    intro other found here isActive accepting
    rcases setServer_cases here with ⟨rfl, rfl⟩ | ⟨_, here⟩
    · exact reached isActive accepting
    · exact inv.reached other found here isActive accepting
  named := by
    intro other found here isNamed
    rcases setServer_cases here with ⟨rfl, rfl⟩ | ⟨_, here⟩
    · exact named isNamed
    · exact inv.named other found here isNamed
  held := by
    intro other found inode here phase
    rcases setServer_cases here with ⟨rfl, rfl⟩ | ⟨_, here⟩
    · exact held inode phase
    · exact inv.held other found inode here phase
  single := inv.single
  allowed := by
    intro id command running
    have allowed := inv.allowed id command running
    exact All.setServer allowed (tolerated id command running (allowed pid old there))

theorem Inv.withSocket (inv : Inv machine) (socket : Option Pid)
    (reached : ∀ pid server, machine.servers pid = some server -> server.active = true -> server.accepting = true ->
      socket = some pid) : Inv { machine with socket } :=
  { inv with reached }

theorem Inv.withPidfile (inv : Inv machine) (pidfile : Option Pidfile) (nextInode : Nat)
    (named : ∀ pid server, machine.servers pid = some server -> server.named = true ->
      (pidfile.bind fun file => parsePid file.content) = some pid)
    (held : ∀ pid server inode, machine.servers pid = some server -> server.phase = .opened inode ->
      ∃ content, pidfile = some { inode, content } ∧ server.Overwrites pid content) :
    Inv { machine with pidfile, nextInode } :=
  { inv with named, held }

theorem Inv.setCommand (inv : Inv machine) {id : Nat} {command : Command} (running : machine.commands id = some command)
    (next : Option Command) (allowed : ∀ later, next = some later -> machine.All (tolerates later)) :
    Inv (machine.setCommand id next) where
  pids := inv.pids
  ids := by
    intro key found here
    rcases setCommand_cases here with ⟨rfl, _⟩ | ⟨_, here⟩
    · exact inv.ids _ _ running
    · exact inv.ids _ _ here
  one := inv.one
  sound := inv.sound
  reached := inv.reached
  named := inv.named
  held := inv.held
  single := by
    intro key other found another here elsewhere
    rcases setCommand_cases here with ⟨rfl, _⟩ | ⟨_, before⟩ <;>
      rcases setCommand_cases elsewhere with ⟨rfl, _⟩ | ⟨_, beside⟩
    · rfl
    · exact inv.single _ _ _ _ running beside
    · exact inv.single _ _ _ _ before running
    · exact inv.single _ _ _ _ before beside
  allowed := by
    intro key found here
    rcases setCommand_cases here with ⟨_, next⟩ | ⟨_, here⟩
    · exact allowed found next
    · exact inv.allowed _ _ here

theorem Inv.fork (inv : Inv machine) (quiet : ∀ id, machine.commands id = none)
    (idle : machine.All fun server => !server.active) (free : machine.free pid = true) (mode : Mode) :
    Inv (machine.fork pid mode) where
  pids := by
    intro other found here
    rcases setServer_cases here with ⟨rfl, _⟩ | ⟨_, here⟩
    · simp only [Machine.free, Bool.and_eq_true, decide_eq_true_eq] at free
      exact ⟨lt_max_of_lt_right (Nat.lt_succ_self _), free.1.2⟩
    · obtain ⟨below, small⟩ := inv.pids other found here
      exact ⟨lt_max_of_lt_left below, small⟩
  ids := inv.ids
  one := by
    intro first second one two here elsewhere oneActive twoActive
    have inactive (pid : Pid) (server : Server) (there : machine.servers pid = some server) :
        server.active = false := by
      simpa using idle pid server there
    rcases setServer_cases here with ⟨rfl, rfl⟩ | ⟨_, before⟩ <;>
      rcases setServer_cases elsewhere with ⟨rfl, rfl⟩ | ⟨_, beside⟩
    · rfl
    · simp [inactive _ _ beside] at twoActive
    · simp [inactive _ _ before] at oneActive
    · simp [inactive _ _ before] at oneActive
  sound := All.setServer inv.sound rfl
  reached := by
    intro other found here isActive accepting
    rcases setServer_cases here with ⟨rfl, rfl⟩ | ⟨_, here⟩
    · cases accepting
    · exact inv.reached other found here isActive accepting
  named := by
    intro other found here isNamed
    rcases setServer_cases here with ⟨rfl, rfl⟩ | ⟨_, here⟩
    · cases isNamed
    · exact inv.named other found here isNamed
  held := by
    intro other found inode here phase
    rcases setServer_cases here with ⟨rfl, rfl⟩ | ⟨_, here⟩
    · cases phase
    · exact inv.held other found inode here phase
  single := inv.single
  allowed := by
    intro id command running
    simp [Machine.fork, Machine.setServer, quiet] at running

theorem Inv.invoke (inv : Inv machine) (quiet : ∀ id, machine.commands id = none) (command : Command)
    (allowed : machine.All (tolerates command)) :
    Inv { machine.setCommand machine.nextCommand (some command) with nextCommand := machine.nextCommand + 1 } where
  pids := inv.pids
  ids := by
    intro key found here
    rcases setCommand_cases here with ⟨rfl, _⟩ | ⟨_, here⟩
    · exact Nat.lt_succ_self _
    · simp [quiet] at here
  one := inv.one
  sound := inv.sound
  reached := inv.reached
  named := inv.named
  held := inv.held
  single := by
    intro key other found another here elsewhere
    rcases setCommand_cases here with ⟨rfl, _⟩ | ⟨_, here⟩
    · rcases setCommand_cases elsewhere with ⟨rfl, _⟩ | ⟨_, elsewhere⟩
      · rfl
      · simp [quiet] at elsewhere
    · simp [quiet] at here
  allowed := by
    intro key found here
    rcases setCommand_cases here with ⟨_, same⟩ | ⟨_, here⟩
    · obtain rfl := Option.some.inj same
      exact allowed
    · simp [quiet] at here

end Updates

section Servers

variable {daemonize : Daemonize} {machine next : Machine} {pid : Pid} {server : Server} {goes : Bool}

theorem tolerates_onward {old new : Server} {command : Command} (active : new.active = true -> old.active = true)
    (startsUp : new.startsUp = true -> old.startsUp = true) (accepting : new.accepting = old.accepting)
    (tolerated : tolerates command old = true) : tolerates command new = true := by
  cases command <;> simp only [tolerates, Bool.or_eq_true, Bool.and_eq_true, Bool.not_eq_true', Bool.and_eq_false_iff,
    accepting] at tolerated ⊢ <;> grind

theorem tolerates_killed (command : Command) (server : Server) : tolerates command server.killed = true := by
  cases command <;> rfl

theorem Inv.alone (inv : Inv machine) (there : machine.servers pid = some server) (active : server.active = true)
    {other : Pid} {found : Server} (here : machine.servers other = some found) (isActive : found.active = true) :
    other = pid ∧ found = server := by
  obtain rfl := inv.one _ _ _ _ here there isActive active
  exact ⟨rfl, Option.some.inj (here.symm.trans there)⟩

theorem Inv.kill (inv : Inv machine) (there : machine.servers pid = some server) :
    Inv (machine.setServer pid server.killed) := by
  apply inv.setServer there
  · intro active
    cases active
  · rfl
  · exact fun _ command _ _ => tolerates_killed command server
  · intro active
    cases active
  · intro named
    cases named
  · intro inode phase
    cases phase

theorem Inv.onward (inv : Inv machine) (there : machine.servers pid = some server) {phase : Phase}
    (active : ({ server with phase } : Server).active = true -> server.active = true)
    (startsUp : ({ server with phase } : Server).startsUp = true -> server.startsUp = true)
    (sound : ({ server with phase } : Server).sound = true)
    (named : ({ server with phase } : Server).named = true -> machine.readPidfile = some pid)
    (held : ∀ inode, phase = .opened inode ->
      ∃ content, machine.pidfile = some { inode, content } ∧ server.Overwrites pid content) :
    Inv (machine.setServer pid { server with phase }) := by
  apply inv.setServer there active sound _ _ named held
  · exact fun _ _ _ => tolerates_onward active startsUp rfl
  · exact fun isActive accepting => inv.reached pid server there (active isActive) accepting

theorem parsePid_digits {pid : Pid} (small : pid < 2 ^ 31) : parsePid (Nat.toDigits 10 pid) = some pid := by
  have value : RustStd.digitsValue 10 (Nat.toDigits 10 pid) = pid :=
    RustStd.digitsValue_toDigits (by decide) (by decide) pid
  have readable : (Nat.toDigits 10 pid).any (fun c => (RustStd.toDigit 10 c).isNone) = false := by
    rw [List.any_eq_false]
    intro c member
    have digit := @RustStd.toDigits_readable 10 (by decide) (by decide) pid c member
    simpa [Option.isSome_iff_ne_none] using digit
  simpa [parsePid, readable, value, Nat.toDigits_ne_nil] using small

theorem Inv.fails (inv : Inv machine) (there : machine.servers pid = some server) {phase : Phase}
    (ends : phase = .dead ∨ phase = .returned) (active : server.active = true) :
    Inv (machine.setServer pid { server with phase }) := by
  rcases ends with rfl | rfl <;> apply inv.onward there (fun _ => active) <;>
    simp [Server.startsUp, Server.sound, Server.named]

theorem Inv.serve_started (inv : Inv machine) (there : machine.servers pid = some server)
    (phase : server.phase = .started) (served : machine.serve daemonize pid server goes = some next) : Inv next := by
  have active : server.active = true := by simp [Server.active, phase]
  have quiet : server.accepting = false := by simpa [Server.sound, phase] using inv.sound pid server there
  cases goes with
  | false =>
    simp only [Machine.serve, phase, Bool.false_eq_true, if_false, Option.some.injEq] at served
    exact served ▸ inv.fails there (.inl rfl) active
  | true =>
    simp only [Machine.serve, phase, if_true, Option.some.injEq] at served
    subst served
    have nobody (other : Pid) (found : Server) (here : machine.servers other = some found)
        (isActive : found.active = true) : found.phase = .started := by
      obtain ⟨_, rfl⟩ := inv.alone there active here isActive
      exact phase
    have opened : Inv (machine.openPidfile daemonize server.mode).2 ∧ ∃ content,
        (machine.openPidfile daemonize server.mode).2.pidfile =
          some { inode := (machine.openPidfile daemonize server.mode).1, content } ∧
        server.Overwrites pid content := by
      unfold Machine.openPidfile
      split
      all_goals
        refine ⟨inv.withPidfile _ _ ?_ ?_, _, rfl, fun foreground => by simp [foreground, Mode.opens, overlay]⟩
        · intro other found here isNamed
          have started := nobody other found here (Server.active_of_named isNamed)
          simp [Server.named, started] at isNamed
        · intro other found inode here isOpen
          have started := nobody other found here (by simp [Server.active, isOpen])
          simp [started] at isOpen
    have same : (machine.openPidfile daemonize server.mode).2.servers = machine.servers := by
      unfold Machine.openPidfile
      split <;> rfl
    apply opened.1.onward (by rw [same]; exact there)
    · simp [Server.active, phase]
    · simp [Server.startsUp, phase]
    · simp [Server.sound, quiet]
    · simp [Server.named]
    · intro inode isOpen
      obtain rfl := Phase.opened.inj isOpen
      exact opened.2

theorem Inv.serve_opened (inv : Inv machine) (keeps : KeepsPid daemonize)
    (there : machine.servers pid = some server) {inode : Nat} (phase : server.phase = .opened inode)
    (served : machine.serve daemonize pid server goes = some next) : Inv next := by
  have active : server.active = true := by simp [Server.active, phase]
  have quiet : server.accepting = false := by simpa [Server.sound, phase] using inv.sound pid server there
  cases goes with
  | false =>
    simp only [Machine.serve, phase, Bool.false_eq_true, if_false, Option.some.injEq] at served
    exact served ▸ inv.fails there (.inl rfl) active
  | true =>
    simp only [Machine.serve, phase, if_true, Option.some.injEq] at served
    subst served
    obtain ⟨content, file, overwrites⟩ := inv.held pid server inode there phase
    have written : (machine.writePidfile daemonize server.mode inode pid).pidfile =
        some { inode, content := Nat.toDigits 10 pid } := by
      cases mode : server.mode with
      | daemon => simp [Machine.writePidfile, Mode.writes, file, keeps.writes]
      | foreground => simp [Machine.writePidfile, Mode.writes, file, overwrites mode]
    have wrote : Inv (machine.writePidfile daemonize server.mode inode pid) := by
      apply inv.withPidfile
      · intro other found here isNamed
        obtain ⟨_, rfl⟩ := inv.alone there active here (Server.active_of_named isNamed)
        simp [Server.named, phase] at isNamed
      · intro other found inode' here isOpen
        obtain ⟨rfl, rfl⟩ := inv.alone there active here (by simp [Server.active, isOpen])
        obtain rfl : inode = inode' := Phase.opened.inj (phase.symm.trans isOpen)
        exact ⟨_, written, fun _ => by simp [overlay]⟩
    apply wrote.onward there
    · simp [Server.active, phase]
    · simp [Server.startsUp, phase]
    · simp [Server.sound, quiet]
    · intro _
      simp [Machine.readPidfile, written, parsePid_digits (inv.pids pid server there).2]
    · intro inode isOpen
      cases isOpen

theorem Inv.serve_announced (inv : Inv machine) (there : machine.servers pid = some server)
    (phase : server.phase = .announced) (served : machine.serve daemonize pid server goes = some next) : Inv next := by
  have active : server.active = true := by simp [Server.active, phase]
  have quiet : server.accepting = false := by simpa [Server.sound, phase] using inv.sound pid server there
  cases goes with
  | false =>
    simp only [Machine.serve, phase, Bool.false_eq_true, if_false, Option.some.injEq] at served
    exact served ▸ inv.fails there (.inr rfl) active
  | true =>
    simp only [Machine.serve, phase, if_true, Option.some.injEq] at served
    subst served
    have unlinked : Inv { machine with socket := none } := by
      apply inv.withSocket
      intro other found here isActive accepting
      obtain ⟨_, rfl⟩ := inv.alone there active here isActive
      simp [quiet] at accepting
    apply unlinked.onward there
    · simp [Server.active, phase]
    · simp [Server.startsUp, phase]
    · simp [Server.sound, quiet]
    · intro _
      exact inv.named pid server there (by simp [Server.named, phase])
    · intro inode isOpen
      cases isOpen

theorem Inv.serve_unlinked (inv : Inv machine) (there : machine.servers pid = some server)
    (phase : server.phase = .unlinked) (served : machine.serve daemonize pid server goes = some next) : Inv next := by
  have active : server.active = true := by simp [Server.active, phase]
  have quiet : server.accepting = false := by simpa [Server.sound, phase] using inv.sound pid server there
  simp only [Machine.serve, phase] at served
  split_ifs at served with binds
  · obtain rfl := Option.some.inj served
    have bound : Inv { machine with socket := some pid } := by
      apply inv.withSocket
      intro other found here isActive accepting
      obtain ⟨_, rfl⟩ := inv.alone there active here isActive
      simp [quiet] at accepting
    apply bound.setServer there
    · simp [Server.active, phase]
    · simp [Server.sound]
    · intro id command _ tolerated
      cases command <;> simp [tolerates, Server.startsUp, Server.active, phase, quiet] at tolerated
    · exact fun _ _ => rfl
    · intro _
      exact inv.named pid server there (by simp [Server.named, phase])
    · intro inode isOpen
      cases isOpen
  · obtain rfl := Option.some.inj served
    exact inv.fails there (.inr rfl) active

theorem Inv.serve_returned (inv : Inv machine) (there : machine.servers pid = some server)
    (phase : server.phase = .returned) (served : machine.serve daemonize pid server goes = some next) : Inv next := by
  have active : server.active = true := by simp [Server.active, phase]
  have removed : Inv { machine with pidfile := none } := by
    apply inv.withPidfile
    · intro other found here isNamed
      obtain ⟨_, rfl⟩ := inv.alone there active here (Server.active_of_named isNamed)
      simp [Server.named, phase] at isNamed
    · intro other found inode here isOpen
      obtain ⟨_, rfl⟩ := inv.alone there active here (by simp [Server.active, isOpen])
      simp [phase] at isOpen
  simp only [Machine.serve, phase] at served
  split_ifs at served <;> obtain rfl := Option.some.inj served
  · apply removed.onward there <;> simp [Server.active, Server.startsUp, Server.sound, Server.named, phase]
  · apply inv.onward there <;> simp [Server.active, Server.startsUp, Server.sound, Server.named, phase]

theorem Inv.serve_cleaning (inv : Inv machine) (there : machine.servers pid = some server)
    (phase : server.phase = .cleaning) (served : machine.serve daemonize pid server goes = some next) : Inv next := by
  have active : server.active = true := by simp [Server.active, phase]
  simp only [Machine.serve, phase, Option.some.injEq] at served
  subst served
  have left : Inv (machine.setServer pid { server with phase := .exiting }) := by
    apply inv.onward there <;> simp [Server.active, Server.startsUp, Server.sound, Server.named]
  apply left.withSocket
  intro other found here isActive accepting
  rcases setServer_cases here with ⟨rfl, rfl⟩ | ⟨apart, before⟩
  · cases isActive
  · exact absurd (inv.alone there active before isActive).1 apart

theorem Inv.serve (inv : Inv machine) (keeps : KeepsPid daemonize) (there : machine.servers pid = some server)
    (served : machine.serve daemonize pid server goes = some next) : Inv next := by
  cases phase : server.phase with
  | started => exact inv.serve_started there phase served
  | opened inode => exact inv.serve_opened keeps there phase served
  | announced => exact inv.serve_announced there phase served
  | unlinked => exact inv.serve_unlinked there phase served
  | serving | draining =>
    simp only [Machine.serve, phase, Option.some.injEq] at served
    exact served ▸ inv.fails there (.inr rfl) (by simp [Server.active, phase])
  | returned => exact inv.serve_returned there phase served
  | cleaning => exact inv.serve_cleaning there phase served
  | exiting =>
    simp only [Machine.serve, phase, keeps.stays, Bool.and_false, Bool.false_eq_true, if_false,
      Option.some.injEq] at served
    exact served ▸ inv.kill there
  | dead => simp [Machine.serve, phase] at served

end Servers

section Commands

variable {machine : Machine} {id : Nat} {command : Command}

def Server.forgoes (server : Server) : Bool :=
  !server.startsUp && !(server.active && server.accepting)

theorem Server.forgoes_of_inactive {server : Server} (idle : server.active = false) : server.forgoes = true := by
  unfold Server.active at idle
  unfold Server.forgoes Server.startsUp Server.active
  split at idle <;> simp_all

theorem Server.sound_shutDown (server : Server) : server.shutDown.sound = true := by
  unfold Server.shutDown Server.sound
  cases phase : server.phase <;> simp

theorem Inv.withoutSocket (inv : Inv machine) (forgoes : machine.All Server.forgoes) :
    Inv { machine with socket := none } := by
  apply inv.withSocket
  intro pid server there active accepting
  have enough := forgoes pid server there
  simp [Server.forgoes, active, accepting] at enough

theorem Inv.withoutPidfile (inv : Inv machine) (forgoes : machine.All Server.forgoes) :
    Inv { machine with pidfile := none } := by
  apply inv.withPidfile
  · intro pid server there named
    have enough := forgoes pid server there
    have sound := inv.sound pid server there
    cases phase : server.phase <;>
      simp [Server.named, Server.forgoes, Server.startsUp, Server.active, Server.sound, phase] at named enough sound
    simp [enough] at sound
  · intro pid server inode there opened
    have enough := forgoes pid server there
    simp [Server.forgoes, Server.startsUp, opened] at enough

theorem Inv.unanswered (inv : Inv machine) (silent : machine.listener.isSome = false) :
    machine.All fun server => !(server.active && server.accepting) := by
  intro pid server there
  simp only [Bool.not_eq_true', Bool.and_eq_false_iff]
  by_contra both
  obtain ⟨active, accepting⟩ := not_or.mp both
  rw [Bool.not_eq_false] at active accepting
  have socket := inv.reached pid server there active accepting
  simp [Machine.listener, socket, there, accepting] at silent

theorem Inv.shutDown (inv : Inv machine) (running : machine.commands id = some command)
    (asks : command = .stopAsks ∨ command = .panelAsks) {pid : Pid} (listener : machine.listener = some pid) :
    Inv (machine.change pid Server.shutDown) ∧ (machine.change pid Server.shutDown).All Server.forgoes := by
  obtain ⟨socket, accepts⟩ := Option.filter_eq_some_iff.mp listener
  obtain ⟨server, there, accepting⟩ := (Option.any_eq_true _ _).mp accepts
  have settled : machine.All fun server => !server.startsUp := by
    have allowed := inv.allowed id command running
    rcases asks with rfl | rfl <;> exact allowed
  have changed : machine.change pid Server.shutDown = machine.setServer pid server.shutDown := by
    simp [Machine.change, there]
  have named (server : Server) : server.shutDown.named = true -> server.named = true := by
    unfold Server.shutDown Server.named
    cases phase : server.phase <;> simp
  have active (server : Server) : server.shutDown.active = server.active := by
    unfold Server.shutDown Server.active
    cases phase : server.phase <;> simp
  have startsUp (server : Server) : server.shutDown.startsUp = server.startsUp := by
    unfold Server.shutDown Server.startsUp
    cases phase : server.phase <;> simp
  rw [changed]
  constructor
  · apply inv.setServer there
    · rw [active]
      exact fun same => same
    · exact server.sound_shutDown
    · intro key other here _
      obtain rfl := inv.single _ _ _ _ here running
      obtain rfl := Option.some.inj (here.symm.trans running)
      have enough := settled pid server there
      rcases asks with rfl | rfl <;> simpa [tolerates, startsUp] using enough
    · intro _ accepting
      cases accepting
    · exact fun isNamed => inv.named pid server there (named server isNamed)
    · intro inode opened
      have enough := settled pid server there
      cases phase : server.phase <;> simp_all [Server.shutDown, Server.startsUp]
  · intro other found here
    rcases setServer_cases here with ⟨_, rfl⟩ | ⟨apart, here⟩
    · have enough := settled pid server there
      have left : server.shutDown.accepting = false := rfl
      simpa [Server.forgoes, startsUp, left] using enough
    · have enough := settled other found here
      cases isActive : found.active with
      | false => exact Server.forgoes_of_inactive isActive
      | true =>
        cases accepts : found.accepting with
        | false => simpa [Server.forgoes, accepts] using enough
        | true => exact absurd (Option.some.inj ((inv.reached other found here isActive accepts).symm.trans socket)) apart

theorem All.both {first second : Server -> Bool} (one : machine.All first) (two : machine.All second) :
    machine.All fun server => first server && second server :=
  fun pid server there => by simp [one pid server there, two pid server there]

section Proceeding

variable {after : Machine} {chance : Chance}

theorem Inv.further (holds : Inv after) (running : after.commands id = some command) {next : Command}
    (allows : after.All (tolerates next)) : Inv (after.setCommand id (some next)) := by
  apply holds.setCommand running
  intro later chosen
  obtain rfl := Option.some.inj chosen
  exact allows

theorem Inv.ends (holds : Inv after) (running : after.commands id = some command) :
    Inv (after.setCommand id none) := by
  apply holds.setCommand running
  intro later chosen
  cases chosen

theorem commands_change (pid : Pid) (edit : Server -> Server) :
    (machine.change pid edit).commands = machine.commands := by
  unfold Machine.change
  split <;> rfl

theorem Inv.proceed_status (inv : Inv machine) (running : machine.commands id = some command)
    (status : command = .statusAsks ∨ command = .statusReads ∨ ∃ pid, command = .statusChecks pid) :
    Inv ((machine.perform chance command).1.setCommand id (machine.perform chance command).2) := by
  have allowed := inv.allowed id command running
  rcases status with rfl | rfl | ⟨pid, rfl⟩
  · cases silent : machine.listener.isSome with
    | true =>
      simp only [Machine.perform, silent, if_true]
      exact inv.ends running
    | false =>
      simp only [Machine.perform, silent, Bool.false_eq_true, if_false]
      exact inv.further running (All.both allowed (inv.unanswered silent))
  · simp only [Machine.perform]
    split
    · exact inv.further running allowed
    · exact inv.further running allowed
  · simp only [Machine.perform]
    split
    · exact inv.ends running
    · exact inv.further running allowed

theorem Inv.proceed_stopAsks (inv : Inv machine) (running : machine.commands id = some .stopAsks) :
    Inv ((machine.perform chance .stopAsks).1.setCommand id (machine.perform chance .stopAsks).2) := by
  simp only [Machine.perform]
  split
  next pid listener =>
    obtain ⟨stopped, forgoes⟩ := inv.shutDown running (.inl rfl) listener
    exact stopped.further (by rw [commands_change]; exact running) forgoes
  next silent =>
    have allowed := inv.allowed id _ running
    exact inv.further running (All.both allowed (inv.unanswered (by rw [silent]; rfl)))

theorem Inv.proceed_stopSignals (inv : Inv machine) {pid : Pid} (running : machine.commands id = some (.stopSignals pid)) :
    Inv ((machine.perform chance (.stopSignals pid)).1.setCommand id (machine.perform chance (.stopSignals pid)).2) := by
  have allowed := inv.allowed id _ running
  simp only [Machine.perform]
  unfold Machine.change
  split
  next server there =>
    apply (inv.kill there).further running
    exact All.setServer allowed rfl
  · exact inv.further running allowed

theorem Inv.proceed_startAsks (inv : Inv machine) (running : machine.commands id = some .startAsks) :
    Inv ((machine.perform chance .startAsks).1.setCommand id (machine.perform chance .startAsks).2) := by
  cases silent : machine.listener.isSome with
  | true =>
    simp only [Machine.perform, silent, if_true]
    exact inv.ends running
  | false =>
    simp only [Machine.perform, silent, Bool.false_eq_true, if_false]
    apply inv.further running
    intro pid server there
    have accepts := inv.allowed id _ running pid server there
    have unanswered := inv.unanswered silent pid server there
    simp only [tolerates, Bool.or_eq_true, Bool.not_eq_true', Bool.and_eq_false_iff] at accepts unanswered ⊢
    rcases accepts with idle | accepting
    · exact idle
    · exact unanswered.resolve_right (by simp [accepting])

theorem Inv.proceed_startForks (inv : Inv machine) (running : machine.commands id = some .startForks)
    (free : machine.free chance.forked = true) :
    Inv ((machine.perform chance .startForks).1.setCommand id (machine.perform chance .startForks).2) := by
  have ended : Inv (machine.setCommand id none) := inv.ends running
  apply ended.fork _ (inv.allowed id _ running) free
  intro other
  cases there : (machine.setCommand id none).commands other with
  | none => rfl
  | some found =>
    rcases setCommand_cases there with ⟨_, chosen⟩ | ⟨apart, there⟩
    · cases chosen
    · exact absurd (inv.single _ _ _ _ there running) apart

theorem Inv.forgoes (inv : Inv machine) (running : machine.commands id = some command)
    (idle : ∀ server, tolerates command server = true -> server.active = false) : machine.All Server.forgoes :=
  fun pid server there => Server.forgoes_of_inactive (idle server (inv.allowed id command running pid server there))

theorem Inv.proceed (inv : Inv machine) (running : machine.commands id = some command)
    (free : machine.free chance.forked = true) :
    Inv ((machine.perform chance command).1.setCommand id (machine.perform chance command).2) := by
  have allowed := inv.allowed id command running
  cases command with
  | statusAsks => exact inv.proceed_status running (.inl rfl)
  | statusReads => exact inv.proceed_status running (.inr (.inl rfl))
  | statusChecks pid => exact inv.proceed_status running (.inr (.inr ⟨pid, rfl⟩))
  | statusSocket seen => exact (inv.withoutSocket allowed).further running allowed
  | statusPidfile seen => exact (inv.withoutPidfile allowed).ends running
  | stopAsks => exact inv.proceed_stopAsks running
  | stopReads =>
    simp only [Machine.perform]
    split
    · exact inv.further running allowed
    · exact inv.further running allowed
  | stopSignals pid => exact inv.proceed_stopSignals running
  | stopSocket => exact (inv.withoutSocket allowed).further running allowed
  | stopPidfile => exact (inv.withoutPidfile allowed).ends running
  | startAsks => exact inv.proceed_startAsks running
  | startPidfile =>
    have forgoes := inv.forgoes running (fun _ idle => by simpa [tolerates] using idle)
    exact (inv.withoutPidfile forgoes).further running allowed
  | startSocket =>
    have forgoes := inv.forgoes running (fun _ idle => by simpa [tolerates] using idle)
    exact (inv.withoutSocket forgoes).further running allowed
  | startForks => exact inv.proceed_startForks running free
  | panelAsks =>
    simp only [Machine.perform]
    split
    next pid listener =>
      exact (inv.shutDown running (.inr rfl) listener).1.ends (by rw [commands_change]; exact running)
    · exact inv.ends running

end Proceeding

end Commands

section Runs

variable {daemonize : Daemonize} {machine next : Machine} {event : Event}

namespace Machine

variable (machine : Machine)

def quiet : Bool :=
  (List.range machine.nextCommand).all fun id => (machine.commands id).isNone

def all (test : Server -> Bool) : Bool :=
  (List.range machine.pidBound).all fun pid => (machine.servers pid).all test

end Machine

/-- Whoever runs the commands waits for the one before, and for a server to be up, or gone, before the next. -/
def orderly (machine : Machine) : Event -> Bool
  | .invoke .start => machine.quiet && machine.all fun server => !server.active || server.accepting
  | .invoke _ => machine.quiet && machine.all fun server => !server.startsUp
  | .foreground _ => machine.quiet && machine.all fun server => !server.active
  | .proceed _ _ | .serve _ _ | .crash _ => true

theorem Inv.quiet (inv : Inv machine) (quiet : machine.quiet = true) (id : Nat) : machine.commands id = none := by
  cases there : machine.commands id with
  | none => rfl
  | some command =>
    have ended := List.all_eq_true.mp quiet id (List.mem_range.mpr (inv.ids id command there))
    simp [there] at ended

theorem Inv.all (inv : Inv machine) {test : Server -> Bool} (all : machine.all test = true) : machine.All test := by
  intro pid server there
  have meets := List.all_eq_true.mp all pid (List.mem_range.mpr (inv.pids pid server there).1)
  simpa [there] using meets

theorem Inv.step (inv : Inv machine) (keeps : KeepsPid daemonize) (held : orderly machine event = true)
    (taken : step daemonize machine event = some next) : Inv next := by
  cases event with
  | invoke invocation =>
    obtain rfl := Option.some.inj taken
    cases invocation with
    | start =>
      obtain ⟨quiet, ready⟩ := (Bool.and_eq_true _ _).mp held
      exact inv.invoke (inv.quiet quiet) _ (inv.all ready)
    | status | stop | panelStop =>
      obtain ⟨quiet, ready⟩ := (Bool.and_eq_true _ _).mp held
      exact inv.invoke (inv.quiet quiet) _ (inv.all ready)
  | foreground pid =>
    simp only [Processes.step] at taken
    split_ifs at taken with free
    obtain rfl := Option.some.inj taken
    obtain ⟨quiet, ready⟩ := (Bool.and_eq_true _ _).mp held
    exact inv.fork (inv.quiet quiet) (inv.all ready) free .foreground
  | proceed id chance =>
    simp only [Processes.step] at taken
    split_ifs at taken with free
    obtain ⟨command, running, rfl⟩ := Option.map_eq_some_iff.mp taken
    exact inv.proceed running free
  | serve pid goes =>
    obtain ⟨server, there, served⟩ := Option.bind_eq_some_iff.mp taken
    exact inv.serve keeps there served
  | crash pid =>
    obtain ⟨server, there, rfl⟩ := Option.map_eq_some_iff.mp taken
    exact inv.kill there

/-- However servers crash or fail to come up, orderly commands keep one server at a time, which the next command
reaches through its socket and finds in the pidfile, and which no command takes either from while it serves. -/
theorem orderly_commands_keep_one_server (keeps : KeepsPid daemonize) {events : List Event}
    (meets : Transition.Meets (step daemonize) (fun machine event => orderly machine event = true) Machine.booted events)
    (ran : Transition.run (step daemonize) Machine.booted events = some machine) :
    (∀ first second server other, machine.servers first = some server -> machine.servers second = some other ->
      server.active = true -> other.active = true -> first = second) ∧
    (∀ pid server, machine.servers pid = some server -> server.active = true -> server.accepting = true ->
      machine.listener = some pid) ∧
    (∀ pid server, machine.servers pid = some server -> server.phase = .serving ->
      machine.listener = some pid ∧ machine.readPidfile = some pid ∧
      ∀ id command chance, machine.commands id = some command ->
        (machine.perform chance command).1.socket = some pid ∧
        (machine.perform chance command).1.readPidfile = some pid) := by
  have inv : Inv machine :=
    Transition.invariant_of_meets (fun _ _ _ inv held taken => Inv.step inv keeps held taken) inv_booted meets ran
  have listened (pid : Pid) (server : Server) (there : machine.servers pid = some server)
      (active : server.active = true) (accepting : server.accepting = true) : machine.listener = some pid := by
    simp [Machine.listener, inv.reached pid server there active accepting, there, accepting]
  refine ⟨inv.one, listened, ?_⟩
  intro pid server there serving
  have active : server.active = true := by simp [Server.active, serving]
  have accepting : server.accepting = true := by simpa [Server.sound, serving] using inv.sound pid server there
  have listener := listened pid server there active accepting
  have socket := inv.reached pid server there active accepting
  have named := inv.named pid server there (by simp [Server.named, serving])
  refine ⟨listener, named, ?_⟩
  intro id command chance running
  have allowed := inv.allowed id command running pid server there
  cases command <;> simp [tolerates, active, accepting] at allowed
  all_goals simp [Machine.perform, listener, socket, named, Machine.change, there]
  all_goals exact ⟨socket, named⟩

-- As the crate is: it empties the file when it writes.
def crate : Daemonize :=
  { opens := id, writes := fun _ pid => Nat.toDigits 10 pid, removes := false }

def forks (id : Nat) (pid : Pid) : Event :=
  .proceed id { forked := pid, foreign := false }

-- A server crashes, the status command clears up after it, and a server with the same process id is started.
def restarted : List Event :=
  [.invoke .start] ++ List.replicate 4 (forks 0 1) ++ List.replicate 4 (.serve 1 true) ++
  [.crash 1, .invoke .status] ++ List.replicate 5 (forks 1 1) ++
  [.invoke .start] ++ List.replicate 4 (forks 2 1) ++ List.replicate 4 (.serve 1 true)

theorem orderly_commands_keep_one_server_restarted :
    ∃ machine, Transition.run (step crate) Machine.booted restarted = some machine ∧
      machine.listener = some 1 ∧ machine.readPidfile = some 1 := by
  have meets : Transition.Meets (step crate) (fun machine event => orderly machine event = true) Machine.booted
      restarted := by
    decide
  have keeps : KeepsPid crate := ⟨fun _ _ => rfl, rfl⟩
  have served := (orderly_commands_keep_one_server keeps meets rfl).2.2 1 ⟨.daemon, .serving, true⟩ rfl rfl
  exact ⟨_, rfl, served.1, served.2.1⟩

-- Not so when the next start does not wait: the first server removes the socket of the second as it exits.
example : ∃ machine, Transition.run (step crate) Machine.booted ([.invoke .start] ++ List.replicate 4 (forks 0 1) ++
      List.replicate 4 (.serve 1 true) ++ [.invoke .stop] ++ List.replicate 3 (forks 1 2) ++ [.invoke .start] ++
      List.replicate 4 (forks 2 2) ++ List.replicate 4 (.serve 2 true) ++ List.replicate 3 (.serve 1 true)) =
        some machine ∧
    machine.servers 2 = some ⟨.daemon, .serving, true⟩ ∧ machine.listener = none :=
  ⟨_, rfl, rfl, rfl⟩

end Runs

end Muxrd.Processes
