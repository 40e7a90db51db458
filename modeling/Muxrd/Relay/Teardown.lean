import Mathlib.Tactic.FinCases
import Muxrd.Relay.Reader

set_option autoImplicit false

namespace Muxrd.Teardown

open RenderLoop

inductive EndReason
  | halfClosed
  | streamError
  | tokenRevoked
  | attachCancelled
  deriving DecidableEq, Repr

inductive GuardPc
  | running
  | ended
  | stopping
  | joining
  | joined
  deriving DecidableEq, Repr

structure Relay where
  reader : Reader
  guard : GuardPc
  -- The backend has sent something, or ended the stream, since the nudge.
  answered : Bool
  deriving DecidableEq, Repr

def initial (connectionId : String) : Relay :=
  { reader := spawned connectionId, guard := .running, answered := false }

inductive Event
  | inboundEnds (reason : EndReason)
  | setStop
  | nudge
  | join
  | message (msg : MuxServerMsg)
  | streamEnds
  | handOff (query : InFlightQuery)
  | closeReply (reply : Nat)
  | clientReads
  | clientLeaves
  | reader
  deriving DecidableEq, Repr

def isClient : Event -> Bool
  | .clientReads | .clientLeaves => true
  | _ => false

def step (relay : Relay) : Event -> Option Relay
  | .inboundEnds _ => if relay.guard = .running then some { relay with guard := .ended } else none
  | .setStop =>
    if relay.guard = .ended then
      some { relay with reader := { relay.reader with stop := true }, guard := .stopping }
    else none
  -- Whether the nudge could be written makes no difference to the guard.
  | .nudge => if relay.guard = .stopping then some { relay with guard := .joining } else none
  | .join =>
    if relay.guard = .joining ∧ relay.reader.pc = .returned then some { relay with guard := .joined } else none
  | .message msg =>
    if relay.reader.eof then none
    else
      some { relay with
        reader := { relay.reader with incoming := relay.reader.incoming ++ [msg] }
        answered := relay.answered || relay.guard = .joining }
  | .streamEnds =>
    some { relay with
      reader := { relay.reader with eof := true }
      answered := relay.answered || relay.guard = .joining }
  | .handOff query =>
    if relay.guard = .running ∧ relay.reader.pc ≠ .returned then
      some { relay with reader := { relay.reader with queries := relay.reader.queries ++ [query] } }
    else none
  | .closeReply reply =>
    some { relay with
      reader := { relay.reader with closedReplies := reply :: relay.reader.closedReplies } }
  | .clientReads =>
    some { relay with reader := { relay.reader with outbound := relay.reader.outbound.tail } }
  | .clientLeaves => some { relay with reader := { relay.reader with receiverOpen := false } }
  | .reader => relay.reader.step.map fun reader => { relay with reader }

/-- The nudge was sent and answered, and neither the thread nor the join moves by itself. -/
structure Stuck (relay : Relay) : Prop where
  joining : relay.guard = .joining
  answered : relay.answered = true ∨ relay.reader.eof = true
  running : relay.reader.pc ≠ .returned
  blocked : relay.reader.step = none

-- The thread is past the stop check behind `recv` with a message it will forward.
def forwarding : Pc -> Bool
  | .drainAfter msg | .matching msg => (Reader.frameOf msg).isSome
  | .sending _ _ => true
  | _ => false

/-- The frame in hand has no room in the channel, and the client is still there. -/
def Congested (reader : Reader) : Prop :=
  forwarding reader.pc = true ∧ reader.receiverOpen = true ∧ renderChannelBound ≤ reader.outbound.length

instance (reader : Reader) : Decidable (Congested reader) :=
  inferInstanceAs (Decidable (_ ∧ _ ∧ _))

def CleanStop (relay : Relay) : Event -> Prop
  | .setStop => ¬ Congested relay.reader
  | _ => True

instance (relay : Relay) (event : Event) : Decidable (CleanStop relay event) :=
  match event with
  | .setStop => inferInstanceAs (Decidable (¬ Congested relay.reader))
  | .inboundEnds _ | .nudge | .join | .message _ | .streamEnds => .isTrue trivial
  | .handOff _ | .closeReply _ | .clientReads | .clientLeaves | .reader => .isTrue trivial

def waiting : Pc -> Bool
  | .drainBefore | .receiving => true
  | _ => false

structure Winding (reader : Reader) (answered : Bool) : Prop where
  stopped : reader.stop = true
  room : ¬ Congested reader
  woken : answered = true -> waiting reader.pc = true -> reader.incoming ≠ [] ∨ reader.eof = true

def isStopped : GuardPc -> Bool
  | .stopping | .joining | .joined => true
  | .running | .ended => false

structure Safe (relay : Relay) : Prop where
  winding : isStopped relay.guard = true -> Winding relay.reader relay.answered
  unanswered : isStopped relay.guard = false -> relay.answered = false

theorem step_eq_none {reader : Reader} (blocked : reader.step = none) :
    reader.pc = .returned ∨ (reader.pc = .receiving ∧ reader.incoming = [] ∧ reader.eof = false) ∨
      Congested reader := by
  cases pc : reader.pc with
  | returned => exact .inl rfl
  | top => by_cases stopped : reader.stop <;> simp [Reader.step, pc, stopped] at blocked
  | drainBefore => simp [Reader.step, pc] at blocked
  | receiving =>
    cases arrived : reader.incoming with
    | nil => exact .inr (.inl ⟨rfl, rfl, by simpa [Reader.step, pc, arrived] using blocked⟩)
    | cons msg rest => simp [Reader.step, pc, arrived] at blocked
  | received msg => by_cases stopped : reader.stop <;> simp [Reader.step, pc, stopped] at blocked
  | drainAfter msg => simp [Reader.step, pc] at blocked
  | matching msg =>
    rcases step_matching pc with ⟨_, _, moves⟩ | ⟨_, _, _, moves⟩ | ⟨_, moves⟩ <;> simp [moves] at blocked
  | sending frame last =>
    rcases step_sending pc with ⟨_, moves⟩ | ⟨_, moves⟩ | ⟨connected, full, _⟩
    · simp [moves] at blocked
    · simp [moves] at blocked
    · exact .inr (.inr ⟨by simp [pc, forwarding], connected, full⟩)

theorem Safe.not_stuck {relay : Relay} (safe : Safe relay) : ¬ Stuck relay := by
  intro stuck
  have winding := safe.winding (by simp [isStopped, stuck.joining])
  rcases step_eq_none stuck.blocked with returned | ⟨receiving, empty, noEof⟩ | congested
  · exact stuck.running returned
  · have answered : relay.answered = true := by simpa [noEof] using stuck.answered
    rcases winding.woken answered (by simp [waiting, receiving]) with message | ended
    · exact message empty
    · simp [noEof] at ended
  · exact winding.room congested

-- With the stop flag set the thread never gets back into the loop.
theorem winding_reader {reader next : Reader} {answered : Bool} (winding : Winding reader answered)
    (taken : reader.step = some next) : Winding next answered := by
  have stopped := winding.stopped
  have leaves (after : Reader) (flag : after.stop = true) (idle : forwarding after.pc = false)
      (awake : waiting after.pc = false) : Winding after answered :=
    { stopped := flag
      room := fun congested => by simpa [idle] using congested.1
      woken := fun _ wait => by simp [awake] at wait }
  cases pc : reader.pc with
  | top =>
    obtain rfl : reader.exit = next := by simpa [Reader.step, pc, stopped] using taken
    exact leaves _ stopped rfl rfl
  | drainBefore =>
    obtain rfl : { reader.drainQueries with pc := .receiving } = next := by
      simpa [Reader.step, pc] using taken
    exact { stopped := stopped
            room := fun congested => by simpa [forwarding] using congested.1
            woken := fun answered _ => winding.woken answered (by simp [pc, waiting]) }
  | receiving =>
    cases arrived : reader.incoming with
    | nil =>
      obtain ⟨_, rfl⟩ : reader.eof = true ∧ reader.exit = next := by
        simpa [Reader.step, pc, arrived] using taken
      exact leaves _ stopped rfl rfl
    | cons msg rest =>
      obtain rfl : { reader with pc := .received msg, incoming := rest } = next := by
        simpa [Reader.step, pc, arrived] using taken
      exact leaves _ stopped rfl rfl
  | received msg =>
    obtain rfl : reader.exit = next := by simpa [Reader.step, pc, stopped] using taken
    exact leaves _ stopped rfl rfl
  | drainAfter msg =>
    obtain rfl : { reader.drainQueries with pc := .matching msg } = next := by
      simpa [Reader.step, pc] using taken
    exact { stopped := stopped
            room := fun congested =>
              winding.room ⟨by simpa [pc, forwarding] using congested.1, congested.2⟩
            woken := fun _ wait => by simp [waiting] at wait }
  | matching msg =>
    rcases step_matching pc with ⟨json, _, moves⟩ | ⟨frame, last, forwarded, moves⟩ | ⟨_, moves⟩
    · obtain rfl := Option.some.inj (moves.symm.trans taken)
      exact leaves _ (by simpa using stopped) rfl rfl
    · obtain rfl := Option.some.inj (moves.symm.trans taken)
      exact { stopped := stopped
              room := fun congested => winding.room ⟨by simp [pc, forwarding, forwarded], congested.2⟩
              woken := fun _ wait => by simp [waiting] at wait }
    · obtain rfl := Option.some.inj (moves.symm.trans taken)
      exact leaves _ stopped rfl rfl
  | sending frame last =>
    rcases step_sending pc with ⟨_, moves⟩ | ⟨_, moves⟩ | ⟨_, _, moves⟩
    · obtain rfl := Option.some.inj (moves.symm.trans taken)
      exact leaves _ stopped rfl rfl
    · obtain rfl := Option.some.inj (moves.symm.trans taken)
      cases last
      · exact leaves _ stopped rfl rfl
      · exact leaves _ stopped rfl rfl
    · simp [moves] at taken
  | returned => simp [Reader.step, pc] at taken

theorem safe_step (relay : Relay) (event : Event) (next : Relay) (safe : Safe relay)
    (clean : CleanStop relay event) (taken : step relay event = some next) : Safe next := by
  have shared (reader : Reader) (answered : Bool) (pc : reader.pc = relay.reader.pc)
      (stop : reader.stop = relay.reader.stop)
      (room : Congested reader -> Congested relay.reader)
      (woken : answered = true -> relay.answered = true ∧
        (relay.reader.incoming ≠ [] ∨ relay.reader.eof = true -> reader.incoming ≠ [] ∨ reader.eof = true) ∨
        (reader.incoming ≠ [] ∨ reader.eof = true))
      (unanswered : isStopped relay.guard = false -> answered = false) :
      Safe { relay with reader, answered } := by
    constructor
    · intro stopped
      have winding := safe.winding stopped
      constructor
      · exact stop.trans winding.stopped
      · exact fun congested => winding.room (room congested)
      · intro isAnswered wait
        rcases woken isAnswered with ⟨before, keeps⟩ | now
        · exact keeps (winding.woken before (by rwa [← pc]))
        · exact now
    · exact unanswered
  cases event with
  | inboundEnds reason =>
    simp only [step] at taken
    split_ifs at taken with running
    obtain rfl := Option.some.inj taken
    exact { winding := by simp [isStopped]
            unanswered := fun _ => safe.unanswered (by simp [isStopped, running]) }
  | setStop =>
    simp only [step] at taken
    split_ifs at taken with ended
    obtain rfl := Option.some.inj taken
    have unanswered := safe.unanswered (by simp [isStopped, ended])
    exact { winding := fun _ =>
              { stopped := rfl
                room := clean
                woken := by simp [unanswered] }
            unanswered := by simp [isStopped] }
  | nudge =>
    simp only [step] at taken
    split_ifs at taken with stopping
    obtain rfl := Option.some.inj taken
    exact { winding := fun _ => safe.winding (by simp [isStopped, stopping])
            unanswered := by simp [isStopped] }
  | join =>
    simp only [step] at taken
    split_ifs at taken with ready
    obtain rfl := Option.some.inj taken
    exact { winding := fun _ => safe.winding (by simp [isStopped, ready.1])
            unanswered := by simp [isStopped] }
  | message msg =>
    simp only [step] at taken
    split_ifs at taken
    obtain rfl := Option.some.inj taken
    refine shared _ _ rfl rfl id (fun _ => .inr (.inl (by simp))) ?_
    intro before
    cases guard : relay.guard <;> simp_all [isStopped, safe.unanswered]
  | streamEnds =>
    obtain rfl := Option.some.inj taken
    refine shared _ _ rfl rfl id (fun _ => .inr (.inr rfl)) ?_
    intro before
    cases guard : relay.guard <;> simp_all [isStopped, safe.unanswered]
  | handOff query =>
    simp only [step] at taken
    split_ifs at taken
    exact Option.some.inj taken ▸ shared _ _ rfl rfl id (fun before => .inl ⟨before, id⟩) safe.unanswered
  | closeReply reply =>
    exact Option.some.inj taken ▸ shared _ _ rfl rfl id (fun before => .inl ⟨before, id⟩) safe.unanswered
  | clientReads =>
    refine Option.some.inj taken ▸ shared _ _ rfl rfl ?_ (fun before => .inl ⟨before, id⟩) safe.unanswered
    rintro ⟨busy, connected, full⟩
    refine ⟨busy, connected, Nat.le_trans full ?_⟩
    simp
  | clientLeaves =>
    refine Option.some.inj taken ▸ shared _ _ rfl rfl ?_ (fun before => .inl ⟨before, id⟩) safe.unanswered
    rintro ⟨_, connected, _⟩
    simp at connected
  | reader =>
    simp only [step, Option.map_eq_some_iff] at taken
    obtain ⟨reader, moved, rfl⟩ := taken
    exact { winding := fun stopped => winding_reader (safe.winding stopped) moved
            unanswered := safe.unanswered }

theorem safe_initial (connectionId : String) : Safe (initial connectionId) := by
  constructor <;> simp [initial, isStopped]

theorem run_reader {relay : Relay} {reader : Reader} (moves : relay.reader.step = some reader)
    (rest : List Event) :
    Transition.run step relay (.reader :: rest) = Transition.run step { relay with reader } rest := by
  simp [Transition.run, step, moves]

theorem congested_parks {reader : Reader} (congested : Congested reader) :
    ∃ events : List Event, (∀ event ∈ events, isClient event = false) ∧ ∃ parked : Reader,
      (∀ relay : Relay, relay.reader = reader ->
        Transition.run step relay events = some { relay with reader := parked }) ∧
      Congested parked ∧ ∃ frame last, parked.pc = .sending frame last := by
  obtain ⟨busy, connected, full⟩ := congested
  have fromMatch (before : Reader) (msg : MuxServerMsg) (pc : before.pc = .matching msg)
      (forwarded : (Reader.frameOf msg).isSome = true) (connected : before.receiverOpen = true)
      (crowded : renderChannelBound ≤ before.outbound.length) :
      ∃ parked : Reader, before.step = some parked ∧ Congested parked ∧
        ∃ frame last, parked.pc = .sending frame last := by
    rcases step_matching pc with ⟨json, rfl, _⟩ | ⟨frame, last, _, moves⟩ | ⟨rfl, _⟩
    · simp [Reader.frameOf] at forwarded
    · exact ⟨_, moves, ⟨rfl, connected, crowded⟩, frame, last, rfl⟩
    · simp [Reader.frameOf] at forwarded
  cases pc : reader.pc with
  | drainAfter msg =>
    have forwarded : (Reader.frameOf msg).isSome = true := by simpa [pc, forwarding] using busy
    obtain ⟨parked, moves, still, sending⟩ :=
      fromMatch { reader.drainQueries with pc := .matching msg } msg rfl forwarded connected full
    refine ⟨[.reader, .reader], by simp [isClient], parked, ?_, still, sending⟩
    rintro relay rfl
    have first : relay.reader.step = some { relay.reader.drainQueries with pc := .matching msg } := by
      simp [Reader.step, pc]
    exact (run_reader first _).trans (run_reader moves [])
  | matching msg =>
    have forwarded : (Reader.frameOf msg).isSome = true := by simpa [pc, forwarding] using busy
    obtain ⟨parked, moves, still, sending⟩ := fromMatch reader msg pc forwarded connected full
    refine ⟨[.reader], by simp [isClient], parked, ?_, still, sending⟩
    rintro relay rfl
    exact run_reader moves []
  | sending frame last =>
    refine ⟨[], by simp, reader, ?_, ⟨busy, connected, full⟩, frame, last, pc⟩
    rintro relay rfl
    rfl
  | _ => simp [pc, forwarding] at busy

theorem congested_stop_sticks {relay : Relay} (ended : relay.guard = .ended)
    (congested : Congested relay.reader) :
    ∃ events final, (∀ event ∈ events, isClient event = false) ∧
      Transition.run step relay (.setStop :: events) = some final ∧ Stuck final := by
  let stopped : Relay :=
    { relay with reader := { relay.reader with stop := true }, guard := .stopping }
  have crowded : Congested stopped.reader := congested
  obtain ⟨events, alone, parked, ran, ⟨_, connected, full⟩, frame, last, sending⟩ := congested_parks crowded
  let final : Relay := { reader := { parked with eof := true }, guard := .joining, answered := true }
  have blocked : final.reader.step = none := by
    have pc : final.reader.pc = .sending frame last := sending
    rcases step_sending pc with ⟨gone, _⟩ | ⟨room, _⟩ | ⟨_, _, moves⟩
    · exact absurd connected (by simpa [final] using gone)
    · exact absurd room (Nat.not_lt.mpr full)
    · exact moves
  refine ⟨events ++ [.nudge, .streamEnds], final, ?_, ?_, ?_⟩
  · intro event member
    rcases List.mem_append.mp member with before | last
    · exact alone event before
    · fin_cases last <;> rfl
  · rw [Transition.run_cons]
    refine ⟨stopped, by simp [step, ended, stopped], ?_⟩
    rw [Transition.run_append, ran stopped rfl]
    simp [Transition.run, step, stopped, final]
  · exact { joining := rfl, answered := .inl rfl, running := by simp [final, sending], blocked }

/-- The teardown never gets stuck in a run that stops no congested thread, and stopping one gets it
stuck without any action of the client. -/
theorem teardown_progress (connectionId : String) :
    (∀ events relay, Transition.Meets step CleanStop (initial connectionId) events ->
      Transition.run step (initial connectionId) events = some relay -> ¬ Stuck relay) ∧
    (∀ relay, Transition.Reachable step (initial connectionId) relay -> relay.guard = .ended ->
      ¬ CleanStop relay .setStop ->
      ∃ events final, (∀ event ∈ events, isClient event = false) ∧
        Transition.run step relay (.setStop :: events) = some final ∧ Stuck final) := by
  constructor
  · intro events relay clean ran
    exact (Transition.invariant_of_meets safe_step (safe_initial connectionId) clean ran).not_stuck
  · intro relay _ ended unclean
    exact congested_stop_sticks ended (not_not.mp unclean)

-- The client half-closes while the thread is parked in `recv`; the nudge provokes one message.
def idleTeardown : List Event :=
  [.reader, .reader, .inboundEnds .halfClosed, .setStop, .nudge, .message .other]

theorem teardown_progress_idle :
    ∃ relay, Transition.run step (initial "c1") idleTeardown = some relay ∧ ¬ Stuck relay ∧
      relay.guard = .joining := by
  have clean : Transition.Meets step CleanStop (initial "c1") idleTeardown := by decide
  exact ⟨_, rfl, (teardown_progress "c1").1 idleTeardown _ clean rfl, rfl⟩

-- Enough screen updates to fill the channel of a client that stops reading, and one more in hand.
def unreadRenders : List Event :=
  List.replicate 64 (.message (.render [])) ++ List.replicate 447 .reader

set_option maxRecDepth 100000 in
theorem revoked_token_sticks :
    ∃ relay final, Transition.run step (initial "c1") (unreadRenders ++ [.inboundEnds .tokenRevoked]) =
        some relay ∧
      Transition.run step relay [.setStop, .nudge, .message (.render [])] = some final ∧ Stuck final := by
  refine ⟨_, _, rfl, rfl, ?_⟩
  exact { joining := rfl, answered := .inl rfl, running := by decide, blocked := rfl }

end Muxrd.Teardown
