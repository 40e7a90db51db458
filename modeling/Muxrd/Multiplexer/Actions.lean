import Mathlib.Data.List.Flatten
import Mathlib.Data.List.Count
import Muxrd.Types

set_option autoImplicit false

namespace Muxrd.Actions

inductive ServerToClientMsg
  | unblockInputThread
  | log (lines : List String)
  | logError (lines : List String)
  | exit (reason : String)
  -- Renders, queries and the rest, which are only drained.
  | other
  deriving DecidableEq, Repr

def drainLimit : Nat := 500

section Loop

structure Draining where
  skippedAttachUnblock : Bool
  infoLines : List String
  errorLines : List String

def joined (lines : List String) : Option String :=
  if lines = [] then none else some ("\n".intercalate lines)

def Draining.ack (state : Draining) : ActionAck :=
  let error := joined state.errorLines
  { ok := error.isNone, error, info := joined state.infoLines }

-- `receive index` is what the stream gives at that read, `none` once it is closed.
variable (receive : Nat -> Option ServerToClientMsg)

def drain : Nat -> Nat -> Draining -> Except String ActionAck
  | 0, _, _ => .error ("send_action: exceeded " ++ toString drainLimit ++ " messages without an action ack")
  | left + 1, index, state =>
    match receive index with
    | none => .error "send_action: IPC stream closed before action ack arrived"
    | some .unblockInputThread =>
      if state.skippedAttachUnblock then .ok state.ack
      -- The first terminator belongs to the attach.
      else drain left (index + 1) { state with skippedAttachUnblock := true }
    | some (.log lines) => drain left (index + 1) { state with infoLines := state.infoLines ++ lines }
    | some (.logError lines) => drain left (index + 1) { state with errorLines := state.errorLines ++ lines }
    | some (.exit reason) => .error ("send_action: session exited during action: " ++ reason)
    | some .other => drain left (index + 1) state

/-- `handshake` is everything up to the sent action. -/
def sendAction (handshake : Except String Unit) : Except String ActionAck :=
  match handshake with
  | .error message => .error message
  | .ok _ => drain receive drainLimit 0 { skippedAttachUnblock := false, infoLines := [], errorLines := [] }

end Loop

section Stream

variable (receive : Nat -> Option ServerToClientMsg)

def before (index : Nat) : List ServerToClientMsg :=
  (List.range index).filterMap receive

def ServerToClientMsg.isExit : ServerToClientMsg -> Bool
  | .exit _ => true
  | _ => false

structure TerminatesAt (index : Nat) : Prop where
  terminator : receive index = some .unblockInputThread
  second : (before receive index).count .unblockInputThread = 1
  unbroken : ∀ earlier < index, ∃ msg, receive earlier = some msg ∧ msg.isExit = false

def logLines (messages : List ServerToClientMsg) : List String :=
  messages.flatMap fun msg => match msg with
    | .log lines => lines
    | _ => []

def logErrorLines (messages : List ServerToClientMsg) : List String :=
  messages.flatMap fun msg => match msg with
    | .logError lines => lines
    | _ => []

def ackOf (messages : List ServerToClientMsg) : ActionAck :=
  { ok := (joined (logErrorLines messages)).isNone, error := joined (logErrorLines messages)
    info := joined (logLines messages) }

def ServerToClientMsg.isLogError : ServerToClientMsg -> Bool
  | .logError _ => true
  | _ => false

structure Gathered (index : Nat) (state : Draining) : Prop where
  skipped : (before receive index).count .unblockInputThread = if state.skippedAttachUnblock then 1 else 0
  info : state.infoLines = logLines (before receive index)
  errors : state.errorLines = logErrorLines (before receive index)
  unbroken : ∀ earlier < index, ∃ msg, receive earlier = some msg ∧ msg.isExit = false

variable {receive} {index later : Nat} {state : Draining} {msg : ServerToClientMsg}

theorem before_succ (here : receive index = some msg) : before receive (index + 1) = before receive index ++ [msg] := by
  simp [before, List.range_succ, List.filterMap_append, here]

theorem before_grows (within : index ≤ later) : before receive index <+: before receive later := by
  induction later, within using Nat.le_induction with
  | base => exact List.prefix_refl _
  | succ later _ ih =>
    refine ih.trans ?_
    rw [before, before, List.range_succ, List.filterMap_append]
    exact List.prefix_append _ _

theorem unbroken_succ (unbroken : ∀ earlier < index, ∃ msg, receive earlier = some msg ∧ msg.isExit = false)
    (here : receive index = some msg) (goesOn : msg.isExit = false) :
    ∀ earlier < index + 1, ∃ msg, receive earlier = some msg ∧ msg.isExit = false := by
  intro earlier within
  rcases Nat.lt_succ_iff_lt_or_eq.mp within with old | rfl
  · exact unbroken earlier old
  · exact ⟨msg, here, goesOn⟩

theorem Gathered.ack (gathered : Gathered receive index state) : state.ack = ackOf (before receive index) := by
  rw [Draining.ack, gathered.info, gathered.errors]
  rfl

theorem Gathered.next {infoLines errorLines : List String} (gathered : Gathered receive index state)
    (here : receive index = some msg) (goesOn : msg.isExit = false) (passing : msg ≠ .unblockInputThread)
    (info : infoLines = state.infoLines ++ logLines [msg])
    (errors : errorLines = state.errorLines ++ logErrorLines [msg]) :
    Gathered receive (index + 1) { state with infoLines, errorLines } := by
  refine { skipped := ?_, info := ?_, errors := ?_, unbroken := unbroken_succ gathered.unbroken here goesOn }
  · have passes : List.count .unblockInputThread [msg] = 0 := by simp [passing]
    rw [before_succ here, List.count_append, gathered.skipped, passes]
    rfl
  · rw [before_succ here, info, gathered.info, logLines, logLines, logLines, List.flatMap_append]
  · rw [before_succ here, errors, gathered.errors, logErrorLines, logErrorLines, logErrorLines, List.flatMap_append]

theorem Gathered.armed (gathered : Gathered receive index state)
    (here : receive index = some .unblockInputThread) (first : state.skippedAttachUnblock = false) :
    Gathered receive (index + 1) { state with skippedAttachUnblock := true } := by
  refine { skipped := ?_, info := ?_, errors := ?_, unbroken := unbroken_succ gathered.unbroken here rfl }
  · rw [before_succ here, List.count_append, gathered.skipped, first]
    simp
  · rw [before_succ here, gathered.info, logLines, logLines, List.flatMap_append]
    simp
  · rw [before_succ here, gathered.errors, logErrorLines, logErrorLines, List.flatMap_append]
    simp

theorem not_terminatesAt_later (seen : (before receive index).count .unblockInputThread = 1)
    (here : receive index = some .unblockInputThread) (beyond : index < later) : ¬ TerminatesAt receive later := by
  intro ends
  have grows : before receive (index + 1) <+: before receive later := before_grows beyond
  have more := grows.sublist.count_le .unblockInputThread
  rw [before_succ here, List.count_append, seen, ends.second] at more
  simp at more

theorem TerminatesAt.unique (left : TerminatesAt receive index) (right : TerminatesAt receive later) : index = later := by
  rcases Nat.lt_trichotomy index later with below | same | above
  · exact absurd right (not_terminatesAt_later left.second left.terminator below)
  · exact same
  · exact absurd left (not_terminatesAt_later right.second right.terminator above)

theorem TerminatesAt.goes_on (ends : TerminatesAt receive later) (onward : index ≤ later) :
    ∃ msg, receive index = some msg ∧ msg.isExit = false := by
  rcases Nat.lt_or_eq_of_le onward with earlier | rfl
  · exact ends.unbroken index earlier
  · exact ⟨_, ends.terminator, rfl⟩

theorem drain_ok {left : Nat} {ack : ActionAck} (gathered : Gathered receive index state) :
    drain receive left index state = .ok ack ↔
      ∃ ends, index ≤ ends ∧ ends < index + left ∧ TerminatesAt receive ends ∧ ack = ackOf (before receive ends) := by
  induction left generalizing index state with
  | zero =>
    constructor
    · intro impossible
      cases impossible
    · rintro ⟨ends, onward, within, _⟩
      omega
  | succ left ih =>
    -- A read that goes on leaves the question to the reads after it.
    have later {next : Draining} (gathered : Gathered receive (index + 1) next) (continues : ¬ TerminatesAt receive index) :
        drain receive left (index + 1) next = .ok ack ↔ ∃ ends, index ≤ ends ∧ ends < index + (left + 1) ∧
          TerminatesAt receive ends ∧ ack = ackOf (before receive ends) := by
      rw [ih gathered]
      constructor
      · rintro ⟨ends, onward, within, terminates, same⟩
        exact ⟨ends, by omega, by omega, terminates, same⟩
      · rintro ⟨ends, onward, within, terminates, same⟩
        rcases Nat.lt_or_eq_of_le onward with beyond | rfl
        · exact ⟨ends, beyond, by omega, terminates, same⟩
        · exact absurd terminates continues
    have passing {msg : ServerToClientMsg} (here : receive index = some msg) (other : msg ≠ .unblockInputThread) :
        ¬ TerminatesAt receive index := by
      intro terminates
      exact other (Option.some.inj (here.symm.trans terminates.terminator))
    have stopped (stop : ∀ msg, receive index = some msg -> msg.isExit = true) :
        ¬ ∃ ends, index ≤ ends ∧ ends < index + (left + 1) ∧ TerminatesAt receive ends ∧
          ack = ackOf (before receive ends) := by
      rintro ⟨ends, onward, _, terminates, _⟩
      obtain ⟨msg, here, goesOn⟩ := terminates.goes_on onward
      rw [stop msg here] at goesOn
      cases goesOn
    rw [drain]
    cases here : receive index with
    | none => exact iff_of_false nofun (stopped (by simp [here]))
    | some msg =>
      cases msg with
      | exit reason => exact iff_of_false nofun (stopped (by simp [here, ServerToClientMsg.isExit]))
      | log lines =>
        apply later (gathered.next here rfl nofun ?_ ?_) (passing here nofun)
        · simp [logLines]
        · simp [logErrorLines]
      | logError lines =>
        apply later (gathered.next here rfl nofun ?_ ?_) (passing here nofun)
        · simp [logLines]
        · simp [logErrorLines]
      | other =>
        apply later (gathered.next here rfl nofun ?_ ?_) (passing here nofun)
        · simp [logLines]
        · simp [logErrorLines]
      | unblockInputThread =>
        dsimp only
        cases second : state.skippedAttachUnblock with
        | false =>
          apply later (gathered.armed here second)
          intro terminates
          have skipped := gathered.skipped
          rw [second, terminates.second] at skipped
          simp at skipped
        | true =>
          have terminates : TerminatesAt receive index :=
            { terminator := here, second := by simpa [second] using gathered.skipped, unbroken := gathered.unbroken }
          rw [if_pos rfl, gathered.ack]
          constructor
          · intro answered
            exact ⟨index, Nat.le_refl _, by omega, terminates, (Except.ok.inj answered).symm⟩
          · rintro ⟨ends, onward, _, alsoEnds, rfl⟩
            rw [terminates.unique alsoEnds]

end Stream

section Acknowledged

variable (receive : Nat -> Option ServerToClientMsg)

structure Acknowledges (result : Except String ActionAck) : Prop where
  answered : (∃ ack, result = .ok ack) ↔ ∃ ends < drainLimit, TerminatesAt receive ends
  ok : ∀ ends < drainLimit, TerminatesAt receive ends -> ∀ ack, result = .ok ack ->
    (ack.ok = true ↔ ∀ msg ∈ before receive ends, msg.isLogError = false)
  info : ∀ ends < drainLimit, TerminatesAt receive ends -> ∀ ack, result = .ok ack ->
    ack.info = joined (logLines (before receive ends))
  error : ∀ ends < drainLimit, TerminatesAt receive ends -> ∀ ack, result = .ok ack ->
    ack.error = joined (logErrorLines (before receive ends))

def ErrorsHaveLines : Prop :=
  ∀ ends < drainLimit, TerminatesAt receive ends ->
    (∃ msg ∈ before receive ends, msg.isLogError = true) ->
      ∃ lines, ServerToClientMsg.logError lines ∈ before receive ends ∧ lines ≠ []

variable {receive}

theorem sendAction_ok {ack : ActionAck} :
    sendAction receive (.ok ()) = .ok ack ↔
      ∃ ends < drainLimit, TerminatesAt receive ends ∧ ack = ackOf (before receive ends) := by
  have start : Gathered receive 0 { skippedAttachUnblock := false, infoLines := [], errorLines := [] } := by
    constructor <;> simp [before, logLines, logErrorLines]
  rw [sendAction, drain_ok start]
  simp

theorem ackOf_ok (messages : List ServerToClientMsg) :
    (ackOf messages).ok = true ↔ ∀ lines, ServerToClientMsg.logError lines ∈ messages -> lines = [] := by
  have silent : (ackOf messages).ok = true ↔ logErrorLines messages = [] := by
    unfold ackOf joined
    split_ifs with quiet <;> simp [quiet]
  rw [silent, logErrorLines, List.flatMap_eq_nil_iff]
  constructor
  · intro quiet lines member
    exact quiet _ member
  · intro quiet msg member
    cases msg with
    | logError lines => exact quiet lines member
    | _ => rfl

end Acknowledged

/-- An action is acknowledged as it went, exactly when a failed one says so in a line. -/
theorem action_acknowledged_iff (receive : Nat -> Option ServerToClientMsg) :
    Acknowledges receive (sendAction receive (.ok ())) ↔ ErrorsHaveLines receive := by
  have ackAt {ends : Nat} (within : ends < drainLimit) (terminates : TerminatesAt receive ends) {ack : ActionAck}
      (answered : sendAction receive (.ok ()) = .ok ack) : ack = ackOf (before receive ends) := by
    obtain ⟨other, _, also, rfl⟩ := sendAction_ok.mp answered
    rw [terminates.unique also]
  constructor
  · intro acknowledges ends within terminates failed
    have ok := acknowledges.ok ends within terminates _ (sendAction_ok.mpr ⟨ends, within, terminates, rfl⟩)
    rw [ackOf_ok] at ok
    by_contra silent
    push Not at silent
    obtain ⟨msg, member, reports⟩ := failed
    rw [ok.mp silent msg member] at reports
    cases reports
  · intro haveLines
    refine { answered := ?_, ok := ?_, info := ?_, error := ?_ }
    · constructor
      · rintro ⟨ack, answered⟩
        obtain ⟨ends, within, terminates, _⟩ := sendAction_ok.mp answered
        exact ⟨ends, within, terminates⟩
      · rintro ⟨ends, within, terminates⟩
        exact ⟨_, sendAction_ok.mpr ⟨ends, within, terminates, rfl⟩⟩
    · intro ends within terminates ack answered
      rw [ackAt within terminates answered, ackOf_ok]
      constructor
      · intro silent msg member
        rw [Bool.eq_false_iff]
        intro reports
        obtain ⟨lines, said, spoken⟩ := haveLines ends within terminates ⟨msg, member, reports⟩
        exact spoken (silent lines said)
      · intro clean lines member
        cases clean _ member
    · intro ends within terminates ack answered
      rw [ackAt within terminates answered]
      rfl
    · intro ends within terminates ack answered
      rw [ackAt within terminates answered]
      rfl

section SilentError

-- zellij reports an error without a line of text.
def silentError : Nat -> Option ServerToClientMsg
  | 0 => some .unblockInputThread
  | 1 => some (.logError [])
  | 2 => some .unblockInputThread
  | _ => none

theorem silent_error_is_acknowledged_ok :
    sendAction silentError (.ok ()) = .ok { ok := true, error := none, info := none } ∧
      ¬ Acknowledges silentError (sendAction silentError (.ok ())) := by
  refine ⟨rfl, fun acknowledges => ?_⟩
  have terminates : TerminatesAt silentError 2 := by
    refine { terminator := rfl, second := by decide, unbroken := ?_ }
    intro earlier within
    rcases Nat.lt_succ_iff_lt_or_eq.mp within with first | rfl
    · obtain rfl : earlier = 0 := by omega
      exact ⟨_, rfl, rfl⟩
    · exact ⟨_, rfl, rfl⟩
  have clean := (acknowledges.ok 2 (by decide) terminates _ rfl).mp rfl
  have reported := clean (.logError []) (by decide)
  cases reported

end SilentError

end Muxrd.Actions
