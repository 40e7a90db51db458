import Mathlib.Data.List.Chain
import Muxrd.Multiplexer.ZellijSender
import Muxrd.Relay.Nudge
import Muxrd.Relay.ReadOnly

set_option autoImplicit false

namespace Muxrd.Uplink

open Inbound Attach ReadOnly ZellijSender

abbrev ZellijRelay := Relay Unit (List ClientToServerMsg)

section Made

structure Made where
  cause : Cause
  muxCall : MuxCall
  lasts : Nat

-- The whole of its script, unless a send fails.
def Made.said (made : Made) : List ClientToServerMsg :=
  match (zellijMuxSender.call made.lasts made.muxCall () []).1 with
  | .ok _ => script made.muxCall
  | .error _ => (script made.muxCall).take made.lasts

def goodbye (relay : ZellijRelay) : MuxCall :=
  if relay.readOnly then .sendClientExited else .sendResize relay.rows relay.cols

def makes (relay : ZellijRelay) : Event Nat -> Option Made
  | .command ticket cmd query lasts =>
    match relay.readOnly, asks query cmd, cmd with
    | false, some muxCall, _ => some { cause := .command ticket, muxCall, lasts }
    | _, _, .queryLayout _ =>
      if relay.renderThreadAlive then some { cause := .command ticket, muxCall := .queryLayout, lasts } else none
    | _, _, _ => none
  | .frame frame lasts => (frameCall relay.readOnly frame).map fun muxCall => { cause := .frame, muxCall, lasts }
  | .cancelled lasts | .dropGuard lasts => some { cause := .teardown, muxCall := goodbye relay, lasts }
  | .layoutTask _ lasts => some { cause := .layoutTask, muxCall := .queryLayoutResult, lasts }
  | _ => none

def makings (relay : ZellijRelay) (events : List (Event Nat)) : List Made :=
  Transition.outputs (step zellijMuxSender) (fun relay event => (makes relay event).toList) relay events

theorem Made.said_eq (made : Made) : made.said = (script made.muxCall).take made.lasts := by
  rw [Made.said]
  cases answered : (zellijMuxSender.call made.lasts made.muxCall () []).1 with
  | ok value => exact (List.take_of_length_le (call_done answered).2).symm
  | error failure => rfl

theorem Made.mem_script {made : Made} {msg : ClientToServerMsg} (member : msg ∈ made.said) :
    msg ∈ script made.muxCall := by
  rw [made.said_eq] at member
  exact List.mem_of_mem_take member

structure Tells (relay next : ZellijRelay) (made : Option Made) : Prop where
  calls : next.calls = relay.calls ++ made.toList.map fun made => (made.cause, made.muxCall)
  world : next.world = relay.world ++ made.toList.flatMap Made.said

variable {relay next : ZellijRelay} {event : Event Nat}

theorem Tells.nothing (calls : next.calls = relay.calls) (world : next.world = relay.world) : Tells relay next none :=
  { calls := by simp [calls], world := by simp [world] }

theorem Tells.call {cause : Cause} {muxCall : MuxCall} {lasts : Nat} {result : Except String Unit}
    {after : ZellijRelay} (called : relay.call zellijMuxSender cause lasts muxCall = (result, after)) :
    Tells relay after (some { cause, muxCall, lasts }) := by
  obtain ⟨answered, _, _, _, calls⟩ := Relay.call_eq relay called
  constructor
  · simpa using calls
  · have received := call_received lasts muxCall relay.world
    rw [answered] at received
    simpa [Made.said_eq] using received

theorem Tells.updateView {made : Option Made} (tells : Tells relay next made)
    (update : RelayViewState -> RelayViewState) : Tells relay (next.updateView update) made :=
  { calls := by rw [updateView_calls, tells.calls], world := by rw [Relay.updateView_world, tells.world] }

theorem onControl_tells (ticket : Ticket) (cmd : RelayControl) (query : FloatQuery) (lasts : Nat) :
    Tells relay (onControl zellijMuxSender ticket cmd query lasts relay)
      (makes relay (.command ticket cmd query lasts)) := by
  cases cmd with
  | queryLayout reply =>
    have queries : makes relay (.command ticket (.queryLayout reply) query lasts) =
        if relay.renderThreadAlive then some { cause := .command ticket, muxCall := .queryLayout, lasts }
        else none := by
      cases gate : relay.readOnly <;> simp [makes, gate, asks]
    have inBand : zellijMuxSender.hasSyncLayout = false := rfl
    rw [queries]
    cases alive : relay.renderThreadAlive with
    | false =>
      simp only [onControl, handleQueryLayout, inBand, alive, Bool.false_eq_true, if_false]
      exact Tells.nothing rfl rfl
    | true =>
      simp only [onControl, handleQueryLayout, inBand, alive, Bool.false_eq_true, if_false, if_true]
      constructor
      · rfl
      · simpa [Made.said_eq] using call_received lasts .queryLayout relay.world
  | switchTab tabId =>
    cases gate : relay.readOnly with
    | true => simpa [onControl, onSwitchTab, makes, gate] using Tells.nothing rfl rfl
    | false =>
      simp only [onControl, onSwitchTab, makes, asks, gate, Bool.false_eq_true, if_false]
      split
      next failed => exact Tells.call failed
      next done => exact (Tells.call done).updateView _
  | focusPane pane =>
    cases gate : relay.readOnly with
    | true => simpa [onControl, onFocusPane, makes, gate] using Tells.nothing rfl rfl
    | false =>
      simp only [onControl, onFocusPane, makes, asks, gate, Bool.false_eq_true, if_false]
      split
      next failed => exact Tells.call failed
      next done => exact (Tells.call done).updateView _
  | switchSpace workspaceId reply =>
    cases gate : relay.readOnly with
    | true =>
      simp only [onControl, onSwitchSpace, makes, gate, if_true]
      exact Tells.nothing rfl rfl
    | false =>
      simp only [onControl, onSwitchSpace, makes, asks, gate, Bool.false_eq_true, if_false]
      split
      next failed => exact { Tells.call failed with }
      next done => exact { (Tells.call done).updateView _ with }
  | toggleFullscreen pane hint =>
    cases gate : relay.readOnly with
    | true => simpa [onControl, onToggleFullscreen, makes, gate] using Tells.nothing rfl rfl
    | false =>
      simp only [onControl, onToggleFullscreen, makes, asks, gate, Bool.false_eq_true, if_false]
      cases resolveHint pane hint query with
      | none => exact Tells.nothing rfl rfl
      | some resolved =>
        simp only [Option.map_some]
        split
        next failed => exact Tells.call failed
        next done => exact (Tells.call done).updateView _

theorem onFrame_tells (frame : ClientFrame) (lasts : Nat) :
    Tells relay (onFrame zellijMuxSender lasts frame relay) (makes relay (.frame frame lasts)) := by
  rw [onFrame_eq, makes]
  cases frameCall relay.readOnly frame with
  | none => exact Tells.nothing rfl rfl
  | some muxCall => exact Tells.call rfl

theorem step_tells (taken : step zellijMuxSender relay event = some next) : Tells relay next (makes relay event) := by
  cases event with
  | command ticket cmd query lasts =>
    simp only [step] at taken
    split_ifs at taken
    rw [← Option.some.inj taken]
    exact onControl_tells ticket cmd query lasts
  | frame frame lasts =>
    simp only [step] at taken
    split_ifs at taken
    rw [← Option.some.inj taken]
    exact onFrame_tells frame lasts
  | cancelled lasts | dropGuard lasts =>
    simp only [step] at taken
    split_ifs at taken
    rw [← Option.some.inj taken]
    constructor
    · simp [makes, dropGuard, goodbye]
    · simpa [makes, Made.said_eq, dropGuard, goodbye] using call_received lasts (goodbye relay) relay.world
  | layoutTask index lasts =>
    simp only [step] at taken
    split at taken
    · rw [← Option.some.inj taken]
      constructor
      · simp [makes, runLayoutTask, Relay.answerReply]
      · simp [makes, Made.said_eq, script, runLayoutTask, Relay.answerReply, zellijMuxSender]
    · contradiction
  | recheck valid =>
    simp only [step] at taken
    split_ifs at taken <;> rw [← Option.some.inj taken] <;> exact Tells.nothing rfl rfl
  | initialised | streamError | streamEnd | deregister | sibling =>
    simp only [step] at taken
    split_ifs at taken
    rw [← Option.some.inj taken]
    exact Tells.nothing rfl rfl
  | renderThreadEnds | elsewhere =>
    rw [← Option.some.inj taken]
    exact Tells.nothing rfl rfl

end Made

section Wire

def AsItself : ClientToServerMsg -> Prop
  | .action _ terminalId clientId isCliClient => terminalId = none ∧ clientId = none ∧ isCliClient = false
  | _ => True

def Pairs (previous next : ClientToServerMsg) : Prop :=
  next = asSelf ZellijMuxSender.listPanes -> previous = asSelf ZellijMuxSender.listTabs

def Observing (msg : ClientToServerMsg) : Prop :=
  msg = asSelf ZellijMuxSender.listTabs ∨ msg = asSelf ZellijMuxSender.listPanes ∨ msg = .clientExited

/-- What the session has heard of a relay that has made these calls. -/
structure Heard (hello : ClientToServerMsg) (made : List Made) (relay : ZellijRelay) : Prop where
  calls : relay.calls = made.map fun made => (made.cause, made.muxCall)
  told : relay.world = hello :: made.flatMap Made.said
  asItself : ∀ msg ∈ relay.world, AsItself msg
  paired : relay.world.IsChain Pairs
  observes : relay.readOnly = true -> ∀ msg ∈ relay.world, msg = hello ∨ Observing msg
  closes : relay.phase = .closed ->
    ∃ lasts, { cause := .teardown, muxCall := goodbye relay, lasts } ∈ made
  leaves : .clientExited ∈ relay.world -> relay.readOnly = true ∧ relay.phase = .closed ∧
    ∃ earlier, relay.world = earlier ++ [.clientExited] ∧ .clientExited ∉ earlier

variable {relay next : ZellijRelay} {event : Event Nat} {made : Made}

theorem script_asItself {muxCall : MuxCall} {msg : ClientToServerMsg} (member : msg ∈ script muxCall) :
    AsItself msg := by
  cases muxCall with
  | toggleFullscreen pane hint =>
    simp only [script] at member
    split_ifs at member
    all_goals
      simp only [List.mem_cons, List.not_mem_nil, or_false] at member
      rcases member with rfl | rfl | rfl <;> exact ⟨rfl, rfl, rfl⟩
  | queryLayout =>
    simp only [script, List.mem_cons, List.not_mem_nil, or_false] at member
    rcases member with rfl | rfl <;> exact ⟨rfl, rfl, rfl⟩
  | goToTab | focusPane | sendInputChars | sendInputBytes =>
    obtain rfl := List.mem_singleton.mp member
    exact ⟨rfl, rfl, rfl⟩
  | sendResize | sendClientExited =>
    obtain rfl := List.mem_singleton.mp member
    trivial
  | switchSpace | queryLayoutResult => cases member

theorem script_paired (muxCall : MuxCall) :
    (script muxCall).IsChain Pairs ∧ ∀ msg ∈ (script muxCall).head?, msg ≠ asSelf ZellijMuxSender.listPanes := by
  cases muxCall with
  | toggleFullscreen pane hint =>
    simp only [script]
    split_ifs <;> simp [Pairs, asSelf, ZellijMuxSender.listPanes]
  | _ => simp [script, Pairs, asSelf, ZellijMuxSender.listPanes, ZellijMuxSender.listTabs]

theorem said_paired (made : Made) :
    made.said.IsChain Pairs ∧ ∀ msg ∈ made.said.head?, msg ≠ asSelf ZellijMuxSender.listPanes := by
  obtain ⟨chain, first⟩ := script_paired made.muxCall
  rw [made.said_eq]
  refine ⟨chain.take _, fun msg member => first msg ?_⟩
  rw [List.head?_take] at member
  split_ifs at member
  · cases member
  · exact member

theorem mem_script_clientExited {muxCall : MuxCall} (member : .clientExited ∈ script muxCall) :
    muxCall = .sendClientExited := by
  cases muxCall with
  | sendClientExited => rfl
  | toggleFullscreen pane hint =>
    simp only [script] at member
    split_ifs at member <;> simp [asSelf] at member
  | _ => simp [script, asSelf] at member

theorem asks_stays {query : FloatQuery} {cmd : RelayControl} {muxCall : MuxCall}
    (asked : asks query cmd = some muxCall) :
    muxCall ≠ .sendClientExited := by
  rintro rfl
  cases cmd <;> simp [asks] at asked

theorem frameCall_stays {readOnly : Bool} {frame : ClientFrame} {muxCall : MuxCall}
    (forwarded : frameCall readOnly frame = some muxCall) : muxCall ≠ .sendClientExited := by
  rintro rfl
  cases frame with
  | input bytes =>
    simp only [frameCall] at forwarded
    split_ifs at forwarded
    split at forwarded <;> cases forwarded
  | _ => simp [frameCall] at forwarded

theorem makes_command {ticket : Ticket} {cmd : RelayControl} {query : FloatQuery} {lasts : Nat}
    (calls : made ∈ makes relay (.command ticket cmd query lasts)) :
    made.muxCall = .queryLayout ∨ (relay.readOnly = false ∧ asks query cmd = some made.muxCall) := by
  simp only [makes] at calls
  split at calls
  next gate asked =>
    obtain rfl := Option.mem_some.mp calls
    exact .inr ⟨gate, asked⟩
  next =>
    split_ifs at calls
    · obtain rfl := Option.mem_some.mp calls
      exact .inl rfl
    · cases calls
  next => cases calls

theorem frameCall_readOnly (frame : ClientFrame) : frameCall true frame = none := by
  cases frame <;> rfl

theorem makes_observes (readOnly : relay.readOnly = true) (calls : made ∈ makes relay event)
    {msg : ClientToServerMsg} (member : msg ∈ made.said) : Observing msg := by
  have said := Made.mem_script member
  have queries (query : made.muxCall = .queryLayout) : Observing msg := by
    simp only [query, script, List.mem_cons, List.not_mem_nil, or_false] at said
    rcases said with rfl | rfl
    · exact .inl rfl
    · exact .inr (.inl rfl)
  cases event with
  | command ticket cmd query lasts =>
    rcases makes_command calls with query | ⟨writable, _⟩
    · exact queries query
    · rw [readOnly] at writable
      cases writable
  | frame frame lasts => simp [makes, readOnly, frameCall_readOnly] at calls
  | cancelled lasts | dropGuard lasts =>
    obtain rfl := Option.mem_some.mp calls
    simp only [goodbye, readOnly, if_true, script, List.mem_singleton] at said
    exact .inr (.inr said)
  | layoutTask index lasts =>
    obtain rfl := Option.mem_some.mp calls
    cases said
  | _ => cases calls

theorem makes_stays (taken : step zellijMuxSender relay event = some next) (stays : Nudge.isTeardown event = false)
    (calls : made ∈ makes relay event) :
    .clientExited ∉ made.said ∧ (relay.phase ≠ .running -> made.said = []) := by
  have quiet (other : made.muxCall ≠ .sendClientExited) : .clientExited ∉ made.said :=
    fun member => other (mem_script_clientExited (Made.mem_script member))
  cases event with
  | command ticket cmd query lasts =>
    simp only [step] at taken
    split_ifs at taken with running
    refine ⟨quiet ?_, by simp [running]⟩
    rcases makes_command calls with query | ⟨_, asked⟩
    · simp [query]
    · exact asks_stays asked
  | frame frame lasts =>
    simp only [step] at taken
    split_ifs at taken with running
    obtain ⟨muxCall, forwarded, rfl⟩ := Option.map_eq_some_iff.mp calls
    exact ⟨quiet (frameCall_stays forwarded), by simp [running]⟩
  | layoutTask index lasts =>
    obtain rfl := Option.mem_some.mp calls
    exact ⟨quiet (by simp), fun _ => by simp [Made.said_eq, script]⟩
  | cancelled lasts | dropGuard lasts => cases stays
  | _ => cases calls

section Adds

variable {hello : ClientToServerMsg} {earlier : List Made}

theorem Heard.paired_step (heard : Heard hello earlier relay) (tells : Tells relay next (makes relay event)) :
    next.world.IsChain Pairs := by
  rw [tells.world]
  cases makes relay event with
  | none => simpa using heard.paired
  | some made =>
    obtain ⟨chain, first⟩ := said_paired made
    simp only [Option.toList_some, List.flatMap_singleton]
    refine List.isChain_append.mpr ⟨heard.paired, chain, ?_⟩
    exact fun _ _ msg member panes => absurd panes (first msg member)

theorem Heard.observes_step (heard : Heard hello earlier relay) (tells : Tells relay next (makes relay event))
    (observer : relay.readOnly = true) {msg : ClientToServerMsg} (member : msg ∈ next.world) :
    msg = hello ∨ Observing msg := by
  rw [tells.world, List.mem_append, List.mem_flatMap] at member
  rcases member with old | ⟨made, calls, said⟩
  · exact heard.observes observer msg old
  · exact .inr (makes_observes observer (Option.mem_toList.mp calls) said)

theorem makes_teardown (relay : ZellijRelay) (teardown : Nudge.isTeardown event = true) :
    ∃ lasts, makes relay event = some { cause := .teardown, muxCall := goodbye relay, lasts } := by
  cases event <;> first | exact ⟨_, rfl⟩ | cases teardown

theorem Heard.leaves_step (heard : Heard hello earlier relay) (taken : step zellijMuxSender relay event = some next)
    (left : .clientExited ∈ next.world) : relay.readOnly = true ∧ next.phase = .closed ∧
      ∃ before, next.world = before ++ [.clientExited] ∧ .clientExited ∉ before := by
  have world := (step_tells taken).world
  have closes := Nudge.step_closes taken
  rw [world, List.mem_append] at left
  cases teardown : Nudge.isTeardown event with
  | true =>
    simp only [teardown, if_true] at closes
    have staying : .clientExited ∉ relay.world := fun member => closes.1 (heard.leaves member).2.1
    obtain ⟨lasts, made⟩ := makes_teardown relay teardown
    simp only [made, Option.toList_some, List.flatMap_singleton, Made.said_eq] at left world
    have said := left.resolve_left staying
    have leaving := mem_script_clientExited (List.mem_of_mem_take said)
    have observer : relay.readOnly = true := by
      cases gate : relay.readOnly with
      | true => rfl
      | false => simp [goodbye, gate] at leaving
    refine ⟨observer, closes.2, relay.world, ?_, staying⟩
    rw [leaving] at said world
    cases lasts with
    | zero => cases said
    | succ lasts => simpa [script] using world
  | false =>
    simp only [teardown, Bool.false_eq_true, if_false] at closes
    have stays : .clientExited ∉ (makes relay event).toList.flatMap Made.said := by
      simp only [List.mem_flatMap, not_exists, not_and]
      exact fun made calls => (makes_stays taken teardown (Option.mem_toList.mp calls)).1
    obtain ⟨observer, closed, ended⟩ := heard.leaves (left.resolve_right stays)
    have silent : (makes relay event).toList.flatMap Made.said = [] := by
      rw [List.flatMap_eq_nil_iff]
      exact fun made calls => (makes_stays taken teardown (Option.mem_toList.mp calls)).2 (by simp [closed])
    refine ⟨observer, closes.mpr closed, ?_⟩
    rwa [world, silent, List.append_nil]

theorem Heard.closes_step (heard : Heard hello earlier relay) (taken : step zellijMuxSender relay event = some next)
    (closed : next.phase = .closed) :
    ∃ lasts, { cause := .teardown, muxCall := goodbye relay, lasts } ∈ earlier ++ (makes relay event).toList := by
  have closes := Nudge.step_closes taken
  cases teardown : Nudge.isTeardown event with
  | true =>
    obtain ⟨lasts, made⟩ := makes_teardown relay teardown
    exact ⟨lasts, by simp [made]⟩
  | false =>
    simp only [teardown, Bool.false_eq_true, if_false] at closes
    obtain ⟨lasts, made⟩ := heard.closes (closes.mp closed)
    exact ⟨lasts, List.mem_append_left _ made⟩

end Adds

theorem heard_step {hello : ClientToServerMsg} (earlier : List Made) (relay : ZellijRelay) (event : Event Nat)
    (next : ZellijRelay) (heard : Heard hello earlier relay) (taken : step zellijMuxSender relay event = some next) :
    Heard hello (earlier ++ (makes relay event).toList) next := by
  have tells := step_tells taken
  have task := step_task taken
  have readOnly : next.readOnly = relay.readOnly := congrArg Task.readOnly task
  constructor
  · rw [tells.calls, heard.calls, List.map_append]
  · rw [tells.world, heard.told, List.flatMap_append, List.cons_append]
  · intro msg member
    rw [tells.world, List.mem_append, List.mem_flatMap] at member
    rcases member with old | ⟨made, _, said⟩
    · exact heard.asItself msg old
    · exact script_asItself (Made.mem_script said)
  · exact heard.paired_step tells
  · rw [readOnly]
    exact fun observer _ => heard.observes_step tells observer
  · have same : goodbye next = goodbye relay :=
      congrArg (fun task : Task => if task.readOnly then MuxCall.sendClientExited
        else .sendResize task.rows task.cols) task
    rw [same]
    exact heard.closes_step taken
  · rw [readOnly]
    exact heard.leaves_step taken

theorem heard_run {hello : ClientToServerMsg} {final : ZellijRelay} {events : List (Event Nat)}
    (heard : Heard hello [] relay) (ran : Transition.run (step zellijMuxSender) relay events = some final) :
    Heard hello (makings relay events) final := by
  simpa [makings] using Transition.invariant_of_outputs heard_step heard ran

theorem Heard.left {hello : ClientToServerMsg} {made : List Made} (heard : Heard hello made relay)
    (observer : relay.readOnly = true) (closed : relay.phase = .closed) :
    ∃ lasts, { cause := .teardown, muxCall := .sendClientExited, lasts } ∈ made ∧
      (0 < lasts -> ∃ earlier, relay.world = earlier ++ [.clientExited]) := by
  obtain ⟨lasts, member⟩ := heard.closes closed
  rw [goodbye, if_pos observer] at member
  refine ⟨lasts, member, fun takes => ?_⟩
  have said : .clientExited ∈ relay.world := by
    rw [heard.told]
    refine List.mem_cons_of_mem hello (List.mem_flatMap.mpr ⟨_, member, ?_⟩)
    rw [Made.said_eq, script, List.take_of_length_le takes]
    exact List.mem_singleton_self _
  obtain ⟨_, _, earlier, ended, _⟩ := heard.leaves said
  exact ⟨earlier, ended⟩

end Wire

section Input

def keystrokes : ClientToServerMsg -> List UInt8
  | .action (.writeChars chars) _ _ _ => RustStd.asBytes chars
  | .action (.write _ bytes _) _ _ _ => bytes
  | _ => []

def typedIn (readOnly : Bool) : Event Nat -> List UInt8
  | .frame (.input bytes) lasts =>
    if readOnly ∨ bytes.length > maxInputFrameBytes ∨ lasts = 0 then [] else bytes
  | _ => []

variable {relay next : ZellijRelay} {event : Event Nat}

theorem said_keystrokes (made : Made) :
    made.said.flatMap keystrokes = if made.lasts = 0 then [] else typed made.muxCall := by
  obtain ⟨cause, muxCall, lasts⟩ := made
  rw [Made.said_eq]
  cases lasts with
  | zero => simp
  | succ lasts =>
    have nothing (quiet : ∀ msg ∈ script muxCall, keystrokes msg = []) :
        ((script muxCall).take (lasts + 1)).flatMap keystrokes = [] :=
      List.flatMap_eq_nil_iff.mpr fun msg member => quiet msg (List.mem_of_mem_take member)
    cases muxCall with
    | toggleFullscreen pane hint =>
      refine nothing fun msg member => ?_
      simp only [script] at member
      split_ifs at member
      all_goals
        simp only [List.mem_cons, List.not_mem_nil, or_false] at member
        rcases member with rfl | rfl | rfl <;> rfl
    | queryLayout =>
      refine nothing fun msg member => ?_
      simp only [script, List.mem_cons, List.not_mem_nil, or_false] at member
      rcases member with rfl | rfl <;> rfl
    | _ => simp [script, keystrokes, asSelf, typed]

theorem makes_keystrokes (relay : ZellijRelay) (event : Event Nat) :
    (makes relay event).toList.flatMap (fun made => made.said.flatMap keystrokes) = typedIn relay.readOnly event := by
  cases event with
  | frame frame lasts =>
    cases gate : relay.readOnly with
    | true => cases frame <;> simp [makes, gate, frameCall_readOnly, typedIn]
    | false =>
      cases frame with
      | input bytes =>
        have handed := typed_frameCall bytes
        simp only [makes, gate]
        cases forwarded : frameCall false (.input bytes) with
        | none =>
          rw [forwarded] at handed
          simp only [Option.map_none, Option.toList_none, List.flatMap_nil] at handed ⊢
          simp only [typedIn, Bool.false_eq_true, false_or]
          split_ifs at handed ⊢ <;> first | rfl | omega
        | some muxCall =>
          rw [forwarded] at handed
          simp only [Option.map_some, Option.toList_some, List.flatMap_singleton, said_keystrokes] at handed ⊢
          simp only [handed, typedIn, Bool.false_eq_true, false_or]
          split_ifs <;> first | rfl | omega
      | _ => simp [makes, frameCall, said_keystrokes, typed, typedIn, gate]
  | command ticket cmd query lasts =>
    refine List.flatMap_eq_nil_iff.mpr fun made calls => ?_
    have plain : typed made.muxCall = [] := by
      rcases makes_command (Option.mem_toList.mp calls) with query | ⟨_, asked⟩
      · simp [query, typed]
      · exact (asks_plain asked).2.1
    simp [said_keystrokes, plain]
  | cancelled lasts | dropGuard lasts =>
    cases gate : relay.readOnly <;> simp [makes, goodbye, gate, said_keystrokes, typed, typedIn]
  | layoutTask index lasts => simp [makes, said_keystrokes, typed, typedIn]
  | _ => rfl

theorem run_keystrokes {final : ZellijRelay} {events : List (Event Nat)}
    (ran : Transition.run (step zellijMuxSender) relay events = some final) :
    final.world.flatMap keystrokes = relay.world.flatMap keystrokes ++ events.flatMap (typedIn relay.readOnly) := by
  have kept (current : ZellijRelay) (event : Event Nat) (next : ZellijRelay)
      (same : current.readOnly = relay.readOnly) (taken : step zellijMuxSender current event = some next) :
      next.readOnly = relay.readOnly := (congrArg Task.readOnly (step_task taken)).trans same
  have adds (current : ZellijRelay) (event : Event Nat) (next : ZellijRelay)
      (same : current.readOnly = relay.readOnly) (taken : step zellijMuxSender current event = some next) :
      next.world.flatMap keystrokes = current.world.flatMap keystrokes ++ typedIn relay.readOnly event := by
    rw [(step_tells taken).world, List.flatMap_append, List.flatMap_assoc, makes_keystrokes, same]
  exact Transition.run_collects kept adds rfl ran

end Input

end Muxrd.Uplink
