import Muxrd.Relay.Views

set_option autoImplicit false

namespace Muxrd.Inbound

variable {Answer State World : Type} {mux : MuxSender Answer State World} {relay next : Relay State World}

def Reply.spaceResult : Reply -> Option (Except String Unit)
  | .space result => some result
  | .layout _ => none

def Relay.answers (relay : Relay State World) (id : Nat) : List (Except String Unit) :=
  relay.replies.filterMap fun reply => if reply.1 = id then reply.2.spaceResult else none

def switchAnswer (mux : MuxSender Answer State World) (relay : Relay State World) (answer : Answer)
    (workspaceId : String) : Except String Unit :=
  if relay.readOnly then .error "read-only token: SwitchSpace is not allowed"
  else (mux.call answer (.switchSpace workspaceId) relay.sender relay.world).1

def taskResult (mux : MuxSender Answer State World) (answer : Answer) (state : State) (world : World) :
    Except String LayoutSnapshot :=
  (mux.queryLayoutResult answer state world).1.getD
    (.error "query_layout_result returned None for a sync-layout backend")

def sentReplies (mux : MuxSender Answer State World) (relay : Relay State World) : Event Answer -> List (Nat × Reply)
  | .command _ (.switchSpace workspaceId reply) _ answer =>
    [(reply, .space (switchAnswer mux relay answer workspaceId))]
  | .command _ (.queryLayout reply) _ _ =>
    if mux.hasSyncLayout = false ∧ relay.renderThreadAlive = false then
      [(reply, .layout (.error "render thread not available"))]
    else []
  | .layoutTask index answer =>
    match relay.pool[index]? with
    | some (state, reply) => [(reply, .layout (taskResult mux answer state relay.world))]
    | none => []
  | _ => []

def answered (mux : MuxSender Answer State World) (relay : Relay State World) (id : Nat) :
    Event Answer -> List (Except String Unit)
  | .command _ (.switchSpace workspaceId reply) _ answer =>
    if reply = id then [switchAnswer mux relay answer workspaceId] else []
  | _ => []

theorem updateView_replies (update : RelayViewState -> RelayViewState) (relay : Relay State World) :
    (relay.updateView update).replies = relay.replies := by
  unfold Relay.updateView
  cases relay.viewState.lookup relay.connectionId <;> rfl

theorem answers_of_replies (same : next.replies = relay.replies) (id : Nat) :
    next.answers id = relay.answers id := by
  rw [Relay.answers, same]
  rfl

@[simp] theorem answers_answerReply (reply : Nat) (content : Reply) (id : Nat) :
    (relay.answerReply reply content).answers id =
      relay.answers id ++ if reply = id then content.spaceResult.toList else [] := by
  rw [Relay.answers, Relay.answerReply, List.filterMap_append]
  by_cases own : reply = id
  · cases sent : content.spaceResult <;> simp [Relay.answers, own, sent]
  · simp [Relay.answers, own]

theorem call_replies {cause : Cause} {answer : Answer} {muxCall : MuxCall} {result : Except String Unit}
    {after : Relay State World} (called : relay.call mux cause answer muxCall = (result, after)) :
    after.replies = relay.replies := by
  rw [← (Prod.mk.inj called).2]

theorem onControl_replies (ticket : Ticket) (cmd : RelayControl) (query : FloatQuery) (answer : Answer) :
    (onControl mux ticket cmd query answer relay).replies =
      relay.replies ++ sentReplies mux relay (.command ticket cmd query answer) := by
  have quiet {after : Relay State World} (same : after.replies = relay.replies) :
      after.replies = relay.replies ++ [] := by
    rw [same, List.append_nil]
  cases cmd with
  | switchTab tabId =>
    apply quiet
    simp only [onControl, onSwitchTab]
    split_ifs
    · rfl
    · split
      next called => exact call_replies called
      next called => rw [updateView_replies, call_replies called]
  | focusPane pane =>
    apply quiet
    simp only [onControl, onFocusPane]
    split_ifs
    · rfl
    · split
      next called => exact call_replies called
      next called => rw [updateView_replies, call_replies called]
  | toggleFullscreen pane hint =>
    apply quiet
    simp only [onControl, onToggleFullscreen]
    split_ifs
    · rfl
    · split
      · rfl
      · split
        next called => exact call_replies called
        next called => rw [updateView_replies, call_replies called]
  | switchSpace workspaceId reply =>
    simp only [onControl, onSwitchSpace, sentReplies, switchAnswer]
    split_ifs
    · rfl
    · split
      next message after called =>
        have result : (mux.call answer (.switchSpace workspaceId) relay.sender relay.world).1 = .error message :=
          congrArg (·.1) (Relay.call_eq relay called).1
        rw [result, Relay.answerReply, call_replies called]
      next after called =>
        have result : (mux.call answer (.switchSpace workspaceId) relay.sender relay.world).1 = .ok () :=
          congrArg (·.1) (Relay.call_eq relay called).1
        rw [result, Relay.answerReply, updateView_replies, call_replies called]
  | queryLayout reply =>
    simp only [onControl, handleQueryLayout, sentReplies]
    cases mux.hasSyncLayout with
    | true => exact quiet rfl
    | false =>
      cases relay.renderThreadAlive with
      | true => exact quiet rfl
      | false => rfl

theorem step_replies {event : Event Answer} (taken : step mux relay event = some next) :
    next.replies = relay.replies ++ sentReplies mux relay event := by
  have quiet (same : next.replies = relay.replies) : next.replies = relay.replies ++ [] := by
    rw [same, List.append_nil]
  cases event with
  | command ticket cmd query answer =>
    simp only [step] at taken
    split_ifs at taken
    rw [← Option.some.inj taken]
    exact onControl_replies ticket cmd query answer
  | frame frame answer =>
    simp only [step] at taken
    split_ifs at taken
    apply quiet
    rw [← Option.some.inj taken]
    obtain ⟨sender, world, spec⟩ := onFrame_spec mux answer frame relay
    rw [spec]
  | layoutTask index answer =>
    simp only [step] at taken
    split at taken
    next state reply waiting =>
      rw [← Option.some.inj taken]
      simp only [sentReplies, waiting]
      rfl
    · contradiction
  | renderThreadEnds | elsewhere answer =>
    apply quiet
    rw [← Option.some.inj taken]
  | sibling other entry =>
    simp only [step] at taken
    split_ifs at taken
    apply quiet
    rw [← Option.some.inj taken]
  | recheck valid =>
    simp only [step] at taken
    apply quiet
    split_ifs at taken
    · rw [← Option.some.inj taken]
    · rw [← Option.some.inj taken]
  | initialised | streamError | streamEnd | deregister =>
    simp only [step] at taken
    split_ifs at taken
    apply quiet
    rw [← Option.some.inj taken]
  | cancelled | dropGuard =>
    simp only [step] at taken
    split_ifs at taken
    apply quiet
    rw [← Option.some.inj taken]
    rfl

-- The answers to SwitchSpace requests are the replies that are not layouts.
theorem answers_sent (id : Nat) (event : Event Answer) :
    ((sentReplies mux relay event).filterMap fun reply => if reply.1 = id then reply.2.spaceResult else none) =
      answered mux relay id event := by
  cases event with
  | command ticket cmd query answer =>
    cases cmd with
    | switchSpace workspaceId reply =>
      simp only [sentReplies, answered]
      split_ifs with own
      · simp [own, Reply.spaceResult]
      · simp [own]
    | queryLayout reply =>
      simp only [sentReplies, answered]
      split_ifs
      · simp [Reply.spaceResult]
      · rfl
    | _ => rfl
  | layoutTask index answer =>
    simp only [sentReplies, answered]
    split
    · simp [Reply.spaceResult]
    · rfl
  | _ => rfl

theorem onControl_answers (ticket : Ticket) (cmd : RelayControl) (query : FloatQuery) (answer : Answer)
    (id : Nat) :
    (onControl mux ticket cmd query answer relay).answers id =
      relay.answers id ++ answered mux relay id (.command ticket cmd query answer) := by
  rw [Relay.answers, onControl_replies, List.filterMap_append, answers_sent]
  rfl

theorem step_answers {event : Event Answer} (taken : step mux relay event = some next) (id : Nat) :
    next.answers id = relay.answers id ++ answered mux relay id event := by
  rw [Relay.answers, step_replies taken, List.filterMap_append, answers_sent]
  rfl

end Muxrd.Inbound
