import Muxrd.Relay.Inbound

set_option autoImplicit false

namespace Muxrd.Inbound

variable {Answer State World : Type}

def Event.answer : Event Answer -> Option Answer
  | .cancelled answer | .command _ _ _ answer | .frame _ answer => some answer
  | .dropGuard answer | .layoutTask _ answer | .elsewhere answer => some answer
  | .initialised _ | .recheck _ | .streamError | .streamEnd => none
  | .deregister | .renderThreadEnds | .sibling _ _ => none

variable (mux : MuxSender Answer State World)

inductive WorldStep (answer : Answer) : World -> World -> Prop
  | call (muxCall : MuxCall) (state : State) (world : World) :
    WorldStep answer world (mux.call answer muxCall state world).2.2
  | query (state : State) (world : World) :
    WorldStep answer world (mux.queryLayoutResult answer state world).2.2
  | elsewhere (world : World) : WorldStep answer world (mux.elsewhere answer world)

section

variable {mux} (relay : Relay State World)

@[simp] theorem Relay.updateView_world (update : RelayViewState -> RelayViewState) :
    (relay.updateView update).world = relay.world := by
  unfold Relay.updateView
  cases relay.viewState.lookup relay.connectionId <;> rfl

@[simp] theorem Relay.answerReply_world (id : Nat) (reply : Reply) :
    (relay.answerReply id reply).world = relay.world := rfl

@[simp] theorem Relay.call_world (cause : Cause) (answer : Answer) (muxCall : MuxCall) :
    (relay.call mux cause answer muxCall).2.world =
      (mux.call answer muxCall relay.sender relay.world).2.2 := rfl

theorem Relay.call_eq {cause : Cause} {answer : Answer} {muxCall : MuxCall} {result : Except String Unit}
    {after : Relay State World} (called : relay.call mux cause answer muxCall = (result, after)) :
    mux.call answer muxCall relay.sender relay.world = (result, after.sender, after.world) ∧
      after.connectionId = relay.connectionId ∧ after.phase = relay.phase ∧
      after.viewState = relay.viewState ∧ after.calls = relay.calls ++ [(cause, muxCall)] := by
  have parts := Prod.mk.inj called
  rw [← parts.2]
  exact ⟨Prod.ext parts.1 rfl, rfl, rfl, rfl, rfl⟩

theorem onControl_world (ticket : Ticket) (cmd : RelayControl) (query : FloatQuery) (answer : Answer) :
    (onControl mux ticket cmd query answer relay).world = relay.world ∨
      ∃ muxCall, (onControl mux ticket cmd query answer relay).world =
        (mux.call answer muxCall relay.sender relay.world).2.2 := by
  have called (muxCall : MuxCall) : (relay.call mux (.command ticket) answer muxCall).2.world =
      (mux.call answer muxCall relay.sender relay.world).2.2 := rfl
  cases cmd with
  | switchTab tabId =>
    simp only [onControl, onSwitchTab]
    split_ifs
    · exact .inl rfl
    · have world := called (.goToTab tabId)
      right
      refine ⟨.goToTab tabId, ?_⟩
      split <;> simp_all
  | focusPane pane =>
    simp only [onControl, onFocusPane]
    split_ifs
    · exact .inl rfl
    · have world := called (.focusPane pane)
      right
      refine ⟨.focusPane pane, ?_⟩
      split <;> simp_all
  | switchSpace workspaceId reply =>
    simp only [onControl, onSwitchSpace]
    split_ifs
    · exact .inl rfl
    · have world := called (.switchSpace workspaceId)
      right
      refine ⟨.switchSpace workspaceId, ?_⟩
      split <;> simp_all
  | toggleFullscreen pane hint =>
    simp only [onControl, onToggleFullscreen]
    split_ifs
    · exact .inl rfl
    · cases resolveHint pane hint query with
      | none => exact .inl rfl
      | some resolved =>
        have world := called (.toggleFullscreen pane resolved)
        right
        refine ⟨.toggleFullscreen pane resolved, ?_⟩
        dsimp only
        split <;> simp_all
  | queryLayout reply =>
    simp only [onControl, handleQueryLayout]
    split_ifs
    · exact .inl rfl
    · exact .inr ⟨.queryLayout, rfl⟩
    · exact .inl rfl

theorem onFrame_world (answer : Answer) (frame : ClientFrame) :
    (onFrame mux answer frame relay).world = relay.world ∨
      ∃ muxCall, (onFrame mux answer frame relay).world =
        (mux.call answer muxCall relay.sender relay.world).2.2 := by
  cases frame with
  | attach req => exact .inl rfl
  | empty => exact .inl rfl
  | resize rows cols =>
    simp only [onFrame]
    split_ifs
    · exact .inl rfl
    · exact .inr ⟨_, rfl⟩
  | input bytes =>
    simp only [onFrame, forwardInput]
    split_ifs
    · exact .inl rfl
    · exact .inl rfl
    · split
      · exact .inr ⟨_, rfl⟩
      · exact .inr ⟨_, rfl⟩

end

variable {mux}

theorem step_world {relay next : Relay State World} {event : Event Answer}
    (taken : step mux relay event = some next) :
    next.world = relay.world ∨ ∃ answer ∈ event.answer, WorldStep mux answer relay.world next.world := by
  cases event with
  | recheck valid =>
    simp only [step] at taken
    split_ifs at taken
    · left
      rw [← Option.some.inj taken]
    · left
      rw [← Option.some.inj taken]
  | initialised layout | streamError | streamEnd | deregister =>
    simp only [step] at taken
    split_ifs at taken
    left
    rw [← Option.some.inj taken]
  | renderThreadEnds =>
    left
    rw [← Option.some.inj taken]
  | sibling connectionId entry =>
    simp only [step] at taken
    split_ifs at taken
    left
    rw [← Option.some.inj taken]
  | elsewhere answer =>
    right
    refine ⟨answer, rfl, ?_⟩
    rw [← Option.some.inj taken]
    exact WorldStep.elsewhere relay.world
  | cancelled answer | dropGuard answer =>
    simp only [step] at taken
    split_ifs at taken
    right
    refine ⟨answer, rfl, ?_⟩
    rw [← Option.some.inj taken]
    exact WorldStep.call _ _ _
  | layoutTask index answer =>
    simp only [step] at taken
    split at taken
    · right
      refine ⟨answer, rfl, ?_⟩
      rw [← Option.some.inj taken]
      exact WorldStep.query _ _
    · contradiction
  | command ticket cmd query answer =>
    simp only [step] at taken
    split_ifs at taken
    rw [← Option.some.inj taken]
    rcases onControl_world relay ticket cmd query answer with same | ⟨muxCall, called⟩
    · exact .inl same
    · right
      refine ⟨answer, rfl, ?_⟩
      rw [called]
      exact WorldStep.call _ _ _
  | frame frame answer =>
    simp only [step] at taken
    split_ifs at taken
    rw [← Option.some.inj taken]
    rcases onFrame_world relay answer frame with same | ⟨muxCall, called⟩
    · exact .inl same
    · right
      refine ⟨answer, rfl, ?_⟩
      rw [called]
      exact WorldStep.call _ _ _

section Pool

variable {relay next : Relay State World}

@[simp] theorem Relay.updateView_pool (update : RelayViewState -> RelayViewState) :
    (relay.updateView update).pool = relay.pool := by
  unfold Relay.updateView
  cases relay.viewState.lookup relay.connectionId <;> rfl

theorem onFrame_pool (answer : Answer) (frame : ClientFrame) :
    (onFrame mux answer frame relay).pool = relay.pool := by
  cases frame with
  | attach req => rfl
  | empty => rfl
  | resize rows cols =>
    simp only [onFrame]
    split_ifs <;> rfl
  | input bytes =>
    simp only [onFrame, forwardInput]
    split_ifs
    · rfl
    · rfl
    · split <;> rfl

theorem onControl_pool (ticket : Ticket) (cmd : RelayControl) (query : FloatQuery) (answer : Answer)
    {task : State × Nat} (member : task ∈ (onControl mux ticket cmd query answer relay).pool) :
    task ∈ relay.pool ∨ cmd = .queryLayout task.2 ∧ task.1 = mux.boxClone relay.sender := by
  have kept {muxCall : MuxCall} {result : Except String Unit} {after : Relay State World}
      (called : relay.call mux (.command ticket) answer muxCall = (result, after)) : after.pool = relay.pool := by
    rw [← (Prod.mk.inj called).2]
  cases cmd with
  | switchTab tabId =>
    left
    simp only [onControl, onSwitchTab] at member
    split_ifs at member
    · exact member
    · split at member
      next called => rwa [kept called] at member
      next called => rwa [Relay.updateView_pool, kept called] at member
  | focusPane pane =>
    left
    simp only [onControl, onFocusPane] at member
    split_ifs at member
    · exact member
    · split at member
      next called => rwa [kept called] at member
      next called => rwa [Relay.updateView_pool, kept called] at member
  | switchSpace workspaceId reply =>
    left
    simp only [onControl, onSwitchSpace] at member
    split_ifs at member
    · exact member
    · split at member
      next called =>
        rw [← kept called]
        exact member
      next called =>
        rw [← kept called, ← Relay.updateView_pool]
        exact member
  | toggleFullscreen pane hint =>
    left
    simp only [onControl, onToggleFullscreen] at member
    split_ifs at member
    · exact member
    · split at member
      · exact member
      · split at member
        next called => rwa [kept called] at member
        next called => rwa [Relay.updateView_pool, kept called] at member
  | queryLayout reply =>
    simp only [onControl, handleQueryLayout] at member
    split_ifs at member
    · rcases List.mem_append.mp member with before | added
      · exact .inl before
      · right
        rw [List.mem_singleton] at added
        rw [added]
        exact ⟨rfl, rfl⟩
    · exact .inl member
    · exact .inl member

theorem step_pool {event : Event Answer} (taken : step mux relay event = some next) {task : State × Nat}
    (member : task ∈ next.pool) :
    task ∈ relay.pool ∨
      (∃ ticket query answer, event = .command ticket (.queryLayout task.2) query answer) ∧
        task.1 = mux.boxClone relay.sender := by
  cases event with
  | command ticket cmd query answer =>
    simp only [step] at taken
    split_ifs at taken
    rw [← Option.some.inj taken] at member
    rcases onControl_pool ticket cmd query answer member with before | ⟨rfl, cloned⟩
    · exact .inl before
    · exact .inr ⟨⟨ticket, query, answer, rfl⟩, cloned⟩
  | frame frame answer =>
    simp only [step] at taken
    split_ifs at taken
    rw [← Option.some.inj taken, onFrame_pool] at member
    exact .inl member
  | recheck valid =>
    simp only [step] at taken
    split_ifs at taken
    · rw [← Option.some.inj taken] at member
      exact .inl member
    · rw [← Option.some.inj taken] at member
      exact .inl member
  | initialised _ | streamError | streamEnd | deregister | cancelled _ | dropGuard _ | sibling _ _ =>
    simp only [step] at taken
    split_ifs at taken
    rw [← Option.some.inj taken] at member
    exact .inl member
  | renderThreadEnds | elsewhere _ =>
    rw [← Option.some.inj taken] at member
    exact .inl member
  | layoutTask index answer =>
    simp only [step] at taken
    split at taken
    · rw [← Option.some.inj taken] at member
      exact .inl (List.mem_of_mem_eraseIdx member)
    · contradiction

end Pool

end Muxrd.Inbound
