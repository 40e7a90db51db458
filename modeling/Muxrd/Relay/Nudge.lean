import Muxrd.Relay.Forwarding

set_option autoImplicit false

namespace Muxrd.Nudge

open Inbound Attach Routing

section Sizes

variable {Answer State World : Type} {mux : MuxSender Answer State World} {relay next : Relay State World}
  {event : Event Answer}

def nudge : Cause × MuxCall -> List (UInt16 × UInt16)
  | (.teardown, muxCall) => sized muxCall
  | _ => []

def resize : Cause × MuxCall -> List (UInt16 × UInt16)
  | (.frame, muxCall) => sized muxCall
  | _ => []

def resized : Event Answer -> List (UInt16 × UInt16)
  | .frame (.resize rows cols) _ => [(clampDim rows 24, clampDim cols 80)]
  | _ => []

def lastSent (attachSize : UInt16 × UInt16) (relay : Relay State World) : UInt16 × UInt16 :=
  (relay.acts.flatMap resize).getLast?.getD attachSize

theorem resize_act (relay : Relay State World) (event : Event Answer) :
    (act relay event).toList.flatMap resize = resized event := by
  cases event with
  | command ticket cmd query answer => cases asked : asks query cmd <;> simp [act, asked, resize, resized]
  | frame frame answer =>
    cases frame with
    | input bytes =>
      simp only [act, frameCall, resized, Bool.false_eq_true, if_false]
      split_ifs
      · rfl
      · cases RustStd.fromUtf8 bytes <;> rfl
    | _ => rfl
  | _ => rfl

theorem run_resize {final : Relay State World} {events : List (Event Answer)} (writable : relay.readOnly = false)
    (ran : Transition.run (step mux) relay events = some final) :
    final.acts.flatMap resize = relay.acts.flatMap resize ++ events.flatMap resized := by
  have adds (relay : Relay State World) (event : Event Answer) (next : Relay State World)
      (writable : relay.readOnly = false) (taken : step mux relay event = some next) :
      next.acts.flatMap resize = relay.acts.flatMap resize ++ resized event := by
    rw [step_acts writable taken, List.flatMap_append, resize_act]
  exact Transition.run_collects writable_step adds writable ran

structure Guarded (attachSize : UInt16 × UInt16) (relay : Relay State World) : Prop where
  writable : relay.readOnly = false
  size : (relay.rows, relay.cols) = attachSize
  nudges : relay.acts.flatMap nudge = if relay.phase = .closed then [attachSize] else []

def isTeardown : Event Answer -> Bool
  | .cancelled _ | .dropGuard _ => true
  | _ => false

theorem nudge_act (relay : Relay State World) (event : Event Answer) :
    (act relay event).toList.flatMap nudge = if isTeardown event then [(relay.rows, relay.cols)] else [] := by
  cases event with
  | command ticket cmd query answer => cases asked : asks query cmd <;> simp [act, asked, nudge, isTeardown]
  | frame frame answer => cases forwarded : frameCall false frame <;> simp [act, forwarded, nudge, isTeardown]
  | _ => simp [act, nudge, sized, isTeardown]

theorem step_closes (taken : step mux relay event = some next) :
    if isTeardown event then relay.phase ≠ .closed ∧ next.phase = .closed
    else (next.phase = .closed ↔ relay.phase = .closed) := by
  cases event with
  | command ticket cmd query answer =>
    simp only [step] at taken
    split_ifs at taken
    have continues := onControl_continues mux ticket cmd query answer relay
    rw [← Option.some.inj taken, continues.phase]
    simp [isTeardown]
  | frame frame answer =>
    simp only [step] at taken
    split_ifs at taken
    obtain ⟨sender, world, spec⟩ := onFrame_spec mux answer frame relay
    rw [← Option.some.inj taken, spec]
    simp [isTeardown]
  | cancelled answer | dropGuard answer =>
    simp only [step] at taken
    split_ifs at taken with before
    rw [← Option.some.inj taken]
    simp [isTeardown, before, dropGuard]
  | recheck valid =>
    simp only [step] at taken
    split_ifs at taken with running
    · rw [← Option.some.inj taken]
      simp [isTeardown]
    · rw [← Option.some.inj taken]
      simp [isTeardown, running]
  | initialised | deregister | streamError | streamEnd =>
    simp only [step] at taken
    split_ifs at taken with before
    rw [← Option.some.inj taken]
    simp [isTeardown, before]
  | sibling connectionId entry =>
    simp only [step] at taken
    split_ifs at taken
    rw [← Option.some.inj taken]
    simp [isTeardown]
  | layoutTask index answer =>
    simp only [step] at taken
    split at taken
    · rw [← Option.some.inj taken]
      simp [isTeardown, runLayoutTask, Relay.answerReply]
    · contradiction
  | renderThreadEnds | elsewhere =>
    rw [← Option.some.inj taken]
    simp [isTeardown]

theorem guarded_step (attachSize : UInt16 × UInt16) (relay : Relay State World) (event : Event Answer)
    (next : Relay State World) (guarded : Guarded attachSize relay) (taken : step mux relay event = some next) :
    Guarded attachSize next := by
  have task := step_task taken
  have closes := step_closes taken
  constructor
  · exact writable_step relay event next guarded.writable taken
  · have size : (next.rows, next.cols) = (relay.rows, relay.cols) :=
      congrArg (fun task : Task => (task.rows, task.cols)) task
    exact size.trans guarded.size
  · rw [step_acts guarded.writable taken, List.flatMap_append, nudge_act, guarded.nudges, guarded.size]
    cases teardown : isTeardown event with
    | true =>
      simp only [teardown, if_true] at closes ⊢
      simp [closes.1, closes.2]
    | false =>
      simp only [teardown, Bool.false_eq_true, if_false] at closes ⊢
      simp [closes]

end Sizes

section Runs

variable {Answer State World Backend : Type}

theorem opening_size {zellijValidate : String -> Except (List Piece) Unit} {backends : BackendSet Backend}
    {querySessionSize : Backend -> String -> Option (UInt16 × UInt16)} {req : AttachReq} {opened : Opening Backend}
    (opens : opening zellijValidate backends querySessionSize false (.frame (.attach req)) = .ok opened) :
    opened.readOnly = false ∧ (opened.rows, opened.cols) = (clampDim req.rows 24, clampDim req.cols 80) := by
  unfold opening at opens
  split at opens
  · cases opens
  next req' attached =>
    obtain rfl : req = req' := Except.ok.inj attached
    split at opens
    · cases opens
    · obtain rfl := Except.ok.inj opens
      exact ⟨rfl, rfl⟩

/-- The nudge of a relay that has come down re-asserts the size sent last exactly when the last resize frame, if
there was one, asked for the size of the attach. -/
theorem nudge_reasserts_iff {zellijValidate : String -> Except (List Piece) Unit} {backends : BackendSet Backend}
    {querySessionSize : Backend -> String -> Option (UInt16 × UInt16)} {req : AttachReq} {opened : Opening Backend}
    (opens : opening zellijValidate backends querySessionSize false (.frame (.attach req)) = .ok opened)
    (mux : MuxSender Answer State World) (connectionId : String) (sender : State) (world : World)
    (viewState : ViewStateRegistry) (events : List (Event Answer)) {final : Relay State World}
    (ran : Transition.run (step mux) (attached mux opened connectionId sender world viewState) events = some final)
    (closed : final.phase = .closed) :
    ∃ size, final.acts.flatMap nudge = [size] ∧
      (size = lastSent (clampDim req.rows 24, clampDim req.cols 80) final ↔
        ∀ last, (events.flatMap resized).getLast? = some last ->
          last = (clampDim req.rows 24, clampDim req.cols 80)) := by
  obtain ⟨writable, size⟩ := opening_size opens
  rw [← size]
  have guarded := Transition.invariant_of_run (guarded_step (opened.rows, opened.cols))
    { writable, size := rfl, nudges := rfl } ran
  have sent := run_resize writable ran
  refine ⟨(opened.rows, opened.cols), ?_, ?_⟩
  · rw [guarded.nudges, if_pos closed]
  · rw [lastSent, sent]
    cases last : (events.flatMap resized).getLast? with
    | none => simp [attached, Relay.acts, last]
    | some size => simp [attached, Relay.acts, last, eq_comm]

def zellijOnly : BackendSet Unit :=
  { backends := [(.zellij, ())], nonempty := List.cons_ne_nil _ _ }

def attachReq : AttachReq :=
  { session := "zellij:dev", rows := 24, cols := 80 }

def writer : Opening Unit :=
  { id := "zellij:dev", kind := .zellij, backend := (), session := "dev", rows := 24, cols := 80,
    readOnly := false }

theorem writer_opens :
    opening (fun _ => .ok ()) zellijOnly (fun _ _ => none) false (.frame (.attach attachReq)) = .ok writer := by
  rfl

def resizing (sizes : List (UInt32 × UInt32)) : List (Event (Except String Unit)) :=
  [.initialised (.error "no layout")] ++ sizes.map (fun size => .frame (.resize size.1 size.2) (.ok ())) ++
    [.streamEnd, .deregister, .dropGuard (.ok ())]

theorem nudge_reasserts_iff_back :
    ∃ final size, Transition.run (step (MuxSender.answering false))
        (attached (MuxSender.answering false) writer "c1" () () ∅) (resizing [(10, 20), (24, 0)]) = some final ∧
      final.acts.flatMap nudge = [size] ∧ size = lastSent (24, 80) final := by
  obtain ⟨size, nudged, reasserts⟩ := nudge_reasserts_iff writer_opens (MuxSender.answering false) "c1" () () ∅
    (resizing [(10, 20), (24, 0)]) rfl rfl
  have back : ((resizing [(10, 20), (24, 0)]).flatMap resized).getLast? = some (24, 80) := rfl
  exact ⟨_, size, rfl, nudged, reasserts.mpr fun last same => (Option.some.inj (back.symm.trans same)).symm⟩

/-- The client has shrunk its terminal; as it leaves, the session gets the size of the attach again. -/
theorem nudge_undoes_resize :
    ∃ final, Transition.run (step (MuxSender.answering false))
        (attached (MuxSender.answering false) writer "c1" () () ∅) (resizing [(10, 20)]) = some final ∧
      final.phase = .closed ∧ lastSent (24, 80) final = (10, 20) ∧ final.acts.flatMap nudge = [(24, 80)] :=
  ⟨_, rfl, rfl, rfl, rfl⟩

end Runs

end Muxrd.Nudge
