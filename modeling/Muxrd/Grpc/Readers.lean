import Muxrd.Grpc.Moves
import Muxrd.Lib.Visible

set_option autoImplicit false

namespace Muxrd.Readers

open Inbound Service

/-- The moment from which on requests of read-only callers are left out: the connections there are by
then, and the number of the next request. -/
structure Mark where
  present : String -> Bool
  nextTicket : Nat

namespace Mark

variable (mark : Mark)

def removes (ticket : Ticket) : Bool :=
  ticket.readOnlyCaller && mark.nextTicket ≤ ticket.id

def steers : Cause × MuxCall -> Bool
  | (.command ticket, .focusPane _) => mark.removes ticket
  | _ => false

-- The mutating calls, without the focus moves of the readers.
def writes (calls : List (Cause × MuxCall)) : List (Cause × MuxCall) :=
  calls.filter fun entry => entry.2.isMutating && !mark.steers entry

def steady (calls : List (Cause × MuxCall)) : Bool :=
  calls.all fun entry => !mark.steers entry

@[simp] theorem writes_append (first second : List (Cause × MuxCall)) :
    mark.writes (first ++ second) = mark.writes first ++ mark.writes second :=
  List.filter_append first second

@[simp] theorem steady_append (first second : List (Cause × MuxCall)) :
    mark.steady (first ++ second) = (mark.steady first && mark.steady second) :=
  List.all_append

end Mark

-- An entry as it is known whatever became of the focus.
def blur (entry : ViewStateEntry) : ViewStateEntry :=
  { entry with state := { entry.state with focusedPane := none } }

variable {State World : Type}

def ownView (relay : Relay State World) : Option ViewStateEntry :=
  relay.viewState.lookup relay.connectionId

/-- The relay has made the same writes and shows the same in both, its focus too as long as no reader has
moved it. In the shadow none has. -/
structure NearRelay (mark : Mark) (main shadow : Relay State World) : Prop where
  task : shadow.task = main.task
  phase : shadow.phase = main.phase
  writes : mark.writes shadow.calls = mark.writes main.calls
  outline : (ownView shadow).map blur = (ownView main).map blur
  focus : mark.steady main.calls = true -> ownView shadow = ownView main
  unsteered : mark.steady shadow.calls = true

variable {mark : Mark}

theorem writes_of_steady {calls : List (Cause × MuxCall)} (steady : mark.steady calls = true) :
    mark.writes calls = calls.filter fun entry => entry.2.isMutating := by
  apply List.filter_congr
  intro entry member
  have unsteered := List.all_eq_true.mp steady entry member
  rw [unsteered, Bool.and_true]

theorem NearRelay.refl {relay : Relay State World} (unsteered : mark.steady relay.calls = true) :
    NearRelay mark relay relay :=
  { task := rfl, phase := rfl, writes := rfl, outline := rfl, focus := fun _ => rfl, unsteered }

theorem NearRelay.step {main shadow mainNext shadowNext : Relay State World}
    (near : NearRelay mark main shadow)
    (task : mainNext.task = main.task) (shadowTask : shadowNext.task = shadow.task)
    (phase : shadowNext.phase = mainNext.phase) {mainAdded shadowAdded : List (Cause × MuxCall)}
    (calls : mainNext.calls = main.calls ++ mainAdded)
    (shadowCalls : shadowNext.calls = shadow.calls ++ shadowAdded)
    (added : mark.writes shadowAdded = mark.writes mainAdded) (unsteered : mark.steady shadowAdded = true)
    (outline : (ownView shadowNext).map blur = (ownView mainNext).map blur)
    (focus : ownView shadow = ownView main -> ownView shadowNext = ownView mainNext) :
    NearRelay mark mainNext shadowNext := by
  constructor
  · rw [shadowTask, near.task, task]
  · exact phase
  · rw [calls, shadowCalls, Mark.writes_append, Mark.writes_append, near.writes, added]
  · exact outline
  · intro still
    apply focus
    apply near.focus
    rw [calls, Mark.steady_append, Bool.and_eq_true] at still
    exact still.1
  · rw [shadowCalls, Mark.steady_append, near.unsteered, unsteered]
    rfl

theorem NearRelay.look {main shadow next : Relay State World} (near : NearRelay mark main shadow)
    (task : next.task = main.task) (phase : next.phase = main.phase) {added : List (Cause × MuxCall)}
    (calls : next.calls = main.calls ++ added) (looks : mark.writes added = [])
    (view : ownView next = ownView main) : NearRelay mark next shadow := by
  constructor
  · rw [near.task, task]
  · rw [near.phase, phase]
  · rw [calls, Mark.writes_append, looks, List.append_nil, near.writes]
  · rw [view, near.outline]
  · intro still
    rw [view]
    apply near.focus
    rw [calls, Mark.steady_append, Bool.and_eq_true] at still
    exact still.1
  · exact near.unsteered

theorem blur_viewAfter {query : FloatQuery} {cmd : RelayControl} {result : Except String Unit}
    {main shadow : Option ViewStateEntry} (outline : shadow.map blur = main.map blur) :
    (viewAfter (records query cmd) result shadow).map blur =
      (viewAfter (records query cmd) result main).map blur := by
  cases result with
  | error => exact outline
  | ok value =>
    cases main with
    | none =>
      cases shadow with
      | none => rfl
      | some entry => simp at outline
    | some old =>
      cases shadow with
      | none => simp at outline
      | some entry =>
        have same : blur entry = blur old := by simpa using outline
        simp only [blur, ViewStateEntry.mk.injEq, RelayViewState.mk.injEq] at same
        obtain ⟨session, activeTab, _, currentSpace⟩ := same
        cases cmd with
        | toggleFullscreen pane hint =>
          simp only [viewAfter, Option.map_some, blur, records]
          split <;> simp [session, activeTab, currentSpace]
        | _ => simp [viewAfter, blur, records, session, activeTab, currentSpace]

section Commands

variable {sync : Bool} {main shadow : Relay Unit Unit}

theorem blur_focus {query : FloatQuery} {pane : PaneRef} {result : Except String Unit}
    (entry : Option ViewStateEntry) :
    (viewAfter (records query (.focusPane pane)) result entry).map blur = entry.map blur := by
  cases result with
  | error => rfl
  | ok value => cases entry <;> rfl

theorem ownView_onControl (ticket : Ticket) (cmd : RelayControl) (query : FloatQuery)
    (answer : Except String Unit) (relay : Relay Unit Unit) :
    ownView (onControl (MuxSender.answering sync) ticket cmd query answer relay) =
      (onControl (MuxSender.answering sync) ticket cmd query answer relay).viewState.lookup relay.connectionId := by
  have continues := onControl_continues (MuxSender.answering sync) ticket cmd query answer relay
  have own : _ = relay.connectionId := congrArg Task.connectionId continues.task
  unfold ownView
  rw [← own]
  rfl

theorem near_onControl (near : NearRelay mark main shadow) {ticket : Ticket}
    (kept : mark.removes ticket = false)
    (cmd : RelayControl) (query : FloatQuery) (answer : Except String Unit) :
    NearRelay mark (onControl (MuxSender.answering sync) ticket cmd query answer main)
      (onControl (MuxSender.answering sync) ticket cmd query answer shadow) := by
  have mainSpec := onControl_spec (MuxSender.answering sync) ticket cmd query answer main
  have shadowSpec := onControl_spec (MuxSender.answering sync) ticket cmd query answer shadow
  have flag : shadow.readOnly = main.readOnly := congrArg Task.readOnly near.task
  rw [flag] at shadowSpec
  have looks (calls : List (Cause × MuxCall)) (relay : Relay Unit Unit)
      (made : calls = relay.calls ∨ calls = relay.calls ++ [(.command ticket, .queryLayout)]) :
      ∃ added, calls = relay.calls ++ added ∧ mark.writes added = [] ∧ mark.steady added = true := by
    rcases made with same | queried
    · exact ⟨[], by simp [same], rfl, rfl⟩
    · exact ⟨_, queried, rfl, rfl⟩
  split at mainSpec
  next call writable asked =>
    simp only [writable, asked] at shadowSpec
    apply near.step mainSpec.task shadowSpec.task
      (by rw [shadowSpec.phase, mainSpec.phase, near.phase]) mainSpec.calls shadowSpec.calls rfl
    · -- Whatever the call is, no reader has asked for it.
      cases call <;> simp [Mark.steady, Mark.steers, kept]
    · rw [ownView_onControl, ownView_onControl, mainSpec.view, shadowSpec.view]
      exact blur_viewAfter near.outline
    · intro same
      rw [ownView_onControl, ownView_onControl, mainSpec.view, shadowSpec.view]
      exact congrArg (viewAfter (records query cmd) answer) same
  next dropped =>
    have shadowDrops : Drops ticket shadow (onControl (MuxSender.answering sync) ticket cmd query answer shadow) := by
      split at shadowSpec
      next call writable asked => exact absurd asked (dropped call writable)
      · exact shadowSpec
    obtain ⟨mainAdded, mainCalls, mainLooks, _⟩ := looks _ main mainSpec.calls
    obtain ⟨shadowAdded, shadowCalls, shadowLooks, unsteered⟩ := looks _ shadow shadowDrops.calls
    apply near.step mainSpec.task shadowDrops.task
      (by rw [shadowDrops.phase, mainSpec.phase, near.phase]) mainCalls shadowCalls
      (by rw [mainLooks, shadowLooks]) unsteered
    · rw [ownView_onControl, ownView_onControl, mainSpec.view, shadowDrops.view]
      exact near.outline
    · intro same
      rw [ownView_onControl, ownView_onControl, mainSpec.view, shadowDrops.view]
      exact same

theorem near_removed (near : NearRelay mark main shadow) {ticket : Ticket}
    (removed : mark.removes ticket = true)
    {cmd : RelayControl} (opened : openToReaders cmd = true) (query : FloatQuery)
    (answer : Except String Unit) :
    NearRelay mark (onControl (MuxSender.answering sync) ticket cmd query answer main) shadow := by
  have spec := onControl_spec (MuxSender.answering sync) ticket cmd query answer main
  have dropped (drops : Drops ticket main (onControl (MuxSender.answering sync) ticket cmd query answer main)) :
      NearRelay mark (onControl (MuxSender.answering sync) ticket cmd query answer main) shadow := by
    have view := (ownView_onControl ticket cmd query answer main).trans drops.view
    rcases drops.calls with same | queried
    · exact near.look drops.task drops.phase (by rw [same]; exact (List.append_nil _).symm) rfl view
    · exact near.look drops.task drops.phase queried rfl view
  split at spec
  next call writable asked =>
    cases cmd with
    | focusPane pane =>
      obtain rfl : .focusPane pane = call := by simpa [asks] using asked
      have steered : mark.steers (.command ticket, .focusPane pane) = true := removed
      constructor
      · rw [near.task, spec.task]
      · rw [near.phase, spec.phase]
      · rw [spec.calls, Mark.writes_append, near.writes]
        simp [Mark.writes, steered]
      · rw [ownView_onControl, spec.view, blur_focus]
        exact near.outline
      · intro still
        rw [spec.calls, Mark.steady_append] at still
        simp [Mark.steady, steered] at still
      · exact near.unsteered
    | queryLayout => contradiction
    | switchTab | switchSpace | toggleFullscreen => contradiction
  · exact dropped spec

theorem near_layoutTask (near : NearRelay mark main shadow) {index : Nat} {answer : Except String Unit}
    {next : Relay Unit Unit}
    (taken : Inbound.step (MuxSender.answering sync) main (.layoutTask index answer) = some next) :
    NearRelay mark next shadow := by
  simp only [Inbound.step] at taken
  split at taken
  · rw [← Option.some.inj taken]
    exact near.look rfl rfl (rfl : _ = main.calls ++ [(.layoutTask, .queryLayoutResult)]) rfl rfl
  · contradiction

theorem near_step (near : NearRelay mark main shadow) {event : Inbound.Event (Except String Unit)}
    (own : isOwn event = true) (lasting : ∀ index answer, event ≠ .layoutTask index answer)
    {next : Relay Unit Unit} (taken : Inbound.step (MuxSender.answering sync) main event = some next) :
    ∃ shadowNext, Inbound.step (MuxSender.answering sync) shadow event = some shadowNext ∧
      NearRelay mark next shadowNext := by
  have phase := near.phase
  have readOnly : shadow.readOnly = main.readOnly := congrArg Task.readOnly near.task
  have key : shadow.connectionId = main.connectionId := congrArg Task.connectionId near.task
  have session : shadow.session = main.session := congrArg Task.session near.task
  have rows : shadow.rows = main.rows := congrArg Task.rows near.task
  have cols : shadow.cols = main.cols := congrArg Task.cols near.task
  have dropped (answer : Except String Unit) :
      NearRelay mark (dropGuard (MuxSender.answering sync) answer main)
        (dropGuard (MuxSender.answering sync) answer shadow) := by
    refine near.step rfl rfl rfl rfl rfl ?_ rfl near.outline id
    rw [readOnly, rows, cols]
  have unchanged (phase : Phase) : NearRelay mark { main with phase } { shadow with phase } :=
    { near with phase := rfl }
  cases event with
  | command | sibling | elsewhere => contradiction
  | layoutTask index answer => exact absurd rfl (lasting index answer)
  | initialised layout =>
    simp only [Inbound.step] at taken ⊢
    split_ifs at taken with starting
    rw [← Option.some.inj taken, if_pos (phase.trans starting)]
    refine ⟨_, rfl, ?_⟩
    refine near.step rfl rfl rfl (List.append_nil _).symm (List.append_nil _).symm rfl rfl ?_ ?_
    · simp [ownView, session]
    · simp [ownView, session]
  | cancelled answer =>
    simp only [Inbound.step] at taken ⊢
    split_ifs at taken with starting
    rw [← Option.some.inj taken, if_pos (phase.trans starting)]
    exact ⟨_, rfl, dropped answer⟩
  | recheck valid =>
    cases valid with
    | true =>
      simp only [Inbound.step, if_true] at taken ⊢
      split_ifs at taken with running
      rw [← Option.some.inj taken, if_pos (phase.trans running)]
      exact ⟨_, rfl, near⟩
    | false =>
      simp only [Inbound.step, Bool.false_eq_true, if_false] at taken ⊢
      split_ifs at taken with running
      rw [← Option.some.inj taken, if_pos (phase.trans running)]
      exact ⟨_, rfl, unchanged .broken⟩
  | frame frame answer =>
    simp only [Inbound.step] at taken ⊢
    split_ifs at taken with running
    rw [← Option.some.inj taken, if_pos (phase.trans running)]
    obtain ⟨sender, world, mainSpec⟩ := onFrame_spec (MuxSender.answering sync) answer frame main
    obtain ⟨shadowSender, shadowWorld, shadowSpec⟩ := onFrame_spec (MuxSender.answering sync) answer frame shadow
    refine ⟨_, rfl, ?_⟩
    rw [mainSpec, shadowSpec]
    refine near.step rfl rfl phase rfl rfl ?_ ?_ near.outline id
    · rw [readOnly]
    · simp [Mark.steady, Mark.steers]
  | streamError | streamEnd =>
    simp only [Inbound.step] at taken ⊢
    split_ifs at taken with running
    rw [← Option.some.inj taken, if_pos (phase.trans running)]
    exact ⟨_, rfl, unchanged .broken⟩
  | deregister =>
    simp only [Inbound.step] at taken ⊢
    split_ifs at taken with broken
    rw [← Option.some.inj taken, if_pos (phase.trans broken)]
    refine ⟨_, rfl, ?_⟩
    refine near.step rfl rfl rfl (List.append_nil _).symm (List.append_nil _).symm rfl rfl ?_ ?_
    · simp [ownView]
    · simp [ownView]
  | dropGuard answer =>
    simp only [Inbound.step] at taken ⊢
    split_ifs at taken with deregistered
    rw [← Option.some.inj taken, if_pos (phase.trans deregistered)]
    exact ⟨_, rfl, dropped answer⟩
  | renderThreadEnds =>
    rw [← Option.some.inj taken]
    exact ⟨_, rfl, { near with }⟩

end Commands

end Muxrd.Readers
