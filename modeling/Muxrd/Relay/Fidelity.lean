import Muxrd.Relay.Watch

set_option autoImplicit false

namespace Muxrd.Watch

open RenderLoop

section Images

def image : MuxServerMsg -> List ServerFrame
  | .render content => [.render content]
  | .event (.exit reason) => [.control "exit" reason]
  | .event (.renamedSession name) => [.control "renamed_session" name]
  | .event .configUpdated => [.control "config_updated" ""]
  | .event (.switchSession name) => [.control "switch_session" name]
  | .log _ | .other => []

def isExit : MuxServerMsg -> Bool
  | .event (.exit _) => true
  | _ => false

variable {msg : MuxServerMsg} {frame : ServerFrame} {last : Bool}

theorem image_frameOf (forwarded : Reader.frameOf msg = some (frame, last)) :
    image msg = [frame] ∧ isExit msg = last := by
  cases msg with
  | event event => cases event <;> cases forwarded <;> exact ⟨rfl, rfl⟩
  | _ => cases forwarded <;> exact ⟨rfl, rfl⟩

end Images

section Fidelity

def Plain (messages : List MuxServerMsg) : Prop :=
  ∀ msg ∈ messages, isExit msg = false

/-- How far the thread has come with the messages received: `handled` are behind it, `cut` is in hand, or
was when it returned. -/
def Progress (reader : Reader) (handled cut : List MuxServerMsg) : Prop :=
  match reader.pc with
  | .top | .drainBefore | .receiving => Plain handled ∧ cut = []
  | .received msg | .drainAfter msg | .matching msg => Plain handled ∧ cut = [msg]
  | .sending frame last => Plain handled ∧ ∃ msg, Reader.frameOf msg = some (frame, last) ∧ cut = [msg]
  | .returned =>
    (∃ before reason, Plain before ∧ handled = before ++ [.event (.exit reason)] ∧ cut = []) ∨
      Plain handled ∧
        ((reader.stop = true ∧ cut.length ≤ 1) ∨ (reader.eof = true ∧ reader.incoming = [] ∧ cut = []) ∨
          (reader.receiverOpen = false ∧ ∃ msg, image msg ≠ [] ∧ cut = [msg]))

structure Faithful (connectionId : String) (watched : Watched) (handled cut : List MuxServerMsg) : Prop where
  frames : watched.frames = connectionIdFrame connectionId :: handled.flatMap image
  sent : watched.sent = handled ++ cut ++ watched.reader.incoming
  progress : Progress watched.reader handled cut
  renders : watched.reader.renders = watched.frames.countP Reader.isRender

theorem Plain.snoc {handled : List MuxServerMsg} {msg : MuxServerMsg} (plain : Plain handled)
    (stays : isExit msg = false) : Plain (handled ++ [msg]) := by
  intro each member
  rcases List.mem_append.mp member with before | new
  · exact plain each before
  · rwa [List.mem_singleton.mp new]

theorem faithful_initial (connectionId : String) : Faithful connectionId (initial connectionId) [] [] where
  frames := by simp [Watched.frames, initial, spawned]
  sent := by simp [initial, spawned]
  progress := by simp [Progress, Plain, initial, spawned]
  renders := by simp [Watched.frames, initial, spawned, connectionIdFrame, Reader.isRender]

variable {connectionId : String} {watched : Watched} {handled cut : List MuxServerMsg}

theorem forwarded_frames {msg : MuxServerMsg} {frame : ServerFrame} {last : Bool}
    (faithful : Faithful connectionId watched handled cut) (forwarded : Reader.frameOf msg = some (frame, last))
    (sent : Watched) (read : sent.read = watched.read)
    (outbound : sent.reader.outbound = (watched.reader.forward frame).outbound)
    (renders : sent.reader.renders = (watched.reader.forward frame).renders) :
    sent.frames = connectionIdFrame connectionId :: (handled ++ [msg]).flatMap image ∧
      sent.reader.renders = sent.frames.countP Reader.isRender := by
  have more : sent.frames = watched.frames ++ [frame] := by
    simp [Watched.frames, read, outbound, Reader.forward]
  constructor
  · rw [more, faithful.frames, List.flatMap_append, List.flatMap_singleton, (image_frameOf forwarded).1]
    rfl
  · rw [renders, more, List.countP_append, List.countP_singleton, ← faithful.renders, Reader.forward]
    cases Reader.isRender frame <;> rfl

theorem faithful_moves {next : Reader} {done : List Happening} (faithful : Faithful connectionId watched handled cut)
    (moves : Moves watched.reader next done) (history : List Happening) :
    ∃ handledNow cutNow, Faithful connectionId { watched with reader := next, history } handledNow cutNow := by
  have ⟨frames, sent, progress, renders⟩ := faithful
  unfold Progress at progress
  -- A message without an image is handled when the thread is back at the head of its loop.
  have swallows (msg : MuxServerMsg) (reader : Reader) (standing : watched.reader.pc = .matching msg)
      (silent : image msg = []) (stays : isExit msg = false) (back : reader.pc = .top)
      (incoming : reader.incoming = watched.reader.incoming) (outbound : reader.outbound = watched.reader.outbound)
      (count : reader.renders = watched.reader.renders) :
      Faithful connectionId { watched with reader, history } (handled ++ [msg]) [] := by
    simp only [standing] at progress
    obtain ⟨plain, rfl⟩ := progress
    constructor
    · simpa [Watched.frames, outbound, silent] using frames
    · simpa [incoming] using sent
    · simpa [Progress, back] using plain.snoc stays
    · simpa [Watched.frames, outbound, count] using renders
  cases moves with
  | passes running pc standing =>
    refine ⟨handled, cut, frames, sent, ?_, renders⟩
    rcases standing with ⟨standing, rfl⟩ | ⟨msg, standing, rfl⟩ <;> simpa [Progress, standing] using progress
  | drains pc standing =>
    refine ⟨handled, cut, frames, sent, ?_, renders⟩
    rcases standing with ⟨standing, rfl⟩ | ⟨msg, standing, rfl⟩ <;> simpa [Progress, standing] using progress
  | receives standing msg rest arrived =>
    simp only [standing] at progress
    obtain ⟨plain, rfl⟩ := progress
    exact ⟨handled, [msg], frames, by simpa [arrived] using sent, ⟨plain, rfl⟩, renders⟩
  | captures json standing =>
    have kept := captureQueryLog_cases watched.reader json
    refine ⟨_, _, swallows (.log json) _ standing rfl rfl rfl ?_ ?_ ?_⟩ <;>
      rcases kept with ⟨_, captured⟩ | ⟨_, _, ⟨_, captured⟩ | ⟨_, _, captured⟩ | ⟨_, _, _, captured⟩⟩ <;>
      rw [captured]
  | skips standing => exact ⟨_, _, swallows .other _ standing rfl rfl rfl rfl rfl rfl⟩
  | frames msg standing frame last forwarded =>
    simp only [standing] at progress
    exact ⟨handled, cut, frames, sent, ⟨progress.1, msg, forwarded, progress.2⟩, renders⟩
  | forwards frame standing =>
    simp only [standing] at progress
    obtain ⟨plain, msg, forwarded, rfl⟩ := progress
    obtain ⟨shown, counted⟩ := forwarded_frames faithful forwarded
      { watched with reader := { watched.reader.forward frame with pc := .top }, history } rfl rfl rfl
    exact ⟨handled ++ [msg], [], shown, by simpa [Reader.forward] using sent,
      ⟨plain.snoc (image_frameOf forwarded).2, rfl⟩, counted⟩
  | finishes frame standing =>
    simp only [standing] at progress
    obtain ⟨plain, msg, forwarded, rfl⟩ := progress
    obtain ⟨shown, counted⟩ := forwarded_frames faithful forwarded
      { watched with reader := (watched.reader.forward frame).exit, history } rfl rfl rfl
    obtain ⟨reason, rfl⟩ : ∃ reason, msg = .event (.exit reason) := by
      have exits := (image_frameOf forwarded).2
      unfold isExit at exits
      split at exits
      · exact ⟨_, rfl⟩
      · contradiction
    exact ⟨handled ++ [.event (.exit reason)], [], shown, by simpa [Reader.forward, Reader.exit] using sent,
      .inl ⟨handled, reason, plain, rfl, rfl⟩, counted⟩
  | stops stopped standing =>
    refine ⟨handled, cut, frames, sent, .inr ?_, renders⟩
    rcases standing with standing | ⟨msg, standing⟩ <;> simp only [standing] at progress <;> obtain ⟨plain, rfl⟩ := progress <;>
      exact ⟨plain, .inl ⟨stopped, by simp⟩⟩
  | ends standing empty eof =>
    simp only [standing] at progress
    exact ⟨handled, cut, frames, sent, .inr ⟨progress.1, .inr (.inl ⟨eof, empty, progress.2⟩)⟩, renders⟩
  | breaks frame last standing gone =>
    simp only [standing] at progress
    obtain ⟨plain, msg, forwarded, rfl⟩ := progress
    refine ⟨handled, [msg], frames, sent, .inr ⟨plain, .inr (.inr ⟨gone, msg, ?_, rfl⟩)⟩, renders⟩
    simp [(image_frameOf forwarded).1]

theorem faithful_outside {event : Event} {next : Watched} (outside : event ≠ .reader)
    (faithful : Faithful connectionId watched handled cut) (taken : step watched event = some next) :
    Faithful connectionId next handled cut := by
  obtain ⟨frames, sent, progress, renders⟩ := faithful
  cases event with
  | reader => exact absurd rfl outside
  | message msg =>
    simp only [step] at taken
    split_ifs at taken with connected
    obtain rfl := Option.some.inj taken
    refine ⟨frames, by simp [sent], ?_, renders⟩
    revert progress
    simp only [Progress]
    cases watched.reader.pc <;> simp [connected]
  | handOff query =>
    simp only [step] at taken
    split_ifs at taken
    obtain rfl := Option.some.inj taken
    exact ⟨frames, sent, progress, renders⟩
  | closeReply reply =>
    obtain rfl := Option.some.inj taken
    exact ⟨frames, sent, progress, renders⟩
  | clientReads =>
    obtain rfl := Option.some.inj taken
    have same : watched.read ++ watched.reader.outbound.head?.toList ++ watched.reader.outbound.tail = watched.frames := by
      cases queue : watched.reader.outbound <;> simp [Watched.frames, queue]
    exact ⟨same.trans frames, sent, progress, renders.trans (by rw [← same]; rfl)⟩
  | stop | streamEnds | clientLeaves =>
    obtain rfl := Option.some.inj taken
    refine ⟨frames, sent, ?_, renders⟩
    revert progress
    simp only [Progress]
    cases watched.reader.pc <;> grind

end Fidelity

section Bare

def isLog : MuxServerMsg -> Bool
  | .log _ => true
  | _ => false

def bare (reader : Reader) : Reader :=
  { reader with
    inFlight := none
    fulfilled := []
    incoming := reader.incoming.filter fun msg => !isLog msg
    queries := []
    closedReplies := [] }

def logInHand : Pc -> Bool
  | .received msg | .drainAfter msg | .matching msg => isLog msg
  | _ => false

-- With a log in hand, or on the way back to `recv`, where the bare thread has waited all along.
def behind : Pc -> Bool
  | .top | .drainBefore => true
  | pc => logInHand pc

def waits (reader : Reader) : Reader :=
  { bare reader with pc := .receiving }

/-- The bare thread is in the same place, or waits for the next message: one that has met the stop flag
on the way waits forever. -/
def Stripped (reader shadow : Reader) : Prop :=
  (shadow = bare reader ∧ logInHand reader.pc = false) ∨
    (shadow = waits reader ∧ (behind reader.pc = true ∨ (reader.pc = .returned ∧ reader.stop = true)))

variable {reader next : Reader}

theorem bare_step (plain : logInHand reader.pc = false) (taken : reader.step = some next) :
    ((bare reader).step = some (bare next) ∧ logInHand next.pc = false) ∨
      (bare reader = waits next ∧ behind next.pc = true) := by
  cases pc : reader.pc with
  | top =>
    simp only [Reader.step, pc] at taken
    split_ifs at taken with stopped <;> obtain rfl := Option.some.inj taken
    · exact .inl ⟨by simp [Reader.step, bare, pc, stopped, Reader.exit], rfl⟩
    · exact .inl ⟨by simp [Reader.step, bare, pc, stopped], rfl⟩
  | drainBefore =>
    simp only [Reader.step, pc] at taken
    obtain rfl := Option.some.inj taken
    exact .inl ⟨by simp [Reader.step, bare, pc, Reader.drainQueries, Reader.retired], rfl⟩
  | receiving =>
    cases arrived : reader.incoming with
    | nil =>
      simp only [Reader.step, pc, arrived] at taken
      split_ifs at taken with eof
      obtain rfl := Option.some.inj taken
      exact .inl ⟨by simp [Reader.step, bare, pc, arrived, eof, Reader.exit], rfl⟩
    | cons msg rest =>
      simp only [Reader.step, pc, arrived] at taken
      obtain rfl := Option.some.inj taken
      cases log : isLog msg with
      | true => exact .inr ⟨by simp [waits, bare, pc, arrived, log], log⟩
      | false => exact .inl ⟨by simp [Reader.step, bare, pc, arrived, log], log⟩
  | received msg =>
    simp only [Reader.step, pc] at taken
    split_ifs at taken with stopped <;> obtain rfl := Option.some.inj taken
    · exact .inl ⟨by simp [Reader.step, bare, pc, stopped, Reader.exit], rfl⟩
    · exact .inl ⟨by simp [Reader.step, bare, pc, stopped], by simpa [logInHand, pc] using plain⟩
  | drainAfter msg =>
    simp only [Reader.step, pc] at taken
    obtain rfl := Option.some.inj taken
    exact .inl ⟨by simp [Reader.step, bare, pc, Reader.drainQueries, Reader.retired],
      by simpa [logInHand, pc] using plain⟩
  | matching msg =>
    have here : (bare reader).pc = .matching msg := pc
    rcases step_matching pc with ⟨json, rfl, _⟩ | ⟨frame, last, image, moves⟩ | ⟨rfl, moves⟩
    · simp [pc, logInHand, isLog] at plain
    · obtain rfl := Option.some.inj (moves.symm.trans taken)
      rcases step_matching here with ⟨json, rfl, _⟩ | ⟨_, _, same, moved⟩ | ⟨rfl, _⟩
      · cases image
      · obtain ⟨rfl, rfl⟩ : frame = _ ∧ last = _ := by simpa [image] using same
        exact .inl ⟨moved.trans (by simp [bare]), rfl⟩
      · cases image
    · obtain rfl := Option.some.inj (moves.symm.trans taken)
      rcases step_matching here with ⟨_, same, _⟩ | ⟨_, _, image, _⟩ | ⟨_, moved⟩
      · cases same
      · cases image
      · exact .inl ⟨moved, rfl⟩
  | sending frame last =>
    simp only [Reader.step, pc] at taken
    split_ifs at taken with connected room ending <;> obtain rfl := Option.some.inj taken
    · exact .inl ⟨by simp [Reader.step, bare, pc, connected, room, ending, Reader.forward, Reader.exit], rfl⟩
    · exact .inl ⟨by simp [Reader.step, bare, pc, connected, room, ending, Reader.forward], rfl⟩
    · exact .inl ⟨by simp [Reader.step, bare, pc, connected, Reader.exit], rfl⟩
  | returned => simp [Reader.step, pc] at taken

theorem behind_step (late : behind reader.pc = true) (taken : reader.step = some next) :
    (waits reader = bare next ∧ logInHand next.pc = false) ∨
      (waits reader = waits next ∧ (behind next.pc = true ∨ (next.pc = .returned ∧ next.stop = true))) := by
  cases pc : reader.pc with
  | top =>
    simp only [Reader.step, pc] at taken
    split_ifs at taken with stopped <;> obtain rfl := Option.some.inj taken
    · exact .inr ⟨by simp [waits, bare, Reader.exit], .inr ⟨rfl, stopped⟩⟩
    · exact .inr ⟨rfl, .inl rfl⟩
  | drainBefore =>
    simp only [Reader.step, pc] at taken
    obtain rfl := Option.some.inj taken
    exact .inl ⟨by simp [waits, bare, Reader.drainQueries], rfl⟩
  | received msg =>
    simp only [Reader.step, pc] at taken
    split_ifs at taken with stopped <;> obtain rfl := Option.some.inj taken
    · exact .inr ⟨by simp [waits, bare, Reader.exit], .inr ⟨rfl, stopped⟩⟩
    · exact .inr ⟨rfl, .inl (by simpa [behind, logInHand, pc] using late)⟩
  | drainAfter msg =>
    simp only [Reader.step, pc] at taken
    obtain rfl := Option.some.inj taken
    exact .inr ⟨by simp [waits, bare, Reader.drainQueries], .inl (by simpa [behind, logInHand, pc] using late)⟩
  | matching msg =>
    cases msg with
    | log json =>
      simp only [Reader.step, pc] at taken
      obtain rfl := Option.some.inj taken
      refine .inr ⟨?_, .inl rfl⟩
      rcases captureQueryLog_cases reader json with
        ⟨_, captured⟩ | ⟨_, _, ⟨_, captured⟩ | ⟨_, _, captured⟩ | ⟨_, _, _, captured⟩⟩ <;>
        simp [waits, bare, captured]
    | _ => simp [pc, behind, logInHand, isLog] at late
  | receiving | sending | returned => simp [pc, behind, logInHand] at late

theorem stripped_step {shadow : Reader} (stripped : Stripped reader shadow) (taken : reader.step = some next) :
    ∃ after, Stripped next after ∧ (shadow.step = some after ∨ shadow = after) := by
  rcases stripped with ⟨rfl, plain⟩ | ⟨rfl, late | ⟨gone, _⟩⟩
  · rcases bare_step plain taken with ⟨moved, still⟩ | ⟨waiting, late⟩
    · exact ⟨_, .inl ⟨rfl, still⟩, .inl moved⟩
    · exact ⟨_, .inr ⟨waiting, .inl late⟩, .inr rfl⟩
  · rcases behind_step late taken with ⟨caughtUp, still⟩ | ⟨waiting, late⟩
    · exact ⟨_, .inl ⟨caughtUp, still⟩, .inr rfl⟩
    · exact ⟨_, .inr ⟨waiting, late⟩, .inr rfl⟩
  · simp [Reader.step, gone] at taken

def outside : Event -> Option Event
  | .reader => none
  | event => some event

def surroundings : Event -> Option Event
  | .handOff _ | .closeReply _ | .message (.log _) => none
  | event => outside event

structure Undisturbed (watched shadow : Watched) : Prop where
  reader : Stripped watched.reader shadow.reader
  read : shadow.read = watched.read

theorem Stripped.outbound {shadow : Reader} (stripped : Stripped reader shadow) :
    shadow.outbound = reader.outbound ∧ shadow.renders = reader.renders ∧ shadow.eof = reader.eof := by
  rcases stripped with ⟨rfl, _⟩ | ⟨rfl, _⟩ <;> exact ⟨rfl, rfl, rfl⟩

theorem Stripped.change {shadow : Reader} (stripped : Stripped reader shadow) (change bareChange : Reader -> Reader)
    (pc : (change reader).pc = reader.pc) (stop : reader.stop = true -> (change reader).stop = true)
    (same : bareChange (bare reader) = bare (change reader))
    (waiting : bareChange (waits reader) = waits (change reader)) : Stripped (change reader) (bareChange shadow) := by
  rcases stripped with ⟨rfl, plain⟩ | ⟨rfl, late⟩
  · exact .inl ⟨same, by rwa [pc]⟩
  · rw [← pc] at late
    exact .inr ⟨waiting, late.imp id fun gone => ⟨gone.1, stop gone.2⟩⟩

theorem undisturbed_step (watched shadow : Watched) (event : Event) (next : Watched)
    (undisturbed : Undisturbed watched shadow) (taken : step watched event = some next) :
    ∃ events shadowNext, Transition.run step shadow events = some shadowNext ∧ Undisturbed next shadowNext ∧
      events.filterMap outside = (surroundings event).toList := by
  obtain ⟨stripped, read⟩ := undisturbed
  have both (after : Watched) (moved : step shadow event = some after) (kept : Undisturbed next after)
      (same : outside event = surroundings event) : ∃ events shadowNext,
        Transition.run step shadow events = some shadowNext ∧ Undisturbed next shadowNext ∧
          events.filterMap outside = (surroundings event).toList := by
    refine ⟨[event], after, by simp [Transition.run, moved], kept, ?_⟩
    rw [← same]
    cases seen : outside event <;> simp [seen]
  cases event with
  | reader =>
    obtain ⟨reader, thread, rfl⟩ := step_reader.mp taken
    obtain ⟨after, still, moved | rfl⟩ := stripped_step stripped thread
    · exact both _ (step_reader.mpr ⟨after, moved, rfl⟩) ⟨still, read⟩ rfl
    · exact ⟨[], shadow, rfl, ⟨still, read⟩, rfl⟩
  | handOff query =>
    simp only [step] at taken
    split_ifs at taken
    obtain rfl := Option.some.inj taken
    have still := stripped.change (fun reader => { reader with queries := reader.queries ++ [query] }) id rfl id rfl rfl
    exact ⟨[], shadow, rfl, ⟨still, read⟩, rfl⟩
  | closeReply reply =>
    obtain rfl := Option.some.inj taken
    have still := stripped.change
      (fun reader => { reader with closedReplies := reply :: reader.closedReplies }) id rfl id rfl rfl
    exact ⟨[], shadow, rfl, ⟨still, read⟩, rfl⟩
  | message msg =>
    simp only [step] at taken
    split_ifs at taken with connected
    obtain rfl := Option.some.inj taken
    cases log : isLog msg with
    | true =>
      have still := stripped.change (fun reader => { reader with incoming := reader.incoming ++ [msg] }) id rfl id
        (by simp [bare, log]) (by simp [waits, bare, log])
      refine ⟨[], shadow, rfl, ⟨still, read⟩, ?_⟩
      cases msg <;> simp [isLog] at log
      rfl
    | false =>
      have still := stripped.change (fun reader => { reader with incoming := reader.incoming ++ [msg] })
        (fun reader => { reader with incoming := reader.incoming ++ [msg] }) rfl id
        (by simp [bare, log]) (by simp [waits, bare, log])
      refine both _ (if_neg ?_) ⟨still, read⟩ ?_
      · rwa [stripped.outbound.2.2]
      · cases msg <;> simp [isLog] at log <;> rfl
  | stop =>
    obtain rfl := Option.some.inj taken
    have still := stripped.change (fun reader => { reader with stop := true })
      (fun reader => { reader with stop := true }) rfl (fun _ => rfl) rfl rfl
    exact both _ rfl ⟨still, read⟩ rfl
  | streamEnds =>
    obtain rfl := Option.some.inj taken
    have still := stripped.change (fun reader => { reader with eof := true })
      (fun reader => { reader with eof := true }) rfl id rfl rfl
    exact both _ rfl ⟨still, read⟩ rfl
  | clientLeaves =>
    obtain rfl := Option.some.inj taken
    have still := stripped.change (fun reader => { reader with receiverOpen := false })
      (fun reader => { reader with receiverOpen := false }) rfl id rfl rfl
    exact both _ rfl ⟨still, read⟩ rfl
  | clientReads =>
    obtain rfl := Option.some.inj taken
    have still := stripped.change (fun reader => { reader with outbound := reader.outbound.tail })
      (fun reader => { reader with outbound := reader.outbound.tail }) rfl id rfl rfl
    exact both _ rfl ⟨still, by rw [read, stripped.outbound.1]⟩ rfl

theorem undisturbed_initial (connectionId : String) : Undisturbed (initial connectionId) (initial connectionId) where
  reader := .inl ⟨rfl, rfl⟩
  read := rfl

end Bare

section Runs

theorem faithful_step (watched : Watched) (event : Event) (next : Watched) (connectionId : String)
    (faithful : ∃ handled cut, Faithful connectionId watched handled cut) (taken : step watched event = some next) :
    ∃ handled cut, Faithful connectionId next handled cut := by
  obtain ⟨handled, cut, faithful⟩ := faithful
  by_cases outside : event = .reader
  · subst outside
    obtain ⟨reader, thread, rfl⟩ := step_reader.mp taken
    exact faithful_moves faithful (step_moves thread) _
  · exact ⟨handled, cut, faithful_outside outside faithful taken⟩

/-- Over every run of a relay the client gets its connection id and then the messages in order, up to the
cut; and there is a run in the same surroundings, without the logs and queries, with the same frames. -/
theorem render_stream_fidelity {connectionId : String} {events : List Event} {watched : Watched}
    (ran : Transition.run step (initial connectionId) events = some watched) :
    (∃ handled cut, Faithful connectionId watched handled cut) ∧
      ∃ others shadow, Transition.run step (initial connectionId) others = some shadow ∧
        others.filterMap outside = events.filterMap surroundings ∧ shadow.frames = watched.frames ∧
        shadow.reader.renders = watched.reader.renders := by
  constructor
  · exact Transition.invariant_of_run (fun state event next => faithful_step state event next connectionId)
      ⟨[], [], faithful_initial connectionId⟩ ran
  · obtain ⟨others, shadow, shadowRan, ⟨stripped, read⟩, same⟩ :=
      Transition.run_matched undisturbed_step (undisturbed_initial connectionId) ran
    refine ⟨others, shadow, shadowRan, same, ?_, stripped.outbound.2.1⟩
    rw [Watched.frames, read, stripped.outbound.1, Watched.frames]

def exitRun : List Event :=
  [.message (.log "late"), .message (.render [1, 2]), .message (.event (.exit "bye")), .message (.render [3])] ++
    List.replicate 20 .reader

theorem render_stream_fidelity_exit :
    ∃ watched, Transition.run step (initial "c") exitRun = some watched ∧ watched.reader.pc = .returned ∧
      watched.frames = [connectionIdFrame "c", .render [1, 2], .control "exit" "bye"] ∧
      ∃ handled cut, Faithful "c" watched handled cut :=
  ⟨_, rfl, rfl, rfl, (render_stream_fidelity (rfl : Transition.run step (initial "c") exitRun = some _)).1⟩

end Runs

end Muxrd.Watch
