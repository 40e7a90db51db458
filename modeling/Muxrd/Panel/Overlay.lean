import Muxrd.Panel.Pairing

set_option autoImplicit false

namespace Muxrd.Panel

open Pairing

structure Opening (messages : List Message) (overlay : QrOverlay) (before : List Message) (event : KeyEvent)
    (later : List Message) (request : TokenQr) : Prop where
  split : messages = before ++ .key event :: later
  closed : (panel before).qrOverlay = none
  requested : requests (update (panel before) (.key event)).2 = [request]
  held : (panel before).tokens.lastMintedSecret = some ⟨overlay.tokenName, request.token, request.readOnly⟩
  seq : request.seq = overlay.seq
  readOnly : request.readOnly = overlay.readOnly
  live : ∀ shown, shown <+: later ->
    ∃ up, (panel (before ++ .key event :: shown)).qrOverlay = some up ∧ up.seq = overlay.seq

structure Shown (messages : List Message) (overlay : QrOverlay) (before : List Message) (ready : QrReady)
    (later : List Message) : Prop where
  split : messages = before ++ .tokenQrReady ready :: later
  seq : ready.seq = overlay.seq
  phase : overlay.phase = .showing ready.uri ready.host ready.port ready.fingerprintShort
  baseline : overlay.baselineClients = ready.baselineClients
  unchanged : ∀ shown, shown <+: later -> ∃ up, (panel (before ++ .tokenQrReady ready :: shown)).qrOverlay = some up ∧
    up.phase = overlay.phase ∧ up.baselineClients = overlay.baselineClients ∧ up.seq = overlay.seq

/-- A result carries the number of a request made before it, and the code that was built for it. -/
def Answered (built : TokenQr -> String -> Prop) (before : List Message) : Message -> Prop
  | .tokenQrReady ready => ∃ request ∈ asked before, request.seq = ready.seq ∧ built request ready.uri
  | .tokenQrFailed _ seq => ∃ request ∈ asked before, request.seq = seq
  | _ => True

def Answers (built : TokenQr -> String -> Prop) (messages : List Message) : Prop :=
  ∀ before message, before ++ [message] <+: messages -> Answered built before message

/-- What the overlay promises in a run, in every state that the run passes through. -/
structure OverlayFaithful (built : TokenQr -> String -> Prop) (messages : List Message) : Prop where
  showing : ∀ reached overlay uri host port fingerprint, reached <+: messages ->
    (panel reached).qrOverlay = some overlay -> overlay.phase = .showing uri host port fingerprint ->
    ∃ before event later request, Opening reached overlay before event later request ∧ built request uri
  -- Only a key press opens an overlay.
  closed : ∀ before message, before ++ [message] <+: messages -> (panel before).qrOverlay = none ->
    (∀ event, message ≠ .key event) -> (panel (before ++ [message])).qrOverlay = none
  reopened : ∀ before closed reached first second, before <+: closed -> closed <+: reached -> reached <+: messages ->
    (panel before).qrOverlay = some first -> (panel closed).qrOverlay = none ->
    (panel reached).qrOverlay = some second -> first.seq ≠ second.seq
  connected : ∀ reached message overlay, reached ++ [message] <+: messages ->
    (panel (reached ++ [message])).qrOverlay = some overlay -> overlay.phase = .connected ->
    (∀ earlier, (panel reached).qrOverlay = some earlier -> earlier.phase ≠ .connected) ->
    ∃ info earlier before ready later, message = .statusLoaded (some info) ∧
      (panel reached).qrOverlay = some earlier ∧ earlier.seq = overlay.seq ∧
      Shown reached earlier before ready later ∧ ready.baselineClients < info.clientCount

section Steps

variable {before next : Pairing} {message : Message} {made : List TokenQr} {overlay : QrOverlay}

theorem Pairing.Effect.counted (effect : Effect before message next made) :
    made = [] ∧ next.seq = before.seq ∨
      ∃ request, made = [request] ∧ request.seq = before.seq + 1 ∧ next.seq = before.seq + 1 := by
  cases effect with
  | requested screen clear held => exact .inr ⟨_, rfl, rfl, rfl⟩
  | _ => exact .inl ⟨rfl, rfl⟩

theorem Pairing.Effect.up (effect : Effect before message next made) (up : next.overlay = some overlay) :
    (∃ earlier, before.overlay = some earlier ∧ earlier.seq = overlay.seq ∧
        earlier.tokenName = overlay.tokenName ∧ earlier.readOnly = overlay.readOnly) ∨
      ∃ event request, message = .key event ∧ made = [request] ∧ before.overlay = none ∧
        before.secret = some ⟨overlay.tokenName, request.token, request.readOnly⟩ ∧
        request.seq = overlay.seq ∧ request.readOnly = overlay.readOnly := by
  cases effect with
  | kept | entered | minted | changed | dismissed => exact .inl ⟨overlay, up, rfl, rfl, rfl⟩
  | @requested event secret trust screen clear held =>
    obtain rfl : before.opened secret = overlay := Option.some.inj up
    exact .inr ⟨event, _, rfl, rfl, clear, held, rfl, rfl⟩
  | closed => cases up
  | ticked earlier | connected earlier | ready earlier | failed earlier =>
    obtain rfl := Option.some.inj up
    exact .inl ⟨_, earlier, rfl, rfl, rfl⟩

theorem Pairing.Effect.shows (effect : Effect before message next made) (up : next.overlay = some overlay)
    (showing : overlay.phase.isShowing = true) :
    (∃ earlier, before.overlay = some earlier ∧ earlier.seq = overlay.seq ∧ earlier.phase = overlay.phase ∧
        earlier.baselineClients = overlay.baselineClients) ∨
      ∃ ready, message = .tokenQrReady ready ∧ ready.seq = overlay.seq ∧
        overlay.phase = .showing ready.uri ready.host ready.port ready.fingerprintShort ∧
        overlay.baselineClients = ready.baselineClients := by
  cases effect with
  | kept | entered | minted | changed | dismissed => exact .inl ⟨overlay, up, rfl, rfl, rfl⟩
  | closed => cases up
  | ticked earlier =>
    obtain rfl := Option.some.inj up
    exact .inl ⟨_, earlier, rfl, rfl, rfl⟩
  | @ready _ result earlier current =>
    obtain rfl := Option.some.inj up
    exact .inr ⟨result, rfl, current.symm, rfl, rfl⟩
  | requested | connected | failed =>
    obtain rfl := Option.some.inj up
    cases showing

theorem Pairing.Effect.connects (effect : Effect before message next made) (up : next.overlay = some overlay)
    (connected : overlay.phase = .connected) :
    (∃ earlier, before.overlay = some earlier ∧ earlier.phase = .connected) ∨
      ∃ earlier info, message = .statusLoaded (some info) ∧ before.overlay = some earlier ∧
        earlier.seq = overlay.seq ∧ earlier.phase.isShowing = true ∧
        earlier.baselineClients < info.clientCount := by
  cases effect with
  | kept | entered | minted | changed | dismissed => exact .inl ⟨overlay, up, connected⟩
  | closed => cases up
  | ticked earlier =>
    obtain rfl := Option.some.inj up
    exact .inl ⟨_, earlier, connected⟩
  | @connected _ info earlier showing risen =>
    obtain rfl := Option.some.inj up
    exact .inr ⟨_, info, rfl, earlier, rfl, showing, risen⟩
  | requested | ready | failed =>
    obtain rfl := Option.some.inj up
    cases connected

end Steps

section Numbering

theorem numbered (messages : List Message) :
    (asked messages).map (·.seq) = (List.range (asked messages).length).map (fun n => UInt64.ofNat (n + 1)) ∧
      (panel messages).qrSeq = UInt64.ofNat (asked messages).length := by
  induction messages using List.reverseRecOn with
  | nil => exact ⟨rfl, rfl⟩
  | append_singleton messages message ih =>
    rw [asked_snoc, panel_snoc]
    rcases (update_effect (panel messages) message).counted with ⟨nothing, same⟩ | ⟨request, one, seq, next⟩
    · simp only [AppState.pairing] at same
      rw [nothing, List.append_nil, same]
      exact ih
    · simp only [AppState.pairing] at seq next
      have following : (panel messages).qrSeq + 1 = UInt64.ofNat ((asked messages).length + 1) := by
        rw [ih.2]
        simp
      rw [one, next, following]
      simp [List.range_succ, ih.1, seq, following]

theorem asked_nodup {messages : List Message} (few : (asked messages).length < UInt64.size) :
    ((asked messages).map (·.seq)).Nodup := by
  rw [(numbered messages).1]
  apply List.Nodup.map_on _ List.nodup_range
  intro first inFirst second inSecond same
  rw [List.mem_range] at inFirst inSecond
  have numbers := congrArg UInt64.toNat same
  rw [UInt64.toNat_ofNat_of_lt' (by omega), UInt64.toNat_ofNat_of_lt' (by omega)] at numbers
  omega

theorem request_unique {messages : List Message} {first second : TokenQr}
    (few : (asked messages).length < UInt64.size) (inFirst : first ∈ asked messages)
    (inSecond : second ∈ asked messages) (same : first.seq = second.seq) : first = second :=
  List.inj_on_of_nodup_map (asked_nodup few) inFirst inSecond same

end Numbering

section Histories

variable {messages before later : List Message} {message : Message} {overlay earlier : QrOverlay}

theorem Opening.mem_asked {event : KeyEvent} {request : TokenQr}
    (opening : Opening messages overlay before event later request) : request ∈ asked messages := by
  have reached : before ++ [.key event] <+: messages := by
    rw [opening.split]
    exact ⟨later, by simp⟩
  apply (asked_grows reached).subset
  rw [asked_snoc, opening.requested]
  simp

theorem opened_by (up : (panel messages).qrOverlay = some overlay) :
    ∃ before event later request, Opening messages overlay before event later request := by
  induction messages using List.reverseRecOn generalizing overlay with
  | nil => cases up
  | append_singleton messages message ih =>
    have now := up
    rw [panel_snoc] at up
    rcases (update_effect (panel messages) message).up up with
      ⟨earlier, wasUp, seq, name, readOnly⟩ | ⟨event, request, rfl, requested, closed, held, seq, readOnly⟩
    · obtain ⟨before, event, later, request, opening⟩ := ih wasUp
      refine ⟨before, event, later ++ [message], request, ?_⟩
      constructor
      case split => simp [opening.split]
      case closed => exact opening.closed
      case requested => exact opening.requested
      case held => rw [← name]; exact opening.held
      case seq => exact opening.seq.trans seq
      case readOnly => exact opening.readOnly.trans readOnly
      case live =>
        intro shown within
        rcases List.prefix_concat_iff.mp within with rfl | within
        · rw [← List.cons_append, ← List.append_assoc, ← opening.split]
          exact ⟨overlay, now, rfl⟩
        · obtain ⟨up, isUp, same⟩ := opening.live shown within
          exact ⟨up, isUp, same.trans seq⟩
    · refine ⟨messages, event, [], request, ?_⟩
      constructor
      case split => rfl
      case closed => exact closed
      case requested => exact requested
      case held => exact held
      case seq => exact seq
      case readOnly => exact readOnly
      case live =>
        intro shown within
        rw [List.prefix_nil.mp within]
        exact ⟨overlay, now, rfl⟩

theorem shown_by (up : (panel messages).qrOverlay = some overlay) (showing : overlay.phase.isShowing = true) :
    ∃ before ready later, Shown messages overlay before ready later := by
  induction messages using List.reverseRecOn generalizing overlay with
  | nil => cases up
  | append_singleton messages message ih =>
    have now := up
    rw [panel_snoc] at up
    rcases (update_effect (panel messages) message).shows up showing with
      ⟨earlier, wasUp, seq, phase, baseline⟩ | ⟨ready, rfl, seq, phase, baseline⟩
    · obtain ⟨before, ready, later, shown⟩ := ih wasUp (by rw [phase]; exact showing)
      refine ⟨before, ready, later ++ [message], ?_⟩
      constructor
      case split => simp [shown.split]
      case seq => exact shown.seq.trans seq
      case phase => exact phase.symm.trans shown.phase
      case baseline => exact baseline.symm.trans shown.baseline
      case unchanged =>
        intro since within
        rcases List.prefix_concat_iff.mp within with rfl | within
        · rw [← List.cons_append, ← List.append_assoc, ← shown.split]
          exact ⟨overlay, now, rfl, rfl, rfl⟩
        · obtain ⟨up, isUp, samePhase, sameBaseline, sameSeq⟩ := shown.unchanged since within
          exact ⟨up, isUp, samePhase.trans phase, sameBaseline.trans baseline, sameSeq.trans seq⟩
    · refine ⟨messages, ready, [], ?_⟩
      constructor
      case split => rfl
      case seq => exact seq
      case phase => exact phase
      case baseline => exact baseline
      case unchanged =>
        intro since within
        rw [List.prefix_nil.mp within]
        exact ⟨overlay, now, rfl, rfl, rfl⟩

theorem Opening.closed_before {event : KeyEvent} {request : TokenQr} {closed : List Message}
    (opening : Opening messages overlay before event later request) (within : closed <+: messages)
    (down : (panel closed).qrOverlay = none) : closed <+: before := by
  have pressed : before ++ [.key event] <+: messages := by
    rw [opening.split]
    exact ⟨later, by simp⟩
  have notSince (since : List Message) (inside : since <+: later) : closed ≠ before ++ .key event :: since := by
    rintro rfl
    obtain ⟨up, isUp, _⟩ := opening.live since inside
    rw [isUp] at down
    cases down
  rcases List.prefix_or_prefix_of_prefix within pressed with inside | ⟨since, rfl⟩
  · rcases List.prefix_concat_iff.mp inside with same | inside
    · exact absurd same (notSince [] List.nil_prefix)
    · exact inside
  · rw [opening.split, List.append_assoc, List.prefix_append_right_inj] at within
    exact absurd (by simp) (notSince since (List.cons_prefix_cons.mp within).2)

theorem Opening.seq_apart {whole : List Message} (few : (asked whole).length < UInt64.size) {event : KeyEvent}
    {request first : TokenQr} (opening : Opening messages overlay before event later request)
    (within : messages <+: whole) (asks : first ∈ asked before) : first.seq ≠ request.seq := by
  have pressed : before ++ [.key event] <+: whole := by
    refine List.IsPrefix.trans ?_ within
    rw [opening.split]
    exact ⟨later, by simp⟩
  have distinct := asked_nodup few
  obtain ⟨rest, following⟩ := asked_grows pressed
  rw [← following, asked_snoc, opening.requested, List.map_append, List.map_append] at distinct
  have apart := (List.nodup_append.mp (List.nodup_append.mp distinct).1).2.2
  exact apart first.seq (List.mem_map_of_mem asks) request.seq (by simp)

end Histories

/-- The overlay shows the code of the very request its key press made, whatever results are in flight. -/
theorem overlay_shows_its_token (built : TokenQr -> String -> Prop) (messages : List Message)
    (few : (asked messages).length < UInt64.size) (answers : Answers built messages) :
    OverlayFaithful built messages := by
  constructor
  case showing =>
    intro reached overlay uri host port fingerprint within up phase
    obtain ⟨before, event, later, request, opening⟩ := opened_by up
    obtain ⟨earlier, ready, since, shown⟩ := shown_by up (by rw [phase]; rfl)
    have uris : ready.uri = uri := by
      have same := shown.phase.symm.trans phase
      simp only [QrOverlayPhase.showing.injEq] at same
      exact same.1
    have came : earlier ++ [.tokenQrReady ready] <+: reached := by
      rw [shown.split]
      exact ⟨since, by simp⟩
    obtain ⟨answered, asks, seq, builds⟩ := answers earlier (.tokenQrReady ready) (came.trans within)
    have asksBefore : answered ∈ asked messages :=
      (asked_grows ((List.prefix_append _ _).trans (came.trans within))).subset asks
    have one : answered = request := by
      apply request_unique few asksBefore ((asked_grows within).subset opening.mem_asked)
      rw [seq, shown.seq, opening.seq]
    rw [one, uris] at builds
    exact ⟨before, event, later, request, opening, builds⟩
  case closed =>
    intro before message within down noKey
    rw [panel_snoc]
    by_contra up
    obtain ⟨overlay, up⟩ := Option.ne_none_iff_exists'.mp up
    rcases (update_effect (panel before) message).up up with ⟨earlier, wasUp, _⟩ | ⟨event, _, pressed, _⟩
    · simp only [AppState.pairing, down] at wasUp
      cases wasUp
    · exact noKey event pressed
  case reopened =>
    intro before closed reached first second toClosed toReached within firstUp down secondUp same
    obtain ⟨_, _, _, firstRequest, firstOpening⟩ := opened_by firstUp
    obtain ⟨earlier, event, later, request, opening⟩ := opened_by secondUp
    have asksFirst : firstRequest ∈ asked earlier := by
      have inside := toClosed.trans (opening.closed_before toReached down)
      exact (asked_grows inside).subset firstOpening.mem_asked
    apply opening.seq_apart few within asksFirst
    rw [firstOpening.seq, opening.seq, same]
  case connected =>
    intro reached message overlay within up connected fresh
    rw [panel_snoc] at up
    rcases (update_effect (panel reached) message).connects up connected with
      ⟨earlier, wasUp, was⟩ | ⟨earlier, info, status, wasUp, seq, showing, risen⟩
    · exact absurd was (fresh earlier wasUp)
    · obtain ⟨before, ready, later, shown⟩ := shown_by wasUp showing
      rw [shown.baseline] at risen
      exact ⟨info, earlier, before, ready, later, status, wasUp, seq, shown, risen⟩

section Overtaken

instance (built : TokenQr -> String -> Prop) [DecidableRel built] (before : List Message) :
    (message : Message) -> Decidable (Answered built before message)
  | .tokenQrReady _ => inferInstanceAs (Decidable (∃ request ∈ asked before, _))
  | .tokenQrFailed _ _ => inferInstanceAs (Decidable (∃ request ∈ asked before, _))
  | .key _ | .tick | .quit | .navTo _ | .statusLoaded _ | .configLoaded _ | .certEnsured _ _ | .actionFailed _
  | .actionOk _ | .tokensLoaded _ | .tokenCreated _ _ _ | .tokensChanged | .certInfoLoaded _ _ => .isTrue trivial

instance (built : TokenQr -> String -> Prop) [DecidableRel built] (messages : List Message) :
    Decidable (Answers built messages) :=
  decidable_of_iff _ Controller.forall_prefix_iff.symm

def codeFor (token : String) (seq : UInt64) : Message :=
  .tokenQrReady { uri := token, host := "10.0.0.2", port := 50051, fingerprintShort := "ab", baselineClients := 1, seq }

def overtaken : List Message :=
  [.navTo .tokens, .tokenCreated "one" "first" false, press .enter, press .esc, .tokenCreated "two" "second" true,
    press .enter, codeFor "two" 2, codeFor "one" 1]

theorem overlay_shows_its_token_overtaken :
    OverlayFaithful (fun request uri => uri = request.token) overtaken ∧
      (panel overtaken).qrOverlay = some
        { phase := .showing "two" "10.0.0.2" 50051 "ab", seq := 2, baselineClients := 1, tokenName := "second",
          readOnly := true, tickCounter := 0 } :=
  ⟨overlay_shows_its_token _ overtaken (by decide) (by decide), by decide⟩

end Overtaken

end Muxrd.Panel
