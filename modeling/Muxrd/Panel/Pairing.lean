import Muxrd.Lib.Controller
import Muxrd.Panel.Keys

set_option autoImplicit false

namespace Muxrd.Panel

/-- What of the panel decides which secret can be read off it. -/
structure Pairing where
  screen : Screen
  secret : Option MintedSecret
  overlay : Option QrOverlay
  seq : UInt64
  deriving DecidableEq, Repr

def AppState.pairing (state : AppState) : Pairing :=
  { screen := state.screen, secret := state.tokens.lastMintedSecret, overlay := state.qrOverlay,
    seq := state.qrSeq }

def UpdateAction.qrRequest : UpdateAction -> Option TokenQr
  | .showTokenQr request => some request
  | _ => none

def requests (actions : List UpdateAction) : List TokenQr :=
  actions.filterMap (·.qrRequest)

@[simp] theorem requests_append (first second : List UpdateAction) :
    requests (first ++ second) = requests first ++ requests second :=
  List.filterMap_append

namespace Pairing

def enter (pairing : Pairing) (screen : Screen) : Pairing :=
  { pairing with screen, secret := if screen = .tokens then none else pairing.secret }

def opened (pairing : Pairing) (secret : MintedSecret) : QrOverlay :=
  { phase := .generating, seq := pairing.seq + 1, baselineClients := 0, tokenName := secret.name,
    readOnly := secret.readOnly, tickCounter := 0 }

def target (pairing : Pairing) : Message -> Option Screen
  | .navTo screen => some screen
  | .key event =>
    if pairing.overlay.isSome then none
    else
      match event.code with
      | .tab => some pairing.screen.next
      | .backTab => some pairing.screen.prev
      | .right | .down => if pairing.screen = .dashboard then some pairing.screen.next else none
      | .left | .up => if pairing.screen = .dashboard then some pairing.screen.prev else none
      | _ => none
  | _ => none

inductive Effect (before : Pairing) : Message -> Pairing -> List TokenQr -> Prop
  | kept {message : Message} : Effect before message before []
  | entered {message : Message} {screen : Screen} (moves : before.target message = some screen) :
      Effect before message (before.enter screen) []
  | minted {token name : String} {readOnly : Bool} :
      Effect before (.tokenCreated token name readOnly) { before with secret := some ⟨name, token, readOnly⟩ } []
  | changed : Effect before .tokensChanged { before with secret := none } []
  | dismissed {event : KeyEvent} (screen : before.screen = .tokens) (none_up : before.overlay = none) :
      Effect before (.key event) { before with secret := none } []
  | requested {event : KeyEvent} {secret : MintedSecret} {trust : AdvertiseTrust}
      (screen : before.screen = .tokens) (none_up : before.overlay = none) (held : before.secret = some secret) :
      Effect before (.key event) { before with seq := before.seq + 1, overlay := some (before.opened secret) }
        [⟨secret.plaintext, secret.readOnly, before.seq + 1, trust⟩]
  | closed {event : KeyEvent} : Effect before (.key event) { before with overlay := none } []
  | ticked {overlay : QrOverlay} (up : before.overlay = some overlay) :
      Effect before .tick
        { before with overlay := some { overlay with tickCounter := overlay.tickCounter + 1 } } []
  | connected {overlay : QrOverlay} {info : ServerInfo} (up : before.overlay = some overlay)
      (showing : overlay.phase.isShowing = true) (risen : overlay.baselineClients < info.clientCount) :
      Effect before (.statusLoaded (some info))
        { before with overlay := some { overlay with phase := .connected } } []
  | ready {overlay : QrOverlay} {result : QrReady} (up : before.overlay = some overlay)
      (current : overlay.seq = result.seq) :
      Effect before (.tokenQrReady result)
        { before with overlay := some { overlay with
            baselineClients := result.baselineClients
            phase := .showing result.uri result.host result.port result.fingerprintShort } } []
  | failed {overlay : QrOverlay} {err : String} {seq : UInt64} (up : before.overlay = some overlay)
      (current : overlay.seq = seq) :
      Effect before (.tokenQrFailed err seq)
        { before with overlay := some { overlay with phase := .failed err } } []

end Pairing

section Quiet

variable {state : AppState}

def Quiet (state : AppState) (result : AppState × List UpdateAction) : Prop :=
  result.1.pairing = state.pairing ∧ requests result.2 = []

theorem pollScreen_quiet : Quiet state (pollScreen state) := by
  unfold pollScreen
  dsimp only
  split_ifs <;> exact ⟨rfl, rfl⟩

end Quiet

section Effects

open Pairing

variable {state : AppState} {key : KeyEvent}

theorem transitionTo_pairing (next : Screen) :
    (transitionTo state next).1.pairing = state.pairing.enter next ∧ requests (transitionTo state next).2 = [] := by
  cases next <;> exact ⟨rfl, rfl⟩

theorem transitionTo_effect {message : Message} {next : Screen} (moves : state.pairing.target message = some next) :
    Effect state.pairing message (transitionTo state next).1.pairing (requests (transitionTo state next).2) := by
  rw [(transitionTo_pairing next).1, (transitionTo_pairing next).2]
  exact .entered moves

theorem target_key (clear : state.qrOverlay = none) :
    state.pairing.target (.key key) = state.screen.following key.code := by
  simp only [target, AppState.pairing, clear, Option.isSome_none, Bool.false_eq_true, if_false]
  cases key.code <;> rfl

theorem KeyStep.effect {result : AppState × List UpdateAction} (step : KeyStep state key result) :
    Effect state.pairing (.key key) result.1.pairing (requests result.2) := by
  cases step with
  | closed up => exact .closed
  | entered clear moves => exact transitionTo_effect ((target_key clear).trans moves)
  | revoked name status screen clear => exact .dismissed screen clear
  | dismissed screen clear => exact .dismissed screen clear
  | opened screen clear held =>
    rw [openOverlay, held]
    exact .requested screen clear held
  | _ => exact .kept

theorem pollOverlay_effect (state : AppState) :
    Effect state.pairing .tick (pollOverlay state).1.pairing (requests (pollOverlay state).2) := by
  unfold pollOverlay
  split
  · next overlay up =>
    dsimp only
    split_ifs
    · exact .ticked up
    · exact .ticked up
    · exact .kept
  · exact .kept

theorem handleTick_effect :
    Effect state.pairing .tick (handleTick state).1.pairing (requests (handleTick state).2) := by
  have screen : Quiet state (pollScreen state) := pollScreen_quiet
  have overlay := pollOverlay_effect (pollScreen state).1
  unfold handleTick
  rw [requests_append, screen.2, List.nil_append, ← screen.1]
  exact overlay

theorem checkOverlayConnection_effect (state : AppState) {info : ServerInfo} :
    Effect state.pairing (.statusLoaded (some info)) (checkOverlayConnection state info.clientCount).pairing [] := by
  unfold checkOverlayConnection
  split
  · next overlay up =>
    split_ifs with risen
    · simp only [Bool.and_eq_true, decide_eq_true_eq] at risen
      exact .connected up risen.1 risen.2
    · exact .kept
  · exact .kept

@[simp] theorem clearLoading_pairing : (clearLoading state).pairing = state.pairing := rfl

@[simp] theorem report_pairing (text : String) : (report state text).pairing = state.pairing := by
  unfold report
  split <;> rfl

theorem tokenQrReady_effect {ready : QrReady} :
    Effect state.pairing (.tokenQrReady ready) (tokenQrReady state ready).pairing [] := by
  unfold tokenQrReady withOverlay
  split
  · next overlay up =>
    split_ifs with current
    · exact .ready up current
    · exact .kept
  · exact .kept

theorem tokenQrFailed_effect {err : String} {seq : UInt64} :
    Effect state.pairing (.tokenQrFailed err seq) (tokenQrFailed state err seq).pairing [] := by
  unfold tokenQrFailed withOverlay
  split
  · next overlay up =>
    split_ifs with current
    · exact .failed up current
    · exact .kept
  · exact .kept

theorem handleKey_enters {screen : Screen} (moves : state.pairing.target (.key key) = some screen) :
    (handleKey state key).1.pairing = state.pairing.enter screen := by
  have clear : state.qrOverlay = none := by
    by_contra up
    rw [← ne_eq, Option.ne_none_iff_isSome] at up
    simp [target, AppState.pairing, up] at moves
  have arrow {next : Screen} (only : (if state.screen = .dashboard then some next else none) = some screen) :
      state.screen = .dashboard ∧ next = screen := by
    split_ifs at only with dashboard
    exact ⟨dashboard, Option.some.inj only⟩
  cases code : key.code with
  | tab | backTab =>
    obtain rfl : _ = screen := by simpa [target, AppState.pairing, clear, code] using moves
    simp [handleKey, clear, code, transitionTo_pairing]
  | right | down | left | up =>
    simp only [target, AppState.pairing, clear, code, Option.isSome_none] at moves
    obtain ⟨dashboard, rfl⟩ := arrow moves
    simp [handleKey, clear, code, handleScreenKey, dashboard, handleNavKeys, transitionTo_pairing]
  | char c => simp [target, AppState.pairing, clear, code] at moves
  | enter | esc | backspace | other => simp [target, AppState.pairing, clear, code] at moves

theorem update_effect (state : AppState) (message : Message) :
    Effect state.pairing message (update state message).1.pairing (requests (update state message).2) := by
  cases message with
  | key event => exact (handleKey_step state).effect
  | tick => exact handleTick_effect
  | quit => exact .kept
  | navTo screen => exact transitionTo_effect rfl
  | statusLoaded info =>
    cases info with
    | none => exact .kept
    | some info =>
      exact checkOverlayConnection_effect
        { state with server := { state.server with status := some info, stopped := false, loading := false } }
  | configLoaded snapshot => exact .kept
  | certEnsured fingerprint sans => exact .kept
  | actionFailed text =>
    simp only [update, clearLoading_pairing, report_pairing]
    exact .kept
  | actionOk text =>
    simp only [update, clearLoading_pairing, report_pairing]
    exact .kept
  | tokensLoaded records => exact .kept
  | tokenCreated token name readOnly => exact .minted
  | tokensChanged => exact .changed
  | tokenQrReady ready => exact tokenQrReady_effect
  | tokenQrFailed err seq => exact tokenQrFailed_effect
  | certInfoLoaded fingerprint sans => exact .kept

theorem update_enters {message : Message} {screen : Screen} (moves : state.pairing.target message = some screen) :
    (update state message).1.pairing = state.pairing.enter screen := by
  cases message with
  | key event => exact handleKey_enters moves
  | navTo next =>
    obtain rfl : next = screen := Option.some.inj moves
    exact (transitionTo_pairing next).1
  | _ => simp [target] at moves

end Effects

section Runs

def press (code : KeyCode) : Message :=
  .key { code, control := false }

def panel (messages : List Message) : AppState :=
  Controller.after update .new messages

/-- The codes that a run has asked for, one for every overlay it has opened. -/
def asked (messages : List Message) : List TokenQr :=
  requests (Controller.emitted update .new messages)

@[simp] theorem panel_snoc (messages : List Message) (message : Message) :
    panel (messages ++ [message]) = (update (panel messages) message).1 :=
  Controller.after_snoc _ _ _

@[simp] theorem asked_snoc (messages : List Message) (message : Message) :
    asked (messages ++ [message]) = asked messages ++ requests (update (panel messages) message).2 := by
  simp [asked, panel]

theorem asked_grows {first second : List Message} (within : first <+: second) : asked first <+: asked second := by
  obtain ⟨rest, rfl⟩ := within
  simp [asked, Controller.emitted_append]

end Runs

end Muxrd.Panel
