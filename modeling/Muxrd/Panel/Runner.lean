import Mathlib.Data.List.Count
import Muxrd.Lib.Run
import Muxrd.Panel.Pairing

set_option autoImplicit false

namespace Muxrd.Panel

section Tasks

inductive Outcome
  | done
  | failed (err : String)
  | status (info : Option ServerInfo)
  | config (snapshot : ConfigSnapshot)
  | tokens (records : List TokenRecord)
  | token (token name : String)
  | cert (fingerprint : String)
  -- The certificate is there, and its fingerprint is not.
  | unreadable (err : String)
  | certInfo (fingerprint : Option String) (sans : List String)
  | code (uri host : String) (port : UInt16) (fingerprintShort : String) (baselineClients : Nat)
  deriving DecidableEq, Repr

def UpdateAction.synchronous : UpdateAction -> Bool
  | .quit | .saveAdvertiseTrust _ => true
  | _ => false

def taskMessage : UpdateAction -> Outcome -> Option Message
  | .refreshStatus, .status info => some (.statusLoaded info)
  | .startServer, .status info => some (.statusLoaded info)
  | .startServer, .failed err => some (.actionFailed err)
  | .stopServer, .done => some (.statusLoaded none)
  | .stopServer, .failed err => some (.actionFailed err)
  | .loadConfig, .config snapshot => some (.configLoaded snapshot)
  | .loadConfig, .failed err => some (.actionFailed ("Config load failed: " ++ err))
  | .saveBind addr, .done => some (.actionOk ("Saved bind address: " ++ addr))
  | .saveBind _, .failed err => some (.actionFailed err)
  | .ensureCert sans, .cert fingerprint => some (.certEnsured fingerprint (sans.map (·.value)))
  | .ensureCert _, .failed err => some (.actionFailed ("Cert generation failed: " ++ err))
  | .ensureCert _, .unreadable err => some (.actionFailed ("Fingerprint failed: " ++ err))
  | .loadTokens, .tokens records => some (.tokensLoaded records)
  | .loadTokens, .failed err => some (.actionFailed ("list tokens failed: " ++ err))
  | .createToken _ readOnly, .token token name => some (.tokenCreated token name readOnly)
  | .createToken _ _, .failed err => some (.actionFailed ("create token failed: " ++ err))
  | .revokeToken _, .done => some .tokensChanged
  | .revokeToken _, .failed err => some (.actionFailed ("revoke token failed: " ++ err))
  | .loadCertInfo, .certInfo fingerprint sans => some (.certInfoLoaded fingerprint sans)
  | .loadCertInfo, .failed err => some (.actionFailed ("cert info: " ++ err))
  | .showTokenQr request, .code uri host port fingerprintShort baselineClients =>
    some (.tokenQrReady { uri, host, port, fingerprintShort, baselineClients, seq := request.seq })
  | .showTokenQr request, .failed err => some (.tokenQrFailed err request.seq)
  | _, _ => none

/-- The panel and the tasks it has spawned that have sent nothing yet. -/
structure Live where
  state : AppState
  tasks : List UpdateAction
  deriving DecidableEq, Repr

def Live.start (trust : AdvertiseTrust) : Live :=
  { state := { AppState.new with cert := { AppState.new.cert with advertiseTrust := trust } }, tasks := [] }

def Live.take (live : Live) (message : Message) : Live :=
  let result := update live.state message
  { state := result.1, tasks := live.tasks ++ result.2.filter fun action => !action.synchronous }

def Message.isInput : Message -> Bool
  | .key _ | .tick | .quit | .navTo _ => true
  | _ => false

inductive Event
  | input (message : Message)
  | finished (task : UpdateAction) (outcome : Outcome)
  deriving DecidableEq, Repr

def Live.step (live : Live) : Event -> Option Live
  | .input message => if message.isInput then some (live.take message) else none
  | .finished task outcome =>
    if task ∈ live.tasks then
      (taskMessage task outcome).map fun message =>
        Live.take { live with tasks := live.tasks.erase task } message
    else none

end Tasks

section Polls

def Live.refreshing (live : Live) : Nat :=
  live.tasks.count .refreshStatus

def Screen.polled : Screen -> Bool
  | .server | .dashboard => true
  | _ => false

def Message.clearsLoading : Message -> Bool
  | .statusLoaded _ | .actionFailed _ | .actionOk _ => true
  | _ => false

inductive Poll (before : AppState) : Message -> Bool -> Nat -> Prop
  | kept {message : Message} : Poll before message before.server.loading 0
  | entered {message : Message} {screen : Screen} (moves : before.pairing.target message = some screen)
      (polled : screen.polled = true) : Poll before message true 1
  | polled {message : Message} (idle : before.server.loading = false) : Poll before message true 1
  | busy {message : Message} (idle : before.server.loading = false) : Poll before message true 0
  | cleared {message : Message} (clears : message.clearsLoading = true) : Poll before message false 0

def Polls (state : AppState) (message : Message) (result : AppState × List UpdateAction) : Prop :=
  Poll state message result.1.server.loading (result.2.count .refreshStatus)

variable {state : AppState}

theorem transitionTo_polls {message : Message} {screen : Screen}
    (moves : state.pairing.target message = some screen) : Polls state message (transitionTo state screen) := by
  cases screen with
  | server => exact .entered moves rfl
  | dashboard => exact .entered moves rfl
  | _ => exact .kept

theorem KeyStep.polls {event : KeyEvent} {result : AppState × List UpdateAction}
    (step : KeyStep state event result) : Polls state (.key event) result := by
  cases step with
  | entered clear moves => exact transitionTo_polls ((target_key clear).trans moves)
  | started idle => exact .busy idle
  | stopped idle => exact .busy idle
  | refreshed idle => exact .polled idle
  | opened screen clear held =>
    rw [openOverlay, held]
    exact .kept
  | _ => exact .kept

-- A poll that finds the flag clear may set it, with one query.
def Guarded (state : AppState) (result : AppState × List UpdateAction) : Prop :=
  (result.1.server.loading = state.server.loading ∧ result.2.count .refreshStatus = 0) ∨
    (state.server.loading = false ∧ result.1.server.loading = true ∧ result.2.count .refreshStatus = 1)

theorem pollScreen_guarded (state : AppState) : Guarded state (pollScreen state) := by
  unfold pollScreen
  dsimp only
  split_ifs with idle
  · simp only [Bool.and_eq_true, Bool.not_eq_true'] at idle
    exact .inr ⟨idle.2, rfl, rfl⟩
  · exact .inl ⟨rfl, rfl⟩
  · exact .inl ⟨rfl, rfl⟩

theorem pollOverlay_guarded (state : AppState) : Guarded state (pollOverlay state) := by
  unfold pollOverlay
  split
  · dsimp only
    split_ifs with idle
    · simp only [Bool.and_eq_true, Bool.not_eq_true'] at idle
      exact .inr ⟨idle.2, rfl, rfl⟩
    · exact .inl ⟨rfl, rfl⟩
    · exact .inl ⟨rfl, rfl⟩
  · exact .inl ⟨rfl, rfl⟩

/-- A tick asks for one query at most: the screen's poll sets the flag that the overlay's looks at. -/
theorem handleTick_polls : Polls state .tick (handleTick state) := by
  have screen := pollScreen_guarded state
  have overlay := pollOverlay_guarded (pollScreen state).1
  rw [Polls, handleTick, List.count_append]
  rcases screen with ⟨same, nothing⟩ | ⟨idle, busy, one⟩
  · rcases overlay with ⟨sameAgain, noneAgain⟩ | ⟨idleAgain, busyAgain, oneAgain⟩
    · rw [nothing, noneAgain, sameAgain, same]
      exact .kept
    · rw [nothing, oneAgain, busyAgain]
      exact .polled (same.symm.trans idleAgain)
  · rcases overlay with ⟨sameAgain, noneAgain⟩ | ⟨idleAgain, _, _⟩
    · rw [one, noneAgain, sameAgain, busy]
      exact .polled idle
    · rw [busy] at idleAgain
      cases idleAgain

theorem withOverlay_server (seq : UInt64) (change : QrOverlay -> QrOverlay) :
    (withOverlay state seq change).server = state.server := by
  unfold withOverlay
  split
  · split_ifs <;> rfl
  · rfl

theorem update_polls (state : AppState) (message : Message) : Polls state message (update state message) := by
  have same {after : AppState} (server : after.server = state.server) : Polls state message (after, []) := by
    rw [Polls, server]
    exact .kept
  cases message with
  | key event => exact (handleKey_step state).polls
  | tick => exact handleTick_polls
  | navTo screen => exact transitionTo_polls rfl
  | statusLoaded info =>
    have loading : (statusLoaded state info).server.loading = false := by
      cases info with
      | none => rfl
      | some info =>
        simp only [statusLoaded, checkOverlayConnection]
        split
        · split_ifs <;> rfl
        · rfl
    rw [Polls, update, loading]
    exact .cleared rfl
  | actionFailed text => exact .cleared rfl
  | actionOk text => exact .cleared rfl
  | tokenQrReady ready => exact same (by rw [tokenQrReady, withOverlay_server])
  | tokenQrFailed err seq => exact same (by rw [tokenQrFailed, withOverlay_server])
  | _ => exact .kept

end Polls

section SingleFlight

/-- A screen that queries the status is entered, and the flag of a query is cleared by another task's result,
only while no query is in flight. -/
def InTurn (live : Live) : Event -> Prop
  | .input message => (live.state.pairing.target message).any (·.polled) = true -> live.refreshing = 0
  | .finished task outcome =>
    task ≠ .refreshStatus -> (taskMessage task outcome).any (·.clearsLoading) = true -> live.refreshing = 0

instance (live : Live) (event : Event) : Decidable (InTurn live event) := by
  cases event <;> exact inferInstanceAs (Decidable (_ -> _))

structure SingleFlight (live : Live) : Prop where
  one : live.refreshing ≤ 1
  flagged : live.refreshing = 1 -> live.state.server.loading = true

variable {live : Live}

@[simp] theorem take_refreshing (message : Message) :
    (live.take message).refreshing = live.refreshing + (update live.state message).2.count .refreshStatus := by
  unfold Live.take Live.refreshing
  rw [List.count_append, List.count_filter rfl]

theorem SingleFlight.idle (flight : SingleFlight live) (idle : live.state.server.loading = false) :
    live.refreshing = 0 := by
  by_contra asked
  have one := flight.one
  have busy := flight.flagged (by omega)
  rw [busy] at idle
  cases idle

theorem SingleFlight.take {message : Message} (flight : SingleFlight live)
    (enters : (live.state.pairing.target message).any (·.polled) = true -> live.refreshing = 0)
    (clears : message.clearsLoading = true -> live.refreshing = 0) : SingleFlight (live.take message) := by
  have polls := update_polls live.state message
  have count := @take_refreshing live message
  have loading : (live.take message).state.server.loading = (update live.state message).1.server.loading := rfl
  rw [Polls] at polls
  generalize (update live.state message).2.count .refreshStatus = asked at polls count
  generalize (update live.state message).1.server.loading = flag at polls loading
  have one := flight.one
  cases polls with
  | kept => exact { one := by omega, flagged := fun single => loading.trans (flight.flagged (by omega)) }
  | entered moves polled =>
    have nothing := enters (by simp [moves, polled])
    exact { one := by omega, flagged := fun _ => loading }
  | polled idle =>
    have nothing := flight.idle idle
    exact { one := by omega, flagged := fun _ => loading }
  | busy idle =>
    have nothing := flight.idle idle
    exact { one := by omega, flagged := fun _ => loading }
  | cleared answers =>
    have nothing := clears answers
    exact { one := by omega, flagged := fun single => by omega }

theorem input_of_clears {message : Message} (input : message.isInput = true) : message.clearsLoading = false := by
  cases message <;> first | rfl | cases input

theorem target_taskMessage {pairing : Pairing} {task : UpdateAction} {outcome : Outcome} {message : Message}
    (sends : taskMessage task outcome = some message) : pairing.target message = none := by
  unfold taskMessage at sends
  split at sends
  case h_23 => cases sends
  all_goals
    rw [← Option.some.inj sends]
    rfl

theorem step_singleFlight (live : Live) (event : Event) (next : Live) (flight : SingleFlight live)
    (inTurn : InTurn live event) (taken : live.step event = some next) : SingleFlight next := by
  cases event with
  | input message =>
    simp only [Live.step] at taken
    split_ifs at taken with input
    rw [← Option.some.inj taken]
    have clears := input_of_clears input
    exact flight.take inTurn (by simp [clears])
  | finished task outcome =>
    simp only [Live.step] at taken
    split_ifs at taken with member
    obtain ⟨message, sends, rfl⟩ := Option.map_eq_some_iff.mp taken
    have nowhere : live.state.pairing.target message = none := target_taskMessage sends
    have one := flight.one
    have left : { live with tasks := live.tasks.erase task : Live }.refreshing =
        live.refreshing - if task = .refreshStatus then 1 else 0 := by
      simp [Live.refreshing, List.count_erase]
    by_cases own : task = .refreshStatus
    · rw [if_pos own] at left
      have flight : SingleFlight { live with tasks := live.tasks.erase task } :=
        { one := by omega, flagged := fun single => by omega }
      apply flight.take
      · simp [nowhere]
      · intro _
        omega
    · rw [if_neg own, Nat.sub_zero] at left
      have flight : SingleFlight { live with tasks := live.tasks.erase task } :=
        { one := left.trans_le one, flagged := fun single => flight.flagged (left.symm.trans single) }
      apply flight.take
      · simp [nowhere]
      · intro clears
        exact left.trans (inTurn own (by simp [sends, clears]))

theorem status_single_flight (trust : AdvertiseTrust) (events : List Event)
    (inTurn : Transition.Meets Live.step InTurn (Live.start trust) events) :
    Transition.Throughout Live.step (fun live => live.refreshing ≤ 1) (Live.start trust) events := by
  have start : SingleFlight (Live.start trust) := { one := Nat.zero_le 1, flagged := fun single => nomatch single }
  exact Transition.throughout_of_meets step_singleFlight (fun _ flight => flight.one) start inTurn

def shownConfig : ConfigSnapshot :=
  { bindAddr := "127.0.0.1:50051", certDir := "/data", reachableIps := [], advertiseSans := [] }

def landing : List Event :=
  [.input (.navTo .dashboard), .finished .refreshStatus (.status none), .finished .loadConfig (.config shownConfig)]

theorem status_single_flight_polled :
    Transition.Throughout Live.step (fun live => live.refreshing ≤ 1) (Live.start .auto)
      (landing ++ List.replicate 20 (.input .tick)) :=
  status_single_flight .auto (landing ++ List.replicate 20 (.input .tick)) (by decide)

-- An address is saved from the Config screen, and the answer comes on the Server screen, during its query.
def savedElsewhere : List Event :=
  landing ++
    [.input (press .tab), .finished .loadConfig (.config shownConfig), .input (press .enter),
      .input (press .tab), .input (press .tab), .input (press .tab),
      .finished (.saveBind "127.0.0.1:50051") .done] ++
    List.replicate 20 (.input .tick)

theorem second_query_in_flight :
    ¬ Transition.Throughout Live.step (fun live => live.refreshing ≤ 1) (Live.start .auto) savedElsewhere := by
  intro throughout
  have queries : (Transition.run Live.step (Live.start .auto) savedElsewhere).map (·.refreshing) = some 2 := by
    decide
  obtain ⟨final, ran, two⟩ := Option.map_eq_some_iff.mp queries
  have one : final.refreshing ≤ 1 := throughout.final ran
  omega

end SingleFlight

end Muxrd.Panel
