import Muxrd.Lib.SocketAddr
import Muxrd.Panel.Pairing

set_option autoImplicit false

namespace Muxrd.Panel

open RustStd

def UpdateAction.savedBind : UpdateAction -> Option String
  | .saveBind bindAddr => some bindAddr
  | _ => none

def savedBinds (actions : List UpdateAction) : List String :=
  actions.filterMap (·.savedBind)

section Effects

inductive PortEffect (before : ConfigState) : String -> List String -> Prop
  | kept : PortEffect before before.port []
  | saved : PortEffect before before.port [before.bindAddr]
  | typed {c : Char} (digit : '0' ≤ c ∧ c ≤ '9') : PortEffect before (before.port.push c) []
  | popped : PortEffect before (pop before.port) []
  | loaded (addr : String) : PortEffect before (before.applyBindAddr addr).port []

def Touches (before : AppState) (result : AppState × List UpdateAction) : Prop :=
  PortEffect before.config result.1.config.port (savedBinds result.2)

variable (state : AppState)

theorem transitionTo_touches (screen : Screen) : Touches state (transitionTo state screen) := by
  cases screen <;> exact .kept

variable {state} in
theorem KeyStep.touches {event : KeyEvent} {result : AppState × List UpdateAction}
    (step : KeyStep state event result) : Touches state result := by
  cases step with
  | entered clear moves => exact transitionTo_touches state _
  | saved status => exact .saved
  | typed digit => exact .typed digit
  | popped => exact .popped
  | opened screen clear held =>
    rw [openOverlay, held]
    exact .kept
  | _ => exact .kept

theorem handleTick_touches : Touches state (handleTick state) := by
  have screen : (pollScreen state).1.config = state.config ∧ savedBinds (pollScreen state).2 = [] := by
    unfold pollScreen
    dsimp only
    split_ifs <;> exact ⟨rfl, rfl⟩
  have overlay (state : AppState) : (pollOverlay state).1.config = state.config ∧
      savedBinds (pollOverlay state).2 = [] := by
    unfold pollOverlay
    split
    · dsimp only
      split_ifs <;> exact ⟨rfl, rfl⟩
    · exact ⟨rfl, rfl⟩
  have config : (handleTick state).1.config = state.config := (overlay _).1.trans screen.1
  have saves : savedBinds (handleTick state).2 = [] := by
    rw [handleTick, savedBinds, List.filterMap_append]
    exact List.append_eq_nil_iff.mpr ⟨screen.2, (overlay _).2⟩
  rw [Touches, config, saves]
  exact .kept

theorem withOverlay_config (seq : UInt64) (change : QrOverlay -> QrOverlay) :
    (withOverlay state seq change).config = state.config := by
  unfold withOverlay
  split
  · split_ifs <;> rfl
  · rfl

theorem update_touches (message : Message) : Touches state (update state message) := by
  have same {after : AppState} (port : after.config.port = state.config.port) : Touches state (after, []) := by
    rw [Touches, port]
    exact .kept
  have reported (text : String) : (report state text).config.port = state.config.port := by
    unfold report
    split <;> rfl
  cases message with
  | key event => exact (handleKey_step state).touches
  | configLoaded snapshot => exact .loaded snapshot.bindAddr
  | tick => exact handleTick_touches state
  | navTo screen => exact transitionTo_touches state screen
  | statusLoaded info =>
    cases info with
    | none => exact .kept
    | some info =>
      simp only [update, statusLoaded, checkOverlayConnection]
      split
      · split_ifs <;> exact .kept
      · exact .kept
  | actionFailed text => exact same (reported _)
  | actionOk text => exact same (reported _)
  | tokenQrReady ready => exact same (by rw [tokenQrReady, withOverlay_config])
  | tokenQrFailed err seq => exact same (by rw [tokenQrFailed, withOverlay_config])
  | _ => exact .kept

end Effects

section Saves

theorem PortEffect.no_colon {before : ConfigState} {after : String} {saves : List String}
    (effect : PortEffect before after saves) (plain : ':' ∉ before.port.toList) : ':' ∉ after.toList := by
  cases effect with
  | kept => exact plain
  | saved => exact plain
  | @typed c digit =>
    have other : ':' ≠ c := by
      rintro rfl
      exact absurd digit (by decide)
    simp [plain, other]
  | popped =>
    intro member
    rw [pop, String.toList_ofList] at member
    exact plain (List.mem_of_mem_dropLast member)
  | loaded addr =>
    unfold ConfigState.applyBindAddr
    split
    next parts => exact rsplit_plain parts
    next => exact (by decide : ':' ∉ "50051".toList)

theorem port_no_colon (messages : List Message) : ':' ∉ (panel messages).config.port.toList := by
  induction messages using List.reverseRecOn with
  | nil => decide
  | append_singleton messages message ih =>
    rw [panel_snoc]
    exact (update_touches _ message).no_colon ih

theorem saved_bindAddr {state : AppState} {message : Message} {addr : String}
    (saves : .saveBind addr ∈ (update state message).2) : addr = state.config.bindAddr := by
  have member : addr ∈ savedBinds (update state message).2 := List.mem_filterMap.mpr ⟨_, saves, rfl⟩
  have effect := update_touches state message
  rw [Touches] at effect
  generalize savedBinds (update state message).2 = binds at effect member
  generalize (update state message).1.config.port = port at effect
  cases effect with
  | saved => simpa using member
  | _ => cases member

structure Startable (config : ConfigState) (addr : String) : Prop where
  parses : ∃ socket, parseSocketAddr addr = some socket ∧ 1 ≤ socket.port.toNat
  host : (config.applyBindAddr addr).host = config.host
  port : (config.applyBindAddr addr).port = config.port

/-- The host is an IPv4 address or an IPv6 address in brackets, and the port a decimal number from 1 on. -/
structure Literal (config : ConfigState) : Prop where
  host : (parseHost config.host).isSome = true
  port : Decimal UInt16.size config.port.toList
  positive : digitsValue 10 config.port.toList ≠ 0

theorem saved_bind_startable_iff (messages : List Message) (event : KeyEvent) {addr : String}
    (saves : .saveBind addr ∈ (update (panel messages) (.key event)).2) :
    Startable (panel messages).config addr ↔ Literal (panel messages).config := by
  have plain := port_no_colon messages
  rw [saved_bindAddr saves]
  generalize (panel messages).config = config at plain
  constructor
  · intro startable
    obtain ⟨socket, parsed, positive⟩ := startable.parses
    obtain ⟨host, port⟩ := (parseSocketAddr_append plain).mp parsed
    obtain ⟨decimal, number⟩ := parsePort_iff.mp port
    refine { host := by simp [host], port := decimal, positive := ?_ }
    intro zero
    rw [number, zero] at positive
    exact absurd positive (by decide)
  · intro literal
    obtain ⟨⟨ip, scopeId⟩, host⟩ := Option.isSome_iff_exists.mp literal.host
    have port : parsePort config.port = some (.ofNat (digitsValue 10 config.port.toList)) :=
      parsePort_iff.mpr ⟨literal.port, rfl⟩
    have parts : rsplit config.bindAddr ':' = some (config.host, config.port) := rsplit_append plain
    constructor
    · refine ⟨⟨ip, scopeId, .ofNat (digitsValue 10 config.port.toList)⟩, ?_, ?_⟩
      · exact (parseSocketAddr_append plain).mpr ⟨host, port⟩
      · have small := literal.port.small
        have positive := literal.positive
        rw [UInt16.toNat_ofNat_of_lt' small]
        omega
    · rw [ConfigState.applyBindAddr, parts]
    · rw [ConfigState.applyBindAddr, parts]

def localConfig : ConfigSnapshot :=
  { bindAddr := "127.0.0.1:50051", certDir := "/data", reachableIps := [], advertiseSans := [] }

def editing (keys : List KeyCode) : List Message :=
  [.navTo .config, .configLoaded localConfig] ++ keys.map press

theorem saved_bind_startable_iff_typed :
    Startable (panel (editing [.backspace, .char '2'])).config "127.0.0.2:50051" :=
  (saved_bind_startable_iff (editing [.backspace, .char '2']) { code := .enter, control := false } (by decide)).mpr
      { host := by decide
        port := { nonempty := by decide, readable := List.all_eq_true.mp (by decide), small := by decide }
        positive := by decide }

def typingName : List KeyCode :=
  List.replicate 9 .backspace ++ [.char 'b', .char 'o', .char 'x']

set_option maxRecDepth 10000 in
/-- A name is saved as the bind host, and no start that reads it comes up. -/
theorem host_name_is_saved :
    .saveBind "box:50051" ∈ (update (panel (editing typingName)) (.key { code := .enter, control := false })).2 ∧
      ¬ Startable (panel (editing typingName)).config "box:50051" := by
  refine ⟨by decide, ?_⟩
  intro startable
  obtain ⟨socket, parsed, _⟩ := startable.parses
  have unparsable : parseSocketAddr "box:50051" = none := by decide
  rw [unparsable] at parsed
  cases parsed

end Saves

end Muxrd.Panel
