import Muxrd.Panel.Pairing

set_option autoImplicit false

namespace Muxrd.Panel

open RustStd

/-- What of the panel points into a list, and how long the lists are. -/
structure Cursors where
  tokens : Nat
  cursor : Nat
  ips : Nat
  ipCursor : Nat
  focused : ConfigField
  deriving DecidableEq, Repr

def AppState.cursors (state : AppState) : Cursors :=
  { tokens := state.tokens.tokens.length, cursor := state.tokens.cursor,
    ips := state.config.reachableIps.length, ipCursor := state.config.ipCursor,
    focused := state.config.focused }

def InRange (cursor length : Nat) : Prop :=
  cursor < length ∨ cursor = 0 ∧ length = 0

namespace Cursors

structure Valid (cursors : Cursors) : Prop where
  tokens : InRange cursors.cursor cursors.tokens
  ips : InRange cursors.ipCursor cursors.ips
  picker : cursors.focused = .ipPicker -> 0 < cursors.ips

def reloaded (cursors : Cursors) (ips : Nat) : Cursors :=
  { cursors with ips, ipCursor := if ips ≤ cursors.ipCursor then 0 else cursors.ipCursor }

inductive Move (before : Cursors) : Message -> Cursors -> Prop
  | kept {message : Message} : Move before message before
  | listed {records : List TokenRecord} :
      Move before (.tokensLoaded records)
        { before with
          tokens := records.length
          cursor := if records.length ≤ before.cursor then records.length - 1 else before.cursor }
  | loaded {snapshot : ConfigSnapshot} :
      Move before (.configLoaded snapshot) (before.reloaded snapshot.reachableIps.length)
  | pointed {event : KeyEvent} {cursor : Nat} (within : cursor < before.tokens) :
      Move before (.key event) { before with cursor }
  | scrolled {event : KeyEvent} {ipCursor : Nat} (within : ipCursor < before.ips) :
      Move before (.key event) { before with ipCursor }
  | edited {event : KeyEvent} (field : ConfigField) (text : before.focused ≠ .ipPicker)
      (next : field ≠ .ipPicker) : Move before (.key event) { before with focused := field }
  | opened {event : KeyEvent} (text : before.focused ≠ .ipPicker) (listed : 0 < before.ips) :
      Move before (.key event) { before with focused := .ipPicker }
  | selected {event : KeyEvent} (enter : event.code = .enter) (within : before.ipCursor < before.ips) :
      Move before (.key event) { before with focused := .port }

end Cursors

section Moves

open Cursors

def Moves (state : AppState) (message : Message) (result : AppState × List UpdateAction) : Prop :=
  Move state.cursors message result.1.cursors

variable (state : AppState)

theorem transitionTo_moves (message : Message) (screen : Screen) : Moves state message (transitionTo state screen) := by
  cases screen <;> exact .kept

variable {state} in
theorem KeyStep.moves {event : KeyEvent} {result : AppState × List UpdateAction}
    (step : KeyStep state event result) : Moves state (.key event) result := by
  cases step with
  | entered clear moves => exact transitionTo_moves state _ _
  | focused field text picks =>
    cases field with
    | host => exact .edited .host text (by decide)
    | port => exact .edited .port text (by decide)
    | ipPicker => exact .opened text (List.length_pos_iff.mpr (picks rfl))
  | scrolled within => exact .scrolled within
  | selected host enter within => exact .selected enter within
  | pointed within => exact .pointed within
  | opened screen clear held =>
    rw [openOverlay, held]
    exact .kept
  | _ => exact .kept

theorem handleTick_moves : Moves state .tick (handleTick state) := by
  have screen (state : AppState) : (pollScreen state).1.cursors = state.cursors := by
    unfold pollScreen
    dsimp only
    split_ifs <;> rfl
  have overlay (state : AppState) : (pollOverlay state).1.cursors = state.cursors := by
    unfold pollOverlay
    split
    · dsimp only
      split_ifs <;> rfl
    · rfl
  rw [Moves, handleTick, overlay, screen]
  exact .kept

theorem withOverlay_cursors (seq : UInt64) (change : QrOverlay -> QrOverlay) :
    (withOverlay state seq change).cursors = state.cursors := by
  unfold withOverlay
  split
  · split_ifs <;> rfl
  · rfl

theorem configLoaded_cursors (snapshot : ConfigSnapshot) :
    (configLoaded state snapshot).cursors = state.cursors.reloaded snapshot.reachableIps.length := by
  unfold configLoaded ConfigState.applyBindAddr
  split <;> rfl

theorem update_moves (message : Message) : Moves state message (update state message) := by
  have same {after : AppState} (cursors : after.cursors = state.cursors) : Moves state message (after, []) := by
    rw [Moves, cursors]
    exact .kept
  have reported (text : String) : (clearLoading (report state text)).cursors = state.cursors := by
    unfold report
    split <;> rfl
  cases message with
  | key event => exact (handleKey_step state).moves
  | tick => exact handleTick_moves state
  | navTo screen => exact transitionTo_moves state _ screen
  | statusLoaded info =>
    cases info with
    | none => exact .kept
    | some info =>
      simp only [update, statusLoaded, checkOverlayConnection]
      split
      · split_ifs <;> exact .kept
      · exact .kept
  | configLoaded snapshot =>
    rw [Moves, update, configLoaded_cursors]
    exact .loaded
  | tokensLoaded records => exact .listed
  | actionFailed text => exact same (reported _)
  | actionOk text => exact same (reported _)
  | tokenQrReady ready => exact same (by rw [tokenQrReady, withOverlay_cursors])
  | tokenQrFailed err seq => exact same (by rw [tokenQrFailed, withOverlay_cursors])
  | _ => exact .kept

end Moves

section Validity

open Cursors

theorem InRange.clamped (cursor length : Nat) :
    InRange (if length ≤ cursor then length - 1 else cursor) length := by
  unfold InRange
  split_ifs <;> omega

theorem InRange.reset (cursor length : Nat) : InRange (if length ≤ cursor then 0 else cursor) length := by
  unfold InRange
  split_ifs <;> omega

/-- No list of addresses that comes in takes the picker's last entry away while it has the focus. -/
def KeepsPicker (state : AppState) : Message -> Prop
  | .configLoaded snapshot => state.config.focused = .ipPicker -> snapshot.reachableIps ≠ []
  | _ => True

theorem Cursors.Valid.reloaded_iff {cursors : Cursors} (valid : cursors.Valid) (ips : Nat) :
    (cursors.reloaded ips).Valid ↔ (cursors.focused = .ipPicker -> 0 < ips) := by
  constructor
  · exact fun after => after.picker
  · exact fun picker => { tokens := valid.tokens, ips := .reset cursors.ipCursor ips, picker }

theorem Cursors.Move.valid {before after : Cursors} {message : Message} (move : Move before message after)
    (other : ∀ snapshot, message ≠ .configLoaded snapshot) (valid : before.Valid) : after.Valid := by
  cases move with
  | kept => exact valid
  | listed => exact { valid with tokens := .clamped _ _ }
  | loaded => exact absurd rfl (other _)
  | pointed within => exact { valid with tokens := .inl within }
  | scrolled within => exact { valid with ips := .inl within }
  | edited field text next => exact { valid with picker := fun focus => absurd focus next }
  | opened text listed => exact { valid with picker := fun _ => listed }
  | selected enter within => exact { valid with picker := fun focus => nomatch focus }

theorem update_valid_iff (state : AppState) (message : Message) (valid : state.cursors.Valid) :
    (update state message).1.cursors.Valid ↔ KeepsPicker state message := by
  cases message with
  | configLoaded snapshot =>
    have loaded : (update state (.configLoaded snapshot)).1.cursors =
        state.cursors.reloaded snapshot.reachableIps.length := configLoaded_cursors state snapshot
    rw [loaded, valid.reloaded_iff, KeepsPicker, List.length_pos_iff]
    rfl
  | _ => exact iff_of_true ((update_moves state _).valid (fun _ same => nomatch same) valid) trivial

def Selects (state : AppState) (message : Message) : Prop :=
  state.config.ipCursor < state.config.reachableIps.length ∧ ∃ event, message = .key event ∧ event.code = .enter

theorem picker_left {state : AppState} {message : Message} (focus : state.config.focused = .ipPicker)
    (left : (update state message).1.config.focused ≠ .ipPicker) : Selects state message := by
  have move := update_moves state message
  rw [Moves] at move
  have before : state.cursors.focused = .ipPicker := focus
  have after : (update state message).1.cursors.focused ≠ .ipPicker := left
  generalize (update state message).1.cursors = cursors at move after
  cases move with
  | @selected event enter within => exact ⟨within, event, rfl, enter⟩
  | edited field text next => exact absurd before text
  | opened text listed => exact absurd before text
  | _ => exact absurd before after

/-- Every cursor of the run points into its list and the picker has something to pick, which is the only way
out of it. -/
structure Usable (messages : List Message) : Prop where
  valid : ∀ reached, reached <+: messages -> (panel reached).cursors.Valid
  left : ∀ before message, before ++ [message] <+: messages -> (panel before).config.focused = .ipPicker ->
    (panel (before ++ [message])).config.focused ≠ .ipPicker -> Selects (panel before) message

theorem usable_iff (messages : List Message) :
    Usable messages ↔
      ∀ before message, before ++ [message] <+: messages -> KeepsPicker (panel before) message := by
  have start : AppState.new.cursors.Valid :=
    { tokens := .inr ⟨rfl, rfl⟩, ips := .inr ⟨rfl, rfl⟩, picker := fun focus => nomatch focus }
  have valid_iff : (∀ reached, reached <+: messages -> (panel reached).cursors.Valid) ↔
      ∀ before message, before ++ [message] <+: messages -> KeepsPicker (panel before) message :=
    @Controller.forall_reached_iff _ _ _ update (fun state => state.cursors.Valid) KeepsPicker .new start
      update_valid_iff messages
  constructor
  · exact fun usable => valid_iff.mp usable.valid
  · intro keeps
    refine { valid := valid_iff.mpr keeps, left := fun before message _ focus left => ?_ }
    rw [panel_snoc] at left
    exact picker_left focus left

def addresses (reachableIps : List Ipv4Addr) : ConfigSnapshot :=
  { bindAddr := "0.0.0.0:50051", certDir := "/data", reachableIps, advertiseSans := [] }

-- The picker gets the focus while there is an address, and the reload from there finds none.
def interfaceGone : List Message :=
  [press .tab, .configLoaded (addresses [⟨192, 168, 1, 10⟩]), press .down, press .down, press (.char 'r'),
    .configLoaded (addresses [])]

theorem picker_without_address : ¬ Usable interfaceGone := by
  intro usable
  have valid := usable.valid interfaceGone (List.prefix_refl _)
  have focus : (panel interfaceGone).cursors.focused = .ipPicker := by decide
  exact absurd (valid.picker focus) (by decide)

end Validity

end Muxrd.Panel
