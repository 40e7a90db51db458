import Muxrd.Panel.Update

set_option autoImplicit false

namespace Muxrd.Panel

open RustStd

def Screen.following (screen : Screen) : KeyCode -> Option Screen
  | .tab => some screen.next
  | .backTab => some screen.prev
  | .right | .down => if screen = .dashboard then some screen.next else none
  | .left | .up => if screen = .dashboard then some screen.prev else none
  | _ => none

inductive KeyStep (state : AppState) (event : KeyEvent) : AppState × List UpdateAction -> Prop
  | ignored : KeyStep state event (state, [])
  | quits : KeyStep state event ({ state with shouldQuit := true }, [.quit])
  | closed (up : state.qrOverlay.isSome = true) : KeyStep state event ({ state with qrOverlay := none }, [])
  | entered {screen : Screen} (clear : state.qrOverlay = none)
      (moves : state.screen.following event.code = some screen) :
      KeyStep state event (transitionTo state screen)
  | refused (status : String) : KeyStep state event (editConfig state fun config => { config with status })
  | saved (status : String) :
      KeyStep state event
        ({ state with config := { state.config with loading := true, status } }, [.saveBind state.config.bindAddr])
  | reloaded (status : String) :
      KeyStep state event ({ state with config := { state.config with loading := true, status } }, [.loadConfig])
  | focused (field : ConfigField) (text : state.config.focused ≠ .ipPicker)
      (picks : field = .ipPicker -> state.config.reachableIps ≠ []) :
      KeyStep state event (editConfig state fun config => { config with focused := field })
  | hosted (host : String) : KeyStep state event (editConfig state fun config => { config with host })
  | typed {c : Char} (digit : '0' ≤ c ∧ c ≤ '9') :
      KeyStep state event (editConfig state fun config => { config with port := config.port.push c })
  | popped : KeyStep state event (editConfig state fun config => { config with port := pop config.port })
  | scrolled {ipCursor : Nat} (within : ipCursor < state.config.reachableIps.length) :
      KeyStep state event (editConfig state fun config => { config with ipCursor })
  | selected (host : String) (enter : event.code = .enter)
      (within : state.config.ipCursor < state.config.reachableIps.length) :
      KeyStep state event (editConfig state fun config => { config with host, focused := .port })
  | certified (status : String) :
      KeyStep state event
        ({ state with cert := { state.cert with loading := true, status } },
          [.ensureCert (buildSansFromConfig state)])
  | trusted (trust : AdvertiseTrust) :
      KeyStep state event
        ({ state with cert := { state.cert with advertiseTrust := trust } }, [.saveAdvertiseTrust trust])
  | started (idle : state.server.loading = false) :
      KeyStep state event
        ({ state with
            server := { state.server with loading := true, stopped := false, actionMsg := "Starting server…" } },
          [.startServer])
  | stopped (idle : state.server.loading = false) :
      KeyStep state event
        ({ state with server := { state.server with loading := true, actionMsg := "Stopping server…" } },
          [.stopServer])
  | refreshed (idle : state.server.loading = false) :
      KeyStep state event
        ({ state with server := { state.server with loading := true, actionMsg := "" } }, [.refreshStatus])
  | pointed {cursor : Nat} (within : cursor < state.tokens.tokens.length) :
      KeyStep state event (editTokens state fun tokens => { tokens with cursor })
  | filled (formPhase : TokensFormPhase) (formName : String) (formReadOnly : Bool) (status : String) :
      KeyStep state event
        (editTokens state fun tokens => { tokens with formPhase, formName, formReadOnly, status })
  | submitted (name : Option String) (readOnly : Bool) (status : String) :
      KeyStep state event
        ({ state with tokens := { state.tokens with loading := true, status } }, [.createToken name readOnly])
  | listed (status : String) :
      KeyStep state event ({ state with tokens := { state.tokens with loading := true, status } }, [.loadTokens])
  | revoked (name status : String) (screen : state.screen = .tokens) (clear : state.qrOverlay = none) :
      KeyStep state event
        ({ state with tokens := { state.tokens with loading := true, status, lastMintedSecret := none } },
          [.revokeToken name])
  | dismissed (screen : state.screen = .tokens) (clear : state.qrOverlay = none) :
      KeyStep state event (editTokens state fun tokens => { tokens with lastMintedSecret := none })
  | opened {secret : MintedSecret} (screen : state.screen = .tokens) (clear : state.qrOverlay = none)
      (held : state.tokens.lastMintedSecret = some secret) : KeyStep state event (openOverlay state)

section Handlers

variable (state : AppState) {event : KeyEvent}

theorem configSave_step : KeyStep state event (configSave state) := by
  unfold configSave
  split_ifs
  · exact .ignored
  · exact .refused _
  · exact .refused _
  · exact .saved _

theorem configReload_step : KeyStep state event (configReload state) := by
  unfold configReload
  split_ifs
  · exact .ignored
  · exact .reloaded _

theorem handleHostKey_step (focus : state.config.focused = .host) :
    KeyStep state event (handleHostKey state event) := by
  have toPort : KeyStep state event (editConfig state fun config => { config with focused := .port }) :=
    .focused .port (by simp [focus]) (fun picks => nomatch picks)
  unfold handleHostKey
  split
  · exact toPort
  · exact toPort
  · exact configSave_step state
  · exact .hosted _
  · exact .hosted _
  · exact .ignored

theorem handlePortKey_step (focus : state.config.focused = .port) :
    KeyStep state event (handlePortKey state event) := by
  have text : state.config.focused ≠ .ipPicker := by simp [focus]
  have toHost : KeyStep state event (editConfig state fun config => { config with focused := .host }) :=
    .focused .host text (fun picks => nomatch picks)
  have toPicker : KeyStep state event (if state.config.reachableIps = [] then (state, [])
      else editConfig state fun config => { config with focused := .ipPicker }) := by
    split_ifs with empty
    · exact .ignored
    · exact .focused .ipPicker text fun _ => empty
  unfold handlePortKey
  split
  · exact toPicker
  · exact toPicker
  · exact toHost
  · exact toHost
  · exact configSave_step state
  · exact .popped
  · split_ifs with digit
    · exact .typed (by simpa using digit)
    · exact .ignored
  · exact .ignored

theorem handleIpPickerKey_step (tab : event.code ≠ .tab) (backTab : event.code ≠ .backTab) :
    KeyStep state event (handleIpPickerKey state event) := by
  have scroll (ipCursor : Nat) :
      KeyStep state event (if state.config.reachableIps.length = 0 then (state, [])
        else editConfig state fun config =>
          { config with ipCursor := ipCursor % state.config.reachableIps.length }) := by
    split_ifs with occupied
    · exact .ignored
    · exact .scrolled (Nat.mod_lt _ (Nat.pos_of_ne_zero occupied))
  unfold handleIpPickerKey
  dsimp only
  split
  · exact scroll _
  · exact scroll _
  · next code => exact absurd code tab
  · next code => exact absurd code backTab
  · next code =>
    split
    · next ip found =>
      obtain ⟨within, _⟩ := List.getElem?_eq_some_iff.mp found
      exact .selected _ code within
    · exact .ignored
  · exact configSave_step state
  · exact configReload_step state
  · exact .ignored

theorem handleConfigKey_step (tab : event.code ≠ .tab) (backTab : event.code ≠ .backTab) :
    KeyStep state event (handleConfigKey state event) := by
  unfold handleConfigKey
  dsimp only
  split_ifs
  · exact configSave_step state
  · exact configReload_step state
  · cases focus : state.config.focused with
    | host => exact handleHostKey_step state focus
    | port => exact handlePortKey_step state focus
    | ipPicker => exact handleIpPickerKey_step state tab backTab

theorem handleCertKey_step : KeyStep state event (handleCertKey state event) := by
  have request (status : String) : KeyStep state event (requestCert state status) := by
    unfold requestCert
    split_ifs
    · exact .ignored
    · exact .certified status
  unfold handleCertKey
  split
  · exact request _
  · exact request _
  · exact .trusted _
  · exact .ignored

theorem handleServerKey_step : KeyStep state event (handleServerKey state event) := by
  unfold handleServerKey
  split_ifs with busy
  · exact .ignored
  · have idle : state.server.loading = false := Bool.eq_false_of_not_eq_true busy
    split
    · exact .started idle
    · exact .stopped idle
    · exact .refreshed idle
    · exact .ignored

theorem revokeSelected_step (screen : state.screen = .tokens) (clear : state.qrOverlay = none) :
    KeyStep state event (revokeSelected state) := by
  unfold revokeSelected
  split
  · split_ifs
    · exact .ignored
    · exact .revoked _ _ screen clear
  · exact .ignored

theorem openOverlay_step (screen : state.screen = .tokens) (clear : state.qrOverlay = none) :
    KeyStep state event (openOverlay state) := by
  cases held : state.tokens.lastMintedSecret with
  | some secret => exact .opened screen clear held
  | none =>
    rw [openOverlay, held]
    exact .filled _ _ _ _

theorem handleBrowsingKey_step (screen : state.screen = .tokens) (clear : state.qrOverlay = none) :
    KeyStep state event (handleBrowsingKey state event) := by
  have point (cursor : Nat) : KeyStep state event (if state.tokens.tokens.length = 0 then (state, [])
      else editTokens state fun tokens => { tokens with cursor := cursor % state.tokens.tokens.length }) := by
    split_ifs with occupied
    · exact .ignored
    · exact .pointed (Nat.mod_lt _ (Nat.pos_of_ne_zero occupied))
  unfold handleBrowsingKey
  dsimp only
  split
  · exact point _
  · exact point _
  · exact point _
  · exact point _
  · exact .filled _ _ _ _
  · exact revokeSelected_step state screen clear
  · exact revokeSelected_step state screen clear
  · split_ifs
    · exact .ignored
    · exact .listed _
  · exact openOverlay_step state screen clear
  · exact .dismissed screen clear
  · exact .ignored

theorem handleCreatingKey_step : KeyStep state event (handleCreatingKey state event) := by
  unfold handleCreatingKey
  split
  · exact .filled _ _ _ _
  · unfold submitToken
    split_ifs
    · exact .ignored
    · exact .submitted _ _ _
  · exact .filled _ _ _ _
  · split_ifs
    · exact .filled _ _ _ _
    · exact .filled _ _ _ _
  · exact .ignored

theorem handleNavKeys_step (screen : state.screen = .dashboard) (clear : state.qrOverlay = none) :
    KeyStep state event (handleNavKeys state event) := by
  unfold handleNavKeys
  split
  · next code => exact .entered clear (by simp [Screen.following, code, screen])
  · next code => exact .entered clear (by simp [Screen.following, code, screen])
  · next code => exact .entered clear (by simp [Screen.following, code, screen])
  · next code => exact .entered clear (by simp [Screen.following, code, screen])
  · exact .ignored

theorem handleKey_step : KeyStep state event (handleKey state event) := by
  unfold handleKey
  split_ifs with quits up closes quit tab backTab
  · exact .quits
  · exact .closed up
  · exact .ignored
  · exact .quits
  all_goals have clear : state.qrOverlay = none := by simpa using up
  · exact .entered clear (by simp [Screen.following, tab])
  · exact .entered clear (by simp [Screen.following, backTab])
  · unfold handleScreenKey
    split
    · exact handleConfigKey_step state tab backTab
    · exact handleCertKey_step state
    · exact handleServerKey_step state
    · next screen =>
      unfold handleTokensKey
      split
      · exact handleBrowsingKey_step state screen clear
      · exact handleCreatingKey_step state
    · next screen => exact handleNavKeys_step state screen clear

end Handlers

end Muxrd.Panel
