import Muxrd.Panel.State

set_option autoImplicit false

namespace Muxrd.Panel

open RustStd

section Navigation

def onEnterScreen (state : AppState) : Screen -> AppState × List UpdateAction
  | .config =>
    ({ state with config := { state.config with loading := true, status := "" } }, [.loadConfig])
  | .server =>
    ({ state with server := { state.server with loading := true, actionMsg := "", tickCounter := 0 } },
      [.refreshStatus])
  | .tokens =>
    ({ state with
        tokens := { state.tokens with
          loading := true, status := "", lastMintedSecret := none, formPhase := .browsing, formName := "" } },
      [.loadTokens])
  -- The certificate's names are taken from the configuration, whichever screen was visited before.
  | .cert => ({ state with config := { state.config with loading := true } }, [.loadConfig])
  | .dashboard =>
    ({ state with
        server := { state.server with loading := true }
        config := { state.config with loading := true }
        tokens := { state.tokens with loading := true }
        cert := { state.cert with loading := true } },
      [.refreshStatus, .loadConfig, .loadTokens, .loadCertInfo])

def transitionTo (state : AppState) (next : Screen) : AppState × List UpdateAction :=
  let entered := onEnterScreen state next
  ({ entered.1 with screen := next }, entered.2)

def handleNavKeys (state : AppState) (key : KeyEvent) : AppState × List UpdateAction :=
  match key.code with
  | .right | .down => transitionTo state state.screen.next
  | .left | .up => transitionTo state state.screen.prev
  | _ => (state, [])

end Navigation

section Config

def configSave (state : AppState) : AppState × List UpdateAction :=
  if state.config.loading then (state, [])
  else if trim state.config.host = "" then
    ({ state with config := { state.config with status := "Error: bind host must not be empty." } }, [])
  else if parseU16 (trim state.config.port) = none then
    ({ state with config := { state.config with status := "Error: port must be a number in 1..=65535." } }, [])
  else
    ({ state with config := { state.config with loading := true, status := "Saving…" } },
      [.saveBind state.config.bindAddr])

def configReload (state : AppState) : AppState × List UpdateAction :=
  if state.config.loading then (state, [])
  else ({ state with config := { state.config with loading := true, status := "Loading…" } }, [.loadConfig])

def editConfig (state : AppState) (edit : ConfigState -> ConfigState) : AppState × List UpdateAction :=
  ({ state with config := edit state.config }, [])

def handleHostKey (state : AppState) (key : KeyEvent) : AppState × List UpdateAction :=
  match key.code with
  | .tab | .down => editConfig state fun config => { config with focused := .port }
  | .enter => configSave state
  | .backspace => editConfig state fun config => { config with host := pop config.host }
  | .char c => editConfig state fun config => { config with host := config.host.push c }
  | _ => (state, [])

def handlePortKey (state : AppState) (key : KeyEvent) : AppState × List UpdateAction :=
  match key.code with
  | .tab | .down =>
    if state.config.reachableIps = [] then (state, [])
    else editConfig state fun config => { config with focused := .ipPicker }
  | .up | .backTab => editConfig state fun config => { config with focused := .host }
  | .enter => configSave state
  | .backspace => editConfig state fun config => { config with port := pop config.port }
  | .char c =>
    if '0' ≤ c && c ≤ '9' then editConfig state fun config => { config with port := config.port.push c }
    else (state, [])
  | _ => (state, [])

def handleIpPickerKey (state : AppState) (key : KeyEvent) : AppState × List UpdateAction :=
  let len := state.config.reachableIps.length
  match key.code with
  | .down =>
    if len = 0 then (state, [])
    else editConfig state fun config => { config with ipCursor := (config.ipCursor + 1) % len }
  | .up =>
    if len = 0 then (state, [])
    else editConfig state fun config => { config with ipCursor := (config.ipCursor + len - 1) % len }
  | .tab => editConfig state fun config => { config with focused := .host }
  | .backTab => editConfig state fun config => { config with focused := .port }
  | .enter =>
    match state.config.reachableIps[state.config.ipCursor]? with
    | some ip => editConfig state fun config => { config with host := ip.toString, focused := .port }
    | none => (state, [])
  | .char 's' => configSave state
  | .char 'r' => configReload state
  | _ => (state, [])

def handleConfigKey (state : AppState) (key : KeyEvent) : AppState × List UpdateAction :=
  let editing := key.control && (state.config.focused = .host || state.config.focused = .port)
  if editing && key.code = .char 's' then configSave state
  else if editing && key.code = .char 'r' then configReload state
  else
    match state.config.focused with
    | .host => handleHostKey state key
    | .port => handlePortKey state key
    | .ipPicker => handleIpPickerKey state key

end Config

section Cert

def pushSan (sans : List San) (key : String) (san : San) : List San :=
  if sans.any (·.value = key) then sans else sans ++ [san]

def pushHost (sans : List San) (entry : String) : List San :=
  let host := trim entry
  if host = "" || ((parseIpAddr host).any (·.isUnspecified)) then sans
  else pushSan sans host (.fromHost host)

def buildSansFromConfig (state : AppState) : List San :=
  let reachable := state.config.reachableIps.foldl (fun sans ip =>
    if ip.isUnspecified then sans else pushSan sans ip.toString (.ip ip.toString)) []
  state.config.advertiseSans.foldl pushHost (pushHost reachable state.config.host)

def requestCert (state : AppState) (status : String) : AppState × List UpdateAction :=
  if state.cert.loading then (state, [])
  else
    ({ state with cert := { state.cert with loading := true, status } },
      [.ensureCert (buildSansFromConfig state)])

def handleCertKey (state : AppState) (key : KeyEvent) : AppState × List UpdateAction :=
  match key.code with
  | .char 'g' => requestCert state "Generating cert…"
  | .char 'r' => requestCert state "Refreshing…"
  | .char 't' =>
    let trust := state.cert.advertiseTrust.cycle
    ({ state with cert := { state.cert with advertiseTrust := trust } }, [.saveAdvertiseTrust trust])
  | _ => (state, [])

end Cert

def handleServerKey (state : AppState) (key : KeyEvent) : AppState × List UpdateAction :=
  if state.server.loading then (state, [])
  else
    match key.code with
    | .char 's' =>
      ({ state with
          server := { state.server with loading := true, stopped := false, actionMsg := "Starting server…" } },
        [.startServer])
    | .char 'x' =>
      ({ state with server := { state.server with loading := true, actionMsg := "Stopping server…" } },
        [.stopServer])
    | .char 'r' =>
      ({ state with server := { state.server with loading := true, actionMsg := "" } }, [.refreshStatus])
    | _ => (state, [])

section Tokens

def editTokens (state : AppState) (edit : TokensState -> TokensState) : AppState × List UpdateAction :=
  ({ state with tokens := edit state.tokens }, [])

def revokeSelected (state : AppState) : AppState × List UpdateAction :=
  match state.tokens.selectedName with
  | some name =>
    if state.tokens.loading then (state, [])
    else
      ({ state with
          tokens := { state.tokens with
            loading := true, status := "Revoking '" ++ name ++ "'…", lastMintedSecret := none } },
        [.revokeToken name])
  | none => (state, [])

def openOverlay (state : AppState) : AppState × List UpdateAction :=
  match state.tokens.lastMintedSecret with
  | some secret =>
    let seq := state.qrSeq + 1
    let overlay :=
      { phase := .generating, seq, baselineClients := 0, tokenName := secret.name,
        readOnly := secret.readOnly, tickCounter := 0 }
    ({ state with qrSeq := seq, qrOverlay := some overlay },
      [.showTokenQr { token := secret.plaintext, readOnly := secret.readOnly, seq,
                      advertiseTrust := state.cert.advertiseTrust }])
  | none =>
    editTokens state fun tokens =>
      { tokens with status := "Create a token first, then press Enter to show its QR." }

def handleBrowsingKey (state : AppState) (key : KeyEvent) : AppState × List UpdateAction :=
  let len := state.tokens.tokens.length
  match key.code with
  | .down | .char 'j' =>
    if len = 0 then (state, [])
    else editTokens state fun tokens => { tokens with cursor := (tokens.cursor + 1) % len }
  | .up | .char 'k' =>
    if len = 0 then (state, [])
    else editTokens state fun tokens => { tokens with cursor := (tokens.cursor + len - 1) % len }
  | .char 'c' =>
    editTokens state fun tokens => { tokens with formPhase := .creating, formName := "", formReadOnly := false }
  | .char 'd' | .char 'x' => revokeSelected state
  | .char 'r' =>
    if state.tokens.loading then (state, [])
    else ({ state with tokens := { state.tokens with loading := true, status := "Refreshing…" } }, [.loadTokens])
  | .enter => openOverlay state
  | .esc => editTokens state fun tokens => { tokens with lastMintedSecret := none }
  | _ => (state, [])

def submitToken (state : AppState) : AppState × List UpdateAction :=
  if state.tokens.loading then (state, [])
  else
    let name := trim state.tokens.formName
    ({ state with tokens := { state.tokens with loading := true, status := "Creating token…" } },
      [.createToken (if name = "" then none else some name) state.tokens.formReadOnly])

def handleCreatingKey (state : AppState) (key : KeyEvent) : AppState × List UpdateAction :=
  match key.code with
  | .esc => editTokens state fun tokens => { tokens with formPhase := .browsing, formName := "" }
  | .enter => submitToken state
  | .backspace => editTokens state fun tokens => { tokens with formName := pop tokens.formName }
  | .char c =>
    if c = ' ' && key.control then
      editTokens state fun tokens => { tokens with formReadOnly := !tokens.formReadOnly }
    else editTokens state fun tokens => { tokens with formName := tokens.formName.push c }
  | _ => (state, [])

def handleTokensKey (state : AppState) (key : KeyEvent) : AppState × List UpdateAction :=
  match state.tokens.formPhase with
  | .browsing => handleBrowsingKey state key
  | .creating => handleCreatingKey state key

end Tokens

def handleScreenKey (state : AppState) (key : KeyEvent) : AppState × List UpdateAction :=
  match state.screen with
  | .config => handleConfigKey state key
  | .cert => handleCertKey state key
  | .server => handleServerKey state key
  | .tokens => handleTokensKey state key
  | .dashboard => handleNavKeys state key

def handleKey (state : AppState) (key : KeyEvent) : AppState × List UpdateAction :=
  if key.control && key.code = .char 'c' then ({ state with shouldQuit := true }, [.quit])
  -- The overlay takes every key; closing it revokes nothing.
  else if state.qrOverlay.isSome then
    if key.code = .esc || key.code = .char 'q' then ({ state with qrOverlay := none }, []) else (state, [])
  else if key.code = .char 'q' && !state.isTextEditing then ({ state with shouldQuit := true }, [.quit])
  else if key.code = .tab then transitionTo state state.screen.next
  else if key.code = .backTab then transitionTo state state.screen.prev
  else handleScreenKey state key

section Ticks

def tickDue (counter : UInt32) : Bool :=
  counter % 20 = 0

def pollScreen (state : AppState) : AppState × List UpdateAction :=
  if (state.screen = .server || state.screen = .dashboard) && !state.server.loading then
    let counter := state.server.tickCounter + 1
    if tickDue counter then
      ({ state with server := { state.server with tickCounter := counter, loading := true } }, [.refreshStatus])
    else ({ state with server := { state.server with tickCounter := counter } }, [])
  else (state, [])

def QrOverlayPhase.isShowing : QrOverlayPhase -> Bool
  | .showing .. => true
  | _ => false

def pollOverlay (state : AppState) : AppState × List UpdateAction :=
  match state.qrOverlay with
  | some overlay =>
    if overlay.phase.isShowing && !state.server.loading then
      let counter := overlay.tickCounter + 1
      let ticked := { state with qrOverlay := some { overlay with tickCounter := counter } }
      if tickDue counter then
        ({ ticked with server := { ticked.server with loading := true } }, [.refreshStatus])
      else (ticked, [])
    else (state, [])
  | none => (state, [])

def handleTick (state : AppState) : AppState × List UpdateAction :=
  let screen := pollScreen state
  let overlay := pollOverlay screen.1
  (overlay.1, screen.2 ++ overlay.2)

end Ticks

section Results

def checkOverlayConnection (state : AppState) (currentClients : Nat) : AppState :=
  match state.qrOverlay with
  | some overlay =>
    if overlay.phase.isShowing && overlay.baselineClients < currentClients then
      { state with qrOverlay := some { overlay with phase := .connected } }
    else state
  | none => state

def statusLoaded (state : AppState) (info : Option ServerInfo) : AppState :=
  let loaded := { state with
    server := { state.server with status := info, stopped := info.isNone, loading := false } }
  match info with
  | some info => checkOverlayConnection loaded info.clientCount
  | none => loaded

def configLoaded (state : AppState) (snapshot : ConfigSnapshot) : AppState :=
  let config := { state.config.applyBindAddr snapshot.bindAddr with
    certDir := snapshot.certDir
    reachableIps := snapshot.reachableIps
    advertiseSans := snapshot.advertiseSans
    ipCursor := if snapshot.reachableIps.length ≤ state.config.ipCursor then 0 else state.config.ipCursor
    loading := false
    status := "Config loaded." }
  { state with config }

def report (state : AppState) (text : String) : AppState :=
  match state.screen with
  | .config => { state with config := { state.config with status := text } }
  | .cert => { state with cert := { state.cert with status := text } }
  | .server => { state with server := { state.server with actionMsg := text } }
  | .tokens => { state with tokens := { state.tokens with status := text } }
  | .dashboard => state

def clearLoading (state : AppState) : AppState :=
  { state with
    config := { state.config with loading := false }
    cert := { state.cert with loading := false }
    server := { state.server with loading := false }
    tokens := { state.tokens with loading := false } }

def tokensLoaded (state : AppState) (records : List TokenRecord) : AppState :=
  { state with
    tokens := { state.tokens with
      tokens := records
      cursor := if records.length ≤ state.tokens.cursor then records.length - 1 else state.tokens.cursor
      loading := false
      status := "Tokens loaded." } }

def tokenCreated (state : AppState) (secret : MintedSecret) : AppState :=
  { state with
    tokens := { state.tokens with
      lastMintedSecret := some secret, loading := false, formPhase := .browsing, formName := "" } }

def tokensChanged (state : AppState) : AppState :=
  { state with tokens := { state.tokens with loading := false, lastMintedSecret := none } }

def withOverlay (state : AppState) (seq : UInt64) (change : QrOverlay -> QrOverlay) : AppState :=
  match state.qrOverlay with
  | some overlay => if overlay.seq = seq then { state with qrOverlay := some (change overlay) } else state
  | none => state

def tokenQrReady (state : AppState) (ready : QrReady) : AppState :=
  withOverlay state ready.seq fun overlay =>
    { overlay with
      baselineClients := ready.baselineClients
      phase := .showing ready.uri ready.host ready.port ready.fingerprintShort }

def tokenQrFailed (state : AppState) (err : String) (seq : UInt64) : AppState :=
  withOverlay state seq fun overlay => { overlay with phase := .failed err }

end Results

def update (state : AppState) : Message -> AppState × List UpdateAction
  | .key event => handleKey state event
  | .tick => handleTick state
  | .quit => ({ state with shouldQuit := true }, [.quit])
  | .navTo screen => transitionTo state screen
  | .statusLoaded info => (statusLoaded state info, [])
  | .configLoaded snapshot => (configLoaded state snapshot, [])
  | .certEnsured fingerprint sans =>
    ({ state with
        cert := { state.cert with fingerprint, sans, loading := false, status := "Certificate ready." } }, [])
  -- Read in the background: the status line stays.
  | .certInfoLoaded fingerprint sans =>
    ({ state with
        cert := { state.cert with fingerprint := fingerprint.getD "", sans, loading := false } }, [])
  | .actionFailed message => (clearLoading (report state ("Error: " ++ message)), [])
  | .actionOk message => (clearLoading (report state message), [])
  | .tokensLoaded records => (tokensLoaded state records, [])
  | .tokenCreated token name readOnly => (tokenCreated state ⟨name, token, readOnly⟩, [.loadTokens])
  | .tokensChanged => (tokensChanged state, [.loadTokens])
  | .tokenQrReady ready => (tokenQrReady state ready, [])
  | .tokenQrFailed err seq => (tokenQrFailed state err seq, [])

end Muxrd.Panel
