import Muxrd.Panel.Dialing
import Muxrd.Panel.Update

set_option autoImplicit false

namespace Muxrd.Panel

open RustStd Tls Config Start

section Requested

def requestable (text : String) : Bool :=
  text ≠ "" && !(parseIpAddr text).any (·.isUnspecified)

def values (sans : List San) : List String :=
  sans.map (·.value)

variable {sans : List San} {value text : String}

theorem value_fromHost (text : String) : (San.fromHost text).value = trim text := by
  unfold San.fromHost
  dsimp only
  split_ifs <;> rfl

theorem sanEntryFrom_fromHost (text : String) : sanEntryFrom (.fromHost text) = .parse text := by
  unfold San.fromHost
  dsimp only
  cases parsed : parseIpAddr (trim text) with
  | none => simp [sanEntryFrom, parse_none parsed]
  | some address => simp [sanEntryFrom, parsed, parse_some parsed]

theorem trim_ipv4 (ip : Ipv4Addr) : trim ip.toString = ip.toString :=
  @trim_toString (.v4 ip) trivial

theorem parse_ipv4 (ip : Ipv4Addr) : parseIpAddr ip.toString = some (.v4 ip) :=
  @parseIpAddr_toString (.v4 ip) trivial

theorem fromHost_ipv4 (ip : Ipv4Addr) : San.fromHost ip.toString = .ip ip.toString := by
  simp [San.fromHost, trim_ipv4, parse_ipv4]

def Plain (sans : List San) : Prop :=
  ∀ san ∈ sans, .fromHost san.value = san

theorem mem_values_pushSan {key : String} (trimmed : trim key = key) :
    value ∈ values (pushSan sans key (.fromHost key)) ↔ value ∈ values sans ∨ value = key := by
  unfold pushSan
  split_ifs with known
  · simp only [List.any_eq_true, decide_eq_true_eq] at known
    obtain ⟨san, member, rfl⟩ := known
    have listed : san.value ∈ values sans := List.mem_map_of_mem member
    constructor
    · exact .inl
    · rintro (member | rfl)
      · exact member
      · exact listed
  · simp [values, value_fromHost, trimmed]

theorem plain_pushSan {key : String} (trimmed : trim key = key) (plain : Plain sans) :
    Plain (pushSan sans key (.fromHost key)) := by
  unfold pushSan
  split_ifs
  · exact plain
  · intro san member
    rcases List.mem_append.mp member with member | member
    · exact plain san member
    · have same : san = .fromHost key := by simpa using member
      rw [same, value_fromHost, trimmed]

theorem pushHost_eq (entry : String) :
    pushHost sans entry =
      if requestable (trim entry) then pushSan sans (trim entry) (.fromHost (trim entry)) else sans := by
  unfold pushHost requestable
  by_cases empty : trim entry = ""
  · simp [empty]
  · cases unspecified : (parseIpAddr (trim entry)).any (·.isUnspecified) <;> simp [empty, unspecified]

theorem mem_values_pushHost {entry : String} :
    value ∈ values (pushHost sans entry) ↔ value ∈ values sans ∨ value = trim entry ∧ requestable value = true := by
  rw [pushHost_eq]
  split_ifs with asked
  · rw [mem_values_pushSan (trim_trim entry)]
    constructor
    · rintro (member | rfl)
      · exact .inl member
      · exact .inr ⟨rfl, asked⟩
    · rintro (member | ⟨same, _⟩)
      · exact .inl member
      · exact .inr same
  · constructor
    · exact .inl
    · rintro (member | ⟨rfl, alsoAsked⟩)
      · exact member
      · exact absurd alsoAsked asked

theorem plain_pushHost {entry : String} (plain : Plain sans) : Plain (pushHost sans entry) := by
  rw [pushHost_eq]
  split_ifs
  · exact plain_pushSan (trim_trim entry) plain
  · exact plain

theorem mem_values_pushHosts (entries : List String) : value ∈ values (entries.foldl pushHost sans) ↔
    value ∈ values sans ∨ ∃ entry ∈ entries, value = trim entry ∧ requestable value = true := by
  induction entries generalizing sans with
  | nil => simp
  | cons entry entries ih =>
    rw [List.foldl_cons, ih, mem_values_pushHost]
    simp [or_assoc]

theorem plain_pushHosts (entries : List String) (plain : Plain sans) : Plain (entries.foldl pushHost sans) := by
  induction entries generalizing sans with
  | nil => exact plain
  | cons entry entries ih =>
    rw [List.foldl_cons]
    exact ih (plain_pushHost plain)

def pushReachable (sans : List San) (ip : Ipv4Addr) : List San :=
  if ip.isUnspecified then sans else pushSan sans ip.toString (.ip ip.toString)

theorem mem_values_pushReachable {ip : Ipv4Addr} : value ∈ values (pushReachable sans ip) ↔
    value ∈ values sans ∨ ip.isUnspecified = false ∧ value = ip.toString := by
  unfold pushReachable
  split_ifs with unspecified
  · simp [unspecified]
  · rw [← fromHost_ipv4, mem_values_pushSan (trim_ipv4 ip)]
    simp [unspecified]

theorem plain_pushReachable {ip : Ipv4Addr} (plain : Plain sans) : Plain (pushReachable sans ip) := by
  unfold pushReachable
  split_ifs
  · exact plain
  · rw [← fromHost_ipv4]
    exact plain_pushSan (trim_ipv4 ip) plain

theorem mem_values_reachable (ips : List Ipv4Addr) : value ∈ values (ips.foldl pushReachable sans) ↔
    value ∈ values sans ∨ ∃ ip ∈ ips, ip.isUnspecified = false ∧ value = ip.toString := by
  induction ips generalizing sans with
  | nil => simp
  | cons ip ips ih =>
    rw [List.foldl_cons, ih, mem_values_pushReachable]
    simp [or_assoc]

theorem plain_reachable (ips : List Ipv4Addr) (plain : Plain sans) : Plain (ips.foldl pushReachable sans) := by
  induction ips generalizing sans with
  | nil => exact plain
  | cons ip ips ih =>
    rw [List.foldl_cons]
    exact ih (plain_pushReachable plain)

inductive Asked (config : ConfigState) (value : String) : Prop
  | reachable {ip : Ipv4Addr} (listed : ip ∈ config.reachableIps) (concrete : ip.isUnspecified = false)
    (same : value = ip.toString)
  | bound (same : value = trim config.host) (asked : requestable value = true)
  | advertised {entry : String} (listed : entry ∈ config.advertiseSans) (same : value = trim entry)
    (asked : requestable value = true)

theorem mem_values_requested {state : AppState} :
    value ∈ values (buildSansFromConfig state) ↔ Asked state.config value := by
  have whole : buildSansFromConfig state = state.config.advertiseSans.foldl pushHost
      (pushHost (state.config.reachableIps.foldl pushReachable []) state.config.host) := rfl
  rw [whole, mem_values_pushHosts, mem_values_pushHost, mem_values_reachable]
  constructor
  · rintro (((never | ⟨ip, listed, concrete, same⟩) | ⟨same, asked⟩) | ⟨entry, listed, same, asked⟩)
    · cases never
    · exact .reachable listed concrete same
    · exact .bound same asked
    · exact .advertised listed same asked
  · intro asked
    cases asked with
    | reachable listed concrete same => exact .inl (.inl (.inr ⟨_, listed, concrete, same⟩))
    | bound same asked => exact .inl (.inr ⟨same, asked⟩)
    | advertised listed same asked => exact .inr ⟨_, listed, same, asked⟩

theorem mem_requested {state : AppState} {entry : SanEntry} :
    entry ∈ (buildSansFromConfig state).map sanEntryFrom ↔
      ∃ value, Asked state.config value ∧ SanEntry.parse value = entry := by
  have plain : Plain (buildSansFromConfig state) :=
    plain_pushHosts _ (plain_pushHost (plain_reachable _ (by simp [Plain])))
  constructor
  · intro member
    obtain ⟨san, listed, rfl⟩ := List.mem_map.mp member
    refine ⟨san.value, mem_values_requested.mp (List.mem_map_of_mem listed), ?_⟩
    rw [← sanEntryFrom_fromHost, plain san listed]
  · rintro ⟨value, asked, rfl⟩
    obtain ⟨san, listed, rfl⟩ := List.mem_map.mp (mem_values_requested.mpr asked)
    rw [← sanEntryFrom_fromHost, plain san listed]
    exact List.mem_map_of_mem listed

end Requested

section Daemon

variable {host : Host} {cliSans : List String} {bindAddr : String} {entry : SanEntry}

theorem sidecarCovers_iff {stored requested : List SanEntry} :
    sidecarCovers stored requested = true ↔ ∀ entry ∈ requested, entry ∈ stored := by
  simp [sidecarCovers]

theorem mem_collectSans : entry ∈ collectSans host cliSans bindAddr ↔
    (∃ san ∈ cliSans, SanEntry.parse san = entry) ∨ entry ∈ SanEntry.fromEnv host.sanEnv ∨
      bindSan bindAddr = some entry := by
  unfold collectSans
  dsimp only
  cases bindSan bindAddr with
  | none => simp
  | some own =>
    dsimp only
    split_ifs with known
    · have listed : (∃ san ∈ cliSans, SanEntry.parse san = own) ∨ own ∈ SanEntry.fromEnv host.sanEnv := by
        simpa using known
      constructor
      · intro member
        rcases List.mem_append.mp member with member | member
        · exact .inl (List.mem_map.mp member)
        · exact .inr (.inl member)
      · rintro (member | member | same)
        · exact List.mem_append_left _ (List.mem_map.mpr member)
        · exact List.mem_append_right _ member
        · rw [← Option.some.inj same]
          exact known
    · simp [eq_comm]

theorem bindSan_eq {addr : SocketAddr} (bound : parseSocketAddr bindAddr = some addr) :
    bindSan bindAddr =
      if '%' ∈ bindAddr.toList then none else if addr.ip.dialable then some (.ip addr.ip) else none := by
  obtain ⟨bindHost, port, rfl, parts, read, number⟩ := parseSocketAddr_split bound
  have decimal := (parsePort_iff.mp number).1
  have other : '%' ∉ port.toList := by
    intro member
    have readable := decimal.readable '%' member
    cases readable
  have scope : '%' ∈ (bindHost ++ ":" ++ port).toList ↔ '%' ∈ bindHost.toList := by simp [other]
  have opened : bindSan (bindHost ++ ":" ++ port) =
      (parseIpAddr (trimMatches isBracket bindHost)).bind fun address =>
        if address.dialable then some (.ip address) else none := by
    simp only [bindSan, parts, Option.bind_eq_bind, Option.bind_some, IpAddr.dialable]
    rfl
  rw [opened, parseIpAddr_unbracketed read]
  simp only [scope]
  split_ifs <;> simp_all

end Daemon

section Covering

def isWildcardText (text : String) : Bool :=
  (spelledAddr text).any (·.isUnspecified)

/-- The certificate for these names is kept by the daemon, and it vouches for no wildcard. -/
structure Covers (host : Host) (cliSans : List String) (bindAddr : String) (sans : List San) : Prop where
  covers : sidecarCovers (sans.map sanEntryFrom) (collectSans host cliSans bindAddr) = true
  kept : ∀ dir attempt, covered dir (sans.map sanEntryFrom) = true ->
    replaces dir (collectSans host cliSans bindAddr) attempt = false
  concrete : ∀ san ∈ sans, isWildcardText san.value = false

/-- No wildcard is advertised, and an IPv6 address that the daemon asks for is advertised as well as bound to. -/
structure BracketsAside (host : Host) (bindAddr : String) (addr : SocketAddr) : Prop where
  advertised : ∀ san ∈ envExtraSans host, isWildcardText san = false
  bound : addr.ip.isIpv4 = true ∨
    addr.ip.isUnspecified = false ∧
      (addr.ip.isLoopback = true ∨ '%' ∈ bindAddr.toList ∨ .ip addr.ip ∈ SanEntry.fromEnv host.sanEnv)

theorem covers_kept {sans : List San} {host : Host} {cliSans : List String} {bindAddr : String}
    (covers : sidecarCovers (sans.map sanEntryFrom) (collectSans host cliSans bindAddr) = true) (dir : CertDir)
    (attempt : Attempt) (stored : covered dir (sans.map sanEntryFrom) = true) :
    replaces dir (collectSans host cliSans bindAddr) attempt = false := by
  have still : covered dir (collectSans host cliSans bindAddr) = true := by
    simp only [covered, Bool.and_eq_true, sidecarCovers_iff] at covers stored ⊢
    exact ⟨stored.1, fun entry asked => stored.2 entry (covers entry asked)⟩
  simp [replaces, still]

theorem Asked.trimmed {config : ConfigState} {value : String} (asked : Asked config value) : trim value = value := by
  cases asked with
  | reachable _ _ same => rw [same, trim_ipv4]
  | bound same _ => rw [same, trim_trim]
  | advertised _ same _ => rw [same, trim_trim]

theorem Asked.specified {config : ConfigState} {value : String} (asked : Asked config value) {address : IpAddr}
    (parsed : parseIpAddr value = some address) : address.isUnspecified = false := by
  have requested (asked : requestable value = true) : address.isUnspecified = false := by
    have both : value ≠ "" ∧ address.isUnspecified = false := by simpa [requestable, parsed] using asked
    exact both.2
  cases asked with
  | reachable _ concrete same =>
    rw [same, parse_ipv4] at parsed
    rw [← Option.some.inj parsed]
    exact concrete
  | bound _ asked => exact requested asked
  | advertised _ _ asked => exact requested asked

theorem requestable_of_concrete {text : String} (nonempty : text ≠ "") (trimmed : trim text = text)
    (concrete : isWildcardText text = false) : requestable text = true := by
  cases parsed : parseIpAddr text with
  | none => simp [requestable, nonempty, parsed]
  | some address =>
    have spelled : spelledAddr text = some address := spelledAddr_parsed (by rw [trimmed, parsed])
    have specified : address.isUnspecified = false := by simpa [isWildcardText, spelled] using concrete
    simp [requestable, nonempty, parsed, specified]

variable {host : Host} {state : AppState} {snapshot : ConfigSnapshot} {cliSans : List String} {addr : SocketAddr}

def requestedSans (state : AppState) (snapshot : ConfigSnapshot) : List San :=
  buildSansFromConfig (configLoaded state snapshot)

theorem loaded_host {bindHost port : String} (parts : rsplit snapshot.bindAddr ':' = some (bindHost, port)) :
    (configLoaded state snapshot).config.host = bindHost := by
  simp [configLoaded, ConfigState.applyBindAddr, parts]

theorem loaded_sans : (configLoaded state snapshot).config.advertiseSans = snapshot.advertiseSans :=
  rfl

theorem env_requested (shared : snapshot.advertiseSans = envExtraSans host) {entry : SanEntry}
    (listed : entry ∈ SanEntry.fromEnv host.sanEnv) (concrete : isWildcardText entry.display = false) :
    entry ∈ (requestedSans state snapshot).map sanEntryFrom := by
  obtain ⟨nonempty, trimmed, again⟩ := display_read listed
  have advertised : entry.display ∈ (configLoaded state snapshot).config.advertiseSans := by
    rw [loaded_sans, shared]
    exact List.mem_map_of_mem listed
  exact mem_requested.mpr ⟨entry.display,
    .advertised advertised trimmed.symm (requestable_of_concrete nonempty trimmed concrete), again⟩

theorem host_requestable {bindHost : String} {scopeId : UInt32} (read : parseHost bindHost = some (addr.ip, scopeId))
    (specified : addr.ip.isIpv4 = true -> addr.ip.isUnspecified = false) : requestable bindHost = true := by
  have nonempty : bindHost ≠ "" := by
    rintro rfl
    cases read
  cases ipv4 : addr.ip.isIpv4 with
  | true => simp [requestable, nonempty, parseIpAddr_host read, ipv4, specified ipv4]
  | false => simp [requestable, nonempty, parseIpAddr_host read, ipv4]

theorem BracketsAside.covers_bound (bound : parseSocketAddr snapshot.bindAddr = some addr)
    (shared : snapshot.advertiseSans = envExtraSans host) (aside : BracketsAside host snapshot.bindAddr addr)
    {entry : SanEntry} (own : bindSan snapshot.bindAddr = some entry) :
    entry ∈ (requestedSans state snapshot).map sanEntryFrom := by
  obtain ⟨bindHost, port, _, parts, read, _⟩ := parseSocketAddr_split bound
  rw [bindSan_eq bound] at own
  split_ifs at own with scope dialable
  obtain rfl := Option.some.inj own
  simp only [IpAddr.dialable, Bool.and_eq_true, Bool.not_eq_true'] at dialable
  rcases aside.bound with ipv4 | ⟨_, loopback | sameScope | listed⟩
  · refine mem_requested.mpr ⟨bindHost, .bound ?_ (host_requestable read fun _ => dialable.2), ?_⟩
    · rw [loaded_host parts, trim_host read]
    · exact parse_some (by rw [trim_host read, parseIpAddr_host read, if_pos ipv4])
  · simp [loopback] at dialable
  · exact absurd sameScope scope
  · apply env_requested shared listed
    exact aside.advertised _ (List.mem_map_of_mem listed)

theorem BracketsAside.concrete (bound : parseSocketAddr snapshot.bindAddr = some addr)
    (shared : snapshot.advertiseSans = envExtraSans host) (aside : BracketsAside host snapshot.bindAddr addr)
    {value : String} (asked : Asked (configLoaded state snapshot).config value) : isWildcardText value = false := by
  obtain ⟨bindHost, port, _, parts, read, _⟩ := parseSocketAddr_split bound
  have specified (address : IpAddr) : parseIpAddr value = some address -> address.isUnspecified = false :=
    asked.specified
  cases asked with
  | @reachable ip _ concrete same =>
    have spelled : spelledAddr value = some (.v4 ip) := spelledAddr_parsed (by rw [same, trim_ipv4, parse_ipv4])
    simpa [isWildcardText, spelled, IpAddr.isUnspecified] using concrete
  | bound same _ =>
    rw [loaded_host parts, trim_host read] at same
    have wildcard : addr.ip.isUnspecified = false := by
      rcases aside.bound with ipv4 | ⟨specified, _⟩
      · exact specified _ (by rw [same, parseIpAddr_host read, if_pos ipv4])
      · exact specified
    simp [isWildcardText, same, spelledAddr_host read, wildcard]
  | @advertised entry listed same _ =>
    rw [loaded_sans, shared] at listed
    rw [same, (envExtraSans_trimmed listed).2]
    exact aside.advertised entry listed

theorem asked_ip {config : ConfigState} {value : String} (asked : Asked config value) {address : IpAddr}
    (entry : SanEntry.parse value = .ip address) : parseIpAddr value = some address := by
  cases parsed : parseIpAddr value with
  | none =>
    rw [parse_none (by rw [asked.trimmed, parsed])] at entry
    cases entry
  | some found =>
    rw [parse_some (by rw [asked.trimmed, parsed])] at entry
    rw [SanEntry.ip.inj entry]

theorem Covers.asked (covers : Covers host cliSans snapshot.bindAddr (requestedSans state snapshot)) {entry : SanEntry}
    (wanted : entry ∈ collectSans host cliSans snapshot.bindAddr) :
    ∃ value, Asked (configLoaded state snapshot).config value ∧ SanEntry.parse value = entry :=
  mem_requested.mp (sidecarCovers_iff.mp covers.covers entry wanted)

theorem Covers.advertised (shared : snapshot.advertiseSans = envExtraSans host)
    (covers : Covers host cliSans snapshot.bindAddr (requestedSans state snapshot)) {entry : SanEntry}
    (listed : entry ∈ SanEntry.fromEnv host.sanEnv) : isWildcardText entry.display = false := by
  obtain ⟨nonempty, trimmed, again⟩ := display_read listed
  cases parsed : parseIpAddr entry.display with
  | none =>
    have asked : Asked (configLoaded state snapshot).config entry.display := by
      apply Asked.advertised _ trimmed.symm
      · simp [requestable, nonempty, parsed]
      · rw [loaded_sans, shared]
        exact List.mem_map_of_mem listed
    obtain ⟨san, member, same⟩ := List.mem_map.mp (mem_values_requested.mpr asked)
    rw [← same]
    exact covers.concrete san member
  | some address =>
    -- Asked for by the daemon, and so by the panel, which asks for no wildcard address.
    have read : entry = .ip address := again.symm.trans (parse_some (by rw [trimmed, parsed]))
    obtain ⟨value, asked, same⟩ := covers.asked (mem_collectSans.mpr (.inr (.inl listed)))
    have specified := asked.specified (asked_ip asked (same.trans read))
    have spelled : spelledAddr entry.display = some address := spelledAddr_parsed (by rw [trimmed, parsed])
    simp [isWildcardText, spelled, specified]

theorem Covers.bound (bound : parseSocketAddr snapshot.bindAddr = some addr)
    (shared : snapshot.advertiseSans = envExtraSans host)
    (covers : Covers host cliSans snapshot.bindAddr (requestedSans state snapshot)) (ipv6 : addr.ip.isIpv4 = false) :
    addr.ip.isUnspecified = false ∧
      (addr.ip.isLoopback = true ∨ '%' ∈ snapshot.bindAddr.toList ∨ .ip addr.ip ∈ SanEntry.fromEnv host.sanEnv) := by
  obtain ⟨bindHost, port, _, parts, read, _⟩ := parseSocketAddr_split bound
  have specified : addr.ip.isUnspecified = false := by
    have asked : Asked (configLoaded state snapshot).config bindHost := by
      apply Asked.bound
      · rw [loaded_host parts, trim_host read]
      · exact host_requestable read (by simp [ipv6])
    obtain ⟨san, member, same⟩ := List.mem_map.mp (mem_values_requested.mpr asked)
    have concrete := covers.concrete san member
    simpa [isWildcardText, same, spelledAddr_host read] using concrete
  refine ⟨specified, ?_⟩
  by_contra otherwise
  simp only [not_or, Bool.not_eq_true] at otherwise
  obtain ⟨loopback, scope, unlisted⟩ := otherwise
  have own : bindSan snapshot.bindAddr = some (.ip addr.ip) := by
    simp [bindSan_eq bound, scope, IpAddr.dialable, loopback, specified]
  obtain ⟨value, asked, same⟩ := covers.asked (mem_collectSans.mpr (.inr (.inr own)))
  have parsed := asked_ip asked same
  cases asked with
  | @reachable ip _ _ same =>
    rw [same, parse_ipv4] at parsed
    simp [← Option.some.inj parsed, IpAddr.isIpv4] at ipv6
  | bound same _ =>
    rw [same, loaded_host parts, trim_host read, parseIpAddr_host read] at parsed
    simp [ipv6] at parsed
  | @advertised entry listed listedAs _ =>
    rw [loaded_sans, shared] at listed
    obtain ⟨found, member, rfl⟩ := List.mem_map.mp listed
    obtain ⟨_, trimmed, again⟩ := display_read member
    rw [listedAs, trimmed, again] at same
    rw [same] at member
    exact unlisted member

theorem requested_sans_cover_iff (bound : parseSocketAddr snapshot.bindAddr = some addr)
    (shared : snapshot.advertiseSans = envExtraSans host)
    (within : ∀ san ∈ cliSans, SanEntry.parse san ∈ (requestedSans state snapshot).map sanEntryFrom) :
    Covers host cliSans snapshot.bindAddr (requestedSans state snapshot) ↔
      BracketsAside host snapshot.bindAddr addr := by
  constructor
  · intro covers
    constructor
    · intro san member
      obtain ⟨entry, listed, rfl⟩ := List.mem_map.mp member
      exact covers.advertised shared listed
    · cases ipv4 : addr.ip.isIpv4 with
      | true => exact .inl rfl
      | false => exact .inr (covers.bound bound shared ipv4)
  · intro aside
    have all : sidecarCovers ((requestedSans state snapshot).map sanEntryFrom)
        (collectSans host cliSans snapshot.bindAddr) = true := by
      rw [sidecarCovers_iff]
      intro entry member
      rcases mem_collectSans.mp member with ⟨san, given, rfl⟩ | listed | own
      · exact within san given
      · exact env_requested shared listed (aside.advertised _ (List.mem_map_of_mem listed))
      · exact aside.covers_bound bound shared own
    refine { covers := all, kept := covers_kept all, concrete := ?_ }
    intro san member
    exact aside.concrete bound shared (mem_values_requested.mp (List.mem_map_of_mem member))

end Covering

section Sampled

def onLan (sanEnv : String) : Host :=
  { dataDir := "/data", bindEnv := none, sanEnv, reachableIps := [⟨192, 168, 1, 2⟩], locate := fun path => path }

def snapshotOn (host : Host) (bindAddr : String) : ConfigSnapshot :=
  { bindAddr, certDir := "/data", reachableIps := host.reachableIps, advertiseSans := envExtraSans host }

theorem requested_sans_cover_iff_lan :
    Covers (onLan "100.71.31.57, box.local") ["box.local"] "192.168.1.2:50051"
      (requestedSans .new (snapshotOn (onLan "100.71.31.57, box.local") "192.168.1.2:50051")) :=
  (@requested_sans_cover_iff (onLan "100.71.31.57, box.local") .new
    (snapshotOn (onLan "100.71.31.57, box.local") "192.168.1.2:50051") ["box.local"] ⟨.v4 ⟨192, 168, 1, 2⟩, 0, 50051⟩
    (by decide) rfl (by decide)).mpr { advertised := by decide, bound := .inl rfl }

/-- The daemon asks for the IPv6 address that it is bound to, the panel for a name in brackets. -/
theorem bracketed_name_is_requested :
    parseSocketAddr "[2001:db8::1]:50051" = some ⟨.v6 [0x2001, 0xdb8, 0, 0, 0, 0, 0, 1], 0, 50051⟩ ∧
      ¬ Covers (onLan "") [] "[2001:db8::1]:50051" (requestedSans .new (snapshotOn (onLan "") "[2001:db8::1]:50051")) := by
  refine ⟨by decide, ?_⟩
  intro covers
  have all := covers.covers
  revert all
  decide

end Sampled

end Muxrd.Panel
