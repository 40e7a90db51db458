import Mathlib.Data.List.Find
import Muxrd.Lib.SocketAddr
import Muxrd.Panel.Server

set_option autoImplicit false

namespace Muxrd.Panel

open RustStd Tls Config

section Advertised

-- What both programs read from `ZELLIMSERVER_SAN`.
def envExtraSans (host : Host) : List String :=
  (SanEntry.fromEnv host.sanEnv).map (·.display)

theorem parse_some {text : String} {address : IpAddr} (parsed : parseIpAddr (trim text) = some address) :
    SanEntry.parse text = .ip address := by
  delta SanEntry.parse
  rw [parsed]

theorem parse_none {text : String} (parsed : parseIpAddr (trim text) = none) :
    SanEntry.parse text = .dns (trim text) := by
  delta SanEntry.parse
  rw [parsed]

theorem display_read {value : String} {entry : SanEntry} (member : entry ∈ SanEntry.fromEnv value) :
    entry.display ≠ "" ∧ trim entry.display = entry.display ∧ SanEntry.parse entry.display = entry := by
  simp only [SanEntry.fromEnv, List.mem_map, List.mem_filter, decide_eq_true_eq] at member
  obtain ⟨_, ⟨⟨part, _, rfl⟩, nonempty⟩, rfl⟩ := member
  cases parsed : parseIpAddr (trim part) with
  | none =>
    have entry : SanEntry.parse (trim part) = .dns (trim part) := by
      rw [parse_none (by rw [trim_trim, parsed]), trim_trim]
    rw [entry]
    exact ⟨nonempty, trim_trim part, entry⟩
  | some address =>
    have entry : SanEntry.parse (trim part) = .ip address := parse_some (by rw [trim_trim, parsed])
    have wellFormed := parseIpAddr_wellFormed parsed
    have again := parseIpAddr_toString wellFormed
    have trimmed := trim_toString wellFormed
    rw [entry]
    refine ⟨?_, trimmed, parse_some (by rw [SanEntry.display, trimmed, again])⟩
    intro empty
    rw [SanEntry.display] at empty
    rw [empty] at again
    cases again

theorem envExtraSans_trimmed {host : Host} {san : String} (member : san ∈ envExtraSans host) :
    san ≠ "" ∧ trim san = san := by
  obtain ⟨entry, listed, rfl⟩ := List.mem_map.mp member
  exact ⟨(display_read listed).1, (display_read listed).2.1⟩

end Advertised

section Interfaces

-- 169.254.0.0/16
def isLinkLocal (ip : Ipv4Addr) : Bool :=
  ip.a = 169 && ip.b = 254

def keepReachable (out : List Ipv4Addr) : IpAddr -> List Ipv4Addr
  | .v4 ip =>
    if (IpAddr.v4 ip).isLoopback then out
    else if isLinkLocal ip then out
    else if ip.isUnspecified then out
    else if ip ∈ out then out
    else out ++ [ip]
  | .v6 _ => out

def reachableIpv4 (interfaces : Option (List IpAddr)) : List Ipv4Addr :=
  (interfaces.getD []).foldl keepReachable []

theorem reachableIpv4_dialable {interfaces : Option (List IpAddr)} {ip : Ipv4Addr}
    (member : ip ∈ reachableIpv4 interfaces) : (IpAddr.v4 ip).dialable = true := by
  have kept : ∀ ip ∈ reachableIpv4 interfaces, (IpAddr.v4 ip).dialable = true := by
    unfold reachableIpv4
    apply List.foldlRecOn (motive := fun out => ∀ ip ∈ out, (IpAddr.v4 ip).dialable = true)
    · simp
    · intro out dialable address _
      cases address with
      | v6 _ => exact dialable
      | v4 ip =>
        simp only [keepReachable]
        split_ifs with loopback _ unspecified
        · exact dialable
        · exact dialable
        · exact dialable
        · exact dialable
        · intro other member
          rcases List.mem_append.mp member with member | member
          · exact dialable other member
          · obtain rfl : other = ip := by simpa using member
            simpa [IpAddr.dialable, IpAddr.isUnspecified] using And.intro loopback unspecified
  exact kept ip member

end Interfaces

section Dialing

/-- A name, or an address that another machine can dial, however it is written. -/
def isDialable (text : String) : Bool :=
  (spelledAddr text).all (·.dialable)

-- Such as `isDialable`, with an IPv6 address in brackets taken for a name.
def isDialableBare (text : String) : Bool :=
  (parseIpAddr text).all (·.dialable)

/-- The code leads to the address bound to, or else to the first advertised place or the first interface. -/
structure PointsAt (addr : SocketAddr) (sans : List String) (interfaces : List Ipv4Addr)
    (params : PairingParams) : Prop where
  bound : addr.ip.dialable = true -> spelledAddr params.host = some addr.ip
  advertised : addr.ip.dialable = false -> ∀ san, sans.find? isDialable = some san -> params.host = san
  reachable : addr.ip.dialable = false -> sans.find? isDialable = none ->
    ∀ ip, interfaces.head? = some ip -> params.host = ip.toString
  dialable : isDialable params.host = true
  port : params.port = addr.port

/-- No local IPv6 address is bound to, and none in brackets is the first to be advertised. -/
structure LocalsBare (addr : SocketAddr) (sans : List String) : Prop where
  bound : addr.ip.dialable = true ∨ addr.ip.isIpv4 = true
  advertised : addr.ip.dialable = false -> ∀ san, sans.find? isDialableBare = some san -> isDialable san = true

theorem isDialable_bare {text : String} (trimmed : trim text = text) (dialable : isDialable text = true) :
    isDialableBare text = true := by
  unfold isDialableBare
  cases parsed : parseIpAddr text with
  | none => rfl
  | some address =>
    have spelled : spelledAddr text = some address := spelledAddr_parsed (by rw [trimmed, parsed])
    simpa [isDialable, spelled] using dialable

theorem isConcreteAdvertiseHost_bare {text : String} (nonempty : text ≠ "") (trimmed : trim text = text) :
    isConcreteAdvertiseHost text = isDialableBare text := by
  unfold isConcreteAdvertiseHost isDialableBare
  dsimp only
  rw [trimmed, if_neg nonempty]
  cases parseIpAddr text <;> rfl

variable {host : Host} {certSha256Fingerprint : String -> Option String} {world : World} {request : TokenQr}
  {reads : Reads} {params : PairingParams} {addr : SocketAddr}

theorem buildTokenQrTask_advertises
    (built : buildTokenQrTask host certSha256Fingerprint world request reads = .ok params) :
    params.host = chooseAdvertiseHost host (bindParts (resolve host world.config none).bindAddr).1 (envExtraSans host) ∧
      params.port = (bindParts (resolve host world.config none).bindAddr).2 := by
  unfold buildTokenQrTask at built
  split_ifs at built
  split at built
  · cases built
  · next config effective =>
    rw [effectiveConfig_ok effective] at built
    dsimp only at built
    cases trusts : pairingTrust host certSha256Fingerprint world request.advertiseTrust reads with
    | error e =>
      rw [trusts] at built
      cases built
    | ok trust =>
      rw [trusts] at built
      simp only [Except.map, Except.ok.injEq] at built
      subst built
      dsimp only [envExtraSans]
      exact ⟨rfl, rfl⟩

-- The first to pass the weaker test is the first to pass the stronger one, if it passes it.
theorem find?_stronger {Value : Type} {weak strong : Value -> Bool} {values : List Value} {found : Value}
    (weaker : ∀ value ∈ values, strong value = true -> weak value = true) (first : values.find? weak = some found)
    (passes : strong found = true) : values.find? strong = some found := by
  rw [List.find?_eq_some_iff_append] at first ⊢
  obtain ⟨_, before, after, rfl, earlier⟩ := first
  refine ⟨passes, before, after, rfl, ?_⟩
  intro value member
  have fails := earlier value member
  simp only [Bool.not_eq_true'] at fails ⊢
  by_contra strong
  simp [weaker value (by simp [member]) (by simpa using strong)] at fails

theorem chooseAdvertiseHost_eq {bindHost : String} {ip : IpAddr} {scopeId : UInt32}
    (read : parseHost bindHost = some (ip, scopeId)) :
    chooseAdvertiseHost host bindHost (envExtraSans host) =
      if ip.dialable || !ip.isIpv4 then bindHost
      else ((envExtraSans host).find? isDialableBare).getD
        ((host.reachableIps.head?.map (·.toString)).getD bindHost) := by
  have concrete : isConcreteAdvertiseHost bindHost = (ip.dialable || !ip.isIpv4) := by
    have nonempty : bindHost ≠ "" := by
      rintro rfl
      cases read
    rw [isConcreteAdvertiseHost_bare nonempty (trim_host read), isDialableBare, parseIpAddr_host read]
    cases ip.isIpv4 <;> simp
  have listed : (envExtraSans host).find? isConcreteAdvertiseHost = (envExtraSans host).find? isDialableBare :=
    List.find?_congr fun san member =>
      isConcreteAdvertiseHost_bare (envExtraSans_trimmed member).1 (envExtraSans_trimmed member).2
  rw [chooseAdvertiseHost, concrete, listed]
  split_ifs
  · rfl
  · cases first : (envExtraSans host).find? isDialableBare with
    | none => rfl
    | some san => exact (envExtraSans_trimmed (List.mem_of_find?_eq_some first)).2

theorem bare_find? {host : Host} (first : (envExtraSans host).find? isDialableBare = none) :
    (envExtraSans host).find? isDialable = none := by
  rw [List.find?_eq_none] at first ⊢
  intro san member dialable
  exact first san member (isDialable_bare (envExtraSans_trimmed member).2 dialable)

theorem bare_find?_dialable {host : Host} {san : String} (first : (envExtraSans host).find? isDialableBare = some san)
    (dialable : isDialable san = true) : (envExtraSans host).find? isDialable = some san :=
  find?_stronger (fun _ member passes => isDialable_bare (envExtraSans_trimmed member).2 passes) first dialable

theorem interface_dialable {interfaces : Option (List IpAddr)} {ip : Ipv4Addr}
    (discovered : host.reachableIps = reachableIpv4 interfaces) (first : host.reachableIps.head? = some ip) :
    isDialable ip.toString = true := by
  have member : ip ∈ reachableIpv4 interfaces := discovered ▸ List.mem_of_head? first
  have spelled : spelledAddr ip.toString = some (.v4 ip) := @spelledAddr_toString (.v4 ip) trivial
  simp [isDialable, spelled, reachableIpv4_dialable member]

variable {san : String} {ip : Ipv4Addr}

theorem pointsAt_advertised_iff (undialable : addr.ip.dialable = false) (ipv4 : addr.ip.isIpv4 = true)
    (first : (envExtraSans host).find? isDialableBare = some san) (chosen : params.host = san)
    (port : params.port = addr.port) :
    PointsAt addr (envExtraSans host) host.reachableIps params ↔ LocalsBare addr (envExtraSans host) := by
  constructor
  · intro points
    refine { bound := .inr ipv4, advertised := ?_ }
    intro _ other same
    obtain rfl : san = other := Option.some.inj (first.symm.trans same)
    rw [← chosen]
    exact points.dialable
  · intro locals
    have passes := locals.advertised undialable san first
    have dialled := bare_find?_dialable first passes
    exact
      { bound := by simp [undialable]
        advertised := by simp [dialled, chosen]
        reachable := by simp [dialled]
        dialable := by rw [chosen, passes]
        port }

theorem pointsAt_interface (undialable : addr.ip.dialable = false)
    (bare : (envExtraSans host).find? isDialableBare = none) (interface : host.reachableIps.head? = some ip)
    (dialable : isDialable ip.toString = true) (chosen : params.host = ip.toString) (port : params.port = addr.port) :
    PointsAt addr (envExtraSans host) host.reachableIps params :=
  { bound := by simp [undialable]
    advertised := by simp [bare_find? bare]
    reachable := by simp [interface, chosen]
    dialable := by rw [chosen, dialable]
    port }

theorem advertised_host_dialable_iff {interfaces : Option (List IpAddr)}
    (bound : parseSocketAddr (resolve host world.config none).bindAddr = some addr)
    (discovered : host.reachableIps = reachableIpv4 interfaces) (nonempty : host.reachableIps ≠ [])
    (built : buildTokenQrTask host certSha256Fingerprint world request reads = .ok params) :
    PointsAt addr (envExtraSans host) host.reachableIps params ↔ LocalsBare addr (envExtraSans host) := by
  obtain ⟨bindHost, port, _, parts, read, number⟩ := parseSocketAddr_split bound
  obtain ⟨chosen, port⟩ := buildTokenQrTask_advertises built
  simp only [bindParts, parts, parsePort_u16 number, Option.getD_some, chooseAdvertiseHost_eq read] at chosen port
  have spelled := spelledAddr_host read
  cases dialable : addr.ip.dialable with
  | true =>
    simp only [dialable, Bool.true_or, if_true] at chosen
    constructor
    · intro _
      exact { bound := .inl dialable, advertised := by simp [dialable] }
    · intro _
      exact
        { bound := by simp [chosen, spelled]
          advertised := by simp [dialable]
          reachable := by simp [dialable]
          dialable := by simp [isDialable, chosen, spelled, dialable]
          port }
  | false =>
    cases ipv4 : addr.ip.isIpv4 with
    | false =>
      -- The address in brackets is taken for a name.
      simp only [dialable, ipv4, Bool.not_false, Bool.or_true, if_true] at chosen
      constructor
      · intro points
        have undialable := points.dialable
        simp [isDialable, chosen, spelled, dialable] at undialable
      · intro locals
        simpa [dialable, ipv4] using locals.bound
    | true =>
      simp only [dialable, ipv4, Bool.not_true, Bool.or_self, Bool.false_eq_true, if_false] at chosen
      cases first : (envExtraSans host).find? isDialableBare with
      | some san =>
        simp only [first, Option.getD_some] at chosen
        exact pointsAt_advertised_iff dialable ipv4 first chosen port
      | none =>
        obtain ⟨ip, interface⟩ := Option.isSome_iff_exists.mp (List.isSome_head?.mpr nonempty)
        simp only [first, interface, Option.map_some, Option.getD_none, Option.getD_some] at chosen
        constructor
        · intro _
          exact { bound := .inr ipv4, advertised := by simp [first] }
        · intro _
          exact pointsAt_interface dialable first interface (interface_dialable discovered interface) chosen port

end Dialing

section Sampled

def lanHost (bindEnv sanEnv : String) : Host :=
  { dataDir := "/data", bindEnv := some bindEnv, sanEnv
    reachableIps := reachableIpv4 (some [.v4 ⟨127, 0, 0, 1⟩, .v4 ⟨192, 168, 1, 2⟩]), locate := fun path => path }

def runningWorld : World :=
  { disk := fun _ => .empty, config := .absent, spawned := []
    daemon := some { identity := ⟨"", ""⟩, certMode := .external, bindAddr := "" } }

def pairRequest : TokenQr :=
  { token := "secret", readOnly := false, seq := 1, advertiseTrust := .ca }

def pairingTo (host : String) : PairingParams :=
  { host, port := 50051, trust := .ca, token := "secret", readOnly := false, label := "muxrd" }

theorem advertised_host_dialable_iff_wildcard :
    PointsAt ⟨.v4 ⟨0, 0, 0, 0⟩, 0, 50051⟩ (envExtraSans (lanHost "0.0.0.0:50051" "127.0.0.1"))
      [⟨192, 168, 1, 2⟩] (pairingTo "192.168.1.2") :=
  (@advertised_host_dialable_iff (lanHost "0.0.0.0:50051" "127.0.0.1") some runningWorld pairRequest .clean _
    ⟨.v4 ⟨0, 0, 0, 0⟩, 0, 50051⟩ _ (by decide) rfl (by decide) rfl).mpr { bound := by decide, advertised := by decide }

/-- A daemon on all IPv6 interfaces is advertised by the wildcard itself, whatever else is known. -/
theorem wildcard_is_advertised :
    buildTokenQrTask (lanHost "[::]:50051" "10.0.0.7") some runningWorld pairRequest .clean = .ok (pairingTo "[::]") ∧
      parseSocketAddr (resolve (lanHost "[::]:50051" "10.0.0.7") runningWorld.config none).bindAddr =
        some ⟨.v6 [0, 0, 0, 0, 0, 0, 0, 0], 0, 50051⟩ ∧
      ¬ PointsAt ⟨.v6 [0, 0, 0, 0, 0, 0, 0, 0], 0, 50051⟩ (envExtraSans (lanHost "[::]:50051" "10.0.0.7"))
        [⟨192, 168, 1, 2⟩] (pairingTo "[::]") := by
  refine ⟨rfl, by decide, ?_⟩
  intro points
  have dialable := points.dialable
  revert dialable
  decide

end Sampled

end Muxrd.Panel
