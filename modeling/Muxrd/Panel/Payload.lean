import Muxrd.Lib.Base64
import Muxrd.Lib.Uri
import Muxrd.Panel.Dialing

set_option autoImplicit false

namespace Muxrd.Panel

open RustStd Uri

section Source

-- The engine `URL_SAFE_NO_PAD` of the base64 crate.
variable (base64 : Base64.Engine)

def isUnreserved (byte : UInt8) : Bool :=
  let c := Char.ofNat byte.toNat
  ('A' ≤ c && c ≤ 'Z') || ('a' ≤ c && c ≤ 'z') || ('0' ≤ c && c ≤ '9') || c = '-' || c = '_' || c = '.' || c = '~'

-- `{:02X}`
def upperHex (byte : UInt8) : String :=
  String.ofList [(Nat.digitChar (byte.toNat / 16)).toUpper, (Nat.digitChar (byte.toNat % 16)).toUpper]

def percentEncode (text : String) : String :=
  (asBytes text).foldl
    (fun out byte => if isUnreserved byte then out.push (.ofNat byte.toNat) else out ++ ("%" ++ upperHex byte)) ""

def PairingParams.toUri (params : PairingParams) : String :=
  let tokenB64 := base64.encode (asBytes params.token)
  let labelPct := percentEncode params.label
  let ro := if params.readOnly then "1" else "0"
  let trustSuffix := match params.trust with
    | .pin fingerprint => "tm=pin&fp=" ++ fingerprint
    | .ca => "tm=ca"
  "muxr://pair?v=2&h=" ++ params.host ++ "&p=" ++ params.port.toNat.repr ++ "&t=" ++ tokenB64 ++ "&ro=" ++ ro ++
    "&n=" ++ labelPct ++ "&" ++ trustSuffix

end Source

section Reader

variable (base64 : Base64.Engine)

def isLowerHex (c : Char) : Bool :=
  ('0' ≤ c && c ≤ '9') || ('a' ≤ c && c ≤ 'f')

def PairingTrust.WellFormed : PairingTrust -> Prop
  | .pin fingerprint => fingerprint.toList.length = 64 ∧ ∀ c ∈ fingerprint.toList, isLowerHex c = true
  | .ca => True

def documentedKeys : PairingTrust -> List String
  | .pin _ => ["v", "h", "p", "t", "ro", "n", "tm", "fp"]
  | .ca => ["v", "h", "p", "t", "ro", "n", "tm"]

def textOf (uri key : String) : Option String :=
  ((fields uri).lookup key).bind percentDecode

def tokenOf (uri : String) : Option String :=
  (((fields uri).lookup "t").bind base64.decode).bind fromUtf8

def readOnlyOf (uri : String) : Option Bool :=
  match textOf uri "ro" with
  | some flag => if flag = "1" then some true else if flag = "0" then some false else none
  | none => none

def trustOf (uri : String) : Option PairingTrust :=
  match textOf uri "tm" with
  | some mode =>
    if mode = "pin" then (textOf uri "fp").map .pin
    else if mode = "ca" then some .ca
    else none
  | none => none

def readPairing (uri : String) : Option PairingParams := do
  let host ← textOf uri "h"
  let port ← (textOf uri "p").bind parseU16
  let trust ← trustOf uri
  let token ← tokenOf base64 uri
  let readOnly ← readOnlyOf uri
  let label ← textOf uri "n"
  return { host, port, trust, token, readOnly, label }

structure Decodes (params : PairingParams) : Prop where
  keys : ((fields (params.toUri base64)).map (·.1)).Perm (documentedKeys params.trust)
  version : textOf (params.toUri base64) "v" = some "2"
  values : readPairing base64 (params.toUri base64) = some params

end Reader

section Encoding

def escaped (byte : UInt8) : List Char :=
  if isUnreserved byte then [.ofNat byte.toNat]
  else ['%', (Nat.digitChar (byte.toNat / 16)).toUpper, (Nat.digitChar (byte.toNat % 16)).toUpper]

theorem percentEncode_fold (bytes : List UInt8) (out : String) :
    (bytes.foldl
      (fun out byte => if isUnreserved byte then out.push (.ofNat byte.toNat) else out ++ ("%" ++ upperHex byte))
      out).toList = out.toList ++ bytes.flatMap escaped := by
  have percent : "%".toList = ['%'] := by decide +kernel
  induction bytes generalizing out with
  | nil => simp
  | cons byte rest ih =>
    have step : (if isUnreserved byte then out.push (.ofNat byte.toNat) else out ++ ("%" ++ upperHex byte)).toList =
        out.toList ++ escaped byte := by
      unfold escaped
      split_ifs
      · exact String.toList_push _
      · rw [String.toList_append, String.toList_append, percent, upperHex, String.toList_ofList, List.singleton_append]
    rw [List.foldl_cons, ih, step, List.flatMap_cons, List.append_assoc]

theorem percentEncode_toList (text : String) : (percentEncode text).toList = (asBytes text).flatMap escaped := by
  rw [percentEncode, percentEncode_fold]
  rfl

theorem unreserved_char {byte : UInt8} (unreserved : isUnreserved byte = true) :
    isDelimiter (.ofNat byte.toNat) = false ∧ Char.ofNat byte.toNat ≠ '%' ∧
      asBytes (String.singleton (.ofNat byte.toNat)) = [byte] := by
  have all : ∀ value : Fin 256, isUnreserved (.ofNat value) = true ->
      isDelimiter (.ofNat value) = false ∧ Char.ofNat value ≠ '%' ∧
        asBytes (String.singleton (.ofNat value)) = [.ofNat value] := by decide +kernel
  have this := all ⟨byte.toNat, byte.toNat_lt⟩
  simp only [UInt8.ofNat_toNat] at this
  exact this unreserved

theorem upperDigit {value : Nat} (small : value < 16) :
    toDigit 16 (Nat.digitChar value).toUpper = some value ∧ isDelimiter (Nat.digitChar value).toUpper = false := by
  have all : ∀ value : Fin 16, toDigit 16 (Nat.digitChar value).toUpper = some value.val ∧
      isDelimiter (Nat.digitChar value).toUpper = false := by decide
  exact all ⟨value, small⟩

theorem percentBytes_escaped (byte : UInt8) (rest : List Char) :
    percentBytes (escaped byte ++ rest) = (percentBytes rest).map (byte :: ·) := by
  have bound := byte.toNat_lt
  unfold escaped
  split_ifs with unreserved
  · obtain ⟨_, plain, bytes⟩ := unreserved_char unreserved
    rw [List.singleton_append, percentBytes_plain plain, bytes]
    rfl
  · have high := (@upperDigit (byte.toNat / 16) (by omega)).1
    have low := (@upperDigit (byte.toNat % 16) (by omega)).1
    have value : UInt8.ofNat (byte.toNat / 16 * 16 + byte.toNat % 16) = byte := by
      rw [Nat.div_add_mod', UInt8.ofNat_toNat]
    rw [List.cons_append, List.cons_append, List.singleton_append, percentBytes_escape high low, value]

theorem percentBytes_flatMap (bytes : List UInt8) : percentBytes (bytes.flatMap escaped) = some bytes := by
  induction bytes with
  | nil => rfl
  | cons byte rest ih =>
    rw [List.flatMap_cons, percentBytes_escaped, ih]
    rfl

theorem percentDecode_percentEncode (text : String) : percentDecode (percentEncode text) = some text := by
  rw [percentDecode, percentEncode_toList, percentBytes_flatMap, Option.bind_some, fromUtf8_asBytes]

theorem escaped_inert (byte : UInt8) : ∀ c ∈ escaped byte, isDelimiter c = false := by
  have bound := byte.toNat_lt
  unfold escaped
  split_ifs with unreserved
  · simpa using (unreserved_char unreserved).1
  · simp only [List.forall_mem_cons]
    exact ⟨by decide, (@upperDigit (byte.toNat / 16) (by omega)).2, (@upperDigit (byte.toNat % 16) (by omega)).2,
      by simp⟩

theorem percentEncode_inert (text : String) : ∀ c ∈ (percentEncode text).toList, isDelimiter c = false := by
  intro c member
  rw [percentEncode_toList, List.mem_flatMap] at member
  obtain ⟨byte, _, within⟩ := member
  exact escaped_inert byte c within

end Encoding

section Shape

variable {base64 : Base64.Engine} {params : PairingParams}

def part (key value : String) : List Char :=
  key.toList ++ '=' :: value.toList

def trustParts : PairingTrust -> List (List Char)
  | .pin fingerprint => [part "tm" "pin", part "fp" fingerprint]
  | .ca => [part "tm" "ca"]

def laterParts (base64 : Base64.Engine) (params : PairingParams) : List (List Char) :=
  [part "p" params.port.toNat.repr, part "t" (base64.encode (asBytes params.token)),
    part "ro" (if params.readOnly then "1" else "0"), part "n" (percentEncode params.label)] ++ trustParts params.trust

theorem toList_pieces (a b c d e f g h i j k l : String) :
    (a ++ b ++ c ++ d ++ e ++ f ++ g ++ h ++ i ++ j ++ k ++ l).toList =
      a.toList ++ (b.toList ++ (c.toList ++ (d.toList ++ (e.toList ++ (f.toList ++ (g.toList ++ (h.toList ++
        (i.toList ++ (j.toList ++ (k.toList ++ l.toList)))))))))) := by
  simp only [String.toList_append, List.append_assoc]

theorem trustSuffix_toList (trust : PairingTrust) :
    (match trust with
      | .pin fingerprint => "tm=pin&fp=" ++ fingerprint
      | .ca => "tm=ca").toList = ['&'].intercalate (trustParts trust) := by
  cases trust with
  | ca =>
    rw [trustParts, List.intercalate_singleton]
    decide +kernel
  | pin fingerprint =>
    have mode : "tm=pin&fp=".toList = part "tm" "pin" ++ '&' :: ("fp".toList ++ ['=']) := by decide +kernel
    rw [trustParts, List.intercalate_cons_cons, List.intercalate_singleton]
    dsimp only
    rw [String.toList_append, mode]
    simp only [part, List.append_assoc, List.cons_append, List.nil_append]

theorem toUri_toList :
    (params.toUri base64).toList = "muxr://pair".toList ++
      '?' :: ['&'].intercalate (part "v" "2" :: part "h" params.host :: laterParts base64 params) := by
  have scheme : "muxr://pair?v=2&h=".toList =
      "muxr://pair".toList ++ '?' :: (part "v" "2" ++ '&' :: ("h".toList ++ ['='])) := by decide +kernel
  have port : "&p=".toList = '&' :: ("p".toList ++ ['=']) := by decide +kernel
  have token : "&t=".toList = '&' :: ("t".toList ++ ['=']) := by decide +kernel
  have flag : "&ro=".toList = '&' :: ("ro".toList ++ ['=']) := by decide +kernel
  have label : "&n=".toList = '&' :: ("n".toList ++ ['=']) := by decide +kernel
  have last : "&".toList = ['&'] := by decide +kernel
  have trusts : trustParts params.trust ≠ [] := by cases params.trust <;> simp [trustParts]
  unfold PairingParams.toUri
  dsimp only
  rw [toList_pieces, trustSuffix_toList, scheme, port, token, flag, label, last, laterParts]
  simp only [List.cons_append, List.nil_append, List.intercalate_cons_cons, List.intercalate_cons_of_ne_nil trusts,
    part, List.append_assoc]

end Shape

section Reading

variable {base64 : Base64.Engine} {params : PairingParams}

theorem field_part {key : String} (value : String) (fresh : '=' ∉ key.toList) :
    field (part key value) = (key, value) := by
  rw [part, field_append fresh, String.ofList_toList, String.ofList_toList]

theorem part_inert {key value : String} (name : (key.toList.all fun c => !isDelimiter c) = true)
    (inert : ∀ c ∈ value.toList, isDelimiter c = false) : ∀ c ∈ part key value, isDelimiter c = false := by
  rw [part, List.forall_mem_append, List.forall_mem_cons]
  exact ⟨inert_of_all name, by decide, inert⟩

theorem port_decimal (port : UInt16) :
    Decimal UInt16.size port.toNat.repr.toList ∧ digitsValue 10 port.toNat.repr.toList = port.toNat := by
  have digits : port.toNat.repr.toList = Nat.toDigits 10 port.toNat := by rw [Nat.repr, String.toList_ofList]
  have value := @digitsValue_toDigits 10 (by decide) (by decide) port.toNat
  rw [digits]
  refine ⟨{ nonempty := Nat.toDigits_ne_nil, readable := ?_, small := ?_ }, value⟩
  · exact toDigits_readable (by decide) (by decide) port.toNat
  · rw [value]
    exact port.toNat_lt

theorem port_verbatim (port : UInt16) : Verbatim port.toNat.repr.toList :=
  verbatim_of_allowed (port_decimal port).1.readable (by decide) (by decide) (by decide)

theorem port_read (port : UInt16) : parseU16 port.toNat.repr = some port := by
  obtain ⟨decimal, value⟩ := port_decimal port
  exact parsePort_u16 (parsePort_iff.mpr ⟨decimal, by rw [value, UInt16.ofNat_toNat]⟩)

theorem token_verbatim (lawful : base64.Lawful) (token : String) : Verbatim (base64.encode (asBytes token)).toList :=
  verbatim_of_allowed (lawful.symbols (asBytes token)) (by decide) (by decide) (by decide)

theorem verbatim_of_address {text : String} {address : IpAddr} (parsed : parseIpAddr text = some address) :
    Verbatim text.toList :=
  verbatim_of_allowed (List.all_eq_true.mp (parseIpAddr_chars parsed)) (by decide) (by decide) (by decide)

theorem flag_verbatim (readOnly : Bool) : Verbatim (if readOnly then "1" else "0").toList := by
  cases readOnly
  · exact @verbatim_of_allowed (· = '0') "0".toList (by simp) rfl rfl rfl
  · exact @verbatim_of_allowed (· = '1') "1".toList (by simp) rfl rfl rfl

theorem fingerprint_verbatim {fingerprint : String} (wellFormed : (PairingTrust.pin fingerprint).WellFormed) :
    Verbatim fingerprint.toList :=
  verbatim_of_allowed wellFormed.2 (by decide) (by decide) (by decide)

def trustFields : PairingTrust -> List (String × String)
  | .pin fingerprint => [("tm", "pin"), ("fp", fingerprint)]
  | .ca => [("tm", "ca")]

theorem trustParts_field (trust : PairingTrust) : (trustParts trust).map field = trustFields trust := by
  cases trust with
  | pin fingerprint =>
    rw [trustParts, List.map_cons, List.map_cons, field_part "pin" (by decide), field_part fingerprint (by decide)]
    rfl
  | ca =>
    rw [trustParts, List.map_cons, field_part "ca" (by decide)]
    rfl

theorem trustParts_inert {trust : PairingTrust} (wellFormed : trust.WellFormed) :
    ∀ piece ∈ trustParts trust, ∀ c ∈ piece, isDelimiter c = false := by
  cases trust with
  | pin fingerprint =>
    rw [trustParts, List.forall_mem_cons, List.forall_mem_singleton]
    exact ⟨inert_of_all (by decide), part_inert (by decide) (fingerprint_verbatim wellFormed).inert⟩
  | ca =>
    rw [trustParts, List.forall_mem_singleton]
    exact inert_of_all (by decide)

theorem laterParts_inert (lawful : base64.Lawful) (wellFormed : params.trust.WellFormed) :
    ∀ piece ∈ laterParts base64 params, ∀ c ∈ piece, isDelimiter c = false := by
  simp only [laterParts, List.cons_append, List.nil_append, List.forall_mem_cons]
  exact ⟨part_inert (by decide) (port_verbatim params.port).inert,
    part_inert (by decide) (token_verbatim lawful params.token).inert,
    part_inert (by decide) (flag_verbatim params.readOnly).inert,
    part_inert (by decide) (percentEncode_inert params.label), trustParts_inert wellFormed⟩

theorem fields_toUri (lawful : base64.Lawful) (wellFormed : params.trust.WellFormed)
    (verbatim : Verbatim params.host.toList) :
    fields (params.toUri base64) =
      ("v", "2") :: ("h", params.host) :: ("p", params.port.toNat.repr) ::
        ("t", base64.encode (asBytes params.token)) :: ("ro", if params.readOnly then "1" else "0") ::
          ("n", percentEncode params.label) :: trustFields params.trust := by
  have inert : ∀ piece ∈ part "v" "2" :: part "h" params.host :: laterParts base64 params,
      ∀ c ∈ piece, isDelimiter c = false := by
    rw [List.forall_mem_cons, List.forall_mem_cons]
    exact ⟨inert_of_all (by decide), part_inert (by decide) verbatim.inert, laterParts_inert lawful wellFormed⟩
  rw [fields_intercalate toUri_toList (by decide) (by simp) inert]
  simp only [laterParts, List.cons_append, List.nil_append, List.map_cons, trustParts_field]
  rw [field_part "2" (by decide), field_part params.host (by decide), field_part params.port.toNat.repr (by decide),
    field_part (base64.encode _) (by decide), field_part (if params.readOnly then "1" else "0") (by decide),
    field_part (percentEncode params.label) (by decide)]

theorem trustOf_toUri (lawful : base64.Lawful) (wellFormed : params.trust.WellFormed)
    (verbatim : Verbatim params.host.toList) : trustOf (params.toUri base64) = some params.trust := by
  have pin : percentDecode "pin" = some "pin" := percentDecode_id (by decide)
  have ca : percentDecode "ca" = some "ca" := percentDecode_id (by decide)
  have whole := fields_toUri lawful wellFormed verbatim
  cases trust : params.trust with
  | pin fingerprint =>
    rw [trust] at wellFormed whole
    have fp := (fingerprint_verbatim wellFormed).decoded
    simp [trustOf, textOf, whole, trustFields, List.lookup_cons, pin, fp]
  | ca =>
    rw [trust] at whole
    simp [trustOf, textOf, whole, trustFields, List.lookup_cons, ca]

theorem decodes_of_verbatim (lawful : base64.Lawful) (wellFormed : params.trust.WellFormed)
    (verbatim : Verbatim params.host.toList) : Decodes base64 params := by
  have whole := fields_toUri lawful wellFormed verbatim
  have host := verbatim.decoded
  have port := (port_verbatim params.port).decoded
  have flag := (flag_verbatim params.readOnly).decoded
  have two : percentDecode "2" = some "2" := percentDecode_id (by decide)
  refine { keys := ?_, version := ?_, values := ?_ }
  · rw [whole]
    cases params.trust <;> exact List.Perm.refl _
  · simp [textOf, whole, two]
  · have tokens : tokenOf base64 (params.toUri base64) = some params.token := by
      simp [tokenOf, whole, List.lookup_cons, lawful.roundTrip, fromUtf8_asBytes]
    have flags : readOnlyOf (params.toUri base64) = some params.readOnly := by
      have written : textOf (params.toUri base64) "ro" = some (if params.readOnly then "1" else "0") := by
        simp [textOf, whole, List.lookup_cons, flag]
      rw [readOnlyOf, written]
      cases params.readOnly <;> simp
    have labels : textOf (params.toUri base64) "n" = some params.label := by
      simp [textOf, whole, List.lookup_cons, percentDecode_percentEncode]
    have hosts : textOf (params.toUri base64) "h" = some params.host := by
      simp [textOf, whole, List.lookup_cons, host]
    have ports : (textOf (params.toUri base64) "p").bind parseU16 = some params.port := by
      simp [textOf, whole, List.lookup_cons, port, port_read]
    rw [readPairing, hosts, ports, trustOf_toUri lawful wellFormed verbatim, tokens, flags, labels]
    rfl

theorem textOf_host :
    textOf (params.toUri base64) "h" =
      percentDecode (String.ofList (params.host.toList.takeWhile fun c => !isDelimiter c)) := by
  have shape : (params.toUri base64).toList = "muxr://pair".toList ++ '?' :: (part "v" "2" ++ '&' ::
      ("h".toList ++ '=' :: (params.host.toList ++ '&' :: ['&'].intercalate (laterParts base64 params)))) := by
    rw [toUri_toList, List.intercalate_cons_cons, List.intercalate_cons_of_ne_nil (by simp [laterParts])]
    simp only [part, List.append_assoc, List.cons_append, List.nil_append]
  obtain ⟨others, whole⟩ := fields_raw shape (by decide) (inert_of_all (by decide)) (by decide)
  rw [textOf, whole, field_part "2" (by decide), String.ofList_toList]
  simp [List.lookup_cons]

theorem verbatim_of_decodes (decodes : Decodes base64 params) : Verbatim params.host.toList := by
  have host : textOf (params.toUri base64) "h" = some params.host := by
    have values := decodes.values
    simp only [readPairing, bind, Option.bind_eq_some_iff, pure, Option.some.injEq] at values
    obtain ⟨host, found, port, _, trust, _, token, _, readOnly, _, label, _, same⟩ := values
    rw [found, ← same]
  have whole := List.takeWhile_append_dropWhile (p := fun c => !isDelimiter c) (l := params.host.toList)
  have written : String.ofList (params.host.toList.takeWhile (fun c => !isDelimiter c) ++
      params.host.toList.dropWhile fun c => !isDelimiter c) = params.host := by
    rw [whole, String.ofList_toList]
  rw [textOf_host] at host
  obtain ⟨ends, plain⟩ := percentDecode_prefix (host.trans (congrArg some written.symm))
  rw [ends, List.append_nil] at whole
  rw [whole] at plain
  rw [List.dropWhile_eq_nil_iff] at ends
  exact verbatim_iff.mpr ⟨fun c member => by simpa using ends c member, plain⟩

end Reading

section Injective

variable {base64 : Base64.Engine} {params other : PairingParams}

theorem part_inj {key first second : String} (same : part key first = part key second) : first = second := by
  rw [part, part, List.append_cancel_left_eq, List.cons.injEq] at same
  exact String.toList_inj.mp same.2

theorem pieces_toUri (lawful : base64.Lawful) (wellFormed : params.trust.WellFormed) :
    (['&'].intercalate (part "v" "2" :: part "h" params.host :: laterParts base64 params)).splitOn '&' =
      part "v" "2" :: ((part "h" params.host).splitOn '&' ++ laterParts base64 params) := by
  have separate : ∀ piece ∈ laterParts base64 params, '&' ∉ piece := fun piece member ampersand =>
    absurd (laterParts_inert lawful wellFormed piece member '&' ampersand) (by decide)
  have nonempty : laterParts base64 params ≠ [] := by simp [laterParts]
  rw [List.intercalate_cons_cons, List.append_assoc, List.singleton_append,
    List.splitOn_append_cons_self_of_not_mem (by decide), List.intercalate_cons_of_ne_nil nonempty, List.append_assoc,
    List.singleton_append, List.splitOn_append_cons_self, List.splitOn_intercalate '&' separate nonempty]

theorem trustParts_inj {trust second : PairingTrust} {before after : List (List Char)}
    (same : before ++ trustParts trust = after ++ trustParts second) : before = after ∧ trust = second := by
  have differ (fingerprint : String) : part "fp" fingerprint ≠ part "tm" "ca" := by
    intro same
    have first := congrArg List.head? same
    revert first
    simp [part]
  cases trust with
  | pin fingerprint =>
    cases second with
    | pin another =>
      obtain ⟨sameBefore, parts⟩ := List.append_inj' same rfl
      rw [trustParts, trustParts, List.cons.injEq, List.cons.injEq] at parts
      exact ⟨sameBefore, by rw [part_inj parts.2.1]⟩
    | ca =>
      have last := congrArg List.getLast? same
      simp only [trustParts, List.getLast?_append, List.getLast?_cons_cons, List.getLast?_singleton, Option.some_or,
        Option.some.injEq] at last
      exact absurd last (differ fingerprint)
  | ca =>
    cases second with
    | pin another =>
      have last := congrArg List.getLast? same
      simp only [trustParts, List.getLast?_append, List.getLast?_cons_cons, List.getLast?_singleton, Option.some_or,
        Option.some.injEq] at last
      exact absurd last.symm (differ another)
    | ca => exact ⟨List.append_cancel_right same, rfl⟩

theorem toUri_inj (lawful : base64.Lawful) (wellFormed : params.trust.WellFormed) (others : other.trust.WellFormed)
    (same : other.toUri base64 = params.toUri base64) : other = params := by
  have pieces := congrArg String.toList same
  rw [toUri_toList, toUri_toList, List.append_cancel_left_eq, List.cons.injEq] at pieces
  have parts := congrArg (List.splitOn '&') pieces.2
  rw [pieces_toUri lawful wellFormed, pieces_toUri lawful others, List.cons.injEq, laterParts, laterParts,
    ← List.append_assoc, ← List.append_assoc] at parts
  obtain ⟨before, trust⟩ := trustParts_inj parts.2
  obtain ⟨hosts, values⟩ := List.append_inj' before rfl
  simp only [List.cons.injEq] at values
  obtain ⟨ports, tokens, flags, labels, _⟩ := values
  have host : other.host = params.host := by
    have joined := congrArg (['&'].intercalate ·) hosts
    simp only [List.intercalate_splitOn] at joined
    exact part_inj joined
  have port : other.port = params.port := by
    have read := congrArg parseU16 (part_inj ports)
    rw [port_read, port_read] at read
    exact Option.some.inj read
  have token : other.token = params.token := by
    have read := congrArg base64.decode (part_inj tokens)
    rw [lawful.roundTrip, lawful.roundTrip] at read
    exact asBytes_inj (Option.some.inj read)
  have readOnly : other.readOnly = params.readOnly := by
    have written := part_inj flags
    revert written
    cases other.readOnly <;> cases params.readOnly <;> decide
  have label : other.label = params.label := by
    have read := congrArg percentDecode (part_inj labels)
    rw [percentDecode_percentEncode, percentDecode_percentEncode] at read
    exact Option.some.inj read
  cases other
  cases params
  simp_all

end Injective

/-- A URI reads back as its code if and only if every character of the host stands for itself; distinct codes
always have distinct URIs. -/
theorem pairing_uri_decodes_iff (base64 : Base64.Engine) (lawful : base64.Lawful) (params : PairingParams)
    (wellFormed : params.trust.WellFormed) :
    (Decodes base64 params ↔ Verbatim params.host.toList) ∧
      ∀ other : PairingParams, other.trust.WellFormed -> other ≠ params ->
        other.toUri base64 ≠ params.toUri base64 := by
  constructor
  · exact ⟨verbatim_of_decodes, decodes_of_verbatim lawful wellFormed⟩
  · intro other others distinct same
    exact distinct (toUri_inj lawful wellFormed others same)

section Sampled

def desktop : PairingParams :=
  { host := "192.168.1.10", port := 50051, token := "mysecrettoken", readOnly := false, label := "Home desktop"
    trust := .pin "a1b2c3d4e5f6a1b2c3d4e5f6a1b2c3d4e5f6a1b2c3d4e5f6a1b2c3d4e5f6a1b2" }

theorem pairing_uri_decodes_iff_desktop : Decodes Base64.urlSafeNoPad desktop :=
  (pairing_uri_decodes_iff Base64.urlSafeNoPad Base64.urlSafeNoPad_lawful desktop
    ⟨by decide +kernel, List.all_eq_true.mp (by decide +kernel)⟩).1.mpr
      (@verbatim_of_address "192.168.1.10" (.v4 ⟨192, 168, 1, 10⟩) (by decide))

/-- The scope of a daemon's address reads as an escape, and an advertised name may end its own field. -/
theorem scope_reads_as_escape :
    (buildTokenQrTask (lanHost "[fe80::1%25]:50051" "") some runningWorld pairRequest .clean =
        .ok (pairingTo "[fe80::1%25]") ∧
      parseSocketAddr "[fe80::1%25]:50051" = some ⟨.v6 [0xfe80, 0, 0, 0, 0, 0, 0, 1], 25, 50051⟩ ∧
      textOf ((pairingTo "[fe80::1%25]").toUri Base64.urlSafeNoPad) "h" = some "[fe80::1%]" ∧
      ¬ Decodes Base64.urlSafeNoPad (pairingTo "[fe80::1%25]")) ∧
      buildTokenQrTask (lanHost "0.0.0.0:50051" "a&b") some runningWorld pairRequest .clean = .ok (pairingTo "a&b") ∧
      textOf ((pairingTo "a&b").toUri Base64.urlSafeNoPad) "h" = some "a" ∧
      ¬ Decodes Base64.urlSafeNoPad (pairingTo "a&b") := by
  refine ⟨⟨rfl, by decide, by decide +kernel, ?_⟩, rfl, by decide +kernel, ?_⟩
  · intro decodes
    exact (verbatim_of_decodes decodes '%' (by decide)).2.2 rfl
  · intro decodes
    exact (verbatim_of_decodes decodes '&' (by decide)).1 rfl

end Sampled

end Muxrd.Panel
