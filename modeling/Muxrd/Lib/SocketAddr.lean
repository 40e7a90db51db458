import Muxrd.Lib.NetText

set_option autoImplicit false

namespace RustStd

structure SocketAddr where
  ip : IpAddr
  scopeId : UInt32
  port : UInt16
  deriving DecidableEq, Repr

section Parser

def readGivenChar (expected : Char) : List Char -> Option (List Char)
  | c :: rest => if c = expected then some rest else none
  | [] => none

-- A number of any length, with leading zeros.
def readDecimal (size : Nat) (input : List Char) : Option (Nat × List Char) :=
  readNumber 10 input.length size true input

def readPort (input : List Char) : Option (UInt16 × List Char) := do
  let input ← readGivenChar ':' input
  let (port, input) ← readDecimal UInt16.size input
  return (.ofNat port, input)

def readScopeId (input : List Char) : Option (UInt32 × List Char) := do
  let input ← readGivenChar '%' input
  let (scopeId, input) ← readDecimal UInt32.size input
  return (.ofNat scopeId, input)

def readBracketed (input : List Char) : Option ((List UInt16 × UInt32) × List Char) := do
  let input ← readGivenChar '[' input
  let (segments, input) ← readIpv6Addr input
  let (scopeId, input) := (readScopeId input).getD (0, input)
  let input ← readGivenChar ']' input
  return ((segments, scopeId), input)

def readSocketAddrV4 (input : List Char) : Option (SocketAddr × List Char) := do
  let (ip, input) ← readIpv4Addr input
  let (port, input) ← readPort input
  return ({ ip := .v4 ip, scopeId := 0, port }, input)

def readSocketAddrV6 (input : List Char) : Option (SocketAddr × List Char) := do
  let ((segments, scopeId), input) ← readBracketed input
  let (port, input) ← readPort input
  return ({ ip := .v6 segments, scopeId, port }, input)

def readSocketAddr (input : List Char) : Option (SocketAddr × List Char) :=
  (readSocketAddrV4 input).or (readSocketAddrV6 input)

-- `str::parse::<SocketAddr>`
def parseSocketAddr (text : String) : Option SocketAddr :=
  match readSocketAddr text.toList with
  | some (addr, []) => some addr
  | _ => none

def parseHost (text : String) : Option (IpAddr × UInt32) :=
  match readIpv4Addr text.toList with
  | some (ip, []) => some (.v4 ip, 0)
  | _ =>
    match readBracketed text.toList with
    | some ((segments, scopeId), []) => some (.v6 segments, scopeId)
    | _ => none

def parsePort (text : String) : Option UInt16 :=
  match readDecimal UInt16.size text.toList with
  | some (port, []) => some (.ofNat port)
  | _ => none

example : parseSocketAddr "[fe80::1%3]:50051" = some ⟨.v6 [0xfe80, 0, 0, 0, 0, 0, 0, 1], 3, 50051⟩ := by decide

end Parser

section Decimal

structure Decimal (size : Nat) (digits : List Char) : Prop where
  nonempty : digits ≠ []
  readable : ∀ c ∈ digits, (toDigit 10 c).isSome = true
  small : digitsValue 10 digits < size

variable {size value : Nat} {digits input rest : List Char}

theorem readDecimal_some (read : readDecimal size input = some (value, rest)) :
    ∃ digits, input = digits ++ rest ∧ Decimal size digits ∧ value = digitsValue 10 digits := by
  obtain ⟨digits, whole, nonempty, readable, rfl, small⟩ := readNumber_some read
  exact ⟨digits, whole, { nonempty, readable, small }, rfl⟩

theorem readDecimal_digits (decimal : Decimal size digits) (ends : Ends 10 rest) :
    readDecimal size (digits ++ rest) = some (digitsValue 10 digits, rest) := by
  have stops : (rest.takeWhile fun c => (toDigit 10 c).isSome) = [] := by
    cases rest with
    | nil => rfl
    | cons c _ => simp [ends c rfl]
  have taken : ((digits ++ rest).takeWhile fun c => (toDigit 10 c).isSome) = digits := by
    rw [List.takeWhile_append_of_pos decimal.readable, stops, List.append_nil]
  simp [readDecimal, readNumber, taken, decimal.nonempty, decimal.small]

end Decimal

section Grammar

theorem Stops.alone {Value : Type} {read : List Char -> Option (Value × List Char)} {taken tail : List Char}
    {value : Value} (stops : Stops read tail) (found : read (taken ++ tail) = some (value, tail)) :
    read taken = some (value, []) := by
  rw [stops taken] at found
  obtain ⟨⟨digits, rest⟩, alone, same⟩ := Option.map_eq_some_iff.mp found
  obtain ⟨rfl, tails⟩ := Prod.mk.inj same
  obtain rfl : rest = [] := by simpa using tails
  exact alone

theorem Stops.before {Value : Type} {read : List Char -> Option (Value × List Char)} {taken tail : List Char}
    {value : Value} (stops : Stops read tail) (alone : read taken = some (value, [])) :
    read (taken ++ tail) = some (value, tail) := by
  rw [stops taken, alone]
  rfl

theorem readGivenChar_iff {expected : Char} {input rest : List Char} :
    readGivenChar expected input = some rest ↔ input = expected :: rest := by
  cases input with
  | nil => simp [readGivenChar]
  | cons c tail =>
    simp only [readGivenChar, List.cons.injEq]
    split_ifs with same
    · simp [same]
    · simp [same]

inductive ScopeText : List Char -> UInt32 -> Prop
  | absent : ScopeText [] 0
  | given {digits : List Char} (decimal : Decimal UInt32.size digits) :
    ScopeText ('%' :: digits) (.ofNat (digitsValue 10 digits))

variable {input rest : List Char} {segments : List UInt16} {scopeId : UInt32} {port : UInt16}

theorem readPort_iff : readPort input = some (port, []) ↔
    ∃ digits, input = ':' :: digits ∧ Decimal UInt16.size digits ∧ port = .ofNat (digitsValue 10 digits) := by
  constructor
  · intro read
    obtain ⟨after, colon, read⟩ := Option.bind_eq_some_iff.mp read
    obtain ⟨⟨value, left⟩, decimal, same⟩ := Option.bind_eq_some_iff.mp read
    obtain ⟨digits, rfl, isDecimal, rfl⟩ := readDecimal_some decimal
    obtain ⟨rfl, rfl⟩ := Prod.mk.inj (Option.some.inj same)
    rw [readGivenChar_iff, List.append_nil] at colon
    exact ⟨digits, colon, isDecimal, rfl⟩
  · rintro ⟨digits, rfl, decimal, rfl⟩
    have read := readDecimal_digits decimal (ends_nil 10)
    rw [List.append_nil] at read
    simp [readPort, readGivenChar, read]

theorem readScopeId_some (read : readScopeId input = some (scopeId, rest)) :
    ∃ scope, input = scope ++ rest ∧ ScopeText scope scopeId := by
  obtain ⟨after, percent, read⟩ := Option.bind_eq_some_iff.mp read
  obtain ⟨⟨value, left⟩, decimal, same⟩ := Option.bind_eq_some_iff.mp read
  obtain ⟨digits, rfl, isDecimal, rfl⟩ := readDecimal_some decimal
  obtain ⟨rfl, rfl⟩ := Prod.mk.inj (Option.some.inj same)
  rw [readGivenChar_iff] at percent
  exact ⟨'%' :: digits, percent, .given isDecimal⟩

theorem readScopeId_text {scope : List Char} (text : ScopeText scope scopeId) (rest : List Char) :
    (readScopeId (scope ++ ']' :: rest)).getD (0, scope ++ ']' :: rest) = (scopeId, ']' :: rest) := by
  cases text with
  | absent => simp [readScopeId, readGivenChar]
  | given decimal =>
    have ends : Ends 10 (']' :: rest) := by
      intro c head
      obtain rfl : ']' = c := by simpa using head
      rfl
    simp [readScopeId, readGivenChar, readDecimal_digits decimal ends]

-- What follows the address within the brackets does not look like more of it.
theorem readIpv6Addr_before {scope : List Char} (text : ScopeText scope scopeId) (rest : List Char) :
    Stops readIpv6Addr (scope ++ ']' :: rest) := by
  cases text with
  | absent => exact readIpv6Addr_stops rfl (by decide) (by decide)
  | given _ => exact readIpv6Addr_stops rfl (by decide) (by decide)

theorem readBracketed_iff : readBracketed input = some ((segments, scopeId), rest) ↔
    ∃ body scope, input = '[' :: (body ++ (scope ++ ']' :: rest)) ∧ readIpv6Addr body = some (segments, []) ∧
      body.all inAddress = true ∧ ScopeText scope scopeId := by
  constructor
  · intro read
    obtain ⟨inside, opening, read⟩ := Option.bind_eq_some_iff.mp read
    obtain ⟨⟨groups, after⟩, address, read⟩ := Option.bind_eq_some_iff.mp read
    obtain ⟨left, closing, same⟩ := Option.bind_eq_some_iff.mp read
    simp only [pure, Option.some.injEq, Prod.mk.injEq] at same
    obtain ⟨⟨rfl, rfl⟩, rfl⟩ := same
    rw [readGivenChar_iff] at opening closing
    obtain ⟨body, rfl, all⟩ := readIpv6Addr_takes inside groups after address
    have behind : ∃ scope, after = scope ++ ']' :: left ∧
        ScopeText scope ((readScopeId after).getD (0, after)).1 := by
      cases scopes : readScopeId after with
      | none =>
        rw [scopes] at closing
        exact ⟨[], closing, .absent⟩
      | some found =>
        rw [scopes] at closing
        obtain ⟨scope, whole, text⟩ := readScopeId_some scopes
        exact ⟨scope, by rw [whole]; exact congrArg (scope ++ ·) closing, text⟩
    obtain ⟨scope, whole, text⟩ := behind
    refine ⟨body, scope, by rw [opening, whole], ?_, all, text⟩
    rw [whole] at address
    exact (readIpv6Addr_before text left).alone address
  · rintro ⟨body, scope, rfl, address, _, text⟩
    have before := (readIpv6Addr_before text rest).before address
    simp [readBracketed, readGivenChar, before, readScopeId_text text]

end Grammar

section Texts

variable {text host port : String} {ip : IpAddr} {scopeId : UInt32} {addr : SocketAddr}

inductive HostText : List Char -> IpAddr -> UInt32 -> Prop
  | v4 {text : List Char} {ip : Ipv4Addr} (read : readIpv4Addr text = some (ip, [])) : HostText text (.v4 ip) 0
  | v6 {body scope : List Char} {segments : List UInt16} {scopeId : UInt32}
    (read : readIpv6Addr body = some (segments, [])) (all : body.all inAddress = true)
    (scopeText : ScopeText scope scopeId) : HostText ('[' :: (body ++ (scope ++ [']']))) (.v6 segments) scopeId

theorem readIpv4Addr_bracket (rest : List Char) : readIpv4Addr ('[' :: rest) = none := by
  simp [readIpv4Addr_eq, readSeparator, readNumber, toDigit]

theorem parseHost_iff : parseHost text = some (ip, scopeId) ↔ HostText text.toList ip scopeId := by
  unfold parseHost
  generalize text.toList = input
  constructor
  · intro parsed
    split at parsed
    next found =>
      obtain ⟨rfl, rfl⟩ := Prod.mk.inj (Option.some.inj parsed)
      exact .v4 found
    next =>
      split at parsed
      next found =>
        obtain ⟨rfl, rfl⟩ := Prod.mk.inj (Option.some.inj parsed)
        obtain ⟨body, scope, rfl, read, all, scopes⟩ := readBracketed_iff.mp found
        exact .v6 read all scopes
      next => cases parsed
  · intro shape
    cases shape with
    | v4 read => simp [read]
    | @v6 body scope segments _ read all scopes =>
      have bracketed : readBracketed ('[' :: (body ++ (scope ++ [']']))) = some ((segments, scopeId), []) :=
        readBracketed_iff.mpr ⟨body, scope, rfl, read, all, scopes⟩
      simp [bracketed, readIpv4Addr_bracket]

theorem parsePort_iff {number : UInt16} : parsePort port = some number ↔
    Decimal UInt16.size port.toList ∧ number = .ofNat (digitsValue 10 port.toList) := by
  unfold parsePort
  constructor
  · intro parsed
    split at parsed
    next found =>
      obtain ⟨digits, whole, decimal, rfl⟩ := readDecimal_some found
      rw [whole, List.append_nil]
      exact ⟨decimal, (Option.some.inj parsed).symm⟩
    next => cases parsed
  · rintro ⟨decimal, rfl⟩
    have read := readDecimal_digits decimal (ends_nil 10)
    rw [List.append_nil] at read
    simp [read]

theorem Decimal.no_colon {size : Nat} {digits : List Char} (decimal : Decimal size digits) : ':' ∉ digits := by
  intro member
  have readable := decimal.readable ':' member
  cases readable

theorem rsplit_append (plain : ':' ∉ port.toList) : rsplit (host ++ ":" ++ port) ':' = some (host, port) := by
  have whole : (host ++ ":" ++ port).toList.reverse = port.toList.reverse ++ ':' :: host.toList.reverse := by simp
  have other : ∀ c ∈ port.toList.reverse, decide (c ≠ ':') = true := by
    intro c member
    have different : c ≠ ':' := by
      rintro rfl
      exact plain (List.mem_reverse.mp member)
    simpa using different
  unfold rsplit
  rw [whole, List.dropWhile_append_of_pos other, List.takeWhile_append_of_pos other]
  simp

theorem rsplit_plain {separator : Char} {before after : String} (parts : rsplit text separator = some (before, after)) :
    separator ∉ after.toList := by
  unfold rsplit at parts
  split at parts
  next => cases parts
  next =>
    rw [← (Prod.mk.inj (Option.some.inj parts)).2, String.toList_ofList]
    intro member
    have other := List.mem_takeWhile_imp (List.mem_reverse.mp member)
    simp at other

theorem readSocketAddr_iff {input : List Char} : readSocketAddr input = some (addr, []) ↔
    ∃ host digits, input = host ++ ':' :: digits ∧ HostText host addr.ip addr.scopeId ∧
      Decimal UInt16.size digits ∧ addr.port = .ofNat (digitsValue 10 digits) := by
  constructor
  · intro read
    rcases Option.or_eq_some_iff.mp read with v4 | ⟨_, v6⟩
    · obtain ⟨⟨ip, after⟩, address, v4⟩ := Option.bind_eq_some_iff.mp v4
      obtain ⟨⟨number, left⟩, port, same⟩ := Option.bind_eq_some_iff.mp v4
      obtain ⟨rfl, rfl⟩ := Prod.mk.inj (Option.some.inj same)
      obtain ⟨digits, rfl, decimal, rfl⟩ := readPort_iff.mp port
      obtain ⟨host, rfl, _⟩ := readIpv4Addr_takes _ _ _ address
      have stops : Stops readIpv4Addr (':' :: digits) := readIpv4Addr_stops rfl (by decide)
      exact ⟨host, digits, rfl, .v4 (stops.alone address), decimal, rfl⟩
    · obtain ⟨⟨⟨segments, scopeId⟩, after⟩, bracketed, v6⟩ := Option.bind_eq_some_iff.mp v6
      obtain ⟨⟨number, left⟩, port, same⟩ := Option.bind_eq_some_iff.mp v6
      obtain ⟨rfl, rfl⟩ := Prod.mk.inj (Option.some.inj same)
      obtain ⟨digits, rfl, decimal, rfl⟩ := readPort_iff.mp port
      obtain ⟨body, scope, rfl, address, all, scopes⟩ := readBracketed_iff.mp bracketed
      exact ⟨'[' :: (body ++ (scope ++ [']'])), digits, by simp, .v6 address all scopes, decimal, rfl⟩
  · rintro ⟨host, digits, rfl, shape, decimal, number⟩
    have port : readPort (':' :: digits) = some (addr.port, []) := readPort_iff.mpr ⟨digits, rfl, decimal, number⟩
    have stops : Stops readIpv4Addr (':' :: digits) := readIpv4Addr_stops rfl (by decide)
    rcases addr with ⟨ip, scopeId, number⟩
    cases shape with
    | v4 read => simp [readSocketAddr, readSocketAddrV4, stops.before read, port]
    | @v6 body scope segments _ read all scopes =>
      have bracketed : readBracketed ('[' :: (body ++ (scope ++ [']'])) ++ ':' :: digits) =
          some ((segments, scopeId), ':' :: digits) :=
        readBracketed_iff.mpr ⟨body, scope, by simp, read, all, scopes⟩
      simp only [readSocketAddr, readSocketAddrV4, readSocketAddrV6, bracketed]
      simp [readIpv4Addr_bracket, port]

theorem parseSocketAddr_iff : parseSocketAddr text = some addr ↔
    ∃ host port, text = host ++ ":" ++ port ∧ parseHost host = some (addr.ip, addr.scopeId) ∧
      parsePort port = some addr.port := by
  have parsed : parseSocketAddr text = some addr ↔ readSocketAddr text.toList = some (addr, []) := by
    unfold parseSocketAddr
    split
    next read => simp [read]
    next other =>
      constructor
      · intro nothing
        cases nothing
      · intro read
        exact absurd read (other addr)
  rw [parsed, readSocketAddr_iff]
  constructor
  · rintro ⟨host, digits, whole, shape, decimal, number⟩
    refine ⟨String.ofList host, String.ofList digits, ?_, ?_, ?_⟩
    · rw [← String.toList_inj, whole]
      simp
    · exact parseHost_iff.mpr (by simpa using shape)
    · exact parsePort_iff.mpr (by simpa using ⟨decimal, number⟩)
  · rintro ⟨host, port, rfl, shape, number⟩
    obtain ⟨decimal, number⟩ := parsePort_iff.mp number
    exact ⟨host.toList, port.toList, by simp, parseHost_iff.mp shape, decimal, number⟩

theorem parseSocketAddr_split (parsed : parseSocketAddr text = some addr) :
    ∃ host port, text = host ++ ":" ++ port ∧ rsplit text ':' = some (host, port) ∧
      parseHost host = some (addr.ip, addr.scopeId) ∧ parsePort port = some addr.port := by
  obtain ⟨host, port, rfl, shape, number⟩ := parseSocketAddr_iff.mp parsed
  exact ⟨host, port, rfl, rsplit_append (parsePort_iff.mp number).1.no_colon, shape, number⟩

theorem parseSocketAddr_append (plain : ':' ∉ port.toList) :
    parseSocketAddr (host ++ ":" ++ port) = some addr ↔
      parseHost host = some (addr.ip, addr.scopeId) ∧ parsePort port = some addr.port := by
  constructor
  · intro parsed
    obtain ⟨host', port', _, split, shape, number⟩ := parseSocketAddr_split parsed
    rw [rsplit_append plain] at split
    obtain ⟨rfl, rfl⟩ := Prod.mk.inj (Option.some.inj split)
    exact ⟨shape, number⟩
  · rintro ⟨shape, number⟩
    exact parseSocketAddr_iff.mpr ⟨host, port, rfl, shape, number⟩

end Texts

section Spelled

-- The addresses that another machine can dial, as std tells them: one that maps an IPv4 address is of its own kind.
def IpAddr.dialable (address : IpAddr) : Bool :=
  !address.isLoopback && !address.isUnspecified

def IpAddr.isIpv4 : IpAddr -> Bool
  | .v4 _ => true
  | .v6 _ => false

def spelledAddr (text : String) : Option IpAddr :=
  (parseIpAddr (trim text)).or ((parseHost (trim text)).map (·.1))

def isBracket (c : Char) : Bool :=
  c = '[' || c = ']'

variable {text : String} {ip : IpAddr} {scopeId : UInt32}

theorem parseIpAddr_bracket (rest : List Char) : parseIpAddr (String.ofList ('[' :: rest)) = none := by
  have groups : readGroups 8 0 ('[' :: rest) = ([], false, '[' :: rest) := by
    simp [readGroups, readSeparator, readIpv4Addr_bracket, readNumber, toDigit]
  have unread : readIpv6Addr ('[' :: rest) = none := by simp [readIpv6Addr, groups]
  simp [parseIpAddr, readIpAddr, readIpv4Addr_bracket, unread]

-- An IPv6 address does not begin like an IPv4 address.
theorem readIpv4Addr_ipv6 {body rest : List Char} {segments : List UInt16}
    (read : readIpv6Addr body = some (segments, rest)) : readIpv4Addr body = none := by
  cases found : readIpv4Addr body with
  | none => rfl
  | some ipv4 => simp [readIpv6Addr, readGroups, readSeparator, found] at read

theorem parseIpAddr_scope {body scope : List Char} {segments : List UInt16}
    (read : readIpv6Addr body = some (segments, [])) (scopes : ScopeText scope scopeId) :
    parseIpAddr (String.ofList (body ++ scope)) = if scope = [] then some (.v6 segments) else none := by
  have noIpv4 := readIpv4Addr_ipv6 read
  cases scopes with
  | absent => simp [parseIpAddr, readIpAddr, noIpv4, read]
  | @given digits _ =>
    have ipv4 : readIpv4Addr (body ++ '%' :: digits) = none := by
      rw [readIpv4Addr_stops rfl (by decide) body, noIpv4]
      rfl
    have ipv6 : readIpv6Addr (body ++ '%' :: digits) = some (segments, '%' :: digits) :=
      (readIpv6Addr_stops rfl (by decide) (by decide)).before read
    simp [parseIpAddr, readIpAddr, ipv4, ipv6]

theorem ScopeText.printed {scope : List Char} (scopes : ScopeText scope scopeId) :
    ∀ c ∈ scope, isPrinted c = true ∧ isBracket c = false := by
  cases scopes with
  | absent => simp
  | given decimal =>
    intro c member
    rcases List.mem_cons.mp member with rfl | digit
    · decide
    · have readable := decimal.readable c digit
      refine ⟨toDigit_printed readable, ?_⟩
      have others : toDigit 10 '[' = none ∧ toDigit 10 ']' = none := by decide
      have left : c ≠ '[' := by
        rintro rfl
        simp [others.1] at readable
      have right : c ≠ ']' := by
        rintro rfl
        simp [others.2] at readable
      simp [isBracket, left, right]

theorem inAddress_plain {c : Char} (within : inAddress c = true) : isBracket c = false ∧ c ≠ '%' := by
  have others : inAddress '[' = false ∧ inAddress ']' = false ∧ inAddress '%' = false := by decide
  refine ⟨?_, ?_⟩
  · have left : c ≠ '[' := by
      rintro rfl
      simp [others.1] at within
    have right : c ≠ ']' := by
      rintro rfl
      simp [others.2.1] at within
    simp [isBracket, left, right]
  · rintro rfl
    simp [others.2.2] at within

theorem readIpv4Addr_chars {input : List Char} {ipv4 : Ipv4Addr} (read : readIpv4Addr input = some (ipv4, [])) :
    ∀ c ∈ input, inAddress c = true := by
  obtain ⟨taken, rfl, all⟩ := readIpv4Addr_takes _ _ _ read
  simpa [List.all_eq_true] using all

theorem HostText.printed {input : List Char} (shape : HostText input ip scopeId) : ∀ c ∈ input, isPrinted c = true := by
  cases shape with
  | v4 read => exact fun c member => inAddress_printed (readIpv4Addr_chars read c member)
  | v6 read all scopes =>
    rw [List.all_eq_true] at all
    intro c member
    simp only [List.mem_cons, List.mem_append, List.not_mem_nil, or_false] at member
    obtain rfl | body | scope | rfl := member
    · decide
    · exact inAddress_printed (all c body)
    · exact (scopes.printed c scope).1
    · decide

theorem parseIpAddr_host (host : parseHost text = some (ip, scopeId)) :
    parseIpAddr text = if ip.isIpv4 then some ip else none := by
  have shape := parseHost_iff.mp host
  generalize input : text.toList = chars at shape
  obtain rfl : text = String.ofList chars := by simp [← input]
  cases shape with
  | v4 read => simp [parseIpAddr, readIpAddr, read, IpAddr.isIpv4]
  | v6 _ _ _ => exact parseIpAddr_bracket _

theorem trim_host (host : parseHost text = some (ip, scopeId)) : trim text = text :=
  trim_printed (parseHost_iff.mp host).printed

theorem spelledAddr_host (host : parseHost text = some (ip, scopeId)) : spelledAddr text = some ip := by
  rw [spelledAddr, trim_host host, parseIpAddr_host host, host]
  split_ifs <;> rfl

theorem spelledAddr_parsed {address : IpAddr} (parsed : parseIpAddr (trim text) = some address) :
    spelledAddr text = some address := by
  simp [spelledAddr, parsed]

theorem spelledAddr_toString {address : IpAddr} (wellFormed : address.WellFormed) :
    spelledAddr address.toString = some address :=
  spelledAddr_parsed (by rw [trim_toString wellFormed, parseIpAddr_toString wellFormed])

theorem trimMatches_between {pattern : Char -> Bool} {left right : Char} {inner : List Char}
    (first : pattern left = true) (last : pattern right = true) (plain : ∀ c ∈ inner, pattern c = false) :
    trimMatches pattern (String.ofList (left :: (inner ++ [right]))) = String.ofList inner := by
  rw [← String.toList_inj, trimMatches_toList, String.toList_ofList, String.toList_ofList,
    List.dropWhile_cons_of_pos first]
  cases inner with
  | nil => simp [last]
  | cons c rest =>
    have kept : ((c :: rest) ++ [right]).dropWhile pattern = (c :: rest) ++ [right] := by
      simp [plain c List.mem_cons_self]
    rw [kept, List.rdropWhile_concat_pos _ _ _ last, List.rdropWhile_eq_self_iff]
    intro nonempty
    simp [plain _ (List.getLast_mem nonempty)]

theorem parseIpAddr_unbracketed (host : parseHost text = some (ip, scopeId)) :
    parseIpAddr (trimMatches isBracket text) = if '%' ∈ text.toList then none else some ip := by
  have shape := parseHost_iff.mp host
  generalize input : text.toList = chars at shape
  obtain rfl : text = String.ofList chars := by simp [← input]
  cases shape with
  | @v4 _ ipv4 read =>
    have within := readIpv4Addr_chars read
    have scopeless : '%' ∉ chars := fun member => (inAddress_plain (within _ member)).2 rfl
    rw [trimMatches_plain (by simpa using fun c member => (inAddress_plain (within c member)).1), parseIpAddr_host host,
      if_neg scopeless]
    rfl
  | @v6 body scope segments _ read all scopes =>
    rw [List.all_eq_true] at all
    have plain : ∀ c ∈ body ++ scope, isBracket c = false := by
      intro c member
      rcases List.mem_append.mp member with within | within
      · exact (inAddress_plain (all c within)).1
      · exact (scopes.printed c within).2
    have marked : '%' ∈ '[' :: (body ++ (scope ++ [']'])) ↔ scope ≠ [] := by
      have other : '%' ∉ body := fun member => (inAddress_plain (all _ member)).2 rfl
      cases scopes with
      | absent => simp [other]
      | given _ => simp
    rw [← List.append_assoc, trimMatches_between (by decide) (by decide) plain, parseIpAddr_scope read scopes,
      List.append_assoc]
    simp only [marked]
    split_ifs <;> simp_all

theorem parsePort_u16 {port : String} {number : UInt16} (parsed : parsePort port = some number) :
    parseU16 port = some number := by
  obtain ⟨decimal, rfl⟩ := parsePort_iff.mp parsed
  have readable : (port.toList.any fun c => (toDigit 10 c).isNone) = false := by
    rw [List.any_eq_false]
    intro c member
    simpa [Option.isSome_iff_ne_none] using decimal.readable c member
  unfold parseU16
  split
  next rest signed =>
    have sign := decimal.readable '+' (by simp [signed])
    cases sign
  next => simp [decimal.nonempty, readable, decimal.small]

end Spelled

end RustStd
