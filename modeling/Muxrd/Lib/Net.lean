import Mathlib.Data.UInt

set_option autoImplicit false

namespace RustStd

section Text

-- `char::is_whitespace`, the White_Space property of Unicode.
def isWhitespace (c : Char) : Bool :=
  let code := c.toNat
  (9 ≤ code && code ≤ 13) || code = 0x20 || code = 0x85 || code = 0xA0 || code = 0x1680 ||
    (0x2000 ≤ code && code ≤ 0x200A) || code = 0x2028 || code = 0x2029 || code = 0x202F ||
    code = 0x205F || code = 0x3000

def pop (text : String) : String :=
  String.ofList text.toList.dropLast

/-- What stands before and after the last occurrence of the character. -/
def rsplit (text : String) (separator : Char) : Option (String × String) :=
  match text.toList.reverse.dropWhile (· ≠ separator) with
  | [] => none
  | _ :: before =>
    some (String.ofList before.reverse,
      String.ofList (text.toList.reverse.takeWhile (· ≠ separator)).reverse)

def trimMatches (pattern : Char -> Bool) (text : String) : String :=
  String.ofList ((text.toList.dropWhile pattern).reverse.dropWhile pattern).reverse

def trim (text : String) : String :=
  trimMatches isWhitespace text

/-- The parts between the separators, `str::split`. -/
def split (text : String) (separator : Char) : List String :=
  (text.toList.splitOn separator).map String.ofList

-- `char::to_digit`
def toDigit (radix : Nat) (c : Char) : Option Nat :=
  let digit :=
    if '0' ≤ c && c ≤ '9' then some (c.toNat - '0'.toNat)
    else if 'a' ≤ c && c ≤ 'z' then some (c.toNat - 'a'.toNat + 10)
    else if 'A' ≤ c && c ≤ 'Z' then some (c.toNat - 'A'.toNat + 10)
    else none
  digit.filter (· < radix)

def digitsValue (radix : Nat) (digits : List Char) : Nat :=
  digits.foldl (fun value c => value * radix + (toDigit radix c).getD 0) 0

-- `str::parse::<u16>`: a leading plus sign is accepted, a minus sign is not.
def parseU16 (text : String) : Option UInt16 :=
  let digits := match text.toList with
    | '+' :: rest => rest
    | chars => chars
  if digits = [] || digits.any (fun c => (toDigit 10 c).isNone) then none
  else if digitsValue 10 digits < UInt16.size then some (.ofNat (digitsValue 10 digits))
  else none

end Text

structure Ipv4Addr where
  a : UInt8
  b : UInt8
  c : UInt8
  d : UInt8
  deriving DecidableEq, Repr

def Ipv4Addr.isUnspecified (ip : Ipv4Addr) : Bool :=
  ip = ⟨0, 0, 0, 0⟩

def Ipv4Addr.toString (ip : Ipv4Addr) : String :=
  ip.a.toNat.repr ++ "." ++ ip.b.toNat.repr ++ "." ++ ip.c.toNat.repr ++ "." ++ ip.d.toNat.repr

inductive IpAddr
  | v4 (ip : Ipv4Addr)
  | v6 (segments : List UInt16)
  deriving DecidableEq, Repr

def IpAddr.isUnspecified : IpAddr -> Bool
  | .v4 ip => ip.isUnspecified
  | .v6 segments => segments.all (· = 0)

def IpAddr.isLoopback : IpAddr -> Bool
  | .v4 ip => ip.a = 127
  | .v6 segments => segments = [0, 0, 0, 0, 0, 0, 0, 1]

section Display

def hex (segments : List UInt16) : String :=
  ":".intercalate (segments.map fun segment => String.ofList (Nat.toDigits 16 segment.toNat))

def longestZeros (segments : List UInt16) : Nat × Nat :=
  (List.range segments.length).foldl (fun longest start =>
    let zeros := ((segments.drop start).takeWhile (· = 0)).length
    if longest.2 < zeros then (start, zeros) else longest) (0, 0)

def displayIpv6 (segments : List UInt16) : String :=
  match segments with
  -- An IPv4-mapped address is shown with its IPv4 part.
  | [0, 0, 0, 0, 0, 0xffff, ab, cd] =>
    "::ffff:" ++ Ipv4Addr.toString ⟨(ab >>> 8).toUInt8, ab.toUInt8, (cd >>> 8).toUInt8, cd.toUInt8⟩
  | _ =>
    let zeros := longestZeros segments
    if 1 < zeros.2 then hex (segments.take zeros.1) ++ "::" ++ hex (segments.drop (zeros.1 + zeros.2))
    else hex segments

def IpAddr.toString : IpAddr -> String
  | .v4 ip => ip.toString
  | .v6 segments => displayIpv6 segments

end Display

section Parser

-- The parser behind `IpAddr::from_str`: every reader returns what it leaves of the input.
def readNumber (radix maxDigits size : Nat) (allowZeroPrefix : Bool) (input : List Char) :
    Option (Nat × List Char) :=
  let digits := input.takeWhile fun c => (toDigit radix c).isSome
  if digits = [] || maxDigits < digits.length then none
  else if !allowZeroPrefix && digits.head? = some '0' && 1 < digits.length then none
  else if digitsValue radix digits < size then some (digitsValue radix digits, input.drop digits.length)
  else none

def readSeparator {Value : Type} (separator : Char) (index : Nat)
    (inner : List Char -> Option (Value × List Char)) (input : List Char) : Option (Value × List Char) :=
  match index, input with
  | 0, _ => inner input
  | _ + 1, c :: rest => if c = separator then inner rest else none
  | _ + 1, [] => none

def readIpv4Addr (input : List Char) : Option (Ipv4Addr × List Char) := do
  let octet := readNumber 10 3 UInt8.size false
  let (a, input) ← readSeparator '.' 0 octet input
  let (b, input) ← readSeparator '.' 1 octet input
  let (c, input) ← readSeparator '.' 2 octet input
  let (d, input) ← readSeparator '.' 3 octet input
  return (⟨.ofNat a, .ofNat b, .ofNat c, .ofNat d⟩, input)

/-- Up to `slots` groups, and whether they end in an embedded IPv4 address, which takes two. -/
def readGroups : (slots index : Nat) -> List Char -> List UInt16 × Bool × List Char
  | 0, _, input => ([], false, input)
  | slots + 1, index, input =>
    match if 0 < slots then readSeparator ':' index readIpv4Addr input else none with
    | some (ip, rest) =>
      ([.ofNat (ip.a.toNat * 256 + ip.b.toNat), .ofNat (ip.c.toNat * 256 + ip.d.toNat)], true, rest)
    | none =>
      match readSeparator ':' index (readNumber 16 4 UInt16.size true) input with
      | some (group, rest) =>
        let (groups, ipv4, rest) := readGroups slots (index + 1) rest
        (.ofNat group :: groups, ipv4, rest)
      | none => ([], false, input)

def readIpv6Addr (input : List Char) : Option (List UInt16 × List Char) :=
  let (head, ipv4, input) := readGroups 8 0 input
  if head.length = 8 then some (head, input)
  -- An embedded IPv4 address is not allowed before `::`.
  else if ipv4 then none
  else
    match input with
    | ':' :: ':' :: rest =>
      let (tail, _, rest) := readGroups (8 - (head.length + 1)) 0 rest
      some (head ++ List.replicate (8 - head.length - tail.length) 0 ++ tail, rest)
    | _ => none

def readIpAddr (input : List Char) : Option (IpAddr × List Char) :=
  match readIpv4Addr input with
  | some (ip, rest) => some (.v4 ip, rest)
  | none => (readIpv6Addr input).map fun read => (.v6 read.1, read.2)

def parseIpAddr (text : String) : Option IpAddr :=
  match readIpAddr text.toList with
  | some (ip, []) => some ip
  | _ => none

end Parser

end RustStd
