import LiveLog.Decimal.Count
import LiveLog.Url.Domain

namespace LiveLog

/-!
# Hosts

The host of an address is a name, an address of four bytes, or an address of
eight groups of sixteen bits. A name whose last label is a number is an address
of four bytes or nothing. Schemes that the web does not treat specially keep
the host as it is written.
-/

/-- Why a text is no address. -/
inductive UrlError
  | emptyHost
  | badName
  | badPort
  | badIpv4
  | badIpv6
  | badCharacter
  /-- A relative address, and nothing that it could be relative to. -/
  | noBase
  /-- A relative address, and a base whose path has no parts. -/
  | rigidBase
deriving DecidableEq, Repr

/-- The wording of an error. -/
def UrlError.message : UrlError → String
  | emptyHost => "empty host"
  | badName => "invalid international domain name"
  | badPort => "invalid port number"
  | badIpv4 => "invalid IPv4 address"
  | badIpv6 => "invalid IPv6 address"
  | badCharacter => "invalid domain character"
  | noBase => "relative URL without a base"
  | rigidBase => "relative URL with a cannot-be-a-base base"

/-- A host. -/
inductive Host
  | name (text : String)
  | ipv4 (address : Nat)
  | ipv6 (groups : List Nat)
deriving DecidableEq

namespace Ipv4

/-- The value of some digits in a base. -/
def valueIn? (base : Nat) (cs : List Char) : Option Nat :=
  cs.foldl (fun acc c => do
    let n ← acc
    let d ← Hex.value? c
    if d < base then some (n * base + d) else none) (some 0)

/-- A number in decimal, in octal after a zero, or in hexadecimal after `0x`. -/
def number? : List Char → Option Nat
  | [] => none
  | '0' :: 'x' :: cs | '0' :: 'X' :: cs => valueIn? 16 cs
  | '0' :: c :: cs => valueIn? 8 (c :: cs)
  | cs => valueIn? 10 cs

/-- The parts of a name. A stop at the very end does not count. -/
def parts (cs : List Char) : List (List Char) :=
  let ps := Text.pieces '.' cs
  if ps.getLast? = some [] then ps.dropLast else ps

/-- Whether the last part of a name is a number. -/
def endsInNumber (cs : List Char) : Bool :=
  match (parts cs).getLast? with
  | some last => !last.isEmpty && (last.all Char.isDigit || (number? last).isSome)
  | none => false

/-- The address that some numbers make: each but the last is one byte, and the
last fills what is left. -/
def ofNumbers? (ns : List Nat) : Option Nat :=
  match ns.getLast? with
  | none => none
  | some last =>
    let heads := ns.dropLast
    if ns.length ≤ 4 ∧ heads.all (· < 256) ∧ last < Nat.pow 256 (4 - heads.length) then
      some (heads.foldl (fun acc n => acc * 256 + n) 0 * Nat.pow 256 (4 - heads.length) + last)
    else none

/-- The address that a name stands for. -/
def ofChars? (cs : List Char) : Option Nat := ((parts cs).mapM number?).bind ofNumbers?

/-- Four bytes with stops between. -/
def text (n : Nat) : String :=
  ".".intercalate ([n / 16777216, n / 65536 % 256, n / 256 % 256, n % 256].map Count.text)

/-- The last number fills what is left. -/
example : ofChars? "0x7f.1".toList = some 0x7F000001 ∧ ofChars? "1.2.3.256".toList = none ∧
    ofChars? "017.".toList = some 15 ∧ text 0x7F000001 = "127.0.0.1" := by decide +kernel

end Ipv4

namespace Ipv6

/-- A group of one to four hexadecimal digits. -/
def group? (cs : List Char) : Option Nat :=
  if 1 ≤ cs.length ∧ cs.length ≤ 4 then Ipv4.valueIn? 16 cs else none

/-- A byte in decimal, without leading zeros. -/
def byte? (cs : List Char) : Option Nat :=
  match cs with
  | [] => none
  | '0' :: _ :: _ => none
  | _ => do
    let n ← Ipv4.valueIn? 10 cs
    if n < 256 then some n else none

/-- Four bytes with stops between, as two groups. -/
def pair? (cs : List Char) : Option (List Nat) := do
  match ← (Text.pieces '.' cs).mapM byte? with
  | [a, b, c, d] => some [a * 256 + b, c * 256 + d]
  | _ => none

/-- Groups with colons between. The last may be four bytes. -/
def groups? (lastMayBeBytes : Bool) : List (List Char) → Option (List Nat)
  | [] => some []
  | [last] => match group? last with
    | some n => some [n]
    | none => if lastMayBeBytes then pair? last else none
  | cs :: rest => do
    let n ← group? cs
    let ns ← groups? lastMayBeBytes rest
    return n :: ns

/-- The groups of a text, which may be empty. -/
def side? (lastMayBeBytes : Bool) (cs : List Char) : Option (List Nat) :=
  if cs.isEmpty then some [] else groups? lastMayBeBytes (Text.pieces ':' cs)

/-- The text before and after the first two colons in a row. -/
def gap? : List Char → Option (List Char × List Char)
  | [] => none
  | ':' :: ':' :: rest => some ([], rest)
  | c :: rest => (gap? rest).map fun (before, after) => (c :: before, after)

/-- The eight groups that a text stands for. Two colons stand for the groups
that are missing, of which there is at least one. -/
def ofChars? (cs : List Char) : Option (List Nat) := do
  match gap? cs with
  | none =>
    let ns ← side? true cs
    if ns.length = 8 then some ns else none
  | some (before, after) =>
    let ls ← side? false before
    let rs ← side? true after
    if ls.length + rs.length ≤ 7 then
      some (ls ++ List.replicate (8 - ls.length - rs.length) 0 ++ rs)
    else none

/-- The number of zeros at the beginning. -/
def zeros (ns : List Nat) : Nat := (ns.takeWhile (· == 0)).length

/-- Where the longest run of zeros begins and how long it is. Of runs of one
length the first counts. -/
def longestRun : (start : Nat) → List Nat → Nat × Nat
  | start, [] => (start, 0)
  | start, n :: ns =>
    let later := longestRun (start + 1) ns
    if later.2 ≤ zeros (n :: ns) then (start, zeros (n :: ns)) else later

/-- Groups with colons between. -/
def joined (ns : List Nat) : String :=
  ":".intercalate (ns.map fun n => String.ofList (Nat.toDigits 16 n))

/-- The groups in brackets. The longest run of two zeros or more is left out. -/
def text (ns : List Nat) : String :=
  let (start, length) := longestRun 0 ns
  if length < 2 then "[" ++ joined ns ++ "]"
  else "[" ++ joined (ns.take start) ++ "::" ++ joined (ns.drop (start + length)) ++ "]"

/-- Runs of zeros, and four bytes at the end. -/
example : (ofChars? "1:0:0:2:0:0:0:3".toList).map text = some "[1:0:0:2::3]" ∧
    (ofChars? "::ffff:1.2.3.4".toList).map text = some "[::ffff:102:304]" ∧
    (ofChars? "::".toList).map text = some "[::]" ∧ ofChars? ":::".toList = none ∧
    ofChars? "1:2".toList = none := by decide +kernel

end Ipv6

namespace Host

/-- The written form of a host. -/
def text : Host → String
  | name s => s
  | ipv4 n => Ipv4.text n
  | ipv6 ns => Ipv6.text ns

/-- An address in brackets. -/
def bracketed (cs : List Char) : Except UrlError Host :=
  if cs.getLast? = some ']' then
    match Ipv6.ofChars? cs.dropLast with
    | some ns => .ok (.ipv6 ns)
    | none => .error .badIpv6
  else .error .badIpv6

/-- The host that a text names under a scheme that the web treats specially. -/
def ofSpecial : List Char → Except UrlError Host
  | '[' :: cs => bracketed cs
  | cs =>
    match Domain.ofText? cs with
    | none => .error .badName
    | some [] => .error .emptyHost
    | some domain =>
      if Ipv4.endsInNumber domain then
        match Ipv4.ofChars? domain with
        | some n => .ok (.ipv4 n)
        | none => .error .badIpv4
      else .ok (.name (String.ofList domain))

/-- The characters that no host may hold. -/
def excluded : List Char :=
  ['\x00', '\t', '\n', '\r', ' ', '#', '/', ':', '<', '>', '?', '@', '[', '\\', ']', '^', '|']

/-- The host that a text names under any other scheme. -/
def ofPlain : List Char → Except UrlError Host
  | '[' :: cs => bracketed cs
  | cs =>
    if cs.any excluded.contains then .error .badCharacter
    else .ok (.name (String.ofList (Percent.encode [] cs)))

end Host

end LiveLog
