import RunWatch.Http.DomainName
import RunWatch.Http.Percent
import RunWatch.Text.Numeral

/-!
# Hosts

The host in an address: a name, four numbers with dots between them, or hexadecimal groups in brackets.  Each
is brought to one form.  A name that ends in a number has to be an address of numbers as a whole.
-/

namespace RunWatch.Http

/-- Why a text is no host. -/
inductive HostFault where
  | empty
  | badName
  | badIpv4
  | badIpv6
  deriving DecidableEq

/-- A fault of a host in words. -/
def HostFault.message : HostFault → String
  | empty => "empty host"
  | badName => "invalid international domain name"
  | badIpv4 => "invalid IPv4 address"
  | badIpv6 => "invalid IPv6 address"

namespace Host

/-! ## Addresses of four numbers -/

/-- A number in a host: hexadecimal after `0x`, octal after `0`, or else decimal. -/
def hostNumber? (cs : List Char) : Option Nat :=
  let digits (base : Nat) (cs : List Char) : Option Nat :=
    cs.foldlM (fun n c => (Text.hexDigit? c).bind fun d => if d < base then some (n * base + d) else none) 0
  match cs with
  | [] => none
  | '0' :: 'x' :: rest => digits 16 rest
  | '0' :: rest => digits 8 rest
  | cs => digits 10 cs

/-- The parts of a host of numbers; one empty part at the end does not count. -/
def hostParts (cs : List Char) : List (List Char) :=
  let parts := cs.splitOn '.'
  if parts.length > 1 && parts.getLast? = some [] then parts.dropLast else parts

/-- Whether a host ends in a number, so that it has to be an address of numbers as a whole. -/
def endsInNumber (cs : List Char) : Bool :=
  match (hostParts cs).getLast? with
  | some part => !part.isEmpty && (part.all Char.isDigit || (hostNumber? part).isSome)
  | none => false

/-- The value of up to four parts: all but the last are bytes, the last fills the rest. -/
def ipv4Value? (parts : List Nat) : Option Nat :=
  match parts.reverse with
  | [] => none
  | last :: front =>
    let room := 1 <<< (8 * (4 - front.length))
    if front.length ≤ 3 && front.all (· < 256) && last < room then
      some (front.reverse.foldl (fun n p => n * 256 + p) 0 * room + last)
    else none

/-- A host of numbers, written as four bytes. -/
def ipv4? (cs : List Char) : Option String := do
  let parts ← (hostParts cs).mapM hostNumber?
  let value ← ipv4Value? parts
  return ".".intercalate ([3, 2, 1, 0].map fun i => toString ((value >>> (8 * i)) % 256))

/-! ## Addresses of hexadecimal groups -/

/-- The number that a part of an embedded address stands for: up to 255, without zeros in front. -/
def embeddedPart? (cs : List Char) : Option Nat :=
  match Text.spanDigits cs with
  | ([d], []) => some d
  | (d :: ds, []) =>
    if d ≠ 0 && Text.ofDigits (d :: ds) < 256 then some (Text.ofDigits (d :: ds)) else none
  | _ => none

/-- The two groups that an address of four numbers amounts to at the end of one of hexadecimal groups. -/
def embeddedGroups? (cs : List Char) : Option (List Nat) :=
  match (cs.splitOn '.').mapM embeddedPart? with
  | some [a, b, c, d] => some [a * 256 + b, c * 256 + d]
  | _ => none

/-- A group of up to four hexadecimal digits. -/
def group? (cs : List Char) : Option Nat :=
  if cs.isEmpty || cs.length > 4 then none
  else cs.foldlM (fun n c => (Text.hexDigit? c).map (n * 16 + ·)) 0

/-- The groups that some parts stand for; where the address ends, the last part may be an address of four
numbers. -/
def groupsOfParts? (ends : Bool) : List (List Char) → Option (List Nat)
  | [] => some []
  | [part] => if ends && part.contains '.' then embeddedGroups? part else (group? part).map ([·])
  | part :: parts => do return (← group? part) :: (← groupsOfParts? ends parts)

/-- The groups on one side of an address of hexadecimal groups. -/
def ipv6Groups? (ends : Bool) (cs : List Char) : Option (List Nat) :=
  if cs.isEmpty then some [] else groupsOfParts? ends (cs.splitOn ':')

/-- What stands before and after the first pair of colons. -/
def splitAtDoubleColon : List Char → Option (List Char × List Char)
  | ':' :: ':' :: rest => some ([], rest)
  | c :: rest => (splitAtDoubleColon rest).map fun (before, after) => (c :: before, after)
  | [] => none

/-- The eight groups of an address of hexadecimal groups; two colons stand for one or more zeros. -/
def ipv6? (cs : List Char) : Option (List Nat) :=
  match splitAtDoubleColon cs with
  | none => (ipv6Groups? true cs).filter fun groups => groups.length = 8
  | some (before, after) => do
    let front ← ipv6Groups? false before
    let back ← ipv6Groups? true after
    if front.length + back.length < 8 then
      some (front ++ List.replicate (8 - front.length - back.length) 0 ++ back)
    else none

/-- The length of the run of zeros in front of some groups. -/
def zeroRun (groups : List Nat) : Nat :=
  (groups.takeWhile (· = 0)).length

/-- The start and the length of the first longest run of zeros. -/
def longestZeroRun (groups : List Nat) : Nat × Nat :=
  (List.range groups.length).foldl (fun (best : Nat × Nat) i =>
    if best.2 < zeroRun (groups.drop i) then (i, zeroRun (groups.drop i)) else best) (0, 0)

/-- An address of hexadecimal groups, the longest run of two or more zeros left out. -/
def ipv6Text (groups : List Nat) : String :=
  let hex (group : Nat) : String := String.ofList (Nat.toDigits 16 group)
  let (start, length) := longestZeroRun groups
  if length < 2 then "[" ++ ":".intercalate (groups.map hex) ++ "]"
  else
    "[" ++ ":".intercalate ((groups.take start).map hex) ++ "::" ++
      ":".intercalate ((groups.drop (start + length)).map hex) ++ "]"

/-! ## Names and addresses -/

/-- A name, or the address of numbers that it stands for. -/
def readName (cs : List Char) : Except HostFault String :=
  match (percentDecode? cs).bind DomainName.toAscii? with
  | none => .error .badName
  | some [] => .error .empty
  | some name =>
    if endsInNumber name then
      match ipv4? name with
      | some address => .ok address
      | none => .error .badIpv4
    else .ok (String.ofList name)

/-- A host in the form in which it is written. -/
def read (cs : List Char) : Except HostFault String :=
  match cs with
  | [] => .error .empty
  | '[' :: rest =>
    if rest.getLast? = some ']' then
      match ipv6? rest.dropLast with
      | some groups => .ok (ipv6Text groups)
      | none => .error .badIpv6
    else .error .badIpv6
  | cs => readName cs

/-- Whether a character of a host may stand in the address on a request line, where some marks that names
may have are refused. -/
def standsOnRequestLine (c : Char) : Bool :=
  !(['"', '\x60', '\x7b', '\x7d'].contains c)

end Host

end RunWatch.Http
