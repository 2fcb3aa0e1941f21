import Telemetry.Number.Decimal
import Telemetry.Text.Case
import Telemetry.Text.Search
import Telemetry.Url.Percent
import Telemetry.Url.Punycode

/-!
# Hosts

The host of a url. For web addresses a host is a domain, which is brought into ASCII and small
letters as far as `Host.domainToAscii` does that, or an internet address in any of its spellings;
elsewhere it is taken as it is written.
-/

namespace Telemetry

/-- Why a text is no url. -/
inductive UrlError where
  | emptyHost
  | badDomain
  | badPort
  | badIpv4
  | badIpv6
  | badHostChar
  /-- There is no scheme. -/
  | relative
  deriving DecidableEq, Repr

/-- The text of an error. -/
def UrlError.message : UrlError → String
  | .emptyHost => "empty host"
  | .badDomain => "invalid international domain name"
  | .badPort => "invalid port number"
  | .badIpv4 => "invalid IPv4 address"
  | .badIpv6 => "invalid IPv6 address"
  | .badHostChar => "invalid domain character"
  | .relative => "relative URL without a base"

/-- The host of a url. -/
inductive Host where
  | name (cs : List Char)
  | ipv4 (address : Nat)
  | ipv6 (pieces : List Nat)
  deriving DecidableEq, Repr

namespace Host

/-! ## Addresses of four bytes -/

/-- A number of an address, in base ten, eight or sixteen. -/
def ipv4Number? (cs : List Char) : Option Nat :=
  let (base, digits) := match cs with
    | '0' :: 'x' :: rest => (16, rest)
    | '0' :: 'X' :: rest => (16, rest)
    | '0' :: d :: rest => (8, d :: rest)
    | cs => (10, cs)
  if cs.isEmpty then none
  else digits.foldl (fun n c =>
    match n, Percent.value? c with
    | some n, some d => if d < base then some (n * base + d) else none
    | _, _ => none) (some 0)

/-- The parts of a domain between its points, without an empty last one. -/
def ipv4Parts (cs : List Char) : List (List Char) :=
  let parts := Text.splitOnChar (· = '.') cs
  if parts.getLast? = some [] then parts.dropLast else parts

/-- The last part of a domain is a number, so that the domain has to be an address. -/
def endsInNumber (cs : List Char) : Bool :=
  match (ipv4Parts cs).getLast? with
  | some part => (!part.isEmpty && part.all Decimal.isDigit) || (ipv4Number? part).isSome
  | none => false

/-- An address of up to four numbers; the last one fills the bytes that are left. -/
def readIpv4 (cs : List Char) : Except UrlError Host :=
  let parts := ipv4Parts cs
  match parts.mapM ipv4Number? with
  | none => .error .badIpv4
  | some numbers =>
    let firsts := numbers.dropLast
    let last := numbers.getLast?.getD 0
    let room := Nat.pow 256 (4 - firsts.length)
    if parts.length > 4 || firsts.any (· > 255) || last ≥ room then .error .badIpv4
    else .ok (.ipv4 (firsts.foldl (fun n part => n * 256 + part) 0 * room + last))

/-- An address as four numbers with points between them. -/
def ipv4Text (address : Nat) : List Char :=
  Text.joinWith ['.'] ([3, 2, 1, 0].map fun i => Text.decimalDigits (address / Nat.pow 256 i % 256))

/-! ## Addresses of eight pieces -/

/-- A piece of one to four digits in base sixteen, and the text behind it. -/
def hexPiece? (cs : List Char) : Option (Nat × List Char) :=
  let digits := (cs.take 4).takeWhile fun c => (Percent.value? c).isSome
  if digits.isEmpty then none
  else some (digits.foldl (fun n c => n * 16 + (Percent.value? c).getD 0) 0, cs.drop digits.length)

/-- A number of the four bytes that may end an address: no leading zero, at most 255. -/
def byteNumber? (cs : List Char) : Option Nat :=
  let leading := match cs with
    | '0' :: _ :: _ => true
    | _ => false
  if cs.isEmpty || !cs.all Decimal.isDigit || leading || Decimal.value cs > 255 then none
  else some (Decimal.value cs)

/-- The two pieces of four bytes with points between them. -/
def ipv4Pieces? (cs : List Char) : Option (List Nat) :=
  match (Text.splitOnChar (· = '.') cs).map byteNumber? with
  | [some a, some b, some c, some d] => some [a * 256 + b, c * 256 + d]
  | _ => none

/-- Reads pieces with colons between them. The result holds those before and those behind the
place where two colons stand for zeros, if there is one. -/
def readPieces? : Nat → List Nat → Option (List Nat) → List Char →
    Option (List Nat × Option (List Nat))
  | 0, _, _, _ => none
  | _ + 1, front, back, [] => some (front, back)
  | fuel + 1, front, back, cs =>
    let add (new : List Nat) : List Nat × Option (List Nat) :=
      match back with
      | none => (front ++ new, none)
      | some back => (front, some (back ++ new))
    let size := front.length + (back.getD []).length
    if size = 8 then none
    else
      match cs with
      | ':' :: rest => if back.isNone then readPieces? fuel front (some []) rest else none
      | cs =>
        match hexPiece? cs with
        | none => none
        | some (piece, rest) =>
          match rest with
          | '.' :: _ => if size > 6 then none else (ipv4Pieces? cs).map add
          | ':' :: [] => none
          | ':' :: rest =>
            let (front, back) := add [piece]
            readPieces? fuel front back rest
          | [] => some (add [piece])
          | _ => none

/-- An address of eight pieces. -/
def readIpv6 (cs : List Char) : Except UrlError Host :=
  let start := match cs with
    | ':' :: ':' :: rest => readPieces? (cs.length + 1) [] (some []) rest
    | ':' :: _ => none
    | cs => readPieces? (cs.length + 1) [] none cs
  match start with
  | some (front, none) => if front.length = 8 then .ok (.ipv6 front) else .error .badIpv6
  | some (front, some back) =>
    .ok (.ipv6 (front ++ List.replicate (8 - front.length - back.length) 0 ++ back))
  | none => .error .badIpv6

/-- The number of zeros at the head of a list. -/
def zeros (pieces : List Nat) : Nat := (pieces.takeWhile (· = 0)).length

/-- Where the longest run of at least two zeros begins, and its length; of two runs the first. -/
def zeroRun (pieces : List Nat) : Option (Nat × Nat) :=
  (List.range pieces.length).foldl (fun best i =>
    let n := zeros (pieces.drop i)
    if n ≥ 2 && n > (best.map (·.2)).getD 0 then some (i, n) else best) none

/-- Pieces with colons between them. -/
def piecesText (pieces : List Nat) : List Char := Text.joinWith [':'] (pieces.map Text.hexDigits)

/-- An address of eight pieces; two colons stand for its longest run of zeros. -/
def ipv6Text (pieces : List Nat) : List Char :=
  match zeroRun pieces with
  | none => piecesText pieces
  | some (start, n) => piecesText (pieces.take start) ++ [':', ':'] ++
      piecesText (pieces.drop (start + n))

/-! ## Names -/

/-- The characters that no host may hold, whatever the scheme. -/
def isForbidden (c : Char) : Bool :=
  c.toNat = 0 || ['\t', '\n', '\r', ' ', '#', '/', ':', '<', '>', '?', '@', '[', '\\', ']', '^',
    '|'].contains c

/-- The characters that no domain may hold. -/
def isForbiddenInDomain (c : Char) : Bool :=
  isForbidden c || c.toNat < 0x20 || c = '%' || c.toNat = 0x7F

/-- The full stops of other scripts, which mean the same. -/
def plainStop (c : Char) : Char :=
  if [0x3002, 0xFF0E, 0xFF61].contains c.toNat then '.' else c

/-- A label of a domain in ASCII. -/
def labelToAscii (label : List Char) : List Char :=
  if label.all fun c => c.toNat < 0x80 then label
  else ['x', 'n', '-', '-'] ++ Punycode.encode label

/-- A domain in ASCII and small letters. Letters are made small, the full stops of other scripts are
replaced, and labels that are not in ASCII are encoded. That is less than the whole of the mapping
for domain names: characters are not composed or otherwise replaced, none is refused for what it is
outside of ASCII, and a label that is encoded already is not decoded and looked into. -/
def domainToAscii (cs : List Char) : Except UrlError (List Char) :=
  match Utf8.decode (Percent.decode cs) with
  | .error _ => .error .badDomain
  | .ok domain =>
    let labels := Text.splitOnChar (· = '.') ((Text.lowerChars domain.toList).map plainStop)
    let ascii := Text.joinWith ['.'] (labels.map labelToAscii)
    if ascii.any isForbiddenInDomain then .error .badDomain else .ok ascii

/-- Reads a host between brackets, or another one as `name` says. -/
def readWith (name : List Char → Except UrlError Host) (cs : List Char) : Except UrlError Host :=
  match cs with
  | '[' :: rest =>
    if rest.getLast? = some ']' then readIpv6 rest.dropLast else .error .badIpv6
  | cs => name cs

/-- Reads a host as it is written. -/
def read (cs : List Char) : Except UrlError Host :=
  readWith (fun cs =>
    if cs.any isForbidden then .error .badHostChar
    else .ok (.name (Percent.encode Percent.controls cs))) cs

/-- Reads the host of a web address. -/
def readWeb (cs : List Char) : Except UrlError Host :=
  readWith (fun cs => do
    let domain ← domainToAscii cs
    if domain.isEmpty then throw .emptyHost
    else if endsInNumber domain then readIpv4 domain
    else return .name domain) cs

/-- The text of a host. -/
def text : Host → List Char
  | .name cs => cs
  | .ipv4 address => ipv4Text address
  | .ipv6 pieces => '[' :: ipv6Text pieces ++ [']']

end Host

end Telemetry
