import Telemetry.Text.Blank
import Telemetry.Url.Basic

/-!
# Reading urls

A url is read as browsers read it: blanks around it and line ends inside it are dropped, the
scheme decides how the rest is taken apart, and dots in the path are resolved. Web addresses and
file addresses are read more freely than others: a backslash is a slash for them, and slashes may
be missing or too many.
-/

namespace Telemetry.Url

/-- The ways in which urls are read. -/
inductive Manner where
  | web
  | file
  | other
  deriving DecidableEq, Repr

/-- The schemes of web addresses with their usual ports. -/
def webPorts : List (String × Option Nat) :=
  [("http", some 80), ("https", some 443), ("ws", some 80), ("wss", some 443), ("ftp", some 21)]

/-- The way in which the urls of a scheme are read. -/
def mannerOf (scheme : List Char) : Manner :=
  let name := String.ofList scheme
  if name = "file" then .file
  else if webPorts.any (·.1 == name) then .web
  else .other

/-- The port that need not be written. -/
def usualPort? (scheme : List Char) : Option Nat :=
  (webPorts.find? (·.1 == String.ofList scheme)).bind (·.2)

/-- A slash, or what counts as one. -/
def isSlash (m : Manner) (c : Char) : Bool := c = '/' || (c = '\\' && m ≠ .other)

/-- A character that ends the path. -/
def endsPath (c : Char) : Bool := c = '?' || c = '#'

/-- A character that ends the host and what belongs to it. -/
def endsAuthority (m : Manner) (c : Char) : Bool := isSlash m c || endsPath c

/-! ## The scheme -/

/-- A character of a scheme. -/
def isSchemeChar (c : Char) : Bool := c.isAlphanum || c = '+' || c = '-' || c = '.'

/-- Splits off the scheme and its colon. -/
def readScheme? (cs : List Char) : Option (List Char × List Char) :=
  let scheme := cs.takeWhile isSchemeChar
  match scheme, cs.drop scheme.length with
  | first :: _, ':' :: rest =>
    if first.isAlpha then some (scheme.map Char.toLower, rest) else none
  | _, _ => none

/-! ## User, host and port -/

/-- Splits a text at its last `@`, if there is one. -/
def splitUser (cs : List Char) : Option (List Char) × List Char :=
  let behind := cs.reverse.takeWhile (· ≠ '@')
  if behind.length = cs.length then (none, cs)
  else (some (cs.take (cs.length - behind.length - 1)), behind.reverse)

/-- The user name and the password before the first colon and behind it. -/
def splitPassword (cs : List Char) : List Char × List Char :=
  (Percent.encode Percent.userInfo (cs.takeWhile (· ≠ ':')),
    Percent.encode Percent.userInfo ((cs.dropWhile (· ≠ ':')).drop 1))

/-- Splits a text before its first colon outside of brackets. -/
def splitPort (inside : Bool) : List Char → List Char × List Char
  | [] => ([], [])
  | c :: cs =>
    if c = ':' && !inside then ([], c :: cs)
    else
      let (host, rest) := splitPort (if c = '[' then true else if c = ']' then false else inside) cs
      (c :: host, rest)

/-- Reads a port behind its colon, and gives what is left behind a backslash. -/
def readPort (cs : List Char) : Except UrlError (Option Nat × List Char) :=
  let digits := cs.takeWhile Decimal.isDigit
  let rest := cs.drop digits.length
  if Decimal.value digits > 65535 then .error .badPort
  else match rest with
    | [] => .ok (if digits.isEmpty then none else some (Decimal.value digits), [])
    | '\\' :: _ => .ok (if digits.isEmpty then none else some (Decimal.value digits), rest)
    | _ => .error .badPort

/-- Reads what stands between the slashes and the path. `ended` says whether anything follows it.
The result is a url with these parts alone, and a text that belongs to the path. -/
def readAuthority (m : Manner) (scheme cs : List Char) (ended : Bool) :
    Except UrlError (Url × List Char) := do
  let (user, cs) := splitUser cs
  let (username, password) := splitPassword (user.getD [])
  if user = some [] && cs.isEmpty && !ended then throw .emptyHost
  let (hostText, portText) := splitPort false cs
  let host ← if m = .web then
      if hostText.isEmpty then throw .emptyHost else Host.readWeb hostText
    else Host.read hostText
  let host? := if hostText.isEmpty then none else some host
  if host?.isNone && !portText.isEmpty then throw .emptyHost
  let (port, rest) ← match portText with
    | ':' :: digits => readPort digits
    | _ => pure (none, [])
  if host?.isNone && !(username.isEmpty && password.isEmpty) then throw .emptyHost
  let port := if port = usualPort? scheme then none else port
  return ({ scheme := scheme, username := username, password := password, host := host?,
            port := port }, rest)

/-! ## The path -/

/-- A segment that stands for the place where it is. -/
def isDot (segment : List Char) : Bool :=
  [".", "%2e"].contains (Text.lowerAscii (String.ofList segment))

/-- A segment that stands for the place above. -/
def isDoubleDot (segment : List Char) : Bool :=
  ["..", "%2e.", ".%2e", "%2e%2e"].contains (Text.lowerAscii (String.ofList segment))

/-- A segment that names a drive. -/
def isDrive (segment : List Char) : Bool :=
  match segment with
  | [letter, c] => letter.isAlpha && (c = ':' || c = '|')
  | _ => false

/-- A path without its last segment; the drive of a file stays. -/
def shorten (m : Manner) (segments : List (List Char)) : List (List Char) :=
  match segments with
  | [only] => if m = .file && isDrive only && only.getLast? = some ':' then segments else []
  | _ => segments.dropLast

/-- Puts a segment behind the others, or resolves it. -/
def addSegment (m : Manner) (segments : List (List Char)) (segment : List Char) (isLast : Bool) :
    List (List Char) :=
  if isDoubleDot segment then shorten m segments ++ (if isLast then [[]] else [])
  else if isDot segment then segments ++ (if isLast then [[]] else [])
  else if m = .file && segments.isEmpty && isDrive segment then [segment.take 1 ++ [':']]
  else segments ++ [segment]

/-- Resolves the dots among the segments of a path. -/
def resolve (m : Manner) (segments : List (List Char)) : List (List Char) → List (List Char)
  | [] => segments
  | [last] => addSegment m segments last true
  | segment :: rest => resolve m (addSegment m segments segment false) rest

/-- The segments of a path without the slash at its head. -/
def readSegments (m : Manner) (cs : List Char) : List (List Char) :=
  let segments := resolve m []
    ((Text.splitOnChar (isSlash m) cs).map (Percent.encode Percent.path))
  if m = .file then
    let named := segments.dropWhile List.isEmpty
    if named.isEmpty then [[]] else named
  else segments

/-- The path behind a host. Only where nothing is written and nothing has to be is it empty. -/
def readPath (m : Manner) (cs : List Char) : UrlPath :=
  match cs with
  | [] => .segments (if m = .other then [] else [[]])
  | c :: rest => .segments (readSegments m (if isSlash m c then rest else cs))

/-! ## The whole -/

/-- Reads what follows the path into a url. -/
def withTail (m : Manner) (u : Url) (tail : List Char) : Url :=
  let queryText := tail.takeWhile (· ≠ '#')
  { u with
    query := match queryText with
      | '?' :: cs =>
        some (Percent.encode (if m = .other then Percent.query else Percent.webQuery) cs)
      | _ => none
    fragment := match tail.drop queryText.length with
      | '#' :: cs => some (Percent.encode Percent.fragment cs)
      | _ => none }

/-- Reads what follows the two slashes. -/
def readHosted (m : Manner) (scheme cs : List Char) : Except UrlError Url := do
  let authorityText := cs.takeWhile (!endsAuthority m ·)
  let rest := cs.drop authorityText.length
  let (u, more) ← readAuthority m scheme authorityText rest.isEmpty
  let rest := more ++ rest
  let pathText := rest.takeWhile (!endsPath ·)
  return withTail m { u with path := readPath m pathText } (rest.drop pathText.length)

/-- Reads what follows the scheme of a file address. -/
def readFile (scheme cs : List Char) : Except UrlError Url := do
  let slashes := (cs.takeWhile (isSlash .file)).take 2
  let rest := cs.drop slashes.length
  let hostText := if slashes.length < 2 then [] else rest.takeWhile (!endsAuthority .file ·)
  let hostText := if isDrive hostText then [] else hostText
  let host? ← if hostText.isEmpty then pure none else do
    let host ← Host.readWeb hostText
    pure (if host = .name "localhost".toList then none else some host)
  let rest := rest.drop hostText.length
  let pathText := rest.takeWhile (!endsPath ·)
  let path := readPath .file pathText
  let driven := match path with
    | .segments (first :: _) => isDrive first
    | _ => false
  return withTail .file { scheme := scheme, host := if driven then none else host?, path := path }
    (rest.drop pathText.length)

/-- Reads what follows a scheme without two slashes behind it. -/
def readUnhosted (scheme cs : List Char) : Url :=
  let pathText := cs.takeWhile (!endsPath ·)
  let path := match pathText with
    | '/' :: rest => UrlPath.segments (readSegments .other rest)
    | _ => .plain (Percent.encode Percent.controls pathText)
  withTail .other { scheme := scheme, path := path } (cs.drop pathText.length)

/-- A character that is dropped around a url. -/
def isMargin (c : Char) : Bool := c.toNat ≤ 0x20

/-- A character that is dropped inside a url. -/
def isIgnored (c : Char) : Bool := c = '\t' || c = '\n' || c = '\r'

/-- The characters of a url that count. -/
def significant (cs : List Char) : List Char :=
  (Text.dropRightWhile isMargin (cs.dropWhile isMargin)).filter (!isIgnored ·)

/-- Reads a url. -/
def readChars (cs : List Char) : Except UrlError Url :=
  match readScheme? (significant cs) with
  | none => .error .relative
  | some (scheme, rest) =>
    match mannerOf scheme with
    | .web => readHosted .web scheme (rest.dropWhile (isSlash .web))
    | .file => readFile scheme rest
    | .other =>
      match rest with
      | '/' :: '/' :: rest => readHosted .other scheme rest
      | _ => .ok (readUnhosted scheme rest)

/-- Reads a url. -/
def read (s : String) : Except UrlError Url := readChars s.toList

end Telemetry.Url
