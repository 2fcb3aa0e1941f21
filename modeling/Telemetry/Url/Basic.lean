import Telemetry.Url.Host

/-!
# Urls

A url in its parts. Every part is kept in the spelling in which it is written, with whatever the
part cannot hold percent-encoded. Without a user name and a password nothing stands before the
host; an empty password is the same as none.
-/

namespace Telemetry

/-- The path of a url. -/
inductive UrlPath where
  /-- A text without structure, behind a scheme that needs no host. -/
  | plain (cs : List Char)
  | segments (names : List (List Char))
  deriving DecidableEq, Repr

/-- A url. -/
structure Url where
  scheme : List Char
  username : List Char := []
  password : List Char := []
  host : Option Host := none
  port : Option Nat := none
  path : UrlPath := .segments []
  query : Option (List Char) := none
  fragment : Option (List Char) := none
  deriving DecidableEq, Repr

namespace Url

/-- The user name and the password before the host. -/
def userInfo (username password : List Char) : List Char :=
  username ++ (if password.isEmpty then [] else ':' :: password) ++
    (if username.isEmpty && password.isEmpty then [] else ['@'])

/-- What stands between the two slashes and the path. -/
def authority (u : Url) : List Char :=
  userInfo u.username u.password ++ (u.host.map Host.text).getD [] ++
    (match u.port with | some n => ':' :: Text.decimalDigits n | none => [])

/-- The text of a path. -/
def pathText : UrlPath → List Char
  | .plain cs => cs
  | .segments names => names.flatMap ('/' :: ·)

/-- A part behind its mark, if there is one. -/
def marked (mark : Char) : Option (List Char) → List Char
  | some cs => mark :: cs
  | none => []

/-- The url as a text. -/
def textChars (u : Url) : List Char :=
  u.scheme ++ ':' :: (if u.host.isSome then '/' :: '/' :: authority u else []) ++
    pathText u.path ++ marked '?' u.query ++ marked '#' u.fragment

/-- The url as a text. -/
def text (u : Url) : String := String.ofList u.textChars

/-- A url can carry a user name and a password: it has a host, and it is not a file's. -/
def takesUser (u : Url) : Bool := u.host.isSome && u.scheme ≠ "file".toList

/-- Sets the user name. -/
def withUsername (u : Url) (name : String) : Url :=
  { u with username := Percent.encode Percent.userInfo name.toList }

/-- Sets the password; an empty one is taken away. -/
def withPassword (u : Url) (password : String) : Url :=
  { u with password := Percent.encode Percent.userInfo password.toList }

end Url

end Telemetry
