import Telemetry.Error
import Telemetry.Files
import Telemetry.Settings.Basic
import Telemetry.Url.Reader

/-!
# Credentials

The user name and the password of a target, where they come from, how they get into its url, and
how a url is shown without them. They are looked up again whenever a session is opened, so that
what was rotated in the meantime is picked up.
-/

namespace Telemetry

/-- The credentials for a target. -/
structure Credentials where
  username : Option String
  password : Option String
  deriving DecidableEq, Repr

namespace Credentials

/-- The variables of the environment. -/
abbrev Environment := KeyMap String

/-- The value of a variable that has to be set. -/
def readVariable (environment : Environment) (what name : String) : Except DbError String :=
  match environment.get? name with
  | some value => .ok value
  | none => .error (.other (what ++ " environment variable '" ++ name ++ "' is not set"))

/-- A character that ends a line. -/
def isLineEnd (c : Char) : Bool := c = '\n' || c = '\r'

/-- The content of a password file, without the line ends behind it. -/
def readPasswordFile (fs : Files) (path : String) : Except DbError String :=
  match fs.readText path with
  | .ok text => .ok (String.ofList (Text.dropRightWhile isLineEnd text.toList))
  | .error cause =>
    .error (.other ("failed to read password file " ++ path ++ ": " ++ cause.message))

/-- The user name of a target: that of a variable before the one in the settings. -/
def resolveUsername (environment : Environment) (t : TargetSettings) :
    Except DbError (Option String) :=
  match t.usernameEnv with
  | some name => (readVariable environment "username" name).map some
  | none => .ok t.username

/-- The password of a target: that of a variable before that of a file before the one in the
settings. -/
def resolvePassword (environment : Environment) (fs : Files) (t : TargetSettings) :
    Except DbError (Option String) :=
  match t.passwordEnv, t.passwordFile with
  | some name, _ => (readVariable environment "password" name).map some
  | none, some path => (readPasswordFile fs path).map some
  | none, none => .ok t.password

/-- The credentials for a target. -/
def resolve (environment : Environment) (fs : Files) (t : TargetSettings) :
    Except DbError Credentials := do
  let username ← resolveUsername environment t
  let password ← resolvePassword environment fs t
  return ⟨username, password⟩

/-- What is shown in the place of a secret. -/
def mark : String := "***"

/-- A text that may be missing, as a log shows it. -/
def shownOption : Option String → String
  | some s => "Some(" ++ Text.quote s ++ ")"
  | none => "None"

/-- The credentials as a log shows them, without the password. -/
def shown (c : Credentials) : String :=
  "Credentials \x7b username: " ++ shownOption c.username ++ ", password: " ++
    shownOption (c.password.map fun _ => mark) ++ " \x7d"

/-- Sets a part of the url that only some urls can carry. -/
def setPart (u : Url) (what : String) (set : Url → String → Url) :
    Option String → Except DbError Url
  | none => .ok u
  | some value =>
    if u.takesUser then .ok (set u value)
    else .error (.other ("connection url cannot carry a " ++ what))

/-- A url with the credentials in it, in the place of those that it had. Without credentials, and
for a url without a host, it stays as it is written. -/
def connectionUrl (url : String) (c : Credentials) : Except DbError String :=
  if c.username.isNone && c.password.isNone then .ok url
  else match Url.read url with
    | .error e => .error (.other ("invalid connection url: " ++ e.message))
    | .ok u =>
      if u.host.isNone then .ok url
      else do
        let u ← setPart u "username" Url.withUsername c.username
        let u ← setPart u "password" Url.withPassword c.password
        return u.text

end Credentials

/-- A url as a log shows it: with a mark in the place of the user name and the password. What is
no url and yet might hold a password is not shown at all. -/
def Url.masked (url : String) : String :=
  match Url.read url with
  | .ok u =>
    if u.username.isEmpty && u.password.isEmpty then url
    else if u.takesUser then ((u.withPassword "").withUsername Credentials.mark).text
    else Credentials.mark
  | .error _ => if Text.contains url "@" then Credentials.mark else url

end Telemetry
