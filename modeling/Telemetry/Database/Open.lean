import Telemetry.Credentials
import Telemetry.Database.Backend

/-!
# Opening sessions

What is checked when a session for a target is made, before its server is asked for anything: the
product, the credentials, the url, and the parameters behind the url that the product knows.
-/

namespace Telemetry.Database

/-- What a parameter stands for: plus signs are spaces, and percent encoding is taken back. -/
def parameterText (cs : List Char) : String :=
  Utf8.decodeLossy (Percent.decode (cs.map fun c => if c = '+' then ' ' else c))

/-- The parameters of a query, in order. -/
def parameters (query : List Char) : List (String × String) :=
  ((Text.splitOnChar (· = '&') query).filter (!List.isEmpty ·)).map fun pair =>
    let name := pair.takeWhile (· ≠ '=')
    (parameterText name, parameterText (pair.drop (name.length + 1)))

/-- A value that a parameter cannot have. -/
def unknownValue (value parameter : String) : ClientFault :=
  .configuration ("unknown value " ++ Text.quote value ++ " for `" ++ parameter ++ "`")

/-- The values of the parameter that says how the transport is protected. -/
def sslModes : Backend → List String
  | .postgres => ["disable", "allow", "prefer", "require", "verify-ca", "verify-full"]
  | .mysql => ["disabled", "preferred", "required", "verify_ca", "verify_identity"]
  | .sqlite => []

/-- A fault inside the fault of a parameter. -/
def nested : ClientFault → ClientFault
  | .configuration message => .configuration ("error with configuration: " ++ message)
  | fault => fault

/-- Checks a parameter of a server's url. -/
def checkServerParameter (backend : Backend) (p : String × String) : Except ClientFault Unit :=
  if (p.1 = "sslmode" || p.1 = "ssl-mode") &&
      !(sslModes backend).contains (Text.lowerAscii p.2) then
    .error (nested (unknownValue p.2 "ssl_mode"))
  else .ok ()

/-- Checks the url of a server. -/
def checkServerUrl (backend : Backend) (url : String) : Except ClientFault Unit :=
  match Url.read url with
  | .error e => .error (.configuration e.message)
  | .ok u => (parameters (u.query.getD [])).forM (checkServerParameter backend)

/-- The values of the parameters of a database file. -/
def fileParameters : List (String × List String) :=
  [("mode", ["ro", "rw", "rwc", "memory"]), ("cache", ["private", "shared"]),
    ("immutable", ["true", "1", "false", "0"])]

/-- Checks a parameter of a database file. -/
def checkFileParameter (p : String × String) : Except ClientFault Unit :=
  match fileParameters.find? (·.1 == p.1) with
  | some (name, values) => if values.contains p.2 then .ok () else .error (unknownValue p.2 name)
  | none =>
    if p.1 = "vfs" then .ok ()
    else .error (.configuration
      ("unknown query parameter `" ++ p.1 ++ "` while parsing connection URL"))

/-- Checks the url of a database file. -/
def checkFileUrl (url : String) : Except ClientFault Unit :=
  (parameters ((url.toList.dropWhile (· ≠ '?')).drop 1)).forM checkFileParameter

/-- Checks a url with the credentials in it. -/
def checkUrl (backend : Backend) (url : String) : Except ClientFault Unit :=
  match backend with
  | .sqlite => checkFileUrl url
  | _ => checkServerUrl backend url

/-- Makes a session for a target, which asks its server for nothing yet. -/
def open? (environment : Credentials.Environment) (fs : Files) (t : TargetSettings) :
    Except DbError Unit := do
  let backend ← Backend.ofUrl t.url
  let credentials ← Credentials.resolve environment fs t
  let url ← credentials.connectionUrl t.url
  (checkUrl backend url).mapError .ofFault

end Telemetry.Database
