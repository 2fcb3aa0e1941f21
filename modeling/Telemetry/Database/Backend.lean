import Telemetry.Error
import Telemetry.Text.Case

/-!
# Backends

The database products that a target can be. The scheme of its url says which one it is, and the
product decides how a fresh session takes on a role: with a statement that holds the role as a
quoted name, in which the quote is written twice.
-/

namespace Telemetry

/-- A database product. -/
inductive Backend where
  | postgres
  | mysql
  | sqlite
  deriving DecidableEq, Repr

namespace Backend

/-- The scheme of a url in small letters: what stands before its first colon. -/
def schemeOf (url : String) : String :=
  Text.lowerAscii (String.ofList (url.toList.takeWhile (· ≠ ':')))

/-- The product that a url is for. -/
def ofUrl (url : String) : Except DbError Backend :=
  let scheme := schemeOf url
  if scheme = "postgres" || scheme = "postgresql" then .ok .postgres
  else if scheme = "mysql" then .ok .mysql
  else if scheme = "sqlite" then .ok .sqlite
  else .error (.other ("unsupported database url scheme: " ++ Text.quote scheme))

/-- A name between quotes; a quote inside it is written twice. -/
def quotedName (quote : Char) (name : List Char) : List Char :=
  quote :: name.flatMap (fun c => if c = quote then [quote, quote] else [c]) ++ [quote]

/-- The statement that switches a fresh session to a role; one product has no roles. -/
def roleStatement (backend : Backend) (role : String) : Option String :=
  match backend with
  | .postgres => some (String.ofList ("SET ROLE ".toList ++ quotedName '"' role.toList))
  | .mysql => some (String.ofList ("SET ROLE ".toList ++ quotedName '\'' role.toList))
  | .sqlite => none

end Backend

end Telemetry
