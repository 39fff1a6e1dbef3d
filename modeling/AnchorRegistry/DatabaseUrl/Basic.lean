import AnchorRegistry.Text.Alphanumeric
import AnchorRegistry.Text.Numeral
import AnchorRegistry.Text.Percent

/-! Database URLs. `toAsync` makes a URL that names no driver, or a file by path alone, name the
asynchronous driver of the same database. `parse` splits a URL into its parts, reading as far as
it can and ignoring what is left. The name of the database and the options may hold percent escapes. -/

namespace AnchorRegistry

/-- The parts of a URL. -/
structure DatabaseUrl where
  scheme : Text
  username : Option Text
  password : Option Text
  host : Option Text
  port : Option Int
  database : Option Text
  /-- The options after the question mark; a name may occur more than once. -/
  options : List (Text × Text)
deriving DecidableEq

namespace DatabaseUrl

/-- The first matching rule counts: a server, a file after `//`, a file by path. -/
def toAsync (url : Text) : Text :=
  match url.dropPrefix? "postgresql://", url.dropPrefix? "sqlite://", url.dropPrefix? "sqlite:" with
  | some rest, _, _ => ("postgresql+asyncpg://" : Text) ++ rest
  | none, some rest, _ => ("sqlite+aiosqlite://" : Text) ++ rest
  | none, none, some path => ("sqlite+aiosqlite:///" : Text) ++ path
  | none, none, none => url

/-- Why a URL names no database that can be opened. -/
inductive UrlError where
  | notAUrl
  | malformedPart
  | unknownPlugin
  | unknownDriver
  | missingDriver
  /-- The name after the plus means something else than a driver. -/
  | reservedName
  /-- A file database is given a server or a user. -/
  | serverOfFile
  /-- The same, in a URL that cannot be shown. -/
  | unshowable
  | unreadableOption
  | repeatedOption
  /-- Options are to be handed on to a file that is not named. -/
  | optionsOfNoFile
  /-- The hosts and ports among the options do not fit together. -/
  | mismatchedHosts
  | notAsync
deriving DecidableEq

/-- A code point of a scheme: a plus, an underscore, or a letter or number of any script. -/
def isSchemePoint (c : CodePoint) : Bool :=
  c == ('+' : CodePoint) || c == ('_' : CodePoint) || c.isAlphanumeric

/-- Splits at the last occurrence of a code point, which goes with neither part. -/
def splitLast? (c : CodePoint) (t : Text) : Option (Text × Text) :=
  let after := (t.reverse.takeWhile fun x => x != c).reverse
  if after.length < t.length then some (t.take (t.length - after.length - 1), after) else none

/-- A user name and password in front of an at sign. A password may hold anything but an at sign. -/
def splitUser (t : Text) : Option Text × Option Text × Text :=
  let name := t.takeWhile fun c => c != (':' : CodePoint) && c != ('/' : CodePoint)
  let after := t.drop name.length
  let password := (after.drop 1).takeWhile fun c => c != ('@' : CodePoint)
  if after.head? = some (':' : CodePoint) ∧ password.length + 1 < after.length then
    (some name, some password, after.drop (password.length + 2))
  else
    match splitLast? '@' name with
    | some (user, rest) => (some user, none, rest ++ after)
    | none => (none, none, t)

/-- A host, in brackets or up to a colon, slash or question mark. -/
def splitHost (t : Text) : Option Text × Text :=
  let plain :=
    let host := t.takeWhile fun c =>
      c != ('/' : CodePoint) && c != (':' : CodePoint) && c != ('?' : CodePoint)
    (if host = [] then none else some host, t.drop host.length)
  if t.head? = some ('[' : CodePoint) then
    let inner := (t.drop 1).takeWhile fun c => c != ('/' : CodePoint) && c != ('?' : CodePoint)
    match splitLast? ']' inner with
    | some (host, _) => if host = [] then plain else (some host, t.drop (host.length + 2))
    | none => plain
  else plain

/-- The part that a mark introduces, up to a code point of `stops`. -/
def splitPart (mark : CodePoint) (stops : Text) (t : Text) : Option Text × Text :=
  if t.head? = some mark then
    let part := (t.drop 1).takeWhile fun c => !stops.contains c
    (some part, t.drop (part.length + 1))
  else (none, t)

/-- Splits what follows the scheme. -/
def parseParts (scheme t : Text) : Except UrlError DatabaseUrl :=
  let (username, password, rest) := splitUser t
  let (host, rest) := splitHost rest
  let (port, rest) := splitPart ':' "/?" rest
  let (database, rest) := splitPart '/' "?" rest
  let (query, _) := splitPart '?' "\n" rest
  let url := fun (port : Option Int) =>
    ({ scheme, username, password, host, port, database := database.map Text.unescape
       options := Text.formFields (query.getD []) } : DatabaseUrl)
  match port with
  | none => .ok (url none)
  | some digits =>
    match Text.readLenient? 10 digits with
    | some n => .ok (url (some n))
    | none => .error .malformedPart

def parse (t : Text) : Except UrlError DatabaseUrl :=
  let scheme := t.takeWhile isSchemePoint
  match Text.dropPrefix? (t.drop scheme.length) "://" with
  | none => .error .notAUrl
  | some rest => if scheme = [] then .error .notAUrl else parseParts scheme rest

/-- The values of an option, in order. -/
def option (url : DatabaseUrl) (name : Text) : List Text :=
  (url.options.filter fun (key, _) => key = name).map (·.2)

/-- The database system, which is the scheme up to a plus. -/
def backend (url : DatabaseUrl) : Text := url.scheme.takeWhile fun c => c != ('+' : CodePoint)

/-- Whether the URL names a server or a user, which a file database has not. -/
def namesServer (url : DatabaseUrl) : Bool :=
  [url.username, url.password, url.host].any (fun part => part.any (· ≠ [])) ||
    url.port.any (· ≠ 0)

/-- Whether the parts that are escaped where the URL is shown have an encoding. -/
def isShowable (url : DatabaseUrl) : Bool :=
  (url.username.toList ++ url.database.toList ++ url.options.flatMap fun (name, value) => [name, value]).all
    fun t => decide t.Storable

end DatabaseUrl

end AnchorRegistry
