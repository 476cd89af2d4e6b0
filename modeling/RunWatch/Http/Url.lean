import RunWatch.Http.Host
import RunWatch.Text.Blank

/-!
# Addresses of the web

Addresses under `http` and `https`, read leniently and written in one way: scheme in lower case, the host in
its one form, no port where the scheme implies it, dot segments resolved, and everything that may not stand
as it is percent encoded.
-/

namespace RunWatch.Http

/-- Why a text is no address. -/
inductive UrlFault where
  | noScheme
  /-- An address, but under a scheme that requests do not go to. -/
  | otherScheme (address : String)
  | host (fault : HostFault)
  | badPort
  deriving DecidableEq

/-- A fault of an address in words. -/
def UrlFault.message : UrlFault → String
  | noScheme => "relative URL without a base"
  | otherScheme _ => "URL scheme is not allowed"
  | host fault => fault.message
  | badPort => "invalid port number"

/-- An address.  User, password, path, query and fragment are as they are written. -/
structure Url where
  secure : Bool
  user : String
  password : Option String
  host : String
  port : Option Nat
  path : String
  query : Option String
  fragment : Option String
  deriving DecidableEq

namespace Url

/-! ## Writing -/

/-- The port that a scheme implies. -/
def impliedPort (secure : Bool) : Nat :=
  if secure then 443 else 80

/-- Host and port, the port only if it is not the implied one. -/
def authority (u : Url) : String :=
  match u.port with
  | some port => u.host ++ ":" ++ toString port
  | none => u.host

/-- The credentials in front of the host. -/
def credentials (u : Url) : String :=
  match u.password with
  | some password => u.user ++ ":" ++ password ++ "@"
  | none => if u.user.isEmpty then "" else u.user ++ "@"

/-- What is asked of the host: path and query. -/
def target (u : Url) : String :=
  match u.query with
  | some query => u.path ++ "?" ++ query
  | none => u.path

/-- An address as it is written. -/
def text (u : Url) : String :=
  (if u.secure then "https://" else "http://") ++ u.credentials ++ u.authority ++ u.target ++
    match u.fragment with
    | some fragment => "#" ++ fragment
    | none => ""

/-! ## Ports -/

/-- A port, if one is given and it is not the implied one. -/
def readPort (secure : Bool) (cs : List Char) : Except UrlFault (Option Nat) :=
  if cs.isEmpty then .ok none
  else if cs.all Char.isDigit then
    let port := Text.ofDigits (Text.spanDigits cs).1
    if port < 65536 then .ok (if port = impliedPort secure then none else some port)
    else .error .badPort
  else .error .badPort

/-! ## Paths -/

/-- Whether a segment is the name of a drive: one letter and a colon or a bar. -/
def isDrive : List Char → Bool
  | [letter, mark] => letter.isAlpha && (mark = ':' || mark = '|')
  | _ => false

/-- The path without its last segment.  The name of a drive is never taken back. -/
def takeBack (path : List (List Char)) : List (List Char) :=
  if path.getLast?.any isDrive then path else path.dropLast

/-- The path after one more segment; `last` tells whether it ends there. -/
def addSegment (path : List (List Char)) (segment : List Char) (last : Bool) : List (List Char) :=
  let name := String.ofList (segment.map Char.toLower)
  if name = "." || name = "%2e" then if last then path ++ [[]] else path
  else if ["..", ".%2e", "%2e.", "%2e%2e"].contains name then
    if last then takeBack path ++ [[]] else takeBack path
  else path ++ [percentEncode standsInPath segment]

/-- The segments of a path with the dots resolved. -/
def resolve (path : List (List Char)) : List (List Char) → List (List Char)
  | [] => path
  | [segment] => addSegment path segment true
  | segment :: rest => resolve (addSegment path segment false) rest

/-- A path, given what stands behind its first slash. -/
def pathText (cs : List Char) : String :=
  String.ofList ('/' :: ['/'].intercalate (resolve [] (cs.splitOn '/')))

/-! ## Reading -/

/-- What stands before the first character of a class, and the rest from it on. -/
def cutBefore (p : Char → Bool) (cs : List Char) : List Char × List Char :=
  (cs.takeWhile fun c => !p c, cs.dropWhile fun c => !p c)

/-- What stands behind the last character of a sort, or else everything. -/
def afterLast (c : Char) (cs : List Char) : List Char :=
  (cs.reverse.takeWhile (· ≠ c)).reverse

/-- The characters that count: none of the blanks and controls at the ends, no tab or line end. -/
def cleaned (s : String) : List Char :=
  (Text.trimBoth (· ≤ ' ') s.toList).filter fun c => !(['\t', '\n', '\r'].contains c)

/-- What stands before the first colon that is not in brackets, and the rest from it on. -/
def cutAtPort (inside : Bool) : List Char → List Char × List Char
  | [] => ([], [])
  | c :: cs =>
    if c = ':' && !inside then ([], c :: cs)
    else
      let (host, port) := cutAtPort (if c = '[' then true else if c = ']' then false else inside) cs
      (c :: host, port)

/-- Host and port. -/
def readHost (secure : Bool) (cs : List Char) : Except UrlFault (String × Option Nat) := do
  let (host, port) := cutAtPort false cs
  let host ← (Host.read host).mapError .host
  return (host, ← readPort secure (port.drop 1))

/-- User and password, percent encoded; an empty password is none. -/
def readCredentials (cs : List Char) : String × Option String :=
  let (user, password) := cutBefore (· = ':') cs
  let encoded (cs : List Char) : String := String.ofList (percentEncode standsInCredentials cs)
  (encoded user, if password.length ≤ 1 then none else some (encoded (password.drop 1)))

/-- The address behind the scheme. -/
def readPlace (secure : Bool) (cs : List Char) : Except UrlFault Url := do
  let isSlash (c : Char) : Bool := c = '/' || c = '\\'
  let (place, rest) := cutBefore (fun c => isSlash c || c = '?' || c = '#') (cs.dropWhile isSlash)
  let host := afterLast '@' place
  let (user, password) := readCredentials (place.take (place.length - host.length - 1))
  let (host, port) ← readHost secure host
  let (path, rest) := cutBefore (fun c => c = '?' || c = '#') rest
  let (query, fragment) := cutBefore (· = '#') rest
  let part (stands : Char → Bool) (cs : List Char) : Option String :=
    if cs.isEmpty then none else some (String.ofList (percentEncode stands (cs.drop 1)))
  return {
    secure, user, password, host, port
    path := pathText ((path.map fun c => if c = '\\' then '/' else c).drop 1)
    query := part standsInQuery query
    fragment := part standsInFragment fragment }

/-- Whether a character may stand in a scheme. -/
def standsInScheme (c : Char) : Bool :=
  c.isAlphanum || c = '+' || c = '-' || c = '.'

/-- The address that a text stands for. -/
def read (s : String) : Except UrlFault Url :=
  let cs := cleaned s
  let (scheme, rest) := cutBefore (· = ':') cs
  match scheme, rest with
  | first :: _, ':' :: rest =>
    if first.isAlpha && scheme.all standsInScheme then
      match String.ofList (scheme.map Char.toLower) with
      | "http" => readPlace false rest
      | "https" => readPlace true rest
      | _ => .error (.otherScheme (String.ofList cs))
    else .error .noScheme
  | _, _ => .error .noScheme

/-- The address with some pairs behind its query. -/
def addPairs (u : Url) (pairs : List (String × String)) : Url :=
  if pairs.isEmpty then u
  else
    let form := String.ofList (formText pairs)
    match u.query with
    | some query => { u with query := some (if query.isEmpty then form else query ++ "&" ++ form) }
    | none => { u with query := some form }

end Url

end RunWatch.Http
