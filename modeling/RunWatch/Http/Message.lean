import RunWatch.Http.Failure
import RunWatch.Http.Url
import RunWatch.Text.Lossy

/-!
# Messages on the wire

Requests and responses as the bytes that a connection carries, in version 1.1 of the protocol.  A
connection carries one exchange and is closed after it.
-/

namespace RunWatch.Http

/-! ## Requests -/

/-- A request as it goes out. -/
structure Outgoing where
  verb : String
  url : Url
  /-- The fields of the header, in order, with names in lower case. -/
  fields : List (String × String)
  body : Option String

namespace Outgoing

/-- Whether a text may be the value of a field. -/
def isFieldValue (s : String) : Bool :=
  s.toList.all fun c => c = '\t' || (' ' ≤ c && c ≠ '\x7f')

/-- The longest address that goes on a request line. -/
def longestUrl : Nat := 65534

/-- Whether the address can go on a request line. -/
def isAddressed (o : Outgoing) : Bool :=
  o.url.host.toList.all Host.standsOnRequestLine && o.url.text.utf8ByteSize ≤ longestUrl

/-- A request as text. -/
def text (o : Outgoing) : String :=
  let fields := [("host", o.url.authority), ("connection", "close"), ("accept", "*/*")] ++ o.fields ++
    (o.body.map fun body => ("content-length", toString body.utf8ByteSize)).toList
  String.join ([o.verb ++ " " ++ o.url.target ++ " HTTP/1.1\r\n"] ++
    fields.map (fun f => f.1 ++ ": " ++ f.2 ++ "\r\n") ++ ["\r\n", o.body.getD ""])

end Outgoing

/-! ## Responses -/

/-- A response as it comes in. -/
structure Incoming where
  status : Nat
  fields : List (String × String)
  body : List UInt8

namespace Incoming

/-- A line without the end of the line, and what follows it. -/
def cutLine : List UInt8 → Option (List UInt8 × List UInt8)
  | [] => none
  | 13 :: 10 :: rest => some ([], rest)
  | b :: rest => (cutLine rest).map fun (line, after) => (b :: line, after)

theorem cutLine_length_lt {bs line rest : List UInt8} (h : cutLine bs = some (line, rest)) :
    rest.length < bs.length := by
  fun_induction cutLine bs generalizing line rest with
  | case1 => simp at h
  | case2 rest' =>
    simp only [Option.some.injEq, Prod.mk.injEq] at h
    simp only [← h.2, List.length_cons]
    omega
  | case3 b bs _ ih =>
    simp only [Option.map_eq_some_iff, Prod.mk.injEq, Prod.exists] at h
    obtain ⟨l, r, h, _, rfl⟩ := h
    exact Nat.lt_succ_of_lt (ih h)

/-- A field of a header. -/
def field? (line : List UInt8) : Option (String × String) :=
  let cs := Text.lossyChars line
  match Url.cutBefore (· = ':') cs with
  | (name, ':' :: value) =>
    some (String.ofList (name.map Char.toLower),
      String.ofList (Text.trimBoth (fun c => c = ' ' || c = '\t') value))
  | _ => none

/-- The fields of a header and what follows the blank line behind them. -/
def readFields (bs : List UInt8) : Option (List (String × String) × List UInt8) :=
  match _h : cutLine bs with
  | none => none
  | some ([], rest) => some ([], rest)
  | some (line, rest) => do
    let field ← field? line
    let (fields, rest) ← readFields rest
    some (field :: fields, rest)
termination_by bs.length
decreasing_by exact cutLine_length_lt _h

/-- The status that the first line of a response tells. -/
def status? (line : List UInt8) : Option Nat :=
  match (Text.lossyChars line).splitOn ' ' with
  | version :: code :: _ =>
    if "HTTP/1.".toList.isPrefixOf version && code.length = 3 && code.all Char.isDigit then
      some (Text.ofDigits (Text.spanDigits code).1)
    else none
  | _ => none

/-- The size in front of a piece of a body that comes in pieces. -/
def pieceSize? (line : List UInt8) : Option Nat :=
  let digits := (Text.lossyChars line).takeWhile fun c => (Text.hexDigit? c).isSome
  if digits.isEmpty then none
  else some (digits.foldl (fun n c => n * 16 + (Text.hexDigit? c).getD 0) 0)

/-- A body that comes in pieces, put together. -/
def joinPieces (bs : List UInt8) : Option (List UInt8) :=
  match _h : cutLine bs with
  | none => none
  | some (line, rest) => do
    let size ← pieceSize? line
    if size = 0 then some []
    else if rest.length < size + 2 then none
    else
      let after ← joinPieces (rest.drop (size + 2))
      some (rest.take size ++ after)
termination_by bs.length
decreasing_by
  have := cutLine_length_lt _h
  simp only [List.length_drop]
  omega

/-- The value of a field. -/
def value? (name : String) (fields : List (String × String)) : Option String :=
  (fields.find? fun f => f.1 = name).map Prod.snd

/-- The body of a response, given everything behind its header. -/
def body? (fields : List (String × String)) (rest : List UInt8) : Option (List UInt8) :=
  if value? "transfer-encoding" fields = some "chunked" then joinPieces rest
  else
    match (value? "content-length" fields).bind (Text.count? UInt64.size) with
    | some size => if rest.length < size then none else some (rest.take size)
    | none => some rest

/-- The response that a connection carried. -/
def ofBytes? (bytes : ByteArray) : Option Incoming := do
  let (line, rest) ← cutLine bytes.toList
  let status ← status? line
  let (fields, rest) ← readFields rest
  let body ← body? fields rest
  some ⟨status, fields, body⟩

end Incoming

end RunWatch.Http
