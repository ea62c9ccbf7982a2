import CodeGrading.Number.Bounded
import CodeGrading.Runner.Client

/-!
Requests and responses as octets.

Both are a head of lines, an empty line and a body. A request asks for the connection to be closed
after the response. The body of a response comes in chunks, has the length that its head gives, or
runs to the end of the connection; until it is complete, more octets have to be waited for.
-/

namespace CodeGrading.Wire

/-! ### Addresses -/

/-- Where a request is sent. -/
structure Address where
  host : String
  port : UInt16
  /-- What is asked for there, with its query. -/
  path : String
  deriving DecidableEq, Repr

def scheme : List Char :=
  "http://".toList

/-- The characters that stand for themselves in a path or a query. -/
def isPathChar (c : Char) : Bool :=
  '!' ≤ c ∧ c ≤ '~' ∧ !"\"<>\x60\x7b\x7d".toList.contains c

def hexDigit (n : Nat) : Char :=
  (Nat.digitChar n).toUpper

/-- An octet as a percent sign and two digits. -/
def percent (b : UInt8) : List Char :=
  ['%', hexDigit (b.toNat / 16), hexDigit (b.toNat % 16)]

def escapePath (cs : List Char) : List Char :=
  cs.flatMap fun c =>
    if isPathChar c then [c] else (String.singleton c).toUTF8.toList.flatMap percent

/-- The host and the port of the part of an address before its path. -/
def hostAndPort? (authority : List Char) : Option (String × UInt16) :=
  let (host, port) := match authority with
    | '[' :: cs => (cs.takeWhile (· != ']'), (cs.dropWhile (· != ']')).drop 1)
    | cs => (cs.takeWhile (· != ':'), cs.dropWhile (· != ':'))
  if host.isEmpty then none
  else
    match port with
    | [] | [':'] => some (String.ofList host, 80)
    | ':' :: digits =>
      (natBelow? UInt16.size (String.ofList digits)).map fun n =>
        (String.ofList host, UInt16.ofNat n)
    | _ => none

/-- The place that a web address names. -/
def Address.ofUrl? (url : String) : Option Address :=
  let cs := url.toList
  if cs.take scheme.length = scheme then
    let cs := (cs.drop scheme.length).takeWhile (· != '#')
    let isPathStart (c : Char) : Bool := c == '/' || c == '?'
    let authority := cs.takeWhile (!isPathStart ·)
    let path := match cs.dropWhile (!isPathStart ·) with
      | '/' :: path => '/' :: path
      | path => '/' :: path
    (hostAndPort? authority).map fun (host, port) => ⟨host, port, String.ofList (escapePath path)⟩
  else none

/-! ### Requests -/

def lineEnd : String :=
  "\r\n"

/-- A request as it is sent to an address. -/
def requestText (a : Address) (r : Client.Request) : String :=
  let host := if a.host.toList.contains ':' then "[" ++ a.host ++ "]" else a.host
  String.join <| ([
    "POST " ++ a.path ++ " HTTP/1.1",
    "Host: " ++ host ++ ":" ++ toString a.port.toNat,
    "Accept: */*",
    "Content-Type: " ++ r.contentType,
    "Content-Length: " ++ toString r.body.utf8ByteSize,
    "Connection: close",
    ""].map (· ++ lineEnd)) ++ [r.body]

/-! ### Responses -/

/-- What is known of something that is still arriving. -/
inductive Arrival (α : Type) where
  | unfinished
  | finished (value : α)
  /-- No more octets can make it whole. -/
  | broken
  deriving DecidableEq, Repr

def newline : UInt8 :=
  10

def carriageReturn : UInt8 :=
  13

/-- The octets before the first newline, and those after it. -/
def takeLine : List UInt8 → Option (List UInt8 × List UInt8)
  | [] => none
  | b :: bs =>
    if b = newline then some ([], bs)
    else (takeLine bs).map fun (line, rest) => (b :: line, rest)

theorem length_lt_of_takeLine {bs line rest : List UInt8} (h : takeLine bs = some (line, rest)) :
    rest.length < bs.length := by
  induction bs generalizing line with
  | nil => simp [takeLine] at h
  | cons b bs ih =>
    rw [takeLine] at h
    split at h
    · simp_all
    · obtain ⟨⟨line', rest'⟩, hl, he⟩ := Option.map_eq_some_iff.1 h
      cases he
      have := ih hl
      simp only [List.length_cons]
      omega

/-- A line as text, without its carriage returns. -/
def lineText (line : List UInt8) : String :=
  String.ofList ((line.filter (· != carriageReturn)).map fun b => Char.ofNat b.toNat)

/-- The lines before the empty one, and the octets after it. -/
def takeHead (bs : List UInt8) : Option (List String × List UInt8) :=
  match h : takeLine bs with
  | none => none
  | some (line, rest) =>
    have := length_lt_of_takeLine h
    let text := lineText line
    if text.isEmpty then some ([], rest)
    else (takeHead rest).map fun (lines, body) => (text :: lines, body)
termination_by bs.length

/-- The status in the first line of a response. -/
def status? (line : String) : Option Nat :=
  match line.splitOn " " with
  | version :: code :: _ =>
    if version.startsWith "HTTP/1." ∧ code.length = 3 then natBelow? 1000 code else none
  | _ => none

/-- The value of a field of a head, its name in any case. -/
def fieldValue? (lines : List String) (name : String) : Option String :=
  lines.findSome? fun line =>
    let cs := line.toList
    if (String.ofList (cs.takeWhile (· != ':'))).toLower = name then
      some (String.ofList (Text.trimChars ((cs.dropWhile (· != ':')).drop 1)))
    else none

def hexNumber? (cs : List Char) : Option Nat :=
  if cs.isEmpty then none
  else cs.foldlM (fun n c => (Json.hexDigit? c).map (n * 16 + ·)) 0

/-- The octets of all chunks, up to the empty one. -/
def chunks (bs : List UInt8) : Arrival (List UInt8) :=
  match h : takeLine bs with
  | none => .unfinished
  | some (line, rest) =>
    have := length_lt_of_takeLine h
    match hexNumber? (Text.trimChars ((lineText line).toList.takeWhile (· != ';'))) with
    | none => .broken
    | some 0 => .finished []
    | some n =>
      if rest.length < n + lineEnd.length then .unfinished
      else
        match chunks (rest.drop (n + lineEnd.length)) with
        | .finished more => .finished (rest.take n ++ more)
        | .unfinished => .unfinished
        | .broken => .broken
termination_by bs.length
decreasing_by simp only [List.length_drop]; omega

/-- The body that follows a head. -/
def body (lines : List String) (isClosed : Bool) (bs : List UInt8) : Arrival (List UInt8) :=
  match fieldValue? lines "transfer-encoding", fieldValue? lines "content-length" with
  | some coding, _ => if coding.toLower = "chunked" then chunks bs else .broken
  | none, some length =>
    match length.toNat? with
    | none => .broken
    | some n => if bs.length < n then .unfinished else .finished (bs.take n)
  | none, none => if isClosed then .finished bs else .unfinished

/-- The response that some octets hold, of a connection that has been closed or has not. -/
def response (isClosed : Bool) (bs : List UInt8) : Arrival Client.Exchange :=
  match takeHead bs with
  | none => .unfinished
  | some ([], _) => .broken
  | some (first :: lines, rest) =>
    match status? first with
    | none => .broken
    | some status =>
      if Client.isBodiless status then .finished (.response status [])
      else
        match body lines isClosed rest with
        | .finished octets => .finished (.response status octets)
        | .unfinished => .unfinished
        | .broken => .broken

end CodeGrading.Wire
