import FailoverControl.Rpc.Failure

/-!
# The opening handshake

A server answers the opening request with the head of an HTTP response. It must be complete, of
version 1.1, announce the switch of protocols, and prove by its accept key that it has seen the
request. The first of these that fails names the failure.
-/

set_option autoImplicit false

namespace FailoverControl.Rpc

/-- The head of an HTTP response. -/
structure ResponseHead where
  /-- The minor version of HTTP/1. -/
  minorVersion : Nat
  status : Nat
  headers : List (String × String)
deriving DecidableEq, Repr

/-- The standard phrases of HTTP statuses. -/
def statusPhrases : List (Nat × String) :=
  [(100, "Continue"), (101, "Switching Protocols"), (102, "Processing"), (103, "Early Hints"),
    (200, "OK"), (201, "Created"), (202, "Accepted"), (203, "Non Authoritative Information"),
    (204, "No Content"), (205, "Reset Content"), (206, "Partial Content"), (207, "Multi-Status"),
    (208, "Already Reported"), (226, "IM Used"), (300, "Multiple Choices"),
    (301, "Moved Permanently"), (302, "Found"), (303, "See Other"), (304, "Not Modified"),
    (305, "Use Proxy"), (307, "Temporary Redirect"), (308, "Permanent Redirect"),
    (400, "Bad Request"), (401, "Unauthorized"), (402, "Payment Required"), (403, "Forbidden"),
    (404, "Not Found"), (405, "Method Not Allowed"), (406, "Not Acceptable"),
    (407, "Proxy Authentication Required"), (408, "Request Timeout"), (409, "Conflict"),
    (410, "Gone"), (411, "Length Required"), (412, "Precondition Failed"),
    (413, "Payload Too Large"), (414, "URI Too Long"), (415, "Unsupported Media Type"),
    (416, "Range Not Satisfiable"), (417, "Expectation Failed"), (418, "I'm a teapot"),
    (421, "Misdirected Request"), (422, "Unprocessable Entity"), (423, "Locked"),
    (424, "Failed Dependency"), (425, "Too Early"), (426, "Upgrade Required"),
    (428, "Precondition Required"), (429, "Too Many Requests"),
    (431, "Request Header Fields Too Large"), (451, "Unavailable For Legal Reasons"),
    (500, "Internal Server Error"), (501, "Not Implemented"), (502, "Bad Gateway"),
    (503, "Service Unavailable"), (504, "Gateway Timeout"), (505, "HTTP Version Not Supported"),
    (506, "Variant Also Negotiates"), (507, "Insufficient Storage"), (508, "Loop Detected"),
    (510, "Not Extended"), (511, "Network Authentication Required")]

/-- A status as it is shown. -/
def statusText (status : Nat) : String :=
  Decimal.text status ++ " " ++ (statusPhrases.lookup status).getD "<unknown status code>"

/-! ## Reading the head -/

/-- The line up to a line feed without the line end, and the text behind it; nothing when the line
is not complete. -/
def takeLine? (cs : List Char) : Option (List Char × List Char) :=
  match cs.span (· != '\n') with
  | (line, _ :: rest) =>
    some ((if line.getLast? = some '\r' then line.dropLast else line), rest)
  | (_, []) => none

/-- One header line. -/
def readHeader (line : List Char) : Except ProtocolError (String × String) :=
  match line.span (· != ':') with
  | (name, _ :: value) =>
    if name.isEmpty || name.any (fun c => c.toNat ≤ 0x20 || 0x7f ≤ c.toNat) then
      .error (.malformedHttp "invalid header name")
    else
      let isGap (c : Char) : Bool := c = ' ' || c = '\t'
      let value := ((value.dropWhile isGap).reverse.dropWhile isGap).reverse
      .ok (String.ofList (name.map Char.toLower), String.ofList value)
  | (_, []) => .error (.malformedHttp "invalid header name")

/-- The header lines up to the empty one; `count` bounds their number. -/
def readHeaders : (count : Nat) → List Char → Except ProtocolError (List (String × String))
  | 0, _ => .error .handshakeIncomplete
  | count + 1, cs =>
    match takeLine? cs with
    | none => .error .handshakeIncomplete
    | some ([], _) => .ok []
    | some (line, rest) => do
      let header ← readHeader line
      return header :: (← readHeaders count rest)

/-- The three digits of a status and what may follow them. -/
def readStatus : List Char → Except ProtocolError Nat
  | a :: b :: c :: rest =>
    if a.isDigit && b.isDigit && c.isDigit && (rest.isEmpty || rest.head? = some ' ') then
      .ok (Decimal.ofDigits [a, b, c])
    else .error (.malformedHttp "invalid response status")
  | _ => .error (.malformedHttp "invalid response status")

/-- What the first line of an HTTP response begins with, less the minor version. -/
def versionStart : List Char := ['H', 'T', 'T', 'P', '/', '1', '.']

/-- The head of the response that a server has answered before it closed the connection. -/
def ResponseHead.parse (answer : String) : Except ProtocolError ResponseHead := do
  let cs := answer.toList.dropWhile fun c => c = '\r' || c = '\n'
  let start := cs.take versionStart.length
  if start != versionStart.take start.length then throw (.malformedHttp "invalid HTTP version")
  match cs.drop versionStart.length with
  | [] => throw .handshakeIncomplete
  | minor :: rest =>
    if minor != '0' && minor != '1' then throw (.malformedHttp "invalid HTTP version")
    match takeLine? rest with
    | none => throw .handshakeIncomplete
    | some (line, rest) =>
      match line with
      | ' ' :: line =>
        let status ← readStatus line
        return ⟨Decimal.digitValue minor, status, ← readHeaders (rest.length + 1) rest⟩
      | _ => throw (.malformedHttp "invalid HTTP version")

/-! ## Judging the head -/

/-- The value of a header, whose name is in lower case. -/
def ResponseHead.header? (head : ResponseHead) (name : String) : Option String :=
  head.headers.lookup name

/-- Whether two texts are the same but for the case of their letters. -/
def sameWord (a b : String) : Bool :=
  a.toList.map Char.toLower == b.toList.map Char.toLower

/-- Whether a head completes the handshake for which `acceptKey` is due. -/
def ResponseHead.check (head : ResponseHead) (acceptKey : String) : Except SocketError Unit :=
  if head.minorVersion < 1 then .error (.protocol .wrongHttpVersion)
  else if head.status ≠ 101 then .error (.httpStatus (statusText head.status))
  else if !(head.header? "upgrade").any (sameWord "websocket") then
    .error (.protocol .missingUpgradeHeader)
  else if !(head.header? "connection").any (sameWord "upgrade") then
    .error (.protocol .missingConnectionHeader)
  else if head.header? "sec-websocket-accept" ≠ some acceptKey then
    .error (.protocol .acceptKeyMismatch)
  else .ok ()

/-- How the answer of a server that then closes the connection ends the handshake. -/
def checkAnswer (answer acceptKey : String) : Except SocketError Unit := do
  let head ← (ResponseHead.parse answer).mapError SocketError.protocol
  head.check acceptKey

end FailoverControl.Rpc
