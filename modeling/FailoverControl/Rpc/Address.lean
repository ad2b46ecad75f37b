import FailoverControl.Decimal.Unsigned
import FailoverControl.Rpc.Failure

/-!
# Addresses of websockets

An address is split into scheme, authority and target. Its characters are checked from left to
right, so the first offending part names the failure. An address without an authority cannot be
connected to, nor can one that neither gives the number of a TCP service nor has a scheme that
implies it. What the server is asked for once the connection stands is the target, and the whole of
it: path and query as they are written.
-/

set_option autoImplicit false

namespace FailoverControl.Rpc

/-- The parts of an address; an authority or a target that is missing is empty. -/
structure Address where
  scheme : Option (List Char)
  authority : List Char
  /-- Path and query as they are written. -/
  target : List Char
deriving DecidableEq, Repr

/-! ## Characters -/

/-- Whether a character may stand in a scheme. -/
def isSchemeChar (c : Char) : Bool :=
  c.isAlphanum || ['+', '-', '.', '~'].contains c

/-- Whether a character without a meaning of its own may stand in an authority. -/
def isAuthorityChar (c : Char) : Bool :=
  c.isAlphanum ||
    ['!', '$', '&', '\'', '(', ')', '*', '+', ',', '-', '.', ';', '=', '_', '~'].contains c

/-- Whether a character ends an authority. -/
def endsAuthority (c : Char) : Bool :=
  ['/', '?', '#'].contains c

/-- Whether a character may stand in a path. -/
def isPathChar (c : Char) : Bool :=
  0x21 ≤ c.toNat && !(['#', '<', '>', '?', '\x60', '\x7f'].contains c)

/-- Whether a character may stand in a query. -/
def isQueryChar (c : Char) : Bool :=
  0x21 ≤ c.toNat && !(['"', '#', '<', '>', '\x7f'].contains c)

/-! ## Authorities -/

/-- What has been seen of an authority. -/
structure AuthorityScan where
  colons : Nat
  opened : Bool
  closed : Bool
  percent : Bool

namespace AuthorityScan

/-- Nothing has been seen. -/
def start : AuthorityScan := ⟨0, false, false, false⟩

/-- Sees one more character. User information and bracketed hosts may contain colons and percent
signs. -/
def step (scan : AuthorityScan) (c : Char) : Except AddressError AuthorityScan :=
  match c with
  | ':' => if 8 ≤ scan.colons then .error .invalidAuthority
    else .ok { scan with colons := scan.colons + 1 }
  | '[' => if scan.percent || scan.opened then .error .invalidAuthority
    else .ok { scan with opened := true }
  | ']' => if !scan.opened || scan.closed then .error .invalidAuthority
    else .ok { scan with closed := true, colons := 0, percent := false }
  | '@' => .ok { scan with colons := 0, percent := false }
  | '%' => .ok { scan with percent := true }
  | c => if isAuthorityChar c then .ok scan else .error .invalidCharacter

/-- Whether a whole authority is sound: brackets match, and the host is followed by at most one
colon and has no percent sign. -/
def isSound (scan : AuthorityScan) : Bool :=
  scan.opened == scan.closed && scan.colons ≤ 1 && !scan.percent

end AuthorityScan

/-- Checks an authority, which must not end in the sign behind user information. -/
def checkAuthority (authority : List Char) : Except AddressError Unit := do
  let scan ← authority.foldlM AuthorityScan.step AuthorityScan.start
  if scan.isSound && authority.getLast? != some '@' then return () else throw .invalidAuthority

/-! ## Whole addresses -/

/-- Reads a path with its query; what follows a number sign is ignored. -/
def readTarget (cs : List Char) : Except AddressError (List Char) :=
  let target := cs.takeWhile (· != '#')
  let (path, query) := target.span (· != '?')
  if path.all isPathChar && (query.drop 1).all isQueryChar then .ok target
  else .error .invalidCharacter

/-- The longest name of a scheme. -/
def maxSchemeLength : Nat := 64

/-- The longest address, in bytes. -/
def maxAddressLength : Nat := 65534

/-- Splits the scheme off an address that has one. -/
def splitScheme (cs : List Char) : Except AddressError (Option (List Char × List Char)) :=
  match cs.span isSchemeChar with
  | (scheme, ':' :: '/' :: '/' :: rest) =>
    if maxSchemeLength < scheme.length then .error .schemeTooLong
    else if scheme.isEmpty && rest.isEmpty then .ok none
    else .ok (some (scheme, rest))
  | _ => .ok none

namespace Address

/-- An address that is nothing but an authority. -/
def ofBareAuthority (cs : List Char) (otherwise : AddressError) : Except AddressError Address := do
  checkAuthority (cs.takeWhile (!endsAuthority ·))
  if cs.any endsAuthority then throw otherwise
  return ⟨none, cs, []⟩

/-- An address behind its scheme. -/
def ofSchemeAndRest (scheme rest : List Char) : Except AddressError Address := do
  if rest.isEmpty then throw .empty
  let (authority, behind) := rest.span (!endsAuthority ·)
  checkAuthority authority
  if authority.isEmpty then throw .invalidFormat
  return ⟨some scheme, authority, ← readTarget behind⟩

/-- The address that a text writes. -/
def parse (uri : String) : Except AddressError Address :=
  if maxAddressLength < uri.utf8ByteSize then .error .tooLong
  else
    match uri.toList with
    | [] => .error .empty
    | ['*'] => .ok ⟨none, [], ['*']⟩
    | '/' :: path => (readTarget ('/' :: path)).map (⟨none, [], ·⟩)
    | [c] => ofBareAuthority [c] .invalidCharacter
    | cs => do
      match ← splitScheme cs with
      | some (scheme, rest) => ofSchemeAndRest scheme rest
      | none => ofBareAuthority cs .invalidFormat

end Address

/-! ## Endpoints -/

/-- The opening request as far as an address settles it. -/
structure Opening where
  /-- What is asked for. -/
  target : String
  /-- The authority that is asked, without user information. -/
  host : String
deriving DecidableEq, Repr

/-- Where to connect to, and what to ask for there. -/
structure Endpoint where
  scheme : Option (List Char)
  host : String
  /-- The number of the TCP service. -/
  service : Nat
  opening : Opening
deriving DecidableEq, Repr

/-- The service number that an authority gives behind its last colon. -/
def explicitService? (authority : List Char) : Option Nat :=
  match authority.reverse.span (· != ':') with
  | (_, []) => none
  | (number, _ :: _) => (Decimal.readUnsigned 65535 number.reverse).toOption

/-- The host in an authority, without user information and service number. -/
def hostOf (authority : List Char) : List Char :=
  let host := (authority.reverse.takeWhile (· != '@')).reverse
  match host with
  | '[' :: rest => '[' :: rest.takeWhile (· != ']') ++ [']']
  | host => host.takeWhile (· != ':')

/-- The service number that a scheme implies. -/
def standardService? (scheme : Option (List Char)) : Option Nat :=
  if scheme = some ['w', 's'] then some 80
  else if scheme = some ['w', 's', 's'] then some 443
  else none

/-- The opening request for an address. Where the address has no target, the root is asked for. -/
def Opening.ofAddress (address : Address) : Opening where
  target := if address.target.isEmpty then "/" else String.ofList address.target
  host :=
    match address.authority.span (· != '@') with
    | (_, _ :: host) => String.ofList host
    | (host, []) => String.ofList host

namespace Endpoint

/-- Where to connect to for an address. -/
def ofAddress (address : Address) : Except EndpointError Endpoint :=
  if address.authority.isEmpty then .error .noHost
  else
    match explicitService? address.authority <|> standardService? address.scheme with
    | none => .error .unsupportedScheme
    | some service =>
      .ok ⟨address.scheme, String.ofList (hostOf address.authority), service, .ofAddress address⟩

/-- Where to connect to for the text of an address. -/
def parse (uri : String) : Except SocketError Endpoint := do
  let address ← (Address.parse uri).mapError SocketError.address
  (ofAddress address).mapError SocketError.endpoint

/-- Whether the handshake can be made once the connection stands: only plain websockets are
spoken. -/
def checkScheme (endpoint : Endpoint) : Except EndpointError Unit :=
  if endpoint.scheme = some ['w', 's'] then .ok ()
  else if endpoint.scheme = some ['w', 's', 's'] then .error .noEncryption
  else .error .unsupportedScheme

end Endpoint

end FailoverControl.Rpc
