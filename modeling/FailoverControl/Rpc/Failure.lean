import FailoverControl.Duration
import FailoverControl.Host.IoError
import FailoverControl.Rpc.Fault

/-!
# Why a call over the connection fails

Either the websocket fails, a message is malformed, the daemon closes the connection, or it answers
with a fault. `Failure.message` is the wording and `Failure.sources` lists the wordings of the
causes below it, the nearest first. The failures of the websocket that have a constructor are those
that the handshake and the state of the connection settle; any other is told by its text. The
wording of a malformed message does not say where in the message the offence was found: a line and
a column that the program puts behind it are left out.
-/

set_option autoImplicit false

namespace FailoverControl.Rpc

open FailoverControl.Host (IoError)

/-- Why a text is no address of a websocket. -/
inductive AddressError where
  | empty
  | tooLong
  | invalidFormat
  | invalidCharacter
  | schemeTooLong
  | invalidAuthority
deriving DecidableEq, Repr

/-- Why an address cannot be connected to. -/
inductive EndpointError where
  | noHost
  | emptyHost
  | unsupportedScheme
  | noEncryption
deriving DecidableEq, Repr

/-- How the two ends of a connection break the rules of the websocket protocol. -/
inductive ProtocolError where
  | sendAfterClosing
  | resetWithoutClosing
  | handshakeIncomplete
  | wrongHttpVersion
  | malformedHttp (detail : String)
  | missingUpgradeHeader
  | missingConnectionHeader
  | acceptKeyMismatch
  /-- Any other rule, with the wording of the breach. -/
  | other (text : String)
deriving DecidableEq, Repr

/-- A failure of the websocket. -/
inductive SocketError where
  | io (cause : IoError)
  | protocol (cause : ProtocolError)
  | alreadyClosed
  | address (cause : AddressError)
  | endpoint (cause : EndpointError)
  | httpStatus (status : String)
  /-- Any other failure, with its wording and those of its causes. -/
  | other (text : String) (causes : List String)
deriving DecidableEq, Repr

/-- A failure of a call or of connecting. -/
inductive Failure where
  | connectTimeout (uri : String) (timeout : Duration)
  | socket (cause : SocketError)
  | malformed (cause : Json.DecodeError)
  | closed
  | fault (fault : Fault)
deriving DecidableEq, Repr

/-- The wording of a malformed address. -/
def AddressError.message : AddressError → String
  | .empty => "empty string"
  | .tooLong => "uri too long"
  | .invalidFormat => "invalid format"
  | .invalidCharacter => "invalid uri character"
  | .schemeTooLong => "scheme too long"
  | .invalidAuthority => "invalid authority"

/-- The wording of an address that cannot be connected to. -/
def EndpointError.message : EndpointError → String
  | .noHost => "No host name in the URL"
  | .emptyHost => "URL contains empty host name"
  | .unsupportedScheme => "URL scheme not supported"
  | .noEncryption => "TLS support not compiled in"

/-- The wording of a broken rule. -/
def ProtocolError.message : ProtocolError → String
  | .sendAfterClosing => "Sending after closing is not allowed"
  | .resetWithoutClosing => "Connection reset without closing handshake"
  | .handshakeIncomplete => "Handshake not finished"
  | .wrongHttpVersion => "HTTP version must be 1.1 or higher"
  | .malformedHttp detail => "httparse error: " ++ detail
  | .missingUpgradeHeader => "No \"Upgrade: websocket\" header"
  | .missingConnectionHeader => "No \"Connection: upgrade\" header"
  | .acceptKeyMismatch => "Key mismatch in \"Sec-WebSocket-Accept\" header"
  | .other text => text

/-- The wording of a failure of the websocket. -/
def SocketError.message : SocketError → String
  | .io cause => "IO error: " ++ cause.message
  | .protocol cause => "WebSocket protocol error: " ++ cause.message
  | .alreadyClosed => "Trying to work with closed connection"
  | .address cause => "HTTP format error: " ++ cause.message
  | .endpoint cause => "URL error: " ++ cause.message
  | .httpStatus status => "HTTP error: " ++ status
  | .other text _ => text

/-- The wordings of the causes of a failure of the websocket. -/
def SocketError.sources : SocketError → List String
  | .io cause => [cause.message]
  | .protocol cause => [cause.message]
  | .address cause => [cause.message]
  | .endpoint cause => [cause.message]
  | .alreadyClosed => []
  | .httpStatus _ => []
  | .other _ causes => causes

/-- The wording of a failure. Of a malformed message it tells the offence and not the place. -/
def Failure.message : Failure → String
  | .connectTimeout uri timeout => "connecting to " ++ uri ++ " timed out after " ++ timeout.text
  | .socket cause => cause.message
  | .malformed cause => "malformed message: " ++ cause.message
  | .closed => "connection closed by the server"
  | .fault f => f.reason

/-- The wordings of the causes of a failure. -/
def Failure.sources : Failure → List String
  | .connectTimeout _ _ => []
  | .socket cause => cause.sources
  | .malformed cause => [cause.message]
  | .closed => []
  | .fault _ => []

end FailoverControl.Rpc
