import SyncWatch.Address.Basic
import SyncWatch.Feed.Framing
import SyncWatch.Feed.Stream
import SyncWatch.Feed.Worker

/-!
# What a server replies

An attempt follows from the reply to a request: the address has to be one that
can be asked, the answer has to be a success, and its body is read as messages
until it ends or cannot be read.
-/

namespace SyncWatch
namespace Feed

/-- The body of an answer. -/
structure ReplyBody where
  bytes : List UInt8
  /-- Whether the connection broke before the body ended. -/
  broken : Bool := false
  deriving DecidableEq, Repr

/-- What comes of a request. -/
inductive Reply where
  /-- The connection failed before there was an answer. -/
  | refused
  /-- There was no answer in the time for it. -/
  | silent
  | answered (status : Nat) (body : ReplyBody)
  deriving DecidableEq, Repr

/-- The address of a feed in its usual text, if it can be asked. -/
def endpoint (url : String) : Except StreamError String :=
  match Address.parse? url with
  | none => .error (.invalidEndpoint "" "builder error")
  | some address =>
    if address.isReachable then .ok address.text
    else
      .error (.invalidEndpoint address.text ("builder error for url (" ++ address.text ++ ")"))

namespace ReplyBody

/-- The messages of a body. -/
def messages (body : ReplyBody) : List SseMessage :=
  Framing.messages (Text.decodeUtf8 body.bytes).1

/-- Why the body ended.  Bytes that are no text count only when the body is
complete. -/
def ending (body : ReplyBody) : StreamError :=
  if body.broken then .body "error decoding response body"
  else
    match (Text.decodeUtf8 body.bytes).2 with
    | some fault => .decode ("UTF8 error: " ++ fault.message)
    | none => .closed

end ReplyBody

namespace Attempt

/-- The attempt at an address that a reply makes, if everything happens at one
time. -/
def ofReply (options : StreamOptions) (now : Instant) (url : String) (reply : Reply) : Attempt :=
  match endpoint url, reply with
  | .error error, _ => { error, resumedAt := now }
  | .ok address, .refused =>
    { error := .connect ("error sending request for url (" ++ address ++ ")"), resumedAt := now }
  | .ok _, .silent => { error := .timeout options.connectTimeout.seconds, resumedAt := now }
  | .ok _, .answered status body =>
    if 200 ≤ status ∧ status < 300 then
      { broadcast := some
          { openedAt := now
            deliveries := body.messages.map fun message => { message, receivedAt := now } }
        error := body.ending
        resumedAt := now }
    else
      { error := .status status, resumedAt := now }

end Attempt

/-- The worker of an open feed. -/
def Stream.worker? (stream : Stream) : Option Worker :=
  stream.connectionId.map fun connection => { feed := stream.feed, connection }

end Feed
end SyncWatch
