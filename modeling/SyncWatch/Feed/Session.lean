import SyncWatch.Backoff
import SyncWatch.Word

/-!
# The state of one feed across its connections

A session does no input or output.  The worker that holds the connection
reports what happens, always with the time, and the display reads it.
-/

namespace SyncWatch
namespace Feed

/-- The two feeds of the server. -/
inductive FeedKind where
  /-- The log, line by line. -/
  | verbose
  /-- Events and snapshots of the run. -/
  | summary
  deriving DecidableEq, Repr

namespace FeedKind

/-- The name of a feed. -/
def label : FeedKind → String
  | .verbose => "verbose"
  | .summary => "summary"

/-- The feed that is not this one. -/
def other : FeedKind → FeedKind
  | .verbose => .summary
  | .summary => .verbose

@[simp] theorem other_other (feed : FeedKind) : feed.other.other = feed := by
  cases feed <;> rfl

end FeedKind

/-- What a session is doing. -/
inductive StreamStatus where
  /-- It connects, or it waits to connect again. -/
  | connecting
  /-- The server has answered, and messages may come. -/
  | live
  /-- It was closed, and nothing connects again. -/
  | off
  deriving DecidableEq, Repr

/-- The name of a status. -/
def StreamStatus.label : StreamStatus → String
  | .connecting => "connecting"
  | .live => "live"
  | .off => "off"

/-- One feed from its opening to its closing. -/
structure StreamSession where
  feed : FeedKind
  url : String
  status : StreamStatus := .connecting
  /-- The last sign of life. -/
  lastActivity : Instant
  /-- How many messages came, counted up to a largest number. -/
  messages : Nat := 0
  backoff : Backoff
  lastError : Option String := none
  deriving DecidableEq, Repr

namespace StreamSession

/-- The number at which messages are no longer counted. -/
def mostMessages : Nat := Word.largest 64

/-- A session that begins to connect; its creation is a sign of life. -/
def new (feed : FeedKind) (url : String) (policy : BackoffPolicy) (now : Instant) :
    StreamSession where
  feed
  url
  lastActivity := now
  backoff := { policy }

/-- Whether the session was closed. -/
def isClosed (session : StreamSession) : Bool :=
  session.status = .off

/-- How often connecting failed since the last message. -/
def failures (session : StreamSession) : Nat :=
  session.backoff.failures

/-- The delay after the next failure. -/
def retryDelay (session : StreamSession) : Duration :=
  session.backoff.current

/-- A sign of life that changes the status. -/
def touch (session : StreamSession) (status : StreamStatus) (now : Instant) : StreamSession :=
  { session with status, lastActivity := max session.lastActivity now }

/-- Connecting begins; the delays stay as they are. -/
def beginConnect (session : StreamSession) (now : Instant) : StreamSession :=
  if session.isClosed then session else session.touch .connecting now

/-- The server has answered. -/
def opened (session : StreamSession) (now : Instant) : StreamSession :=
  if session.isClosed then session else session.touch .live now

/-- A message came; failures are forgotten. -/
def received (session : StreamSession) (now : Instant) : StreamSession :=
  if session.isClosed then
    session
  else
    { session.touch .live now with
      messages := min (session.messages + 1) mostMessages
      backoff := session.backoff.reset
      lastError := none }

/-- The connection failed or ended; the delay before the next attempt is the
retry delay of the session before this. -/
def failed (session : StreamSession) (error : String) : StreamSession :=
  { session with
    status := if session.isClosed then .off else .connecting
    lastError := some error
    backoff := session.backoff.next }

/-- The session is over. -/
def close (session : StreamSession) : StreamSession :=
  { session with status := .off }

end StreamSession

/-- What a worker reports to its session. -/
inductive SessionUpdate where
  | beginConnect (now : Instant)
  | opened (now : Instant)
  | received (now : Instant)
  | failed (error : String)
  | close
  deriving DecidableEq, Repr

/-- The session after a report. -/
def StreamSession.apply (session : StreamSession) : SessionUpdate → StreamSession
  | .beginConnect now => session.beginConnect now
  | .opened now => session.opened now
  | .received now => session.received now
  | .failed error => session.failed error
  | .close => session.close

/-- What a report is answered with: a failure with the delay before the next attempt. -/
def StreamSession.answer (session : StreamSession) : SessionUpdate → Option Duration
  | .failed _ => some session.retryDelay
  | _ => none

end Feed
end SyncWatch
