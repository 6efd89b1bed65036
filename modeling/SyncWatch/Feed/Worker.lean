import SyncWatch.Feed.Error
import SyncWatch.Feed.Event

/-!
# The worker of a connection

A worker tries to connect, hands on what comes, and after every failure waits
and tries again.  An attempt is everything that happens from one try to the
next, with the times at which it happens.
-/

namespace SyncWatch
namespace Feed

/-- A message with the time at which it came. -/
structure Delivery where
  message : SseMessage
  receivedAt : Instant
  deriving DecidableEq, Repr

/-- What a server sends once it has answered with success. -/
structure Broadcast where
  openedAt : Instant
  deliveries : List Delivery
  deriving DecidableEq, Repr

/-- One attempt to connect. -/
structure Attempt where
  /-- What the server sends, if it answers with success. -/
  broadcast : Option Broadcast := none
  /-- Why the connection failed or ended. -/
  error : StreamError
  /-- When the delay after the attempt is over. -/
  resumedAt : Instant
  deriving DecidableEq, Repr

namespace Attempt

/-- The messages of an attempt. -/
def messages (attempt : Attempt) : List SseMessage :=
  match attempt.broadcast with
  | some broadcast => broadcast.deliveries.map Delivery.message
  | none => []

/-- What the session learns before the attempt ends. -/
def reports (attempt : Attempt) : List SessionUpdate :=
  match attempt.broadcast with
  | some broadcast =>
    .opened broadcast.openedAt ::
      broadcast.deliveries.map fun delivery => .received delivery.receivedAt
  | none => []

/-- What is handed on before the attempt ends. -/
def arrivals (attempt : Attempt) : List StreamEventKind :=
  match attempt.broadcast with
  | some _ => .opened :: attempt.messages.map .message
  | none => []

/-- The session when the attempt ends. -/
def sessionAtEnd (attempt : Attempt) (session : StreamSession) : StreamSession :=
  attempt.reports.foldl StreamSession.apply session

/-- The session when the next attempt begins. -/
def sessionAfter (attempt : Attempt) (session : StreamSession) : StreamSession :=
  ((attempt.sessionAtEnd session).failed attempt.error.message).beginConnect attempt.resumedAt

/-- What is handed on during the attempt; its end is handed on last, with the
delay before the next attempt. -/
def events (attempt : Attempt) (session : StreamSession) : List StreamEventKind :=
  attempt.arrivals ++
    [.error attempt.error.message (attempt.sessionAtEnd session).retryDelay]

end Attempt

/-- A worker: the feed that it serves, and the number of its connection. -/
structure Worker where
  feed : FeedKind
  connection : UInt64
  deriving DecidableEq, Repr

namespace Worker

/-- An event of this worker. -/
def event (worker : Worker) (kind : StreamEventKind) : StreamEvent where
  feed := worker.feed
  connection := worker.connection
  kind

/-- Everything that a worker hands on during some attempts. -/
def run (worker : Worker) : StreamSession → List Attempt → List StreamEvent
  | _, [] => []
  | session, attempt :: rest =>
    (attempt.events session).map worker.event ++ worker.run (attempt.sessionAfter session) rest

@[simp] theorem run_nil (worker : Worker) (session : StreamSession) :
    worker.run session [] = [] := rfl

@[simp] theorem run_cons
    (worker : Worker)
    (session : StreamSession)
    (attempt : Attempt)
    (rest : List Attempt) :
    worker.run session (attempt :: rest) =
      (attempt.events session).map worker.event ++
        worker.run (attempt.sessionAfter session) rest := rfl

end Worker
end Feed
end SyncWatch
