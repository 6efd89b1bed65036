import SyncWatch.Feed.Session

/-!
# What comes from a connection

Every event carries the number of the connection it comes from, so that events
of a connection that was replaced can be told from those of the current one.
-/

namespace SyncWatch
namespace Feed

/-- One message of a feed. -/
structure SseMessage where
  /-- The name of the message, `message` when the server gave none. -/
  event : String
  data : String
  deriving DecidableEq, Repr

/-- What happened on a connection. -/
inductive StreamEventKind where
  /-- The server has answered and will send its history again. -/
  | opened
  | message (message : SseMessage)
  /-- The connection failed, and the next attempt follows after a delay. -/
  | error (message : String) (retryIn : Duration)
  deriving DecidableEq, Repr

/-- An event with the feed and the connection it comes from. -/
structure StreamEvent where
  feed : FeedKind
  connection : UInt64
  kind : StreamEventKind
  deriving DecidableEq, Repr

end Feed
end SyncWatch
