import SyncWatch.Feed.Session
import SyncWatch.Feed.Watchdog

/-!
# A feed that heals itself

An open stream has a session, a watch over its silence and a worker that holds
the connection.  Each worker gets a new connection number, and only events with
the number of the current worker count.
-/

namespace SyncWatch
namespace Feed

/-- How the feeds connect. -/
structure StreamOptions where
  backoff : BackoffPolicy
  /-- The longest silence that is not stale. -/
  staleness : Duration
  /-- How long an answer is waited for. -/
  connectTimeout : Duration
  deriving DecidableEq, Repr

/-- One feed, open or closed. -/
structure Stream where
  feed : FeedKind
  options : StreamOptions
  session : Option StreamSession := none
  /-- Whether a worker holds a connection or waits to connect. -/
  working : Bool := false
  watchdog : StalenessWatchdog
  /-- How many workers were started, modulo the size of the counter. -/
  connection : UInt64 := 0
  deriving DecidableEq, Repr

namespace Stream

/-- A closed feed. -/
def new (feed : FeedKind) (options : StreamOptions) : Stream where
  feed
  options
  watchdog := { threshold := options.staleness }

/-- Whether the feed is open. -/
def isActive (stream : Stream) : Bool :=
  stream.session.isSome

/-- What the feed is doing. -/
def status (stream : Stream) : StreamStatus :=
  match stream.session with
  | some session => session.status
  | none => .off

/-- The number of the current connection. -/
def connectionId (stream : Stream) : Option UInt64 :=
  if stream.working then some stream.connection else none

/-- Start a worker with a new number. -/
def startWorker (stream : Stream) : Stream :=
  { stream with working := true, connection := stream.connection + 1 }

/-- Close the feed; a closed feed stays as it is. -/
def close (stream : Stream) : Stream :=
  { stream with session := none, working := false, watchdog := stream.watchdog.disarm }

/-- Open the feed at an address, in place of what it did before. -/
def openAt (stream : Stream) (url : String) (now : Instant) : Stream :=
  let closed := stream.close
  startWorker
    { closed with
      session := some (StreamSession.new stream.feed url stream.options.backoff now)
      watchdog := closed.watchdog.arm }

/-- Connect an open feed again at once. -/
def forceReconnect (stream : Stream) (now : Instant) : Stream :=
  match stream.session with
  | some session => startWorker { stream with session := some (session.beginConnect now) }
  | none => stream

/-- Whether the silence of the feed is stale. -/
def isStale (stream : Stream) (now : Instant) (visible : Bool) : Bool :=
  match stream.session with
  | some session => stream.watchdog.isDue now session.lastActivity visible
  | none => false

/-- Connect again if the silence of the feed is stale. -/
def tick (stream : Stream) (now : Instant) (visible : Bool) : Stream :=
  match stream.session with
  | some session =>
    let checked :=
      { stream with watchdog := stream.watchdog.check now session.lastActivity visible }
    if stream.isStale now visible then checked.forceReconnect now else checked
  | none => stream

/-- Take over a report of the worker. -/
def report (stream : Stream) (update : SessionUpdate) : Stream :=
  { stream with session := stream.session.map fun session => session.apply update }

/-- A check either finds the silence stale, notes the time and connects again,
or it changes nothing. -/
theorem tick_eq
    (stream : Stream)
    (now : Instant)
    (visible : Bool) :
    stream.tick now visible =
      if stream.isStale now visible then
        forceReconnect
          { stream with watchdog := { stream.watchdog with lastForced := some now } } now
      else
        stream := by
  cases present : stream.session with
  | none => simp [tick, isStale, present]
  | some session =>
      by_cases due : stream.watchdog.isDue now session.lastActivity visible = true
      · simp [tick, isStale, StalenessWatchdog.check, present, due]
      · simp only [tick, isStale, StalenessWatchdog.check, present, due, if_false,
          Bool.false_eq_true]
        rw [← present]

/-- A closed feed has nothing to connect again. -/
theorem forceReconnect_of_inactive
    {stream : Stream}
    (inactive : stream.isActive = false)
    (now : Instant) :
    stream.forceReconnect now = stream := by
  cases present : stream.session with
  | none => simp [forceReconnect, present]
  | some session => simp [isActive, present] at inactive

/-- Connecting an open feed again starts a worker with the next number. -/
theorem connection_forceReconnect
    {stream : Stream}
    (active : stream.isActive = true)
    (now : Instant) :
    (stream.forceReconnect now).connection = stream.connection + 1 := by
  obtain ⟨session, present⟩ := Option.isSome_iff_exists.mp active
  rw [forceReconnect, present]
  rfl

theorem connectionId_forceReconnect
    {stream : Stream}
    (active : stream.isActive = true)
    (now : Instant) :
    (stream.forceReconnect now).connectionId = some (stream.connection + 1) := by
  obtain ⟨session, present⟩ := Option.isSome_iff_exists.mp active
  rw [forceReconnect, present]
  rfl

@[simp] theorem isActive_close (stream : Stream) : stream.close.isActive = false := rfl

@[simp] theorem isActive_openAt (stream : Stream) (url : String) (now : Instant) :
    (stream.openAt url now).isActive = true := rfl

@[simp] theorem isActive_forceReconnect (stream : Stream) (now : Instant) :
    (stream.forceReconnect now).isActive = stream.isActive := by
  cases present : stream.session <;> simp [forceReconnect, isActive, startWorker, present]

@[simp] theorem isActive_tick (stream : Stream) (now : Instant) (visible : Bool) :
    (stream.tick now visible).isActive = stream.isActive := by
  rw [tick_eq]
  split
  · rw [isActive_forceReconnect]
    rfl
  · rfl

@[simp] theorem isActive_report (stream : Stream) (update : SessionUpdate) :
    (stream.report update).isActive = stream.isActive := by
  simp [report, isActive]

/-- Only the silence of an open feed is stale. -/
theorem isActive_of_isStale
    {stream : Stream}
    {now : Instant}
    {visible : Bool}
    (stale : stream.isStale now visible = true) :
    stream.isActive = true := by
  cases present : stream.session with
  | none => simp [isStale, present] at stale
  | some session => simp [isActive, present]

end Stream
end Feed
end SyncWatch
