import SyncWatch.Proofs.Feed.Run
import Mathlib.Data.List.Nodup
import Mathlib.Data.List.Range

/-!
# The connections of a feed

The history of a feed tells in order which workers were started, with their
numbers, and when the feed was closed.  The current connection of the feed is
the last entry of its history, and workers are numbered from one.
-/

namespace SyncWatch
namespace Feed

/-- What became of the connection of a feed. -/
inductive ConnectionChange where
  /-- A worker was started with a number. -/
  | started (connection : UInt64)
  /-- The feed was closed. -/
  | ended
  deriving DecidableEq, Repr

namespace ConnectionChange

/-- The number of the worker that was started. -/
def number? : ConnectionChange → Option UInt64
  | .started connection => some connection
  | .ended => none

/-- The numbers of all workers that were started, in their order. -/
def numbers (history : List ConnectionChange) : List UInt64 :=
  history.filterMap number?

/-- The number of the last worker, unless the feed was closed since. -/
def current? (history : List ConnectionChange) : Option UInt64 :=
  history.getLast?.bind number?

@[simp] theorem numbers_append_started
    (history : List ConnectionChange)
    (connection : UInt64) :
    numbers (history ++ [.started connection]) = numbers history ++ [connection] := by
  simp [numbers, number?]

@[simp] theorem numbers_append_ended (history : List ConnectionChange) :
    numbers (history ++ [.ended]) = numbers history := by
  simp [numbers, number?]

@[simp] theorem current?_append_started
    (history : List ConnectionChange)
    (connection : UInt64) :
    current? (history ++ [.started connection]) = some connection := by
  simp [current?, number?]

@[simp] theorem current?_append_ended (history : List ConnectionChange) :
    current? (history ++ [.ended]) = none := by
  simp [current?, number?]

/-- A worker is the current one exactly when its start is the last thing that
happened to the connection of the feed. -/
theorem current?_eq_some_iff
    (history : List ConnectionChange)
    (connection : UInt64) :
    current? history = some connection ↔ history.getLast? = some (.started connection) := by
  rw [current?, Option.bind_eq_some_iff]
  constructor
  · rintro ⟨change, last, number⟩
    cases change with
    | started other =>
        rw [last, ← Option.some.inj number]
    | ended => exact absurd number (by simp [number?])
  · intro last
    exact ⟨.started connection, last, rfl⟩

end ConnectionChange

open ConnectionChange

namespace Stream

/-- What a move does to the connection of a feed. -/
def changes (stream : Stream) : Move → List ConnectionChange
  | .stay | .report _ _ => []
  | .openAt url now => [.started (stream.openAt url now).connection]
  | .close => [.ended]
  | .reconnect now =>
    if stream.isActive then [.started (stream.forceReconnect now).connection] else []
  | .check now visible =>
    if stream.isStale now visible then [.started (stream.tick now visible).connection] else []

/-- A stream agrees with the history of its connection: the current connection
is the last entry, and the workers were numbered one after the other. -/
structure Tracks (stream : Stream) (history : List ConnectionChange) : Prop where
  current : stream.connectionId = current? history
  counter : stream.connection = UInt64.ofNat (numbers history).length
  numbered : numbers history =
    (List.range (numbers history).length).map fun index => UInt64.ofNat (index + 1)

namespace Tracks

variable {stream next : Stream} {history : List ConnectionChange}

/-- A stream that was never opened agrees with the empty history. -/
theorem new (feed : FeedKind) (options : StreamOptions) :
    (Stream.new feed options).Tracks [] where
  current := rfl
  counter := rfl
  numbered := rfl

/-- The history says nothing about changes that keep the connection. -/
theorem keep
    (tracks : stream.Tracks history)
    (current : next.connectionId = stream.connectionId)
    (counter : next.connection = stream.connection) :
    next.Tracks history where
  current := current.trans tracks.current
  counter := counter.trans tracks.counter
  numbered := tracks.numbered

/-- A new worker takes the next number. -/
theorem start
    (tracks : stream.Tracks history)
    (current : next.connectionId = some next.connection)
    (counter : next.connection = stream.connection + 1) :
    next.Tracks (history ++ [.started next.connection]) := by
  have number : next.connection = UInt64.ofNat ((numbers history).length + 1) := by
    rw [counter, tracks.counter, UInt64.ofNat_add]
    rfl
  refine ⟨?_, ?_, ?_⟩
  · rw [current, current?_append_started]
  · rw [numbers_append_started, List.length_append, number]
    rfl
  · rw [numbers_append_started, List.length_append, List.length_singleton,
      List.range_succ, List.map_append, ← tracks.numbered, number]
    rfl

/-- Closing a feed starts no worker. -/
theorem finish
    (tracks : stream.Tracks history)
    (current : next.connectionId = none)
    (counter : next.connection = stream.connection) :
    next.Tracks (history ++ [.ended]) where
  current := by rw [current, current?_append_ended]
  counter := by rw [numbers_append_ended, counter, tracks.counter]
  numbered := by rw [numbers_append_ended, ← tracks.numbered]

/-- Connecting an open feed again starts a worker. -/
theorem forceReconnect
    (tracks : stream.Tracks history)
    (active : stream.isActive = true)
    (now : Instant) :
    (stream.forceReconnect now).Tracks
      (history ++ [.started (stream.forceReconnect now).connection]) := by
  apply tracks.start
  · rw [connectionId_forceReconnect active, connection_forceReconnect active]
  · exact connection_forceReconnect active now

/-- Every move keeps the agreement of a stream with its history. -/
theorem move
    (tracks : stream.Tracks history)
    (move : Move) :
    (stream.move move).Tracks (history ++ stream.changes move) := by
  cases move with
  | stay => simpa [Stream.move, changes] using tracks
  | openAt url now => exact tracks.start rfl rfl
  | close => exact tracks.finish rfl rfl
  | reconnect now =>
      by_cases active : stream.isActive = true
      · simp only [Stream.move, changes, active, if_true]
        exact tracks.forceReconnect active now
      · rw [Bool.not_eq_true] at active
        simp only [Stream.move, changes, active, Bool.false_eq_true, if_false,
          List.append_nil]
        rw [forceReconnect_of_inactive active]
        exact tracks
  | check now visible =>
      by_cases stale : stream.isStale now visible = true
      · simp only [Stream.move, changes, stale, if_true]
        rw [tick_eq, if_pos stale]
        -- Noting the time of the check does not touch the connection.
        have active : stream.isActive = true := isActive_of_isStale stale
        have noted : Tracks
            { stream with watchdog := { stream.watchdog with lastForced := some now } }
            history := tracks.keep rfl rfl
        exact noted.forceReconnect active now
      · simp only [Stream.move, changes, stale, Bool.false_eq_true, if_false,
          List.append_nil]
        rw [tick_eq, if_neg stale]
        exact tracks
  | report update alive =>
      simp only [Stream.move, changes, List.append_nil]
      exact tracks.keep rfl rfl

/-- As long as the counter has not come round, no two workers have one number. -/
theorem nodup
    (tracks : stream.Tracks history)
    (few : (numbers history).length < Word.size 64) :
    (numbers history).Nodup := by
  rw [tracks.numbered]
  apply List.Nodup.map_on _ List.nodup_range
  intro first firstMem second secondMem equal
  rw [List.mem_range] at firstMem secondMem
  change (numbers history).length < 2 ^ 64 at few
  have values := congrArg UInt64.toNat equal
  rw [UInt64.toNat_ofNat', UInt64.toNat_ofNat'] at values
  omega

end Tracks
end Stream

namespace Coordinator

/-- What happens to the connection of a feed during some steps. -/
def history (feed : FeedKind) : Coordinator → List Step → List ConnectionChange
  | _, [] => []
  | coordinator, step :: rest =>
    (coordinator.stream feed).changes (coordinator.moveOf feed step) ++
      (coordinator.step step).history feed rest

/-- A run keeps the agreement of each feed with the history of its connection. -/
theorem tracks_run
    (coordinator : Coordinator)
    (feed : FeedKind)
    (steps : List Step)
    {before : List ConnectionChange}
    (tracks : (coordinator.stream feed).Tracks before) :
    ((coordinator.run steps).stream feed).Tracks
      (before ++ coordinator.history feed steps) := by
  induction steps generalizing coordinator before with
  | nil => simpa [history] using tracks
  | cons step rest inductionHypothesis =>
      rw [run_cons, history, ← List.append_assoc]
      apply inductionHypothesis
      rw [stream_step]
      exact tracks.move _

/-- From the beginning each feed agrees with the history of its connection. -/
theorem tracks_history
    (endpoints : FeedEndpoints)
    (options : StreamOptions)
    (debug detailsOpen : Bool)
    (feed : FeedKind)
    (steps : List Step) :
    (((unstarted endpoints options debug detailsOpen).run steps).stream feed).Tracks
      ((unstarted endpoints options debug detailsOpen).history feed steps) := by
  have start : ((unstarted endpoints options debug detailsOpen).stream feed).Tracks [] := by
    cases feed
    · exact Stream.Tracks.new .verbose options
    · exact Stream.Tracks.new .summary options
  exact tracks_run _ feed steps start

end Coordinator
end Feed
end SyncWatch
