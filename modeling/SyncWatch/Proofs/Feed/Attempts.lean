import SyncWatch.Feed.Worker
import SyncWatch.Proofs.Backoff
import SyncWatch.Proofs.Feed.Consistency
import Mathlib.Data.Nat.Find

/-!
# The attempts of a worker

A worker hands on what each attempt brings, and then its end with a delay.  The
delay depends on how many attempts have failed since the last one with a
message; an answer of the server without a message does not set it back.
-/

namespace SyncWatch
namespace Feed

/-- Whether an attempt brings a message. -/
def Attempt.delivers (attempt : Attempt) : Bool :=
  !attempt.messages.isEmpty

/-- The last attempt up to the one at an index that brings a message, and the
first attempt if none does. -/
def lastDelivery (attempts : List Attempt) (index : Nat) : Nat :=
  Nat.findGreatest (fun earlier => attempts[earlier]?.any Attempt.delivers = true) index

/-- How many attempts before the one at an index have failed since the last
attempt with a message began. -/
def failuresBefore (attempts : List Attempt) : Nat → Nat
  | 0 => 0
  | index + 1 => index + 1 - lastDelivery attempts index

/-- An attempt with a message forgets the failures before it. -/
theorem lastDelivery_eq_self
    {attempts : List Attempt}
    {index : Nat}
    {attempt : Attempt}
    (present : attempts[index]? = some attempt)
    (delivers : attempt.delivers = true) :
    lastDelivery attempts index = index := by
  apply Nat.findGreatest_eq
  simp [present, delivers]

/-- Without a message the failures before an attempt are those since the same
last delivery. -/
theorem failuresBefore_eq
    {attempts : List Attempt}
    {index : Nat}
    {attempt : Attempt}
    (present : attempts[index]? = some attempt)
    (silent : attempt.delivers = false) :
    failuresBefore attempts index = index - lastDelivery attempts index := by
  cases index with
  | zero => exact (Nat.zero_sub _).symm
  | succ index =>
      rw [failuresBefore, lastDelivery, lastDelivery, Nat.findGreatest_of_not]
      simp [present, silent]

/-- The failures that count when an attempt ends. -/
theorem failures_eq
    {attempts : List Attempt}
    {index : Nat}
    {attempt : Attempt}
    (present : attempts[index]? = some attempt) :
    (if attempt.delivers then 0 else failuresBefore attempts index) =
      index - lastDelivery attempts index := by
  cases delivers : attempt.delivers with
  | true => rw [lastDelivery_eq_self present delivers, if_pos rfl, Nat.sub_self]
  | false => exact failuresBefore_eq present delivers

/-- The end of an attempt is one more failure. -/
theorem failuresBefore_succ (attempts : List Attempt) (index : Nat) :
    failuresBefore attempts (index + 1) = index - lastDelivery attempts index + 1 := by
  have earlier : lastDelivery attempts index ≤ index := Nat.findGreatest_le index
  rw [failuresBefore, Nat.sub_add_comm earlier]

namespace StreamSession

/-- A running session follows a policy and has failed some times in a row, as
far as failures are counted. -/
structure Retries (session : StreamSession) (policy : BackoffPolicy) (count : Nat) : Prop where
  running : session.status ≠ .off
  policy : session.backoff.policy = policy
  failures : session.backoff.failures = min count Backoff.largestCount

namespace Retries

variable {session : StreamSession} {policy : BackoffPolicy} {count : Nat}

theorem new (feed : FeedKind) (url : String) (policy : BackoffPolicy) (now : Instant) :
    (StreamSession.new feed url policy now).Retries policy 0 where
  running := by simp [StreamSession.new]
  policy := rfl
  failures := rfl

/-- The largest count that is kept stands for every larger one. -/
theorem retryDelay (retries : session.Retries policy count) :
    session.retryDelay = policy.delay count := by
  rw [StreamSession.retryDelay, Backoff.current, retries.policy, retries.failures,
    policy.delay_min_largestCount]

theorem isClosed (retries : session.Retries policy count) : session.isClosed = false := by
  simpa [StreamSession.isClosed] using retries.running

/-- An answer of the server does not set the delays back. -/
theorem opened (retries : session.Retries policy count) (now : Instant) :
    (session.apply (.opened now)).Retries policy count := by
  have alive : SessionUpdate.opened now ≠ .close := by simp
  refine ⟨status_apply_ne_off retries.running alive, ?_, ?_⟩
  · rw [apply, StreamSession.opened, retries.isClosed]
    exact retries.policy
  · rw [apply, StreamSession.opened, retries.isClosed]
    exact retries.failures

/-- A message sets the delays back. -/
theorem received (retries : session.Retries policy count) (now : Instant) :
    (session.apply (.received now)).Retries policy 0 := by
  have alive : SessionUpdate.received now ≠ .close := by simp
  refine ⟨status_apply_ne_off retries.running alive, ?_, ?_⟩
  · rw [apply, StreamSession.received, retries.isClosed]
    exact retries.policy
  · rw [apply, StreamSession.received, retries.isClosed]
    rfl

/-- One message sets the delays back as well as many. -/
theorem deliveries
    (retries : session.Retries policy count)
    (deliveries : List Delivery) :
    ((deliveries.map fun delivery => SessionUpdate.received delivery.receivedAt).foldl
        StreamSession.apply session).Retries policy (if deliveries.isEmpty then count else 0) := by
  induction deliveries generalizing session count with
  | nil => exact retries
  | cons first rest inductionHypothesis =>
      have forgotten := inductionHypothesis (retries.received first.receivedAt)
      rw [ite_self] at forgotten
      exact forgotten

/-- What an attempt reports before it ends. -/
theorem sessionAtEnd
    (retries : session.Retries policy count)
    (attempt : Attempt) :
    (attempt.sessionAtEnd session).Retries policy (if attempt.delivers then 0 else count) := by
  cases answer : attempt.broadcast with
  | none => simpa [Attempt.sessionAtEnd, Attempt.reports, Attempt.delivers, Attempt.messages,
      answer] using retries
  | some broadcast =>
      have ended := (retries.opened broadcast.openedAt).deliveries broadcast.deliveries
      have same : (if attempt.delivers then 0 else count) =
          if broadcast.deliveries.isEmpty then count else 0 := by
        cases empty : broadcast.deliveries.isEmpty <;>
          simp [Attempt.delivers, Attempt.messages, answer, empty]
      rw [same, Attempt.sessionAtEnd, Attempt.reports, answer]
      exact ended

/-- The end of an attempt is one more failure, and beginning to connect again
is none. -/
theorem sessionAfter
    (retries : session.Retries policy count)
    (attempt : Attempt) :
    (attempt.sessionAfter session).Retries policy
      ((if attempt.delivers then 0 else count) + 1) := by
  have ended := retries.sessionAtEnd attempt
  have failed : ((attempt.sessionAtEnd session).failed attempt.error.message).Retries policy
      ((if attempt.delivers then 0 else count) + 1) := by
    refine ⟨?_, ended.policy, ?_⟩
    · simp [StreamSession.failed, ended.isClosed]
    · simp only [StreamSession.failed, Backoff.next, ended.failures]
      omega
  have alive : SessionUpdate.beginConnect attempt.resumedAt ≠ .close := by simp
  refine ⟨status_apply_ne_off failed.running alive, ?_, ?_⟩
  · rw [Attempt.sessionAfter, beginConnect, failed.isClosed]
    exact failed.policy
  · rw [Attempt.sessionAfter, beginConnect, failed.isClosed]
    exact failed.failures

end Retries
end StreamSession

namespace Worker

/-- What the attempt at an index hands on: its opening and its messages, if it
opened, and then its end with the delay after as many failures as attempts
followed the last delivery. -/
def eventsAt (policy : BackoffPolicy) (attempts : List Attempt) (attempt : Attempt)
    (index : Nat) : List StreamEventKind :=
  (match attempt.broadcast with
    | some broadcast =>
      .opened :: broadcast.deliveries.map fun delivery => .message delivery.message
    | none => []) ++
    [.error attempt.error.message (policy.delay (index - lastDelivery attempts index))]

/-- An attempt waits as long as the failures since the last delivery ask for. -/
theorem events_eq
    {session : StreamSession}
    {policy : BackoffPolicy}
    {attempts : List Attempt}
    {attempt : Attempt}
    {index : Nat}
    (present : attempts[index]? = some attempt)
    (retries : session.Retries policy (failuresBefore attempts index)) :
    attempt.events session = eventsAt policy attempts attempt index := by
  rw [Attempt.events, (retries.sessionAtEnd attempt).retryDelay, failures_eq present,
    eventsAt, Attempt.arrivals]
  cases answer : attempt.broadcast with
  | none => rfl
  | some broadcast => simp [Attempt.messages, answer]

/-- A worker that goes on after some attempts waits as if it had made all. -/
theorem run_eq
    (worker : Worker)
    {session : StreamSession}
    {policy : BackoffPolicy}
    {attempts past rest : List Attempt}
    (whole : past ++ rest = attempts)
    (retries : session.Retries policy (failuresBefore attempts past.length)) :
    worker.run session rest =
      ((rest.zipIdx past.length).flatMap fun entry =>
        eventsAt policy attempts entry.1 entry.2).map worker.event := by
  induction rest generalizing session past with
  | nil => rfl
  | cons attempt rest inductionHypothesis =>
      have present : attempts[past.length]? = some attempt := by simp [← whole]
      have next : (attempt.sessionAfter session).Retries policy
          (failuresBefore attempts (past ++ [attempt]).length) := by
        rw [List.length_append, List.length_singleton, failuresBefore_succ,
          ← failures_eq present]
        exact retries.sessionAfter attempt
      have wholeNext : (past ++ [attempt]) ++ rest = attempts := by
        rw [← whole, List.append_assoc, List.singleton_append]
      rw [run_cons, events_eq present retries, inductionHypothesis wholeNext next,
        List.zipIdx_cons, List.flatMap_cons, List.map_append, List.length_append,
        List.length_singleton]

/-- A worker of a new session hands on, for each attempt in order, its opening
and exactly its messages if it opened, and then its end, all with its own feed
and number.  The delay that its end announces is that after as many failures as
there were since the last attempt with a message, whether the attempts in
between opened or not. -/
theorem run_of_new_session
    (worker : Worker)
    (feed : FeedKind)
    (url : String)
    (policy : BackoffPolicy)
    (now : Instant)
    (attempts : List Attempt) :
    worker.run (StreamSession.new feed url policy now) attempts =
      attempts.zipIdx.flatMap fun (attempt, index) =>
        (eventsAt policy attempts attempt index).map fun kind =>
          ⟨worker.feed, worker.connection, kind⟩ := by
  have retries := StreamSession.Retries.new feed url policy now
  rw [worker.run_eq (show [] ++ attempts = attempts from rfl) retries, List.map_flatMap]
  rfl

end Worker
end Feed
end SyncWatch
