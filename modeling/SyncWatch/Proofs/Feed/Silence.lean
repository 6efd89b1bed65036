import SyncWatch.Proofs.Feed.Consistency
import SyncWatch.Settings.Feeds

/-!
# The silence of a feed

Two times decide whether the silence of a feed is stale: the last activity of
its session, and the moment at which the watch last asked for a new connection.
The second never exceeds the first, whatever order the times come in, so a
check depends on the latest sign of life of the session alone.  A periodic
check and a change of focus are one move.
-/

namespace SyncWatch
namespace Feed

/-- The time of a report, if it is a sign of life. -/
def SessionUpdate.sign? : SessionUpdate → Option Instant
  | .beginConnect now | .opened now | .received now => some now
  | .failed _ | .close => none

namespace Move

/-- Whether the session of a feed outlives a move. -/
def KeepsSession : Move → Prop
  | .openAt _ _ | .close => False
  | _ => True

/-- The time of a move that may connect an open feed again. -/
def reconnectAt? : Move → Option Instant
  | .reconnect now | .check now _ => some now
  | _ => none

end Move

namespace StreamSession

/-- A report of the worker of a running session counts with its time, and it
never sets the last activity back. -/
theorem lastActivity_apply
    {session : StreamSession}
    (running : session.status ≠ .off)
    (update : SessionUpdate) :
    (session.apply update).lastActivity =
      update.sign?.elim session.lastActivity (max session.lastActivity) := by
  have notClosed : session.isClosed = false := by simpa [isClosed] using running
  cases update with
  | beginConnect now => simp [apply, beginConnect, notClosed, touch, SessionUpdate.sign?]
  | opened now => simp [apply, opened, notClosed, touch, SessionUpdate.sign?]
  | received now => simp [apply, received, notClosed, touch, SessionUpdate.sign?]
  | failed error => rfl
  | close => rfl

/-- What a session has counted so far, and its last error. -/
def tally (session : StreamSession) : Nat × Nat × Option String :=
  (session.failures, session.messages, session.lastError)

/-- Beginning to connect counts nothing and forgets nothing. -/
@[simp] theorem tally_beginConnect (session : StreamSession) (now : Instant) :
    (session.beginConnect now).tally = session.tally := by
  rw [beginConnect]
  split <;> rfl

end StreamSession

namespace Stream

/-- The feed after some moves. -/
def run (stream : Stream) (moves : List Move) : Stream :=
  moves.foldl move stream

/-- Whether a move starts a worker, which has a number of its own. -/
def Starts (stream : Stream) (move : Move) : Prop :=
  (stream.move move).connection ≠ stream.connection

instance (stream : Stream) (move : Move) : Decidable (stream.Starts move) :=
  inferInstanceAs (Decidable (_ ≠ _))

/-- The signs of life of the current session after a move: its creation, the
reports of its workers and the times at which it was connected again. -/
def signsAfter (stream : Stream) (signs : List Instant) (move : Move) : List Instant :=
  match move with
  | .stay => signs
  | .openAt _ now => [now]
  | .close => []
  | .reconnect now | .check now _ => if stream.Starts move then signs ++ [now] else signs
  | .report update _ => if stream.isActive then signs ++ update.sign?.toList else signs

/-- The signs of life of the current session after some moves. -/
def signs (stream : Stream) (before : List Instant) : List Move → List Instant
  | [] => before
  | move :: rest => (stream.move move).signs (stream.signsAfter before move) rest

/-- A feed that is connected again has a new number. -/
theorem connection_forceReconnect_ne
    {stream : Stream}
    (active : stream.isActive = true)
    (now : Instant) :
    (stream.forceReconnect now).connection ≠ stream.connection := by
  rw [connection_forceReconnect active, ne_eq, UInt64.add_eq_left]
  decide

theorem starts_reconnect_iff (stream : Stream) (now : Instant) :
    stream.Starts (.reconnect now) ↔ stream.isActive = true := by
  constructor
  · intro starts
    by_contra inactive
    rw [Bool.not_eq_true] at inactive
    exact starts (congrArg connection (forceReconnect_of_inactive inactive now))
  · intro active
    exact connection_forceReconnect_ne active now

/-- A check starts a worker exactly when it finds the silence stale. -/
theorem starts_check_iff (stream : Stream) (now : Instant) (visible : Bool) :
    stream.Starts (.check now visible) ↔ stream.isStale now visible = true := by
  rw [Starts, move, tick_eq]
  by_cases stale : stream.isStale now visible = true
  · rw [if_pos stale]
    have active : stream.isActive = true := isActive_of_isStale stale
    refine iff_of_true ?_ stale
    -- Noting the time of the check does not touch the connection.
    let noted := { stream with watchdog := { stream.watchdog with lastForced := some now } }
    exact connection_forceReconnect_ne (show noted.isActive = true from active) now
  · rw [if_neg stale]
    exact iff_of_false (not_not_intro rfl) stale

/-- A feed and the signs of life of its session agree: the last activity is the
latest of them, and no new connection was asked for after it. -/
structure Heard (stream : Stream) (threshold : Duration) (signs : List Instant) : Prop where
  threshold : stream.watchdog.threshold = threshold
  armed : stream.watchdog.armed = stream.isActive
  running : ∀ session, stream.session = some session → session.status ≠ .off
  latest : signs.max? = stream.session.map StreamSession.lastActivity
  forced : ∀ session forced, stream.session = some session →
    stream.watchdog.lastForced = some forced → forced ≤ session.lastActivity

/-- The latest time of a list after one more time. -/
theorem max?_concat {times : List Instant} {latest : Instant}
    (maximum : times.max? = some latest)
    (now : Instant) :
    (times ++ [now]).max? = some (max latest now) := by
  rw [List.max?_eq_some_iff] at maximum ⊢
  obtain ⟨member, bound⟩ := maximum
  refine ⟨?_, ?_⟩
  · rcases Nat.le_total latest now with earlier | later
    · simp [Nat.max_eq_right earlier]
    · simp [Nat.max_eq_left later, member]
  · intro time timeMem
    rcases List.mem_append.mp timeMem with former | new
    · exact Nat.le_trans (bound time former) (Nat.le_max_left _ _)
    · rw [List.mem_singleton.mp new]
      exact Nat.le_max_right _ _

namespace Heard

variable {stream : Stream} {threshold : Duration} {signs : List Instant}

/-- Nothing was heard of a feed without a session. -/
theorem of_closed
    (kept : stream.watchdog.threshold = threshold)
    (unarmed : stream.watchdog.armed = false)
    (closed : stream.session = none) :
    stream.Heard threshold [] where
  threshold := kept
  armed := by rw [unarmed, isActive, closed]; rfl
  running := by
    intro session present
    rw [closed] at present
    cases present
  latest := by rw [closed]; rfl
  forced := by
    intro session forced present
    rw [closed] at present
    cases present

/-- The creation of a session is its first sign of life. -/
theorem openAt
    (heard : stream.Heard threshold signs)
    (url : String)
    (now : Instant) :
    (stream.openAt url now).Heard threshold [now] where
  threshold := heard.threshold
  armed := rfl
  running := by
    intro session present
    rw [← Option.some.inj present]
    simp [StreamSession.new]
  latest := rfl
  forced := by
    intro session forced _ asked
    cases asked

/-- A report of the worker adds its time to the signs.  The watch may note that
it asks for a new connection when connecting begins at the noted time. -/
theorem updated
    {next : Stream}
    {session : StreamSession}
    {update : SessionUpdate}
    (heard : stream.Heard threshold signs)
    (present : stream.session = some session)
    (alive : update ≠ .close)
    (reported : next.session = some (session.apply update))
    (kept : next.watchdog.threshold = stream.watchdog.threshold)
    (armed : next.watchdog.armed = stream.watchdog.armed)
    (asked : ∀ forced, next.watchdog.lastForced = some forced →
      stream.watchdog.lastForced = some forced ∨ update.sign? = some forced) :
    next.Heard threshold (signs ++ update.sign?.toList) := by
  have running := heard.running session present
  have latest : signs.max? = some session.lastActivity := by rw [heard.latest, present]; rfl
  have activity := StreamSession.lastActivity_apply running update
  refine ⟨kept.trans heard.threshold, ?_, ?_, ?_, ?_⟩
  · rw [armed, heard.armed, isActive, isActive, present, reported]
    rfl
  · intro current currentPresent
    rw [reported] at currentPresent
    rw [← Option.some.inj currentPresent]
    exact StreamSession.status_apply_ne_off running alive
  · rw [reported, Option.map_some, activity]
    cases update.sign? with
    | none => rw [Option.toList_none, List.append_nil, latest]; rfl
    | some now => exact max?_concat latest now
  · intro current forced currentPresent noted
    rw [reported] at currentPresent
    rw [← Option.some.inj currentPresent, activity]
    rcases asked forced noted with former | sign
    · have early : forced ≤ session.lastActivity := heard.forced session forced present former
      cases update.sign? with
      | none => exact early
      | some now => exact Nat.le_trans early (Nat.le_max_left _ _)
    · rw [sign]
      exact Nat.le_max_right _ _

theorem report
    (heard : stream.Heard threshold signs)
    {update : SessionUpdate}
    (alive : update ≠ .close)
    (active : stream.isActive = true) :
    (stream.report update).Heard threshold (signs ++ update.sign?.toList) := by
  obtain ⟨session, present⟩ := Option.isSome_iff_exists.mp active
  apply heard.updated present alive
  · rw [Stream.report, present]
    rfl
  · rfl
  · rfl
  · exact fun forced noted => .inl noted

theorem forceReconnect
    (heard : stream.Heard threshold signs)
    (active : stream.isActive = true)
    (now : Instant) :
    (stream.forceReconnect now).Heard threshold (signs ++ [now]) := by
  obtain ⟨session, present⟩ := Option.isSome_iff_exists.mp active
  have alive : SessionUpdate.beginConnect now ≠ .close := by simp
  rw [Stream.forceReconnect, present]
  apply heard.updated present alive
  · rfl
  · rfl
  · rfl
  · exact fun forced noted => .inl noted

/-- A check that finds the silence stale connects again at the time that the
watch notes. -/
theorem tick_of_isStale
    (heard : stream.Heard threshold signs)
    {now : Instant}
    {visible : Bool}
    (stale : stream.isStale now visible = true) :
    (stream.tick now visible).Heard threshold (signs ++ [now]) := by
  obtain ⟨session, present⟩ := Option.isSome_iff_exists.mp (isActive_of_isStale stale)
  have alive : SessionUpdate.beginConnect now ≠ .close := by simp
  rw [tick_eq, if_pos stale]
  simp only [Stream.forceReconnect, present]
  apply heard.updated present alive
  · rfl
  · rfl
  · rfl
  · exact fun forced noted => .inr noted

/-- Every move keeps the agreement of a feed with the signs of life. -/
theorem move
    (heard : stream.Heard threshold signs)
    (move : Move) :
    (stream.move move).Heard threshold (stream.signsAfter signs move) := by
  cases move with
  | stay => exact heard
  | openAt url now => exact heard.openAt url now
  | close => exact of_closed heard.threshold rfl rfl
  | reconnect now =>
      rw [signsAfter]
      by_cases active : stream.isActive = true
      · rw [if_pos ((stream.starts_reconnect_iff now).mpr active)]
        exact heard.forceReconnect active now
      · rw [if_neg fun starts => active ((stream.starts_reconnect_iff now).mp starts)]
        rw [Bool.not_eq_true] at active
        rw [Stream.move, forceReconnect_of_inactive active]
        exact heard
  | check now visible =>
      rw [signsAfter]
      by_cases stale : stream.isStale now visible = true
      · rw [if_pos ((stream.starts_check_iff now visible).mpr stale)]
        exact heard.tick_of_isStale stale
      · rw [if_neg fun starts => stale ((stream.starts_check_iff now visible).mp starts)]
        rw [Stream.move, tick_eq, if_neg stale]
        exact heard
  | report update alive =>
      rw [signsAfter]
      by_cases active : stream.isActive = true
      · rw [if_pos active]
        exact heard.report alive active
      · rw [if_neg active]
        rw [isActive, Option.isSome_iff_ne_none, not_not] at active
        have same : stream.report update = stream := by
          rw [Stream.report, active, Option.map_none, ← active]
        rw [Stream.move, same]
        exact heard

theorem run
    (heard : stream.Heard threshold signs)
    (moves : List Move) :
    (stream.run moves).Heard threshold (stream.signs signs moves) := by
  induction moves generalizing stream signs with
  | nil => exact heard
  | cons move rest inductionHypothesis => exact inductionHypothesis (heard.move move)

/-- Silence is stale exactly when the latest sign of life is too long ago. -/
theorem isStale_iff
    (heard : stream.Heard threshold signs)
    (now : Instant)
    (visible : Bool) :
    stream.isStale now visible = true ↔
      stream.isActive = true ∧ visible = true ∧
        ∃ latest, signs.max? = some latest ∧ latest + threshold.nanos < now := by
  cases present : stream.session with
  | none => simp [isStale, isActive, present]
  | some session =>
      have active : stream.isActive = true := by simp [isActive, present]
      have lastSign : stream.watchdog.lastSign session.lastActivity = session.lastActivity := by
        cases asked : stream.watchdog.lastForced with
        | none => simp [StalenessWatchdog.lastSign, asked]
        | some forced =>
            simp only [StalenessWatchdog.lastSign, asked]
            exact Nat.max_eq_right (heard.forced session forced present asked)
      have latest : signs.max? = some session.lastActivity := by
        rw [heard.latest, present]
        rfl
      simp only [isStale, present, StalenessWatchdog.isDue, heard.armed, heard.threshold,
        active, lastSign, latest, Bool.true_and, Bool.and_eq_true, decide_eq_true_eq, true_and,
        Option.some.injEq, exists_eq_left', Nat.lt_sub_iff_add_lt']

end Heard

/-- A move that keeps the session keeps its signs of life. -/
theorem mem_signsAfter
    {stream : Stream}
    {signs : List Instant}
    {sign : Instant}
    (member : sign ∈ signs)
    {move : Move}
    (keeps : move.KeepsSession) :
    sign ∈ stream.signsAfter signs move := by
  cases move with
  | stay => exact member
  | openAt url now => exact keeps.elim
  | close => exact keeps.elim
  | reconnect now | check now visible | report update alive =>
      -- Each of these leaves the signs as they are or adds one.
      rw [signsAfter]
      split
      · exact List.mem_append_left _ member
      · exact member

theorem mem_signs
    {stream : Stream}
    {signs : List Instant}
    {sign : Instant}
    (member : sign ∈ signs)
    {moves : List Move}
    (keep : ∀ move ∈ moves, move.KeepsSession) :
    sign ∈ stream.signs signs moves := by
  induction moves generalizing stream signs with
  | nil => exact member
  | cons move rest inductionHypothesis =>
      rw [List.forall_mem_cons] at keep
      exact inductionHypothesis (mem_signsAfter member keep.1) keep.2

/-- Connecting again counts nothing and forgets nothing, whether it was asked
for or the silence was stale. -/
theorem tally_reconnect
    (stream : Stream)
    {move : Move}
    {time : Instant}
    (reconnects : move.reconnectAt? = some time) :
    (stream.move move).session.map StreamSession.tally =
      stream.session.map StreamSession.tally := by
  have forced (stream : Stream) (now : Instant) :
      (stream.forceReconnect now).session.map StreamSession.tally =
        stream.session.map StreamSession.tally := by
    cases present : stream.session with
    | none => simp [forceReconnect, present]
    | some session => simp [forceReconnect, present, startWorker]
  cases move with
  | reconnect now => exact forced stream now
  | check now visible =>
      rw [Stream.move, tick_eq]
      split
      · exact forced _ now
      · rfl
  | stay | openAt url now | close | report update alive => cases reconnects

/-- The sign of life that a new connection is. -/
theorem mem_signsAfter_of_starts
    {stream : Stream}
    {move : Move}
    {time : Instant}
    (reconnects : move.reconnectAt? = some time)
    (starts : stream.Starts move)
    (signs : List Instant) :
    time ∈ stream.signsAfter signs move := by
  cases move with
  | reconnect now | check now visible =>
      rw [signsAfter, if_pos starts, ← Option.some.inj reconnects]
      exact List.mem_append_right _ (List.mem_singleton.mpr rfl)
  | stay | openAt url now | close | report update alive => cases reconnects

/-- After every run a check connects a feed again exactly when the feed is open
and looked at and the latest sign of life of its session is more than the
threshold ago.  So the session is left alone up to the threshold after each new
connection, whoever asked for it, and a new connection changes neither what the
session has counted nor its last error. -/
theorem reconnects_after_silence
    (feed : FeedKind)
    (options : StreamOptions)
    (moves : List Move) :
    let stream := (Stream.new feed options).run moves
    let signs := (Stream.new feed options).signs [] moves
    (∀ now visible,
      stream.Starts (.check now visible) ↔
        stream.isActive = true ∧ visible = true ∧
          ∃ latest, signs.max? = some latest ∧ latest + options.staleness.nanos < now) ∧
      ∀ move time, move.reconnectAt? = some time →
        (stream.move move).session.map StreamSession.tally =
            stream.session.map StreamSession.tally ∧
          (stream.Starts move → ∀ later, (∀ next ∈ later, next.KeepsSession) →
            ∀ now visible, now ≤ time + options.staleness.nanos →
              ¬((stream.move move).run later).Starts (.check now visible)) := by
  intro stream signs
  have heard : stream.Heard options.staleness signs := (Heard.of_closed rfl rfl rfl).run moves
  refine ⟨?_, ?_⟩
  · intro now visible
    rw [starts_check_iff]
    exact heard.isStale_iff now visible
  · intro move time reconnects
    refine ⟨stream.tally_reconnect reconnects, ?_⟩
    intro starts later keep now visible early restarts
    have heardLater := (heard.move move).run later
    rw [starts_check_iff, heardLater.isStale_iff] at restarts
    obtain ⟨-, -, latest, maximum, silent⟩ := restarts
    have member : time ∈ (stream.move move).signs (stream.signsAfter signs move) later :=
      mem_signs (mem_signsAfter_of_starts reconnects starts signs) keep
    have bound : time ≤ latest := (List.max?_eq_some_iff.mp maximum).2 time member
    exact Nat.not_lt.mpr (Nat.le_trans early (Nat.add_le_add_right bound _)) silent

/-- A feed with a message at the fifth second and a reconnect that was asked for
at the third is stale after the twenty-fifth.  The check that connects it then
is not repeated for twenty seconds, although connecting fails. -/
theorem reconnects_after_twenty_seconds :
    let second := Duration.secondNanos
    let stream := (Stream.new .summary ({} : Settings).streamOptions).run
      [.openAt "http://host/" 0, .report (.received (5 * second)) (by simp),
        .reconnect (3 * second)]
    let late := Move.check (25 * second + 1) true
    ¬stream.Starts (.check (25 * second) true) ∧
      stream.Starts late ∧
      ¬((stream.move late).run [.report (.failed "refused") (by simp)]).Starts
        (.check (45 * second) true) := by
  intro second stream late
  obtain ⟨checks, forced⟩ := reconnects_after_silence .summary ({} : Settings).streamOptions
    [.openAt "http://host/" 0, .report (.received (5 * second)) (by simp),
      .reconnect (3 * second)]
  have starts : stream.Starts late :=
    (checks (25 * second + 1) true).mpr ⟨rfl, rfl, 5 * second, by decide, by decide⟩
  refine ⟨?_, starts, ?_⟩
  · intro early
    obtain ⟨-, -, latest, maximum, silent⟩ := (checks (25 * second) true).mp early
    have five : latest = 5 * second := Option.some.inj (maximum.symm.trans (by decide))
    rw [five] at silent
    exact absurd silent (by decide)
  · apply (forced late (25 * second + 1) rfl).2 starts
    · simp [Move.KeepsSession]
    · decide

end Stream
end Feed
end SyncWatch
