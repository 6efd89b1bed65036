import SyncWatch.Proofs.Feed.Silence
import Mathlib.Data.List.DropRight

/-!
# What a session remembers

Each report of a worker changes some parts of its session and leaves the
others.  After any reports, in whatever order their times are, every part is a
function of the reports: most parts of those before the session was closed, and
the failures of those since the last message that came before it.
-/

namespace SyncWatch
namespace Feed

namespace SessionUpdate

/-- Whether a report is a message. -/
def isReceived : SessionUpdate → Bool
  | .received _ => true
  | _ => false

/-- Whether a report shows that the server answers. -/
def isAnswer : SessionUpdate → Bool
  | .opened _ | .received _ => true
  | _ => false

/-- The error of a failure. -/
def error? : SessionUpdate → Option String
  | .failed error => some error
  | _ => none

end SessionUpdate

/-- The reports before the first one that closes the session. -/
def beforeClose (reports : List SessionUpdate) : List SessionUpdate :=
  reports.takeWhile (· != .close)

/-- The reports from the first one on that closes the session. -/
def fromClose (reports : List SessionUpdate) : List SessionUpdate :=
  reports.dropWhile (· != .close)

/-- The times of the signs of life before the session was closed. -/
def signsBeforeClose (reports : List SessionUpdate) : List Instant :=
  (beforeClose reports).filterMap SessionUpdate.sign?

/-- How many messages came before the session was closed. -/
def messagesBeforeClose (reports : List SessionUpdate) : Nat :=
  (beforeClose reports).countP SessionUpdate.isReceived

/-- The reports since the last message that came before the session was closed. -/
def sinceMessage (reports : List SessionUpdate) : List SessionUpdate :=
  (beforeClose reports).rtakeWhile (fun report => !report.isReceived) ++ fromClose reports

/-- The errors of the failures since the last message. -/
def errorsSinceMessage (reports : List SessionUpdate) : List String :=
  (sinceMessage reports).filterMap SessionUpdate.error?

/-- The status that reports leave: the last report decides about it, unless the
session was closed. -/
def statusAfter (reports : List SessionUpdate) : StreamStatus :=
  if .close ∈ reports then .off
  else if reports.getLast?.any SessionUpdate.isAnswer then .live
  else .connecting

section Splitting

variable {before reports : List SessionUpdate}

theorem ne_close_of_not_mem (unclosed : .close ∉ before) :
    ∀ report ∈ before, (report != .close) = true := by
  intro report member
  rw [bne_iff_ne]
  rintro rfl
  exact unclosed member

theorem beforeClose_of_not_mem (unclosed : .close ∉ reports) : beforeClose reports = reports :=
  List.takeWhile_eq_self_iff.mpr (ne_close_of_not_mem unclosed)

theorem fromClose_of_not_mem (unclosed : .close ∉ reports) : fromClose reports = [] :=
  List.dropWhile_eq_nil_iff.mpr (ne_close_of_not_mem unclosed)

theorem beforeClose_append
    (unclosed : .close ∉ before)
    (after : List SessionUpdate) :
    beforeClose (before ++ .close :: after) = before := by
  rw [beforeClose, List.takeWhile_append_of_pos (ne_close_of_not_mem unclosed)]
  simp

theorem fromClose_append
    (unclosed : .close ∉ before)
    (after : List SessionUpdate) :
    fromClose (before ++ .close :: after) = .close :: after := by
  rw [fromClose, List.dropWhile_append_of_pos (ne_close_of_not_mem unclosed)]
  simp

/-- One more report comes before the closing exactly when the session was not
closed and the report does not close it. -/
theorem beforeClose_concat (reports : List SessionUpdate) (report : SessionUpdate) :
    beforeClose (reports ++ [report]) =
      beforeClose reports ++ if .close ∈ reports ∨ report = .close then [] else [report] := by
  by_cases closed : .close ∈ reports
  · obtain ⟨before, after, rfl, unclosed⟩ := List.eq_append_cons_of_mem closed
    rw [if_pos (.inl closed), List.append_assoc, List.cons_append,
      beforeClose_append unclosed, beforeClose_append unclosed, List.append_nil]
  · by_cases closes : report = .close
    · rw [if_pos (.inr closes), closes, beforeClose_append closed,
        beforeClose_of_not_mem closed, List.append_nil]
    · have unclosed : .close ∉ reports ++ [report] := by simp [closed, Ne.symm closes]
      rw [if_neg (by simp [closed, closes]), beforeClose_of_not_mem unclosed,
        beforeClose_of_not_mem closed]

theorem signsBeforeClose_concat (reports : List SessionUpdate) (report : SessionUpdate) :
    signsBeforeClose (reports ++ [report]) =
      signsBeforeClose reports ++ if .close ∈ reports then [] else report.sign?.toList := by
  rw [signsBeforeClose, beforeClose_concat, List.filterMap_append, ← signsBeforeClose]
  by_cases closed : .close ∈ reports
  · simp [closed]
  · cases report <;> simp [closed, SessionUpdate.sign?]

theorem messagesBeforeClose_concat (reports : List SessionUpdate) (report : SessionUpdate) :
    messagesBeforeClose (reports ++ [report]) =
      messagesBeforeClose reports +
        if .close ∉ reports ∧ report.isReceived = true then 1 else 0 := by
  rw [messagesBeforeClose, beforeClose_concat, List.countP_append, ← messagesBeforeClose]
  by_cases closed : .close ∈ reports
  · simp [closed]
  · cases report <;> simp [closed, SessionUpdate.isReceived]

/-- Only a message that comes before the closing makes a new beginning. -/
theorem sinceMessage_concat (reports : List SessionUpdate) (report : SessionUpdate) :
    sinceMessage (reports ++ [report]) =
      if .close ∉ reports ∧ report.isReceived = true then []
      else sinceMessage reports ++ [report] := by
  by_cases closed : .close ∈ reports
  · obtain ⟨before, after, rfl, unclosed⟩ := List.eq_append_cons_of_mem closed
    rw [if_neg (fun new => new.1 closed), sinceMessage, sinceMessage, List.append_assoc,
      List.cons_append, beforeClose_append unclosed, beforeClose_append unclosed,
      fromClose_append unclosed, fromClose_append unclosed, List.append_assoc, List.cons_append]
  · rw [sinceMessage, sinceMessage, beforeClose_of_not_mem closed, fromClose_of_not_mem closed,
      List.append_nil]
    by_cases closes : report = .close
    · rw [closes, beforeClose_append closed, fromClose_append closed,
        if_neg (by simp [SessionUpdate.isReceived])]
    · have unclosed : .close ∉ reports ++ [report] := by simp [closed, Ne.symm closes]
      rw [beforeClose_of_not_mem unclosed, fromClose_of_not_mem unclosed, List.append_nil]
      by_cases received : report.isReceived = true
      · rw [if_pos ⟨closed, received⟩, List.rtakeWhile_concat_neg _ _ _ (by simp [received])]
      · rw [if_neg (fun new => received new.2),
          List.rtakeWhile_concat_pos _ _ _ (by simp [received])]

theorem errorsSinceMessage_concat (reports : List SessionUpdate) (report : SessionUpdate) :
    errorsSinceMessage (reports ++ [report]) =
      if .close ∉ reports ∧ report.isReceived = true then []
      else errorsSinceMessage reports ++ report.error?.toList := by
  rw [errorsSinceMessage, errorsSinceMessage, sinceMessage_concat]
  split
  · rfl
  · rw [List.filterMap_append]
    cases report <;> rfl

theorem statusAfter_concat (reports : List SessionUpdate) (report : SessionUpdate) :
    statusAfter (reports ++ [report]) =
      if .close ∈ reports ∨ report = .close then .off
      else if report.isAnswer then .live
      else .connecting := by
  simp [statusAfter, eq_comm (a := report)]

end Splitting

namespace StreamSession

/-- The session after some reports. -/
def run (session : StreamSession) (reports : List SessionUpdate) : StreamSession :=
  reports.foldl apply session

/-- What a report does to each part of a session. -/
theorem apply_eq (session : StreamSession) (report : SessionUpdate) :
    session.apply report =
      { session with
        status :=
          if session.isClosed ∨ report = .close then .off
          else if report.isAnswer then .live
          else .connecting
        lastActivity :=
          if session.isClosed then session.lastActivity
          else report.sign?.elim session.lastActivity (max session.lastActivity)
        messages :=
          if session.isClosed = false ∧ report.isReceived then
            min (session.messages + 1) mostMessages
          else session.messages
        backoff :=
          if session.isClosed = false ∧ report.isReceived then session.backoff.reset
          else if report.error?.isSome then session.backoff.next
          else session.backoff
        lastError :=
          if session.isClosed = false ∧ report.isReceived then none
          else report.error?.or session.lastError } := by
  cases closed : session.isClosed with
  | true =>
      have off : session.status = .off := by simpa [isClosed] using closed
      cases report <;>
        simp [apply, beginConnect, opened, received, failed, close, closed, ← off,
          SessionUpdate.error?]
  | false =>
      cases report <;>
        simp [apply, beginConnect, opened, received, failed, close, touch, closed,
          SessionUpdate.error?, SessionUpdate.sign?, SessionUpdate.isReceived,
          SessionUpdate.isAnswer]

/-- A session of a given beginning remembers some reports. -/
structure Remembers
    (session : StreamSession)
    (policy : BackoffPolicy)
    (created : Instant)
    (reports : List SessionUpdate) : Prop where
  policy : session.backoff.policy = policy
  lastActivity : (created :: signsBeforeClose reports).max? = some session.lastActivity
  messages : session.messages = min (messagesBeforeClose reports) mostMessages
  failures : session.failures = min (errorsSinceMessage reports).length Backoff.largestCount
  lastError : session.lastError = (errorsSinceMessage reports).getLast?
  status : session.status = statusAfter reports

namespace Remembers

variable
  {session : StreamSession}
  {policy : BackoffPolicy}
  {created : Instant}
  {reports : List SessionUpdate}

theorem new (feed : FeedKind) (url : String) (policy : BackoffPolicy) (created : Instant) :
    (StreamSession.new feed url policy created).Remembers policy created [] where
  policy := rfl
  lastActivity := rfl
  messages := rfl
  failures := rfl
  lastError := rfl
  status := rfl

theorem isClosed_iff (remembers : session.Remembers policy created reports) :
    session.isClosed = true ↔ .close ∈ reports := by
  rw [isClosed, decide_eq_true_iff, remembers.status, statusAfter]
  split
  next closed => simp [closed]
  next unclosed => split <;> simp [unclosed]

/-- A message makes a new beginning for a session that was not closed. -/
theorem renews_iff
    (remembers : session.Remembers policy created reports)
    (report : SessionUpdate) :
    session.isClosed = false ∧ report.isReceived = true ↔
      .close ∉ reports ∧ report.isReceived = true := by
  rw [← Bool.not_eq_true, remembers.isClosed_iff]

/-- A session remembers each report after those before it. -/
theorem apply
    (remembers : session.Remembers policy created reports)
    (report : SessionUpdate) :
    (session.apply report).Remembers policy created (reports ++ [report]) := by
  rw [apply_eq]
  simp only [remembers.renews_iff, remembers.isClosed_iff]
  refine ⟨?_, ?_, ?_, ?_, ?_, ?_⟩
  · dsimp only
    split
    · exact remembers.policy
    · split
      · exact remembers.policy
      · exact remembers.policy
  · rw [signsBeforeClose_concat, ← List.cons_append]
    dsimp only
    split
    · rw [List.append_nil]
      exact remembers.lastActivity
    · cases report.sign? with
      | none => simpa using remembers.lastActivity
      | some now => exact Stream.max?_concat remembers.lastActivity now
  · rw [messagesBeforeClose_concat, remembers.messages]
    dsimp only
    split
    · omega
    · rfl
  · have counted : session.backoff.failures = _ := remembers.failures
    rw [errorsSinceMessage_concat, StreamSession.failures]
    dsimp only
    split
    · rfl
    · cases report.error? with
      | none => simpa using counted
      | some error =>
          rw [List.length_append, Option.toList_some, List.length_singleton,
            if_pos Option.isSome_some]
          change min (session.backoff.failures + 1) Backoff.largestCount = _
          omega
  · rw [errorsSinceMessage_concat, remembers.lastError]
    dsimp only
    split
    · rfl
    · cases report.error? with
      | none => simp
      | some error => simp
  · rw [statusAfter_concat]

/-- A session remembers everything that is reported to it. -/
theorem run
    (remembers : session.Remembers policy created reports)
    (later : List SessionUpdate) :
    (session.run later).Remembers policy created (reports ++ later) := by
  induction later generalizing session reports with
  | nil => rwa [List.append_nil]
  | cons report rest inductionHypothesis =>
      rw [List.append_cons]
      exact inductionHypothesis (remembers.apply report)

end Remembers

/-- After any reports a new session shows as its last activity the latest of its
creation and the signs of life before the first closing.  It has counted the
messages before the closing, and the failures since the last of them, which set
the delay that the next failure is answered with and of which the last one gives
the last error.  It is off once it was closed, and otherwise live exactly when
the last report is an answer of the server. -/
theorem state_of_reports
    (feed : FeedKind)
    (url : String)
    (policy : BackoffPolicy)
    (created : Instant)
    (reports : List SessionUpdate) :
    let session := (StreamSession.new feed url policy created).run reports
    let errors := errorsSinceMessage reports
    some session.lastActivity = (created :: signsBeforeClose reports).max? ∧
      session.messages = min (messagesBeforeClose reports) mostMessages ∧
      session.failures = min errors.length Backoff.largestCount ∧
      (∀ error, session.answer (.failed error) =
        some (policy.delay (min errors.length Backoff.largestCount))) ∧
      session.lastError = errors.getLast? ∧
      session.status =
        if .close ∈ reports then .off
        else if reports.getLast?.any SessionUpdate.isAnswer then .live
        else .connecting := by
  intro session errors
  have remembers : session.Remembers policy created reports :=
    (Remembers.new feed url policy created).run reports
  refine ⟨remembers.lastActivity.symm, remembers.messages, remembers.failures, ?_,
    remembers.lastError, remembers.status⟩
  intro error
  have counted : session.backoff.failures = _ := remembers.failures
  rw [answer, retryDelay, Backoff.current, remembers.policy, counted]

end StreamSession
end Feed
end SyncWatch
