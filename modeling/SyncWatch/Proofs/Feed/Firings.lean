import SyncWatch.Feed.Watchdog
import Mathlib.Data.List.DropRight

/-!
# When a watch fires

A watch keeps one moment, that of its last firing.  What it answers to any
calls, in whatever order their times are, follows from the calls and its former
answers: it fires when it was armed last and neither the activity nor its own
last firing since then is recent.  So its firings between two armings keep
their distance, whatever activity it is told.
-/

namespace SyncWatch
namespace Feed

/-- What can be asked of a watch. -/
inductive WatchCall where
  | arm
  | disarm
  /-- A periodic check. -/
  | check (now lastActivity : Instant) (visible : Bool)
  /-- A change of visibility, which checks at once when the terminal is looked at. -/
  | visibility (visible : Bool) (now lastActivity : Instant)
  deriving DecidableEq, Repr

namespace WatchCall

/-- Whether a call begins or ends the watching. -/
def isSwitch : WatchCall → Bool
  | .arm | .disarm => true
  | .check _ _ _ | .visibility _ _ _ => false

/-- The time of a call that looks for silence, and the last activity that it is
told; a call while nobody looks does not look for silence. -/
def look? : WatchCall → Option (Instant × Instant)
  | .arm | .disarm => none
  | .check now lastActivity visible | .visibility visible now lastActivity =>
    if visible then some (now, lastActivity) else none

/-- The last of some calls that began or ended the watching. -/
def lastSwitch? (calls : List WatchCall) : Option WatchCall :=
  (calls.filter isSwitch).getLast?

theorem lastSwitch?_concat (calls : List WatchCall) (call : WatchCall) :
    lastSwitch? (calls ++ [call]) = if call.isSwitch then some call else lastSwitch? calls := by
  rw [lastSwitch?, List.filter_append]
  cases switch : call.isSwitch <;> simp [switch, lastSwitch?]

end WatchCall

/-- Calls in their order, each with whether the watch fired. -/
abbrev WatchLog := List (WatchCall × Bool)

namespace WatchLog

/-- The times of the firings. -/
def firings (past : WatchLog) : List Instant :=
  past.filterMap fun entry => if entry.2 then entry.1.look?.map Prod.fst else none

/-- The calls since the watch was armed last. -/
def sinceArmed (past : WatchLog) : WatchLog :=
  past.rtakeWhile fun entry => entry.1 != .arm

/-- The time of the last firing since the watch was armed last. -/
def lastFiring? (past : WatchLog) : Option Instant :=
  past.sinceArmed.firings.getLast?

theorem firings_append (past later : WatchLog) :
    firings (past ++ later) = past.firings ++ later.firings :=
  List.filterMap_append

theorem sinceArmed_concat_arm (past : WatchLog) (fired : Bool) :
    sinceArmed (past ++ [(.arm, fired)]) = [] :=
  List.rtakeWhile_concat_neg _ _ _ (by simp)

/-- Calls that do not arm the watch come after those since it was armed. -/
theorem sinceArmed_append
    {later : WatchLog}
    (unarmed : .arm ∉ later.map Prod.fst)
    (past : WatchLog) :
    sinceArmed (past ++ later) = past.sinceArmed ++ later := by
  induction later generalizing past with
  | nil => rw [List.append_nil, List.append_nil]
  | cons entry rest inductionHypothesis =>
      rw [List.map_cons, List.mem_cons, not_or] at unarmed
      have kept : sinceArmed (past ++ [entry]) = past.sinceArmed ++ [entry] :=
        List.rtakeWhile_concat_pos _ _ _ (by simpa using Ne.symm unarmed.1)
      rw [List.append_cons, inductionHypothesis unarmed.2, kept, List.append_assoc,
        List.singleton_append]

end WatchLog

namespace StalenessWatchdog

/-- Whether a call makes the watch ask for a new connection. -/
def fires (watchdog : StalenessWatchdog) : WatchCall → Bool
  | .arm | .disarm => false
  | .check now lastActivity visible => watchdog.isDue now lastActivity visible
  | .visibility visible now lastActivity => visible && watchdog.isDue now lastActivity true

/-- The watch after a call. -/
def call (watchdog : StalenessWatchdog) : WatchCall → StalenessWatchdog
  | .arm => watchdog.arm
  | .disarm => watchdog.disarm
  | .check now lastActivity visible => watchdog.check now lastActivity visible
  | .visibility visible now lastActivity =>
    if visible then watchdog.check now lastActivity true else watchdog

/-- The watch after some calls. -/
def run (watchdog : StalenessWatchdog) (calls : List WatchCall) : StalenessWatchdog :=
  calls.foldl call watchdog

/-- What the watch answers to some calls. -/
def log (watchdog : StalenessWatchdog) : List WatchCall → WatchLog
  | [] => []
  | call :: rest => (call, watchdog.fires call) :: (watchdog.call call).log rest

@[simp] theorem map_fst_log (watchdog : StalenessWatchdog) (calls : List WatchCall) :
    (watchdog.log calls).map Prod.fst = calls := by
  induction calls generalizing watchdog with
  | nil => rfl
  | cons call rest inductionHypothesis => rw [log, List.map_cons, inductionHypothesis]

theorem log_append (watchdog : StalenessWatchdog) (calls later : List WatchCall) :
    watchdog.log (calls ++ later) = watchdog.log calls ++ (watchdog.run calls).log later := by
  induction calls generalizing watchdog with
  | nil => rfl
  | cons call rest inductionHypothesis =>
      rw [List.cons_append, log, inductionHypothesis]
      rfl

/-- A watch fires at a look that finds it armed and the last sign of life too
long ago. -/
theorem fires_iff (watchdog : StalenessWatchdog) (call : WatchCall) :
    watchdog.fires call = true ↔
      ∃ now lastActivity, call.look? = some (now, lastActivity) ∧ watchdog.armed = true ∧
        watchdog.lastSign lastActivity + watchdog.threshold.nanos < now := by
  cases call with
  | arm | disarm => simp [fires, WatchCall.look?]
  | check now lastActivity visible | visibility visible now lastActivity =>
      cases visible with
      | false => simp [fires, isDue, WatchCall.look?]
      | true => simp [fires, isDue, WatchCall.look?, Nat.lt_sub_iff_add_lt']

/-- A watch that fires keeps the time of the call and nothing else. -/
theorem call_of_fires
    {watchdog : StalenessWatchdog}
    {call : WatchCall}
    {now lastActivity : Instant}
    (fires : watchdog.fires call = true)
    (look : call.look? = some (now, lastActivity)) :
    watchdog.call call = { watchdog with lastForced := some now } := by
  cases call with
  | arm | disarm => cases fires
  | check time activity visible | visibility visible time activity =>
      cases visible with
      | false => cases look
      | true =>
          obtain ⟨rfl, rfl⟩ := Prod.mk.inj (Option.some.inj look)
          have due : watchdog.isDue time activity true = true := fires
          simp [StalenessWatchdog.call, check, due]

/-- A look that does not make the watch fire leaves it as it is. -/
theorem call_of_not_fires
    {watchdog : StalenessWatchdog}
    {call : WatchCall}
    (looks : call.isSwitch = false)
    (quiet : watchdog.fires call = false) :
    watchdog.call call = watchdog := by
  cases call with
  | arm | disarm => cases looks
  | check now lastActivity visible =>
      have undue : watchdog.isDue now lastActivity visible = false := quiet
      simp [StalenessWatchdog.call, check, undue]
  | visibility visible now lastActivity =>
      cases visible with
      | false => rfl
      | true =>
          have undue : watchdog.isDue now lastActivity true = false := quiet
          simp [StalenessWatchdog.call, check, undue]

/-- A watch agrees with what it was asked and what it answered.  What it keeps
matters only while it is armed. -/
structure Recalls (watchdog : StalenessWatchdog) (threshold : Duration) (past : WatchLog) :
    Prop where
  patience : watchdog.threshold = threshold
  armed : watchdog.armed = true ↔ WatchCall.lastSwitch? (past.map Prod.fst) = some .arm
  forced : watchdog.armed = true → watchdog.lastForced = past.lastFiring?
  apart : past.sinceArmed.firings.Pairwise
    fun earlier later => earlier + threshold.nanos < later

namespace Recalls

variable {watchdog : StalenessWatchdog} {threshold : Duration} {past : WatchLog}

theorem new (threshold : Duration) : Recalls { threshold } threshold [] where
  patience := rfl
  armed := by simp [WatchCall.lastSwitch?]
  forced := nofun
  apart := .nil

/-- While the watch is armed the last sign of life is the activity that it is
told or its last firing. -/
theorem lastSign_add_lt_iff
    (recalls : watchdog.Recalls threshold past)
    (armed : watchdog.armed = true)
    (now lastActivity : Instant) :
    watchdog.lastSign lastActivity + threshold.nanos < now ↔
      lastActivity + threshold.nanos < now ∧
        ∀ firing ∈ past.lastFiring?, firing + threshold.nanos < now := by
  rw [lastSign, recalls.forced armed]
  cases past.lastFiring? with
  | none => simp
  | some firing =>
      simp only [Option.mem_some_iff, forall_eq']
      rw [← Nat.add_max_add_right, Nat.max_lt, and_comm]

/-- What makes a watch fire, told by the calls and the former answers. -/
theorem fires_iff
    (recalls : watchdog.Recalls threshold past)
    (call : WatchCall) :
    watchdog.fires call = true ↔
      ∃ now lastActivity, call.look? = some (now, lastActivity) ∧
        WatchCall.lastSwitch? (past.map Prod.fst) = some .arm ∧
        lastActivity + threshold.nanos < now ∧
        ∀ firing ∈ past.lastFiring?, firing + threshold.nanos < now := by
  rw [StalenessWatchdog.fires_iff, recalls.patience]
  constructor
  · rintro ⟨now, lastActivity, look, armed, silent⟩
    exact ⟨now, lastActivity, look, recalls.armed.mp armed,
      (recalls.lastSign_add_lt_iff armed now lastActivity).mp silent⟩
  · rintro ⟨now, lastActivity, look, switch, silent⟩
    have armed := recalls.armed.mpr switch
    exact ⟨now, lastActivity, look, armed,
      (recalls.lastSign_add_lt_iff armed now lastActivity).mpr silent⟩

/-- A firing comes more than the threshold after every former one. -/
theorem apart_concat
    (recalls : watchdog.Recalls threshold past)
    {now : Instant}
    (silent : ∀ firing ∈ past.lastFiring?, firing + threshold.nanos < now) :
    (past.sinceArmed.firings ++ [now]).Pairwise
      fun earlier later => earlier + threshold.nanos < later := by
  refine List.pairwise_append.mpr ⟨recalls.apart, List.pairwise_singleton _ _, ?_⟩
  intro earlier member later same
  rw [List.mem_singleton.mp same]
  rw [WatchLog.lastFiring?] at silent
  have apart := recalls.apart
  rcases List.eq_nil_or_concat' past.sinceArmed.firings with none | ⟨init, last, split⟩
  · rw [none] at member
    cases member
  · rw [split] at member silent apart
    have lastSilent : last + threshold.nanos < now := silent last (by simp)
    rcases List.mem_append.mp member with former | final
    · have distance := (List.pairwise_append.mp apart).2.2 earlier former last (by simp)
      calc
        earlier + threshold.nanos < last := distance
        _ ≤ last + threshold.nanos := Nat.le_add_right _ _
        _ < now := lastSilent
    · rw [List.mem_singleton.mp final]
      exact lastSilent

/-- Every call and its answer are recalled after those before them. -/
theorem call
    (recalls : watchdog.Recalls threshold past)
    (call : WatchCall) :
    (watchdog.call call).Recalls threshold (past ++ [(call, watchdog.fires call)]) := by
  have switch : WatchCall.lastSwitch? ((past ++ [(call, watchdog.fires call)]).map Prod.fst) =
      if call.isSwitch then some call else WatchCall.lastSwitch? (past.map Prod.fst) := by
    rw [List.map_append]
    exact WatchCall.lastSwitch?_concat _ call
  by_cases arms : call = .arm
  · subst arms
    refine ⟨recalls.patience, ?_, ?_, ?_⟩
    · rw [switch]
      exact iff_of_true rfl rfl
    · intro armed
      rw [WatchLog.lastFiring?, WatchLog.sinceArmed_concat_arm]
      rfl
    · rw [WatchLog.sinceArmed_concat_arm]
      exact .nil
  have since : WatchLog.sinceArmed (past ++ [(call, watchdog.fires call)]) =
      past.sinceArmed ++ [(call, watchdog.fires call)] :=
    WatchLog.sinceArmed_append (by simpa using Ne.symm arms) past
  cases fired : watchdog.fires call with
  | true =>
      obtain ⟨now, lastActivity, look, armed, -, silent⟩ := (recalls.fires_iff call).mp fired
      have looks : call.isSwitch = false := by
        cases call with
        | arm | disarm => cases look
        | check time activity visible | visibility visible time activity => rfl
      have own : WatchLog.firings [(call, true)] = [now] := by
        simp [WatchLog.firings, look]
      rw [fired] at switch since
      rw [call_of_fires fired look]
      refine ⟨recalls.patience, ?_, ?_, ?_⟩
      · rw [switch, looks]
        exact recalls.armed
      · intro _
        rw [WatchLog.lastFiring?, since, WatchLog.firings_append, own, List.getLast?_concat]
      · rw [since, WatchLog.firings_append, own]
        exact recalls.apart_concat silent
  | false =>
      have own : WatchLog.firings [(call, false)] = [] := rfl
      rw [fired] at switch since
      have firings : (WatchLog.sinceArmed (past ++ [(call, false)])).firings =
          past.sinceArmed.firings := by
        rw [since, WatchLog.firings_append, own, List.append_nil]
      cases looks : call.isSwitch with
      | true =>
          obtain rfl : call = .disarm := by
            cases call with
            | arm => exact absurd rfl arms
            | disarm => rfl
            | check now lastActivity visible | visibility visible now lastActivity => cases looks
          refine ⟨recalls.patience, ?_, nofun, ?_⟩
          · rw [switch]
            exact iff_of_false nofun nofun
          · rw [firings]
            exact recalls.apart
      | false =>
          rw [call_of_not_fires looks fired]
          refine ⟨recalls.patience, ?_, ?_, ?_⟩
          · rw [switch, looks]
            exact recalls.armed
          · rw [WatchLog.lastFiring?, firings]
            exact recalls.forced
          · rw [firings]
            exact recalls.apart

theorem run
    (recalls : watchdog.Recalls threshold past)
    (calls : List WatchCall) :
    (watchdog.run calls).Recalls threshold (past ++ watchdog.log calls) := by
  induction calls generalizing watchdog past with
  | nil =>
      rw [log, List.append_nil]
      exact recalls
  | cons call rest inductionHypothesis =>
      rw [log, List.append_cons]
      exact inductionHypothesis (recalls.call call)

end Recalls

/-- A new watch fires at a call, after any others, exactly when it was armed
last and somebody looks, and both the activity that it is told and its own last
firing since it was armed are more than the threshold ago.  So as long as it is
not armed again its firings are more than the threshold apart. -/
theorem fires_iff_silent_since_armed (threshold : Duration) (calls : List WatchCall) :
    let watchdog : StalenessWatchdog := { threshold }
    (∀ call, (watchdog.run calls).fires call = true ↔
      ∃ now lastActivity, call.look? = some (now, lastActivity) ∧
        WatchCall.lastSwitch? calls = some .arm ∧
        lastActivity + threshold.nanos < now ∧
        ∀ firing ∈ (watchdog.log calls).lastFiring?, firing + threshold.nanos < now) ∧
      ∀ later, .arm ∉ later →
        ((watchdog.run calls).log later).firings.Pairwise
          fun earlier later => earlier + threshold.nanos < later := by
  intro watchdog
  refine ⟨?_, ?_⟩
  · intro call
    have recalls := (Recalls.new threshold).run calls
    rw [List.nil_append] at recalls
    have decided := recalls.fires_iff call
    rw [map_fst_log] at decided
    exact decided
  · intro later unarmed
    have apart := ((Recalls.new threshold).run (calls ++ later)).apart
    have unarmedLog : .arm ∉ ((watchdog.run calls).log later).map Prod.fst := by
      rw [map_fst_log]
      exact unarmed
    rw [List.nil_append, log_append, WatchLog.sinceArmed_append unarmedLog,
      WatchLog.firings_append] at apart
    exact (List.pairwise_append.mp apart).2.1

/-- A watch with a threshold of twenty seconds that fired at the thirtieth does
not fire again up to the fiftieth, although the activity that it is told goes
back to the beginning. -/
theorem fires_again_after_twenty_seconds :
    let second := Duration.secondNanos
    let watchdog : StalenessWatchdog := { threshold := Duration.ofSeconds 20 }
    let first : WatchCall := .check (30 * second) (5 * second) true
    let again : WatchCall := .visibility true (50 * second + 1) 0
    (watchdog.run [.arm, first]).fires (.check (50 * second) 0 true) = false ∧
      (watchdog.run [.arm, first]).fires again = true ∧
      WatchCall.arm ∉ [first, again] ∧
      ((watchdog.run [.arm]).log [first, again]).firings = [30 * second, 50 * second + 1] ∧
      [30 * second, 50 * second + 1].Pairwise
        fun earlier later => earlier + watchdog.threshold.nanos < later := by
  intro second watchdog first again
  have fires := (fires_iff_silent_since_armed (Duration.ofSeconds 20) [.arm, first]).1
  have unarmed : WatchCall.arm ∉ [first, again] := by decide
  have apart := (fires_iff_silent_since_armed (Duration.ofSeconds 20) [.arm]).2 _ unarmed
  have times : ((watchdog.run [.arm]).log [first, again]).firings =
      [30 * second, 50 * second + 1] := by decide
  have lastFiring : (watchdog.log [.arm, first]).lastFiring? = some (30 * second) := by decide
  refine ⟨?_, ?_, unarmed, times, times ▸ apart⟩
  · rw [Bool.eq_false_iff]
    intro fired
    obtain ⟨now, lastActivity, look, -, -, silent⟩ := (fires _).mp fired
    obtain ⟨rfl, -⟩ := Prod.mk.inj (Option.some.inj look)
    exact absurd (silent _ lastFiring) (by decide)
  · refine (fires again).mpr ⟨50 * second + 1, 0, rfl, rfl, by decide, ?_⟩
    intro firing last
    obtain rfl := Option.some.inj (lastFiring.symm.trans last)
    decide

end StalenessWatchdog
end Feed
end SyncWatch
