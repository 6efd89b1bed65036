import SyncWatch.Proofs.Progress.Replay
import Mathlib.Data.List.DropRight

/-!
# Payloads in any order

Within a run the state after some payloads is the least one above all that they
contribute.  So neither their order nor their number matters, only which
payloads came.  A run start forgets everything before it, and the state is
determined by the payloads that came since the last one.
-/

namespace SyncWatch
namespace Progress
namespace ProgressState

/-- The payloads since the last run start, and all of them when no run starts. -/
def currentRun (payloads : List SummaryPayload) : List SummaryPayload :=
  payloads.rtakeWhile fun payload => !payload.startsRun

/-- No run starts since the last run start. -/
theorem startsRun_of_mem_currentRun
    {payloads : List SummaryPayload}
    {payload : SummaryPayload}
    (present : payload ∈ currentRun payloads) :
    payload.startsRun = false := by
  have within := List.mem_rtakeWhile_imp present
  simpa using within

/-- Once a run starts among some payloads, the state after them is what the
payloads since the last start make of the state at the start of a run. -/
theorem foldl_afterPayload_eq_currentRun
    {payloads : List SummaryPayload}
    (starts : ∃ payload ∈ payloads, payload.startsRun = true)
    (state : ProgressState) :
    payloads.foldl afterPayload state = (currentRun payloads).foldl afterPayload started := by
  -- The last payload decides whether the current run ends or begins with it.
  induction payloads using List.reverseRecOn with
  | nil =>
      obtain ⟨payload, present, _⟩ := starts
      cases present
  | append_singleton before last inductionHypothesis =>
      rw [List.foldl_concat]
      cases starting : last.startsRun with
      | true =>
          rw [afterPayload_of_startsRun starting, currentRun,
            List.rtakeWhile_concat_neg _ _ _ (by simp [starting])]
          rfl
      | false =>
          have startsBefore : ∃ payload ∈ before, payload.startsRun = true := by
            obtain ⟨payload, present, starting'⟩ := starts
            rcases List.mem_append.mp present with inBefore | isLast
            · exact ⟨payload, inBefore, starting'⟩
            · rw [List.mem_singleton.mp isLast, starting] at starting'
              cases starting'
          rw [inductionHypothesis startsBefore, currentRun, currentRun,
            List.rtakeWhile_concat_pos _ _ _ (by simp [starting]), List.foldl_concat]

/-- Within a run two sequences of the same payloads lead to the same state,
whatever their order and however often each of them comes. -/
theorem foldl_afterPayload_eq_of_mem_iff
    {state : ProgressState}
    (wellFormed : state.WellFormed)
    {first second : List SummaryPayload}
    (within : ∀ payload ∈ first, payload.startsRun = false)
    (same : ∀ payload, payload ∈ first ↔ payload ∈ second) :
    first.foldl afterPayload state = second.foldl afterPayload state := by
  have withinToo : ∀ payload ∈ second, payload.startsRun = false :=
    fun payload present => within payload ((same payload).mpr present)
  apply eq_of_forall_ge_iff
  intro upper
  rw [foldl_afterPayload_le_iff wellFormed within,
    foldl_afterPayload_le_iff wellFormed withinToo]
  simp only [same]

/-- The state at the start of a run is well-formed. -/
theorem WellFormed.started : ProgressState.started.WellFormed :=
  ⟨.start, rfl, rfl⟩

/-- From any state that can be reached, two sequences of the same payloads
without a run start lead to the same percentage and flags.  When runs do start,
the payloads since the last start alone determine both, whatever the states
were before. -/
theorem state_determined_by_current_run (history : List SummaryPayload) :
    let state := history.foldl afterPayload ({} : ProgressState)
    (∀ first second : List SummaryPayload,
      (∀ payload ∈ first, payload.startsRun = false) →
      (∀ payload, payload ∈ first ↔ payload ∈ second) →
      first.foldl afterPayload state = second.foldl afterPayload state) ∧
    (∀ (other : ProgressState) (first second : List SummaryPayload),
      (∃ payload ∈ first, payload.startsRun = true) →
      (∃ payload ∈ second, payload.startsRun = true) →
      (∀ payload, payload ∈ currentRun first ↔ payload ∈ currentRun second) →
      first.foldl afterPayload state = second.foldl afterPayload other) := by
  intro state
  have wellFormed : state.WellFormed := WellFormed.initial.foldl_afterPayload history
  refine ⟨?_, ?_⟩
  · intro first second within same
    exact foldl_afterPayload_eq_of_mem_iff wellFormed within same
  · intro other first second starts startsToo same
    rw [foldl_afterPayload_eq_currentRun starts, foldl_afterPayload_eq_currentRun startsToo]
    exact foldl_afterPayload_eq_of_mem_iff WellFormed.started
      (fun _ present => startsRun_of_mem_currentRun present) same

/-- A plan that comes late or twice changes nothing, and what came before the
start of a run is forgotten. -/
theorem state_after_late_plan :
    let start : SummaryPayload := .event { name := "run-start" }
    let plan : SummaryPayload := .event { name := "plan" }
    let writes : SummaryPayload := .event { name := "apply-start" }
    let state : ProgressState := {}
    [plan, writes].foldl afterPayload state =
        [writes, plan, writes].foldl afterPayload state ∧
      ([plan, writes].foldl afterPayload state).percent = 66 ∧
      [writes, start, plan].foldl afterPayload state =
        [start, plan, plan].foldl afterPayload state.finish ∧
      ([writes, start, plan].foldl afterPayload state).percent = 33 := by
  intro start plan writes state
  have starting : start.startsRun = true := by decide +kernel
  have planning : plan.startsRun = false := by decide +kernel
  have writing : writes.startsRun = false := by decide +kernel
  obtain ⟨within, across⟩ := state_determined_by_current_run []
  refine ⟨?_, by decide +kernel, ?_, by decide +kernel⟩
  · apply within
    · simp [planning, writing]
    · intro payload
      simp only [List.mem_cons, List.not_mem_nil, or_false]
      tauto
  · apply across
    · simp [starting]
    · simp [starting]
    · simp [currentRun, List.rtakeWhile, starting, planning]

end ProgressState
end Progress
end SyncWatch
