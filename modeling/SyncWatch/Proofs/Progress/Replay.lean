import SyncWatch.Proofs.Progress.Band

/-!
# Payloads that come again

Within a run a sequence of payloads is one join, so that payloads which were
taken in already change nothing when they come again.  A run start among them
forgets everything before it, and what follows it leads to the same state.
-/

namespace SyncWatch
namespace Progress
namespace ProgressState

/-- Within a run the state after some payloads is the least one above the state
before them and above all that they contribute. -/
theorem foldl_afterPayload_le_iff
    {state : ProgressState}
    (wellFormed : state.WellFormed)
    {payloads : List SummaryPayload}
    (within : ∀ payload ∈ payloads, payload.startsRun = false)
    (upper : ProgressState) :
    payloads.foldl afterPayload state ≤ upper ↔
      state ≤ upper ∧ ∀ payload ∈ payloads, contribution payload ≤ upper := by
  induction payloads generalizing state with
  | nil => simp
  | cons payload rest inductionHypothesis =>
      rw [List.forall_mem_cons] at within
      rw [List.foldl_cons, inductionHypothesis (wellFormed.afterPayload payload) within.2,
        afterPayload_eq_sup wellFormed.percent_le within.1, sup_le_iff, List.forall_mem_cons,
        and_assoc]

/-- Once a run starts among some payloads, the state before them is forgotten. -/
theorem foldl_afterPayload_of_startsRun
    {payloads : List SummaryPayload}
    (starts : ∃ payload ∈ payloads, payload.startsRun = true)
    (first second : ProgressState) :
    payloads.foldl afterPayload first = payloads.foldl afterPayload second := by
  induction payloads generalizing first second with
  | nil =>
      obtain ⟨payload, present, _⟩ := starts
      cases present
  | cons payload rest inductionHypothesis =>
      rw [List.foldl_cons, List.foldl_cons]
      cases starting : payload.startsRun with
      | true =>
          rw [afterPayload_of_startsRun starting first,
            afterPayload_of_startsRun starting second]
      | false =>
          apply inductionHypothesis
          obtain ⟨other, present, startsToo⟩ := starts
          rcases List.mem_cons.mp present with same | inRest
          · rw [same, starting] at startsToo
            cases startsToo
          · exact ⟨other, inRest, startsToo⟩

/-- Taking in the last of some payloads again changes nothing. -/
theorem foldl_afterPayload_suffix
    {state : ProgressState}
    (wellFormed : state.WellFormed)
    {payloads again : List SummaryPayload}
    (suffix : again <:+ payloads) :
    again.foldl afterPayload (payloads.foldl afterPayload state) =
      payloads.foldl afterPayload state := by
  obtain ⟨before, rfl⟩ := suffix
  rw [List.foldl_append]
  by_cases starts : ∃ payload ∈ again, payload.startsRun = true
  · exact foldl_afterPayload_of_startsRun starts _ _
  · have within : ∀ payload ∈ again, payload.startsRun = false := by
      intro payload present
      cases starting : payload.startsRun with
      | true => exact absurd ⟨payload, present, starting⟩ starts
      | false => rfl
    have middle := wellFormed.foldl_afterPayload before
    have once := middle.foldl_afterPayload again
    -- The state after the first time is above all that comes again.
    have above := (foldl_afterPayload_le_iff middle within _).mp le_rfl
    apply le_antisymm
    · exact (foldl_afterPayload_le_iff once within _).mpr ⟨le_rfl, above.2⟩
    · exact ((foldl_afterPayload_le_iff once within _).mp le_rfl).1

end ProgressState
end Progress
end SyncWatch
