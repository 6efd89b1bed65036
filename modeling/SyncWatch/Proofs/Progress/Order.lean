import SyncWatch.Progress.Machine
import Mathlib.Order.BoundedOrder.Lattice

/-!
# The order of progress

States are ordered by their percentage and by the flags of their timeline, and
two states have a join.  Apart from the start of a run, a payload joins to the
state what it would have made of the state before any run.  So a sequence of
such payloads is one join, whatever their order and however often they come.
-/

namespace SyncWatch
namespace Progress

namespace Timeline

/-- One timeline is below another when every flag that it shows is shown there. -/
instance : PartialOrder Timeline where
  le lower upper :=
    (lower.start = true → upper.start = true) ∧ (lower.pre = true → upper.pre = true) ∧
      (lower.post = true → upper.post = true) ∧ (lower.done = true → upper.done = true)
  le_refl timeline := ⟨id, id, id, id⟩
  le_trans lower middle upper first second :=
    ⟨fun shown => second.1 (first.1 shown), fun shown => second.2.1 (first.2.1 shown),
      fun shown => second.2.2.1 (first.2.2.1 shown),
      fun shown => second.2.2.2 (first.2.2.2 shown)⟩
  le_antisymm left right below above := by
    cases left
    cases right
    simp only [mk.injEq]
    exact ⟨Bool.eq_iff_iff.mpr ⟨below.1, above.1⟩, Bool.eq_iff_iff.mpr ⟨below.2.1, above.2.1⟩,
      Bool.eq_iff_iff.mpr ⟨below.2.2.1, above.2.2.1⟩,
      Bool.eq_iff_iff.mpr ⟨below.2.2.2, above.2.2.2⟩⟩

/-- The join of two timelines shows the flags of both. -/
instance : SemilatticeSup Timeline where
  sup left right :=
    { start := left.start || right.start
      pre := left.pre || right.pre
      post := left.post || right.post
      done := left.done || right.done }
  le_sup_left left right := by
    refine ⟨?_, ?_, ?_, ?_⟩ <;>
      intro shown <;>
      simp [shown]
  le_sup_right left right := by
    refine ⟨?_, ?_, ?_, ?_⟩ <;>
      intro shown <;>
      simp [shown]
  sup_le left right upper below above := by
    refine ⟨?_, ?_, ?_, ?_⟩ <;>
      intro shown <;>
      rcases Bool.or_eq_true_iff.mp shown with first | second
    · exact below.1 first
    · exact above.1 second
    · exact below.2.1 first
    · exact above.2.1 second
    · exact below.2.2.1 first
    · exact above.2.2.1 second
    · exact below.2.2.2 first
    · exact above.2.2.2 second

/-- The timeline before any run is below every other. -/
instance : OrderBot Timeline where
  bot := empty
  bot_le timeline := by
    refine ⟨?_, ?_, ?_, ?_⟩ <;>
      intro shown <;>
      cases shown

/-- Raising a milestone joins the timeline that shows just this milestone and
those before it. -/
theorem raise_eq_sup (timeline : Timeline) (phase : Phase) :
    timeline.raise phase = timeline ⊔ empty.raise phase := by
  change timeline.raise phase =
    { start := timeline.start || (empty.raise phase).start
      pre := timeline.pre || (empty.raise phase).pre
      post := timeline.post || (empty.raise phase).post
      done := timeline.done || (empty.raise phase).done }
  simp [raise, empty]

end Timeline

namespace ProgressState

/-- One state is below another when its percentage and its timeline are. -/
instance : PartialOrder ProgressState where
  le lower upper := lower.percent ≤ upper.percent ∧ lower.timeline ≤ upper.timeline
  le_refl state := ⟨le_rfl, le_rfl⟩
  le_trans lower middle upper first second :=
    ⟨first.1.trans second.1, first.2.trans second.2⟩
  le_antisymm left right below above := by
    cases left
    cases right
    simp only [mk.injEq]
    exact ⟨le_antisymm below.1 above.1, le_antisymm below.2 above.2⟩

/-- The join of two states has the higher percentage and the flags of both. -/
instance : SemilatticeSup ProgressState where
  sup left right :=
    { percent := max left.percent right.percent
      timeline := left.timeline ⊔ right.timeline }
  le_sup_left _ _ := ⟨le_max_left _ _, le_sup_left⟩
  le_sup_right _ _ := ⟨le_max_right _ _, le_sup_right⟩
  sup_le _ _ _ below above :=
    ⟨max_le below.1 above.1, sup_le below.2 above.2⟩

/-- The state before any run is below every other. -/
instance : OrderBot ProgressState where
  bot := {}
  bot_le _ := ⟨Nat.zero_le _, bot_le⟩

theorem mk_sup_mk (left right : Nat) (first second : Timeline) :
    (⟨left, first⟩ ⊔ ⟨right, second⟩ : ProgressState) = ⟨max left right, first ⊔ second⟩ :=
  rfl

theorem bump_eq_sup (state : ProgressState) (percent : Nat) :
    state.bump percent = state ⊔ ⟨percent, ⊥⟩ := by
  cases state
  rw [mk_sup_mk, sup_bot_eq]
  rfl

theorem raise_eq_sup (state : ProgressState) (phase : Phase) (anchor : Nat) :
    state.raise phase anchor = state ⊔ ⟨anchor, Timeline.empty.raise phase⟩ := by
  cases state
  rw [mk_sup_mk, ← Timeline.raise_eq_sup]
  rfl

/-- The end of a run is a join, since no percentage exceeds a hundred. -/
theorem finish_eq_sup
    {state : ProgressState}
    (bounded : state.percent ≤ doneAnchor) :
    state.finish = state ⊔ ⟨doneAnchor, Timeline.empty.raise .done⟩ := by
  obtain ⟨percent, timeline⟩ := state
  rw [mk_sup_mk, ← Timeline.raise_eq_sup, max_eq_right bounded]
  rfl

end ProgressState

/-- Whether a payload starts a run. -/
def SummaryPayload.startsRun : SummaryPayload → Bool
  | .event announced => announced.kind == .runStart
  | .snapshot _ => false

namespace ProgressState

/-- What a payload would make of the state before any run. -/
def contribution (payload : SummaryPayload) : ProgressState :=
  (⊥ : ProgressState).afterPayload payload

/-- The start of a run forgets the state before it. -/
theorem afterPayload_of_startsRun
    {payload : SummaryPayload}
    (starts : payload.startsRun = true)
    (state : ProgressState) :
    state.afterPayload payload = started := by
  cases payload with
  | event event =>
      have kind : event.kind = .runStart := by
        simpa [SummaryPayload.startsRun] using starts
      simp [afterPayload, afterEvent, afterEvent?, kind]
  | snapshot summary => cases starts

/-- Within a run an event joins its contribution. -/
theorem afterEvent_eq_sup
    {state : ProgressState}
    (bounded : state.percent ≤ doneAnchor)
    {event : SyncEvent}
    (within : event.kind ≠ .runStart) :
    state.afterEvent event = state ⊔ (⊥ : ProgressState).afterEvent event := by
  have bottom : (⊥ : ProgressState).percent ≤ doneAnchor := Nat.zero_le _
  cases kind : event.kind with
  | runStart => exact absurd kind within
  | preSync =>
      simp only [afterEvent, afterEvent?, kind, Option.getD_some, raise_eq_sup, bot_sup_eq]
  | applyStart =>
      simp only [afterEvent, afterEvent?, kind, Option.getD_some, raise_eq_sup, bot_sup_eq]
  | applyDone =>
      simp only [afterEvent, afterEvent?, kind, Option.getD_some, raise_eq_sup, bot_sup_eq]
  | applyProgress =>
      cases share : event.fraction with
      | none =>
          simp only [afterEvent, afterEvent?, kind, share, Option.getD_some, raise_eq_sup,
            bot_sup_eq]
      | some fraction =>
          simp only [afterEvent, afterEvent?, kind, share, Option.getD_some, raise_eq_sup,
            bump_eq_sup, bot_sup_eq, sup_assoc]
  | runDone =>
      simp only [afterEvent, afterEvent?, kind, Option.getD_some, finish_eq_sup bounded,
        finish_eq_sup bottom, bot_sup_eq]
  | other => simp only [afterEvent, afterEvent?, kind, Option.getD_none, sup_bot_eq]

/-- A snapshot joins its contribution. -/
theorem afterSummary_eq_sup
    {state : ProgressState}
    (bounded : state.percent ≤ doneAnchor)
    (summary : RunSummary) :
    state.afterSummary summary = state ⊔ (⊥ : ProgressState).afterSummary summary := by
  have bottom : (⊥ : ProgressState).percent ≤ doneAnchor := Nat.zero_le _
  cases phase : summary.timeline.phase with
  | done =>
      simp only [afterSummary, phase, finish_eq_sup bounded, finish_eq_sup bottom, bot_sup_eq]
  | idle => simp only [afterSummary, phase, sup_bot_eq]
  | _ => simp only [afterSummary, phase, raise_eq_sup, bot_sup_eq]

/-- Within a run a payload joins its contribution. -/
theorem afterPayload_eq_sup
    {state : ProgressState}
    (bounded : state.percent ≤ doneAnchor)
    {payload : SummaryPayload}
    (within : payload.startsRun = false) :
    state.afterPayload payload = state ⊔ contribution payload := by
  cases payload with
  | event event =>
      have notStart : event.kind ≠ .runStart := by
        simpa [SummaryPayload.startsRun] using within
      rw [contribution, afterPayload, afterPayload]
      exact afterEvent_eq_sup bounded notStart
  | snapshot summary => exact afterSummary_eq_sup bounded summary

end ProgressState
end Progress
end SyncWatch
