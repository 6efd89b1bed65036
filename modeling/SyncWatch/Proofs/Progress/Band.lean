import SyncWatch.Proofs.Progress.Order

/-!
# The percentages of a run

Each milestone goes with its own percentages, and those of a later milestone
are higher.  So the states in which percentage and timeline fit together are
closed under joins, and every payload leads from one of them to another.
-/

namespace SyncWatch
namespace Progress

/-- The percentages that go with a milestone. -/
def Phase.Allows : Phase → Nat → Prop
  | .idle, percent => percent = 0
  | .start, percent => percent = ProgressState.startAnchor
  | .pre, percent => percent = ProgressState.preAnchor
  | .post, percent =>
    ProgressState.postAnchor ≤ percent ∧ percent ≤ ProgressState.postCeiling
  | .done, percent => percent = ProgressState.doneAnchor

/-- The higher of two percentages goes with the later of their milestones. -/
theorem Phase.Allows.max
    {earlier later : Phase}
    {low high : Nat}
    (order : earlier.rank ≤ later.rank)
    (first : earlier.Allows low)
    (second : later.Allows high) :
    later.Allows (max low high) := by
  cases earlier <;> cases later <;>
    simp only [Allows, rank, ProgressState.startAnchor, ProgressState.preAnchor,
      ProgressState.postAnchor, ProgressState.postCeiling, ProgressState.doneAnchor]
      at order first second ⊢ <;>
    omega

theorem Phase.Allows.le_doneAnchor
    {phase : Phase}
    {percent : Nat}
    (allowed : phase.Allows percent) :
    percent ≤ ProgressState.doneAnchor := by
  cases phase <;>
    simp only [Allows, ProgressState.startAnchor, ProgressState.preAnchor,
      ProgressState.postAnchor, ProgressState.postCeiling, ProgressState.doneAnchor]
      at allowed ⊢ <;>
    omega

namespace Timeline

/-- A timeline that was raised to a milestone shows it as the latest one. -/
@[simp] theorem phase_raise_empty (phase : Phase) : (empty.raise phase).phase = phase := by
  cases phase <;> rfl

/-- The later of two milestones decides over the join of their timelines. -/
theorem raise_sup_raise
    {earlier later : Phase}
    (order : earlier.rank ≤ later.rank) :
    empty.raise earlier ⊔ empty.raise later = empty.raise later := by
  apply sup_eq_right.mpr
  refine ⟨?_, ?_, ?_, ?_⟩ <;>
    simp only [raise, empty, Bool.false_or, decide_eq_true_eq] <;>
    omega

end Timeline

namespace ProgressState

/-- The timeline shows a milestone and all before it, and the percentage goes
with that milestone. -/
def WellFormed (state : ProgressState) : Prop :=
  ∃ phase : Phase,
    state.timeline = Timeline.empty.raise phase ∧ phase.Allows state.percent

namespace WellFormed

variable {state : ProgressState}

/-- The state before any run is well-formed. -/
theorem initial : (⊥ : ProgressState).WellFormed :=
  ⟨.idle, rfl, rfl⟩

theorem percent_le (wellFormed : state.WellFormed) : state.percent ≤ doneAnchor := by
  obtain ⟨phase, _, allowed⟩ := wellFormed
  exact allowed.le_doneAnchor

/-- Well-formed states are closed under joins. -/
theorem sup
    {left right : ProgressState}
    (first : left.WellFormed)
    (second : right.WellFormed) :
    (left ⊔ right).WellFormed := by
  obtain ⟨earlier, shown, allowed⟩ := first
  obtain ⟨later, shownToo, allowedToo⟩ := second
  change ∃ phase : Phase, left.timeline ⊔ right.timeline = Timeline.empty.raise phase ∧
    phase.Allows (max left.percent right.percent)
  rw [shown, shownToo]
  rcases Nat.le_total earlier.rank later.rank with order | order
  · exact ⟨later, Timeline.raise_sup_raise order, allowed.max order allowedToo⟩
  · rw [sup_comm, max_comm]
    exact ⟨earlier, Timeline.raise_sup_raise order, allowedToo.max order allowed⟩

/-- A milestone with its anchor is well-formed. -/
theorem raise
    {phase : Phase}
    {anchor : Nat}
    (allowed : phase.Allows anchor) :
    ((⊥ : ProgressState).raise phase anchor).WellFormed := by
  rw [raise_eq_sup, bot_sup_eq]
  exact ⟨phase, rfl, allowed⟩

theorem raise_post : ((⊥ : ProgressState).raise .post postAnchor).WellFormed :=
  raise ⟨le_rfl, by decide⟩

/-- The share of the writes stays below the end of the run. -/
theorem raise_post_bump (fraction : Float) :
    (((⊥ : ProgressState).raise .post postAnchor).bump
      (percentOfFraction fraction)).WellFormed := by
  have ceiling : percentOfFraction fraction ≤ postCeiling := Nat.min_le_right _ _
  refine ⟨.post, rfl, ?_⟩
  change postAnchor ≤ max (max 0 postAnchor) (percentOfFraction fraction) ∧
    max (max 0 postAnchor) (percentOfFraction fraction) ≤ postCeiling
  simp only [postAnchor, postCeiling] at ceiling ⊢
  omega

/-- What an event contributes is well-formed. -/
theorem afterEvent (event : SyncEvent) : ((⊥ : ProgressState).afterEvent event).WellFormed := by
  cases kind : event.kind with
  | runStart =>
      simp only [ProgressState.afterEvent, afterEvent?, kind, Option.getD_some]
      exact ⟨.start, rfl, rfl⟩
  | preSync =>
      simp only [ProgressState.afterEvent, afterEvent?, kind, Option.getD_some]
      exact raise rfl
  | applyStart =>
      simp only [ProgressState.afterEvent, afterEvent?, kind, Option.getD_some]
      exact raise_post
  | applyDone =>
      simp only [ProgressState.afterEvent, afterEvent?, kind, Option.getD_some]
      exact raise_post
  | applyProgress =>
      cases share : event.fraction with
      | none =>
          simp only [ProgressState.afterEvent, afterEvent?, kind, share, Option.getD_some]
          exact raise_post
      | some fraction =>
          simp only [ProgressState.afterEvent, afterEvent?, kind, share, Option.getD_some]
          exact raise_post_bump fraction
  | runDone =>
      simp only [ProgressState.afterEvent, afterEvent?, kind, Option.getD_some]
      exact ⟨.done, rfl, rfl⟩
  | other =>
      simp only [ProgressState.afterEvent, afterEvent?, kind, Option.getD_none]
      exact initial

/-- What a snapshot contributes is well-formed, whatever flags it shows. -/
theorem afterSummary (summary : RunSummary) :
    ((⊥ : ProgressState).afterSummary summary).WellFormed := by
  cases phase : summary.timeline.phase with
  | idle =>
      simp only [ProgressState.afterSummary, phase]
      exact initial
  | start =>
      simp only [ProgressState.afterSummary, phase]
      exact raise rfl
  | pre =>
      simp only [ProgressState.afterSummary, phase]
      exact raise rfl
  | post =>
      simp only [ProgressState.afterSummary, phase]
      exact raise_post
  | done =>
      simp only [ProgressState.afterSummary, phase]
      exact ⟨.done, rfl, rfl⟩

/-- What a payload contributes is well-formed. -/
theorem contribution (payload : SummaryPayload) :
    (ProgressState.contribution payload).WellFormed := by
  cases payload with
  | event event => exact afterEvent event
  | snapshot summary => exact afterSummary summary

/-- Every payload leads from a well-formed state to another. -/
theorem afterPayload
    (wellFormed : state.WellFormed)
    (payload : SummaryPayload) :
    (state.afterPayload payload).WellFormed := by
  cases starts : payload.startsRun with
  | true =>
      rw [afterPayload_of_startsRun starts]
      exact ⟨.start, rfl, rfl⟩
  | false =>
      rw [afterPayload_eq_sup wellFormed.percent_le starts]
      exact wellFormed.sup (contribution payload)

/-- Every sequence of payloads leads from a well-formed state to another. -/
theorem foldl_afterPayload
    (wellFormed : state.WellFormed)
    (payloads : List SummaryPayload) :
    (payloads.foldl ProgressState.afterPayload state).WellFormed := by
  induction payloads generalizing state with
  | nil => exact wellFormed
  | cons payload rest inductionHypothesis =>
      exact inductionHypothesis (wellFormed.afterPayload payload)

/-- Within a run no payload lowers a well-formed state. -/
theorem le_afterPayload
    (wellFormed : state.WellFormed)
    {payload : SummaryPayload}
    (within : payload.startsRun = false) :
    state ≤ state.afterPayload payload := by
  rw [afterPayload_eq_sup wellFormed.percent_le within]
  exact le_sup_left

/-- The percentage goes with the latest milestone. -/
theorem allows (wellFormed : state.WellFormed) : state.phase.Allows state.percent := by
  obtain ⟨phase, shown, allowed⟩ := wellFormed
  rw [ProgressState.phase, shown, Timeline.phase_raise_empty]
  exact allowed

/-- No milestone is shown without the one before it. -/
theorem flags (wellFormed : state.WellFormed) :
    (state.timeline.done = true → state.timeline.post = true) ∧
      (state.timeline.post = true → state.timeline.pre = true) ∧
      (state.timeline.pre = true → state.timeline.start = true) := by
  obtain ⟨phase, shown, _⟩ := wellFormed
  rw [shown]
  simp only [Timeline.raise, Timeline.empty, Bool.false_or, decide_eq_true_eq]
  omega

/-- A hundred percent and the end of the run come together. -/
theorem percent_eq_doneAnchor_iff (wellFormed : state.WellFormed) :
    state.percent = doneAnchor ↔ state.timeline.done = true := by
  obtain ⟨phase, shown, allowed⟩ := wellFormed
  rw [shown]
  have ends : (Timeline.empty.raise phase).done = true ↔ phase = .done := by
    cases phase <;> decide
  rw [ends]
  cases phase with
  | done => exact ⟨fun _ => rfl, fun _ => allowed⟩
  | _ =>
      simp only [Phase.Allows, startAnchor, preAnchor, postAnchor, postCeiling, doneAnchor]
        at allowed ⊢
      simp only [reduceCtorEq, iff_false]
      omega

end WellFormed

/-- After any events and snapshots the flags of the timeline come without gaps,
the percentage goes with the latest milestone, and a hundred is reached exactly
with the end of the run.  Only the start of a run lowers anything. -/
theorem progress_in_band (payloads : List SummaryPayload) :
    let state := payloads.foldl afterPayload ({} : ProgressState)
    (state.timeline.done = true → state.timeline.post = true) ∧
      (state.timeline.post = true → state.timeline.pre = true) ∧
      (state.timeline.pre = true → state.timeline.start = true) ∧
      (state.phase = .idle → state.percent = 0) ∧
      (state.phase = .start → state.percent = 5) ∧
      (state.phase = .pre → state.percent = 33) ∧
      (state.phase = .post → 66 ≤ state.percent ∧ state.percent ≤ 99) ∧
      (state.percent = 100 ↔ state.timeline.done = true) ∧
      ∀ payload : SummaryPayload, payload.startsRun = false →
        let next := state.afterPayload payload
        state.percent ≤ next.percent ∧
          (state.timeline.start = true → next.timeline.start = true) ∧
          (state.timeline.pre = true → next.timeline.pre = true) ∧
          (state.timeline.post = true → next.timeline.post = true) ∧
          (state.timeline.done = true → next.timeline.done = true) := by
  intro state
  have wellFormed : state.WellFormed :=
    WellFormed.initial.foldl_afterPayload payloads
  obtain ⟨post, pre, start⟩ := wellFormed.flags
  have allowed := wellFormed.allows
  refine ⟨post, pre, start, fun latest => ?_, fun latest => ?_, fun latest => ?_,
    fun latest => ?_, wellFormed.percent_eq_doneAnchor_iff, fun payload within => ?_⟩
  · rw [latest] at allowed
    exact allowed
  · rw [latest] at allowed
    exact allowed
  · rw [latest] at allowed
    exact allowed
  · rw [latest] at allowed
    exact allowed
  · exact wellFormed.le_afterPayload within

end ProgressState
end Progress
end SyncWatch
