import SyncWatch.Feed.Reception
import SyncWatch.Proofs.Log.Readable
import SyncWatch.Proofs.Progress.EventMembers

/-!
# Lines that hold an event

A line of the verbose feed is read twice: for its event, straight from the
text, and for its sentence, from the object as a whole.  Both readings find the
same event, so what is shown and what counts as progress belong together.  The
reading of the object finds more only where a known field is repeated.
-/

namespace SyncWatch

open Progress

namespace Progress
namespace SummaryPayload

variable {object : Json.Object} {event : SyncEvent}

/-- An object names the event that it stands for, unless the name is blank. -/
theorem namesEvent_of_ofObject
    (made : SyncEvent.ofObject object = .ok event) :
    namesEvent object = !Text.isBlankText event.name := by
  obtain ⟨name, _⟩ := SyncEvent.ofObject_eq_ok_iff.mp made
  rw [namesEvent]
  cases held : object.get? SyncEvent.nameKey with
  | none =>
      rw [held] at name
      cases name
  | some value =>
      rw [held, Option.mapM_some] at name
      obtain ⟨found, decodes, same⟩ := SyncEvent.map_eq_ok_iff.mp name
      obtain rfl := Option.some.inj same
      cases value with
      | string text =>
          obtain rfl := Except.ok.inj decodes
          rfl
      | _ => cases decodes

/-- An object that names its event stands for it in every message. -/
theorem ofObject_of_namesEvent
    (named : namesEvent object = true)
    (made : SyncEvent.ofObject object = .ok event)
    (name : String) :
    ofObject name object = .ok (.event event) := by
  rw [ofObject, if_pos named, made]
  rfl

theorem checked_eq_ok_iff
    {α : Type}
    {result : Except Mismatch α}
    {value : α} :
    checked result = .ok value ↔ result = .ok value := by
  cases result <;> simp [checked]

/-- In a message without a name only an object that names its event stands for
an event. -/
theorem namesEvent_of_ofObject_unnamed
    (decoded : ofObject unnamed object = .ok (.event event)) :
    namesEvent object = true ∧ SyncEvent.ofObject object = .ok event := by
  cases named : namesEvent object with
  | true =>
      refine ⟨rfl, ?_⟩
      rw [ofObject, if_pos named, checked_eq_ok_iff] at decoded
      obtain ⟨found, made, same⟩ := SyncEvent.map_eq_ok_iff.mp decoded
      rw [made, SummaryPayload.event.inj same]
  | false =>
      have nameless : ¬(Text.trimmed unnamed ≠ "" ∧ Text.trimmed unnamed ≠ unnamed) := by
        simp [trimmed_unnamed]
      rw [ofObject, if_neg (by simp [named]), if_neg nameless] at decoded
      split at decoded
      · obtain ⟨found, _, same⟩ := SyncEvent.map_eq_ok_iff.mp (checked_eq_ok_iff.mp decoded)
        cases same
      · cases decoded

end SummaryPayload
end Progress

namespace Log

variable {line : String} {event : SyncEvent}

theorem eventOfLine?_eq_some_iff :
    eventOfLine? line = some event ↔
      looksLikeObject (Text.trimmed (Markup.plainText line)) = true ∧
        SyncEvent.parse (Text.trimmed (Markup.plainText line)) = .ok event ∧
        Text.isBlankText event.name = false := by
  simp only [eventOfLine?]
  split
  next braces =>
    split
    next found parsed =>
      rw [parsed]
      constructor
      · intro kept
        split at kept
        next => cases kept
        next visible =>
          obtain rfl := Option.some.inj kept
          exact ⟨braces, rfl, Bool.eq_false_iff.mpr visible⟩
      · rintro ⟨_, same, visible⟩
        obtain rfl := Except.ok.inj same
        rw [visible]
        rfl
    next error failed => simp [braces, failed]
  next noBraces => simp [noBraces]

theorem formatLine_of_parse
    {payload : SummaryPayload}
    (braces : looksLikeObject (Text.trimmed (Markup.plainText line)) = true)
    (decoded : SummaryPayload.parse SummaryPayload.unnamed
      (Text.trimmed (Markup.plainText line)) = .ok payload) :
    formatLine line = describePayload payload := by
  rw [formatLine_eq, payloadOfText?, if_pos braces, decoded]
  rfl

/-- The event of a line is the event that its text holds in every message, the
one that the line is shown as a sentence about, and the one that the progress
is told.  A text that holds an event in a message without a name and repeats
none of its known fields makes the event of its line. -/
theorem readings_of_line_agree (line : String) :
    let content := Text.trimmed (Markup.plainText line)
    (∀ event, eventOfLine? line = some event →
      (∀ name, SummaryPayload.parse name content = .ok (.event event)) ∧
        formatLine line = ⟨event.describe, eventStyle event⟩ ∧
        ∀ lastFinished,
          (Feed.Reception.ofVerboseToken lastFinished (.line line)).payloads =
            [.event event]) ∧
      ∀ event, SummaryPayload.parse SummaryPayload.unnamed content = .ok (.event event) →
        (∀ key ∈ SyncEvent.knownKeys, (Json.keysOfText content).count key ≤ 1) →
        eventOfLine? line = some event := by
  intro content
  have trimmed : Text.trimmed content = content := Text.trimmed_trimmed _
  constructor
  · intro event holds
    obtain ⟨braces, parsed, visible⟩ := eventOfLine?_eq_some_iff.mp holds
    obtain ⟨object, whole, made⟩ := SyncEvent.exists_object_of_parse parsed
    have named : SummaryPayload.namesEvent object = true := by
      rw [SummaryPayload.namesEvent_of_ofObject made, visible]
      rfl
    have decoded : ∀ name, SummaryPayload.parse name content = .ok (.event event) := by
      intro name
      rw [SummaryPayload.parse, trimmed, whole]
      exact SummaryPayload.ofObject_of_namesEvent named made name
    have shown : formatLine line = describePayload (.event event) :=
      formatLine_of_parse braces (decoded SummaryPayload.unnamed)
    refine ⟨decoded, shown, ?_⟩
    intro lastFinished
    rw [Feed.Reception.ofVerboseToken, holds]
    rfl
  · intro event decoded single
    obtain ⟨object, whole, stands⟩ := SummaryPayload.exists_object_of_parse decoded
    obtain ⟨inside, shape⟩ := Json.exists_trim_eq_braces whole
    obtain ⟨named, made⟩ := SummaryPayload.namesEvent_of_ofObject_unnamed stands
    rw [← Text.toList_trimmed, trimmed] at shape
    rw [trimmed] at whole
    refine eventOfLine?_eq_some_iff.mpr ⟨looksLikeObject_of_braces shape, ?_, ?_⟩
    · exact SyncEvent.parse_of_object whole made single
    · rw [SummaryPayload.namesEvent_of_ofObject made] at named
      simpa using named

/-- Markup, a repeated further field and a null do not come between the two
readings of a line. -/
theorem readings_of_line_with_markup :
    let line := "<b>\x7b&quot;done&quot;:3,&quot;src&quot;:1,&quot;src&quot;:[\x7b\x7d]," ++
      "&quot;event&quot;:&quot;run:done&quot;,&quot;total&quot;:null\x7d</b> "
    let content := Text.trimmed (Markup.plainText line)
    Json.keysOfText content = ["done", "src", "src", "event", "total"] ∧
      ∃ event, eventOfLine? line = some event ∧
        (∀ name, SummaryPayload.parse name content = .ok (.event event)) ∧
        formatLine line = ⟨"✔ Sync run finished: +0 / -0", .success⟩ := by
  intro line content
  have keys : Json.keysOfText content = ["done", "src", "src", "event", "total"] := by
    decide +kernel
  have single : ∀ key ∈ SyncEvent.knownKeys, (Json.keysOfText content).count key ≤ 1 := by
    rw [keys]
    decide +kernel
  have described : (eventOfLine? line).map (fun event => describePayload (.event event)) =
      some ⟨"✔ Sync run finished: +0 / -0", .success⟩ := by
    decide +kernel
  obtain ⟨event, holds, sentence⟩ := Option.map_eq_some_iff.mp described
  obtain ⟨decoded, shown, _⟩ := (readings_of_line_agree line).1 event holds
  have shownSentence : formatLine line = describePayload (.event event) := shown
  rw [sentence] at shownSentence
  refine ⟨keys, event, ?_, decoded, shownSentence⟩
  exact (readings_of_line_agree line).2 event (decoded _) single

end Log
end SyncWatch
