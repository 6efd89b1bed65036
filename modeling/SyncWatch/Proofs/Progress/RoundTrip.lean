import SyncWatch.Proofs.Feed.EventLines
import SyncWatch.Proofs.Json.RoundTrip

/-!
# Payloads that are read as they were written

An event without numbers of its own and a snapshot without a duration come back
from their text unchanged, the event from both of its readers.  A floating
point number need not come back, so it is left out.
-/

namespace SyncWatch
namespace Progress

open Json (MemberReadsAs)

/-! ## Events -/

namespace SyncEvent

variable {event : SyncEvent}

/-- An event that its text tells in full: it has a name and no numbers of its
own, and its further fields are no known ones and hold plain values. -/
structure Plain (event : SyncEvent) : Prop where
  visible : Text.isBlankText event.name = false
  noDone : event.done = none
  noTotal : event.total = none
  further : ∀ entry ∈ event.extra, entry.1 ∉ knownKeys
  /-- The fields stand in the object of the event, so they are as deep as in an
  object of their own. -/
  values : (Json.Value.object event.extra).Plain 127

/-- Further fields go into the draft as they are. -/
theorem storeAll_of_further
    (draft : Draft)
    {members : List (String × Json.Value)}
    (further : ∀ entry ∈ members, entry.1 ∉ knownKeys) :
    draft.storeAll members = .ok { draft with extra := draft.extra.insertAll members } := by
  induction members generalizing draft with
  | nil => rfl
  | cons first rest inductionHypothesis =>
      obtain ⟨key, value⟩ := first
      obtain ⟨furtherKey, furtherRest⟩ := List.forall_mem_cons.mp further
      exact Draft.storeAll_cons_eq_ok_iff.mpr
        ⟨has_of_not_mem_knownKeys furtherKey draft, _,
          store_of_not_mem_knownKeys furtherKey draft value, inductionHypothesis _ furtherRest⟩

namespace Plain

theorem extra
    (plain : event.Plain) :
    event.extra.Ordered ∧ ∀ entry ∈ event.extra, entry.2.Plain innerRoom := by
  cases plain.values with
  | object ordered values => exact ⟨ordered, values⟩

/-- Every member of the object of the event is read as it was written. -/
theorem readsAs_members
    (plain : event.Plain) :
    List.Forall₂ (MemberReadsAs innerRoom) event.members event.members := by
  refine List.forall₂_same.mpr fun entry present => ⟨rfl, Json.Value.Plain.readsAs ?_⟩
  rw [members, plain.noDone, plain.noTotal] at present
  simp only [Option.map_none, Option.toList_none, List.append_nil, List.mem_append,
    List.mem_singleton, Option.mem_toList, Option.map_eq_some_iff] at present
  rcases present with (rfl | ⟨message, _, rfl⟩) | inExtra
  · exact .string _ _
  · exact .string _ _
  · exact plain.extra.2 entry inExtra

/-- The members of the object of the event make the event again. -/
theorem storeAll_members
    (plain : event.Plain) :
    ∃ final, Draft.storeAll {} event.members = .ok final ∧ final.finish = .ok event := by
  obtain ⟨ordered, _⟩ := plain.extra
  obtain ⟨_, noDone, noTotal, further, _⟩ := plain
  obtain ⟨name, done, total, message, extra⟩ := event
  obtain rfl : done = none := noDone
  obtain rfl : total = none := noTotal
  have restored : SyncEvent.mk name none none message (Json.Object.insertAll [] extra) =
      ⟨name, none, none, message, extra⟩ :=
    congrArg (SyncEvent.mk name none none message) ordered.ofList
  cases message with
  | none =>
      exact ⟨_, Draft.storeAll_cons_eq_ok_iff.mpr ⟨rfl, _, rfl, storeAll_of_further _ further⟩,
        congrArg Except.ok restored⟩
  | some message =>
      have stores : Draft.storeAll { name := some name } (("msg", .string message) :: extra) = _ :=
        Draft.storeAll_cons_eq_ok_iff.mpr ⟨rfl, _, rfl, storeAll_of_further _ further⟩
      exact ⟨_, Draft.storeAll_cons_eq_ok_iff.mpr ⟨rfl, _, rfl, stores⟩,
        congrArg Except.ok restored⟩

theorem parse_text
    (plain : event.Plain) :
    parse event.text = .ok event := by
  obtain ⟨final, stores, finished⟩ := plain.storeAll_members
  exact parse_eq_ok_iff.mpr
    ⟨event.members, final, Json.writesObject_of_readsAs plain.readsAs_members, stores, finished⟩

/-- The text of the event names it, so the name of the message does not matter. -/
theorem parse_payload
    (plain : event.Plain)
    (name : String) :
    SummaryPayload.parse name event.text = .ok (.event event) := by
  obtain ⟨object, whole, made⟩ := exists_object_of_parse plain.parse_text
  have named : SummaryPayload.namesEvent object = true := by
    rw [SummaryPayload.namesEvent_of_ofObject made, plain.visible]
    rfl
  have trimmed : Text.trimmed event.text = event.text := Json.trimmed_text_object event.members
  rw [SummaryPayload.parse, trimmed, whole]
  exact SummaryPayload.ofObject_of_namesEvent named made name

end Plain
end SyncEvent

/-! ## Snapshots -/

namespace RunSummary

variable {room : Nat}

theorem plain_orNull
    {α : Type}
    {encode : α → Json.Value}
    {field : Option α}
    (plain : ∀ value, field = some value → (encode value).Plain room) :
    (orNull encode field).Plain room := by
  cases field with
  | none => exact .null room
  | some value => exact plain value rfl

/-- A field that may be null is decoded as it was encoded. -/
theorem optional_orNull
    {α : Type}
    {encode : α → Json.Value}
    {decode : Json.Value → Except Mismatch α}
    {field : Option α}
    (present : ∀ value, encode value ≠ .null)
    (restores : ∀ value, field = some value → decode (encode value) = .ok value) :
    Json.optional decode (some (orNull encode field)) = .ok field := by
  cases field with
  | none => rfl
  | some value =>
      have decodes : Json.optional decode (some (encode value)) =
          (decode (encode value)).map some := by
        have shown := present value
        generalize encode value = encoded at shown
        cases encoded with
        | null => exact absurd rfl shown
        | _ => rfl
      rw [orNull, decodes, restores value rfl]
      rfl

/-- The flags of a timeline in the order in which they are written. -/
def timelineMembers (timeline : Timeline) : List (String × Json.Value) :=
  [("start", .bool timeline.start), ("pre", .bool timeline.pre),
    ("post", .bool timeline.post), ("done", .bool timeline.done)]

theorem readsAs_timelineValue (timeline : Timeline) :
    (timelineValue timeline).ReadsAs (room + 1)
      (.object (Json.Object.ofList (timelineMembers timeline))) := by
  apply Json.Value.ReadsAs.object
  refine List.forall₂_same.mpr fun entry present => ⟨rfl, Json.Value.Plain.readsAs ?_⟩
  simp only [List.mem_cons, List.not_mem_nil, or_false] at present
  rcases present with rfl | rfl | rfl | rfl <;> exact .bool _ _

theorem timelineOfObject_timelineMembers (timeline : Timeline) :
    timelineOfObject (Json.Object.ofList (timelineMembers timeline)) = .ok timeline := by
  have distinct : ((timelineMembers timeline).map Prod.fst).Nodup :=
    (by decide : ["start", "pre", "post", "done"].Nodup)
  simp only [timelineOfObject, timelineFlag, Json.Object.get?_ofList distinct]
  rfl

/-- A snapshot that its text tells in full: it has no duration, and its exit
code is an integer of 32 bits. -/
structure Plain (summary : RunSummary) : Prop where
  noDuration : summary.duration = none
  exitCode : ∀ code, summary.exitCode = some code → Word.holdsSigned 32 code = true

/-- The members of the object of a snapshot as they are read. -/
def readMembers (summary : RunSummary) : List (String × Json.Value) :=
  summary.members.dropLast ++
    [("timeline", .object (Json.Object.ofList (timelineMembers summary.timeline)))]

theorem readsAs_members
    {summary : RunSummary}
    (plain : summary.Plain) :
    List.Forall₂ (MemberReadsAs (room + 1)) summary.members summary.readMembers := by
  have integer : ∀ code, summary.exitCode = some code → Word.holdsEither 64 code = true :=
    fun code present =>
      Word.holdsEither_of_holdsSigned (by decide) (plain.exitCode code present)
  have same : ∀ {key : String} {value : Json.Value}, value.Plain (room + 1) →
      MemberReadsAs (room + 1) (key, value) (key, value) :=
    fun restored => ⟨rfl, restored.readsAs⟩
  refine .cons (same (plain_orNull fun _ _ => .bool _ _)) ?_
  refine .cons (same (plain_orNull fun code present => .integer _ (integer code present))) ?_
  refine .cons (same (plain_orNull fun _ _ => .string _ _)) ?_
  refine .cons (same ?_) ?_
  · rw [plain.noDuration]
    exact .null _
  refine .cons (same (plain_orNull fun _ _ => .string _ _)) ?_
  refine .cons (same (plain_orNull fun _ _ => .string _ _)) ?_
  exact .cons ⟨rfl, readsAs_timelineValue summary.timeline⟩ .nil

theorem nodup_readMembers (summary : RunSummary) :
    (summary.readMembers.map Prod.fst).Nodup :=
  (by decide : ["running", "exit_code", "result", "duration_sec", "started_at", "finished_at",
    "timeline"].Nodup)

theorem ofObject_readMembers
    {summary : RunSummary}
    (plain : summary.Plain) :
    ofObject (Json.Object.ofList summary.readMembers) = .ok summary := by
  have exitCode : Json.optional Json.Value.asInt32
      (some (orNull (fun code => .number (.integer code)) summary.exitCode)) =
        .ok summary.exitCode := by
    refine optional_orNull nofun fun code present => ?_
    rw [Json.Value.asInt32, if_pos (plain.exitCode code present)]
  have text : ∀ field : Option String,
      Json.optional Json.Value.asText (some (orNull .string field)) = .ok field :=
    fun _ => optional_orNull nofun fun _ _ => rfl
  have running : Json.optional Json.Value.asFlag (some (orNull .bool summary.running)) =
      .ok summary.running :=
    optional_orNull nofun fun _ _ => rfl
  have duration : Json.optional Json.Value.asNumber
      (some (orNull (fun seconds => .number (.float seconds)) summary.duration)) =
        .ok summary.duration := by
    rw [plain.noDuration]
    rfl
  have timeline : Json.withDefault {} timelineOfValue
      (some (.object (Json.Object.ofList (timelineMembers summary.timeline)))) =
        .ok summary.timeline :=
    timelineOfObject_timelineMembers summary.timeline
  have lookup : ∀ key {value : Json.Value}, summary.readMembers.lookup key = some value →
      (Json.Object.ofList summary.readMembers).get? key = some value :=
    fun key => (Json.Object.get?_ofList summary.nodup_readMembers key).trans
  rw [ofObject, lookup "duration_sec" rfl, duration,
    lookup "exit_code" rfl, exitCode, lookup "finished_at" rfl, text,
    lookup "result" rfl, text, lookup "running" rfl, running,
    lookup "started_at" rfl, text, lookup "timeline" rfl, timeline]
  rfl

/-- A snapshot comes back from its text in a message without a name. -/
theorem parse_payload
    {summary : RunSummary}
    (plain : summary.Plain) :
    SummaryPayload.parse SummaryPayload.unnamed summary.text = .ok (.snapshot summary) := by
  have whole : Json.parse summary.text =
      .ok (.object (Json.Object.ofList summary.readMembers)) :=
    (Json.Value.ReadsAs.object (readsAs_members plain)).parse_text
  have nameless : SummaryPayload.namesEvent (Json.Object.ofList summary.readMembers) = false := by
    rw [SummaryPayload.namesEvent, Json.Object.get?_ofList summary.nodup_readMembers]
    rfl
  have field : (Json.Object.ofList summary.readMembers).hasKey "timeline" = true :=
    congrArg Option.isSome (Json.Object.get?_ofList summary.nodup_readMembers "timeline")
  have trimmed : Text.trimmed summary.text = summary.text :=
    Json.trimmed_text_object summary.members
  rw [SummaryPayload.parse, trimmed, whole]
  simp [SummaryPayload.ofObject, nameless, SummaryPayload.trimmed_unnamed, field,
    ofObject_readMembers plain, SummaryPayload.checked, Except.map]

end RunSummary

/-- An event without numbers of its own is read from its text, straight and in
every message, and a snapshot without a duration in a message without a name. -/
theorem decoding_undoes_encoding :
    (∀ event : SyncEvent, event.Plain →
      SyncEvent.parse event.text = .ok event ∧
        ∀ name, SummaryPayload.parse name event.text = .ok (.event event)) ∧
      ∀ summary : RunSummary, summary.Plain →
        SummaryPayload.parse SummaryPayload.unnamed summary.text = .ok (.snapshot summary) :=
  ⟨fun _ plain => ⟨plain.parse_text, plain.parse_payload⟩, fun _ => RunSummary.parse_payload⟩

/-- Escapes in texts and keys, the bounds of 64 bits, containers down to the
last level and a failed run come back. -/
theorem decoding_undoes_encoding_at_the_limits :
    let nested := (fun inner => Json.Value.array [inner])^[126] .null
    let bounds : List Json.Value :=
      [.number (.integer (-9223372036854775808)), .number (.integer 18446744073709551615)]
    let event : SyncEvent :=
      { name := " Apply:\"Done\"\x07"
        message := some "☃\\\x1f\n"
        extra := [("", nested), ("\x0c", .array bounds),
          ("naïve", .object [("\"", .bool true), ("𝄞", .string "/")])] }
    let summary : RunSummary :=
      { running := some false, exitCode := some (-1), finishedAt := some "12:00\t"
        timeline := { start := true } }
    event.Plain ∧ SyncEvent.parse event.text = .ok event ∧
      (∀ name, SummaryPayload.parse name event.text = .ok (.event event)) ∧
      summary.Plain ∧
      SummaryPayload.parse SummaryPayload.unnamed summary.text = .ok (.snapshot summary) := by
  intro nested bounds event summary
  have deep : nested.Plain 126 := (Json.Value.Plain.null 0).iterate_array 126
  have counts : (Json.Value.array bounds).Plain 126 := by
    refine .array fun item present => ?_
    rcases List.mem_pair.mp present with rfl | rfl
    · exact .integer 125 (by decide)
    · exact .integer 125 (by decide)
  have inner : (Json.Value.object [("\"", .bool true), ("𝄞", .string "/")]).Plain 126 := by
    refine .object (List.pairwise_pair.mpr (by decide +kernel)) fun entry present => ?_
    rcases List.mem_pair.mp present with rfl | rfl
    · exact .bool 125 true
    · exact .string 125 "/"
  have plain : event.Plain := by
    have ordered : event.extra.Ordered := by
      have keys : ["", "\x0c", "naïve"].Pairwise (· < ·) := by decide +kernel
      exact List.pairwise_map.mp keys
    refine ⟨by decide, rfl, rfl, by decide, .object ordered fun entry present => ?_⟩
    simp only [event, List.mem_cons, List.not_mem_nil, or_false] at present
    rcases present with rfl | rfl | rfl
    · exact deep
    · exact counts
    · exact inner
  have plainSummary : summary.Plain := by
    refine ⟨rfl, fun code present => ?_⟩
    rw [← Option.some.inj present]
    decide
  obtain ⟨events, summaries⟩ := decoding_undoes_encoding
  obtain ⟨straight, decoded⟩ := events event plain
  exact ⟨plain, straight, decoded, plainSummary, summaries summary plainSummary⟩

end Progress
end SyncWatch
