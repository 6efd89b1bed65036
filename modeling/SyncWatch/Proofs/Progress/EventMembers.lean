import SyncWatch.Proofs.Json.Keys
import SyncWatch.Progress.EventText

/-!
# Events from the members of their object

An event that is read straight from its text takes the members of its object
one after the other, and refuses a known field that comes a second time.  Of
an object whose known fields are not repeated it takes what the object as a
whole holds, in whatever order the members are written.
-/

namespace SyncWatch
namespace Progress
namespace SyncEvent

open Json (Token WritesMembers WritesObject)

/-! ## One member after the other -/

namespace Draft

/-- The draft after the value of a key. -/
def store (draft : Draft) (key : String) (value : Json.Value) : Except Mismatch Draft :=
  if key = nameKey then
    value.asText.map fun name => { draft with name := some name }
  else if key = "done" then
    (Json.optional Json.Value.asNumber (some value)).map fun done =>
      { draft with done := some done }
  else if key = "total" then
    (Json.optional Json.Value.asNumber (some value)).map fun total =>
      { draft with total := some total }
  else if key = "msg" then
    (Json.optional Json.Value.asText (some value)).map fun message =>
      { draft with message := some message }
  else
    .ok { draft with extra := draft.extra.insert key value }

/-- The draft after some members, none of which repeats a known field. -/
def storeAll (draft : Draft) : List (String × Json.Value) → Except Mismatch Draft
  | [] => .ok draft
  | (key, value) :: rest =>
    if draft.has key then .error (.duplicateField key)
    else draft.store key value >>= fun next => next.storeAll rest

theorem storeAll_cons_eq_ok_iff
    {draft final : Draft}
    {key : String}
    {value : Json.Value}
    {rest : List (String × Json.Value)} :
    draft.storeAll ((key, value) :: rest) = .ok final ↔
      draft.has key = false ∧
        ∃ next, draft.store key value = .ok next ∧ next.storeAll rest = .ok final := by
  rw [storeAll]
  cases draft.has key with
  | true => simp
  | false =>
      rcases draft.store key value with error | next
      · simp [bind, Except.bind]
      · simp [bind, Except.bind]

end Draft

variable {token : Token} {value : Json.Value} {draft next : Draft} {key : String}
  {tokens : List Token} {event : SyncEvent}

theorem readText_eq_ok_iff {text : String} :
    readText token = .ok text ↔ ∃ value, token.value? = some value ∧ value.asText = .ok text := by
  cases token <;> simp [readText, refuse, Token.value?, Token.found, Json.Value.asText]

theorem readNumber_eq_ok_iff {number : Option Float} :
    readNumber token = .ok number ↔
      ∃ value, token.value? = some value ∧
        Json.optional Json.Value.asNumber (some value) = .ok number := by
  cases token <;>
    simp [readNumber, refuse, Token.value?, Token.found, Json.optional, Json.Value.asNumber,
      Except.map]

theorem readOptionalText_eq_ok_iff {text : Option String} :
    readOptionalText token = .ok text ↔
      ∃ value, token.value? = some value ∧
        Json.optional Json.Value.asText (some value) = .ok text := by
  cases token <;>
    simp [readOptionalText, refuse, Token.value?, Token.found, Json.optional,
      Json.Value.asText, Except.map]

theorem map_eq_ok_iff
    {ε α β : Type}
    {result : Except ε α}
    {transform : α → β}
    {final : β} :
    result.map transform = .ok final ↔ ∃ found, result = .ok found ∧ transform found = final := by
  cases result <;> simp [Except.map]

/-- A field that is read from a token as from its value stays so when it goes
into a draft. -/
theorem map_read_eq_ok_iff
    {α : Type}
    {read : Except PayloadError α}
    {decode : Json.Value → Except Mismatch α}
    (agrees : ∀ found, read = .ok found ↔
      ∃ value, token.value? = some value ∧ decode value = .ok found)
    (take : α → Draft) :
    read.map take = .ok next ↔
      ∃ value, token.value? = some value ∧ (decode value).map take = .ok next := by
  simp only [map_eq_ok_iff, agrees]
  constructor
  · rintro ⟨found, ⟨value, writes, decodes⟩, takes⟩
    exact ⟨value, writes, found, decodes, takes⟩
  · rintro ⟨value, writes, found, decodes, takes⟩
    exact ⟨found, ⟨value, writes, decodes⟩, takes⟩

theorem mem_knownKeys_iff :
    key ∈ knownKeys ↔ key = nameKey ∨ key = "done" ∨ key = "total" ∨ key = "msg" := by
  simp [knownKeys]

/-- A known field takes the value that its only token writes. -/
theorem readKnown_eq_ok_iff
    (known : key ∈ knownKeys) :
    readKnown draft key token = .ok next ↔
      ∃ value, token.value? = some value ∧ draft.store key value = .ok next := by
  rcases mem_knownKeys_iff.mp known with rfl | rfl | rfl | rfl
  · exact map_read_eq_ok_iff (fun _ => readText_eq_ok_iff) _
  · exact map_read_eq_ok_iff (fun _ => readNumber_eq_ok_iff) _
  · exact map_read_eq_ok_iff (fun _ => readNumber_eq_ok_iff) _
  · exact map_read_eq_ok_iff (fun _ => readOptionalText_eq_ok_iff) _

/-- A known field takes no container. -/
theorem isContainer_of_store
    (known : key ∈ knownKeys)
    (stores : draft.store key value = .ok next) :
    value.isContainer = false := by
  rcases mem_knownKeys_iff.mp known with rfl | rfl | rfl | rfl
  all_goals
    cases value with
    | array items | object members => cases stores
    | _ => rfl

/-- A further field takes any value. -/
theorem store_of_not_mem_knownKeys
    (further : key ∉ knownKeys)
    (draft : Draft)
    (value : Json.Value) :
    draft.store key value = .ok { draft with extra := draft.extra.insert key value } := by
  simp only [mem_knownKeys_iff, not_or] at further
  simp [Draft.store, further]

/-! ## From the text -/

theorem resume_key_eq_ok_iff :
    resume (.key draft) tokens = .ok event ↔
      ∃ key rest, tokens = .string key :: .colon :: rest ∧ draft.has key = false ∧
        resume (.value draft key) rest = .ok event := by
  constructor
  · intro reads
    rcases tokens with _ | ⟨token, tokens⟩
    · cases reads
    · cases token with
      | string key =>
          cases repeated : draft.has key with
          | true => simp [resume, Place.step, readKey, repeated] at reads
          | false =>
              simp only [resume, Place.step, readKey, repeated, Bool.false_eq_true, if_false]
                at reads
              rcases tokens with _ | ⟨separator, rest⟩
              · cases reads
              · cases separator with
                | colon => exact ⟨key, rest, rfl, repeated, reads⟩
                | _ => cases reads
      | _ => cases reads
  · rintro ⟨key, rest, rfl, fresh, reads⟩
    simp only [resume, Place.step, readKey, fresh, Bool.false_eq_true, if_false]
    exact reads

/-- The value of a further field is read as it would be read alone. -/
theorem resume_inside_eq_ok_iff {cursor : Json.Cursor} :
    resume (.inside draft key cursor) tokens = .ok event ↔
      ∃ value others, Json.resume innerRoom cursor tokens = .ok (value, others) ∧
        resume (.afterMember { draft with extra := draft.extra.insert key value }) others =
          .ok event := by
  induction tokens generalizing cursor with
  | nil =>
      constructor
      · intro reads
        cases reads
      · rintro ⟨value, others, reads, _⟩
        cases reads
  | cons token rest inductionHypothesis =>
      rw [resume, Place.step, readExtra, Json.resume]
      rcases cursor.step innerRoom token with error | outcome
      · simp
      · cases outcome with
        | complete value => simp
        | continues next => exact inductionHypothesis

/-- The value of a member goes into the draft, whether its field is known or not. -/
theorem resume_value_eq_ok_iff :
    resume (.value draft key) tokens = .ok event ↔
      ∃ value others next, Json.resume innerRoom (.value []) tokens = .ok (value, others) ∧
        draft.store key value = .ok next ∧ resume (.afterMember next) others = .ok event := by
  by_cases known : key ∈ knownKeys
  · have listed : knownKeys.contains key = true := List.contains_iff_mem.mpr known
    constructor
    · intro reads
      rcases tokens with _ | ⟨token, rest⟩
      · cases reads
      · rw [resume, Place.step, if_pos listed] at reads
        cases stored : readKnown draft key token with
        | error error => simp [stored, Except.map] at reads
        | ok next =>
            simp only [stored, Except.map] at reads
            obtain ⟨value, writes, stores⟩ := (readKnown_eq_ok_iff known).mp stored
            exact ⟨value, rest, next, Json.resume_value_of_value? writes _ rest, stores, reads⟩
    · rintro ⟨value, others, next, reads, stores, readsOthers⟩
      obtain ⟨token, rfl, writes⟩ :=
        Json.exists_token_of_resume (isContainer_of_store known stores) reads
      have stored := (readKnown_eq_ok_iff known).mpr ⟨value, writes, stores⟩
      simp only [resume, Place.step, listed, if_true, stored, Except.map]
      exact readsOthers
  · have unlisted : knownKeys.contains key = false := by simpa using known
    have same : resume (.value draft key) tokens = resume (.inside draft key (.value [])) tokens := by
      cases tokens with
      | nil => rfl
      | cons token rest =>
          rw [resume, resume, Place.step, Place.step]
          simp only [unlisted, Bool.false_eq_true, if_false]
    rw [same, resume_inside_eq_ok_iff]
    simp only [store_of_not_mem_knownKeys known, Except.ok.injEq, exists_and_left,
      exists_eq_left']

/-- The brace that closes the object is the last token. -/
theorem resume_closeObject_eq_ok_iff
    {place : Place}
    {rest : List Token}
    (closes : place.step .closeObject = draft.finish.map .complete) :
    resume place (.closeObject :: rest) = .ok event ↔
      rest = [] ∧ draft.finish = .ok event := by
  rw [resume, closes]
  cases finished : draft.finish with
  | error error => simp [Except.map]
  | ok found => cases rest <;> simp [Except.map]

theorem resume_firstKey_eq_ok_iff :
    resume (.firstKey draft) tokens = .ok event ↔
      resume (.key draft) tokens = .ok event ∨
        (tokens = [.closeObject] ∧ draft.finish = .ok event) := by
  constructor
  · intro reads
    rcases tokens with _ | ⟨token, rest⟩
    · cases reads
    · cases token with
      | closeObject =>
          obtain ⟨rfl, finished⟩ := (resume_closeObject_eq_ok_iff rfl).mp reads
          exact .inr ⟨rfl, finished⟩
      | _ => exact .inl reads
  · rintro (reads | ⟨rfl, finished⟩)
    · obtain ⟨key, rest, rfl, _⟩ := resume_key_eq_ok_iff.mp reads
      exact reads
    · exact (resume_closeObject_eq_ok_iff rfl).mpr ⟨rfl, finished⟩

theorem resume_afterMember_eq_ok_iff :
    resume (.afterMember draft) tokens = .ok event ↔
      (∃ rest, tokens = .comma :: rest ∧ resume (.key draft) rest = .ok event) ∨
        (tokens = [.closeObject] ∧ draft.finish = .ok event) := by
  constructor
  · intro reads
    rcases tokens with _ | ⟨token, rest⟩
    · cases reads
    · cases token with
      | comma => exact .inl ⟨rest, rfl, reads⟩
      | closeObject =>
          obtain ⟨rfl, finished⟩ := (resume_closeObject_eq_ok_iff rfl).mp reads
          exact .inr ⟨rfl, finished⟩
      | _ => cases reads
  · rintro (⟨rest, rfl, reads⟩ | ⟨rfl, finished⟩)
    · exact reads
    · exact (resume_closeObject_eq_ok_iff rfl).mpr ⟨rfl, finished⟩

/-- An event that is read to the end of the tokens takes the members that the
tokens write. -/
theorem exists_writesMembers_of_resume
    (reads : resume (.key draft) tokens = .ok event) :
    ∃ members final, WritesMembers innerRoom tokens members ∧
      draft.storeAll members = .ok final ∧ final.finish = .ok event := by
  induction size : tokens.length using Nat.strongRecOn generalizing draft tokens with
  | ind size inductionHypothesis =>
      obtain ⟨key, rest, rfl, fresh, readsMember⟩ := resume_key_eq_ok_iff.mp reads
      obtain ⟨value, others, next, readsValue, stores, readsOthers⟩ :=
        resume_value_eq_ok_iff.mp readsMember
      have shorter := Json.length_lt_of_resume readsValue
      rcases resume_afterMember_eq_ok_iff.mp readsOthers with
        ⟨later, rfl, readsLater⟩ | ⟨rfl, finished⟩
      · simp only [List.length_cons] at shorter size
        obtain ⟨members, final, writes, storesLater, finished⟩ :=
          inductionHypothesis later.length (by omega) readsLater rfl
        exact ⟨(key, value) :: members, final, .more key value readsValue writes,
          Draft.storeAll_cons_eq_ok_iff.mpr ⟨fresh, next, stores, storesLater⟩, finished⟩
      · exact ⟨[(key, value)], next, .last key value readsValue,
          Draft.storeAll_cons_eq_ok_iff.mpr ⟨fresh, next, stores, rfl⟩, finished⟩

theorem resume_of_writesMembers
    {members : List (String × Json.Value)}
    {final : Draft}
    (writes : WritesMembers innerRoom tokens members)
    (stores : draft.storeAll members = .ok final)
    (finished : final.finish = .ok event) :
    resume (.key draft) tokens = .ok event := by
  induction writes generalizing draft with
  | last key value reads =>
      obtain ⟨fresh, next, storesOne, storesNone⟩ :=
        Draft.storeAll_cons_eq_ok_iff.mp stores
      obtain rfl := Except.ok.inj storesNone
      apply resume_key_eq_ok_iff.mpr
      refine ⟨key, _, rfl, fresh, ?_⟩
      apply resume_value_eq_ok_iff.mpr
      refine ⟨value, _, next, reads, storesOne, ?_⟩
      exact resume_afterMember_eq_ok_iff.mpr (.inr ⟨rfl, finished⟩)
  | more key value reads later inductionHypothesis =>
      obtain ⟨fresh, next, storesOne, storesLater⟩ :=
        Draft.storeAll_cons_eq_ok_iff.mp stores
      apply resume_key_eq_ok_iff.mpr
      refine ⟨key, _, rfl, fresh, ?_⟩
      apply resume_value_eq_ok_iff.mpr
      refine ⟨value, _, next, reads, storesOne, ?_⟩
      exact resume_afterMember_eq_ok_iff.mpr (.inl ⟨_, rfl, inductionHypothesis storesLater⟩)

/-- A text is read as an event exactly when it writes an object whose members
can be taken one after the other. -/
theorem parse_eq_ok_iff {text : String} :
    parse text = .ok event ↔
      ∃ members final, WritesObject innerRoom (Token.ofText text) members ∧
        Draft.storeAll {} members = .ok final ∧ final.finish = .ok event := by
  rw [parse]
  generalize Token.ofText text = tokens
  constructor
  · intro reads
    rcases tokens with _ | ⟨token, rest⟩
    · cases reads
    · cases token with
      | openObject =>
          rcases resume_firstKey_eq_ok_iff.mp reads with readsKey | ⟨rfl, finished⟩
          · obtain ⟨members, final, writes, stores, finished⟩ :=
              exists_writesMembers_of_resume readsKey
            exact ⟨members, final, .members writes, stores, finished⟩
          · exact ⟨[], {}, .empty, rfl, finished⟩
      | _ => cases reads
  · rintro ⟨members, final, writes, stores, finished⟩
    cases writes with
    | empty =>
        obtain rfl := Except.ok.inj stores
        exact resume_firstKey_eq_ok_iff.mpr (.inr ⟨rfl, finished⟩)
    | members inner =>
        exact resume_firstKey_eq_ok_iff.mpr
          (.inl (resume_of_writesMembers inner stores finished))

/-! ## From the object as a whole -/

/-- What an object holds of an event is what the event holds. -/
theorem ofObject_eq_ok_iff {object : Json.Object} :
    ofObject object = .ok event ↔
      (object.get? nameKey).mapM Json.Value.asText = .ok (some event.name) ∧
        Json.optional Json.Value.asNumber (object.get? "done") = .ok event.done ∧
        Json.optional Json.Value.asNumber (object.get? "total") = .ok event.total ∧
        Json.optional Json.Value.asText (object.get? "msg") = .ok event.message ∧
        event.extra = object.without knownKeys := by
  rw [ofObject]
  rcases Json.optional Json.Value.asNumber (object.get? "done") with error | done
  · simp [bind, Except.bind]
  rcases (object.get? nameKey).mapM Json.Value.asText with error | name
  · simp [bind, Except.bind]
  rcases Json.optional Json.Value.asText (object.get? "msg") with error | message
  · simp [bind, Except.bind]
  rcases Json.optional Json.Value.asNumber (object.get? "total") with error | total
  · simp [bind, Except.bind]
  cases name with
  | none => simp [bind, Except.bind]
  | some name =>
      simp only [bind, Except.bind, pure, Except.pure, Except.ok.injEq, Option.some.injEq]
      constructor
      · rintro rfl
        exact ⟨rfl, rfl, rfl, rfl, rfl⟩
      · rintro ⟨rfl, rfl, rfl, rfl, further⟩
        rw [← further]

/-- A draft holds what an object holds. -/
structure Draft.Holds (draft : Draft) (object : Json.Object) : Prop where
  ordered : object.Ordered
  name : (object.get? nameKey).mapM Json.Value.asText = .ok draft.name
  done : Json.optional Json.Value.asNumber (object.get? "done") = .ok draft.done.join
  total : Json.optional Json.Value.asNumber (object.get? "total") = .ok draft.total.join
  message : Json.optional Json.Value.asText (object.get? "msg") = .ok draft.message.join
  extra : draft.extra = object.without knownKeys

namespace Draft.Holds

variable {object : Json.Object} {members : List (String × Json.Value)}

theorem empty : Draft.Holds {} [] where
  ordered := .nil
  name := rfl
  done := rfl
  total := rfl
  message := rfl
  extra := rfl

/-- A member goes into the draft as it goes into the object. -/
theorem store
    (holds : draft.Holds object)
    (stores : draft.store key value = .ok next) :
    next.Holds (object.insert key value) := by
  have ordered := holds.ordered.insert key value
  have own : (object.insert key value).get? key = some value :=
    Json.Object.get?_insert_self object key value
  have kept : ∀ other, other ≠ key →
      (object.insert key value).get? other = object.get? other :=
    fun _ different => Json.Object.get?_insert_of_ne different object value
  by_cases known : key ∈ knownKeys
  · have further := holds.extra.trans
      (Json.Object.without_insert_of_mem known object value).symm
    rcases mem_knownKeys_iff.mp known with rfl | rfl | rfl | rfl
    · obtain ⟨name, decodes, rfl⟩ := map_eq_ok_iff.mp stores
      refine ⟨ordered, ?_, ?_, ?_, ?_, further⟩
      · rw [own, Option.mapM_some, decodes]
        rfl
      · rw [kept _ (by decide), holds.done]
      · rw [kept _ (by decide), holds.total]
      · rw [kept _ (by decide), holds.message]
    · obtain ⟨done, decodes, rfl⟩ := map_eq_ok_iff.mp stores
      refine ⟨ordered, ?_, ?_, ?_, ?_, further⟩
      · rw [kept _ (by decide), holds.name]
      · rw [own, decodes]
        rfl
      · rw [kept _ (by decide), holds.total]
      · rw [kept _ (by decide), holds.message]
    · obtain ⟨total, decodes, rfl⟩ := map_eq_ok_iff.mp stores
      refine ⟨ordered, ?_, ?_, ?_, ?_, further⟩
      · rw [kept _ (by decide), holds.name]
      · rw [kept _ (by decide), holds.done]
      · rw [own, decodes]
        rfl
      · rw [kept _ (by decide), holds.message]
    · obtain ⟨message, decodes, rfl⟩ := map_eq_ok_iff.mp stores
      refine ⟨ordered, ?_, ?_, ?_, ?_, further⟩
      · rw [kept _ (by decide), holds.name]
      · rw [kept _ (by decide), holds.done]
      · rw [kept _ (by decide), holds.total]
      · rw [own, decodes]
        rfl
  · rw [store_of_not_mem_knownKeys known] at stores
    obtain rfl := Except.ok.inj stores
    obtain ⟨notName, notDone, notTotal, notMessage⟩ :
        key ≠ nameKey ∧ key ≠ "done" ∧ key ≠ "total" ∧ key ≠ "msg" := by
      simpa only [mem_knownKeys_iff, not_or] using known
    refine ⟨ordered, ?_, ?_, ?_, ?_, ?_⟩
    · rw [kept _ (Ne.symm notName), holds.name]
    · rw [kept _ (Ne.symm notDone), holds.done]
    · rw [kept _ (Ne.symm notTotal), holds.total]
    · rw [kept _ (Ne.symm notMessage), holds.message]
    · rw [holds.ordered.without_insert_of_not_mem known, holds.extra]

/-- The draft makes the event that the object makes. -/
theorem finish_eq_ok_iff
    (holds : draft.Holds object) :
    draft.finish = .ok event ↔ ofObject object = .ok event := by
  rw [ofObject_eq_ok_iff, holds.name, holds.done, holds.total, holds.message, ← holds.extra,
    Draft.finish]
  cases draft.name with
  | none => simp
  | some name =>
      simp only [Except.ok.injEq, Option.some.injEq]
      constructor
      · rintro rfl
        exact ⟨rfl, rfl, rfl, rfl, rfl⟩
      · rintro ⟨rfl, done, total, message, further⟩
        rw [done, total, message, ← further]

/-- Members that go into the draft go into the object. -/
theorem storeAll
    {final : Draft}
    (holds : draft.Holds object)
    (stores : draft.storeAll members = .ok final) :
    final.Holds (object.insertAll members) := by
  induction members generalizing draft object with
  | nil =>
      obtain rfl := Except.ok.inj stores
      exact holds
  | cons first rest inductionHypothesis =>
      obtain ⟨key, value⟩ := first
      obtain ⟨_, next, storesOne, storesRest⟩ := storeAll_cons_eq_ok_iff.mp stores
      exact inductionHypothesis (holds.store storesOne) storesRest

end Draft.Holds

/-- A value that an event was made from can be stored. -/
theorem exists_store
    {object : Json.Object}
    (made : ofObject object = .ok event)
    (held : object.get? key = some value)
    (draft : Draft) :
    ∃ next, draft.store key value = .ok next := by
  obtain ⟨name, done, total, message, _⟩ := ofObject_eq_ok_iff.mp made
  by_cases known : key ∈ knownKeys
  · rcases mem_knownKeys_iff.mp known with rfl | rfl | rfl | rfl
    · rw [held, Option.mapM_some] at name
      obtain ⟨found, decodes, _⟩ := map_eq_ok_iff.mp name
      exact ⟨_, map_eq_ok_iff.mpr ⟨found, decodes, rfl⟩⟩
    · rw [held] at done
      exact ⟨_, map_eq_ok_iff.mpr ⟨_, done, rfl⟩⟩
    · rw [held] at total
      exact ⟨_, map_eq_ok_iff.mpr ⟨_, total, rfl⟩⟩
    · rw [held] at message
      exact ⟨_, map_eq_ok_iff.mpr ⟨_, message, rfl⟩⟩
  · exact ⟨_, store_of_not_mem_knownKeys known draft value⟩

theorem has_of_not_mem_knownKeys
    (further : key ∉ knownKeys)
    (draft : Draft) :
    draft.has key = false := by
  simp only [mem_knownKeys_iff, not_or] at further
  simp [Draft.has, further]

/-- Storing a value fills its own field and no other known one. -/
theorem has_store
    (stores : draft.store key value = .ok next)
    {other : String}
    (known : other ∈ knownKeys) :
    next.has other = (decide (other = key) || draft.has other) := by
  by_cases stored : key ∈ knownKeys
  · rcases mem_knownKeys_iff.mp stored with rfl | rfl | rfl | rfl
    all_goals
      obtain ⟨found, _, rfl⟩ := map_eq_ok_iff.mp stores
      rcases mem_knownKeys_iff.mp known with rfl | rfl | rfl | rfl
      all_goals rfl
  · rw [store_of_not_mem_knownKeys stored] at stores
    obtain rfl := Except.ok.inj stores
    have different : other ≠ key := fun same => stored (same ▸ known)
    rw [decide_eq_false different, Bool.false_or]
    rfl

/-- A draft and more members together give no known field twice. -/
def Draft.Single (draft : Draft) (members : List (String × Json.Value)) : Prop :=
  ∀ key ∈ knownKeys, (draft.has key).toNat + (members.map Prod.fst).count key ≤ 1

namespace Draft.Single

variable {rest : List (String × Json.Value)}

theorem fresh
    (single : draft.Single ((key, value) :: rest)) :
    draft.has key = false := by
  by_cases known : key ∈ knownKeys
  · have once := single key known
    rw [List.map_cons, List.count_cons_self] at once
    exact Bool.toNat_eq_zero.mp (by omega)
  · exact has_of_not_mem_knownKeys known draft

theorem absent
    (single : draft.Single ((key, value) :: rest))
    (known : key ∈ knownKeys) :
    key ∉ rest.map Prod.fst := by
  have once := single key known
  rw [List.map_cons, List.count_cons_self] at once
  exact List.count_eq_zero.mp (by omega)

theorem store
    (single : draft.Single ((key, value) :: rest))
    (stores : draft.store key value = .ok next) :
    next.Single rest := by
  intro other known
  rw [has_store stores known]
  by_cases same : other = key
  · have none := List.count_eq_zero.mpr (single.absent (same ▸ known))
    rw [same, single.fresh, none]
    simp
  · have once := single other known
    rw [List.map_cons, List.count_cons_of_ne (Ne.symm same)] at once
    rw [decide_eq_false same, Bool.false_or]
    exact once

end Draft.Single

/-- Members that give no known field twice go into the draft when the object
that they make in the end stands for an event. -/
theorem exists_storeAll
    {object : Json.Object}
    {members : List (String × Json.Value)}
    (made : ofObject (object.insertAll members) = .ok event)
    (single : draft.Single members) :
    ∃ final, draft.storeAll members = .ok final := by
  induction members generalizing draft object with
  | nil => exact ⟨draft, rfl⟩
  | cons first rest inductionHypothesis =>
      obtain ⟨key, value⟩ := first
      obtain ⟨next, stores⟩ : ∃ next, draft.store key value = .ok next := by
        by_cases known : key ∈ knownKeys
        · -- The field is not repeated, so the object still has its value in the end.
          refine exists_store made ?_ draft
          rw [Json.Object.insertAll_cons,
            Json.Object.get?_insertAll_of_not_mem (single.absent known),
            Json.Object.get?_insert_self]
        · exact ⟨_, store_of_not_mem_knownKeys known draft value⟩
      obtain ⟨final, storesRest⟩ := inductionHypothesis made (single.store stores)
      exact ⟨final, Draft.storeAll_cons_eq_ok_iff.mpr ⟨single.fresh, next, stores, storesRest⟩⟩

/-! ## Both readings -/

/-- A text that is read as an event is read as an object that stands for it. -/
theorem exists_object_of_parse
    {text : String}
    (reads : parse text = .ok event) :
    ∃ object, Json.parse text = .ok (.object object) ∧ ofObject object = .ok event := by
  obtain ⟨members, final, writes, stores, finished⟩ := parse_eq_ok_iff.mp reads
  refine ⟨_, Json.parse_eq_object_iff.mpr ⟨members, writes, rfl⟩, ?_⟩
  exact (Draft.Holds.empty.storeAll stores).finish_eq_ok_iff.mp finished

/-- A text whose object stands for an event is read as this event, unless it
repeats a known field. -/
theorem parse_of_object
    {text : String}
    {object : Json.Object}
    (whole : Json.parse text = .ok (.object object))
    (made : ofObject object = .ok event)
    (single : ∀ key ∈ knownKeys, (Json.keysOfText text).count key ≤ 1) :
    parse text = .ok event := by
  obtain ⟨members, writes, rfl⟩ := Json.parse_eq_object_iff.mp whole
  have once : Draft.Single {} members := by
    intro key known
    rw [← Json.keysOfText_eq writes]
    have empty : Draft.has {} key = false := by
      rcases mem_knownKeys_iff.mp known with rfl | rfl | rfl | rfl <;> rfl
    rw [empty, Bool.toNat_false, Nat.zero_add]
    exact single key known
  obtain ⟨final, stores⟩ := exists_storeAll made once
  refine parse_eq_ok_iff.mpr ⟨members, final, writes, stores, ?_⟩
  exact (Draft.Holds.empty.storeAll stores).finish_eq_ok_iff.mpr made

end SyncEvent
end Progress
end SyncWatch
