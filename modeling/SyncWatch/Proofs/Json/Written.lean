import SyncWatch.Proofs.Json.Delimiters
import SyncWatch.Proofs.Json.Members

/-!
# Objects as they are written

The tokens of an object write its members one after the other, and a key may be
written more than once.  A value inside an object is read as it would be read
alone, with one container less to open, so reading an object is reading the
values of its members and inserting them in their order.
-/

namespace SyncWatch
namespace Json

/-! ## Values inside other containers -/

/-- A place with more containers around it. -/
def Cursor.inside (frame : List Open) : Cursor → Cursor
  | .value outer => .value (outer ++ frame)
  | .firstItem outer => .firstItem (outer ++ frame)
  | .afterItem items outer => .afterItem items (outer ++ frame)
  | .firstKey outer => .firstKey (outer ++ frame)
  | .key members outer => .key members (outer ++ frame)
  | .colon members name outer => .colon members name (outer ++ frame)
  | .afterMember members outer => .afterMember members (outer ++ frame)

/-- What a step leads to when more containers are around its place. -/
def Outcome.inside (frame : List Open) : Outcome → Outcome
  | .complete value => deliver value frame
  | .continues cursor => .continues (cursor.inside frame)

/-- Read on from what a step leads to. -/
def Outcome.resume (room : Nat) :
    Outcome → List Token → Except SyntaxError (Value × List Token)
  | .complete value, tokens => .ok (value, tokens)
  | .continues cursor, tokens => Json.resume room cursor tokens

theorem deliver_append (value : Value) (outer frame : List Open) :
    deliver value (outer ++ frame) = (deliver value outer).inside frame := by
  cases outer with
  | nil => rfl
  | cons container outer => cases container <;> rfl

theorem begin_append (room : Nat) (outer frame : List Open) (token : Token) :
    begin (room + frame.length) (outer ++ frame) token =
      (begin room outer token).map (Outcome.inside frame) := by
  cases token with
  | null | bool flag | number number | string text =>
      simp only [begin, deliver_append, Except.map]
  | openArray | openObject =>
      simp only [begin, List.length_append, Nat.add_lt_add_iff_right]
      split <;> rfl
  | _ => rfl

theorem readKey_append (members : Object) (outer frame : List Open) (token : Token) :
    readKey members (outer ++ frame) token =
      (readKey members outer token).map (Outcome.inside frame) := by
  cases token <;> rfl

/-- A step inside more containers is the step without them. -/
theorem step_inside (room : Nat) (frame : List Open) (cursor : Cursor) (token : Token) :
    (cursor.inside frame).step (room + frame.length) token =
      (cursor.step room token).map (Outcome.inside frame) := by
  cases cursor with
  | value outer => exact begin_append room outer frame token
  | firstItem outer =>
      cases token with
      | closeArray => exact congrArg Except.ok (deliver_append _ outer frame)
      | _ =>
          simp only [Cursor.inside, Cursor.step]
          exact begin_append room (.array [] :: outer) frame _
  | afterItem items outer =>
      cases token with
      | closeArray => exact congrArg Except.ok (deliver_append _ outer frame)
      | _ => rfl
  | firstKey outer =>
      cases token with
      | closeObject => exact congrArg Except.ok (deliver_append _ outer frame)
      | _ => rfl
  | key members outer => exact readKey_append members outer frame token
  | colon members name outer => cases token <;> rfl
  | afterMember members outer =>
      cases token with
      | closeObject => exact congrArg Except.ok (deliver_append _ outer frame)
      | _ => rfl

theorem resume_cons (room : Nat) (cursor : Cursor) (token : Token) (rest : List Token) :
    resume room cursor (token :: rest) =
      cursor.step room token >>= fun outcome => outcome.resume room rest := by
  rw [resume]
  rcases cursor.step room token with error | outcome
  · rfl
  · cases outcome <;> rfl

/-- A value inside more containers is read as it is read without them, and
then handed to the innermost of them. -/
theorem resume_inside (room : Nat) (frame : List Open) (cursor : Cursor) (tokens : List Token) :
    resume (room + frame.length) (cursor.inside frame) tokens =
      resume room cursor tokens >>= fun read =>
        (deliver read.1 frame).resume (room + frame.length) read.2 := by
  induction tokens generalizing cursor with
  | nil => rfl
  | cons token rest inductionHypothesis =>
      rw [resume_cons, resume_cons, step_inside]
      rcases cursor.step room token with error | outcome
      · rfl
      · cases outcome with
        | complete value => rfl
        | continues next => exact inductionHypothesis next

/-- Reading a value takes at least one token. -/
theorem length_lt_of_resume
    {room : Nat}
    {cursor : Cursor}
    {tokens rest : List Token}
    {value : Value}
    (reads : resume room cursor tokens = .ok (value, rest)) :
    rest.length < tokens.length := by
  induction tokens generalizing cursor with
  | nil => cases reads
  | cons token others inductionHypothesis =>
      rw [resume] at reads
      split at reads
      next => cases reads
      next =>
        obtain ⟨_, rfl⟩ := Prod.mk.inj (Except.ok.inj reads)
        exact Nat.lt_succ_self _
      next => exact (inductionHypothesis reads).trans (Nat.lt_succ_self _)

/-! ## Scalars and containers -/

/-- The value that a token writes alone. -/
def Token.value? : Token → Option Value
  | .null => some .null
  | .bool flag => some (.bool flag)
  | .number written => some (.number written)
  | .string text => some (.string text)
  | _ => none

/-- Whether a value is an array or an object. -/
def Value.isContainer : Value → Bool
  | .array _ | .object _ => true
  | _ => false

theorem resume_value_of_value?
    {token : Token}
    {value : Value}
    (alone : token.value? = some value)
    (room : Nat)
    (rest : List Token) :
    resume room (.value []) (token :: rest) = .ok (value, rest) := by
  cases token with
  | null | bool flag | number number | string text =>
      obtain rfl := Option.some.inj alone
      rfl
  | _ => cases alone

/-- What is read inside a container makes a container in the end. -/
def Outcome.OfContainer : Outcome → Prop
  | .complete value => value.isContainer = true
  | .continues next => next.containers ≠ []

/-- A value inside a container goes to it. -/
theorem ofContainer_deliver
    {outer : List Open}
    (opened : outer ≠ [])
    (value : Value) :
    (deliver value outer).OfContainer := by
  cases outer with
  | nil => exact absurd rfl opened
  | cons container outer => cases container <;> exact List.cons_ne_nil _ _

/-- A finished container goes to the one around it, or it is the whole value. -/
theorem ofContainer_deliver_container
    {value : Value}
    (container : value.isContainer = true)
    (outer : List Open) :
    (deliver value outer).OfContainer := by
  cases outer with
  | nil => exact container
  | cons first outer => exact ofContainer_deliver (List.cons_ne_nil _ _) value

theorem ofContainer_begin
    {room : Nat}
    {outer : List Open}
    {token : Token}
    {outcome : Outcome}
    (opened : outer ≠ [])
    (begins : begin room outer token = .ok outcome) :
    outcome.OfContainer := by
  cases beginning_of_begin begins with
  | scalar _ value _ => exact ofContainer_deliver opened value
  | array | object => exact List.cons_ne_nil _ _

theorem ofContainer_readKey
    {members : Object}
    {outer : List Open}
    {token : Token}
    {outcome : Outcome}
    (reads : readKey members outer token = .ok outcome) :
    outcome.OfContainer := by
  cases token with
  | string name =>
      obtain rfl := Except.ok.inj reads
      exact List.cons_ne_nil _ _
  | _ => cases reads

theorem ofContainer_step
    {room : Nat}
    {cursor : Cursor}
    {token : Token}
    {outcome : Outcome}
    (opened : cursor.containers ≠ [])
    (steps : cursor.step room token = .ok outcome) :
    outcome.OfContainer := by
  rw [Cursor.step.eq_def] at steps
  split at steps
  · exact ofContainer_begin opened steps
  · obtain rfl := Except.ok.inj steps
    exact ofContainer_deliver_container rfl _
  · exact ofContainer_begin (List.cons_ne_nil _ _) steps
  · obtain rfl := Except.ok.inj steps
    exact List.cons_ne_nil _ _
  · obtain rfl := Except.ok.inj steps
    exact ofContainer_deliver_container rfl _
  · cases steps
  · obtain rfl := Except.ok.inj steps
    exact ofContainer_deliver_container rfl _
  · exact ofContainer_readKey steps
  · exact ofContainer_readKey steps
  · obtain rfl := Except.ok.inj steps
    exact List.cons_ne_nil _ _
  · cases steps
  · obtain rfl := Except.ok.inj steps
    exact List.cons_ne_nil _ _
  · obtain rfl := Except.ok.inj steps
    exact ofContainer_deliver_container rfl _
  · cases steps

/-- A value that is read inside a container is a container. -/
theorem isContainer_of_resume
    {room : Nat}
    {cursor : Cursor}
    {tokens others : List Token}
    {value : Value}
    (opened : cursor.containers ≠ [])
    (reads : resume room cursor tokens = .ok (value, others)) :
    value.isContainer = true := by
  induction tokens generalizing cursor with
  | nil => cases reads
  | cons token rest inductionHypothesis =>
      rw [resume] at reads
      split at reads
      next => cases reads
      next completes =>
        obtain ⟨rfl, _⟩ := Prod.mk.inj (Except.ok.inj reads)
        exact ofContainer_step opened completes
      next continues => exact inductionHypothesis (ofContainer_step opened continues) reads

/-- A value that is no container is read from a single token. -/
theorem exists_token_of_resume
    {room : Nat}
    {tokens others : List Token}
    {value : Value}
    (scalar : value.isContainer = false)
    (reads : resume room (.value []) tokens = .ok (value, others)) :
    ∃ token, tokens = token :: others ∧ token.value? = some value := by
  cases tokens with
  | nil => cases reads
  | cons token rest =>
      cases token with
      | null | bool flag | number number | string text =>
          obtain ⟨rfl, rfl⟩ := Prod.mk.inj (Except.ok.inj reads)
          exact ⟨_, rfl, rfl⟩
      | openArray | openObject =>
          -- The value would be the container that the token opens.
          rw [resume] at reads
          split at reads
          next => cases reads
          next completes =>
            simp only [Cursor.step, begin] at completes
            split at completes <;> cases completes
          next next continues =>
            have opened : next.containers ≠ [] := by
              simp only [Cursor.step, begin] at continues
              split at continues
              · obtain rfl := Outcome.continues.inj (Except.ok.inj continues)
                exact List.cons_ne_nil _ _
              · cases continues
            rw [isContainer_of_resume opened reads] at scalar
            cases scalar
      | _ => cases reads

/-! ## Members and objects -/

/-- Some tokens write members, from the first key up to the brace that closes
the object.  Their values open at most `room` containers each. -/
inductive WritesMembers (room : Nat) : List Token → List (String × Value) → Prop
  | last {tokens : List Token} (key : String) (value : Value)
      (reads : resume room (.value []) tokens = .ok (value, [.closeObject])) :
      WritesMembers room (.string key :: .colon :: tokens) [(key, value)]
  | more {tokens rest : List Token} {members : List (String × Value)}
      (key : String) (value : Value)
      (reads : resume room (.value []) tokens = .ok (value, .comma :: rest))
      (later : WritesMembers room rest members) :
      WritesMembers room (.string key :: .colon :: tokens) ((key, value) :: members)

/-- Some tokens write an object with members in a given order, in which a key
may be repeated. -/
inductive WritesObject (room : Nat) : List Token → List (String × Value) → Prop
  | empty : WritesObject room [.openObject, .closeObject] []
  | members {tokens : List Token} {members : List (String × Value)}
      (writes : WritesMembers room tokens members) :
      WritesObject room (.openObject :: tokens) members

variable {room : Nat} {object whole : Object} {outer : List Open} {tokens : List Token}
  {key : String} {result : Value × List Token}

theorem resume_key_eq_ok_iff :
    resume room (.key object outer) tokens = .ok result ↔
      ∃ key rest, tokens = .string key :: .colon :: rest ∧
        resume room (.value (.object object key :: outer)) rest = .ok result := by
  constructor
  · intro reads
    rcases tokens with _ | ⟨token, tokens⟩
    · cases reads
    · cases token with
      | string key =>
          rcases tokens with _ | ⟨separator, rest⟩
          · cases reads
          · cases separator with
            | colon => exact ⟨key, rest, rfl, reads⟩
            | _ => cases reads
      | _ => cases reads
  · rintro ⟨key, rest, rfl, reads⟩
    exact reads

/-- The value of a member is read as it would be read alone. -/
theorem resume_value_eq_ok_iff :
    resume (room + 1) (.value [.object object key]) tokens = .ok result ↔
      ∃ value others, resume room (.value []) tokens = .ok (value, others) ∧
        resume (room + 1) (.afterMember (object.insert key value) []) others =
          .ok result := by
  have alone := resume_inside room [.object object key] (.value []) tokens
  change resume (room + 1) (.value [.object object key]) tokens = _ at alone
  rw [alone]
  rcases resume room (.value []) tokens with error | ⟨value, others⟩
  · constructor
    · intro reads
      cases reads
    · rintro ⟨value, others, reads, _⟩
      cases reads
  · constructor
    · intro reads
      exact ⟨value, others, rfl, reads⟩
    · rintro ⟨_, _, same, reads⟩
      obtain ⟨rfl, rfl⟩ := Prod.mk.inj (Except.ok.inj same)
      exact reads

theorem resume_afterMember_eq_ok_iff :
    resume room (.afterMember object []) tokens = .ok result ↔
      (∃ rest, tokens = .comma :: rest ∧ resume room (.key object []) rest = .ok result) ∨
        ∃ rest, tokens = .closeObject :: rest ∧ result = (.object object, rest) := by
  constructor
  · intro reads
    rcases tokens with _ | ⟨token, rest⟩
    · cases reads
    · cases token with
      | comma => exact .inl ⟨rest, rfl, reads⟩
      | closeObject => exact .inr ⟨rest, rfl, (Except.ok.inj reads).symm⟩
      | _ => cases reads
  · rintro (⟨rest, rfl, reads⟩ | ⟨rest, rfl, rfl⟩)
    · exact reads
    · rfl

theorem resume_firstKey_eq_ok_iff :
    resume room (.firstKey []) tokens = .ok result ↔
      (∃ rest, tokens = .closeObject :: rest ∧ result = (.object [], rest)) ∨
        resume room (.key [] []) tokens = .ok result := by
  constructor
  · intro reads
    rcases tokens with _ | ⟨token, rest⟩
    · cases reads
    · cases token with
      | closeObject => exact .inl ⟨rest, rfl, (Except.ok.inj reads).symm⟩
      | _ => exact .inr reads
  · rintro (⟨rest, rfl, rfl⟩ | reads)
    · rfl
    · obtain ⟨key, rest, rfl, _⟩ := resume_key_eq_ok_iff.mp reads
      exact reads

/-- An object that is read to the end of the tokens inserts the members that
the tokens write. -/
theorem exists_writesMembers_of_resume
    (reads : resume (room + 1) (.key object []) tokens = .ok (.object whole, [])) :
    ∃ members, WritesMembers room tokens members ∧ whole = object.insertAll members := by
  induction size : tokens.length using Nat.strongRecOn generalizing object tokens with
  | ind size inductionHypothesis =>
      obtain ⟨key, rest, rfl, readsMember⟩ := resume_key_eq_ok_iff.mp reads
      obtain ⟨value, others, readsValue, readsOthers⟩ := resume_value_eq_ok_iff.mp readsMember
      have shorter := length_lt_of_resume readsValue
      rcases resume_afterMember_eq_ok_iff.mp readsOthers with
        ⟨later, rfl, readsLater⟩ | ⟨final, rfl, same⟩
      · simp only [List.length_cons] at shorter size
        obtain ⟨members, writes, inserts⟩ :=
          inductionHypothesis later.length (by omega) readsLater rfl
        exact ⟨(key, value) :: members, .more key value readsValue writes, inserts⟩
      · obtain ⟨inserts, rfl⟩ := Prod.mk.inj same
        exact ⟨[(key, value)], .last key value readsValue, Value.object.inj inserts⟩

theorem WritesMembers.resume
    {members : List (String × Value)}
    (writes : WritesMembers room tokens members)
    (object : Object) :
    Json.resume (room + 1) (.key object []) tokens =
      .ok (.object (object.insertAll members), []) := by
  induction writes generalizing object with
  | last key value reads =>
      apply resume_key_eq_ok_iff.mpr
      refine ⟨key, _, rfl, resume_value_eq_ok_iff.mpr ⟨value, _, reads, ?_⟩⟩
      exact resume_afterMember_eq_ok_iff.mpr (.inr ⟨[], rfl, rfl⟩)
  | more key value reads later inductionHypothesis =>
      apply resume_key_eq_ok_iff.mpr
      refine ⟨key, _, rfl, resume_value_eq_ok_iff.mpr ⟨value, _, reads, ?_⟩⟩
      exact resume_afterMember_eq_ok_iff.mpr (.inl ⟨_, rfl, inductionHypothesis _⟩)

/-- A text is read as a value when its tokens are read to the end. -/
theorem parse_eq_ok_iff {text : String} {value : Value} :
    parse text = .ok value ↔ readValue (Token.ofText text) = .ok (value, []) := by
  rw [parse]
  rcases readValue (Token.ofText text) with error | ⟨found, _ | ⟨token, rest⟩⟩
  · simp
  · simp
  · simp

/-- A text is read as an object exactly when it writes one, and of two values
for one key the later one stays. -/
theorem parse_eq_object_iff {text : String} :
    parse text = .ok (.object whole) ↔
      ∃ members, WritesObject (deepest - 1) (Token.ofText text) members ∧
        whole = Object.ofList members := by
  rw [parse_eq_ok_iff]
  generalize Token.ofText text = tokens
  constructor
  · intro reads
    obtain ⟨opens, _⟩ := tokens_of_object reads
    obtain ⟨rest, rfl⟩ := List.head?_eq_some_iff.mp opens
    have inside : resume deepest (.firstKey []) rest = .ok (.object whole, []) := reads
    rcases resume_firstKey_eq_ok_iff.mp inside with ⟨others, rfl, same⟩ | readsKey
    · obtain ⟨nothing, rfl⟩ := Prod.mk.inj same
      exact ⟨[], .empty, Value.object.inj nothing⟩
    · obtain ⟨members, writes, inserts⟩ := exists_writesMembers_of_resume readsKey
      exact ⟨members, .members writes, inserts⟩
  · rintro ⟨members, writes, rfl⟩
    cases writes with
    | empty => rfl
    | members inner =>
        have readsKey : resume deepest (.key [] []) _ = .ok (.object _, []) := inner.resume []
        exact resume_firstKey_eq_ok_iff.mpr (.inr readsKey)

end Json
end SyncWatch
