import SyncWatch.Proofs.Json.Spelling
import SyncWatch.Proofs.Json.Written
import Mathlib.Data.List.Forall2

/-!
# Values that are read as they were written

The text of a value is read back as the value itself when its numbers are
integers of 64 bits, its objects are in order and its containers are not nested
too deep.  Each kind of value is read with any text behind it, so the containers
follow from what they hold.
-/

namespace SyncWatch
namespace Json

open Token (scan Separates)

/-- A value of nulls, booleans, strings and integers of 64 bits, with at most
`room` arrays and objects inside each other. -/
inductive Value.Plain : Nat → Value → Prop
  | null (room : Nat) : Plain room .null
  | bool (room : Nat) (flag : Bool) : Plain room (.bool flag)
  | integer (room : Nat) {value : Int} (held : Word.holdsEither 64 value = true) :
      Plain room (.number (.integer value))
  | string (room : Nat) (text : String) : Plain room (.string text)
  | array {room : Nat} {items : List Value} (plain : ∀ item ∈ items, Plain room item) :
      Plain (room + 1) (.array items)
  | object {room : Nat} {members : Object} (ordered : members.Ordered)
      (plain : ∀ entry ∈ members, Plain room entry.2) : Plain (room + 1) (.object members)

/-- The text of a value is read as a value `found` with at most `room` open
containers, and the reader stops behind it. -/
def Value.ReadsAs (room : Nat) (written found : Value) : Prop :=
  ∀ rest, Separates rest →
    resume room (.value []) (scan .between (written.chars ++ rest)) =
      .ok (found, scan .between rest)

/-- A member is read with its key. -/
def MemberReadsAs (room : Nat) (written found : String × Value) : Prop :=
  written.1 = found.1 ∧ written.2.ReadsAs room found.2

variable {room : Nat}

theorem readsAs_of_scan
    {token : Token}
    {value : Value}
    (alone : token.value? = some value)
    (spelled : ∀ rest, Separates rest →
      scan .between (value.chars ++ rest) = token :: scan .between rest) :
    value.ReadsAs room value := by
  intro rest separates
  rw [spelled rest separates]
  exact resume_value_of_value? alone room _

/-! ## Arrays -/

/-- The first item of an array is read as any other. -/
theorem resume_firstItem
    {tokens : List Token}
    {result : Value × List Token}
    (reads : resume room (.value [.array []]) tokens = .ok result) :
    resume room (.firstItem []) tokens = .ok result := by
  cases tokens with
  | nil => cases reads
  | cons token rest =>
      cases token with
      | closeArray => cases reads
      | _ => exact reads

/-- An item is handed to the array around it. -/
theorem resume_item
    {tokens others : List Token}
    {item : Value}
    (reads : resume room (.value []) tokens = .ok (item, others))
    (items : List Value) :
    resume (room + 1) (.value [.array items]) tokens =
      resume (room + 1) (.afterItem (item :: items) []) others := by
  have inside := resume_inside room [.array items] (.value []) tokens
  rw [reads] at inside
  exact inside

/-- The items from the first one on are added to the earlier ones. -/
theorem resume_items
    {first : Value}
    {others : List Value}
    (reads : ∀ item ∈ first :: others, item.ReadsAs room item)
    (earlier : List Value)
    (rest : List Char) :
    resume (room + 1) (.value [.array earlier])
        (scan .between (joinWithCommas (itemChars (first :: others)) ++ ']' :: rest)) =
      .ok (.array (earlier.reverse ++ first :: others), scan .between rest) := by
  induction others generalizing first earlier with
  | nil =>
      have read := reads first List.mem_cons_self (']' :: rest) (.cons (by decide) rest)
      change resume _ _ (scan .between (first.chars ++ ']' :: rest)) = _
      rw [resume_item read, List.append_cons, List.append_nil, ← List.reverse_cons]
      rfl
  | cons second others inductionHypothesis =>
      obtain ⟨readsFirst, readsOthers⟩ := List.forall_mem_cons.mp reads
      have text : joinWithCommas (itemChars (first :: second :: others)) ++ ']' :: rest =
          first.chars ++
            ',' :: (joinWithCommas (itemChars (second :: others)) ++ ']' :: rest) :=
        List.append_assoc _ _ _
      have later := inductionHypothesis readsOthers (first :: earlier)
      rw [List.reverse_cons, List.append_assoc] at later
      rw [text, resume_item (readsFirst _ (.cons (by decide) _))]
      exact later

/-- An array whose items are read as they were written is so itself. -/
theorem Value.ReadsAs.array
    {items : List Value}
    (reads : ∀ item ∈ items, item.ReadsAs room item) :
    (Value.array items).ReadsAs (room + 1) (.array items) := by
  intro rest _
  have opened : resume (room + 1) (.value [])
      (scan .between ((Value.array items).chars ++ rest)) =
        resume (room + 1) (.firstItem [])
          (scan .between (joinWithCommas (itemChars items) ++ ']' :: rest)) := by
    rw [Value.chars, List.append_assoc]
    rfl
  rw [opened]
  cases items with
  | nil => rfl
  | cons first others => exact resume_firstItem (resume_items reads [] rest)

/-! ## Objects -/

/-- A key and its colon are read before the value of the member. -/
theorem scan_member
    (key : String)
    (value : Value)
    (rest : List Char) :
    scan .between ((stringText key ++ ':' :: value.chars) ++ rest) =
      .string key :: .colon :: scan .between (value.chars ++ rest) := by
  rw [List.append_assoc, Token.scan_stringText]
  rfl

theorem joinWithCommas_memberChars
    (first second : String × Value)
    (others : List (String × Value))
    (rest : List Char) :
    joinWithCommas (memberChars (first :: second :: others)) ++ rest =
      (stringText first.1 ++ ':' :: first.2.chars) ++
        ',' :: (joinWithCommas (memberChars (second :: others)) ++ rest) :=
  List.append_assoc _ _ _

variable {written found : List (String × Value)}

/-- What the tokens of the last member have, and what a member and a comma give
to those in front, the tokens of all members have. -/
theorem members_induction
    {motive : List Token → List (String × Value) → Prop}
    {rest : List Char}
    (last : ∀ key value tokens,
      resume room (.value []) tokens = .ok (value, .closeObject :: scan .between rest) →
        motive (.string key :: .colon :: tokens) [(key, value)])
    (more : ∀ key value tokens others members,
      resume room (.value []) tokens = .ok (value, .comma :: others) →
        motive others members →
          motive (.string key :: .colon :: tokens) ((key, value) :: members))
    (reads : List.Forall₂ (MemberReadsAs room) written found)
    (nonempty : written ≠ []) :
    motive (scan .between (joinWithCommas (memberChars written) ++ '\x7d' :: rest)) found := by
  induction reads with
  | nil => exact absurd rfl nonempty
  | @cons first final others later readsFirst readsOthers inductionHypothesis =>
      obtain ⟨key, value⟩ := final
      obtain ⟨rfl, readsValue⟩ := readsFirst
      cases others with
      | nil =>
          cases readsOthers
          have text : scan .between (joinWithCommas (memberChars [first]) ++ '\x7d' :: rest) = _ :=
            scan_member first.1 first.2 ('\x7d' :: rest)
          rw [text]
          exact last _ _ _ (readsValue _ (.cons (by decide) rest))
      | cons second others =>
          rw [joinWithCommas_memberChars, scan_member]
          exact more _ _ _ _ _ (readsValue _ (.cons (by decide) _))
            (inductionHypothesis (List.cons_ne_nil _ _))

/-- Members that are read one by one are inserted in their order. -/
theorem resume_members
    (reads : List.Forall₂ (MemberReadsAs room) written found)
    (nonempty : written ≠ [])
    (object : Object)
    (rest : List Char) :
    resume (room + 1) (.key object [])
        (scan .between (joinWithCommas (memberChars written) ++ '\x7d' :: rest)) =
      .ok (.object (object.insertAll found), scan .between rest) := by
  refine members_induction (motive := fun tokens members => ∀ object : Object,
    resume (room + 1) (.key object []) tokens =
      .ok (.object (object.insertAll members), scan .between rest)) ?_ ?_ reads nonempty object
  · intro key value tokens readsValue object
    refine resume_key_eq_ok_iff.mpr ⟨key, tokens, rfl, ?_⟩
    refine resume_value_eq_ok_iff.mpr ⟨value, _, readsValue, ?_⟩
    exact resume_afterMember_eq_ok_iff.mpr (.inr ⟨_, rfl, rfl⟩)
  · intro key value tokens others members readsValue readsLater object
    refine resume_key_eq_ok_iff.mpr ⟨key, tokens, rfl, ?_⟩
    refine resume_value_eq_ok_iff.mpr ⟨value, _, readsValue, ?_⟩
    exact resume_afterMember_eq_ok_iff.mpr (.inl ⟨others, rfl, readsLater _⟩)

/-- Members that are read one by one are written by their text. -/
theorem writesMembers_of_readsAs
    (reads : List.Forall₂ (MemberReadsAs room) written found)
    (nonempty : written ≠ []) :
    WritesMembers room
      (scan .between (joinWithCommas (memberChars written) ++ ['\x7d'])) found :=
  members_induction (fun key value _ => .last key value) (fun key value _ _ _ => .more key value)
    reads nonempty

/-- An object is read with its members in order, of two for one key the later one. -/
theorem Value.ReadsAs.object
    (reads : List.Forall₂ (MemberReadsAs room) written found) :
    (Value.object written).ReadsAs (room + 1) (.object (Object.ofList found)) := by
  intro rest _
  have opened : resume (room + 1) (.value [])
      (scan .between ((Value.object written).chars ++ rest)) =
        resume (room + 1) (.firstKey [])
          (scan .between (joinWithCommas (memberChars written) ++ '\x7d' :: rest)) := by
    rw [Value.chars, List.append_assoc]
    rfl
  rw [opened]
  cases reads with
  | nil => rfl
  | cons readsFirst readsOthers =>
      exact resume_firstKey_eq_ok_iff.mpr
        (.inr (resume_members (.cons readsFirst readsOthers) (List.cons_ne_nil _ _) [] rest))

/-- The text of an object writes its members as they are read. -/
theorem writesObject_of_readsAs
    (reads : List.Forall₂ (MemberReadsAs room) written found) :
    WritesObject room (Token.ofText (Value.object written).text) found := by
  have opened : Token.ofText (Value.object written).text =
      .openObject :: scan .between (joinWithCommas (memberChars written) ++ ['\x7d']) := by
    rw [Token.ofText, Value.text, String.toList_ofList, Value.chars]
    rfl
  rw [opened]
  cases reads with
  | nil => exact .empty
  | cons readsFirst readsOthers =>
      exact .members
        (writesMembers_of_readsAs (.cons readsFirst readsOthers) (List.cons_ne_nil _ _))

/-- The text of an object has no white space around it. -/
theorem trimmed_text_object (members : List (String × Value)) :
    Text.trimmed (Value.object members).text = (Value.object members).text := by
  rw [Text.trimmed, Value.text, String.toList_ofList, Value.chars]
  exact congrArg String.ofList (Text.trim_eq_self rfl rfl _)

/-! ## All plain values -/

theorem Value.Plain.readsAs
    {value : Value}
    (plain : value.Plain room) :
    value.ReadsAs room value := by
  induction plain with
  | null room => exact readsAs_of_scan rfl fun _ _ => rfl
  | bool room flag => exact readsAs_of_scan rfl fun _ _ => by cases flag <;> rfl
  | integer room held => exact readsAs_of_scan rfl fun _ => Token.scan_integer held
  | string room text => exact readsAs_of_scan rfl fun rest _ => Token.scan_stringText text rest
  | array _ inductionHypothesis => exact .array inductionHypothesis
  | @object room members ordered _ inductionHypothesis =>
      have reads : List.Forall₂ (MemberReadsAs room) members members :=
        List.forall₂_same.mpr fun entry present => ⟨rfl, inductionHypothesis entry present⟩
      have whole := Value.ReadsAs.object reads
      rw [ordered.ofList] at whole
      exact whole

/-- Arrays inside each other take up room one by one. -/
theorem Value.Plain.iterate_array
    {value : Value}
    (plain : value.Plain room)
    (count : Nat) :
    ((fun inner => Value.array [inner])^[count] value).Plain (room + count) := by
  induction count with
  | zero => exact plain
  | succ count inductionHypothesis =>
      rw [Function.iterate_succ_apply']
      refine .array fun item present => ?_
      rw [List.mem_singleton.mp present]
      exact inductionHypothesis

/-- A text that is read to its end is one value. -/
theorem Value.ReadsAs.parse_text
    {written found : Value}
    (reads : written.ReadsAs deepest found) :
    parse written.text = .ok found := by
  have whole := reads [] .nil
  rw [List.append_nil] at whole
  rw [parse_eq_ok_iff, Token.ofText, Value.text, String.toList_ofList]
  exact whole

/-- Reading undoes writing for every plain value that is not nested too deep. -/
theorem Value.Plain.parse_text
    {value : Value}
    (plain : value.Plain deepest) :
    parse value.text = .ok value :=
  plain.readsAs.parse_text

end Json
end SyncWatch
