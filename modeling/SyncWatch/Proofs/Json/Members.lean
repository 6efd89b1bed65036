import SyncWatch.Json.Basic
import Mathlib.Data.String.Basic

/-!
# The members of an object

An object keeps its keys in order, so it does not tell in which order its
members were inserted.  Inserting a member changes the value of no other key,
and leaving keys out before or after an insertion makes no difference.
-/

namespace SyncWatch
namespace Json
namespace Object

/-- The keys of an object stand in increasing order, each once. -/
def Ordered (object : Object) : Prop :=
  object.Pairwise fun first second => first.1 < second.1

variable {object : Object} {key other : String} {value : Value} {keys : List String}

theorem Ordered.nil : Ordered [] :=
  List.Pairwise.nil

/-- An insertion keeps the members of an object or replaces one of them. -/
theorem eq_or_mem_of_mem_insert
    {entry : String × Value}
    (present : entry ∈ object.insert key value) :
    entry = (key, value) ∨ entry ∈ object := by
  induction object with
  | nil => exact .inl (List.mem_singleton.mp present)
  | cons head rest inductionHypothesis =>
      obtain ⟨headKey, headValue⟩ := head
      rw [insert] at present
      split at present
      next => exact List.mem_cons.mp present
      next =>
        split at present
        next =>
          rcases List.mem_cons.mp present with new | old
          · exact .inl new
          · exact .inr (List.mem_cons_of_mem _ old)
        next =>
          rcases List.mem_cons.mp present with first | later
          · exact .inr (first ▸ List.mem_cons_self)
          · exact (inductionHypothesis later).imp_right (List.mem_cons_of_mem _)

theorem Ordered.insert
    (ordered : object.Ordered)
    (key : String)
    (value : Value) :
    (object.insert key value).Ordered := by
  induction object with
  | nil => exact List.pairwise_singleton _ _
  | cons head rest inductionHypothesis =>
      obtain ⟨headKey, headValue⟩ := head
      obtain ⟨smallest, orderedRest⟩ := List.pairwise_cons.mp ordered
      rw [Object.insert]
      split
      next before =>
        refine List.pairwise_cons.mpr ⟨?_, ordered⟩
        intro entry present
        rcases List.mem_cons.mp present with rfl | later
        · exact before
        · exact before.trans (smallest entry later)
      next notBefore =>
        split
        next same => exact List.pairwise_cons.mpr ⟨same ▸ smallest, orderedRest⟩
        next different =>
          refine List.pairwise_cons.mpr ⟨?_, inductionHypothesis orderedRest⟩
          intro entry present
          rcases eq_or_mem_of_mem_insert present with rfl | later
          · exact lt_of_le_of_ne (not_lt.mp notBefore) (Ne.symm different)
          · exact smallest entry later

@[simp] theorem get?_insert_self
    (object : Object)
    (key : String)
    (value : Value) :
    (object.insert key value).get? key = some value := by
  induction object with
  | nil => simp [get?]
  | cons head rest inductionHypothesis =>
      obtain ⟨headKey, headValue⟩ := head
      rw [insert]
      split
      next => simp [get?]
      next =>
        split
        next => simp [get?]
        next different =>
          have distinct : (key == headKey) = false := by simpa using different
          rw [get?, List.lookup_cons, distinct]
          exact inductionHypothesis

/-- An insertion changes the value of its own key only. -/
theorem get?_insert_of_ne
    (different : other ≠ key)
    (object : Object)
    (value : Value) :
    (object.insert key value).get? other = object.get? other := by
  have distinct : (other == key) = false := by simpa using different
  induction object with
  | nil => simp [get?, different]
  | cons head rest inductionHypothesis =>
      obtain ⟨headKey, headValue⟩ := head
      rw [insert]
      split
      next => rw [get?, get?, List.lookup_cons, distinct]
      next =>
        split
        next same =>
          rw [get?, get?, List.lookup_cons, List.lookup_cons, ← same, distinct]
        next =>
          simp only [get?, List.lookup_cons]
          split
          · rfl
          · exact inductionHypothesis

/-- A member that is left out anyway need not be inserted. -/
theorem without_insert_of_mem
    (left : key ∈ keys)
    (object : Object)
    (value : Value) :
    (object.insert key value).without keys = object.without keys := by
  have out : (!keys.contains key) = false := by simpa using left
  induction object with
  | nil => simp [without, left]
  | cons head rest inductionHypothesis =>
      obtain ⟨headKey, headValue⟩ := head
      rw [insert]
      split
      next => simp [without, left]
      next =>
        split
        next same => simp [without, left, ← same]
        next =>
          simp only [without, List.filter_cons] at inductionHypothesis ⊢
          rw [inductionHypothesis]

/-- A key before all others takes the first place. -/
theorem insert_of_forall_lt
    (before : ∀ entry ∈ object, key < entry.1)
    (value : Value) :
    object.insert key value = (key, value) :: object := by
  cases object with
  | nil => rfl
  | cons head rest => rw [insert, if_pos (before head List.mem_cons_self)]

/-- A key behind all others takes the last place. -/
theorem insert_of_forall_gt
    (behind : ∀ entry ∈ object, entry.1 < key)
    (value : Value) :
    object.insert key value = object ++ [(key, value)] := by
  induction object with
  | nil => rfl
  | cons head rest inductionHypothesis =>
      obtain ⟨headBefore, restBefore⟩ := List.forall_mem_cons.mp behind
      rw [insert, if_neg headBefore.not_gt, if_neg headBefore.ne',
        inductionHypothesis restBefore]
      rfl

/-- A member that stays can be inserted before or after others are left out. -/
theorem Ordered.without_insert_of_not_mem
    (ordered : object.Ordered)
    (stays : key ∉ keys)
    (value : Value) :
    (object.insert key value).without keys = (object.without keys).insert key value := by
  induction object with
  | nil => simp [without, stays]
  | cons head rest inductionHypothesis =>
      obtain ⟨headKey, headValue⟩ := head
      obtain ⟨smallest, orderedRest⟩ := List.pairwise_cons.mp ordered
      have later := inductionHypothesis orderedRest
      rw [Object.insert]
      split
      next before =>
        have first : ∀ entry ∈ Object.without ((headKey, headValue) :: rest) keys,
            key < entry.1 := by
          intro entry present
          rcases List.mem_cons.mp (List.mem_of_mem_filter present) with rfl | inRest
          · exact before
          · exact before.trans (smallest entry inRest)
        rw [insert_of_forall_lt first]
        simp [without, stays]
      next notBefore =>
        split
        next same =>
          subst same
          simp [without, stays, Object.insert]
        next different =>
          simp only [without, List.filter_cons] at later ⊢
          rw [later]
          split
          next => rw [Object.insert, if_neg notBefore, if_neg different]
          next => rfl

/-! ## Many members -/

/-- An object with more members, a later value replacing an earlier one of its
key. -/
def insertAll (object : Object) (members : List (String × Value)) : Object :=
  members.foldl (fun object entry => object.insert entry.1 entry.2) object

@[simp] theorem insertAll_nil (object : Object) : object.insertAll [] = object := rfl

@[simp] theorem insertAll_cons
    (object : Object)
    (key : String)
    (value : Value)
    (rest : List (String × Value)) :
    object.insertAll ((key, value) :: rest) = (object.insert key value).insertAll rest := rfl

/-- Members of other keys do not change the value of a key. -/
theorem get?_insertAll_of_not_mem
    {members : List (String × Value)}
    (absent : key ∉ members.map Prod.fst)
    (object : Object) :
    (object.insertAll members).get? key = object.get? key := by
  induction members generalizing object with
  | nil => rfl
  | cons first rest inductionHypothesis =>
      obtain ⟨firstKey, firstValue⟩ := first
      rw [List.map_cons, List.mem_cons, not_or] at absent
      rw [insertAll_cons, inductionHypothesis absent.2, get?_insert_of_ne absent.1]

/-- Of members with different keys each key keeps its value. -/
theorem get?_insertAll_of_nodup
    {members : List (String × Value)}
    (distinct : (members.map Prod.fst).Nodup)
    (object : Object)
    (key : String) :
    (object.insertAll members).get? key = (members.lookup key).or (object.get? key) := by
  induction members generalizing object with
  | nil => rfl
  | cons first rest inductionHypothesis =>
      obtain ⟨firstKey, firstValue⟩ := first
      rw [List.map_cons, List.nodup_cons] at distinct
      by_cases same : key = firstKey
      · subst same
        rw [insertAll_cons, get?_insertAll_of_not_mem distinct.1, get?_insert_self,
          List.lookup_cons_self, Option.some_or]
      · have other : (key == firstKey) = false := beq_eq_false_iff_ne.mpr same
        rw [insertAll_cons, inductionHypothesis distinct.2, get?_insert_of_ne same,
          List.lookup_cons, other]

theorem get?_ofList
    {members : List (String × Value)}
    (distinct : (members.map Prod.fst).Nodup)
    (key : String) :
    (Object.ofList members).get? key = members.lookup key :=
  (get?_insertAll_of_nodup distinct [] key).trans (Option.or_none)

/-- Members in increasing order of their keys are put one behind the other. -/
theorem Ordered.insertAll
    {members : List (String × Value)}
    (ordered : Ordered (object ++ members)) :
    object.insertAll members = object ++ members := by
  induction members generalizing object with
  | nil => exact (List.append_nil object).symm
  | cons first rest inductionHypothesis =>
      obtain ⟨key, value⟩ := first
      have behind : ∀ entry ∈ object, entry.1 < key := by
        intro entry present
        exact (List.pairwise_append.mp ordered).2.2 entry present _ List.mem_cons_self
      rw [List.append_cons] at ordered ⊢
      rw [insertAll_cons, insert_of_forall_gt behind, inductionHypothesis ordered]

/-- The members of an object are those that it is made of. -/
theorem Ordered.ofList
    (ordered : object.Ordered) :
    Object.ofList object = object :=
  Ordered.insertAll ordered

end Object
end Json
end SyncWatch
