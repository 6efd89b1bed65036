import SyncWatch.Proofs.Json.Written

/-!
# The keys of an object in its text

The keys of an object can be told from its tokens by counting the containers
that are open: a key is a string directly inside the object that a colon
follows.  These are the keys of the members that the tokens write, repeated
ones included.
-/

namespace SyncWatch
namespace Json

/-- How many containers are open after a token. -/
def Token.depthAfter (depth : Nat) : Token → Nat
  | .openArray | .openObject => depth + 1
  | .closeArray | .closeObject => depth - 1
  | _ => depth

/-- The text of a string token. -/
def Token.text? : Token → Option String
  | .string text => some text
  | _ => none

/-- The keys of the outermost object among some tokens, when `depth` containers
are open and the string `before` stands in front of the tokens, if any does. -/
def keysFrom : Nat → Option String → List Token → List String
  | _, _, [] => []
  | depth, before, .colon :: rest =>
    (if depth = 1 then before.toList else []) ++ keysFrom depth none rest
  | depth, _, token :: rest => keysFrom (token.depthAfter depth) token.text? rest

/-- The keys of the object that a text writes, in the order of the text. -/
def keysOfText (text : String) : List String :=
  keysFrom 0 none (Token.ofText text)

variable {room : Nat} {outer : List Open} {token : Token} {outcome : Outcome}

/-- How many containers are open after a step. -/
def Outcome.depth : Outcome → Nat
  | .complete _ => 0
  | .continues next => next.containers.length

@[simp] theorem depth_deliver (value : Value) (outer : List Open) :
    (deliver value outer).depth = outer.length := by
  cases outer with
  | nil => rfl
  | cons container outer => cases container <;> rfl

/-- Containers around a value do not matter for the depth inside them. -/
theorem depth_begin
    (begins : begin room outer token = .ok outcome)
    (around : Nat) :
    token.depthAfter (outer.length + around) = outcome.depth + around := by
  cases token with
  | null | bool flag | number number | string text =>
      obtain rfl := Except.ok.inj begins
      rw [depth_deliver]
      rfl
  | openArray | openObject =>
      rw [begin] at begins
      split at begins
      · obtain rfl := Except.ok.inj begins
        simp only [Token.depthAfter, Outcome.depth, Cursor.containers, List.length_cons]
        omega
      · cases begins
  | _ => cases begins

theorem depth_readKey
    {members : Object}
    (reads : readKey members outer token = .ok outcome)
    (around : Nat) :
    token.depthAfter (outer.length + 1 + around) = outcome.depth + around := by
  cases token with
  | string key =>
      obtain rfl := Except.ok.inj reads
      rfl
  | _ => cases reads

/-- A container that is closed is open no longer. -/
theorem depth_close (value : Value) (outer : List Open) (around : Nat) :
    outer.length + 1 + around - 1 = (deliver value outer).depth + around := by
  rw [depth_deliver]
  omega

/-- Counting tokens counts the containers that the reader has open. -/
theorem depth_step
    {cursor : Cursor}
    (steps : cursor.step room token = .ok outcome)
    (around : Nat) :
    token.depthAfter (cursor.containers.length + around) = outcome.depth + around := by
  rw [Cursor.step.eq_def] at steps
  split at steps
  · exact depth_begin steps around
  · obtain rfl := Except.ok.inj steps
    exact depth_close _ _ around
  · exact depth_begin steps around
  · obtain rfl := Except.ok.inj steps
    rfl
  · obtain rfl := Except.ok.inj steps
    exact depth_close _ _ around
  · cases steps
  · obtain rfl := Except.ok.inj steps
    exact depth_close _ _ around
  · exact depth_readKey steps around
  · exact depth_readKey steps around
  · obtain rfl := Except.ok.inj steps
    rfl
  · cases steps
  · obtain rfl := Except.ok.inj steps
    rfl
  · obtain rfl := Except.ok.inj steps
    exact depth_close _ _ around
  · cases steps

/-- A colon follows a key, which is inside an object. -/
theorem containers_ne_nil_of_colon
    {cursor : Cursor}
    (steps : cursor.step room .colon = .ok outcome) :
    cursor.containers ≠ [] := by
  cases cursor with
  | value outer => cases steps
  | _ => exact List.cons_ne_nil _ _

/-- Inside a value of a member no token belongs to a key of the object. -/
theorem keysFrom_cons_of_step
    {cursor : Cursor}
    (steps : cursor.step room token = .ok outcome)
    (before : Option String)
    (rest : List Token) :
    ∃ after, keysFrom (cursor.containers.length + 1) before (token :: rest) =
      keysFrom (outcome.depth + 1) after rest := by
  have depth := depth_step steps 1
  cases token with
  | colon =>
      have deeper : cursor.containers.length + 1 ≠ 1 := by
        have opened := List.length_pos_iff.mpr (containers_ne_nil_of_colon steps)
        omega
      refine ⟨none, ?_⟩
      rw [keysFrom, if_neg deeper, List.nil_append, ← depth]
      rfl
  | _ => exact ⟨_, congrArg (keysFrom · _ rest) depth⟩

theorem keysFrom_of_resume
    {cursor : Cursor}
    {tokens others : List Token}
    {value : Value}
    (reads : resume room cursor tokens = .ok (value, others))
    (before : Option String) :
    ∃ after, keysFrom (cursor.containers.length + 1) before tokens =
      keysFrom 1 after others := by
  induction tokens generalizing cursor before with
  | nil => cases reads
  | cons token rest inductionHypothesis =>
      rw [resume] at reads
      split at reads
      next => cases reads
      next completes =>
        obtain ⟨_, rfl⟩ := Prod.mk.inj (Except.ok.inj reads)
        exact keysFrom_cons_of_step completes before rest
      next next continues =>
        obtain ⟨after, here⟩ := keysFrom_cons_of_step continues before rest
        rw [here]
        exact inductionHypothesis reads after

/-- The tokens of some members have the keys of these members. -/
theorem WritesMembers.keysFrom_eq
    {tokens : List Token}
    {members : List (String × Value)}
    (writes : WritesMembers room tokens members)
    (before : Option String) :
    keysFrom 1 before tokens = members.map Prod.fst := by
  induction writes generalizing before with
  | last key value reads =>
      obtain ⟨after, behind⟩ := keysFrom_of_resume reads none
      exact congrArg (key :: ·) behind
  | more key value reads later inductionHypothesis =>
      obtain ⟨after, behind⟩ := keysFrom_of_resume reads none
      exact congrArg (key :: ·) (behind.trans (inductionHypothesis none))

/-- The keys of a text that writes an object are the keys of its members. -/
theorem keysOfText_eq
    {text : String}
    {members : List (String × Value)}
    (writes : WritesObject room (Token.ofText text) members) :
    keysOfText text = members.map Prod.fst := by
  rw [keysOfText]
  generalize Token.ofText text = tokens at writes
  cases writes with
  | empty => rfl
  | members inner => exact inner.keysFrom_eq none

end Json
end SyncWatch
