import SyncWatch.Json.Reader
import SyncWatch.Proofs.Text.Trim

/-!
# Where an object begins and ends

Only a brace can begin or end the text of an object, apart from the white space
around it.  The scanner gives a brace token for a brace character outside
strings only, and the reader takes an object from its opening to its closing
brace.
-/

namespace SyncWatch
namespace Json

namespace Token

/-- Whether a token is neither a bracket nor a brace nor a separator. -/
def isScalar : Token → Bool
  | .openArray | .closeArray | .openObject | .closeObject | .colon | .comma => false
  | _ => true

/-- Whether a token is open that will not be a bracket, a brace or a separator. -/
def Progress.withinScalar : Progress → Bool
  | .between => false
  | .word _ _ token => token.isScalar
  | _ => true

/-- What a character does that belongs to no open token. -/
inductive Outset (char : Char) : Step → Prop
  /-- The character is a token; only a brace is the token of a brace. -/
  | sign (token : Token)
      (opens : token = .openObject → char = '\x7b')
      (closes : token = .closeObject → char = '\x7d') :
      Outset char ([token], some .between)
  | space (blank : isSpace char = true) : Outset char ([], some .between)
  | scalar (progress : Progress) (within : progress.withinScalar = true) :
      Outset char ([], some progress)
  | broken : Outset char ([.brokenScalar .malformed], none)

theorem outset_start (char : Char) : Outset char (start char) := by
  unfold start
  split
  · exact .sign _ nofun nofun
  · exact .sign _ nofun nofun
  · exact .sign _ (fun _ => rfl) nofun
  · exact .sign _ nofun fun _ => rfl
  · exact .sign _ nofun nofun
  · exact .sign _ nofun nofun
  · exact .scalar _ rfl
  · exact .scalar _ rfl
  · exact .scalar _ rfl
  · exact .scalar _ rfl
  · exact .scalar _ rfl
  · split
    · exact .scalar _ rfl
    · split
      next blank => exact .space blank
      next => exact .broken

/-- What a character does while a scalar token is open. -/
inductive Continuation (char : Char) : Step → Prop
  | within (progress : Progress) (within : progress.withinScalar = true) :
      Continuation char ([], some progress)
  | complete (token : Token) (scalar : token.isScalar = true) :
      Continuation char ([token], some .between)
  | broken (token : Token) (scalar : token.isScalar = true) :
      Continuation char ([token], none)
  /-- A number ends before the character. -/
  | before (token : Token) (scalar : token.isScalar = true) :
      Continuation char (token :: (start char).1, (start char).2)

theorem continuation_finishCode
    (char : Char)
    (read : List Char)
    (lead : Option Nat)
    (value : Nat) :
    Continuation char (finishCode read lead value) := by
  cases lead with
  | none =>
      simp only [finishCode]
      split
      · exact .broken _ rfl
      · split
        · exact .within _ rfl
        · exact .within _ rfl
  | some high =>
      simp only [finishCode]
      split
      · exact .within _ rfl
      · exact .broken _ rfl

theorem continuation_step
    {progress : Progress}
    (within : progress.withinScalar = true)
    (char : Char)
    (rest : List Char) :
    Continuation char (progress.step char rest) := by
  cases progress with
  | between => cases within
  | word expected missing token =>
      cases missing with
      | nil =>
          simp only [Progress.step]
          split
          · exact .complete token within
          · exact .broken _ rfl
      | cons next later =>
          simp only [Progress.step]
          split
          · exact .within _ within
          · exact .broken _ rfl
  | text read =>
      rw [Progress.step]
      split
      · exact .complete _ rfl
      · split
        · exact .within _ rfl
        · split
          · exact .broken _ rfl
          · exact .within _ rfl
  | escape read =>
      rw [Progress.step]
      split
      · exact .within _ rfl
      · split
        · exact .within _ rfl
        · exact .broken _ rfl
  | code read lead count value =>
      rw [Progress.step]
      split
      · split
        · exact continuation_finishCode char read lead _
        · exact .within _ rfl
      · exact .broken _ rfl
  | pairBackslash read lead =>
      rw [Progress.step]
      split
      · exact .within _ rfl
      · exact .broken _ rfl
  | pairLetter read lead =>
      rw [Progress.step]
      split
      · exact .within _ rfl
      · exact .broken _ rfl
  | number negative phase =>
      rw [Progress.step]
      split
      · exact .within _ rfl
      · exact .broken _ rfl
      · split
        · exact .before _ rfl
        · exact .broken _ rfl

/-- The tokens of a text after a step. -/
def scanAfter (outcome : Step) (rest : List Char) : List Token :=
  outcome.1 ++ outcome.2.elim [] (scan · rest)

theorem scan_cons (progress : Progress) (char : Char) (rest : List Char) :
    scan progress (char :: rest) = scanAfter (progress.step char rest) rest := by
  rw [scan]
  rcases progress.step char rest with ⟨tokens, _ | next⟩
  · exact (List.append_nil tokens).symm
  · rfl

/-- The end of the text ends an open scalar token. -/
theorem atEnd_of_withinScalar
    {progress : Progress}
    (within : progress.withinScalar = true) :
    ∃ token, progress.atEnd = [token] ∧ token.isScalar = true := by
  cases progress with
  | between => cases within
  | number negative phase =>
      rw [Progress.atEnd]
      split
      · exact ⟨_, rfl, rfl⟩
      · exact ⟨_, rfl, rfl⟩
  | _ => exact ⟨_, rfl, rfl⟩

/-- The next token after an open scalar token is begun is a scalar. -/
theorem scan_of_withinScalar
    {progress : Progress}
    (within : progress.withinScalar = true)
    (chars : List Char) :
    ∃ first others, scan progress chars = first :: others ∧ first.isScalar = true := by
  induction chars generalizing progress with
  | nil =>
      obtain ⟨token, equal, scalar⟩ := atEnd_of_withinScalar within
      exact ⟨token, [], by rw [scan_nil, equal], scalar⟩
  | cons char rest inductionHypothesis =>
      have continuation := continuation_step within char rest
      rw [scan_cons]
      generalize progress.step char rest = outcome at continuation
      cases continuation with
      | within next stays => exact inductionHypothesis stays
      | complete token scalar => exact ⟨token, _, rfl, scalar⟩
      | broken token scalar => exact ⟨token, _, rfl, scalar⟩
      | before token scalar => exact ⟨token, _, rfl, scalar⟩

/-- A text that begins with an opening brace token begins with an opening brace. -/
theorem eq_of_head_scan
    {char : Char}
    {rest : List Char}
    (visible : isSpace char = false)
    (opens : (scan .between (char :: rest)).head? = some .openObject) :
    char = '\x7b' := by
  have outset := outset_start char
  rw [scan_cons, Progress.step] at opens
  generalize start char = outcome at outset opens
  cases outset with
  | sign token brace _ =>
      apply brace
      simpa [scanAfter] using opens
  | space blank =>
      rw [visible] at blank
      cases blank
  | scalar progress within =>
      obtain ⟨first, others, equal, scalar⟩ := scan_of_withinScalar within rest
      simp only [scanAfter, List.nil_append, Option.elim_some, equal, List.head?_cons,
        Option.some.injEq] at opens
      rw [opens] at scalar
      cases scalar
  | broken => simp [scanAfter] at opens

/-- Some tokens end as the tokens of a text must that ends with a given
character. -/
def EndsWith (last : Char) (tokens : List Token) : Prop :=
  ∃ token, tokens.getLast? = some token ∧ (token = .closeObject → last = '\x7d')

theorem EndsWith.scalar
    {token : Token}
    (scalar : token.isScalar = true)
    (last : Char) :
    EndsWith last [token] := by
  refine ⟨token, rfl, ?_⟩
  rintro rfl
  cases scalar

/-- The end of some tokens is the end of more tokens before them. -/
theorem EndsWith.append
    {last : Char}
    {tokens : List Token}
    (ends : EndsWith last tokens)
    (before : List Token) :
    EndsWith last (before ++ tokens) := by
  obtain ⟨token, equal, closes⟩ := ends
  exact ⟨token, by rw [List.getLast?_append, equal, Option.some_or], closes⟩

/-- The end of the text after a step to an open scalar token. -/
theorem EndsWith.scanAfter_nil
    {progress : Progress}
    (within : progress.withinScalar = true)
    (last : Char) :
    EndsWith last (scanAfter ([], some progress) []) := by
  obtain ⟨token, equal, scalar⟩ := atEnd_of_withinScalar within
  simp only [scanAfter, Option.elim_some, scan_nil, equal, List.nil_append]
  exact EndsWith.scalar scalar last

/-- A last character that is no white space decides over the last token. -/
theorem endsWith_singleton
    {last : Char}
    (visible : isSpace last = false)
    {progress : Progress}
    (ready : progress = .between ∨ progress.withinScalar = true) :
    EndsWith last (scan progress [last]) := by
  have alone : EndsWith last (scanAfter (start last) []) := by
    have outset := outset_start last
    generalize start last = outcome at outset
    cases outset with
    | sign token _ closes => exact ⟨token, rfl, closes⟩
    | space blank =>
        rw [visible] at blank
        cases blank
    | scalar next within => exact EndsWith.scanAfter_nil within last
    | broken => exact EndsWith.scalar rfl last
  rw [scan_cons]
  rcases ready with rfl | within
  · exact alone
  · have continuation := continuation_step within last []
    generalize progress.step last [] = outcome at continuation
    cases continuation with
    | within next stays => exact EndsWith.scanAfter_nil stays last
    | complete token scalar => exact EndsWith.scalar scalar last
    | broken token scalar => exact EndsWith.scalar scalar last
    | before token scalar => exact alone.append [token]

/-- A character in front changes nothing about the end. -/
theorem endsWith_cons
    {last : Char}
    {rest : List Char}
    (ends : ∀ progress : Progress, progress = .between ∨ progress.withinScalar = true →
      EndsWith last (scan progress rest))
    (char : Char)
    {progress : Progress}
    (ready : progress = .between ∨ progress.withinScalar = true) :
    EndsWith last (scan progress (char :: rest)) := by
  have alone : EndsWith last (scanAfter (start char) rest) := by
    have outset := outset_start char
    generalize start char = outcome at outset
    cases outset with
    | sign token _ _ => exact (ends .between (.inl rfl)).append [token]
    | space blank => exact ends .between (.inl rfl)
    | scalar next within => exact ends next (.inr within)
    | broken => exact EndsWith.scalar rfl last
  rw [scan_cons]
  rcases ready with rfl | within
  · exact alone
  · have continuation := continuation_step within char rest
    generalize progress.step char rest = outcome at continuation
    cases continuation with
    | within next stays => exact ends next (.inr stays)
    | complete token scalar => exact (ends .between (.inl rfl)).append [token]
    | broken token scalar => exact EndsWith.scalar scalar last
    | before token scalar => exact alone.append [token]

/-- When a text ends with a character that is no white space, only a closing
brace gives a closing brace as the last token. -/
theorem endsWith_scan
    {last : Char}
    (visible : isSpace last = false)
    (init : List Char)
    (progress : Progress)
    (ready : progress = .between ∨ progress.withinScalar = true) :
    EndsWith last (scan progress (init ++ [last])) := by
  induction init generalizing progress with
  | nil => exact endsWith_singleton visible ready
  | cons char init inductionHypothesis => exact endsWith_cons inductionHypothesis char ready

end Token

/-! ## From the opening to the closing brace -/

theorem deliver_eq_complete
    {value whole : Value}
    {outer : List Open} :
    deliver value outer = .complete whole ↔ outer = [] ∧ value = whole := by
  cases outer with
  | nil => simp [deliver]
  | cons container outer => cases container <;> simp [deliver]

/-- What the first token of a value can do. -/
inductive Beginning (outer : List Open) : Token → Outcome → Prop
  | scalar (token : Token) (value : Value) (plain : ∀ members, value ≠ .object members) :
      Beginning outer token (deliver value outer)
  | array : Beginning outer .openArray (.continues (.firstItem outer))
  | object : Beginning outer .openObject (.continues (.firstKey outer))

theorem beginning_of_begin
    {room : Nat}
    {outer : List Open}
    {token : Token}
    {outcome : Outcome}
    (begins : begin room outer token = .ok outcome) :
    Beginning outer token outcome := by
  cases token with
  | null | bool flag | number number | string text =>
      obtain rfl := Except.ok.inj begins
      exact .scalar _ _ nofun
  | openArray =>
      rw [begin] at begins
      split at begins
      · obtain rfl := Except.ok.inj begins
        exact .array
      · cases begins
  | openObject =>
      rw [begin] at begins
      split at begins
      · obtain rfl := Except.ok.inj begins
        exact .object
      · cases begins
  | _ => cases begins

/-- No key completes a value. -/
theorem readKey_ne_complete
    (earlier : Object)
    (outer : List Open)
    (token : Token)
    (whole : Value) :
    readKey earlier outer token ≠ .ok (.complete whole) := by
  cases token <;> simp [readKey]

/-- The first token of a value does not complete an object. -/
theorem begin_ne_complete_object
    (room : Nat)
    (outer : List Open)
    (token : Token)
    (members : Object) :
    begin room outer token ≠ .ok (.complete (.object members)) := by
  intro begins
  generalize equal : Outcome.complete (.object members) = outcome at begins
  cases beginning_of_begin begins with
  | scalar _ value plain =>
      exact plain members (deliver_eq_complete.mp equal.symm).2
  | array => cases equal
  | object => cases equal

/-- Only a closing brace completes an object. -/
theorem eq_closeObject_of_step
    {room : Nat}
    {cursor : Cursor}
    {token : Token}
    {members : Object}
    (completes : cursor.step room token = .ok (.complete (.object members))) :
    token = .closeObject := by
  rw [Cursor.step.eq_def] at completes
  split at completes
  all_goals simp [begin_ne_complete_object, readKey_ne_complete, deliver_eq_complete] at completes
  all_goals rfl

/-- An object is read up to its closing brace. -/
theorem getLast?_of_resume
    {room : Nat}
    {cursor : Cursor}
    {tokens : List Token}
    {members : Object}
    (whole : resume room cursor tokens = .ok (.object members, [])) :
    tokens.getLast? = some .closeObject := by
  induction tokens generalizing cursor with
  | nil => cases whole
  | cons token rest inductionHypothesis =>
      rw [resume] at whole
      split at whole
      next => cases whole
      next value completes =>
        obtain ⟨rfl, rfl⟩ := Prod.mk.inj (Except.ok.inj whole)
        rw [eq_closeObject_of_step completes]
        rfl
      next next continues =>
        rw [List.getLast?_cons, inductionHypothesis whole]
        rfl

/-- The outermost of some containers is an array. -/
def WithinArray (containers : List Open) : Prop :=
  ∃ inner items, containers = inner ++ [.array items]

/-- A container inside others does not decide over the outermost one. -/
theorem WithinArray.cons
    {outer : List Open}
    (within : WithinArray outer)
    (container : Open) :
    WithinArray (container :: outer) := by
  obtain ⟨inner, items, rfl⟩ := within
  exact ⟨container :: inner, items, rfl⟩

/-- The outermost container stays when another one is put in place of the
innermost, an array for an array. -/
theorem WithinArray.replace
    {former latter : Open}
    {outer : List Open}
    (within : WithinArray (former :: outer))
    (array : ∀ items, former = .array items → ∃ others, latter = .array others) :
    WithinArray (latter :: outer) := by
  obtain ⟨inner, items, equal⟩ := within
  cases inner with
  | nil =>
      obtain ⟨rfl, rfl⟩ := List.cons.inj equal
      obtain ⟨others, rfl⟩ := array items rfl
      exact ⟨[], others, rfl⟩
  | cons container inner =>
      obtain ⟨_, rfl⟩ := List.cons.inj equal
      exact ⟨latter :: inner, items, rfl⟩

/-- The containers around a place, with the one that the place belongs to. -/
def Cursor.containers : Cursor → List Open
  | .value outer => outer
  | .firstItem outer => .array [] :: outer
  | .afterItem items outer => .array items :: outer
  | .firstKey outer => .object [] "" :: outer
  | .key members outer => .object members "" :: outer
  | .colon members name outer => .object members name :: outer
  | .afterMember members outer => .object members "" :: outer

/-- What is read inside an array makes an array in the end. -/
def Outcome.OfArray : Outcome → Prop
  | .complete value => ∃ items, value = .array items
  | .continues next => WithinArray next.containers

/-- A value inside an array goes to a container inside the array. -/
theorem WithinArray.deliver
    {outer : List Open}
    (within : WithinArray outer)
    (value : Value) :
    (deliver value outer).OfArray := by
  cases outer with
  | nil =>
      obtain ⟨inner, items, equal⟩ := within
      simp at equal
  | cons container outer =>
      cases container with
      | array items => exact within.replace fun _ _ => ⟨value :: items, rfl⟩
      | object members key => exact within.replace nofun

/-- An array goes to the container around it, or it is the whole value. -/
theorem WithinArray.deliver_array
    {former : List Value}
    {outer : List Open}
    (within : WithinArray (.array former :: outer))
    (items : List Value) :
    (Json.deliver (.array items) outer).OfArray := by
  obtain ⟨inner, first, equal⟩ := within
  cases inner with
  | nil =>
      obtain ⟨_, rfl⟩ := List.cons.inj equal
      exact ⟨items, rfl⟩
  | cons container inner =>
      obtain ⟨_, rfl⟩ := List.cons.inj equal
      exact WithinArray.deliver ⟨inner, first, rfl⟩ _

/-- An object inside an array has a container around it. -/
theorem WithinArray.of_object
    {members : Object}
    {key : String}
    {outer : List Open}
    (within : WithinArray (.object members key :: outer)) :
    WithinArray outer := by
  obtain ⟨inner, items, equal⟩ := within
  cases inner with
  | nil => cases equal
  | cons container inner =>
      obtain ⟨_, rfl⟩ := List.cons.inj equal
      exact ⟨inner, items, rfl⟩

theorem WithinArray.begin
    {room : Nat}
    {outer : List Open}
    {token : Token}
    {outcome : Outcome}
    (within : WithinArray outer)
    (begins : Json.begin room outer token = .ok outcome) :
    outcome.OfArray := by
  cases beginning_of_begin begins with
  | scalar _ value _ => exact within.deliver value
  | array => exact within.cons (.array [])
  | object => exact within.cons (.object [] "")

theorem WithinArray.readKey
    {members : Object}
    {key : String}
    {outer : List Open}
    {token : Token}
    {outcome : Outcome}
    (within : WithinArray (.object members key :: outer))
    (reads : Json.readKey members outer token = .ok outcome) :
    outcome.OfArray := by
  cases token with
  | string name =>
      obtain rfl := Except.ok.inj reads
      exact within.replace nofun
  | _ => cases reads

/-- Every step inside an array stays inside it or completes it. -/
theorem WithinArray.step
    {room : Nat}
    {cursor : Cursor}
    {token : Token}
    {outcome : Outcome}
    (within : WithinArray cursor.containers)
    (steps : cursor.step room token = .ok outcome) :
    outcome.OfArray := by
  rw [Cursor.step.eq_def] at steps
  split at steps
  · exact within.begin steps
  · obtain rfl := Except.ok.inj steps
    exact within.deliver_array []
  · exact within.begin steps
  · obtain rfl := Except.ok.inj steps
    exact within
  · obtain rfl := Except.ok.inj steps
    exact within.deliver_array _
  · cases steps
  · obtain rfl := Except.ok.inj steps
    exact within.of_object.deliver _
  · exact within.readKey steps
  · exact within.readKey steps
  · obtain rfl := Except.ok.inj steps
    exact within
  · cases steps
  · obtain rfl := Except.ok.inj steps
    exact within
  · obtain rfl := Except.ok.inj steps
    exact within.of_object.deliver _
  · cases steps

/-- A value that is read inside an array is an array. -/
theorem WithinArray.resume
    {room : Nat}
    {cursor : Cursor}
    {tokens others : List Token}
    {value : Value}
    (within : WithinArray cursor.containers)
    (whole : Json.resume room cursor tokens = .ok (value, others)) :
    ∃ items, value = .array items := by
  induction tokens generalizing cursor with
  | nil => cases whole
  | cons token rest inductionHypothesis =>
      rw [Json.resume] at whole
      split at whole
      next => cases whole
      next completes =>
        obtain ⟨rfl, _⟩ := Prod.mk.inj (Except.ok.inj whole)
        exact within.step completes
      next continues => exact inductionHypothesis (within.step continues) whole

/-- The text of an object has brace tokens as its first and its last one. -/
theorem tokens_of_object
    {tokens : List Token}
    {members : Object}
    (whole : readValue tokens = .ok (.object members, [])) :
    tokens.head? = some .openObject ∧ tokens.getLast? = some .closeObject := by
  refine ⟨?_, getLast?_of_resume whole⟩
  cases tokens with
  | nil => cases whole
  | cons token rest =>
      rw [readValue, resume] at whole
      split at whole
      next => cases whole
      next completes =>
        obtain ⟨rfl, _⟩ := Prod.mk.inj (Except.ok.inj whole)
        exact absurd completes (begin_ne_complete_object _ _ _ _)
      next next continues =>
        generalize equal : Outcome.continues next = outcome at continues
        cases beginning_of_begin continues with
        | scalar _ value _ => cases equal
        | array =>
            obtain rfl := Outcome.continues.inj equal
            obtain ⟨items, different⟩ := WithinArray.resume ⟨[], [], rfl⟩ whole
            cases different
        | object => rfl

/-- The white space between tokens is white space. -/
theorem isBlank_of_isSpace
    {char : Char}
    (space : isSpace char = true) :
    Text.isBlank char = true := by
  simp only [isSpace, Bool.or_eq_true, beq_iff_eq] at space
  rcases space with ((rfl | rfl) | rfl) | rfl <;> rfl

theorem isSpace_of_not_isBlank
    {char : Char}
    (visible : Text.isBlank char = false) :
    isSpace char = false := by
  cases space : isSpace char with
  | false => rfl
  | true =>
      rw [isBlank_of_isSpace space] at visible
      cases visible

/-- A text that is read as an object stands between braces. -/
theorem exists_trim_eq_braces
    {text : String}
    {members : Object}
    (whole : parse (Text.trimmed text) = .ok (.object members)) :
    ∃ inside, Text.trim text.toList = '\x7b' :: (inside ++ ['\x7d']) := by
  have tokens : readValue (Token.scan .between (Text.trim text.toList)) =
      .ok (.object members, []) := by
    rw [parse, Token.ofText, Text.toList_trimmed] at whole
    split at whole
    next => cases whole
    next value equal =>
      obtain rfl := Except.ok.inj whole
      exact equal
    next => cases whole
  obtain ⟨opens, closes⟩ := tokens_of_object tokens
  cases shape : Text.trim text.toList with
  | nil =>
      rw [shape] at opens
      cases opens
  | cons first rest =>
      have visible := isSpace_of_not_isBlank (Text.isBlank_of_trim_eq_cons shape)
      rw [shape] at opens
      obtain rfl := Token.eq_of_head_scan visible opens
      rcases List.eq_nil_or_concat' rest with rfl | ⟨inside, last, rfl⟩
      · -- A lone opening brace is no object.
        rw [shape] at closes
        cases closes
      · have concat : Text.trim text.toList = ('\x7b' :: inside) ++ [last] := shape
        have visibleLast := isSpace_of_not_isBlank (Text.isBlank_of_trim_eq_concat concat)
        obtain ⟨token, final, brace⟩ :=
          Token.endsWith_scan visibleLast ('\x7b' :: inside) .between (.inl rfl)
        rw [concat, final] at closes
        rw [brace (Option.some.inj closes)]
        exact ⟨inside, rfl⟩

end Json
end SyncWatch
