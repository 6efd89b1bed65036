import SyncWatch.Log.Markup
import SyncWatch.Proofs.Text.Replacement
import Mathlib.Data.List.Infix

/-!
# Texts written as HTML

The server writes some characters as entities and puts tags between texts.  The
entities are replaced kind by kind, in whole passes over the text, and still
every text comes back as it was.  No entity begins another one, so that a pass
finds what was written as its entity and nothing else.  And what a pass writes
begins no entity of a later one, because the ampersand comes last.
-/

namespace SyncWatch
namespace Log
namespace Markup

/-! ## Entities -/

/-- A text as it is written with the entities of a table: each character as
itself or as an entity for it, and an ampersand never as itself as long as there
are entities. -/
inductive Written (table : List (List Char × Char)) : List Char → List Char → Prop
  | nil : Written table [] []
  | plain
      (char : Char)
      {text markup : List Char}
      (literal : char = '&' → table = []) :
      Written table text markup → Written table (char :: text) (char :: markup)
  | entity
      (entity : List Char × Char)
      {text markup : List Char}
      (listed : entity ∈ table) :
      Written table text markup → Written table (entity.2 :: text) (entity.1 ++ markup)

/-- Of two entities none begins with the other, and the earlier one does not
stand for an ampersand. -/
structure Apart (earlier later : List Char × Char) : Prop where
  not_beginning : ¬ earlier.1 <+: later.1
  not_extension : ¬ later.1 <+: earlier.1
  literal : earlier.2 ≠ '&'

instance : DecidableRel Apart := fun earlier later =>
  decidable_of_iff
    (¬ earlier.1 <+: later.1 ∧ ¬ later.1 <+: earlier.1 ∧ earlier.2 ≠ '&')
    ⟨fun apart => ⟨apart.1, apart.2.1, apart.2.2⟩,
      fun apart => ⟨apart.not_beginning, apart.not_extension, apart.literal⟩⟩

/-- An entity does not occur where another one stands. -/
theorem Apart.not_beginning_append
    {earlier later : List Char × Char}
    (apart : Apart earlier later)
    (rest : List Char) :
    ¬ earlier.1 <+: later.1 ++ rest := by
  intro occurs
  rcases List.prefix_or_prefix_of_prefix occurs (List.prefix_append _ _) with begins | goesOn
  · exact apart.not_beginning begins
  · exact apart.not_extension goesOn

/-- An entity has an ampersand at its beginning and no other one. -/
def Recognizable (entity : List Char × Char) : Prop :=
  ∃ name, entity.1 = '&' :: name ∧ '&' ∉ name

/-- Where one entity stands, the replacement of another one leaves it. -/
theorem replaceAll_append_of_apart
    {earlier later : List Char × Char}
    (recognizable : Recognizable earlier)
    (recognizableToo : Recognizable later)
    (apart : Apart earlier later)
    (replacement rest : List Char) :
    Text.replaceAll earlier.1 replacement (later.1 ++ rest) =
      later.1 ++ Text.replaceAll earlier.1 replacement rest := by
  obtain ⟨name, shape, _⟩ := recognizable
  obtain ⟨other, otherShape, absent⟩ := recognizableToo
  have elsewhere := apart.not_beginning_append rest
  rw [otherShape, List.cons_append] at elsewhere ⊢
  rw [Text.replaceAll_cons_of_not_isPrefix elsewhere, shape,
    Text.replaceAll_append_of_not_mem absent]
  rfl

variable {table : List (List Char × Char)} {text markup : List Char}

/-- Without entities a text is written as it is. -/
theorem Written.eq_of_nil (written : Written [] text markup) : markup = text := by
  induction written with
  | nil => rfl
  | plain char literal written inductionHypothesis => rw [inductionHypothesis]
  | entity entity listed written inductionHypothesis => cases listed

/-- A text without ampersands may be written as it is. -/
theorem Written.self (noEntities : '&' ∉ text) : Written table text text := by
  induction text with
  | nil => exact .nil
  | cons char rest inductionHypothesis =>
      rw [List.mem_cons, not_or] at noEntities
      exact .plain char (fun ampersand => absurd ampersand.symm noEntities.1)
        (inductionHypothesis noEntities.2)

/-- Replacing the first entity of a table leaves the same text, written with the
others. -/
theorem Written.replaceAll
    {first : List Char × Char}
    (recognizable : ∀ entity ∈ first :: table, Recognizable entity)
    (apart : ∀ entity ∈ table, Apart first entity)
    (written : Written (first :: table) text markup) :
    Written table text (Text.replaceAll first.1 [first.2] markup) := by
  rw [List.forall_mem_cons] at recognizable
  obtain ⟨name, shape, _⟩ := recognizable.1
  induction written with
  | nil => exact .nil
  | @plain char text markup literal written inductionHypothesis =>
      have elsewhere : ¬ first.1 <+: char :: markup := by
        rw [shape, List.cons_prefix_cons]
        exact fun occurs => List.cons_ne_nil _ _ (literal occurs.1.symm)
      rw [Text.replaceAll_cons_of_not_isPrefix elsewhere]
      exact .plain char (fun ampersand => absurd (literal ampersand) (List.cons_ne_nil _ _))
        inductionHypothesis
  | entity entity listed written inductionHypothesis =>
      rcases List.mem_cons.mp listed with rfl | later
      · have nonempty : entity.1 ≠ [] := by
          rw [shape]
          exact List.cons_ne_nil _ _
        rw [Text.replaceAll_append_self nonempty]
        refine .plain entity.2 ?_ inductionHypothesis
        intro ampersand
        cases table with
        | nil => rfl
        | cons next _ => exact absurd ampersand (apart next List.mem_cons_self).literal
      · rw [replaceAll_append_of_apart recognizable.1 (recognizable.2 entity later)
          (apart entity later)]
        exact .entity entity later inductionHypothesis

/-- Replacing all entities of a table, one kind after the other, gives the text
that was written with them. -/
theorem Written.foldl_replaceAll
    (recognizable : ∀ entity ∈ table, Recognizable entity)
    (apart : table.Pairwise Apart)
    (written : Written table text markup) :
    table.foldl (fun decoded entity => Text.replaceAll entity.1 [entity.2] decoded) markup =
      text := by
  induction table generalizing markup with
  | nil => exact written.eq_of_nil
  | cons first rest inductionHypothesis =>
      rw [List.pairwise_cons] at apart
      have left := written.replaceAll recognizable apart.1
      rw [List.forall_mem_cons] at recognizable
      exact inductionHypothesis recognizable.2 apart.2 left

/-- Every entity begins with an ampersand. -/
theorem head?_of_mem_entities : ∀ entity ∈ entities, entity.1.head? = some '&' := by
  decide

theorem recognizable_of_mem_entities : ∀ entity ∈ entities, Recognizable entity := by
  intro entity present
  obtain ⟨name, shape⟩ := List.head?_eq_some_iff.mp (head?_of_mem_entities entity present)
  have once : ∀ entity ∈ entities, '&' ∉ entity.1.tail := by decide
  have absent := once entity present
  rw [shape, List.tail_cons] at absent
  exact ⟨name, shape, absent⟩

theorem pairwise_apart_entities : entities.Pairwise Apart := by
  decide

/-- A text comes back from any writing of it with entities. -/
theorem Written.decodeEntities
    (written : Written entities text markup) :
    Markup.decodeEntities markup = text :=
  written.foldl_replaceAll recognizable_of_mem_entities pairwise_apart_entities

/-! ## What the server writes -/

/-- A character as the server writes it. -/
def escapeChar : Char → List Char
  | '&' => "&amp;".toList
  | '<' => "&lt;".toList
  | '>' => "&gt;".toList
  | '"' => "&quot;".toList
  | '\x27' => "&#39;".toList
  | char => [char]

/-- A text as the server writes it. -/
def escape (text : List Char) : List Char :=
  text.flatMap escapeChar

/-- A character is written as an entity for it, or as itself. -/
theorem escapeChar_cases (char : Char) :
    (escapeChar char, char) ∈ entities ∨
      escapeChar char = [char] ∧ char ≠ '&' ∧ char ≠ '<' := by
  unfold escapeChar
  split
  · exact .inl (by decide)
  · exact .inl (by decide)
  · exact .inl (by decide)
  · exact .inl (by decide)
  · exact .inl (by decide)
  next notAmpersand notTag _ _ _ => exact .inr ⟨rfl, notAmpersand, notTag⟩

theorem written_escape (text : List Char) : Written entities text (escape text) := by
  induction text with
  | nil => exact .nil
  | cons char rest inductionHypothesis =>
      rw [escape, List.flatMap_cons]
      rcases escapeChar_cases char with listed | ⟨itself, literal, _⟩
      · exact .entity (escapeChar char, char) listed inductionHypothesis
      · rw [itself]
        exact .plain char (fun ampersand => absurd ampersand literal) inductionHypothesis

/-- A text that the server writes has no tags. -/
theorem lt_not_mem_escape (text : List Char) : '<' ∉ escape text := by
  rw [escape, List.mem_flatMap]
  rintro ⟨char, _, within⟩
  rcases escapeChar_cases char with listed | ⟨itself, _, literal⟩
  · have absent : ∀ entity ∈ entities, '<' ∉ entity.1 := by decide
    exact absent _ listed within
  · rw [itself, List.mem_singleton] at within
    exact literal within.symm

/-! ## Tags -/

/-- Text without tags is outside of them, whatever follows it. -/
theorem outsideTags_append_of_not_mem
    {plain : List Char}
    (noTags : '<' ∉ plain)
    (rest : List Char) :
    outsideTags false (plain ++ rest) = (outsideTags false rest).map (plain ++ ·) := by
  induction plain with
  | nil => simp
  | cons char others inductionHypothesis =>
      rw [List.mem_cons, not_or] at noTags
      have literal : (char == '<') = false := by simpa using Ne.symm noTags.1
      rw [List.cons_append, outsideTags, literal, inductionHypothesis noTags.2]
      simp [Function.comp_def]

/-- A tag of a line. -/
structure Tag where
  /-- What stands between the angle brackets. -/
  body : List Char
  closed : '>' ∉ body

/-- The text of a tag. -/
def Tag.chars (tag : Tag) : List Char :=
  '<' :: tag.body ++ ['>']

/-- An open tag goes on to the next closing bracket. -/
theorem outsideTags_true_append
    {body : List Char}
    (closed : '>' ∉ body)
    (rest : List Char) :
    outsideTags true (body ++ '>' :: rest) = outsideTags false rest := by
  induction body with
  | nil => rfl
  | cons char others inductionHypothesis =>
      rw [List.mem_cons, not_or] at closed
      have goesOn : (char != '>') = true := by simpa using Ne.symm closed.1
      rw [List.cons_append, outsideTags, goesOn, inductionHypothesis closed.2]
      simp

/-- Nothing of a tag is outside of it. -/
theorem outsideTags_tag_append (tag : Tag) (rest : List Char) :
    outsideTags false (tag.chars ++ rest) = outsideTags false rest := by
  rw [Tag.chars, List.cons_append, List.cons_append, outsideTags, List.append_assoc]
  exact outsideTags_true_append tag.closed rest

/-- A line as the server renders it: a text, and tags with a text after each. -/
def rendered (first : String) (rest : List (Tag × String)) : String :=
  String.ofList (escape first.toList ++
    rest.flatMap fun piece => piece.1.chars ++ escape piece.2.toList)

/-- Outside the tags are the texts as they were written. -/
theorem outsideTags_pieces (rest : List (Tag × String)) :
    outsideTags false (rest.flatMap fun piece => piece.1.chars ++ escape piece.2.toList) =
      some (escape (String.join (rest.map Prod.snd)).toList) := by
  induction rest with
  | nil => rfl
  | cons piece others inductionHypothesis =>
      rw [List.flatMap_cons, List.append_assoc, outsideTags_tag_append,
        outsideTags_append_of_not_mem (lt_not_mem_escape _), inductionHypothesis]
      simp [escape]

/-- Whatever texts the server writes, with whatever tags before, between and
after them, the plain text of the line is these texts. -/
theorem plainText_rendered (first : String) (rest : List (Tag × String)) :
    plainText (rendered first rest) = first ++ String.join (rest.map Prod.snd) := by
  have outside : outsideTags false (rendered first rest).toList =
      some (escape (first ++ String.join (rest.map Prod.snd)).toList) := by
    rw [rendered, String.toList_ofList, outsideTags_append_of_not_mem (lt_not_mem_escape _),
      outsideTags_pieces]
    simp [escape]
  rw [plainText, plainChars, outside, Option.getD_some, (written_escape _).decodeEntities,
    String.ofList_toList]

/-- A text that looks like an entity is not taken for one. -/
example :
    plainText "a &amp;lt; <b class=\"x<y\">&lt;b&gt;</b>&amp;amp;" = "a &lt; <b>&amp;" := by
  decide +kernel

end Markup
end Log
end SyncWatch
