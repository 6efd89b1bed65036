import SyncWatch.Proofs.Json.Delimiters
import SyncWatch.Proofs.Log.Reassembly
import SyncWatch.Progress.Payload

/-!
# Texts that hold a payload

The name of a message matters only to an object that does not name its event.
Only a text between braces holds a payload, and the white space around the
braces does not matter.  When the lines of a text are decoded one by one, white
space around the text does not matter either, and a text whose braces stand in
one line gives what it gives as a whole.
-/

namespace SyncWatch
namespace Progress
namespace SummaryPayload

variable {name : String} {object : Json.Object} {payload : SummaryPayload}

theorem trimmed_unnamed : Text.trimmed unnamed = unnamed := by
  decide

/-- The name of a message does not matter when the message has none, or when
its object names an event. -/
theorem ofObject_unnamed
    (nameless : namesEvent object = true ∨ Text.trimmed name = "" ∨
      Text.trimmed name = unnamed) :
    ofObject unnamed object = ofObject name object := by
  rw [ofObject, ofObject]
  rcases nameless with named | blank | same
  · rw [if_pos named, if_pos named]
  · simp [blank, trimmed_unnamed]
  · simp [same, trimmed_unnamed]

/-- Without a name and without the fields of a snapshot an object stands for
nothing. -/
theorem ofObject_unnamed_eq_error
    (nameless : namesEvent object = false)
    (fieldless : object.hasKey "timeline" = false ∧ object.hasKey "running" = false) :
    ofObject unnamed object = .error .unrecognized := by
  simp [ofObject, nameless, trimmed_unnamed, fieldless.1, fieldless.2]

/-- A payload is decoded from the members of an object. -/
theorem exists_object_of_parse
    {text : String}
    (decoded : parse name text = .ok payload) :
    ∃ object, Json.parse (Text.trimmed text) = .ok (.object object) ∧
      ofObject name object = .ok payload := by
  rw [parse] at decoded
  split at decoded
  next => cases decoded
  next object equal => exact ⟨object, equal, decoded⟩
  next => cases decoded

/-- The text of a payload stands between braces. -/
theorem exists_trim_eq_braces
    {text : String}
    (decoded : parse name text = .ok payload) :
    ∃ inside, Text.trim text.toList = '\x7b' :: (inside ++ ['\x7d']) := by
  obtain ⟨object, whole, _⟩ := exists_object_of_parse decoded
  exact Json.exists_trim_eq_braces whole

/-- White space around a text does not matter. -/
theorem parse_congr
    {text other : String}
    (same : Text.trimmed text = Text.trimmed other) :
    parse name text = parse name other := by
  rw [parse, parse, same]

/-- The payload of a line, if it holds one. -/
def ofLine? (name : String) (line : List Char) : Option SummaryPayload :=
  (parse name (String.ofList line)).toOption

theorem ofLine?_congr
    {line other : List Char}
    (same : Text.trim line = Text.trim other) :
    ofLine? name line = ofLine? name other := by
  have trimmed : Text.trimmed (String.ofList line) = Text.trimmed (String.ofList other) := by
    rw [Text.trimmed, Text.trimmed, String.toList_ofList, String.toList_ofList, same]
  rw [ofLine?, ofLine?, parse_congr trimmed]

/-- A line that does not begin with a brace holds no payload. -/
theorem ofLine?_eq_none
    {line : List Char}
    (shape : ∀ rest, Text.trim line ≠ '\x7b' :: rest) :
    ofLine? name line = none := by
  cases decoded : parse name (String.ofList line) with
  | error error => rw [ofLine?, decoded]; rfl
  | ok payload =>
      obtain ⟨inside, braces⟩ := exists_trim_eq_braces decoded
      rw [String.toList_ofList] at braces
      exact absurd braces (shape _)

theorem ofLine?_of_blank
    {line : List Char}
    (blank : Text.trim line = []) :
    ofLine? name line = none :=
  ofLine?_eq_none (by simp [blank])

/-- The reserved text holds no payload. -/
theorem ofLine?_of_isSentinel
    {line : List Char}
    (reserved : Log.isSentinel line = true) :
    ofLine? name line = none := by
  rw [Log.isSentinel, beq_iff_eq] at reserved
  apply ofLine?_eq_none
  simp [reserved, Log.sentinel]

/-- The payloads of the lines of a text, each decoded on its own. -/
def ofLines (name : String) (text : List Char) : List SummaryPayload :=
  (text.splitOn '\n').filterMap (ofLine? name)

/-- A text in one line gives what it holds as a whole. -/
theorem ofLines_of_not_mem
    {text : List Char}
    (single : '\n' ∉ text) :
    ofLines name text = (ofLine? name text).toList := by
  rw [ofLines, List.splitOn_eq_singleton single, List.filterMap_eq_flatMap_toList]
  simp

theorem ofLines_cons_of_isBlank
    {char : Char}
    (blank : Text.isBlank char = true)
    (text : List Char) :
    ofLines name (char :: text) = ofLines name text := by
  rw [ofLines, ofLines, List.splitOn_cons_eq_if_modifyHead]
  split
  · rw [List.filterMap_cons_none (ofLine?_of_blank rfl)]
  · obtain ⟨first, others, equal⟩ :=
      List.exists_cons_of_ne_nil (List.splitOn_ne_nil '\n' text)
    have same : ofLine? name (char :: first) = ofLine? name first :=
      ofLine?_congr (Text.trim_cons_of_isBlank blank first)
    rw [equal, List.modifyHead_cons, List.filterMap_cons, List.filterMap_cons, same]

theorem ofLines_concat_of_isBlank
    {char : Char}
    (blank : Text.isBlank char = true)
    (text : List Char) :
    ofLines name (text ++ [char]) = ofLines name text := by
  by_cases newline : char = '\n'
  · rw [newline, ofLines, List.splitOn_append_cons_self, List.filterMap_append,
      List.splitOn_nil, List.filterMap_cons_none (ofLine?_of_blank rfl)]
    exact List.append_nil _
  · have unfinished := Log.newline_not_mem_unfinished text
    have single : '\n' ∉ (Log.splitLines text).2 ++ [char] := by
      simp [unfinished, Ne.symm newline]
    have same : ofLine? name ((Log.splitLines text).2 ++ [char]) =
        ofLine? name (Log.splitLines text).2 :=
      ofLine?_congr (Text.trim_concat_of_isBlank blank _)
    rw [ofLines, ofLines, Log.splitOn_newline, Log.splitOn_newline, Log.splitLines_append,
      Log.splitLines_of_not_mem single, List.append_nil, List.filterMap_append,
      List.filterMap_append, List.filterMap_cons, List.filterMap_cons, same]

theorem ofLines_blank_append
    {before : List Char}
    (blank : ∀ char ∈ before, Text.isBlank char = true)
    (text : List Char) :
    ofLines name (before ++ text) = ofLines name text := by
  induction before with
  | nil => rfl
  | cons char before inductionHypothesis =>
      rw [List.forall_mem_cons] at blank
      rw [List.cons_append, ofLines_cons_of_isBlank blank.1, inductionHypothesis blank.2]

theorem ofLines_append_blank
    {after : List Char}
    (blank : ∀ char ∈ after, Text.isBlank char = true)
    (text : List Char) :
    ofLines name (text ++ after) = ofLines name text := by
  induction after generalizing text with
  | nil => rw [List.append_nil]
  | cons char after inductionHypothesis =>
      rw [List.forall_mem_cons] at blank
      rw [List.append_cons, inductionHypothesis blank.2, ofLines_concat_of_isBlank blank.1]

/-- White space around a text does not matter when its lines are decoded. -/
theorem ofLines_trim (name : String) (text : List Char) :
    ofLines name (Text.trim text) = ofLines name text := by
  obtain ⟨before, after, equal, blankBefore, blankAfter⟩ := Text.exists_eq_append_trim text
  conv_rhs => rw [equal]
  rw [ofLines_append_blank blankAfter, ofLines_blank_append blankBefore]

/-- A text that holds a payload between braces in one line gives this payload. -/
theorem ofLines_eq_singleton
    {text : String}
    (decoded : parse name text = .ok payload)
    (single : '\n' ∉ Text.trim text.toList) :
    ofLines name text.toList = [payload] := by
  have whole : ofLine? name (Text.trim text.toList) = some payload := by
    rw [ofLine?_congr (Text.trim_trim text.toList), ofLine?, String.ofList_toList, decoded]
    rfl
  rw [← ofLines_trim, ofLines_of_not_mem single, whole]
  rfl

end SummaryPayload
end Progress
end SyncWatch
