import SyncWatch.Log.Render
import SyncWatch.Proofs.Log.Escaping
import SyncWatch.Proofs.Progress.PayloadText

/-!
# Lines in their readable form

A line without markup is its own plain text.  If it holds an object, it is
shown as a sentence about what the object stands for in a message without a
name, and as it is when the object stands for nothing there.
-/

namespace SyncWatch

open Progress

namespace Log
namespace Markup

theorem outsideTags_of_not_mem
    {text : List Char}
    (noTags : '<' ∉ text) :
    outsideTags false text = some text := by
  have outside := outsideTags_append_of_not_mem noTags []
  rwa [List.append_nil, outsideTags, Option.map_some, List.append_nil] at outside

theorem decodeEntities_of_not_mem
    {text : List Char}
    (noEntities : '&' ∉ text) :
    decodeEntities text = text :=
  (Written.self noEntities).decodeEntities

/-- A line without markup is its own plain text. -/
theorem plainText_of_not_mem
    {line : String}
    (noTags : '<' ∉ line.toList)
    (noEntities : '&' ∉ line.toList) :
    plainText line = line := by
  rw [plainText, plainChars, outsideTags_of_not_mem noTags, Option.getD_some,
    decodeEntities_of_not_mem noEntities, String.ofList_toList]

end Markup

theorem looksLikeObject_of_braces
    {text : String}
    {inside : List Char}
    (braces : text.toList = '\x7b' :: (inside ++ ['\x7d'])) :
    looksLikeObject text = true := by
  rw [looksLikeObject, Text.startsWith, Text.endsWith, braces]
  simp

/-- What the text of an object tells is what the object stands for in a message
without a name. -/
theorem payloadOfText?_of_object
    {text : String}
    {object : Json.Object}
    (whole : Json.parse (Text.trimmed text) = .ok (.object object)) :
    payloadOfText? (Text.trimmed text) =
      (SummaryPayload.ofObject SummaryPayload.unnamed object).toOption := by
  obtain ⟨inside, braces⟩ := Json.exists_trim_eq_braces whole
  rw [← Text.toList_trimmed] at braces
  rw [payloadOfText?, looksLikeObject_of_braces braces, if_pos rfl, SummaryPayload.parse,
    Text.trimmed_trimmed, whole]

/-- A line is shown as the sentence about the payload that its plain text holds. -/
theorem formatLine_eq (line : String) :
    formatLine line =
      (payloadOfText? (Text.trimmed (Markup.plainText line))).elim
        ⟨Markup.plainText line, classify (Text.trimmed (Markup.plainText line))⟩
        describePayload := by
  unfold formatLine
  dsimp only
  cases payloadOfText? (Text.trimmed (Markup.plainText line)) <;> rfl

theorem formatLine_of_plain
    {line : String}
    (plain : Markup.plainText line = line) :
    formatLine line =
      (payloadOfText? (Text.trimmed line)).elim ⟨line, classify (Text.trimmed line)⟩
        describePayload := by
  rw [formatLine_eq, plain]

/-- A line without markup is shown by the payload of its object. -/
theorem formatLine_of_ok
    {line : String}
    {object : Json.Object}
    {payload : SummaryPayload}
    (plain : Markup.plainText line = line)
    (whole : Json.parse (Text.trimmed line) = .ok (.object object))
    (decoded : SummaryPayload.ofObject SummaryPayload.unnamed object = .ok payload) :
    formatLine line = describePayload payload := by
  rw [formatLine_of_plain plain, payloadOfText?_of_object whole, decoded]
  rfl

/-- A line without markup is shown as it is when its object has no payload. -/
theorem formatLine_of_error
    {line : String}
    {object : Json.Object}
    {error : PayloadError}
    (plain : Markup.plainText line = line)
    (whole : Json.parse (Text.trimmed line) = .ok (.object object))
    (rejected : SummaryPayload.ofObject SummaryPayload.unnamed object = .error error) :
    formatLine line = ⟨line, classify (Text.trimmed line)⟩ := by
  rw [formatLine_of_plain plain, payloadOfText?_of_object whole, rejected]
  rfl

end Log

end SyncWatch
