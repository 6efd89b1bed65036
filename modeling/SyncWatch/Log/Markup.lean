import SyncWatch.Text.Search

/-!
# Log lines sent as HTML

The server marks colours with tags and writes some characters as entities.
Both the display and the reader of events need the plain text.
-/

namespace SyncWatch
namespace Log
namespace Markup

/-- The text outside tags, or nothing when a tag is still open at the end. -/
def outsideTags : Bool → List Char → Option (List Char)
  | false, [] => some []
  | true, [] => none
  | inTag, char :: rest =>
    if char == '<' then outsideTags true rest
    else if inTag then outsideTags (char != '>') rest
    else (outsideTags false rest).map (char :: ·)

/-- The entities that the server writes, with the characters they stand for.
The ampersand comes last, so that it does not begin a new entity. -/
def entities : List (List Char × Char) :=
  [("&lt;".toList, '<'), ("&gt;".toList, '>'), ("&quot;".toList, '"'),
    ("&#39;".toList, '\x27'), ("&nbsp;".toList, ' '), ("&amp;".toList, '&')]

/-- The text with its entities replaced, one kind after the other. -/
def decodeEntities (text : List Char) : List Char :=
  entities.foldl (fun decoded entity => Text.replaceAll entity.1 [entity.2] decoded) text

/-- The plain characters of a line.  A line with an open tag has no tags at all. -/
def plainChars (line : List Char) : List Char :=
  decodeEntities ((outsideTags false line).getD line)

/-- The plain text of a line. -/
def plainText (line : String) : String :=
  String.ofList (plainChars line.toList)

end Markup
end Log
end SyncWatch
