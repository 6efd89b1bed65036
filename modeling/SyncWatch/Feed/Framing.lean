import SyncWatch.Feed.Event

/-!
# Messages in a body

The body of an answer consists of lines.  A line names a field of the message
under way, and a blank line ends the message.  A message without data is not
delivered, and neither is one that the body leaves unfinished.
-/

namespace SyncWatch
namespace Feed
namespace Framing

/-- The finished lines of a text that goes on after the characters of `line`,
which stand newest first.  Lines end in a carriage return, in a line feed or in
both; a carriage return at the end of the text may be half of the two. -/
def linesFrom (line : List Char) : List Char → List (List Char)
  | [] => []
  | ['\r'] => []
  | '\r' :: '\n' :: rest => line.reverse :: linesFrom [] rest
  | '\r' :: rest => line.reverse :: linesFrom [] rest
  | '\n' :: rest => line.reverse :: linesFrom [] rest
  | char :: rest => linesFrom (char :: line) rest

/-- The name and the value of a field.  One space after the colon does not
belong to the value, and a line without a colon is a name. -/
def fieldOf (line : List Char) : String × String :=
  let value :=
    match line.dropWhile (· != ':') with
    | ':' :: ' ' :: value => value
    | ':' :: value => value
    | _ => []
  (String.ofList (line.takeWhile (· != ':')), String.ofList value)

/-- A message under way. -/
structure Draft where
  /-- The name that the server gave, or nothing. -/
  event : String := ""
  /-- The lines of data. -/
  data : List String := []
  deriving DecidableEq, Repr

namespace Draft

/-- The draft after a field.  Fields other than the name and the data do not
matter here; a comment is a field without a name. -/
def add (draft : Draft) (field : String × String) : Draft :=
  match field.1 with
  | "event" => { draft with event := field.2 }
  | "data" => { draft with data := draft.data ++ [field.2] }
  | _ => draft

/-- The message of a draft that is ended by a blank line. -/
def message? (draft : Draft) : Option SseMessage :=
  if draft.data.isEmpty then none
  else
    some
      { event := if draft.event.isEmpty then "message" else draft.event
        data := String.intercalate "\n" draft.data }

end Draft

/-- The messages of lines that go on with a draft. -/
def messagesFrom (draft : Draft) : List (List Char) → List SseMessage
  | [] => []
  | [] :: rest => draft.message?.toList ++ messagesFrom {} rest
  | line :: rest => messagesFrom (draft.add (fieldOf line)) rest

/-- The messages of a text. -/
def messages (text : List Char) : List SseMessage :=
  messagesFrom {} (linesFrom [] text)

@[simp] theorem messages_nil : messages [] = [] := rfl

end Framing
end Feed
end SyncWatch
