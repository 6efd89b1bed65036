/-!
# What the reader does

Events of the terminal, and what they ask of the dashboard.
-/

namespace SyncWatch
namespace Screen

/-- A key. -/
inductive Key where
  | char (char : Char)
  | escape
  | up
  | down
  | pageUp
  | pageDown
  | home
  | endKey
  /-- A key that asks for nothing. -/
  | other
  deriving DecidableEq, Repr

/-- An event of the terminal. -/
inductive TerminalEvent where
  /-- A key, with whether the control key is held and whether the key is let go. -/
  | key (key : Key) (control released : Bool)
  | wheelUp
  | wheelDown
  | focusGained
  | focusLost
  | resize
  /-- An event that asks for nothing. -/
  | other
  deriving DecidableEq, Repr

/-- What is asked of the dashboard. -/
inductive Action where
  | quit
  /-- Quit by the key that interrupts programs. -/
  | forceQuit
  /-- Change between the log line by line and the summary. -/
  | toggleDetails
  /-- Change between readable lines and lines as they were sent. -/
  | toggleDebug
  | scrollUp
  | scrollDown
  | pageUp
  | pageDown
  | goToTop
  /-- Go to the newest line and follow it. -/
  | goToBottom
  /-- Go to a percentage of the log. -/
  | scrub (percent : Nat)
  | reconnect
  | clear
  /-- Whether the terminal is looked at. -/
  | focusChanged (focused : Bool)
  | resize
  | nothing
  deriving DecidableEq, Repr

namespace Action

/-- What a digit asks for: ten times its percentage. -/
def ofDigit (char : Char) : Action :=
  if char.isDigit then .scrub ((char.toNat - '0'.toNat) * 10) else .nothing

/-- What a character asks for.  Commands have no case, movements do. -/
def ofChar (char : Char) : Action :=
  match char with
  | 'q' | 'Q' => .quit
  | 'd' | 'D' => .toggleDetails
  | 'b' | 'B' => .toggleDebug
  | 'r' | 'R' => .reconnect
  | 'c' | 'C' => .clear
  | 'k' => .scrollUp
  | 'j' => .scrollDown
  | 'g' => .goToTop
  | 'G' => .goToBottom
  | char => ofDigit char

/-- What a key asks for. -/
def ofKey (key : Key) (control : Bool) : Action :=
  if control && key == .char 'c' then .forceQuit
  else if control && key == .char 'l' then .clear
  else
    match key with
    | .char char => ofChar char
    | .escape => .quit
    | .up => .scrollUp
    | .down => .scrollDown
    | .pageUp => .pageUp
    | .pageDown => .pageDown
    | .home => .goToTop
    | .endKey => .goToBottom
    | .other => .nothing

/-- What an event asks for.  Letting a key go asks for nothing. -/
def ofEvent : TerminalEvent → Action
  | .key key control released => if released then .nothing else ofKey key control
  | .wheelUp => .scrollUp
  | .wheelDown => .scrollDown
  | .focusGained => .focusChanged true
  | .focusLost => .focusChanged false
  | .resize => .resize
  | .other => .nothing

end Action
end Screen
end SyncWatch
