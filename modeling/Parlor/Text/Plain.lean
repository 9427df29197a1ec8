namespace Parlor.Text

inductive ControlState where
  | text
  | escape
  | announced
  | parameters
  | title
  | device
  | deviceNumbers
  | deviceSigns
  | message
deriving DecidableEq, Repr

def isBetween (first last c : Char) : Bool := first ≤ c && c ≤ last

def endsMessage (c : Char) : Bool := (String.utf8EncodeChar c).contains 0x9c

namespace ControlState

def after (state : ControlState) (c : Char) : ControlState :=
  if c = '\x1b' then escape
  else if c = '\x18' || c = '\x1a' then text
  else match state with
    | text => text
    | escape =>
      if isBetween ' ' '/' c then announced
      else if c = '[' then parameters
      else if c = ']' then title
      else if c = 'P' then device
      else if c ∈ ['X', '^', '_'] then message
      else if isBetween '0' '~' c then text
      else escape
    | announced => if isBetween '0' '~' c then text else announced
    | parameters => if isBetween '@' '~' c then text else parameters
    | title => if c = '\x07' then text else title
    | device =>
      if isBetween ' ' '/' c then deviceSigns
      else if isBetween '0' '?' c then deviceNumbers
      else if isBetween '@' '~' c then message
      else device
    | deviceNumbers =>
      if isBetween ' ' '/' c then deviceSigns
      else if isBetween '<' '~' c then message
      else deviceNumbers
    | deviceSigns => if isBetween '0' '~' c then message else deviceSigns
    | message => if endsMessage c then text else message

def isBlankControl (c : Char) : Bool := c ∈ ['\t', '\n', '\x0c', '\r']

def shows (state : ControlState) (c : Char) : Bool :=
  match state with
  | text => (' ' ≤ c && c ≠ '\x7f') || isBlankControl c
  | escape | announced | parameters => isBlankControl c
  | title | device | deviceNumbers | deviceSigns | message => false

/-- The characters of a text that show. Behind a character that shows, all others show that would
show outside of a sequence. A character of more than one byte ends a sequence that way. -/
def shown (state : ControlState) (showing : Bool) : List Char → List Char
  | [] => []
  | c :: rest =>
    if (if showing then text else state).shows c then
      c :: shown (if c < '\u0080' then state else text) true rest
    else shown (state.after c) false rest

end ControlState

def plain (text : String) : String := String.ofList (ControlState.text.shown false text.toList)

end Parlor.Text
