/-!
# Styled text

A terminal shows a text in colour if it stands between an escape sequence and the sequence that
takes every style back. Whether that is wanted is decided by whoever prints, so a style is applied
only if colours are on.
-/

namespace SerialAudio

namespace Text

/-- The colours in use. -/
inductive Color where
  /-- Something went wrong. -/
  | red
  /-- Something went well. -/
  | green
  /-- Something looks odd. -/
  | yellow
  /-- Something is about to happen. -/
  | cyan
deriving DecidableEq, Repr

/-- The number of a colour in an escape sequence. -/
def Color.code : Color → String
  | .red => "31"
  | .green => "32"
  | .yellow => "33"
  | .cyan => "36"

/-- A colour, and whether it is bold. -/
structure Style where
  /-- The colour. -/
  color : Color
  /-- Whether the text is bold. -/
  bold : Bool := false
deriving DecidableEq, Repr

/-- The escape sequence with some parameters. -/
def escape (parameters : String) : String := "\x1b[" ++ parameters ++ "m"

/-- The parameters of a style; bold comes first. -/
def Style.parameters (s : Style) : String :=
  if s.bold then "1;" ++ s.color.code else s.color.code

/-- A text in a style, if colours are on. -/
def Style.paint (s : Style) (colors : Bool) (text : String) : String :=
  if colors then escape s.parameters ++ text ++ escape "0" else text

end Text

end SerialAudio
