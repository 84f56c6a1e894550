import SerialAudio.Text.Blank
/-!
# Cutting a text

A text is cut at line ends, at a separator, at blanks, or at a mark. All four are defined by
recursion on the characters, so that what holds of a text can be proved one character at a time.

The line end is a line feed, together with a carriage return right before it. A carriage return on
its own is an ordinary character, and so is one at the end of a text that stops without a line feed.
-/

namespace SerialAudio

namespace Text

/-- Put a character in front of the first piece. -/
def consHead (c : Char) : List (List Char) → List (List Char)
  | [] => [[c]]
  | p :: ps => (c :: p) :: ps

/-- The lines of a text, without their ends. Nothing follows the last line end. -/
def lines : List Char → List (List Char)
  | [] => []
  | '\n' :: cs => [] :: lines cs
  | '\r' :: '\n' :: cs => [] :: lines cs
  | c :: cs => consHead c (lines cs)

/-- The pieces of a text between separators. There is one more of them than of separators. -/
def pieces (separator : Char) : List Char → List (List Char)
  | [] => [[]]
  | c :: cs =>
    if c = separator then [] :: pieces separator cs else consHead c (pieces separator cs)

/-- The words of a text, which are the longest pieces without a blank. -/
def words : List Char → List (List Char)
  | [] => []
  | c :: cs =>
    if isBlank c then words cs
    else if cs.head?.all isBlank then [c] :: words cs
    else consHead c (words cs)

/-- What follows the first occurrence of a mark. -/
def after? (mark : List Char) : List Char → Option (List Char)
  | [] => none
  | c :: cs =>
    if mark.isPrefixOf (c :: cs) then some ((c :: cs).drop mark.length) else after? mark cs

/-- What precedes the first occurrence of a mark, which is everything if there is none. -/
def before (mark : List Char) : List Char → List Char
  | [] => []
  | c :: cs => if mark.isPrefixOf (c :: cs) then [] else c :: before mark cs

/-- What stands between the first occurrence of a mark and the second, or the end. -/
def between? (mark : List Char) (text : List Char) : Option (List Char) :=
  (after? mark text).map (before mark)

@[simp] theorem length_pieces (separator : Char) (text : List Char) :
    (pieces separator text).length = text.count separator + 1 := by
  induction text with
  | nil => rfl
  | cons c cs ih =>
    by_cases h : c = separator
    · simp [pieces, h, ih]
    · rw [pieces, if_neg h, List.count_cons_of_ne h]
      cases hp : pieces separator cs with
      | nil => simp [hp] at ih
      | cons p ps => simpa [consHead, hp] using ih

end Text

end SerialAudio
