/-!
# Elapsed times

Times are counted in hundredths of a second and shown as seconds with two places. A report that is
to be compared with another one must not depend on them, so `maskElapsed` replaces every time that
is shown with the word `in` before it.
-/

namespace SerialAudio

namespace Text

/-- Hundredths of a second, as seconds with two places. -/
def seconds (hundredths : Nat) : String :=
  let rest := hundredths % 100
  toString (hundredths / 100) ++ "." ++ (if rest < 10 then "0" else "") ++ toString rest ++ "s"

/-- What stands before a time. -/
def elapsedLead : List Char := " in ".toList

/-- What a masked time is replaced with. -/
def elapsedMask : List Char := " in Ts".toList

/-- How long the time at the beginning of a text is, if there is one. -/
def elapsedLength? (text : List Char) : Option Nat :=
  if elapsedLead.isPrefixOf text then
    let rest := text.drop elapsedLead.length
    let whole := rest.takeWhile Char.isDigit
    match whole, rest.dropWhile Char.isDigit with
    | _ :: _, '.' :: a :: b :: 's' :: _ =>
      if a.isDigit && b.isDigit then some (elapsedLead.length + whole.length + 4) else none
    | _, _ => none
  else none

/-- The text without its first `skip` characters, and with times masked. -/
def maskFrom (skip : Nat) : List Char → List Char
  | [] => []
  | c :: cs =>
    match skip with
    | skip + 1 => maskFrom skip cs
    | 0 =>
      match elapsedLength? (c :: cs) with
      | some n => elapsedMask ++ maskFrom (n - 1) cs
      | none => c :: maskFrom 0 cs

/-- The text with times masked. -/
def maskElapsed (text : List Char) : List Char := maskFrom 0 text

end Text

end SerialAudio
