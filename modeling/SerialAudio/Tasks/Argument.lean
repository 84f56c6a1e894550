/-!
# Arguments of a run

An argument reaches a program as a text that ends at the first NUL. A text with a NUL in it would
arrive cut short, so it is refused: no run is started with it, and a command that is only shown has
a mark in its place. The mark itself can be passed, so a command that is shown looks the same when
it is taken for a command once more.
-/

namespace SerialAudio

namespace Tasks

namespace Argument

/-- Whether a text can be an argument. -/
def passable (argument : String) : Bool := !argument.toList.contains '\x00'

/-- What is shown for a text that cannot be an argument. -/
def refusedMark : String := "<string-with-nul>"

/-- Why a run with such a text is not started. -/
def refusal : String := "nul byte found in provided data"

/-- How an argument is shown. -/
def shown (argument : String) : String := if passable argument then argument else refusedMark

@[simp] theorem passable_refusedMark : passable refusedMark = true := by decide

theorem shown_of_passable {argument : String} (h : passable argument = true) :
    shown argument = argument := by simp [shown, h]

@[simp] theorem passable_shown (argument : String) : passable (shown argument) = true := by
  by_cases h : passable argument = true <;> simp [shown, h]

@[simp] theorem shown_shown (argument : String) : shown (shown argument) = shown argument :=
  shown_of_passable (passable_shown argument)

end Argument

end Tasks

end SerialAudio
