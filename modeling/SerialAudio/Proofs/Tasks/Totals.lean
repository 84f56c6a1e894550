import SerialAudio.Proofs.Text.Cutting
import SerialAudio.Tasks.Summary
import Mathlib.Algebra.Ring.Nat
/-!
# Adding up a text

The summary looks at one line at a time, so the totals of a text are the sum of what its lines say.
Two things stand between this and the text as it was printed: sums stop at the greatest number that
fits, and lines depend on how they end. Neither matters in the end. A sum that stops too early has
stopped anyway, and a carriage return at the end of a line is a blank like any other.

What is true of one figure of the totals is true of the others, so it is said about a `Figure`.

## Main results

* `Figure.of_foldl` — a sum that stops is the sum, stopped
* `ofLine_concat_return` — a carriage return at the end of a line says nothing
* `Figure.of_ofText` — the totals of a text, from its pieces
* `Figure.of_ofText_append` — the totals of two texts, one below the other
-/

namespace SerialAudio

namespace Tasks

namespace Totals

attribute [ext] Totals

/-- A figure of the totals. It is zero before anything is counted, and sums of it stop at the
greatest number that fits. -/
structure Figure where
  /-- The figure. -/
  of : Totals → Nat
  /-- The greatest number that fits. -/
  greatest : Nat
  of_empty : of {} = 0
  of_add : ∀ a b, of (a + b) = min (of a + of b) greatest

namespace Figure

/-- The tests that passed. -/
def passed : Figure where
  of := Totals.passed
  greatest := Text.greatestCount
  of_empty := rfl
  of_add := passed_add

/-- The tests that failed. -/
def failed : Figure where
  of := Totals.failed
  greatest := Text.greatestCount
  of_empty := rfl
  of_add := failed_add

/-- The result lines. -/
def binaries : Figure where
  of := Totals.binaries
  greatest := greatestBinaries
  of_empty := rfl
  of_add := binaries_add

variable (k : Figure)

/-- **A sum that stops** at every step is the sum, stopped at the end. -/
theorem of_foldl {α : Type} (f : α → Totals) (xs : List α) {t : Totals} (h : k.of t ≤ k.greatest) :
    k.of (xs.foldl (fun t x => t + f x) t) =
      min (k.of t + (xs.map fun x => k.of (f x)).sum) k.greatest := by
  induction xs generalizing t with
  | nil => exact (Nat.min_eq_left h).symm
  | cons x xs ih =>
    have stopped : k.of (t + f x) = min (k.of t + k.of (f x)) k.greatest := k.of_add t (f x)
    rw [List.foldl_cons, ih (stopped ▸ Nat.min_le_right _ _), stopped, List.map_cons, List.sum_cons]
    -- What stopped at the first step is at the greatest number already, and stays there.
    omega

end Figure

/-! ## Lines and their ends -/

theorem ofPart_concat_blank {c : Char} (h : Text.isBlank c) (part : List Char) :
    ofPart (part ++ [c]) = ofPart part := by
  simp only [ofPart, countAndKind?, Text.words_concat_blank h]

/-- A carriage return at the end of a line says nothing. -/
theorem ofLine_concat_return (l : List Char) : ofLine (l ++ ['\r']) = ofLine l := by
  rw [ofLine, ofLine]
  rcases Text.between?_concat (by decide) (by decide : '\r' ∉ mark) l with same | more
  · rw [same]
  · rw [more]
    cases Text.between? mark l with
    | none => rfl
    | some result =>
      obtain ⟨init, last, now, next⟩ := Text.exists_pieces_concat ';' result
      have blank : ofPart (last ++ ['\r']) = ofPart last := ofPart_concat_blank (by decide) last
      simp only [Option.map_some, now, next '\r' (by decide), List.foldl_append, List.foldl_cons,
        List.foldl_nil, blank]

/-- A line without the mark says nothing. -/
theorem ofLine_of_unmarked {l : List Char} (h : ¬mark <:+: l) : ofLine l = {} := by
  rw [ofLine, Text.between?, Text.after?_eq_none h]
  rfl

namespace Figure

variable (k : Figure)

/-- Line ends do not count. -/
theorem sum_of_ends {ls ps : List (List Char)} (h : Text.Ends ls ps) :
    (ls.map fun l => k.of (ofLine l)).sum = (ps.map fun p => k.of (ofLine p)).sum := by
  have empty : k.of (ofLine []) = 0 := k.of_empty
  induction h with
  | nothing => simp [empty]
  | stop _ => rfl
  | feed l _ ih => simp [ih]
  | returnFeed l _ ih => simp [ih, ofLine_concat_return]

/-- **The totals of a text**, from its pieces between line feeds. -/
theorem of_ofText (text : List Char) : k.of (ofText text) =
    min ((Text.pieces '\n' text).map fun p => k.of (ofLine p)).sum k.greatest := by
  have start : k.of {} ≤ k.greatest := by
    rw [k.of_empty]
    exact Nat.zero_le _
  rw [ofText, k.of_foldl ofLine _ start, k.of_empty, Nat.zero_add,
    k.sum_of_ends (Text.ends_lines text)]

/-- **The totals of two texts**, one below the other. -/
theorem of_ofText_append (a b : List Char) : k.of (ofText (a ++ '\n' :: b)) =
    min (k.of (ofText a) + k.of (ofText b)) k.greatest := by
  simp only [of_ofText, Text.pieces_append, List.map_append, List.sum_append]
  omega

/-- The totals of a line with its end and of what follows. -/
theorem of_ofText_line {l : List Char} (h : '\n' ∉ l) (text : List Char) :
    k.of (ofText (l ++ '\n' :: text)) = min (k.of (ofLine l) + k.of (ofText text)) k.greatest := by
  simp only [of_ofText, Text.pieces_append, Text.pieces_of_not_mem h, List.map_append,
    List.sum_append, List.map_cons, List.map_nil, List.sum_cons, List.sum_nil]
  omega

end Figure

end Totals

end Tasks

end SerialAudio
