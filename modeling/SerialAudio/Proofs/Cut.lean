/-!
# Sequences that are cut off

Much of what goes step by step ends at the first step of a kind: a table at the first word that is
refused, a search at the first place that answers, a run of tests at the first stage that fails.
`upTo` is that cut, and it keeps the step that decides. So what is sought by the same property is
found in what is left exactly if it was there before.

## Main results

* `findSome?_upTo` — what is sought is not cut off
* `upTo_eq_self` — nothing is cut off if nothing decides
* `filter_upTo` — what does not decide is what comes before the cut
-/

namespace SerialAudio

variable {α β : Type} {p : α → Bool} {f : α → Option β} {x : α} {xs : List α}

/-- A list down to its first element with a property, or the whole list if there is none. -/
def upTo (p : α → Bool) (xs : List α) : List α := xs.take (xs.findIdx p + 1)

theorem upTo_cons_of_pos (h : p x = true) : upTo p (x :: xs) = [x] := by
  rw [upTo, List.findIdx_cons, h]
  rfl

theorem upTo_cons_of_neg (h : p x = false) : upTo p (x :: xs) = x :: upTo p xs := by
  rw [upTo, List.findIdx_cons, h]
  rfl

/-- What is sought is not cut off. -/
theorem findSome?_upTo (found : ∀ x, p x = (f x).isSome) :
    (upTo p xs).findSome? f = xs.findSome? f := by
  induction xs with
  | nil => rfl
  | cons x xs ih =>
    cases hx : f x with
    | none =>
      have keep : p x = false := by rw [found, hx]; rfl
      rw [upTo_cons_of_neg keep, List.findSome?_cons, List.findSome?_cons, hx]
      exact ih
    | some y =>
      have cut : p x = true := by rw [found, hx]; rfl
      rw [upTo_cons_of_pos cut, List.findSome?_cons, List.findSome?_cons, hx]

theorem upTo_eq_self (h : ∀ x ∈ xs, p x = false) : upTo p xs = xs := by
  rw [upTo, List.findIdx_eq_length.mpr h]
  exact List.take_of_length_le (Nat.le_succ _)

/-- Of what is left, only the last element can have the property. -/
theorem filter_upTo : (upTo p xs).filter (!p ·) = xs.takeWhile (!p ·) := by
  induction xs with
  | nil => rfl
  | cons x xs ih =>
    cases hx : p x with
    | false =>
      rw [upTo_cons_of_neg hx, List.filter_cons, List.takeWhile_cons, hx, ih]
      rfl
    | true =>
      rw [upTo_cons_of_pos hx, List.filter_cons, List.takeWhile_cons, hx]
      rfl

end SerialAudio
