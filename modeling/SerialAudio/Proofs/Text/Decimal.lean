import SerialAudio.Proofs.Text.Cutting
import SerialAudio.Text.Decimal
/-!
# Reading decimal numbers back

A number is printed in digits, so what is printed is one word and begins with no sign. Reading the
digits from the left undoes the printing, and the only thing that can go wrong with a count is that
it needs more than 64 bits.

## Main results

* `words_decimal` — a printed number is one word
* `count?_decimal` — a printed count is read back
-/

namespace SerialAudio

namespace Text

variable {c : Char} {n : Nat} {cs : List Char}

theorem isDigit_of_mem_decimal (h : c ∈ decimal n) : c.isDigit :=
  Nat.isDigit_of_mem_toDigits (by decide) (by decide) h

theorem decimal_ne_nil (n : Nat) : decimal n ≠ [] := Nat.toDigits_ne_nil

theorem isDigit_iff_le : c.isDigit ↔ '0' ≤ c ∧ c ≤ '9' := by
  simp [Char.isDigit, Char.le_def]

/-- No digit is a blank. -/
theorem not_isBlank_of_isDigit (h : c.isDigit) : ¬isBlank c := by
  have range : 48 ≤ c.toNat ∧ c.toNat ≤ 57 := by
    simpa [Char.isDigit, UInt32.le_iff_toNat_le] using h
  simp only [isBlank, loneBlanks, List.contains_eq_mem, List.mem_cons, List.not_mem_nil,
    or_false, Bool.or_eq_true, Bool.and_eq_true, decide_eq_true_eq]
  omega

/-- A printed number is one word. -/
theorem words_decimal (n : Nat) : words (decimal n) = [decimal n] :=
  words_of_no_blank (decimal_ne_nil n) fun _ h => not_isBlank_of_isDigit (isDigit_of_mem_decimal h)

/-- Digits are read from the left. -/
theorem digitsFrom?_eq (h : ∀ c ∈ cs, c.isDigit) (n : Nat) :
    digitsFrom? n cs = some (Nat.ofDigitChars 10 cs n) := by
  induction cs generalizing n with
  | nil => rfl
  | cons c cs ih =>
    have digit := isDigit_iff_le.1 (h c List.mem_cons_self)
    rw [digitsFrom?, digit?, if_pos digit, Option.bind_some, Nat.ofDigitChars_cons]
    exact ih (fun x hx => h x (List.mem_cons_of_mem _ hx)) _

/-- Without a sign a count is what its digits stand for. -/
theorem count?_of_ne_plus (h : c ≠ '+') (cs : List Char) :
    count? (c :: cs) = (digitsFrom? 0 (c :: cs)).filter (· ≤ greatestCount) := by
  unfold count?
  split
  · rename_i signed
    exact absurd (List.cons.inj signed).1 h
  · rfl

/-- **A printed count is read back.** -/
theorem count?_decimal (h : n ≤ greatestCount) : count? (decimal n) = some n := by
  have value : digitsFrom? 0 (decimal n) = some n := by
    rw [digitsFrom?_eq (fun _ => isDigit_of_mem_decimal), decimal,
      Nat.ofDigitChars_toDigits (by decide) (by decide)]
  obtain ⟨c, cs, printed⟩ := List.exists_cons_of_ne_nil (decimal_ne_nil n)
  have unsigned : c ≠ '+' := by
    rintro rfl
    have digit : '+'.isDigit := isDigit_of_mem_decimal (printed ▸ List.mem_cons_self)
    exact absurd digit (by decide)
  rw [printed] at value ⊢
  rw [count?_of_ne_plus unsigned, value]
  exact Option.filter_eq_some_iff.2 ⟨rfl, decide_eq_true h⟩

end Text

end SerialAudio
