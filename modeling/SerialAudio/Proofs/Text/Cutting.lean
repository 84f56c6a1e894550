import SerialAudio.Text.Lines
/-!
# What cutting a text comes to

A separator cuts a text into the pieces before it and the pieces behind it, and a blank does so with
the words. Everything that is needed of pieces and words follows from these two equations.

Lines are less regular: a line end may take a carriage return away, and the last one leaves no line
behind. Compared with the pieces between line feeds, that is all there is to them.

## Main results

* `pieces_append` — the pieces on both sides of a separator
* `pieces_intercalate` — texts with a separator between them are its pieces
* `words_append` — the words on both sides of a blank
* `ends_lines` — lines and the pieces between line feeds
* `between?_mark_append`, `between?_concat` — what follows a mark
-/

namespace SerialAudio

namespace Text

variable {c sep : Char} {a b mark text word : List Char}

/-! ## Pieces -/

theorem consHead_append {ps : List (List Char)} (h : ps ≠ []) (c : Char) (qs : List (List Char)) :
    consHead c (ps ++ qs) = consHead c ps ++ qs := by
  cases ps with
  | nil => exact absurd rfl h
  | cons p ps => rfl

theorem pieces_ne_nil (sep : Char) (text : List Char) : pieces sep text ≠ [] := by
  intro h
  have length := length_pieces sep text
  rw [h] at length
  exact Nat.succ_ne_zero _ length.symm

/-- **A separator cuts a text in two**, and the two sides are cut on their own. -/
theorem pieces_append (sep : Char) (a b : List Char) :
    pieces sep (a ++ sep :: b) = pieces sep a ++ pieces sep b := by
  induction a with
  | nil => simp [pieces]
  | cons c a ih =>
    by_cases h : c = sep
    · simp [pieces, h, ih]
    · simp only [List.cons_append, pieces, if_neg h, ih]
      exact consHead_append (pieces_ne_nil sep a) c _

/-- A text without the separator is one piece. -/
theorem pieces_of_not_mem (h : sep ∉ text) : pieces sep text = [text] := by
  induction text with
  | nil => rfl
  | cons c cs ih =>
    obtain ⟨hc, hcs⟩ := List.ne_and_not_mem_of_not_mem_cons h
    rw [pieces, if_neg (Ne.symm hc), ih hcs]
    rfl

/-- One more character is one more character of the last piece. -/
theorem exists_pieces_concat (sep : Char) (text : List Char) :
    ∃ init last, pieces sep text = init ++ [last] ∧
      ∀ c, c ≠ sep → pieces sep (text ++ [c]) = init ++ [last ++ [c]] := by
  induction text with
  | nil => exact ⟨[], [], rfl, fun c h => by simp [pieces, h, consHead]⟩
  | cons x text ih =>
    obtain ⟨init, last, now, next⟩ := ih
    by_cases h : x = sep
    · refine ⟨[] :: init, last, by simp [pieces, h, now], fun c hc => ?_⟩
      simp [pieces, h, next c hc]
    · -- `x` goes in front of the first piece, which is the last one if there is only one.
      cases init with
      | nil =>
        refine ⟨[], x :: last, by simp [pieces, h, now, consHead], fun c hc => ?_⟩
        simp [pieces, h, next c hc, consHead]
      | cons p init =>
        refine ⟨(x :: p) :: init, last, by simp [pieces, h, now, consHead], fun c hc => ?_⟩
        simp [pieces, h, next c hc, consHead]

/-- Texts with a separator between them. -/
theorem intercalate_cons (sep : Char) (p : List Char) (ps : List (List Char)) :
    [sep].intercalate (p :: ps) = p ++ ps.flatMap (sep :: ·) := by
  induction ps generalizing p with
  | nil => rw [List.intercalate_singleton, List.flatMap_nil, List.append_nil]
  | cons q qs ih =>
    rw [List.intercalate_cons_cons, ih q, List.flatMap_cons, List.append_assoc]
    rfl

/-- A character that is neither the separator nor in one of the texts. -/
theorem not_mem_intercalate (hc : c ≠ sep) {ps : List (List Char)} (h : ∀ p ∈ ps, c ∉ p) :
    c ∉ [sep].intercalate ps := by
  induction ps with
  | nil => exact List.not_mem_nil
  | cons p ps ih =>
    have first : c ∉ p := h p List.mem_cons_self
    have rest := ih fun q hq => h q (List.mem_cons_of_mem _ hq)
    cases ps with
    | nil => simpa using first
    | cons q qs => simp [List.intercalate_cons_cons, first, rest, hc]

/-- **Texts without the separator** are the pieces of what they make with it between them. -/
theorem pieces_intercalate {ps : List (List Char)} (ne : ps ≠ []) (h : ∀ p ∈ ps, sep ∉ p) :
    pieces sep ([sep].intercalate ps) = ps := by
  induction ps with
  | nil => exact absurd rfl ne
  | cons p ps ih =>
    have first : pieces sep p = [p] := pieces_of_not_mem (h p List.mem_cons_self)
    cases ps with
    | nil => simpa using first
    | cons q qs =>
      have rest := ih (List.cons_ne_nil q qs) fun x hx => h x (List.mem_cons_of_mem _ hx)
      rw [List.intercalate_cons_cons, List.append_assoc, List.singleton_append, pieces_append,
        first, rest, List.singleton_append]

/-! ## Words -/

theorem words_cons_blank (h : isBlank c) (text : List Char) : words (c :: text) = words text := by
  rw [words, if_pos h]

/-- A text that begins with a word has one. -/
theorem words_ne_nil (h : ¬isBlank c) (text : List Char) : words (c :: text) ≠ [] := by
  rw [words, if_neg h]
  split
  · exact List.cons_ne_nil _ _
  · cases words text <;> exact List.cons_ne_nil _ _

/-- **A blank cuts a text in two**, and the two sides have their words. -/
theorem words_append (h : isBlank c) (a b : List Char) :
    words (a ++ c :: b) = words a ++ words b := by
  induction a with
  | nil => exact words_cons_blank h b
  | cons x a ih =>
    by_cases hx : isBlank x
    · rw [List.cons_append, words_cons_blank hx, words_cons_blank hx, ih]
    · cases a with
      | nil => simp [words, hx, h]
      | cons y a =>
        -- The blank is not next to `x`, so `x` begins a word on its own on both sides or on none.
        by_cases hy : isBlank y
        · simp_all [words]
        · have inner := consHead_append (words_ne_nil hy a) x (words b)
          simp_all [words]

/-- A blank at the end belongs to no word. -/
theorem words_concat_blank (h : isBlank c) (text : List Char) :
    words (text ++ [c]) = words text := by
  rw [words_append h]
  exact List.append_nil _

/-- Characters without a blank among them are one word. -/
theorem words_of_no_blank (ne : word ≠ []) (h : ∀ c ∈ word, ¬isBlank c) : words word = [word] := by
  induction word with
  | nil => exact absurd rfl ne
  | cons c cs ih =>
    have hc := h c List.mem_cons_self
    cases cs with
    | nil => simp [words, hc]
    | cons d cs =>
      have hd := h d (List.mem_cons_of_mem _ List.mem_cons_self)
      have tail := ih (List.cons_ne_nil d cs) fun x hx => h x (List.mem_cons_of_mem _ hx)
      rw [words, if_neg hc, tail, if_neg (by simpa using hd)]
      rfl

/-! ## Lines -/

/-- These lines stand between these pieces: a line feed may have a carriage return before it, and
behind the last line feed nothing is no line. -/
inductive Ends : List (List Char) → List (List Char) → Prop
  /-- Nothing is left. -/
  | nothing : Ends [] [[]]
  /-- The last line stops without a line feed. -/
  | stop {l : List Char} (h : l ≠ []) : Ends [l] [l]
  /-- A line ends with a line feed. -/
  | feed (l : List Char) {ls ps : List (List Char)} (h : Ends ls ps) : Ends (l :: ls) (l :: ps)
  /-- A line ends with a carriage return and a line feed. -/
  | returnFeed (l : List Char) {ls ps : List (List Char)} (h : Ends ls ps) :
    Ends (l :: ls) ((l ++ ['\r']) :: ps)

theorem Ends.consHead {ls ps : List (List Char)} (c : Char) (h : Ends ls ps) :
    Ends (consHead c ls) (consHead c ps) := by
  cases h with
  | nothing => exact .stop (List.cons_ne_nil c [])
  | stop _ => exact .stop (List.cons_ne_nil c _)
  | feed l h => exact .feed (c :: l) h
  | returnFeed l h => exact .returnFeed (c :: l) h

/-- **Lines are the pieces between line feeds**, up to their ends. -/
theorem ends_lines (text : List Char) : Ends (lines text) (pieces '\n' text) := by
  induction text using lines.induct with
  | case1 => exact .nothing
  | case2 cs ih => exact .feed [] ih
  | case3 cs ih => exact .returnFeed [] ih
  | case4 c cs notFeed notReturn ih =>
    rw [lines, pieces, if_neg notFeed]
    · exact ih.consHead c
    · exact notFeed
    · exact notReturn

/-! ## Marks -/

theorem after?_cons (mark : List Char) (c : Char) (cs : List Char) : after? mark (c :: cs) =
    if mark <+: c :: cs then some ((c :: cs).drop mark.length) else after? mark cs := by
  simp only [after?, List.isPrefixOf_iff_prefix]

theorem before_cons (mark : List Char) (c : Char) (cs : List Char) :
    before mark (c :: cs) = if mark <+: c :: cs then [] else c :: before mark cs := by
  simp only [before, List.isPrefixOf_iff_prefix]

/-- What follows a mark at the beginning is the rest. -/
theorem after?_mark_append (ne : mark ≠ []) (rest : List Char) :
    after? mark (mark ++ rest) = some rest := by
  cases mark with
  | nil => exact absurd rfl ne
  | cons m mark => simp [after?]

/-- Nothing follows a mark that does not occur. -/
theorem after?_eq_none (h : ¬mark <:+: text) : after? mark text = none := by
  induction text with
  | nil => rfl
  | cons c cs ih =>
    have here : ¬mark <+: c :: cs := fun starts => h starts.isInfix
    have later : ¬mark <:+: cs := fun occurs => h (List.infix_cons occurs)
    rw [after?_cons, if_neg here, ih later]

/-- A text without one of the characters of a mark precedes it as a whole. -/
theorem before_of_not_mem (hc : c ∈ mark) (h : c ∉ text) : before mark text = text := by
  induction text with
  | nil => rfl
  | cons x xs ih =>
    have here : ¬mark <+: x :: xs := fun starts => h (starts.subset hc)
    have later : c ∉ xs := fun occurs => h (List.mem_cons_of_mem _ occurs)
    rw [before_cons, if_neg here, ih later]

/-- A character that is not in a mark does not complete one. -/
theorem prefix_concat_iff (hc : c ∉ mark) (text : List Char) :
    mark <+: text ++ [c] ↔ mark <+: text := by
  rw [List.prefix_concat_iff, or_iff_right]
  rintro rfl
  exact hc (List.mem_append_right _ List.mem_cons_self)

/-- What follows a mark grows with the text. -/
theorem after?_concat (ne : mark ≠ []) (hc : c ∉ mark) (text : List Char) :
    after? mark (text ++ [c]) = (after? mark text).map (· ++ [c]) := by
  induction text with
  | nil =>
    have here : ¬mark <+: [c] := by
      rw [← List.nil_append [c], prefix_concat_iff hc, List.prefix_nil]
      exact ne
    rw [List.nil_append, after?_cons, if_neg here]
    rfl
  | cons x xs ih =>
    have same : mark <+: x :: (xs ++ [c]) ↔ mark <+: x :: xs :=
      prefix_concat_iff hc (x :: xs)
    rw [List.cons_append]
    by_cases h : mark <+: x :: xs
    · rw [after?_cons, after?_cons, if_pos h, if_pos (same.2 h), ← List.cons_append,
        List.drop_append_of_le_length h.length_le]
      rfl
    · rw [after?_cons, after?_cons, if_neg h, if_neg (h ∘ same.1), ih]

/-- What precedes a mark grows with the text, or is complete. -/
theorem before_concat (hc : c ∉ mark) (text : List Char) :
    before mark (text ++ [c]) = before mark text ∨
      before mark (text ++ [c]) = before mark text ++ [c] := by
  induction text with
  | nil =>
    rw [List.nil_append, before_cons]
    split
    · exact .inl rfl
    · exact .inr rfl
  | cons x xs ih =>
    have same : mark <+: x :: (xs ++ [c]) ↔ mark <+: x :: xs :=
      prefix_concat_iff hc (x :: xs)
    rw [List.cons_append]
    by_cases h : mark <+: x :: xs
    · rw [before_cons, before_cons, if_pos h, if_pos (same.2 h)]
      exact .inl rfl
    · rw [before_cons, before_cons, if_neg h, if_neg (h ∘ same.1)]
      exact ih.imp (congrArg (x :: ·)) (congrArg (x :: ·))

/-- **One more character**, if it is not in the mark, is one more behind the mark or makes no
difference. -/
theorem between?_concat (ne : mark ≠ []) (hc : c ∉ mark) (text : List Char) :
    between? mark (text ++ [c]) = between? mark text ∨
      between? mark (text ++ [c]) = (between? mark text).map (· ++ [c]) := by
  rw [between?, between?, after?_concat ne hc]
  cases after? mark text with
  | none => exact .inl rfl
  | some rest => exact (before_concat hc rest).imp (congrArg some) (congrArg some)

/-- What stands behind a mark at the beginning, if the mark cannot occur again. -/
theorem between?_mark_append (hc : c ∈ mark) (h : c ∉ text) :
    between? mark (mark ++ text) = some text := by
  rw [between?, after?_mark_append (List.ne_nil_of_mem hc), Option.map_some,
    before_of_not_mem hc h]

end Text

end SerialAudio
