import SerialAudio.Proofs.Tasks.Totals
import SerialAudio.Proofs.Text.Decimal
import SerialAudio.Tasks.Output
/-!
# Reading result lines back

A result line is a mark and parts behind semicolons. A part counts by its last two words, which are
a number and a kind, and there are only two kinds that are added up. The other parts come to
nothing: they count something else, or there is no number where it would have to be.

## Main results

* `ResultLine.print_eq` — a result line is the mark and its parts
* `countAndKind?_append` — a part counts by its last two words
* `ofLine_print` — what a result line adds
* `Figure.of_ofText_printed` — what the lines of a run add up to
* `totals_add_up` — the summary adds up every result line and nothing else
-/

namespace SerialAudio

namespace Tasks

namespace ResultLine

/-! ## The parts of a result line -/

/-- What stands before the first count. -/
def status (l : ResultLine) : List Char := ' ' :: (if l.ok then "ok." else "FAILED.").toList

/-- The part that says how long it took, if there is one. -/
def timing (l : ResultLine) : List (List Char) :=
  l.finishedIn.toList.map fun t => " finished in ".toList ++ t ++ ['s']

/-- The parts that are not added up. -/
def remarks (l : ResultLine) : List (List Char) :=
  part l.ignored "ignored" :: part l.measured "measured" :: part l.filteredOut "filtered out" ::
    l.timing

/-- The parts of a result line. -/
def parts (l : ResultLine) : List (List Char) :=
  (l.status ++ part l.passed "passed") :: part l.failed "failed" :: l.remarks

theorem tail_eq (l : ResultLine) : tail l.finishedIn = l.timing.flatMap (';' :: ·) := by
  have lead : "; finished in ".toList = ';' :: " finished in ".toList := by decide
  unfold timing
  cases l.finishedIn with
  | none => rfl
  | some t =>
    show "; finished in ".toList ++ t ++ ['s'] =
      (';' :: (" finished in ".toList ++ t ++ ['s'])) ++ []
    rw [lead, List.append_nil, List.cons_append, List.cons_append]

/-- **A result line** is the mark and its parts. -/
theorem print_eq (l : ResultLine) : l.print = Totals.mark ++ [';'].intercalate l.parts := by
  have lead : "test result: ".toList = Totals.mark ++ [' '] := by decide
  unfold print parts remarks status
  rw [tail_eq, lead]
  generalize (if l.ok then "ok." else "FAILED.").toList = verdict
  simp only [Text.intercalate_cons, List.flatMap_cons, List.append_assoc, List.cons_append,
    List.nil_append]

example : print ⟨false, 1, 1, 0, 0, 12, some "0.05".toList⟩ =
    ("test result: FAILED. 1 passed; 1 failed; 0 ignored; 0 measured; 12 filtered out" ++
      "; finished in 0.05s").toList := by decide +kernel

/-! ## No part can be cut -/

/-- A text without the characters at which a text is cut. -/
def Whole (text : List Char) : Prop := ∀ c ∈ text, c ∉ ['\n', ':', ';']

instance (text : List Char) : Decidable (Whole text) :=
  decidable_of_iff (text.all (· ∉ ['\n', ':', ';'])) (by simp [Whole])

theorem Whole.append {a b : List Char} (ha : Whole a) (hb : Whole b) : Whole (a ++ b) := by
  intro c h
  exact (List.mem_append.1 h).elim (ha c) (hb c)

/-- Digits and dots are whole. -/
theorem whole_of_digits {text : List Char} (h : ∀ c ∈ text, c.isDigit ∨ c = '.') : Whole text := by
  intro c hc cut
  simp only [List.mem_cons, List.not_mem_nil, or_false] at cut
  rcases cut with rfl | rfl | rfl
  all_goals exact absurd (h _ hc) (by decide)

theorem whole_part (n : Nat) {kind : String} (h : Whole kind.toList) : Whole (part n kind) := by
  have blank : Whole [' '] := by decide
  have count : Whole (Text.decimal n) :=
    whole_of_digits fun _ hc => .inl (Text.isDigit_of_mem_decimal hc)
  exact (blank.append count).append (blank.append h)

/-- No part can be cut. -/
theorem whole_of_mem_parts {l : ResultLine} (sound : l.Sound) : ∀ p ∈ l.parts, Whole p := by
  have status : Whole l.status := by
    unfold status
    cases l.ok <;> decide
  have timing : ∀ p ∈ l.timing, Whole p := by
    intro p hp
    obtain ⟨t, ht, rfl⟩ := List.mem_map.1 hp
    have digits := sound.time t (Option.mem_toList.1 ht)
    exact (Whole.append (by decide) (whole_of_digits digits)).append (by decide)
  simp only [parts, remarks, List.forall_mem_cons]
  exact ⟨status.append (whole_part _ (by decide)), whole_part _ (by decide),
    whole_part _ (by decide), whole_part _ (by decide), whole_part _ (by decide), timing⟩

end ResultLine

namespace Totals

open ResultLine

variable {l : ResultLine} {count kind : List Char}

/-! ## What a part adds -/

/-- **A part counts by its last two words.** -/
theorem countAndKind?_append (hcount : Text.words count = [count])
    (hkind : Text.words kind = [kind]) (lead : List Char) :
    countAndKind? (lead ++ ' ' :: count ++ ' ' :: kind) = (Text.count? count).map (·, kind) := by
  have words : Text.words (lead ++ ' ' :: count ++ ' ' :: kind) =
      Text.words lead ++ [count] ++ [kind] := by
    rw [Text.words_append (by decide), Text.words_append (by decide), hcount, hkind]
  rw [countAndKind?, words, List.reverse_concat, List.reverse_concat]

/-- A part that says how many there are of a kind. -/
theorem ofPart_part {n : Nat} (h : n ≤ Text.greatestCount) {kind : String}
    (word : Text.words kind.toList = [kind.toList]) (lead : List Char) :
    ofPart (lead ++ part n kind) =
      if kind = "passed" then { passed := n }
      else if kind = "failed" then { failed := n }
      else {} := by
  have read : Text.count? (Text.decimal n) = some n :=
    Text.count?_decimal h
  have last : countAndKind? (lead ++ part n kind) = some (n, kind.toList) := by
    rw [part, ← List.append_assoc, countAndKind?_append (Text.words_decimal n) word, read]
    rfl
  simp only [ofPart, last, String.toList_inj]

/-- A part without a number before its last word adds nothing. -/
theorem ofPart_of_no_count (hcount : Text.words count = [count])
    (hkind : Text.words kind = [kind]) (none : Text.count? count = none) (lead : List Char) :
    ofPart (lead ++ ' ' :: count ++ ' ' :: kind) = {} := by
  rw [ofPart, countAndKind?_append hcount hkind, none]
  rfl

/-- What was not selected is not added up: there is a word in the place of the count. -/
theorem ofPart_filteredOut (n : Nat) : ofPart (part n "filtered out") = {} := by
  have kind : "filtered out".toList = "filtered".toList ++ ' ' :: "out".toList := by decide
  have last : part n "filtered out" =
      (' ' :: Text.decimal n) ++ ' ' :: "filtered".toList ++ ' ' :: "out".toList := by
    rw [part, kind, List.append_assoc]
    rfl
  rw [last]
  exact ofPart_of_no_count (by decide) (by decide) (by decide) _

/-- A time is one word, with its unit. -/
theorem words_time {t : List Char} (h : ∀ c ∈ t, c.isDigit ∨ c = '.') :
    Text.words (t ++ ['s']) = [t ++ ['s']] := by
  refine Text.words_of_no_blank (List.concat_ne_nil _ _) fun c hc => ?_
  rcases List.mem_append.1 hc with hc | hc
  · rcases h c hc with digit | rfl
    · exact Text.not_isBlank_of_isDigit digit
    · decide
  · rw [List.mem_singleton.1 hc]
    decide

/-- A time is not added up: there is a word in the place of the count. -/
theorem ofPart_time {t : List Char} (h : ∀ c ∈ t, c.isDigit ∨ c = '.') :
    ofPart (" finished in ".toList ++ t ++ ['s']) = {} := by
  have lead : " finished in ".toList = " finished".toList ++ ' ' :: "in".toList ++ [' '] := by
    decide
  have last : " finished in ".toList ++ t ++ ['s'] =
      " finished".toList ++ ' ' :: "in".toList ++ ' ' :: (t ++ ['s']) := by
    rw [lead, List.append_assoc, List.append_assoc]
    rfl
  rw [last]
  exact ofPart_of_no_count (by decide) (words_time h) (by decide) _

/-- The parts that are not added up add nothing. -/
theorem ofPart_of_mem_remarks (sound : l.Sound) : ∀ p ∈ l.remarks, ofPart p = {} := by
  have counted : ∀ {n : Nat} {kind : String}, n ∈ l.counts →
      Text.words kind.toList = [kind.toList] → kind ≠ "passed" → kind ≠ "failed" →
      ofPart (part n kind) = {} := by
    intro n kind hn word notPassed notFailed
    have alone := ofPart_part (sound.count n hn) word []
    rwa [if_neg notPassed, if_neg notFailed] at alone
  have timing : ∀ p ∈ l.timing, ofPart p = {} := by
    intro p hp
    obtain ⟨t, ht, rfl⟩ := List.mem_map.1 hp
    exact ofPart_time (sound.time t (Option.mem_toList.1 ht))
  simp only [remarks, List.forall_mem_cons]
  exact ⟨counted (by simp [counts]) (by decide) (by decide) (by decide),
    counted (by simp [counts]) (by decide) (by decide) (by decide), ofPart_filteredOut _, timing⟩

/-! ## What a line adds -/

/-- Totals that are a sum have stopped where they have to. -/
theorem add_add_empty (a b : Totals) : a + b + {} = a + b := by
  ext
  · simp
  · simp
  · simp

/-- Parts that add nothing can be left out. -/
theorem foldl_remarks {ps : List (List Char)} (h : ∀ p ∈ ps, ofPart p = {}) (a b : Totals) :
    ps.foldl (fun t p => t + ofPart p) (a + b) = a + b := by
  induction ps with
  | nil => rfl
  | cons p ps ih =>
    rw [List.foldl_cons, h p List.mem_cons_self, add_add_empty]
    exact ih fun q hq => h q (List.mem_cons_of_mem _ hq)

/-- What a result line says. -/
def ofResult (l : ResultLine) : Totals where
  passed := l.passed
  failed := l.failed
  binaries := 1

/-- **What a result line adds** is what it says. -/
theorem ofLine_print (sound : l.Sound) : ofLine l.print = ofResult l := by
  have whole := whole_of_mem_parts sound
  have fits : l.passed ≤ Text.greatestCount ∧ l.failed ≤ Text.greatestCount :=
    ⟨sound.count _ (by simp [counts]), sound.count _ (by simp [counts])⟩
  have body : Text.between? mark l.print = some ([';'].intercalate l.parts) := by
    rw [print_eq]
    have once : ':' ∉ [';'].intercalate l.parts :=
      Text.not_mem_intercalate (by decide) fun p hp hc => whole p hp ':' hc (by decide)
    exact Text.between?_mark_append (by decide) once
  have cut : Text.pieces ';' ([';'].intercalate l.parts) = l.parts :=
    Text.pieces_intercalate (List.cons_ne_nil _ _) fun p hp hc => whole p hp ';' hc (by decide)
  have passed : ofPart (l.status ++ part l.passed "passed") = { passed := l.passed } :=
    ofPart_part fits.1 (by decide) _
  have failed : ofPart (part l.failed "failed") = { failed := l.failed } :=
    ofPart_part fits.2 (by decide) []
  simp only [ofLine, body, cut]
  rw [parts, List.foldl_cons, List.foldl_cons, passed, failed,
    foldl_remarks (ofPart_of_mem_remarks sound)]
  ext
  · simp only [passed_add, ofResult]
    omega
  · simp only [failed_add, ofResult]
    omega
  · rfl

/-- Every result line is one. -/
theorem sum_binaries (rs : List ResultLine) :
    (rs.map fun r => Figure.binaries.of (ofResult r)).sum = rs.length := by
  show (rs.map fun _ => 1).sum = rs.length
  rw [List.map_const', List.sum_replicate_nat, Nat.mul_one]

/-- What a line of the output adds. -/
theorem ofLine_text (l : Line) : ofLine l.text = (l.result?.map ofResult).getD {} := by
  cases l with
  | other _ _ unmarked => exact ofLine_of_unmarked unmarked
  | result l sound => exact ofLine_print sound

/-- No line of the output is broken. -/
theorem newline_not_mem_text (l : Line) : '\n' ∉ l.text := by
  cases l with
  | other _ unbroken _ => exact unbroken
  | result l sound =>
    have parts : '\n' ∉ [';'].intercalate l.parts := Text.not_mem_intercalate (by decide)
      fun p hp hc => whole_of_mem_parts sound p hp '\n' hc (by decide)
    have lead : '\n' ∉ mark := by decide
    rw [Line.text, print_eq]
    exact List.not_mem_append lead parts

/-- What a line of the output and the text below it add up to, however the line ends. -/
theorem Figure.of_ofText_chars (k : Figure) (l : Line) (e : LineEnd) (text : List Char) :
    k.of (ofText (l.text ++ e.chars ++ text)) =
      min (k.of (ofLine l.text) + k.of (ofText text)) k.greatest := by
  have unbroken := newline_not_mem_text l
  cases e with
  | feed =>
    rw [LineEnd.chars, List.append_assoc]
    exact k.of_ofText_line unbroken text
  | returnFeed =>
    have ended : '\n' ∉ l.text ++ ['\r'] := List.not_mem_append unbroken (by decide)
    rw [← ofLine_concat_return, ← k.of_ofText_line ended, LineEnd.chars, List.append_assoc,
      List.append_assoc]
    rfl

/-- **What the lines of a run add up to** is what its result lines say. -/
theorem Figure.of_ofText_printed (k : Figure) (ls : List (Line × LineEnd)) :
    k.of (ofText (printed ls)) =
      min ((ls.filterMap (·.1.result?)).map fun r => k.of (ofResult r)).sum k.greatest := by
  induction ls with
  | nil => exact k.of_empty.trans (Nat.zero_min _).symm
  | cons l ls ih =>
    rw [printed, List.flatMap_cons, ← printed, k.of_ofText_chars, ih, ofLine_text,
      List.filterMap_cons]
    cases l.1.result? with
    | none =>
      rw [Option.map_none, Option.getD_none, k.of_empty, Nat.zero_add, Nat.min_assoc, Nat.min_self]
    | some r =>
      rw [Option.map_some, Option.getD_some, List.map_cons, List.sum_cons]
      omega

end Totals

/-- **The summary adds up every result line and nothing else.** Two texts, one below the other, add
up to what each of them adds up to. Of the lines of a run, whatever else they say and however they
end, the summary shows what the result lines say, and that it knows nothing if there are none.
Figures stop at the greatest number that fits. -/
theorem totals_add_up :
    (∀ a b : List Char,
      let above := Totals.ofText a
      let below := Totals.ofText b
      let both := Totals.ofText (a ++ '\n' :: b)
      both.passed = min (above.passed + below.passed) 18446744073709551615 ∧
      both.failed = min (above.failed + below.failed) 18446744073709551615 ∧
      both.binaries = min (above.binaries + below.binaries) 4294967295) ∧
    ∀ ls : List (Line × LineEnd),
      let results := ls.filterMap (·.1.result?)
      let passed := min (results.map ResultLine.passed).sum 18446744073709551615
      let failed := min (results.map ResultLine.failed).sum 18446744073709551615
      let binaries := min results.length 4294967295
      testSummary (printed ls) =
        if results = [] then "(summary not available)"
        else s!"({passed} passed, {failed} failed across {binaries} binaries)" := by
  refine ⟨fun a b => ⟨Totals.Figure.passed.of_ofText_append a b,
    Totals.Figure.failed.of_ofText_append a b, Totals.Figure.binaries.of_ofText_append a b⟩, ?_⟩
  intro ls results passed failed binaries
  have hpassed : (Totals.ofText (printed ls)).passed = passed :=
    Totals.Figure.passed.of_ofText_printed ls
  have hfailed : (Totals.ofText (printed ls)).failed = failed :=
    Totals.Figure.failed.of_ofText_printed ls
  have hbinaries : (Totals.ofText (printed ls)).binaries = binaries := by
    have counted := Totals.Figure.binaries.of_ofText_printed ls
    rwa [Totals.sum_binaries] at counted
  have silent : binaries = 0 ↔ results = [] := by
    rw [← List.length_eq_zero_iff]
    show min results.length 4294967295 = 0 ↔ results.length = 0
    omega
  rw [testSummary, Totals.summary, hpassed, hfailed, hbinaries]
  by_cases none : results = []
  · rw [if_pos none, if_pos (silent.2 none)]
  · rw [if_neg none, if_neg (none ∘ silent.1)]

end Tasks

end SerialAudio
