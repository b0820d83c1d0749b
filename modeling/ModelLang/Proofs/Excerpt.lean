import Mathlib.Order.Basic
import ModelLang.Proofs.Lines
import ModelLang.Table.Row

/-!
# ModelLang.Proofs.Excerpt

Reading a part of a table. Lines that are skipped might as well not be there, but that faults go by
the lines of the whole text, and a limit cuts the rows that are read without it, at the line that it
is reached in (`Table.rows_excerpt`).
-/

namespace ModelLang

/-! ## The first lines of a text -/

namespace Text

/-- The first line with its line feed. -/
def firstLine (text : List Char) : List Char :=
  text.takeWhile (· ≠ '\n') ++ (text.dropWhile (· ≠ '\n')).take 1

/-- What follows the first line. -/
def afterLine (text : List Char) : List Char :=
  (text.dropWhile (· ≠ '\n')).drop 1

/-- The first `n` lines of a text with their line feeds. -/
def takeLines : Nat → List Char → List Char
  | 0, _ => []
  | n + 1, text => firstLine text ++ takeLines n (afterLine text)

/-- The text without its first `n` lines. -/
def dropLines : Nat → List Char → List Char
  | 0, text => text
  | n + 1, text => dropLines n (afterLine text)

/-- A text is cut in two after its first `n` lines. -/
theorem takeLines_append_dropLines (n : Nat) (text : List Char) :
    takeLines n text ++ dropLines n text = text := by
  induction n generalizing text with
  | zero => rfl
  | succ n ih =>
    rw [takeLines, dropLines, List.append_assoc, ih, firstLine, afterLine, List.append_assoc,
      List.take_append_drop, List.takeWhile_append_dropWhile]

@[simp] theorem takeLines_nil (n : Nat) : takeLines n [] = [] := by
  induction n with
  | zero => rfl
  | succ n ih => exact ih

@[simp] theorem dropLines_nil (n : Nat) : dropLines n [] = [] := by
  induction n with
  | zero => rfl
  | succ n ih => exact ih

section FirstLine

variable {line : List Char} (h : '\n' ∉ line)

include h

theorem span_append (rest : List Char) :
    (line ++ rest).takeWhile (· ≠ '\n') = line ++ rest.takeWhile (· ≠ '\n') ∧
      (line ++ rest).dropWhile (· ≠ '\n') = rest.dropWhile (· ≠ '\n') := by
  have hline : ∀ c ∈ line, decide (c ≠ '\n') = true := by
    intro c hc
    rw [decide_eq_true_iff]
    rintro rfl
    exact h hc
  exact ⟨List.takeWhile_append_of_pos hline, List.dropWhile_append_of_pos hline⟩

theorem firstLine_feed (rest : List Char) : firstLine (line ++ '\n' :: rest) = line ++ ['\n'] := by
  obtain ⟨htake, hdrop⟩ := span_append h ('\n' :: rest)
  rw [firstLine, htake, hdrop]
  simp

theorem afterLine_feed (rest : List Char) : afterLine (line ++ '\n' :: rest) = rest := by
  rw [afterLine, (span_append h _).2]
  simp

theorem firstLine_last : firstLine line = line := by
  obtain ⟨htake, hdrop⟩ := span_append h []
  rw [List.append_nil] at htake hdrop
  rw [firstLine, htake, hdrop]
  simp

theorem afterLine_last : afterLine line = [] := by
  obtain ⟨-, hdrop⟩ := span_append h []
  rw [List.append_nil] at hdrop
  rw [afterLine, hdrop]
  rfl

theorem length_lines_last : (lines line).length ≤ 1 := by
  by_cases hline : line = []
  · rw [hline]
    exact Nat.zero_le 1
  · rw [lines_of_broken (.last hline h)]
    exact Nat.le_refl 1

end FirstLine

theorem lines_dropLines (n : Nat) (text : List Char) :
    lines (dropLines n text) = (lines text).drop n := by
  induction n generalizing text with
  | zero => rfl
  | succ n ih =>
    rw [dropLines]
    by_cases h : '\n' ∈ text
    · obtain ⟨line, rest, rfl, hline⟩ := List.eq_append_cons_of_mem h
      rw [afterLine_feed hline, ih, lines_feed hline, List.drop_succ_cons]
    · have hlength := length_lines_last h
      rw [afterLine_last h, dropLines_nil, List.drop_eq_nil_of_le (by omega)]
      rfl

theorem lines_takeLines (n : Nat) (text : List Char) :
    lines (takeLines n text) = (lines text).take n := by
  induction n generalizing text with
  | zero => rfl
  | succ n ih =>
    rw [takeLines]
    by_cases h : '\n' ∈ text
    · obtain ⟨line, rest, rfl, hline⟩ := List.eq_append_cons_of_mem h
      rw [firstLine_feed hline, afterLine_feed hline, List.append_assoc, List.singleton_append,
        lines_feed hline, lines_feed hline, ih, List.take_succ_cons]
    · have hlength := length_lines_last h
      rw [firstLine_last h, afterLine_last h, takeLines_nil, List.append_nil,
        List.take_of_length_le (by omega)]

end Text

/-! ## Faults of a line -/

namespace Cause

/-- The same fault `n` lines further down. -/
def lower (n : Nat) : Cause → Cause
  | .missingField table line fields column => .missingField table (line + n) fields column
  | .notNumeral table line field => .notNumeral table (line + n) field
  | cause => cause

/-- A fault that the reading of a line may have, reported for that line. An overflow has no place. -/
def At (line : Nat) : Cause → Prop
  | .missingField _ n _ _ => n = line
  | .notNumeral _ n _ => n = line
  | .overflow => True
  | _ => False

end Cause

/-! ## Results one after the other -/

namespace Results

variable {ε α : Type}

theorem mapM_ok (as : List α) :
    (as.map Except.ok : List (Except ε α)).mapM id = .ok as := by
  induction as with
  | nil => rfl
  | cons a as ih =>
    rw [List.map_cons, List.mapM_cons, ih]
    rfl

theorem mapM_error (as : List α) (e : ε) (rest : List (Except ε α)) :
    (as.map Except.ok ++ Except.error e :: rest).mapM id = .error e := by
  induction as with
  | nil =>
    rw [List.map_nil, List.nil_append, List.mapM_cons]
    rfl
  | cons a as ih =>
    rw [List.map_cons, List.cons_append, List.mapM_cons, ih]
    rfl

/-- Results are values up to the first failure, if there is one. -/
theorem ok_or_error (xs : List (Except ε α)) :
    (∃ as : List α, xs = as.map Except.ok) ∨
      ∃ (as : List α) (e : ε) (rest : List (Except ε α)),
        xs = as.map Except.ok ++ Except.error e :: rest := by
  induction xs with
  | nil => exact .inl ⟨[], rfl⟩
  | cons x xs ih =>
    cases x with
    | error e => exact .inr ⟨[], e, xs, rfl⟩
    | ok a =>
      rcases ih with ⟨as, rfl⟩ | ⟨as, e, rest, rfl⟩
      · exact .inl ⟨a :: as, rfl⟩
      · exact .inr ⟨a :: as, e, rest, rfl⟩

theorem mapM_mapError {δ : Type} (g : ε → δ) (xs : List (Except ε α)) :
    (xs.map (Except.mapError g)).mapM id = (xs.mapM id).mapError g := by
  have hmap (as : List α) : (as.map Except.ok).map (Except.mapError g) = as.map Except.ok := by
    rw [List.map_map]
    rfl
  rcases ok_or_error xs with ⟨as, rfl⟩ | ⟨as, e, rest, rfl⟩
  · rw [hmap, mapM_ok, mapM_ok]
    rfl
  · rw [List.map_append, hmap, List.map_cons, Except.mapError, mapM_error, mapM_error]
    rfl

theorem mapM_eq_ok_iff {xs : List (Except ε α)} {as : List α} :
    xs.mapM id = .ok as ↔ xs = as.map Except.ok := by
  constructor
  · intro h
    rcases ok_or_error xs with ⟨bs, rfl⟩ | ⟨bs, e, rest, rfl⟩
    · rw [mapM_ok] at h
      cases h
      rfl
    · rw [mapM_error] at h
      cases h
  · rintro rfl
    exact mapM_ok as

/-- The first `n` of results with a failure behind the values `as`. -/
theorem mapM_take_error (as : List α) (e : ε) (rest : List (Except ε α)) (n : Nat) :
    ((as.map Except.ok ++ Except.error e :: rest).take n).mapM id =
      if n ≤ as.length then .ok (as.take n) else .error e := by
  split
  · rename_i hn
    rw [List.take_append_of_le_length (by rwa [List.length_map]), ← List.map_take, mapM_ok]
  · rename_i hn
    obtain ⟨k, rfl⟩ : ∃ k, n = as.length + 1 + k := ⟨n - (as.length + 1), by omega⟩
    have htake : (as.map Except.ok ++ Except.error e :: rest).take (as.length + 1 + k) =
        as.map Except.ok ++ Except.error e :: rest.take k := by
      rw [List.take_append, List.take_of_length_le (by simp; omega), List.length_map,
        show as.length + 1 + k - as.length = k + 1 by omega, List.take_succ_cons]
    rw [htake, mapM_error]

end Results

namespace Table

/-- What is read of a line with a given number depends on the number in its faults only. -/
structure ByLine {α : Type} (x : Nat → Except Cause α) : Prop where
  lower (line n : Nat) : x (line + n) = (x line).mapError (Cause.lower n)
  error_at {line : Nat} {cause : Cause} (h : x line = .error cause) : cause.At line

namespace ByLine

variable {α β : Type}

theorem ok (a : α) : ByLine fun _ => .ok a where
  lower _ _ := rfl
  error_at h := by cases h

theorem bind {x : Nat → Except Cause α} {f : α → Nat → Except Cause β} (hx : ByLine x)
    (hf : ∀ a, ByLine (f a)) : ByLine fun line => (x line).bind fun a => f a line where
  lower line n := by
    simp only [hx.lower line n]
    cases x line with
    | error cause => rfl
    | ok a => exact (hf a).lower line n
  error_at {line cause} h := by
    cases ha : x line with
    | error e =>
      simp only [ha] at h
      cases h
      exact hx.error_at ha
    | ok a =>
      simp only [ha] at h
      exact (hf a).error_at h

theorem map {x : Nat → Except Cause α} (hx : ByLine x) (f : α → β) :
    ByLine fun line => (x line).map f := by
  have hbind := hx.bind fun a => ok (f a)
  convert hbind using 2 with line
  cases x line <;> rfl

end ByLine

variable (table : String)

theorem byLine_convert (kind : Elem.Kind) (field : List Char) :
    ByLine fun line => convert table line kind field := by
  cases kind with
  | text => exact .ok _
  | number =>
    constructor
    · intro line n
      simp only [convert]
      split <;> rfl
    · intro line cause h
      simp only [convert] at h
      split at h <;> cases h <;> simp [Cause.At]

theorem byLine_pick (fs : List (List Char)) (c : Column) :
    ByLine fun line => pick table line fs c := by
  unfold pick
  cases fs[c.position - 1]? with
  | some field => exact byLine_convert table c.kind field
  | none =>
    constructor
    · intro line n
      rfl
    · intro line cause h
      cases h
      simp [Cause.At]

theorem byLine_pickAll (fs : List (List Char)) (cs : List Column) :
    ByLine fun line => pickAll table line fs cs := by
  induction cs with
  | nil => exact .ok []
  | cons c cs ih =>
    have hbind := (byLine_pick table fs c).bind fun e => ih.map (e :: ·)
    convert hbind using 2 with line
    rw [pickAll]
    cases pick table line fs c <;> rfl

theorem byLine_row (template : Template) (fs : List (List Char)) :
    ByLine fun line => row table template line fs := by
  have hkey := byLine_pickAll table fs template.key
  cases hvalue : template.value with
  | none =>
    have hmap := hkey.map fun key => ((key, none) : Row)
    convert hmap using 2 with line
    rw [row, hvalue]
    cases pickAll table line fs template.key <;> rfl
  | some c =>
    have hbind := hkey.bind fun key => (byLine_pick table fs c).map fun e => ((key, some e) : Row)
    convert hbind using 2 with line
    rw [row, hvalue]
    cases pickAll table line fs template.key <;> rfl

/-! ## Rows of lines -/

/-- What each line comes to for itself, if `content?` leaves something of it to read. -/
def readings (template : Template) (content? : List Char → Option (List Char)) (line : Nat) :
    List (List Char) → List (Except Cause Row)
  | [] => []
  | cs :: rest =>
    match content? cs with
    | none => readings template content? (line + 1) rest
    | some content =>
      row table template line (fields content) :: readings template content? (line + 1) rest

/-- What a limit lets through. -/
def limited {α : Type} : Option Nat → List α → List α
  | none, xs => xs
  | some n, xs => xs.take n

@[simp] theorem limited_none {α : Type} (xs : List α) : limited none xs = xs := rfl

@[simp] theorem limited_some {α : Type} (n : Nat) (xs : List α) :
    limited (some n) xs = xs.take n := rfl

@[simp] theorem limited_nil {α : Type} (limit : Option Nat) : limited limit ([] : List α) = [] := by
  cases limit with
  | none => rfl
  | some n => exact List.take_nil

theorem limited_map {α β : Type} (f : α → β) (limit : Option Nat) (xs : List α) :
    limited limit (xs.map f) = (limited limit xs).map f := by
  cases limit with
  | none => rfl
  | some n => exact List.map_take.symm

theorem limited_cons {α : Type} {limit : Option Nat} (h : limit ≠ some 0) (x : α) (xs : List α) :
    limited limit (x :: xs) = x :: limited (limit.map (· - 1)) xs := by
  rcases limit with _ | _ | n
  · rfl
  · exact absurd rfl h
  · rfl

section Readings

variable (template : Template) (content? : List Char → Option (List Char))

theorem readings_lower (line n : Nat) (lines : List (List Char)) :
    readings table template content? (line + n) lines =
      (readings table template content? line lines).map (Except.mapError (Cause.lower n)) := by
  induction lines generalizing line with
  | nil => rfl
  | cons cs rest ih =>
    rw [readings, readings, Nat.add_right_comm, ih]
    cases content? cs with
    | none => rfl
    | some content =>
      simp only [(byLine_row table template (fields content)).lower line n, List.map_cons]

variable {table template content?}

/-- Each of the readings is that of a line, and those before it are the readings of the lines before
that line. -/
theorem readings_split {line : Nat} {lines : List (List Char)} {before after : List (Except Cause Row)}
    {x : Except Cause Row} (h : readings table template content? line lines = before ++ x :: after) :
    ∃ i fs, x = row table template (line + i) fs ∧
      readings table template content? line (lines.take i) = before ∧
      readings table template content? line (lines.take (i + 1)) = before ++ [x] := by
  -- On the lines, not on `before`: a line without content has no reading, but counts for `i`.
  induction lines generalizing line before with
  | nil => simp [readings] at h
  | cons cs rest ih =>
    cases hcs : content? cs with
    | none =>
      simp only [readings, hcs] at h
      obtain ⟨i, fs, hx, hbefore, hupto⟩ := ih h
      refine ⟨i + 1, fs, ?_, ?_, ?_⟩
      · rwa [Nat.add_right_comm] at hx
      · simpa only [List.take_succ_cons, readings, hcs] using hbefore
      · simpa only [List.take_succ_cons, readings, hcs] using hupto
    | some content =>
      simp only [readings, hcs] at h
      cases before with
      | nil =>
        obtain ⟨rfl, -⟩ := List.cons.inj h
        refine ⟨0, fields content, rfl, rfl, ?_⟩
        simp only [List.take_succ_cons, List.take_zero, readings, hcs, List.nil_append]
      | cons y before =>
        obtain ⟨rfl, hrest⟩ := List.cons.inj h
        obtain ⟨i, fs, hx, hbefore, hupto⟩ := ih hrest
        refine ⟨i + 1, fs, ?_, ?_, ?_⟩
        · rwa [Nat.add_right_comm] at hx
        · simp only [List.take_succ_cons, readings, hcs, hbefore]
        · simp only [List.take_succ_cons, readings, hcs, hupto, List.cons_append]

end Readings

section Rows

variable (template : Template) (options : Options)

/-- Reading goes on from line to line up to the limit or the first fault. -/
theorem rowsFrom_eq (line : Nat) (limit : Option Nat) (lines : List (List Char)) :
    rowsFrom table template options line limit lines =
      (limited limit (readings table template options.content? line lines)).mapM id := by
  induction lines generalizing line limit with
  | nil =>
    rw [readings, limited_nil]
    rfl
  | cons cs rest ih =>
    by_cases hlimit : limit = some 0
    · rw [hlimit, rowsFrom, if_pos rfl]
      rfl
    rw [rowsFrom, if_neg hlimit, readings]
    cases options.content? cs with
    | none => exact ih (line + 1) limit
    | some content =>
      simp only [limited_cons hlimit, List.mapM_cons, ← ih, id]
      cases row table template line (fields content) with
      | error cause => rfl
      | ok r =>
        cases rowsFrom table template options (line + 1) (limit.map (· - 1)) rest <;> rfl

theorem rows_eq (text : List Char) :
    rows table template options text =
      (limited options.limit (readings table template options.content? (options.skip + 1)
        ((Text.lines text).drop options.skip))).mapM id :=
  rowsFrom_eq table template options (options.skip + 1) options.limit _

/-- Parts of a table. Skipping `s` lines is reading the text without them, but for the numbers of the
lines in faults. A limit of `n` keeps the first `n` rows of what is read without it; if that reading
fails at line `i + 1`, with the rows `rs` before, it fails under the limit as well unless `rs` has as
many rows as the limit. -/
theorem rows_excerpt (text : List Char) (s n : Nat) :
    rows table template { options with skip := s } text =
      (rows table template { options with skip := 0 } (Text.dropLines s text)).mapError
        (Cause.lower s) ∧
    (∀ rs, rows table template { options with limit := none } text = .ok rs →
      rows table template { options with limit := some n } text = .ok (rs.take n)) ∧
    ∀ cause, rows table template { options with limit := none } text = .error cause →
      ∃ i rs, cause.At (i + 1) ∧
        rows table template { options with limit := none } (Text.takeLines i text) = .ok rs ∧
        rows table template { options with limit := none } (Text.takeLines (i + 1) text) =
          .error cause ∧
        rows table template { options with limit := some n } text =
          if n ≤ rs.length then .ok (rs.take n) else .error cause := by
  have hskip (k : Nat) : ({ options with skip := k } : Options).content? = options.content? := rfl
  have hlimit (l : Option Nat) : ({ options with limit := l } : Options).content? =
      options.content? := rfl
  simp only [rows_eq, hskip, hlimit, limited_none, limited_some]
  refine ⟨?_, fun rs h => ?_, fun cause h => ?_⟩
  · rw [Text.lines_dropLines, List.drop_zero, Nat.add_comm s 1, Nat.zero_add, readings_lower,
      limited_map, Results.mapM_mapError]
  · rw [Results.mapM_eq_ok_iff.1 h, ← List.map_take, Results.mapM_ok]
  · rcases Results.ok_or_error (readings table template options.content? (options.skip + 1)
      ((Text.lines text).drop options.skip)) with ⟨rs, hrs⟩ | ⟨rs, e, rest, hrs⟩
    · rw [hrs, Results.mapM_ok] at h
      cases h
    · rw [hrs, Results.mapM_error] at h
      cases h
      obtain ⟨i, fs, hrow, hbefore, hupto⟩ := readings_split hrs
      -- `i` counts from the first line that is not skipped.
      have hdrop (k : Nat) : ((Text.lines text).take (options.skip + k)).drop options.skip =
          ((Text.lines text).drop options.skip).take k := by
        rw [List.drop_take, Nat.add_sub_cancel_left]
      refine ⟨options.skip + i, rs, ?_, ?_, ?_, ?_⟩
      · rw [Nat.add_right_comm]
        exact (byLine_row table template fs).error_at hrow.symm
      · rw [Text.lines_takeLines, hdrop, hbefore, Results.mapM_ok]
      · rw [Text.lines_takeLines, Nat.add_assoc, hdrop, hupto, Results.mapM_error]
      · rw [hrs, Results.mapM_take_error]

/-- The third line is no number, and the second is blank. -/
theorem rows_excerpt_numbers :
    let template : Template := ⟨[⟨1, .number⟩], none⟩
    let options : Options := .default
    let cause : Cause := .notNumeral "t" 3 "x"
    (rows "t" template { options with limit := none } "1\n\n".toList = .ok [([.number 1], none)] ∧
      rows "t" template { options with limit := some 0 } "1\n\n".toList = .ok []) ∧
    rows "t" template { options with limit := none } "1\n\nx\n2".toList = .error cause ∧
      ∃ i rs, cause.At (i + 1) ∧
        rows "t" template { options with limit := none } (Text.takeLines i "1\n\nx\n2".toList) =
          .ok rs ∧
        rows "t" template { options with limit := none }
          (Text.takeLines (i + 1) "1\n\nx\n2".toList) = .error cause ∧
        rows "t" template { options with limit := some 1 } "1\n\nx\n2".toList =
          if 1 ≤ rs.length then .ok (rs.take 1) else .error cause := by
  intro template options cause
  have hok : rows "t" template { options with limit := none } "1\n\n".toList =
      .ok [([.number 1], none)] := by
    decide +kernel
  have herror : rows "t" template { options with limit := none } "1\n\nx\n2".toList =
      .error cause := by
    decide +kernel
  obtain ⟨-, htake, -⟩ := rows_excerpt "t" template options "1\n\n".toList 0 0
  obtain ⟨-, -, hfault⟩ := rows_excerpt "t" template options "1\n\nx\n2".toList 0 1
  exact ⟨⟨hok, htake _ hok⟩, herror, hfault cause herror⟩

end Rows

end Table

end ModelLang
