import ModelLang.Text.Lines

/-!
# ModelLang.Proofs.Lines

How a text is made up of its lines. `Text.Broken` says it from the lines' side, and the lines of a
text are the only ones that it is made up of (`Text.broken_iff`). The lines of lines that are joined
are these lines, without a carriage return at their end (`Text.lines_join`).
-/

namespace ModelLang.Text

/-- A text that consists of lines and line breaks, of which the last line may lack its own. -/
inductive Broken : List Char → List (List Char) → Prop where
  | nil : Broken [] []
  | last {line : List Char} (hne : line ≠ []) (h : '\n' ∉ line) : Broken line [line]
  | feed {line rest : List Char} {lines : List (List Char)} (h : '\n' ∉ line)
      (hreturn : line.getLast? ≠ some '\r') (hrest : Broken rest lines) :
      Broken (line ++ '\n' :: rest) (line :: lines)
  | returnFeed {line rest : List Char} {lines : List (List Char)} (h : '\n' ∉ line)
      (hrest : Broken rest lines) : Broken (line ++ '\r' :: '\n' :: rest) (line :: lines)

theorem linesFrom_append {cs : List Char} (h : '\n' ∉ cs) (line rest : List Char) :
    linesFrom line (cs ++ rest) = linesFrom (cs.reverse ++ line) rest := by
  induction cs generalizing line with
  | nil => rfl
  | cons c cs ih =>
    obtain ⟨hc, hcs⟩ := List.ne_and_not_mem_of_not_mem_cons h
    rw [List.cons_append, linesFrom.eq_3 line c _ (Ne.symm hc), ih hcs]
    simp

theorem linesFrom_broken (line cs : List Char) (h : '\n' ∉ line) :
    Broken (line.reverse ++ cs) (linesFrom line cs) := by
  induction cs generalizing line with
  | nil =>
    rw [linesFrom, List.append_nil]
    split
    · rename_i hempty
      rw [List.isEmpty_iff.1 hempty]
      exact .nil
    · rename_i hne
      exact .last (by simpa using hne) (by simpa using h)
  | cons c cs ih =>
    by_cases hc : c = '\n'
    · subst hc
      have hrest : Broken cs (linesFrom [] cs) := ih [] List.not_mem_nil
      rw [linesFrom]
      unfold dropReturn
      split
      · simp only [List.reverse_cons, List.append_assoc, List.singleton_append]
        exact .returnFeed (by simpa using h) hrest
      · rename_i hreturn
        refine .feed (by simpa using h) ?_ hrest
        rw [List.getLast?_reverse]
        intro hhead
        obtain ⟨tail, rfl⟩ := List.head?_eq_some_iff.1 hhead
        exact hreturn tail rfl
    · rw [linesFrom.eq_3 line c cs hc]
      have h' := ih (c :: line) (List.not_mem_cons_of_ne_of_not_mem (Ne.symm hc) h)
      simpa using h'

theorem lines_of_broken {text : List Char} {ls : List (List Char)} (h : Broken text ls) :
    lines text = ls := by
  induction h with
  | nil => rfl
  | last hne h =>
    rename_i line
    have hlines := linesFrom_append h [] []
    rw [List.append_nil, List.append_nil, linesFrom, if_neg (by simpa using hne),
      List.reverse_reverse] at hlines
    exact hlines
  | feed h hreturn _ ih =>
    rename_i line rest _ _
    rw [lines, linesFrom_append h, List.append_nil, linesFrom, show linesFrom [] rest = _ from ih]
    unfold dropReturn
    split
    · rename_i heq
      refine absurd ?_ hreturn
      rw [List.getLast?_eq_head?_reverse, heq]
      rfl
    · rw [List.reverse_reverse]
  | returnFeed h _ ih =>
    rename_i line rest _ _
    rw [lines, linesFrom_append h, List.append_nil, linesFrom.eq_3 _ _ _ (by decide), linesFrom,
      show linesFrom [] rest = _ from ih, dropReturn, List.reverse_reverse]

theorem broken_iff {text : List Char} {ls : List (List Char)} :
    Broken text ls ↔ lines text = ls := by
  constructor
  · exact lines_of_broken
  · rintro rfl
    exact linesFrom_broken [] _ List.not_mem_nil

/-! ## Lines joined again -/

/-- Lines as one text, each with a line feed. -/
def join (lines : List (List Char)) : List Char :=
  (lines.map (· ++ ['\n'])).flatten

/-- The line without a carriage return at its end. -/
def unreturned (line : List Char) : List Char :=
  (dropReturn line.reverse).reverse

theorem unreturned_eq_or (line : List Char) :
    unreturned line = line ∨ line = unreturned line ++ ['\r'] := by
  unfold unreturned dropReturn
  split
  · rename_i rest h
    rw [← List.reverse_reverse line, h]
    exact .inr (List.reverse_cons ..)
  · exact .inl (List.reverse_reverse line)

theorem lines_feed {line : List Char} (h : '\n' ∉ line) (rest : List Char) :
    lines (line ++ '\n' :: rest) = unreturned line :: lines rest := by
  rw [lines, linesFrom_append h, List.append_nil, linesFrom]
  rfl

theorem lines_join {ls : List (List Char)} (h : ∀ cs ∈ ls, '\n' ∉ cs) :
    lines (join ls) = ls.map unreturned := by
  induction ls with
  | nil => rfl
  | cons cs ls ih =>
    obtain ⟨hcs, hls⟩ := List.forall_mem_cons.1 h
    have htext : join (cs :: ls) = cs ++ '\n' :: join ls := by simp [join]
    rw [htext, lines_feed hcs, ih hls, List.map_cons]

theorem newline_notMem_lines (text : List Char) : ∀ cs ∈ lines text, '\n' ∉ cs := by
  generalize hlines : lines text = ls
  have h : Broken text ls := broken_iff.2 hlines
  clear hlines
  induction h with
  | nil => exact List.forall_mem_nil _
  | last _ h => exact List.forall_mem_singleton.2 h
  | feed h _ _ ih | returnFeed h _ ih => exact List.forall_mem_cons.2 ⟨h, ih⟩

end ModelLang.Text
