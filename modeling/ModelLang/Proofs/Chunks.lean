import Mathlib.Data.List.SplitBy
import ModelLang.Proofs.Parallel
import ModelLang.Proofs.Turns

/-!
# ModelLang.Proofs.Chunks

A program is read chunk by chunk, where a chunk ends with a semicolon. The turn of a chunk gives the
same wherever it stands and whatever follows (`Grammar.turnAt_result`), so that a program has the
statements and the errors of its chunks, each read on its own (`Program.ofTokens_factors`). It is
not read at all if the arithmetic on one of its numerals overflows, and this too is up to each chunk
(`Program.overflows_iff_chunk`).
-/

namespace ModelLang

/-- The token is a numeral on which the arithmetic overflows. -/
def Token.Overflows (t : Token) : Prop :=
  ∃ s, t.lexeme = .numeral s ∧ Numeral.unsigned s.toList = .overflow

namespace Grammar

/-! ## Chunks -/

/-- Tokens cut after each semicolon. -/
def chunks (tokens : List Token) : List (List Token) :=
  tokens.splitBy fun t _ => t.lexeme ≠ .mark ";"

theorem chunks_flatten (tokens : List Token) : (chunks tokens).flatten = tokens :=
  List.flatten_splitBy _ tokens

/-- No semicolon stands among the tokens. -/
def Open (tokens : List Token) : Prop :=
  ∀ t ∈ tokens, t.lexeme ≠ .mark ";"

theorem isChain_of_open {ts : List Token} (h : Open ts) (last : List Token)
    (hlast : last.length ≤ 1) :
    (ts ++ last).IsChain fun t _ => decide (t.lexeme ≠ .mark ";") = true := by
  induction ts with
  | nil =>
    match last, hlast with
    | [], _ => exact .nil
    | [t], _ => exact .singleton t
  | cons t ts ih =>
    obtain ⟨ht, hts⟩ := List.forall_mem_cons.1 h
    exact List.isChain_cons.2 ⟨fun _ _ => decide_eq_true ht, ih hts⟩

theorem chunks_of_open {ts : List Token} (hne : ts ≠ []) (h : Open ts) : chunks ts = [ts] :=
  List.splitBy_of_isChain hne (List.append_nil ts ▸ isChain_of_open h [] (Nat.zero_le _))

theorem chunks_append {ts : List Token} {t : Token} (h : Open ts) (ht : t.lexeme = .mark ";")
    (rest : List Token) : chunks (ts ++ [t] ++ rest) = (ts ++ [t]) :: chunks rest := by
  have hone : chunks (ts ++ [t]) = [ts ++ [t]] :=
    List.splitBy_of_isChain (by simp) (isChain_of_open h [t] (Nat.le_refl _))
  have hcut : ∀ x ∈ (ts ++ [t]).getLast?, ∀ y ∈ rest.head?,
      decide (x.lexeme ≠ .mark ";") = false := by
    rw [List.getLast?_concat]
    rintro _ ⟨⟩ _ _
    simp [ht]
  rw [chunks, List.splitBy_append hcut]
  exact congrArg (· ++ chunks rest) hone

theorem open_or_append (tokens : List Token) :
    Open tokens ∨ ∃ ts t rest, tokens = ts ++ [t] ++ rest ∧ Open ts ∧ t.lexeme = .mark ";" := by
  induction tokens with
  | nil => exact .inl (List.forall_mem_nil _)
  | cons u tokens ih =>
    by_cases hu : u.lexeme = .mark ";"
    · exact .inr ⟨[], u, tokens, rfl, List.forall_mem_nil _, hu⟩
    · rcases ih with h | ⟨ts, t, rest, rfl, h, ht⟩
      · exact .inl (List.forall_mem_cons.2 ⟨hu, h⟩)
      · exact .inr ⟨u :: ts, t, rest, rfl, List.forall_mem_cons.2 ⟨hu, h⟩, ht⟩

/-- A chunk is a chunk of its own. -/
theorem chunks_of_mem {tokens chunk : List Token} (h : chunk ∈ chunks tokens) :
    chunks chunk = [chunk] :=
  List.splitBy_of_isChain (List.ne_nil_of_mem_splitBy h) (List.isChain_of_mem_splitBy h)

theorem mem_of_mem_chunk {tokens chunk : List Token} (h : chunk ∈ chunks tokens) {t : Token}
    (ht : t ∈ chunk) : t ∈ tokens := by
  rw [← chunks_flatten tokens]
  exact List.mem_flatten.2 ⟨chunk, h, ht⟩

theorem open_or_closed {tokens chunk : List Token} (h : chunk ∈ chunks tokens) :
    Open chunk ∨ ∃ ts t, chunk = ts ++ [t] ∧ Open ts ∧ t.lexeme = .mark ";" := by
  rcases open_or_append chunk with hopen | ⟨ts, t, rest, heq, hts, ht⟩
  · exact .inl hopen
  · have hone := chunks_of_mem h
    rw [heq, chunks_append hts ht, ← heq] at hone
    exact .inr ⟨ts, t, (List.cons.inj hone).1.symm, hts, ht⟩

/-! ## Turns side by side -/

theorem reach_of_agrees {d k : Nat} {v v' : List Token} {c c' : Cursor}
    (h : Reading.Agrees d k v v' (layers.reading statement c) (layers.reading statement c'))
    (hd : c'.position = c.position + d) :
    (turnAt c').reach = ⟨(turnAt c).reach.position + d, (turnAt c).reach.expected⟩ := by
  refine Eq.trans ?_ (Reach.noteEach_shift (.start c.position) (layers.reading statement c).asked)
  rw [← h.asked]
  show (Reach.start c'.position).noteEach _ = _
  rw [hd]
  rfl

section Turn

variable {ts : List Token} {t : Token} (ht : IsStop t)

variable (ts) in
include ht in
/-- A turn reaches one of the tokens up to the first that fits no rule. -/
theorem exists_reached (i : Nat) (v : List Token) :
    ∃ u ∈ ts ++ [t], ∀ w,
      (ts ++ t :: w)[(turnAt (.ofTokens i (ts ++ t :: v))).reach.position - i]? = some u := by
  have hle := (turnAt_reach (stopsAt_append i ts ht v)).2
  have hlt : (turnAt (.ofTokens i (ts ++ t :: v))).reach.position - i < (ts ++ [t]).length := by
    rw [List.length_append, List.length_singleton]
    exact Nat.lt_succ_of_le (Nat.sub_le_iff_le_add'.2 hle)
  refine ⟨_, List.getElem_mem hlt, fun w => ?_⟩
  rw [List.append_cons, List.getElem?_append_left hlt, List.getElem?_eq_getElem hlt]

include ht in
/-- The turn of a chunk gives the same at every position, whatever stands after its last token. -/
theorem turnAt_result (i : Nat) (v v' : List Token) :
    (turnAt (.ofTokens i (ts ++ t :: v))).result =
      (turnAt (.ofTokens 0 (ts ++ t :: v'))).result := by
  let c := Cursor.ofTokens 0 (ts ++ t :: v')
  let c' := Cursor.ofTokens i (ts ++ t :: v)
  have hc : c.StopsAt (Token.Fits Inner) ts.length :=
    Nat.zero_add ts.length ▸ stopsAt_append 0 ts ht v'
  have hc' : c'.StopsAt (Token.Fits Inner) (i + ts.length) := stopsAt_append i ts ht v
  have hbeside : c.Beside i (ts.length + 1) v' v c' :=
    ⟨ts ++ [t], by simp [c, Cursor.ofTokens], by simp [c', Cursor.ofTokens],
      by simp [c, Cursor.ofTokens], by simp [c, c', Cursor.ofTokens], rfl⟩
  have hagrees : Reading.Agrees i (ts.length + 1) v' v (layers.reading statement c)
      (layers.reading statement c') := by
    rcases layers.reading_keeps rfl hbeside (statement_within hc).1 with h | ⟨hlt, _⟩
    · exact h
    · -- the other turn would have to read past `t`, too
      have := (statement_within hc').1
      omega
  have hreach := reach_of_agrees hagrees hbeside.position
  obtain ⟨u, _, hat⟩ := exists_reached ts ht 0 v'
  have hanswer : Answer.Beside i (ts.length + 1) v' v (turnAt c).answer (turnAt c').answer :=
    hagrees.answer
  show (turnAt c').result = (turnAt c).result
  rcases ha : (turnAt c).answer with _ | ⟨s, r⟩ <;>
    rcases ha' : (turnAt c').answer with _ | ⟨s', r'⟩ <;> rw [ha, ha'] at hanswer
  · rw [turnAt_result_of_none ha (hat v'), turnAt_result_of_none ha', hreach]
    rw [hreach]
    exact (Nat.add_sub_cancel _ i).symm ▸ hat v
  · cases hanswer
  · cases hanswer
  · obtain ⟨⟨⟩, _⟩ := hanswer
    rw [turnAt_result_of_some ha, turnAt_result_of_some ha']

end Turn

/-! ## Turns of chunks -/

section Chunks

variable {e : Token} (he : e.isEnd = true)

theorem not_isStop_of_open {ts : List Token} (h : Open ts) (hend : ∀ t ∈ ts, t.isEnd = false) :
    ∀ t ∈ ts, ¬ IsStop t := by
  rintro t ht (h' | h')
  · rw [hend t ht] at h'
    cases h'
  · exact h t ht h'

theorem atEnd_append {ts : List Token} (hne : ts ≠ []) (hend : ∀ t ∈ ts, t.isEnd = false)
    (rest : List Token) : atEnd (ts ++ rest) = false := by
  cases ts with
  | nil => exact absurd rfl hne
  | cons t ts => exact hend t List.mem_cons_self

include he in
theorem turnsFrom_end (bound : List Token) (i : Nat) : turnsFrom bound (.ofTokens i [e]) = [] :=
  turnsFrom_of_atEnd bound he

include he in
theorem turnsFrom_results {body : List Token} (hend : ∀ t ∈ body, t.isEnd = false)
    (bound : List Token) (hb : body.length ≤ bound.length) (i : Nat) :
    (turnsFrom bound (.ofTokens i (body ++ [e]))).map Turn.result =
      (chunks body).map fun chunk => (turnAt (.ofTokens 0 (chunk ++ [e]))).result := by
  -- Every turn takes a chunk: `bound` falls by one, and `body` by the tokens of that chunk.
  induction bound generalizing body i with
  | nil =>
    rw [List.length_eq_zero_iff.1 (Nat.le_zero.1 hb)]
    rfl
  | cons b bound ih =>
    rcases eq_or_ne body [] with rfl | hne
    · rw [List.nil_append, turnsFrom_end he]
      rfl
    rcases open_or_append body with hopen | ⟨ts, t, rest, rfl, hts, ht⟩
    · rw [turnsFrom_cons b bound i (atEnd_append hne hend [e]), List.map_cons,
        recover_append i _ (not_isStop_of_open hopen hend), recover_end _ _ he,
        turnsFrom_end he, chunks_of_open hne hopen, turnAt_result (.inl he) i [] []]
      rfl
    · obtain ⟨hfirst, hrest⟩ := List.forall_mem_append.1 hend
      have hstop := not_isStop_of_open hts (List.forall_mem_append.1 hfirst).1
      have hlen : rest.length ≤ bound.length := by
        simp only [List.length_append, List.length_cons] at hb
        omega
      rw [chunks_append hts ht, List.map_cons, ← ih hrest hlen (i + ts.length + 1)]
      simp only [List.append_assoc, List.cons_append, List.nil_append]
      rw [turnsFrom_append_mark b bound i hstop ht, List.map_cons, turnAt_result (.inr ht) i _ [e]]

include he in
theorem turns_results {body : List Token} (hend : ∀ t ∈ body, t.isEnd = false) :
    (turns (body ++ [e])).map Turn.result =
      (chunks body).map fun chunk => (turnAt (.ofTokens 0 (chunk ++ [e]))).result := by
  rw [turns_eq]
  exact turnsFrom_results he hend _ (by rw [List.length_append]; exact Nat.le_add_right _ _) 0

end Chunks

/-! ## Overflows -/

theorem isOverflow_iff {e : SyntaxError} : e.isOverflow = true ↔
    .string ∈ e.expected ∧ ∃ s, e.found = .numeral s ∧ Numeral.unsigned s.toList = .overflow := by
  unfold SyntaxError.isOverflow
  split
  · rename_i s hs
    rw [Bool.and_eq_true, List.contains_iff_mem, beq_iff_eq, hs]
    simp
  · rename_i hfound
    constructor
    · intro h
      cases h
    · rintro ⟨_, s, hs, _⟩
      exact (hfound s hs).elim

end Grammar

namespace Program

open Grammar

/-! ## Programs -/

def ofResults (results : List (Except SyntaxError Statement)) : Program where
  statements := results.filterMap fun
    | .ok s => some s
    | .error _ => none
  errors := results.filterMap fun
    | .ok _ => none
    | .error e => some e

theorem ofTurns_eq_ofResults (turns : List Turn) :
    ofTurns turns = ofResults (turns.map Turn.result) := by
  rw [ofResults, List.filterMap_map, List.filterMap_map]
  rfl

theorem ofResults_count (results : List (Except SyntaxError Statement)) :
    (ofResults results).statements.length + (ofResults results).errors.length =
      results.length := by
  induction results with
  | nil => rfl
  | cons r results ih =>
    simp only [ofResults] at ih ⊢
    cases r with
    | ok s =>
      simp only [List.filterMap_cons, List.length_cons]
      omega
    | error e =>
      simp only [List.filterMap_cons, List.length_cons]
      omega

/-- What one chunk gives: a statement, or an error at one of its tokens. A chunk that no semicolon
ends may fail at the end mark `e`, too. -/
inductive Single (chunk : List Token) (e : Token) : Program → Prop where
  | statement (s : Statement) : Single chunk e ⟨[s], []⟩
  | error (t : Token) (expected : List Terminal) (ht : t ∈ chunk ∨ t = e ∧ Open chunk) :
    Single chunk e ⟨[], [⟨t.span, t.lexeme, expected⟩]⟩

theorem Single.exists_overflows {chunk : List Token} {e : Token} {p : Program}
    (h : Single chunk e p) (he : e.isEnd = true) (hover : p.overflows = true) :
    ∃ t ∈ chunk, t.Overflows := by
  cases h with
  | statement s => cases hover
  | error t expected ht =>
    rw [overflows, List.any_cons, List.any_nil, Bool.or_false] at hover
    obtain ⟨_, s, hs, hover⟩ := isOverflow_iff.1 hover
    rcases ht with ht | ⟨rfl, _⟩
    · exact ⟨t, ht, s, hs, hover⟩
    · rw [Token.isEnd, show t.lexeme = .numeral s from hs] at he
      cases he

/-- The program of a body before an end mark is that of its chunks, each read on its own before the
end mark. -/
structure Factors (body : List Token) (e : Token) : Prop where
  /-- The program is read, and so is every chunk on its own. -/
  reads : (ofTokens (body ++ [e])).overflows = false ∧
    ∀ chunk ∈ chunks body, (ofTokens (chunk ++ [e])).overflows = false
  /-- Turn by turn, a statement or an error. -/
  results : (turns (body ++ [e])).map Turn.result =
    (chunks body).flatMap fun chunk => (turns (chunk ++ [e])).map Turn.result
  statements : (ofTokens (body ++ [e])).statements =
    (chunks body).flatMap fun chunk => (ofTokens (chunk ++ [e])).statements
  errors : (ofTokens (body ++ [e])).errors =
    (chunks body).flatMap fun chunk => (ofTokens (chunk ++ [e])).errors
  single : ∀ chunk ∈ chunks body, Single chunk e (ofTokens (chunk ++ [e]))
  /-- To a chunk that ends with a semicolon it does not matter which end mark follows. -/
  anyEnd : ∀ chunk ∈ chunks body, ¬ Open chunk → ∀ e' : Token, e'.isEnd = true →
    ofTokens (chunk ++ [e']) = ofTokens (chunk ++ [e])
  count : (ofTokens (body ++ [e])).statements.length + (ofTokens (body ++ [e])).errors.length =
    (chunks body).length

section Chunks

variable {body : List Token} {e : Token} (he : e.isEnd = true)
  (hend : ∀ t ∈ body, t.isEnd = false)

include he hend

theorem turns_chunk {chunk : List Token} (h : chunk ∈ chunks body) :
    (turns (chunk ++ [e])).map Turn.result = [(turnAt (.ofTokens 0 (chunk ++ [e]))).result] := by
  have hchunk (t : Token) (ht : t ∈ chunk) : t.isEnd = false := hend t (mem_of_mem_chunk h ht)
  rw [turns_results he hchunk, chunks_of_mem h]
  rfl

theorem turns_chunks : (turns (body ++ [e])).map Turn.result =
    (chunks body).flatMap fun chunk => (turns (chunk ++ [e])).map Turn.result := by
  rw [turns_results he hend, List.map_eq_flatMap]
  exact List.flatMap_congr fun chunk h => (turns_chunk he hend h).symm

theorem statements_chunks : (ofTokens (body ++ [e])).statements =
    (chunks body).flatMap fun chunk => (ofTokens (chunk ++ [e])).statements := by
  simp only [ofTokens, ofTurns_eq_ofResults, turns_chunks he hend, ofResults,
    List.filterMap_flatMap]

theorem errors_chunks : (ofTokens (body ++ [e])).errors =
    (chunks body).flatMap fun chunk => (ofTokens (chunk ++ [e])).errors := by
  simp only [ofTokens, ofTurns_eq_ofResults, turns_chunks he hend, ofResults,
    List.filterMap_flatMap]

theorem single_of_mem {chunk : List Token} (h : chunk ∈ chunks body) :
    Single chunk e (ofTokens (chunk ++ [e])) := by
  rw [ofTokens, ofTurns_eq_ofResults, turns_chunk he hend h]
  rcases ha : (turnAt (.ofTokens 0 (chunk ++ [e]))).answer with _ | ⟨s, r⟩
  · rcases open_or_closed h with hopen | ⟨ts, t, rfl, _, ht⟩
    · obtain ⟨u, hu, hat⟩ := exists_reached chunk (.inl he) 0 []
      rw [turnAt_result_of_none ha (hat [])]
      refine .error u _ ?_
      rw [List.mem_append, List.mem_singleton] at hu
      exact hu.imp_right fun h => ⟨h, hopen⟩
    · simp only [List.append_assoc, List.singleton_append] at ha ⊢
      obtain ⟨u, hu, hat⟩ := exists_reached ts (.inr ht) 0 [e]
      rw [turnAt_result_of_none ha (hat [e])]
      exact .error u _ (.inl hu)
  · rw [turnAt_result_of_some ha]
    exact .statement s

theorem ofTokens_anyEnd {chunk : List Token} (h : chunk ∈ chunks body) (hclosed : ¬ Open chunk)
    {e' : Token} (he' : e'.isEnd = true) : ofTokens (chunk ++ [e']) = ofTokens (chunk ++ [e]) := by
  rw [ofTokens, ofTurns_eq_ofResults, turns_chunk he' hend h, ofTokens, ofTurns_eq_ofResults,
    turns_chunk he hend h]
  rcases open_or_closed h with hopen | ⟨ts, t, rfl, _, ht⟩
  · exact absurd hopen hclosed
  · simp only [List.append_assoc, List.singleton_append]
    rw [turnAt_result (.inr ht) 0 [e'] [e]]

/-- A program overflows exactly if one of its chunks does. -/
theorem overflows_iff_chunk : (ofTokens (body ++ [e])).overflows = true ↔
    ∃ chunk ∈ chunks body, (ofTokens (chunk ++ [e])).overflows = true := by
  simp only [overflows, errors_chunks he hend, List.any_flatMap, List.any_eq_true]

theorem overflows_eq_false (hbody : ∀ t ∈ body, ¬ t.Overflows) :
    (ofTokens (body ++ [e])).overflows = false := by
  rw [Bool.eq_false_iff, Ne, overflows_iff_chunk he hend]
  rintro ⟨chunk, hchunk, hover⟩
  obtain ⟨t, ht, hover⟩ := (single_of_mem he hend hchunk).exists_overflows he hover
  exact hbody t (mem_of_mem_chunk hchunk ht) hover

end Chunks

/-- A program that is read factors, and it is read if none of its numerals overflows. -/
theorem ofTokens_factors {body : List Token} {e : Token} (he : e.isEnd = true)
    (hend : ∀ t ∈ body, t.isEnd = false) :
    ((∀ t ∈ body, ¬ t.Overflows) → (ofTokens (body ++ [e])).overflows = false) ∧
      ((ofTokens (body ++ [e])).overflows = false → Factors body e) := by
  refine ⟨overflows_eq_false he hend, fun hread => ?_⟩
  refine ⟨⟨hread, fun chunk h => ?_⟩, turns_chunks he hend, statements_chunks he hend,
    errors_chunks he hend, fun chunk h => single_of_mem he hend h,
    fun chunk h hclosed e' he' => ofTokens_anyEnd he hend h hclosed he', ?_⟩
  · rw [Bool.eq_false_iff] at hread ⊢
    exact fun hover => hread ((overflows_iff_chunk he hend).2 ⟨chunk, h, hover⟩)
  · rw [ofTokens, ofTurns_eq_ofResults, ofResults_count, turns_results he hend, List.length_map]

/-- A statement that breaks off, and one after it that can be read. -/
def brokenFirst : List Token :=
  [⟨.word "do", default⟩, ⟨.mark ";", default⟩, ⟨.word "print", default⟩, ⟨.numeral "1", default⟩,
    ⟨.mark ";", default⟩]

theorem ofTokens_factors_brokenFirst :
    let e : Token := ⟨.endOfInput, default⟩
    e.isEnd = true ∧ (∀ t ∈ brokenFirst, t.isEnd = false) ∧
      (∀ t ∈ brokenFirst, ¬ t.Overflows) ∧ (ofTokens (brokenFirst ++ [e])).overflows = false ∧
      Factors brokenFirst e ∧ (ofTokens (brokenFirst ++ [e])).errors.length = 1 ∧
      (ofTokens (brokenFirst ++ [e])).statements.length = 1 := by
  intro e
  have hend : ∀ t ∈ brokenFirst, t.isEnd = false := by decide
  have hbody : ∀ t ∈ brokenFirst, ¬ t.Overflows := by
    have hone : Numeral.unsigned "1".toList ≠ .overflow := by decide
    simpa [brokenFirst, Token.Overflows] using hone
  have hparts :
      let p := ofTurns (turnsFrom (brokenFirst ++ [e]) (.ofTokens 0 (brokenFirst ++ [e])))
      p.errors.length = 1 ∧ p.statements.length = 1 := by
    decide +kernel
  rw [← turns_eq, ← ofTokens] at hparts
  obtain ⟨hreads, hfactors⟩ := ofTokens_factors (e := e) rfl hend
  exact ⟨rfl, hend, hbody, hreads hbody, hfactors (hreads hbody), hparts⟩

end Program

end ModelLang
