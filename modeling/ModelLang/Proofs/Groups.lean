import ModelLang.Console
import ModelLang.Proofs.Alike
import ModelLang.Proofs.Lexemes

/-!
# ModelLang.Proofs.Groups

A source cut into groups of lines, as the interactive mode cuts what is typed (`Console.cut`). If
the last token of each group is a semicolon, a source without errors has groups without errors, and
the statements of the groups are those of the source, spans aside (`Program.check_groups`).
-/

namespace ModelLang

/-! ## Cutting -/

namespace Console

/-- Lines cut as they are typed: the texts that are complete, and what has collected after them.
`pending` has collected before. -/
def cut (pending : List Char) : List (List Char) → List (List Char) × List Char
  | [] => ([], pending)
  | line :: lines =>
    let text := pending ++ line ++ ['\n']
    if isComplete text then
      let (texts, rest) := cut [] lines
      (text :: texts, rest)
    else cut text lines

/-- If nothing is left, the texts are groups of the lines, joined. -/
theorem cut_groups {pending lines : List (List Char)} {texts : List (List Char)}
    (h : cut (Text.join pending) lines = (texts, [])) :
    ∃ groups : List (List (List Char)),
      texts = groups.map Text.join ∧ groups.flatten = pending ++ lines := by
  induction lines generalizing pending texts with
  | nil =>
    obtain ⟨rfl, hpending⟩ := Prod.mk.inj h
    cases pending with
    | nil => exact ⟨[], rfl, rfl⟩
    | cons cs pending => simp [Text.join] at hpending
  | cons line lines ih =>
    have htext : Text.join pending ++ line ++ ['\n'] = Text.join (pending ++ [line]) := by
      simp [Text.join]
    rw [cut, htext] at h
    split at h
    · rcases hrest : cut [] lines with ⟨more, rest⟩
      rw [hrest] at h
      obtain ⟨rfl, rfl⟩ := Prod.mk.inj h
      obtain ⟨groups, rfl, hflatten⟩ := @ih [] more hrest
      refine ⟨(pending ++ [line]) :: groups, rfl, ?_⟩
      rw [List.flatten_cons, hflatten]
      simp
    · obtain ⟨groups, hgroups, hflatten⟩ := ih h
      exact ⟨groups, hgroups, by rw [hflatten]; simp⟩

end Console

/-! ## Tokens and statements of the groups -/

namespace Token

/-- What the lexemes say about the scan of joined lines. -/
theorem scan_join_eq_ok {lines : List (List Char)} (hlines : ∀ cs ∈ lines, '\n' ∉ cs)
    {ls : List Lexeme} (h : lexemesOf lines = some ls) :
    ∃ body e, scan (Text.join lines) = .ok (body ++ [e]) ∧ e.lexeme = .endOfInput ∧
      body.map lexeme = ls := by
  have hscan := scan_join hlines
  rw [h] at hscan
  rcases htokens : scan (Text.join lines) with _ | tokens
  · rw [htokens] at hscan
    cases hscan
  · rw [htokens] at hscan
    obtain ⟨body, last, rfl, hbody, hlast⟩ := List.map_eq_append_iff.1 (Option.some.inj hscan)
    obtain ⟨e, _, rfl, he, hnil⟩ := List.map_eq_cons_iff.1 hlast
    cases List.map_eq_nil_iff.1 hnil
    exact ⟨body, e, rfl, he, hbody⟩

end Token

namespace Grammar

theorem noEnd_of_lexemes {body : List Token} (h : ∀ l ∈ body.map Token.lexeme, l ≠ .endOfInput) :
    ∀ t ∈ body, t.isEnd = false :=
  fun _ ht => decide_eq_false (h _ (List.mem_map_of_mem ht))

theorem bareTurns_end {e : Token} (he : e.lexeme = .endOfInput) : bareTurns [e] = [] := by
  have hend : atEnd [e] = true := decide_eq_true he
  rw [bareTurns, turns_eq, turnsFrom_of_atEnd [e] (c := .ofTokens 0 [e]) hend, List.map_nil]

/-- The turns of lines are those of their groups, each of which is scanned on its own. -/
theorem bareTurns_groups {groups : List (List (List Char))}
    (hlines : ∀ g ∈ groups, ∀ cs ∈ g, '\n' ∉ cs)
    (hclosed : ∀ g ∈ groups, ∀ tokens, Token.scan (Text.join g) = .ok tokens →
      Closed tokens.dropLast)
    {ls : List Lexeme} (h : Token.lexemesOf groups.flatten = some ls) {tokens : List Token}
    (htokens : tokens.map Token.lexeme = ls ++ [.endOfInput]) :
    ∃ parts, List.Forall₂ (fun g ts => Token.scan (Text.join g) = .ok ts) groups parts ∧
      bareTurns tokens = parts.flatMap bareTurns := by
  induction groups generalizing ls tokens with
  | nil =>
    cases h
    obtain ⟨e, _, rfl, he, hnil⟩ := List.map_eq_cons_iff.1 htokens
    cases List.map_eq_nil_iff.1 hnil
    exact ⟨[], .nil, bareTurns_end he⟩
  | cons g groups ih =>
    obtain ⟨hg, hgroups⟩ := List.forall_mem_cons.1 hlines
    obtain ⟨hc, hclosed⟩ := List.forall_mem_cons.1 hclosed
    rw [List.flatten_cons] at h
    obtain ⟨first, rest, hfirst, hrest, rfl⟩ := Token.lexemesOf_append_eq_some.1 h
    obtain ⟨body, e, hscan, he, hbody⟩ := Token.scan_join_eq_ok hg hfirst
    rw [List.append_assoc] at htokens
    obtain ⟨ts, more, rfl, hts, hmore⟩ := List.map_eq_append_iff.1 htokens
    obtain ⟨us, last, rfl, hus, hlast⟩ := List.map_eq_append_iff.1 hmore
    obtain ⟨e', _, rfl, he', hnil⟩ := List.map_eq_cons_iff.1 hlast
    cases List.map_eq_nil_iff.1 hnil
    obtain ⟨parts, hparts, hturns⟩ := ih hgroups hclosed hrest hmore
    refine ⟨(body ++ [e]) :: parts, .cons hscan hparts, ?_⟩
    have hbodyEnd : ∀ t ∈ body, t.isEnd = false :=
      noEnd_of_lexemes (hbody ▸ Token.lexemesOf_noEnd hfirst)
    have husEnd : ∀ t ∈ us, t.isEnd = false :=
      noEnd_of_lexemes (hus ▸ Token.lexemesOf_noEnd hrest)
    have hsame : SameBy (List.map Token.lexeme) (ts ++ (us ++ [e'])) (body ++ us ++ [e']) := by
      simp only [SameBy, List.map_append, hts, hbody, List.append_assoc]
    have hbodyClosed : Closed body := by
      have := hc _ hscan
      rwa [List.dropLast_concat] at this
    rw [bareTurns_congr hsame, bareTurns_append he' he hbodyEnd husEnd hbodyClosed,
      List.flatMap_cons, hturns]

end Grammar

theorem Token.mem_toOption {result : Except LexError (List Token)} {tokens : List Token} :
    tokens ∈ result.toOption ↔ result = .ok tokens := by
  cases result <;> simp [Except.toOption]

namespace Program

open Grammar

theorem check_eq_ok {text : List Char} {p : Program} :
    check text = .ok p ↔
      ∃ tokens, Token.scan text = .ok tokens ∧ p = ofTokens tokens ∧ p.errors = [] := by
  unfold check ofText
  cases Token.scan text with
  | error e => simp [Except.map]
  | ok tokens =>
    simp only [Except.map, List.isEmpty_iff]
    split
    · rename_i herrors
      simp only [Except.ok.injEq, exists_eq_left']
      constructor
      · rintro rfl
        exact ⟨rfl, herrors⟩
      · exact fun h => h.1.symm
    · rename_i herrors
      have hfails : ¬ ∃ ts, Except.ok (ε := Token.LexError) tokens = .ok ts ∧ p = ofTokens ts ∧
          p.errors = [] := by
        rintro ⟨_, ⟨⟩, rfl, h⟩
        exact herrors h
      simp only [hfails, iff_false]
      split <;> simp

/-- Texts of whose turns each reads a statement are programs without errors. -/
theorem check_of_bareTurns {texts : List (List Char)} {parts : List (List Token)}
    (hparts : List.Forall₂ (fun text ts => Token.scan text = .ok ts) texts parts)
    {ss : List Statement} (h : parts.flatMap bareTurns = ss.map some) :
    ∃ ps, List.Forall₂ (fun text q => check text = .ok q) texts ps ∧
      (ps.flatMap statements).map Statement.bare = ss := by
  induction hparts generalizing ss with
  | nil =>
    cases List.map_eq_nil_iff.1 h.symm
    exact ⟨[], .nil, rfl⟩
  | @cons text ts texts parts hscan _ ih =>
    rw [List.flatMap_cons] at h
    obtain ⟨first, rest, rfl, hfirst, hrest⟩ := List.map_eq_append_iff.1 h.symm
    obtain ⟨herrors, hstatements⟩ := bareTurns_eq_iff.1 hfirst.symm
    obtain ⟨ps, hps, rfl⟩ := ih hrest.symm
    refine ⟨ofTokens ts :: ps, .cons (check_eq_ok.2 ⟨ts, hscan, rfl, herrors⟩) hps, ?_⟩
    rw [List.flatMap_cons, List.map_append, hstatements]

/-- A program without errors is cut into programs without errors, which have its statements. -/
theorem check_groups {source : List Char} {p : Program} (h : check source = .ok p)
    {groups : List (List (List Char))} (hgroups : groups.flatten = Text.lines source)
    (hclosed : ∀ g ∈ groups, ∀ tokens, Token.scan (Text.join g) = .ok tokens →
      Closed tokens.dropLast) :
    ∃ ps, List.Forall₂ (fun text q => check text = .ok q) (groups.map Text.join) ps ∧
      (ps.flatMap statements).map Statement.bare = p.statements.map Statement.bare := by
  obtain ⟨tokens, hscan, rfl, herrors⟩ := check_eq_ok.1 h
  have hlexemes := Token.scan_lexemes source
  rw [hscan, ← hgroups] at hlexemes
  obtain ⟨ls, hls, htokens⟩ := Option.map_eq_some_iff.1 hlexemes.symm
  have hlines : ∀ g ∈ groups, ∀ cs ∈ g, '\n' ∉ cs := fun g hg cs hcs =>
    Text.newline_notMem_lines source cs (hgroups ▸ List.mem_flatten.2 ⟨g, hg, hcs⟩)
  obtain ⟨parts, hparts, hturns⟩ := bareTurns_groups hlines hclosed hls htokens.symm
  refine check_of_bareTurns (List.forall₂_map_left_iff.2 hparts) ?_
  rw [← hturns, bareTurns_eq_iff]
  exact ⟨herrors, rfl⟩

end Program

end ModelLang
