import ModelLang.Proofs.Backspace
import ModelLang.Proofs.Extension
import ModelLang.Proofs.Groups
import ModelLang.Proofs.Spanless

/-!
# ModelLang.Proofs.Interactive

The interactive mode and the batch mode agree. Lines that are typed one after the other are cut into
groups and executed group by group. If each group ends with a semicolon, and the whole source has no
error and runs, then this ends where the run of the whole source ends
(`Console.interactive_agrees`).
-/

namespace ModelLang

theorem Statement.executeAll_append (tables : Table.Source) (ss ts : List Statement) :
    executeAll tables (ss ++ ts) = executeAll tables ss >>= fun _ => executeAll tables ts := by
  induction ss with
  | nil => rfl
  | cons s ss ih => simp only [List.cons_append, executeAll, ih, bind_assoc]

theorem Program.run_eq_ok {p : Program} {tables : Table.Source} {random : Random} {s : Session} :
    p.run tables random = (.ok (), s) ↔
      Statement.executeAll tables p.statements (.start random) = (.ok (), s) := by
  unfold Program.run
  rcases Statement.executeAll tables p.statements (.start random) with ⟨_ | _, s'⟩ <;> simp

namespace Console

/-! ## Executions without messages -/

/-- The console is in a session, and has reported nothing. -/
structure Stands (tree : Bool) (pending : List Char) (c : Console) (s : Session) : Prop where
  session : c.session = s
  below : s.Below
  pending : c.pending = pending
  err : c.err = ""
  causes : c.causes = []
  /-- Without syntax trees, just the printed lines have been written. -/
  out : tree = false → c.out = s.output

variable {tables : Table.Source} {tree : Bool} {pending : List Char} {c : Console} {s s' : Session}

theorem start_stands (random : Random) : (start random).Stands tree [] (.start random) :=
  ⟨rfl, Session.start_below random, rfl, rfl, rfl, fun _ => rfl⟩

theorem Stands.execute (h : c.Stands tree pending s) {st : Statement}
    (hst : st.execute tables s = (.ok (), s')) :
    (c.execute tables tree st).Stands tree pending s' := by
  have hchanges : Session.Changes st.innermost s s' := by
    have := Session.execute_changes tables st h.below
    rwa [hst] at this
  obtain ⟨lines, hlines⟩ := hchanges.extends.printed
  unfold Console.execute
  rw [h.session, hst]
  refine ⟨rfl, hchanges.below h.below, h.pending, h.err, h.causes, ?_⟩
  rintro rfl
  simp only [h.out rfl, Session.output, ← hlines]
  simp

theorem Stands.executeAll (h : c.Stands tree pending s) {ss : List Statement}
    (hss : Statement.executeAll tables ss s = (.ok (), s')) :
    (ss.foldl (Console.execute tables tree) c).Stands tree pending s' := by
  induction ss generalizing c s with
  | nil =>
    cases hss
    exact h
  | cons st ss ih =>
    obtain ⟨_, s₁, hst, hss⟩ := Step.bind_eq_ok.1 hss
    exact ih (h.execute hst) hss

theorem Stands.executeText (h : c.Stands tree pending s) {text : List Char} {p : Program}
    (hcheck : Program.check text = .ok p)
    (hrun : Statement.executeAll tables p.statements s = (.ok (), s')) :
    (c.executeText tables tree text).Stands tree pending s' := by
  obtain ⟨tokens, hscan, rfl, herrors⟩ := Program.check_eq_ok.1 hcheck
  unfold Console.executeText Program.ofText
  rw [hscan]
  simp only [Except.map, herrors, List.foldl_nil]
  exact h.executeAll hrun

/-! ## Group by group -/

theorem Stands.executeTexts (h : c.Stands tree pending s) {texts : List (List Char)}
    {ps : List Program} (hcheck : List.Forall₂ (fun text q => Program.check text = .ok q) texts ps)
    (hrun : Statement.executeAll tables (ps.flatMap Program.statements) s = (.ok (), s')) :
    (texts.foldl (Console.executeText tables tree) c).Stands tree pending s' := by
  induction hcheck generalizing c s with
  | nil =>
    cases hrun
    exact h
  | cons hfirst _ ih =>
    rw [List.flatMap_cons, Statement.executeAll_append] at hrun
    obtain ⟨_, s₁, hfirstRun, hrest⟩ := Step.bind_eq_ok.1 hrun
    exact ih (h.executeText hfirst hfirstRun) hrest

/-- The typed lines are executed as the texts that they are cut into. -/
theorem Stands.feed (h : c.Stands tree pending s) {typed texts : List (List Char)}
    (hcut : cut pending (typed.map Text.erase) = (texts, [])) {ps : List Program}
    (hcheck : List.Forall₂ (fun text q => Program.check text = .ok q) texts ps)
    (hrun : Statement.executeAll tables (ps.flatMap Program.statements) s = (.ok (), s')) :
    (typed.foldl (Console.feed tables tree) c).Stands tree [] s' := by
  induction typed generalizing c s pending texts ps with
  | nil =>
    cases hcut
    cases hcheck
    cases hrun
    exact h
  | cons line typed ih =>
    rw [List.map_cons, cut] at hcut
    rw [List.foldl_cons, Console.feed, h.pending]
    split at hcut
    · rename_i hcomplete
      rcases hrest : cut [] (typed.map Text.erase) with ⟨more, rest⟩
      rw [hrest] at hcut
      obtain ⟨rfl, rfl⟩ := Prod.mk.inj hcut
      obtain _ | ⟨hfirst, hcheck⟩ := hcheck
      rw [List.flatMap_cons, Statement.executeAll_append] at hrun
      obtain ⟨_, s₁, hfirstRun, hrun⟩ := Step.bind_eq_ok.1 hrun
      rw [if_pos hcomplete]
      have hempty : Stands tree [] { c with pending := [], causes := [] } s :=
        ⟨h.session, h.below, rfl, h.err, rfl, h.out⟩
      exact ih (hempty.executeText hfirst hfirstRun) hrest hcheck hrun
    · rename_i hcomplete
      rw [if_neg hcomplete]
      exact ih ⟨h.session, h.below, rfl, h.err, rfl, h.out⟩ hcut hcheck hrun

/-! ## Agreement -/

/-- The console has reported no error, and is where a session is, apart from the spans in the bodies
of defines. -/
structure Agrees (tree : Bool) (c : Console) (s : Session) : Prop where
  err : c.err = ""
  causes : c.causes = []
  pending : c.pending = []
  printed : c.session.printed = s.printed
  /-- Without syntax trees, just the printed lines have been written. -/
  out : tree = false → c.out = s.output
  failedChecks : c.session.failedChecks = s.failedChecks
  model : c.session.model = s.model
  /-- The random numbers that are drawn next are the same, too. -/
  random : c.session.work.random = s.work.random
  symbols : Symbols.bare c.session.symbols = Symbols.bare s.symbols

theorem Stands.agrees (h : c.Stands tree [] s') (hs : s.bare = s'.bare) : c.Agrees tree s := by
  obtain ⟨hsymbols, hwork, hprinted, hfailed⟩ := Session.mk.inj hs
  obtain ⟨rfl, _, hpending, herr, hcauses, hout⟩ := h
  refine ⟨herr, hcauses, hpending, hprinted.symm, fun ht => ?_, hfailed.symm, ?_, ?_, hsymbols.symm⟩
  · rw [hout ht, Session.output, Session.output, hprinted]
  · rw [Session.model, Session.model, hwork]
  · rw [hwork]

/-- If a source without errors runs, and its lines are cut into groups each of which ends with a
semicolon, then the groups execute one after the other without errors, and so do the typed lines
that these lines are left of. They end where the run of the source ends. -/
theorem interactive_agrees (tables : Table.Source) (tree : Bool) (random : Random)
    {source : List Char} {p : Program} {s : Session} {texts : List (List Char)}
    (hcheck : Program.check source = .ok p) (hrun : p.run tables random = (.ok (), s))
    (hcut : cut [] (Text.lines source) = (texts, []))
    (hlast : ∀ text ∈ texts, ∀ tokens, Token.scan text = .ok tokens →
      Grammar.Closed tokens.dropLast) :
    (texts.foldl (executeText tables tree) (start random)).Agrees tree s ∧
      ∀ typed : List (List Char), typed.map Text.erase = Text.lines source →
        (typed.foldl (feed tables tree) (start random)).Agrees tree s := by
  obtain ⟨groups, rfl, hgroups⟩ := @cut_groups [] _ _ hcut
  obtain ⟨ps, hps, hstatements⟩ := Program.check_groups hcheck hgroups
    (List.forall_mem_map.1 hlast)
  obtain ⟨s', hrun', hs⟩ :=
    Statement.executeAll_congr tables hstatements.symm rfl (Program.run_eq_ok.1 hrun)
  refine ⟨((start_stands random).executeTexts hps hrun').agrees hs, fun typed htyped => ?_⟩
  exact ((start_stands random).feed (htyped ▸ hcut) hps hrun').agrees hs

/-- A define over two lines, a call of it, and a check that fails. -/
def sampleSource : List Char :=
  "defnumb f(x) :=\n  x + 1; # next\nprint f(2);\n\ncheck 2 < 1;\n".toList

/-- There are two groups, since a comment keeps the second line from ending with a semicolon. -/
def sampleTexts : List (List Char) :=
  ["defnumb f(x) :=\n  x + 1; # next\nprint f(2);\n".toList,
    "\ncheck 2 < 1;\n".toList]

/-- The lines of the source as they are typed, the last one with a slip that is taken back. -/
def sampleTyped : List (List Char) :=
  ["defnumb f(x) :=".toList, "  x + 1; # next".toList, "print f(2);".toList,
    [], "check 2 <= \x08\x08 1;".toList]

theorem interactive_agrees_sample :
    ∃ p s, Program.check sampleSource = .ok p ∧ p.run .empty default = (.ok (), s) ∧
      cut [] (Text.lines sampleSource) = (sampleTexts, []) ∧
      (∀ text ∈ sampleTexts, ∀ tokens, Token.scan text = .ok tokens →
        Grammar.Closed tokens.dropLast) ∧
      sampleTyped.map Text.erase = Text.lines sampleSource ∧
      s.printed = ["3"] ∧ s.failedChecks = 1 ∧
      (sampleTexts.foldl (executeText .empty false) (start default)).Agrees false s ∧
      (sampleTyped.foldl (feed .empty false) (start default)).Agrees false s := by
  have hcut : cut [] (Text.lines sampleSource) = (sampleTexts, []) := by decide +kernel
  have hlast : ∀ text ∈ sampleTexts, ∀ tokens, Token.scan text = .ok tokens →
      Grammar.Closed tokens.dropLast := by
    have : ∀ text ∈ sampleTexts, ∀ tokens ∈ (Token.scan text).toOption,
        Grammar.Closed tokens.dropLast := by decide +kernel
    exact fun text htext tokens hscan => this text htext tokens (Token.mem_toOption.2 hscan)
  have hplain : ∀ line ∈ sampleTyped, ∀ c ∈ line, Text.Cluster.IsPlain c := by
    have hall : sampleTyped.all fun line => line.all fun c => decide (Text.Cluster.IsPlain c) := by
      decide +kernel
    simpa only [List.all_eq_true, decide_eq_true_eq] using hall
  have htyped : sampleTyped.map Text.erase = Text.lines sampleSource := by
    rw [List.map_congr_left fun line hline => Text.erase_ascii (hplain line hline)]
    decide +kernel
  have hsample : ∃ tokens ∈ (Token.scan sampleSource).toOption,
      let p := Program.ofTurns (Grammar.turnsFrom tokens (.ofTokens 0 tokens))
      let r := Statement.executeAll .empty p.statements (.start default)
      p.errors.isEmpty ∧ r.1.isOk ∧ r.2.printed = ["3"] ∧ r.2.failedChecks = 1 := by
    decide +kernel
  obtain ⟨tokens, htokens, hsample⟩ := hsample
  rw [← Grammar.turns_eq, ← Program.ofTokens] at hsample
  rcases hexecute : Statement.executeAll .empty (Program.ofTokens tokens).statements
    (.start default) with ⟨_ | ⟨⟩, s⟩
  · simp [hexecute, Except.isOk, Except.toBool] at hsample
  simp only [hexecute, List.isEmpty_iff] at hsample
  obtain ⟨herrors, -, hprinted, hfailed⟩ := hsample
  have hcheck := Program.check_eq_ok.2 ⟨tokens, Token.mem_toOption.1 htokens, rfl, herrors⟩
  have hrun := Program.run_eq_ok.2 hexecute
  obtain ⟨htexts, hfeed⟩ := interactive_agrees .empty false default hcheck hrun hcut hlast
  exact ⟨_, s, hcheck, hrun, hcut, hlast, htyped, hprinted, hfailed, htexts, hfeed _ htyped⟩

end Console

end ModelLang
