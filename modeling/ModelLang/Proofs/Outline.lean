import Mathlib.Data.List.Infix
import ModelLang.Proofs.Cover
import ModelLang.Statement

/-!
# ModelLang.Proofs.Outline

The spans of a syntax tree. An outline is what is left of a tree without anything but its spans
(`Outline`). It is laid out in tokens if every span runs along a stretch of them, and the spans
below along stretches of this stretch (`Outline.Laid`). Where the tokens are in order, each span
then starts before it ends and has those below inside (`Outline.Nested`).
-/

namespace ModelLang

/-! ## Places -/

namespace Location

/-- The place comes before the other one in a text. -/
def Before (a b : Location) : Prop :=
  a.line < b.line ∨ a.line = b.line ∧ a.column < b.column

variable {a b c : Location}

theorem UpTo.refl (a : Location) : a.UpTo a :=
  .inr ⟨rfl, Nat.le_refl _⟩

theorem UpTo.trans (h : a.UpTo b) (h' : b.UpTo c) : a.UpTo c := by
  unfold UpTo at *
  omega

theorem Before.upTo (h : a.Before b) : a.UpTo b := by
  unfold Before UpTo at *
  omega

theorem UpTo.before (h : a.UpTo b) (h' : b.Before c) : a.Before c := by
  unfold Before UpTo at *
  omega

end Location

namespace Span

/-- It is known where the span lies. -/
def IsDetermined (s : Span) : Prop :=
  s ≠ .indetermined

/-- The span lies inside the other one. -/
structure Within (s t : Span) : Prop where
  start : t.start.UpTo s.start
  stop : s.stop.UpTo t.stop

/-- The span runs from the start of the first token to the end of the last. -/
def Along (s : Span) (ts : List Token) : Prop :=
  ∃ first ∈ ts.head?, ∃ last ∈ ts.getLast?, s = .determined first.span.start last.span.stop

/-- The span runs along some tokens that stand together in a list. -/
def Marks (s : Span) (tokens : List Token) : Prop :=
  ∃ ts, ts <:+: tokens ∧ s.Along ts

variable {s t : Span} {ts us : List Token}

theorem Within.refl (s : Span) : s.Within s :=
  ⟨.refl _, .refl _⟩

theorem Marks.mono (h : s.Marks ts) (hin : ts <:+: us) : s.Marks us := by
  obtain ⟨ws, hws, hs⟩ := h
  exact ⟨ws, hws.trans hin, hs⟩

theorem IsDetermined.eq_determined (h : s.IsDetermined) : s = .determined s.start s.stop := by
  cases s with
  | indetermined => exact absurd rfl h
  | determined start stop => rfl

theorem along_singleton {t : Token} (h : t.span.IsDetermined) : t.span.Along [t] :=
  ⟨t, rfl, t, rfl, h.eq_determined⟩

theorem Along.isDetermined (h : s.Along ts) : s.IsDetermined := by
  obtain ⟨_, _, _, _, rfl⟩ := h
  exact Span.noConfusion

theorem Marks.isDetermined (h : s.Marks ts) : s.IsDetermined := by
  obtain ⟨_, _, halong⟩ := h
  exact halong.isDetermined

theorem Along.ne_nil (h : s.Along ts) : ts ≠ [] := by
  obtain ⟨first, hfirst, _⟩ := h
  rintro rfl
  cases hfirst

/-- From one stretch of tokens to a later one. -/
theorem Along.till {us' ts' : List Token} (h : s.Along us) (hin : us <:+: ts) (h' : t.Along us')
    (hin' : us' <:+: ts') (mid : List Token) : ∃ ws, ws <:+: ts ++ mid ++ ts' ∧
      (s.till t).Along ws ∧ us <:+: ws ∧ mid <:+: ws ∧ us' <:+: ws := by
  obtain ⟨before, between, rfl⟩ := hin
  obtain ⟨between', after, rfl⟩ := hin'
  refine ⟨us ++ (between ++ mid ++ between') ++ us', ⟨before, after, by simp⟩, ?_,
    ⟨[], between ++ mid ++ between' ++ us', by simp⟩,
    ⟨us ++ between, between' ++ us', by simp⟩,
    ⟨us ++ (between ++ mid ++ between'), [], by simp⟩⟩
  have hne := h.ne_nil
  have hne' := h'.ne_nil
  obtain ⟨first, hfirst, last, _, rfl⟩ := h
  obtain ⟨first', _, last', hlast, rfl⟩ := h'
  refine ⟨first, ?_, last', ?_, rfl⟩
  · rwa [List.append_assoc, List.head?_append_of_ne_nil _ hne]
  · rwa [List.getLast?_append_of_ne_nil _ hne']

end Span

/-! ## Tokens in order -/

namespace Token

/-- Each token starts before it ends, and ends before the next one starts. -/
structure InOrder (tokens : List Token) : Prop where
  nonempty : ∀ t ∈ tokens, t.span.start.Before t.span.stop
  ordered : tokens.Pairwise fun t u => t.span.stop.UpTo u.span.start

variable {ts us : List Token} {s s' : Span}

theorem InOrder.sublist (h : InOrder ts) (hsub : us.Sublist ts) : InOrder us :=
  ⟨fun t ht => h.nonempty t (hsub.subset ht), h.ordered.sublist hsub⟩

theorem OnLine.isDetermined {line column : Nat} {cs : List Char} (h : OnLine line column cs ts) :
    ∀ t ∈ ts, t.span.IsDetermined := by
  induction h with
  | done | comment => exact List.forall_mem_nil _
  | blank _ _ ih => exact ih
  | token _ _ _ ih => exact List.forall_mem_cons.2 ⟨Span.noConfusion, ih⟩

theorem scanLines_isDetermined {line : Nat} {last : Location} {lines : List (List Char)}
    (h : scanLines line last lines = .ok ts) : ∀ t ∈ ts, t.span.IsDetermined := by
  induction lines generalizing line last ts with
  | nil =>
    cases h
    exact List.forall_mem_singleton.2 Span.noConfusion
  | cons cs lines ih =>
    unfold scanLines at h
    split at h
    · cases h
    · rename_i first hfirst
      split at h
      · rename_i more hmore
        cases h
        exact List.forall_mem_append.2 ⟨(scanLine_onLine hfirst).isDetermined, ih hmore⟩
      · cases h

theorem Covers.inOrder {lines : List (List Char)} (h : Covers lines ts) : InOrder ts where
  nonempty t ht := by
    obtain ⟨n, _, _, _, hstart, hstop, hcolumn, _⟩ := h.liesIn t ht
    exact .inr ⟨hstart.trans hstop.symm, hcolumn⟩
  ordered := h.ordered

/-- No token starts before the first or ends after the last. -/
theorem InOrder.within_of_mem (h : InOrder ts) (hs : s.Along ts) {t : Token} (ht : t ∈ ts) :
    t.span.Within s := by
  obtain ⟨first, hfirst, last, hlast, rfl⟩ := hs
  constructor
  · obtain ⟨rest, rfl⟩ := List.head?_eq_some_iff.1 hfirst
    rcases List.mem_cons.1 ht with rfl | hrest
    · exact .refl _
    · exact (h.nonempty first List.mem_cons_self).upTo.trans
        ((List.pairwise_cons.1 h.ordered).1 t hrest)
  · obtain ⟨front, rfl⟩ := List.getLast?_eq_some_iff.1 hlast
    rcases List.mem_append.1 ht with hfront | hlast
    · exact ((List.pairwise_append.1 h.ordered).2.2 t hfront last List.mem_cons_self).trans
        (h.nonempty last (List.mem_append_right _ List.mem_cons_self)).upTo
    · rw [List.mem_singleton.1 hlast]
      exact .refl _

theorem InOrder.start_before_stop (h : InOrder ts) (hs : s.Along ts) : s.start.Before s.stop := by
  obtain ⟨first, hfirst, _⟩ := id hs
  have hmem := List.mem_of_mem_head? hfirst
  have hwithin := h.within_of_mem hs hmem
  have hbefore := hwithin.start.before (h.nonempty first hmem)
  have hstop := hwithin.stop
  unfold Location.Before Location.UpTo at *
  omega

/-- The span of a part of some tokens lies inside their span. -/
theorem InOrder.within_of_infix (h : InOrder ts) (hs : s.Along ts) (hs' : s'.Along us)
    (hin : us <:+: ts) : s'.Within s := by
  obtain ⟨first, hfirst, last, hlast, rfl⟩ := hs'
  have hfirst := h.within_of_mem hs (hin.subset (List.mem_of_mem_head? hfirst))
  have hlast := h.within_of_mem hs (hin.subset (List.mem_of_mem_getLast? hlast))
  exact ⟨hfirst.start, hlast.stop⟩

end Token

/-! ## Outlines -/

/-- The span of a node, and the outlines of the nodes below it. -/
inductive Outline where
  | node (span : Span) (parts : List Outline)

namespace Outline

/-- The span of the topmost node. -/
def root : Outline → Span
  | node span _ => span

mutual

/-- All spans of an outline. -/
def spans : Outline → List Span
  | node span parts => span :: spansOf parts

def spansOf : List Outline → List Span
  | [] => []
  | o :: rest => o.spans ++ spansOf rest

end

theorem mem_spansOf {s : Span} {parts : List Outline} :
    s ∈ spansOf parts ↔ ∃ p ∈ parts, s ∈ p.spans := by
  induction parts with
  | nil => simp [spansOf]
  | cons p parts ih => simp [spansOf, ih]

/-- All spans of the outline have a property. -/
def All (S : Span → Prop) (o : Outline) : Prop :=
  ∀ s ∈ o.spans, S s

theorem all_node {S : Span → Prop} {span : Span} {parts : List Outline} :
    (node span parts).All S ↔ S span ∧ ∀ p ∈ parts, p.All S := by
  simp only [All, spans, List.forall_mem_cons, mem_spansOf]
  constructor
  · rintro ⟨hspan, hparts⟩
    exact ⟨hspan, fun p hp s hs => hparts s ⟨p, hp, hs⟩⟩
  · rintro ⟨hspan, hparts⟩
    refine ⟨hspan, ?_⟩
    rintro s ⟨p, hp, hs⟩
    exact hparts p hp s hs

/-- Every span starts before it ends and has the spans of the nodes below inside. -/
inductive Nested : Outline → Prop where
  | node {span : Span} {parts : List Outline} (hproper : span.start.Before span.stop)
      (hinside : ∀ p ∈ parts, ∀ s ∈ p.spans, s.Within span)
      (hparts : ∀ p ∈ parts, Nested p) : Nested (.node span parts)

/-- Every span runs along a stretch of the tokens, and the spans of the nodes below along stretches
of this stretch. -/
inductive Laid : List Token → Outline → Prop where
  | node {ts us : List Token} {span : Span} {parts : List Outline} (hin : us <:+: ts)
      (hspan : span.Along us) (hparts : ∀ p ∈ parts, Laid us p) : Laid ts (.node span parts)

namespace Laid

variable {ts us mid : List Token} {o o' : Outline} {parts : List Outline} {s : Span}

theorem mono (h : o.Laid ts) (hin : ts <:+: us) : o.Laid us := by
  cases h with
  | node hin' hspan hparts => exact .node (hin'.trans hin) hspan hparts

theorem of_along (hspan : s.Along ts) (hparts : ∀ p ∈ parts, p.Laid ts) :
    (Outline.node s parts).Laid ts :=
  .node List.infix_rfl hspan hparts

theorem leaf {t : Token} (h : t.span.IsDetermined ∧ [t] <:+: ts) :
    (Outline.node t.span []).Laid ts :=
  .node h.2 (Span.along_singleton h.1) (List.forall_mem_nil _)

/-- A node from the start of one outline to the end of a later one. -/
theorem till_around (h : o.Laid ts) (h' : o'.Laid us)
    (hparts : ∀ p ∈ parts, p = o ∨ p.Laid mid ∨ p = o') :
    (Outline.node (o.root.till o'.root) parts).Laid (ts ++ mid ++ us) := by
  cases h with
  | node hin hspan hbelow =>
    cases h' with
    | node hin' hspan' hbelow' =>
      obtain ⟨ws, hws, halong, hfirst, hmid, hlast⟩ := hspan.till hin hspan' hin' mid
      refine .node hws halong ?_
      intro p hp
      rcases hparts p hp with rfl | hlaid | rfl
      · exact .node hfirst hspan hbelow
      · exact hlaid.mono hmid
      · exact .node hlast hspan' hbelow'

theorem till (h : o.Laid ts) (h' : o'.Laid us) (hparts : ∀ p ∈ parts, p = o ∨ p = o') :
    (Outline.node (o.root.till o'.root) parts).Laid (ts ++ us) := by
  have haround : (Outline.node (o.root.till o'.root) parts).Laid (ts ++ [] ++ us) := by
    refine h.till_around h' ?_
    intro p hp
    rcases hparts p hp with heq | heq
    · exact .inl heq
    · exact .inr (.inr heq)
  rwa [List.append_nil] at haround

theorem marks (h : o.Laid ts) : ∀ s ∈ o.spans, s.Marks ts := by
  induction h with
  | @node ts us span parts hin hspan _ ih =>
    intro s hs
    rcases List.mem_cons.1 hs with rfl | hs
    · exact ⟨us, hin, hspan⟩
    · obtain ⟨p, hp, hs⟩ := mem_spansOf.1 hs
      exact (ih p hp s hs).mono hin

theorem nested (h : o.Laid ts) (hts : Token.InOrder ts) : o.Nested := by
  induction h with
  | node hin hspan hparts ih =>
    have hus := hts.sublist hin.sublist
    refine .node (hus.start_before_stop hspan) ?_ fun p hp => ih p hp hus
    intro p hp s hs
    obtain ⟨ws, hws, hs⟩ := (hparts p hp).marks s hs
    exact hus.within_of_infix hspan hs hws

end Laid

end Outline

/-! ## Outlines of syntax trees -/

def Name.outline (x : Name) : Outline := .node x.span []

mutual

def Expr.outline : Expr → Outline
  | .number _ s | .infinity s | .string _ s | .name _ s => .node s []
  | .subscript _ items s | .call _ items s | .builtin _ items s | .tuple items s
  | .setLiteral items s => .node s (Expr.outlines items)
  | .range first last step _ s => .node s (first.outline :: last.outline :: Expr.optOutlines step)
  | .setBuilder index member s => .node s (index.outline :: Expr.optOutlines member)
  | .proj set positions s => .node s [set.outline, positions.outline]
  | .indexSetOf x s => .node s [x.outline]
  | .binary _ a b s => .node s [a.outline, b.outline]
  | .unary _ a s => .node s [a.outline]
  | .aggregate _ index body s | .indexedSetOp _ index body s =>
    .node s [index.outline, body.outline]
  | .nonempty index s => .node s [index.outline]
  | .argExtremum _ count index body s =>
    .node s (Expr.optOutlines count ++ [index.outline, body.outline])
  | .conditional c a b s => .node s [c.outline, a.outline, b.outline]
  | .read table s => .node s table.outlines

def IndexSet.outline : IndexSet → Outline
  | .mk none set condition s => .node s (set.outline :: Expr.optOutlines condition)
  | .mk (some items) set condition s =>
    .node s (Expr.outlines items ++ set.outline :: Expr.optOutlines condition)

def ReadSpec.outlines : ReadSpec → List Outline
  | .mk file template options =>
    file.outline :: template.outline :: ReadOption.outlines options

def ReadOption.outlines : List ReadOption → List Outline
  | [] => []
  | .mk _ value :: rest => value.outline :: ReadOption.outlines rest

def Expr.outlines : List Expr → List Outline
  | [] => []
  | e :: rest => e.outline :: Expr.outlines rest

def Expr.optOutlines : Option Expr → List Outline
  | none => []
  | some e => [e.outline]

end

@[simp] theorem Expr.root_outline (e : Expr) : e.outline.root = e.span := by
  cases e <;> simp only [Expr.outline, Expr.span, Outline.root]

@[simp] theorem IndexSet.root_outline (index : IndexSet) : index.outline.root = index.span := by
  obtain ⟨_ | items, set, condition, span⟩ := index <;>
    simp only [IndexSet.outline, IndexSet.span, Outline.root]

@[simp] theorem Expr.forall_outlines {P : Outline → Prop} {es : List Expr} :
    (∀ o ∈ Expr.outlines es, P o) ↔ ∀ e ∈ es, P e.outline := by
  induction es with
  | nil => simp [Expr.outlines]
  | cons e es ih => simp [Expr.outlines, ih]

@[simp] theorem Expr.forall_optOutlines {P : Outline → Prop} {e : Option Expr} :
    (∀ o ∈ Expr.optOutlines e, P o) ↔ ∀ a ∈ e, P a.outline := by
  cases e <;> simp [Expr.optOutlines]

def ReadOption.value : ReadOption → Expr
  | .mk _ value => value

@[simp] theorem ReadOption.forall_outlines {P : Outline → Prop} {options : List ReadOption} :
    (∀ o ∈ ReadOption.outlines options, P o) ↔ ∀ a ∈ options, P a.value.outline := by
  induction options with
  | nil => simp [ReadOption.outlines]
  | cons a options ih =>
    cases a
    simp [ReadOption.outlines, ReadOption.value, ih]

def IndexSet.optOutlines (index : Option IndexSet) : List Outline :=
  index.toList.map IndexSet.outline

@[simp] theorem IndexSet.forall_optOutlines {P : Outline → Prop} {index : Option IndexSet} :
    (∀ o ∈ IndexSet.optOutlines index, P o) ↔ ∀ a ∈ index, P a.outline := by
  cases index <;> simp [IndexSet.optOutlines]

/-- The keys and values of a list. -/
def entryOutlines : List (Expr × Expr) → List Outline
  | [] => []
  | e :: rest => e.1.outline :: e.2.outline :: entryOutlines rest

@[simp] theorem forall_entryOutlines {P : Outline → Prop} {items : List (Expr × Expr)} :
    (∀ o ∈ entryOutlines items, P o) ↔ ∀ e ∈ items, P e.1.outline ∧ P e.2.outline := by
  induction items with
  | nil => simp [entryOutlines]
  | cons e items ih => simp [entryOutlines, ih, and_assoc]

def SetBody.outlines : SetBody → List Outline
  | value e | powerset e => [e.outline]
  | entries items => entryOutlines items
  | subsets set least most => set.outline :: least.outline :: Expr.optOutlines most

/-- The key and the values of a row. -/
def rowOutlines (row : List Expr × List Expr) : List Outline :=
  Expr.outlines row.1 ++ Expr.outlines row.2

def ParamBody.outlines : ParamBody → List Outline
  | value e => [e.outline]
  | entries items => entryOutlines items
  | matrix columns rows => Expr.outlines columns ++ rows.flatMap rowOutlines
  | read table => table.outlines
  | empty => []

def Branch.outlines (b : Branch) : List Outline :=
  [b.lhs.outline, b.rhs.outline]

mutual

def Constraint.outlines : Constraint → List Outline
  | .plain lhs _ rhs _ => [lhs.outline, rhs.outline]
  | .range low _ term _ high _ => [low.outline, term.outline, high.outline]
  | .vif condition yes no _ =>
    condition.outline :: (yes.outlines ++ no.toList.flatMap Branch.outlines)
  | .all parts => Constraint.allOutlines parts
  | .each index body => index.outline :: body.outlines
  | .cond condition yes no =>
    condition.outline :: (yes.outlines ++ Constraint.optOutlines no)

def Constraint.allOutlines : List Constraint → List Outline
  | [] => []
  | c :: rest => c.outlines ++ Constraint.allOutlines rest

def Constraint.optOutlines : Option Constraint → List Outline
  | none => []
  | some c => c.outlines

end

@[simp] theorem Constraint.forall_allOutlines {P : Outline → Prop} {parts : List Constraint} :
    (∀ o ∈ Constraint.allOutlines parts, P o) ↔ ∀ c ∈ parts, ∀ o ∈ c.outlines, P o := by
  induction parts with
  | nil => simp [Constraint.allOutlines]
  | cons c parts ih => simp only [Constraint.allOutlines, List.forall_mem_append, ih,
      List.forall_mem_cons]

@[simp] theorem Constraint.forall_optOutlines {P : Outline → Prop} {c : Option Constraint} :
    (∀ o ∈ Constraint.optOutlines c, P o) ↔ ∀ a ∈ c, ∀ o ∈ a.outlines, P o := by
  cases c <;> simp [Constraint.optOutlines]

def SosBody.outlines : SosBody → List Outline
  | weighted items => entryOutlines items
  | term e => [e.outline]
  | each index body => index.outline :: body.outlines

def SetDecl.parts (d : SetDecl) : List Outline :=
  d.name.outline :: (IndexSet.optOutlines d.index ++ d.body.outlines)

def ParamDecl.parts (d : ParamDecl) : List Outline :=
  d.name.outline ::
    (IndexSet.optOutlines d.index ++ d.body.outlines ++ Expr.optOutlines d.fallback)

def VarDecl.parts (d : VarDecl) : List Outline :=
  d.name.outline :: (IndexSet.optOutlines d.index ++ Expr.optOutlines d.lower ++
    Expr.optOutlines d.upper ++ Expr.optOutlines d.priority ++ Expr.optOutlines d.startval)

def ObjectiveDecl.parts (d : ObjectiveDecl) : List Outline :=
  [d.name.outline, d.term.outline]

def SubtoDecl.parts (d : SubtoDecl) : List Outline :=
  d.name.outline :: d.body.outlines

def SosDecl.parts (d : SosDecl) : List Outline :=
  d.name.outline :: (Expr.optOutlines d.priority ++ d.body.outlines)

def DefineDecl.parts (d : DefineDecl) : List Outline :=
  d.name.outline :: (d.params.map Name.outline ++ [d.body.outline])

def Statement.outline : Statement → Outline
  | set d => .node d.span d.parts
  | param d => .node d.span d.parts
  | var d => .node d.span d.parts
  | objective d => .node d.span d.parts
  | subto d => .node d.span d.parts
  | sos d => .node d.span d.parts
  | define d => .node d.span d.parts
  | print items s => .node s (Expr.outlines items)
  | check condition s => .node s [condition.outline]
  | each index body s => .node s [index.outline, body.outline]

@[simp] theorem Statement.root_outline (s : Statement) : s.outline.root = s.span := by
  cases s <;> rfl

end ModelLang
