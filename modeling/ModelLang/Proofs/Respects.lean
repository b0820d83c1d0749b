import Mathlib.Data.List.Forall2
import Mathlib.Logic.Relator
import ModelLang.Proofs.Starts

/-!
# ModelLang.Proofs.Respects

Readings of the same lexemes at different places. What they give is not the same, since it tells the
places. It is related by any relation that an expression respects (`Peg.Respects`), that is, one
that the functions in the expression lead to if the tokens they start from have the same lexemes
(`Layers.alike_of_respects`).
-/

namespace ModelLang

open Relator (LiftFun)

/-- The function does not tell the two apart. -/
abbrev SameBy {α β : Type} (f : α → β) (a a' : α) : Prop :=
  f a = f a'

theorem map_eq_of_forall₂ {α β : Type} {f : α → β} {as as' : List α}
    (h : List.Forall₂ (SameBy f) as as') : as.map f = as'.map f := by
  induction h with
  | nil => rfl
  | cons ha _ ih => exact congrArg₂ List.cons ha ih

namespace Peg

variable {R : Type} {Result : R → Type}

/-- The expression gives related values for tokens with the same lexemes, given that every rule `r`
gives values that `S r` relates. -/
def Respects (S : (r : R) → Result r → Result r → Prop) {α : Type} :
    Peg Result α → (α → α → Prop) → Prop
  | .token _, Q => ∀ t t', SameBy Token.lexeme t t' → Q t t'
  | .oneOf table, Q => ∀ e ∈ table, Q e.2 e.2
  | .seq p q, Q => ∃ P P', p.Respects S P ∧ q.Respects S P' ∧
    ∀ a a' b b', P a a' → P' b b' → Q (a, b) (a', b')
  | .choice p q, Q => p.Respects S Q ∧ q.Respects S Q
  | .map f p, Q => ∃ P, p.Respects S P ∧ LiftFun P Q f f
  | .filterMap f p, Q => ∃ P, p.Respects S P ∧ LiftFun P (Option.Rel Q) f f
  | .opt p, Q => ∃ P, p.Respects S P ∧ ∀ x x', Option.Rel P x x' → Q x x'
  | .many p, Q => ∃ P, p.Respects S P ∧ ∀ x x', List.Forall₂ P x x' → Q x x'
  | .spanned p, Q => ∃ P, p.Respects S P ∧ ∀ a a' s s', P a a' → Q (a, s) (a', s')
  | .rule r, Q => ∀ a a', S r a a' → Q a a'

namespace Respects

variable {S : (r : R) → Result r → Result r → Prop} {α β γ : Type} {P : α → α → Prop}
  {Q : β → β → Prop} {p : Peg Result α}

theorem map {f : α → β} (h : p.Respects S P) (hf : LiftFun P Q f f) : (f <$> p).Respects S Q :=
  ⟨P, h, hf⟩

theorem ap {p : Peg Result (α → β)} {q : Peg Result α} (h : p.Respects S (LiftFun P Q))
    (h' : q.Respects S P) : (p <*> q).Respects S Q :=
  ⟨fun x x' => LiftFun P Q x.1 x'.1 ∧ P x.2 x'.2, ⟨_, _, h, h', fun _ _ _ _ hf ha => ⟨hf, ha⟩⟩,
    fun _ _ h => h.1 h.2⟩

theorem left {q : Peg Result β} (h : p.Respects S P) (h' : q.Respects S Q) :
    (p <* q).Respects S P :=
  ⟨fun x x' => P x.1 x'.1, ⟨_, _, h, h', fun _ _ _ _ ha _ => ha⟩, fun _ _ h => h⟩

theorem right {q : Peg Result β} (h : p.Respects S P) (h' : q.Respects S Q) :
    (p *> q).Respects S Q :=
  ⟨fun x x' => Q x.2 x'.2, ⟨_, _, h, h', fun _ _ _ _ _ hb => hb⟩, fun _ _ h => h⟩

theorem orElse {q : Peg Result α} (h : p.Respects S P) (h' : q.Respects S P) :
    (p <|> q).Respects S P :=
  ⟨h, h'⟩

theorem token (t : Terminal) : (Peg.token t : Peg Result Token).Respects S (SameBy Token.lexeme) :=
  fun _ _ h => h

/-- A table gives what stands in it. -/
theorem oneOf {table : List (Terminal × α)} (h : ∀ a, P a a) :
    (Peg.oneOf table : Peg Result α).Respects S P :=
  fun e _ => h e.2

theorem filterMap {f : α → Option β} (h : p.Respects S P) (hf : LiftFun P (Option.Rel Q) f f) :
    (Peg.filterMap f p).Respects S Q :=
  ⟨P, h, hf⟩

theorem opt {f : α → β} (h : p.Respects S (SameBy f)) :
    (Peg.opt p).Respects S (SameBy (Option.map f)) := by
  refine ⟨_, h, fun _ _ hx => ?_⟩
  cases hx with
  | none => exact rfl
  | some ha => exact congrArg some ha

theorem opt_eq (h : p.Respects S Eq) : (Peg.opt p).Respects S Eq := by
  refine ⟨_, h, fun _ _ hx => ?_⟩
  cases hx with
  | none => rfl
  | some ha => exact congrArg some ha

theorem many (h : p.Respects S P) : (Peg.many p).Respects S (List.Forall₂ P) :=
  ⟨_, h, fun _ _ hx => hx⟩

theorem sepBy {separator : Peg Result β} {f : α → γ} (h : p.Respects S (SameBy f))
    (h' : separator.Respects S Q) : (Peg.sepBy p separator).Respects S (SameBy (List.map f)) :=
  .ap (.map h fun _ _ ha _ _ has => congrArg₂ List.cons ha (map_eq_of_forall₂ has))
    (.many (.right h' h))

theorem spanned (h : p.Respects S P) :
    (Peg.spanned p).Respects S fun x x' => P x.1 x'.1 :=
  ⟨P, h, fun _ _ _ _ ha => ha⟩

theorem rule (r : R) : (Peg.rule r : Peg Result (Result r)).Respects S (S r) :=
  fun _ _ h => h

end Respects

end Peg

/-! ## Readings side by side -/

/-- The same lexemes stand ahead. -/
def Cursor.Ahead (c c' : Cursor) : Prop :=
  SameBy (List.map Token.lexeme) c.rest c'.rest

/-- Both answers have a value or none has, and then the values are related and the same lexemes are
left. -/
def Answer.Alike {α : Type} (Q : α → α → Prop) : Answer α → Answer α → Prop :=
  Option.Rel fun x x' => Q x.1 x'.1 ∧ x.2.Ahead x'.2

theorem Answer.Alike.mono {α : Type} {P Q : α → α → Prop} {x x' : Answer α} (h : x.Alike P x')
    (hPQ : ∀ a a', P a a' → Q a a') : x.Alike Q x' := by
  cases h with
  | none => exact .none
  | some h => exact .some ⟨hPQ _ _ h.1, h.2⟩

namespace Cursor

variable {c c' : Cursor}

theorem Ahead.next? (h : c.Ahead c') (t : Terminal) :
    Answer.Alike (SameBy Token.lexeme) (c.next? t) (c'.next? t) := by
  obtain ⟨k, rest, l⟩ := c
  obtain ⟨k', rest', l'⟩ := c'
  unfold Cursor.next?
  match rest, rest', h with
  | [], [], _ => exact .none
  | u :: rest, u' :: rest', h =>
    obtain ⟨hu, hrest⟩ := List.cons.inj h
    dsimp only
    rw [hu]
    split
    · exact .some ⟨hu, hrest⟩
    · exact .none

end Cursor

namespace Reading

variable {α β : Type} {P : α → α → Prop} {Q : β → β → Prop} {x x' : Reading α}

theorem alike_bind {f f' : α → Cursor → Reading β} (h : x.answer.Alike P x'.answer)
    (hf : ∀ a a' c c', x.answer = some (a, c) → P a a' → c.Ahead c' →
      (f a c).answer.Alike Q (f' a' c').answer) :
    (x.bind f).answer.Alike Q (x'.bind f').answer := by
  rcases hx : x.answer with _ | ⟨a, c⟩ <;> rcases hx' : x'.answer with _ | ⟨a', c'⟩ <;>
    rw [hx, hx'] at h
  · rw [bind_of_none hx, bind_of_none hx']
    exact .none
  · cases h
  · cases h
  · cases h with
    | some h =>
      rw [bind_of_some hx, bind_of_some hx']
      exact hf a a' c c' hx h.1 h.2

theorem alike_orElse {y y' : Reading α} (h : x.answer.Alike P x'.answer)
    (hy : y.answer.Alike P y'.answer) : (x.orElse y).answer.Alike P (x'.orElse y').answer := by
  rcases hx : x.answer with _ | a <;> rcases hx' : x'.answer with _ | a' <;> rw [hx, hx'] at h
  · rw [orElse_of_none hx, orElse_of_none hx']
    exact hy
  · cases h
  · cases h
  · rw [orElse_of_some hx, orElse_of_some hx', hx, hx']
    exact h

end Reading

namespace Layers

open Reading

variable {R : Type} {Result : R → Type} {grammar : (r : R) → Peg Result (Result r)}
  (L : Layers grammar) {S : (r : R) → Result r → Result r → Prop}
  (hrules : ∀ r, (grammar r).Respects S (S r)) {α : Type}

include hrules

/-- By induction along the first reading. -/
theorem alike_of_respects {p : Peg Result α} (hreg : p.regular = true) {Q : α → α → Prop}
    (hp : p.Respects S Q) {c c' : Cursor} (hc : c.Ahead c') :
    (L.reading p c).answer.Alike Q (L.reading p c').answer := by
  suffices hall : ∀ Q : α → α → Prop, p.Respects S Q → ∀ c', c.Ahead c' →
      (L.reading p c).answer.Alike Q (L.reading p c').answer from hall Q hp c' hc
  refine L.induct (motive := fun {α} p c => ∀ Q : α → α → Prop, p.Respects S Q → ∀ c', c.Ahead c' →
    (L.reading p c).answer.Alike Q (L.reading p c').answer)
    ?token ?oneOf ?seq ?choice ?map ?filterMap ?opt ?many ?spanned ?rule p hreg c
  case token =>
    intro t c Q hp c' hc
    rw [L.reading_token, L.reading_token, ofNext_answer, ofNext_answer]
    exact (hc.next? t).mono hp
  case oneOf =>
    intro _ table c hne Q hp c' hc
    clear hne
    rw [reading, reading, Peg.read, Peg.read, ofNext_answer, ofNext_answer]
    induction table with
    | nil => exact .none
    | cons e table ih =>
      obtain ⟨he, htable⟩ := List.forall_mem_cons.1 hp
      rw [List.findSome?_cons, List.findSome?_cons]
      have hnext := hc.next? e.1
      revert hnext
      rcases c.next? e.1 with _ | x <;> rcases c'.next? e.1 with _ | x' <;> rintro ⟨⟩
      · exact ih htable
      · rename_i h
        exact .some ⟨he, h.2⟩
  case seq =>
    rintro _ _ p q c ihp ihq Q ⟨P, P', hp, hq, hQ⟩ c' hc
    rw [L.reading_seq, L.reading_seq]
    refine alike_bind (ihp P hp c' hc) fun a a' c₁ c₁' ha haa' hc₁ => ?_
    refine alike_bind (ihq a c₁ ha P' hq c₁' hc₁) fun b b' c₂ c₂' _ hbb' hc₂ => ?_
    exact .some ⟨hQ a a' b b' haa' hbb', hc₂⟩
  case choice =>
    rintro _ p q c ihp ihq Q ⟨hp, hq⟩ c' hc
    rw [L.reading_choice, L.reading_choice]
    exact alike_orElse (ihp Q hp c' hc) (ihq Q hq c' hc)
  case map =>
    rintro _ _ f p c ih Q ⟨P, hp, hf⟩ c' hc
    exact alike_bind (ih P hp c' hc) fun a a' c₁ c₁' _ ha hc₁ => .some ⟨hf ha, hc₁⟩
  case filterMap =>
    rintro _ _ f p c ih Q ⟨P, hp, hf⟩ c' hc
    refine alike_bind (ih P hp c' hc) fun a a' c₁ c₁' _ ha hc₁ => ?_
    have hfa := hf ha
    revert hfa
    rw [ofOption, ofOption]
    rcases f a with _ | b <;> rcases f a' with _ | b' <;> rintro ⟨⟩
    · exact .none
    · rename_i h
      exact .some ⟨h, hc₁⟩
  case opt =>
    rintro _ p c ih Q ⟨P, hp, hQ⟩ c' hc
    rw [L.reading_opt, L.reading_opt]
    refine alike_orElse (alike_bind (ih P hp c' hc) fun a a' c₁ c₁' _ ha hc₁ => ?_) ?_
    · exact .some ⟨hQ _ _ (.some ha), hc₁⟩
    · exact .some ⟨hQ _ _ .none, hc⟩
  case many =>
    rintro _ p c hnull ih ihmany Q ⟨P, hp, hQ⟩ c' hc
    have hlist : (L.reading (.many p) c).answer.Alike (List.Forall₂ P)
        (L.reading (.many p) c').answer := by
      rw [L.reading_many p c hnull, L.reading_many p c' hnull]
      refine alike_orElse (alike_bind (ih P hp c' hc) fun a a' c₁ c₁' ha haa' hc₁ => ?_) ?_
      · refine alike_bind (ihmany a c₁ ha _ (.many hp) c₁' hc₁) fun as as' c₂ c₂' _ has hc₂ => ?_
        exact .some ⟨.cons haa' has, hc₂⟩
      · exact .some ⟨.nil, hc⟩
    exact hlist.mono hQ
  case spanned =>
    rintro _ p c _ ih Q ⟨P, hp, hQ⟩ c' hc
    exact alike_bind (ih P hp c' hc) fun a a' c₁ c₁' _ ha hc₁ => .some ⟨hQ _ _ _ _ ha, hc₁⟩
  case rule =>
    intro r c ih Q hp c' hc
    rw [L.reading_rule, L.reading_rule]
    exact (ih (S r) (hrules r) c' hc).mono hp

end Layers

end ModelLang
