import Mathlib.Data.List.Basic
import ModelLang.Text.Erasure

/-!
# ModelLang.Proofs.Backspace

Typed lines of ASCII. None of their characters attaches to the one before, except that a line feed
belongs to a carriage return before it; so each is a cluster of its own (`clusters_ascii`), and a
backspace removes the one character before it (`erase_ascii`). Nothing of the tables of characters
has to be known for this but that they start beyond ASCII (`Cluster.Kind.classes_above`).
-/

namespace ModelLang.Text

/-! ## Classes beyond a code point -/

namespace CharClass

/-- Membership does not change up to `n`, so that no character up to there is a member. -/
def Above (n : Nat) (a : CharClass) : Prop :=
  ∀ b ∈ a.boundaries, n < b

variable {n : Nat} {a b : CharClass}

instance : Decidable (a.Above n) := inferInstanceAs (Decidable (∀ b ∈ a.boundaries, n < b))

theorem contains_of_above {c : Char} (h : a.Above n) (hc : c.toNat ≤ n) : a.contains c = false := by
  obtain ⟨bs⟩ := a
  cases bs with
  | nil => rfl
  | cons b bs => exact if_pos (Nat.lt_of_le_of_lt hc (h b List.mem_cons_self))

theorem mem_mark {p x : Nat} {before after : Bool} {rest : List Nat}
    (h : x ∈ mark p before after rest) : x = p ∨ x ∈ rest := by
  unfold mark at h
  split at h
  · exact .inr h
  · exact List.mem_cons.1 h

/-- No boundary is new in a merge. -/
theorem mem_merge {f : Bool → Bool → Bool} {p q : Bool} {xs ys : List Nat} {x : Nat}
    (h : x ∈ merge f p q xs ys) : x ∈ xs ∨ x ∈ ys := by
  induction p, q, xs, ys using merge.induct with
  | case1 =>
    rw [merge] at h
    exact .inl h
  | case2 p q y xs ih =>
    rw [merge] at h
    rcases mem_mark h with rfl | h
    · exact .inl List.mem_cons_self
    · exact (ih h).imp_left (List.mem_cons_of_mem y)
  | case3 p q y ys ih =>
    rw [merge] at h
    rcases mem_mark h with rfl | h
    · exact .inr List.mem_cons_self
    · exact (ih h).imp_right (List.mem_cons_of_mem y)
  | case4 p q y xs z ys hlt ih =>
    rw [merge, if_pos hlt] at h
    rcases mem_mark h with rfl | h
    · exact .inl List.mem_cons_self
    · exact (ih h).imp_left (List.mem_cons_of_mem y)
  | case5 p q y xs z ys hge hlt ih =>
    rw [merge, if_neg hge, if_pos hlt] at h
    rcases mem_mark h with rfl | h
    · exact .inr List.mem_cons_self
    · exact (ih h).imp_right (List.mem_cons_of_mem z)
  | case6 p q y xs z ys hge hge' ih =>
    rw [merge, if_neg hge, if_neg hge'] at h
    rcases mem_mark h with rfl | h
    · exact .inl List.mem_cons_self
    · exact (ih h).imp (List.mem_cons_of_mem y) (List.mem_cons_of_mem z)

theorem Above.union (ha : a.Above n) (hb : b.Above n) : (a.union b).Above n :=
  fun x hx => (mem_merge hx).elim (ha x) (hb x)

theorem Above.without (ha : a.Above n) (hb : b.Above n) : (a.without b).Above n :=
  fun x hx => (mem_merge hx).elim (ha x) (hb x)

theorem Above.unionAll {classes : List CharClass} (h : ∀ a ∈ classes, a.Above n) :
    (CharClass.unionAll classes).Above n := by
  induction classes with
  | nil => exact List.forall_mem_nil _
  | cons a classes ih =>
    obtain ⟨ha, hclasses⟩ := List.forall_mem_cons.1 h
    exact ha.union (ih hclasses)

/-! ### The classes of clusters -/

namespace GraphemeBreak

theorem extend_above : Above 0x7f extend := by
  refine .union (.unionAll ?_) (by decide +kernel)
  decide +kernel

theorem prepend_above : Above 0x7f prepend :=
  .union (by decide +kernel) (by decide +kernel)

theorem spacing_above : Above 0x7f spacing := by
  refine .without (.union (.without ?_ extend_above) ?_) ?_ <;> decide +kernel

theorem openSyllable_above : Above 0x7f openSyllable := by
  intro b hb
  obtain ⟨i, -, hb⟩ := List.mem_flatMap.1 hb
  simp only [List.mem_cons, List.not_mem_nil, or_false] at hb
  omega

theorem closedSyllable_above : Above 0x7f closedSyllable :=
  .without (by decide +kernel) openSyllable_above

end GraphemeBreak

end CharClass

/-! ## Clusters -/

namespace Cluster

/-- Characters that are one byte each, without the one that a line feed attaches to. -/
def IsPlain (c : Char) : Prop :=
  c.toNat ≤ 0x7f ∧ c ≠ '\r'

instance (c : Char) : Decidable (IsPlain c) := inferInstanceAs (Decidable (_ ∧ _))

namespace Kind

open CharClass in
/-- Among the classes that decide kinds only that of controls reaches into ASCII. -/
theorem classes_above : ∀ e ∈ classes, e.2 ≠ .standalone → e.1.Above 0x7f := by
  simp only [classes, List.forall_mem_cons]
  refine ⟨fun _ => GraphemeBreak.extend_above, ?flag, fun _ => GraphemeBreak.prepend_above,
    fun h => absurd rfl h, fun _ => GraphemeBreak.spacing_above, ?leading, ?vowel, ?trailing,
    fun _ => GraphemeBreak.openSyllable_above, fun _ => GraphemeBreak.closedSyllable_above,
    List.forall_mem_nil _⟩
  case flag | leading | vowel | trailing => decide

/-- A kind that attaches to nothing, and nothing to it. -/
def IsLoose (k : Kind) : Prop :=
  k = .lineFeed ∨ k = .standalone ∨ k = .other

theorem ofChar_isLoose {c : Char} (h : IsPlain c) : (ofChar c).IsLoose := by
  have hjoiner : c ≠ '\u200d' := by
    rintro rfl
    exact absurd h.1 (by decide)
  rw [ofChar, if_neg h.2]
  by_cases hline : c = '\n'
  · rw [if_pos hline]
    exact .inl rfl
  · rw [if_neg hline, if_neg hjoiner]
    cases hfind : classes.find? fun e => e.1.contains c with
    | none => exact .inr (.inr rfl)
    | some e =>
      refine .inr (.inl ?_)
      by_contra hne
      have hnone := CharClass.contains_of_above
        (classes_above e (List.mem_of_find?_eq_some hfind) hne) h.1
      exact absurd (List.find?_some hfind) (by rw [hnone]; exact Bool.false_ne_true)

end Kind

namespace Edge

variable {e : Edge} {c : Char}

/-- Nothing before the edge waits for what comes next. -/
structure IsPlain (e : Edge) : Prop where
  kind : e.kind.IsLoose
  oddFlags : e.oddFlags = false
  picture : e.picture = .none
  conjunct : e.conjunct = .none

theorem isPlain_start : start.IsPlain := ⟨.inr (.inl rfl), rfl, rfl, rfl⟩

theorem IsPlain.next (he : e.IsPlain) (hc : Cluster.IsPlain c) : (e.next c).IsPlain := by
  have hkind := Kind.ofChar_isLoose hc
  have hpicture : CharClass.pictographic.contains c = false :=
    CharClass.contains_of_above (by decide +kernel : CharClass.pictographic.Above 0x7f) hc.1
  have hconsonant : CharClass.conjunctConsonant.contains c = false :=
    CharClass.contains_of_above (by decide +kernel : CharClass.conjunctConsonant.Above 0x7f) hc.1
  refine ⟨hkind, ?_, ?_, ?_⟩
  · rcases hkind with h | h | h <;> simp [Edge.next, h]
  · simp [Edge.next, hpicture, he.picture]
  · simp [Edge.next, hconsonant, he.conjunct]

theorem attaches_plain (he : e.IsPlain) (hc : Cluster.IsPlain c) : e.attaches c = false := by
  obtain ⟨hekind, hodd, hpicture, hconjunct⟩ := he
  rcases hekind with he | he | he <;> rcases Kind.ofChar_isLoose hc with h | h | h <;>
    simp [attaches, he, h, hodd, hpicture, hconjunct, Kind.isApart, Kind.inSyllable]

end Edge

theorem clustersFrom_plain {e : Edge} (he : e.IsPlain) (c : Char) {text : List Char}
    (h : ∀ c ∈ text, IsPlain c) :
    clustersFrom e [c] text = [c] :: text.map fun c => [c] := by
  induction text generalizing e c with
  | nil => rfl
  | cons d text ih =>
    obtain ⟨hd, h⟩ := List.forall_mem_cons.1 h
    rw [clustersFrom, Edge.attaches_plain he hd, Bool.false_or, List.isEmpty_cons,
      if_neg Bool.false_ne_true]
    exact congrArg _ (ih (he.next hd) d h)

end Cluster

/-- Each character is a cluster. -/
theorem clusters_ascii {text : List Char} (h : ∀ c ∈ text, Cluster.IsPlain c) :
    clusters text = text.map fun c => [c] := by
  cases text with
  | nil => rfl
  | cons c text =>
    obtain ⟨hc, h⟩ := List.forall_mem_cons.1 h
    rw [clusters, Cluster.clustersFrom, List.isEmpty_nil, Bool.or_true, if_pos rfl]
    exact Cluster.clustersFrom_plain (Cluster.Edge.isPlain_start.next hc) c h

/-! ## Erasure -/

namespace Erasure

/-- One more character, or one less for a backspace; the last character is in front. -/
def strike (text : List Char) (c : Char) : List Char :=
  if c = '\x08' then text.tail else c :: text

theorem utf8Size_plain {c : Char} (h : Cluster.IsPlain c) : c.utf8Size = 1 := by
  have hval : c.val ≤ 0x7f := h.1
  exact if_pos hval

theorem dropBytes_zero (text : List Char) : dropBytes 0 text = text := by
  cases text with
  | nil => rfl
  | cons c text => rw [dropBytes, if_pos c.utf8Size_pos]

/-- A line of ASCII, whose clusters have one byte each. -/
def Typed.ofPlain (text : List Char) : Typed :=
  ⟨text, List.replicate text.length 1⟩

theorem type_plain {text : List Char} {c : Char} (h : ∀ d ∈ text, Cluster.IsPlain d)
    (hc : Cluster.IsPlain c) :
    (Typed.ofPlain text).type [c] = .ofPlain (strike text c) := by
  rw [Typed.type, strike]
  by_cases hback : c = '\x08'
  · rw [if_pos (congrArg (fun c => [c]) hback), if_pos hback]
    cases text with
    | nil => rfl
    | cons d text =>
      have hdrop : dropBytes 1 (d :: text) = text := by
        rw [dropBytes, utf8Size_plain (h d List.mem_cons_self), if_neg (Nat.lt_irrefl 1)]
        exact dropBytes_zero text
      exact congrArg (Typed.mk · _) hdrop
  · have hbytes : utf8Length [c] % 256 = 1 := by
      rw [utf8Length_cons, utf8Length_nil, utf8Size_plain hc]
    rw [if_neg fun he => hback (List.singleton_inj.1 he), if_neg hback, hbytes]
    rfl

theorem strike_plain {text : List Char} {c : Char} (h : ∀ d ∈ text, Cluster.IsPlain d)
    (hc : Cluster.IsPlain c) : ∀ d ∈ strike text c, Cluster.IsPlain d := by
  unfold strike
  split
  · exact fun d hd => h d (List.mem_of_mem_tail hd)
  · exact List.forall_mem_cons.2 ⟨hc, h⟩

theorem foldl_type_plain {line text : List Char} (hline : ∀ c ∈ line, Cluster.IsPlain c)
    (htext : ∀ c ∈ text, Cluster.IsPlain c) :
    (line.map fun c => [c]).foldl Typed.type (.ofPlain text) =
      .ofPlain (line.foldl strike text) := by
  induction line generalizing text with
  | nil => rfl
  | cons c line ih =>
    obtain ⟨hc, hline⟩ := List.forall_mem_cons.1 hline
    rw [List.map_cons, List.foldl_cons, List.foldl_cons, type_plain htext hc]
    exact ih hline (strike_plain htext hc)

end Erasure

/-- In a line of ASCII each backspace removes one character. -/
theorem erase_ascii {line : List Char} (h : ∀ c ∈ line, Cluster.IsPlain c) :
    erase line = (line.foldl Erasure.strike []).reverse := by
  rw [erase, clusters_ascii h]
  exact congrArg (·.text.reverse) (Erasure.foldl_type_plain h (List.forall_mem_nil _))

end ModelLang.Text
