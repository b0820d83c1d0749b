import Mathlib.Data.List.Induction
import Mathlib.Data.List.Nodup
import Mathlib.Data.List.Pairwise
import ModelLang.Proofs.Run

/-!
# ModelLang.Proofs.Families

The declared symbols of a session. No name is declared twice, keys are in their domains, and an
indexed variable has exactly one member for each tuple of its index set. Members are numbered in
ascending order, within a family and from family to family, so that a name with an index stands for
a variable that no other name or index stands for. Where a symbol comes from is kept as well: it
stays as the statement declared it that was the first to declare its name (`Session.origin`).
-/

namespace ModelLang

/-! ## Lookup -/

/-- A new symbol leaves the others as they are. -/
theorem Symbols.get?_append (symbols : Symbols) (x : String) (s : Symbol) (y : String) :
    Symbols.get? (symbols ++ [(x, s)]) y =
      (symbols.get? y).or (if x = y then some s else none) := by
  rw [get?, get?, List.find?_append, Option.map_or]
  by_cases h : x = y <;> simp [h]

theorem Context.lookup_ofSymbols (symbols : Symbols) (tables : Table.Source) (x : String)
    (t : Tuple) : (Context.ofSymbols symbols tables).lookup x t =
      match symbols.get x with
      | .ok s => s.lookup x t
      | .error e => .error e := by
  cases symbols <;> rfl

theorem Family.get_ok_iff {α : Type} {f : Family α} (hf : f.fallback = none) (name : String)
    (index : Tuple) (a : α) : f.get name index = .ok a ↔ f.entry? index = some a := by
  unfold Family.get
  rw [hf, Option.or_none]
  cases f.entry? index <;> simp

namespace Family.Numbered

variable {k n : Nat} {f : Family VarId}

theorem mono {k' n' : Nat} (h : f.Numbered k n) (hk : k' ≤ k) (hn : n ≤ n') :
    f.Numbered k' n' where
  keys := h.keys
  fallback := h.fallback
  range e he := ⟨hk.trans (h.range e he).1, (h.range e he).2.trans_le hn⟩
  ascending := h.ascending

/-- Different indices stand for different members. -/
theorem entry_inj (h : f.Numbered k n) {t u : Tuple} {v : VarId} (ht : (t, v) ∈ f.entries)
    (hu : (u, v) ∈ f.entries) : t = u := by
  have hids : (f.entries.map Prod.snd).Nodup := h.ascending.imp fun hlt => hlt.ne
  have := List.inj_on_of_nodup_map hids ht hu rfl
  exact congrArg Prod.fst this

end Family.Numbered

/-! ## The invariant -/

/-- The members of one family come before those of the other. -/
def Symbol.Before (a b : Symbol) : Prop :=
  ∀ f g, a = .var f → b = .var g → ∀ d ∈ f.entries, ∀ e ∈ g.entries, d.2 < e.2

/-- What holds of the declared symbols at any time. -/
structure Session.Consistent (s : Session) : Prop where
  names : (s.symbols.map Prod.fst).Nodup
  keysIn : ∀ e ∈ s.symbols, e.2.KeysIn
  numbered : ∀ x f, (x, Symbol.var f) ∈ s.symbols → f.Numbered 0 s.work.size
  /-- The members of a family come before those of the families declared after it. -/
  older : s.symbols.Pairwise fun a b => a.2.Before b.2

namespace Session

variable {s s' : Session} {d : Statement}

theorem consistent_start (random : Random) : (start random).Consistent :=
  ⟨.nil, nofun, nofun, .nil⟩

theorem Consistent.below (h : s.Consistent) : s.Below := by
  rintro ⟨x, symbol⟩ he
  cases symbol with
  | var f =>
    have hn := h.numbered x f he
    exact ⟨fun e he => (hn.range e he).2, fun a ha => by simp [hn.fallback] at ha⟩
  | set _ | number _ | string _ | define _ => trivial

theorem Change.consistent (h : Change d s s') (hs : s.Consistent) : s'.Consistent := by
  cases h with
  | work h =>
    have hle := h.size_le
    exact ⟨hs.names, hs.keysIn, fun x f hf => (hs.numbered x f hf).mono (le_refl _) hle, hs.older⟩
  | @declare x symbol symbols hd h hf =>
    obtain ⟨hnew, rfl⟩ := Symbols.declare_ok h
    refine ⟨?_, ?_, ?_, ?_⟩
    · rw [Symbols.get?, find?_key_eq_none] at hnew
      rw [List.map_append, List.nodup_append]
      refine ⟨hs.names, List.pairwise_singleton _ _, ?_⟩
      intro a ha b hb hab
      obtain rfl := List.mem_singleton.1 hb
      exact hnew (hab ▸ ha)
    · exact List.forall_mem_append.2 ⟨hs.keysIn, List.forall_mem_singleton.2 hf.keysIn⟩
    · intro y f hy
      rcases List.mem_append.1 hy with hy | hy
      · exact hs.numbered y f hy
      · cases List.mem_singleton.1 hy
        obtain ⟨k, _, hn⟩ := hf.numbered f rfl
        exact hn.mono (Nat.zero_le k) (le_refl _)
    · rw [List.pairwise_append]
      refine ⟨hs.older, List.pairwise_singleton _ _, ?_⟩
      rintro ⟨y, _⟩ hy b hb f g rfl hg e he e' he'
      obtain rfl := List.mem_singleton.1 hb
      obtain ⟨k, hk, hn⟩ := hf.numbered g hg
      exact ((hk _ hy).entries e he).trans_le (hn.range e' he').1
  | print line => exact ⟨hs.names, hs.keysIn, hs.numbered, hs.older⟩
  | check => exact ⟨hs.names, hs.keysIn, hs.numbered, hs.older⟩

theorem after_consistent (random : Random) (history : List (Table.Source × Statement)) :
    (after random history).Consistent :=
  after_induction (fun _ h => h.below) (fun _ _ _ h => h.consistent) random history
    (consistent_start random)

/-! ## What names and indices stand for -/

section Lookup

variable (hs : s.Consistent) {x y : String} {f g : Family VarId}

include hs

/-- A member of two families is the same member of the same family. -/
theorem Consistent.member_inj (hf : (x, Symbol.var f) ∈ s.symbols)
    (hg : (y, Symbol.var g) ∈ s.symbols) {t u : Tuple} {v : VarId} (ht : (t, v) ∈ f.entries)
    (hu : (u, v) ∈ g.entries) : x = y ∧ t = u := by
  have hxy : (x, Symbol.var f) = (y, Symbol.var g) := by
    by_contra hne
    have hor : s.symbols.Pairwise fun a b => a.2.Before b.2 ∨ b.2.Before a.2 :=
      hs.older.imp .inl
    have : Std.Symm fun a b : String × Symbol => a.2.Before b.2 ∨ b.2.Before a.2 :=
      ⟨fun _ _ h => h.symm⟩
    rcases hor.forall hf hg hne with h | h
    · exact (h f g rfl rfl _ ht _ hu).ne rfl
    · exact (h g f rfl rfl _ hu _ ht).ne rfl
  cases hxy
  exact ⟨rfl, (hs.numbered x f hf).entry_inj ht hu⟩

/-- Exactly the tuples of the index set have a member. -/
theorem Consistent.lookup_iff (tables : Table.Source) (hf : (x, Symbol.var f) ∈ s.symbols)
    {S : TupleSet} (hS : f.indexSet = .ok S) (t : Tuple) :
    (∃ v, (Context.ofSymbols s.symbols tables).lookup x t = .ok v) ↔ t ∈ S := by
  have hn := hs.numbered x f hf
  obtain ⟨S', hS', hk⟩ := hn.keys
  cases hS.symm.trans hS'
  have hget : s.symbols.get? x = some (.var f) := find?_key_of_mem hs.names hf
  have hlookup : (Context.ofSymbols s.symbols tables).lookup x t =
      (f.get x t).map fun v => .term (.ofVar v) := by
    rw [Context.lookup_ofSymbols, Symbols.get, hget]
    rfl
  rw [hlookup, ← TupleSet.mem_tuples, ← hk, ← exists_find?_key]
  constructor
  · rintro ⟨_, h⟩
    obtain ⟨v, hv, _⟩ := (map_eq_ok _ _ _).1 h
    exact ⟨v, (Family.get_ok_iff hn.fallback x t v).1 hv⟩
  · rintro ⟨v, hv⟩
    exact ⟨_, (map_eq_ok _ _ _).2 ⟨v, (Family.get_ok_iff hn.fallback x t v).2 hv, rfl⟩⟩

/-- Only members of families are variables. -/
theorem Consistent.lookup_variable {tables : Table.Source} {t : Tuple} {v : VarId}
    (h : (Context.ofSymbols s.symbols tables).lookup x t = .ok (.term (.ofVar v))) :
    ∃ f, (x, Symbol.var f) ∈ s.symbols ∧ (t, v) ∈ f.entries := by
  rw [Context.lookup_ofSymbols] at h
  split at h
  · rename_i symbol hx
    have hmem := Symbols.mem_of_get hx
    cases symbol with
    | var f =>
      obtain ⟨u, hu, hterm⟩ := (map_eq_ok _ _ _).1 h
      have huv : u = v := by simpa [Term.ofVar, Term.ofCoef, Coefs.consNonzero] using hterm
      have he := (Family.get_ok_iff (hs.numbered x f hmem).fallback x t u).1 hu
      exact ⟨f, hmem, huv ▸ mem_of_find?_key he⟩
    | set f | number f | string f =>
      obtain ⟨_, _, hv⟩ := (map_eq_ok _ _ _).1 h
      cases hv
    | define d => cases h
  · cases h

end Lookup

/-! ## Where symbols come from -/

/-- A declared symbol stays as it is. -/
theorem Change.get?_of_some (h : Change d s s') {x : String} {symbol : Symbol}
    (hx : s.symbols.get? x = some symbol) : s'.symbols.get? x = some symbol := by
  cases h with
  | declare hd h hf =>
    obtain ⟨_, rfl⟩ := Symbols.declare_ok h
    show Symbols.get? (s.symbols ++ _) x = _
    rw [Symbols.get?_append, hx, Option.some_or]
  | work | print | check => exact hx

/-- A symbol that is there after some changes was there before or is the one that is declared. -/
theorem Changes.get?_eq_some (h : Changes d s s') {x : String} {symbol : Symbol}
    (hx : s'.symbols.get? x = some symbol) :
    s.symbols.get? x = some symbol ∨
      s.symbols.get? x = none ∧ d.declared? = some x ∧ (d.IsIndexed → symbol.KeysOn) := by
  induction h with
  | refl => exact .inl hx
  | @tail s₁ s₂ h hstep ih =>
    cases hstep with
    | work | print | check => exact ih hx
    | @declare y new symbols hd hnew hf =>
      obtain ⟨hy, rfl⟩ := Symbols.declare_ok hnew
      change Symbols.get? (s₁.symbols ++ _) x = _ at hx
      rw [Symbols.get?_append] at hx
      rcases Option.or_eq_some_iff.1 hx with hold | ⟨hnone, hsome⟩
      · exact ih hold
      · split at hsome
        · rename_i hyx
          subst hyx
          cases hsome
          refine .inr ⟨?_, hd, hf.keysOn⟩
          cases hs : s.symbols.get? y with
          | none => rfl
          | some old =>
            have hold := preserved_of_changes (I := fun s => s.symbols.get? y = some old)
              (fun _ _ h => h.get?_of_some) h hs
            rw [hold] at hnone
            cases hnone
        · cases hsome

/-- The statement at this place of the history is the one that declares the symbol. -/
structure DeclaredBy (random : Random) (before : List (Table.Source × Statement))
    (e : Table.Source × Statement) (x : String) (symbol : Symbol) : Prop where
  names : e.2.innermost.declared? = some x
  new : (after random before).symbols.get? x = none
  declared : (after random (before ++ [e])).symbols.get? x = some symbol
  keysOn : e.2.innermost.IsIndexed → symbol.KeysOn

/-- Every symbol comes from a statement, and is still as this statement declared it. -/
theorem exists_declaredBy (random : Random) (history : List (Table.Source × Statement)) {x : String}
    {symbol : Symbol} (hx : (after random history).symbols.get? x = some symbol) :
    ∃ before e rest, history = before ++ e :: rest ∧ DeclaredBy random before e x symbol := by
  induction history using List.reverseRecOn with
  | nil => cases hx
  | append_singleton history e ih =>
    have hstep : (after random (history ++ [e])) = (e.2.execute e.1 (after random history)).2 :=
      runAll_append _ _ _
    have hchanges := execute_changes e.1 e.2 (after_below random history)
    rw [← hstep] at hchanges
    rcases hchanges.get?_eq_some hx with hold | ⟨hnew, hd, hon⟩
    · obtain ⟨before, e', rest, rfl, hdecl⟩ := ih hold
      exact ⟨before, e', rest ++ [e], by simp, hdecl⟩
    · exact ⟨history, e, [], rfl, hd, hnew, hx, hon⟩

/-- After any statements, each of which may have failed: no name is declared twice; keys are in
their domains; a symbol from an indexed expression, or an indexed variable, has exactly its domain
as keys, in the same order; the members of a family are numbered in ascending order; exactly the
tuples of its index set can be looked up; and a variable of the model is the member of one family at
one index only. -/
theorem after_symbols (random : Random) (history : List (Table.Source × Statement))
    (tables : Table.Source) :
    ((after random history).symbols.map Prod.fst).Nodup ∧
      (∀ x symbol, (x, symbol) ∈ (after random history).symbols →
        symbol.KeysIn ∧
          ∃ before e rest, history = before ++ e :: rest ∧ DeclaredBy random before e x symbol) ∧
      (∀ x f, (x, Symbol.var f) ∈ (after random history).symbols →
        (f.entries.map Prod.snd).Pairwise (· < ·) ∧
          ∃ S, f.indexSet = .ok S ∧ f.entries.map Prod.fst = S.tuples ∧
            ∀ t,
              (∃ v, (Context.ofSymbols (after random history).symbols tables).lookup x t = .ok v) ↔
                t ∈ S) ∧
      (∀ x y f g, (x, Symbol.var f) ∈ (after random history).symbols →
        (y, Symbol.var g) ∈ (after random history).symbols →
        ∀ d ∈ f.entries, ∀ e ∈ g.entries, d.2 = e.2 → x = y ∧ d.1 = e.1) ∧
      ∀ x y t u v,
        (Context.ofSymbols (after random history).symbols tables).lookup x t =
          .ok (.term (.ofVar v)) →
        (Context.ofSymbols (after random history).symbols tables).lookup y u =
          .ok (.term (.ofVar v)) →
        x = y ∧ t = u := by
  have hs := after_consistent random history
  refine ⟨hs.names, fun x symbol hx => ⟨hs.keysIn _ hx, ?_⟩, fun x f hf => ?_, ?_, ?_⟩
  · exact exists_declaredBy random history (find?_key_of_mem hs.names hx)
  · have hn := hs.numbered x f hf
    obtain ⟨S, hS, hk⟩ := hn.keys
    exact ⟨hn.ascending, S, hS, hk, hs.lookup_iff tables hf hS⟩
  · rintro x y f g hf hg ⟨t, v⟩ ht ⟨u, _⟩ hu rfl
    exact hs.member_inj hf hg ht hu
  · intro x y t u v hx hy
    obtain ⟨f, hf, ht⟩ := hs.lookup_variable hx
    obtain ⟨g, hg, hu⟩ := hs.lookup_variable hy
    exact hs.member_inj hf hg ht hu

end Session

end ModelLang
