import ModelLang.Proofs.Choices
import ModelLang.Proofs.Families

/-!
# ModelLang.Proofs.Listing

Lists of subsets by position. Choices of any size are found where their places stand as the digits
of a binary number (`getElem?_chooseAny`), and they are the combinations of all sizes in another
order (`powerset_perm`). A declaration gives the sets of such a list the numbers from one on as
indices (`SetDecl.Lists.run`, `numbers_of_declared`).
-/

namespace ModelLang

/-! ## Positions -/

section Bits

variable {α β : Type}

/-- Of two results for each element, one stands at an even position and one behind it. -/
theorem getElem?_flatMap_pair (f g : α → β) (as : List α) (m : Nat) :
    (as.flatMap fun a => [f a, g a])[m]? = as[m / 2]?.map (if m % 2 = 0 then f else g) := by
  induction as generalizing m with
  | nil => rfl
  | cons a rest ih =>
    match m with
    | 0 => rfl
    | 1 => rfl
    | m + 2 =>
      have hdiv : (m + 2) / 2 = m / 2 + 1 := by omega
      have hmod : (m + 2) % 2 = m % 2 := by omega
      rw [hdiv, hmod, List.getElem?_cons_succ]
      exact ih m

variable [BEq α] [LawfulBEq α] {as : List α}

/-- The lowest digit decides on the first element, the others on the rest. -/
theorem getElem?_chooseAny (hn : as.Nodup) {m : Nat} (hm : m < 2 ^ as.length) :
    (chooseAny as)[m]? = some (as.filter fun a => m.testBit (as.idxOf a)) := by
  induction as generalizing m with
  | nil =>
    obtain rfl : m = 0 := by simpa using hm
    rfl
  | cons a rest ih =>
    obtain ⟨ha, hrest⟩ := List.nodup_cons.1 hn
    have hhalf : m / 2 < 2 ^ rest.length := by
      rw [List.length_cons, Nat.pow_succ] at hm
      omega
    have hdigits : (rest.filter fun b => m.testBit ((a :: rest).idxOf b)) =
        rest.filter fun b => (m / 2).testBit (rest.idxOf b) := by
      refine List.filter_congr fun b hb => ?_
      have hab : a ≠ b := fun h => ha (h ▸ hb)
      rw [List.idxOf_cons_ne _ hab, Nat.succ_eq_add_one, Nat.testBit_succ]
    rw [chooseAny, getElem?_flatMap_pair, ih hrest hhalf, List.filter_cons, List.idxOf_cons_self,
      Nat.testBit_zero, hdigits]
    by_cases hodd : m % 2 = 1
    · have heven : m % 2 ≠ 0 := by omega
      simp [hodd]
    · have heven : m % 2 = 0 := by omega
      simp [heven]

end Bits

namespace TupleSet

/-- A list of all subsets of a set, each of them once and at the position that tells its members. -/
structure ListsAll (s : TupleSet) (sets : List TupleSet) : Prop where
  length : sets.length = 2 ^ s.size
  once : (sets.map members).Nodup
  mem : ∀ F, F ∈ sets.map members ↔ F ⊆ s.members
  bits : ∀ (m : Nat) (p : TupleSet), sets[m]? = some p →
    p.tuples = s.tuples.filter fun t => m.testBit (s.place t)

variable {s : TupleSet} {sets others : List TupleSet}

theorem powerset_eq (h : s.size ≤ maxPowersetBase) : ∃ sets, s.powerset = .ok sets :=
  ⟨_, if_neg (Nat.not_lt.2 h)⟩

theorem powerset_length (h : s.powerset = .ok sets) : sets.length = 2 ^ s.size := by
  rw [← List.length_map tuples, powerset_tuples h, List.length_sublists]
  rfl

theorem powerset_bits (h : s.powerset = .ok sets) {m : Nat} {p : TupleSet}
    (hp : sets[m]? = some p) :
    p.tuples = s.tuples.filter fun t => m.testBit (s.place t) := by
  have hm : m < 2 ^ s.tuples.length := by
    obtain ⟨hm, _⟩ := List.getElem?_eq_some_iff.1 hp
    exact hm.trans_eq (powerset_length h)
  have hget : (sets.map tuples)[m]? = some p.tuples := by
    rw [List.getElem?_map, hp]
    rfl
  rw [powerset_tuples h, ← chooseAny_eq, getElem?_chooseAny s.nodup hm] at hget
  rw [← Option.some.inj hget]
  rfl

theorem listsAll_powerset (h : s.powerset = .ok sets) : s.ListsAll sets where
  length := powerset_length h
  once := (powerset_members h).1
  mem := (powerset_members h).2
  bits _ _ := powerset_bits h

/-- All subsets are those of all sizes. -/
theorem powerset_perm (h : s.powerset = .ok sets) (ho : s.subsets 0 s.size = .ok others) :
    sets.Perm others := by
  have hinj : Function.Injective tuples := fun _ _ => eq_of_tuples
  have hmem (picked : List Tuple) : picked ∈ sets.map tuples ↔ picked ∈ others.map tuples := by
    rw [powerset_tuples h, List.mem_sublists, mem_subsets_tuples ho]
    constructor
    · intro hsub
      exact ⟨hsub, Nat.zero_le _, hsub.length_le⟩
    · intro hsub
      exact hsub.1
  rw [← List.map_perm_map_iff hinj]
  exact (List.perm_ext_iff_of_nodup (nodup_powerset_tuples h) (nodup_subsets_tuples ho)).2 hmem

/-- The numbers from one to `n`, as indices. -/
def indices (n : Nat) : List Tuple :=
  (List.range n).map fun k => [.number ((k + 1 : Nat) : Rat)]

theorem count_tuples (n : Nat) : (count n).tuples = indices n := by
  show terms 1 1 n = indices n
  refine List.map_congr_left fun k _ => ?_
  have hnumber : (1 : Rat) + k * 1 = ((k + 1 : Nat) : Rat) := by
    push_cast
    ring
  rw [hnumber]

end TupleSet

/-! ## Declarations -/

namespace SetDecl

/-- A declaration lists subsets of the set that its operand evaluates to. -/
inductive Lists (d : SetDecl) (ctx : Context) (scope : Scope) (w w' : Workspace)
    (sets : List TupleSet) : Prop where
  | powerset {e : Expr} {s : TupleSet} (hbody : d.body = .powerset e)
      (hs : e.evalSet ctx scope w = (.ok s, w')) (h : s.powerset = .ok sets)
  | subsets {e least : Expr} {most : Option Expr} {s : TupleSet} {a : Nat} {b : Option Nat}
      {w₁ w₂ : Workspace} (hbody : d.body = .subsets e least most)
      (hs : e.evalSet ctx scope w = (.ok s, w₁))
      (hleast : least.evalCount ctx scope "subsets" w₁ = (.ok a, w₂))
      (hmost : evalOption most (fun e => e.evalCount ctx scope "subsets") w₂ = (.ok b, w'))
      (h : s.subsets a (b.getD a) = .ok sets)

variable {d : SetDecl} {ctx : Context} {scope : Scope} {w w' : Workspace} {sets : List TupleSet}

theorem Lists.eval (h : d.Lists ctx scope w w' sets) :
    d.eval ctx scope w = (.ok (numbered sets), w') := by
  obtain ⟨name, index, body, span⟩ := d
  cases h with
  | @powerset e s hbody hs h =>
    cases hbody
    have heval : SetDecl.eval ⟨name, index, .powerset e, span⟩ ctx scope =
        e.evalSet ctx scope >>= fun s => Eval.located span s.powerset >>= fun sets =>
          return numbered sets := by
      cases index <;> rfl
    rw [heval]
    refine Step.bind_eq_ok.2 ⟨s, w', hs, Step.bind_eq_ok.2 ⟨sets, w', ?_, rfl⟩⟩
    rw [h]
    rfl
  | @subsets e least most s a b w₁ w₂ hbody hs hleast hmost h =>
    cases hbody
    have heval : SetDecl.eval ⟨name, index, .subsets e least most, span⟩ ctx scope =
        e.evalSet ctx scope >>= fun s => least.evalCount ctx scope "subsets" >>= fun a =>
          evalOption most (fun e => e.evalCount ctx scope "subsets") >>= fun b =>
            Eval.located span (s.subsets a (b.getD a)) >>= fun sets => return numbered sets := by
      cases index <;> rfl
    rw [heval]
    refine Step.bind_eq_ok.2 ⟨s, w₁, hs, Step.bind_eq_ok.2 ⟨a, w₂, hleast, ?_⟩⟩
    refine Step.bind_eq_ok.2 ⟨b, w', hmost, Step.bind_eq_ok.2 ⟨sets, w', ?_, rfl⟩⟩
    rw [h]
    rfl

theorem numbered_get (sets : List TupleSet) (x : String) {k : Nat} {p : TupleSet}
    (hp : sets[k]? = some p) : (numbered sets).get x [.number ((k + 1 : Nat) : Rat)] = .ok p := by
  have hk : k < sets.length := (List.getElem?_eq_some_iff.1 hp).1
  have hkey : (TupleSet.count sets.length).tuples[k]? = some [.number ((k + 1 : Nat) : Rat)] := by
    rw [TupleSet.count_tuples, TupleSet.indices, List.getElem?_map, List.getElem?_range hk]
    rfl
  have hmem : ([Elem.number ((k + 1 : Nat) : Rat)], p) ∈ (numbered sets).entries :=
    List.mem_of_getElem? (List.getElem?_zip_eq_some.2 ⟨hkey, hp⟩)
  have hkeys : ((numbered sets).entries.map Prod.fst).Nodup := by
    obtain ⟨keys, _, hkeys⟩ := numbered_on sets
    rw [hkeys]
    exact keys.nodup
  rw [Family.get_ok_iff rfl]
  exact find?_key_of_mem hkeys hmem

theorem numbered_get_other (sets : List TupleSet) (x : String) {t : Tuple}
    (ht : t ∉ TupleSet.indices sets.length) :
    (numbered sets).get x t = .error (.unknownIndex x t) := by
  have hnone : Family.entry? (numbered sets) t = none := by
    refine find?_key_eq_none.2 ?_
    obtain ⟨keys, hdomain, hkeys⟩ := numbered_on sets
    cases hdomain
    rw [hkeys, TupleSet.count_tuples]
    exact ht
  rw [Family.get, hnone]
  rfl

end SetDecl

/-- A name stands for the sets of a list, with the numbers from one on as their indices. -/
structure Context.Numbers (ctx : Context) (x : String) (sets : List TupleSet) : Prop where
  indexSet : ∃ keys : TupleSet, keys.tuples = TupleSet.indices sets.length ∧
    ∀ at₁ at₂ scope w,
      (Expr.indexSetOf ⟨x, at₁⟩ at₂).eval ctx scope w = (.ok (.set keys), w)
  member : ∀ k p, sets[k]? = some p → ∀ args span scope w w',
    Expr.concat ctx (Value.asTuple "subscript") args scope w =
        (.ok [.number ((k + 1 : Nat) : Rat)], w') →
      (Expr.subscript x args span).eval ctx scope w = (.ok (.set p), w')
  other : ∀ t, t ∉ TupleSet.indices sets.length → ∀ args span scope w w',
    Expr.concat ctx (Value.asTuple "subscript") args scope w = (.ok t, w') →
      (Expr.subscript x args span).eval ctx scope w = (.error ⟨.unknownIndex x t, span⟩, w')

theorem Context.numbers_of_get {symbols : Symbols} {x : String} {sets : List TupleSet}
    (h : symbols.get x = .ok (.set (SetDecl.numbered sets))) (tables : Table.Source) :
    (Context.ofSymbols symbols tables).Numbers x sets := by
  have hsymbol : (Context.ofSymbols symbols tables).symbols.get x =
      .ok (.set (SetDecl.numbered sets)) := by
    cases symbols <;> exact h
  have hlookup (t : Tuple) : (Context.ofSymbols symbols tables).lookup x t =
      ((SetDecl.numbered sets).get x t).map .set := by
    rw [Context.lookup, hsymbol]
    rfl
  refine ⟨⟨_, TupleSet.count_tuples _, fun at₁ at₂ scope w => ?_⟩, ?_, ?_⟩
  · rw [Expr.eval, hsymbol]
    rfl
  · intro k p hp args span scope w w' hargs
    rw [Expr.eval]
    refine Step.bind_eq_ok.2 ⟨_, w', hargs, ?_⟩
    rw [hlookup, SetDecl.numbered_get sets x hp]
    rfl
  · intro t ht args span scope w w' hargs
    rw [Expr.eval]
    refine Step.bind_eq_error.2 (.inr ⟨t, w', hargs, ?_⟩)
    rw [hlookup, SetDecl.numbered_get_other sets x ht]
    rfl

namespace Statement

/-- A set is declared as what it evaluates to. -/
theorem run_set {tables : Table.Source} {d : SetDecl} {scope : Scope} {s : Session}
    {f : Family TupleSet} {w : Workspace} (hnew : s.symbols.declares d.name.text = false)
    (h : d.eval (.ofSymbols s.symbols tables) scope s.work = (.ok f, w)) (path : List Tuple) :
    ∃ s', run tables (.set d) path scope s = (.ok (), s') ∧
      s'.symbols.get d.name.text = .ok (.set f) := by
  have hnone : s.symbols.get? d.name.text = none := by
    simpa [Symbols.declares] using hnew
  refine ⟨{ s with work := w, symbols := s.symbols ++ [(d.name.text, .set f)] }, ?_, ?_⟩
  · simp [run, Step.bind_apply, Exec.requireNew, hnew, Exec.eval, Step.onPart, h, Exec.declare,
      Symbols.declare]
  · rw [Symbols.get, Symbols.get?_append, hnone]
    simp

end Statement

/-- Of a set that is not too large all subsets are listed, each once and where the binary digits of
the position tell its members; in another order they are the subsets of all sizes. A name that is
declared as such a list gets the numbers from one on as indices, in the order of the list. -/
theorem listings :
    (∀ s : TupleSet, s.size ≤ 24 → ∃ sets others, s.powerset = .ok sets ∧ s.ListsAll sets ∧
      s.subsets 0 s.size = .ok others ∧ sets.Perm others) ∧
    ∀ (tables : Table.Source) (session : Session) (d : SetDecl) (path : List Tuple) (scope : Scope)
      (w : Workspace) (sets : List TupleSet), session.symbols.declares d.name.text = false →
      d.Lists (.ofSymbols session.symbols tables) scope session.work w sets →
      ∃ session', Statement.run tables (.set d) path scope session = (.ok (), session') ∧
        ∀ tables', (Context.ofSymbols session'.symbols tables').Numbers d.name.text sets := by
  refine ⟨fun s hsize => ?_, ?_⟩
  · obtain ⟨sets, hsets⟩ := TupleSet.powerset_eq hsize
    obtain ⟨others, hothers⟩ : ∃ others, s.subsets 0 s.size = .ok others := ⟨_, if_neg (by omega)⟩
    exact ⟨sets, others, hsets, TupleSet.listsAll_powerset hsets, hothers,
      TupleSet.powerset_perm hsets hothers⟩
  · intro tables session d path scope w sets hnew hlists
    obtain ⟨session', hrun, hget⟩ := Statement.run_set hnew hlists.eval path
    exact ⟨session', hrun, Context.numbers_of_get hget⟩

/-- A declaration of `P` at no place in particular. -/
def SetDecl.ofBody (body : SetBody) : SetDecl :=
  ⟨⟨"P", .indetermined⟩, none, body, .indetermined⟩

/-- All subsets of a set `S` with two members, and those with one member. -/
theorem listings_two :
    let scope : Scope := [("S", .set (TupleSet.count 2))]
    let s : Expr := .name "S" .indetermined
    let all := SetDecl.ofBody (.powerset s)
    let single := SetDecl.ofBody (.subsets s (.number 1 .indetermined) none)
    let start := Session.start default
    let tables := Table.Source.empty
    let ctx := Context.ofSymbols start.symbols tables
    (TupleSet.count 2).size ≤ 24 ∧ start.symbols.declares "P" = false ∧
      ∃ sets singles, (TupleSet.count 2).ListsAll sets ∧
        all.Lists ctx scope start.work start.work sets ∧
        (∃ s', Statement.run tables (.set all) [] scope start = (.ok (), s') ∧
          ∀ tables', (Context.ofSymbols s'.symbols tables').Numbers "P" sets) ∧
        single.Lists ctx scope start.work start.work singles ∧
        ∃ s', Statement.run tables (.set single) [] scope start = (.ok (), s') ∧
          ∀ tables', (Context.ofSymbols s'.symbols tables').Numbers "P" singles := by
  intro scope s all single start tables ctx
  obtain ⟨sets, _, hsets, hlists, _⟩ := listings.1 (TupleSet.count 2) (by decide)
  obtain ⟨singles, hsingles⟩ : ∃ singles, (TupleSet.count 2).subsets 1 1 = .ok singles :=
    ⟨_, if_neg (by decide)⟩
  have hall : all.Lists ctx scope start.work start.work sets := .powerset rfl rfl hsets
  have hsingle : single.Lists ctx scope start.work start.work singles :=
    .subsets rfl rfl rfl rfl hsingles
  exact ⟨by decide, rfl, sets, singles, hlists, hall,
    listings.2 tables start all [] scope start.work sets rfl hall, hsingle,
    listings.2 tables start single [] scope start.work singles rfl hsingle⟩

end ModelLang
