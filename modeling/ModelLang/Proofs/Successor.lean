import Mathlib.Data.Finset.Powerset
import Mathlib.Data.Finset.Sort
import Mathlib.Data.List.Lex
import ModelLang.TupleSet.Combination

/-!
# ModelLang.Proofs.Successor

The step from one combination to the next in the order of dictionaries. A step goes up
(`Advances.lt`) and no combination lies between (`Advances.le_of_lt`); nothing comes after the picks
for which there is no step (`le_last`). So what is visited from a combination on is what is not
before it, each once and in order (`exists_visit`), and from the first places on everything is
visited: `n.choose k` combinations in all.
-/

namespace ModelLang

namespace Picks

section Order

variable {n m : Nat} {picks followed rest : List Nat}

theorem cons_le_cons_iff {a b : Nat} {as bs : List Nat} :
    a :: as ≤ b :: bs ↔ a < b ∨ a = b ∧ as ≤ bs := by
  rw [le_iff_lt_or_eq, le_iff_lt_or_eq, List.cons_lt_cons_iff, List.cons.injEq]
  tauto

theorem lt_of_ascending {p q : Nat} (hasc : (p :: rest).Pairwise (· < ·)) (hq : q ∈ rest) :
    p < q :=
  (List.pairwise_cons.1 hasc).1 q hq

/-- Picks that follow one another closely come first. -/
theorem range'_le (hasc : rest.Pairwise (· < ·)) (hlow : ∀ p ∈ rest, m ≤ p) :
    List.range' m rest.length ≤ rest := by
  induction rest generalizing m with
  | nil => exact le_refl _
  | cons p rest ih =>
    have hp : m ≤ p := hlow p (by simp)
    rw [List.length_cons, List.range'_succ, cons_le_cons_iff]
    by_cases hmp : m < p
    · exact .inl hmp
    · obtain rfl : m = p := by omega
      exact .inr ⟨rfl, ih hasc.of_cons fun q hq => lt_of_ascending hasc hq⟩

/-- Picks that are as high as they can get come last. -/
theorem le_last (hasc : rest.Pairwise (· < ·)) (hbelow : ∀ p ∈ rest, p < n) :
    rest ≤ List.range' (n - rest.length) rest.length := by
  induction rest with
  | nil => exact le_refl _
  | cons p rest ih =>
    have hroom := add_length_lt hasc hbelow
    have hnext : n - (rest.length + 1) + 1 = n - rest.length := by omega
    rw [List.length_cons, List.range'_succ, cons_le_cons_iff, hnext]
    by_cases hp : p < n - (rest.length + 1)
    · exact .inl hp
    · exact .inr ⟨by omega, ih hasc.of_cons fun q hq => hbelow q (List.mem_cons_of_mem _ hq)⟩

theorem Advances.lt (h : Advances n picks followed) : picks < followed := by
  cases h with
  | move as p count hroom =>
    refine List.append_left_lt ?_
    rw [List.range'_succ, List.cons_lt_cons_iff]
    exact .inl (Nat.lt_succ_self p)

/-- By induction on the picks that stay: as long as the other picks agree with them, the order is
decided behind them. -/
theorem Advances.le_of_lt (h : Advances n picks followed) {other : List Nat}
    (hlen : other.length = picks.length) (hasc : other.Pairwise (· < ·))
    (hbelow : ∀ p ∈ other, p < n) (hlt : picks < other) : followed ≤ other := by
  cases h with
  | move as p count hroom =>
    induction as generalizing other with
    | nil =>
      cases other with
      | nil => cases hlen
      | cons q other =>
        obtain rfl : other.length = count := by simpa using hlen
        have hlast : other ≤ List.range' (n - other.length) other.length :=
          le_last hasc.of_cons fun r hr => hbelow r (List.mem_cons_of_mem _ hr)
        rcases List.cons_lt_cons_iff.1 hlt with hpq | ⟨_, hlt⟩
        · rw [List.nil_append, List.range'_succ, cons_le_cons_iff]
          by_cases hq : p + 1 < q
          · exact .inl hq
          · obtain rfl : p + 1 = q := by omega
            exact .inr ⟨rfl, range'_le hasc.of_cons fun r hr => lt_of_ascending hasc hr⟩
        · exact absurd hlt (not_lt.2 hlast)
    | cons a as ih =>
      cases other with
      | nil => cases hlen
      | cons b other =>
        rw [List.cons_append, cons_le_cons_iff]
        rcases List.cons_lt_cons_iff.1 hlt with hab | ⟨hab, hlt⟩
        · exact .inl hab
        · have hlen : other.length = (as ++ p :: List.range' (n - count) count).length := by
            simpa using hlen
          exact .inr ⟨hab, ih hasc.of_cons (fun r hr => hbelow r (List.mem_cons_of_mem _ hr))
            hlen hlt⟩

end Order

end Picks

namespace Combination

variable {n k : Nat} {c d : Combination n k}

theorem eq_of_picks (h : c.picks = d.picks) : c = d := by
  cases c
  cases d
  cases h
  rfl

theorem first_le (h : k ≤ n) (c : Combination n k) : (first h).picks ≤ c.picks := by
  have hle := Picks.range'_le c.ascending fun p _ => Nat.zero_le p
  rwa [c.length_eq, ← List.range_eq_range'] at hle

/-- Everything from a combination on is visited, in order. -/
theorem exists_visit (visited : List (Combination n k)) (c : Combination n k) :
    ∃ rest, visit visited c = visited.reverse ++ rest ∧
      rest.Pairwise (fun d e => d.picks < e.picks) ∧ ∀ e, e ∈ rest ↔ c.picks ≤ e.picks := by
  fun_induction visit visited c with
  | case1 visited c hnone =>
    refine ⟨[c], List.reverse_cons, List.pairwise_singleton _ _, fun e => ?_⟩
    have hlast : e.picks ≤ c.picks := by
      have hle := Picks.le_last e.ascending e.below
      rwa [e.length_eq, ← next?_eq_none hnone] at hle
    rw [List.mem_singleton]
    constructor
    · rintro rfl
      exact le_refl _
    · intro hle
      exact eq_of_picks (le_antisymm hlast hle)
  | case2 visited c d hsome ih =>
    obtain ⟨rest, hvisit, hsorted, hmem⟩ := ih
    have hadv := next?_eq_some hsome
    refine ⟨c :: rest, by rw [hvisit]; simp, ?_, fun e => ?_⟩
    · refine List.pairwise_cons.2 ⟨fun e he => ?_, hsorted⟩
      exact hadv.lt.trans_le ((hmem e).1 he)
    · rw [List.mem_cons, hmem]
      constructor
      · rintro (rfl | hle)
        · exact le_refl _
        · exact hadv.lt.le.trans hle
      · intro hle
        rcases hle.eq_or_lt with heq | hlt
        · exact .inl (eq_of_picks heq.symm)
        · exact .inr (hadv.le_of_lt (e.length_eq.trans c.length_eq.symm) e.ascending e.below hlt)

theorem all_sorted (n k : Nat) : (all n k).Pairwise fun c d => c.picks < d.picks := by
  unfold all
  split
  · rename_i h
    obtain ⟨rest, hvisit, hsorted, _⟩ := exists_visit [] (first h)
    rwa [hvisit]
  · exact List.Pairwise.nil

theorem mem_all (c : Combination n k) : c ∈ all n k := by
  have h : k ≤ n := c.length_eq ▸ le_of_ascending c.ascending c.below
  obtain ⟨rest, hvisit, _, hmem⟩ := exists_visit [] (first h)
  rw [all, dif_pos h, hvisit]
  exact (hmem c).2 (first_le h c)

theorem nodup_all (n k : Nat) : (all n k).Nodup :=
  (all_sorted n k).imp fun hlt heq => (heq ▸ hlt).ne rfl

/-- The set of the places that a combination picks. -/
theorem mem_map_toFinset {F : Finset Nat} :
    F ∈ (all n k).map (fun c => c.picks.toFinset) ↔ F ∈ Finset.powersetCard k (Finset.range n) := by
  rw [List.mem_map, Finset.mem_powersetCard]
  constructor
  · rintro ⟨c, _, rfl⟩
    refine ⟨fun p hp => Finset.mem_range.2 (c.below p (List.mem_toFinset.1 hp)), ?_⟩
    rw [List.toFinset_card_of_nodup (c.ascending.imp fun h => h.ne), c.length_eq]
  · rintro ⟨hF, hcard⟩
    refine ⟨⟨F.sort, (F.length_sort _).trans hcard, F.sortedLT_sort.pairwise, ?_⟩, mem_all _, ?_⟩
    · intro p hp
      exact Finset.mem_range.1 (hF ((F.mem_sort _).1 hp))
    · exact F.sort_toFinset _

theorem length_all (n k : Nat) : (all n k).length = n.choose k := by
  have hnodup : ((all n k).map fun c => c.picks.toFinset).Nodup := by
    refine (nodup_all n k).map fun c d hcd => eq_of_picks ?_
    have hperm : c.picks.Perm d.picks :=
      List.perm_of_nodup_nodup_toFinset_eq (c.ascending.imp fun h => h.ne)
        (d.ascending.imp fun h => h.ne) hcd
    exact hperm.eq_of_pairwise (fun _ _ _ _ h h' => absurd h (lt_asymm h')) c.ascending d.ascending
  have hcard : ((all n k).map fun c => c.picks.toFinset).toFinset =
      Finset.powersetCard k (Finset.range n) := by
    ext F
    rw [List.mem_toFinset, mem_map_toFinset]
  rw [← List.length_map (f := fun c : Combination n k => c.picks.toFinset),
    ← List.toFinset_card_of_nodup hnodup, hcard, Finset.card_powersetCard, Finset.card_range]

end Combination

end ModelLang
