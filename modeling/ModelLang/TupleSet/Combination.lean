/-!
# ModelLang.TupleSet.Combination

The choices of `k` out of `n` places, one after the other. A choice is given by its picks in
ascending order. A step moves the last pick that is not as high as it can get, and lets those behind
it follow it closely (`Picks.next`). It looks at places and takes differences, which could be out of
range; for the picks of a combination they never are (`Combination.next_cases`).
-/

namespace ModelLang

/-- An index at or behind the end of a list, or a difference below zero. -/
inductive OutOfRange where
  | index (i length : Nat)
  | difference (a b : Nat)
deriving DecidableEq

namespace Picks

/-- The pick at a place. -/
def get (picks : List Nat) (i : Nat) : Except OutOfRange Nat :=
  if h : i < picks.length then .ok picks[i] else .error (.index i picks.length)

/-- The picks with another one at a place. -/
def put (picks : List Nat) (i p : Nat) : Except OutOfRange (List Nat) :=
  if i < picks.length then .ok (picks.set i p) else .error (.index i picks.length)

def minus (a b : Nat) : Except OutOfRange Nat :=
  if b ≤ a then .ok (a - b) else .error (.difference a b)

/-- The last of the first `i` places whose pick is not as high as it can get. -/
def movable? (n : Nat) (picks : List Nat) : Nat → Except OutOfRange (Option Nat)
  | 0 => return none
  | i + 1 => do
    let p ← get picks i
    let highest ← minus (i + n) picks.length
    if p = highest then movable? n picks i else return some i

/-- Lets the picks at `count` places from `i` on follow the one before them. -/
def follow (picks : List Nat) (i : Nat) : Nat → Except OutOfRange (List Nat)
  | 0 => return picks
  | count + 1 => do
    let before ← minus i 1
    let p ← get picks before
    let picks ← put picks i (p + 1)
    follow picks (i + 1) count

/-- The picks that come next, unless these are the last ones. -/
def next (n : Nat) (picks : List Nat) : Except OutOfRange (Option (List Nat)) := do
  match ← movable? n picks picks.length with
  | none => return none
  | some i =>
    let p ← get picks i
    let moved ← put picks i (p + 1)
    let followed ← follow moved (i + 1) (picks.length - (i + 1))
    return some followed

/-! ## One step -/

/-- What a step makes of picks: those behind the one that moves were as high as they can get. -/
inductive Advances (n : Nat) : List Nat → List Nat → Prop
  | move (as : List Nat) (p count : Nat) (h : p + 1 + count < n) :
    Advances n (as ++ p :: List.range' (n - count) count)
      (as ++ List.range' (p + 1) (count + 1))

section Step

variable {n : Nat} {picks as rest : List Nat} {i p : Nat}

theorem ok_bind {α β : Type} (a : α) (f : α → Except OutOfRange β) :
    (Except.ok a >>= f) = f a := rfl

theorem get_eq (h : picks[i]? = some p) : get picks i = .ok p := by
  obtain ⟨hi, hp⟩ := List.getElem?_eq_some_iff.1 h
  rw [get, dif_pos hi, hp]

theorem put_eq (h : i < picks.length) (p : Nat) : put picks i p = .ok (picks.set i p) :=
  if_pos h

theorem minus_eq {a b : Nat} (h : b ≤ a) : minus a b = .ok (a - b) :=
  if_pos h

/-- The search passes over picks that are as high as they can get, and stops at the first other. -/
theorem movable?_cases (hlen : picks.length ≤ n) {i : Nat} (hi : i ≤ picks.length) :
    (movable? n picks i = .ok none ∧ ∀ j, j < i → picks[j]? = some (j + n - picks.length)) ∨
      ∃ m p, movable? n picks i = .ok (some m) ∧ picks[m]? = some p ∧ m < i ∧
        p ≠ m + n - picks.length ∧
        ∀ j, m < j → j < i → picks[j]? = some (j + n - picks.length) := by
  induction i with
  | zero => exact .inl ⟨rfl, by omega⟩
  | succ i ih =>
    have hget : picks[i]? = some picks[i] := List.getElem?_eq_getElem hi
    by_cases htop : picks[i] = i + n - picks.length
    · have hpass : movable? n picks (i + 1) = movable? n picks i := by
        rw [movable?, get_eq hget, ok_bind, minus_eq (by omega), ok_bind]
        exact if_pos htop
      have hhere (j : Nat) (hj : ¬ j < i) (hj' : j < i + 1) :
          picks[j]? = some (j + n - picks.length) := by
        obtain rfl : j = i := by omega
        rw [hget, htop]
      rw [hpass]
      rcases ih (by omega) with ⟨hnone, hall⟩ | ⟨m, p, hsome, hp, hm, hne, hall⟩
      · refine .inl ⟨hnone, fun j hj => ?_⟩
        by_cases hji : j < i
        · exact hall j hji
        · exact hhere j hji hj
      · refine .inr ⟨m, p, hsome, hp, by omega, hne, fun j hmj hj => ?_⟩
        by_cases hji : j < i
        · exact hall j hmj hji
        · exact hhere j hji hj
    · refine .inr ⟨i, picks[i], ?_, hget, by omega, htop, by omega⟩
      rw [movable?, get_eq hget, ok_bind, minus_eq (by omega), ok_bind]
      exact if_neg htop

theorem follow_eq (as : List Nat) (p : Nat) (rest : List Nat) :
    follow (as ++ p :: rest) (as.length + 1) rest.length =
      .ok (as ++ List.range' p (rest.length + 1)) := by
  induction rest generalizing as p with
  | nil => rfl
  | cons r rest ih =>
    have hget : (as ++ p :: r :: rest)[as.length]? = some p := by simp
    have hlen : as.length + 1 < (as ++ p :: r :: rest).length := by simp
    have hset : (as ++ p :: r :: rest).set (as.length + 1) (p + 1) =
        (as ++ [p]) ++ (p + 1) :: rest := by
      rw [List.set_append_right _ _ (by omega)]
      simp
    have hrest := ih (as ++ [p]) (p + 1)
    rw [List.length_append, List.length_singleton] at hrest
    rw [List.length_cons, follow, minus_eq (by omega), ok_bind, Nat.add_sub_cancel, get_eq hget,
      ok_bind, put_eq hlen, ok_bind, hset, hrest, List.append_assoc, List.singleton_append,
      List.range'_succ (s := p)]

/-- Picks from a place on that are as high as they can get follow one another. -/
theorem eq_range'_of_top (as : List Nat) (hlen : (as ++ rest).length ≤ n)
    (h : ∀ j, as.length ≤ j → j < (as ++ rest).length →
      (as ++ rest)[j]? = some (j + n - (as ++ rest).length)) :
    rest = List.range' (n - rest.length) rest.length := by
  rw [List.length_append] at hlen
  apply List.ext_getElem?
  intro j
  by_cases hj : j < rest.length
  · have htop := h (as.length + j) (by omega) (by simp; omega)
    rw [List.getElem?_append_right (by omega), Nat.add_sub_cancel_left,
      List.length_append] at htop
    rw [htop, List.getElem?_range' hj]
    congr 1
    omega
  · rw [List.getElem?_eq_none (by omega), List.getElem?_eq_none (by simp; omega)]

/-- Behind a pick there is room for those that follow it. -/
theorem add_length_lt (hasc : (p :: rest).Pairwise (· < ·)) (hbelow : ∀ q ∈ p :: rest, q < n) :
    p + rest.length < n := by
  induction rest generalizing p with
  | nil => exact hbelow p (by simp)
  | cons q rest ih =>
    have hpq : p < q := List.rel_of_pairwise_cons hasc (by simp)
    have hq : q + rest.length < n :=
      ih (List.Pairwise.of_cons hasc) fun r hr => hbelow r (List.mem_cons_of_mem _ hr)
    rw [List.length_cons]
    omega

/-- A step finds the last picks at the end, and otherwise advances. -/
theorem next_cases (hlen : picks.length ≤ n) (hasc : picks.Pairwise (· < ·))
    (hbelow : ∀ p ∈ picks, p < n) :
    (next n picks = .ok none ∧ picks = List.range' (n - picks.length) picks.length) ∨
      ∃ followed, next n picks = .ok (some followed) ∧ Advances n picks followed := by
  rcases movable?_cases hlen (Nat.le_refl _) with
    ⟨hnone, hall⟩ | ⟨m, p, hsome, hp, hm, hne, hall⟩
  · refine .inl ⟨?_, eq_range'_of_top [] hlen fun j _ hj => hall j hj⟩
    rw [next, hnone]
    rfl
  · obtain ⟨as, rest, rfl, rfl⟩ : ∃ as rest, picks = as ++ p :: rest ∧ as.length = m := by
      obtain ⟨_, rfl⟩ := List.getElem?_eq_some_iff.1 hp
      refine ⟨picks.take m, picks.drop (m + 1), ?_, List.length_take_of_le (by omega)⟩
      rw [← List.drop_eq_getElem_cons hm, List.take_append_drop]
    have hmoved : (as ++ p :: rest).set as.length (p + 1) = as ++ (p + 1) :: rest := by
      rw [List.set_append_right _ _ (by omega)]
      simp
    have hcount : (as ++ p :: rest).length - (as.length + 1) = rest.length := by
      simp
      omega
    have hrest : rest = List.range' (n - rest.length) rest.length := by
      have heq : as ++ p :: rest = (as ++ [p]) ++ rest := by simp
      rw [heq] at hlen hall
      refine eq_range'_of_top (as ++ [p]) hlen fun j hj hj' => hall j ?_ hj'
      rw [List.length_append] at hj
      exact hj
    have hroom : p + rest.length < n :=
      add_length_lt (List.pairwise_append.1 hasc).2.1 fun q hq =>
        hbelow q (List.mem_append_right _ hq)
    refine .inr ⟨as ++ List.range' (p + 1) (rest.length + 1), ?_, ?_⟩
    · rw [next, hsome, ok_bind]
      show (get _ as.length >>= _) = _
      rw [get_eq hp, ok_bind, put_eq hm, ok_bind, hmoved, hcount, follow_eq, ok_bind]
      rfl
    · have hadv := Advances.move (n := n) as p rest.length (by
        rw [List.length_append, List.length_cons] at hlen hne
        omega)
      rwa [← hrest] at hadv

end Step

/-! ## What a step keeps -/

/-- A bound for how many picks are still to come: the picks as digits, counted down. -/
def left (n : Nat) : List Nat → Nat
  | [] => 0
  | p :: rest => (n - 1 - p) * Nat.pow n rest.length + left n rest

namespace Advances

variable {n : Nat} {picks followed : List Nat} (h : Advances n picks followed)

include h

theorem length_eq : followed.length = picks.length := by
  cases h
  simp

theorem ascending (hasc : picks.Pairwise (· < ·)) : followed.Pairwise (· < ·) := by
  cases h with
  | move as p count hroom =>
    rw [List.pairwise_append] at hasc ⊢
    refine ⟨hasc.1, List.pairwise_lt_range', ?_⟩
    intro a ha b hb
    have hap : a < p := hasc.2.2 a ha p (by simp)
    have hpb := List.mem_range'_1.1 hb
    omega

theorem below (hbelow : ∀ p ∈ picks, p < n) : ∀ p ∈ followed, p < n := by
  cases h with
  | move as p count hroom =>
    intro q hq
    rcases List.mem_append.1 hq with hq | hq
    · exact hbelow q (List.mem_append_left _ hq)
    · have hq := List.mem_range'_1.1 hq
      omega

/-- As digits that are counted down, the picks after a step are less. -/
theorem left_lt : left n followed < left n picks := by
  cases h with
  | move as p count hroom =>
    have hpow (rest : List Nat) : left n rest < Nat.pow n rest.length := by
      induction rest with
      | nil => exact Nat.one_pos
      | cons q rest ih =>
        have hdigit : (n - 1 - q) * Nat.pow n rest.length ≤ (n - 1) * Nat.pow n rest.length :=
          Nat.mul_le_mul_right _ (Nat.sub_le _ _)
        have hcarry : Nat.pow n (rest.length + 1) =
            (n - 1) * Nat.pow n rest.length + Nat.pow n rest.length := by
          rw [← Nat.succ_mul, Nat.succ_eq_add_one, Nat.sub_add_cancel (by omega)]
          exact Nat.mul_comm _ _
        rw [left, List.length_cons, hcarry]
        omega
    have hdigit : n - 1 - p = (n - 1 - (p + 1)) + 1 := by omega
    have hmove : left n (List.range' (p + 1) (count + 1)) <
        left n (p :: List.range' (n - count) count) := by
      have hrest := hpow (List.range' (p + 1 + 1) count)
      rw [List.length_range'] at hrest
      rw [List.range'_succ, left, left, List.length_range', List.length_range', hdigit,
        Nat.succ_mul]
      omega
    induction as with
    | nil => exact hmove
    | cons a as ih =>
      simp only [List.cons_append, left, List.length_append, List.length_cons,
        List.length_range'] at ih ⊢
      omega

end Advances

end Picks

/-- The choices of `k` out of `n` places. -/
structure Combination (n k : Nat) where
  picks : List Nat
  length_eq : picks.length = k
  ascending : picks.Pairwise (· < ·)
  below : ∀ p ∈ picks, p < n

namespace Combination

variable {n k : Nat}

/-- The first places. -/
def first (h : k ≤ n) : Combination n k where
  picks := List.range k
  length_eq := List.length_range
  ascending := List.pairwise_lt_range
  below _ hp := Nat.lt_of_lt_of_le (List.mem_range.1 hp) h

theorem le_of_ascending {picks : List Nat} (hasc : picks.Pairwise (· < ·))
    (hbelow : ∀ p ∈ picks, p < n) : picks.length ≤ n := by
  cases picks with
  | nil => exact Nat.zero_le n
  | cons _ rest =>
    have hroom := Picks.add_length_lt hasc hbelow
    rw [List.length_cons]
    omega

/-- No step is out of range. -/
theorem next_cases (c : Combination n k) :
    (Picks.next n c.picks = .ok none ∧ c.picks = List.range' (n - k) k) ∨
      ∃ picks, Picks.next n c.picks = .ok (some picks) ∧ Picks.Advances n c.picks picks := by
  have h := Picks.next_cases (le_of_ascending c.ascending c.below) c.ascending c.below
  rwa [c.length_eq] at h

theorem advances_of_next {c : Combination n k} {picks : List Nat}
    (h : Picks.next n c.picks = .ok (some picks)) : Picks.Advances n c.picks picks := by
  rcases c.next_cases with ⟨hnone, _⟩ | ⟨picks', hsome, hadv⟩
  · rw [hnone] at h
    cases h
  · rw [hsome] at h
    cases h
    exact hadv

theorem next_ne_error (c : Combination n k) (e : OutOfRange) :
    Picks.next n c.picks ≠ .error e := by
  intro h
  rcases c.next_cases with ⟨hnone, _⟩ | ⟨_, hsome, _⟩
  · rw [hnone] at h
    cases h
  · rw [hsome] at h
    cases h

/-- The combination after this one. -/
def next? (c : Combination n k) : Option (Combination n k) :=
  match h : Picks.next n c.picks with
  | .ok none => none
  | .ok (some picks) =>
    some
      { picks := picks
        length_eq := (advances_of_next h).length_eq.trans c.length_eq
        ascending := (advances_of_next h).ascending c.ascending
        below := (advances_of_next h).below c.below }
  | .error e => (c.next_ne_error e h).elim

theorem next?_eq_none {c : Combination n k} (h : c.next? = none) :
    c.picks = List.range' (n - k) k := by
  unfold next? at h
  split at h
  · rename_i hnext
    rcases c.next_cases with ⟨_, hlast⟩ | ⟨_, hsome, _⟩
    · exact hlast
    · rw [hsome] at hnext
      cases hnext
  · cases h
  · rename_i e hnext
    exact (c.next_ne_error e hnext).elim

theorem next?_eq_some {c d : Combination n k} (h : c.next? = some d) :
    Picks.Advances n c.picks d.picks := by
  unfold next? at h
  split at h
  · cases h
  · rename_i picks hnext
    cases h
    exact advances_of_next hnext
  · rename_i e hnext
    exact (c.next_ne_error e hnext).elim

/-- The combinations from `c` on, behind those visited before. -/
def visit (visited : List (Combination n k)) (c : Combination n k) : List (Combination n k) :=
  match _ : c.next? with
  | none => (c :: visited).reverse
  | some d => visit (c :: visited) d
termination_by Picks.left n c.picks
decreasing_by exact (next?_eq_some (by assumption)).left_lt

/-- All choices of `k` out of `n` places. -/
def all (n k : Nat) : List (Combination n k) :=
  if h : k ≤ n then visit [] (first h) else []

/-- The places as indices of a list. -/
def places (c : Combination n k) : List (Fin n) :=
  c.picks.attach.map fun p => ⟨p.1, c.below p.1 p.2⟩

theorem places_val (c : Combination n k) : c.places.map Fin.val = c.picks := by
  rw [places, List.map_map]
  exact List.attach_map_subtype_val c.picks

theorem places_ascending (c : Combination n k) : c.places.Pairwise (· < ·) := by
  have h := c.ascending
  rw [← c.places_val, List.pairwise_map] at h
  exact h

end Combination

end ModelLang
