import Mathlib.Data.List.Induction
import Mathlib.Data.List.Nodup
import Mathlib.Data.List.Perm.Subperm
import ModelLang.Proofs.Run

/-!
# ModelLang.Proofs.Names

Names are handed out once. A name that is taken is numbered, and the number is the smallest that is
free, although the search does not start from one: all numbers up to the last one tried are taken
(`Names.Tracks`). The search ends, since only so many names are taken. All parts of a model have
their names from there, and so they differ across the kinds of parts.
-/

namespace ModelLang

namespace Names

/-! ## Numbered names -/

theorem numbered_inj {base : String} {i j : Nat} : numbered base i = numbered base j ↔ i = j := by
  constructor
  · intro h
    have hlist : (base ++ "_").toList ++ (toString i).toList =
        (base ++ "_").toList ++ (toString j).toList := by
      rw [← String.toList_append, ← String.toList_append]
      exact congrArg String.toList h
    have hdigits := List.append_cancel_left hlist
    rw [Nat.toString_eq_ofList_toDigits, Nat.toString_eq_ofList_toDigits, String.toList_ofList,
      String.toList_ofList] at hdigits
    rw [← Nat.ofDigitChars_ten_toDigits (n := i), hdigits, Nat.ofDigitChars_ten_toDigits]
  · rintro rfl
    rfl

/-- What a request for `base` gets when the names of a list are taken: `base` itself, or else the
first free one of the numbered names. -/
inductive Free (taken : List String) (base : String) : String → Prop where
  | plain (h : base ∉ taken) : Free taken base base
  | numbered (k : Nat) (h : base ∈ taken) (hk : 1 ≤ k) (hfree : numbered base k ∉ taken)
      (hleast : ∀ j, 1 ≤ j → j < k → Names.numbered base j ∈ taken) :
      Free taken base (Names.numbered base k)

theorem Free.congr {taken others : List String} {base name : String}
    (hp : ∀ x, x ∈ taken ↔ x ∈ others) (h : Free taken base name) : Free others base name := by
  cases h with
  | plain h => exact .plain fun ho => h ((hp base).2 ho)
  | numbered k h hk hfree hleast =>
    exact .numbered k ((hp base).1 h) hk (fun ho => hfree ((hp _).2 ho)) fun j hj hlt =>
      (hp _).1 (hleast j hj hlt)

/-- The only answer there is. -/
theorem Free.unique {taken : List String} {base a b : String} (ha : Free taken base a)
    (hb : Free taken base b) : a = b := by
  cases ha with
  | plain h =>
    cases hb with
    | plain => rfl
    | numbered _ h' => exact absurd h' h
  | numbered k h hk hfree hleast =>
    cases hb with
    | plain h' => exact absurd h h'
    | numbered j _ hj hfree' hleast' =>
      rcases Nat.lt_trichotomy k j with hlt | rfl | hlt
      · exact absurd (hleast' k hk hlt) hfree
      · rfl
      · exact absurd (hleast j hj hlt) hfree'

/-! ## The search -/

theorem taken_iff (names : Names) (name : String) :
    names.taken name = true ↔ name ∈ names.map Prod.fst := by
  simp [taken]

/-- The search stops at the first free number or at its bound. -/
theorem firstFree_spec (names : Names) (base : String) (k bound : Nat) :
    k ≤ firstFree names base k bound ∧ firstFree names base k bound ≤ k + bound ∧
      (∀ j, k ≤ j → j < firstFree names base k bound → names.taken (numbered base j) = true) ∧
      (firstFree names base k bound < k + bound →
        names.taken (numbered base (firstFree names base k bound)) = false) := by
  induction bound generalizing k with
  | zero =>
    refine ⟨le_refl _, le_refl _, ?_, ?_⟩
    · intro j hj hlt
      exact absurd hlt (Nat.not_lt.2 hj)
    · intro hlt
      exact absurd hlt (Nat.lt_irrefl _)
  | succ bound ih =>
    unfold firstFree
    split
    · rename_i htaken
      obtain ⟨h₁, h₂, h₃, h₄⟩ := ih (k + 1)
      refine ⟨by omega, by omega, ?_, ?_⟩
      · intro j hj hlt
        rcases Nat.eq_or_lt_of_le hj with rfl | hj
        · exact htaken
        · exact h₃ j hj hlt
      · intro hlt
        exact h₄ (by omega)
    · rename_i hfree
      refine ⟨le_refl _, by omega, ?_, fun _ => by simpa using hfree⟩
      intro j hj hlt
      exact absurd hlt (Nat.not_lt.2 hj)

/-- Not as many numbers can be taken as there are names and one more. -/
theorem exists_free (names : Names) (base : String) (k : Nat) :
    ∃ j, k ≤ j ∧ j ≤ k + names.length ∧ names.taken (numbered base j) = false := by
  by_contra hn
  push Not at hn
  let candidates := (List.range (names.length + 1)).map fun i => numbered base (k + i)
  have hnodup : candidates.Nodup := by
    refine List.Nodup.map (fun i j h => ?_) List.nodup_range
    have := numbered_inj.1 h
    omega
  have hsub : candidates ⊆ names.map Prod.fst := by
    intro name hname
    obtain ⟨i, hi, rfl⟩ := List.mem_map.1 hname
    rw [List.mem_range] at hi
    rw [← taken_iff]
    simpa using hn (k + i) (by omega) (by omega)
  have hlen := (List.subperm_of_subset hnodup hsub).length_le
  simp only [candidates, List.length_map, List.length_range] at hlen
  omega

/-- Within the bound that `fresh` gives it, the search finds a free number. -/
theorem firstFree_free (names : Names) (base : String) (k : Nat) :
    names.taken (numbered base (firstFree names base k names.length)) = false := by
  obtain ⟨h₁, h₂, h₃, h₄⟩ := firstFree_spec names base k names.length
  obtain ⟨j, hj, hjn, hfree⟩ := exists_free names base k
  rcases Nat.lt_or_ge j (firstFree names base k names.length) with hlt | hge
  · rw [h₃ j hj hlt] at hfree
    cases hfree
  · rcases Nat.eq_or_lt_of_le hge with heq | hlt
    · rw [heq]
      exact hfree
    · exact h₄ (by omega)

/-! ## Handing out -/

theorem get?_cons (x : String) (last : Nat) (names : Names) (y : String) :
    get? ((x, last) :: names) y = if x = y then some last else names.get? y := by
  by_cases h : x = y <;> simp [get?, h]

/-- The table knows which names were handed out, and does not skip a free number. -/
structure Tracks (handed : List String) (names : Names) : Prop where
  taken : ∀ x, x ∈ names.map Prod.fst ↔ x ∈ handed
  tried : ∀ base last, names.get? base = some last →
    ∀ j, 1 ≤ j → j ≤ last → numbered base j ∈ handed
  nodup : handed.Nodup

theorem tracks_nil : Tracks [] [] :=
  ⟨fun _ => Iff.rfl, nofun, .nil⟩

variable {handed : List String} {names : Names}

theorem Tracks.taken_iff (h : Tracks handed names) (x : String) :
    names.taken x = true ↔ x ∈ handed := by
  rw [Names.taken_iff, h.taken]

theorem Tracks.get?_eq_none (h : Tracks handed names) {base : String} :
    names.get? base = none ↔ base ∉ handed := by
  rw [get?, find?_key_eq_none, h.taken]

theorem Tracks.not_mem_of_free (h : Tracks handed names) {x : String}
    (hx : names.taken x = false) : x ∉ handed := by
  rw [← h.taken_iff, hx]
  exact Bool.false_ne_true

/-- All that a request can do. -/
theorem Tracks.fresh_cases (h : Tracks handed names) (base : String) :
    (base ∉ handed ∧ names.fresh base = (base, (base, 0) :: names)) ∨
      ∃ k, base ∈ handed ∧ 1 ≤ k ∧ numbered base k ∉ handed ∧
        (∀ j, 1 ≤ j → j < k → numbered base j ∈ handed) ∧
        names.fresh base = (numbered base k, (numbered base k, 0) :: (base, k) :: names) := by
  cases hlast : names.get? base with
  | none =>
    refine .inl ⟨h.get?_eq_none.1 hlast, ?_⟩
    rw [fresh, hlast]
  | some last =>
    have hbase : base ∈ handed := by
      by_contra hn
      rw [h.get?_eq_none.2 hn] at hlast
      cases hlast
    obtain ⟨hge, _, hbetween, _⟩ := firstFree_spec names base (last + 1) names.length
    have hfree := h.not_mem_of_free (firstFree_free names base (last + 1))
    refine .inr ⟨_, hbase, by omega, hfree, fun j hj hlt => ?_, ?_⟩
    -- the numbers that the search skips were tried earlier
    · rcases Nat.lt_or_ge last j with hlj | hjl
      · exact (h.taken_iff _).1 (hbetween j hlj hlt)
      · exact h.tried base last hlast j hj hjl
    · rw [fresh, hlast]

theorem Tracks.fresh_free (h : Tracks handed names) (base : String) :
    Free handed base (names.fresh base).1 := by
  rcases h.fresh_cases base with ⟨hn, heq⟩ | ⟨k, hbase, hk, hfree, hleast, heq⟩
  · rw [heq]
    exact .plain hn
  · rw [heq]
    exact .numbered k hbase hk hfree hleast

/-- What a request gets is free, and nothing else is. -/
theorem Tracks.free_iff (h : Tracks handed names) (base name : String) :
    Free handed base name ↔ (names.fresh base).1 = name :=
  ⟨(h.fresh_free base).unique, fun hname => hname ▸ h.fresh_free base⟩

theorem Tracks.nodup_concat (h : Tracks handed names) {name : String} (hn : name ∉ handed) :
    (handed ++ [name]).Nodup := by
  rw [← List.concat_eq_append, List.nodup_concat]
  exact ⟨hn, h.nodup⟩

theorem Tracks.fresh (h : Tracks handed names) (base : String) :
    Tracks (handed ++ [(names.fresh base).1]) (names.fresh base).2 := by
  rcases h.fresh_cases base with ⟨hn, heq⟩ | ⟨k, hbase, hk, hfree, hleast, heq⟩
  · rw [heq]
    refine ⟨fun x => ?_, fun y last hy j hj hle => ?_, h.nodup_concat hn⟩
    · rw [List.map_cons, List.mem_cons, h.taken, List.mem_append, List.mem_singleton, or_comm]
    · rw [get?_cons] at hy
      split at hy
      · cases hy
        omega
      · exact List.mem_append_left _ (h.tried y last hy j hj hle)
  · rw [heq]
    refine ⟨fun x => ?_, fun y last hy j hj hle => ?_, h.nodup_concat hfree⟩
    · rw [List.map_cons, List.map_cons, List.mem_cons, List.mem_cons, h.taken, List.mem_append,
        List.mem_singleton]
      constructor
      · rintro (rfl | rfl | hx)
        · exact .inr rfl
        · exact .inl hbase
        · exact .inl hx
      · rintro (hx | rfl)
        · exact .inr (.inr hx)
        · exact .inl rfl
    · rw [get?_cons, get?_cons] at hy
      split at hy
      · cases hy
        omega
      split at hy
      · rename_i hby
        subst hby
        cases hy
        rcases Nat.lt_or_ge j k with hlt | hge
        · exact List.mem_append_left _ (hleast j hj hlt)
        · obtain rfl := Nat.le_antisymm hle hge
          exact List.mem_append_right _ (List.mem_singleton_self _)
      · exact List.mem_append_left _ (h.tried y last hy j hj hle)

/-! ## All requests so far -/

/-- The names that are handed out for some requests, and the table after the last of them. -/
def issue (bases : List String) : List String × Names :=
  bases.foldl (fun state base =>
    let (name, names) := state.2.fresh base
    (state.1 ++ [name], names)) ([], [])

theorem issue_concat (bases : List String) (base : String) :
    issue (bases ++ [base]) =
      ((issue bases).1 ++ [((issue bases).2.fresh base).1], ((issue bases).2.fresh base).2) := by
  rw [issue, List.foldl_append]
  rfl

theorem tracks_issue (bases : List String) : Tracks (issue bases).1 (issue bases).2 := by
  induction bases using List.reverseRecOn with
  | nil => exact tracks_nil
  | append_singleton bases base ih =>
    rw [issue_concat]
    exact ih.fresh base

/-- Later requests leave the names that were handed out. -/
theorem issue_append (bases rest : List String) :
    ∃ later, (issue (bases ++ rest)).1 = (issue bases).1 ++ later := by
  induction rest using List.reverseRecOn with
  | nil => exact ⟨[], by rw [List.append_nil, List.append_nil]⟩
  | append_singleton rest base ih =>
    obtain ⟨later, hlater⟩ := ih
    refine ⟨later ++ [((issue (bases ++ rest)).2.fresh base).1], ?_⟩
    rw [← List.append_assoc, issue_concat, hlater, List.append_assoc]

/-- Every request gets what is free at its time. -/
theorem issue_free (before : List String) (base : String) (rest : List String) :
    ∃ name later, (issue (before ++ base :: rest)).1 = (issue before).1 ++ name :: later ∧
      Free (issue before).1 base name := by
  obtain ⟨later, hlater⟩ := issue_append (before ++ [base]) rest
  refine ⟨_, later, ?_, (tracks_issue before).fresh_free base⟩
  rw [List.append_cons, hlater, issue_concat, ← List.append_cons]

/-- A number that was asked for by name is skipped. -/
example : (issue ["x", "x_1", "x", "x", "x_1"]).1 = ["x", "x_1", "x_2", "x_3", "x_1_1"] := by
  decide +kernel

end Names

/-! ## Names of parts -/

namespace Model

/-- The names of variables, rows and special ordered sets. -/
def partNames (m : Model) : List String :=
  m.vars.toList.map Variable.name ++ m.rows.map Row.name ++ m.sos.map Sos.name

/-- The parts have their names from some requests, each of them its own. -/
def Named (m : Model) (bases : List String) : Prop :=
  (Names.issue bases).2 = m.names ∧ (Names.issue bases).1.Perm m.partNames

variable {m m' : Model} {bases : List String}

theorem named_empty : Model.empty.Named [] :=
  ⟨rfl, .refl _⟩

/-- A part under a new name, wherever it is put. -/
theorem Named.add (h : m.Named bases) (base : String) {before after : List String}
    (hm : m.partNames = before ++ after) (hnames : m'.names = (m.names.fresh base).2)
    (hm' : m'.partNames = before ++ (m.names.fresh base).1 :: after) :
    m'.Named (bases ++ [base]) := by
  obtain ⟨hstate, hperm⟩ := h
  rw [Named, Names.issue_concat, hstate]
  refine ⟨hnames.symm, ?_⟩
  rw [hm] at hperm
  rw [hm']
  refine (hperm.append_right _).trans ?_
  rw [List.append_assoc]
  exact (List.perm_append_singleton _ after).append_left before

theorem addObjective_names {cs : Coefs} (h : cs.Canonical) (vars : Array Variable) :
    (addObjective cs vars).toList.map Variable.name = vars.toList.map Variable.name := by
  refine List.ext_getElem? fun i => ?_
  rw [List.getElem?_map, List.getElem?_map, Array.getElem?_toList, Array.getElem?_toList,
    addObjective_getElem? h, Option.map_map]
  rfl

theorem Edit.named (h : m.Edit m') (hm : ∃ bases, m.Named bases) : ∃ bases, m'.Named bases := by
  obtain ⟨bases, hm⟩ := hm
  cases h with
  | @«variable» x =>
    refine ⟨_, hm.add x.name (List.append_assoc _ _ _) rfl ?_⟩
    simp [partNames, addVariable]
  | @row r =>
    refine ⟨_, hm.add r.name rfl rfl ?_⟩
    simp [partNames, addRow]
  | @sos s =>
    refine ⟨_, hm.add s.name (List.append_nil _).symm rfl ?_⟩
    simp [partNames, addSos]
  | @objective _ o _ h =>
    obtain ⟨_, rfl⟩ := setObjective_ok h
    refine ⟨bases, hm.1, ?_⟩
    rw [partNames, addObjective_names o.term.canonical]
    exact hm.2

/-! ### Lookup by name -/

/-- No two parts have one name, of whatever kinds they are, and each is found by its own. -/
structure Distinct (m : Model) : Prop where
  nodup : m.partNames.Nodup
  vars : ∀ v x, m.get? v = some x → m.findVariable? x.name = some v
  rows : ∀ r ∈ m.rows, m.findRow? r.name = some r
  sos : ∀ s ∈ m.sos, m.findSos? s.name = some s

theorem distinct_of_nodup (h : m.partNames.Nodup) : m.Distinct := by
  have hparts := h
  rw [partNames, List.nodup_append, List.nodup_append] at hparts
  obtain ⟨⟨hvars, hrows, _⟩, hsos, _⟩ := hparts
  refine ⟨h, fun v x hx => ?_, fun r hr => find?_of_nodup hrows hr,
    fun s hs => find?_of_nodup hsos hs⟩
  obtain ⟨hv, rfl⟩ := Array.getElem?_eq_some_iff.1 hx
  refine Array.findIdx?_eq_some_iff_getElem.2 ⟨hv, by simp, fun j hj hname => ?_⟩
  have hne := List.pairwise_iff_getElem.1 hvars j v (by simp; omega) (by simpa using hv) hj
  simp at hname hne
  exact hne hname

end Model

theorem Session.after_named (random : Random) (history : List (Table.Source × Statement)) :
    ∃ bases, (after random history).model.Named bases :=
  preserved_of_changes (I := fun m => ∃ bases, m.Named bases) (fun _ _ h => h.named)
    (after_edits random history) ⟨[], Model.named_empty⟩

/-- After any statements, each of which may have failed, all names of variables, rows and special
ordered sets differ, and each of these is found by its name. Their names are those that were handed
out, and every request got, and the next one gets, the name asked for if that was still free, and
else the one with the smallest number that was. -/
theorem Session.after_names (random : Random) (history : List (Table.Source × Statement)) :
    (after random history).model.Distinct ∧
      (∀ base name, Names.Free (after random history).model.partNames base name ↔
        ((after random history).model.names.fresh base).1 = name) ∧
      ∃ bases, (after random history).model.Named bases ∧
        ∀ before base rest, bases = before ++ base :: rest →
          ∃ name later, (Names.issue bases).1 = (Names.issue before).1 ++ name :: later ∧
            Names.Free (Names.issue before).1 base name := by
  obtain ⟨bases, hstate, hperm⟩ := after_named random history
  have htracks := Names.tracks_issue bases
  refine ⟨Model.distinct_of_nodup (hperm.nodup htracks.nodup), fun base name => ?_, bases,
    ⟨hstate, hperm⟩, ?_⟩
  · rw [← hstate, ← htracks.free_iff]
    exact ⟨.congr fun _ => hperm.symm.mem_iff, .congr fun _ => hperm.mem_iff⟩
  · rintro before base rest rfl
    exact Names.issue_free before base rest

end ModelLang
