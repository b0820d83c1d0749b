import Mathlib.Data.List.Basic

/-!
# ModelLang.Proofs.Keyed

Lists of keys with values, in which the first entry with a key counts. Symbols, families and taken
names are such lists.
-/

namespace ModelLang

variable {κ β : Type} [DecidableEq κ] {es : List (κ × β)} {k : κ} {b : β}

theorem find?_key_eq_none :
    (es.find? fun e => e.1 = k).map Prod.snd = none ↔ k ∉ es.map Prod.fst := by
  rw [Option.map_eq_none_iff, List.find?_eq_none, List.mem_map]
  constructor
  · rintro h ⟨e, he, hk⟩
    exact h e he (by simpa using hk)
  · intro h e he hk
    exact h ⟨e, he, by simpa using hk⟩

theorem exists_find?_key :
    (∃ b, (es.find? fun e => e.1 = k).map Prod.snd = some b) ↔ k ∈ es.map Prod.fst := by
  rw [← Option.isSome_iff_exists, ← Option.ne_none_iff_isSome, ne_eq, find?_key_eq_none, not_not]

theorem mem_of_find?_key (h : (es.find? fun e => e.1 = k).map Prod.snd = some b) :
    (k, b) ∈ es := by
  obtain ⟨e, he, rfl⟩ := Option.map_eq_some_iff.1 h
  have hk : e.1 = k := by simpa using List.find?_some he
  exact hk ▸ List.mem_of_find?_eq_some he

/-- With distinct keys, the element that is found by a key is the only one. -/
theorem find?_of_nodup {α : Type} {key : α → κ} {as : List α} (hn : (as.map key).Nodup) {a : α}
    (ha : a ∈ as) : as.find? (fun x => key x = key a) = some a := by
  induction as with
  | nil => cases ha
  | cons b rest ih =>
    rw [List.map_cons, List.nodup_cons] at hn
    rcases List.mem_cons.1 ha with rfl | ha
    · exact List.find?_cons_of_pos (by simp)
    · have hk : key b ≠ key a := fun h => hn.1 (h ▸ List.mem_map_of_mem ha)
      rw [List.find?_cons_of_neg (by simpa using hk)]
      exact ih hn.2 ha

theorem find?_key_of_mem (hn : (es.map Prod.fst).Nodup) (h : (k, b) ∈ es) :
    (es.find? fun e => e.1 = k).map Prod.snd = some b := by
  rw [find?_of_nodup hn h]
  rfl

end ModelLang
