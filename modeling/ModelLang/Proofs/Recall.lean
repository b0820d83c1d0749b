import ModelLang.Grammar.Cached
import ModelLang.Proofs.Lookahead

/-!
# ModelLang.Proofs.Recall

Readers with a memory. A reader follows a reading if it gives the same answer, notes what the
reading asked for and leaves a memory that is as sound as the one before (`Reader.Follows`). An
expression follows if the rules that it calls do (`Layers.run_follows`). So do the rules of a
grammar, read afresh at every place (`Layers.runRule_follows`) and also with the answers kept
(`Layers.runCached_follows`): what is kept for a place is what is read there, and all that it asked
for has been noted (`Layers.Recalls`).
-/

namespace ModelLang

/-- From a memory that is sound the reader gives the answer of the reading, notes what that asked
for, and leaves a sound memory. -/
def Reader.Follows {σ α : Type} (I : Reach → σ → Prop) (x : Reader σ α) (c : Cursor)
    (y : Reading α) : Prop :=
  ∀ reach memory, I reach memory → ∃ memory',
    x c (reach, memory) = (y.answer, reach.noteEach y.asked, memory') ∧
      I (reach.noteEach y.asked) memory'

/-- What is done with a value without asking for more is done in the reader and in the reading. -/
theorem Reader.Follows.bind_quiet {σ α β : Type} {I : Reach → σ → Prop} {x : Reader σ α}
    {x' : Reader σ β} {c : Cursor} {y : Reading α} {f : α → Cursor → Reading β}
    (h : x.Follows I c y) (hf : ∀ a c', (f a c').asked = [])
    (hx' : ∀ s, x' c s = match x c s with
      | (none, s) => (none, s)
      | (some (a, c'), s) => ((f a c').answer, s)) : x'.Follows I c (y.bind f) := by
  intro reach memory hm
  obtain ⟨memory', hrun, hm'⟩ := h reach memory hm
  refine ⟨memory', ?_⟩
  rw [hx', hrun]
  rcases ha : y.answer with _ | ⟨a, c'⟩
  · rw [Reading.bind_of_none ha]
    exact ⟨rfl, hm'⟩
  · rw [Reading.bind_of_some ha]
    simp only [hf, List.append_nil, true_and]
    exact hm'

namespace Layers

variable {R σ : Type} {Result : R → Type} {grammar : (r : R) → Peg Result (Result r)}
  (L : Layers grammar) {α : Type}

/-! ## Expressions follow if their rules do -/

section Run

variable {I : Reach → σ → Prop} (hI : ∀ reach memory asked, I reach memory →
    I (Reach.noteEach reach asked) memory)
  {T : Terminal → Prop} (hT : ∀ r, ∀ t ∈ (grammar r).terminals, T t) {s : Cursor}
  {call : (r : R) → Reader σ (Result r)}

include hI in
theorem token_follows (t : Terminal) (c : Cursor) :
    ((Peg.token t).run call).Follows I c (L.reading (.token t) c) := by
  intro reach memory hm
  refine ⟨memory, ?_, hI _ _ _ hm⟩
  rw [Peg.run, reading, Peg.read]
  rcases c.next? t with _ | ⟨found, c'⟩ <;> rfl

theorem seq_follows {β : Type} {p : Peg Result α} {q : Peg Result β} {c : Cursor}
    (hp : (p.run call).Follows I c (L.reading p c))
    (hq : ∀ a c', (L.reading p c).answer = some (a, c') →
      (q.run call).Follows I c' (L.reading q c')) :
    ((p.seq q).run call).Follows I c (L.reading (p.seq q) c) := by
  intro reach memory hm
  obtain ⟨memory₁, hrun, hm₁⟩ := hp reach memory hm
  rw [Peg.run, hrun, L.reading_seq]
  rcases ha : (L.reading p c).answer with _ | ⟨a, c₁⟩
  · rw [Reading.bind_of_none ha]
    exact ⟨memory₁, rfl, hm₁⟩
  · obtain ⟨memory₂, hrun₂, hm₂⟩ := hq a c₁ ha _ memory₁ hm₁
    rw [← Reach.noteEach_append] at hrun₂ hm₂
    rw [Reading.bind_of_some ha]
    simp only [hrun₂]
    rcases hb : (L.reading q c₁).answer with _ | ⟨b, c₂⟩
    · rw [Reading.bind_of_none hb]
      exact ⟨memory₂, rfl, hm₂⟩
    · rw [Reading.bind_of_some hb]
      simp only [Reading.pure, List.append_nil]
      exact ⟨memory₂, rfl, hm₂⟩

/-- The rules that may be called when `p` is read at `c`, on the way from `s`, follow. -/
def CallsFollow (I : Reach → σ → Prop) (T : Terminal → Prop) (s : Cursor)
    (call : (r : R) → Reader σ (Result r)) (p : Peg Result α) (c : Cursor) : Prop :=
  ∀ r c', s.Leads (Token.Fits T) c' → L.bound (.rule r : Peg Result (Result r)) c' ≤ L.bound p c →
    (call r).Follows I c' (L.reading (.rule r) c')

variable {L} in
theorem CallsFollow.mono {β : Type} {p : Peg Result α} {q : Peg Result β} {c c' : Cursor}
    (h : L.CallsFollow I T s call p c) (hq : L.bound q c' ≤ L.bound p c) :
    L.CallsFollow I T s call q c' :=
  fun r c'' hl hr => h r c'' hl (Nat.le_trans hr hq)

include hT in
theorem many_follows {p : Peg Result α} (hreg : p.regular = true) (hnull : p.nullable = false)
    (hp : ∀ t ∈ p.terminals, T t)
    (hone : ∀ c, s.Leads (Token.Fits T) c → L.CallsFollow I T s call p c →
      (p.run call).Follows I c (L.reading p c))
    (bound : List Token) {c : Cursor} (hc : s.Leads (Token.Fits T) c)
    (hcall : L.CallsFollow I T s call p c) (hb : c.rest.length ≤ bound.length) (reach : Reach)
    (memory : σ) (hm : I reach memory) :
    ∃ as c' memory', (L.reading (.many p) c).answer = some (as, c') ∧
      Reader.many (p.run call) bound c (reach, memory) =
        ((as, c'), reach.noteEach (L.reading (.many p) c).asked, memory') ∧
      I (reach.noteEach (L.reading (.many p) c).asked) memory' := by
  induction bound generalizing c reach memory with
  | nil =>
    obtain ⟨memory', hrun, hm'⟩ := hone c hc hcall reach memory hm
    have hnone : (L.reading p c).answer = none := by
      rcases h : (L.reading p c).answer with _ | ⟨a, c'⟩
      · rfl
      · have := L.reading_shorter hnull h
        simp only [List.length_nil] at hb
        omega
    rw [L.reading_many p c hnull, Reading.bind_of_none hnone, Reading.orElse_of_none rfl]
    refine ⟨[], c, memory', rfl, ?_, ?_⟩
    · rw [Reader.many, hrun]
      simp only [Reading.pure, List.append_nil]
    · simpa only [Reading.pure, List.append_nil] using hm'
  | cons t bound ih =>
    obtain ⟨memory₁, hrun, hm₁⟩ := hone c hc hcall reach memory hm
    rw [Reader.many, hrun, L.reading_many p c hnull]
    rcases ha : (L.reading p c).answer with _ | ⟨a, c₁⟩
    · rw [Reading.bind_of_none ha, Reading.orElse_of_none rfl]
      simp only [Reading.pure, List.append_nil]
      exact ⟨[], c, memory₁, rfl, rfl, hm₁⟩
    · have hlt := L.reading_shorter hnull ha
      have hc₁ := hc.trans ((L.reading_stays hT hreg hp c).leads a c₁ ha)
      simp only [List.length_cons] at hb
      obtain ⟨as, c₂, memory₂, hmore, hruns, hm₂⟩ :=
        ih hc₁ (hcall.mono (L.bound_of_shorter hlt)) (by omega) _ memory₁ hm₁
      rw [Reading.bind_of_some ha, Reading.bind_of_some hmore, Reading.orElse_of_some rfl]
      simp only [hruns, Reading.pure, List.append_nil, Reach.noteEach_append]
      exact ⟨a :: as, c₂, memory₂, rfl, rfl, hm₂⟩

include hI hT in
/-- By induction on the expression: its parts note their requests in the order of the reading. -/
theorem run_follows {p : Peg Result α} (hreg : p.regular = true) (hp : ∀ t ∈ p.terminals, T t)
    {c : Cursor} (hc : s.Leads (Token.Fits T) c) (hcall : L.CallsFollow I T s call p c) :
    (p.run call).Follows I c (L.reading p c) := by
  induction p generalizing c with
  | token t => exact L.token_follows hI t c
  | oneOf table =>
    intro reach memory hm
    refine ⟨memory, ?_, hI _ _ _ hm⟩
    rw [Peg.run, reading, Peg.read]
    split
    · rename_i h
      rw [h]
      rfl
    · rename_i h
      rw [h, Reach.noteAll_eq_noteEach]
      rfl
  | seq p q ihp ihq =>
    obtain ⟨hregp, hregq⟩ := Bool.and_eq_true_iff.1 hreg
    obtain ⟨hp, hq⟩ := List.forall_mem_append.1 hp
    have hcallp := hcall.mono (L.bound_le_seq p q c)
    refine L.seq_follows (ihp hregp hp hc hcallp) fun a c₁ ha => ?_
    have hc₁ := hc.trans ((L.reading_stays hT hregp hp c).leads a c₁ ha)
    exact ihq hregq hq hc₁ (hcall.mono (L.bound_seq (L.reading_proceeds p c) ha))
  | choice p q ihp ihq =>
    intro reach memory hm
    obtain ⟨hregp, hregq⟩ := Bool.and_eq_true_iff.1 hreg
    obtain ⟨hp, hq⟩ := List.forall_mem_append.1 hp
    obtain ⟨hlep, hleq⟩ := L.bound_le_choice p q c
    obtain ⟨memory₁, hrun, hm₁⟩ := ihp hregp hp hc (hcall.mono hlep) reach memory hm
    rw [Peg.run, hrun, L.reading_choice]
    rcases ha : (L.reading p c).answer with _ | ⟨a, c₁⟩
    · rw [Reading.orElse_of_none ha, Reach.noteEach_append]
      exact ihq hregq hq hc (hcall.mono hleq) _ memory₁ hm₁
    · rw [Reading.orElse_of_some ha, ha]
      exact ⟨memory₁, rfl, hm₁⟩
  | map f p ih => exact .bind_quiet (ih hreg hp hc hcall) (fun _ _ => rfl) fun _ => rfl
  | filterMap f p ih => exact .bind_quiet (ih hreg hp hc hcall) (fun _ _ => rfl) fun _ => rfl
  | opt p ih =>
    intro reach memory hm
    obtain ⟨memory₁, hrun, hm₁⟩ := ih hreg hp hc hcall reach memory hm
    rw [Peg.run, hrun, L.reading_opt]
    rcases ha : (L.reading p c).answer with _ | ⟨a, c₁⟩
    · rw [Reading.bind_of_none ha, Reading.orElse_of_none rfl]
      simp only [Reading.pure, List.append_nil]
      exact ⟨memory₁, rfl, hm₁⟩
    · rw [Reading.bind_of_some ha, Reading.orElse_of_some rfl]
      simp only [Reading.pure, List.append_nil]
      exact ⟨memory₁, rfl, hm₁⟩
  | many p ih =>
    intro reach memory hm
    obtain ⟨hnull, hreg⟩ := Bool.and_eq_true_iff.1 hreg
    rw [Bool.not_eq_true'] at hnull
    obtain ⟨as, c', memory', hread, hrun, hm'⟩ := L.many_follows hT hreg hnull hp
      (fun c hc hcall => ih hreg hp hc hcall) c.rest hc hcall (Nat.le_refl _) reach memory hm
    rw [Peg.run, hrun, hread]
    exact ⟨memory', rfl, hm'⟩
  | spanned p ih =>
    have hreg := (Bool.and_eq_true_iff.1 hreg).2
    exact .bind_quiet (ih hreg hp hc hcall) (fun _ _ => rfl) fun _ => rfl
  | rule r => exact hcall r c hc (Nat.le_refl _)

end Run

/-! ## Rules that are read afresh -/

theorem runRule_follows (memory : σ) {d : Nat} {r : R} {c : Cursor}
    (hd : L.bound (.rule r : Peg Result (Result r)) c ≤ d) :
    (Peg.runRule grammar d r).Follows (fun _ m => m = memory) c (L.reading (.rule r) c) := by
  induction d generalizing r c with
  | zero => exact absurd hd (Nat.not_succ_le_zero _)
  | succ d ih =>
    have hstep := L.bound_rule r c
    rw [L.reading_rule]
    exact L.run_follows (T := fun _ => True) (fun _ _ _ h => h) (fun _ _ _ => trivial)
      (L.regular r) (fun _ _ => trivial) (.refl c) fun r' c' _ hr => ih (by omega)

/-! ## Rules with their answers kept -/

section Kept

variable [DecidableEq R] [Hashable R] (T : Terminal → Prop) (s : Cursor) (k : Nat)

/-- What is kept for a place on the way from `s` is what is read there, and the reach covers all
that it asked for. Nothing is kept for places after `k`. -/
structure Recalls (reach : Reach) (memory : Peg.Memory Result) : Prop where
  answer : ∀ r c, s.Leads (Token.Fits T) c → ∀ a ∈ memory.get? (c.position, r),
    a = (L.reading (.rule r) c).answer
  covers : ∀ r c, s.Leads (Token.Fits T) c → (c.position, r) ∈ memory →
    ∀ e ∈ (L.reading (.rule r) c).asked, reach.Covers e
  position_le : ∀ key ∈ memory, key.1 ≤ k

variable {L T s k} {reach : Reach} {memory : Peg.Memory Result}

theorem Recalls.of_lt (h : ∀ key ∈ memory, key.1 < s.position) (hk : s.position ≤ k) :
    L.Recalls T s k reach memory := by
  have hnew {r : R} {c : Cursor} (hc : s.Leads (Token.Fits T) c) : (c.position, r) ∉ memory :=
    fun hmem => absurd (h _ hmem) (Nat.not_lt_of_le hc.le)
  refine ⟨fun r c hc a ha => ?_, fun r c hc hmem => absurd hmem (hnew hc), fun key hkey => ?_⟩
  · rw [Std.DHashMap.get?_eq_none (hnew hc)] at ha
    cases ha
  · exact Nat.le_trans (Nat.le_of_lt (h key hkey)) hk

theorem Recalls.noteEach (h : L.Recalls T s k reach memory) (asked : List Request) :
    L.Recalls T s k (reach.noteEach asked) memory :=
  ⟨h.answer, fun r c hc hmem e he => (h.covers r c hc hmem e he).noteEach asked, h.position_le⟩

theorem Recalls.insert (h : L.Recalls T s k reach memory) {r : R} {c : Cursor}
    (hc : s.Leads (Token.Fits T) c) (hk : c.position ≤ k)
    (hnoted : ∀ e ∈ (L.reading (.rule r) c).asked, reach.Covers e) :
    L.Recalls T s k reach (memory.insert (c.position, r) (L.reading (.rule r) c).answer) := by
  have hsame {r' : R} {c' : Cursor} (hc' : s.Leads (Token.Fits T) c')
      (heq : (c.position, r) = (c'.position, r')) : r' = r ∧ c' = c := by
    obtain ⟨ts, ht, _⟩ := hc
    obtain ⟨us, hu, _⟩ := hc'
    rw [Prod.mk.injEq] at heq
    exact ⟨heq.2.symm, hu.unique ht heq.1.symm⟩
  refine ⟨fun r' c' hc' a ha => ?_, fun r' c' hc' hmem e he => ?_, fun key hkey => ?_⟩
  · rw [Std.DHashMap.get?_insert] at ha
    split at ha
    · rename_i heq
      obtain ⟨rfl, rfl⟩ := hsame hc' (eq_of_beq heq)
      cases ha
      rfl
    · exact h.answer r' c' hc' a ha
  · rcases Std.DHashMap.mem_insert.1 hmem with heq | hmem
    · obtain ⟨rfl, rfl⟩ := hsame hc' (eq_of_beq heq)
      exact hnoted e he
    · exact h.covers r' c' hc' hmem e he
  · rcases Std.DHashMap.mem_insert.1 hkey with heq | hkey
    · rw [← eq_of_beq heq]
      exact hk
    · exact h.position_le key hkey

variable (L) in
/-- A kept answer records no reach, and need not: its requests are covered. -/
theorem runCached_follows (hT : ∀ r, ∀ t ∈ (grammar r).terminals, T t) (keep : R → Bool)
    (hs : s.StopsAt (Token.Fits T) k) {d : Nat} {r : R} {c : Cursor} (hc : s.Leads (Token.Fits T) c)
    (hd : L.bound (.rule r : Peg Result (Result r)) c ≤ d) :
    (Peg.runCached grammar keep d r).Follows (L.Recalls T s k) c (L.reading (.rule r) c) := by
  induction d generalizing r c with
  | zero => exact absurd hd (Nat.not_succ_le_zero _)
  | succ d ih =>
    intro reach memory hm
    have hstep := L.bound_rule r c
    have hcall : L.CallsFollow (L.Recalls T s k) T s (Peg.runCached grammar keep d) (grammar r) c :=
      fun r' c' hc' hr => ih hc' (by omega)
    obtain ⟨memory', hrun, hm'⟩ := L.run_follows (fun _ _ asked h => h.noteEach asked) hT
      (L.regular r) (hT r) hc hcall reach memory hm
    rw [← L.reading_rule] at hrun hm'
    rw [Peg.runCached]
    split
    · split
      · rename_i answer hget
        have hmem : (c.position, r) ∈ memory :=
          Std.DHashMap.mem_iff_isSome_get?.2 (Option.isSome_of_mem hget)
        rw [hm.answer r c hc answer hget, Reach.noteEach_of_covers (hm.covers r c hc hmem)]
        exact ⟨memory, rfl, hm⟩
      · rw [hrun]
        exact ⟨_, rfl, hm'.insert hc (hc.le_of_stopsAt hs) fun e he => Reach.covers_noteEach _ he⟩
    · exact ⟨memory', hrun, hm'⟩

end Kept

end Layers

end ModelLang
