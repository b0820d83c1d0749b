import Mathlib.Algebra.Ring.Nat
import Mathlib.Data.List.TakeWhile
import ModelLang.Proofs.Excerpt

/-!
# ModelLang.Proofs.Quotation

Tables whose fields stand in double quotes. Such a field may hold what would end a field without
quotes, but a character that starts a comment cuts the line inside quotes too: rows of quoted fields
are read back as they were if and only if no field holds one (`Table.rows_quoted_exact`).
-/

namespace ModelLang.Table

open Text.CharClass (isBlank isDigit toggles trim)

/-! ## Fields in quotes -/

theorem mem_of_mem_intercalate {α : Type} {separator : List α} {parts : List (List α)} {a : α}
    (h : a ∈ separator.intercalate parts) : a ∈ separator ∨ ∃ part ∈ parts, a ∈ part := by
  induction parts with
  | nil => cases h
  | cons part parts ih =>
    cases parts with
    | nil =>
      rw [List.intercalate_singleton] at h
      exact .inr ⟨part, List.mem_singleton_self part, h⟩
    | cons next parts =>
      rw [List.intercalate_cons_cons, List.append_assoc, List.mem_append, List.mem_append] at h
      rcases h with ha | ha | ha
      · exact .inr ⟨part, List.mem_cons_self, ha⟩
      · exact .inl ha
      · exact (ih ha).imp_right fun ⟨other, hother, ha⟩ =>
          ⟨other, List.mem_cons_of_mem part hother, ha⟩

/-- A field in double quotes. -/
def quoted (field : String) : List Char :=
  '"' :: (field.toList ++ ['"'])

/-- A line of fields in quotes, with a space between each two. -/
def quotedLine (row : List String) : List Char :=
  [' '].intercalate (row.map quoted)

theorem quotedLine_singleton (field : String) : quotedLine [field] = quoted field :=
  List.intercalate_singleton

theorem quotedLine_cons_cons (field next : String) (row : List String) :
    quotedLine (field :: next :: row) = quoted field ++ ' ' :: quotedLine (next :: row) := by
  rw [quotedLine, List.map_cons, List.map_cons, List.intercalate_cons_cons, List.append_assoc,
    List.singleton_append]
  rfl

/-- A line is what stands before its last quote, which is its last character. -/
theorem quotedLine_ends {row : List String} (h : row ≠ []) :
    ∃ inner, quotedLine row = '"' :: (inner ++ ['"']) := by
  induction row with
  | nil => exact absurd rfl h
  | cons field row ih =>
    cases row with
    | nil => exact ⟨field.toList, quotedLine_singleton field⟩
    | cons next row =>
      obtain ⟨inner, hinner⟩ := ih (List.cons_ne_nil next row)
      refine ⟨field.toList ++ '"' :: ' ' :: '"' :: inner, ?_⟩
      rw [quotedLine_cons_cons, hinner, quoted]
      simp

theorem mem_quotedLine {row : List String} {c : Char} (h : c ∈ quotedLine row) :
    c = '"' ∨ c = ' ' ∨ ∃ field ∈ row, c ∈ field.toList := by
  rcases mem_of_mem_intercalate h with hc | ⟨part, hpart, hc⟩
  · exact .inr (.inl (List.mem_singleton.1 hc))
  · obtain ⟨field, hfield, rfl⟩ := List.mem_map.1 hpart
    rw [quoted, List.mem_cons, List.mem_append, List.mem_singleton] at hc
    rcases hc with hc | hc | hc
    · exact .inl hc
    · exact .inr (.inr ⟨field, hfield, hc⟩)
    · exact .inl hc

/-! ## Reading fields in quotes -/

theorem fields_quote {field : List Char} (h : '"' ∉ field) (rest : List Char) :
    fields ('"' :: (field ++ '"' :: rest)) = field :: fields rest := by
  have hfield : ∀ c ∈ field, decide (c ≠ '"') = true := by
    intro c hc
    rw [decide_eq_true_iff]
    rintro rfl
    exact h hc
  have hdrop : (field ++ '"' :: rest).dropWhile (· ≠ '"') = '"' :: rest := by
    rw [List.dropWhile_append_of_pos hfield]
    rfl
  have htake : (field ++ '"' :: rest).takeWhile (· ≠ '"') = field := by
    rw [List.takeWhile_append_of_pos hfield, List.takeWhile_cons]
    simp
  rw [fields, if_pos rfl, htake]
  split
  · rename_i after heq
    rw [hdrop] at heq
    rw [(List.cons.inj heq).2]
  · rename_i heq
    rw [hdrop] at heq
    cases heq

theorem fields_space (rest : List Char) : fields (' ' :: rest) = fields rest := by
  rw [fields, if_neg (by decide), if_pos (by decide)]

theorem fields_quotedLine {row : List String} (h : ∀ field ∈ row, '"' ∉ field.toList) :
    fields (quotedLine row) = row.map String.toList := by
  induction row with
  | nil => rw [quotedLine, List.map_nil, List.intercalate_nil, fields, List.map_nil]
  | cons field row ih =>
    obtain ⟨hfield, hrow⟩ := List.forall_mem_cons.1 h
    cases row with
    | nil =>
      rw [quotedLine_singleton, quoted, fields_quote hfield, fields]
      rfl
    | cons next row =>
      rw [quotedLine_cons_cons, quoted, List.cons_append, List.append_assoc, List.singleton_append,
        fields_quote hfield, fields_space, ih hrow]
      rfl

/-- Fields are made of the characters of their line. -/
theorem subset_of_mem_fields {cs field : List Char} (h : field ∈ fields cs) : field ⊆ cs := by
  fun_induction fields cs with
  | case1 => cases h
  | case2 rest quote after hdrop ih =>
    rcases List.mem_cons.1 h with rfl | hmem
    · exact List.subset_cons_of_subset _ (List.takeWhile_sublist _).subset
    · have hafter : after ⊆ rest := fun c hc =>
        (List.dropWhile_sublist _).subset (hdrop ▸ List.mem_cons_of_mem quote hc)
      exact List.subset_cons_of_subset _ (List.Subset.trans (ih hmem) hafter)
  | case3 rest hdrop ih => exact List.subset_cons_of_subset _ (ih h)
  | case4 c rest hquote hseparator ih => exact List.subset_cons_of_subset c (ih h)
  | case5 c rest hquote hseparator ih =>
    rcases List.mem_cons.1 h with rfl | hmem
    · exact List.cons_subset_cons c (List.takeWhile_sublist _).subset
    · exact List.subset_cons_of_subset c
        (List.Subset.trans (ih hmem) (List.dropWhile_sublist _).subset)

/-! ## Columns of strings -/

/-- So many columns of strings, from the one at `i`. -/
def stringColumns (i n : Nat) : List Column :=
  (List.range' i n).map fun position => ⟨position, .text⟩

section Row

variable {table : String} {line : Nat}

/-- The columns from `i + 1` on take the fields after the first `i`. -/
theorem pickAll_stringColumns {fs : List (List Char)} {i n : Nat} (h : i + n = fs.length) :
    pickAll table line fs (stringColumns (i + 1) n) =
      .ok ((fs.drop i).map fun field => .text (String.ofList field)) := by
  induction n generalizing i with
  | zero =>
    rw [List.drop_eq_nil_of_le (by omega)]
    rfl
  | succ n ih =>
    have hi : i < fs.length := by omega
    have hpick : pick table line fs ⟨i + 1, .text⟩ = .ok (.text (String.ofList fs[i])) := by
      rw [pick, Nat.add_sub_cancel, List.getElem?_eq_getElem hi]
      rfl
    have hnext := ih (show i + 1 + n = fs.length by omega)
    rw [stringColumns, List.range'_succ, List.map_cons, pickAll, hpick, ← stringColumns, hnext,
      List.drop_eq_getElem_cons hi]
    rfl

/-- What columns of strings take are fields. -/
theorem mem_of_pickAll {fs : List (List Char)} {cs : List Column} (hcs : ∀ c ∈ cs, c.kind = .text)
    {t : Tuple} (h : pickAll table line fs cs = .ok t) :
    ∀ e ∈ t, ∃ field ∈ fs, e = .text (String.ofList field) := by
  induction cs generalizing t with
  | nil =>
    cases h
    exact List.forall_mem_nil _
  | cons c cs ih =>
    obtain ⟨hkind, hcs⟩ := List.forall_mem_cons.1 hcs
    rw [pickAll] at h
    cases hfield : fs[c.position - 1]? with
    | none =>
      rw [pick, hfield] at h
      cases h
    | some field =>
      rw [pick, hfield, hkind] at h
      simp only [convert] at h
      cases hrest : pickAll table line fs cs with
      | error cause =>
        rw [hrest] at h
        cases h
      | ok rest =>
        rw [hrest] at h
        cases h
        exact List.forall_mem_cons.2
          ⟨⟨field, List.mem_of_getElem? hfield, rfl⟩, ih hcs hrest⟩

end Row

/-! ## Templates of strings -/

/-- The template of the first `k` columns, all of strings. -/
def stringTemplate (k : Nat) : Template :=
  ⟨stringColumns 1 k, none⟩

/-- A column of strings in the text of a template. -/
def columnText (position : Nat) : List Char :=
  Nat.toDigits 10 position ++ ['s']

/-- The first `k` columns, all of strings, as they stand between the angle brackets. -/
def keyText (k : Nat) : List Char :=
  [','].intercalate ((List.range' 1 k).map columnText)

/-- The text of a template for the first `k` columns, all of strings. -/
def stringTemplateText (k : Nat) : List Char :=
  '<' :: (keyText k ++ ['>'])

theorem digit_bounds {c : Char} (h : c.isDigit = true) : 0x30 ≤ c.toNat ∧ c.toNat < 0x3a := by
  delta Char.isDigit at h
  rw [Bool.and_eq_true, decide_eq_true_iff, decide_eq_true_iff] at h
  obtain ⟨hlow, hhigh⟩ := h
  exact ⟨hlow, Nat.lt_succ_of_le hhigh⟩

theorem isDigit_of_ascii {c : Char} (h : c.isDigit = true) : isDigit c = true := by
  obtain ⟨hlow, hhigh⟩ := digit_bounds h
  rw [isDigit, Text.CharClass.contains, Text.CharClass.digit, toggles, if_neg (by omega), toggles,
    if_pos hhigh]
  rfl

theorem isBlank_of_ascii {c : Char} (h : c.isDigit = true) : isBlank c = false := by
  obtain ⟨hlow, hhigh⟩ := digit_bounds h
  rw [isBlank, Text.CharClass.contains, Text.CharClass.blank]
  iterate 4 rw [toggles, if_neg (by omega)]
  rw [toggles, if_pos (by omega)]
  rfl

theorem trim_eq_self {cs : List Char} (h : ∀ c ∈ cs, isBlank c = false) : trim cs = cs := by
  have hfront (ds : List Char) (hds : ∀ c ∈ ds, isBlank c = false) : ds.dropWhile isBlank = ds := by
    rw [List.dropWhile_eq_self_iff]
    intro hlength
    simp [hds]
  rw [trim, hfront cs h, hfront _ (by simpa using h), List.reverse_reverse]

theorem mem_columnText {position : Nat} {c : Char} (h : c ∈ columnText position) :
    c.isDigit = true ∨ c = 's' := by
  rw [columnText, List.mem_append, List.mem_singleton] at h
  exact h.imp_left (Nat.isDigit_of_mem_toDigits (by decide) (by decide))

theorem isBlank_columnText {position : Nat} : ∀ c ∈ columnText position, isBlank c = false := by
  intro c hc
  rcases mem_columnText hc with hdigit | rfl
  · exact isBlank_of_ascii hdigit
  · decide

theorem cutField?_columnText (position : Nat) :
    Template.cutField? (columnText position) = some (Nat.toDigits 10 position, .text) := by
  have hdigits : ∀ c ∈ Nat.toDigits 10 position, isDigit c = true := fun c hc =>
    isDigit_of_ascii (Nat.isDigit_of_mem_toDigits (by decide) (by decide) hc)
  have htake : (columnText position).takeWhile isDigit = Nat.toDigits 10 position := by
    rw [columnText, List.takeWhile_append_of_pos hdigits, List.takeWhile_cons,
      if_neg (by decide), List.append_nil]
  have hdrop : ((columnText position).dropWhile isDigit).dropWhile isBlank = ['s'] := by
    rw [columnText, List.dropWhile_append_of_pos hdigits]
    decide
  have hempty : (Nat.toDigits 10 position).isEmpty = false :=
    List.isEmpty_eq_false_iff.2 Nat.toDigits_ne_nil
  simp only [Template.cutField?, trim_eq_self isBlank_columnText, htake, hdrop, hempty]
  rfl

theorem column_columnText {position : Nat} (h : 1 ≤ position) :
    Template.column (columnText position) =
      if position < 2 ^ 64 then .ok ⟨position, .text⟩
      else .error (.badColumn (String.ofList (columnText position))) := by
  have hascii : (Nat.toDigits 10 position).all Char.isDigit = true :=
    List.all_eq_true.2 fun c hc => Nat.isDigit_of_mem_toDigits (by decide) (by decide) hc
  have hvalue : Numeral.ofDigits (Nat.toDigits 10 position) = position :=
    Nat.ofDigitChars_ten_toDigits
  have hzero : position ≠ 0 := by omega
  simp only [Template.column, cutField?_columnText, trim_eq_self isBlank_columnText, hascii, hvalue,
    Bool.not_true, Bool.false_or, decide_eq_true_iff, if_neg hzero]
  by_cases hlt : position < 2 ^ 64
  · rw [if_pos hlt, if_neg (show ¬ 0x10000000000000000 ≤ position by omega)]
  · rw [if_neg hlt, if_pos (show 0x10000000000000000 ≤ position by omega)]

/-- One column after the other, up to the first number that does not fit 64 bits. -/
theorem columns_columnText {i n : Nat} (hpos : 1 ≤ i) (hi : i ≤ 2 ^ 64) :
    Template.columns ((List.range' i n).map columnText) =
      if i + n ≤ 2 ^ 64 then .ok (stringColumns i n)
      else .error (.badColumn (String.ofList (columnText (2 ^ 64)))) := by
  induction n generalizing i with
  | zero =>
    rw [Nat.add_zero, if_pos hi]
    rfl
  | succ n ih =>
    rw [List.range'_succ, List.map_cons, Template.columns, column_columnText hpos]
    by_cases hlt : i < 2 ^ 64
    · rw [if_pos hlt]
      simp only [ih (Nat.le_add_left 1 i) hlt]
      rw [show i + 1 + n = i + (n + 1) by omega]
      split <;> rfl
    -- The numbers go up one by one, so the first that is too large is the least that is.
    · obtain rfl : i = 2 ^ 64 := by omega
      rw [if_neg hlt, if_neg (by omega)]

section TemplateText

variable {k : Nat}

theorem mem_keyText {c : Char} (h : c ∈ keyText k) : c = ',' ∨ c.isDigit = true ∨ c = 's' := by
  rcases mem_of_mem_intercalate h with hc | ⟨part, hpart, hc⟩
  · exact .inl (List.mem_singleton.1 hc)
  · obtain ⟨position, -, rfl⟩ := List.mem_map.1 hpart
    exact .inr (mem_columnText hc)

theorem cut?_stringTemplateText : Template.cut? (stringTemplateText k) = some (keyText k, []) := by
  have hinner : ∀ c ∈ keyText k, decide (c ≠ '>') = true := by
    intro c hc
    rw [decide_eq_true_iff]
    rintro rfl
    rcases mem_keyText hc with h | h | h
    all_goals cases h
  have hfront : (stringTemplateText k).dropWhile isBlank = stringTemplateText k := by
    rw [stringTemplateText, List.dropWhile_cons, if_neg (by decide)]
  have htake : (keyText k ++ ['>']).takeWhile (· ≠ '>') = keyText k := by
    rw [List.takeWhile_append_of_pos hinner, List.takeWhile_cons, if_neg (by decide),
      List.append_nil]
  have hdrop : (keyText k ++ ['>']).dropWhile (· ≠ '>') = ['>'] := by
    rw [List.dropWhile_append_of_pos hinner]
    rfl
  rw [Template.cut?, hfront, stringTemplateText]
  simp only [htake, hdrop]
  rfl

theorem fields_keyText (hk : 1 ≤ k) :
    ((keyText k).splitOn ',').filter (fun field => ! field.all isBlank) =
      (List.range' 1 k).map columnText := by
  have hne : (List.range' 1 k).map columnText ≠ [] := by
    rw [Ne, List.map_eq_nil_iff, List.range'_eq_nil_iff]
    omega
  have hcomma : ∀ part ∈ (List.range' 1 k).map columnText, ',' ∉ part := by
    rw [List.forall_mem_map]
    intro position _ hc
    rcases mem_columnText hc with h | h
    all_goals cases h
  have hblank : ∀ part ∈ (List.range' 1 k).map columnText, (! part.all isBlank) = true := by
    rw [List.forall_mem_map]
    intro position _
    rw [columnText, List.all_append, show ['s'].all isBlank = false by decide, Bool.and_false]
    rfl
  rw [keyText, List.splitOn_intercalate ',' hcomma hne, List.filter_eq_self.2 hblank]

/-- The text of the template is understood as long as each column has a number of 64 bits. -/
theorem ofText_stringTemplateText (hk : 1 ≤ k) :
    Template.ofText (String.ofList (stringTemplateText k)) =
      if k < 2 ^ 64 then .ok (stringTemplate k)
      else .error (.badColumn (String.ofList (columnText (2 ^ 64)))) := by
  simp only [Template.ofText, String.toList_ofList, cut?_stringTemplateText,
    fields_keyText hk, columns_columnText (Nat.le_refl 1) (show 1 ≤ 2 ^ 64 by decide)]
  by_cases hlt : k < 2 ^ 64
  · obtain ⟨n, rfl⟩ := Nat.exists_eq_add_of_le' hk
    rw [if_pos hlt, if_pos (show 1 + (n + 1) ≤ 2 ^ 64 by omega)]
    rfl
  · rw [if_neg hlt, if_neg (show ¬ 1 + k ≤ 2 ^ 64 by omega)]

end TemplateText

/-! ## Lines and their rows -/

/-- A row of strings. -/
def stringRow (row : List String) : Row :=
  (row.map .text, none)

/-- No field holds the character that starts a comment. -/
def Uncommented (row : List String) : Prop :=
  ∀ field ∈ row, '#' ∉ field.toList

theorem content?_quotedLine {row : List String} (h : row ≠ []) :
    Options.default.content? (quotedLine row) = some ((quotedLine row).takeWhile (· ≠ '#')) := by
  have hcomment : (fun c => ! Options.default.comment.contains c) = fun c => decide (c ≠ '#') := by
    funext c
    simp [Options.default]
  obtain ⟨inner, hinner⟩ := quotedLine_ends h
  have hblank : ((quotedLine row).takeWhile (· ≠ '#')).all isBlank = false := by
    rw [hinner, List.takeWhile_cons, if_pos (by decide), List.all_cons,
      show isBlank '"' = false by decide, Bool.false_and]
  simp only [Options.content?, hcomment, hblank]
  rfl

section Line

variable (table : String) (line : Nat) {row : List String}
  (hquote : ∀ field ∈ row, '"' ∉ field.toList)

include hquote

/-- The row of a line is what was written if and only if no comment starts inside it. -/
theorem row_quotedLine_iff :
    Table.row table (stringTemplate row.length) line
        (fields ((quotedLine row).takeWhile (· ≠ '#'))) = .ok (stringRow row) ↔
      Uncommented row := by
  constructor
  · intro h field hfield
    rw [Table.row] at h
    cases hkey : pickAll table line (fields ((quotedLine row).takeWhile (· ≠ '#')))
      (stringTemplate row.length).key with
    | error cause =>
      rw [hkey] at h
      cases h
    | ok key =>
      rw [hkey] at h
      obtain rfl : key = row.map .text := congrArg Prod.fst (Except.ok.inj h)
      have hkind : ∀ c ∈ (stringTemplate row.length).key, c.kind = .text := by
        intro c hc
        obtain ⟨position, -, rfl⟩ := List.mem_map.1 hc
        rfl
      obtain ⟨read, hread, heq⟩ := mem_of_pickAll hkind hkey _ (List.mem_map_of_mem hfield)
      intro hmem
      -- What is read consists of characters before the first `#`, so it cannot hold one.
      rw [Elem.text.inj heq, String.toList_ofList] at hmem
      have hcut := List.mem_takeWhile_imp (subset_of_mem_fields hread hmem)
      exact absurd rfl (of_decide_eq_true hcut)
  · intro h
    have hline : (quotedLine row).takeWhile (· ≠ '#') = quotedLine row := by
      rw [List.takeWhile_eq_self_iff]
      intro c hc
      rw [decide_eq_true_iff]
      rintro rfl
      rcases mem_quotedLine hc with heq | heq | ⟨field, hfield, hmem⟩
      · cases heq
      · cases heq
      · exact h field hfield hmem
    have htext : (row.map String.toList).map (fun field => Elem.text (String.ofList field)) =
        row.map .text := by
      rw [List.map_map]
      exact List.map_congr_left fun field _ => congrArg Elem.text String.ofList_toList
    have hlength : 0 + row.length = (row.map String.toList).length := by
      rw [List.length_map, Nat.zero_add]
    have hkey : pickAll table line (row.map String.toList) (stringTemplate row.length).key =
        .ok (row.map .text) := by
      rw [← htext]
      exact pickAll_stringColumns hlength
    rw [hline, fields_quotedLine hquote, Table.row, hkey]
    rfl

end Line

/-! ## Texts of quoted lines -/

/-- Rows as a text, one a line, their fields in quotes. -/
def quotedText (written : List (List String)) : List Char :=
  Text.join (written.map quotedLine)

section Rows

variable {k : Nat} (hk : 1 ≤ k) {written : List (List String)}
  (hlength : ∀ row ∈ written, row.length = k)

include hk hlength

theorem lines_quotedText (hfeed : ∀ row ∈ written, ∀ field ∈ row, '\n' ∉ field.toList) :
    Text.lines (quotedText written) = written.map quotedLine := by
  have hlines : ∀ cs ∈ written.map quotedLine, '\n' ∉ cs ∧ Text.unreturned cs = cs := by
    rw [List.forall_mem_map]
    intro row hrow
    constructor
    · intro hmem
      rcases mem_quotedLine hmem with heq | heq | ⟨field, hfield, hmem⟩
      · cases heq
      · cases heq
      · exact hfeed row hrow field hfield hmem
    · have hne : row ≠ [] := List.ne_nil_of_length_pos (hlength row hrow ▸ hk)
      obtain ⟨inner, hinner⟩ := quotedLine_ends hne
      rw [Text.unreturned, hinner, List.reverse_cons, List.reverse_append]
      simp [Text.dropReturn]
  rw [quotedText, Text.lines_join fun cs hcs => (hlines cs hcs).1]
  exact (List.map_congr_left fun cs hcs => (hlines cs hcs).2).trans (List.map_id _)

theorem readings_quotedLines_iff (hquote : ∀ row ∈ written, ∀ field ∈ row, '"' ∉ field.toList)
    (table : String) (line : Nat) :
    readings table (stringTemplate k) Options.default.content? line (written.map quotedLine) =
        (written.map stringRow).map .ok ↔
      ∀ row ∈ written, Uncommented row := by
  induction written generalizing line with
  | nil => simp [readings]
  | cons row rest ih =>
    obtain ⟨hrow, hrest⟩ := List.forall_mem_cons.1 hlength
    obtain ⟨hrowquote, hrestquote⟩ := List.forall_mem_cons.1 hquote
    have hne : row ≠ [] := List.ne_nil_of_length_pos (hrow ▸ hk)
    have hiff := row_quotedLine_iff table line hrowquote
    rw [hrow] at hiff
    simp only [List.map_cons, readings, content?_quotedLine hne, List.cons.injEq, hiff,
      ih hrest hrestquote, List.forall_mem_cons]

end Rows

/-- Rows of quoted fields. The template that takes all `k` columns as strings is understood if their
numbers fit 64 bits. With it rows whose fields hold neither quotes nor line feeds are read back from
their text if and only if no field holds `#`, which starts a comment in quotes as well. -/
theorem rows_quoted_exact (table : String) {k : Nat} (hk : 1 ≤ k) {written : List (List String)}
    (hlength : ∀ row ∈ written, row.length = k)
    (hplain : ∀ row ∈ written, ∀ field ∈ row, '"' ∉ field.toList ∧ '\n' ∉ field.toList) :
    Template.ofText (String.ofList (stringTemplateText k)) =
        (if k < 2 ^ 64 then .ok (stringTemplate k)
        else .error (.badColumn (String.ofList (columnText (2 ^ 64))))) ∧
      (rows table (stringTemplate k) .default (quotedText written) = .ok (written.map stringRow) ↔
        ∀ row ∈ written, Uncommented row) := by
  refine ⟨ofText_stringTemplateText hk, ?_⟩
  have hquote : ∀ row ∈ written, ∀ field ∈ row, '"' ∉ field.toList :=
    fun row hrow field hfield => (hplain row hrow field hfield).1
  have hfeed : ∀ row ∈ written, ∀ field ∈ row, '\n' ∉ field.toList :=
    fun row hrow field hfield => (hplain row hrow field hfield).2
  have hlimit : Options.default.limit = none := rfl
  have hskip : Options.default.skip = 0 := rfl
  rw [rows_eq, lines_quotedText hk hlength hfeed, hlimit, limited_none, hskip, List.drop_zero,
    Results.mapM_eq_ok_iff]
  exact readings_quotedLines_iff hk hlength hquote table 1

theorem rows_quoted_exact_pairs :
    Template.ofText "<1s,2s>" = .ok ⟨[⟨1, .text⟩, ⟨2, .text⟩], none⟩ ∧
      rows "t" ⟨[⟨1, .text⟩, ⟨2, .text⟩], none⟩ .default
          "\"a b\" \"c,d\"\n\"\" \"x;y: z\"\n".toList =
        .ok [([.text "a b", .text "c,d"], none), ([.text "", .text "x;y: z"], none)] := by
  obtain ⟨htemplate, hrows⟩ := @rows_quoted_exact "t" 2 (by decide)
    [["a b", "c,d"], ["", "x;y: z"]] (by decide) (by decide)
  have htext : quotedText [["a b", "c,d"], ["", "x;y: z"]] =
      "\"a b\" \"c,d\"\n\"\" \"x;y: z\"\n".toList := by
    decide
  have hread := hrows.2 (by unfold Uncommented; decide)
  rw [htext] at hread
  exact ⟨htemplate, hread⟩

example : rows "t" ⟨[⟨1, .text⟩], none⟩ .default "\"a#b\"\n".toList =
    .ok [([.text "a"], none)] := by
  decide +kernel

end ModelLang.Table
