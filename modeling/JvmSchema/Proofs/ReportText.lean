import JvmSchema.Report
import Mathlib.Algebra.Order.BigOperators.Group.List
import Mathlib.Algebra.Order.Ring.Nat

/-!
# Reading reports in text form

The text form has a line for each row, which ends in a tab and a keyword. A reader that cuts the
text after every line feed and each line at its last tab gives the rows again, whatever tabs and
keywords the descriptors contain, because no keyword contains a tab (`rowOf?_rowChars`).

It does so exactly when no descriptor contains a line feed. Every line feed in a descriptor makes
one line more than there are rows (`length_lines_render`), and the lines can be forged rows.
-/

set_option autoImplicit false
set_option relaxedAutoImplicit false

namespace JvmSchema

/-- A keyword consists of letters. -/
theorem Kind.notMem_keyword {char : Char} (h : ¬ char.isAlpha) (kind : Kind) :
    char ∉ kind.keyword.toList := by
  have hletters : kind.keyword.toList.all Char.isAlpha := by
    cases kind <;> decide +kernel
  exact fun hchar ↦ h (List.all_eq_true.1 hletters char hchar)

namespace Report

/-! ### The reader -/

/-- The lines of a text, which is cut after every line feed. -/
def lines : List Char → List (List Char)
  | [] => []
  | char :: rest =>
    if char = '\n' then [] :: lines rest
    else
      match lines rest with
      | [] => [[char]]
      | line :: more => (char :: line) :: more

/-- What stands before and after the last tab of a line. -/
def splitAtLastTab : List Char → Option (List Char × List Char)
  | [] => none
  | char :: rest =>
    match splitAtLastTab rest with
    | some (before, after) => some (char :: before, after)
    | none => if char = '\t' then some ([], rest) else none

/-- The row that a line stands for: a descriptor, the last tab and a keyword. -/
def rowOf? (line : List Char) : Option (Descriptor × Kind) :=
  match splitAtLastTab line with
  | some (before, after) =>
    match Kind.parse (String.ofList after) with
    | .ok kind => some (⟨String.ofList before⟩, kind)
    | .error _ => none
  | none => none

/-- The rows of a text, unless one of its lines is no row. -/
def readText (text : String) : Option Report :=
  (lines text.toList).mapM rowOf?

/-! ### Lines -/

theorem lines_append {line : List Char} (h : '\n' ∉ line) (rest : List Char) :
    lines (line ++ '\n' :: rest) = line :: lines rest := by
  induction line with
  | nil => simp [lines]
  | cons char line ih =>
    rw [List.mem_cons, not_or] at h
    rw [List.cons_append, lines, if_neg (Ne.symm h.1), ih h.2]

/-- A line feed ends a line, wherever it stands. -/
theorem length_lines_append (text rest : List Char) :
    (lines (text ++ '\n' :: rest)).length = text.count '\n' + 1 + (lines rest).length := by
  induction text with
  | nil => simp [lines, Nat.add_comm]
  | cons char text ih =>
    rw [List.cons_append, lines]
    by_cases h : char = '\n'
    · rw [if_pos h, List.length_cons, ih, h, List.count_cons_self]
      omega
    · rw [if_neg h, List.count_cons_of_ne h, ← ih]
      cases hlines : lines (text ++ '\n' :: rest) with
      | nil =>
        rw [hlines, List.length_nil] at ih
        omega
      | cons line more => rfl

/-! ### Rows -/

theorem splitAtLastTab_of_notMem {line : List Char} (h : '\t' ∉ line) :
    splitAtLastTab line = none := by
  induction line with
  | nil => rfl
  | cons char rest ih =>
    rw [List.mem_cons, not_or] at h
    rw [splitAtLastTab, ih h.2]
    exact if_neg (Ne.symm h.1)

theorem splitAtLastTab_append (before : List Char) {after : List Char} (h : '\t' ∉ after) :
    splitAtLastTab (before ++ '\t' :: after) = some (before, after) := by
  induction before with
  | nil =>
    rw [List.nil_append, splitAtLastTab, splitAtLastTab_of_notMem h]
    rfl
  | cons char before ih => rw [List.cons_append, splitAtLastTab, ih]

/-- A row as it is written, without the line feed that ends it. -/
def rowChars (row : Descriptor × Kind) : List Char :=
  row.1.text.toList ++ '\t' :: row.2.keyword.toList

theorem rowOf?_rowChars (row : Descriptor × Kind) : rowOf? (rowChars row) = some row := by
  obtain ⟨⟨text⟩, kind⟩ := row
  rw [rowOf?, rowChars, splitAtLastTab_append _ (Kind.notMem_keyword (by decide) kind)]
  simp only [String.ofList_toList, Kind.parse_keyword]

theorem count_rowChars (row : Descriptor × Kind) :
    (rowChars row).count '\n' = row.1.text.toList.count '\n' := by
  have hkeyword : row.2.keyword.toList.count '\n' = 0 :=
    List.count_eq_zero.2 (Kind.notMem_keyword (by decide) row.2)
  rw [rowChars, List.count_append, List.count_cons_of_ne (by decide), hkeyword, Nat.add_zero]

theorem lineFeed_notMem_rowChars {row : Descriptor × Kind} (h : '\n' ∉ row.1.text.toList) :
    '\n' ∉ rowChars row := by
  rw [← List.count_eq_zero, count_rowChars]
  exact List.count_eq_zero.2 h

/-! ### Reports -/

theorem toList_line (row : Descriptor × Kind) : (line row).toList = rowChars row ++ ['\n'] := by
  simp [line, rowChars]

theorem toList_render (report : Report) :
    (report.render .text).toList = report.flatMap fun row ↦ rowChars row ++ ['\n'] := by
  rw [render, String.toList_join, List.flatMap_map]
  exact congrArg report.flatMap (funext toList_line)

theorem toList_render_cons (row : Descriptor × Kind) (rest : Report) :
    (render (row :: rest) .text).toList = rowChars row ++ '\n' :: (rest.render .text).toList := by
  rw [toList_render, toList_render, List.flatMap_cons, List.append_assoc, List.singleton_append]

theorem lines_render {report : Report} (h : ∀ row ∈ report, '\n' ∉ row.1.text.toList) :
    lines (report.render .text).toList = report.map rowChars := by
  induction report with
  | nil => rfl
  | cons row rest ih =>
    obtain ⟨hrow, hrest⟩ := List.forall_mem_cons.1 h
    rw [toList_render_cons, lines_append (lineFeed_notMem_rowChars hrow), ih hrest, List.map_cons]

theorem length_lines_render (report : Report) :
    (lines (report.render .text).toList).length =
      report.length + (report.map fun row ↦ row.1.text.toList.count '\n').sum := by
  induction report with
  | nil => rfl
  | cons row rest ih =>
    rw [toList_render_cons, length_lines_append, count_rowChars, ih, List.length_cons,
      List.map_cons, List.sum_cons]
    omega

theorem mapM_eq_some_iff {α β : Type} {read : α → Option β} {items : List α} {results : List β} :
    items.mapM read = some results ↔ items.map read = results.map some := by
  induction items generalizing results with
  | nil => cases results <;> simp
  | cons item rest ih => cases results <;> simp [Option.bind_eq_some_iff, ih]

/-- A report in text form is read back exactly when no descriptor contains a line feed. There is a
line for every row and one more for every line feed in a descriptor. -/
theorem readText_render (report : Report) :
    (readText (report.render .text) = some report ↔
      ∀ row ∈ report, '\n' ∉ row.1.text.toList) ∧
    (lines (report.render .text).toList).length =
      report.length + (report.map fun row ↦ row.1.text.toList.count '\n').sum := by
  refine ⟨?_, length_lines_render report⟩
  rw [readText, mapM_eq_some_iff]
  constructor
  · intro hread row hrow
    have hlength : (lines (report.render .text).toList).length = report.length := by
      simpa using congrArg List.length hread
    have hsum : (report.map fun row ↦ row.1.text.toList.count '\n').sum = 0 := by
      rw [length_lines_render] at hlength
      omega
    exact List.count_eq_zero.1 (List.sum_eq_zero_iff.1 hsum _ (List.mem_map_of_mem hrow))
  · intro h
    rw [lines_render h, List.map_map]
    exact List.map_congr_left fun row _ ↦ rowOf?_rowChars row

-- One descriptor with a line feed reads as two rows, the first of them forged.
example : readText (render [(⟨"LA;\tobject\nLB;"⟩, .string)] .text) =
    some [(⟨"LA;"⟩, .object), (⟨"LB;"⟩, .string)] := by
  decide +kernel

end Report

end JvmSchema
