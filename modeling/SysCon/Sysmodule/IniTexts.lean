import Mathlib.Data.List.Chain
import Mathlib.Data.List.DropRight
import SysCon.Sysmodule.IniWritten

/-!
Texts inside a line, and what the helpers of the parser leave of them: stripped
texts have no blanks at their ends, and a text that `find_chars_or_comment` has
passed over holds neither the characters it looked for nor an inline comment.
-/

namespace SysCon.Ini

open CLibrary

def Plain (text : CString) : Prop := '\n' ∉ text ∧ '\x00' ∉ text

def Trimmed (text : CString) : Prop :=
  (∀ c ∈ text.head?, isspace c = false) ∧ ∀ c ∈ text.getLast?, isspace c = false

/-- No `;` behind a blank. -/
def Uncommented (text : CString) : Prop :=
  text.IsChain fun before c => isspace before = true → c ≠ ';'

/-- The text is passed over to its end. -/
def Passed (chars : CString) (wasSpace : Bool) (text : CString) : Prop :=
  findCharsOrComment chars wasSpace text = (text, [])

theorem passed_cons {chars : CString} {wasSpace : Bool} {c : Char} {rest : CString} :
    Passed chars wasSpace (c :: rest) ↔
      ¬(c ∈ chars ∨ (wasSpace ∧ c = ';')) ∧ Passed chars (isspace c) rest := by
  unfold Passed
  rw [findCharsOrComment]
  by_cases stops : c ∈ chars ∨ (wasSpace ∧ c = ';')
  · simp [stops]
  · rw [if_neg stops]
    simp [Prod.ext_iff, stops]

theorem uncommented_cons {c : Char} {rest : CString} :
    Uncommented (c :: rest) ↔
      (∀ next ∈ rest.head?, isspace c = true → next ≠ ';') ∧ Uncommented rest :=
  List.isChain_cons

theorem Uncommented.stripped {text whole blanks : CString} (uncommented : Uncommented whole)
    (starts : text ++ blanks = whole) : Uncommented text :=
  List.IsChain.left_of_append (starts ▸ uncommented)

theorem Uncommented.skipped {text whole blanks : CString} (uncommented : Uncommented whole)
    (ends : blanks ++ text = whole) : Uncommented text :=
  List.IsChain.right_of_append (ends ▸ uncommented)

theorem passed_iff {chars : CString} {wasSpace : Bool} {text : CString} :
    Passed chars wasSpace text ↔
      (∀ c ∈ text, c ∉ chars) ∧ Uncommented text ∧
        (wasSpace = true → ∀ c ∈ text.head?, c ≠ ';') := by
  induction text generalizing wasSpace with
  | nil => simp [Passed, findCharsOrComment, Uncommented]
  | cons c rest ih =>
      rw [passed_cons, ih, uncommented_cons]
      simp only [List.mem_cons, forall_eq_or_imp, List.head?_cons, Option.mem_some_iff,
        forall_eq', not_or, not_and]
      tauto

theorem Passed.before (chars : CString) (wasSpace : Bool) (text : CString) :
    Passed chars wasSpace (findCharsOrComment chars wasSpace text).1 := by
  induction text generalizing wasSpace with
  | nil => rfl
  | cons c rest ih =>
      rw [findCharsOrComment]
      by_cases stops : c ∈ chars ∨ (wasSpace ∧ c = ';')
      · rw [if_pos stops]
        rfl
      · rw [if_neg stops]
        exact passed_cons.mpr ⟨stops, ih _⟩

theorem Passed.stop {chars : CString} {wasSpace : Bool} {before : CString}
    (passed : Passed chars wasSpace before) {stop : Char} (stops : stop ∈ chars)
    (rest : CString) :
    findCharsOrComment chars wasSpace (before ++ stop :: rest) = (before, stop :: rest) := by
  induction before generalizing wasSpace with
  | nil => simp [findCharsOrComment, stops]
  | cons c later ih =>
      obtain ⟨goesOn, behind⟩ := passed_cons.mp passed
      rw [List.cons_append, findCharsOrComment, if_neg goesOn, ih behind]

theorem findCharsOrComment_parts (chars : CString) (wasSpace : Bool) (text : CString) :
    (findCharsOrComment chars wasSpace text).1 ++ (findCharsOrComment chars wasSpace text).2 =
      text := by
  induction text generalizing wasSpace with
  | nil => rfl
  | cons c rest ih =>
      rw [findCharsOrComment]
      by_cases stops : c ∈ chars ∨ (wasSpace ∧ c = ';')
      · rw [if_pos stops]
        rfl
      · rw [if_neg stops]
        exact congrArg (c :: ·) (ih _)

/-! Stripped texts. -/

theorem lskip_eq_self {text : CString} (visible : ∀ c ∈ text.head?, isspace c = false) :
    lskip text = text := by
  cases text with
  | nil => rfl
  | cons first rest => exact lskip_cons (visible first rfl) rest

theorem rstrip_eq_self {text : CString} (visible : ∀ c ∈ text.getLast?, isspace c = false) :
    rstrip text = text := by
  refine List.rdropWhile_eq_self_iff.mpr ?_
  intro filled blank
  have shown := visible _ (List.getLast?_eq_some_getLast filled)
  rw [blank] at shown
  exact Bool.noConfusion shown

theorem rstrip_before (text : CString) : rstrip text <+: text :=
  List.rdropWhile_prefix _ text

theorem lskip_behind (text : CString) : lskip text <:+ text := List.dropWhile_suffix _

theorem head_lskip (text : CString) : ∀ c ∈ (lskip text).head?, isspace c = false := by
  intro c first
  have stops := List.head?_dropWhile_not isspace text
  rw [show (text.dropWhile isspace).head? = some c from first] at stops
  simpa using stops

theorem last_rstrip (text : CString) : ∀ c ∈ (rstrip text).getLast?, isspace c = false := by
  intro c last
  have filled : rstrip text ≠ [] := by
    rintro empty
    simp [empty] at last
  have stops := List.rdropWhile_last_not isspace text filled
  rw [List.getLast?_eq_some_getLast filled, Option.mem_some_iff] at last
  rw [← last]
  exact Bool.eq_false_iff.mpr stops

theorem trimmed_lskip_rstrip (text : CString) : Trimmed (lskip (rstrip text)) := by
  refine ⟨head_lskip _, ?_⟩
  intro c last
  obtain ⟨before, whole⟩ := lskip_behind (rstrip text)
  have filled : lskip (rstrip text) ≠ [] := by
    rintro empty
    simp [empty] at last
  refine last_rstrip text c ?_
  rw [← whole, List.getLast?_append_of_ne_nil _ filled]
  exact last

theorem trimmed_rstrip_of_head {text : CString} (visible : ∀ c ∈ text.head?, isspace c = false) :
    Trimmed (rstrip text) := by
  refine ⟨?_, last_rstrip text⟩
  cases text with
  | nil => simp [rstrip]
  | cons first rest =>
      rw [rstrip_cons (visible first rfl)]
      exact visible

theorem Trimmed.append {before behind : CString} (trimmedBefore : Trimmed before)
    (trimmedBehind : Trimmed behind) {between : Char} (visible : isspace between = false) :
    Trimmed (before ++ between :: behind) := by
  constructor
  · intro c first
    cases before with
    | nil =>
        simp only [List.nil_append, List.head?_cons, Option.mem_some_iff] at first
        rwa [← first]
    | cons head rest => exact trimmedBefore.1 c first
  · intro c last
    rw [List.getLast?_append_of_ne_nil _ (List.cons_ne_nil _ _)] at last
    cases behind with
    | nil =>
        simp only [List.getLast?_singleton, Option.mem_some_iff] at last
        rwa [← last]
    | cons head rest =>
        rw [List.getLast?_cons_cons] at last
        exact trimmedBehind.2 c last

end SysCon.Ini
