import Mathlib.Data.List.TakeWhile
import SysCon.Sysmodule.IniReadings

/-!
Lines written for the parser: how it reads back `key=value` with plain words,
and a header followed by anything, wherever in a file they stand.
-/

namespace SysCon.Ini

open CLibrary

def Word (s : CString) : Prop := ∀ c ∈ s, c.isAlphanum = true

instance (s : CString) : Decidable (Word s) :=
  inferInstanceAs (Decidable (∀ c ∈ s, c.isAlphanum = true))

theorem lskip_cons {first : Char} (visible : isspace first = false) (rest : CString) :
    lskip (first :: rest) = first :: rest := by
  rw [lskip, List.dropWhile_cons_of_neg (by simp [visible])]

theorem lskip_word {s : CString} (word : Word s) : lskip s = s := by
  cases s with
  | nil => rfl
  | cons first rest =>
      exact lskip_cons (isspace_of_isAlphanum (word first List.mem_cons_self)) rest

theorem rstrip_word {s : CString} (word : Word s) : rstrip s = s := by
  have backwards : lskip s.reverse = s.reverse := by
    refine lskip_word ?_
    intro c member
    exact word c (List.mem_reverse.mp member)
  calc rstrip s = (lskip s.reverse).reverse := rfl
    _ = s := by rw [backwards, List.reverse_reverse]

theorem rstrip_append_cons (before : CString) {c : Char} (visible : isspace c = false)
    (rest : CString) : rstrip (before ++ c :: rest) = before ++ c :: rstrip rest := by
  unfold rstrip
  rw [List.reverse_append, List.reverse_cons, List.append_assoc, List.dropWhile_append]
  cases stripped : rest.reverse.dropWhile isspace with
  | nil => simp [visible]
  | cons last behind => simp

theorem findCharsOrComment_append {chars before : CString} {stop : Char} (stops : stop ∈ chars)
    (passes : ∀ c ∈ before, c ∉ chars ∧ c ≠ ';') (wasSpace : Bool) (rest : CString) :
    findCharsOrComment chars wasSpace (before ++ stop :: rest) = (before, stop :: rest) := by
  induction before generalizing wasSpace with
  | nil => simp [findCharsOrComment, stops]
  | cons c later ih =>
      obtain ⟨other, noComment⟩ := passes c List.mem_cons_self
      rw [List.cons_append, findCharsOrComment, if_neg (by simp [other, noComment]),
        ih (fun next member => passes next (List.mem_cons_of_mem _ member))]

theorem findCharsOrComment_all {chars s : CString} (passes : ∀ c ∈ s, c ∉ chars ∧ c ≠ ';')
    (wasSpace : Bool) : findCharsOrComment chars wasSpace s = (s, []) := by
  induction s generalizing wasSpace with
  | nil => rfl
  | cons c later ih =>
      obtain ⟨other, noComment⟩ := passes c List.mem_cons_self
      rw [findCharsOrComment, if_neg (by simp [other, noComment]),
        ih (fun next member => passes next (List.mem_cons_of_mem _ member))]

/-- A line that starts with a visible character, no comment and no byte-order mark, is a header or
a pair, whatever was read before. -/
theorem readingOf_cons (prevName : CString) (lineno : Nat) {first : Char} {rest : CString}
    (noNul : '\x00' ∉ first :: rest) (visible : isspace first = false)
    (noComment : ¬(first = ';' ∨ first = '#')) (noBom : first ≠ '\xef') :
    readingOf prevName lineno (first :: rest) =
      if first = '[' then readHeader (first :: rstrip rest)
      else readPair (first :: rstrip rest) := by
  have shown : (first :: rest).takeWhile (· ≠ '\x00') = first :: rest := by
    refine List.takeWhile_eq_self_iff.mpr ?_
    intro c member
    exact decide_eq_true (fun same => noNul (same ▸ member))
  have unmarked : skipBom lineno (first :: rest) = first :: rest := by
    refine if_neg ?_
    rintro ⟨_, marked⟩
    simp [noBom] at marked
  unfold readingOf
  simp only [shown, unmarked, rstrip_cons visible, lskip_cons visible]
  rw [if_neg noComment, if_neg (by simp)]

theorem readingOf_pair (prevName : CString) (lineno : Nat) {name value : CString}
    (named : name ≠ []) (nameWord : Word name) (valueWord : Word value) :
    readingOf prevName lineno (name ++ '=' :: value) = .pair name value := by
  have noNul : '\x00' ∉ name ++ '=' :: value := by
    intro member
    rcases List.mem_append.mp member with inName | behind
    · exact ne_of_isAlphanum (nameWord _ inName) (by decide) rfl
    · rcases List.mem_cons.mp behind with equals | inValue
      · exact absurd equals (by decide)
      · exact ne_of_isAlphanum (valueWord _ inValue) (by decide) rfl
  have passes : ∀ c ∈ name, c ∉ ['=', ':'] ∧ c ≠ ';' := by
    intro c member
    have equals : c ≠ '=' := ne_of_isAlphanum (nameWord c member) (by decide)
    have colon : c ≠ ':' := ne_of_isAlphanum (nameWord c member) (by decide)
    exact ⟨by simp [equals, colon], ne_of_isAlphanum (nameWord c member) (by decide)⟩
  have noComments : ∀ c ∈ value, c ∉ ([] : CString) ∧ c ≠ ';' := by
    intro c member
    exact ⟨List.not_mem_nil, ne_of_isAlphanum (valueWord c member) (by decide)⟩
  have stripped : rstrip (name ++ '=' :: value) = name ++ '=' :: value := by
    rw [rstrip_append_cons name (by decide), rstrip_word valueWord]
  obtain ⟨first, rest, rfl⟩ := List.exists_cons_of_ne_nil named
  have plain : first.isAlphanum = true := nameWord first List.mem_cons_self
  have visible : isspace first = false := isspace_of_isAlphanum plain
  have semicolon : first ≠ ';' := ne_of_isAlphanum plain (by decide)
  have hash : first ≠ '#' := ne_of_isAlphanum plain (by decide)
  have bracket : first ≠ '[' := ne_of_isAlphanum plain (by decide)
  rw [List.cons_append] at noNul stripped ⊢
  rw [readingOf_cons prevName lineno noNul visible (by simp [semicolon, hash])
    (ne_of_isAlphanum plain (by decide)), if_neg bracket, ← rstrip_cons visible, stripped,
    ← List.cons_append]
  unfold readPair
  simp only [findCharsOrComment_append (show '=' ∈ ['=', ':'] by decide) passes]
  simp [valueOf, findCharsOrComment_all noComments, lskip_word valueWord, rstrip_word valueWord,
    rstrip_word nameWord]

theorem readingOf_header (prevName : CString) (lineno : Nat) {sectionName behind : CString}
    (noNul : '\x00' ∉ '[' :: (sectionName ++ ']' :: behind))
    (passes : ∀ c ∈ sectionName, c ∉ [']'] ∧ c ≠ ';') :
    readingOf prevName lineno ('[' :: (sectionName ++ ']' :: behind)) = .header sectionName := by
  rw [readingOf_cons prevName lineno noNul (by decide) (by decide) (by decide), if_pos rfl,
    rstrip_append_cons sectionName (by decide)]
  unfold readHeader
  simp only [List.tail_cons, findCharsOrComment_append (List.mem_singleton_self ']') passes]
  simp

end SysCon.Ini
