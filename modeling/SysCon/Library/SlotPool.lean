import Mathlib.Data.Set.Card

/-!
A pool that hands out tokens: every token in a slot has exactly one holder, and
every token held is in exactly one slot. Filling a free slot for a holder with
empty hands keeps this, and so does taking a token from its slot and its holder.
-/

namespace SysCon.Library

variable {slot holder token : Type*}

def Distinct {place : Type*} (table : place → Option token) : Prop :=
  ∀ {first second kept}, table first = some kept → table second = some kept → first = second

structure Matched (slots : slot → Option token) (held : holder → Option token) : Prop where
  slot_unique : Distinct slots
  holder_unique : Distinct held
  same_tokens : ∀ kept, (∃ place, slots place = some kept) ↔ ∃ owner, held owner = some kept

namespace Matched

variable {slots : slot → Option token} {held : holder → Option token}

theorem empty : Matched (fun _ : slot => (none : Option token)) (fun _ : holder => none) := by
  constructor <;> simp [Distinct]

theorem existsUnique_holder (matched : Matched slots held) {place : slot} {kept : token}
    (filled : slots place = some kept) : ∃! owner, held owner = some kept := by
  obtain ⟨owner, holds⟩ := (matched.same_tokens kept).mp ⟨place, filled⟩
  exact ⟨owner, holds, fun other alsoHolds => matched.holder_unique alsoHolds holds⟩

section Update

theorem update_eq_some {place : Type*} [DecidableEq place] {table : place → Option token}
    {changed found : place} {stored : Option token} {kept : token} :
    Function.update table changed stored found = some kept ↔
      (found = changed ∧ stored = some kept) ∨ (found ≠ changed ∧ table found = some kept) := by
  by_cases same : found = changed
  · subst same
    simp
  · simp [same]

theorem distinct_update_some {place : Type*} [DecidableEq place] {table : place → Option token}
    (distinct : Distinct table) {changed : place} {kept : token}
    (fresh : ∀ other, table other ≠ some kept) :
    Distinct (Function.update table changed (some kept)) := by
  intro first second found here there
  rw [update_eq_some] at here there
  rcases here with ⟨atFirst, stored⟩ | ⟨_, here⟩ <;>
    rcases there with ⟨atSecond, same⟩ | ⟨_, there⟩
  · rw [atFirst, atSecond]
  · exact absurd (stored ▸ there) (fresh _)
  · exact absurd (same ▸ here) (fresh _)
  · exact distinct here there

theorem distinct_update_none {place : Type*} [DecidableEq place] {table : place → Option token}
    (distinct : Distinct table) {changed : place} :
    Distinct (Function.update table changed none) := by
  intro first second found here there
  simp only [update_eq_some, reduceCtorEq, and_false, false_or] at here there
  exact distinct here.2 there.2

variable [DecidableEq slot] [DecidableEq holder]

theorem fill (matched : Matched slots held) {place : slot} {owner : holder} {kept : token}
    (fresh : ∀ other, slots other ≠ some kept) (free : slots place = none)
    (idle : held owner = none) :
    Matched (Function.update slots place (some kept)) (Function.update held owner (some kept)) := by
  have unheld : ∀ other, held other ≠ some kept := by
    intro other holds
    obtain ⟨elsewhere, filled⟩ := (matched.same_tokens kept).mpr ⟨other, holds⟩
    exact fresh elsewhere filled
  refine ⟨distinct_update_some matched.slot_unique fresh,
    distinct_update_some matched.holder_unique unheld, ?_⟩
  intro found
  by_cases same : found = kept
  · subst same
    exact ⟨fun _ => ⟨owner, Function.update_self ..⟩, fun _ => ⟨place, Function.update_self ..⟩⟩
  have others := matched.same_tokens found
  constructor
  · rintro ⟨elsewhere, filled⟩
    rcases update_eq_some.mp filled with ⟨_, equal⟩ | ⟨_, before⟩
    · exact absurd (Option.some.inj equal).symm same
    obtain ⟨other, holds⟩ := others.mp ⟨elsewhere, before⟩
    refine ⟨other, update_eq_some.mpr (.inr ⟨?_, holds⟩)⟩
    rintro rfl
    simp [idle] at holds
  · rintro ⟨other, holds⟩
    rcases update_eq_some.mp holds with ⟨_, equal⟩ | ⟨_, before⟩
    · exact absurd (Option.some.inj equal).symm same
    obtain ⟨elsewhere, filled⟩ := others.mpr ⟨other, before⟩
    refine ⟨elsewhere, update_eq_some.mpr (.inr ⟨?_, filled⟩)⟩
    rintro rfl
    simp [free] at filled

theorem release (matched : Matched slots held) {place : slot} {owner : holder} {kept : token}
    (filled : slots place = some kept) (holds : held owner = some kept) :
    Matched (Function.update slots place none) (Function.update held owner none) := by
  refine ⟨distinct_update_none matched.slot_unique, distinct_update_none matched.holder_unique, ?_⟩
  intro found
  simp only [update_eq_some, reduceCtorEq, and_false, false_or]
  constructor
  · rintro ⟨elsewhere, away, still⟩
    obtain ⟨other, holdsStill⟩ := (matched.same_tokens found).mp ⟨elsewhere, still⟩
    refine ⟨other, ?_, holdsStill⟩
    rintro rfl
    rw [holds, Option.some.injEq] at holdsStill
    exact away (matched.slot_unique still (holdsStill ▸ filled))
  · rintro ⟨other, away, still⟩
    obtain ⟨elsewhere, filledStill⟩ := (matched.same_tokens found).mpr ⟨other, still⟩
    refine ⟨elsewhere, ?_, filledStill⟩
    rintro rfl
    rw [filled, Option.some.injEq] at filledStill
    exact away (matched.holder_unique still (filledStill ▸ holds))

end Update

theorem image_eq (matched : Matched slots held) :
    held '' {owner | held owner ≠ none} = slots '' {place | slots place ≠ none} := by
  ext found
  cases found with
  | none => simp
  | some kept =>
      have same := matched.same_tokens kept
      constructor
      · rintro ⟨owner, _, holds⟩
        obtain ⟨place, filled⟩ := same.mpr ⟨owner, holds⟩
        exact ⟨place, by simp [filled], filled⟩
      · rintro ⟨place, _, filled⟩
        obtain ⟨owner, holds⟩ := same.mp ⟨place, filled⟩
        exact ⟨owner, by simp [holds], holds⟩

theorem ncard_eq (matched : Matched slots held) :
    {owner | held owner ≠ none}.ncard = {place | slots place ≠ none}.ncard := by
  have holders : Set.InjOn held {owner | held owner ≠ none} := by
    intro first holds second _ same
    obtain ⟨kept, found⟩ := Option.ne_none_iff_exists'.mp holds
    exact matched.holder_unique found (same ▸ found)
  have filled : Set.InjOn slots {place | slots place ≠ none} := by
    intro first holds second _ same
    obtain ⟨kept, found⟩ := Option.ne_none_iff_exists'.mp holds
    exact matched.slot_unique found (same ▸ found)
  rw [← holders.ncard_image, matched.image_eq, filled.ncard_image]

theorem ncard_of_full (matched : Matched slots held) (full : ∀ place, slots place ≠ none) :
    {owner | held owner ≠ none}.ncard = Nat.card slot := by
  have all : {place | slots place ≠ none} = Set.univ := Set.eq_univ_of_forall full
  rw [matched.ncard_eq, all, Set.ncard_univ]

end Matched

end SysCon.Library
