import Mathlib.Data.List.Basic
import Mathlib.Logic.Relation

/-!
Runs of a labelled transition system, and the invariant rules for them. A run
restricted to steps that meet a condition is a run of the restricted system; an
invariant may speak about the history of a run; and what one of several owners
behind the machine sees of a run may depend on its own inputs only.
-/

namespace SysCon.Library

section Runs

variable {state action : Type*}

/-- `Run step first actions last`: the actions lead from `first` to `last`, in order. -/
inductive Run (step : state → action → state → Prop) : state → List action → state → Prop
  | nil (current) : Run step current [] current
  | cons {current action next actions last} : step current action next →
      Run step next actions last → Run step current (action :: actions) last

/-- The steps of `step` taken in a state and with an action that `allowed` accepts. -/
def Guarded (allowed : state → action → Prop) (step : state → action → state → Prop) :
    state → action → state → Prop :=
  fun current action next => allowed current action ∧ step current action next

namespace Run

variable {step : state → action → state → Prop} {first middle last : state}
  {actions later : List action}

theorem invariant {inv : state → Prop} (run : Run step first actions last) (start : inv first)
    (preserved : ∀ current action next, inv current → step current action next → inv next) :
    inv last := by
  induction run with
  | nil _ => exact start
  | cons taken _ ih => exact ih (preserved _ _ _ start taken)

theorem mono {wider : state → action → state → Prop} (run : Run step first actions last)
    (weaker : ∀ current action next, step current action next → wider current action next) :
    Run wider first actions last := by
  induction run with
  | nil _ => exact Run.nil _
  | cons taken _ ih => exact Run.cons (weaker _ _ _ taken) ih

theorem append (run : Run step first actions middle) (rest : Run step middle later last) :
    Run step first (actions ++ later) last := by
  induction run with
  | nil _ => exact rest
  | cons taken _ ih => exact Run.cons taken (ih rest)

end Run

theorem Run.of_foldlM {error : Type*} {step : state → action → Except error state}
    {first last : state} {actions : List action}
    (finished : actions.foldlM step first = .ok last) :
    Run (fun current action next => step current action = .ok next) first actions last := by
  induction actions generalizing first with
  | nil =>
      simp only [List.foldlM_nil, pure, Except.pure, Except.ok.injEq] at finished
      exact finished ▸ Run.nil _
  | cons action rest ih =>
      rw [List.foldlM_cons] at finished
      cases taken : step first action with
      | error _ => simp [taken, bind, Except.bind] at finished
      | ok next =>
          rw [taken] at finished
          exact Run.cons taken (ih finished)

theorem Run.of_foldlM_some {step : state → action → Option state} {first last : state}
    {actions : List action} (finished : actions.foldlM step first = some last) :
    Run (fun current action next => step current action = some next) first actions last := by
  induction actions generalizing first with
  | nil =>
      simp only [List.foldlM_nil, pure, Option.some.injEq] at finished
      exact finished ▸ Run.nil _
  | cons action rest ih =>
      rw [List.foldlM_cons] at finished
      obtain ⟨next, taken, later⟩ := Option.bind_eq_some_iff.mp finished
      exact Run.cons taken (ih later)

/-- A condition on every prefix of a list and the item after it, first item apart. -/
theorem forall_split_cons {item : Type*} {good : List item → item → Prop} {head : item}
    {rest : List item} :
    (∀ earlier next later, head :: rest = earlier ++ next :: later → good earlier next) ↔
      good [] head ∧
        ∀ earlier next later, rest = earlier ++ next :: later → good (head :: earlier) next := by
  constructor
  · intro all
    refine ⟨all [] head rest rfl, ?_⟩
    rintro earlier next later rfl
    exact all (head :: earlier) next later rfl
  · rintro ⟨first, others⟩ earlier next later shape
    cases earlier with
    | nil =>
        obtain ⟨rfl, -⟩ := List.cons.inj shape
        exact first
    | cons before earlier =>
        obtain ⟨rfl, rest⟩ := List.cons.inj shape
        exact others earlier next later rest

/-- Two ways to process a list, each with its own condition on the items. Where the conditions say
the same and the steps agree as long as they hold, it does not matter on which of the two the
conditions are asked. -/
theorem forall_foldl_iff {item : Type*} {step spec : state → item → state}
    {good allowed : state → item → Prop} {inv : state → Prop} {items : List item} {first : state}
    (start : inv first)
    (same : ∀ current, ∀ next ∈ items, inv current → (good current next ↔ allowed current next))
    (agree : ∀ current, ∀ next ∈ items, inv current → allowed current next →
      step current next = spec current next)
    (preserved : ∀ current, ∀ next ∈ items, inv current → inv (step current next)) :
    (∀ earlier next later, items = earlier ++ next :: later →
        good (earlier.foldl step first) next) ↔
      ∀ earlier next later, items = earlier ++ next :: later →
        allowed (earlier.foldl spec first) next := by
  induction items generalizing first with
  | nil => simp
  | cons head rest ih =>
      simp only [List.forall_mem_cons] at same agree preserved
      rw [forall_split_cons, forall_split_cons]
      simp only [List.foldl_nil, List.foldl_cons]
      rw [(same first).1 start]
      refine and_congr_right ?_
      intro fine
      rw [← (agree first).1 start fine]
      exact ih ((preserved first).1 start) (fun current => (same current).2)
        (fun current => (agree current).2) (fun current => (preserved current).2)

/-- A run goes through exactly when every step on the way can be taken. -/
theorem Run.foldlM_ok_iff {error : Type*} {step : state → action → Except error state}
    {inv : state → Prop} {good : state → action → Prop} {first : state} {actions : List action}
    (start : inv first)
    (taken : ∀ current action, inv current →
      ((∃ next, step current action = .ok next) ↔ good current action))
    (preserved : ∀ current action next, inv current → step current action = .ok next → inv next) :
    (∃ last, actions.foldlM step first = .ok last) ↔
      ∀ earlier action later current, actions = earlier ++ action :: later →
        earlier.foldlM step first = .ok current → good current action := by
  induction actions generalizing first with
  | nil => simp [pure, Except.pure]
  | cons head rest ih =>
      rw [List.foldlM_cons]
      constructor
      · rintro ⟨last, finished⟩
        cases moved : step first head with
        | error _ => simp [moved, bind, Except.bind] at finished
        | ok next =>
            rw [moved] at finished
            intro earlier action later current shape reached
            cases earlier with
            | nil =>
                obtain ⟨rfl, -⟩ := List.cons.inj shape
                simp only [List.foldlM_nil, pure, Except.pure, Except.ok.injEq] at reached
                subst reached
                exact (taken _ _ start).mp ⟨next, moved⟩
            | cons before earlier =>
                obtain ⟨rfl, rfl⟩ := List.cons.inj shape
                rw [List.foldlM_cons, moved] at reached
                exact (ih (preserved _ _ _ start moved)).mp ⟨last, finished⟩ earlier action later
                  current rfl reached
      · intro allGood
        obtain ⟨next, moved⟩ := (taken _ _ start).mpr (allGood [] head rest first rfl rfl)
        rw [moved]
        refine (ih (preserved _ _ _ start moved)).mpr ?_
        rintro earlier action later current rfl reached
        refine allGood (head :: earlier) action later current rfl ?_
        rw [List.foldlM_cons, moved]
        exact reached

/-- A run whose steps have been checked one by one. -/
theorem Run.of_foldlM_guarded {step : state → action → Option state}
    {allowed : state → action → Prop} [∀ current action, Decidable (allowed current action)]
    {first last : state} {actions : List action}
    (finished : actions.foldlM
      (fun current action => if allowed current action then step current action else none) first =
        some last) :
    Run (Guarded allowed fun current action next => step current action = some next) first actions
      last := by
  refine (Run.of_foldlM_some finished).mono ?_
  intro current action next checked
  exact Option.ite_none_right_eq_some.mp checked

end Runs

/-! What has held since something happened: an item of the history started it, and every later one
kept it. -/

section History

variable {state action item : Type*}

/-- An item may start it in view of the items before it. -/
def Since (starts : List item → item → Prop) (keeps : item → Prop) (items : List item) : Prop :=
  ∃ earlier here later, items = earlier ++ here :: later ∧ starts earlier here ∧
    ∀ other ∈ later, keeps other

namespace Since

variable {starts : List item → item → Prop} {keeps : item → Prop} {items : List item}

theorem started {here : item} (new : starts items here) : Since starts keeps (items ++ [here]) :=
  ⟨items, here, [], rfl, new, by simp⟩

theorem kept (since : Since starts keeps items) {other : item} (keep : keeps other) :
    Since starts keeps (items ++ [other]) := by
  obtain ⟨earlier, here, later, rfl, new, all⟩ := since
  refine ⟨earlier, here, later ++ [other], by simp, new, ?_⟩
  intro following member
  rcases List.mem_append.mp member with before | last
  · exact all following before
  · exact List.mem_singleton.mp last ▸ keep

theorem mono {begins : List item → item → Prop} {holds : item → Prop}
    (since : Since starts keeps items)
    (stronger : ∀ earlier here, starts earlier here → begins earlier here)
    (holding : ∀ other, keeps other → holds other) : Since begins holds items := by
  obtain ⟨earlier, here, later, shape, new, all⟩ := since
  exact ⟨earlier, here, later, shape, stronger _ _ new, fun other member =>
    holding other (all other member)⟩

end Since

/-- The invariant rule for runs whose invariant speaks about the actions taken so far. -/
theorem Run.history {step : state → action → state → Prop} {first last : state}
    {actions : List action} {inv : List action → state → Prop} (run : Run step first actions last)
    {past : List action} (start : inv past first)
    (preserved : ∀ earlier current next after, inv earlier current → step current next after →
      inv (earlier ++ [next]) after) : inv (past ++ actions) last := by
  induction run generalizing past with
  | nil _ => simpa using start
  | @cons current action next actions last taken _ ih =>
      have later := ih (preserved past current action next start taken)
      rwa [List.append_assoc] at later

end History

/-! Several owners behind one machine. Each input has an owner, and each owner has a view of the
state. -/

section Owners

variable {state input output index seen : Type*}

structure Isolated (step : state → input → output × state) (owner : input → index)
    (view : index → state → seen) (inv : state → Prop) : Prop where
  preserved : ∀ {current}, inv current → ∀ given, inv (step current given).2
  others : ∀ {current}, inv current → ∀ {given mine}, owner given ≠ mine →
    view mine (step current given).2 = view mine current
  own : ∀ {first second}, inv first → inv second → ∀ {given},
    view (owner given) first = view (owner given) second →
      (step first given).1 = (step second given).1 ∧
        view (owner given) (step first given).2 = view (owner given) (step second given).2

/-- The state after the inputs. -/
def afterInputs (step : state → input → output × state) (first : state) (inputs : List input) :
    state :=
  inputs.foldl (fun current given => (step current given).2) first

/-- The answers to the inputs of one owner. -/
def answersTo [DecidableEq index] (step : state → input → output × state) (owner : input → index)
    (mine : index) : state → List input → List output
  | _, [] => []
  | current, given :: rest =>
      let (answer, next) := step current given
      if owner given = mine then answer :: answersTo step owner mine next rest
      else answersTo step owner mine next rest

theorem answersTo_forall [DecidableEq index] {step : state → input → output × state}
    {owner : input → index} {good : output → Prop}
    (each : ∀ current given, good (step current given).1) (mine : index) (first : state)
    (inputs : List input) : ∀ answer ∈ answersTo step owner mine first inputs, good answer := by
  induction inputs generalizing first with
  | nil => simp [answersTo]
  | cons given rest ih =>
      simp only [answersTo]
      split
      · exact List.forall_mem_cons.mpr ⟨each first given, ih _⟩
      · exact ih _

namespace Isolated

variable [DecidableEq index] {step : state → input → output × state} {owner : input → index}
  {view : index → state → seen} {inv : state → Prop}

/-- The inputs of the other owners can be left out. -/
theorem own_inputs (isolated : Isolated step owner view inv) (mine : index) {first second : state}
    (firstInv : inv first) (secondInv : inv second) (same : view mine first = view mine second)
    (inputs : List input) :
    let own := inputs.filter fun given => owner given = mine
    answersTo step owner mine first inputs = answersTo step owner mine second own ∧
      view mine (afterInputs step first inputs) = view mine (afterInputs step second own) := by
  induction inputs generalizing first second with
  | nil => exact ⟨rfl, same⟩
  | cons given rest ih =>
      have firstNext := isolated.preserved firstInv given
      by_cases mineToo : owner given = mine
      · subst mineToo
        obtain ⟨sameAnswer, sameView⟩ := isolated.own firstInv secondInv same
        obtain ⟨answers, views⟩ :=
          ih firstNext (isolated.preserved secondInv given) sameView
        rw [List.filter_cons_of_pos (by simp)]
        refine ⟨?_, views⟩
        simp only [answersTo, if_true, sameAnswer]
        rw [answers]
      · obtain ⟨answers, views⟩ :=
          ih firstNext secondInv ((isolated.others firstInv mineToo).trans same)
        rw [List.filter_cons_of_neg (by simpa using mineToo)]
        refine ⟨?_, views⟩
        simp only [answersTo, if_neg mineToo]
        exact answers

/-- Two runs with the same inputs of one owner look the same to it. -/
theorem noninterference (isolated : Isolated step owner view inv) (mine : index) {start : state}
    (startInv : inv start) {first second : List input}
    (same : (first.filter fun given => owner given = mine) =
      second.filter fun given => owner given = mine) :
    answersTo step owner mine start first = answersTo step owner mine start second ∧
      view mine (afterInputs step start first) = view mine (afterInputs step start second) := by
  obtain ⟨firstAnswers, firstView⟩ := isolated.own_inputs mine startInv startInv rfl first
  obtain ⟨secondAnswers, secondView⟩ := isolated.own_inputs mine startInv startInv rfl second
  rw [same] at firstAnswers firstView
  exact ⟨firstAnswers.trans secondAnswers.symm, firstView.trans secondView.symm⟩

end Isolated

end Owners

end SysCon.Library
