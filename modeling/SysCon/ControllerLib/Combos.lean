import SysCon.ControllerLib.Mapping
import SysCon.Library.Runs
import Mathlib.Data.List.TakeWhile

/-!
The simulated buttons of `MapRawInputToNormalized`. Each combo takes its turn
on the buttons that the turns before it left; the turn the README describes is
stated on its own and compared with the one of the code.
-/

namespace SysCon

theorem Exec.foldlM_eq_ok {value item : Type} {step : value → item → Exec value}
    {pureStep : value → item → value} {items : List item}
    (same : ∀ current, ∀ next ∈ items, step current next = .ok (pureStep current next))
    (current : value) : items.foldlM step current = .ok (items.foldl pureStep current) := by
  induction items generalizing current with
  | nil => rfl
  | cons head rest ih =>
      rw [List.foldlM_cons, same current head List.mem_cons_self]
      exact ih (fun current next member => same current next (List.mem_cons_of_mem _ member)) _

namespace BaseController

abbrev Buttons := ControllerButton → Bool

/-! The buttons before the first combo. -/

def PinsInRange (config : ControllerConfig) : Prop :=
  ∀ button index (bound : index < MAX_PIN_BY_BUTTONS),
    (config.buttonsPin button)[index].toNat < MAX_CONTROLLER_BUTTONS

def pinDown (raw : RawInputData) (pin : UInt8) : Bool :=
  if bound : pin.toNat < MAX_CONTROLLER_BUTTONS then raw.buttons ⟨pin.toNat, bound⟩ else false

def axisDown (config : ControllerConfig) (raw : RawInputData) (button : ControllerButton) : Bool :=
  (config.buttonsAnalog button).sign *
    (deadzoned config raw).analog (config.buttonsAnalog button).bind > 0

def anyPinDown (config : ControllerConfig) (raw : RawInputData) (button : ControllerButton) :
    Bool :=
  (config.buttonsPin button).toList.any (pinDown raw)

/-- A button is down by one of its pins or by its axis. -/
def buttonDown (config : ControllerConfig) (raw : RawInputData) (button : ControllerButton) :
    Bool :=
  controllerButtonList.contains button &&
    (anyPinDown config raw button || config.buttonsAnalogUsed && axisDown config raw button)

theorem anyPinDown_eq (config : ControllerConfig) (raw : RawInputData)
    (button : ControllerButton) :
    anyPinDown config raw button =
      (pinDown raw (config.buttonsPin button)[0] || pinDown raw (config.buttonsPin button)[1]) := by
  rw [anyPinDown]
  match config.buttonsPin button with
  | ⟨⟨[first, second]⟩, _⟩ => simp

theorem rawButton_eq {raw : RawInputData} {pin : UInt8}
    (bound : pin.toNat < MAX_CONTROLLER_BUTTONS) : rawButton raw pin = .ok (pinDown raw pin) := by
  simp only [rawButton, pinDown, bound, dif_pos]

theorem isPressed_eq {config : ControllerConfig} (pins : PinsInRange config) (raw : RawInputData)
    (button : ControllerButton) :
    isPressed config raw button = .ok (anyPinDown config raw button) := by
  rw [isPressed, rawButton_eq (pins button 0 (by decide)), rawButton_eq (pins button 1 (by decide)),
    anyPinDown_eq]
  cases pinDown raw (config.buttonsPin button)[0] with
  | false => rfl
  | true => rfl

theorem foldl_update {value : ControllerButton → Bool} (items : List ControllerButton)
    (buttons : Buttons) (button : ControllerButton) :
    items.foldl (fun current item => Function.update current item (value item)) buttons button =
      if button ∈ items then value button else buttons button := by
  induction items generalizing buttons with
  | nil => simp
  | cons item rest ih =>
      rw [List.foldl_cons, ih]
      by_cases later : button ∈ rest
      · simp [later]
      · by_cases here : button = item
        · simp [here]
        · simp [later, here]

def pinButtons (config : ControllerConfig) (raw : RawInputData) (button : ControllerButton) :
    Bool :=
  controllerButtonList.contains button && anyPinDown config raw button

theorem foldlM_mapButton {config : ControllerConfig} (pins : PinsInRange config)
    (raw : RawInputData) :
    controllerButtonList.foldlM (mapButton config (deadzoned config raw)) (fun _ => false) =
      .ok (pinButtons config raw) := by
  have each : ∀ current, ∀ item ∈ controllerButtonList,
      mapButton config (deadzoned config raw) current item =
        .ok (Function.update current item (anyPinDown config raw item)) := by
    intro current item _
    rw [mapButton, isPressed_eq pins]
    rfl
  rw [Exec.foldlM_eq_ok each]
  congr 1
  funext button
  rw [foldl_update, pinButtons]
  by_cases listed : button ∈ controllerButtonList
  · simp [listed]
  · simp [listed]

theorem mapAnalogButton_self (config : ControllerConfig) (raw : RawInputData) (buttons : Buttons)
    (button : ControllerButton) :
    mapAnalogButton config (deadzoned config raw) buttons button button =
      (buttons button || axisDown config raw button) := by
  rw [mapAnalogButton, Function.update_self, axisDown]

theorem mapAnalogButton_other (config : ControllerConfig) (raw : RawInputData) (buttons : Buttons)
    {button other : ControllerButton} (apart : button ≠ other) :
    mapAnalogButton config raw buttons other button = buttons button := by
  rw [mapAnalogButton, Function.update_of_ne apart]

theorem foldl_mapAnalogButton (config : ControllerConfig) (raw : RawInputData)
    (items : List ControllerButton) (buttons : Buttons) (button : ControllerButton) :
    items.foldl (mapAnalogButton config (deadzoned config raw)) buttons button =
      (buttons button || items.contains button && axisDown config raw button) := by
  induction items generalizing buttons with
  | nil => simp
  | cons item rest ih =>
      rw [List.foldl_cons, ih, List.contains_cons]
      by_cases here : button = item
      · rw [← here, mapAnalogButton_self]
        cases axisDown config raw button with
        | false => simp
        | true => simp
      · rw [mapAnalogButton_other _ _ _ here, beq_false_of_ne here, Bool.false_or]

/-! One turn, and the loop as a sequence of turns. -/

/-- The condition under which the code lets a combo fire. -/
def fires (buttons : Buttons) (combo : ControllerComboConfig) : Bool :=
  buttons combo.buttons.1 && buttons combo.buttons.2

def comboTurn (buttons : Buttons) (combo : ControllerComboConfig) : Buttons :=
  if fires buttons combo then
    let simulated := Function.update buttons combo.buttonSimulated true
    let released := Function.update simulated combo.buttons.1 false
    Function.update released combo.buttons.2 false
  else buttons

/-- The combos up to the first slot that simulates nothing. -/
def activeCombos (config : ControllerConfig) : List ControllerComboConfig :=
  config.simulateCombos.toList.takeWhile fun combo => combo.buttonSimulated ≠ .none

theorem simulate_eq_foldl (combos : List ControllerComboConfig) (buttons : Buttons) :
    simulate combos buttons =
      (combos.takeWhile fun combo => combo.buttonSimulated ≠ .none).foldl comboTurn buttons := by
  induction combos generalizing buttons with
  | nil => rfl
  | cons combo rest ih =>
      rw [simulate]
      split
      · rename_i last
        simp [last]
      · rename_i active
        have turn : (if fires buttons combo then
            simulate rest (Function.update (Function.update
              (Function.update buttons combo.buttonSimulated true) combo.buttons.1 false)
              combo.buttons.2 false)
            else simulate rest buttons) = simulate rest (comboTurn buttons combo) := by
          rw [comboTurn]
          split
          · rfl
          · rfl
        rw [List.takeWhile_cons, if_pos (decide_eq_true active), List.foldl_cons, ← ih]
        exact turn

theorem mapRawInputToNormalized_buttons {config : ControllerConfig} (pins : PinsInRange config)
    (raw : RawInputData) :
    ∃ normal, mapRawInputToNormalized config raw {} = .ok normal ∧
      normal.buttons = (activeCombos config).foldl comboTurn (buttonDown config raw) := by
  have finishes : (mapRawInputToNormalized config raw {}).Finishes :=
    mapRawInputToNormalized_avoids
      (fun button index bound outside => absurd (pins button index bound) (Nat.not_lt.mpr outside))
      raw {}
  obtain ⟨normal, finished⟩ := finishes.exists_ok
  refine ⟨normal, finished, ?_⟩
  rw [mapRawInputToNormalized] at finished
  obtain ⟨sticks, _, finished⟩ := Exec.bind_eq_ok finished
  obtain ⟨buttons, pressed, finished⟩ := Exec.bind_eq_ok finished
  rw [foldlM_mapButton pins, Except.ok.injEq] at pressed
  simp only [pure, Except.pure, Except.ok.injEq] at finished
  subst finished pressed
  rw [simulate_eq_foldl]
  have before : (if config.buttonsAnalogUsed then
      controllerButtonList.foldl (mapAnalogButton config (deadzoned config raw))
        (pinButtons config raw) else pinButtons config raw) = buttonDown config raw := by
    funext button
    split
    · rename_i used
      rw [foldl_mapAnalogButton, pinButtons, buttonDown, used, Bool.true_and,
        ← Bool.and_or_distrib_left]
    · rename_i unused
      rw [pinButtons, buttonDown, Bool.eq_false_iff.mpr unused, Bool.false_and, Bool.or_false]
  exact congrArg (List.foldl comboTurn · _) before

/-! The turn as documented. -/

def IsHotkey (combo : ControllerComboConfig) (button : ControllerButton) : Prop :=
  button ≠ .none ∧ (button = combo.buttons.1 ∨ button = combo.buttons.2)

instance (combo : ControllerComboConfig) : DecidablePred (IsHotkey combo) :=
  fun _ => inferInstanceAs (Decidable (_ ∧ _))

def HasHotkey (combo : ControllerComboConfig) : Prop :=
  combo.buttons.1 ≠ .none ∨ combo.buttons.2 ≠ .none

def HotkeysDown (combo : ControllerComboConfig) (buttons : Buttons) : Prop :=
  (combo.buttons.1 ≠ .none → buttons combo.buttons.1 = true) ∧
    (combo.buttons.2 ≠ .none → buttons combo.buttons.2 = true)

instance (combo : ControllerComboConfig) : Decidable (HasHotkey combo) :=
  inferInstanceAs (Decidable (_ ∨ _))

instance (combo : ControllerComboConfig) (buttons : Buttons) :
    Decidable (HotkeysDown combo buttons) :=
  inferInstanceAs (Decidable (_ ∧ _))

/-- The README's reading of a combo: with all its hotkeys down it presses the simulated button and
releases the hotkeys. -/
def documentedTurn (buttons : Buttons) (combo : ControllerComboConfig) : Buttons :=
  if HasHotkey combo ∧ HotkeysDown combo buttons then fun button =>
    if button = combo.buttonSimulated then true
    else if IsHotkey combo button then false
    else buttons button
  else buttons

structure DocumentedTurn (buttons : Buttons) (combo : ControllerComboConfig) : Prop where
  fires_iff : fires buttons combo = true ↔ HotkeysDown combo buttons
  simulated : fires buttons combo = true → comboTurn buttons combo combo.buttonSimulated = true
  released : fires buttons combo = true → ∀ button, IsHotkey combo button →
    button ≠ combo.buttonSimulated → comboTurn buttons combo button = false
  others : fires buttons combo = true → ∀ button, ¬IsHotkey combo button →
    button ≠ combo.buttonSimulated → comboTurn buttons combo button = buttons button
  idle : fires buttons combo = false → comboTurn buttons combo = buttons

/-- All combos take their turns in the order of the slots, and those with a hotkey as documented. -/
def DocumentedCombos (config : ControllerConfig) (raw : RawInputData) : Prop :=
  ∃ normal, mapRawInputToNormalized config raw {} = .ok normal ∧
    normal.buttons = (activeCombos config).foldl comboTurn (buttonDown config raw) ∧
    ∀ earlier combo later, activeCombos config = earlier ++ combo :: later → HasHotkey combo →
      DocumentedTurn (earlier.foldl comboTurn (buttonDown config raw)) combo

/-- With its hotkeys down, a combo has two of them and simulates neither. -/
def Harmless (buttons : Buttons) (combo : ControllerComboConfig) : Prop :=
  HotkeysDown combo buttons →
    combo.buttons.1 ≠ .none ∧ combo.buttons.2 ≠ .none ∧
      ¬IsHotkey combo combo.buttonSimulated

def NoneUp (buttons : Buttons) : Prop := buttons .none = false

section Turn

variable {buttons : Buttons} {combo : ControllerComboConfig}

theorem fires_iff_of_two (first : combo.buttons.1 ≠ .none) (second : combo.buttons.2 ≠ .none) :
    fires buttons combo = true ↔ HotkeysDown combo buttons := by
  simp [fires, HotkeysDown, first, second]

theorem comboTurn_fired (fired : fires buttons combo = true) (button : ControllerButton) :
    comboTurn buttons combo button =
      if button = combo.buttons.1 ∨ button = combo.buttons.2 then false
      else if button = combo.buttonSimulated then true
      else buttons button := by
  rw [comboTurn, if_pos fired]
  by_cases second : button = combo.buttons.2
  · rw [second, Function.update_self, if_pos (.inr rfl)]
  · rw [Function.update_of_ne second]
    by_cases first : button = combo.buttons.1
    · rw [first, Function.update_self, if_pos (.inl rfl)]
    · rw [Function.update_of_ne first, if_neg (not_or.mpr ⟨first, second⟩), Function.update_apply]

theorem comboTurn_idle (idle : fires buttons combo = false) :
    comboTurn buttons combo = buttons := by
  rw [comboTurn, idle, if_neg Bool.false_ne_true]

theorem two_hotkeys_of_fires (noneUp : NoneUp buttons) (fired : fires buttons combo = true) :
    combo.buttons.1 ≠ .none ∧ combo.buttons.2 ≠ .none := by
  rw [fires, Bool.and_eq_true] at fired
  rw [NoneUp] at noneUp
  constructor
  · intro absent
    rw [absent, noneUp] at fired
    exact absurd fired.1 (by decide)
  · intro absent
    rw [absent, noneUp] at fired
    exact absurd fired.2 (by decide)

theorem isHotkey_of_two (first : combo.buttons.1 ≠ .none) (second : combo.buttons.2 ≠ .none)
    (button : ControllerButton) :
    IsHotkey combo button ↔ button = combo.buttons.1 ∨ button = combo.buttons.2 := by
  refine and_iff_right_of_imp ?_
  rintro (rfl | rfl)
  · exact first
  · exact second

theorem documented_iff_harmless (noneUp : NoneUp buttons) :
    DocumentedTurn buttons combo ↔ Harmless buttons combo := by
  constructor
  · intro documented down
    have fired := documented.fires_iff.mpr down
    obtain ⟨first, second⟩ := two_hotkeys_of_fires noneUp fired
    refine ⟨first, second, ?_⟩
    intro isHotkey
    have pressed := documented.simulated fired
    rw [comboTurn_fired fired, if_pos isHotkey.2] at pressed
    exact absurd pressed (by decide)
  · intro harmless
    have firesIff : fires buttons combo = true ↔ HotkeysDown combo buttons := by
      constructor
      · intro fired
        obtain ⟨first, second⟩ := two_hotkeys_of_fires noneUp fired
        exact (fires_iff_of_two first second).mp fired
      · intro down
        obtain ⟨first, second, _⟩ := harmless down
        exact (fires_iff_of_two first second).mpr down
    have hotkeys : fires buttons combo = true → ∀ button,
        IsHotkey combo button ↔ button = combo.buttons.1 ∨ button = combo.buttons.2 := by
      intro fired
      obtain ⟨first, second⟩ := two_hotkeys_of_fires noneUp fired
      exact isHotkey_of_two first second
    refine ⟨firesIff, ?_, ?_, ?_, comboTurn_idle⟩
    · intro fired
      have apart := (harmless (firesIff.mp fired)).2.2
      rw [hotkeys fired] at apart
      rw [comboTurn_fired fired, if_neg apart, if_pos rfl]
    · intro fired button isHotkey _
      rw [comboTurn_fired fired, if_pos isHotkey.2]
    · intro fired button other apart
      rw [hotkeys fired] at other
      rw [comboTurn_fired fired, if_neg other, if_neg apart]

theorem comboTurn_eq_documented (noneUp : NoneUp buttons)
    (harmless : HasHotkey combo → Harmless buttons combo) :
    comboTurn buttons combo = documentedTurn buttons combo := by
  by_cases has : HasHotkey combo
  · have documented := (documented_iff_harmless noneUp).mpr (harmless has)
    by_cases down : HotkeysDown combo buttons
    · have fired := documented.fires_iff.mpr down
      obtain ⟨first, second, apart⟩ := harmless has down
      rw [isHotkey_of_two first second] at apart
      rw [documentedTurn, if_pos ⟨has, down⟩]
      funext button
      rw [comboTurn_fired fired]
      simp only [isHotkey_of_two first second]
      by_cases simulated : button = combo.buttonSimulated
      · rw [if_pos simulated, if_pos simulated, if_neg (simulated ▸ apart)]
      · rw [if_neg simulated, if_neg simulated]
    · have idle := Bool.eq_false_iff.mpr (mt documented.fires_iff.mp down)
      rw [documented.idle idle, documentedTurn, if_neg (fun both => down both.2)]
  · have idle : fires buttons combo = false := by
      by_contra fired
      have two := two_hotkeys_of_fires noneUp (Bool.eq_true_of_not_eq_false fired)
      exact has (.inl two.1)
    rw [comboTurn_idle idle, documentedTurn, if_neg (fun both => has both.1)]

theorem comboTurn_noneUp (noneUp : NoneUp buttons) (active : combo.buttonSimulated ≠ .none) :
    NoneUp (comboTurn buttons combo) := by
  cases fired : fires buttons combo with
  | false =>
      rw [comboTurn_idle fired]
      exact noneUp
  | true =>
      rw [NoneUp, comboTurn_fired fired, if_neg (Ne.symm active)]
      split
      · rfl
      · exact noneUp

end Turn

/-- The combos act as documented exactly when, as documented, each is harmless at its turn. -/
theorem combos_documented_iff {config : ControllerConfig} (pins : PinsInRange config)
    (raw : RawInputData) :
    DocumentedCombos config raw ↔
      ∀ earlier combo later, activeCombos config = earlier ++ combo :: later → HasHotkey combo →
        Harmless (earlier.foldl documentedTurn (buttonDown config raw)) combo := by
  obtain ⟨normal, mapped, processed⟩ := mapRawInputToNormalized_buttons pins raw
  have turns : (∀ earlier combo later, activeCombos config = earlier ++ combo :: later →
      HasHotkey combo → DocumentedTurn (earlier.foldl comboTurn (buttonDown config raw)) combo) ↔
      ∀ earlier combo later, activeCombos config = earlier ++ combo :: later → HasHotkey combo →
        Harmless (earlier.foldl documentedTurn (buttonDown config raw)) combo := by
    have start : NoneUp (buttonDown config raw) := rfl
    refine @Library.forall_foldl_iff _ _ comboTurn documentedTurn
      (fun buttons combo => HasHotkey combo → DocumentedTurn buttons combo)
      (fun buttons combo => HasHotkey combo → Harmless buttons combo) NoneUp _ _ start ?_ ?_ ?_
    · intro buttons combo _ noneUp
      exact forall_congr' fun _ => documented_iff_harmless noneUp
    · intro buttons combo _ noneUp harmless
      exact comboTurn_eq_documented noneUp harmless
    · intro buttons combo member noneUp
      rw [activeCombos] at member
      have active := List.mem_takeWhile_imp member
      exact comboTurn_noneUp noneUp (of_decide_eq_true active)
  rw [← turns]
  constructor
  · rintro ⟨_, _, _, documented⟩
    exact documented
  · intro documented
    exact ⟨normal, mapped, processed, documented⟩

/-! `X`, `Y` and `ZL` on pins of their own, and one combo in the first slot. -/

def threePins : ControllerButton → Vector UInt8 MAX_PIN_BY_BUTTONS
  | .x => #v[1, 0]
  | .y => #v[2, 0]
  | .zl => #v[3, 0]
  | _ => noPins

def oneCombo (combo : ControllerComboConfig) : ControllerConfig where
  buttonsPin := threePins
  simulateCombos := (Vector.replicate MAX_CONTROLLER_COMBO {}).set 0 combo

theorem oneCombo_pins (combo : ControllerComboConfig) : PinsInRange (oneCombo combo) := by
  have inRange : ∀ button index (bound : index < MAX_PIN_BY_BUTTONS),
      (threePins button)[index].toNat < MAX_CONTROLLER_BUTTONS := by
    intro button
    cases button <;> decide
  exact inRange

def pinRaw (pins : List Nat) : RawInputData := { buttons := fun pin => pins.contains pin.val }

-- Both hotkeys held, and another button simulated.
theorem combos_documented_two_hotkeys :
    DocumentedCombos (oneCombo ⟨.a, (.x, .y)⟩) (pinRaw [1, 2]) := by
  refine (combos_documented_iff (oneCombo_pins _) _).mpr ?_
  intro earlier combo later shape _ _
  have only : activeCombos (oneCombo ⟨.a, (.x, .y)⟩) = [⟨.a, (.x, .y)⟩] := rfl
  rw [only] at shape
  have member : combo ∈ [(⟨.a, (.x, .y)⟩ : ControllerComboConfig)] := by
    rw [shape]
    exact List.mem_append_right _ List.mem_cons_self
  rw [List.mem_singleton.mp member]
  decide

-- `simulate_rstick_click=ZL` with `ZL` held.
theorem one_hotkey_never_fires :
    ¬∀ (config : ControllerConfig) (raw : RawInputData), PinsInRange config →
      DocumentedCombos config raw := by
  intro always
  obtain ⟨_, _, _, documented⟩ :=
    always (oneCombo ⟨.rstickClick, (.zl, .none)⟩) (pinRaw [3]) (oneCombo_pins _)
  have turn := documented [] ⟨.rstickClick, (.zl, .none)⟩ [] rfl (by decide)
  exact absurd (turn.fires_iff.mpr (by decide)) (by decide)

end BaseController

end SysCon
