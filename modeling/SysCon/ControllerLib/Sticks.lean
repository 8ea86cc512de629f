import SysCon.ControllerLib.Combos

/-!
The sticks of `MapRawInputToNormalized`. An axis has two directions, which take
their turns one after the other; no other entry of the list touches it.
-/

namespace SysCon

namespace BaseController

def directions : StickAxis → StickButton × StickButton
  | .leftX => (⟨.lstickLeft, .leftX, -1⟩, ⟨.lstickRight, .leftX, 1⟩)
  | .leftY => (⟨.lstickUp, .leftY, 1⟩, ⟨.lstickDown, .leftY, -1⟩)
  | .rightX => (⟨.rstickLeft, .rightX, -1⟩, ⟨.rstickRight, .rightX, 1⟩)
  | .rightY => (⟨.rstickUp, .rightY, 1⟩, ⟨.rstickDown, .rightY, -1⟩)

def stickTurn (config : ControllerConfig) (raw : RawInputData) (current : ℚ)
    (stick : StickButton) : ℚ :=
  let value := stickValue config (deadzoned config raw) stick.button
  if anyPinDown config raw stick.button then stick.sign * 1
  else if value > 0 then stick.sign * value
  else current

def axisPosition (config : ControllerConfig) (raw : RawInputData) (axis : StickAxis) : ℚ :=
  stickTurn config raw (stickTurn config raw 0 (directions axis).1) (directions axis).2

/-! What a mapping that goes through has read: a pin outside the raw buttons would end it. -/

theorem rawButton_of_ok {raw : RawInputData} {pin : UInt8} {down : Bool}
    (read : rawButton raw pin = .ok down) : down = pinDown raw pin := by
  by_cases bound : pin.toNat < MAX_CONTROLLER_BUTTONS
  · rw [rawButton_eq bound] at read
    exact (Except.ok.inj read).symm
  · simp [rawButton, bound] at read

theorem isPressed_of_ok {config : ControllerConfig} {raw : RawInputData}
    {button : ControllerButton} {pressed : Bool}
    (read : isPressed config raw button = .ok pressed) :
    pressed = anyPinDown config raw button := by
  rw [anyPinDown_eq]
  obtain ⟨first, firstRead, rest⟩ := Exec.bind_eq_ok read
  rw [← rawButton_of_ok firstRead]
  cases first with
  | true => exact (Except.ok.inj rest).symm
  | false => exact rawButton_of_ok rest

theorem mapStick_of_ok {config : ControllerConfig} {raw : RawInputData} {sticks : StickAxis → ℚ}
    {stick : StickButton} {moved : StickAxis → ℚ}
    (finished : mapStick config (deadzoned config raw) sticks stick = .ok moved) :
    moved = Function.update sticks stick.axis (stickTurn config raw (sticks stick.axis) stick) := by
  obtain ⟨pressed, read, finished⟩ := Exec.bind_eq_ok finished
  have pins : pressed = anyPinDown config raw stick.button := isPressed_of_ok read
  rw [stickTurn, ← pins]
  split at finished
  · rename_i down
    rw [if_pos down]
    exact (Except.ok.inj finished).symm
  · rename_i idle
    rw [if_neg idle]
    split at finished
    · rename_i positive
      rw [if_pos positive]
      exact (Except.ok.inj finished).symm
    · rename_i still
      rw [if_neg still, Function.update_eq_self]
      exact (Except.ok.inj finished).symm

theorem foldlM_mapStick_of_ok {config : ControllerConfig} {raw : RawInputData}
    {items : List StickButton} {sticks moved : StickAxis → ℚ}
    (finished : items.foldlM (mapStick config (deadzoned config raw)) sticks = .ok moved) :
    moved = items.foldl
      (fun sticks stick =>
        Function.update sticks stick.axis (stickTurn config raw (sticks stick.axis) stick))
      sticks := by
  induction items generalizing sticks with
  | nil => exact (Except.ok.inj finished).symm
  | cons stick rest ih =>
      obtain ⟨turned, turn, finished⟩ := Exec.bind_eq_ok finished
      rw [List.foldl_cons, ← mapStick_of_ok turn]
      exact ih finished

theorem foldl_stickTurn (config : ControllerConfig) (raw : RawInputData) (axis : StickAxis) :
    sticksList.foldl
      (fun (sticks : StickAxis → ℚ) stick =>
        Function.update sticks stick.axis (stickTurn config raw (sticks stick.axis) stick))
      (fun _ => (0 : ℚ)) axis = axisPosition config raw axis := by
  cases axis with
  | leftX => rfl
  | leftY => rfl
  | rightX => rfl
  | rightY => rfl

theorem anyPinDown_noPins {config : ControllerConfig} {raw : RawInputData}
    {button : ControllerButton} (unbound : config.buttonsPin button = noPins)
    (idle : raw.buttons 0 = false) : anyPinDown config raw button = false := by
  have zero : pinDown raw 0 = false := idle
  rw [anyPinDown, unbound]
  simp [noPins, zero]

theorem mapRawInputToNormalized_sticks {config : ControllerConfig} {raw : RawInputData}
    {normal : NormalizedButtonData}
    (finished : mapRawInputToNormalized config raw {} = .ok normal) :
    normal.sticks = axisPosition config raw := by
  obtain ⟨sticks, moved, finished⟩ := Exec.bind_eq_ok finished
  obtain ⟨buttons, _, finished⟩ := Exec.bind_eq_ok finished
  obtain rfl := Except.ok.inj finished
  funext axis
  rw [foldlM_mapStick_of_ok moved]
  exact foldl_stickTurn config raw axis

theorem mapRawInputToNormalized_eq {config : ControllerConfig} (pins : PinsInRange config)
    (raw : RawInputData) :
    mapRawInputToNormalized config raw {} =
      .ok ⟨(activeCombos config).foldl comboTurn (buttonDown config raw),
        axisPosition config raw⟩ := by
  obtain ⟨normal, finished, buttons⟩ := mapRawInputToNormalized_buttons pins raw
  rw [finished, ← buttons, ← mapRawInputToNormalized_sticks finished]

end BaseController

end SysCon
