import SysCon.ControllerLib.ParseData

/-!
`BaseController::MapRawInputToNormalized`: from the raw input record to the
buttons and sticks of the virtual controller, as the configuration says.
-/

namespace SysCon

inductive StickAxis
  | leftX | leftY | rightX | rightY
  deriving DecidableEq, Repr

structure NormalizedButtonData where
  buttons : ControllerButton → Bool := fun _ => false
  sticks : StickAxis → ℚ := fun _ => 0

structure StickButton where
  button : ControllerButton
  axis : StickAxis
  sign : ℚ
  deriving DecidableEq, Repr

namespace BaseController

def sticksList : List StickButton :=
  [⟨.lstickLeft, .leftX, -1⟩, ⟨.lstickRight, .leftX, 1⟩,
   ⟨.lstickUp, .leftY, 1⟩, ⟨.lstickDown, .leftY, -1⟩,
   ⟨.rstickLeft, .rightX, -1⟩, ⟨.rstickRight, .rightX, 1⟩,
   ⟨.rstickUp, .rightY, 1⟩, ⟨.rstickDown, .rightY, -1⟩]

def controllerButtonList : List ControllerButton :=
  [.x, .a, .b, .y, .lstickClick, .rstickClick, .l, .r, .zl, .zr, .minus, .plus, .capture, .home,
   .dpadUp, .dpadDown, .dpadRight, .dpadLeft]

def rawButton (raw : RawInputData) (pin : UInt8) : Exec Bool :=
  if bound : pin.toNat < MAX_CONTROLLER_BUTTONS then .ok (raw.buttons ⟨pin.toNat, bound⟩)
  else .error (.buttonPin pin.toNat)

-- `||` reads the second pin only when the first one is not pressed.
def isPressed (config : ControllerConfig) (raw : RawInputData) (button : ControllerButton) :
    Exec Bool := do
  if ← rawButton raw (config.buttonsPin button)[0] then return true
  else rawButton raw (config.buttonsPin button)[1]

def deadzoned (config : ControllerConfig) (raw : RawInputData) : RawInputData :=
  { raw with
    analog := fun binding =>
      if binding = .unknown then 0
      else applyDeadzone (config.analogDeadzonePercent binding) (raw.analog binding) }

def stickValue (config : ControllerConfig) (raw : RawInputData) (button : ControllerButton) : ℚ :=
  let analogCfg := config.buttonsAnalog button
  let value := (analogCfg.sign * raw.analog analogCfg.bind) *
    ((config.analogFactorPercent analogCfg.bind).toNat / 100)
  if value > 1 then 1 else value

def mapStick (config : ControllerConfig) (raw : RawInputData) (sticks : StickAxis → ℚ)
    (stick : StickButton) : Exec (StickAxis → ℚ) := do
  let value := stickValue config raw stick.button
  if ← isPressed config raw stick.button then
    return Function.update sticks stick.axis (stick.sign * 1)
  else if value > 0 then return Function.update sticks stick.axis (stick.sign * value)
  else return sticks

def mapButton (config : ControllerConfig) (raw : RawInputData) (buttons : ControllerButton → Bool)
    (button : ControllerButton) : Exec (ControllerButton → Bool) := do
  return Function.update buttons button (← isPressed config raw button)

def mapAnalogButton (config : ControllerConfig) (raw : RawInputData)
    (buttons : ControllerButton → Bool) (button : ControllerButton) : ControllerButton → Bool :=
  let analogCfg := config.buttonsAnalog button
  Function.update buttons button (buttons button || analogCfg.sign * raw.analog analogCfg.bind > 0)

def simulate : List ControllerComboConfig → (ControllerButton → Bool) → ControllerButton → Bool
  | [], buttons => buttons
  | combo :: rest, buttons =>
      if combo.buttonSimulated = .none then buttons
      else if buttons combo.buttons.1 && buttons combo.buttons.2 then
        let simulated := Function.update buttons combo.buttonSimulated true
        let released := Function.update simulated combo.buttons.1 false
        simulate rest (Function.update released combo.buttons.2 false)
      else simulate rest buttons

def mapRawInputToNormalized (config : ControllerConfig) (rawData : RawInputData)
    (normalData : NormalizedButtonData) : Exec NormalizedButtonData := do
  let raw := deadzoned config rawData
  let sticks ← sticksList.foldlM (mapStick config raw) normalData.sticks
  let buttons ← controllerButtonList.foldlM (mapButton config raw) normalData.buttons
  let buttons :=
    if config.buttonsAnalogUsed then
      controllerButtonList.foldl (mapAnalogButton config raw) buttons
    else buttons
  return ⟨simulate config.simulateCombos.toList buttons, sticks⟩

theorem rawButton_avoids {bad : Fault → Prop} (raw : RawInputData) (pin : UInt8)
    (harmless : MAX_CONTROLLER_BUTTONS ≤ pin.toNat → ¬bad (.buttonPin pin.toNat)) :
    (rawButton raw pin).Avoids bad := by
  unfold rawButton
  split
  · exact .ok _
  · rename_i outside
    intro fault isBad same
    simp only [Except.error.injEq] at same
    subst fault
    exact harmless (Nat.not_lt.mp outside) isBad

theorem isPressed_avoids {bad : Fault → Prop} {config : ControllerConfig}
    (harmless : ∀ button index (bound : index < MAX_PIN_BY_BUTTONS),
      MAX_CONTROLLER_BUTTONS ≤ (config.buttonsPin button)[index].toNat →
        ¬bad (.buttonPin (config.buttonsPin button)[index].toNat))
    (raw : RawInputData) (button : ControllerButton) :
    (isPressed config raw button).Avoids bad := by
  apply Exec.Avoids.bind (rawButton_avoids _ _ (harmless button 0 (by decide)))
  intro _ _
  exact .ite (fun _ => .pure _) (fun _ => rawButton_avoids _ _ (harmless button 1 (by decide)))

theorem mapRawInputToNormalized_avoids {bad : Fault → Prop} {config : ControllerConfig}
    (harmless : ∀ button index (bound : index < MAX_PIN_BY_BUTTONS),
      MAX_CONTROLLER_BUTTONS ≤ (config.buttonsPin button)[index].toNat →
        ¬bad (.buttonPin (config.buttonsPin button)[index].toNat))
    (rawData : RawInputData) (normalData : NormalizedButtonData) :
    (mapRawInputToNormalized config rawData normalData).Avoids bad := by
  have pressed := isPressed_avoids harmless (deadzoned config rawData)
  apply Exec.Avoids.bind
  · apply Exec.Avoids.foldlM
    intro sticks stick _
    apply Exec.Avoids.bind (pressed stick.button)
    intro _ _
    exact .ite (fun _ => .pure _) (fun _ => .ite (fun _ => .pure _) (fun _ => .pure _))
  · intro _ _
    apply Exec.Avoids.bind
    · apply Exec.Avoids.foldlM
      intro buttons button _
      exact .bind (pressed button) (fun _ _ => .pure _)
    · exact fun _ _ => .pure _

end BaseController

end SysCon
