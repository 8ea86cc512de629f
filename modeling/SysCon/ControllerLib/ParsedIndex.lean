import SysCon.ControllerLib.Controllers

/-!
What `ParseData` makes of the index, the size and the buttons of a report,
driver by driver, and what can fault in it.
-/

namespace SysCon

section ParseData

variable {base : BaseController} {buffer : Buffer} {size inputIdx : Nat} {rawData : RawInputData}

/-- The index is kept, and success takes a report of some size. -/
def KeepsIndex {state : Type} (smallest size inputIdx : Nat) (parsed : Parsed state) : Prop :=
  parsed.inputIdx = inputIdx ∧ (parsed.status = .success → smallest ≤ size)

/-- The report is ignored, or it is long enough and its buttons, which are numbered from 1 on, go
into the record. -/
inductive ParsedAs {state : Type} (smallest size inputIdx : Nat) (rawData : RawInputData) :
    Parsed state → Prop
  | ignored {status stored sent} (failed : status ≠ .success) :
      ParsedAs smallest size inputIdx rawData ⟨status, rawData, inputIdx, stored, sent⟩
  | input {buttons analog stored sent} (enough : smallest ≤ size)
      (numbered : 0 ∉ buttons.map Prod.fst) :
      ParsedAs smallest size inputIdx rawData
        ⟨.success, rawData.assign buttons analog, inputIdx, stored, sent⟩

theorem ParsedAs.keepsIndex {state : Type} {smallest : Nat} {parsed : Parsed state}
    (parsedAs : ParsedAs smallest size inputIdx rawData parsed) :
    KeepsIndex smallest size inputIdx parsed := by
  cases parsedAs with
  | ignored failed => exact ⟨rfl, fun success => absurd success failed⟩
  | input enough _ => exact ⟨rfl, fun _ => enough⟩

theorem XboxController.buttons_numbered (data : Buffer) : 0 ∉ (buttons data).map Prod.fst := by
  simp only [buttons, List.map_cons, List.map_nil]
  decide

theorem XboxController.parseData_parsedAs :
    ParsedAs XboxController.sizeofButtonData size inputIdx rawData
      (XboxController.parseData buffer size rawData inputIdx) := by
  unfold XboxController.parseData
  split
  · exact .ignored (by simp)
  · exact .input (by omega) (buttons_numbered buffer)

theorem Xbox360Controller.buttons_numbered (data : Buffer) : 0 ∉ (buttons data).map Prod.fst := by
  simp only [buttons, List.map_cons, List.map_nil]
  decide

theorem Xbox360Controller.parseData_parsedAs :
    ParsedAs Xbox360Controller.sizeofButtonData size inputIdx rawData
      (Xbox360Controller.parseData buffer size rawData inputIdx) := by
  unfold Xbox360Controller.parseData
  split
  · exact .ignored (by simp)
  · split
    · exact .input (by omega) (buttons_numbered buffer)
    · exact .ignored (by simp)

theorem Dualshock3Controller.buttons_numbered (data : Buffer) :
    0 ∉ (buttons data).map Prod.fst := by
  simp only [buttons, List.map_cons, List.map_nil]
  decide

theorem Dualshock3Controller.parseData_parsedAs :
    ParsedAs Dualshock3Controller.sizeofButtonData size inputIdx rawData
      (Dualshock3Controller.parseData buffer size rawData inputIdx) := by
  unfold Dualshock3Controller.parseData
  split
  · exact .ignored (by simp)
  · split
    · exact .input (by omega) (buttons_numbered buffer)
    · exact .ignored (by simp)

theorem SwitchController.buttons_numbered (data : Buffer) : 0 ∉ (buttons data).map Prod.fst := by
  simp only [buttons, List.map_cons, List.map_nil]
  decide

theorem SwitchController.parseData_parsedAs {controller : SwitchController} :
    ParsedAs SwitchController.sizeofButtonData size inputIdx rawData
      (controller.parseData buffer size rawData inputIdx) := by
  unfold SwitchController.parseData
  split
  · exact .ignored (by simp)
  · split
    · exact .ignored (by simp)
    · exact .input (by omega) (buttons_numbered buffer)

theorem XboxOneController.parseData_keeps {controller : XboxOneController}
    {results : WriteResults} :
    KeepsIndex 6 size inputIdx
      (controller.parseData base results buffer size rawData inputIdx) := by
  unfold XboxOneController.parseData
  split
  · split
    · exact ⟨rfl, fun success => by simp at success⟩
    · rename_i enough
      exact ⟨rfl, fun _ => by simp only [XboxOneController.sizeofButtonData] at enough; omega⟩
  · split
    · split
      · exact ⟨rfl, fun success => by simp at success⟩
      · split
        · simp only
          split
          · exact ⟨rfl, fun _ => by omega⟩
          · exact ⟨rfl, fun _ => by omega⟩
        · exact ⟨rfl, fun _ => by omega⟩
    · exact ⟨rfl, fun success => by simp at success⟩

theorem Xbox360WirelessController.parseData_parsedAs {controller : Xbox360WirelessController}
    {parsed : Parsed Xbox360WirelessController}
    (finished : controller.parseData base buffer size rawData inputIdx = .ok parsed) :
    ParsedAs Xbox360Controller.sizeofButtonData size inputIdx rawData parsed := by
  unfold Xbox360WirelessController.parseData at finished
  split at finished
  · obtain ⟨_, _, finished⟩ := Exec.bind_eq_ok finished
    cases finished
    exact .ignored (by simp)
  · split at finished
    · simp only at finished
      split at finished
      · cases finished
        exact .ignored (by simp)
      · split at finished
        · cases finished
          exact .input (by omega) (Xbox360Controller.buttons_numbered _)
        · cases finished
          exact .ignored (by simp)
    · cases finished
      exact .ignored (by simp)

theorem SteamController2026.parseData_keeps {controller : SteamController2026}
    {parsed : Parsed SteamController2026}
    (finished : controller.parseData base buffer size rawData inputIdx = .ok parsed) :
    KeepsIndex SteamController2026.sizeofInputReport size inputIdx parsed ∧
      parsed.state.controllerCount = controller.controllerCount := by
  unfold SteamController2026.parseData at finished
  split at finished
  · cases finished
    exact ⟨⟨rfl, fun success => by simp at success⟩, rfl⟩
  · split at finished
    · split at finished
      · cases finished
        exact ⟨⟨rfl, fun success => by simp at success⟩, rfl⟩
      · rename_i enough
        simp only at finished
        obtain ⟨connected, _, finished⟩ := Exec.bind_eq_ok finished
        split at finished
        · obtain ⟨⟨stored, sent⟩, stores, finished⟩ := Exec.bind_eq_ok finished
          obtain ⟨_, _, stores⟩ := Exec.bind_eq_ok stores
          cases stores
          cases finished
          exact ⟨⟨rfl, fun _ => by omega⟩, rfl⟩
        · cases finished
          exact ⟨⟨rfl, fun _ => by omega⟩, rfl⟩
    · split at finished
      · obtain ⟨⟨stored, sent⟩, stores, finished⟩ := Exec.bind_eq_ok finished
        cases finished
        refine ⟨⟨rfl, fun success => by simp at success⟩, ?_⟩
        unfold SteamController2026.parseStatus at stores
        obtain ⟨_, _, stores⟩ := Exec.bind_eq_ok stores
        split at stores
        · obtain ⟨_, _, stores⟩ := Exec.bind_eq_ok stores
          cases stores
          rfl
        · split at stores
          · obtain ⟨_, _, stores⟩ := Exec.bind_eq_ok stores
            cases stores
            rfl
          · cases stores
            rfl
      · cases finished
        exact ⟨⟨rfl, fun success => by simp at success⟩, rfl⟩

theorem WiiController.buttons_numbered (data : Buffer) : 0 ∉ (buttons data).map Prod.fst := by
  simp only [buttons, List.map_cons, List.map_nil]
  decide

theorem WiiController.parseData_parsedAs {controller : WiiController}
    {parsed : Parsed WiiController}
    (finished : controller.parseData buffer size rawData inputIdx = .ok parsed) :
    ParsedAs WiiController.portSize size inputIdx rawData parsed ∧
      parsed.state.currentWiiControllerIdx = controller.currentWiiControllerIdx := by
  unfold WiiController.parseData at finished
  split at finished
  · cases finished
    exact ⟨.ignored (by simp), rfl⟩
  · rename_i long
    have enough : WiiController.portSize ≤ size := Nat.not_lt.mp long
    simp only at finished
    obtain ⟨_, _, finished⟩ := Exec.bind_eq_ok finished
    obtain ⟨_, _, finished⟩ := Exec.bind_eq_ok finished
    split at finished
    · cases finished
      exact ⟨.ignored (by simp), rfl⟩
    · cases finished
      exact ⟨.input enough (buttons_numbered buffer), rfl⟩

/-! An index outside the arrays is the only fault of `ParseData`. -/

theorem Xbox360WirelessController.parseData_avoids {bad : Fault → Prop}
    {controller : Xbox360WirelessController}
    (harmless : CONTROLLER_MAX_INPUTS ≤ inputIdx → ¬bad (.slotIndex inputIdx)) :
    (controller.parseData base buffer size rawData inputIdx).Avoids bad := by
  apply Exec.Avoids.ite
  · intro _
    apply Exec.Avoids.bind _ (fun _ _ => .pure _)
    apply Exec.Avoids.bind (Slots.fetch_avoids _ harmless)
    intro _ _
    apply Exec.Avoids.ite
    · intro _
      exact .ite (fun _ => .bind (Slots.put_avoids _ harmless _) (fun _ _ => .pure _))
        (fun _ => .bind (Slots.put_avoids _ harmless _) (fun _ _ => .pure _))
    · exact fun _ => .pure _
  · intro _
    apply Exec.Avoids.ite
    · intro _
      exact .ite (fun _ => .pure _) (fun _ => .ite (fun _ => .pure _) (fun _ => .pure _))
    · exact fun _ => .pure _

theorem SteamController2026.parseData_avoids {bad : Fault → Prop}
    {controller : SteamController2026}
    (harmless : CONTROLLER_MAX_INPUTS ≤ inputIdx → ¬bad (.slotIndex inputIdx)) :
    (controller.parseData base buffer size rawData inputIdx).Avoids bad := by
  apply Exec.Avoids.ite (fun _ => .pure _)
  intro _
  apply Exec.Avoids.ite
  · intro _
    apply Exec.Avoids.ite (fun _ => .pure _)
    intro _
    apply Exec.Avoids.bind (Slots.fetch_avoids _ harmless)
    intro _ _
    exact .ite (fun _ => .bind (.bind (Slots.put_avoids _ harmless _) (fun _ _ => .pure _))
      (fun _ _ => .pure _)) (fun _ => .pure _)
  · intro _
    apply Exec.Avoids.ite
    · intro _
      apply Exec.Avoids.bind _ (fun _ _ => .pure _)
      apply Exec.Avoids.bind (Slots.fetch_avoids _ harmless)
      intro _ _
      exact .ite (fun _ => .bind (Slots.put_avoids _ harmless _) (fun _ _ => .pure _))
        (fun _ => .ite (fun _ => .bind (Slots.put_avoids _ harmless _) (fun _ _ => .pure _))
          (fun _ => .pure _))
    · exact fun _ => .pure _

theorem WiiController.parseData_avoids {bad : Fault → Prop} {controller : WiiController}
    (harmless : CONTROLLER_MAX_INPUTS ≤ inputIdx → ¬bad (.slotIndex inputIdx)) :
    (controller.parseData buffer size rawData inputIdx).Avoids bad := by
  apply Exec.Avoids.ite (fun _ => .pure _)
  intro _
  apply Exec.Avoids.bind (Slots.put_avoids _ harmless _)
  intro _ _
  apply Exec.Avoids.bind (Slots.put_avoids _ harmless _)
  intro _ _
  exact .ite (fun _ => .pure _) (fun _ => .pure _)

-- The joystick may name another input, but only in place of the first one.
theorem GenericHIDController.parseData_state (controller : GenericHIDController)
    (joystick : Option HIDJoystickData) (rawData : RawInputData) (inputIdx : Nat) :
    (controller.parseData joystick rawData inputIdx).state = controller := by
  unfold GenericHIDController.parseData
  cases joystick with
  | none => rfl
  | some data =>
      simp only
      split
      · rfl
      · rfl

theorem GenericHIDController.parseData_index (controller : GenericHIDController)
    (joystick : Option HIDJoystickData) (rawData : RawInputData) (inputIdx : Nat) :
    (controller.parseData joystick rawData inputIdx).inputIdx = inputIdx ∨
      (inputIdx = 0 ∧
        (controller.parseData joystick rawData inputIdx).inputIdx < controller.getInputCount) := by
  unfold GenericHIDController.parseData
  cases joystick with
  | none => exact Or.inl rfl
  | some data =>
      simp only
      split
      · exact Or.inl rfl
      · rename_i known
        split
        · rename_i first
          exact Or.inr ⟨first, Nat.lt_of_not_le known⟩
        · exact Or.inl rfl

end ParseData

end SysCon
