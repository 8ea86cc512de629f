import SysCon.ControllerLib.Controllers
import Mathlib.Logic.Function.DependsOn
import Mathlib.Tactic.Linarith

/-!
The bytes that a parser looks at. Two buffers agree on a report when they have
the same bytes up to its size; a driver that compares the size with everything
it reads before it reads it cannot tell them apart.
-/

namespace SysCon

namespace Buffer

def take (buffer : Buffer) (size : Nat) : Buffer :=
  fun index => if index < size then buffer index else 0

def before (buffer : Buffer) (size : Nat) (memory : Buffer) : Buffer :=
  fun index => if index < size then buffer index else memory index

theorem agreeOn_before (buffer : Buffer) (size : Nat) (memory : Buffer) :
    AgreeOn size buffer (buffer.before size memory) := by
  intro index bound
  simp [before, bound]

theorem before_of_ge (buffer memory : Buffer) {size index : Nat} (outside : size ≤ index) :
    buffer.before size memory index = memory index := by
  simp [before, Nat.not_lt.mpr outside]

theorem dependsOn_of_take {result : Type} {reading : Buffer → result} {size : Nat}
    (same : ∀ buffer, reading (buffer.take size) = reading buffer) :
    DependsOn reading (Set.Iio size) := by
  intro (first : Buffer) (second : Buffer) agree
  have cut : first.take size = second.take size := by
    funext index
    by_cases bound : index < size
    · simp [take, bound, agree index bound]
    · simp [take, bound]
  rw [← same first, ← same second, cut]

theorem AgreeOn.reading_eq {result : Type} {reading : Buffer → result} {size needed : Nat}
    {first second : Buffer} (agree : AgreeOn size first second)
    (reads : DependsOn reading (Set.Iio needed)) (enough : needed ≤ size) :
    reading first = reading second :=
  reads fun index bound => agree index (Nat.lt_of_lt_of_le bound enough)

end Buffer

open Buffer (AgreeOn)
open BaseController (normalize)

/-- What a caller sees of a parsed report: the status, the raw input and the new driver. -/
def Parsed.outcome {state : Type} (parsed : Parsed state) :
    ControllerResult × RawInputData × state :=
  (parsed.status, parsed.rawData, parsed.state)

namespace XboxController

theorem dependsOn_buttons : DependsOn buttons (Set.Iio sizeofButtonData) :=
  Buffer.dependsOn_of_take fun _ => rfl

theorem dependsOn_analog : DependsOn analog (Set.Iio sizeofButtonData) :=
  Buffer.dependsOn_of_take fun _ => rfl

theorem parseData_congr {buffer other : Buffer} {size : Nat} (agree : AgreeOn size buffer other)
    (rawData : RawInputData) (inputIdx : Nat) :
    parseData buffer size rawData inputIdx = parseData other size rawData inputIdx := by
  unfold parseData
  by_cases short : size < sizeofButtonData
  · rw [if_pos short, if_pos short]
  · have enough := Nat.not_lt.mp short
    rw [agree.reading_eq dependsOn_buttons enough, agree.reading_eq dependsOn_analog enough]

end XboxController

namespace Xbox360Controller

theorem dependsOn_buttons : DependsOn buttons (Set.Iio sizeofButtonData) :=
  Buffer.dependsOn_of_take fun _ => rfl

theorem dependsOn_analog : DependsOn analog (Set.Iio sizeofButtonData) :=
  Buffer.dependsOn_of_take fun _ => rfl

theorem parseData_congr {buffer other : Buffer} {size : Nat} (agree : AgreeOn size buffer other)
    (rawData : RawInputData) (inputIdx : Nat) :
    parseData buffer size rawData inputIdx = parseData other size rawData inputIdx := by
  unfold parseData
  by_cases short : size < sizeofButtonData
  · rw [if_pos short, if_pos short]
  · have enough := Nat.not_lt.mp short
    rw [agree.reading_eq dependsOn_buttons enough, agree.reading_eq dependsOn_analog enough,
      agree 0 (Nat.lt_of_lt_of_le (by decide) enough)]

end Xbox360Controller

namespace Dualshock3Controller

theorem dependsOn_buttons : DependsOn buttons (Set.Iio sizeofButtonData) :=
  Buffer.dependsOn_of_take fun _ => rfl

theorem dependsOn_analog : DependsOn analog (Set.Iio sizeofButtonData) :=
  Buffer.dependsOn_of_take fun _ => rfl

theorem parseData_congr {buffer other : Buffer} {size : Nat} (agree : AgreeOn size buffer other)
    (rawData : RawInputData) (inputIdx : Nat) :
    parseData buffer size rawData inputIdx = parseData other size rawData inputIdx := by
  unfold parseData
  by_cases short : size < sizeofButtonData
  · rw [if_pos short, if_pos short]
  · have enough := Nat.not_lt.mp short
    rw [agree.reading_eq dependsOn_buttons enough, agree.reading_eq dependsOn_analog enough,
      agree 0 (Nat.lt_of_lt_of_le (by decide) enough)]

end Dualshock3Controller

namespace SwitchController

theorem dependsOn_buttons : DependsOn buttons (Set.Iio sizeofButtonData) :=
  Buffer.dependsOn_of_take fun _ => rfl

theorem dependsOn_sticks :
    DependsOn (fun data => (leftX data, leftY data, rightX data, rightY data))
      (Set.Iio sizeofButtonData) :=
  Buffer.dependsOn_of_take fun _ => rfl

theorem parseData_congr (controller : SwitchController) {buffer other : Buffer} {size : Nat}
    (agree : AgreeOn size buffer other) (rawData : RawInputData) (inputIdx : Nat) :
    controller.parseData buffer size rawData inputIdx =
      controller.parseData other size rawData inputIdx := by
  unfold parseData
  by_cases short : size < sizeofButtonData
  · rw [if_pos short, if_pos short]
  · have enough := Nat.not_lt.mp short
    have sticks := agree.reading_eq dependsOn_sticks enough
    simp only [Prod.mk.injEq] at sticks
    obtain ⟨sameLeftX, sameLeftY, sameRightX, sameRightY⟩ := sticks
    have sameCalibration : controller.calibrate buffer = controller.calibrate other := by
      simp only [calibrate, sameLeftX, sameLeftY, sameRightX, sameRightY]
    have sameAnalog (calibrated : SwitchController) :
        calibrated.analog buffer = calibrated.analog other := by
      simp only [analog, sameLeftX, sameLeftY, sameRightX, sameRightY]
    rw [agree.reading_eq dependsOn_buttons enough, sameCalibration,
      agree 0 (Nat.lt_of_lt_of_le (by decide) enough)]
    simp only [sameAnalog]

end SwitchController

namespace XboxOneController

theorem dependsOn_buttons : DependsOn buttons (Set.Iio sizeofButtonData) :=
  Buffer.dependsOn_of_take fun _ => rfl

theorem dependsOn_analog : DependsOn analog (Set.Iio sizeofButtonData) :=
  Buffer.dependsOn_of_take fun _ => rfl

theorem parseData_congr (base : BaseController) (results : WriteResults)
    (controller : XboxOneController) {buffer other : Buffer} {size : Nat}
    (agree : AgreeOn size buffer other) (nonempty : 1 ≤ size) (rawData : RawInputData)
    (inputIdx : Nat) :
    controller.parseData base results buffer size rawData inputIdx =
      controller.parseData base results other size rawData inputIdx := by
  unfold parseData
  rw [agree 0 nonempty]
  by_cases isInput : other 0 = GIP_CMD_INPUT
  · rw [if_pos isInput, if_pos isInput]
    by_cases short : size < sizeofButtonData
    · rw [if_pos short, if_pos short]
    · have enough := Nat.not_lt.mp short
      have sameStored : controller.storeInput buffer = controller.storeInput other := by
        rw [storeInput, storeInput, agree.reading_eq dependsOn_buttons enough,
          agree.reading_eq dependsOn_analog enough]
      rw [sameStored]
  · rw [if_neg isInput, if_neg isInput]
    by_cases short : size < 6
    · rw [if_pos short, if_pos short]
    · have sameStored : controller.storeMode buffer = controller.storeMode other := by
        rw [storeMode, storeMode, agree 4 (by omega)]
      rw [sameStored, agree 1 (by omega), agree 2 (by omega)]

end XboxOneController

namespace WiiController

theorem dependsOn_buttons : DependsOn buttons (Set.Iio portSize) :=
  Buffer.dependsOn_of_take fun _ => rfl

theorem dependsOn_analog : DependsOn analog (Set.Iio portSize) :=
  Buffer.dependsOn_of_take fun _ => rfl

theorem parseData_congr (controller : WiiController) {buffer other : Buffer} {size : Nat}
    (agree : AgreeOn size buffer other) (rawData : RawInputData) (inputIdx : Nat) :
    controller.parseData buffer size rawData inputIdx =
      controller.parseData other size rawData inputIdx := by
  unfold parseData
  by_cases short : size < 9
  · rw [if_pos short, if_pos short]
  · have enough : portSize ≤ size := Nat.not_lt.mp short
    have sameBit (position : Nat) : buffer.bit 0 position = other.bit 0 position := by
      rw [Buffer.bit, Buffer.bit, agree 0 (by omega)]
    rw [agree.reading_eq dependsOn_buttons enough, agree.reading_eq dependsOn_analog enough,
      sameBit, sameBit, sameBit]

end WiiController

end SysCon
