import C64Stream.Lib.Typed
import C64Stream.Script.Vm

/-! The instructions on devices, files and the clock: which values they take and which they push. -/

namespace C64Stream

variable {R World : Type} [ScriptNumber R]

section Counts

/-- How many values an instruction takes that the dispatchers of the devices handle. -/
def deviceOperands (opcode : Opcode) (operand : Nat) : Nat :=
  match opcode with
  | .wait | .waitUntil | .obsScreenshot | .obsWaitFrames | .callPeek | .callStr | .effect
  | .palette | .runprg | .mountdisk | .switchDevice | .vicMode | .cpuSpeed | .driveUnmount
  | .driveReset | .driveOn | .driveOff | .sys | .type | .key | .log | .print | .logfile => 1
  | .effectparam | .playsid | .cfgGet | .cfgItem | .sidModel | .sidEnable | .sidVol
  | .sidFilterCurve | .sidResonance | .sidCombined | .sidDigis | .driveGet | .driveRom
  | .driveMode | .driveBusId | .pokeSingle | .readfile | .writefileAppend
  | .writefileTruncate => 2
  | .assertImageEquals | .cfgSet | .cfgOptions => 3
  | .palettecolor | .runlocal | .driveMount => 4
  | .http => 5
  -- Bit 8 of a memory wait stands for a value to compare with, bit 9 for a polling time.
  | .waitMem =>
    2 + (if operand.testBit 8 then 1 else 0) + (if operand.testBit 9 then 1 else 0)
  | .callBuiltin => operand % 65536
  | .discoverDevices => if operand = 1 then 1 else 0
  | .load => if operand = 0 then 1 else 2
  -- Bit 0 of a run stands for a file, and bit 1 for its device.
  | .run => if operand.testBit 0 then (if operand.testBit 1 then 2 else 1) else 0
  | .pokeArray => operand + 1
  | _ => 0

/-- Whether an instruction that the dispatchers of the devices handle pushes a result. -/
def deviceYields (opcode : Opcode) : Bool :=
  match opcode with
  | .callPeek | .callStr | .callBuiltin | .cfgGet | .cfgItem | .cfgOptions | .driveGet => true
  | _ => false

end Counts

section Programs

/-- Whether an operation takes nothing off the stack and puts nothing on it. -/
def VmOp.leavesStack (op : VmOp R World) : Bool :=
  match op with
  | .pop => false
  | .push _ => false
  | _ => true

/-- A program that leaves the stack alone, whatever its operations answer. -/
def LeavesStack {α : Type} (program : Program R World α) : Prop :=
  program.Typed (fun op (_ : Unit) => op.leavesStack = true) (fun _ level => level) () ()

/-- What devices, files and the clock do with the values of an instruction, and their answer. -/
structure Devices (R World : Type) [ScriptNumber R] where
  act : Code R → Instruction → List (Value R) → Program R World (Value R)
  /-- The values are already taken, and the answer is not yet pushed. -/
  leavesStack : ∀ code instruction values, LeavesStack (act code instruction values)

/-- Take so many values off the stack, the top one first. -/
def popValues : Nat → Program R World (List (Value R))
  | 0 => .done []
  | count + 1 => do
    let value ← pop
    let others ← popValues count
    .done (value :: others)

/-- What an instruction checks before it takes its values. -/
def deviceCheck (instruction : Instruction) : Program R World Unit :=
  match instruction.opcode with
  | .callBuiltin =>
    if 3 < instruction.operand % 65536 then failWith (text "Invalid builtin arg count")
    else .done ()
  | .pokeArray =>
    if 65536 < instruction.operand then failWith (text "POKE_ARRAY: count exceeds limit")
    else do
      let size ← .perform .stackSize .done
      if size < instruction.operand then failWith (text "POKE_ARRAY: not enough values on stack")
      else .done ()
  | _ => .done ()

/-- The program of an instruction on a device: its values are taken before anything is done. -/
def deviceProgram (devices : Devices R World) (code : Code R) (instruction : Instruction) :
    Program R World Unit := do
  deviceCheck instruction
  let values ← popValues (deviceOperands instruction.opcode instruction.operand)
  let answer ← devices.act code instruction values
  if deviceYields instruction.opcode then push answer else .done ()

end Programs

end C64Stream
