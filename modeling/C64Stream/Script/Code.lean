import C64Stream.Script.Ast

/-! Bytecode: the instructions, the constant pool and the function table. -/

namespace C64Stream

/-- The operations of the virtual machine. -/
inductive Opcode where
  | nop
  | pushConst
  | pushNum
  | pushVar
  | popVar
  | pop
  | add
  | subtract
  | multiply
  | divide
  | negate
  | eq
  | ne
  | lt
  | le
  | gt
  | ge
  | not
  | and
  | xor
  | or
  | jump
  | jumpIfFalse
  | call
  | return
  | callFunction
  | returnValue
  | dimArray
  | arrayGet
  | arraySet
  | mapGet
  | mapSet
  | enterScope
  | exitScope
  | forInit
  | forCheck
  | forIncr
  | whileCheck
  | wait
  | waitMem
  | waitUntil
  | obsScreenshot
  | obsRecordingStart
  | obsRecordingStop
  | obsWaitFrames
  | assertImageEquals
  | callPeek
  | callStr
  | callBuiltin
  | effect
  | effectparam
  | palette
  | palettecolor
  | playsid
  | runprg
  | runlocal
  | mountdisk
  | autostart
  | switchDevice
  | discoverDevices
  | reset
  | reboot
  | pause
  | resume
  | poweroff
  | cfgSet
  | cfgSave
  | cfgLoad
  | cfgReset
  | cfgGet
  | cfgItem
  | cfgOptions
  | sidModel
  | sidEnable
  | sidVol
  | sidFilterCurve
  | sidResonance
  | sidCombined
  | sidDigis
  | vicMode
  | cpuSpeed
  | driveGet
  | driveMount
  | driveUnmount
  | driveReset
  | driveOn
  | driveOff
  | driveRom
  | driveMode
  | driveBusId
  | load
  | run
  | sys
  | type
  | key
  | pokeSingle
  | pokeArray
  | log
  | print
  | logfile
  | tron
  | troff
  | readfile
  | writefileAppend
  | writefileTruncate
  | http
  | stop
  | halt
  deriving DecidableEq

/-- One instruction, with the source line it comes from. -/
structure Instruction where
  opcode : Opcode
  operand : Nat
  sourceLine : Int
  deriving DecidableEq

/-- A constant of the pool; a number in it stands for a literal. -/
inductive Constant (R : Type) [ScriptNumber R] where
  | number (literal : Literal R)
  | string (bytes : Text)

/-- The value that a constant stands for. -/
def Constant.toValue {R : Type} [ScriptNumber R] (constant : Constant R) : Value R :=
  match constant with
  | .number literal => .number literal.val
  | .string bytes => .string bytes

/-- The string that a constant names something by; a number names nothing. -/
def Constant.asString {R : Type} [ScriptNumber R] (constant : Constant R) : Text :=
  match constant with
  | .number _ => []
  | .string bytes => bytes

/-- A function that a script defines. -/
structure FunctionDef where
  name : Text
  bytecodeAddress : Nat
  paramNames : List Text
  deriving DecidableEq

/-- Everything the compiler hands to the virtual machine. -/
structure Code (R : Type) [ScriptNumber R] where
  bytecode : List Instruction
  constants : List (Constant R)
  functions : List FunctionDef

def operandBound : Nat := 4294967296

def uint32Max : Nat := 4294967295

end C64Stream
