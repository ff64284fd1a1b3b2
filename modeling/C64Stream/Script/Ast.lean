import C64Stream.Script.Value

/-! Syntax trees of the script language, as the parser hands them to the compiler. -/

namespace C64Stream

/-- Expression operators; unary and binary nodes share one enumeration. -/
inductive AstOperator where
  | add
  | subtract
  | multiply
  | divide
  | negate
  | eq
  | ne
  | lt
  | le
  | gt
  | ge
  | not
  | and
  | xor
  | or
  deriving DecidableEq

/-- Units of a waiting time. -/
inductive WaitUnit where
  | ms
  | s
  | m
  | h
  | d
  deriving DecidableEq

/-- The number that stands for a unit in an operand. -/
def WaitUnit.operand : WaitUnit → Nat
  | .ms => 0
  | .s => 1
  | .m => 2
  | .h => 3
  | .d => 4

/-- What a screenshot shows. -/
inductive ObsTarget where
  | source
  | preview
  deriving DecidableEq

/-- The number that stands for a screenshot target in an operand. -/
def ObsTarget.operand : ObsTarget → Nat
  | .source => 0
  | .preview => 1

/-- The methods of an HTTP request. -/
inductive HttpMethod where
  | get
  | post
  | put
  | delete
  | patch
  deriving DecidableEq

/-- The number that stands for a method in an operand. -/
def HttpMethod.operand : HttpMethod → Nat
  | .get => 0
  | .post => 1
  | .put => 2
  | .delete => 3
  | .patch => 4

variable (R : Type) [ScriptNumber R]

/-- Expressions, each with the source line it is reported under. -/
inductive AstExpr where
  | number (line : Int) (value : Literal R)
  | string (line : Int) (value : Text)
  | identifier (line : Int) (name : Text)
  | arrayAccess (line : Int) (name : Text) (index : AstExpr)
  | mapAccess (line : Int) (name : Text) (key : AstExpr)
  | unary (line : Int) (op : AstOperator) (operand : AstExpr)
  | binary (line : Int) (op : AstOperator) (left right : AstExpr)
  | call (line : Int) (name : Text) (args : List AstExpr)

/-- Statements that neither hold other statements nor change the flow of control. -/
inductive AstCommand where
  | assignment (variableName : Text) (value : AstExpr R)
  | dim (arrayName : Text) (size : AstExpr R)
  | arraySet (arrayName : Text) (index value : AstExpr R)
  | mapSet (mapName : Text) (key value : AstExpr R)
  | wait (duration : AstExpr R) (unit : WaitUnit)
  | waitMem (address mask : AstExpr R) (value poll : Option (AstExpr R)) (pollUnit : WaitUnit)
  | waitUntil (timeExpr : AstExpr R)
  | obsScreenshot (target : ObsTarget) (path : AstExpr R)
  | obsRecordingStart
  | obsRecordingStop
  | obsWaitFrames (frameCount : AstExpr R)
  | assertImageEquals (actualPath expectedPath : AstExpr R) (tolerance : Option (AstExpr R))
  | effect (presetName : AstExpr R)
  | effectparam (paramName paramValue : AstExpr R)
  | palette (paletteName : AstExpr R)
  | switchDevice (deviceRef : AstExpr R)
  | discoverDevices (port : Option (AstExpr R))
  | palettecolor (index r g b : AstExpr R)
  | playsid (path : AstExpr R) (songnr : Option (AstExpr R))
  | runprg (path : AstExpr R)
  | runlocal (path : AstExpr R) (args statusVar outputVar : Option (AstExpr R))
  | mountdisk (path : AstExpr R)
  | cfg (category item value : AstExpr R)
  | cfgsave
  | cfgload
  | cfgreset
  | sidModel (target : Text) (model : AstExpr R)
  | sidEnable (target : Text) (enabled : AstExpr R)
  | sidVol (target : Text) (level : AstExpr R)
  | sidFilterCurve (target : Text) (curve : AstExpr R)
  | sidResonance (target : Text) (resonance : AstExpr R)
  | sidCombined (target : Text) (combined : AstExpr R)
  | sidDigis (target : Text) (level : AstExpr R)
  | vicMode (mode : AstExpr R)
  | cpuSpeed (speed : AstExpr R)
  | driveMount (drive : Option Text) (image : AstExpr R) (type mode : Option Text)
  | driveUnmount (drive : Text)
  | driveReset (drive : Text)
  | driveOn (drive : Text)
  | driveOff (drive : Text)
  | driveRom (drive : Option Text) (file : AstExpr R)
  | driveMode (drive mode : Text)
  | driveBusId (drive : Text) (busId : AstExpr R)
  | load (filename : AstExpr R) (device : Option (AstExpr R))
  | run (file : Option (AstExpr R × Option (AstExpr R)))
  | sys (address : AstExpr R)
  | autostart
  | reset
  | reboot
  | pause
  | resume
  | poweroff
  | type (text : AstExpr R)
  | key (key : AstExpr R)
  | poke (address value : AstExpr R)
  | pokeArray (address first : AstExpr R) (rest : List (AstExpr R))
  | logfile (path : AstExpr R) (truncate : Bool)
  | log (message : AstExpr R)
  | print (message : AstExpr R)
  | tron
  | troff
  | readfile (variableName path : AstExpr R)
  | writefile (path content : AstExpr R) (truncate : Bool)
  | http (method : HttpMethod) (url : AstExpr R)
      (headers body statusVar responseVar : Option (AstExpr R))

/-- Statements, each with its source line; a branch without statements is absent. -/
inductive AstStmt where
  | empty (line : Int)
  | rem (line : Int)
  | label (line : Int) (name : Text)
  | functionDef (line : Int) (name : Text) (paramNames : List Text) (body : List AstStmt)
  | goto (line : Int) (label : Text)
  | gosub (line : Int) (label : Text) (params : List (AstExpr R))
  | return (line : Int) (value : Option (AstExpr R))
  | stop (line : Int)
  | if (line : Int) (condition : AstExpr R) (thenBranch elseBranch : List AstStmt)
  | for (line : Int) (variableName : Text) (start finish : AstExpr R)
      (step : Option (AstExpr R)) (body : List AstStmt)
  | while (line : Int) (condition : AstExpr R) (body : List AstStmt)
  | command (line : Int) (command : AstCommand R)

end C64Stream
