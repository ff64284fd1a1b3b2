import C64Stream.Automation.Playlist
import C64Stream.Network.RestRequests

/-! The items of a playlist: how the worker loads, starts and waits for each of them. -/

namespace C64Stream

section Files

/-- What kind of file an item is. -/
inductive FileType where
  | sid | mod | prg | crt | d64 | g64 | d71 | g71 | d81
  deriving DecidableEq

/-- The name of the drive type for a disk image; none for any other file. -/
def FileType.diskType : FileType → Option Text
  | .d64 => some (text "d64")
  | .g64 => some (text "g64")
  | .d71 => some (text "d71")
  | .g71 => some (text "g71")
  | .d81 => some (text "d81")
  | .sid | .mod | .prg | .crt => none

/-- An item of the playlist. -/
structure FileEntry where
  path : Text
  type : FileType
  deriving DecidableEq

/-- What the file system gives for a file that could be opened. -/
structure OpenedFile where
  /-- The size that is told at its end. -/
  fsize : Int
  /-- Whether there is memory for it. -/
  allocated : Bool
  /-- The bytes that are there to be read. -/
  content : List UInt8
  deriving DecidableEq

def maxFileSize : Int := 1024 * 1024

/-- A file in memory: whole, or not at all. -/
def loadFile (opened : Option OpenedFile) : Option (List UInt8) :=
  match opened with
  | none => none
  | some file =>
    if file.fsize ≤ 0 ∨ file.fsize > maxFileSize then none
    else if !file.allocated then none
    else
      let data := file.content.take file.fsize.toNat
      if data.length ≠ file.fsize.toNat then none else some data

/-- What follows the last slash of a path. -/
def fileNameOf (path : Text) : Text :=
  (path.reverse.takeWhile (· ≠ 47)).reverse

end Files

section Calls

/-- A request to the device. -/
inductive RestCall where
  | playSidPath (path : Text) (songNumber : Nat)
  | playModPath (path : Text)
  | runPrgPath (path : Text)
  | runCrtPath (path : Text)
  | mountDiskPath (drive : UInt8) (path : Text)
  | playSid (data : List UInt8) (songNumber : Nat) (songlengths : List UInt8)
  | playMod (data : List UInt8)
  | runPrg (data : List UInt8)
  | runCrt (data : List UInt8)
  | mountDisk (drive : UInt8) (type mode : Text) (data : List UInt8)
  | reset
  deriving DecidableEq

/-- What the worker does that others can see. -/
inductive WorkerEvent where
  /-- Takes up an item. -/
  | begins (item : Nat)
  | status (message : Text)
  | call (request : RestCall)
  | typed (petscii : UInt8)
  | sleep (ms : Int)
  deriving DecidableEq

/-- The settings of the playlist that the worker reads. -/
structure AutomationConfig where
  /-- The files are on the device, and only their paths are sent. -/
  fromC64u : Bool
  durationSeconds : Int
  resetBetweenItems : Bool
  useSonglengths : Bool
  d64AutostartTemplate : Text
  deriving DecidableEq

/-- What the worker meets while it deals with an item. -/
structure ItemMeets where
  opened : Option OpenedFile
  /-- The length of the song in milliseconds, where it is listed. -/
  songlength : Option Nat
  succeeds : RestCall → Bool

def resetDelayMs : Int := 500

/-- Resets the device. -/
def resetDevice : List WorkerEvent :=
  [.call .reset, .sleep resetDelayMs]

/-- The start command is typed after the disk was mounted, if there is a keyboard. -/
def typeAutostart (keyboard : Bool) (template : Text) : List WorkerEvent :=
  if keyboard then template.map .typed else []

/-- The payload with the length of every song of a file, in packed decimals. -/
def songlengthsPayload (data : List UInt8) (songLengthSeconds : Nat) : List UInt8 :=
  let subsongs :=
    if data.length ≥ 16 ∧ (data.take 4 = text "PSID" ∨ data.take 4 = text "RSID") then
      max 1 ((data.getD 14 0).toNat * 256 + (data.getD 15 0).toNat)
    else 1
  let minutes := min 99 (songLengthSeconds / 60)
  let seconds := songLengthSeconds % 60
  let bcd := fun value : Nat => UInt8.ofNat (value / 10 * 16 + value % 10)
  (List.replicate subsongs [bcd minutes, bcd seconds]).flatten

/-- The seconds that a song plays, as they are sent along with it. -/
def songLengthSeconds (config : AutomationConfig) (meets : ItemMeets) : Nat :=
  match if config.useSonglengths then meets.songlength else none with
  | some ms => if ms > 0 then max 1 ((ms + 500) / 1000) else 0
  | none => 0

/-- Mounts a disk and has it started. -/
def mountItem (config : AutomationConfig) (keyboard : Bool) (meets : ItemMeets)
    (mount : RestCall) : List WorkerEvent :=
  (if config.resetBetweenItems then resetDevice else []) ++ .call mount ::
    if meets.succeeds mount then typeAutostart keyboard config.d64AutostartTemplate else []

/-- An item on the device is started by its path. -/
def startPath (config : AutomationConfig) (keyboard : Bool) (file : FileEntry)
    (meets : ItemMeets) : List WorkerEvent :=
  let c64uPath := c64StripC64uPrefix file.path
  match file.type with
  | .sid => [.call (.playSidPath c64uPath 0)]
  | .mod => [.call (.playModPath c64uPath)]
  | .prg => [.call (.runPrgPath c64uPath)]
  | .crt => [.call (.runCrtPath c64uPath)]
  | .d64 | .g64 | .d71 | .g71 | .d81 =>
    mountItem config keyboard meets (.mountDiskPath 97 c64uPath)

/-- An item whose data was loaded is sent to the device. -/
def startData (config : AutomationConfig) (keyboard : Bool) (file : FileEntry)
    (meets : ItemMeets) (data : List UInt8) : List WorkerEvent :=
  match file.type with
  | .sid =>
    let seconds := songLengthSeconds config meets
    [.call (.playSid data 0 (if seconds > 0 then songlengthsPayload data seconds else []))]
  | .mod => [.call (.playMod data)]
  | .prg => [.call (.runPrg data)]
  | .crt => [.call (.runCrt data)]
  | .d64 | .g64 | .d71 | .g71 | .d81 =>
    mountItem config keyboard meets
      (.mountDisk 97 (file.type.diskType.getD (text "d64")) (text "readwrite") data)

/-- What is done to start an item; none where its file cannot be loaded. -/
def startItem (config : AutomationConfig) (keyboard : Bool) (file : FileEntry)
    (meets : ItemMeets) : Option (List WorkerEvent) :=
  if config.fromC64u then some (startPath config keyboard file meets)
  else (loadFile meets.opened).map (startData config keyboard file meets)

end Calls

section Waiting

/-- The length of the song, in place of the general duration. -/
def songlengthMsOverride (config : AutomationConfig) (file : FileEntry) (meets : ItemMeets) :
    Int :=
  match if config.useSonglengths && file.type == .sid then meets.songlength else none with
  | some ms => max 1000 ms
  | none => -1

/-- The loop that waits for the end of an item, in which nobody asks for anything. -/
def waitForDuration (durationMs elapsedMs : Int) : List WorkerEvent :=
  if elapsedMs ≥ durationMs then []
  else .sleep sleepIntervalMs :: waitForDuration durationMs (elapsedMs + sleepIntervalMs)
termination_by (durationMs - elapsedMs).toNat
decreasing_by
  unfold sleepIntervalMs
  omega

/-- The reset behind an item; before a disk was mounted there was one already. -/
def resetAfter (config : AutomationConfig) (file : FileEntry) : List WorkerEvent :=
  if config.resetBetweenItems && file.type.diskType.isNone then resetDevice else []

end Waiting

section Worker

/-- The text that shows which item plays. -/
def playingStatus (i numFiles : Nat) (path : Text) : Text :=
  text "Playing " ++ decimal (i + 1) ++ text "/" ++ decimal numFiles ++ text ": " ++
    (fileNameOf path).take 80

/-- One pass of the worker's loop: the next item, and what was done. -/
def automationPass (config : AutomationConfig) (keyboard : Bool) (numFiles i : Nat)
    (file : FileEntry) (meets : ItemMeets) : Nat × List WorkerEvent :=
  let begins := [.begins i, .status (playingStatus i numFiles file.path)]
  match startItem config keyboard file meets with
  -- The loop goes on without counting up: the same item comes next.
  | none => (i, begins)
  | some started =>
    let durationMs := durationMs (songlengthMsOverride config file meets) config.durationSeconds
    (i + 1, begins ++ started ++ waitForDuration durationMs 0 ++ resetAfter config file)

/-- The loop of the worker, in which `passes` counts what was met; none if it goes on. -/
def automationLoop (config : AutomationConfig) (keyboard : Bool) (files : List FileEntry)
    (meets : Nat → ItemMeets) : (fuel passes i : Nat) → Option (List WorkerEvent)
  | 0, _, _ => none
  | fuel + 1, passes, i =>
    match files[i]? with
    | none => some [.status (text "completed")]
    | some file =>
      let (next, events) := automationPass config keyboard files.length i file (meets passes)
      (automationLoop config keyboard files meets fuel (passes + 1) next).map (events ++ ·)

/-- The item that a start at an index begins with. -/
def firstItem (numFiles : Nat) (startIndex : Int) : Nat :=
  (if startIndex < 0 ∨ startIndex ≥ numFiles then 0 else startIndex).toNat

/-- The items that were taken up. -/
def begun (events : List WorkerEvent) : List Nat :=
  events.filterMap fun
    | .begins item => some item
    | _ => none

/-- The last text that was shown. -/
def lastStatus (events : List WorkerEvent) : Option Text :=
  (events.filterMap fun
    | .status message => some message
    | _ => none).getLast?

/-- The worker ends, takes up every item from the first one on once and in order, and says so. -/
def AdvancesThrough (config : AutomationConfig) (keyboard : Bool) (files : List FileEntry)
    (startIndex : Int) (meets : Nat → ItemMeets) : Prop :=
  let first := firstItem files.length startIndex
  ∃ fuel events, automationLoop config keyboard files meets fuel 0 first = some events ∧
    begun events = List.range' first (files.length - first) ∧
    lastStatus events = some (text "completed")

/-- Every item can be started: it is on the device, or its file can be loaded. -/
def EveryItemLoads (config : AutomationConfig) (files : List FileEntry) (startIndex : Int)
    (meets : Nat → ItemMeets) : Prop :=
  config.fromC64u = true ∨
    ∀ pass < files.length - firstItem files.length startIndex,
      (loadFile (meets pass).opened).isSome = true

end Worker

end C64Stream
