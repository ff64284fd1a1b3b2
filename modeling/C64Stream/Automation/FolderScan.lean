import C64Stream.Automation.Items
import C64Stream.Automation.Songlengths
import C64Stream.Lib.CappedSearch

/-! The folder of a playlist: how its files are found, shuffled and sorted. -/

namespace C64Stream

section Names

/-- What a path ends in from the last byte of a kind on. -/
def strrchr (mark : UInt8) (path : Text) : Option Text :=
  if mark ∈ path then some (mark :: (path.reverse.takeWhile (· ≠ mark)).reverse) else none

/-- The extension of a path, with its point; a point at the start of the path makes none. -/
def getExtension (path : Text) : Text :=
  match strrchr 46 path with
  | none => []
  | some dot => if dot.length = path.length then [] else dot

/-- The extensions of the files that can be played. -/
def extensionTypes : List (Text × FileType) :=
  [(text ".sid", .sid), (text ".mod", .mod), (text ".prg", .prg), (text ".crt", .crt),
    (text ".d64", .d64), (text ".g64", .g64), (text ".d71", .d71), (text ".g71", .g71),
    (text ".d81", .d81)]

/-- What kind of file a path names. -/
def getFileType (path : Text) : Option FileType :=
  (extensionTypes.find? fun known => equalsIgnoreCase (getExtension path) known.1).map Prod.snd

/-- What follows the last slash or backslash of a path. -/
def lastName (path : Text) : Text :=
  (path.reverse.takeWhile fun byte => byte ≠ 47 ∧ byte ≠ 92).reverse

/-- Whether the file of a path can be played. -/
def isPlayablePath (path : Text) : Bool :=
  let filename := lastName path
  match strrchr 46 filename with
  | none => false
  | some dot => dot.length ≠ filename.length && (getFileType filename).isSome

/-- The entry of a path that can be played. -/
def playableEntry (path : Text) : Option FileEntry :=
  if isPlayablePath path then (getFileType path).map (⟨path, ·⟩) else none

end Names

section Directories

/-- What identifies a directory. -/
structure DirId where
  device : Nat
  inode : Nat
  deriving DecidableEq

/-- What a path leads to, links being followed. -/
inductive FileKind where
  | directory (id : DirId)
  | regular
  | other
  deriving DecidableEq

/-- The finitely many directories of a file system. A directory that cannot be read has no list of
names. -/
structure FileSystem where
  directories : Finset DirId
  root : DirId
  workingDirectory : DirId
  lookup : DirId → Text → Option FileKind
  readdir : DirId → Option (List Text)
  roots : root ∈ directories ∧ workingDirectory ∈ directories
  lookups : ∀ id name inner, lookup id name = some (.directory inner) → inner ∈ directories
  names : ∀ id list, readdir id = some list → ∀ name ∈ list, name ≠ [] ∧ 47 ∉ name

/-- What one part of a path leads to; an empty one stays. -/
def FileSystem.enter (fs : FileSystem) : Option FileKind → Text → Option FileKind
  | some (.directory id), [] => some (.directory id)
  | some (.directory id), name => fs.lookup id name
  | _, _ => none

/-- What a path leads to, part by part. -/
def FileSystem.stat (fs : FileSystem) (path : Text) : Option FileKind :=
  match path with
  | [] => none
  | first :: _ =>
    (path.splitOn 47).foldl fs.enter
      (some (.directory (if first = 47 then fs.root else fs.workingDirectory)))

/-- Whether a path leads to a directory. -/
def localPathIsDirectory (fs : FileSystem) (path : Text) : Bool :=
  match fs.stat path with
  | some (.directory _) => true
  | _ => false

/-- Whether a path is that of all files. -/
def pathIsRootDirectory (path : Text) : Bool :=
  path == text "/"

/-- Whether a folder may be scanned. -/
def localScanPathIsSafe (fs : FileSystem) (path : Text) : Bool :=
  decide (path ≠ []) && !pathIsRootDirectory path && localPathIsDirectory fs path

end Directories

section Files

def playlistMaxFiles : Nat := 100000

def playlistInitialCapacity : Nat := 1024

/-- Whether there is memory for so many elements of each array. -/
structure ScanMemory where
  dirStack : Nat → Bool
  visited : Nat → Bool
  files : Nat → Bool

/-- The files of a playlist, with the room for them. -/
structure FileArray where
  files : List FileEntry := []
  capacity : Nat := 0
  deriving DecidableEq

/-- The loop that doubles the room. -/
def doubleCapacity (needed : Nat) : Nat → Nat → Nat
  | 0, capacity => capacity
  | fuel + 1, capacity =>
    if capacity < needed then
      if capacity * 2 > playlistMaxFiles then playlistMaxFiles
      else doubleCapacity needed fuel (capacity * 2)
    else capacity

/-- Files with room for more of them, unless there is none. -/
def ensureFilesCapacity (memory : ScanMemory) (array : FileArray) (additional : Nat) :
    Option FileArray :=
  if additional = 0 then none
  else if array.files.length + additional ≤ array.capacity then some array
  else
    let needed := array.files.length + additional
    let capacity := if array.capacity > 0 then array.capacity else playlistInitialCapacity
    let newCapacity := doubleCapacity needed needed capacity
    if newCapacity ≤ array.capacity then none
    else if memory.files newCapacity then some { array with capacity := newCapacity }
    else none

/-- Files with one more behind them. -/
def FileArray.add (array : FileArray) (entry : FileEntry) : FileArray :=
  { array with files := array.files ++ [entry] }

end Files

section Scan

def localScanMaxDepth : Nat := 64

/-- A directory that is still to be scanned. -/
structure DirStackEntry where
  path : Text
  depth : Nat
  deriving DecidableEq

/-- What the loop over the directories keeps; the top of the stack is first. -/
structure ScanState where
  array : FileArray
  dirStack : List DirStackEntry
  dirCapacity : Nat
  visited : List DirId
  visitedCapacity : Nat
  deriving DecidableEq

/-- The names that every directory has for itself and the one above. -/
def isDotName (name : Text) : Bool :=
  name == text "." || name == text ".."

/-- The path of a name in a directory. -/
def fullPathOf (directory name : Text) : Text :=
  directory ++ 47 :: name

variable (fs : FileSystem) (includeSubfolders : Bool) (memory : ScanMemory)

/-- A directory put on the stack, unless there is no memory for it. -/
def pushDirectory (state : ScanState) (entry : DirStackEntry) : Option ScanState :=
  if state.dirStack.length < state.dirCapacity then
    some { state with dirStack := entry :: state.dirStack }
  else
    let newCapacity := state.dirCapacity * 2
    if memory.dirStack newCapacity then
      some { state with dirStack := entry :: state.dirStack, dirCapacity := newCapacity }
    else none

/-- A file put into the playlist, unless there is no room for it. -/
def addFile (state : ScanState) (entry : FileEntry) : Option ScanState :=
  (ensureFilesCapacity memory state.array 1).map fun array =>
    { state with array := array.add entry }

/-- The loop over the names of a directory. A failed allocation ends it. -/
def readEntries (current : DirStackEntry) : List Text → ScanState → ScanState
  | [], state => state
  | name :: names, state =>
    if playlistMaxFiles ≤ state.array.files.length then state
    else if isDotName name then readEntries current names state
    else
      let fullPath := fullPathOf current.path name
      if c64AutomationPathMax ≤ fullPath.length then readEntries current names state
      else match fs.stat fullPath with
        | some (.directory _) =>
          if !includeSubfolders then readEntries current names state
          else if localScanMaxDepth ≤ current.depth then readEntries current names state
          else match pushDirectory memory state ⟨fullPath, current.depth + 1⟩ with
            | none => state
            | some state => readEntries current names state
        | some .regular =>
          match playableEntry fullPath with
          | none => readEntries current names state
          | some entry => match addFile memory state entry with
            | none => state
            | some state => readEntries current names state
        | _ => readEntries current names state

/-- A directory marked as visited, unless there is no memory for it. -/
def markVisited (state : ScanState) (id : DirId) : Option ScanState :=
  if state.visited.length = state.visitedCapacity then
    let newCapacity := state.visitedCapacity * 2
    if memory.visited newCapacity then
      some { state with visited := state.visited ++ [id], visitedCapacity := newCapacity }
    else none
  else some { state with visited := state.visited ++ [id] }

/-- One pass of the loop over the directories; none when it has ended. -/
def scanNext (state : ScanState) : Option ScanState :=
  match state.dirStack with
  | [] => none
  | current :: rest =>
    if playlistMaxFiles ≤ state.array.files.length then none
    else
      let state := { state with dirStack := rest }
      match fs.stat current.path with
      | some (.directory id) =>
        if id ∈ state.visited then some state
        else match markVisited memory state id with
          | none => none
          | some state =>
            match fs.readdir id with
            | none => some state
            | some names => some (readEntries fs includeSubfolders memory current names state)
      | _ => some state

/-- The loop over the directories, for at most so many passes. -/
def scanLoop : Nat → ScanState → Option ScanState
  | 0, _ => none
  | fuel + 1, state =>
    match scanNext fs includeSubfolders memory state with
    | none => some state
    | some state => scanLoop fuel state

/-- The loop at its start. -/
def scanStart (array : FileArray) (folderPath : Text) : ScanState where
  array := array
  dirStack := [⟨copyField c64AutomationPathMax folderPath, 0⟩]
  dirCapacity := 64
  visited := []
  visitedCapacity := 64

/-- The files of a folder behind those that are there. -/
def c64AutomationScanLocal (fuel : Nat) (array : FileArray) (folderPath : Text) :
    Option FileArray :=
  if !localScanPathIsSafe fs folderPath then some array
  else if !memory.dirStack 64 then some array
  else if !memory.visited 64 then some array
  else (scanLoop fs includeSubfolders memory fuel (scanStart array folderPath)).map (·.array)

end Scan

section Build

/-- The next number of the shuffle. -/
def shuffleNext (seed : UInt32) : UInt32 :=
  seed * 1664525 + 1013904223

/-- Files with two of them exchanged. -/
def swapFiles (files : List FileEntry) (i j : Nat) : List FileEntry :=
  match files[i]?, files[j]? with
  | some first, some second => (files.set i second).set j first
  | _, _ => files

/-- The loop that shuffles, from the last place down. -/
def shuffleLoop : Nat → UInt32 → List FileEntry → List FileEntry
  | 0, _, files => files
  | i + 1, seed, files =>
    let seed := shuffleNext seed
    let j := (seed % UInt32.ofNat (i + 2)).toNat
    shuffleLoop i seed (swapFiles files (i + 1) j)

/-- The files in an order that comes from a seed. -/
def shuffleFiles (seed : UInt32) (files : List FileEntry) : List FileEntry :=
  if files.length ≤ 1 then files else shuffleLoop (files.length - 1) seed files

/-- What two files are compared by: their paths, in small letters. -/
def FileEntry.pathKey (entry : FileEntry) : List Nat :=
  strcmpKey (entry.path.map toLower)

/-- The files sorted by their paths. -/
def sortFiles (sorting : SortFunction FileEntry.pathKey) (files : List FileEntry) :
    List FileEntry :=
  if files.length ≤ 1 then files else sorting.sort files

/-- How a playlist is played. -/
inductive AutomationMode where
  | off | single | folder
  deriving DecidableEq

/-- The settings that a playlist is built from. -/
structure PlaylistConfig where
  mode : AutomationMode
  /-- The files are on the device. -/
  fromC64u : Bool
  folderPath : Text
  includeSubfolders : Bool
  shuffle : Bool
  deriving DecidableEq

/-- What building a playlist meets. -/
structure BuildMeets where
  memory : ScanMemory
  /-- Whether there is memory for a single file. -/
  single : Bool
  /-- What the scan of the device adds. -/
  deviceFiles : FileArray
  seed : UInt32

/-- The finished playlist; none where it could not be built. -/
def c64AutomationBuildPlaylist (fs : FileSystem) (sorting : SortFunction FileEntry.pathKey)
    (meets : BuildMeets) (fuel : Nat) (config : PlaylistConfig) :
    Option (Option (List FileEntry)) :=
  match config.mode with
  | .off => some none
  | .single =>
    if !meets.single then some none
    else match getFileType config.folderPath with
      | none => some none
      | some type => some (some [⟨config.folderPath, type⟩])
  | .folder => do
    let array ←
      if config.fromC64u then some meets.deviceFiles
      else
        c64AutomationScanLocal fs config.includeSubfolders meets.memory fuel {} config.folderPath
    if array.files = [] then return none
    else if config.shuffle then return some (shuffleFiles meets.seed array.files)
    else return some (sortFiles sorting array.files)

end Build

end C64Stream
