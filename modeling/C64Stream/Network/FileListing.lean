import C64Stream.Device.ProfileFiles
import C64Stream.Lib.CSearch
import C64Stream.Lib.Hex

/-! Lists of the files of the device, and how they are read from a response. -/

namespace C64Stream

section Reading

/-- A file or a directory of the device. -/
structure C64FileEntry where
  name : Text
  isDirectory : Bool
  size : UInt32
  deriving DecidableEq

/-- The name in an object of the response that ends at a brace, cut to the field; empty without one.
Pointers are what is left of the response behind them. -/
def readName (objStart objEnd : Text) : Option Text := do
  match ← strstr (text "\"name\"") objStart with
  | none => return []
  | some nameKey =>
    if nameKey.length ≤ objEnd.length then return []
    match ← strchr 34 (nameKey.drop 6) with
    | none => return []
    | some nameVal =>
      if nameVal.length ≤ objEnd.length then return []
      match ← strchr 34 nameVal.tail with
      | none => return []
      | some nameEnd =>
        if nameEnd.length ≤ objEnd.length then return []
        return copyField 256 (nameVal.tail.take (nameVal.tail.length - nameEnd.length))

/-- Whether an object of the response is of a directory. -/
def readIsDirectory (objStart objEnd : Text) : Option Bool := do
  match ← strstr (text "\"type\"") objStart with
  | none => return false
  | some typeKey =>
    if typeKey.length ≤ objEnd.length then return false
    match ← strchr 34 (typeKey.drop 6) with
    | none => return false
    | some typeVal =>
      if typeVal.length ≤ objEnd.length then return false
      return decide (text "directory" <+: typeVal.tail)

/-- The size in an object of the response, zero without one. -/
def readSize (objStart objEnd : Text) : Option UInt32 := do
  match ← strstr (text "\"size\"") objStart with
  | none => return 0
  | some sizeKey =>
    if sizeKey.length ≤ objEnd.length then return 0
    match ← strchr 58 (sizeKey.drop 6) with
    | none => return 0
    | some sizeVal =>
      if sizeVal.length ≤ objEnd.length then return 0
      return UInt32.ofNat (strtoul sizeVal.tail)

/-- An entry of the list. -/
def readFileEntry (objStart objEnd : Text) : Option C64FileEntry := do
  let name ← readName objStart objEnd
  let isDirectory ← readIsDirectory objStart objEnd
  let size ← readSize objStart objEnd
  return ⟨name, isDirectory, size⟩

/-- As many entries as were counted, up to the end of the array. -/
def readFileEntries (count : Nat) (p : Text) : Option (List C64FileEntry) :=
  match count with
  | 0 => some []
  | count + 1 =>
    -- The array ends at a bracket, and the response at its last byte.
    if p = [] ∨ p.head? = some 93 then some []
    else do
      match ← strchr 123 p with
      | none => return []
      | some objStart =>
        match ← strchr 125 objStart with
        | none => return []
        | some objEnd =>
          let entry ← readFileEntry objStart objEnd
          let entries ← readFileEntries count objEnd.tail
          return entry :: entries

/-- The opening braces before the first closing bracket. -/
def countEntries (array : Text) : Nat :=
  (array.takeWhile (· != 93)).count 123

/-- The list in a response; without a result where a byte behind the response is read. -/
def parseFileListJson (json : Text) : Option (Option (List C64FileEntry)) := do
  match ← strstr (text "\"entries\"") json with
  | none => return none
  | some entriesStart =>
    match ← strchr 91 entriesStart with
    | none => return none
    | some arrayStart =>
      let entries ← readFileEntries (countEntries arrayStart.tail) arrayStart.tail
      return some entries

end Reading

section Writing

/-- A byte of a name, escaped where it has to be. -/
def escapedByte (byte : UInt8) : Text :=
  if byte = 34 ∨ byte = 92 then [92, byte]
  else if byte < 32 then text "\\u00" ++ hexByte false byte
  else [byte]

def escapeName (name : Text) : Text := name.flatMap escapedByte

def quoted (source : Text) : Text := 34 :: (source ++ [34])

/-- A member of an entry. -/
inductive EntryMember where
  | name
  | type
  | size
  deriving DecidableEq

/-- An entry of the device's answer: a file or a directory with the order of its members. -/
structure ListedEntry where
  name : Text
  isDirectory : Bool
  size : UInt32
  order : List EntryMember
  permutes : order.Perm [.name, .type, .size]

/-- The key of a member. -/
def EntryMember.key (entryMember : EntryMember) : Text :=
  match entryMember with
  | .name => text "name"
  | .type => text "type"
  | .size => text "size"

/-- The value of a member. -/
def ListedEntry.value (entry : ListedEntry) (entryMember : EntryMember) : Text :=
  match entryMember with
  | .name => quoted (escapeName entry.name)
  | .type => quoted (if entry.isDirectory then text "directory" else text "file")
  | .size => decimal entry.size.toNat

/-- A member of an entry in the answer. -/
def ListedEntry.member (entry : ListedEntry) (entryMember : EntryMember) : Text :=
  quoted entryMember.key ++ text ": " ++ entry.value entryMember

/-- An entry in the answer. -/
def ListedEntry.object (entry : ListedEntry) : Text :=
  123 :: ((text ", ").intercalate (entry.order.map entry.member) ++ [125])

/-- The answer of the device. -/
def fileListing (entries : List ListedEntry) : Text :=
  text "\x7b\"entries\": [" ++ (text ", ").intercalate (entries.map ListedEntry.object) ++
    text "]\x7d"

/-- The entry with its name cut to the field. -/
def ListedEntry.expected (entry : ListedEntry) : C64FileEntry :=
  ⟨copyField 256 entry.name, entry.isDirectory, entry.size⟩

/-- Exactly the entries of an answer are read from it, and no byte behind it. -/
def ListsExactly (entries : List ListedEntry) : Prop :=
  parseFileListJson (fileListing entries) = some (some (entries.map ListedEntry.expected))

instance (entries : List ListedEntry) : Decidable (ListsExactly entries) :=
  inferInstanceAs (Decidable (_ = _))

end Writing

end C64Stream
