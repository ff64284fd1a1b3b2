import C64Stream.Lib.Ini
import C64Stream.Script.Value

/-! The registry of device profiles: a list in memory, and a settings file for each of them. -/

namespace C64Stream

section Device

def c64DeviceMax : Nat := 64

def c64DeviceIdMax : Nat := 64

def c64DeviceNameMax : Nat := 64

def c64DeviceHostMax : Nat := 64

/-- The network settings of a device. -/
structure Device where
  id : Text := []
  name : Text := []
  host : Text := []
  /-- A verified second address of the same unit. -/
  peerHost : Text := []
  dnsServerIp : Text := []
  videoPort : UInt32 := 0
  audioPort : UInt32 := 0
  controlPort : UInt32 := 0
  deriving DecidableEq

/-- What is left of a string in a buffer with room for its end mark. -/
def copyField (size : Nat) (source : Text) : Text :=
  source.take (size - 1)

/-- Whether an id can be part of a file name. -/
def validId (id : Text) : Bool :=
  decide (id ≠ []) && !decide (text ".." <:+: id) && !id.contains 47 && !id.contains 92

/-- A letter or a digit. -/
def isAlnum (byte : UInt8) : Bool :=
  (48 ≤ byte && byte ≤ 57) || (65 ≤ byte && byte ≤ 90) || (97 ≤ byte && byte ≤ 122)

/-- A capital letter as a small one. -/
def toLower (byte : UInt8) : UInt8 :=
  if 65 ≤ byte ∧ byte ≤ 90 then byte + 32 else byte

/-- The loop over a host: letters and digits are kept, anything between them becomes one dash. -/
def idBytes (size : Nat) (out : Text) : Text → Text
  | [] => out
  | byte :: source =>
    if out.length + 1 < size then
      if isAlnum byte then idBytes size (out ++ [toLower byte]) source
      else if out ≠ [] ∧ out.getLast? ≠ some 45 then idBytes size (out ++ [45]) source
      else idBytes size out source
    else out

/-- The id that a device gets from its own one, or else from its host. -/
def c64DeviceIdFromHost (size : Nat) (uniqueId host : Text) : Option Text :=
  let source := if uniqueId ≠ [] then uniqueId else host
  if source = [] then none
  else
    let out := (idBytes size [] source).rdropWhile (· == 45)
    if out = [] then none else some out

end Device

section Files

/-- A file of the settings directory. -/
structure ProfileFile where
  name : Text
  content : Text
  deriving DecidableEq

/-- The name of the file of a device. -/
def profileName (id : Text) : Text :=
  text "device-" ++ id ++ text ".ini"

/-- Whether a file name is one of a device. -/
def isProfileName (name : Text) : Bool :=
  name.take 7 == text "device-" && decide (text ".ini" <:+: name)

/-- A directory after a file of a name was written. -/
def writeFile (name content : Text) (files : List ProfileFile) : List ProfileFile :=
  files.filter (·.name ≠ name) ++ [⟨name, content⟩]

/-- A directory after the file of a name was removed. -/
def removeFile (name : Text) (files : List ProfileFile) : List ProfileFile :=
  files.filter (·.name ≠ name)

/-- The number that the digits at the front of a text go on with. -/
def leadingNumber (number : Nat) : Text → Nat
  | [] => number
  | digit :: rest =>
    if 48 ≤ digit ∧ digit ≤ 57 then leadingNumber (10 * number + (digit.toNat - 48)) rest
    else number

/-- The number that a text starts with, behind white space and a sign, as a 64-bit value. -/
def strtoul (value : Text) : Nat :=
  let digits := value.dropWhile isSpace
  let bounded := fun number => min number (2 ^ 64 - 1)
  match digits with
  | 43 :: digits => bounded (leadingNumber 0 digits)
  | 45 :: digits =>
    let number := leadingNumber 0 digits
    if number < 2 ^ 64 then (2 ^ 64 - number) % 2 ^ 64 else 2 ^ 64 - 1
  | digits => bounded (leadingNumber 0 digits)

/-- A port, cut to its 32 bits. -/
def readPort (value : Text) : UInt32 :=
  UInt32.ofNat (strtoul value)

/-- A device with one entry of its file taken over. -/
def readEntry (device : Device) (entry : Text × Text) : Device :=
  let (key, value) := entry
  if key = text "id" then { device with id := copyField c64DeviceIdMax value }
  else if key = text "name" then { device with name := copyField c64DeviceNameMax value }
  else if key = text "host" then { device with host := copyField c64DeviceHostMax value }
  else if key = text "peer_host" then { device with peerHost := copyField c64DeviceHostMax value }
  else if key = text "dns_server_ip" then
    { device with dnsServerIp := copyField c64DeviceHostMax value }
  else if key = text "video_port" then { device with videoPort := readPort value }
  else if key = text "audio_port" then { device with audioPort := readPort value }
  else if key = text "control_port" then { device with controlPort := readPort value }
  else device

/-- The device that a settings text describes. -/
def readDevice (content : Text) : Device :=
  (iniEntries 1024 content).foldl readEntry {}

/-- The entries that are written for a device. -/
def Device.entries (device : Device) : List (Text × Text) :=
  [(text "id", device.id), (text "name", device.name), (text "host", device.host),
    (text "peer_host", device.peerHost), (text "dns_server_ip", device.dnsServerIp),
    (text "video_port", decimal device.videoPort.toNat),
    (text "audio_port", decimal device.audioPort.toNat),
    (text "control_port", decimal device.controlPort.toNat)]

/-- The text that is written for a device. -/
def Device.render (device : Device) : Text :=
  device.entries.flatMap iniLine

end Files

section Findings

/-- How the file system answers when the profiles are loaded. -/
structure LoadFindings where
  /-- Whether the settings directory is found or can be made. -/
  directory : Bool := true
  /-- Whether the directory can be opened. -/
  listed : Bool := true
  /-- Where the directory lists a name, among the others. -/
  place : Text → Nat := fun _ => 0
  /-- Whether a file can be opened. -/
  opens : Text → Bool := fun _ => true

/-- How the file system answers when a profile is saved. -/
structure SaveFindings where
  directory : Bool := true
  opened : Bool := true
  printed : Bool := true
  closed : Bool := true
  /-- How much of the text reaches the file if it is not written or closed as it should be. -/
  stored : Nat := 0
  deriving DecidableEq

/-- How the file system answers when a profile is removed. -/
structure RemovalFindings where
  directory : Bool := true
  removed : Bool := true
  deriving DecidableEq

/-- The files in the order in which the directory lists them. -/
def LoadFindings.listing (load : LoadFindings) (files : List ProfileFile) : List ProfileFile :=
  files.insertionSort fun first second => load.place first.name ≤ load.place second.name

end Findings

section Registry

/-- The devices in memory, and the settings directory. -/
structure Registry where
  devices : List Device := []
  initialized : Bool := false
  files : List ProfileFile := []
  deriving DecidableEq

/-- The registry with the device of a file added to memory, if it has one and there is room. -/
def Registry.loadDeviceFile (load : LoadFindings) (registry : Registry) (file : ProfileFile) :
    Registry :=
  let device := readDevice file.content
  if !load.opens file.name || !validId device.id || device.host = [] ||
      registry.devices.length = c64DeviceMax then registry
  else { registry with devices := registry.devices ++ [device] }

/-- Loading the profiles, unless they are loaded. -/
def Registry.initLocked (registry : Registry) (load : LoadFindings) : Bool × Registry :=
  if registry.initialized then (true, registry)
  else if !load.directory then (false, registry)
  else
    let registry := { registry with initialized := true }
    if !load.listed then (true, registry)
    else
      let entries := (load.listing registry.files).filter (isProfileName ·.name)
      (true, entries.foldl (Registry.loadDeviceFile load) registry)

/-- Forgetting the profiles. -/
def Registry.cleanup (registry : Registry) : Registry :=
  { registry with devices := [], initialized := false }

/-- Writing the file of a device, which is emptied first. -/
def Registry.saveDevice (registry : Registry) (device : Device) (save : SaveFindings) :
    Bool × Registry :=
  if !validId device.id || !save.directory then (false, registry)
  else if !save.opened then (false, registry)
  else
    -- The outcome of closing the file is not looked at.
    let content :=
      if save.printed && save.closed then device.render else device.render.take save.stored
    (save.printed,
      { registry with files := writeFile (profileName device.id) content registry.files })

/-- The place of an id among the devices, or their number. -/
def Registry.indexOf (registry : Registry) (id : Text) : Nat :=
  registry.devices.findIdx (·.id == id)

/-- A device that has no name is named after its host. -/
def Device.named (device : Device) : Device :=
  if device.name = [] then { device with name := copyField c64DeviceNameMax device.host }
  else device

/-- Adding a device, or changing the one with its id: the file first, then the memory. -/
def Registry.upsertLocked (registry : Registry) (device : Device) (load : LoadFindings)
    (save : SaveFindings) : Bool × Registry :=
  let registry := (registry.initLocked load).2
  if !validId device.id || device.host = [] then (false, registry)
  else
    let index := registry.indexOf device.id
    if index = registry.devices.length ∧ registry.devices.length = c64DeviceMax then
      (false, registry)
    else
      let copy := device.named
      match registry.saveDevice copy save with
      | (false, registry) => (false, registry)
      | (true, registry) =>
        let devices :=
          if index = registry.devices.length then registry.devices ++ [copy]
          else registry.devices.set index copy
        (true, { registry with devices := devices })

/-- Removing a device: the file first, then the memory. -/
def Registry.deleteLocked (registry : Registry) (id : Text) (removal : RemovalFindings) :
    Bool × Registry :=
  if !validId id then (false, registry)
  else
    let index := registry.indexOf id
    if index = registry.devices.length || !removal.directory then (false, registry)
    else if !(removal.removed && registry.files.any (·.name = profileName id)) then
      (false, registry)
    else
      (true,
        { registry with
          devices := registry.devices.eraseIdx index,
          files := removeFile (profileName id) registry.files })

/-- The profile of a discovered device: by its id, or else one whose id was made from its host. -/
def Registry.profileFor (registry : Registry) (device : Device) : Option Device × Text :=
  match registry.devices.find? (·.id == device.id) with
  | some profile => (some profile, [])
  | none =>
    match c64DeviceIdFromHost c64DeviceIdMax [] device.host with
    | none => (none, [])
    | some legacyId =>
      match registry.devices.find? fun profile =>
        profile.id == legacyId && profile.host == device.host with
      | some profile => (some profile, legacyId)
      | none => (none, [])

/-- A profile with the addresses of the device that was discovered. -/
def Device.mergedWith (device : Device) : Option Device → Device
  | none => device
  | some profile =>
    { profile with
      id := copyField c64DeviceIdMax device.id,
      host := copyField c64DeviceHostMax device.host,
      peerHost := copyField c64DeviceHostMax device.peerHost }

/-- Taking over a discovered device, whose profile keeps what a scan does not find out. -/
def Registry.upsertDiscovered (registry : Registry) (device : Device)
    (load reload : LoadFindings) (save : SaveFindings) (removal : RemovalFindings) :
    Bool × Registry :=
  let registry := (registry.initLocked load).2
  let (profile, legacyProfileId) := registry.profileFor device
  let merged := device.mergedWith profile
  let (result, registry) := registry.upsertLocked merged reload save
  if result ∧ legacyProfileId ≠ [] ∧ legacyProfileId ≠ merged.id then
    (result, (registry.deleteLocked legacyProfileId removal).2)
  else (result, registry)

end Registry

section Migration

/-- The settings of a source, as far as the migration reads or writes them. -/
structure LegacySettings where
  migrated : Bool := false
  c64Host : Text := []
  dnsServerIp : Text := []
  videoPort : Int := 0
  audioPort : Int := 0
  controlPort : Int := 0
  c64Password : Text := []
  /-- The id of the selected device. -/
  c64Device : Text := []
  /-- Passwords under their keys, the last one written first. -/
  passwords : List (Text × Text) := []
  deriving DecidableEq

/-- The key of the password of a device. -/
def c64DevicePasswordKey (size : Nat) (id : Text) : Text :=
  copyField size (text "device_password." ++ if validId id then id else [])

/-- The profile of a legacy host under an id. -/
def LegacySettings.profile (settings : LegacySettings) (id : Text) : Device :=
  { id := id, name := text "Default",
    host := copyField c64DeviceHostMax settings.c64Host,
    dnsServerIp := copyField c64DeviceHostMax settings.dnsServerIp,
    videoPort := UInt32.ofInt settings.videoPort,
    audioPort := UInt32.ofInt settings.audioPort,
    controlPort := UInt32.ofInt settings.controlPort }

/-- The settings once a host has its profile. -/
def LegacySettings.select (settings : LegacySettings) (id : Text) : LegacySettings :=
  { settings with
    migrated := true,
    passwords := (c64DevicePasswordKey 96 id, settings.c64Password) :: settings.passwords,
    c64Device := id }

/-- Making the first profile from the host of a source, once for each source. -/
def Registry.migrateLegacy (registry : Registry) (settings : LegacySettings)
    (load reload : LoadFindings) (save : SaveFindings) : Bool × Registry × LegacySettings :=
  if settings.migrated then (false, registry, settings)
  else
    let registry := (registry.initLocked load).2
    let marked := { settings with migrated := true }
    if registry.devices ≠ [] then (false, registry, marked)
    else if settings.c64Host = [] ∨ settings.c64Host = text "0.0.0.0" then
      (false, registry, marked)
    else
      match c64DeviceIdFromHost c64DeviceIdMax [] settings.c64Host with
      | none => (false, registry, marked)
      | some id =>
        match registry.upsertLocked (settings.profile id) reload save with
        -- A profile that could not be written is tried again.
        | (false, registry) => (false, registry, settings)
        | (true, registry) => (true, registry, settings.select id)

end Migration

section Operations

/-- The operations on the registry, with what they meet on the way. -/
inductive RegistryOp where
  | init (load : LoadFindings)
  | upsert (device : Device) (load : LoadFindings) (save : SaveFindings)
  | upsertDiscovered (device : Device) (load reload : LoadFindings) (save : SaveFindings)
      (removal : RemovalFindings)
  | delete (id : Text) (removal : RemovalFindings)
  | migrateLegacy (settings : LegacySettings) (load reload : LoadFindings) (save : SaveFindings)
  | cleanup

/-- What an operation reports, and the registry after it. -/
def Registry.perform (registry : Registry) : RegistryOp → Bool × Registry
  | .init load => registry.initLocked load
  | .upsert device load save => registry.upsertLocked device load save
  | .upsertDiscovered device load reload save removal =>
    registry.upsertDiscovered device load reload save removal
  | .delete id removal => registry.deleteLocked id removal
  | .migrateLegacy settings load reload save =>
    let (result, registry, _) := registry.migrateLegacy settings load reload save
    (result, registry)
  | .cleanup => (true, registry.cleanup)

/-- The registry after an operation. -/
def Registry.step (registry : Registry) (op : RegistryOp) : Registry :=
  (registry.perform op).2

end Operations

end C64Stream
