import Mathlib.Data.FinEnum
import C64Stream.Script.Value
import C64Stream.Stream.Handover

/-! Following the palette of the selected device: which colours are stored, and which are shown. -/

namespace C64Stream

section Colors

abbrev Colors := Vector UInt32 16

/-- The colours that are built in. -/
def c64DefaultPalette : Colors :=
  #v[0xFF000000, 0xFFF7F7F7, 0xFF342F8D, 0xFFCDD46A, 0xFFA43598, 0xFF42B44C, 0xFFB1292C, 0xFF5DEFEF,
    0xFF204E98, 0xFF00385B, 0xFF6D67D1, 0xFF4A4A4A, 0xFF7B7B7B, 0xFF93EF9F, 0xFFEF6A6D, 0xFFB2B2B2]

def c64PalettePacketSize : Nat := 60

/-- The generation and the colours of a palette packet. -/
def c64ParsePalettePacket (packet : List UInt8) : Option (UInt16 × Colors) :=
  if packet.length ≠ c64PalettePacketSize ∨
      (packet.drop 4).take 8 ≠ [239, 0, 0x80, 0x01, 1, 4, 1, 0] then none
  else
    let color := fun i : Fin 16 =>
      let rgb := packet.drop (12 + i * 3)
      (0xFF000000 : UInt32) ||| (rgb.getD 0 0).toUInt32 ||| ((rgb.getD 1 0).toUInt32 <<< 8) |||
        ((rgb.getD 2 0).toUInt32 <<< 16)
    some (readUint16 packet 0, Vector.ofFn color)

/-- The last palette of the stream. -/
structure PaletteState where
  colors : Colors
  generation : UInt16
  colorsValid : Bool
  orderingValid : Bool
  deriving DecidableEq

/-- Whether a generation comes after another one, around the end of the numbers. -/
def c64PaletteGenerationIsNewer (candidate current : UInt16) : Bool :=
  0 < int16 (candidate - current)

/-- A palette of the stream is taken over unless it is older than the last one. -/
def c64PaletteStateAccept (state : PaletteState) (generation : UInt16) (palette : Colors) :
    PaletteState × Bool :=
  if state.orderingValid && !c64PaletteGenerationIsNewer generation state.generation then
    (state, false)
  else (⟨palette, generation, true, true⟩, true)

end Colors

section Devices

/-- The profile of a device that can be selected. -/
structure SelectedDevice where
  /-- Empty where a host was typed in. -/
  id : Text
  host : Text
  peerHost : Text
  deriving DecidableEq

/-- The name that the palettes of a device are filed under. -/
def deviceKey (id host : Text) : Text :=
  if id ≠ [] then id else host

/-- The name that the palettes of a profile are filed under. -/
def SelectedDevice.key (device : SelectedDevice) : Text :=
  deviceKey device.id device.host

/-- A part of a dotted address: a number up to 255 without a leading zero. -/
def addressPart (digits : Text) : Option UInt8 :=
  let value := digits.foldl (fun value digit => 10 * value + (digit.toNat - 48)) 0
  if digits ≠ [] ∧ digits.length ≤ 3 ∧ (∀ digit ∈ digits, 48 ≤ digit ∧ digit ≤ 57) ∧
      (digits.head? = some 48 → digits.length = 1) ∧ value ≤ 255 then
    some (UInt8.ofNat value)
  else none

/-- The address that a host is written as, its first part in the lowest byte. -/
def inetPton (host : Text) : Option UInt32 :=
  match (host.splitOn 46).map addressPart with
  | [some a, some b, some c, some d] =>
    some (a.toUInt32 ||| (b.toUInt32 <<< 8) ||| (c.toUInt32 <<< 16) ||| (d.toUInt32 <<< 24))
  | _ => none

/-- The filter once the selected device's host is known; a host that is no address opens it. -/
def c64SetExpectedPeerIp (filter : IngestFilter) (host : Text) : IngestFilter :=
  match inetPton host with
  | some address =>
    if filter.expectedPeerIp = some address then filter
    else
      { filter with
        expectedPeerIp := some address, expectedPeerAltIp := none, learnedPeerIp := none,
        rejectedPeerIp := 0 }
  | none =>
    { filter with expectedPeerIp := none, expectedPeerAltIp := none, learnedPeerIp := none }

/-- The filter once the second address of the selected device is known. -/
def c64SetExpectedPeerAlias (filter : IngestFilter) (host : Text) : IngestFilter :=
  match inetPton host with
  | some address =>
    if filter.expectedPeerIp = some address then { filter with expectedPeerAltIp := none }
    else { filter with expectedPeerAltIp := some address }
  | none => { filter with expectedPeerAltIp := none }

end Devices

section Memory

/-- The last colours of a device. -/
structure MemorySlot where
  deviceKey : Text
  colors : Colors
  /-- Whether the device sent them in its stream. -/
  fromStream : Bool
  deriving DecidableEq

def c64PaletteMemoryMax : Nat := 8

/-- The memory with the colours of a device in its slot, or in place of the oldest one. -/
def rememberLocked (memory : List MemorySlot) (slot : MemorySlot) : List MemorySlot :=
  let place := memory.findIdx (·.deviceKey == slot.deviceKey)
  if place < memory.length then memory.set place slot
  else if memory.length = c64PaletteMemoryMax then memory.tail ++ [slot]
  else memory ++ [slot]

/-- The slot of a device. -/
def recallLocked (memory : List MemorySlot) (key : Text) : Option MemorySlot :=
  memory.find? (·.deviceKey == key)

/-- A file in the cache folder. -/
structure CachedPalette where
  /-- The part of the path that stands for the device. -/
  device : Text
  /-- The size and the name of the palette file. -/
  file : Text
  colors : Colors
  deriving DecidableEq

/-- A device's part of a path in the cache folder. -/
def cacheKey (key : Text) : Text :=
  (key.take 63).map fun byte =>
    if (48 ≤ byte ∧ byte ≤ 57) ∨ (97 ≤ byte ∧ byte ≤ 122) then byte
    else if 65 ≤ byte ∧ byte ≤ 90 then byte + 32
    else 45

/-- The cached colours of a file of a device. -/
def cachedColors (cache : List CachedPalette) (key file : Text) : Option Colors :=
  (cache.find? fun entry => entry.device == cacheKey key && entry.file == file).map (·.colors)

/-- The cache with a file of a device written. -/
def cacheFile (cache : List CachedPalette) (key file : Text) (colors : Colors) :
    List CachedPalette :=
  ⟨cacheKey key, file, colors⟩ ::
    cache.filter fun entry => !(entry.device == cacheKey key && entry.file == file)

end Memory

section Threads

/-- What a check of the device setting talks to. -/
structure FollowTarget where
  host : Text
  deviceKey : Text
  generation : Nat
  deriving DecidableEq

/-- Where the worker is with a check. -/
inductive FollowWorker where
  | idle
  | targeted (target : FollowTarget)
  /-- The device is asked for its setting. -/
  | asking (target : FollowTarget)
  /-- The device is asked for a file. -/
  | verifying (target : FollowTarget) (file : Text)
  | downloaded (target : FollowTarget) (file : Text) (colors : Colors)
  /-- The file is in the cache. -/
  | stored (target : FollowTarget) (colors : Colors)
  deriving DecidableEq

/-- Where an update is with a switch of devices. -/
inductive FollowUpdate where
  | idle
  /-- The id is set; the host is still that of the device before. -/
  | selected (device : SelectedDevice) (idChanged : Bool)
  /-- The host and the peers are set. -/
  | peersSet (device : SelectedDevice)
  deriving DecidableEq

/-- What the threads of a source share about palettes, and where they are. -/
structure FollowContext where
  filter : IngestFilter
  activeDeviceId : Text
  ipAddress : Text
  followDevicePalette : Bool
  devicePalette : PaletteState
  paletteDeviceGeneration : Nat
  paletteDeviceKey : Text
  palettePacketLastNs : UInt64
  paletteStreamGraceUntilNs : UInt64
  paletteMemory : List MemorySlot
  paletteCutoverPending : Bool
  paletteCutoverColors : Colors
  paletteCutoverSinceNs : UInt64
  /-- The colours of the display, once there are any. -/
  shown : Option Colors
  /-- The cache folder. -/
  cache : List CachedPalette
  /-- The palette that the receive thread holds, between the filter and the lock. -/
  received : Option (UInt32 × UInt16 × Colors)
  worker : FollowWorker
  update : FollowUpdate

def c64PaletteStreamFreshNs : UInt64 := 5000000000

def c64PaletteStreamGraceNs : UInt64 := 2000000000

def c64PaletteCutoverMaxNs : UInt64 := 3000000000

/-- Whether the stream delivered a palette a moment ago. -/
def streamIsFresh (context : FollowContext) (nowNs : UInt64) : Bool :=
  let last := context.palettePacketLastNs
  last != 0 && decide (last ≤ nowNs) && decide (nowNs - last < c64PaletteStreamFreshNs)

/-- Colours are shown, or kept for the first packet of the new device. -/
def showOrDeferLocked (context : FollowContext) (colors : Colors) : FollowContext :=
  if context.paletteCutoverPending then { context with paletteCutoverColors := colors }
  else { context with shown := some colors }

/-- The colours that were kept are shown. -/
def cutoverLocked (context : FollowContext) : FollowContext :=
  if context.paletteCutoverPending then
    { context with paletteCutoverPending := false, shown := some context.paletteCutoverColors }
  else context

/-- Colours that a check has read are shown, unless they are not wanted any more. -/
def applyPolled (context : FollowContext) (generation : Nat) (key : Option Text)
    (colors : Colors) (nowNs : UInt64) : FollowContext :=
  if context.paletteDeviceGeneration = generation ∧ context.followDevicePalette ∧
      !streamIsFresh context nowNs then
    let context :=
      match key with
      | some key =>
        { context with
          paletteDeviceKey := key
          paletteMemory := rememberLocked context.paletteMemory ⟨key, colors, false⟩ }
      | none => context
    let context := showOrDeferLocked context colors
    { context with devicePalette := { context.devicePalette with orderingValid := false } }
  else context

end Threads

section ReceiveThread

/-- A packet arrives: it passes the filter, and a palette of the device before is left aside. -/
def receiveFollow (context : FollowContext) (packet : Datagram) : FollowContext :=
  if context.received.isSome then context
  else
    let fromHandover := c64PacketFromHandover context.filter packet.sender
    let (filter, admitted) := c64PacketAdmit context.filter packet.sender
    let context := { context with filter := filter }
    match c64ParsePalettePacket packet.data with
    | some (generation, palette) =>
      if admitted ∧ !fromHandover then
        { context with received := some (packet.sender, generation, palette) }
      else context
    | none => context

/-- The palette of a packet is taken over, under the lock. -/
def paletteSection (context : FollowContext) (nowNs : UInt64) : FollowContext :=
  match context.received with
  | none => context
  | some (_, generation, palette) =>
    let context := { context with received := none }
    if context.followDevicePalette then
      let context := { context with palettePacketLastNs := nowNs }
      match c64PaletteStateAccept context.devicePalette generation palette with
      | (devicePalette, true) =>
        let context := showOrDeferLocked { context with devicePalette := devicePalette } palette
        if context.paletteDeviceKey ≠ [] then
          { context with
            paletteMemory :=
              rememberLocked context.paletteMemory ⟨context.paletteDeviceKey, palette, true⟩ }
        else context
      | (_, false) => context
    else context

end ReceiveThread

section Update

/-- An update latches the id of a device that is selected. -/
def selectDevice (context : FollowContext) (device : SelectedDevice) : FollowContext :=
  match context.update with
  | .idle =>
    if device.id ≠ context.activeDeviceId then
      { context with
        activeDeviceId := device.id
        paletteDeviceGeneration := context.paletteDeviceGeneration + 1
        devicePalette := { context.devicePalette with orderingValid := false }
        update := .selected device true }
    else { context with update := .selected device false }
  | _ => context

/-- The update sets the host, and whose packets are expected. -/
def setPeers (context : FollowContext) (peerMayBeStreaming : Bool) : FollowContext :=
  match context.update with
  | .selected device _ =>
    let hostChanged := context.ipAddress ≠ device.host
    let previousPeer := context.filter.expectedPeerIp
    let filter :=
      c64SetExpectedPeerAlias (c64SetExpectedPeerIp context.filter device.host) device.peerHost
    let handover :=
      if peerMayBeStreaming ∧ hostChanged ∧ previousPeer.isSome ∧
          filter.expectedPeerIp ≠ previousPeer then
        previousPeer
      else filter.handoverPeerIp
    let context := { context with filter := { filter with handoverPeerIp := handover } }
    if hostChanged then
      { context with
        ipAddress := device.host
        paletteDeviceGeneration := context.paletteDeviceGeneration + 1
        update := .peersSet device }
    else { context with update := .idle }
  | _ => context

/-- The update announces the new device: its known colours wait for its first packet. -/
def c64PaletteFollowDeviceChanged (context : FollowContext) (nowNs : UInt64) : FollowContext :=
  match context.update with
  | .peersSet _ =>
    let key := deviceKey context.activeDeviceId context.ipAddress
    let slot := recallLocked context.paletteMemory key
    let grace :=
      if slot.any (·.fromStream) then nowNs + c64PaletteStreamGraceNs else 0
    let context : FollowContext :=
      { context with
        paletteDeviceGeneration := context.paletteDeviceGeneration + 1
        paletteDeviceKey := key
        palettePacketLastNs := 0
        paletteStreamGraceUntilNs := grace
        update := .idle }
    if context.followDevicePalette ∧ context.shown.isSome then
      { context with
        paletteCutoverColors := (slot.map (·.colors)).getD c64DefaultPalette
        paletteCutoverSinceNs := nowNs
        paletteCutoverPending := true }
    else context
  | _ => context

end Update

section Worker

/-- What a check that starts now talks to. -/
def FollowContext.target (context : FollowContext) : FollowTarget :=
  ⟨context.ipAddress, deviceKey context.activeDeviceId context.ipAddress,
    context.paletteDeviceGeneration⟩

/-- The worker reads which device it checks, which an update that holds the lock delays. -/
def readTarget (context : FollowContext) : FollowContext :=
  match context.worker, context.update with
  | .idle, .peersSet _ => context
  | .idle, _ => { context with worker := .targeted context.target }
  | _, _ => context

/-- The worker finds out whether the device has to be asked. -/
def checkTarget (context : FollowContext) (usesRest streaming applies : Bool) (nowNs : UInt64) :
    FollowContext :=
  match context.worker with
  | .targeted target =>
    let idle := { context with worker := .idle }
    if !context.followDevicePalette then idle
    else if !usesRest then
      -- The device cannot be asked, so its colours are not known.
      if applies then applyPolled idle target.generation none c64DefaultPalette nowNs else idle
    else
      let context :=
        if context.paletteCutoverPending &&
            decide (c64PaletteCutoverMaxNs ≤ nowNs - context.paletteCutoverSinceNs) then
          cutoverLocked context
        else context
      let idle := { context with worker := .idle }
      if streamIsFresh context nowNs || decide (nowNs < context.paletteStreamGraceUntilNs) ||
          !streaming then
        idle
      else { context with worker := .asking target }
  | _ => context

/-- What a device answers about its setting. -/
inductive SettingAnswer where
  | failed
  | builtIn
  | file (file : Text)
  deriving DecidableEq

/-- The device answers; a file that is in the cache is shown at once. -/
def answerSetting (context : FollowContext) (answer : SettingAnswer) (applies verifies : Bool)
    (nowNs : UInt64) : FollowContext :=
  match context.worker with
  | .asking target =>
    match answer with
    | .failed => { context with worker := .idle }
    | .builtIn =>
      let context := { context with worker := .idle }
      if applies then
        applyPolled context target.generation (some target.deviceKey) c64DefaultPalette nowNs
      else context
    | .file file =>
      match cachedColors context.cache target.deviceKey file with
      | none => { context with worker := .verifying target file }
      | some colors =>
        let context :=
          { context with worker := if verifies then .verifying target file else .idle }
        if applies then
          applyPolled context target.generation (some target.deviceKey) colors nowNs
        else context
  | _ => context

/-- The file is downloaded, or is not. -/
def downloadFile (context : FollowContext) (colors : Option Colors) : FollowContext :=
  match context.worker, colors with
  | .verifying target file, some colors => { context with worker := .downloaded target file colors }
  | .verifying _ _, none => { context with worker := .idle }
  | _, _ => context

/-- The file is cached, unless the source has switched or the cached copy is the same. -/
def storeFile (context : FollowContext) (unchanged : Bool) : FollowContext :=
  match context.worker with
  | .downloaded target file colors =>
    if context.paletteDeviceGeneration ≠ target.generation ∨ unchanged then
      { context with worker := .idle }
    else
      { context with
        cache := cacheFile context.cache target.deviceKey file colors
        worker := .stored target colors }
  | _ => context

/-- The downloaded colours are shown. -/
def applyStored (context : FollowContext) (nowNs : UInt64) : FollowContext :=
  match context.worker with
  | .stored target colors =>
    applyPolled { context with worker := .idle } target.generation (some target.deviceKey) colors
      nowNs
  | _ => context

end Worker

section Steps

/-- One atomic step of a thread. -/
inductive FollowOp where
  | receive (packet : Datagram)
  | paletteSection (nowNs : UInt64)
  | select (device : SelectedDevice)
  | setPeers (peerMayBeStreaming : Bool)
  | deviceChanged (nowNs : UInt64)
  | readTarget
  | checkTarget (usesRest streaming applies : Bool) (nowNs : UInt64)
  | answerSetting (answer : SettingAnswer) (applies verifies : Bool) (nowNs : UInt64)
  | downloadFile (colors : Option Colors)
  | storeFile (unchanged : Bool)
  | applyStored (nowNs : UInt64)
  | cutover

/-- One atomic step of a thread. -/
def followStep (context : FollowContext) : FollowOp → FollowContext
  | .receive packet => receiveFollow context packet
  | .paletteSection nowNs => paletteSection context nowNs
  | .select device => selectDevice context device
  | .setPeers peerMayBeStreaming => setPeers context peerMayBeStreaming
  | .deviceChanged nowNs => c64PaletteFollowDeviceChanged context nowNs
  | .readTarget => readTarget context
  | .checkTarget usesRest streaming applies nowNs =>
    checkTarget context usesRest streaming applies nowNs
  | .answerSetting answer applies verifies nowNs =>
    answerSetting context answer applies verifies nowNs
  | .downloadFile colors => downloadFile context colors
  | .storeFile unchanged => storeFile context unchanged
  | .applyStored nowNs => applyStored context nowNs
  | .cutover => cutoverLocked context

/-- A source that was made for a device, with the colours it starts with. -/
def c64CreateFollow (device : SelectedDevice) (followDevicePalette : Bool)
    (shown : Option Colors) : FollowContext :=
  { filter :=
      c64SetExpectedPeerAlias (c64SetExpectedPeerIp ⟨none, none, none, none, false, 0⟩ device.host)
        device.peerHost
    activeDeviceId := device.id
    ipAddress := device.host
    followDevicePalette := followDevicePalette
    devicePalette := ⟨c64DefaultPalette, 0, false, false⟩
    paletteDeviceGeneration := 0
    paletteDeviceKey := device.key
    palettePacketLastNs := 0
    paletteStreamGraceUntilNs := 0
    paletteMemory := []
    paletteCutoverPending := false
    paletteCutoverColors := c64DefaultPalette
    paletteCutoverSinceNs := 0
    shown := shown
    cache := []
    received := none
    worker := .idle
    update := .idle }

end Steps

end C64Stream
