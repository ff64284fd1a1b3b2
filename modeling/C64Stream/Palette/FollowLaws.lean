import C64Stream.Lib.Run
import C64Stream.Palette.Follow

/-! Palettes over switches of devices: when the colours that are stored and shown are a device's own. -/

namespace C64Stream

section History

/-- Where colours come from: a palette packet of an address, or the setting of a host. -/
inductive PaletteSource where
  | packet (sender : UInt32)
  | setting (host : Text)
  deriving DecidableEq

abbrev ReceivedColors := PaletteSource × Colors

/-- A source is the device at a host: its setting, its address or the second one of a profile. -/
def SentFrom (devices : List SelectedDevice) (host : Text) : PaletteSource → Prop
  | .packet sender =>
    inetPton host = some sender ∨
      ∃ device ∈ devices, device.host = host ∧ inetPton device.peerHost = some sender
  | .setting asked => asked = host

instance (devices : List SelectedDevice) (host : Text) :
    (source : PaletteSource) → Decidable (SentFrom devices host source)
  | .packet _ => inferInstanceAs (Decidable (_ ∨ ∃ device ∈ devices, _ ∧ _))
  | .setting asked => inferInstanceAs (Decidable (asked = host))

/-- Colours are among those that came from the device at a host. -/
def CameFrom (devices : List SelectedDevice) (history : List ReceivedColors) (host : Text)
    (colors : Colors) : Prop :=
  ∃ entry ∈ history, entry.2 = colors ∧ SentFrom devices host entry.1

instance (devices : List SelectedDevice) (history : List ReceivedColors) (host : Text)
    (colors : Colors) : Decidable (CameFrom devices history host colors) :=
  inferInstanceAs (Decidable (∃ entry ∈ history, _ ∧ _))

/-- Colours came from a device that is filed under a key. -/
def FromDevice (devices : List SelectedDevice) (history : List ReceivedColors) (key : Text)
    (colors : Colors) : Prop :=
  ∃ device ∈ devices, device.key = key ∧ CameFrom devices history device.host colors

instance (devices : List SelectedDevice) (history : List ReceivedColors) (key : Text)
    (colors : Colors) : Decidable (FromDevice devices history key colors) :=
  inferInstanceAs (Decidable (∃ device ∈ devices, _ ∧ _))

variable {devices : List SelectedDevice} {history : List ReceivedColors}

theorem SentFrom.grow {host : Text} {source : PaletteSource}
    (sent : SentFrom devices host source) (others : List SelectedDevice) :
    SentFrom (devices ++ others) host source := by
  cases source with
  | packet sender =>
    rcases sent with own | ⟨device, within, second⟩
    · exact .inl own
    · exact .inr ⟨device, by simp [within], second⟩
  | setting asked => exact sent

theorem CameFrom.grow {host : Text} {colors : Colors}
    (came : CameFrom devices history host colors) {later : List ReceivedColors}
    (kept : history ⊆ later) (others : List SelectedDevice) :
    CameFrom (devices ++ others) later host colors := by
  obtain ⟨entry, within, same, sent⟩ := came
  exact ⟨entry, kept within, same, sent.grow others⟩

theorem FromDevice.grow {key : Text} {colors : Colors}
    (came : FromDevice devices history key colors) {later : List ReceivedColors}
    (kept : history ⊆ later) (others : List SelectedDevice) :
    FromDevice (devices ++ others) later key colors := by
  obtain ⟨device, within, same, from_⟩ := came
  exact ⟨device, by simp [within], same, from_.grow kept others⟩

end History

section Runs

/-- A device that the source has switched to. -/
structure SwitchedTo where
  key : Text
  host : Text
  /-- The colours that were stored for it at the switch, and the built-in ones. -/
  basis : List Colors
  /-- How many colours had been received by then. -/
  since : Nat

/-- A source along a run, with the devices that were selected and the colours that came. -/
structure FollowRun where
  context : FollowContext
  devices : List SelectedDevice
  history : List ReceivedColors
  /-- The device that was switched to last, until another one is selected. -/
  switched : Option SwitchedTo

/-- The colours that come with a step. -/
def FollowOp.received (context : FollowContext) : FollowOp → List ReceivedColors
  | .receive packet =>
    match c64ParsePalettePacket packet.data with
    | some (_, palette) => [(.packet packet.sender, palette)]
    | none => []
  | .answerSetting .builtIn _ _ _ =>
    match context.worker with
    | .asking target => [(.setting target.host, c64DefaultPalette)]
    | _ => []
  | .downloadFile (some colors) =>
    match context.worker with
    | .verifying target _ => [(.setting target.host, colors)]
    | _ => []
  | _ => []

/-- The devices that a step selects. -/
def FollowOp.selects (context : FollowContext) : FollowOp → List SelectedDevice
  | .select device => if context.update = .idle then [device] else []
  | _ => []

/-- The colours that are stored for a device, and the built-in ones. -/
def storedColors (context : FollowContext) (key : Text) : List Colors :=
  c64DefaultPalette :: (recallLocked context.paletteMemory key).toList.map (·.colors) ++
    (context.cache.filter (·.device == cacheKey key)).map (·.colors)

/-- The device that a run has switched to, after a step. -/
def FollowRun.switchedAfter (run : FollowRun) : FollowOp → Option SwitchedTo
  | .select device =>
    if run.context.update = .idle ∧
        (device.id ≠ run.context.activeDeviceId ∨ device.host ≠ run.context.ipAddress) then
      none
    else run.switched
  | .deviceChanged _ =>
    match run.context.update with
    | .peersSet _ =>
      let key := deviceKey run.context.activeDeviceId run.context.ipAddress
      some ⟨key, run.context.ipAddress, storedColors run.context key, run.history.length⟩
    | _ => run.switched
  | _ => run.switched

/-- A run after a step. -/
def FollowRun.step (run : FollowRun) (op : FollowOp) : FollowRun :=
  { context := followStep run.context op
    devices := run.devices ++ op.selects run.context
    history := run.history ++ op.received run.context
    switched := run.switchedAfter op }

/-- A run that starts with a source that was made for a device. -/
def FollowRun.start (device : SelectedDevice) (followDevicePalette : Bool)
    (shown : Option Colors) : FollowRun :=
  { context := c64CreateFollow device followDevicePalette shown
    devices := [device]
    history := []
    switched := none }

/-- The colours of the device that was switched to: stored for it or built in at the switch, or
received from it since. -/
def FollowRun.Own (run : FollowRun) (colors : Colors) : Prop :=
  ∀ target ∈ run.switched, colors ∈ target.basis ∨
    CameFrom run.devices (run.history.drop target.since) target.host colors

/-- No palette is taken for another device's: what memory and cache hold for a device came from it,
and after the cut-over to a device the colours of the display are its own. -/
structure FollowRun.Apart (run : FollowRun) : Prop where
  memory : ∀ slot ∈ run.context.paletteMemory,
    FromDevice run.devices run.history slot.deviceKey slot.colors
  cache : ∀ device ∈ run.devices, ∀ file, ∀ colors ∈ cachedColors run.context.cache device.key file,
    FromDevice run.devices run.history device.key colors
  shown : run.context.followDevicePalette = true → run.context.paletteCutoverPending = false →
    ∀ colors ∈ run.context.shown, run.Own colors

/-- An update is not between setting the peers and announcing the device. -/
def FollowUpdate.Announced (update : FollowUpdate) : Prop :=
  ∀ device, update ≠ .peersSet device

/-- The receive thread holds no palette where an update is about to change the host. -/
def FollowContext.Free (context : FollowContext) : FollowUpdate → Prop
  | .selected device _ => device.host ≠ context.ipAddress → context.received = none
  | .idle | .peersSet _ => True

/-- The host is that of the device whose id an update has just latched. -/
def FollowContext.Paired (context : FollowContext) : FollowUpdate → Prop
  | .selected device true => device.host = context.ipAddress
  | .selected _ false | .idle | .peersSet _ => True

/-- The condition on a step. A palette that passes the filter as the selected device's comes when
that device's address is known, and not between the two steps of a switch; the peers are set while
the receive thread holds no palette; a check reads its target while id and host are of one device;
and no two devices share their part of the path in the cache. -/
def FollowRun.Sound (run : FollowRun) : FollowOp → Prop
  | .receive packet =>
    (c64ParsePalettePacket packet.data).isSome = true →
      c64PacketFromHandover run.context.filter packet.sender = false →
      c64PacketFromExpectedPeer run.context.filter packet.sender = true →
        run.context.filter.expectedPeerIp.isSome = true ∧ run.context.update.Announced
  | .setPeers _ => run.context.Free run.context.update
  | .readTarget => run.context.Paired run.context.update
  | .select device =>
    run.context.update = .idle → ∀ other ∈ run.devices,
      cacheKey other.key = cacheKey device.key → other.key = device.key
  | .paletteSection _ | .deviceChanged _ | .checkTarget _ _ _ _ | .answerSetting _ _ _ _
  | .downloadFile _ | .storeFile _ | .applyStored _ | .cutover => True

instance : (update : FollowUpdate) → Decidable update.Announced
  | .idle => isTrue fun _ => by simp
  | .selected _ _ => isTrue fun _ => by simp
  | .peersSet device => isFalse fun announced => announced device rfl

instance (context : FollowContext) : (update : FollowUpdate) → Decidable (context.Free update)
  | .selected device _ =>
    inferInstanceAs (Decidable (device.host ≠ context.ipAddress → context.received = none))
  | .idle | .peersSet _ => inferInstanceAs (Decidable True)

instance (context : FollowContext) : (update : FollowUpdate) → Decidable (context.Paired update)
  | .selected device true => inferInstanceAs (Decidable (device.host = context.ipAddress))
  | .selected _ false | .idle | .peersSet _ => inferInstanceAs (Decidable True)

instance decidableFollowSound (run : FollowRun) : (op : FollowOp) → Decidable (run.Sound op)
  | .receive _ => inferInstanceAs (Decidable (_ → _ → _ → _ ∧ run.context.update.Announced))
  | .setPeers _ => inferInstanceAs (Decidable (run.context.Free run.context.update))
  | .readTarget => inferInstanceAs (Decidable (run.context.Paired run.context.update))
  | .select device =>
    inferInstanceAs (Decidable (run.context.update = .idle → ∀ other ∈ run.devices,
      cacheKey other.key = cacheKey device.key → other.key = device.key))
  | .paletteSection _ | .deviceChanged _ | .checkTarget _ _ _ _ | .answerSetting _ _ _ _
  | .downloadFile _ | .storeFile _ | .applyStored _ | .cutover => inferInstanceAs (Decidable True)

end Runs

section Order

/-- The filter lets nobody but the device at a host through as the selected one. -/
structure FilterOf (devices : List SelectedDevice) (host : Text) (filter : IngestFilter) : Prop where
  learned : filter.learnedPeerIp = none
  expected : filter.expectedPeerIp = inetPton host
  second : ∀ address, filter.expectedPeerAltIp = some address →
    ∃ device ∈ devices, device.host = host ∧ inetPton device.peerHost = some address

/-- The id and the host are those of selected devices, as far as the update has got. -/
def UpdateOf (devices : List SelectedDevice) (id host : Text) : FollowUpdate → Prop
  | .idle => ∃ device ∈ devices, device.id = id ∧ device.host = host
  | .selected device idChanged =>
    device ∈ devices ∧ device.id = id ∧
      (idChanged = false → ∃ before ∈ devices, before.id = id ∧ before.host = host)
  | .peersSet device => device ∈ devices ∧ device.id = id ∧ device.host = host

/-- A target is a selected device, and what a check would talk to now while its generation is
current. -/
structure TargetOf (devices : List SelectedDevice) (update : FollowUpdate) (now target : FollowTarget) :
    Prop where
  owner : ∃ device ∈ devices, device.key = target.deviceKey ∧ device.host = target.host
  bound : target.generation ≤ now.generation
  current : target.generation = now.generation → update.Announced ∧ target = now

/-- Colours that were downloaded came from the host of the target, and are the current device's own
while the generation is current. -/
structure DownloadOf (history : List ReceivedColors) (own : Colors → Prop) (now target : FollowTarget)
    (colors : Colors) : Prop where
  came : (.setting target.host, colors) ∈ history
  own : target.generation = now.generation → own colors

/-- The worker talks to a selected device. -/
def WorkerOf (run : FollowRun) : FollowWorker → Prop
  | .idle => True
  | .targeted target | .asking target | .verifying target _ =>
    TargetOf run.devices run.context.update run.context.target target
  | .downloaded target _ colors | .stored target colors =>
    TargetOf run.devices run.context.update run.context.target target ∧
      DownloadOf run.history run.Own run.context.target target colors

/-- A palette that the receive thread holds is the current device's own. -/
structure HeldOf (devices : List SelectedDevice) (history : List ReceivedColors)
    (own : Colors → Prop) (update : FollowUpdate) (host : Text) (sender : UInt32) (colors : Colors) :
    Prop where
  announced : update.Announced
  sent : SentFrom devices host (.packet sender)
  came : (.packet sender, colors) ∈ history
  own : own colors

/-- The device that was switched to is the current one. -/
structure SwitchedOf (received : Nat) (own : Colors → Prop) (cache : List CachedPalette)
    (update : FollowUpdate) (now : FollowTarget) (target : SwitchedTo) : Prop where
  announced : update.Announced
  host : target.host = now.host
  key : target.key = now.deviceKey
  since : target.since ≤ received
  builtIn : c64DefaultPalette ∈ target.basis
  cached : ∀ entry ∈ cache, entry.device = cacheKey target.key → own entry.colors
  stays : ∀ device idChanged, update = .selected device idChanged → device.host = now.host

/-- What holds of palettes and devices in every state of a run whose steps meet the condition. -/
structure FollowRun.InOrder (run : FollowRun) : Prop where
  keyed : run.context.update.Announced →
    ∃ device ∈ run.devices, device.key = run.context.paletteDeviceKey ∧
      device.host = run.context.ipAddress
  update : UpdateOf run.devices run.context.activeDeviceId run.context.ipAddress run.context.update
  filter : FilterOf run.devices run.context.ipAddress run.context.filter
  held : ∀ sender generation colors,
    run.context.received = some (sender, generation, colors) →
      HeldOf run.devices run.history run.Own run.context.update run.context.ipAddress sender colors
  worker : WorkerOf run run.context.worker
  memory : ∀ slot ∈ run.context.paletteMemory,
    FromDevice run.devices run.history slot.deviceKey slot.colors
  cache : ∀ entry ∈ run.context.cache, ∃ device ∈ run.devices,
    cacheKey device.key = entry.device ∧ (.setting device.host, entry.colors) ∈ run.history
  distinct : ∀ device ∈ run.devices, ∀ other ∈ run.devices,
    cacheKey device.key = cacheKey other.key → device.key = other.key
  switched : ∀ target ∈ run.switched,
    SwitchedOf run.history.length run.Own run.context.cache run.context.update run.context.target
      target
  shown : run.context.followDevicePalette = true → run.context.paletteCutoverPending = false →
    ∀ colors ∈ run.context.shown, run.Own colors
  deferred : run.context.followDevicePalette = true → run.context.paletteCutoverPending = true →
    run.Own run.context.paletteCutoverColors ∧ run.context.shown.isSome = true

variable {run : FollowRun}

theorem FollowRun.InOrder.cached (inOrder : run.InOrder) {device : SelectedDevice}
    (selected : device ∈ run.devices) {file : Text} {colors : Colors}
    (found : cachedColors run.context.cache device.key file = some colors) :
    ∃ entry ∈ run.context.cache, entry.device = cacheKey device.key ∧ entry.colors = colors ∧
      FromDevice run.devices run.history device.key colors := by
  obtain ⟨entry, search, rfl⟩ := Option.map_eq_some_iff.mp found
  have within := List.mem_of_find?_eq_some search
  have path := List.find?_some search
  simp only [Bool.and_eq_true, beq_iff_eq] at path
  obtain ⟨owner, among, samePath, came⟩ := inOrder.cache entry within
  have sameKey := inOrder.distinct owner among device selected (samePath.trans path.1)
  exact ⟨entry, within, path.1, rfl, owner, among, sameKey, _, came, rfl, rfl⟩

theorem FollowRun.InOrder.apart (inOrder : run.InOrder) : run.Apart where
  memory := inOrder.memory
  cache device selected file colors found := by
    obtain ⟨-, -, -, -, came⟩ := inOrder.cached selected found
    exact came
  shown := inOrder.shown

end Order

section Showing

variable {run : FollowRun}

theorem FollowRun.InOrder.own_builtIn (inOrder : run.InOrder) : run.Own c64DefaultPalette :=
  fun target within => .inl (inOrder.switched target within).builtIn

theorem mem_rememberLocked {memory : List MemorySlot} {slot other : MemorySlot}
    (within : other ∈ rememberLocked memory slot) : other = slot ∨ other ∈ memory := by
  unfold rememberLocked at within
  dsimp only at within
  split_ifs at within
  · exact (List.mem_or_eq_of_mem_set within).symm
  · rcases List.mem_append.mp within with before | last
    · exact .inr (List.mem_of_mem_tail before)
    · exact .inl (List.mem_singleton.mp last)
  · rcases List.mem_append.mp within with before | last
    · exact .inr before
    · exact .inl (List.mem_singleton.mp last)

theorem FollowRun.InOrder.showOrDefer (inOrder : run.InOrder) {colors : Colors}
    (own : run.Own colors) :
    FollowRun.InOrder { run with context := showOrDeferLocked run.context colors } := by
  unfold showOrDeferLocked
  split_ifs with pending
  · exact { inOrder with
      deferred := fun follows _ => ⟨own, (inOrder.deferred follows pending).2⟩ }
  · exact { inOrder with
      shown := fun _ _ shown same => Option.some.inj same ▸ own
      deferred := fun _ now => absurd now pending }

theorem FollowRun.InOrder.cutover (inOrder : run.InOrder) :
    FollowRun.InOrder { run with context := cutoverLocked run.context } := by
  unfold cutoverLocked
  split_ifs with pending
  · exact { inOrder with
      shown := fun follows _ shown same => Option.some.inj same ▸ (inOrder.deferred follows pending).1
      deferred := fun _ now => absurd now (by simp) }
  · exact inOrder

theorem FollowRun.InOrder.remember (inOrder : run.InOrder) {slot : MemorySlot}
    (came : FromDevice run.devices run.history slot.deviceKey slot.colors) :
    FollowRun.InOrder
      { run with
        context :=
          { run.context with paletteMemory := rememberLocked run.context.paletteMemory slot } } :=
  { inOrder with
    memory := fun other within => by
      rcases mem_rememberLocked within with rfl | before
      · exact came
      · exact inOrder.memory other before }

theorem FollowRun.InOrder.apply (inOrder : run.InOrder) {generation : Nat} {key : Option Text}
    {colors : Colors}
    (own : generation = run.context.paletteDeviceGeneration → run.Own colors ∧
      ∀ name ∈ key, FromDevice run.devices run.history name colors ∧
        ∃ device ∈ run.devices, device.key = name ∧ device.host = run.context.ipAddress)
    (nowNs : UInt64) :
    FollowRun.InOrder
      { run with context := applyPolled run.context generation key colors nowNs } := by
  unfold applyPolled
  split_ifs with wanted
  · obtain ⟨ownColors, stored⟩ := own wanted.1.symm
    cases key with
    | none =>
      have shown := inOrder.showOrDefer ownColors
      exact { shown with }
    | some name =>
      obtain ⟨came, keyed⟩ := stored name rfl
      have remembered := @FollowRun.InOrder.remember run inOrder ⟨name, colors, false⟩ came
      have filed : FollowRun.InOrder
          { run with
            context :=
              { run.context with
                paletteDeviceKey := name
                paletteMemory := rememberLocked run.context.paletteMemory ⟨name, colors, false⟩ } } :=
        { remembered with keyed := fun _ => keyed }
      have shown := FollowRun.InOrder.showOrDefer filed ownColors
      exact { shown with }
  · exact inOrder

end Showing

section Growing

variable {run : FollowRun}

theorem FollowRun.Own.grow {colors : Colors} (own : run.Own colors)
    (others : List SelectedDevice) (more : List ReceivedColors) :
    FollowRun.Own
      { run with devices := run.devices ++ others, history := run.history ++ more } colors := by
  intro target within
  refine (own target within).imp_right fun came => came.grow ?_ others
  rw [List.drop_append]
  exact List.subset_append_left _ _

theorem FollowRun.InOrder.own_received (inOrder : run.InOrder) {source : PaletteSource}
    (sent : SentFrom run.devices run.context.ipAddress source) (colors : Colors) :
    FollowRun.Own { run with history := run.history ++ [(source, colors)] } colors := by
  intro target within
  obtain ⟨-, host, -, since, -⟩ := inOrder.switched target within
  refine .inr ⟨(source, colors), ?_, rfl, host ▸ sent⟩
  rw [List.drop_append_of_le_length since]
  simp

/-- More devices and more colours leave a run in order, if no two devices share a cache path. -/
theorem FollowRun.InOrder.grow (inOrder : run.InOrder) (others : List SelectedDevice)
    (more : List ReceivedColors)
    (distinct : ∀ device ∈ run.devices ++ others, ∀ other ∈ run.devices ++ others,
      cacheKey device.key = cacheKey other.key → device.key = other.key) :
    FollowRun.InOrder
      { run with devices := run.devices ++ others, history := run.history ++ more } where
  keyed announced := by
    obtain ⟨device, within, keyed⟩ := inOrder.keyed announced
    exact ⟨device, List.mem_append_left _ within, keyed⟩
  update := by
    have before := inOrder.update
    cases update : run.context.update with
    | idle =>
      rw [update] at before
      obtain ⟨device, within, same⟩ := before
      exact ⟨device, List.mem_append_left _ within, same⟩
    | selected device idChanged =>
      rw [update] at before
      obtain ⟨within, same, unchanged⟩ := before
      refine ⟨List.mem_append_left _ within, same, fun kept => ?_⟩
      obtain ⟨earlier, among, pair⟩ := unchanged kept
      exact ⟨earlier, List.mem_append_left _ among, pair⟩
    | peersSet device =>
      rw [update] at before
      exact ⟨List.mem_append_left _ before.1, before.2⟩
  filter :=
    { inOrder.filter with
      second := fun address second => by
        obtain ⟨device, within, same⟩ := inOrder.filter.second address second
        exact ⟨device, List.mem_append_left _ within, same⟩ }
  held sender generation colors holds :=
    have held := inOrder.held sender generation colors holds
    { announced := held.announced
      sent := held.sent.grow others
      came := List.mem_append_left _ held.came
      own := held.own.grow others more }
  worker := by
    have before := inOrder.worker
    -- The parts of the worker's target and download grow with the run.
    have targets : ∀ target,
        TargetOf run.devices run.context.update run.context.target target →
        TargetOf (run.devices ++ others) run.context.update run.context.target target := by
      intro target sound
      obtain ⟨device, within, same⟩ := sound.owner
      exact ⟨⟨device, List.mem_append_left _ within, same⟩, sound.bound, sound.current⟩
    have downloads : ∀ target colors,
        DownloadOf run.history run.Own run.context.target target colors →
        DownloadOf (run.history ++ more)
          (FollowRun.Own
            { run with devices := run.devices ++ others, history := run.history ++ more })
          run.context.target target colors :=
      fun target colors sound => ⟨List.mem_append_left _ sound.came,
        fun current => (sound.own current).grow others more⟩
    cases worker : run.context.worker with
    | idle => trivial
    | targeted target => exact targets target (by rwa [worker] at before)
    | asking target => exact targets target (by rwa [worker] at before)
    | verifying target file => exact targets target (by rwa [worker] at before)
    | downloaded target file colors =>
      rw [worker] at before
      exact ⟨targets target before.1, downloads target colors before.2⟩
    | stored target colors =>
      rw [worker] at before
      exact ⟨targets target before.1, downloads target colors before.2⟩
  memory slot within :=
    (inOrder.memory slot within).grow (List.subset_append_left _ _) others
  cache entry within := by
    obtain ⟨device, among, path, came⟩ := inOrder.cache entry within
    exact ⟨device, List.mem_append_left _ among, path, List.mem_append_left _ came⟩
  distinct := distinct
  switched target within :=
    have sound := inOrder.switched target within
    { sound with
      since := sound.since.trans (by simp)
      cached := fun entry among path => (sound.cached entry among path).grow others more }
  shown follows pending colors shown := (inOrder.shown follows pending colors shown).grow others more
  deferred follows pending :=
    ⟨(inOrder.deferred follows pending).1.grow others more, (inOrder.deferred follows pending).2⟩

theorem FollowRun.InOrder.receive_more (inOrder : run.InOrder) (more : List ReceivedColors) :
    FollowRun.InOrder { run with history := run.history ++ more } := by
  have grown := inOrder.grow [] more (by simpa using inOrder.distinct)
  rwa [List.append_nil] at grown

end Growing

section ReceiveThread

variable {run : FollowRun}

theorem FilterOf.sent {devices : List SelectedDevice} {host : Text} {filter : IngestFilter}
    (filterOf : FilterOf devices host filter) {sender : UInt32}
    (known : filter.expectedPeerIp.isSome = true)
    (passes : c64PacketFromExpectedPeer filter sender = true) :
    SentFrom devices host (.packet sender) := by
  obtain ⟨expected, isExpected⟩ := Option.isSome_iff_exists.mp known
  simp only [c64PacketFromExpectedPeer, isExpected, Bool.or_eq_true, decide_eq_true_eq,
    filterOf.learned, reduceCtorEq, or_false] at passes
  rcases passes with rfl | second
  · exact .inl (filterOf.expected.symm.trans isExpected)
  · exact .inr (filterOf.second sender second)

theorem FilterOf.admit {devices : List SelectedDevice} {host : Text} {filter : IngestFilter}
    (filterOf : FilterOf devices host filter) (sender : UInt32) :
    FilterOf devices host (c64PacketAdmit filter sender).1 := by
  unfold c64PacketAdmit
  split_ifs <;> exact { filterOf with }

theorem passes_of_admitted {filter : IngestFilter} {sender : UInt32}
    (admitted : (c64PacketAdmit filter sender).2 = true)
    (direct : c64PacketFromHandover filter sender = false) :
    c64PacketFromExpectedPeer filter sender = true := by
  by_contra rejected
  simp only [c64PacketFromHandover, decide_eq_false_iff_not] at direct
  simp [c64PacketAdmit, rejected, direct] at admitted

theorem FollowRun.InOrder.receive (inOrder : run.InOrder) {packet : Datagram}
    (sound : run.Sound (.receive packet)) : (run.step (.receive packet)).InOrder := by
  have stepped : run.step (.receive packet)
      = { run with
          context := receiveFollow run.context packet
          history := run.history ++ (FollowOp.receive packet).received run.context } := by
    simp [FollowRun.step, FollowOp.selects, FollowRun.switchedAfter, followStep]
  rw [stepped]
  have grown := inOrder.receive_more ((FollowOp.receive packet).received run.context)
  unfold receiveFollow
  split_ifs with busy
  · exact grown
  have filtered := grown.filter.admit packet.sender
  dsimp only
  cases parsed : c64ParsePalettePacket packet.data with
  | none => exact { grown with filter := filtered }
  | some content =>
    obtain ⟨generation, palette⟩ := content
    dsimp only
    split_ifs with taken
    · -- The palette is held until its section, as one of the selected device.
      simp only [Bool.not_eq_true'] at taken
      have passes := passes_of_admitted taken.1 taken.2
      obtain ⟨known, announced⟩ := sound (by simp [parsed]) taken.2 passes
      have sent := inOrder.filter.sent known passes
      have received : (FollowOp.receive packet).received run.context
          = [(.packet packet.sender, palette)] := by
        simp [FollowOp.received, parsed]
      rw [received] at grown ⊢
      exact { grown with
        filter := filtered
        held := fun sender _ colors same => by
          obtain ⟨rfl, -, rfl⟩ := Prod.mk.injEq .. ▸ Option.some.inj same
          exact ⟨announced, sent, by simp, inOrder.own_received sent palette⟩ }
    · exact { grown with filter := filtered }

theorem FollowRun.InOrder.paletteSection (inOrder : run.InOrder) (nowNs : UInt64) :
    FollowRun.InOrder { run with context := paletteSection run.context nowNs } := by
  unfold C64Stream.paletteSection
  cases holds : run.context.received with
  | none => exact inOrder
  | some palette =>
    obtain ⟨sender, generation, colors⟩ := palette
    have held := inOrder.held sender generation colors holds
    have free : FollowRun.InOrder { run with context := { run.context with received := none } } :=
      { inOrder with held := fun _ _ _ none => absurd none (by simp) }
    dsimp only
    split_ifs with follows
    · generalize accepted : c64PaletteStateAccept run.context.devicePalette generation colors = answer
      obtain ⟨devicePalette, taken⟩ := answer
      cases taken with
      | false => exact { free with }
      | true =>
        have noted : FollowRun.InOrder
            { run with
              context :=
                { run.context with
                  received := none, palettePacketLastNs := nowNs, devicePalette := devicePalette } } :=
          { free with }
        have shown := FollowRun.InOrder.showOrDefer noted held.own
        dsimp only
        split_ifs with keyed
        · -- The key is that of the current device, whose colours these are.
          obtain ⟨device, within, sameKey, sameHost⟩ := inOrder.keyed held.announced
          have filed : (showOrDeferLocked
              { run.context with
                received := none, palettePacketLastNs := nowNs, devicePalette := devicePalette }
              colors).paletteDeviceKey = run.context.paletteDeviceKey := by
            unfold showOrDeferLocked
            split_ifs <;> rfl
          refine @FollowRun.InOrder.remember _ shown ⟨_, colors, true⟩ ⟨device, within, ?_, ?_⟩
          · exact sameKey.trans filed.symm
          · exact ⟨(.packet sender, colors), held.came, rfl, sameHost ▸ held.sent⟩
        · exact shown
    · exact free

end ReceiveThread

section Update

variable {run : FollowRun}

theorem FollowRun.step_plain {op : FollowOp} (selects : op.selects run.context = [])
    (received : op.received run.context = []) (switched : run.switchedAfter op = run.switched) :
    run.step op = { run with context := followStep run.context op } := by
  simp [FollowRun.step, selects, received, switched]

theorem FollowRun.own_of_none (none : run.switched = none) (colors : Colors) : run.Own colors :=
  fun target within => absurd (none ▸ within) (by simp)

theorem FollowRun.InOrder.forget (inOrder : run.InOrder) :
    FollowRun.InOrder { run with switched := none } :=
  { inOrder with
    held := fun sender generation colors holds =>
      { inOrder.held sender generation colors holds with
        own := FollowRun.own_of_none rfl colors }
    worker := by
      have before := inOrder.worker
      cases worker : run.context.worker with
      | idle => trivial
      | targeted target | asking target | verifying target file =>
        rw [worker] at before
        exact before
      | downloaded target file colors | stored target colors =>
        rw [worker] at before
        exact ⟨before.1, before.2.came, fun _ => FollowRun.own_of_none rfl colors⟩
    switched := fun target within => absurd within (by simp)
    shown := fun _ _ colors _ => FollowRun.own_of_none rfl colors
    deferred := fun follows pending =>
      ⟨FollowRun.own_of_none rfl _, (inOrder.deferred follows pending).2⟩ }

theorem WorkerOf.outdated {next : FollowRun} (workerOf : WorkerOf run run.context.worker)
    (worker : next.context.worker = run.context.worker) (devices : next.devices = run.devices)
    (history : next.history = run.history)
    (newer : run.context.target.generation < next.context.target.generation) :
    WorkerOf next next.context.worker := by
  rw [worker]
  -- A target's generation is at most the old one, so it is not the new one.
  have targets : ∀ target, TargetOf run.devices run.context.update run.context.target target →
      TargetOf next.devices next.context.update next.context.target target := by
    intro target sound
    refine ⟨devices ▸ sound.owner, sound.bound.trans newer.le, fun current => ?_⟩
    exact absurd current (Nat.ne_of_lt (Nat.lt_of_le_of_lt sound.bound newer))
  have downloads : ∀ target colors,
      TargetOf run.devices run.context.update run.context.target target →
      DownloadOf run.history run.Own run.context.target target colors →
      DownloadOf next.history next.Own next.context.target target colors := by
    intro target colors bound sound
    refine ⟨history ▸ sound.came, fun current => ?_⟩
    exact absurd current (Nat.ne_of_lt (Nat.lt_of_le_of_lt bound.bound newer))
  cases where_ : run.context.worker with
  | idle => trivial
  | targeted target => exact targets target (by rwa [where_] at workerOf)
  | asking target => exact targets target (by rwa [where_] at workerOf)
  | verifying target file => exact targets target (by rwa [where_] at workerOf)
  | downloaded target file colors =>
    rw [where_] at workerOf
    exact ⟨targets target workerOf.1, downloads target colors workerOf.1 workerOf.2⟩
  | stored target colors =>
    rw [where_] at workerOf
    exact ⟨targets target workerOf.1, downloads target colors workerOf.1 workerOf.2⟩

theorem FilterOf.setPeers {devices : List SelectedDevice} {device : SelectedDevice}
    (selected : device ∈ devices) {filter : IngestFilter} (learned : filter.learnedPeerIp = none)
    (handover : Option UInt32) :
    FilterOf devices device.host
      { c64SetExpectedPeerAlias (c64SetExpectedPeerIp filter device.host) device.peerHost with
        handoverPeerIp := handover } := by
  have first : (c64SetExpectedPeerIp filter device.host).learnedPeerIp = none ∧
      (c64SetExpectedPeerIp filter device.host).expectedPeerIp = inetPton device.host := by
    unfold c64SetExpectedPeerIp
    cases inetPton device.host with
    | none => exact ⟨rfl, rfl⟩
    | some address =>
      dsimp only
      split_ifs with same
      · exact ⟨learned, same⟩
      · exact ⟨rfl, rfl⟩
  unfold c64SetExpectedPeerAlias
  cases second : inetPton device.peerHost with
  | none => exact ⟨first.1, first.2, by simp⟩
  | some address =>
    dsimp only
    split_ifs
    · exact ⟨first.1, first.2, by simp⟩
    · refine ⟨first.1, first.2, fun other same => ⟨device, selected, rfl, ?_⟩⟩
      exact second.trans same

/-- Selecting a device leaves a run in order, if it does not share another one's cache path. -/
theorem FollowRun.InOrder.select (inOrder : run.InOrder) {device : SelectedDevice}
    (sound : run.Sound (.select device)) : (run.step (.select device)).InOrder := by
  cases update : run.context.update with
  | selected other idChanged | peersSet other =>
    rw [FollowRun.step_plain (by simp [FollowOp.selects, update]) rfl
      (by simp [FollowRun.switchedAfter, update])]
    simpa [followStep, selectDevice, update] using inOrder
  | idle =>
    have distinct : ∀ one ∈ run.devices ++ [device], ∀ other ∈ run.devices ++ [device],
        cacheKey one.key = cacheKey other.key → one.key = other.key := by
      intro one oneWithin other otherWithin path
      rcases List.mem_append.mp oneWithin with oneBefore | oneNew <;>
        rcases List.mem_append.mp otherWithin with otherBefore | otherNew
      · exact inOrder.distinct one oneBefore other otherBefore path
      · rw [List.mem_singleton.mp otherNew] at path ⊢
        exact sound update one oneBefore path
      · rw [List.mem_singleton.mp oneNew] at path ⊢
        exact (sound update other otherBefore path.symm).symm
      · rw [List.mem_singleton.mp oneNew, List.mem_singleton.mp otherNew]
    have grown := inOrder.grow [device] [] distinct
    rw [List.append_nil] at grown
    have before := grown.update
    rw [update] at before
    by_cases changed : device.id ≠ run.context.activeDeviceId
    · -- A new id makes every check that runs stale.
      have stepped : run.step (.select device)
          = { context :=
                { run.context with
                  activeDeviceId := device.id
                  paletteDeviceGeneration := run.context.paletteDeviceGeneration + 1
                  devicePalette := { run.context.devicePalette with orderingValid := false }
                  update := .selected device true }
              devices := run.devices ++ [device], history := run.history, switched := none } := by
        simp [FollowRun.step, FollowOp.selects, FollowOp.received, FollowRun.switchedAfter,
          followStep, selectDevice, update, changed]
      rw [stepped]
      have forgotten := grown.forget
      exact { forgotten with
        keyed := fun _ => grown.keyed (by simp [FollowUpdate.Announced, update])
        update := ⟨by simp, rfl, by simp⟩
        held := fun sender generation colors holds =>
          { forgotten.held sender generation colors holds with
            announced := by simp [FollowUpdate.Announced] }
        worker := forgotten.worker.outdated rfl rfl rfl (Nat.lt_succ_self _)
        switched := fun target within => absurd within (by simp) }
    · have same : device.id = run.context.activeDeviceId := not_not.mp changed
      -- Without a new id the checks go on, for the device that still has this id.
      have moved : ∀ next : FollowRun, next.InOrder → next.context = run.context →
          device ∈ next.devices →
          (∀ target ∈ next.switched, device.host = run.context.ipAddress) →
          FollowRun.InOrder
            { next with context := { next.context with update := .selected device false } } := by
        intro next sound context selected stays
        have announced : (FollowUpdate.selected device false).Announced := by
          simp [FollowUpdate.Announced]
        have idle : next.context.update = .idle := context ▸ update
        have was := sound.update
        rw [idle] at was
        have targets : ∀ target,
            TargetOf next.devices next.context.update next.context.target target →
            TargetOf next.devices (.selected device false) next.context.target target :=
          fun target sound => { sound with
            current := fun current => ⟨announced, (sound.current current).2⟩ }
        exact { sound with
          keyed := fun _ => sound.keyed (by simp [FollowUpdate.Announced, idle])
          update := ⟨selected, same.trans (by rw [context]), fun _ => was⟩
          held := fun sender generation colors holds =>
            { sound.held sender generation colors holds with announced := announced }
          worker := by
            have worker := sound.worker
            cases where_ : next.context.worker with
            | idle => trivial
            | targeted target => exact targets target (by rwa [where_] at worker)
            | asking target => exact targets target (by rwa [where_] at worker)
            | verifying target file => exact targets target (by rwa [where_] at worker)
            | downloaded target file colors =>
              rw [where_] at worker
              exact ⟨targets target worker.1, worker.2⟩
            | stored target colors =>
              rw [where_] at worker
              exact ⟨targets target worker.1, worker.2⟩
          switched := fun target within =>
            { sound.switched target within with
              announced := announced
              stays := fun other idChanged is => by
                obtain ⟨rfl, -⟩ := FollowUpdate.selected.injEq .. ▸ is
                exact (stays target within).trans (by rw [FollowContext.target, context]) } }
      have stepped : run.step (.select device)
          = { context := { run.context with update := .selected device false }
              devices := run.devices ++ [device], history := run.history
              switched := if device.host ≠ run.context.ipAddress then none else run.switched } := by
        simp [FollowRun.step, FollowOp.selects, FollowOp.received, FollowRun.switchedAfter,
          followStep, selectDevice, update, same]
      rw [stepped]
      split_ifs with elsewhere
      · exact moved _ grown.forget rfl (by simp) (by simp)
      · exact moved _ grown rfl (by simp) fun _ _ => not_not.mp elsewhere

theorem setPeers_selected {context : FollowContext} {device : SelectedDevice} {idChanged : Bool}
    (update : context.update = .selected device idChanged) (peerMayBeStreaming : Bool) :
    ∃ handover, setPeers context peerMayBeStreaming =
      let filter :=
        { c64SetExpectedPeerAlias (c64SetExpectedPeerIp context.filter device.host)
            device.peerHost with handoverPeerIp := handover }
      if context.ipAddress ≠ device.host then
        { context with
          filter := filter
          ipAddress := device.host
          paletteDeviceGeneration := context.paletteDeviceGeneration + 1
          update := .peersSet device }
      else { context with filter := filter, update := .idle } := by
  rw [setPeers, update]
  exact ⟨_, rfl⟩

theorem FollowRun.InOrder.setPeers (inOrder : run.InOrder) {peerMayBeStreaming : Bool}
    (sound : run.Sound (.setPeers peerMayBeStreaming)) :
    FollowRun.InOrder { run with context := setPeers run.context peerMayBeStreaming } := by
  cases update : run.context.update with
  | idle | peersSet other => simpa [C64Stream.setPeers, update] using inOrder
  | selected device idChanged =>
    have before := inOrder.update
    rw [update] at before
    obtain ⟨selected, sameId, -⟩ := before
    have filter := fun handover => FilterOf.setPeers selected inOrder.filter.learned handover
    obtain ⟨handover, stepped⟩ := setPeers_selected update peerMayBeStreaming
    rw [stepped]
    dsimp only
    split_ifs with changed
    · -- A device at another host is not the one that was switched to.
      have gone : run.switched = none := by
        cases switched : run.switched with
        | none => rfl
        | some target =>
          have stays := (inOrder.switched target switched).stays device idChanged update
          exact absurd stays.symm changed
      have free : run.context.received = none := by
        rw [FollowRun.Sound, update] at sound
        exact sound (Ne.symm changed)
      exact { inOrder with
        keyed := fun announced => absurd rfl (announced device)
        update := ⟨selected, sameId, rfl⟩
        filter := filter _
        held := fun sender generation colors holds => absurd (free.symm.trans holds) (by simp)
        worker := inOrder.worker.outdated rfl rfl rfl (Nat.lt_succ_self _)
        switched := fun target within => absurd (gone ▸ within) (by simp) }
    · have sameHost : device.host = run.context.ipAddress := (not_not.mp changed).symm
      have announced : FollowUpdate.idle.Announced := by simp [FollowUpdate.Announced]
      have targets : ∀ target,
          TargetOf run.devices run.context.update run.context.target target →
          TargetOf run.devices .idle run.context.target target :=
        fun target sound => { sound with
          current := fun current => ⟨announced, (sound.current current).2⟩ }
      exact { inOrder with
        keyed := fun _ => inOrder.keyed (by simp [FollowUpdate.Announced, update])
        update := ⟨device, selected, sameId, sameHost⟩
        filter := sameHost ▸ filter _
        held := fun sender generation colors holds =>
          { inOrder.held sender generation colors holds with announced := announced }
        worker := by
          have worker := inOrder.worker
          cases where_ : run.context.worker with
          | idle => trivial
          | targeted target => exact targets target (by rwa [where_] at worker)
          | asking target => exact targets target (by rwa [where_] at worker)
          | verifying target file => exact targets target (by rwa [where_] at worker)
          | downloaded target file colors =>
            rw [where_] at worker
            exact ⟨targets target worker.1, worker.2⟩
          | stored target colors =>
            rw [where_] at worker
            exact ⟨targets target worker.1, worker.2⟩
        switched := fun target within =>
          { inOrder.switched target within with
            announced := announced
            stays := fun other idChanged is => by simp at is } }

/-- Announcing the new device leaves a run in order: the colours that wait for its first packet are
those stored for it. -/
theorem FollowRun.InOrder.deviceChanged (inOrder : run.InOrder) (nowNs : UInt64) :
    (run.step (.deviceChanged nowNs)).InOrder := by
  cases update : run.context.update with
  | idle | selected other idChanged =>
    rw [FollowRun.step_plain rfl rfl (by simp [FollowRun.switchedAfter, update])]
    simpa [followStep, c64PaletteFollowDeviceChanged, update] using inOrder
  | peersSet device =>
    have before := inOrder.update
    rw [update] at before
    obtain ⟨selected, sameId, sameHost⟩ := before
    have announced : FollowUpdate.idle.Announced := by simp [FollowUpdate.Announced]
    have unannounced : ¬run.context.update.Announced := by simp [FollowUpdate.Announced, update]
    obtain ⟨key, isKey⟩ : ∃ key, key = deviceKey run.context.activeDeviceId run.context.ipAddress :=
      ⟨_, rfl⟩
    obtain ⟨known, isKnown⟩ : ∃ known, known =
        ((recallLocked run.context.paletteMemory key).map (·.colors)).getD c64DefaultPalette :=
      ⟨_, rfl⟩
    have stored : known ∈ storedColors run.context key := by
      rw [isKnown, storedColors]
      cases recallLocked run.context.paletteMemory key <;> simp
    let target : SwitchedTo :=
      ⟨key, run.context.ipAddress, storedColors run.context key, run.history.length⟩
    have own : ∀ next : FollowRun, next.switched = some target → ∀ colors ∈ target.basis,
        next.Own colors := by
      intro next switched colors within other among
      rw [switched] at among
      exact .inl (Option.some.inj among ▸ within)
    have stepped : run.step (.deviceChanged nowNs)
        = { run with
            context := c64PaletteFollowDeviceChanged run.context nowNs, switched := some target } := by
      simp [FollowRun.step, FollowOp.selects, FollowOp.received, FollowRun.switchedAfter, followStep,
        update, target, isKey]
    rw [stepped]
    simp only [c64PaletteFollowDeviceChanged, update, ← isKey, ← isKnown]
    -- Nothing is held and no check is current while the device is not announced.
    have common : FollowRun.InOrder
        { run with
          context :=
            { run.context with
              paletteDeviceGeneration := run.context.paletteDeviceGeneration + 1
              paletteDeviceKey := key
              update := .idle
              followDevicePalette := false }
          switched := some target } :=
      { inOrder with
        keyed := fun _ => ⟨device, selected, by rw [SelectedDevice.key, sameId, sameHost, isKey],
          sameHost⟩
        update := ⟨device, selected, sameId, sameHost⟩
        held := fun sender generation colors holds =>
          absurd (inOrder.held sender generation colors holds).announced unannounced
        worker := inOrder.worker.outdated rfl rfl rfl (Nat.lt_succ_self _)
        switched := fun other within => by
          rw [← Option.some.inj within]
          refine ⟨announced, rfl, isKey, le_refl _, List.mem_cons_self, ?_, by simp⟩
          intro entry among path
          refine own _ rfl entry.colors ?_
          rw [show target.basis = storedColors run.context key from rfl, storedColors]
          refine List.mem_append_right _ (List.mem_map_of_mem (List.mem_filter.mpr ⟨among, ?_⟩))
          simpa using path
        shown := fun follows => absurd follows (by simp)
        deferred := fun follows => absurd follows (by simp) }
    generalize (if (recallLocked run.context.paletteMemory key).any (·.fromStream) then
      nowNs + c64PaletteStreamGraceNs else 0) = grace
    split_ifs with waits
    · exact { common with
        shown := fun _ now => absurd now (by simp)
        deferred := fun _ _ => ⟨own _ rfl known stored, waits.2⟩ }
    · have dark : run.context.followDevicePalette = true → run.context.shown = none := by
        intro follows
        rw [not_and] at waits
        simpa using waits follows
      exact { common with
        shown := fun follows _ colors shown => absurd ((dark follows).symm.trans shown) (by simp)
        deferred := fun follows pending => by
          have shown := (inOrder.deferred follows pending).2
          rw [dark follows] at shown
          exact absurd shown (by simp) }

end Update

section Worker

variable {run : FollowRun}

theorem FollowRun.InOrder.stop (inOrder : run.InOrder) :
    FollowRun.InOrder { run with context := { run.context with worker := .idle } } :=
  { inOrder with worker := trivial }

theorem FollowRun.InOrder.readTarget (inOrder : run.InOrder) (sound : run.Sound .readTarget) :
    FollowRun.InOrder { run with context := readTarget run.context } := by
  unfold C64Stream.readTarget
  have before := inOrder.update
  -- The current id and host belong to one device, unless the update is between the two.
  have target : run.context.update.Announced →
      TargetOf run.devices run.context.update run.context.target run.context.target := by
    intro announced
    refine ⟨?_, le_refl _, fun _ => ⟨announced, rfl⟩⟩
    have owner : ∃ device ∈ run.devices,
        device.id = run.context.activeDeviceId ∧ device.host = run.context.ipAddress := by
      cases update : run.context.update with
      | idle => rwa [update] at before
      | selected device idChanged =>
        rw [update] at before
        obtain ⟨selected, sameId, unchanged⟩ := before
        cases idChanged with
        | false => exact unchanged rfl
        | true =>
          rw [FollowRun.Sound, update] at sound
          exact ⟨device, selected, sameId, sound⟩
      | peersSet device => exact absurd update (announced device)
    obtain ⟨device, selected, sameId, sameHost⟩ := owner
    exact ⟨device, selected, by rw [SelectedDevice.key, sameId, sameHost]; rfl, sameHost⟩
  split
  · exact inOrder
  · rename_i announced
    exact { inOrder with worker := target announced }
  · exact inOrder

theorem FollowRun.InOrder.applyTarget (inOrder : run.InOrder) {target : FollowTarget}
    (targetOf : TargetOf run.devices run.context.update run.context.target target) {colors : Colors}
    (came : FromDevice run.devices run.history target.deviceKey colors)
    (own : target.generation = run.context.paletteDeviceGeneration → run.Own colors)
    (nowNs : UInt64) :
    FollowRun.InOrder
      { run with
        context :=
          applyPolled run.context target.generation (some target.deviceKey) colors nowNs } := by
  refine inOrder.apply (fun current => ⟨own current, fun name same => ?_⟩) nowNs
  rw [← Option.some.inj same]
  obtain ⟨device, selected, sameKey, sameHost⟩ := targetOf.owner
  refine ⟨came, device, selected, sameKey, ?_⟩
  rw [sameHost, (targetOf.current current).2]
  rfl

theorem TargetOf.came {devices : List SelectedDevice} {history : List ReceivedColors}
    {update : FollowUpdate} {now target : FollowTarget} (targetOf : TargetOf devices update now target)
    {colors : Colors} (answered : (.setting target.host, colors) ∈ history) :
    FromDevice devices history target.deviceKey colors := by
  obtain ⟨device, selected, sameKey, sameHost⟩ := targetOf.owner
  exact ⟨device, selected, sameKey, (.setting target.host, colors), answered, rfl, sameHost.symm⟩

theorem FollowRun.InOrder.checkTarget (inOrder : run.InOrder)
    (usesRest streaming applies : Bool) (nowNs : UInt64) :
    FollowRun.InOrder
      { run with context := checkTarget run.context usesRest streaming applies nowNs } := by
  unfold C64Stream.checkTarget
  cases where_ : run.context.worker with
  | idle | asking target | verifying target file | downloaded target file colors
  | stored target colors => exact inOrder
  | targeted target =>
    have targetOf := inOrder.worker
    rw [where_] at targetOf
    have stopped := inOrder.stop
    dsimp only
    split_ifs
    · exact stopped
    · exact stopped.apply (fun _ => ⟨stopped.own_builtIn, by simp⟩) nowNs
    · exact stopped
    · exact inOrder.cutover.stop
    · -- The cut-over changes neither devices nor generations.
      unfold cutoverLocked
      split_ifs with pending
      · have cut := inOrder.cutover
        rw [cutoverLocked, if_pos pending] at cut
        exact { cut with worker := targetOf }
      · exact { inOrder with worker := targetOf }
    · exact stopped
    · exact { inOrder with worker := targetOf }

theorem FollowRun.InOrder.answerSetting (inOrder : run.InOrder) (answer : SettingAnswer)
    (applies verifies : Bool) (nowNs : UInt64) :
    (run.step (.answerSetting answer applies verifies nowNs)).InOrder := by
  have stepped : run.step (.answerSetting answer applies verifies nowNs)
      = { run with
          context := C64Stream.answerSetting run.context answer applies verifies nowNs
          history := run.history ++
            (FollowOp.answerSetting answer applies verifies nowNs).received run.context } := by
    simp [FollowRun.step, FollowOp.selects, FollowRun.switchedAfter, followStep]
  rw [stepped]
  have grown := inOrder.receive_more
    ((FollowOp.answerSetting answer applies verifies nowNs).received run.context)
  unfold C64Stream.answerSetting
  cases where_ : run.context.worker with
  | idle | targeted target | verifying target file | downloaded target file colors
  | stored target colors => exact grown
  | asking target =>
    have targetOf := inOrder.worker
    rw [where_] at targetOf
    cases answer with
    | failed => exact grown.stop
    | builtIn =>
      have received : (FollowOp.answerSetting .builtIn applies verifies nowNs).received run.context
          = [(.setting target.host, c64DefaultPalette)] := by
        simp [FollowOp.received, where_]
      dsimp only
      rw [received] at grown ⊢
      split_ifs
      · exact grown.stop.applyTarget targetOf (targetOf.came (by simp))
          (fun _ => grown.stop.own_builtIn) nowNs
      · exact grown.stop
    | file file =>
      rw [show (FollowOp.answerSetting (.file file) applies verifies nowNs).received run.context
        = [] from rfl, List.append_nil]
      dsimp only
      cases found : cachedColors run.context.cache target.deviceKey file with
      | none => exact { inOrder with worker := targetOf }
      | some colors =>
        have asked : FollowRun.InOrder
            { run with
              context :=
                { run.context with
                  worker := if verifies then .verifying target file else .idle } } := by
          cases verifies with
          | true => exact { inOrder with worker := targetOf }
          | false => exact inOrder.stop
        dsimp only
        by_cases applied : applies = true
        · rw [if_pos applied]
          -- A cached file under the key of the current device is one of its own.
          obtain ⟨device, selected, sameKey, -⟩ := targetOf.owner
          rw [← sameKey] at found
          obtain ⟨entry, within, path, rfl, came⟩ := inOrder.cached selected found
          rw [sameKey] at came path
          refine asked.applyTarget targetOf came (fun current other among => ?_) nowNs
          have switched := inOrder.switched other among
          refine switched.cached entry within ?_ other among
          rw [path, switched.key, (targetOf.current current).2]
        · rw [if_neg applied]
          exact asked

theorem FollowRun.InOrder.downloadFile (inOrder : run.InOrder) (colors : Option Colors) :
    (run.step (.downloadFile colors)).InOrder := by
  have stepped : run.step (.downloadFile colors)
      = { run with
          context := C64Stream.downloadFile run.context colors
          history := run.history ++ (FollowOp.downloadFile colors).received run.context } := by
    simp [FollowRun.step, FollowOp.selects, FollowRun.switchedAfter, followStep]
  rw [stepped]
  have grown := inOrder.receive_more ((FollowOp.downloadFile colors).received run.context)
  unfold C64Stream.downloadFile
  cases where_ : run.context.worker with
  | idle | targeted target | asking target | downloaded target file colors
  | stored target colors => exact grown
  | verifying target file =>
    have targetOf := inOrder.worker
    rw [where_] at targetOf
    cases colors with
    | none => exact grown.stop
    | some colors =>
      have received : (FollowOp.downloadFile (some colors)).received run.context
          = [(.setting target.host, colors)] := by
        simp [FollowOp.received, where_]
      rw [received] at grown ⊢
      refine { grown with worker := ⟨targetOf, by simp, fun current => ?_⟩ }
      refine inOrder.own_received ?_ colors
      exact congrArg FollowTarget.host (targetOf.current current).2

theorem FollowRun.InOrder.storeFile (inOrder : run.InOrder) (unchanged : Bool) :
    FollowRun.InOrder { run with context := storeFile run.context unchanged } := by
  unfold C64Stream.storeFile
  cases where_ : run.context.worker with
  | idle | targeted target | asking target | verifying target file
  | stored target colors => exact inOrder
  | downloaded target file colors =>
    have download := inOrder.worker
    rw [where_] at download
    obtain ⟨targetOf, downloadOf⟩ := download
    dsimp only
    split_ifs with skipped
    · exact inOrder.stop
    · rw [not_or, not_not] at skipped
      -- The cache takes one entry, which is the target's own.
      have entries : ∀ entry ∈ cacheFile run.context.cache target.deviceKey file colors,
          entry = ⟨cacheKey target.deviceKey, file, colors⟩ ∨ entry ∈ run.context.cache := by
        intro entry within
        rcases List.mem_cons.mp within with new | before
        · exact .inl new
        · exact .inr (List.mem_of_mem_filter before)
      exact { inOrder with
        worker := ⟨targetOf, downloadOf⟩
        cache := fun entry within => by
          rcases entries entry within with rfl | before
          · obtain ⟨device, selected, sameKey, sameHost⟩ := targetOf.owner
            exact ⟨device, selected, congrArg cacheKey sameKey, sameHost ▸ downloadOf.came⟩
          · exact inOrder.cache entry before
        switched := fun other among =>
          { inOrder.switched other among with
            cached := fun entry within path => by
              rcases entries entry within with rfl | before
              · exact downloadOf.own skipped.1.symm
              · exact (inOrder.switched other among).cached entry before path } }

theorem FollowRun.InOrder.applyStored (inOrder : run.InOrder) (nowNs : UInt64) :
    FollowRun.InOrder { run with context := applyStored run.context nowNs } := by
  unfold C64Stream.applyStored
  cases where_ : run.context.worker with
  | idle | targeted target | asking target | verifying target file
  | downloaded target file colors => exact inOrder
  | stored target colors =>
    have download := inOrder.worker
    rw [where_] at download
    obtain ⟨targetOf, downloadOf⟩ := download
    exact inOrder.stop.applyTarget targetOf (targetOf.came downloadOf.came)
      (fun current => downloadOf.own current) nowNs

end Worker

section Steps

theorem FollowRun.InOrder.step {run : FollowRun} (inOrder : run.InOrder) {op : FollowOp}
    (sound : run.Sound op) : (run.step op).InOrder := by
  cases op with
  | receive packet => exact inOrder.receive sound
  | select device => exact inOrder.select sound
  | deviceChanged nowNs => exact inOrder.deviceChanged nowNs
  | answerSetting answer applies verifies nowNs =>
    exact inOrder.answerSetting answer applies verifies nowNs
  | downloadFile colors => exact inOrder.downloadFile colors
  | paletteSection nowNs =>
    rw [FollowRun.step_plain rfl rfl rfl]
    exact inOrder.paletteSection nowNs
  | setPeers peerMayBeStreaming =>
    rw [FollowRun.step_plain rfl rfl rfl]
    exact inOrder.setPeers sound
  | readTarget =>
    rw [FollowRun.step_plain rfl rfl rfl]
    exact inOrder.readTarget sound
  | checkTarget usesRest streaming applies nowNs =>
    rw [FollowRun.step_plain rfl rfl rfl]
    exact inOrder.checkTarget usesRest streaming applies nowNs
  | storeFile unchanged =>
    rw [FollowRun.step_plain rfl rfl rfl]
    exact inOrder.storeFile unchanged
  | applyStored nowNs =>
    rw [FollowRun.step_plain rfl rfl rfl]
    exact inOrder.applyStored nowNs
  | cutover =>
    rw [FollowRun.step_plain rfl rfl rfl]
    exact inOrder.cutover

theorem FollowRun.inOrder_start (device : SelectedDevice) (followDevicePalette : Bool)
    (shown : Option Colors) : (FollowRun.start device followDevicePalette shown).InOrder where
  keyed _ := ⟨device, by simp [FollowRun.start], rfl, rfl⟩
  update := ⟨device, by simp [FollowRun.start], rfl, rfl⟩
  filter := by
    have filter := @FilterOf.setPeers [device] device (by simp)
      ⟨none, none, none, none, false, 0⟩ rfl
    exact { filter none with }
  held sender generation colors holds := absurd holds (by simp [FollowRun.start, c64CreateFollow])
  worker := trivial
  memory slot within := absurd within (by simp [FollowRun.start, c64CreateFollow])
  cache entry within := absurd within (by simp [FollowRun.start, c64CreateFollow])
  distinct one oneWithin other otherWithin _ := by
    rw [List.mem_singleton.mp oneWithin, List.mem_singleton.mp otherWithin]
  switched target within := absurd within (by simp [FollowRun.start])
  shown _ _ colors _ := FollowRun.own_of_none rfl colors
  deferred _ pending := absurd pending (by simp [FollowRun.start, c64CreateFollow])

/-- Over every interleaving whose steps meet the condition, no palette is taken for another
device's. -/
theorem palettes_apart (device : SelectedDevice) (followDevicePalette : Bool)
    (shown : Option Colors) (ops : List FollowOp)
    (each : EachStep FollowRun.step FollowRun.Sound
      (FollowRun.start device followDevicePalette shown) ops) :
    Always FollowRun.step FollowRun.Apart (FollowRun.start device followDevicePalette shown) ops :=
  (always_of_eachStep (fun _ _ inOrder sound => inOrder.step sound) each
    (FollowRun.inOrder_start device followDevicePalette shown)).imp fun _ inOrder => inOrder.apart

/-- A device of a test network. -/
def kitchenDevice : SelectedDevice :=
  ⟨text "5d4e12", text "10.0.0.1", []⟩

/-- Another one. -/
def atticDevice : SelectedDevice :=
  ⟨text "77ab03", text "10.0.0.2", []⟩

/-- A palette packet of an address whose colours are all of one shade. -/
def palettePacket (sender : UInt32) (generation shade : UInt8) : Datagram :=
  ⟨sender, [generation, 0, 0, 0, 239, 0, 0x80, 0x01, 1, 4, 1, 0] ++ List.replicate 48 shade⟩

/-- A switch during which the device before goes on sending its palette, and after which both the
stream and the setting of the new one are followed. -/
def paletteSwitchOps : List FollowOp :=
  [.receive (palettePacket 0x0100000A 1 17), .paletteSection 1000, .select atticDevice,
    .setPeers true, .receive (palettePacket 0x0100000A 2 18), .deviceChanged 2000, .readTarget,
    .checkTarget true true true 2100, .answerSetting (.file (text "48-blue.vpl")) true true 2200,
    .downloadFile (some c64DefaultPalette), .storeFile false, .applyStored 2300,
    .receive (palettePacket 0x0200000A 1 34), .paletteSection 2400, .cutover]

/-- No palette is taken for another device's in such a switch. -/
theorem paletteSwitchOps_apart :
    Always FollowRun.step FollowRun.Apart (FollowRun.start kitchenDevice true (some c64DefaultPalette))
      paletteSwitchOps :=
  palettes_apart kitchenDevice true (some c64DefaultPalette) paletteSwitchOps (by decide +kernel)

/-- A palette passes the filter just before a switch, and is taken over just after it. -/
def paletteOvertakenOps : List FollowOp :=
  [.receive (palettePacket 0x0100000A 1 17), .select atticDevice, .setPeers true,
    .deviceChanged 2000, .paletteSection 2100]

/-- Then the colours of the device before are stored for the new one. -/
theorem paletteOvertaken_not_apart :
    ¬Always FollowRun.step FollowRun.Apart
      (FollowRun.start kitchenDevice true (some c64DefaultPalette)) paletteOvertakenOps := by
  intro always
  have owned := always.last.memory
  exact absurd owned (by decide +kernel)

end Steps

end C64Stream
