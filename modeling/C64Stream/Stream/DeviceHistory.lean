import C64Stream.Stream.Commands

/-! What the devices received: the last command for a stream, and the stops that were given up. -/

namespace C64Stream

section History

variable {Device : Type*} [DecidableEq Device] (deviceAt : String → Option Device)

/-- The device behind a host, whatever its control port; there is none behind no host. -/
def deviceBehind (host : String) : Option Device :=
  if NothingToStop host then none else deviceAt host

/-- A device received a command. -/
def Sent.ReachedDevice (command : Sent) (device : Device) : Prop :=
  command.received ∧ deviceBehind deviceAt command.target.host = some device

instance (command : Sent) (device : Device) : Decidable (command.ReachedDevice deviceAt device) :=
  inferInstanceAs (Decidable (_ ∧ _))

/-- The last command for a stream that a device received, latest event first. -/
def lastCommand (device : Device) (stream : AvStream) : List DeviceEvent → Option Bool
  | [] => none
  | .sent command :: earlier =>
    if command.ReachedDevice deviceAt device ∧ command.stream = stream then some command.enable
    else lastCommand device stream earlier
  | .givenUp _ :: earlier | .evicted _ :: earlier => lastCommand device stream earlier

def c64PreviousDeviceStopAttempts : Nat := 5

/-- The stop of a device was given up or dropped, and no start followed. -/
def Abandoned (device : Device) : List DeviceEvent → Prop
  | [] => False
  | .sent command :: earlier =>
    ¬ (command.enable ∧ command.ReachedDevice deviceAt device) ∧ Abandoned device earlier
  | .givenUp entry :: earlier =>
    (c64PreviousDeviceStopAttempts ≤ entry.attempts ∧
      deviceBehind deviceAt entry.host = some device) ∨ Abandoned device earlier
  | .evicted entry :: earlier =>
    deviceBehind deviceAt entry.host = some device ∨ Abandoned device earlier

/-- A device received a start command for a stream and no later stop command. -/
def LeftStreaming (device : Device) (events : List DeviceEvent) : Prop :=
  ∃ stream, lastCommand deviceAt device stream events = some true

/-- Some of the events is a start command that a device received. -/
def Starts (device : Device) (events : List DeviceEvent) : Prop :=
  ∃ command, DeviceEvent.sent command ∈ events ∧ command.enable ∧
    command.ReachedDevice deviceAt device

instance decidableAbandoned (device : Device) :
    ∀ events, Decidable (Abandoned deviceAt device events)
  | [] => inferInstanceAs (Decidable False)
  | .sent _ :: earlier =>
    have := decidableAbandoned device earlier
    inferInstanceAs (Decidable (_ ∧ _))
  | .givenUp _ :: earlier | .evicted _ :: earlier =>
    have := decidableAbandoned device earlier
    inferInstanceAs (Decidable (_ ∨ _))

instance (device : Device) (events : List DeviceEvent) :
    Decidable (LeftStreaming deviceAt device events) :=
  decidable_of_iff
    (lastCommand deviceAt device .video events = some true ∨
      lastCommand deviceAt device .audio events = some true)
    ⟨fun last => last.elim (⟨_, ·⟩) (⟨_, ·⟩), fun ⟨stream, last⟩ => by
      cases stream
      · exact .inl last
      · exact .inr last⟩

variable {deviceAt}

theorem lastCommand_append {device : Device} {stream : AvStream}
    (later earlier : List DeviceEvent) :
    lastCommand deviceAt device stream (later ++ earlier) =
      (lastCommand deviceAt device stream later).or
        (lastCommand deviceAt device stream earlier) := by
  induction later with
  | nil => rfl
  | cons event later ih =>
    cases event with
    | sent command =>
      simp only [List.cons_append, lastCommand]
      split
      · rfl
      · exact ih
    | givenUp | evicted => exact ih

theorem exists_of_lastCommand {device : Device} {stream : AvStream} {enable : Bool}
    {events : List DeviceEvent} (last : lastCommand deviceAt device stream events = some enable) :
    ∃ command, DeviceEvent.sent command ∈ events ∧ command.enable = enable ∧
      command.stream = stream ∧ command.ReachedDevice deviceAt device := by
  induction events with
  | nil => simp [lastCommand] at last
  | cons event earlier ih =>
    cases event with
    | sent command =>
      simp only [lastCommand] at last
      split at last
      · rename_i reached
        exact ⟨command, by simp, Option.some.inj last, reached.2, reached.1⟩
      · obtain ⟨found, member, rest⟩ := ih last
        exact ⟨found, by simp [member], rest⟩
    | givenUp | evicted =>
      obtain ⟨found, member, rest⟩ := ih last
      exact ⟨found, by simp [member], rest⟩

theorem LeftStreaming.of_append {device : Device} {later earlier : List DeviceEvent}
    (left : LeftStreaming deviceAt device (later ++ earlier)) :
    Starts deviceAt device later ∨ LeftStreaming deviceAt device earlier := by
  obtain ⟨stream, last⟩ := left
  rw [lastCommand_append] at last
  cases recent : lastCommand deviceAt device stream later with
  | none => exact .inr ⟨stream, by simpa [recent] using last⟩
  | some enable =>
    obtain ⟨command, member, enabled, -, reached⟩ := exists_of_lastCommand recent
    have started : enable = true := by simpa [recent] using last
    exact .inl ⟨command, member, enabled.trans started, reached⟩

omit [DecidableEq Device] in
theorem Abandoned.append {device : Device} {earlier : List DeviceEvent}
    (abandoned : Abandoned deviceAt device earlier) {later : List DeviceEvent}
    (unstarted : ¬ Starts deviceAt device later) :
    Abandoned deviceAt device (later ++ earlier) := by
  induction later with
  | nil => exact abandoned
  | cons event later ih =>
    have rest : ¬ Starts deviceAt device later := fun ⟨command, member, started⟩ =>
      unstarted ⟨command, by simp [member], started⟩
    cases event with
    | sent command =>
      exact ⟨fun started => unstarted ⟨command, by simp, started⟩, ih rest⟩
    | givenUp | evicted => exact .inr (ih rest)

end History

section Commands

variable {endpoint : Endpoint} {enable : Bool} {stream : AvStream}

theorem c64SendControlCommandTo_events {reply : LegacyReply} :
    ∀ event ∈ (c64SendControlCommandTo endpoint enable stream reply).1, ∃ command,
      event = .sent command ∧ command.stream = stream ∧ (command.enable → enable = true) ∧
        command.target.host = endpoint.host := by
  intro event member
  unfold c64SendControlCommandTo at member
  split at member
  · simp at member
  · dsimp only at member
    split at member <;> simp only [List.mem_cons, List.not_mem_nil, or_false] at member
    · rcases member with rfl | rfl
      · exact ⟨_, rfl, rfl, id, rfl⟩
      · exact ⟨_, rfl, rfl, by rintro ⟨⟩, rfl⟩
    · subst member
      exact ⟨_, rfl, rfl, id, rfl⟩

theorem c64RestStreamControl_events {client : RestClient} {reply : CommandReply} :
    ∀ event ∈ (c64RestStreamControl endpoint client enable stream reply).1, ∃ command,
      event = .sent command ∧ command.stream = stream ∧ (command.enable → enable = true) ∧
        command.target = .rest client := by
  intro event member
  unfold c64RestStreamControl at member
  dsimp only at member
  split at member <;> simp only [List.mem_cons, List.not_mem_nil, or_false] at member
  · rename_i repeated
    simp only [Bool.and_eq_true, decide_eq_true_eq] at repeated
    rcases member with rfl | rfl
    · exact ⟨_, rfl, repeated.1.1.2.symm, fun _ => repeated.1.1.1, rfl⟩
    · exact ⟨_, rfl, rfl, id, rfl⟩
  · subst member
    exact ⟨_, rfl, rfl, id, rfl⟩

theorem c64StreamControlTo_events {restClient : Option RestClient} {transport : StreamTransport}
    {restDemotedUntilNs : Nat} {reply : CommandReply} :
    ∀ event ∈ (c64StreamControlTo transport restClient restDemotedUntilNs endpoint enable stream
      reply).events, ∃ command,
      event = .sent command ∧ command.stream = stream ∧ (command.enable → enable = true) ∧
        (command.target.host = endpoint.host ∨
          transport ≠ .legacy ∧ ∃ client ∈ restClient, command.target.host = client.host) := by
  intro event member
  have overPort (sent : event ∈ (c64SendControlCommandTo endpoint enable stream reply.legacy).1) :=
    c64SendControlCommandTo_events event sent
  unfold c64StreamControlTo at member
  dsimp only at member
  split at member
  · simp at member
  · split at member
    · split at member
      · simp at member
      · obtain ⟨command, is, same, enables, host⟩ := overPort (by simpa using member)
        exact ⟨command, is, same, enables, .inl host⟩
    · rename_i client
      split at member
      · rename_i allowed
        have both : event ∈ (c64SendControlCommandTo endpoint enable stream reply.legacy).1 ++
            (c64RestStreamControl endpoint client enable stream reply).1 := by
          repeat' split at member
          all_goals simp only [List.mem_append] at member ⊢
          all_goals tauto
        rcases List.mem_append.mp both with sent | request
        · obtain ⟨command, is, same, enables, host⟩ := overPort sent
          exact ⟨command, is, same, enables, .inl host⟩
        · obtain ⟨command, is, same, enables, target⟩ := c64RestStreamControl_events event request
          exact ⟨command, is, same, enables, .inr ⟨allowed.1, client, rfl, by rw [target]; rfl⟩⟩
      · obtain ⟨command, is, same, enables, host⟩ := overPort (by simpa using member)
        exact ⟨command, is, same, enables, .inl host⟩

theorem c64StopPreviousStream_events {transport : StreamTransport} {hasClient : Bool}
    {entry : StopEntry} {reply : CommandReply} :
    ∀ event ∈ (c64StopPreviousStream transport hasClient entry stream reply).1, ∃ command,
      event = .sent command ∧ command.stream = stream ∧ command.enable = false ∧
        command.target.host = entry.host := by
  intro event member
  have overPort (sent : event ∈ (c64SendControlCommandTo
      ⟨entry.host, entry.controlPort, entry.password⟩ false stream reply.legacy).1) :
      ∃ command, event = .sent command ∧ command.stream = stream ∧ command.enable = false ∧
        command.target.host = entry.host := by
    obtain ⟨command, is, same, enables, host⟩ := c64SendControlCommandTo_events event sent
    exact ⟨command, is, same, by simpa using enables, host⟩
  unfold c64StopPreviousStream at member
  dsimp only at member
  split at member
  · split at member
    · simp only [List.mem_singleton] at member
      exact ⟨_, member, rfl, rfl, rfl⟩
    · split at member
      · simp only [List.mem_singleton] at member
        exact ⟨_, member, rfl, rfl, rfl⟩
      · rcases List.mem_append.mp member with sent | request
        · exact overPort sent
        · simp only [List.mem_singleton] at request
          exact ⟨_, request, rfl, rfl, rfl⟩
  · exact overPort member

end Commands

section Successes

variable {Device : Type*} [DecidableEq Device] {deviceAt : String → Option Device}
  {endpoint : Endpoint} {enable : Bool} {stream : AvStream} {device : Device}

theorem c64SendControlCommandTo_last {reply : LegacyReply}
    (ok : (c64SendControlCommandTo endpoint enable stream reply).2 = true)
    (behind : deviceBehind deviceAt endpoint.host = some device) :
    lastCommand deviceAt device stream (c64SendControlCommandTo endpoint enable stream reply).1 =
      some enable := by
  unfold c64SendControlCommandTo at ok ⊢
  split at ok
  · cases ok
  · rename_i something
    rw [if_neg something]
    dsimp only at ok ⊢
    split at ok
    all_goals
      rename_i case
      simp only [case, if_true, if_false, Bool.false_eq_true]
      exact if_pos ⟨⟨by simp [show reply.sent = true from ok], behind⟩, rfl⟩

theorem c64RestStreamControl_last {client : RestClient} {reply : CommandReply}
    (ok : c64RestClassifyStatus (c64RestStreamControl endpoint client enable stream reply).2.status =
      .ok) (behind : deviceBehind deviceAt client.host = some device) :
    lastCommand deviceAt device stream
      (c64RestStreamControl endpoint client enable stream reply).1 = some enable := by
  unfold c64RestStreamControl at ok ⊢
  dsimp only at ok ⊢
  split at ok
  · rename_i repeated
    rw [if_pos repeated]
    simp only [Bool.and_eq_true, decide_eq_true_eq] at repeated
    obtain ⟨⟨⟨enabled, video⟩, -⟩, -⟩ := repeated
    rw [enabled, video]
    exact if_pos ⟨⟨by simp [RestReply.ok, ok], behind⟩, rfl⟩
  · rename_i single
    rw [if_neg single]
    exact if_pos ⟨⟨by simp [RestReply.ok, ok], behind⟩, rfl⟩

theorem c64StreamControlTo_last {restClient : Option RestClient} {transport : StreamTransport}
    {restDemotedUntilNs : Nat} {reply : CommandReply}
    (ok : (c64StreamControlTo transport restClient restDemotedUntilNs endpoint enable stream
      reply).ok = true)
    (behind : deviceBehind deviceAt endpoint.host = some device)
    (aimed : transport ≠ .legacy → ∀ client ∈ restClient,
      deviceBehind deviceAt client.host = deviceBehind deviceAt endpoint.host) :
    lastCommand deviceAt device stream (c64StreamControlTo transport restClient restDemotedUntilNs
      endpoint enable stream reply).events = some enable := by
  have overPort (earlier : List DeviceEvent)
      (sent : (c64SendControlCommandTo endpoint enable stream reply.legacy).2 = true) :
      lastCommand deviceAt device stream
        ((c64SendControlCommandTo endpoint enable stream reply.legacy).1 ++ earlier) =
        some enable := by
    rw [lastCommand_append, c64SendControlCommandTo_last sent behind]
    rfl
  have something : endpoint.host ≠ receiveOnlyHost := by
    rintro nowhere
    simp [deviceBehind, NothingToStop, nowhere] at behind
  unfold c64StreamControlTo at ok ⊢
  rw [if_neg something] at ok ⊢
  dsimp only at ok ⊢
  cases restClient with
  | none =>
    dsimp only at ok ⊢
    split at ok
    · cases ok
    · rename_i allowed
      rw [if_neg allowed]
      exact overPort [] ok
  | some client =>
    dsimp only at ok ⊢
    split at ok
    · rename_i allowed
      rw [if_pos allowed]
      -- Over REST, the success is that of the last request, or of the control port after it.
      split at ok
      · rename_i success
        rw [if_pos success]
        exact c64RestStreamControl_last success ((aimed allowed.1 client rfl).trans behind)
      · rename_i failure
        rw [if_neg failure]
        split at ok
        · cases ok
        · rename_i automatic
          rw [if_neg automatic]
          split at ok
          · rename_i unsupported
            rw [if_pos unsupported]
            exact overPort _ ok
          · rename_i supported
            rw [if_neg supported]
            split at ok
            · cases ok
            · rename_i unreachable
              rw [if_neg unreachable]
              exact overPort _ ok
    · rename_i refused
      rw [if_neg refused]
      exact overPort [] ok

theorem c64StopPreviousStream_last {transport : StreamTransport} {hasClient : Bool}
    {entry : StopEntry} {reply : CommandReply}
    (ok : (c64StopPreviousStream transport hasClient entry stream reply).2 = true)
    (behind : deviceBehind deviceAt entry.host = some device) :
    lastCommand deviceAt device stream
      (c64StopPreviousStream transport hasClient entry stream reply).1 = some false := by
  have overPort (earlier : List DeviceEvent)
      (sent : (c64SendControlCommandTo ⟨entry.host, entry.controlPort, entry.password⟩ false stream
        reply.legacy).2 = true) :
      lastCommand deviceAt device stream
        ((c64SendControlCommandTo ⟨entry.host, entry.controlPort, entry.password⟩ false stream
          reply.legacy).1 ++ earlier) = some false := by
    rw [lastCommand_append, c64SendControlCommandTo_last sent behind]
    rfl
  unfold c64StopPreviousStream at ok ⊢
  dsimp only at ok ⊢
  split at ok
  · rename_i allowed
    rw [if_pos allowed]
    split at ok
    · rename_i success
      rw [if_pos success]
      exact if_pos ⟨⟨by simp [RestReply.ok, success], behind⟩, rfl⟩
    · rename_i failure
      rw [if_neg failure]
      split at ok
      · cases ok
      · rename_i falls
        rw [if_neg falls]
        exact overPort _ ok
  · rename_i refused
    rw [if_neg refused]
    simpa using overPort [] ok

theorem c64StreamControlTo_whole {restClient : Option RestClient} {transport : StreamTransport}
    {restDemotedUntilNs : Nat} {reply : CommandReply} {other : AvStream}
    (whole : reply.legacy.stopReceived → reply.legacy.sent || reply.legacy.received) :
    lastCommand deviceAt device other (c64StreamControlTo transport restClient restDemotedUntilNs
      endpoint true stream reply).events ≠ some false := by
  have overPort (earlier : List DeviceEvent)
      (unstopped : lastCommand deviceAt device other earlier ≠ some false) :
      lastCommand deviceAt device other
        ((c64SendControlCommandTo endpoint true stream reply.legacy).1 ++ earlier) ≠
        some false := by
    unfold c64SendControlCommandTo
    split
    · exact unstopped
    · dsimp only
      simp only [if_true, List.cons_append, List.nil_append, lastCommand]
      split
      · simp
      · rename_i missed
        split
        · rename_i stopped
          -- The stop was received, and so the start that follows it.
          exact absurd ⟨⟨whole stopped.1.1, stopped.1.2⟩, stopped.2⟩ missed
        · exact unstopped
  have overRest (client : RestClient) :
      lastCommand deviceAt device other
        (c64RestStreamControl endpoint client true stream reply).1 ≠ some false := by
    unfold c64RestStreamControl
    dsimp only
    split <;> simp only [restRequest, lastCommand]
    · split
      · simp
      · split <;> simp
    · split <;> simp
  have nothing : lastCommand deviceAt device other [] ≠ some false := by simp [lastCommand]
  unfold c64StreamControlTo
  dsimp only
  split
  · exact nothing
  · split
    · split
      · exact nothing
      · exact overPort [] nothing
    · rename_i client
      split
      · repeat' split
        all_goals first | exact overRest client | exact overPort _ (overRest client)
      · exact overPort [] nothing

end Successes

end C64Stream
