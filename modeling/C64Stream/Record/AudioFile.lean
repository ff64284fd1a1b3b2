import C64Stream.Record.Interleaving

/-! When the audio file of a recording is finalised before it is closed, and closed once. -/

namespace C64Stream

section Finalized

/-- An audio file was closed once, after its header was given the size of its data. -/
structure AudioClosed (file : File) : Prop where
  once : file.closings = 1
  finalized : file.finalized = true
  size : file.content.length - 44 ≤ 2 ^ 32 - 37 →
    read32 (file.content.drop 40) = file.content.length - 44

/-- Every audio file is open and held, or was finalised and closed once. -/
def AudioFinalized (context : RecordContext) : Prop :=
  ∀ (i : Nat) (file : File), context.files[i]? = some file → file.path.name = .audio →
    (file.closings = 0 ∧ context.audioFile = some i) ∨ AudioClosed file

/-- The open audio file has a header, and its data are as long as was counted. -/
structure AudioOpen (context : RecordContext) (file : File) : Prop where
  name : file.path.name = .audio
  notClosed : file.closings = 0
  header : 44 ≤ file.content.length
  bytes : context.recordedAudioBytes = UInt64.ofNat (file.content.length - 44)

/-- What is known of the audio files of a recording. -/
structure AudioTracked (context : RecordContext) : Prop where
  writerOpen : context.recordWriter.isSome → context.videoFile.isSome
  video : NamedIn context.files context.videoFile (fun name => ∃ segment, name = .video segment)
  logs : LogsNamed context
  closed : ∀ (i : Nat) (file : File), context.files[i]? = some file → file.path.name = .audio →
    context.audioFile ≠ some i → AudioClosed file
  current : ∀ i, context.audioFile = some i → ∃ file, context.files[i]? = some file ∧
    AudioOpen context file

/-- The audio files of a recording are the same. -/
def AudioSame (before after : List File) : Prop :=
  ∀ (i : Nat) (file : File), file.path.name = .audio →
    (after[i]? = some file ↔ before[i]? = some file)

theorem AudioSame.refl (files : List File) : AudioSame files files :=
  fun _ _ _ => Iff.rfl

theorem AudioSame.trans {first second third : List File} (one : AudioSame first second)
    (two : AudioSame second third) : AudioSame first third :=
  fun i file name => (two i file name).trans (one i file name)

theorem FilesBeside.audioSame {before after : List File} (beside : FilesBeside before after) :
    AudioSame before after := by
  intro i file name
  constructor
  · intro found'
    cases found : before[i]? with
    | none =>
      have log := beside.new i file found' found
      rw [name] at log
      cases log
    | some old =>
      obtain ⟨other, foundOther, path, same⟩ := beside.kept i old found
      obtain rfl := Option.some.inj (found'.symm.trans foundOther)
      rw [same (by rw [← path, name]; rfl)]
  · intro found
    obtain ⟨other, found', _, same⟩ := beside.kept i file found
    rw [same (by rw [name]; rfl)] at found'
    exact found'

theorem audioSame_modify {files : List File} {handle : Option Nat} {i : Nat} {change : File → File}
    (video : NamedIn files handle (fun name => ∃ segment, name = .video segment))
    (current : handle = some i) (path : ∀ file, (change file).path = file.path) :
    AudioSame files (files.modify i change) := by
  intro j file name
  rw [List.getElem?_modify]
  by_cases same : i = j
  · subst same
    obtain ⟨segmentFile, found, segment, segmentName⟩ := video i current
    rw [found]
    -- Neither before nor after the change is it an audio file.
    constructor
    · intro changed
      have changed := Option.some.inj changed
      simp only [if_true] at changed
      rw [← changed, path, segmentName] at name
      cases name
    · intro unchanged
      rw [← Option.some.inj unchanged, segmentName] at name
      cases name
  · simp [same]

theorem audioSame_open (files : List File) {new : File} (name : new.path.name ≠ .audio) :
    AudioSame files (files ++ [new]) := by
  intro j file audio
  constructor
  · intro found
    rcases Nat.lt_trichotomy j files.length with small | rfl | large
    · rw [List.getElem?_append_left small] at found
      exact found
    · rw [List.getElem?_concat_length] at found
      rw [← Option.some.inj found] at audio
      exact absurd audio name
    · rw [List.getElem?_eq_none (by simp; omega)] at found
      cases found
  · intro found
    rw [List.getElem?_append_left (List.getElem?_eq_some_iff.mp found).1]
    exact found

theorem openFile_audioSame (context : RecordContext) (segment : UInt32) (content : List UInt8) :
    AudioSame context.files (openFile context (.video segment) content).files :=
  audioSame_open _ nofun

theorem openFile_named (context : RecordContext) (segment : UInt32) (content : List UInt8) :
    NamedIn (openFile context (.video segment) content).files (some (nextFile context))
      (fun name => ∃ segment, name = .video segment) :=
  namedIn_opened _ _ ⟨segment, rfl⟩

theorem AudioTracked.same {before after : RecordContext} (tracked : AudioTracked before)
    (files : AudioSame before.files after.files) (audio : after.audioFile = before.audioFile)
    (bytes : after.recordedAudioBytes = before.recordedAudioBytes)
    (writerOpen : after.recordWriter.isSome → after.videoFile.isSome)
    (video : NamedIn after.files after.videoFile (fun name => ∃ segment, name = .video segment))
    (logs : LogsNamed after) : AudioTracked after where
  writerOpen := writerOpen
  video := video
  logs := logs
  closed := by
    intro i file found name other
    rw [audio] at other
    exact tracked.closed i file ((files i file name).mp found) name other
  current := by
    intro i opened
    rw [audio] at opened
    obtain ⟨file, found, holds⟩ := tracked.current i opened
    refine ⟨file, (files i file holds.name).mpr found, holds.name, holds.notClosed, holds.header, ?_⟩
    rw [bytes]
    exact holds.bytes

theorem AudioTracked.audioFinalized {context : RecordContext} (tracked : AudioTracked context) :
    AudioFinalized context := by
  intro i file found name
  by_cases current : context.audioFile = some i
  · obtain ⟨other, foundOther, holds⟩ := tracked.current i current
    obtain rfl := Option.some.inj (found.symm.trans foundOther)
    exact .inl ⟨holds.notClosed, current⟩
  · exact .inr (tracked.closed i file found name current)

theorem LogStep.tracked {before after : RecordContext} (step : LogStep before after)
    (tracked : AudioTracked before) : AudioTracked after := by
  have core := step.core
  refine tracked.same step.files.audioSame (congrArg RecordCore.audioFile core)
    (congrArg RecordCore.recordedAudioBytes core) ?_ ?_ step.named
  · rw [core]
    exact tracked.writerOpen
  · rw [core]
    refine tracked.video.keeps fun i file found => ?_
    obtain ⟨file', found', path, _⟩ := step.files.kept i file found
    exact ⟨file', found', path⟩

end Finalized

section Writing

/-- A write of audio is whole, or writes nothing. -/
def NotShort (node : WriteNode) (capacity : Option Nat) : Prop :=
  node.stream = .audio → ∀ count, capacity = some count → count = 0 ∨ node.data.length ≤ count

/-- No write of audio is short when some nodes are written. -/
def NoneShort : List WriteNode → List (Option Nat) → Prop
  | node :: nodes, capacity :: capacities => NotShort node capacity ∧ NoneShort nodes capacities
  | _, _ => True

theorem noneShort_nil (nodes : List WriteNode) : NoneShort nodes [] := by
  cases nodes <;> trivial

/-- The nodes that wait to be written. -/
def waitingNodes (context : RecordContext) : List WriteNode :=
  match context.recordWriter with
  | none => []
  | some writer => writer.nodes

theorem NotShort.written {node : WriteNode} {capacity : Option Nat} (whole : NotShort node capacity)
    (audio : node.stream = .audio) :
    fwrite node.data capacity = node.data ∨ fwrite node.data capacity = [] := by
  cases capacity with
  | none => exact .inl rfl
  | some count =>
    rcases whole audio count rfl with rfl | enough
    · exact .inr rfl
    · exact .inl (List.take_of_length_le enough)

theorem audioBytesAfter_eq {bytes : UInt64} {node : WriteNode} {capacity : Option Nat}
    {length : Nat} (whole : NotShort node capacity) (audio : node.stream = .audio)
    (counted : bytes = UInt64.ofNat length) :
    audioBytesAfter bytes node (fwrite node.data capacity).length =
      UInt64.ofNat (length + (fwrite node.data capacity).length) := by
  rcases whole.written audio with all | none
  · rw [all, audioBytesAfter, if_pos ⟨audio, rfl⟩, counted, UInt64.ofNat_add]
  · rw [none, List.length_nil, Nat.add_zero, ← counted, audioBytesAfter]
    split
    · next empty =>
      rw [← empty.2]
      exact UInt64.add_zero bytes
    · rfl

theorem c64RecordWriterThread_tracked {context : RecordContext} (tracked : AudioTracked context)
    {capacity : Option Nat} (whole : ∀ node ∈ (waitingNodes context).head?, NotShort node capacity) :
    AudioTracked (c64RecordWriterThread context capacity) := by
  have step := c64RecordWriterThread_step context capacity
  rcases c64RecordWriterThread_cases context capacity with
    ⟨idle, _⟩ | ⟨writer, node, nodes, next, taken⟩
  · rw [idle]
    exact tracked
  have head : NotShort node capacity := by
    refine whole node ?_
    rw [waitingNodes, taken.running]
    simp only [taken.nodesEq, List.head?_cons]
    rfl
  have logs := tracked.logs.recording step.recording
  have same := step.same
  have writerOpen : (c64RecordWriterThread context capacity).recordWriter.isSome →
      (c64RecordWriterThread context capacity).videoFile.isSome := by
    intro _
    rw [same]
    exact tracked.writerOpen (by rw [taken.running]; rfl)
  have video : NamedIn (c64RecordWriterThread context capacity).files
      (c64RecordWriterThread context capacity).videoFile
      (fun name => ∃ segment, name = .video segment) := by
    have names := tracked.video.keeps step.paths
    rw [same]
    exact names
  rcases taken.result with ⟨_, after⟩ | ⟨file, due, opened, onlyVideo, after⟩
  · refine tracked.same ?_ ?_ ?_ writerOpen video logs <;> rw [after]
    exact .refl _
  cases stream : node.stream with
  | video =>
    rw [stream] at opened
    have appended : AudioSame context.files (appendFile context file
        (fwrite node.data capacity)).files := audioSame_modify tracked.video opened fun _ => rfl
    have bytes : audioBytesAfter context.recordedAudioBytes node
        (fwrite node.data capacity).length = context.recordedAudioBytes := by
      refine if_neg fun audio => ?_
      rw [stream] at audio
      cases audio.1
    refine tracked.same ?_ ?_ ?_ writerOpen video logs
    · rw [after]
      cases due with
      | none => exact appended
      | some count =>
        have named : NamedIn (appendFile context file (fwrite node.data capacity)).files
            context.videoFile (fun name => ∃ segment, name = .video segment) :=
          tracked.video.keeps (keepsPaths_modify _ _ fun _ => rfl)
        exact appended.trans (audioSame_modify named opened fun _ => rfl)
    · rw [after]
      cases due <;> rfl
    · rw [after]
      cases due <;> exact bytes
  | audio =>
    rw [stream] at opened
    obtain rfl : due = none := by
      cases due with
      | none => rfl
      | some count => exact absurd ((onlyVideo rfl).symm.trans stream) nofun
    obtain ⟨old, found, holds⟩ := tracked.current file opened
    refine ⟨writerOpen, video, logs, ?_, ?_⟩
    · rw [after]
      intro i other foundOther name different
      refine tracked.closed i other ?_ name different
      rw [show context.files[i]? = _ from
        (List.getElem?_modify_ne _ context.files
          (fun same : file = i => different (by rw [← same]; exact opened))).symm]
      exact foundOther
    · rw [after]
      intro i current
      obtain rfl : file = i := Option.some.inj (opened.symm.trans current)
      refine ⟨{ old with content := old.content ++ fwrite node.data capacity }, ?_, holds.name,
        holds.notClosed, ?_, ?_⟩
      · refine (List.getElem?_modify_eq _ file context.files).trans ?_
        rw [found]
        rfl
      · rw [List.length_append]
        have header := holds.header
        omega
      · refine (audioBytesAfter_eq head stream holds.bytes).trans (congrArg _ ?_)
        have header := holds.header
        rw [List.length_append]
        omega

theorem drainNodes_tracked {context : RecordContext} (tracked : AudioTracked context)
    {nodes : List WriteNode} (waits : waitingNodes context = nodes)
    {capacities : List (Option Nat)} (whole : NoneShort nodes capacities) :
    AudioTracked (drainNodes context nodes capacities) := by
  induction nodes generalizing context capacities with
  | nil => exact tracked
  | cons node nodes ih =>
    have rest : ∀ capacity, waitingNodes (c64RecordWriterThread context capacity) = nodes := by
      intro capacity
      rcases c64RecordWriterThread_cases context capacity with
        ⟨_, empty⟩ | ⟨writer, node', nodes', next, taken⟩
      · cases running : context.recordWriter with
        | none => rw [waitingNodes, running] at waits; cases waits
        | some writer =>
          rw [waitingNodes, running] at waits
          simp only [empty writer running] at waits
          cases waits
      · have old := waits
        rw [waitingNodes, taken.running] at old
        simp only [taken.nodesEq] at old
        obtain ⟨_, rfl⟩ := List.cons.inj old
        rcases taken.result with ⟨_, after⟩ | ⟨file, due, _, _, after⟩
        · rw [after]
          exact taken.nextNodes
        · rw [after]
          cases due <;> exact taken.nextNodes
    cases capacities with
    | nil =>
      have turn := @c64RecordWriterThread_tracked context tracked none fun _ _ _ => nofun
      exact ih turn (rest none) (noneShort_nil nodes)
    | cons capacity capacities =>
      refine ih (c64RecordWriterThread_tracked tracked fun first member => ?_) (rest capacity)
        whole.2
      rw [waits, List.head?_cons] at member
      obtain rfl := Option.some.inj member
      exact whole.1

theorem c64RecordWriterStop_tracked {context : RecordContext} (tracked : AudioTracked context)
    {capacities : List (Option Nat)} (whole : NoneShort (waitingNodes context) capacities) :
    AudioTracked (c64RecordWriterStop context capacities) := by
  unfold c64RecordWriterStop
  cases running : context.recordWriter with
  | none => exact tracked
  | some writer =>
    have waits : waitingNodes context = writer.nodes := by rw [waitingNodes, running]
    rw [waits] at whole
    have drained := drainNodes_tracked tracked waits whole
    exact ⟨nofun, drained.video, ⟨drained.logs.timing, drained.logs.network, drained.logs.avSync⟩,
      drained.closed, fun i opened =>
        (drained.current i opened).imp fun _ found =>
          ⟨found.1, found.2.name, found.2.notClosed, found.2.header, found.2.bytes⟩⟩

end Writing

section Segments

/-- An operation on the video that leaves the audio file alone. -/
structure VideoStep (before after : RecordContext) : Prop where
  step : RecordingStep before after
  audio : after.audioFile = before.audioFile
  tracked : AudioTracked after

theorem AudioTracked.idle {context : RecordContext} (tracked : AudioTracked context) :
    VideoStep context context :=
  ⟨.refl context, rfl, tracked⟩

theorem closeSegmentIfOpen_videoStep {context : RecordContext} (tracked : AudioTracked context)
    (stopped : context.recordWriter = none) : VideoStep context (closeSegmentIfOpen context) := by
  unfold closeSegmentIfOpen
  cases current : context.videoFile with
  | none => exact tracked.idle
  | some file =>
    have step := closeSegment_recordingStep context file
    have patched : AudioSame context.files (patchFile context file context.aviSegmentFrames).files :=
      audioSame_modify tracked.video current fun _ => rfl
    have named : NamedIn (patchFile context file context.aviSegmentFrames).files context.videoFile
        (fun name => ∃ segment, name = .video segment) :=
      tracked.video.keeps (keepsPaths_modify _ _ fun _ => rfl)
    refine ⟨step, rfl, tracked.same (patched.trans (audioSame_modify named current fun _ => rfl))
      rfl rfl ?_ namedIn_none (tracked.logs.recording step)⟩
    intro running
    rw [show (closeSegment context file).recordWriter = context.recordWriter from rfl, stopped]
      at running
    cases running

theorem openNextSegment_videoStep {context : RecordContext} (tracked : AudioTracked context)
    (width height : UInt32) (fps : ℚ) (env : Environment) :
    VideoStep context (c64VideoOpenNextSegmentLocked context width height fps env).1 ∧
      ((c64VideoOpenNextSegmentLocked context width height fps env).2 = true →
        (c64VideoOpenNextSegmentLocked context width height fps env).1.videoFile.isSome) := by
  unfold c64VideoOpenNextSegmentLocked
  split
  · exact ⟨tracked.idle, nofun⟩
  · simp only
    generalize fwrite _ _ = header
    have step := openFile_recordingStep context (.video context.aviSegmentIndex) header
    have same := openFile_audioSame context context.aviSegmentIndex header
    have named := openFile_named context context.aviSegmentIndex header
    split
    · have closing := fclose_recordingStep
        (openFile context (.video context.aviSegmentIndex) header) (nextFile context)
      refine ⟨⟨step.trans closing, rfl, tracked.same (same.trans (audioSame_modify named rfl
        fun _ => rfl)) rfl rfl tracked.writerOpen ?_ (tracked.logs.recording (step.trans closing))⟩,
        nofun⟩
      exact tracked.video.keeps (step.trans closing).paths
    · refine ⟨⟨⟨step.paths, rfl, rfl, rfl, rfl, rfl, rfl⟩, rfl, tracked.same same rfl rfl
        (fun _ => rfl) named ?_⟩, fun _ => rfl⟩
      have logs := tracked.logs.recording step
      exact ⟨logs.timing, logs.network, logs.avSync⟩

theorem c64RecordWriterStart_videoStep {context : RecordContext} (tracked : AudioTracked context)
    (opened : context.videoFile.isSome) (starts : Bool) :
    VideoStep context (c64RecordWriterStart context starts).1 := by
  unfold c64RecordWriterStart
  split
  · exact tracked.idle
  · split
    · exact ⟨⟨.refl _, rfl, rfl, rfl, rfl, rfl, rfl⟩, rfl, tracked.same (.refl _) rfl rfl
        (fun _ => opened) tracked.video ⟨tracked.logs.timing, tracked.logs.network,
          tracked.logs.avSync⟩⟩
    · exact tracked.idle

theorem AudioTracked.switch {context : RecordContext} (tracked : AudioTracked context)
    (record : Bool) : VideoStep context { context with recordVideo := record } :=
  ⟨⟨.refl _, rfl, rfl, rfl, rfl, rfl, rfl⟩, rfl, tracked.same (.refl _) rfl rfl
    tracked.writerOpen tracked.video ⟨tracked.logs.timing, tracked.logs.network,
      tracked.logs.avSync⟩⟩

theorem rollSegment_tracked {context : RecordContext} (tracked : AudioTracked context)
    {env : Environment} (whole : NoneShort (waitingNodes context) env.nodes) :
    AudioTracked (rollSegment context env).1 := by
  have drained := c64RecordWriterStop_tracked tracked whole
  have stopped := c64RecordWriterStop_stopped context env.nodes
  unfold rollSegment c64VideoRollSegmentLocked c64VideoFinalizeSegmentLocked
  generalize c64RecordWriterStop context env.nodes = writable at drained stopped ⊢
  have closed := (closeSegmentIfOpen_videoStep drained stopped).tracked
  simp only
  generalize closeSegmentIfOpen writable = final at closed ⊢
  split
  · simp only [if_true]
    exact (closed.switch false).tracked
  · have advanced : AudioTracked { final with aviSegmentIndex := final.aviSegmentIndex + 1 } :=
      closed.same (.refl _) rfl rfl closed.writerOpen closed.video
        ⟨closed.logs.timing, closed.logs.network, closed.logs.avSync⟩
    obtain ⟨opened, isOpen⟩ := openNextSegment_videoStep advanced writable.width writable.height
      writable.expectedFps env
    generalize c64VideoOpenNextSegmentLocked _ _ _ _ _ = result at opened isOpen ⊢
    obtain ⟨next, rolled⟩ := result
    cases rolled with
    | false => exact (opened.tracked.switch false).tracked
    | true =>
      have started := c64RecordWriterStart_videoStep opened.tracked (isOpen rfl) env.startsWriter
      simp only [Bool.true_eq_false, if_false]
      generalize c64RecordWriterStart next env.startsWriter = run at started ⊢
      obtain ⟨running, up⟩ := run
      cases up with
      | false => exact (started.tracked.switch false).tracked
      | true => exact started.tracked

theorem AudioTracked.enqueue {context : RecordContext} (tracked : AudioTracked context)
    (stream : WriteStream) (data : List UInt8) (allocates : Bool) :
    AudioTracked (c64RecordWriterEnqueue context stream data allocates).1 := by
  rcases c64RecordWriterEnqueue_cases context stream data allocates with
    failed | ⟨writer, running, _, queued⟩
  · rw [failed]
    exact tracked
  · rw [queued]
    exact tracked.same (.refl _) rfl rfl (fun _ => tracked.writerOpen (by rw [running]; rfl))
      tracked.video ⟨tracked.logs.timing, tracked.logs.network, tracked.logs.avSync⟩

theorem queueFrame_tracked {context : RecordContext} (tracked : AudioTracked context)
    (pixels : List UInt32) (env : Environment) : AudioTracked (queueFrame context pixels env) := by
  unfold queueFrame
  cases context.bgrFrameBuffer with
  | none => exact tracked
  | some buffer =>
    simp only
    generalize overwrite buffer 0 _ = filled
    have buffered : AudioTracked { context with bgrFrameBuffer := some filled } :=
      tracked.same (.refl _) rfl rfl tracked.writerOpen tracked.video
        ⟨tracked.logs.timing, tracked.logs.network, tracked.logs.avSync⟩
    unfold c64RecordWriterEnqueueAviFrame
    have queued := buffered.enqueue .video (aviFrameChunk ((List.range
      (frameBytes context.width context.height).toNat).map fun index => filled.getD index 0))
      env.allocates
    generalize c64RecordWriterEnqueue _ _ _ _ = result at queued ⊢
    obtain ⟨next, accepted⟩ := result
    cases accepted with
    | false => exact queued
    | true =>
      exact queued.same (.refl _) rfl rfl queued.writerOpen queued.video
        ⟨queued.logs.timing, queued.logs.network, queued.logs.avSync⟩

theorem c64VideoRecordFrame_tracked {context : RecordContext} (tracked : AudioTracked context)
    (pixels : List UInt32) {env : Environment}
    (whole : validGeometry context = true → rollsSegment context = true →
      NoneShort (waitingNodes context) env.nodes) :
    AudioTracked (c64VideoRecordFrame context pixels env) := by
  unfold c64VideoRecordFrame
  split
  · exact tracked
  · next valid =>
    split
    · next rolls =>
      have rolled := rollSegment_tracked tracked (whole (by simpa using valid) rolls)
      simp only
      generalize rollSegment context env = result at rolled ⊢
      obtain ⟨next, done⟩ := result
      cases done with
      | false => exact rolled
      | true => exact queueFrame_tracked rolled pixels env
    · exact queueFrame_tracked tracked pixels env

end Segments

section Finalizing

/-- The sizes of the audio file are written when it is closed. -/
structure Environment.Finalizes (env : Environment) : Prop where
  chunkSize : env.writesChunkSize = true
  dataSize : env.writesDataSize = true

theorem finalizeWavHeader_size {content : List UInt8} (header : 44 ≤ content.length)
    {env : Environment} (finalizes : env.Finalizes) (small : content.length - 44 ≤ 2 ^ 32 - 37) :
    read32 ((c64AudioFinalizeWavHeader content (UInt64.ofNat (content.length - 44))
      env).1.drop 40) = content.length - 44 := by
  have bytes : (UInt64.ofNat (content.length - 44)).toNat = content.length - 44 := by
    rw [UInt64.toNat_ofNat', Nat.mod_eq_of_lt]
    omega
  have fits : ¬ UInt64.ofNat (content.length - 44) > 0xFFFFFFFF := by
    rw [gt_iff_lt, UInt64.lt_iff_toNat_lt, bytes]
    simp only [UInt64.reduceToNat]
    omega
  unfold c64AudioFinalizeWavHeader
  simp only [finalizes.chunkSize, finalizes.dataSize, Bool.true_eq_false, if_false, if_neg fits]
  generalize (if UInt64.ofNat (content.length - 44) > 0xFFFFFFFF - 36 then _ else _) = chunkSize
  have length : (overwrite content 4 (le32 chunkSize)).length = content.length :=
    overwrite_length (by rw [le32_length]; omega)
  -- The size of the data stands at offset 40, in front of the data.
  have front : ((overwrite content 4 (le32 chunkSize)).take 40).length = 40 := by
    rw [List.length_take, length]
    omega
  rw [overwrite, List.append_assoc, List.drop_append_of_le_length (by omega),
    List.drop_eq_nil_of_le (by omega), List.nil_append, read32_le32, UInt64.toNat_toUInt32, bytes,
    Nat.mod_eq_of_lt]
  omega

theorem closeAudioIfOpen_tracked {context : RecordContext} (tracked : AudioTracked context)
    {env : Environment} (finalizes : context.audioFile.isSome → env.Finalizes) :
    AudioTracked (closeAudioIfOpen context env) := by
  have step := closeAudioIfOpen_recordingStep context env
  have logs := tracked.logs.recording step
  unfold closeAudioIfOpen at step logs ⊢
  cases current : context.audioFile with
  | none => exact tracked
  | some file =>
    have finalizes := finalizes (by rw [current]; rfl)
    rw [current] at step logs
    obtain ⟨old, found, holds⟩ := tracked.current file current
    refine ⟨tracked.writerOpen, tracked.video.keeps step.paths, logs, ?_, nofun⟩
    intro i other foundOther name _
    by_cases same : file = i
    · subst same
      have closed : (closeAudio context file env).files[file]? = some
          { old with
            content := (c64AudioFinalizeWavHeader old.content context.recordedAudioBytes env).1
            finalized := (c64AudioFinalizeWavHeader old.content context.recordedAudioBytes env).2
            closings := old.closings + 1 } := by
        simp only [closeAudio, fclose, modifyFile, List.getElem?_modify_eq, found]
        rfl
      obtain rfl := Option.some.inj (foundOther.symm.trans closed)
      have data := finalizeWavHeader_data holds.header context.recordedAudioBytes env
      refine ⟨?_, ?_, ?_⟩
      · simp only [holds.notClosed]
      · simp only [c64AudioFinalizeWavHeader, finalizes.chunkSize, finalizes.dataSize,
          Bool.true_eq_false, if_false]
      · simp only [data.2]
        rw [holds.bytes]
        exact finalizeWavHeader_size holds.header finalizes
    · refine tracked.closed i other ?_ name fun held => same (Option.some.inj (current.symm.trans held))
      have unchanged : (closeAudio context file env).files[i]? = context.files[i]? := by
        simp only [closeAudio, fclose, modifyFile]
        rw [List.getElem?_modify_ne _ _ same, List.getElem?_modify_ne _ _ same]
      rw [← unchanged]
      exact foundOther

/-- A start of a recording that opens an audio file succeeds and writes its header. -/
structure Environment.StartsWhole (env : Environment) : Prop where
  video : env.opensAudio = true → env.opensVideo = true
  writer : env.opensAudio = true → env.startsWriter = true
  header : env.opensAudio = true → ∀ count, env.wavHeader = some count → 44 ≤ count

theorem recordingFailed_tracked {context : RecordContext} (tracked : AudioTracked context)
    (stopped : context.recordWriter = none) (silent : context.audioFile = none) :
    AudioTracked (recordingFailed context) := by
  refine tracked.same (.refl _) silent.symm rfl ?_ namedIn_none
    ⟨tracked.logs.timing, tracked.logs.network, tracked.logs.avSync⟩
  intro running
  rw [show (recordingFailed context).recordWriter = context.recordWriter from rfl, stopped]
    at running
  cases running

theorem openRecording_tracked {context : RecordContext} (tracked : AudioTracked context)
    (closed : context.videoFile = none) (silent : context.audioFile = none) {env : Environment}
    (whole : env.StartsWhole) : AudioTracked (openRecording context env).1 := by
  have stopped : context.recordWriter = none := by
    by_contra running
    have opened := tracked.writerOpen (Option.isSome_iff_ne_none.mpr running)
    rw [closed] at opened
    cases opened
  unfold openRecording
  simp only
  split
  · next noVideo =>
    rw [if_pos (by
      by_contra audio
      have video := whole.video (by simpa using audio)
      rw [noVideo] at video
      cases video)]
    exact recordingFailed_tracked tracked stopped silent
  · split
    · -- The video alone is closed again.
      have step := (openFile_recordingStep context (.video 0) []).trans
        (fclose_recordingStep _ (nextFile context))
      have opened := openFile_audioSame context 0 []
      have named := openFile_named context 0 []
      have tried : AudioTracked (fclose (openFile context (.video 0) []) (nextFile context)) :=
        tracked.same (opened.trans (audioSame_modify named rfl fun _ => rfl)) rfl rfl
          tracked.writerOpen (tracked.video.keeps step.paths) (tracked.logs.recording step)
      exact recordingFailed_tracked tried stopped silent
    · next audio =>
      have opensAudio : env.opensAudio = true := by simpa using audio
      have header : (fwrite (c64AudioWriteWavHeader (truncateToUint32
          (context.audioSampleRate + 1 / 2)) 2 16) env.wavHeader).length = 44 := by
        have length := writeWavHeader_length (truncateToUint32 (context.audioSampleRate + 1 / 2))
          2 16
        cases written : env.wavHeader with
        | none => exact length
        | some count =>
          have enough := whole.header opensAudio count written
          rw [fwrite, List.take_of_length_le (by omega), length]
      generalize fwrite (c64AudioWriteWavHeader _ _ _) _ = wavHeader at header ⊢
      generalize fwrite (c64VideoWriteAviHeader _ _ _) _ = aviHeader
      have step := recordingOpened_recordingStep context aviHeader wavHeader
      have logs := tracked.logs.recording step
      simp only [whole.writer opensAudio, c64RecordWriterStart_stopped
        (show (recordingOpened context aviHeader wavHeader).recordWriter = none from stopped),
        if_true]
      have videoNamed := openFile_named context 0 aviHeader
      refine ⟨fun _ => rfl, videoNamed.keeps (keepsPaths_open _ _),
        ⟨logs.timing, logs.network, logs.avSync⟩, ?_, ?_⟩
      · intro i file found name other
        have different : i ≠ nextFile (openFile context (.video 0) aviHeader) := by
          rintro rfl
          exact other rfl
        refine tracked.closed i file ?_ name (by rw [silent]; rintro ⟨⟩)
        rcases Nat.lt_or_ge i (openFile context (.video 0) aviHeader).files.length with
          small | large
        · refine (openFile_audioSame context 0 aviHeader i file name).mp ?_
          exact (List.getElem?_append_left small).symm.trans found
        · have none : (recordingOpened context aviHeader wavHeader).files[i]? = none := by
            refine List.getElem?_eq_none ?_
            have length : (recordingOpened context aviHeader wavHeader).files.length =
                (openFile context (.video 0) aviHeader).files.length + 1 := List.length_append ..
            have next : nextFile (openFile context (.video 0) aviHeader) =
                (openFile context (.video 0) aviHeader).files.length := rfl
            omega
          exact absurd (found.symm.trans none) (Option.some_ne_none _)
      · intro i opened
        obtain rfl := Option.some.inj opened
        refine ⟨_, List.getElem?_concat_length, rfl, rfl, ?_, ?_⟩
        · rw [header]
        · rw [header]
          rfl

end Finalizing

section Settings

theorem c64StartVideoRecording_tracked {context : RecordContext} (tracked : AudioTracked context)
    {env : Environment}
    (starts : context.videoFile = none → context.audioFile = none ∧ env.StartsWhole) :
    AudioTracked (c64StartVideoRecording context env).1 := by
  unfold c64StartVideoRecording
  split
  · exact tracked
  next off =>
  have closed : context.videoFile = none := by simpa using (not_or.mp off).2
  obtain ⟨silent, whole⟩ := starts closed
  have session := c64SessionEnsureExists_logStep tracked.logs env.makesFolder
  simp only
  generalize c64SessionEnsureExists context env.makesFolder = next at session ⊢
  split
  · exact session.tracked tracked
  · have logs : LogStep next (if next.recordCsv then
        c64StartNetworkCsvRecording (c64StartObsCsvRecording next env) env else next) := by
      split
      · exact startLogs_logStep session.named env
      · exact .idle session.named rfl rfl rfl rfl rfl rfl
    generalize (if next.recordCsv then
      c64StartNetworkCsvRecording (c64StartObsCsvRecording next env) env else next) = logged
      at logs ⊢
    have both := session.trans logs
    refine openRecording_tracked (both.tracked tracked) ?_ ?_ whole
    · rw [both.core]
      exact closed
    · rw [both.core]
      exact silent

theorem c64StopVideoRecording_tracked {context : RecordContext} (tracked : AudioTracked context)
    {env : Environment}
    (stops : context.videoFile.isSome → NoneShort (waitingNodes context) env.nodes ∧
      (context.audioFile.isSome → env.Finalizes)) :
    AudioTracked (c64StopVideoRecording context env) := by
  unfold c64StopVideoRecording
  split
  · exact tracked
  next opened =>
  obtain ⟨whole, finalizes⟩ := stops (by simpa [Option.isSome_iff_ne_none] using opened)
  have drained := c64RecordWriterStop_tracked tracked whole
  have same : (c64RecordWriterStop context env.nodes).audioFile = context.audioFile := by
    rw [(c64RecordWriterStop_step context env.nodes).same]
  have stopped := c64RecordWriterStop_stopped context env.nodes
  simp only
  generalize c64RecordWriterStop context env.nodes = next at drained same stopped ⊢
  have video : VideoStep next (c64VideoStopRecording next env) := by
    unfold c64VideoStopRecording
    split
    · exact drained.idle
    · rw [c64RecordWriterStop, stopped]
      exact closeSegmentIfOpen_videoStep drained stopped
  refine closeAudioIfOpen_tracked video.tracked ?_
  rw [video.audio, same]
  exact finalizes

theorem c64RecordCleanup_tracked {context : RecordContext} (tracked : AudioTracked context)
    {env : Environment} (whole : NoneShort (waitingNodes context) env.nodes)
    (finalizes : context.audioFile.isSome → env.Finalizes) :
    AudioTracked (c64RecordCleanup context env) := by
  have drained := c64RecordWriterStop_tracked tracked whole
  have same : (c64RecordWriterStop context env.nodes).audioFile = context.audioFile := by
    rw [(c64RecordWriterStop_step context env.nodes).same]
  have stopped := c64RecordWriterStop_stopped context env.nodes
  unfold c64RecordCleanup
  simp only
  generalize c64RecordWriterStop context env.nodes = next at drained same stopped ⊢
  have video := closeSegmentIfOpen_videoStep drained stopped
  have audio : AudioTracked (closeAudioIfOpen (closeSegmentIfOpen next) env) := by
    refine closeAudioIfOpen_tracked video.tracked ?_
    rw [video.audio, same]
    exact finalizes
  exact (stopLogs_logStep audio.logs).tracked audio

theorem updateRecordVideo_tracked {context : RecordContext} (tracked : AudioTracked context)
    {record : Bool} {env : Environment}
    (starts : record = true → context.recordVideo = false → context.videoFile = none →
      context.audioFile = none ∧ env.StartsWhole)
    (stops : record = false → context.recordVideo = true → context.videoFile.isSome →
      NoneShort (waitingNodes context) env.nodes ∧ (context.audioFile.isSome → env.Finalizes)) :
    AudioTracked (updateRecordVideo context record env) := by
  unfold updateRecordVideo
  split
  · exact tracked
  next changes =>
  have switched := (tracked.switch record).tracked
  simp only
  split
  · next on =>
    have off : context.recordVideo = false := by
      rw [on] at changes
      simpa using Ne.symm changes
    have started := c64StartVideoRecording_tracked switched (starts on off)
    generalize c64StartVideoRecording { context with recordVideo := record } env = result
      at started ⊢
    obtain ⟨next, done⟩ := result
    cases done with
    | true => exact started
    | false =>
      have given := (started.switch false).tracked
      exact (c64SessionCleanupIfNeeded_logStep given.logs).tracked given
  · next off =>
    have off : record = false := by simpa using off
    have on : context.recordVideo = true := by
      rw [off] at changes
      simpa using Ne.symm changes
    have stopped := c64StopVideoRecording_tracked switched (stops off on)
    exact (c64SessionCleanupIfNeeded_logStep stopped.logs).tracked stopped

/-- When a step keeps the audio files: no write of audio is short, a recording is started only
when no audio file is open and its files open whole, and an audio file that is closed can be
finalised. -/
def KeepsAudio (system : RecordSystem) : RecordOp → Prop
  | .recordFrame _ env =>
    system.pending = some .video → validGeometry system.context = true →
      rollsSegment system.context = true → NoneShort (waitingNodes system.context) env.nodes
  | .write capacity => ∀ node ∈ (waitingNodes system.context).head?, NotShort node capacity
  | .updateSettings settings _ _ video =>
    (settings.recordVideo = true → system.context.recordVideo = false →
      system.context.videoFile = none → system.context.audioFile = none ∧ video.StartsWhole) ∧
    (settings.recordVideo = false → system.context.recordVideo = true →
      system.context.videoFile.isSome → NoneShort (waitingNodes system.context) video.nodes ∧
        (system.context.audioFile.isSome → video.Finalizes))
  | .cleanup env =>
    NoneShort (waitingNodes system.context) env.nodes ∧
      (system.context.audioFile.isSome → env.Finalizes)
  | _ => True

theorem recordStep_tracked {system : RecordSystem} (tracked : AudioTracked system.context)
    {op : RecordOp} (keeps : KeepsAudio system op) :
    AudioTracked (recordStep system op).context := by
  cases op with
  | setFormat width height fps =>
    exact tracked.same (.refl _) rfl rfl tracked.writerOpen tracked.video
      ⟨tracked.logs.timing, tracked.logs.network, tracked.logs.avSync⟩
  | saveFrame env => exact (c64FramesSaveAsBmp_logStep tracked.logs env).tracked tracked
  | checkFrame =>
    rw [recordStep]
    split <;> exact tracked
  | recordFrame pixels env =>
    rw [recordStep]
    split
    · next pending => exact c64VideoRecordFrame_tracked tracked pixels (keeps pending)
    · exact tracked
  | checkAudio =>
    rw [recordStep]
    split <;> exact tracked
  | recordAudio data env =>
    rw [recordStep]
    split
    · have queued := tracked.enqueue .audio data env.allocates
      unfold c64AudioRecordData
      generalize c64RecordWriterEnqueue _ _ _ _ = result at queued ⊢
      obtain ⟨next, accepted⟩ := result
      cases accepted with
      | false => exact queued
      | true =>
        exact queued.same (.refl _) rfl rfl queued.writerOpen queued.video
          ⟨queued.logs.timing, queued.logs.network, queued.logs.avSync⟩
    · exact tracked
  | write capacity => exact c64RecordWriterThread_tracked tracked keeps
  | updateSettings settings csv avSync video =>
    -- The logs come first, and leave the recording as it was.
    have frames := updateRecordFrames_logStep tracked.logs settings.recordFrames
    have logs := updateRecordCsv_logStep frames.named settings.recordCsv csv
    have synced := updateRecordAvSync_logStep logs.named settings.recordAvSync avSync
    have before := (frames.trans logs).trans synced
    obtain ⟨starts, stops⟩ := keeps
    refine updateRecordVideo_tracked (before.tracked tracked) ?_ ?_
    · unfold waitingNodes at *
      rw [before.core, before.video]
      exact starts
    · unfold waitingNodes at *
      rw [before.core, before.video]
      exact stops
  | cleanup env => exact c64RecordCleanup_tracked tracked keeps.1 keeps.2

/-- In every recording whose steps keep the audio files, every audio file is open and held until it
was finalised with its true size, and is closed once. -/
theorem recording_audioFinalized (width height : UInt32) (fps sampleRate : ℚ)
    (buffer : Option (List UInt8)) (ops : List RecordOp)
    (keeps : EachStep recordStep KeepsAudio
      ⟨c64RecordInit width height fps sampleRate buffer, none⟩ ops) :
    Always recordStep (fun system => AudioFinalized system.context)
      ⟨c64RecordInit width height fps sampleRate buffer, none⟩ ops := by
  have start : AudioTracked (c64RecordInit width height fps sampleRate buffer) :=
    ⟨nofun, namedIn_none, ⟨namedIn_none, namedIn_none, namedIn_none⟩, nofun, nofun⟩
  have tracked := @always_of_eachStep _ _ recordStep (fun system => AudioTracked system.context)
    KeepsAudio (fun _ _ tracked keeps => recordStep_tracked tracked keeps) _ ops keeps start
  exact tracked.imp fun _ tracked => tracked.audioFinalized

/-- The audio files of a short recording, whose video has two formats, are finalised. -/
theorem shortRecording_audioFinalized :
    Always recordStep (fun system => AudioFinalized system.context)
      ⟨c64RecordInit 1 1 50 48000 (some []), none⟩ shortRecording :=
  recording_audioFinalized 1 1 50 48000 (some []) shortRecording
    ⟨⟨fun _ _ _ => ⟨rfl, fun _ => rfl, fun _ => rfl, fun _ => nofun⟩, nofun⟩, trivial,
      fun _ _ _ => noneShort_nil _, trivial, trivial, fun _ _ _ => noneShort_nil _, trivial,
      trivial, fun _ _ _ => nofun, ⟨nofun, fun _ _ _ => ⟨noneShort_nil _, fun _ => ⟨rfl, rfl⟩⟩⟩,
      trivial⟩

/-- A recording whose next segment cannot be opened, and that is started again. -/
def failedRoll : List RecordOp :=
  [.updateSettings ⟨false, false, false, true⟩ .working .working .working,
    .setFormat 1 2 60, .checkFrame,
    .recordFrame [0xFF112233, 0xFF445566] { Environment.working with opensVideo := false },
    .updateSettings ⟨false, false, false, true⟩ .working .working .working]

/-- Its first audio file is given up without being finalised or closed. -/
theorem failedRoll_not_audioFinalized :
    ¬ Always recordStep (fun system => AudioFinalized system.context)
      ⟨c64RecordInit 1 1 50 48000 (some []), none⟩ failedRoll := by
  intro always
  have last := always.last
  have abandoned : ((failedRoll.foldl recordStep
      ⟨c64RecordInit 1 1 50 48000 (some []), none⟩).context.files[1]?.map fun file =>
        (file.path.name, file.closings)) = some (.audio, 0) := by decide +kernel
  have replaced : (failedRoll.foldl recordStep
      ⟨c64RecordInit 1 1 50 48000 (some []), none⟩).context.audioFile = some 3 := by
    decide +kernel
  obtain ⟨file, found, fields⟩ := Option.map_eq_some_iff.mp abandoned
  obtain ⟨name, closings⟩ := Prod.mk.inj fields
  rcases last 1 file found name with ⟨_, held⟩ | closed
  · rw [replaced] at held
    cases held
  · rw [closed.once] at closings
    cases closings

end Settings

end C64Stream
