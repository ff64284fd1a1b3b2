import C64Stream.Lib.Run
import C64Stream.Record.Accounting

/-! Packets, the writer thread and the settings, in any order. -/

namespace C64Stream

section Audio

theorem overwrite_drop {content bytes : List UInt8} {offset count : Nat}
    (before : offset + bytes.length ≤ count) (inside : offset + bytes.length ≤ content.length) :
    (overwrite content offset bytes).drop count = content.drop count := by
  unfold overwrite
  rw [List.append_assoc, List.drop_append, List.drop_append, List.drop_drop,
    List.drop_eq_nil_of_le (by rw [List.length_take]; omega),
    List.drop_eq_nil_of_le (by rw [List.length_take]; omega), List.length_take,
    Nat.min_eq_left (by omega)]
  simp only [List.nil_append]
  congr 1
  omega

theorem finalizeWavHeader_data {content : List UInt8} (header : 44 ≤ content.length)
    (dataSize : UInt64) (env : Environment) :
    (c64AudioFinalizeWavHeader content dataSize env).1.drop 44 = content.drop 44 ∧
      (c64AudioFinalizeWavHeader content dataSize env).1.length = content.length := by
  unfold c64AudioFinalizeWavHeader
  simp only
  generalize (if dataSize > 0xFFFFFFFF then 0xFFFFFFFF else dataSize.toUInt32) = size
  generalize (if dataSize > 0xFFFFFFFF - 36 then 0xFFFFFFFF else size + 36) = chunkSize
  have length : (overwrite content 4 (le32 chunkSize)).length = content.length :=
    overwrite_length (by rw [le32_length]; omega)
  have data : (overwrite content 4 (le32 chunkSize)).drop 44 = content.drop 44 :=
    overwrite_drop (by rw [le32_length]; omega) (by rw [le32_length]; omega)
  split
  · exact ⟨rfl, rfl⟩
  · split
    · exact ⟨data, length⟩
    · refine ⟨?_, ?_⟩
      · rw [overwrite_drop (by rw [le32_length]) (by rw [le32_length, length]; omega), data]
      · rw [overwrite_length (by rw [le32_length, length]; omega), length]

theorem Accounted.rewriteAudio {core : RecordCore} {files : List (FileName × List UInt8)}
    (account : Accounted core files) {file : Nat} (current : core.audioFile = some file)
    {change : List UInt8 → List UInt8}
    (data : ∀ content, 44 ≤ content.length →
      (change content).drop 44 = content.drop 44 ∧ (change content).length = content.length) :
    Accounted core (rewriteAt files file change) := by
  obtain ⟨content, found, header⟩ := account.audioFile file current
  have notVideo : ∀ i segment content, files[i]? = some (.video segment, content) → file ≠ i := by
    rintro i segment content video rfl
    rw [found] at video
    cases video
  refine ⟨account.writerOpen, account.counted, account.noAudio, ?_, ?_, ?_, ?_, ?_, ?_, ?_⟩
  · rw [rewriteAt_length]
    exact account.frameFile
  · rw [rewriteAt_length]
    exact account.packetFile
  · intro i opened
    obtain rfl := Option.some.inj (current.symm.trans opened)
    refine ⟨_, rewriteAt_same found change, ?_⟩
    rw [(data content header).2]
    exact header
  · intro i content' audio
    rcases rewriteAt_cases audio with ⟨rfl, old, before, rfl⟩ | ⟨_, before⟩
    · obtain ⟨_, rfl⟩ := Prod.mk.inj (Option.some.inj (before.symm.trans found))
      rw [(data old header).1]
      exact account.audio file old before
    · exact account.audio i content' before
  · intro i opened
    obtain ⟨segment, content, video, frames⟩ := account.videoFile i opened
    exact ⟨segment, content, by rw [rewriteAt_other _ (notVideo _ _ _ video), video], frames⟩
  · intro i segment content' video
    rcases rewriteAt_cases video with ⟨rfl, old, before, rfl⟩ | ⟨_, before⟩
    · exact absurd rfl (notVideo _ _ _ before)
    · exact account.video i segment content' before
  · intro segment member
    obtain ⟨notCurrent, name, content, video, closed⟩ := account.closed segment member
    exact ⟨notCurrent, name, content, by rw [rewriteAt_other _ (notVideo _ _ _ video), video],
      closed⟩

theorem Accounted.closeAudio {core : RecordCore} {files : List (FileName × List UInt8)}
    (account : Accounted core files) (stopped : core.recordWriter = none) :
    Accounted { core with audioFile := none } files := by
  have idle : ∀ stream i, waitingFor { core with audioFile := none } stream i =
      waitingFor core stream i := by
    intro stream i
    rw [waitingFor_stopped stopped, waitingFor_stopped]
    exact stopped
  refine ⟨account.writerOpen, account.counted, fun _ => ?_, account.frameFile,
    account.packetFile, nofun, ?_, ?_, ?_, account.closed⟩
  · rw [waiting, stopped]
  · intro i content found
    rw [idle]
    exact account.audio i content found
  · intro i opened
    rw [idle]
    exact account.videoFile i opened
  · intro i segment content found
    rw [idle]
    exact account.video i segment content found

theorem closeAudioIfOpen_accounted {context : RecordContext} (account : context.IsAccounted)
    (stopped : context.recordWriter = none) (env : Environment) :
    (closeAudioIfOpen context env).IsAccounted := by
  unfold closeAudioIfOpen
  cases current : context.audioFile with
  | none => exact account
  | some file =>
    have rewritten := account.rewriteAudio current fun content header =>
      finalizeWavHeader_data header context.recordedAudioBytes env
    have files : contents (closeAudio context file env).files = rewriteAt (contents context.files)
        file fun content => (c64AudioFinalizeWavHeader content context.recordedAudioBytes env).1 := by
      refine (contents_fclose _ file).trans ?_
      exact @contents_modify context.files file
        (fun file => { file with
          content := (c64AudioFinalizeWavHeader file.content context.recordedAudioBytes env).1
          finalized := (c64AudioFinalizeWavHeader file.content context.recordedAudioBytes env).2 })
        (fun content => (c64AudioFinalizeWavHeader content context.recordedAudioBytes env).1)
        (fun _ => rfl) (fun _ => rfl)
    rw [RecordContext.IsAccounted, files]
    exact rewritten.closeAudio stopped

theorem closeAudioIfOpen_recordingStep (context : RecordContext) (env : Environment) :
    RecordingStep context (closeAudioIfOpen context env) := by
  unfold closeAudioIfOpen
  cases context.audioFile with
  | none => exact .refl context
  | some file =>
    have finalized := @keepsPaths_modify context.files file
      (fun file => { file with
        content := (c64AudioFinalizeWavHeader file.content context.recordedAudioBytes env).1
        finalized := (c64AudioFinalizeWavHeader file.content context.recordedAudioBytes env).2 })
      fun _ => rfl
    exact ⟨finalized.trans (keepsPaths_modify _ _ fun _ => rfl), rfl, rfl, rfl, rfl, rfl, rfl⟩

end Audio

section Video

variable {context : RecordContext} {env : Environment}

theorem closeSegment_accounted (account : context.IsAccounted)
    (stopped : context.recordWriter = none) {file : Nat} (current : context.videoFile = some file) :
    (closeSegment context file).IsAccounted := by
  have files : contents (closeSegment context file).files = rewriteAt (contents context.files) file
      fun content => (c64AviPatchHeaderInplace content context.aviSegmentFrames).1 :=
    (contents_fclose _ file).trans (contents_patchFile context file _)
  rw [RecordContext.IsAccounted, files]
  exact (account.patch current _).closeSegment stopped current

theorem closeSegment_recordingStep (context : RecordContext) (file : Nat) :
    RecordingStep context (closeSegment context file) := by
  have patched := @keepsPaths_modify context.files file
    (fun file => { file with
      content := (c64AviPatchHeaderInplace file.content context.aviSegmentFrames).1 }) fun _ => rfl
  exact ⟨patched.trans (keepsPaths_modify _ _ fun _ => rfl), rfl, rfl, rfl, rfl, rfl, rfl⟩

theorem contents_openFile (context : RecordContext) (name : FileName) (content : List UInt8) :
    contents (openFile context name content).files = contents context.files ++ [(name, content)] := by
  simp [contents, openFile]

theorem nextFile_eq (context : RecordContext) : nextFile context = (contents context.files).length := by
  rw [nextFile, contents, List.length_map]

/-- How a segment is opened: the account is kept, and a segment that was opened is new. -/
structure SegmentOpened (before : RecordContext) (result : RecordContext × Bool) : Prop where
  account : result.1.IsAccounted
  step : RecordingStep before result.1
  stopped : result.1.recordWriter = none
  fresh : result.2 = true → result.1.aviSegmentWidth = before.width ∧
    result.1.aviSegmentHeight = before.height ∧ result.1.aviSegmentFps = before.expectedFps ∧
    result.1.aviSegmentFrames = 0 ∧ result.1.videoFile.isSome

theorem openNextSegment_opened (account : context.IsAccounted)
    (stopped : context.recordWriter = none) (header : env.aviHeader = none) :
    SegmentOpened context (c64VideoOpenNextSegmentLocked context context.width context.height
      context.expectedFps env) := by
  unfold c64VideoOpenNextSegmentLocked
  split
  · exact ⟨account, .refl context, stopped, nofun⟩
  · simp only [header, fwrite]
    have holds := framesIn_header context.width context.height context.expectedFps
    have unused := @Accounted.openUnused _ _ account (.video context.aviSegmentIndex)
      (c64VideoWriteAviHeader context.width context.height context.expectedFps) nofun
      fun _ _ => .inr ⟨_, _, _, holds⟩
    rw [← contents_openFile] at unused
    split
    · refine ⟨?_, (openFile_recordingStep context _ _).trans (fclose_recordingStep _ _), stopped,
        nofun⟩
      rw [RecordContext.IsAccounted, contents_fclose]
      exact unused
    · refine ⟨?_, ?_, stopped, fun _ => ⟨rfl, rfl, rfl, rfl, rfl⟩⟩
      · rw [RecordContext.IsAccounted, writeAviHeader_length]
        have found : (contents (openFile context (.video context.aviSegmentIndex)
            (c64VideoWriteAviHeader context.width context.height
              context.expectedFps)).files)[nextFile context]? = some (.video context.aviSegmentIndex,
            c64VideoWriteAviHeader context.width context.height context.expectedFps) := by
          rw [contents_openFile, nextFile_eq, List.getElem?_concat_length]
        refine unused.openSegment stopped found ?_ holds ?_
        · rw [nextFile_eq]
          exact account.framesOf_new
        · intro closed member same
          have before := account.closed_lt member
          rw [same, nextFile_eq] at before
          exact absurd before (Nat.lt_irrefl _)
      · have opened := openFile_recordingStep context (.video context.aviSegmentIndex)
          (c64VideoWriteAviHeader context.width context.height context.expectedFps)
        exact ⟨opened.paths, rfl, rfl, rfl, rfl, rfl, rfl⟩

theorem c64RecordWriterStart_accounted (account : context.IsAccounted)
    (opened : context.videoFile.isSome) (starts : Bool) :
    (c64RecordWriterStart context starts).1.IsAccounted := by
  unfold c64RecordWriterStart
  split
  · exact account
  · next stopped =>
    have stopped : context.recordWriter = none := by simpa using stopped
    split
    · have idle : ∀ stream i, waitingFor { context.toRecordCore with
          recordWriter := some ⟨[], 0, 0⟩ } stream i = waitingFor context.toRecordCore stream i := by
        intro stream i
        rw [waitingFor_stopped stopped]
        simp [waitingFor, waiting]
      refine ⟨fun _ => opened, ?_, fun _ => rfl, account.frameFile, account.packetFile,
        account.audioFile, ?_, ?_, ?_, account.closed⟩
      · intro writer some
        obtain rfl := Option.some.inj some
        exact ⟨rfl, Nat.zero_le _⟩
      · intro i content found
        exact (idle .audio i).symm ▸ account.audio i content found
      · intro i current
        exact (idle .video i).symm ▸ account.videoFile i current
      · intro i segment content found
        exact (idle .video i).symm ▸ account.video i segment content found
    · exact account

theorem c64RecordWriterStart_recordingStep (context : RecordContext) (starts : Bool) :
    RecordingStep context (c64RecordWriterStart context starts).1 := by
  unfold c64RecordWriterStart
  split
  · exact .refl context
  · split <;> exact ⟨.refl _, rfl, rfl, rfl, rfl, rfl, rfl⟩

/-- What is written whole. -/
structure Environment.WritesAll (env : Environment) : Prop where
  nodes : ∀ capacity ∈ env.nodes, capacity = none
  aviHeader : env.aviHeader = none
  wavHeader : env.wavHeader = none

/-- How a recording goes on with a new segment. -/
structure SegmentRolled (before : RecordContext) (result : RecordContext × Bool) : Prop where
  account : result.1.IsAccounted
  step : RecordingStep before result.1
  fresh : result.2 = true → result.1.aviSegmentWidth = before.width ∧
    result.1.aviSegmentHeight = before.height ∧ result.1.aviSegmentFps = before.expectedFps ∧
    result.1.aviSegmentFrames = 0

theorem closeSegmentIfOpen_accounted (account : context.IsAccounted)
    (stopped : context.recordWriter = none) :
    (closeSegmentIfOpen context).IsAccounted ∧ RecordingStep context (closeSegmentIfOpen context) ∧
      (closeSegmentIfOpen context).recordWriter = none := by
  unfold closeSegmentIfOpen
  cases current : context.videoFile with
  | none => exact ⟨account, .refl context, stopped⟩
  | some file =>
    exact ⟨closeSegment_accounted account stopped current, closeSegment_recordingStep context file,
      stopped⟩

theorem rollSegment_rolled (account : context.IsAccounted) (writes : env.WritesAll) :
    SegmentRolled context (rollSegment context env) := by
  have drained := c64RecordWriterStop_accounted account writes.nodes
  have drainStep := (c64RecordWriterStop_step context env.nodes).recording
  have stopped := c64RecordWriterStop_stopped context env.nodes
  unfold rollSegment c64VideoRollSegmentLocked c64VideoFinalizeSegmentLocked
  generalize c64RecordWriterStop context env.nodes = writable at drained drainStep stopped ⊢
  obtain ⟨finalized, finalStep, stopped⟩ := closeSegmentIfOpen_accounted drained stopped
  simp only
  generalize closeSegmentIfOpen writable = closed at finalized finalStep stopped ⊢
  generalize (writable.videoFile.isNone || env.closes) = done
  have step := drainStep.trans finalStep
  cases done with
  | false => exact ⟨finalized, ⟨step.paths, step.timing, step.network, step.avSync, step.width,
      step.height, step.fps⟩, nofun⟩
  | true =>
    -- The new segment has the format of the frame, which nothing before has changed.
    have format : writable.width = closed.width ∧ writable.height = closed.height ∧
        writable.expectedFps = closed.expectedFps :=
      ⟨finalStep.width.symm, finalStep.height.symm, finalStep.fps.symm⟩
    simp only [Bool.true_eq_false, if_false]
    rw [format.1, format.2.1, format.2.2]
    have advanced : RecordContext.IsAccounted
        { closed with aviSegmentIndex := closed.aviSegmentIndex + 1 } :=
      Accounted.segmentIndex finalized _
    have opened := openNextSegment_opened advanced stopped writes.aviHeader
    simp only at opened
    generalize c64VideoOpenNextSegmentLocked _ _ _ _ _ = result at opened ⊢
    obtain ⟨next, rolled⟩ := result
    have indexStep : RecordingStep closed
        { closed with aviSegmentIndex := closed.aviSegmentIndex + 1 } :=
      ⟨.refl _, rfl, rfl, rfl, rfl, rfl, rfl⟩
    have step := step.trans (indexStep.trans opened.step)
    cases rolled with
    | false =>
      exact ⟨opened.account, ⟨step.paths, step.timing, step.network, step.avSync, step.width,
        step.height, step.fps⟩, nofun⟩
    | true =>
      obtain ⟨width, height, fps, frames, current⟩ := opened.fresh rfl
      have started := c64RecordWriterStart_accounted opened.account current env.startsWriter
      have startStep := c64RecordWriterStart_recordingStep next env.startsWriter
      have same : (c64RecordWriterStart next env.startsWriter).1.aviSegmentWidth =
          next.aviSegmentWidth ∧ (c64RecordWriterStart next env.startsWriter).1.aviSegmentHeight =
          next.aviSegmentHeight ∧ (c64RecordWriterStart next env.startsWriter).1.aviSegmentFps =
          next.aviSegmentFps ∧ (c64RecordWriterStart next env.startsWriter).1.aviSegmentFrames =
          next.aviSegmentFrames := by
        unfold c64RecordWriterStart
        split
        · exact ⟨rfl, rfl, rfl, rfl⟩
        · split <;> exact ⟨rfl, rfl, rfl, rfl⟩
      simp only [Bool.true_eq_false, if_false]
      generalize c64RecordWriterStart next env.startsWriter = run at started startStep same ⊢
      obtain ⟨running, up⟩ := run
      have step := step.trans startStep
      cases up with
      | false =>
        exact ⟨started, ⟨step.paths, step.timing, step.network, step.avSync, step.width,
          step.height, step.fps⟩, nofun⟩
      | true =>
        refine ⟨started, step, fun _ => ⟨?_, ?_, ?_, ?_⟩⟩
        · exact same.1.trans (width.trans (finalStep.width.trans drainStep.width))
        · exact same.2.1.trans (height.trans (finalStep.height.trans drainStep.height))
        · exact same.2.2.1.trans (fps.trans (finalStep.fps.trans drainStep.fps))
        · exact same.2.2.2.trans frames

theorem queueFrame_recordingStep (context : RecordContext) (pixels : List UInt32)
    (env : Environment) : RecordingStep context (queueFrame context pixels env) := by
  unfold queueFrame
  cases context.bgrFrameBuffer with
  | none => exact .refl context
  | some buffer =>
    simp only
    generalize overwrite buffer 0 _ = filled
    unfold c64RecordWriterEnqueueAviFrame
    rcases c64RecordWriterEnqueue_cases { context with bgrFrameBuffer := some filled } .video
        (aviFrameChunk ((List.range (frameBytes context.width context.height).toNat).map
          fun index => filled.getD index 0)) env.allocates with
      failed | ⟨writer, _, _, queued⟩
    · rw [failed]
      exact ⟨.refl _, rfl, rfl, rfl, rfl, rfl, rfl⟩
    · rw [queued]
      exact ⟨.refl _, rfl, rfl, rfl, rfl, rfl, rfl⟩

theorem c64VideoRecordFrame_accounted (account : context.IsAccounted) (pixels : List UInt32)
    (writes : env.WritesAll) :
    (c64VideoRecordFrame context pixels env).IsAccounted ∧
      RecordingStep context (c64VideoRecordFrame context pixels env) := by
  unfold c64VideoRecordFrame
  split
  · exact ⟨account, .refl context⟩
  next valid =>
  have fits : frameBytes context.width context.height ≤ 0xFFFFFFFF := by
    rw [validGeometry] at valid
    simp only [Bool.not_eq_false, Bool.and_eq_true, decide_eq_true_eq] at valid
    exact valid.2
  split
  · -- A new segment has the format of the frame and holds none.
    have rolled := rollSegment_rolled account writes
    simp only
    generalize rollSegment context env = result at rolled ⊢
    obtain ⟨next, done⟩ := result
    cases done with
    | false => exact ⟨rolled.account, rolled.step⟩
    | true =>
      obtain ⟨width, height, fps, frames⟩ := rolled.fresh rfl
      have step := rolled.step
      refine ⟨queueFrame_accounted rolled.account (width.trans step.width.symm)
        (height.trans step.height.symm) (fps.trans step.fps.symm) ?_ ?_ pixels env,
        step.trans (queueFrame_recordingStep next pixels env)⟩
      · rw [step.width, step.height]
        exact fits
      · rw [frames]
        rfl
  · next stays =>
    -- A frame that begins no segment has the format of the current one.
    rw [rollsSegment, c64AviSegmentNeedsRollover] at stays
    simp only [Bool.or_eq_true, not_or, bne_iff_ne, ne_eq, not_not, Bool.not_eq_true] at stays
    obtain ⟨⟨⟨width, height⟩, fps⟩, room⟩ := stays
    exact ⟨queueFrame_accounted account width height fps fits room pixels env,
      queueFrame_recordingStep context pixels env⟩

end Video

section Recordings

variable {context : RecordContext} {env : Environment}

theorem Accounted.openAudio {core : RecordCore} {files : List (FileName × List UInt8)}
    (account : Accounted core files) (stopped : core.recordWriter = none) {file : Nat}
    {content : List UInt8} (found : files[file]? = some (.audio, content))
    (header : 44 ≤ content.length) : Accounted { core with audioFile := some file } files := by
  have idle : ∀ stream i, waitingFor { core with audioFile := some file } stream i =
      waitingFor core stream i := by
    intro stream i
    rw [waitingFor_stopped stopped, waitingFor_stopped]
    exact stopped
  refine ⟨account.writerOpen, account.counted, nofun, account.frameFile, account.packetFile,
    ?_, ?_, ?_, ?_, account.closed⟩
  · intro i opened
    obtain rfl := Option.some.inj opened
    exact ⟨content, found, header⟩
  · intro i content found
    rw [idle]
    exact account.audio i content found
  · intro i opened
    rw [idle]
    exact account.videoFile i opened
  · intro i segment content found
    rw [idle]
    exact account.video i segment content found

theorem Accounted.closeVideo {core : RecordCore} {files : List (FileName × List UInt8)}
    (account : Accounted core files) (stopped : core.recordWriter = none) :
    Accounted { core with videoFile := none } files := by
  have idle : ∀ stream i, waitingFor { core with videoFile := none } stream i =
      waitingFor core stream i := by
    intro stream i
    rw [waitingFor_stopped stopped, waitingFor_stopped]
    exact stopped
  refine ⟨fun running => ?_, account.counted, account.noAudio, account.frameFile,
    account.packetFile, account.audioFile, ?_, nofun, ?_, ?_⟩
  · rw [stopped] at running
    cases running
  · intro i content found
    rw [idle]
    exact account.audio i content found
  · intro i segment content found
    rw [idle]
    exact account.video i segment content found
  · exact fun segment member => ⟨nofun, (account.closed segment member).2⟩

theorem writeWavHeader_length (sampleRate : UInt32) (channels bits : UInt16) :
    (c64AudioWriteWavHeader sampleRate channels bits).length = 44 := by
  have kinds : (text "RIFF").length = 4 ∧ (text "WAVE").length = 4 ∧ (text "fmt ").length = 4 ∧
      (text "data").length = 4 := ⟨rfl, rfl, rfl, rfl⟩
  unfold c64AudioWriteWavHeader
  simp only [List.length_append, le32_length, le16_length, kinds]

/-- Whether a running writer thread has an audio file to write to. -/
def RecordContext.WriterHasAudio (context : RecordContext) : Prop :=
  context.recordWriter.isSome → context.audioFile.isSome

/-- What an operation on a recording keeps. -/
structure RecordingKept (before after : RecordContext) : Prop where
  account : after.IsAccounted
  named : LogsNamed after
  audio : before.WriterHasAudio → after.WriterHasAudio

theorem RecordingKept.trans {first second third : RecordContext} (one : RecordingKept first second)
    (two : RecordingKept second third) : RecordingKept first third :=
  ⟨two.account, two.named, fun audio => two.audio (one.audio audio)⟩

theorem LogStep.keeps {before after : RecordContext} (step : LogStep before after)
    (account : before.IsAccounted) : RecordingKept before after where
  account := account.beside step
  named := step.named
  audio := by
    unfold RecordContext.WriterHasAudio
    rw [step.core]
    exact id

theorem writerHasAudio_stopped (stopped : context.recordWriter = none) :
    context.WriterHasAudio := by
  intro running
  rw [stopped] at running
  cases running

theorem recordingOpened_accounted (account : context.IsAccounted)
    (stopped : context.recordWriter = none) {aviHeader wavHeader : List UInt8}
    (video : FramesIn [] [] aviHeader context.width context.height context.expectedFps)
    (audio : wavHeader.length = 44) :
    (recordingOpened context aviHeader wavHeader).IsAccounted := by
  -- Both files are there before they become the current ones.
  have one := @Accounted.openUnused _ _ account (.video 0) aviHeader nofun
    fun _ _ => .inr ⟨_, _, _, video⟩
  have both := @Accounted.openUnused _ _ one .audio wavHeader (fun _ => by rw [audio]) nofun
  have files : contents (recordingOpened context aviHeader wavHeader).files =
      contents context.files ++ [(.video 0, aviHeader)] ++ [(.audio, wavHeader)] := by
    rw [recordingOpened]
    simp only
    rw [contents_openFile, contents_openFile]
  have videoFound : (contents context.files ++ [(FileName.video 0, aviHeader)] ++
      [(FileName.audio, wavHeader)])[nextFile context]? = some (.video 0, aviHeader) := by
    rw [nextFile_eq, List.append_assoc]
    simp
  have audioFound : (contents context.files ++ [(FileName.video 0, aviHeader)] ++
      [(FileName.audio, wavHeader)])[nextFile (openFile context (.video 0) aviHeader)]? =
      some (.audio, wavHeader) := by
    rw [nextFile_eq, contents_openFile, List.getElem?_concat_length]
  have fresh : ∀ segment ∈ context.closedSegments, segment.file ≠ nextFile context := by
    intro segment member same
    have before := account.closed_lt member
    rw [same, nextFile_eq] at before
    exact absurd before (Nat.lt_irrefl _)
  have empty : framesOf context.toRecordCore (nextFile context) = [] := by
    rw [nextFile_eq]
    exact account.framesOf_new
  have current := both.openSegment stopped videoFound empty video fresh
  have heard := current.openAudio stopped audioFound (by rw [audio])
  rw [RecordContext.IsAccounted, files]
  exact (heard.recordedBytes 0).segmentIndex 0

theorem recordingOpened_recordingStep (context : RecordContext) (aviHeader wavHeader : List UInt8) :
    RecordingStep context (recordingOpened context aviHeader wavHeader) := by
  have paths := (openFile_recordingStep context (.video 0) aviHeader).trans
    (openFile_recordingStep _ .audio wavHeader)
  exact ⟨paths.paths, rfl, rfl, rfl, rfl, rfl, rfl⟩

theorem c64RecordWriterStart_stopped (stopped : context.recordWriter = none) (starts : Bool) :
    c64RecordWriterStart context starts =
      if starts then ({ context with recordWriter := some ⟨[], 0, 0⟩ }, true)
      else (context, false) := by
  rw [c64RecordWriterStart, if_neg (by rw [stopped]; simp)]

theorem recordingFailed_kept {before : RecordContext} (account : context.IsAccounted)
    (named : LogsNamed context) (stopped : context.recordWriter = none) :
    RecordingKept before (recordingFailed context) where
  account := (account.closeVideo stopped).closeAudio stopped
  named := ⟨named.timing, named.network, named.avSync⟩
  audio := fun _ => writerHasAudio_stopped stopped

theorem openRecording_kept (account : context.IsAccounted) (named : LogsNamed context)
    (closed : context.videoFile = none) (writes : env.WritesAll) :
    RecordingKept context (openRecording context env).1 := by
  have stopped : context.recordWriter = none := by
    by_contra running
    have opened := account.writerOpen (Option.isSome_iff_ne_none.mpr running)
    rw [closed] at opened
    cases opened
  -- A file that is opened alone is not used.
  have alone : ∀ name, (name = .audio ∨ ∃ segment, name = .video segment) → ∀ file,
      RecordingKept context (recordingFailed (fclose (openFile context name []) file)) := by
    intro name kind file
    refine recordingFailed_kept ?_ (named.recording ((openFile_recordingStep context name []).trans
      (fclose_recordingStep _ file))) stopped
    rw [RecordContext.IsAccounted, contents_fclose, contents_openFile]
    exact account.openUnused (fun _ => Nat.zero_le _) fun _ _ => .inl rfl
  unfold openRecording
  simp only
  split
  · split
    · exact recordingFailed_kept account named stopped
    · exact alone _ (.inl rfl) _
  · split
    · exact alone _ (.inr ⟨_, rfl⟩) _
    · rw [writes.aviHeader, writes.wavHeader]
      simp only [fwrite]
      generalize avi : c64VideoWriteAviHeader _ _ _ = aviHeader
      generalize wav : c64AudioWriteWavHeader _ _ _ = wavHeader
      have opened := @recordingOpened_accounted context account stopped aviHeader wavHeader
        (by rw [← avi]; exact framesIn_header _ _ _) (by rw [← wav]; exact writeWavHeader_length _ _ _)
      have step := recordingOpened_recordingStep context aviHeader wavHeader
      have video : (recordingOpened context aviHeader wavHeader).videoFile.isSome := rfl
      have audio : (recordingOpened context aviHeader wavHeader).audioFile.isSome := rfl
      have idle : (recordingOpened context aviHeader wavHeader).recordWriter = none := stopped
      cases starts : env.startsWriter with
      | true =>
        have started := c64RecordWriterStart_accounted opened video true
        simp only [c64RecordWriterStart_stopped idle] at started ⊢
        exact ⟨started, named.recording ⟨step.paths, step.timing, step.network, step.avSync,
          step.width, step.height, step.fps⟩, fun _ _ => audio⟩
      | false =>
        simp only [c64RecordWriterStart_stopped idle]
        generalize recordingOpened context aviHeader wavHeader = next at opened step video audio idle ⊢
        obtain ⟨videoFile, video⟩ := Option.isSome_iff_exists.mp video
        obtain ⟨audioFile, audio⟩ := Option.isSome_iff_exists.mp audio
        have closings := step.trans ((fclose_recordingStep next videoFile).trans
          (fclose_recordingStep _ audioFile))
        simp only [Bool.false_eq_true, if_false, video, audio, fcloseIfOpen]
        refine recordingFailed_kept ?_ (named.recording closings) idle
        rw [RecordContext.IsAccounted, contents_fclose, contents_fclose]
        exact opened

theorem c64StartVideoRecording_kept (account : context.IsAccounted) (named : LogsNamed context)
    (writes : env.WritesAll) :
    RecordingKept context (c64StartVideoRecording context env).1 := by
  unfold c64StartVideoRecording
  split
  · exact ⟨account, named, id⟩
  next starts =>
  have closed : context.videoFile = none := by
    simpa using (not_or.mp starts).2
  have session := c64SessionEnsureExists_logStep named env.makesFolder
  have kept := session.keeps account
  simp only
  generalize c64SessionEnsureExists context env.makesFolder = next at session kept ⊢
  split
  · exact kept
  · have logs : LogStep next (if next.recordCsv then
        c64StartNetworkCsvRecording (c64StartObsCsvRecording next env) env else next) := by
      split
      · exact startLogs_logStep session.named env
      · exact .idle session.named rfl rfl rfl rfl rfl rfl
    generalize (if next.recordCsv then
      c64StartNetworkCsvRecording (c64StartObsCsvRecording next env) env else next) = logged
      at logs ⊢
    have still : logged.videoFile = none := by
      rw [logs.core, session.core]
      exact closed
    have after := logs.keeps kept.account
    exact (kept.trans after).trans (openRecording_kept after.account logs.named still writes)

theorem c64StopVideoRecording_kept (account : context.IsAccounted) (named : LogsNamed context)
    (writes : env.WritesAll) :
    RecordingKept context (c64StopVideoRecording context env) := by
  unfold c64StopVideoRecording
  split
  · exact ⟨account, named, id⟩
  · have drained := c64RecordWriterStop_accounted account writes.nodes
    have drainStep := (c64RecordWriterStop_step context env.nodes).recording
    have stopped := c64RecordWriterStop_stopped context env.nodes
    simp only
    generalize c64RecordWriterStop context env.nodes = next at drained drainStep stopped ⊢
    have video : (c64VideoStopRecording next env).IsAccounted ∧
        RecordingStep next (c64VideoStopRecording next env) ∧
        (c64VideoStopRecording next env).recordWriter = none := by
      unfold c64VideoStopRecording
      split
      · exact ⟨drained, .refl next, stopped⟩
      · rw [c64RecordWriterStop, stopped]
        exact closeSegmentIfOpen_accounted drained stopped
    obtain ⟨videoAccount, videoStep, videoStopped⟩ := video
    have audioStep := closeAudioIfOpen_recordingStep (c64VideoStopRecording next env) env
    refine ⟨closeAudioIfOpen_accounted videoAccount videoStopped env,
      named.recording ((drainStep.trans videoStep).trans audioStep),
      fun _ => writerHasAudio_stopped ?_⟩
    unfold closeAudioIfOpen
    cases (c64VideoStopRecording next env).audioFile <;> exact videoStopped

theorem c64RecordCleanup_kept (account : context.IsAccounted) (named : LogsNamed context)
    (writes : env.WritesAll) :
    RecordingKept context (c64RecordCleanup context env) := by
  have drained := c64RecordWriterStop_accounted account writes.nodes
  have drainStep := (c64RecordWriterStop_step context env.nodes).recording
  have stopped := c64RecordWriterStop_stopped context env.nodes
  unfold c64RecordCleanup
  simp only
  generalize c64RecordWriterStop context env.nodes = next at drained drainStep stopped ⊢
  obtain ⟨videoAccount, videoStep, videoStopped⟩ := closeSegmentIfOpen_accounted drained stopped
  generalize closeSegmentIfOpen next = closed at videoAccount videoStep videoStopped ⊢
  have audioStep := closeAudioIfOpen_recordingStep closed env
  have audioAccount := closeAudioIfOpen_accounted videoAccount videoStopped env
  have audioStopped : (closeAudioIfOpen closed env).recordWriter = none := by
    unfold closeAudioIfOpen
    cases closed.audioFile <;> exact videoStopped
  have audioNamed := named.recording ((drainStep.trans videoStep).trans audioStep)
  have logs := (stopLogs_logStep audioNamed).keeps audioAccount
  exact ⟨logs.account, logs.named, fun _ => logs.audio (writerHasAudio_stopped audioStopped)⟩

theorem c64AudioRecordData_accounted (account : context.IsAccounted)
    (audio : context.WriterHasAudio) (data : List UInt8) (env : Environment) :
    (c64AudioRecordData context data env).IsAccounted := by
  unfold c64AudioRecordData
  rcases c64RecordWriterEnqueue_cases context .audio data env.allocates with
    failed | ⟨writer, running, room, queued⟩
  · rw [failed]
    exact account
  · rw [queued]
    obtain ⟨file, current⟩ := Option.isSome_iff_exists.mp (audio (by rw [running]; rfl))
    exact account.pushPacket running room current

theorem c64AudioRecordData_recordingStep (context : RecordContext) (data : List UInt8)
    (env : Environment) : RecordingStep context (c64AudioRecordData context data env) := by
  unfold c64AudioRecordData
  rcases c64RecordWriterEnqueue_cases context .audio data env.allocates with
    failed | ⟨writer, _, _, queued⟩
  · rw [failed]
    exact .refl context
  · rw [queued]
    exact ⟨.refl _, rfl, rfl, rfl, rfl, rfl, rfl⟩

theorem c64RecordWriterThread_audio (audio : context.WriterHasAudio) {capacity : Option Nat} :
    (c64RecordWriterThread context capacity).WriterHasAudio := by
  rcases c64RecordWriterThread_cases context capacity with
    ⟨idle, _⟩ | ⟨writer, node, nodes, next, taken⟩
  · rw [idle]
    exact audio
  · intro _
    have same := (c64RecordWriterThread_step context capacity).same
    rw [same]
    exact audio (by rw [taken.running]; rfl)

theorem updateRecordVideo_kept (account : context.IsAccounted) (named : LogsNamed context)
    (record : Bool) (writes : env.WritesAll) :
    RecordingKept context (updateRecordVideo context record env) := by
  unfold updateRecordVideo
  split
  · exact ⟨account, named, id⟩
  · have kept : RecordingKept context { context with recordVideo := record } :=
      ⟨account, ⟨named.timing, named.network, named.avSync⟩, id⟩
    simp only
    split
    · have started := c64StartVideoRecording_kept kept.account kept.named writes
      generalize c64StartVideoRecording { context with recordVideo := record } env = result
        at started ⊢
      obtain ⟨next, done⟩ := result
      cases done with
      | true => exact kept.trans started
      | false =>
        have off : RecordingKept next { next with recordVideo := false } :=
          ⟨started.account, ⟨started.named.timing, started.named.network, started.named.avSync⟩, id⟩
        have cleaned := c64SessionCleanupIfNeeded_logStep off.named
        exact ((kept.trans started).trans off).trans (cleaned.keeps off.account)
    · have after := c64StopVideoRecording_kept kept.account kept.named writes
      have cleaned := c64SessionCleanupIfNeeded_logStep after.named
      exact (kept.trans after).trans (cleaned.keeps after.account)

theorem c64RecordUpdateSettings_kept (account : context.IsAccounted) (named : LogsNamed context)
    (settings : RecordSettings) (csv avSync : Environment) {video : Environment}
    (writes : video.WritesAll) :
    RecordingKept context (c64RecordUpdateSettings context settings csv avSync video) := by
  have frames := updateRecordFrames_logStep named settings.recordFrames
  have logs := updateRecordCsv_logStep frames.named settings.recordCsv csv
  have synced := updateRecordAvSync_logStep logs.named settings.recordAvSync avSync
  have kept := ((frames.trans logs).trans synced).keeps account
  exact kept.trans (updateRecordVideo_kept kept.account kept.named settings.recordVideo writes)

end Recordings

section System

/-- The recording, and what a packet was found to be for before its lock was taken. -/
structure RecordSystem where
  context : RecordContext
  pending : Option WriteStream

/-- What can happen next: the packet thread checks and records, the writer thread writes, and the
settings are changed. -/
inductive RecordOp where
  | setFormat (width height : UInt32) (fps : ℚ)
  | saveFrame (env : Environment)
  | checkFrame
  | recordFrame (pixels : List UInt32) (env : Environment)
  | checkAudio
  | recordAudio (data : List UInt8) (env : Environment)
  | write (capacity : Option Nat)
  | updateSettings (settings : RecordSettings) (csv avSync video : Environment)
  | cleanup (env : Environment)

/-- One step of a recording. -/
def recordStep (system : RecordSystem) : RecordOp → RecordSystem
  | .setFormat width height fps =>
    { system with
      context := { system.context with width := width, height := height, expectedFps := fps } }
  | .saveFrame env => { system with context := c64FramesSaveAsBmp system.context env }
  | .checkFrame =>
    -- The packet thread does one thing at a time.
    if system.pending.isNone && recordsFrames system.context then
      { system with pending := some .video }
    else system
  | .recordFrame pixels env =>
    if system.pending = some .video then
      { context := c64VideoRecordFrame system.context pixels env, pending := none }
    else system
  | .checkAudio =>
    if system.pending.isNone && recordsAudio system.context then
      { system with pending := some .audio }
    else system
  | .recordAudio data env =>
    if system.pending = some .audio then
      { context := c64AudioRecordData system.context data env, pending := none }
    else system
  | .write capacity => { system with context := c64RecordWriterThread system.context capacity }
  | .updateSettings settings csv avSync video =>
    { system with context := c64RecordUpdateSettings system.context settings csv avSync video }
  | .cleanup env => { system with context := c64RecordCleanup system.context env }

/-- No write of a step fails. -/
def RecordOp.WritesAll : RecordOp → Prop
  | .recordFrame _ env => env.WritesAll
  | .write capacity => capacity = none
  | .updateSettings _ _ _ video => video.WritesAll
  | .cleanup env => env.WritesAll
  | _ => True

/-- The recording is accounted for, and a packet of samples that is being recorded has a file. -/
structure RecordSystem.Sound (system : RecordSystem) : Prop where
  account : system.context.IsAccounted
  named : LogsNamed system.context
  pending : system.pending = some .audio → system.context.WriterHasAudio

theorem recordStep_sound {system : RecordSystem} (sound : system.Sound) {op : RecordOp}
    (writes : op.WritesAll) : (recordStep system op).Sound := by
  obtain ⟨account, named, pending⟩ := sound
  cases op with
  | setFormat width height fps =>
    exact ⟨account, ⟨named.timing, named.network, named.avSync⟩, pending⟩
  | saveFrame env =>
    have kept := (c64FramesSaveAsBmp_logStep named env).keeps account
    exact ⟨kept.account, kept.named, fun audio => kept.audio (pending audio)⟩
  | checkFrame =>
    rw [recordStep]
    split
    · exact ⟨account, named, nofun⟩
    · exact ⟨account, named, pending⟩
  | recordFrame pixels env =>
    rw [recordStep]
    split
    · obtain ⟨after, step⟩ := c64VideoRecordFrame_accounted account pixels writes
      exact ⟨after, named.recording step, nofun⟩
    · exact ⟨account, named, pending⟩
  | checkAudio =>
    rw [recordStep]
    split
    · next checked =>
      refine ⟨account, named, fun _ _ => ?_⟩
      simp only [recordsAudio, Bool.and_eq_true] at checked
      exact checked.2.2
    · exact ⟨account, named, pending⟩
  | recordAudio data env =>
    rw [recordStep]
    split
    · next audio =>
      refine ⟨c64AudioRecordData_accounted account (pending audio) data env, ?_, nofun⟩
      exact named.recording (c64AudioRecordData_recordingStep system.context data env)
    · exact ⟨account, named, pending⟩
  | write capacity =>
    obtain rfl : capacity = none := writes
    have step := c64RecordWriterThread_step system.context none
    refine ⟨c64RecordWriterThread_accounted account, named.recording step.recording,
      fun audio => ?_⟩
    exact c64RecordWriterThread_audio (pending audio)
  | updateSettings settings csv avSync video =>
    have kept := c64RecordUpdateSettings_kept account named settings csv avSync writes
    exact ⟨kept.account, kept.named, fun audio => kept.audio (pending audio)⟩
  | cleanup env =>
    have kept := c64RecordCleanup_kept account named writes
    exact ⟨kept.account, kept.named, fun audio => kept.audio (pending audio)⟩

theorem recordInit_sound (width height : UInt32) (fps sampleRate : ℚ)
    (buffer : Option (List UInt8)) :
    RecordSystem.Sound ⟨c64RecordInit width height fps sampleRate buffer, none⟩ where
  account :=
    ⟨nofun, nofun, fun _ => rfl, nofun, nofun, nofun, nofun, nofun, nofun, nofun⟩
  named := ⟨namedIn_none, namedIn_none, namedIn_none⟩
  pending := nofun

end System

section NothingLost

/-- Everything that was accepted is in its file or waits for it: the data of an audio file are its
packets, a segment holds its frames, a segment that was closed was counted right and is not too
long, and the queue is counted right. -/
structure NothingLost (context : RecordContext) : Prop where
  audio : ∀ (i : Nat) (file : File), context.files[i]? = some file → file.path.name = .audio →
    file.content.drop 44 ++ waitingFor context.toRecordCore .audio i =
      packetsOf context.toRecordCore i
  video : ∀ (i : Nat) (file : File) (segment : UInt32), context.files[i]? = some file →
    file.path.name = .video segment →
    (file.content = [] ∧ framesOf context.toRecordCore i = []) ∨ ∃ width height fps,
      FramesIn (framesOf context.toRecordCore i) (waitingFor context.toRecordCore .video i)
        file.content width height fps
  closed : ∀ segment ∈ context.closedSegments, ∃ file width height fps,
    context.files[segment.file]? = some file ∧
    FramesIn (framesOf context.toRecordCore segment.file) [] file.content width height fps ∧
    SegmentClosed (framesOf context.toRecordCore segment.file) file.content segment
  queue : ∀ writer, context.recordWriter = some writer → QueueCounted writer

theorem RecordSystem.Sound.nothingLost {system : RecordSystem} (sound : system.Sound) :
    NothingLost system.context where
  audio := fun i file found name =>
    sound.account.audio i file.content (contents_get.mpr ⟨file, found, name, rfl⟩)
  video := fun i file segment found name =>
    sound.account.video i segment file.content (contents_get.mpr ⟨file, found, name, rfl⟩)
  closed := by
    intro segment member
    obtain ⟨notCurrent, name, content, found, closed⟩ := sound.account.closed segment member
    obtain ⟨file, fileFound, fileName, rfl⟩ := contents_get.mp found
    have idle : waitingFor system.context.toRecordCore .video segment.file = [] :=
      if_neg notCurrent
    rcases sound.account.video _ _ _ found with ⟨empty, _⟩ | ⟨width, height, fps, holds⟩
    · exact absurd empty closed.header
    · rw [idle] at holds
      exact ⟨file, width, height, fps, fileFound, holds, closed⟩
  queue := sound.account.counted

/-- Whatever the packets, the writer thread and the settings do in whatever order, nothing that was
accepted is lost or misplaced, as long as no write fails. -/
theorem recording_nothingLost (width height : UInt32) (fps sampleRate : ℚ)
    (buffer : Option (List UInt8)) (ops : List RecordOp)
    (writes : EachStep recordStep (fun _ op => op.WritesAll)
      ⟨c64RecordInit width height fps sampleRate buffer, none⟩ ops) :
    Always recordStep (fun system => NothingLost system.context)
      ⟨c64RecordInit width height fps sampleRate buffer, none⟩ ops := by
  -- The account is what every step preserves.
  have sound := @always_of_eachStep _ _ recordStep RecordSystem.Sound (fun _ op => op.WritesAll)
    (fun _ _ sound written => recordStep_sound sound written) _ ops writes
    (recordInit_sound width height fps sampleRate buffer)
  exact sound.imp fun _ sound => sound.nothingLost

theorem Environment.working_writesAll : Environment.working.WritesAll := ⟨nofun, rfl, rfl⟩

/-- A recording of two frames of different formats and a packet, stopped while they wait. -/
def shortRecording : List RecordOp :=
  [.updateSettings ⟨false, false, false, true⟩ .working .working .working,
    .checkFrame, .recordFrame [0xFF112233] .working,
    .setFormat 1 2 60, .checkFrame, .recordFrame [0xFF112233, 0xFF445566] .working,
    .checkAudio, .recordAudio [1, 2, 3, 4] .working, .write none,
    .updateSettings ⟨false, false, false, false⟩ .working .working .working]

/-- Nothing of that recording is lost. -/
theorem shortRecording_nothingLost :
    Always recordStep (fun system => NothingLost system.context)
      ⟨c64RecordInit 1 1 50 48000 (some []), none⟩ shortRecording :=
  recording_nothingLost 1 1 50 48000 (some []) shortRecording
    ⟨Environment.working_writesAll, trivial, Environment.working_writesAll, trivial, trivial,
      Environment.working_writesAll, trivial, trivial, rfl, Environment.working_writesAll, trivial⟩

end NothingLost

end C64Stream
