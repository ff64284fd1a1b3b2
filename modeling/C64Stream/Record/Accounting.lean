import C64Stream.Record.RecorderLaws

/-! The account of a recording: what was accepted is in the files or waits for them. -/

namespace C64Stream

section Account

/-- The bytes of a stream among some nodes. -/
def streamBytes (nodes : List WriteNode) (stream : WriteStream) : List UInt8 :=
  (nodes.filter (·.stream = stream)).flatMap (·.data)

/-- The bytes of a stream that wait to be written. -/
def waiting (core : RecordCore) (stream : WriteStream) : List UInt8 :=
  match core.recordWriter with
  | none => []
  | some writer => streamBytes writer.nodes stream

/-- The bytes that wait to be written to a file. -/
def waitingFor (core : RecordCore) (stream : WriteStream) (file : Nat) : List UInt8 :=
  if core.openFile stream = some file then waiting core stream else []

/-- The frames that were accepted for a segment. -/
def framesOf (core : RecordCore) (file : Nat) : List AcceptedFrame :=
  core.acceptedFrames.filter (·.segment = some file)

/-- The bytes of the packets that were accepted for an audio file. -/
def packetsOf (core : RecordCore) (file : Nat) : List UInt8 :=
  (core.acceptedPackets.filter (·.file = some file)).flatMap (·.bytes)

/-- Some frames as chunks. -/
def chunksOf (frames : List AcceptedFrame) : List UInt8 :=
  frames.flatMap fun frame => aviFrameChunk frame.bytes

/-- A segment holds some frames, but for the bytes that wait. -/
structure FramesIn (frames : List AcceptedFrame) (waits content : List UInt8)
    (width height : UInt32) (fps : ℚ) : Prop where
  written : ∃ fileSize frameCount body,
    content = aviFileBytes fileSize frameCount width height fps body ∧
    body ++ waits = chunksOf frames
  format : ∀ frame ∈ frames, frame.width = width ∧ frame.height = height ∧ frame.fps = fps

/-- A segment that was closed was counted right and is not too long. -/
structure SegmentClosed (frames : List AcceptedFrame) (content : List UInt8)
    (segment : ClosedSegment) : Prop where
  counts : segment.frames.toNat = frames.length
  length : segment.bytes.toNat = content.length
  header : content ≠ []
  short : segment.bytes ≤ c64AviSegmentLimitBytes

/-- The counters of the current segment are right. -/
structure SegmentCounted (frames : List AcceptedFrame) (count : UInt32) (bytes : UInt64) :
    Prop where
  counts : count.toNat = frames.length
  length : bytes.toNat = 216 + (chunksOf frames).length
  short : bytes ≤ c64AviSegmentLimitBytes

/-- The queue is counted right and is not too long. -/
def QueueCounted (writer : RecordWriter) : Prop :=
  writer.queuedBytes = (writer.nodes.map (·.data.length)).sum ∧
    writer.queuedBytes ≤ c64RecordWriterMaxBytes

/-- The account of a recording, over the names and contents of its files. -/
structure Accounted (core : RecordCore) (files : List (FileName × List UInt8)) : Prop where
  writerOpen : core.recordWriter.isSome → core.videoFile.isSome
  counted : ∀ writer, core.recordWriter = some writer → QueueCounted writer
  noAudio : core.audioFile = none → waiting core .audio = []
  frameFile : ∀ frame ∈ core.acceptedFrames, ∀ i, frame.segment = some i → i < files.length
  packetFile : ∀ packet ∈ core.acceptedPackets, ∀ i, packet.file = some i → i < files.length
  audioFile : ∀ i, core.audioFile = some i → ∃ content,
    files[i]? = some (.audio, content) ∧ 44 ≤ content.length
  audio : ∀ i content, files[i]? = some (.audio, content) →
    content.drop 44 ++ waitingFor core .audio i = packetsOf core i
  videoFile : ∀ i, core.videoFile = some i → ∃ segment content,
    files[i]? = some (.video segment, content) ∧
    FramesIn (framesOf core i) (waitingFor core .video i) content core.aviSegmentWidth
      core.aviSegmentHeight core.aviSegmentFps ∧
    SegmentCounted (framesOf core i) core.aviSegmentFrames core.aviSegmentBytes
  video : ∀ i segment content, files[i]? = some (.video segment, content) →
    (content = [] ∧ framesOf core i = []) ∨ ∃ width height fps,
      FramesIn (framesOf core i) (waitingFor core .video i) content width height fps
  closed : ∀ segment ∈ core.closedSegments, core.videoFile ≠ some segment.file ∧
    ∃ name content, files[segment.file]? = some (.video name, content) ∧
      SegmentClosed (framesOf core segment.file) content segment

end Account

section Contents

/-- Change the content of one file. -/
def rewriteAt (files : List (FileName × List UInt8)) (file : Nat)
    (change : List UInt8 → List UInt8) : List (FileName × List UInt8) :=
  files.modify file fun entry => (entry.1, change entry.2)

@[simp] theorem rewriteAt_length (files : List (FileName × List UInt8)) (file : Nat)
    (change : List UInt8 → List UInt8) : (rewriteAt files file change).length = files.length := by
  unfold rewriteAt
  exact List.length_modify ..

theorem rewriteAt_same {files : List (FileName × List UInt8)} {file : Nat} {name : FileName}
    {content : List UInt8} (found : files[file]? = some (name, content))
    (change : List UInt8 → List UInt8) :
    (rewriteAt files file change)[file]? = some (name, change content) := by
  rw [rewriteAt, List.getElem?_modify, found]
  simp

theorem rewriteAt_other (files : List (FileName × List UInt8)) {file other : Nat}
    (different : file ≠ other) (change : List UInt8 → List UInt8) :
    (rewriteAt files file change)[other]? = files[other]? := by
  exact List.getElem?_modify_ne _ _ different

theorem rewriteAt_cases {files : List (FileName × List UInt8)} {file other : Nat} {name : FileName}
    {content : List UInt8} {change : List UInt8 → List UInt8}
    (found : (rewriteAt files file change)[other]? = some (name, content)) :
    (file = other ∧ ∃ old, files[other]? = some (name, old) ∧ content = change old) ∨
      (file ≠ other ∧ files[other]? = some (name, content)) := by
  by_cases same : file = other
  · subst same
    left
    rw [rewriteAt, List.getElem?_modify_eq] at found
    obtain ⟨⟨old, before⟩, oldFound, changed⟩ := Option.map_eq_some_iff.mp found
    obtain ⟨rfl, rfl⟩ := Prod.mk.inj changed
    exact ⟨rfl, before, oldFound, rfl⟩
  · right
    rw [rewriteAt_other files same] at found
    exact ⟨same, found⟩

theorem contents_modify (files : List File) (file : Nat) {change : File → File}
    {content : List UInt8 → List UInt8} (path : ∀ file, (change file).path = file.path)
    (changed : ∀ file, (change file).content = content file.content) :
    contents (files.modify file change) = rewriteAt (contents files) file content := by
  refine List.ext_getElem? fun i => ?_
  rw [contents, contents, rewriteAt, List.getElem?_map, List.getElem?_modify, List.getElem?_modify,
    List.getElem?_map]
  cases files[i]? with
  | none => rfl
  | some entry => split <;> simp [path, changed]

@[simp] theorem rewriteAt_id (files : List (FileName × List UInt8)) (file : Nat) :
    (rewriteAt files file fun content => content) = files :=
  List.modify_id file files

theorem contents_fclose (context : RecordContext) (file : Nat) :
    contents (fclose context file).files = contents context.files := by
  have same := @contents_modify context.files file
    (fun file => { file with closings := file.closings + 1 }) (fun content => content)
    (fun _ => rfl) (fun _ => rfl)
  exact same.trans (rewriteAt_id _ _)

end Contents

section Streams

@[simp] theorem streamBytes_nil (stream : WriteStream) : streamBytes [] stream = [] := rfl

theorem streamBytes_cons (node : WriteNode) (nodes : List WriteNode) (stream : WriteStream) :
    streamBytes (node :: nodes) stream =
      (if node.stream = stream then node.data else []) ++ streamBytes nodes stream := by
  unfold streamBytes
  by_cases same : node.stream = stream <;> simp [same]

theorem streamBytes_append (nodes : List WriteNode) (node : WriteNode) (stream : WriteStream) :
    streamBytes (nodes ++ [node]) stream =
      streamBytes nodes stream ++ (if node.stream = stream then node.data else []) := by
  unfold streamBytes
  by_cases same : node.stream = stream <;> simp [same]

theorem chunksOf_append (frames : List AcceptedFrame) (frame : AcceptedFrame) :
    chunksOf (frames ++ [frame]) = chunksOf frames ++ aviFrameChunk frame.bytes := by
  simp [chunksOf]

end Streams

section Beside

theorem contents_get {files : List File} {i : Nat} {name : FileName} {content : List UInt8} :
    (contents files)[i]? = some (name, content) ↔
      ∃ file, files[i]? = some file ∧ file.path.name = name ∧ file.content = content := by
  simp [contents, List.getElem?_map, Option.map_eq_some_iff]

theorem Accounted.other {core : RecordCore} {files files' : List (FileName × List UInt8)}
    (account : Accounted core files) (longer : files.length ≤ files'.length)
    (kept : ∀ (i : Nat) (name : FileName) (content : List UInt8), name.isLog = false →
      (files'[i]? = some (name, content) ↔ files[i]? = some (name, content))) :
    Accounted core files' where
  writerOpen := account.writerOpen
  counted := account.counted
  noAudio := account.noAudio
  frameFile := fun frame member i segment =>
    (account.frameFile frame member i segment).trans_le longer
  packetFile := fun packet member i file =>
    (account.packetFile packet member i file).trans_le longer
  audioFile := by
    intro i opened
    obtain ⟨content, found, header⟩ := account.audioFile i opened
    exact ⟨content, (kept i _ _ rfl).mpr found, header⟩
  audio := fun i content found => account.audio i content ((kept i _ _ rfl).mp found)
  videoFile := by
    intro i opened
    obtain ⟨segment, content, found, frames⟩ := account.videoFile i opened
    exact ⟨segment, content, (kept i _ _ rfl).mpr found, frames⟩
  video := fun i segment content found =>
    account.video i segment content ((kept i _ _ rfl).mp found)
  closed := by
    intro segment member
    obtain ⟨different, name, content, found, closed⟩ := account.closed segment member
    exact ⟨different, name, content, (kept _ _ _ rfl).mpr found, closed⟩

theorem Accounted.beside {before after : RecordContext} (step : LogStep before after)
    (account : Accounted before.toRecordCore (contents before.files)) :
    Accounted after.toRecordCore (contents after.files) := by
  rw [step.core]
  refine account.other ?_ ?_
  · -- Every file there was is still there.
    rw [contents, contents, List.length_map, List.length_map]
    by_contra shorter
    have inside : after.files.length < before.files.length := by omega
    obtain ⟨file', found, _⟩ :=
      step.files.kept _ _ (List.getElem?_eq_getElem inside)
    rw [List.getElem?_eq_none (Nat.le_refl _)] at found
    cases found
  · intro i name content noLog
    rw [contents_get, contents_get]
    constructor
    · rintro ⟨file', found', rfl, rfl⟩
      cases found : before.files[i]? with
      | none =>
        have log := step.files.new i file' found' found
        rw [noLog] at log
        cases log
      | some file =>
        obtain ⟨other, foundOther, path, same⟩ := step.files.kept i file found
        obtain rfl := Option.some.inj (found'.symm.trans foundOther)
        obtain rfl := same (by rw [← path]; exact noLog)
        exact ⟨file', rfl, rfl, rfl⟩
    · rintro ⟨file, found, rfl, rfl⟩
      obtain ⟨file', found', _, same⟩ := step.files.kept i file found
      obtain rfl := same noLog
      exact ⟨file', found', rfl, rfl⟩

end Beside

section Writing

theorem QueueCounted.pop {writer next : RecordWriter} {node : WriteNode} {nodes : List WriteNode}
    (counted : QueueCounted writer) (nodesEq : writer.nodes = node :: nodes)
    (nextNodes : next.nodes = nodes)
    (nextBytes : next.queuedBytes = writer.queuedBytes - node.data.length) : QueueCounted next := by
  obtain ⟨sum, bound⟩ := counted
  rw [nodesEq, List.map_cons, List.sum_cons] at sum
  rw [QueueCounted, nextNodes, nextBytes]
  omega

theorem waitingFor_pop {core : RecordCore} {writer next : RecordWriter} {node : WriteNode}
    {nodes : List WriteNode} (running : core.recordWriter = some writer)
    (nodesEq : writer.nodes = node :: nodes) (nextNodes : next.nodes = nodes)
    (stream : WriteStream) (file : Nat) :
    waitingFor core stream file =
      (if node.stream = stream ∧ core.openFile stream = some file then node.data else []) ++
        waitingFor { core with recordWriter := some next } stream file := by
  have same : ({ core with recordWriter := some next } : RecordCore).openFile stream =
      core.openFile stream := by cases stream <;> rfl
  unfold waitingFor waiting
  rw [same, running]
  simp only [nodesEq, nextNodes, streamBytes_cons]
  by_cases opened : core.openFile stream = some file <;> simp [opened]

theorem Accounted.drop {core : RecordCore} {files : List (FileName × List UInt8)}
    (account : Accounted core files) {writer next : RecordWriter} {node : WriteNode}
    {nodes : List WriteNode} (running : core.recordWriter = some writer)
    (nodesEq : writer.nodes = node :: nodes) (nextNodes : next.nodes = nodes)
    (nextBytes : next.queuedBytes = writer.queuedBytes - node.data.length)
    (missing : core.openFile node.stream = none) :
    Accounted { core with recordWriter := some next } files := by
  have same : ∀ stream file, waitingFor { core with recordWriter := some next } stream file =
      waitingFor core stream file := by
    intro stream file
    rw [waitingFor_pop running nodesEq nextNodes, if_neg, List.nil_append]
    rintro ⟨rfl, opened⟩
    rw [missing] at opened
    cases opened
  refine ⟨fun _ => account.writerOpen (by rw [running]; rfl), ?_, ?_, account.frameFile,
    account.packetFile, account.audioFile, ?_, ?_, ?_, account.closed⟩
  · intro writer' some
    obtain rfl := Option.some.inj some
    exact (account.counted writer running).pop nodesEq nextNodes nextBytes
  · intro none
    have waits := account.noAudio none
    rw [waiting, running] at waits
    simp only [nodesEq, streamBytes_cons, List.append_eq_nil_iff] at waits
    simp only [waiting, nextNodes]
    exact waits.2
  · intro i content found
    rw [same]
    exact account.audio i content found
  · intro i opened
    rw [same]
    exact account.videoFile i opened
  · intro i segment content found
    rw [same]
    exact account.video i segment content found

theorem FramesIn.append {frames : List AcceptedFrame} {waits content bytes : List UInt8}
    {width height : UInt32} {fps : ℚ}
    (holds : FramesIn frames (bytes ++ waits) content width height fps) :
    FramesIn frames waits (content ++ bytes) width height fps where
  written := by
    obtain ⟨fileSize, frameCount, body, rfl, whole⟩ := holds.written
    refine ⟨fileSize, frameCount, body ++ bytes, ?_, by rw [List.append_assoc, whole]⟩
    unfold aviFileBytes
    generalize le32 = word, text = identifier
    simp only [List.append_assoc]
  format := holds.format

/-- The writer thread writes a node to the file of its stream. -/
theorem Accounted.write {core : RecordCore} {files : List (FileName × List UInt8)}
    (account : Accounted core files) {writer next : RecordWriter} {node : WriteNode}
    {nodes : List WriteNode} (running : core.recordWriter = some writer)
    (nodesEq : writer.nodes = node :: nodes) (nextNodes : next.nodes = nodes)
    (nextBytes : next.queuedBytes = writer.queuedBytes - node.data.length) {file : Nat}
    (opened : core.openFile node.stream = some file) :
    Accounted { core with recordWriter := some next }
      (rewriteAt files file fun content => content ++ node.data) := by
  have pop := @waitingFor_pop core writer next node nodes running nodesEq nextNodes
  -- What waits for another file does not change.
  have others : ∀ stream i, ¬ (node.stream = stream ∧ core.openFile stream = some i) →
      waitingFor { core with recordWriter := some next } stream i = waitingFor core stream i := by
    intro stream i other
    rw [pop, if_neg other, List.nil_append]
  have written : ∀ stream i, node.stream = stream → core.openFile stream = some i →
      waitingFor core stream i =
        node.data ++ waitingFor { core with recordWriter := some next } stream i := by
    intro stream i same here
    rw [pop, if_pos ⟨same, here⟩]
  refine ⟨fun _ => account.writerOpen (by rw [running]; rfl), ?_, ?_, ?_, ?_, ?_, ?_, ?_, ?_, ?_⟩
  · intro writer' some
    obtain rfl := Option.some.inj some
    exact (account.counted writer running).pop nodesEq nextNodes nextBytes
  · intro none
    have waits := account.noAudio none
    rw [waiting, running] at waits
    simp only [nodesEq, streamBytes_cons, List.append_eq_nil_iff] at waits
    simp only [waiting, nextNodes]
    exact waits.2
  · rw [rewriteAt_length]
    exact account.frameFile
  · rw [rewriteAt_length]
    exact account.packetFile
  · intro i audio
    obtain ⟨content, found, header⟩ := account.audioFile i audio
    by_cases same : file = i
    · subst same
      exact ⟨_, rewriteAt_same found _, by rw [List.length_append]; omega⟩
    · exact ⟨content, by rw [rewriteAt_other files same, found], header⟩
  · intro i content found
    rcases rewriteAt_cases found with ⟨rfl, old, before, rfl⟩ | ⟨different, before⟩
    · cases stream : node.stream with
      | video =>
        rw [stream] at opened
        obtain ⟨segment, content, video, _⟩ := account.videoFile file opened
        rw [before] at video
        cases video
      | audio =>
        rw [stream] at opened
        obtain ⟨content, found, header⟩ := account.audioFile file opened
        obtain ⟨_, rfl⟩ := Prod.mk.inj (Option.some.inj (before.symm.trans found))
        rw [List.drop_append_of_le_length header, List.append_assoc,
          ← written .audio file stream opened]
        exact account.audio file old before
    · rw [others .audio i fun ⟨stream, here⟩ => ?_]
      · exact account.audio i content before
      · rw [stream, here] at opened
        exact different (Option.some.inj opened).symm
  · intro i video
    obtain ⟨segment, content, found, frames, counts⟩ := account.videoFile i video
    by_cases same : file = i
    · subst same
      refine ⟨segment, _, rewriteAt_same found _, ?_, counts⟩
      cases stream : node.stream with
      | video =>
        rw [written .video file stream video] at frames
        exact frames.append
      | audio =>
        rw [stream] at opened
        obtain ⟨content, audio, _⟩ := account.audioFile file opened
        rw [found] at audio
        cases audio
    · refine ⟨segment, content, by rw [rewriteAt_other files same, found], ?_, counts⟩
      rw [others .video i fun ⟨stream, here⟩ => ?_]
      · exact frames
      · rw [stream, here] at opened
        exact same (Option.some.inj opened).symm
  · intro i segment content found
    rcases rewriteAt_cases found with ⟨rfl, old, before, rfl⟩ | ⟨different, before⟩
    · cases stream : node.stream with
      | video =>
        rw [stream] at opened
        obtain ⟨segment', content, found', frames, _⟩ := account.videoFile file opened
        obtain ⟨_, rfl⟩ := Prod.mk.inj (Option.some.inj (before.symm.trans found'))
        rw [written .video file stream opened] at frames
        exact .inr ⟨_, _, _, frames.append⟩
      | audio =>
        rw [stream] at opened
        obtain ⟨content, audio, _⟩ := account.audioFile file opened
        rw [before] at audio
        cases audio
    · rw [others .video i fun ⟨stream, here⟩ => ?_]
      · exact account.video i segment content before
      · rw [stream, here] at opened
        exact different (Option.some.inj opened).symm
  · intro segment member
    obtain ⟨notCurrent, name, content, found, closed⟩ := account.closed segment member
    refine ⟨notCurrent, name, content, ?_, closed⟩
    rw [rewriteAt_other files, found]
    rintro rfl
    cases stream : node.stream with
    | video =>
      rw [stream] at opened
      exact notCurrent opened
    | audio =>
      rw [stream] at opened
      obtain ⟨content, audio, _⟩ := account.audioFile _ opened
      rw [found] at audio
      cases audio

end Writing

section Turn

/-- The account of a recording that is under way. -/
def RecordContext.IsAccounted (context : RecordContext) : Prop :=
  Accounted context.toRecordCore (contents context.files)

theorem Accounted.recordedBytes {core : RecordCore} {files : List (FileName × List UInt8)}
    (account : Accounted core files) (bytes : UInt64) :
    Accounted { core with recordedAudioBytes := bytes } files :=
  ⟨account.writerOpen, account.counted, account.noAudio, account.frameFile, account.packetFile,
    account.audioFile, account.audio, account.videoFile, account.video, account.closed⟩

theorem Accounted.segmentIndex {core : RecordCore} {files : List (FileName × List UInt8)}
    (account : Accounted core files) (index : UInt32) :
    Accounted { core with aviSegmentIndex := index } files :=
  ⟨account.writerOpen, account.counted, account.noAudio, account.frameFile, account.packetFile,
    account.audioFile, account.audio, account.videoFile, account.video, account.closed⟩

theorem FramesIn.patch {frames : List AcceptedFrame} {waits content : List UInt8}
    {width height : UInt32} {fps : ℚ} (holds : FramesIn frames waits content width height fps)
    (frameCount : UInt32) :
    FramesIn frames waits (c64AviPatchHeaderInplace content frameCount).1 width height fps where
  written := by
    obtain ⟨fileSize, oldCount, body, rfl, whole⟩ := holds.written
    obtain ⟨newSize, newCount, patched⟩ :=
      patchHeader_shape fileSize oldCount frameCount width height fps body
    exact ⟨newSize, newCount, body, patched, whole⟩
  format := holds.format

theorem Accounted.patch {core : RecordCore} {files : List (FileName × List UInt8)}
    (account : Accounted core files) {file : Nat} (current : core.videoFile = some file)
    (frameCount : UInt32) :
    Accounted core
      (rewriteAt files file fun content => (c64AviPatchHeaderInplace content frameCount).1) := by
  obtain ⟨segment, content, found, frames, counts⟩ := account.videoFile file current
  have notAudio : ∀ i content, files[i]? = some (.audio, content) → file ≠ i := by
    rintro i content audio rfl
    rw [found] at audio
    cases audio
  refine ⟨account.writerOpen, account.counted, account.noAudio, ?_, ?_, ?_, ?_, ?_, ?_, ?_⟩
  · rw [rewriteAt_length]
    exact account.frameFile
  · rw [rewriteAt_length]
    exact account.packetFile
  · intro i opened
    obtain ⟨content, audio, header⟩ := account.audioFile i opened
    exact ⟨content, by rw [rewriteAt_other _ (notAudio i content audio), audio], header⟩
  · intro i content audio
    rcases rewriteAt_cases audio with ⟨rfl, old, before, rfl⟩ | ⟨_, before⟩
    · exact absurd rfl (notAudio _ _ before)
    · exact account.audio i content before
  · intro i opened
    obtain rfl := Option.some.inj (current.symm.trans opened)
    exact ⟨segment, _, rewriteAt_same found _, frames.patch frameCount, counts⟩
  · intro i name content' video
    rcases rewriteAt_cases video with ⟨rfl, old, before, rfl⟩ | ⟨_, before⟩
    · obtain ⟨_, rfl⟩ := Prod.mk.inj (Option.some.inj (before.symm.trans found))
      exact .inr ⟨_, _, _, frames.patch frameCount⟩
    · exact account.video i name content' before
  · intro closed member
    obtain ⟨notCurrent, name, content, found, right⟩ := account.closed closed member
    refine ⟨notCurrent, name, content, ?_, right⟩
    rw [rewriteAt_other files, found]
    rintro rfl
    exact notCurrent current

theorem contents_appendFile (context : RecordContext) (file : Nat) (bytes : List UInt8) :
    contents (appendFile context file bytes).files =
      rewriteAt (contents context.files) file fun content => content ++ bytes :=
  @contents_modify context.files file
    (fun file => { file with content := file.content ++ bytes }) (fun content => content ++ bytes)
    (fun _ => rfl) (fun _ => rfl)

theorem contents_patchFile (context : RecordContext) (file : Nat) (frameCount : UInt32) :
    contents (patchFile context file frameCount).files =
      rewriteAt (contents context.files) file fun content =>
        (c64AviPatchHeaderInplace content frameCount).1 :=
  @contents_modify context.files file
    (fun file => { file with content := (c64AviPatchHeaderInplace file.content frameCount).1 })
    (fun content => (c64AviPatchHeaderInplace content frameCount).1) (fun _ => rfl) (fun _ => rfl)

theorem c64RecordWriterThread_accounted {context : RecordContext} (account : context.IsAccounted) :
    (c64RecordWriterThread context none).IsAccounted := by
  rcases c64RecordWriterThread_cases context none with
    ⟨idle, _⟩ | ⟨writer, node, nodes, next, taken⟩
  · rw [idle]
    exact account
  · obtain ⟨running, nodesEq, nextNodes, nextBytes, result⟩ := taken
    rcases result with ⟨missing, after⟩ | ⟨file, due, opened, video, after⟩
    · rw [after]
      exact account.drop running nodesEq nextNodes nextBytes missing
    · rw [after]
      have written := (account.write running nodesEq nextNodes nextBytes opened).recordedBytes
        (audioBytesAfter context.recordedAudioBytes node (fwrite node.data none).length)
      rw [← contents_appendFile] at written
      cases due with
      | none => exact written
      | some frameCount =>
        rw [video rfl] at opened
        rw [RecordContext.IsAccounted, patchIfDue, contents_patchFile]
        exact written.patch opened frameCount

theorem Accounted.stopWriter {core : RecordCore} {files : List (FileName × List UInt8)}
    (account : Accounted core files) (empty : ∀ stream, waiting core stream = []) :
    Accounted { core with recordWriter := none } files := by
  have same : ∀ stream file, waitingFor { core with recordWriter := none } stream file =
      waitingFor core stream file := by
    intro stream file
    unfold waitingFor
    rw [empty stream]
    simp [waiting]
  refine ⟨nofun, nofun, fun _ => rfl,
    account.frameFile, account.packetFile, account.audioFile, ?_, ?_, ?_, account.closed⟩
  · intro i content found
    rw [same]
    exact account.audio i content found
  · intro i opened
    rw [same]
    exact account.videoFile i opened
  · intro i segment content found
    rw [same]
    exact account.video i segment content found

theorem drainNodes_accounted {context : RecordContext} {writer : RecordWriter}
    (account : context.IsAccounted) (running : context.recordWriter = some writer)
    {capacities : List (Option Nat)} (whole : ∀ capacity ∈ capacities, capacity = none) :
    (drainNodes context writer.nodes capacities).IsAccounted ∧
      ∀ stream, waiting (drainNodes context writer.nodes capacities).toRecordCore stream = [] := by
  -- Each turn takes one node, so the induction is on the nodes.
  generalize nodesEq : writer.nodes = nodes
  induction nodes generalizing context writer capacities with
  | nil =>
    refine ⟨account, fun stream => ?_⟩
    rw [drainNodes, waiting, running]
    simp only [nodesEq, streamBytes_nil]
  | cons node nodes ih =>
    have turn := c64RecordWriterThread_accounted account
    obtain ⟨next, running', nextNodes⟩ :
        ∃ next, (c64RecordWriterThread context none).recordWriter = some next ∧
          next.nodes = nodes := by
      rcases c64RecordWriterThread_cases context none with
        ⟨_, empty⟩ | ⟨writer', node', nodes', next, taken⟩
      · rw [empty writer running] at nodesEq
        cases nodesEq
      · obtain rfl := Option.some.inj (running.symm.trans taken.running)
        obtain ⟨_, rfl⟩ := List.cons.inj (nodesEq.symm.trans taken.nodesEq)
        refine ⟨next, ?_, taken.nextNodes⟩
        rcases taken.result with ⟨_, after⟩ | ⟨file, due, _, _, after⟩
        · rw [after]
        · rw [after]
          cases due <;> rfl
    cases capacities with
    | nil => exact ih turn running' (by simp) nextNodes
    | cons capacity capacities =>
      obtain rfl := whole capacity (by simp)
      exact ih turn running' (fun capacity member => whole capacity (by simp [member])) nextNodes

theorem c64RecordWriterStop_accounted {context : RecordContext} (account : context.IsAccounted)
    {capacities : List (Option Nat)} (whole : ∀ capacity ∈ capacities, capacity = none) :
    (c64RecordWriterStop context capacities).IsAccounted := by
  unfold c64RecordWriterStop
  cases running : context.recordWriter with
  | none => exact account
  | some writer =>
    obtain ⟨drained, empty⟩ := drainNodes_accounted account running whole
    exact drained.stopWriter empty

end Turn

section Segments

theorem waitingFor_stopped {core : RecordCore} (stopped : core.recordWriter = none)
    (stream : WriteStream) (file : Nat) : waitingFor core stream file = [] := by
  unfold waitingFor waiting
  rw [stopped]
  simp

theorem Accounted.framesOf_new {core : RecordCore} {files : List (FileName × List UInt8)}
    (account : Accounted core files) : framesOf core files.length = [] := by
  rw [framesOf, List.filter_eq_nil_iff]
  intro frame member segment
  have before := account.frameFile frame member _ (of_decide_eq_true segment)
  omega

theorem Accounted.packetsOf_new {core : RecordCore} {files : List (FileName × List UInt8)}
    (account : Accounted core files) {file : Nat} (new : files.length ≤ file) :
    packetsOf core file = [] := by
  rw [packetsOf, List.filter_eq_nil_iff.mpr, List.flatMap_nil]
  intro packet member opened
  have before := account.packetFile packet member _ (of_decide_eq_true opened)
  omega

theorem framesIn_header (width height : UInt32) (fps : ℚ) :
    FramesIn [] [] (c64VideoWriteAviHeader width height fps) width height fps where
  written := by
    refine ⟨0, 0, [], ?_, rfl⟩
    rw [← writeAviHeader_append, List.append_nil]
  format := by simp

theorem writeAviHeader_length (width height : UInt32) (fps : ℚ) :
    (c64VideoWriteAviHeader width height fps).length = 216 := by
  have length := aviFileBytes_length 0 0 width height fps []
  rw [← writeAviHeader_append, List.append_nil] at length
  exact length

theorem FramesIn.length {frames : List AcceptedFrame} {content : List UInt8}
    {width height : UInt32} {fps : ℚ} (holds : FramesIn frames [] content width height fps) :
    content.length = 216 + (chunksOf frames).length := by
  obtain ⟨fileSize, frameCount, body, rfl, whole⟩ := holds.written
  rw [aviFileBytes_length, ← whole, List.append_nil]

theorem Accounted.openUnused {core : RecordCore} {files : List (FileName × List UInt8)}
    (account : Accounted core files) {name : FileName} {content : List UInt8}
    (audio : name = .audio → content.length ≤ 44)
    (video : ∀ segment, name = .video segment →
      content = [] ∨ ∃ width height fps, FramesIn [] [] content width height fps) :
    Accounted core (files ++ [(name, content)]) := by
  have kept : ∀ i entry, files[i]? = some entry → (files ++ [(name, content)])[i]? = some entry :=
    fun i entry found => by
      rw [List.getElem?_append_left (List.getElem?_eq_some_iff.mp found).1, found]
  have split : ∀ i entry, (files ++ [(name, content)])[i]? = some entry →
      files[i]? = some entry ∨ (i = files.length ∧ entry = (name, content)) := by
    intro i entry found
    rcases Nat.lt_trichotomy i files.length with small | rfl | large
    · rw [List.getElem?_append_left small] at found
      exact .inl found
    · rw [List.getElem?_concat_length] at found
      exact .inr ⟨rfl, (Option.some.inj found).symm⟩
    · rw [List.getElem?_eq_none (by simp; omega)] at found
      cases found
  -- The new file is not that of a stream, so nothing waits for it.
  have idle : ∀ stream, waitingFor core stream files.length = [] := by
    intro stream
    rw [waitingFor, if_neg]
    intro opened
    cases stream with
    | audio =>
      obtain ⟨content, found, _⟩ := account.audioFile _ opened
      rw [List.getElem?_eq_none (Nat.le_refl _)] at found
      cases found
    | video =>
      obtain ⟨segment, content, found, _⟩ := account.videoFile _ opened
      rw [List.getElem?_eq_none (Nat.le_refl _)] at found
      cases found
  refine ⟨account.writerOpen, account.counted, account.noAudio, ?_, ?_, ?_, ?_, ?_, ?_, ?_⟩
  · intro frame member i segment
    have before := account.frameFile frame member i segment
    rw [List.length_append]
    omega
  · intro packet member i opened
    have before := account.packetFile packet member i opened
    rw [List.length_append]
    omega
  · intro i opened
    obtain ⟨content, found, header⟩ := account.audioFile i opened
    exact ⟨content, kept _ _ found, header⟩
  · intro i content' found
    rcases split i _ found with before | ⟨rfl, new⟩
    · exact account.audio i content' before
    · obtain ⟨rfl, rfl⟩ := Prod.mk.inj new
      rw [idle, account.packetsOf_new (Nat.le_refl _), List.drop_eq_nil_of_le (audio rfl)]
      rfl
  · intro i opened
    obtain ⟨segment, content, found, frames⟩ := account.videoFile i opened
    exact ⟨segment, content, kept _ _ found, frames⟩
  · intro i segment content' found
    rcases split i _ found with before | ⟨rfl, new⟩
    · exact account.video i segment content' before
    · obtain ⟨rfl, rfl⟩ := Prod.mk.inj new
      rw [idle, account.framesOf_new]
      rcases video segment rfl with rfl | holds
      · exact .inl ⟨rfl, rfl⟩
      · exact .inr holds
  · intro segment member
    obtain ⟨notCurrent, name, content, found, closed⟩ := account.closed segment member
    exact ⟨notCurrent, name, content, kept _ _ found, closed⟩

theorem Accounted.closeSegment {core : RecordCore} {files : List (FileName × List UInt8)}
    (account : Accounted core files) (stopped : core.recordWriter = none) {file : Nat}
    (current : core.videoFile = some file) :
    Accounted { core with
      videoFile := none
      closedSegments := core.closedSegments ++
        [⟨file, core.aviSegmentFrames, core.aviSegmentBytes⟩] } files := by
  have idle : ∀ stream i, waitingFor { core with
      videoFile := none
      closedSegments := core.closedSegments ++
        [⟨file, core.aviSegmentFrames, core.aviSegmentBytes⟩] } stream i =
      waitingFor core stream i := by
    intro stream i
    rw [waitingFor_stopped stopped, waitingFor_stopped]
    exact stopped
  refine ⟨fun running => ?_, account.counted, account.noAudio, account.frameFile,
    account.packetFile, account.audioFile, ?_, nofun, ?_, ?_⟩
  · rw [stopped] at running
    cases running
  · intro i content found
    rw [idle]
    exact account.audio i content found
  · intro i segment content found
    rw [idle]
    exact account.video i segment content found
  · intro segment member
    refine ⟨nofun, ?_⟩
    rcases List.mem_append.mp member with old | new
    · exact (account.closed segment old).2
    · obtain rfl := List.mem_singleton.mp new
      obtain ⟨name, content, found, frames, counts⟩ := account.videoFile file current
      rw [waitingFor_stopped stopped] at frames
      have header : content ≠ [] := by
        rintro rfl
        have length := frames.length
        rw [List.length_nil] at length
        omega
      exact ⟨name, content, found, counts.counts, by rw [counts.length, frames.length], header,
        counts.short⟩

theorem Accounted.openSegment {core : RecordCore} {files : List (FileName × List UInt8)}
    (account : Accounted core files) (stopped : core.recordWriter = none) {file : Nat}
    {segment : UInt32} {content : List UInt8} {width height : UInt32} {fps : ℚ}
    (found : files[file]? = some (.video segment, content)) (none : framesOf core file = [])
    (holds : FramesIn [] [] content width height fps)
    (fresh : ∀ closed ∈ core.closedSegments, closed.file ≠ file) :
    Accounted { core with
      videoFile := some file
      aviSegmentWidth := width
      aviSegmentHeight := height
      aviSegmentFps := fps
      aviSegmentFrames := 0
      aviSegmentBytes := 216 } files := by
  have idle : ∀ stream i, waitingFor { core with
      videoFile := some file
      aviSegmentWidth := width
      aviSegmentHeight := height
      aviSegmentFps := fps
      aviSegmentFrames := 0
      aviSegmentBytes := 216 } stream i = waitingFor core stream i := by
    intro stream i
    rw [waitingFor_stopped stopped, waitingFor_stopped]
    exact stopped
  refine ⟨fun _ => rfl, account.counted, account.noAudio, account.frameFile, account.packetFile,
    account.audioFile, ?_, ?_, ?_, ?_⟩
  · intro i content found
    rw [idle]
    exact account.audio i content found
  · intro i opened
    obtain rfl := Option.some.inj opened
    refine ⟨segment, content, found, ?_, ?_⟩
    · rw [idle, waitingFor_stopped stopped]
      exact none ▸ holds
    · have short : (216 : UInt64) ≤ c64AviSegmentLimitBytes := by decide
      refine ⟨?_, ?_, short⟩
      · exact (congrArg List.length none).symm
      · have empty : (chunksOf (framesOf core file)).length = 0 := by rw [none]; rfl
        exact (congrArg (216 + ·) empty).symm
  · intro i segment content found
    rw [idle]
    exact account.video i segment content found
  · intro closed member
    obtain ⟨_, right⟩ := account.closed closed member
    exact ⟨fun same => fresh closed member (Option.some.inj same).symm, right⟩

theorem Accounted.closed_lt {core : RecordCore} {files : List (FileName × List UInt8)}
    (account : Accounted core files) {segment : ClosedSegment}
    (member : segment ∈ core.closedSegments) : segment.file < files.length := by
  obtain ⟨_, _, _, found, _⟩ := account.closed segment member
  exact (List.getElem?_eq_some_iff.mp found).1

end Segments

section Queueing

/-- A queue with one more node. -/
def RecordWriter.push (writer : RecordWriter) (node : WriteNode) : RecordWriter :=
  { writer with
    nodes := writer.nodes ++ [node]
    queuedBytes := writer.queuedBytes + node.data.length }

/-- Whether a queue has room for some bytes. -/
def RecordWriter.HasRoom (writer : RecordWriter) (data : List UInt8) : Prop :=
  ¬ (data.length > c64RecordWriterMaxBytes ∨
    writer.queuedBytes > c64RecordWriterMaxBytes - data.length)

theorem QueueCounted.push {writer : RecordWriter} (counted : QueueCounted writer)
    {node : WriteNode} (room : writer.HasRoom node.data) : QueueCounted (writer.push node) := by
  obtain ⟨sum, bound⟩ := counted
  unfold RecordWriter.HasRoom at room
  rw [QueueCounted, RecordWriter.push, List.map_append, List.sum_append, ← sum]
  simp only [List.map_cons, List.map_nil, List.sum_cons, List.sum_nil]
  omega

theorem c64RecordWriterEnqueue_cases (context : RecordContext) (stream : WriteStream)
    (data : List UInt8) (allocates : Bool) :
    c64RecordWriterEnqueue context stream data allocates = (context, false) ∨
      ∃ writer, context.recordWriter = some writer ∧ writer.HasRoom data ∧
        c64RecordWriterEnqueue context stream data allocates =
          ({ context with recordWriter := some (writer.push ⟨stream, data⟩) }, true) := by
  unfold c64RecordWriterEnqueue
  cases running : context.recordWriter with
  | none => exact .inl rfl
  | some writer =>
    simp only
    split
    · exact .inl rfl
    · split
      · exact .inl rfl
      · next room => exact .inr ⟨writer, rfl, room, rfl⟩

theorem waitingFor_push {core : RecordCore} {writer : RecordWriter}
    (running : core.recordWriter = some writer) (node : WriteNode) (stream : WriteStream)
    (file : Nat) :
    waitingFor { core with recordWriter := some (writer.push node) } stream file =
      waitingFor core stream file ++
        (if node.stream = stream ∧ core.openFile stream = some file then node.data else []) := by
  have same : ({ core with recordWriter := some (writer.push node) } : RecordCore).openFile
      stream = core.openFile stream := by cases stream <;> rfl
  unfold waitingFor waiting
  rw [same, running]
  simp only [RecordWriter.push, streamBytes_append]
  by_cases opened : core.openFile stream = some file <;> simp [opened]

theorem waitingFor_push_other {core : RecordCore} {writer : RecordWriter}
    (running : core.recordWriter = some writer) {node : WriteNode} {stream : WriteStream}
    (other : node.stream ≠ stream) (file : Nat) :
    waitingFor { core with recordWriter := some (writer.push node) } stream file =
      waitingFor core stream file := by
  rw [waitingFor_push running, if_neg fun both => other both.1, List.append_nil]

theorem packetsOf_append (core : RecordCore) (packet : AcceptedPacket) (file : Nat) :
    packetsOf { core with acceptedPackets := core.acceptedPackets ++ [packet] } file =
      packetsOf core file ++ (if packet.file = some file then packet.bytes else []) := by
  unfold packetsOf
  by_cases same : packet.file = some file <;> simp [same]

theorem framesOf_append (core : RecordCore) (frame : AcceptedFrame) (file : Nat) :
    framesOf { core with acceptedFrames := core.acceptedFrames ++ [frame] } file =
      framesOf core file ++ (if frame.segment = some file then [frame] else []) := by
  unfold framesOf
  by_cases same : frame.segment = some file <;> simp [same]

theorem Accounted.pushPacket {core : RecordCore} {files : List (FileName × List UInt8)}
    (account : Accounted core files) {writer : RecordWriter}
    (running : core.recordWriter = some writer) {data : List UInt8} (room : writer.HasRoom data)
    {file : Nat} (current : core.audioFile = some file) :
    Accounted { core with
      recordWriter := some (writer.push ⟨.audio, data⟩)
      acceptedPackets := core.acceptedPackets ++ [⟨core.audioFile, data⟩] } files := by
  have video := @waitingFor_push_other core writer running ⟨.audio, data⟩ .video nofun
  have packets := packetsOf_append core ⟨core.audioFile, data⟩
  refine ⟨fun _ => account.writerOpen (by rw [running]; rfl), ?_, ?_, account.frameFile, ?_,
    account.audioFile, ?_, ?_, ?_, account.closed⟩
  · intro writer' some
    obtain rfl := Option.some.inj some
    exact (account.counted writer running).push room
  · intro none
    exact absurd (current.symm.trans none) (by simp)
  · intro packet member i known
    rcases List.mem_append.mp member with old | new
    · exact account.packetFile packet old i known
    · obtain rfl := List.mem_singleton.mp new
      obtain ⟨content, found, _⟩ := account.audioFile i known
      exact (List.getElem?_eq_some_iff.mp found).1
  · intro i content found
    have pushed := waitingFor_push running ⟨.audio, data⟩ .audio i
    refine (congrArg (content.drop 44 ++ ·) pushed).trans (Eq.trans ?_ (packets i).symm)
    rw [← List.append_assoc, account.audio i content found]
    exact congrArg _ (if_congr (by simp [RecordCore.openFile]) rfl rfl)
  · intro i known
    obtain ⟨segment, content, found, frames, counts⟩ := account.videoFile i known
    exact ⟨segment, content, found, video i ▸ frames, counts⟩
  · intro i segment content found
    exact video i ▸ account.video i segment content found

theorem FramesIn.push {frames : List AcceptedFrame} {waits content : List UInt8}
    {width height : UInt32} {fps : ℚ} (holds : FramesIn frames waits content width height fps)
    {frame : AcceptedFrame}
    (format : frame.width = width ∧ frame.height = height ∧ frame.fps = fps) :
    FramesIn (frames ++ [frame]) (waits ++ aviFrameChunk frame.bytes) content width height
      fps where
  written := by
    obtain ⟨fileSize, frameCount, body, same, whole⟩ := holds.written
    refine ⟨fileSize, frameCount, body, same, ?_⟩
    rw [chunksOf_append, ← whole, List.append_assoc]
  format := by
    intro other member
    rcases List.mem_append.mp member with old | new
    · exact holds.format other old
    · obtain rfl := List.mem_singleton.mp new
      exact format

theorem Accounted.pushFrame {core : RecordCore} {files : List (FileName × List UInt8)}
    (account : Accounted core files) {writer : RecordWriter}
    (running : core.recordWriter = some writer) {frame : AcceptedFrame}
    (segment : frame.segment = core.videoFile)
    (format : frame.width = core.aviSegmentWidth ∧ frame.height = core.aviSegmentHeight ∧
      frame.fps = core.aviSegmentFps)
    (room : writer.HasRoom (aviFrameChunk frame.bytes)) {count : UInt32} {length : UInt64}
    (counts : ∀ file, core.videoFile = some file →
      SegmentCounted (framesOf core file ++ [frame]) count length) :
    Accounted { core with
      recordWriter := some (writer.push ⟨.video, aviFrameChunk frame.bytes⟩)
      aviSegmentFrames := count
      aviSegmentBytes := length
      acceptedFrames := core.acceptedFrames ++ [frame] } files := by
  have audio := @waitingFor_push_other core writer running ⟨.video, aviFrameChunk frame.bytes⟩
    .audio nofun
  have frames := framesOf_append core frame
  rw [segment] at frames
  have others : ∀ i, core.videoFile ≠ some i → framesOf { core with
      acceptedFrames := core.acceptedFrames ++ [frame] } i = framesOf core i := by
    intro i different
    rw [frames, if_neg different, List.append_nil]
  have here : ∀ i, core.videoFile = some i → ∀ content,
      FramesIn (framesOf core i) (waitingFor core .video i) content core.aviSegmentWidth
        core.aviSegmentHeight core.aviSegmentFps →
      FramesIn (framesOf { core with acceptedFrames := core.acceptedFrames ++ [frame] } i)
        (waitingFor { core with
          recordWriter := some (writer.push ⟨.video, aviFrameChunk frame.bytes⟩) } .video i)
        content core.aviSegmentWidth core.aviSegmentHeight core.aviSegmentFps := by
    intro i opened content holds
    rw [waitingFor_push running, if_pos ⟨rfl, opened⟩, frames, if_pos opened]
    exact holds.push format
  refine ⟨fun _ => account.writerOpen (by rw [running]; rfl), ?_, ?_, ?_, account.packetFile,
    account.audioFile, ?_, ?_, ?_, ?_⟩
  · intro writer' some
    obtain rfl := Option.some.inj some
    exact (account.counted writer running).push room
  · intro none
    have waits := account.noAudio none
    rw [waiting, running] at waits
    rw [waiting]
    simp only [RecordWriter.push, streamBytes_append]
    rw [if_neg nofun, List.append_nil]
    exact waits
  · intro other member i known
    rcases List.mem_append.mp member with old | new
    · exact account.frameFile other old i known
    · obtain rfl := List.mem_singleton.mp new
      obtain ⟨name, content, found, _⟩ := account.videoFile i (segment.symm.trans known)
      exact (List.getElem?_eq_some_iff.mp found).1
  · intro i content found
    exact audio i ▸ account.audio i content found
  · intro i known
    obtain ⟨name, content, found, holds, _⟩ := account.videoFile i known
    refine ⟨name, content, found, here i known content holds, ?_⟩
    exact ((frames i).trans (congrArg _ (if_pos known))) ▸ counts i known
  · intro i name content found
    by_cases known : core.videoFile = some i
    · obtain ⟨name', content', found', holds, _⟩ := account.videoFile i known
      obtain ⟨_, rfl⟩ := Prod.mk.inj (Option.some.inj (found.symm.trans found'))
      exact .inr ⟨_, _, _, here i known content holds⟩
    · have waits : waitingFor { core with
          recordWriter := some (writer.push ⟨.video, aviFrameChunk frame.bytes⟩) } .video i =
          waitingFor core .video i := by
        rw [waitingFor_push running, if_neg fun both => known both.2, List.append_nil]
      exact waits ▸ others i known ▸ account.video i name content found
  · intro closed member
    obtain ⟨different, name, content, found, right⟩ := account.closed closed member
    exact ⟨different, name, content, found, others closed.file different ▸ right⟩

end Queueing

section Counting

theorem aviFrameChunk_length (frame : List UInt8) :
    (aviFrameChunk frame).length = 8 + frame.length + frame.length % 2 := by
  have four : (text "00db").length = 4 := rfl
  unfold aviFrameChunk padding
  rw [List.length_append, List.length_append, List.length_append, four, le32_length]
  split
  · next odd => rw [odd]; rfl
  · rw [List.length_nil]
    omega

theorem chunkBytes_toNat {width height : UInt32} (valid : frameBytes width height ≤ 0xFFFFFFFF) :
    (chunkBytes width height).toNat =
      8 + (frameBytes width height).toNat + (frameBytes width height).toNat % 2 := by
  unfold chunkBytes
  generalize frameBytes width height = size at valid ⊢
  have bound : size.toNat ≤ 0xFFFFFFFF := UInt64.le_iff_toNat_le.mp valid
  have low : (size &&& 1).toNat = size.toNat % 2 := by
    rw [UInt64.toNat_and]
    exact Nat.and_one_is_mod _
  rw [UInt64.toNat_add, UInt64.toNat_add, low]
  simp only [UInt64.reduceToNat]
  omega

theorem length_le_chunksOf (frames : List AcceptedFrame) :
    8 * frames.length ≤ (chunksOf frames).length := by
  induction frames with
  | nil => exact Nat.zero_le _
  | cons frame frames ih =>
    have chunk := aviFrameChunk_length frame.bytes
    rw [chunksOf, List.flatMap_cons, List.length_append, List.length_cons]
    rw [chunksOf] at ih
    omega

theorem SegmentCounted.push {frames : List AcceptedFrame} {count : UInt32} {bytes : UInt64}
    (counted : SegmentCounted frames count bytes) {width height : UInt32} {frame : AcceptedFrame}
    (length : frame.bytes.length = (frameBytes width height).toNat)
    (valid : frameBytes width height ≤ 0xFFFFFFFF)
    (small : (aviFrameChunk frame.bytes).length ≤ c64RecordWriterMaxBytes)
    (room : (count > 0 && bytes + chunkBytes width height > c64AviSegmentLimitBytes) = false) :
    SegmentCounted (frames ++ [frame]) (count + 1) (bytes + chunkBytes width height) := by
  have limit : c64AviSegmentLimitBytes.toNat = 2130706432 := by decide
  have most : c64RecordWriterMaxBytes = 8388608 := rfl
  have chunk := aviFrameChunk_length frame.bytes
  rw [length, ← chunkBytes_toNat valid] at chunk
  have short := UInt64.le_iff_toNat_le.mp counted.short
  have many := length_le_chunksOf frames
  have counts := counted.counts
  have bytesEq := counted.length
  -- The sizes are far from wrapping around.
  have noWrap : (bytes + chunkBytes width height).toNat =
      bytes.toNat + (chunkBytes width height).toNat := by
    rw [UInt64.toNat_add]
    omega
  have within : (bytes + chunkBytes width height).toNat ≤ c64AviSegmentLimitBytes.toNat := by
    by_cases first : count.toNat = 0
    · have none : frames = [] := List.length_eq_zero_iff.mp (by omega)
      rw [none] at bytesEq
      have empty : (chunksOf []).length = 0 := rfl
      omega
    · have positive : decide (count > 0) = true := by
        rw [decide_eq_true_iff, gt_iff_lt, UInt32.lt_iff_toNat_lt]
        exact Nat.pos_of_ne_zero first
      rw [positive, Bool.true_and, decide_eq_false_iff_not, gt_iff_lt, UInt64.not_lt] at room
      exact UInt64.le_iff_toNat_le.mp room
  refine ⟨?_, ?_, UInt64.le_iff_toNat_le.mpr within⟩
  · rw [UInt32.toNat_add, counts, List.length_append, List.length_singleton,
      show (1 : UInt32).toNat = 1 from rfl]
    omega
  · rw [noWrap, bytesEq, chunksOf_append, List.length_append, chunk]
    omega

theorem queueFrame_accounted {context : RecordContext} (account : context.IsAccounted)
    (width : context.aviSegmentWidth = context.width)
    (height : context.aviSegmentHeight = context.height)
    (fps : context.aviSegmentFps = context.expectedFps)
    (valid : frameBytes context.width context.height ≤ 0xFFFFFFFF)
    (room : (context.aviSegmentFrames > 0 && context.aviSegmentBytes +
      chunkBytes context.width context.height > c64AviSegmentLimitBytes) = false)
    (pixels : List UInt32) (env : Environment) :
    (queueFrame context pixels env).IsAccounted := by
  unfold queueFrame
  cases context.bgrFrameBuffer with
  | none => exact account
  | some buffer =>
    simp only
    generalize overwrite buffer 0 _ = filled
    generalize frameEq : (List.range (frameBytes context.width context.height).toNat).map
      (fun index => filled.getD index 0) = frame
    have length : frame.length = (frameBytes context.width context.height).toNat := by
      rw [← frameEq, List.length_map, List.length_range]
    unfold c64RecordWriterEnqueueAviFrame
    rcases c64RecordWriterEnqueue_cases { context with bgrFrameBuffer := some filled } .video
        (aviFrameChunk frame) env.allocates with failed | ⟨writer, running, hasRoom, queued⟩
    · rw [failed]
      exact account
    · rw [queued]
      have small : (aviFrameChunk frame).length ≤ c64RecordWriterMaxBytes := by
        unfold RecordWriter.HasRoom at hasRoom
        omega
      have counts : ∀ file, context.videoFile = some file →
          SegmentCounted (framesOf context.toRecordCore file) context.aviSegmentFrames
            context.aviSegmentBytes := by
        intro file current
        obtain ⟨_, _, _, _, counted⟩ := account.videoFile file current
        exact counted
      let accepted : AcceptedFrame :=
        ⟨context.videoFile, context.width, context.height, context.expectedFps, frame⟩
      exact @Accounted.pushFrame _ _ account writer running accepted rfl
        ⟨width.symm, height.symm, fps.symm⟩ hasRoom _ _
        fun file current => (counts file current).push length valid small room

end Counting

end C64Stream
