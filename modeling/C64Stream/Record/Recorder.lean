import C64Stream.Record.Avi

/-! A recording: its session folder, its files, and the queue between packets and files. -/

namespace C64Stream

section Files

/-- The names of the files in a session folder: the segments of the video are numbered. -/
inductive FileName where
  | video (segment : UInt32)
  | audio
  | obsCsv
  | networkCsv
  | avSyncCsv
  deriving DecidableEq

/-- A session folder, numbered in order of creation, and a name in it. -/
structure FilePath where
  session : Option Nat
  name : FileName
  deriving DecidableEq

/-- A file that was opened for truncating write, and what became of it. -/
structure File where
  path : FilePath
  content : List UInt8
  /-- Whether the size of the audio data was written into its header. -/
  finalized : Bool
  closings : Nat
  /-- Whether the path had data when the file was opened. -/
  overwrote : Bool

/-- What a device takes of some bytes before it fails. -/
def fwrite (bytes : List UInt8) (capacity : Option Nat) : List UInt8 :=
  match capacity with
  | none => bytes
  | some count => bytes.take count

end Files

section Writer

/-- The two files that share the queue. -/
inductive WriteStream where
  | audio
  | video
  deriving DecidableEq

/-- Bytes that wait to be written. -/
structure WriteNode where
  stream : WriteStream
  data : List UInt8
  deriving DecidableEq

/-- The queue of the thread that writes files, oldest node first. -/
structure RecordWriter where
  nodes : List WriteNode
  queuedBytes : Nat
  videoFramesWritten : UInt32

def c64RecordWriterMaxBytes : Nat := 8 * 1024 * 1024

def c64AviSegmentLimitBytes : UInt64 := 2 * 1024 * 1024 * 1024 - 16 * 1024 * 1024

end Writer

section Context

/-- A frame that was accepted, with the segment that was current. -/
structure AcceptedFrame where
  segment : Option Nat
  width : UInt32
  height : UInt32
  fps : ℚ
  bytes : List UInt8

/-- A packet of samples that was accepted, with the audio file that was open. -/
structure AcceptedPacket where
  file : Option Nat
  bytes : List UInt8

/-- A segment that was closed, with what was counted for it. -/
structure ClosedSegment where
  file : Nat
  frames : UInt32
  bytes : UInt64

/-- The open files of a recording, the queue before them, and what is counted for them. Files are
known by the order in which they were opened. -/
structure RecordCore where
  videoFile : Option Nat
  audioFile : Option Nat
  recordWriter : Option RecordWriter
  aviSegmentIndex : UInt32
  aviSegmentWidth : UInt32
  aviSegmentHeight : UInt32
  aviSegmentFps : ℚ
  aviSegmentFrames : UInt32
  aviSegmentBytes : UInt64
  recordedAudioBytes : UInt64
  /-- What was accepted and closed, in order. -/
  acceptedFrames : List AcceptedFrame
  acceptedPackets : List AcceptedPacket
  closedSegments : List ClosedSegment

/-- The state of a recording. -/
structure RecordContext extends RecordCore where
  width : UInt32
  height : UInt32
  expectedFps : ℚ
  audioSampleRate : ℚ
  recordFrames : Bool
  recordVideo : Bool
  recordCsv : Bool
  recordAvSync : Bool
  sessionFolder : Option Nat
  timingFile : Option Nat
  networkFile : Option Nat
  avSyncFile : Option Nat
  bgrFrameBuffer : Option (List UInt8)
  /-- The session folders and the files there have been. -/
  sessions : Nat
  files : List File

/-- How opening a file in a session folder ends. -/
structure OpenOutcome where
  makesFolder : Bool
  opens : Bool
  deriving DecidableEq

/-- How the calls to the system end that an operation makes. -/
structure Environment where
  debugLogging : Bool
  timing : OpenOutcome
  network : OpenOutcome
  avSync : OpenOutcome
  makesFolder : Bool
  opensVideo : Bool
  opensAudio : Bool
  tells : Bool
  closes : Bool
  startsWriter : Bool
  allocates : Bool
  /-- What is written of headers, of waiting nodes, and of the sizes of the audio file. -/
  aviHeader : Option Nat
  wavHeader : Option Nat
  nodes : List (Option Nat)
  writesChunkSize : Bool
  writesDataSize : Bool
  deriving DecidableEq

/-- The calls to the system all succeed. -/
def Environment.working : Environment where
  debugLogging := false
  timing := ⟨true, true⟩
  network := ⟨true, true⟩
  avSync := ⟨true, true⟩
  makesFolder := true
  opensVideo := true
  opensAudio := true
  tells := true
  closes := true
  startsWriter := true
  allocates := true
  aviHeader := none
  wavHeader := none
  nodes := []
  writesChunkSize := true
  writesDataSize := true

/-- A recording before its first settings, for a source that has a format and a buffer. -/
def c64RecordInit (width height : UInt32) (fps sampleRate : ℚ) (buffer : Option (List UInt8)) :
    RecordContext where
  width := width
  height := height
  expectedFps := fps
  audioSampleRate := sampleRate
  recordFrames := false
  recordVideo := false
  recordCsv := false
  recordAvSync := false
  sessionFolder := none
  videoFile := none
  audioFile := none
  timingFile := none
  networkFile := none
  avSyncFile := none
  recordWriter := none
  aviSegmentIndex := 0
  aviSegmentWidth := 0
  aviSegmentHeight := 0
  aviSegmentFps := 0
  aviSegmentFrames := 0
  aviSegmentBytes := 0
  recordedAudioBytes := 0
  bgrFrameBuffer := buffer
  sessions := 0
  files := []
  acceptedFrames := []
  acceptedPackets := []
  closedSegments := []

end Context

section FileOperations

/-- Open a file in the session folder for truncating write; it gets the next number. -/
def openFile (context : RecordContext) (name : FileName) (content : List UInt8) : RecordContext :=
  let path : FilePath := ⟨context.sessionFolder, name⟩
  let hadData := context.files.any fun file => file.path = path && !file.content.isEmpty
  { context with files := context.files ++ [⟨path, content, false, 0, hadData⟩] }

/-- The number that the next file gets. -/
def nextFile (context : RecordContext) : Nat :=
  context.files.length

/-- Change a file. -/
def modifyFile (context : RecordContext) (file : Nat) (change : File → File) : RecordContext :=
  { context with files := context.files.modify file change }

/-- Close a file. -/
def fclose (context : RecordContext) (file : Nat) : RecordContext :=
  modifyFile context file fun file => { file with closings := file.closings + 1 }

/-- Close a file, if it is open. -/
def fcloseIfOpen (context : RecordContext) (file : Option Nat) : RecordContext :=
  match file with
  | none => context
  | some file => fclose context file

end FileOperations

section Session

/-- Ensure that there is a session folder. -/
def c64SessionEnsureExists (context : RecordContext) (makesFolder : Bool) : RecordContext :=
  if context.sessionFolder.isSome then context
  else if makesFolder then
    { context with sessionFolder := some context.sessions, sessions := context.sessions + 1 }
  else context

/-- Whether anything is being recorded. -/
def c64SessionAnyRecordingActive (context : RecordContext) : Bool :=
  context.recordFrames || context.recordVideo || context.recordCsv || context.recordAvSync

/-- Stop the log of frames. -/
def c64StopObsCsvRecording (context : RecordContext) : RecordContext :=
  { fcloseIfOpen context context.timingFile with timingFile := none }

/-- Stop the log of packets. -/
def c64StopNetworkCsvRecording (context : RecordContext) : RecordContext :=
  { fcloseIfOpen context context.networkFile with networkFile := none }

/-- Stop the log of synchronisation. -/
def c64StopAvSyncCsvRecording (context : RecordContext) : RecordContext :=
  { fcloseIfOpen context context.avSyncFile with avSyncFile := none }

/-- Leave the session folder when nothing is being recorded. -/
def c64SessionCleanupIfNeeded (context : RecordContext) : RecordContext :=
  if c64SessionAnyRecordingActive context then context
  else
    { c64StopAvSyncCsvRecording (c64StopNetworkCsvRecording (c64StopObsCsvRecording context)) with
      sessionFolder := none }

/-- The columns of the log of frames. -/
def obsCsvHeader (debugLogging : Bool) : List UInt8 :=
  text "event_type,frame_num,elapsed_us,data_size_bytes,fps,audio_samples_total," ++
    text "video_packets_received,audio_packets_received,sequence_errors" ++
    (if debugLogging then text ",is_all_white,has_signal" else []) ++ text "\n"

/-- The columns of the log of packets. -/
def networkCsvHeader (debugLogging : Bool) : List UInt8 :=
  text "packet_type,elapsed_us,sequence_num,frame_num,line_num,last_packet,packet_size," ++
    text "data_payload,jitter_us,packet_interval_us,total_video_packets,total_audio_packets," ++
    text "sequence_errors" ++ (if debugLogging then text ",is_all_white,has_signal" else []) ++
    text "\n"

/-- The columns of the log of synchronisation. -/
def avSyncCsvHeader : List UInt8 :=
  text "trigger,detected,obs_offset_ms,obs_video_seq,obs_audio_seq,obs_video_frame," ++
    text "obs_video_ts_ns,obs_audio_ts_ns,has_network_match,net_offset_ms,net_video_seq," ++
    text "net_audio_seq,net_video_frame,net_video_ts_ns,net_audio_ts_ns,net_to_obs_video_ms," ++
    text "net_to_obs_audio_ms\n"

/-- Start the log of frames, unless it is open. -/
def c64StartObsCsvRecording (context : RecordContext) (env : Environment) : RecordContext :=
  if context.timingFile.isSome then context
  else
    let context := c64SessionEnsureExists context env.timing.makesFolder
    if context.sessionFolder.isNone || !env.timing.opens then context
    else
      { openFile context .obsCsv (obsCsvHeader env.debugLogging) with
        timingFile := some (nextFile context) }

/-- Start the log of packets, unless it is open. -/
def c64StartNetworkCsvRecording (context : RecordContext) (env : Environment) : RecordContext :=
  if context.networkFile.isSome then context
  else
    let context := c64SessionEnsureExists context env.network.makesFolder
    if context.sessionFolder.isNone || !env.network.opens then context
    else
      { openFile context .networkCsv (networkCsvHeader env.debugLogging) with
        networkFile := some (nextFile context) }

/-- Start the log of synchronisation, unless it is open. -/
def c64StartAvSyncCsvRecording (context : RecordContext) (env : Environment) : RecordContext :=
  if context.avSyncFile.isSome then context
  else
    let context := c64SessionEnsureExists context env.avSync.makesFolder
    if context.sessionFolder.isNone || !env.avSync.opens then context
    else
      { openFile context .avSyncCsv avSyncCsvHeader with avSyncFile := some (nextFile context) }

end Session

section WriterThread

/-- The file of a stream. -/
def streamFile (context : RecordContext) : WriteStream → Option Nat
  | .audio => context.audioFile
  | .video => context.videoFile

/-- Whether the header is refreshed after so many frames, about once a second. -/
def c64AviShouldUpdateHeader (frameCount : UInt32) (fps : ℚ) : Bool :=
  let updatePeriod := truncateToUint32 (fps + 1 / 2)
  updatePeriod > 0 && frameCount % updatePeriod == 0

/-- Patch the header of a file. -/
def patchFile (context : RecordContext) (file : Nat) (frameCount : UInt32) : RecordContext :=
  modifyFile context file fun file =>
    { file with content := (c64AviPatchHeaderInplace file.content frameCount).1 }

/-- Append what is written of some bytes to a file. -/
def appendFile (context : RecordContext) (file : Nat) (bytes : List UInt8) : RecordContext :=
  modifyFile context file fun file => { file with content := file.content ++ bytes }

/-- Account for a node that was written to its file whole. -/
def nodeWritten (context : RecordContext) (writer : RecordWriter) (node : WriteNode) (file : Nat) :
    RecordContext :=
  match node.stream with
  | .audio =>
    { context with
      recordedAudioBytes := context.recordedAudioBytes + UInt64.ofNat node.data.length }
  | .video =>
    let framesWritten := writer.videoFramesWritten + 1
    let context :=
      { context with recordWriter := some { writer with videoFramesWritten := framesWritten } }
    if c64AviShouldUpdateHeader framesWritten context.aviSegmentFps then
      patchFile context file framesWritten
    else context

/-- One turn of the writer thread: take the oldest node from the queue and write it. -/
def c64RecordWriterThread (context : RecordContext) (capacity : Option Nat) : RecordContext :=
  match context.recordWriter with
  | none => context
  | some writer =>
    match writer.nodes with
    | [] => context
    | node :: nodes =>
      let writer :=
        { writer with nodes := nodes, queuedBytes := writer.queuedBytes - node.data.length }
      let context := { context with recordWriter := some writer }
      match streamFile context node.stream with
      | none => context
      | some file =>
        let written := fwrite node.data capacity
        let context := appendFile context file written
        if written.length = node.data.length then nodeWritten context writer node file
        else context

/-- The writer thread writes as many nodes as wait. -/
def drainNodes (context : RecordContext) : List WriteNode → List (Option Nat) → RecordContext
  | [], _ => context
  | _ :: nodes, [] => drainNodes (c64RecordWriterThread context none) nodes []
  | _ :: nodes, capacity :: capacities =>
    drainNodes (c64RecordWriterThread context capacity) nodes capacities

/-- Start the writer thread. -/
def c64RecordWriterStart (context : RecordContext) (starts : Bool) : RecordContext × Bool :=
  if context.recordWriter.isSome then (context, true)
  else if starts then ({ context with recordWriter := some ⟨[], 0, 0⟩ }, true)
  else (context, false)

/-- Stop the writer thread, which first writes what waits. -/
def c64RecordWriterStop (context : RecordContext) (capacities : List (Option Nat)) :
    RecordContext :=
  match context.recordWriter with
  | none => context
  | some writer =>
    { drainNodes context writer.nodes capacities with recordWriter := none }

/-- Queue some bytes, if there is room for them. -/
def c64RecordWriterEnqueue (context : RecordContext) (stream : WriteStream) (data : List UInt8)
    (allocates : Bool) : RecordContext × Bool :=
  match context.recordWriter with
  | none => (context, false)
  | some writer =>
    if data.length = 0 ∨ allocates = false then (context, false)
    else if data.length > c64RecordWriterMaxBytes ∨
        writer.queuedBytes > c64RecordWriterMaxBytes - data.length then (context, false)
    else
      let writer :=
        { writer with
          nodes := writer.nodes ++ [⟨stream, data⟩]
          queuedBytes := writer.queuedBytes + data.length }
      ({ context with recordWriter := some writer }, true)

/-- Queue a frame as a chunk. -/
def c64RecordWriterEnqueueAviFrame (context : RecordContext) (bgr : List UInt8)
    (allocates : Bool) : RecordContext × Bool :=
  c64RecordWriterEnqueue context .video (aviFrameChunk bgr) allocates

end WriterThread

section Video

/-- Whether a frame begins a new segment. -/
def c64AviSegmentNeedsRollover (segmentWidth segmentHeight : UInt32) (segmentFps : ℚ)
    (segmentFrames : UInt32) (segmentBytes : UInt64) (width height : UInt32) (fps : ℚ)
    (nextChunkBytes limitBytes : UInt64) : Bool :=
  segmentWidth != width || segmentHeight != height || segmentFps != fps ||
    (segmentFrames > 0 && segmentBytes + nextChunkBytes > limitBytes)

/-- Finalise the header of the current segment and close it. -/
def closeSegment (context : RecordContext) (file : Nat) : RecordContext :=
  { fclose (patchFile context file context.aviSegmentFrames) file with
    videoFile := none
    closedSegments := context.closedSegments ++
      [⟨file, context.aviSegmentFrames, context.aviSegmentBytes⟩] }

/-- Finalise the header of the current segment and close it, if there is one. -/
def closeSegmentIfOpen (context : RecordContext) : RecordContext :=
  match context.videoFile with
  | none => context
  | some file => closeSegment context file

/-- Finalise the current segment. -/
def c64VideoFinalizeSegmentLocked (context : RecordContext) (closes : Bool) :
    RecordContext × Bool :=
  (closeSegmentIfOpen context, context.videoFile.isNone || closes)

/-- Open the next segment and write its header. -/
def c64VideoOpenNextSegmentLocked (context : RecordContext) (width height : UInt32) (fps : ℚ)
    (env : Environment) : RecordContext × Bool :=
  if env.opensVideo = false then (context, false)
  else
    let file := nextFile context
    let header := fwrite (c64VideoWriteAviHeader width height fps) env.aviHeader
    let context := openFile context (.video context.aviSegmentIndex) header
    if env.tells = false then (fclose context file, false)
    else
      ({ context with
          videoFile := some file
          aviSegmentWidth := width
          aviSegmentHeight := height
          aviSegmentFps := fps
          aviSegmentFrames := 0
          aviSegmentBytes := UInt64.ofNat header.length }, true)

/-- Finalise the current segment and open the next one. -/
def c64VideoRollSegmentLocked (context : RecordContext) (width height : UInt32) (fps : ℚ)
    (env : Environment) : RecordContext × Bool :=
  let (context, closed) := c64VideoFinalizeSegmentLocked context env.closes
  if closed = false then (context, false)
  else
    c64VideoOpenNextSegmentLocked
      { context with aviSegmentIndex := context.aviSegmentIndex + 1 } width height fps env

/-- The bytes of a pixel without its alpha, blue first. -/
def bgrPixel (pixel : UInt32) : List UInt8 :=
  [(pixel >>> 16).toUInt8, (pixel >>> 8).toUInt8, pixel.toUInt8]

/-- The pixels of a frame without their alpha. -/
def c64VideoConvertRgbaToBgr24 (pixels : List UInt32) (width height : UInt32) : List UInt8 :=
  (List.range (width * height).toNat).flatMap fun index => bgrPixel (pixels.getD index 0)

/-- The bytes of a frame. -/
def frameBytes (width height : UInt32) : UInt64 :=
  width.toUInt64 * height.toUInt64 * 3

/-- The bytes of a frame as a chunk. -/
def chunkBytes (width height : UInt32) : UInt64 :=
  8 + frameBytes width height + (frameBytes width height &&& 1)

/-- Whether the next frame begins a new segment. -/
def rollsSegment (context : RecordContext) : Bool :=
  c64AviSegmentNeedsRollover context.aviSegmentWidth context.aviSegmentHeight
    context.aviSegmentFps context.aviSegmentFrames context.aviSegmentBytes context.width
    context.height context.expectedFps (chunkBytes context.width context.height)
    c64AviSegmentLimitBytes

/-- Whether a frame of the current format fits the size fields of a video. -/
def validGeometry (context : RecordContext) : Bool :=
  context.width != 0 && context.height != 0 &&
    frameBytes context.width context.height ≤ 0xFFFFFFFF

/-- Begin a new segment, with the writer thread stopped in between. -/
def rollSegment (context : RecordContext) (env : Environment) : RecordContext × Bool :=
  let context := c64RecordWriterStop context env.nodes
  let (context, rolled) :=
    c64VideoRollSegmentLocked context context.width context.height context.expectedFps env
  if rolled = false then ({ context with recordVideo := false }, false)
  else
    let (context, started) := c64RecordWriterStart context env.startsWriter
    if started = false then ({ context with recordVideo := false }, false)
    else (context, true)

/-- Queue a frame for the current segment, and count it. -/
def queueFrame (context : RecordContext) (pixels : List UInt32) (env : Environment) :
    RecordContext :=
  match context.bgrFrameBuffer with
  | none => context
  | some buffer =>
    let buffer :=
      overwrite buffer 0 (c64VideoConvertRgbaToBgr24 pixels context.width context.height)
    let frameSize := (frameBytes context.width context.height).toNat
    let frame := (List.range frameSize).map fun index => buffer.getD index 0
    let (queued, accepted) :=
      c64RecordWriterEnqueueAviFrame { context with bgrFrameBuffer := some buffer } frame
        env.allocates
    if accepted then
      { queued with
        aviSegmentFrames := queued.aviSegmentFrames + 1
        aviSegmentBytes := queued.aviSegmentBytes + chunkBytes context.width context.height
        acceptedFrames := queued.acceptedFrames ++
          [⟨queued.videoFile, context.width, context.height, context.expectedFps, frame⟩] }
    else queued

/-- Whether frames are being recorded, as it is checked without the lock. -/
def recordsFrames (context : RecordContext) : Bool :=
  context.recordVideo && context.videoFile.isSome

/-- Record a frame, with the lock held. -/
def c64VideoRecordFrame (context : RecordContext) (pixels : List UInt32) (env : Environment) :
    RecordContext :=
  if validGeometry context = false then context
  else if rollsSegment context then
    let (context, rolled) := rollSegment context env
    if rolled then queueFrame context pixels env else context
  else queueFrame context pixels env

/-- Stop the recording of the video. -/
def c64VideoStopRecording (context : RecordContext) (env : Environment) : RecordContext :=
  if context.videoFile.isNone then context
  else
    (c64VideoFinalizeSegmentLocked (c64RecordWriterStop context env.nodes) env.closes).1

end Video

section Audio

/-- The header of an audio file, before any data. -/
def c64AudioWriteWavHeader (sampleRate : UInt32) (channels bitsPerSample : UInt16) :
    List UInt8 :=
  let byteRate := sampleRate * channels.toUInt32 * bitsPerSample.toUInt32 / 8
  let blockAlign := channels * bitsPerSample / 8
  text "RIFF" ++ le32 36 ++ text "WAVE" ++ text "fmt " ++ le32 16 ++ le16 1 ++ le16 channels ++
    le32 sampleRate ++ le32 byteRate ++ le16 blockAlign ++ le16 bitsPerSample ++ text "data" ++
    le32 0

/-- Write the sizes of an audio file into its header, and tell whether that of its data is there. -/
def c64AudioFinalizeWavHeader (content : List UInt8) (dataSize : UInt64) (env : Environment) :
    List UInt8 × Bool :=
  let dataSize32 := if dataSize > 0xFFFFFFFF then 0xFFFFFFFF else dataSize.toUInt32
  let chunkSize := if dataSize > 0xFFFFFFFF - 36 then 0xFFFFFFFF else dataSize32 + 36
  if env.writesChunkSize = false then (content, false)
  else
    let content := overwrite content 4 (le32 chunkSize)
    if env.writesDataSize = false then (content, false)
    else (overwrite content 40 (le32 dataSize32), true)

/-- Finalise the audio file and close it. -/
def closeAudio (context : RecordContext) (file : Nat) (env : Environment) : RecordContext :=
  let bytes := context.recordedAudioBytes
  let finalized := modifyFile context file fun file =>
    { file with
      content := (c64AudioFinalizeWavHeader file.content bytes env).1
      finalized := (c64AudioFinalizeWavHeader file.content bytes env).2 }
  { fclose finalized file with audioFile := none }

/-- Finalise the audio file and close it, if it is open. -/
def closeAudioIfOpen (context : RecordContext) (env : Environment) : RecordContext :=
  match context.audioFile with
  | none => context
  | some file => closeAudio context file env

/-- Whether samples are being recorded, as it is checked without the lock. -/
def recordsAudio (context : RecordContext) : Bool :=
  context.recordVideo && context.audioFile.isSome

/-- Record a packet of samples, with the lock held. -/
def c64AudioRecordData (context : RecordContext) (data : List UInt8) (env : Environment) :
    RecordContext :=
  let (queued, accepted) := c64RecordWriterEnqueue context .audio data env.allocates
  if accepted then
    { queued with acceptedPackets := queued.acceptedPackets ++ [⟨queued.audioFile, data⟩] }
  else queued

end Audio

section Recording

/-- A recording with new files and counters. -/
def recordingOpened (context : RecordContext) (aviHeader wavHeader : List UInt8) :
    RecordContext :=
  let videoFile := nextFile context
  let context := openFile context (.video 0) aviHeader
  let audioFile := nextFile context
  { openFile context .audio wavHeader with
    videoFile := some videoFile
    audioFile := some audioFile
    recordedAudioBytes := 0
    aviSegmentIndex := 0
    aviSegmentWidth := context.width
    aviSegmentHeight := context.height
    aviSegmentFps := context.expectedFps
    aviSegmentFrames := 0
    aviSegmentBytes := 216 }

/-- A recording without files. -/
def recordingFailed (context : RecordContext) : RecordContext :=
  { context with videoFile := none, audioFile := none }

/-- Open the video and the audio of a recording and start the writer thread. -/
def openRecording (context : RecordContext) (env : Environment) : RecordContext × Bool :=
  let file := nextFile context
  if env.opensVideo = false then
    -- One file without the other is closed again.
    if env.opensAudio = false then (recordingFailed context, false)
    else (recordingFailed (fclose (openFile context .audio []) file), false)
  else if env.opensAudio = false then
    (recordingFailed (fclose (openFile context (.video 0) []) file), false)
  else
    let aviHeader := c64VideoWriteAviHeader context.width context.height context.expectedFps
    let wavHeader :=
      c64AudioWriteWavHeader (truncateToUint32 (context.audioSampleRate + 1 / 2)) 2 16
    let (context, started) :=
      c64RecordWriterStart
        (recordingOpened context (fwrite aviHeader env.aviHeader) (fwrite wavHeader env.wavHeader))
        env.startsWriter
    if started then (context, true)
    else
      (recordingFailed
        (fcloseIfOpen (fcloseIfOpen context context.videoFile) context.audioFile), false)

/-- Start recording, unless a video is open. -/
def c64StartVideoRecording (context : RecordContext) (env : Environment) : RecordContext × Bool :=
  if context.recordVideo = false ∨ context.videoFile.isSome then
    (context, context.videoFile.isSome)
  else
    let context := c64SessionEnsureExists context env.makesFolder
    if context.sessionFolder.isNone then (context, false)
    else
      let context :=
        if context.recordCsv then
          c64StartNetworkCsvRecording (c64StartObsCsvRecording context env) env
        else context
      openRecording context env

/-- Stop recording and finalise the files. -/
def c64StopVideoRecording (context : RecordContext) (env : Environment) : RecordContext :=
  if context.videoFile.isNone then context
  else
    let context := c64RecordWriterStop context env.nodes
    closeAudioIfOpen (c64VideoStopRecording context env) env

/-- Close whatever is open. -/
def c64RecordCleanup (context : RecordContext) (env : Environment) : RecordContext :=
  let context := closeSegmentIfOpen (c64RecordWriterStop context env.nodes)
  let context := closeAudioIfOpen context env
  c64StopAvSyncCsvRecording (c64StopNetworkCsvRecording (c64StopObsCsvRecording context))

/-- The switches of a recording, as they are set. -/
structure RecordSettings where
  recordFrames : Bool
  recordCsv : Bool
  recordAvSync : Bool
  recordVideo : Bool
  deriving DecidableEq

/-- Switch the saving of frames. -/
def updateRecordFrames (context : RecordContext) (record : Bool) : RecordContext :=
  let switched := { context with recordFrames := record }
  if context.recordFrames && !record then c64SessionCleanupIfNeeded switched else switched

/-- Switch the logs of frames and packets. -/
def updateRecordCsv (context : RecordContext) (record : Bool) (env : Environment) :
    RecordContext :=
  if record = context.recordCsv then context
  else
    let context := { context with recordCsv := record }
    if record then c64StartNetworkCsvRecording (c64StartObsCsvRecording context env) env
    else
      c64SessionCleanupIfNeeded (c64StopNetworkCsvRecording (c64StopObsCsvRecording context))

/-- Switch the log of synchronisation, which is on only while its file is open. -/
def updateRecordAvSync (context : RecordContext) (record : Bool) (env : Environment) :
    RecordContext :=
  if record = context.recordAvSync then context
  else if record then
    let context := c64StartAvSyncCsvRecording context env
    { context with recordAvSync := context.avSyncFile.isSome }
  else
    c64SessionCleanupIfNeeded (c64StopAvSyncCsvRecording { context with recordAvSync := false })

/-- Switch the recording of video and audio. -/
def updateRecordVideo (context : RecordContext) (record : Bool) (env : Environment) :
    RecordContext :=
  if record = context.recordVideo then context
  else
    let context := { context with recordVideo := record }
    if record then
      let (context, started) := c64StartVideoRecording context env
      if started then context
      else c64SessionCleanupIfNeeded { context with recordVideo := false }
    else c64SessionCleanupIfNeeded (c64StopVideoRecording context env)

/-- Apply settings: every switch in turn, each with its own outcomes. -/
def c64RecordUpdateSettings (context : RecordContext) (settings : RecordSettings)
    (csv avSync video : Environment) : RecordContext :=
  let context := updateRecordFrames context settings.recordFrames
  let context := updateRecordCsv context settings.recordCsv csv
  let context := updateRecordAvSync context settings.recordAvSync avSync
  updateRecordVideo context settings.recordVideo video

/-- Prepare the session for a frame that is saved as a picture. -/
def c64FramesSaveAsBmp (context : RecordContext) (env : Environment) : RecordContext :=
  if context.recordFrames = false then context
  else
    let context := c64SessionEnsureExists context env.makesFolder
    if context.sessionFolder.isNone then context
    else if context.recordCsv then
      c64StartNetworkCsvRecording (c64StartObsCsvRecording context env) env
    else context

end Recording

end C64Stream
