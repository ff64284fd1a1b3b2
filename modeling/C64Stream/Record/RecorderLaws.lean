import C64Stream.Record.AviLaws
import C64Stream.Record.Recorder

/-! What the operations of a recording keep: the logs beside it, and the account of its files. -/

namespace C64Stream

section Names

variable {named : FileName → Prop}

/-- Whether a file is one of the logs beside a recording. -/
def FileName.isLog : FileName → Bool
  | .obsCsv | .networkCsv | .avSyncCsv => true
  | _ => false

/-- The paths and contents of some files. -/
def contents (files : List File) : List (FileName × List UInt8) :=
  files.map fun file => (file.path.name, file.content)

/-- A file that is open has a name of a kind. -/
def NamedIn (files : List File) (handle : Option Nat) (named : FileName → Prop) : Prop :=
  ∀ i, handle = some i → ∃ file, files[i]? = some file ∧ named file.path.name

theorem namedIn_none {files : List File} : NamedIn files none named := by
  intro i opened
  cases opened

/-- Nothing but logs changes among some files. -/
structure FilesBeside (before after : List File) : Prop where
  kept : ∀ (i : Nat) (file : File), before[i]? = some file → ∃ file', after[i]? = some file' ∧
    file'.path = file.path ∧ (file.path.name.isLog = false → file' = file)
  new : ∀ (i : Nat) (file' : File), after[i]? = some file' → before[i]? = none → file'.path.name.isLog = true

theorem FilesBeside.refl (files : List File) : FilesBeside files files where
  kept := fun _ file found => ⟨file, found, rfl, fun _ => rfl⟩
  new := fun _ _ found missing => by rw [missing] at found; cases found

theorem FilesBeside.trans {first second third : List File} (one : FilesBeside first second)
    (two : FilesBeside second third) : FilesBeside first third where
  kept := by
    intro i file found
    obtain ⟨file', found', path', same'⟩ := one.kept i file found
    obtain ⟨file'', found'', path'', same''⟩ := two.kept i file' found'
    refine ⟨file'', found'', path''.trans path', fun noLog => ?_⟩
    obtain rfl := same' noLog
    exact same'' noLog
  new := by
    intro i file'' found missing
    cases middle : second[i]? with
    | none => exact two.new i file'' found middle
    | some file' =>
      obtain ⟨other, found', path, _⟩ := two.kept i file' middle
      obtain rfl := Option.some.inj (found.symm.trans found')
      rw [path]
      exact one.new i file' middle missing

theorem FilesBeside.open (files : List File) {file : File} (log : file.path.name.isLog = true) :
    FilesBeside files (files ++ [file]) where
  kept := by
    intro i old found
    have small := (List.getElem?_eq_some_iff.mp found).1
    exact ⟨old, by rw [List.getElem?_append_left small, found], rfl, fun _ => rfl⟩
  new := by
    intro i new found missing
    have large := List.getElem?_eq_none_iff.mp missing
    rw [List.getElem?_append_right large, List.getElem?_singleton] at found
    split at found
    · rw [← Option.some.inj found]
      exact log
    · cases found

theorem FilesBeside.modify {files : List File} {handle : Option Nat} {i : Nat}
    {change : File → File} (named : NamedIn files handle (·.isLog = true)) (opened : handle = some i)
    (path : ∀ file, (change file).path = file.path) : FilesBeside files (files.modify i change) where
  kept := by
    intro j file found
    rw [List.getElem?_modify, found]
    split
    · next same =>
      subst same
      obtain ⟨log, foundLog, isLog⟩ := named i opened
      obtain rfl := Option.some.inj (found.symm.trans foundLog)
      refine ⟨change file, rfl, path file, fun noLog => ?_⟩
      rw [isLog] at noLog
      cases noLog
    · exact ⟨file, rfl, rfl, fun _ => rfl⟩
  new := by
    intro j file found missing
    rw [List.getElem?_modify, missing] at found
    cases found

/-- Every file keeps its number and its path. -/
def KeepsPaths (before after : List File) : Prop :=
  ∀ (i : Nat) (file : File), before[i]? = some file →
    ∃ file', after[i]? = some file' ∧ file'.path = file.path

theorem KeepsPaths.refl (files : List File) : KeepsPaths files files :=
  fun _ file found => ⟨file, found, rfl⟩

theorem KeepsPaths.trans {first second third : List File} (one : KeepsPaths first second)
    (two : KeepsPaths second third) : KeepsPaths first third := by
  intro i file found
  obtain ⟨file', found', path'⟩ := one i file found
  obtain ⟨file'', found'', path''⟩ := two i file' found'
  exact ⟨file'', found'', path''.trans path'⟩

theorem keepsPaths_modify (files : List File) (i : Nat) {change : File → File}
    (path : ∀ file, (change file).path = file.path) : KeepsPaths files (files.modify i change) := by
  intro j file found
  rw [List.getElem?_modify, found]
  by_cases same : i = j
  · exact ⟨change file, by simp [same], path file⟩
  · exact ⟨file, by simp [same], rfl⟩

theorem keepsPaths_open (files : List File) (new : File) : KeepsPaths files (files ++ [new]) := by
  intro j file found
  have small := (List.getElem?_eq_some_iff.mp found).1
  exact ⟨file, by rw [List.getElem?_append_left small, found], rfl⟩

theorem NamedIn.keeps {before after : List File} {handle : Option Nat}
    (names : NamedIn before handle named) (paths : KeepsPaths before after) :
    NamedIn after handle named := by
  intro i opened
  obtain ⟨file, found, named⟩ := names i opened
  obtain ⟨file', found', path⟩ := paths i file found
  exact ⟨file', found', by rw [path]; exact named⟩

theorem namedIn_opened (files : List File) (new : File) (name : named new.path.name) :
    NamedIn (files ++ [new]) (some files.length) named := by
  intro j opened
  obtain rfl := Option.some.inj opened
  exact ⟨new, List.getElem?_concat_length, name⟩

end Names

section Logs

variable {context : RecordContext}

/-- The open logs have names of logs. -/
structure LogsNamed (context : RecordContext) : Prop where
  timing : NamedIn context.files context.timingFile (·.isLog = true)
  network : NamedIn context.files context.networkFile (·.isLog = true)
  avSync : NamedIn context.files context.avSyncFile (·.isLog = true)

/-- A step of the logs and of the session, beside the recording proper. -/
structure LogStep (before after : RecordContext) : Prop where
  core : after.toRecordCore = before.toRecordCore
  video : after.recordVideo = before.recordVideo
  files : FilesBeside before.files after.files
  named : LogsNamed after

theorem LogStep.idle {before after : RecordContext} (named : LogsNamed before)
    (core : after.toRecordCore = before.toRecordCore)
    (video : after.recordVideo = before.recordVideo) (files : after.files = before.files)
    (timing : after.timingFile = before.timingFile)
    (network : after.networkFile = before.networkFile)
    (avSync : after.avSyncFile = before.avSyncFile) : LogStep before after where
  core := core
  video := video
  files := by rw [files]; exact .refl _
  named := by
    refine ⟨?_, ?_, ?_⟩
    · rw [files, timing]; exact named.timing
    · rw [files, network]; exact named.network
    · rw [files, avSync]; exact named.avSync

theorem LogStep.trans {first second third : RecordContext} (one : LogStep first second)
    (two : LogStep second third) : LogStep first third where
  core := two.core.trans one.core
  video := two.video.trans one.video
  files := one.files.trans two.files
  named := two.named

theorem c64SessionEnsureExists_logStep (named : LogsNamed context) (makesFolder : Bool) :
    LogStep context (c64SessionEnsureExists context makesFolder) := by
  unfold c64SessionEnsureExists
  split
  · exact .idle named rfl rfl rfl rfl rfl rfl
  · split <;> exact .idle named rfl rfl rfl rfl rfl rfl

theorem c64StartObsCsvRecording_logStep (named : LogsNamed context) (env : Environment) :
    LogStep context (c64StartObsCsvRecording context env) := by
  unfold c64StartObsCsvRecording
  split
  · exact .idle named rfl rfl rfl rfl rfl rfl
  · have session := c64SessionEnsureExists_logStep named env.timing.makesFolder
    simp only
    split
    · exact session
    · refine session.trans ⟨rfl, rfl, .open _ rfl, ⟨namedIn_opened _ _ rfl, ?_, ?_⟩⟩
      · exact session.named.network.keeps (keepsPaths_open _ _)
      · exact session.named.avSync.keeps (keepsPaths_open _ _)

theorem c64StartNetworkCsvRecording_logStep (named : LogsNamed context) (env : Environment) :
    LogStep context (c64StartNetworkCsvRecording context env) := by
  unfold c64StartNetworkCsvRecording
  split
  · exact .idle named rfl rfl rfl rfl rfl rfl
  · have session := c64SessionEnsureExists_logStep named env.network.makesFolder
    simp only
    split
    · exact session
    · refine session.trans ⟨rfl, rfl, .open _ rfl, ⟨?_, namedIn_opened _ _ rfl, ?_⟩⟩
      · exact session.named.timing.keeps (keepsPaths_open _ _)
      · exact session.named.avSync.keeps (keepsPaths_open _ _)

theorem c64StartAvSyncCsvRecording_logStep (named : LogsNamed context) (env : Environment) :
    LogStep context (c64StartAvSyncCsvRecording context env) := by
  unfold c64StartAvSyncCsvRecording
  split
  · exact .idle named rfl rfl rfl rfl rfl rfl
  · have session := c64SessionEnsureExists_logStep named env.avSync.makesFolder
    simp only
    split
    · exact session
    · refine session.trans ⟨rfl, rfl, .open _ rfl, ⟨?_, ?_, namedIn_opened _ _ rfl⟩⟩
      · exact session.named.timing.keeps (keepsPaths_open _ _)
      · exact session.named.network.keeps (keepsPaths_open _ _)

theorem fcloseIfOpen_logStep {handle : Option Nat} (named : LogsNamed context)
    (log : NamedIn context.files handle (·.isLog = true)) :
    LogStep context (fcloseIfOpen context handle) := by
  cases handle with
  | none => exact .idle named rfl rfl rfl rfl rfl rfl
  | some file =>
    refine ⟨rfl, rfl, .modify log rfl fun _ => rfl, ?_, ?_, ?_⟩
    · exact named.timing.keeps (keepsPaths_modify _ _ fun _ => rfl)
    · exact named.network.keeps (keepsPaths_modify _ _ fun _ => rfl)
    · exact named.avSync.keeps (keepsPaths_modify _ _ fun _ => rfl)

theorem c64StopObsCsvRecording_logStep (named : LogsNamed context) :
    LogStep context (c64StopObsCsvRecording context) := by
  have closed := fcloseIfOpen_logStep named named.timing
  exact ⟨closed.core, closed.video, closed.files, namedIn_none, closed.named.network, closed.named.avSync⟩

theorem c64StopNetworkCsvRecording_logStep (named : LogsNamed context) :
    LogStep context (c64StopNetworkCsvRecording context) := by
  have closed := fcloseIfOpen_logStep named named.network
  exact ⟨closed.core, closed.video, closed.files, closed.named.timing, namedIn_none, closed.named.avSync⟩

theorem c64StopAvSyncCsvRecording_logStep (named : LogsNamed context) :
    LogStep context (c64StopAvSyncCsvRecording context) := by
  have closed := fcloseIfOpen_logStep named named.avSync
  exact ⟨closed.core, closed.video, closed.files, closed.named.timing, closed.named.network, namedIn_none⟩

theorem stopLogs_logStep (named : LogsNamed context) :
    LogStep context (c64StopAvSyncCsvRecording (c64StopNetworkCsvRecording
      (c64StopObsCsvRecording context))) := by
  have obs := c64StopObsCsvRecording_logStep named
  have network := c64StopNetworkCsvRecording_logStep obs.named
  exact (obs.trans network).trans (c64StopAvSyncCsvRecording_logStep network.named)

theorem c64SessionCleanupIfNeeded_logStep (named : LogsNamed context) :
    LogStep context (c64SessionCleanupIfNeeded context) := by
  unfold c64SessionCleanupIfNeeded
  split
  · exact .idle named rfl rfl rfl rfl rfl rfl
  · have stopped := stopLogs_logStep named
    exact stopped.trans (.idle stopped.named rfl rfl rfl rfl rfl rfl)

theorem startLogs_logStep (named : LogsNamed context) (env : Environment) :
    LogStep context (c64StartNetworkCsvRecording (c64StartObsCsvRecording context env) env) := by
  have obs := c64StartObsCsvRecording_logStep named env
  exact obs.trans (c64StartNetworkCsvRecording_logStep obs.named env)

theorem updateRecordFrames_logStep (named : LogsNamed context) (record : Bool) :
    LogStep context (updateRecordFrames context record) := by
  have switched : LogStep context { context with recordFrames := record } :=
    .idle named rfl rfl rfl rfl rfl rfl
  unfold updateRecordFrames
  simp only
  split
  · exact switched.trans (c64SessionCleanupIfNeeded_logStep switched.named)
  · exact switched

theorem updateRecordCsv_logStep (named : LogsNamed context) (record : Bool) (env : Environment) :
    LogStep context (updateRecordCsv context record env) := by
  have switched : LogStep context { context with recordCsv := record } :=
    .idle named rfl rfl rfl rfl rfl rfl
  unfold updateRecordCsv
  split
  · exact .idle named rfl rfl rfl rfl rfl rfl
  · simp only
    split
    · exact switched.trans (startLogs_logStep switched.named env)
    · have obs := c64StopObsCsvRecording_logStep switched.named
      have network := c64StopNetworkCsvRecording_logStep obs.named
      exact ((switched.trans obs).trans network).trans
        (c64SessionCleanupIfNeeded_logStep network.named)

theorem updateRecordAvSync_logStep (named : LogsNamed context) (record : Bool) (env : Environment) :
    LogStep context (updateRecordAvSync context record env) := by
  unfold updateRecordAvSync
  split
  · exact .idle named rfl rfl rfl rfl rfl rfl
  · split
    · have started := c64StartAvSyncCsvRecording_logStep named env
      exact started.trans (.idle started.named rfl rfl rfl rfl rfl rfl)
    · have switched : LogStep context { context with recordAvSync := false } :=
        .idle named rfl rfl rfl rfl rfl rfl
      have stopped := c64StopAvSyncCsvRecording_logStep switched.named
      exact (switched.trans stopped).trans (c64SessionCleanupIfNeeded_logStep stopped.named)

theorem c64FramesSaveAsBmp_logStep (named : LogsNamed context) (env : Environment) :
    LogStep context (c64FramesSaveAsBmp context env) := by
  unfold c64FramesSaveAsBmp
  split
  · exact .idle named rfl rfl rfl rfl rfl rfl
  · have session := c64SessionEnsureExists_logStep named env.makesFolder
    simp only
    split
    · exact session
    · split
      · exact session.trans (startLogs_logStep session.named env)
      · exact session

end Logs

section Recordings

/-- A step of the recording proper, which leaves the open logs alone. -/
structure RecordingStep (before after : RecordContext) : Prop where
  paths : KeepsPaths before.files after.files
  timing : after.timingFile = before.timingFile
  network : after.networkFile = before.networkFile
  avSync : after.avSyncFile = before.avSyncFile
  width : after.width = before.width
  height : after.height = before.height
  fps : after.expectedFps = before.expectedFps

theorem RecordingStep.refl (context : RecordContext) : RecordingStep context context :=
  ⟨.refl _, rfl, rfl, rfl, rfl, rfl, rfl⟩

theorem RecordingStep.trans {first second third : RecordContext} (one : RecordingStep first second)
    (two : RecordingStep second third) : RecordingStep first third :=
  ⟨one.paths.trans two.paths, two.timing.trans one.timing, two.network.trans one.network,
    two.avSync.trans one.avSync, two.width.trans one.width, two.height.trans one.height,
    two.fps.trans one.fps⟩

theorem LogsNamed.recording {before after : RecordContext} (named : LogsNamed before)
    (step : RecordingStep before after) : LogsNamed after := by
  refine ⟨?_, ?_, ?_⟩
  · rw [step.timing]; exact named.timing.keeps step.paths
  · rw [step.network]; exact named.network.keeps step.paths
  · rw [step.avSync]; exact named.avSync.keeps step.paths

theorem openFile_recordingStep (context : RecordContext) (name : FileName)
    (content : List UInt8) : RecordingStep context (openFile context name content) :=
  ⟨keepsPaths_open _ _, rfl, rfl, rfl, rfl, rfl, rfl⟩

theorem modifyFile_recordingStep (context : RecordContext) (file : Nat) {change : File → File}
    (path : ∀ file, (change file).path = file.path) :
    RecordingStep context (modifyFile context file change) :=
  ⟨keepsPaths_modify _ _ path, rfl, rfl, rfl, rfl, rfl, rfl⟩

theorem fclose_recordingStep (context : RecordContext) (file : Nat) :
    RecordingStep context (fclose context file) :=
  modifyFile_recordingStep context file fun _ => rfl

end Recordings

section Turns

/-- The file of a stream, as the writer thread chooses it. -/
def RecordCore.openFile (core : RecordCore) : WriteStream → Option Nat
  | .audio => core.audioFile
  | .video => core.videoFile

/-- Refresh the header of a file, if it is time to. -/
def patchIfDue (context : RecordContext) (file : Nat) : Option UInt32 → RecordContext
  | none => context
  | some frameCount => patchFile context file frameCount

/-- The number of bytes of audio once so many bytes of a node were written. -/
def audioBytesAfter (bytes : UInt64) (node : WriteNode) (written : Nat) : UInt64 :=
  if node.stream = .audio ∧ written = node.data.length then
    bytes + UInt64.ofNat node.data.length
  else bytes

/-- What a turn of the writer thread does with the oldest node. -/
structure NodeTaken (context after : RecordContext) (capacity : Option Nat) (writer : RecordWriter)
    (node : WriteNode) (nodes : List WriteNode) (next : RecordWriter) : Prop where
  running : context.recordWriter = some writer
  nodesEq : writer.nodes = node :: nodes
  nextNodes : next.nodes = nodes
  nextBytes : next.queuedBytes = writer.queuedBytes - node.data.length
  result : (context.openFile node.stream = none ∧
      after = { context with recordWriter := some next }) ∨
    ∃ file due, context.openFile node.stream = some file ∧ (due.isSome → node.stream = .video) ∧
      after = patchIfDue
        { appendFile context file (fwrite node.data capacity) with
          recordWriter := some next
          recordedAudioBytes := audioBytesAfter context.recordedAudioBytes node
            (fwrite node.data capacity).length } file due

theorem c64RecordWriterThread_cases (context : RecordContext) (capacity : Option Nat) :
    (c64RecordWriterThread context capacity = context ∧
      ∀ writer, context.recordWriter = some writer → writer.nodes = []) ∨
    ∃ writer node nodes next, NodeTaken context (c64RecordWriterThread context capacity) capacity
      writer node nodes next := by
  unfold c64RecordWriterThread
  cases running : context.recordWriter with
  | none => exact .inl ⟨rfl, nofun⟩
  | some writer =>
    cases nodesEq : writer.nodes with
    | nil => exact .inl ⟨by simp only [nodesEq], fun _ some => by cases some; exact nodesEq⟩
    | cons node nodes =>
      right
      simp only [nodesEq]
      let taken (frames : UInt32) : RecordWriter :=
        ⟨nodes, writer.queuedBytes - node.data.length, frames⟩
      have opened : ∀ next, streamFile { context with recordWriter := some next } node.stream =
          context.openFile node.stream := by
        intro next
        cases node.stream <;> rfl
      rw [opened]
      cases target : context.openFile node.stream with
      | none =>
        exact ⟨writer, node, nodes, taken writer.videoFramesWritten, running, nodesEq, rfl, rfl,
          .inl ⟨target, rfl⟩⟩
      | some file =>
        simp only
        by_cases whole : (fwrite node.data capacity).length = node.data.length
        · rw [if_pos whole]
          unfold nodeWritten
          cases stream : node.stream with
          | audio =>
            have bytes : audioBytesAfter context.recordedAudioBytes node
                (fwrite node.data capacity).length =
                  context.recordedAudioBytes + UInt64.ofNat node.data.length :=
              if_pos ⟨stream, whole⟩
            refine ⟨writer, node, nodes, taken writer.videoFramesWritten, running, nodesEq, rfl,
              rfl, .inr ⟨file, none, target, nofun, ?_⟩⟩
            rw [bytes]
            rfl
          | video =>
            have noAudio : ∀ bytes written, audioBytesAfter bytes node written = bytes := by
              intro bytes written
              rw [audioBytesAfter, if_neg fun audio => ?_]
              rw [stream] at audio
              cases audio.1
            -- A video node is counted by the thread, and the header may be due.
            by_cases due : c64AviShouldUpdateHeader (writer.videoFramesWritten + 1)
                context.aviSegmentFps
            · refine ⟨writer, node, nodes, taken (writer.videoFramesWritten + 1), running,
                nodesEq, rfl, rfl, .inr ⟨file, some (writer.videoFramesWritten + 1), target, fun _ => stream, ?_⟩⟩
              rw [noAudio]
              exact if_pos due
            · refine ⟨writer, node, nodes, taken (writer.videoFramesWritten + 1), running,
                nodesEq, rfl, rfl, .inr ⟨file, none, target, nofun, ?_⟩⟩
              rw [noAudio]
              exact if_neg due
        · rw [if_neg whole]
          have bytes : audioBytesAfter context.recordedAudioBytes node
              (fwrite node.data capacity).length = context.recordedAudioBytes :=
            if_neg fun audio => whole audio.2
          refine ⟨writer, node, nodes, taken writer.videoFramesWritten, running, nodesEq, rfl,
            rfl, .inr ⟨file, none, target, nofun, ?_⟩⟩
          rw [bytes]
          rfl

/-- What the writer thread changes: the queue, the number of bytes of audio, and the files. -/
structure WriterStep (before after : RecordContext) : Prop where
  same : after = { before with
    recordWriter := after.recordWriter
    recordedAudioBytes := after.recordedAudioBytes
    files := after.files }
  paths : KeepsPaths before.files after.files

theorem WriterStep.refl (context : RecordContext) : WriterStep context context := ⟨rfl, .refl _⟩

theorem WriterStep.trans {first second third : RecordContext} (one : WriterStep first second)
    (two : WriterStep second third) : WriterStep first third where
  same := by
    have same := two.same
    rw [one.same] at same
    exact same
  paths := one.paths.trans two.paths

theorem WriterStep.recording {before after : RecordContext} (step : WriterStep before after) :
    RecordingStep before after := by
  have same := step.same
  refine ⟨step.paths, ?_, ?_, ?_, ?_, ?_, ?_⟩ <;> rw [same]

theorem c64RecordWriterThread_step (context : RecordContext) (capacity : Option Nat) :
    WriterStep context (c64RecordWriterThread context capacity) := by
  rcases c64RecordWriterThread_cases context capacity with
    ⟨idle, _⟩ | ⟨writer, node, nodes, next, taken⟩
  · rw [idle]
    exact .refl context
  · rcases taken.result with ⟨_, after⟩ | ⟨file, due, _, _, after⟩
    · rw [after]
      exact ⟨rfl, .refl _⟩
    · rw [after]
      have appended := @keepsPaths_modify context.files file
        (fun file => { file with content := file.content ++ fwrite node.data capacity })
        fun _ => rfl
      cases due with
      | none => exact ⟨rfl, appended⟩
      | some frameCount => exact ⟨rfl, appended.trans (keepsPaths_modify _ _ fun _ => rfl)⟩

theorem drainNodes_step (context : RecordContext) (nodes : List WriteNode)
    (capacities : List (Option Nat)) : WriterStep context (drainNodes context nodes capacities) := by
  induction nodes generalizing context capacities with
  | nil => exact .refl context
  | cons node nodes ih =>
    cases capacities with
    | nil => exact (c64RecordWriterThread_step context none).trans (ih _ _)
    | cons capacity capacities => exact (c64RecordWriterThread_step context capacity).trans (ih _ _)

theorem c64RecordWriterStop_step (context : RecordContext) (capacities : List (Option Nat)) :
    WriterStep context (c64RecordWriterStop context capacities) := by
  unfold c64RecordWriterStop
  cases context.recordWriter with
  | none => exact .refl context
  | some writer =>
    have drained := drainNodes_step context writer.nodes capacities
    refine ⟨?_, drained.paths⟩
    simp only
    rw [drained.same]

theorem c64RecordWriterStop_stopped (context : RecordContext) (capacities : List (Option Nat)) :
    (c64RecordWriterStop context capacities).recordWriter = none := by
  unfold c64RecordWriterStop
  cases running : context.recordWriter with
  | none => exact running
  | some writer => rfl

end Turns

end C64Stream
