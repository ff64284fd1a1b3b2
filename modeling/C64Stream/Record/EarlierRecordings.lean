import C64Stream.Record.Session

/-! When a recording leaves earlier recordings in its session folder alone. -/

namespace C64Stream

section Segments

variable {context : RecordContext}

theorem SessionSound.openRecorded (sound : SessionSound context) {name : FileName}
    (noLog : name.isLog = false) (free : NoData context name)
    (current : ∀ segment, context.aviSegmentIndex < segment → name ≠ .video segment)
    (session : context.sessionFolder.isSome) (content : List UInt8) :
    SessionSound (openFile context name content) where
  folder := sound.folder
  files := by
    intro i file folder found path
    rcases openFile_cases found with old | ⟨_, newPath, _, _⟩
    · exact sound.files i file folder old path
    · rw [newPath] at path
      exact sound.folder folder path
  video := sound.video.keeps (keepsPaths_open _ _)
  audio := sound.audio.keeps (keepsPaths_open _ _)
  videos := fun segment behind =>
    openFile_noData (current segment behind) content (sound.videos segment behind)
  timing := by
    intro csv closed
    refine openFile_noData ?_ content (sound.timing csv closed)
    rintro rfl
    cases noLog
  network := by
    intro csv closed
    refine openFile_noData ?_ content (sound.network csv closed)
    rintro rfl
    cases noLog
  intact := openFile_intact sound.intact (fun _ => free) session content

theorem c64VideoOpenNextSegmentLocked_sound (sound : SessionSound context)
    (free : NoData context (.video context.aviSegmentIndex))
    (session : context.sessionFolder.isSome) (width height : UInt32) (fps : ℚ) (env : Environment) :
    SessionSound (c64VideoOpenNextSegmentLocked context width height fps env).1 := by
  unfold c64VideoOpenNextSegmentLocked
  split
  · exact sound
  simp only
  have opened := sound.openRecorded rfl free
    (fun segment behind same => UInt32.lt_irrefl _ (FileName.video.inj same ▸ behind)) session
    (fwrite (c64VideoWriteAviHeader width height fps) env.aviHeader)
  split
  · exact (fclose_writeStep _ _).sound opened
  · exact ⟨opened.folder, opened.files, namedIn_opened _ _ rfl, opened.audio, opened.videos,
      opened.timing, opened.network, opened.intact⟩

theorem SessionSound.switchVideo (sound : SessionSound context) (record : Bool) :
    SessionSound { context with recordVideo := record } :=
  ⟨sound.folder, sound.files, sound.video, sound.audio, sound.videos, sound.timing, sound.network,
    sound.intact⟩

theorem segment_lt_next {index : UInt32} (room : index ≠ 0xFFFFFFFF) : index < index + 1 := by
  have small := index.toNat_lt
  have notLast : index.toNat ≠ 0xFFFFFFFF := fun last => room (UInt32.toNat_inj.mp last)
  rw [UInt32.lt_iff_toNat_lt, UInt32.toNat_add, UInt32.toNat_one]
  omega

theorem rollSegment_sound (sound : SessionSound context) (session : context.sessionFolder.isSome)
    (room : context.aviSegmentIndex ≠ 0xFFFFFFFF) (env : Environment) :
    SessionSound (rollSegment context env).1 := by
  have stopped := c64RecordWriterStop_writeStep context env.nodes
  have closed := stopped.trans (closeSegmentIfOpen_writeStep _)
  have noVideo : (closeSegmentIfOpen (c64RecordWriterStop context env.nodes)).videoFile = none := by
    unfold closeSegmentIfOpen
    split
    · assumption
    · rfl
  unfold rollSegment c64VideoRollSegmentLocked c64VideoFinalizeSegmentLocked
  simp only
  generalize c64RecordWriterStop context env.nodes = stop at stopped closed noVideo ⊢
  generalize closeSegmentIfOpen stop = next at closed noVideo ⊢
  have after := closed.sound sound
  split
  · exact after.switchVideo false
  -- The next segment has no data, since it is behind the one that was closed.
  have behind : next.aviSegmentIndex < next.aviSegmentIndex + 1 := by
    rw [closed.segment]
    exact segment_lt_next room
  have ready : SessionSound { next with aviSegmentIndex := next.aviSegmentIndex + 1 } :=
    ⟨after.folder, after.files, (by rw [noVideo]; exact namedIn_none), after.audio,
      fun segment later => after.videos segment (UInt32.lt_trans behind later), after.timing, after.network, after.intact⟩
  have opened := c64VideoOpenNextSegmentLocked_sound ready (after.videos _ behind)
    (by rw [show next.sessionFolder = _ from closed.folder]; exact session) stop.width stop.height
    stop.expectedFps env
  split
  · exact opened.switchVideo false
  have started := (c64RecordWriterStart_writeStep _ env.startsWriter).sound opened
  split
  · exact started.switchVideo false
  · exact started

theorem c64VideoRecordFrame_sound (sound : SessionSound context) (pixels : List UInt32)
    (env : Environment)
    (rolls : validGeometry context = true → rollsSegment context = true →
      context.sessionFolder.isSome ∧ context.aviSegmentIndex ≠ 0xFFFFFFFF) :
    SessionSound (c64VideoRecordFrame context pixels env) := by
  unfold c64VideoRecordFrame
  split
  · exact sound
  next valid =>
  split
  · next new =>
    obtain ⟨session, room⟩ := rolls (by simpa using valid) new
    have rolled := rollSegment_sound sound session room env
    simp only
    split
    · exact (queueFrame_writeStep _ pixels env).sound rolled
    · exact rolled
  · exact (queueFrame_writeStep context pixels env).sound sound

end Segments

section Recordings

variable {context : RecordContext}

theorem recordingFailed_sound (sound : SessionSound context) :
    SessionSound (recordingFailed context) := by
  have closed : WriteStep context (recordingFailed context) :=
    ⟨rfl, rfl, rfl, rfl, rfl, rfl, nofun, nofun, .refl _ _⟩
  exact closed.sound sound

theorem recordingOpened_sound (sound : SessionSound context) (free : NoVideo context)
    (session : context.sessionFolder.isSome) (aviHeader wavHeader : List UInt8) :
    SessionSound (recordingOpened context aviHeader wavHeader) := by
  -- The segments are numbered from zero again, and all are free.
  have restarted : SessionSound { recordingFailed context with aviSegmentIndex := 0 } := by
    have failed := recordingFailed_sound sound
    exact ⟨failed.folder, failed.files, namedIn_none, namedIn_none, fun segment _ => free.1 segment,
      failed.timing, failed.network, failed.intact⟩
  have video := @SessionSound.openRecorded _ restarted (.video 0) rfl (free.1 0)
    (fun segment behind same => by
      rw [← FileName.video.inj same] at behind
      exact UInt32.lt_irrefl _ behind) session aviHeader
  have noAudio : NoData (openFile { recordingFailed context with aviSegmentIndex := 0 } (.video 0)
      aviHeader) .audio := by
    refine openFile_noData ?_ aviHeader free.2
    rintro same
    cases same
  have audio := @SessionSound.openRecorded _ video .audio rfl noAudio nofun session wavHeader
  have named : NamedIn (openFile context (.video 0) aviHeader).files (some (nextFile context))
      (· = .video 0) := namedIn_opened _ _ rfl
  exact ⟨audio.folder, audio.files, named.keeps (keepsPaths_open _ _), namedIn_opened _ _ rfl,
    audio.videos, audio.timing, audio.network, audio.intact⟩

theorem openRecording_sound (sound : SessionSound context) (free : NoVideo context)
    (session : context.sessionFolder.isSome) (env : Environment) :
    SessionSound (openRecording context env).1 := by
  have noLater : ∀ segment, context.aviSegmentIndex < segment →
      FileName.video 0 ≠ .video segment := by
    rintro segment behind same
    rw [← FileName.video.inj same] at behind
    exact UInt32.not_lt_zero behind
  unfold openRecording
  simp only
  split
  · split
    · exact recordingFailed_sound sound
    · have opened := @SessionSound.openRecorded _ sound .audio rfl free.2 nofun session []
      exact recordingFailed_sound ((fclose_writeStep _ _).sound opened)
  split
  · have opened := @SessionSound.openRecorded _ sound (.video 0) rfl (free.1 0) noLater session []
    exact recordingFailed_sound ((fclose_writeStep _ _).sound opened)
  have opened := recordingOpened_sound sound free session
    (fwrite (c64VideoWriteAviHeader context.width context.height context.expectedFps) env.aviHeader)
    (fwrite (c64AudioWriteWavHeader (truncateToUint32 (context.audioSampleRate + 1 / 2)) 2 16)
      env.wavHeader)
  have started := (c64RecordWriterStart_writeStep _ env.startsWriter).sound opened
  split
  · exact started
  · refine recordingFailed_sound (@WriteStep.sound _ _ (fcloseIfOpen_writeStep _ _) ?_)
    exact (fcloseIfOpen_writeStep _ _).sound started

theorem startLogs_kept (sound : SessionSound context) (csv : context.recordCsv = true)
    (env : Environment) :
    LogKept context (c64StartNetworkCsvRecording (c64StartObsCsvRecording context env) env)
      (·.isLog = false) := by
  have obs := c64StartObsCsvRecording_kept sound (sound.timing csv) env
  have network := c64StartNetworkCsvRecording_kept obs.sound
    (obs.sound.network (by rw [obs.beside.recordCsv, csv])) env
  refine (obs.trans network).weaken fun name noLog => ⟨?_, ?_⟩ <;>
  · rintro rfl
    cases noLog

theorem c64StartVideoRecording_sound (sound : SessionSound context)
    (free : context.recordVideo = true → context.videoFile = none → NoVideo context)
    (env : Environment) : SessionSound (c64StartVideoRecording context env).1 := by
  unfold c64StartVideoRecording
  split
  · exact sound
  next starts =>
  rw [not_or] at starts
  have free := free (by simpa using starts.1) (by simpa using starts.2)
  have session := c64SessionEnsureExists_kept sound env.makesFolder
  have free : NoVideo (c64SessionEnsureExists context env.makesFolder) :=
    ⟨fun segment => session.noData _ trivial (free.1 segment), session.noData _ trivial free.2⟩
  have sound := session.sound
  simp only
  generalize c64SessionEnsureExists context env.makesFolder = next at sound free ⊢
  split
  · exact sound
  next folder =>
  have folder : next.sessionFolder.isSome := by simpa [Option.isSome_iff_ne_none] using folder
  split
  · next csv =>
    have logs := startLogs_kept sound csv env
    refine openRecording_sound logs.sound ⟨fun segment => ?_, ?_⟩ ?_ env
    · exact logs.noData _ rfl (free.1 segment)
    · exact logs.noData _ rfl free.2
    · rw [logs.folder folder]
      exact folder
  · exact openRecording_sound sound free folder env

theorem updateRecordVideo_sound (sound : SessionSound context) {record : Bool}
    (free : record = true → context.recordVideo = false →
      context.videoFile = none → NoVideo context) (env : Environment) :
    SessionSound (updateRecordVideo context record env) := by
  unfold updateRecordVideo
  split
  · exact sound
  next changes =>
  have switched := sound.switchVideo record
  simp only
  split
  · next on =>
    subst on
    have started := c64StartVideoRecording_sound switched
      (fun _ => free rfl (by simpa using Ne.symm changes)) env
    split
    · exact started
    · exact (c64SessionCleanupIfNeeded_kept (started.switchVideo false)).1
  · have stopped := (c64StopVideoRecording_writeStep _ env).sound switched
    exact (c64SessionCleanupIfNeeded_kept stopped).1

theorem c64FramesSaveAsBmp_sound (sound : SessionSound context) (env : Environment) :
    SessionSound (c64FramesSaveAsBmp context env) := by
  unfold c64FramesSaveAsBmp
  split
  · exact sound
  have session := (c64SessionEnsureExists_kept sound env.makesFolder).sound
  simp only
  split
  · exact session
  split
  · next csv => exact (startLogs_kept session csv env).sound
  · exact session

theorem c64RecordCleanup_sound (sound : SessionSound context)
    (free : context.recordCsv = true →
      NoData context .obsCsv ∧ NoData context .networkCsv) (env : Environment) :
    SessionSound (c64RecordCleanup context env) := by
  have written := ((c64RecordWriterStop_writeStep context env.nodes).trans
    (closeSegmentIfOpen_writeStep _)).trans (closeAudioIfOpen_writeStep _ env)
  unfold c64RecordCleanup
  simp only
  generalize closeAudioIfOpen (closeSegmentIfOpen (c64RecordWriterStop context env.nodes)) env =
    next at written ⊢
  have stopped := ((c64StopObsCsvRecording_stopped next).trans
    (c64StopNetworkCsvRecording_stopped _)).trans (c64StopAvSyncCsvRecording_stopped _)
  refine stopped.sound (written.sound sound) (fun csv _ => ?_) fun csv _ => ?_
  · exact written.noData sound nofun nofun (free (written.recordCsv.symm.trans csv)).1
  · exact written.noData sound nofun nofun (free (written.recordCsv.symm.trans csv)).2

end Recordings

section Runs

/-- Whether the session ends because the saving of frames is switched off. -/
def framesEndSession (context : RecordContext) (settings : RecordSettings) : Bool :=
  context.recordFrames && !settings.recordFrames && !context.recordVideo && !context.recordCsv &&
    !context.recordAvSync

/-- Whether the session ends before it is looked whether video is switched on: the last recording
is switched off, of the frames, of their logs, or of the synchronisation. -/
def switchesEndSession (context : RecordContext) (settings : RecordSettings) : Bool :=
  framesEndSession context settings ||
    (!context.recordVideo && !settings.recordFrames && !settings.recordCsv &&
      ((context.recordCsv && !context.recordAvSync) ||
        (context.recordAvSync && !settings.recordAvSync)))

/-- When a step leaves earlier recordings alone: logs and video are switched on in a session that
has none of them yet, and a segment that is begun has a session and a number of its own. -/
def KeepsRecordings (system : RecordSystem) : RecordOp → Prop
  | .recordFrame _ _ =>
    system.pending = some .video → validGeometry system.context = true →
      rollsSegment system.context = true →
        system.context.sessionFolder.isSome ∧ system.context.aviSegmentIndex ≠ 0xFFFFFFFF
  | .updateSettings settings _ _ _ =>
    (settings.recordCsv = true → system.context.recordCsv = false →
      framesEndSession system.context settings = false →
        NoData system.context .obsCsv ∧ NoData system.context .networkCsv) ∧
    (settings.recordVideo = true → system.context.recordVideo = false →
      system.context.videoFile = none → switchesEndSession system.context settings = false →
        NoVideo system.context)
  | .cleanup _ => system.context.recordCsv = true →
      NoData system.context .obsCsv ∧ NoData system.context .networkCsv
  | _ => True

theorem noVideo_none {context : RecordContext} (none : context.sessionFolder = none) :
    NoVideo context :=
  ⟨fun _ => noData_none none _, noData_none none _⟩

theorem c64RecordUpdateSettings_sound {context : RecordContext} (sound : SessionSound context)
    {settings : RecordSettings} (logsFree : settings.recordCsv = true →
      context.recordCsv = false → framesEndSession context settings = false →
        NoData context .obsCsv ∧ NoData context .networkCsv)
    (videoFree : settings.recordVideo = true → context.recordVideo = false →
      context.videoFile = none → switchesEndSession context settings = false → NoVideo context)
    (csv avSync video : Environment) :
    SessionSound (c64RecordUpdateSettings context settings csv avSync video) := by
  obtain ⟨frames, framesOn, csvSame, avSyncSame, framesEnd⟩ :=
    updateRecordFrames_kept sound settings.recordFrames
  unfold c64RecordUpdateSettings
  simp only
  generalize updateRecordFrames context settings.recordFrames = one at *
  have logsFree : settings.recordCsv = true → one.recordCsv = false →
      NoData one .obsCsv ∧ NoData one .networkCsv := by
    intro on off
    rw [csvSame] at off
    cases ended : framesEndSession context settings with
    | false =>
      obtain ⟨obs, network⟩ := logsFree on off ended
      exact ⟨frames.noData _ trivial obs, frames.noData _ trivial network⟩
    | true =>
      simp only [framesEndSession, Bool.and_eq_true, Bool.not_eq_true'] at ended
      obtain ⟨⟨⟨⟨saved, stops⟩, noVideo⟩, noCsv⟩, noSync⟩ := ended
      have left := framesEnd saved stops noVideo noCsv noSync
      exact ⟨noData_none left _, noData_none left _⟩
  obtain ⟨logs, framesSame, csvOn, avSyncSame', csvEnd⟩ :=
    updateRecordCsv_kept frames.sound logsFree csv
  generalize updateRecordCsv one settings.recordCsv csv = two at *
  obtain ⟨synced, avSyncEnd⟩ := updateRecordAvSync_kept logs.sound settings.recordAvSync avSync
  generalize updateRecordAvSync two settings.recordAvSync avSync = three at *
  refine updateRecordVideo_sound synced.sound (fun on off closed => ?_) video
  rw [synced.recordVideo, logs.recordVideo, frames.recordVideo] at off
  rw [synced.core, logs.core, frames.core] at closed
  have fromOne : NoVideo one → NoVideo two := fun free =>
    ⟨fun segment => logs.noData _ rfl (free.1 segment), logs.noData _ rfl free.2⟩
  have fromTwo : NoVideo two → NoVideo three := fun free =>
    ⟨fun segment => synced.noData _ rfl (free.1 segment), synced.noData _ rfl free.2⟩
  by_cases ended : switchesEndSession context settings = false
  · have free := videoFree on off closed ended
    refine fromTwo (fromOne ⟨fun segment => ?_, ?_⟩)
    · exact frames.noData _ trivial (free.1 segment)
    · exact frames.noData _ trivial free.2
  -- One of the three switches has ended the session, and a later one may have begun another.
  simp only [switchesEndSession, framesEndSession, Bool.not_eq_false, Bool.or_eq_true,
    Bool.and_eq_true, Bool.not_eq_true'] at ended
  rcases ended with ⟨⟨⟨⟨saved, stops⟩, _⟩, noCsv⟩, noSync⟩ |
    ⟨⟨⟨_, stops⟩, noCsv⟩, ⟨logged, noSync⟩ | ⟨synced, noSync⟩⟩
  · exact fromTwo (fromOne (noVideo_none (framesEnd saved stops off noCsv noSync)))
  · refine fromTwo (noVideo_none (csvEnd ?_ noCsv ?_ ?_ ?_))
    · rw [csvSame, logged]
    · rw [framesOn, stops]
    · rw [frames.recordVideo, off]
    · rw [avSyncSame, noSync]
  · refine noVideo_none (avSyncEnd ?_ noSync ?_ ?_ ?_)
    · rw [avSyncSame', avSyncSame, synced]
    · rw [framesSame, framesOn, stops]
    · rw [logs.recordVideo, frames.recordVideo, off]
    · rw [csvOn, noCsv]

theorem recordStep_sessionSound {system : RecordSystem} (sound : SessionSound system.context)
    {op : RecordOp} (keeps : KeepsRecordings system op) :
    SessionSound (recordStep system op).context := by
  cases op with
  | setFormat width height fps =>
    exact ⟨sound.folder, sound.files, sound.video, sound.audio, sound.videos, sound.timing,
      sound.network, sound.intact⟩
  | saveFrame env => exact c64FramesSaveAsBmp_sound sound env
  | checkFrame =>
    rw [recordStep]
    split <;> exact sound
  | recordFrame pixels env =>
    rw [recordStep]
    split
    · next pending => exact c64VideoRecordFrame_sound sound pixels env (keeps pending)
    · exact sound
  | checkAudio =>
    rw [recordStep]
    split <;> exact sound
  | recordAudio data env =>
    rw [recordStep]
    split
    · exact (c64AudioRecordData_writeStep _ data env).sound sound
    · exact sound
  | write capacity => exact (c64RecordWriterThread_writeStep _ capacity).sound sound
  | updateSettings settings csv avSync video =>
    exact c64RecordUpdateSettings_sound sound keeps.1 keeps.2 csv avSync video
  | cleanup env => exact c64RecordCleanup_sound sound keeps env

/-- In every recording whose steps leave earlier recordings alone, no video, audio or log that has
data is opened for truncating write again. -/
theorem recording_nothingDestroyed (width height : UInt32) (fps sampleRate : ℚ)
    (buffer : Option (List UInt8)) (ops : List RecordOp)
    (keeps : EachStep recordStep KeepsRecordings
      ⟨c64RecordInit width height fps sampleRate buffer, none⟩ ops) :
    Always recordStep (fun system => NothingDestroyed system.context)
      ⟨c64RecordInit width height fps sampleRate buffer, none⟩ ops := by
  have start : SessionSound (c64RecordInit width height fps sampleRate buffer) :=
    ⟨nofun, nofun, namedIn_none, namedIn_none, fun _ _ => noData_none rfl _, nofun, nofun, nofun⟩
  have sound := @always_of_eachStep _ _ recordStep (fun system => SessionSound system.context)
    KeepsRecordings (fun _ _ sound keeps => recordStep_sessionSound sound keeps) _ ops keeps start
  exact sound.imp fun _ sound => sound.intact

/-- A short recording, whose second segment has a number of its own, destroys nothing. -/
theorem shortRecording_nothingDestroyed :
    Always recordStep (fun system => NothingDestroyed system.context)
      ⟨c64RecordInit 1 1 50 48000 (some []), none⟩ shortRecording :=
  recording_nothingDestroyed 1 1 50 48000 (some []) shortRecording
    ⟨⟨nofun, fun _ _ _ _ => noVideo_none rfl⟩, trivial, fun _ _ _ => ⟨rfl, by decide +kernel⟩,
      trivial, trivial, fun _ _ _ => ⟨by decide +kernel, by decide +kernel⟩, trivial, trivial,
      trivial, ⟨nofun, nofun⟩, trivial⟩

/-- A recording that is stopped and started again while the logs keep its session open. -/
def restartedRecording : List RecordOp :=
  [.updateSettings ⟨false, true, false, true⟩ .working .working .working,
    .updateSettings ⟨false, true, false, false⟩ .working .working .working,
    .updateSettings ⟨false, true, false, true⟩ .working .working .working]

/-- Its first video is truncated when the second one begins. -/
theorem restartedRecording_destroys :
    ¬ Always recordStep (fun system => NothingDestroyed system.context)
      ⟨c64RecordInit 1 1 50 48000 (some []), none⟩ restartedRecording := by
  intro always
  have last := always.last
  have truncated : ((restartedRecording.foldl recordStep
      ⟨c64RecordInit 1 1 50 48000 (some []), none⟩).context.files[4]?.map fun file =>
        (file.path, file.overwrote)) = some (⟨some 0, .video 0⟩, true) := by decide +kernel
  obtain ⟨file, found, fields⟩ := Option.map_eq_some_iff.mp truncated
  obtain ⟨path, overwrote⟩ := Prod.mk.inj fields
  have kept := last 4 file found (by rw [path]; rfl)
  rw [overwrote] at kept
  cases kept

end Runs

end C64Stream
