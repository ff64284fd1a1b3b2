import C64Stream.Record.Interleaving

/-! The files of a session: what its logs and the writing of its recordings do not destroy. -/

namespace C64Stream

section Session

/-- The files that a recording must not destroy. -/
def FileName.isKept : FileName → Bool
  | .avSyncCsv => false
  | _ => true

/-- No file with data was opened again for truncating write. -/
def NothingDestroyed (context : RecordContext) : Prop :=
  ∀ (i : Nat) (file : File), context.files[i]? = some file → file.path.name.isKept = true →
    file.overwrote = false

/-- No file of a name in the session folder has data. -/
def NoData (context : RecordContext) (name : FileName) : Prop :=
  ∀ session, context.sessionFolder = some session → ∀ (i : Nat) (file : File),
    context.files[i]? = some file → file.path = ⟨some session, name⟩ → file.content = []

/-- No video and no audio in the session folder has data. -/
def NoVideo (context : RecordContext) : Prop :=
  (∀ segment, NoData context (.video segment)) ∧ NoData context .audio

/-- No segment behind the current one has data in the session folder. -/
def VideosUpTo (context : RecordContext) : Prop :=
  ∀ segment, context.aviSegmentIndex < segment → NoData context (.video segment)

/-- What is known of the files of a session. -/
structure SessionSound (context : RecordContext) : Prop where
  folder : ∀ session, context.sessionFolder = some session → session < context.sessions
  files : ∀ (i : Nat) (file : File) (session : Nat), context.files[i]? = some file →
    file.path.session = some session → session < context.sessions
  video : NamedIn context.files context.videoFile (· = .video context.aviSegmentIndex)
  audio : NamedIn context.files context.audioFile (· = .audio)
  videos : VideosUpTo context
  timing : context.recordCsv = true → context.timingFile = none → NoData context .obsCsv
  network : context.recordCsv = true → context.networkFile = none → NoData context .networkCsv
  intact : NothingDestroyed context

/-- What does not change when the logs of a session do. -/
structure SameRecording (before after : RecordContext) : Prop where
  core : after.toRecordCore = before.toRecordCore
  recordFrames : after.recordFrames = before.recordFrames
  recordVideo : after.recordVideo = before.recordVideo
  recordCsv : after.recordCsv = before.recordCsv
  recordAvSync : after.recordAvSync = before.recordAvSync
  width : after.width = before.width
  height : after.height = before.height
  fps : after.expectedFps = before.expectedFps

theorem SameRecording.refl (context : RecordContext) : SameRecording context context :=
  ⟨rfl, rfl, rfl, rfl, rfl, rfl, rfl, rfl⟩

theorem SameRecording.trans {first second third : RecordContext} (one : SameRecording first second)
    (two : SameRecording second third) : SameRecording first third :=
  ⟨two.core.trans one.core, two.recordFrames.trans one.recordFrames,
    two.recordVideo.trans one.recordVideo, two.recordCsv.trans one.recordCsv,
    two.recordAvSync.trans one.recordAvSync, two.width.trans one.width,
    two.height.trans one.height, two.fps.trans one.fps⟩

/-- A step beside the video: the session stays sound, and files without data stay so. -/
structure LogKept (before after : RecordContext) (kept : FileName → Prop) : Prop where
  sound : SessionSound after
  beside : SameRecording before after
  folder : before.sessionFolder.isSome → after.sessionFolder = before.sessionFolder
  noData : ∀ name, kept name → NoData before name → NoData after name

theorem LogKept.refl {context : RecordContext} (sound : SessionSound context)
    (kept : FileName → Prop) : LogKept context context kept :=
  ⟨sound, .refl context, fun _ => rfl, fun _ _ free => free⟩

theorem LogKept.trans {first second third : RecordContext} {kept kept' : FileName → Prop}
    (one : LogKept first second kept) (two : LogKept second third kept') :
    LogKept first third (fun name => kept name ∧ kept' name) :=
  ⟨two.sound, one.beside.trans two.beside,
    fun some => (two.folder (by rw [one.folder some]; exact some)).trans (one.folder some),
    fun name both free => two.noData name both.2 (one.noData name both.1 free)⟩

theorem LogKept.weaken {before after : RecordContext} {kept kept' : FileName → Prop}
    (step : LogKept before after kept) (fewer : ∀ name, kept' name → kept name) :
    LogKept before after kept' :=
  ⟨step.sound, step.beside, step.folder, fun name holds => step.noData name (fewer name holds)⟩

theorem c64SessionEnsureExists_kept {context : RecordContext} (sound : SessionSound context)
    (makesFolder : Bool) :
    LogKept context (c64SessionEnsureExists context makesFolder) (fun _ => True) := by
  unfold c64SessionEnsureExists
  split
  · exact .refl sound _
  next missing =>
  have missing : context.sessionFolder = none := by simpa using missing
  split
  · -- The files there are all belong to earlier sessions.
    have fresh : ∀ name, NoData { context with
        sessionFolder := some context.sessions, sessions := context.sessions + 1 } name := by
      intro name session new i file found path
      obtain rfl := Option.some.inj new
      have old := sound.files i file context.sessions found (by rw [path])
      exact absurd old (Nat.lt_irrefl _)
    refine ⟨⟨?_, ?_, sound.video, sound.audio, fun _ _ => fresh _, fun _ _ => fresh _,
      fun _ _ => fresh _, sound.intact⟩, ⟨rfl, rfl, rfl, rfl, rfl, rfl, rfl, rfl⟩, fun some => ?_,
      fun name _ _ => fresh name⟩
    · intro session new
      obtain rfl := Option.some.inj new
      exact Nat.lt_succ_self _
    · intro i file session found path
      exact Nat.lt_succ_of_lt (sound.files i file session found path)
    · rw [missing] at some
      cases some
  · exact .refl sound _

theorem openFile_cases {context : RecordContext} {name : FileName} {content : List UInt8} {i : Nat}
    {file : File} (found : (openFile context name content).files[i]? = some file) :
    context.files[i]? = some file ∨ (i = nextFile context ∧
      file.path = ⟨context.sessionFolder, name⟩ ∧ file.content = content ∧
      file.overwrote = context.files.any fun old =>
        old.path = ⟨context.sessionFolder, name⟩ && !old.content.isEmpty) := by
  rcases Nat.lt_trichotomy i context.files.length with small | rfl | large
  · exact .inl ((List.getElem?_append_left small).symm.trans found)
  · obtain rfl := Option.some.inj (List.getElem?_concat_length.symm.trans found)
    exact .inr ⟨rfl, rfl, rfl, rfl⟩
  · have none : (openFile context name content).files[i]? = none := by
      refine List.getElem?_eq_none ?_
      have length : (openFile context name content).files.length = context.files.length + 1 :=
        List.length_append ..
      omega
    rw [none] at found
    cases found

theorem openFile_intact {context : RecordContext} (intact : NothingDestroyed context)
    {name : FileName} (free : name.isKept = true → NoData context name)
    (session : context.sessionFolder.isSome) (content : List UInt8) :
    NothingDestroyed (openFile context name content) := by
  intro i file found kept
  rcases openFile_cases found with old | ⟨_, path, _, overwrote⟩
  · exact intact i file old kept
  · rw [path] at kept
    rw [overwrote, List.any_eq_false]
    intro other member
    obtain ⟨j, before⟩ := List.mem_iff_getElem?.mp member
    obtain ⟨folder, folderEq⟩ := Option.isSome_iff_exists.mp session
    by_cases same : other.path = ⟨context.sessionFolder, name⟩
    · rw [folderEq] at same
      have empty := free kept folder folderEq j other before same
      simp [empty]
    · simp [same]

theorem openFile_noData {context : RecordContext} {name other : FileName} (different : name ≠ other)
    (content : List UInt8) (free : NoData context other) :
    NoData (openFile context name content) other := by
  intro session folder i file found path
  rcases openFile_cases found with old | ⟨_, newPath, _, _⟩
  · exact free session folder i file old path
  · rw [newPath] at path
    exact absurd (FilePath.mk.inj path).2 different

theorem SessionSound.openLog {context : RecordContext} (sound : SessionSound context)
    {name : FileName} (log : name.isLog = true) (free : name.isKept = true → NoData context name)
    (session : context.sessionFolder.isSome) (content : List UInt8)
    (timing network avSync : Option Nat) (timingOpen : name = .obsCsv → timing ≠ none)
    (timingKept : name ≠ .obsCsv → timing = context.timingFile)
    (networkOpen : name = .networkCsv → network ≠ none)
    (networkKept : name ≠ .networkCsv → network = context.networkFile) :
    SessionSound { openFile context name content with
      timingFile := timing
      networkFile := network
      avSyncFile := avSync } where
  folder := sound.folder
  files := by
    intro i file folder found path
    rcases openFile_cases found with old | ⟨_, newPath, _, _⟩
    · exact sound.files i file folder old path
    · rw [newPath] at path
      exact sound.folder folder path
  video := sound.video.keeps (keepsPaths_open _ _)
  audio := sound.audio.keeps (keepsPaths_open _ _)
  videos := by
    intro segment behind
    refine openFile_noData ?_ content (sound.videos segment behind)
    rintro rfl
    cases log
  timing := by
    intro csv closed
    by_cases same : name = .obsCsv
    · exact absurd closed (timingOpen same)
    · exact openFile_noData same content (sound.timing csv ((timingKept same).symm.trans closed))
  network := by
    intro csv closed
    by_cases same : name = .networkCsv
    · exact absurd closed (networkOpen same)
    · exact openFile_noData same content (sound.network csv ((networkKept same).symm.trans closed))
  intact := openFile_intact sound.intact free session content

theorem c64StartObsCsvRecording_kept {context : RecordContext} (sound : SessionSound context)
    (free : context.timingFile = none → NoData context .obsCsv) (env : Environment) :
    LogKept context (c64StartObsCsvRecording context env) (· ≠ .obsCsv) := by
  unfold c64StartObsCsvRecording
  split
  · exact .refl sound _
  next closed =>
  have session := c64SessionEnsureExists_kept sound env.timing.makesFolder
  have free := session.noData _ trivial (free (by simpa using closed))
  simp only
  generalize c64SessionEnsureExists context env.timing.makesFolder = next at session free ⊢
  split
  · exact session.weaken fun _ _ => trivial
  next opens =>
  have folder : next.sessionFolder.isSome := by
    simp only [Bool.or_eq_true, not_or] at opens
    simpa [Option.isSome_iff_ne_none] using opens.1
  have opened := session.sound.openLog rfl (fun _ => free) folder (obsCsvHeader env.debugLogging)
    (some (nextFile next)) next.networkFile next.avSyncFile nofun (fun other => absurd rfl other)
    nofun fun _ => rfl
  refine ⟨opened, session.beside.trans ⟨rfl, rfl, rfl, rfl, rfl, rfl, rfl, rfl⟩,
    session.folder, ?_⟩
  intro name other before
  exact openFile_noData (Ne.symm other) _ (session.noData name trivial before)

theorem c64StartNetworkCsvRecording_kept {context : RecordContext} (sound : SessionSound context)
    (free : context.networkFile = none → NoData context .networkCsv) (env : Environment) :
    LogKept context (c64StartNetworkCsvRecording context env) (· ≠ .networkCsv) := by
  unfold c64StartNetworkCsvRecording
  split
  · exact .refl sound _
  next closed =>
  have session := c64SessionEnsureExists_kept sound env.network.makesFolder
  have free := session.noData _ trivial (free (by simpa using closed))
  simp only
  generalize c64SessionEnsureExists context env.network.makesFolder = next at session free ⊢
  split
  · exact session.weaken fun _ _ => trivial
  next opens =>
  have folder : next.sessionFolder.isSome := by
    simp only [Bool.or_eq_true, not_or] at opens
    simpa [Option.isSome_iff_ne_none] using opens.1
  have opened := session.sound.openLog rfl (fun _ => free) folder
    (networkCsvHeader env.debugLogging) next.timingFile (some (nextFile next)) next.avSyncFile
    nofun (fun _ => rfl) nofun fun other => absurd rfl other
  refine ⟨opened, session.beside.trans ⟨rfl, rfl, rfl, rfl, rfl, rfl, rfl, rfl⟩,
    session.folder, ?_⟩
  intro name other before
  exact openFile_noData (Ne.symm other) _ (session.noData name trivial before)

theorem c64StartAvSyncCsvRecording_kept {context : RecordContext} (sound : SessionSound context)
    (env : Environment) :
    LogKept context (c64StartAvSyncCsvRecording context env) (· ≠ .avSyncCsv) := by
  unfold c64StartAvSyncCsvRecording
  split
  · exact .refl sound _
  have session := c64SessionEnsureExists_kept sound env.avSync.makesFolder
  simp only
  generalize c64SessionEnsureExists context env.avSync.makesFolder = next at session ⊢
  split
  · exact session.weaken fun _ _ => trivial
  next opens =>
  have folder : next.sessionFolder.isSome := by
    simp only [Bool.or_eq_true, not_or] at opens
    simpa [Option.isSome_iff_ne_none] using opens.1
  have opened := @SessionSound.openLog next session.sound .avSyncCsv rfl nofun folder
    avSyncCsvHeader next.timingFile next.networkFile (some (nextFile next)) nofun (fun _ => rfl)
    nofun fun _ => rfl
  refine ⟨opened, session.beside.trans ⟨rfl, rfl, rfl, rfl, rfl, rfl, rfl, rfl⟩,
    session.folder, ?_⟩
  intro name other before
  exact openFile_noData (Ne.symm other) _ (session.noData name trivial before)

/-- What is written to files, and which are closed, but not what they are. -/
structure FilesWritten (written : Nat → Prop) (before after : List File) : Prop where
  back : ∀ (i : Nat) (file' : File), after[i]? = some file' → ∃ file, before[i]? = some file ∧
    file'.path = file.path ∧ file'.overwrote = file.overwrote ∧
    (¬ written i → file'.content = file.content)
  keeps : KeepsPaths before after

theorem FilesWritten.refl (written : Nat → Prop) (files : List File) :
    FilesWritten written files files :=
  ⟨fun _ file found => ⟨file, found, rfl, rfl, fun _ => rfl⟩, .refl files⟩

theorem FilesWritten.trans {written : Nat → Prop} {first second third : List File}
    (one : FilesWritten written first second) (two : FilesWritten written second third) :
    FilesWritten written first third where
  back := by
    intro i file'' found''
    obtain ⟨file', found', path', overwrote', content'⟩ := two.back i file'' found''
    obtain ⟨file, found, path, overwrote, content⟩ := one.back i file' found'
    exact ⟨file, found, path'.trans path, overwrote'.trans overwrote, fun other =>
      (content' other).trans (content other)⟩
  keeps := one.keeps.trans two.keeps

theorem filesWritten_modify {written : Nat → Prop} (files : List File) {i : Nat}
    {change : File → File} (path : ∀ file, (change file).path = file.path)
    (overwrote : ∀ file, (change file).overwrote = file.overwrote)
    (content : written i ∨ ∀ file, (change file).content = file.content) :
    FilesWritten written files (files.modify i change) where
  back := by
    intro j file' found'
    rw [List.getElem?_modify] at found'
    obtain ⟨file, found, rfl⟩ := Option.map_eq_some_iff.mp found'
    by_cases same : i = j
    · subst same
      simp only [if_true]
      refine ⟨file, found, path file, overwrote file, fun other => ?_⟩
      rcases content with here | content
      · exact absurd here other
      · exact content file
    · simp only [if_neg same]
      exact ⟨file, found, rfl, rfl, fun _ => rfl⟩
  keeps := keepsPaths_modify _ _ path

theorem fclose_written (written : Nat → Prop) (context : RecordContext) (file : Nat) :
    FilesWritten written context.files (fclose context file).files :=
  filesWritten_modify _ (fun _ => rfl) (fun _ => rfl) (.inr fun _ => rfl)

theorem fcloseIfOpen_written (written : Nat → Prop) (context : RecordContext)
    (file : Option Nat) : FilesWritten written context.files (fcloseIfOpen context file).files := by
  cases file with
  | none => exact .refl written _
  | some file => exact fclose_written written context file

theorem NoData.written {before after : RecordContext} {name : FileName} {written : Nat → Prop}
    (free : NoData before name) (files : FilesWritten written before.files after.files)
    (folder : after.sessionFolder = before.sessionFolder)
    (other : ∀ (i : Nat) (file : File), written i → before.files[i]? = some file →
      file.path.name ≠ name) : NoData after name := by
  intro session inFolder i file' found' path'
  rw [folder] at inFolder
  obtain ⟨file, found, path, _, content⟩ := files.back i file' found'
  have samePath : file.path = ⟨some session, name⟩ := path.symm.trans path'
  rw [content fun here => other i file here found (by rw [samePath])]
  exact free session inFolder i file found samePath

/-- A log that is stopped: its file is closed, and all else stays. -/
structure LogStopped (before after : RecordContext) : Prop where
  beside : SameRecording before after
  sessions : after.sessions = before.sessions
  folder : after.sessionFolder = before.sessionFolder
  files : FilesWritten (fun _ => False) before.files after.files

theorem LogStopped.trans {first second third : RecordContext} (one : LogStopped first second)
    (two : LogStopped second third) : LogStopped first third :=
  ⟨one.beside.trans two.beside, two.sessions.trans one.sessions, two.folder.trans one.folder,
    one.files.trans two.files⟩

theorem fcloseIfOpen_stopped (context : RecordContext) (file : Option Nat) :
    LogStopped context (fcloseIfOpen context file) := by
  refine ⟨?_, ?_, ?_, fcloseIfOpen_written _ context file⟩
  · cases file <;> exact ⟨rfl, rfl, rfl, rfl, rfl, rfl, rfl, rfl⟩
  · cases file <;> rfl
  · cases file <;> rfl

theorem c64StopObsCsvRecording_stopped (context : RecordContext) :
    LogStopped context (c64StopObsCsvRecording context) := by
  obtain ⟨beside, sessions, folder, files⟩ := fcloseIfOpen_stopped context context.timingFile
  exact ⟨⟨beside.core, beside.recordFrames, beside.recordVideo, beside.recordCsv,
    beside.recordAvSync, beside.width, beside.height, beside.fps⟩, sessions, folder, files⟩

theorem c64StopNetworkCsvRecording_stopped (context : RecordContext) :
    LogStopped context (c64StopNetworkCsvRecording context) := by
  obtain ⟨beside, sessions, folder, files⟩ := fcloseIfOpen_stopped context context.networkFile
  exact ⟨⟨beside.core, beside.recordFrames, beside.recordVideo, beside.recordCsv,
    beside.recordAvSync, beside.width, beside.height, beside.fps⟩, sessions, folder, files⟩

theorem c64StopAvSyncCsvRecording_stopped (context : RecordContext) :
    LogStopped context (c64StopAvSyncCsvRecording context) := by
  obtain ⟨beside, sessions, folder, files⟩ := fcloseIfOpen_stopped context context.avSyncFile
  exact ⟨⟨beside.core, beside.recordFrames, beside.recordVideo, beside.recordCsv,
    beside.recordAvSync, beside.width, beside.height, beside.fps⟩, sessions, folder, files⟩

theorem LogStopped.noData {before after : RecordContext} (stopped : LogStopped before after)
    {name : FileName} (free : NoData before name) : NoData after name :=
  free.written stopped.files stopped.folder fun _ _ => False.elim

theorem LogStopped.sound {before after : RecordContext} (stopped : LogStopped before after)
    (sound : SessionSound before)
    (timing : before.recordCsv = true → after.timingFile = none → NoData before .obsCsv)
    (network : before.recordCsv = true → after.networkFile = none → NoData before .networkCsv) :
    SessionSound after where
  folder := by
    rw [stopped.folder, stopped.sessions]
    exact sound.folder
  files := by
    intro i file' session found' path'
    obtain ⟨file, found, path, _⟩ := stopped.files.back i file' found'
    rw [stopped.sessions]
    exact sound.files i file session found (by rw [← path]; exact path')
  video := by
    rw [stopped.beside.core]
    exact sound.video.keeps stopped.files.keeps
  audio := by
    rw [stopped.beside.core]
    exact sound.audio.keeps stopped.files.keeps
  videos := by
    intro segment behind
    rw [stopped.beside.core] at behind
    exact stopped.noData (sound.videos segment behind)
  timing := by
    intro csv closed
    rw [stopped.beside.recordCsv] at csv
    exact stopped.noData (timing csv closed)
  network := by
    intro csv closed
    rw [stopped.beside.recordCsv] at csv
    exact stopped.noData (network csv closed)
  intact := by
    intro i file' found' kept
    obtain ⟨file, found, path, overwrote, _⟩ := stopped.files.back i file' found'
    rw [overwrote]
    exact sound.intact i file found (by rw [← path]; exact kept)

theorem noData_none {context : RecordContext} (none : context.sessionFolder = none)
    (name : FileName) : NoData context name := by
  intro session inFolder
  rw [none] at inFolder
  cases inFolder

/-- A switch: the session stays sound, the recording is not touched, and files without data stay
so. -/
structure SwitchKept (before after : RecordContext) (kept : FileName → Prop) : Prop where
  sound : SessionSound after
  core : after.toRecordCore = before.toRecordCore
  recordVideo : after.recordVideo = before.recordVideo
  noData : ∀ name, kept name → NoData before name → NoData after name

theorem c64SessionCleanupIfNeeded_kept {context : RecordContext} (sound : SessionSound context) :
    SessionSound (c64SessionCleanupIfNeeded context) ∧
      SameRecording context (c64SessionCleanupIfNeeded context) ∧
      (∀ name, NoData context name → NoData (c64SessionCleanupIfNeeded context) name) ∧
      (c64SessionAnyRecordingActive context = false →
        (c64SessionCleanupIfNeeded context).sessionFolder = none) := by
  unfold c64SessionCleanupIfNeeded
  split
  · next active =>
    refine ⟨sound, .refl context, fun _ free => free, fun idle => ?_⟩
    rw [active] at idle
    cases idle
  next idle =>
  have csv : context.recordCsv = false := by
    simp only [c64SessionAnyRecordingActive, Bool.or_eq_true, not_or, Bool.not_eq_true] at idle
    exact idle.1.2
  have stopped := ((c64StopObsCsvRecording_stopped context).trans
    (c64StopNetworkCsvRecording_stopped _)).trans (c64StopAvSyncCsvRecording_stopped _)
  generalize c64StopAvSyncCsvRecording (c64StopNetworkCsvRecording
    (c64StopObsCsvRecording context)) = after at stopped ⊢
  have kept := stopped.sound sound (fun on => by rw [csv] at on; cases on)
    (fun on => by rw [csv] at on; cases on)
  have beside := stopped.beside
  exact ⟨⟨nofun, kept.files, kept.video, kept.audio, fun _ _ => noData_none rfl _,
    fun _ _ => noData_none rfl _, fun _ _ => noData_none rfl _, kept.intact⟩,
    ⟨beside.core, beside.recordFrames, beside.recordVideo, beside.recordCsv, beside.recordAvSync,
      beside.width, beside.height, beside.fps⟩, fun name _ => noData_none rfl name, fun _ => rfl⟩

theorem updateRecordFrames_kept {context : RecordContext} (sound : SessionSound context)
    (record : Bool) :
    SwitchKept context (updateRecordFrames context record) (fun _ => True) ∧
      (updateRecordFrames context record).recordFrames = record ∧
      (updateRecordFrames context record).recordCsv = context.recordCsv ∧
      (updateRecordFrames context record).recordAvSync = context.recordAvSync ∧
      (context.recordFrames = true → record = false → context.recordVideo = false →
        context.recordCsv = false → context.recordAvSync = false →
        (updateRecordFrames context record).sessionFolder = none) := by
  have switched : SessionSound { context with recordFrames := record } :=
    ⟨sound.folder, sound.files, sound.video, sound.audio, sound.videos, sound.timing,
      sound.network, sound.intact⟩
  unfold updateRecordFrames
  simp only
  split
  · obtain ⟨kept, beside, noData, ends⟩ := c64SessionCleanupIfNeeded_kept switched
    refine ⟨⟨kept, beside.core, beside.recordVideo, fun name _ free => noData name free⟩,
      beside.recordFrames, beside.recordCsv, beside.recordAvSync, ?_⟩
    rintro _ rfl video csv avSync
    exact ends (by simp [c64SessionAnyRecordingActive, video, csv, avSync])
  · next stays =>
    refine ⟨⟨switched, rfl, rfl, fun _ _ free => free⟩, rfl, rfl, rfl, ?_⟩
    rintro frames rfl
    rw [frames] at stays
    exact absurd rfl stays

theorem updateRecordCsv_kept {context : RecordContext} (sound : SessionSound context)
    {record : Bool} (free : record = true → context.recordCsv = false →
      NoData context .obsCsv ∧ NoData context .networkCsv) (env : Environment) :
    SwitchKept context (updateRecordCsv context record env) (·.isLog = false) ∧
      (updateRecordCsv context record env).recordFrames = context.recordFrames ∧
      (updateRecordCsv context record env).recordCsv = record ∧
      (updateRecordCsv context record env).recordAvSync = context.recordAvSync ∧
      (context.recordCsv = true → record = false → context.recordFrames = false →
        context.recordVideo = false → context.recordAvSync = false →
        (updateRecordCsv context record env).sessionFolder = none) := by
  unfold updateRecordCsv
  split
  · next same =>
    refine ⟨⟨sound, rfl, rfl, fun _ _ free => free⟩, rfl, same.symm, rfl, ?_⟩
    intro on off
    rw [off, on] at same
    cases same
  next changes =>
  simp only
  split
  · next on =>
    subst on
    obtain ⟨timing, network⟩ := free rfl (by simpa using Ne.symm changes)
    have switched : SessionSound { context with recordCsv := true } :=
      ⟨sound.folder, sound.files, sound.video, sound.audio, sound.videos, fun _ _ => timing,
        fun _ _ => network, sound.intact⟩
    have obs := c64StartObsCsvRecording_kept switched (fun _ => timing) env
    have both := obs.trans (c64StartNetworkCsvRecording_kept obs.sound
      (fun closed => obs.sound.network obs.beside.recordCsv closed) env)
    refine ⟨⟨both.sound, both.beside.core, both.beside.recordVideo, fun name log free => ?_⟩,
      both.beside.recordFrames, both.beside.recordCsv, both.beside.recordAvSync, nofun⟩
    refine both.noData name ⟨?_, ?_⟩ free <;> (rintro rfl; cases log)
  · next off =>
    obtain rfl : record = false := by simpa using off
    have switched : SessionSound { context with recordCsv := false } :=
      ⟨sound.folder, sound.files, sound.video, sound.audio, sound.videos, nofun, nofun,
        sound.intact⟩
    have stopped := (c64StopObsCsvRecording_stopped { context with recordCsv := false }).trans
      (c64StopNetworkCsvRecording_stopped _)
    have still := stopped.sound switched nofun nofun
    obtain ⟨kept, beside, noData, ends⟩ := c64SessionCleanupIfNeeded_kept still
    have same := stopped.beside.trans beside
    refine ⟨⟨kept, same.core, same.recordVideo, fun name _ free =>
      noData name (stopped.noData free)⟩, same.recordFrames, same.recordCsv, same.recordAvSync, ?_⟩
    intro _ _ frames video avSync
    have idle := stopped.beside
    refine ends ?_
    rw [c64SessionAnyRecordingActive, idle.recordFrames, idle.recordVideo, idle.recordCsv,
      idle.recordAvSync]
    simp [frames, video, avSync]

theorem updateRecordAvSync_kept {context : RecordContext} (sound : SessionSound context)
    (record : Bool) (env : Environment) :
    SwitchKept context (updateRecordAvSync context record env) (·.isLog = false) ∧
      (context.recordAvSync = true → record = false → context.recordFrames = false →
        context.recordVideo = false → context.recordCsv = false →
        (updateRecordAvSync context record env).sessionFolder = none) := by
  unfold updateRecordAvSync
  split
  · next same =>
    refine ⟨⟨sound, rfl, rfl, fun _ _ free => free⟩, ?_⟩
    intro on off
    rw [off, on] at same
    cases same
  split
  · next on =>
    subst on
    have started := c64StartAvSyncCsvRecording_kept sound env
    have kept := started.sound
    refine ⟨⟨⟨kept.folder, kept.files, kept.video, kept.audio, kept.videos, kept.timing,
      kept.network, kept.intact⟩, started.beside.core, started.beside.recordVideo,
      fun name log free => ?_⟩, nofun⟩
    refine started.noData name ?_ free
    rintro rfl
    cases log
  · have switched : SessionSound { context with recordAvSync := false } :=
      ⟨sound.folder, sound.files, sound.video, sound.audio, sound.videos, sound.timing,
        sound.network, sound.intact⟩
    have stopped := c64StopAvSyncCsvRecording_stopped { context with recordAvSync := false }
    have files : (c64StopAvSyncCsvRecording { context with recordAvSync := false }).timingFile =
        context.timingFile ∧ (c64StopAvSyncCsvRecording { context with
          recordAvSync := false }).networkFile = context.networkFile := by
      unfold c64StopAvSyncCsvRecording
      simp only
      cases context.avSyncFile <;> exact ⟨rfl, rfl⟩
    have still := stopped.sound switched (fun csv closed => sound.timing csv (by rw [← files.1]; exact closed))
      (fun csv closed => sound.network csv (by rw [← files.2]; exact closed))
    obtain ⟨kept, beside, noData, ends⟩ := c64SessionCleanupIfNeeded_kept still
    have same := stopped.beside.trans beside
    refine ⟨⟨kept, same.core, same.recordVideo, fun name _ free =>
      noData name (stopped.noData free)⟩, ?_⟩
    intro _ _ frames video csv
    have idle := stopped.beside
    refine ends ?_
    rw [c64SessionAnyRecordingActive, idle.recordFrames, idle.recordVideo, idle.recordCsv,
      idle.recordAvSync]
    simp [frames, video, csv]

end Session

section Writes

/-- The files that a recording writes to. -/
def IsWritten (context : RecordContext) (file : Nat) : Prop :=
  context.videoFile = some file ∨ context.audioFile = some file

/-- A step that writes to the open files, and may close them. -/
structure WriteStep (before after : RecordContext) : Prop where
  sessions : after.sessions = before.sessions
  folder : after.sessionFolder = before.sessionFolder
  recordCsv : after.recordCsv = before.recordCsv
  timing : after.timingFile = before.timingFile
  network : after.networkFile = before.networkFile
  segment : after.aviSegmentIndex = before.aviSegmentIndex
  video : ∀ i, after.videoFile = some i → before.videoFile = some i
  audio : ∀ i, after.audioFile = some i → before.audioFile = some i
  files : FilesWritten (IsWritten before) before.files after.files

theorem WriteStep.idle {before after : RecordContext} (sessions : after.sessions = before.sessions)
    (folder : after.sessionFolder = before.sessionFolder)
    (recordCsv : after.recordCsv = before.recordCsv)
    (timing : after.timingFile = before.timingFile)
    (network : after.networkFile = before.networkFile)
    (segment : after.aviSegmentIndex = before.aviSegmentIndex)
    (video : after.videoFile = before.videoFile) (audio : after.audioFile = before.audioFile)
    (files : after.files = before.files) : WriteStep before after :=
  ⟨sessions, folder, recordCsv, timing, network, segment, fun i => by rw [video]; exact id,
    fun i => by rw [audio]; exact id, by rw [files]; exact .refl _ _⟩

theorem WriteStep.refl (context : RecordContext) : WriteStep context context :=
  .idle rfl rfl rfl rfl rfl rfl rfl rfl rfl

theorem FilesWritten.weaken {written more : Nat → Prop} {before after : List File}
    (step : FilesWritten written before after) (fewer : ∀ i, written i → more i) :
    FilesWritten more before after where
  back := by
    intro i file' found'
    obtain ⟨file, found, path, overwrote, content⟩ := step.back i file' found'
    exact ⟨file, found, path, overwrote, fun other => content fun here => other (fewer i here)⟩
  keeps := step.keeps

theorem WriteStep.trans {first second third : RecordContext} (one : WriteStep first second)
    (two : WriteStep second third) : WriteStep first third where
  sessions := two.sessions.trans one.sessions
  folder := two.folder.trans one.folder
  recordCsv := two.recordCsv.trans one.recordCsv
  timing := two.timing.trans one.timing
  network := two.network.trans one.network
  segment := two.segment.trans one.segment
  video := fun i opened => one.video i (two.video i opened)
  audio := fun i opened => one.audio i (two.audio i opened)
  files := by
    refine one.files.trans (two.files.weaken fun i written => ?_)
    exact written.imp (one.video i) (one.audio i)

theorem WriteStep.noData {before after : RecordContext} (step : WriteStep before after)
    (sound : SessionSound before) {name : FileName} (other : name ≠ .video before.aviSegmentIndex)
    (noAudio : name ≠ .audio) (free : NoData before name) : NoData after name := by
  refine free.written step.files step.folder ?_
  rintro i file (opened | opened) found rfl
  · obtain ⟨_, found', named⟩ := sound.video i opened
    obtain rfl := Option.some.inj (found.symm.trans found')
    exact other named
  · obtain ⟨_, found', named⟩ := sound.audio i opened
    obtain rfl := Option.some.inj (found.symm.trans found')
    exact noAudio named

theorem WriteStep.sound {before after : RecordContext} (step : WriteStep before after)
    (sound : SessionSound before) : SessionSound after where
  folder := by
    rw [step.folder, step.sessions]
    exact sound.folder
  files := by
    intro i file' session found' path'
    obtain ⟨file, found, path, _⟩ := step.files.back i file' found'
    rw [step.sessions]
    exact sound.files i file session found (by rw [← path]; exact path')
  video := by
    intro i opened
    rw [step.segment]
    exact sound.video.keeps step.files.keeps i (step.video i opened)
  audio := by
    intro i opened
    exact sound.audio.keeps step.files.keeps i (step.audio i opened)
  videos := by
    intro segment behind
    rw [step.segment] at behind
    refine step.noData sound ?_ nofun (sound.videos segment behind)
    intro same
    rw [FileName.video.inj same] at behind
    exact UInt32.lt_irrefl _ behind
  timing := by
    intro csv closed
    rw [step.recordCsv] at csv
    rw [step.timing] at closed
    exact step.noData sound nofun nofun (sound.timing csv closed)
  network := by
    intro csv closed
    rw [step.recordCsv] at csv
    rw [step.network] at closed
    exact step.noData sound nofun nofun (sound.network csv closed)
  intact := by
    intro i file' found' kept
    obtain ⟨file, found, path, overwrote, _⟩ := step.files.back i file' found'
    rw [overwrote]
    exact sound.intact i file found (by rw [← path]; exact kept)

theorem modifyFile_writeStep {context : RecordContext} {file : Nat} (opened : IsWritten context file)
    {change : File → File} (path : ∀ file, (change file).path = file.path)
    (overwrote : ∀ file, (change file).overwrote = file.overwrote) :
    WriteStep context (modifyFile context file change) :=
  ⟨rfl, rfl, rfl, rfl, rfl, rfl, fun _ => id, fun _ => id,
    filesWritten_modify _ path overwrote (.inl opened)⟩

theorem appendFile_writeStep {context : RecordContext} {file : Nat} (opened : IsWritten context file)
    (bytes : List UInt8) : WriteStep context (appendFile context file bytes) :=
  modifyFile_writeStep opened (fun _ => rfl) fun _ => rfl

theorem patchFile_writeStep {context : RecordContext} {file : Nat} (opened : IsWritten context file)
    (frameCount : UInt32) : WriteStep context (patchFile context file frameCount) :=
  modifyFile_writeStep opened (fun _ => rfl) fun _ => rfl

theorem patchIfDue_writeStep {context : RecordContext} {file : Nat} (opened : IsWritten context file)
    (due : Option UInt32) : WriteStep context (patchIfDue context file due) := by
  cases due with
  | none => exact .refl context
  | some frameCount => exact patchFile_writeStep opened frameCount

theorem fclose_writeStep (context : RecordContext) (file : Nat) :
    WriteStep context (fclose context file) :=
  ⟨rfl, rfl, rfl, rfl, rfl, rfl, fun _ => id, fun _ => id, fclose_written _ context file⟩

theorem fcloseIfOpen_writeStep (context : RecordContext) (file : Option Nat) :
    WriteStep context (fcloseIfOpen context file) := by
  cases file with
  | none => exact .refl context
  | some file => exact fclose_writeStep context file

theorem c64RecordWriterThread_writeStep (context : RecordContext) (capacity : Option Nat) :
    WriteStep context (c64RecordWriterThread context capacity) := by
  rcases c64RecordWriterThread_cases context capacity with
    ⟨idle, _⟩ | ⟨writer, node, nodes, next, taken⟩
  · rw [idle]
    exact .refl context
  rcases taken.result with ⟨_, after⟩ | ⟨file, due, target, _, after⟩
  · rw [after]
    exact .idle rfl rfl rfl rfl rfl rfl rfl rfl rfl
  · have opened : IsWritten context file := by
      cases stream : node.stream <;> rw [stream] at target
      · exact .inr target
      · exact .inl target
    have appended := appendFile_writeStep opened (fwrite node.data capacity)
    rw [after]
    refine (appended.trans ?_).trans (patchIfDue_writeStep ?_ due)
    · exact .idle rfl rfl rfl rfl rfl rfl rfl rfl rfl
    · exact opened

theorem drainNodes_writeStep (context : RecordContext) (nodes : List WriteNode)
    (capacities : List (Option Nat)) : WriteStep context (drainNodes context nodes capacities) := by
  induction nodes generalizing context capacities with
  | nil => exact .refl context
  | cons node nodes ih =>
    cases capacities with
    | nil => exact (c64RecordWriterThread_writeStep context none).trans (ih _ _)
    | cons capacity capacities =>
      exact (c64RecordWriterThread_writeStep context capacity).trans (ih _ _)

theorem c64RecordWriterStop_writeStep (context : RecordContext) (capacities : List (Option Nat)) :
    WriteStep context (c64RecordWriterStop context capacities) := by
  unfold c64RecordWriterStop
  cases context.recordWriter with
  | none => exact .refl context
  | some writer =>
    exact (drainNodes_writeStep context writer.nodes capacities).trans
      (.idle rfl rfl rfl rfl rfl rfl rfl rfl rfl)

theorem c64RecordWriterStart_writeStep (context : RecordContext) (starts : Bool) :
    WriteStep context (c64RecordWriterStart context starts).1 := by
  unfold c64RecordWriterStart
  split
  · exact .refl context
  · split <;> exact .idle rfl rfl rfl rfl rfl rfl rfl rfl rfl

theorem c64RecordWriterEnqueue_writeStep (context : RecordContext) (stream : WriteStream)
    (data : List UInt8) (allocates : Bool) :
    WriteStep context (c64RecordWriterEnqueue context stream data allocates).1 := by
  unfold c64RecordWriterEnqueue
  split
  · exact .refl context
  · split
    · exact .refl context
    · split <;> exact .idle rfl rfl rfl rfl rfl rfl rfl rfl rfl

theorem closeSegmentIfOpen_writeStep (context : RecordContext) :
    WriteStep context (closeSegmentIfOpen context) := by
  unfold closeSegmentIfOpen
  cases opened : context.videoFile with
  | none => exact .refl context
  | some file =>
    have patched := patchFile_writeStep (.inl opened) context.aviSegmentFrames
    have closed := patched.trans (fclose_writeStep _ file)
    exact closed.trans ⟨rfl, rfl, rfl, rfl, rfl, rfl, nofun, fun _ => id, .refl _ _⟩

theorem closeAudioIfOpen_writeStep (context : RecordContext) (env : Environment) :
    WriteStep context (closeAudioIfOpen context env) := by
  unfold closeAudioIfOpen
  cases opened : context.audioFile with
  | none => exact .refl context
  | some file =>
    have finalized := @modifyFile_writeStep context file (.inr opened) (fun file =>
      { file with
        content := (c64AudioFinalizeWavHeader file.content context.recordedAudioBytes env).1
        finalized := (c64AudioFinalizeWavHeader file.content context.recordedAudioBytes env).2 })
      (fun _ => rfl) fun _ => rfl
    have closed := finalized.trans (fclose_writeStep _ file)
    exact closed.trans ⟨rfl, rfl, rfl, rfl, rfl, rfl, fun _ => id, nofun, .refl _ _⟩

theorem queueFrame_writeStep (context : RecordContext) (pixels : List UInt32)
    (env : Environment) : WriteStep context (queueFrame context pixels env) := by
  unfold queueFrame
  split
  · exact .refl context
  next buffer _ =>
  simp only
  generalize overwrite buffer 0 (c64VideoConvertRgbaToBgr24 pixels context.width context.height) =
    converted
  have queued := c64RecordWriterEnqueue_writeStep { context with bgrFrameBuffer := some converted }
    .video (aviFrameChunk ((List.range (frameBytes context.width context.height).toNat).map
      fun index => converted.getD index 0)) env.allocates
  have before : WriteStep context { context with bgrFrameBuffer := some converted } :=
    .idle rfl rfl rfl rfl rfl rfl rfl rfl rfl
  have queued := before.trans queued
  unfold c64RecordWriterEnqueueAviFrame
  split
  · exact queued.trans (.idle rfl rfl rfl rfl rfl rfl rfl rfl rfl)
  · exact queued

theorem c64AudioRecordData_writeStep (context : RecordContext) (data : List UInt8)
    (env : Environment) : WriteStep context (c64AudioRecordData context data env) := by
  have queued := c64RecordWriterEnqueue_writeStep context .audio data env.allocates
  unfold c64AudioRecordData
  simp only
  split
  · exact queued.trans (.idle rfl rfl rfl rfl rfl rfl rfl rfl rfl)
  · exact queued

theorem c64StopVideoRecording_writeStep (context : RecordContext) (env : Environment) :
    WriteStep context (c64StopVideoRecording context env) := by
  unfold c64StopVideoRecording
  split
  · exact .refl context
  simp only
  have stopped := c64RecordWriterStop_writeStep context env.nodes
  refine (stopped.trans ?_).trans (closeAudioIfOpen_writeStep _ env)
  unfold c64VideoStopRecording
  split
  · exact .refl _
  · exact (c64RecordWriterStop_writeStep _ env.nodes).trans (closeSegmentIfOpen_writeStep _)

end Writes

end C64Stream
