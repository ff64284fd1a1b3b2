import C64Stream.Record.Avi

/-! Whether recorded video files are nested chunks. -/

namespace C64Stream

section WellFormed

/-- The contents of the lists of a kind among some chunks. -/
def listsOf (kind : List UInt8) (chunks : List Chunk) : List (List UInt8) :=
  chunks.filterMap fun chunk =>
    if chunk.id = text "LIST" ∧ chunk.payload.take 4 = kind then some (chunk.payload.drop 4)
    else none

/-- A file is a well-formed video of some frames: nested chunks that consume it exactly, with the
number of frames in both headers. -/
def WellFormedAvi (file : List UInt8) (frames : List (List UInt8)) : Prop :=
  ∃ body chunks hdrl movi avih strl strh strf,
    ParsesChunks file [⟨text "RIFF", text "AVI " ++ body⟩] ∧
    ParsesChunks body chunks ∧ listsOf (text "hdrl") chunks = [hdrl] ∧
    listsOf (text "movi") chunks = [movi] ∧
    ParsesChunks hdrl [⟨text "avih", avih⟩, ⟨text "LIST", text "strl" ++ strl⟩] ∧
    ParsesChunks strl [⟨text "strh", strh⟩, ⟨text "strf", strf⟩] ∧
    ParsesChunks movi (frames.map fun frame => ⟨text "00db", frame⟩) ∧
    read32 (avih.drop 16) = frames.length ∧ read32 (strh.drop 32) = frames.length

end WellFormed

section Malformed

variable {size : UInt32}

theorem take_behind {front back : List UInt8} {count : Nat} (enough : front.length ≤ count) :
    (front ++ back).take count = front ++ back.take (count - front.length) := by
  rw [List.take_append, List.take_of_length_le enough]

theorem listsOf_cons {kind payload : List UInt8} {others : List Chunk} (four : kind.length = 4) :
    listsOf kind (⟨text "LIST", kind ++ payload⟩ :: others) = payload :: listsOf kind others := by
  have front : (kind ++ payload).take 4 = kind := by rw [← four, List.take_left]
  have back : (kind ++ payload).drop 4 = payload := by rw [← four, List.drop_left]
  simp only [listsOf, List.filterMap_cons, front, back, and_self, if_true]

theorem riffBody_eq {content body : List UInt8} (some : content ≠ [])
    (whole : ParsesChunks (text "RIFF" ++ (le32 size ++ (text "AVI " ++ content)))
      [⟨text "RIFF", text "AVI " ++ body⟩]) :
    ∃ count, content.length ≤ count + 1 ∧ body = content.take count := by
  obtain ⟨rest, outer, none⟩ := whole.first
  cases none
  rw [parseChunk_declared rfl] at outer
  split at outer
  · cases outer
  obtain ⟨riff, consumed⟩ := Prod.mk.inj (Option.some.inj outer)
  have consumed := List.drop_eq_nil_iff.mp consumed
  have payload := (Chunk.mk.inj riff).2
  have four : (text "AVI ").length = 4 := rfl
  have least := List.length_pos_of_ne_nil some
  rw [List.length_append, four] at consumed
  rw [take_behind (by omega), List.append_cancel_left_eq, four] at payload
  exact ⟨size.toNat - 4, by omega, payload.symm⟩

theorem parseList_cut {content : List UInt8} {count : Nat}
    (long : size.toNat + size.toNat % 2 < content.length) (all : content.length ≤ count + 1) :
    ∃ rest, parseChunk ((text "LIST" ++ (le32 size ++ content)).take (8 + count)) =
      some (⟨text "LIST", content.take size.toNat⟩, rest) := by
  have four : (text "LIST").length = 4 := rfl
  rw [take_behind (by omega), take_behind (by rw [le32_length]; omega), parseChunk_declared rfl,
    if_neg (by rw [List.length_take, le32_length]; omega)]
  refine ⟨_, congrArg some (Prod.ext (congrArg (Chunk.mk _) ?_) rfl)⟩
  rw [List.take_take, le32_length, Nat.min_eq_left (by omega)]

theorem not_parsesHeader {avih fields streams strl : List UInt8} (avihLength : avih.length = 56)
    (short : strl.length < 96) :
    ¬ ParsesChunks (text "avih" ++ (le32 56 ++ (avih ++ (text "LIST" ++ (le32 96 ++ strl)))))
      [⟨text "avih", fields⟩, ⟨text "LIST", streams⟩] := by
  intro header
  obtain ⟨tail, leading, second⟩ := header.first
  rw [parseChunk_declared rfl, if_neg (by simp [avihLength])] at leading
  obtain ⟨_, rfl⟩ := Prod.mk.inj (Option.some.inj leading)
  obtain ⟨_, impossible, _⟩ := second.first
  have left : (avih ++ (text "LIST" ++ (le32 96 ++ strl))).drop
      ((56 : UInt32).toNat + (56 : UInt32).toNat % 2) = text "LIST" ++ (le32 96 ++ strl) := by
    rw [show (56 : UInt32).toNat + (56 : UInt32).toNat % 2 = avih.length by rw [avihLength]; rfl,
      List.drop_left]
  rw [left, parseChunk_declared rfl, if_pos] at impossible
  · cases impossible
  · rw [show (96 : UInt32).toNat = 96 from rfl]
    omega

theorem not_wellFormedAvi {avih strl : List UInt8} {frames : List (List UInt8)}
    (avihLength : avih.length = 56) (long : 81 ≤ strl.length) :
    ¬ WellFormedAvi (text "RIFF" ++ (le32 size ++ (text "AVI " ++ (text "LIST" ++ (le32 156 ++
      (text "hdrl" ++ (text "avih" ++ (le32 56 ++ (avih ++ (text "LIST" ++
        (le32 96 ++ strl))))))))))) frames := by
  rintro ⟨body, chunks, hdrl, movi, fields, streams, strh, strf, whole, parts, oneHdrl, _, header, _⟩
  have fourList : (text "LIST").length = 4 := rfl
  have fourHdrl : (text "hdrl").length = 4 := rfl
  have fourAvih : (text "avih").length = 4 := rfl
  -- The declared size of the header list ends within the second chunk in it.
  have inner : (text "hdrl" ++ (text "avih" ++ (le32 56 ++ (avih ++ (text "LIST" ++
      (le32 96 ++ strl)))))).take (156 : UInt32).toNat = text "hdrl" ++ (text "avih" ++ (le32 56 ++
        (avih ++ (text "LIST" ++ (le32 96 ++ strl.take 80))))) := by
    rw [show (156 : UInt32).toNat = 156 from rfl]
    rw [take_behind (by simp [fourHdrl]), take_behind (by simp [fourHdrl, fourAvih]),
      take_behind (by simp [fourHdrl, fourAvih]), take_behind (by simp [fourHdrl, fourAvih, avihLength]),
      take_behind (by simp [fourHdrl, fourAvih, fourList, avihLength]),
      take_behind (by simp [fourHdrl, fourAvih, fourList, avihLength])]
    simp only [fourList, fourHdrl, fourAvih, avihLength, le32_length]
  have length : (text "hdrl" ++ (text "avih" ++ (le32 56 ++ (avih ++ (text "LIST" ++
      (le32 96 ++ strl)))))).length = 76 + strl.length := by
    simp only [List.length_append, fourList, fourHdrl, fourAvih, avihLength, le32_length]
    omega
  generalize text "hdrl" ++ (text "avih" ++ (le32 56 ++ (avih ++ (text "LIST" ++
    (le32 96 ++ strl))))) = content at inner length whole
  have some : text "LIST" ++ (le32 156 ++ content) ≠ [] := by
    intro none
    have zero := congrArg List.length none
    rw [List.length_append, fourList] at zero
    exact absurd zero (by simp)
  obtain ⟨count, all, rfl⟩ := riffBody_eq some whole
  rw [List.length_append, List.length_append, fourList, le32_length] at all
  obtain ⟨more, rfl⟩ : ∃ more, count = 8 + more := ⟨count - 8, by omega⟩
  have exceeds : (156 : UInt32).toNat + (156 : UInt32).toNat % 2 < content.length := by
    rw [length, show (156 : UInt32).toNat = 156 from rfl]
    omega
  obtain ⟨others, cut⟩ := parseList_cut exceeds (by omega : content.length ≤ more + 1)
  rw [inner] at cut
  have present : (text "LIST" ++ (le32 156 ++ content)).take (8 + more) ≠ [] := by
    intro none
    rw [none] at cut
    cases cut
  obtain ⟨chunk, behind, later, rfl, first, _⟩ := parts.exists_first present
  obtain ⟨rfl, rfl⟩ := Prod.mk.inj (Option.some.inj (first.symm.trans cut))
  rw [listsOf_cons rfl] at oneHdrl
  rw [← (List.cons.inj oneHdrl).1] at header
  exact not_parsesHeader avihLength (by rw [List.length_take]; omega) header

end Malformed

section Segment

/-- The words of the main header before the number of frames. -/
def avihFront (width height : UInt32) (fps : ℚ) : List UInt8 :=
  (avihFields width height fps).take 16

/-- The words of the main header behind the number of frames. -/
def avihBack (width height : UInt32) (fps : ℚ) : List UInt8 :=
  (avihFields width height fps).drop 20

/-- Everything that follows the size of the stream list. -/
def strlBytes (width height : UInt32) (fps : ℚ) : List UInt8 :=
  text "strl" ++ (text "strh" ++ (le32 48 ++ (strhFields width height fps ++ (text "strf" ++
    (le32 40 ++ (strfFields width height ++ (text "LIST" ++ (le32 0 ++ text "movi"))))))))

theorem avihFields_eq (width height : UInt32) (fps : ℚ) :
    avihFields width height fps =
      avihFront width height fps ++ (le32 0 ++ avihBack width height fps) := by
  unfold avihFront avihBack avihFields
  dsimp only
  generalize width * height * 3 = frameSize
  generalize truncateToUint32 _ = period
  generalize truncateToUint32 _ = rate
  -- Four words stand before the number, each of four bytes.
  have front : (le32 period ++ (le32 rate ++ (le32 0 ++ le32 0))).length = 16 := rfl
  have counted : (le32 period ++ (le32 rate ++ (le32 0 ++ le32 0)) ++ le32 0).length = 20 := rfl
  generalize back : le32 0 ++ (le32 1 ++ (le32 frameSize ++ (le32 width ++ (le32 height ++
    (le32 0 ++ (le32 0 ++ (le32 0 ++ le32 0))))))) = rest
  have words : le32 period ++ le32 rate ++ le32 0 ++ le32 0 ++ le32 0 ++ le32 0 ++ le32 1 ++
      le32 frameSize ++ le32 width ++ le32 height ++ le32 0 ++ le32 0 ++ le32 0 ++ le32 0 =
      le32 period ++ (le32 rate ++ (le32 0 ++ le32 0)) ++ (le32 0 ++ rest) := by
    rw [← back]
    simp only [List.append_assoc]
  have first : (le32 period ++ (le32 rate ++ (le32 0 ++ le32 0)) ++ (le32 0 ++ rest)).take 16 =
      le32 period ++ (le32 rate ++ (le32 0 ++ le32 0)) :=
    List.take_left' front
  have last : (le32 period ++ (le32 rate ++ (le32 0 ++ le32 0)) ++ (le32 0 ++ rest)).drop 20 =
      rest := by
    rw [← List.append_assoc _ (le32 0) rest]
    exact List.drop_left' counted
  simp only [words, first, last]

theorem writeAviHeader_eq (width height : UInt32) (fps : ℚ) :
    c64VideoWriteAviHeader width height fps =
      text "RIFF" ++ (le32 0 ++ (text "AVI " ++ (text "LIST" ++ (le32 156 ++ (text "hdrl" ++
        (text "avih" ++ (le32 56 ++ ((avihFront width height fps ++ (le32 0 ++
          avihBack width height fps)) ++ (text "LIST" ++ (le32 96 ++
            strlBytes width height fps)))))))))) := by
  have hdrl : (4 + 56 + (4 + 48 + 4 + 40) : UInt32) = 156 := by decide
  have strl : (4 + 48 + 4 + 40 : UInt32) = 96 := by decide
  unfold c64VideoWriteAviHeader strlBytes
  rw [avihFields_eq width height fps, hdrl, strl]
  -- The words and identifiers themselves do not matter.
  generalize le32 = word, text = identifier
  simp only [List.append_assoc]

theorem overwrite_append {front old new back : List UInt8} (same : old.length = new.length) :
    overwrite (front ++ (old ++ back)) front.length new = front ++ (new ++ back) := by
  have behind : (front ++ (old ++ back)).drop (front.length + new.length) = back := by
    rw [← List.drop_drop, List.drop_left, ← same, List.drop_left]
  rw [overwrite, List.take_left, behind, List.append_assoc]

/-- The bytes of a file with this file size and this number of frames in its header. -/
def aviFileBytes (fileSize frameCount : UInt32) (width height : UInt32) (fps : ℚ)
    (movi : List UInt8) : List UInt8 :=
  text "RIFF" ++ (le32 fileSize ++ (text "AVI " ++ (text "LIST" ++ (le32 156 ++ (text "hdrl" ++
    (text "avih" ++ (le32 56 ++ ((avihFront width height fps ++ (le32 frameCount ++
      avihBack width height fps)) ++ (text "LIST" ++ (le32 96 ++
        (strlBytes width height fps ++ movi)))))))))))

theorem writeAviHeader_append (width height : UInt32) (fps : ℚ) (movi : List UInt8) :
    c64VideoWriteAviHeader width height fps ++ movi = aviFileBytes 0 0 width height fps movi := by
  rw [writeAviHeader_eq, aviFileBytes]
  generalize le32 = word, text = identifier
  simp only [List.append_assoc]

theorem avihFields_length (width height : UInt32) (fps : ℚ) :
    (avihFields width height fps).length = 56 := by
  unfold avihFields
  simp only [List.length_append, le32_length]

theorem avihFront_length (width height : UInt32) (fps : ℚ) :
    (avihFront width height fps).length = 16 := by
  rw [avihFront, List.length_take, avihFields_length]
  rfl

theorem avihBack_length (width height : UInt32) (fps : ℚ) :
    (avihBack width height fps).length = 36 := by
  rw [avihBack, List.length_drop, avihFields_length]

theorem strlBytes_length (width height : UInt32) (fps : ℚ) :
    (strlBytes width height fps).length = 120 := by
  have strh : (strhFields width height fps).length = 48 := by
    have four : (text "vids").length = 4 := rfl
    unfold strhFields
    simp only [List.length_append, le32_length, le16_length, four]
  have strf : (strfFields width height).length = 40 := by
    unfold strfFields
    simp only [List.length_append, le32_length, le16_length]
  have kinds : (text "strl").length = 4 ∧ (text "strh").length = 4 ∧ (text "strf").length = 4 ∧
      (text "LIST").length = 4 ∧ (text "movi").length = 4 := ⟨rfl, rfl, rfl, rfl, rfl⟩
  unfold strlBytes
  simp only [List.length_append, le32_length, strh, strf, kinds]

/-- The bytes of a file before the number of frames. -/
def aviFront (fileSize width height : UInt32) (fps : ℚ) : List UInt8 :=
  text "RIFF" ++ (le32 fileSize ++ (text "AVI " ++ (text "LIST" ++ (le32 156 ++ (text "hdrl" ++
    (text "avih" ++ (le32 56 ++ avihFront width height fps)))))))

theorem aviFront_length (fileSize width height : UInt32) (fps : ℚ) :
    (aviFront fileSize width height fps).length = 48 := by
  have kinds : (text "RIFF").length = 4 ∧ (text "AVI ").length = 4 ∧ (text "LIST").length = 4 ∧
      (text "hdrl").length = 4 ∧ (text "avih").length = 4 := ⟨rfl, rfl, rfl, rfl, rfl⟩
  unfold aviFront
  simp only [List.length_append, le32_length, avihFront_length, kinds]

theorem aviFileBytes_split (fileSize frameCount width height : UInt32) (fps : ℚ)
    (movi : List UInt8) :
    aviFileBytes fileSize frameCount width height fps movi =
      aviFront fileSize width height fps ++ (le32 frameCount ++ (avihBack width height fps ++
        (text "LIST" ++ (le32 96 ++ (strlBytes width height fps ++ movi))))) := by
  unfold aviFileBytes aviFront
  generalize le32 = word, text = identifier
  simp only [List.append_assoc]

theorem aviFileBytes_length (fileSize frameCount width height : UInt32) (fps : ℚ)
    (movi : List UInt8) :
    (aviFileBytes fileSize frameCount width height fps movi).length = 216 + movi.length := by
  have four : (text "LIST").length = 4 := rfl
  rw [aviFileBytes_split]
  simp only [List.length_append, aviFront_length, le32_length, avihBack_length, strlBytes_length, four]
  omega

theorem patchHeader_aviFileBytes {fileSize oldCount frameCount width height : UInt32} {fps : ℚ}
    {movi : List UInt8} (short : 208 + movi.length < UInt32.size) :
    c64AviPatchHeaderInplace (aviFileBytes fileSize oldCount width height fps movi) frameCount =
      (aviFileBytes (UInt32.ofNat (208 + movi.length)) frameCount width height fps movi, true) := by
  have length := aviFileBytes_length fileSize oldCount width height fps movi
  have size : (aviFileBytes fileSize oldCount width height fps movi).length - 8 =
      208 + movi.length := by omega
  rw [c64AviPatchHeaderInplace, if_neg (by omega), size]
  have first : ∀ newSize, overwrite (aviFileBytes fileSize oldCount width height fps movi) 4
      (le32 newSize) = aviFileBytes newSize oldCount width height fps movi := fun newSize =>
    @overwrite_append (text "RIFF") (le32 fileSize) (le32 newSize) _ rfl
  have second : ∀ newSize, overwrite (aviFileBytes newSize oldCount width height fps movi) 48
      (le32 frameCount) = aviFileBytes newSize frameCount width height fps movi := fun newSize => by
    rw [aviFileBytes_split, aviFileBytes_split, ← aviFront_length newSize width height fps]
    exact overwrite_append rfl
  rw [first, second]

theorem patchHeader_shape (fileSize oldCount frameCount width height : UInt32) (fps : ℚ)
    (movi : List UInt8) : ∃ newSize newCount,
      (c64AviPatchHeaderInplace (aviFileBytes fileSize oldCount width height fps movi)
        frameCount).1 = aviFileBytes newSize newCount width height fps movi := by
  by_cases short : 208 + movi.length < UInt32.size
  · rw [patchHeader_aviFileBytes short]
    exact ⟨_, _, rfl⟩
  · have length := aviFileBytes_length fileSize oldCount width height fps movi
    rw [c64AviPatchHeaderInplace, if_pos (by omega)]
    exact ⟨_, _, rfl⟩

theorem aviSegmentFile_shape (width height : UInt32) (fps : ℚ) (frames : List (List UInt8)) :
    ∃ fileSize frameCount, aviSegmentFile width height fps frames =
      aviFileBytes fileSize frameCount width height fps (frames.flatMap aviFrameChunk) := by
  rw [aviSegmentFile, writeAviHeader_append]
  exact patchHeader_shape 0 0 _ width height fps _

theorem not_wellFormedAvi_segment (width height : UInt32) (fps : ℚ)
    (frames : List (List UInt8)) : ¬ WellFormedAvi (aviSegmentFile width height fps frames) frames := by
  obtain ⟨fileSize, frameCount, shape⟩ := aviSegmentFile_shape width height fps frames
  rw [shape, aviFileBytes]
  refine not_wellFormedAvi ?_ ?_
  · simp only [List.length_append, avihFront_length, avihBack_length, le32_length]
  · rw [List.length_append, strlBytes_length]
    omega

/-- No recorded video is well formed. -/
theorem aviSegmentFile_malformed (width height : UInt32) (fps : ℚ) (frames : List (List UInt8)) :
    ¬ WellFormedAvi (aviSegmentFile width height fps frames) frames :=
  not_wellFormedAvi_segment width height fps frames

/-- Two frames of a full picture at the rate of the device are not well formed. -/
theorem aviSegmentFile_malformed_pal :
    ¬ WellFormedAvi (aviSegmentFile 384 272 (401 / 8)
        [List.replicate 313344 0, List.replicate 313344 255])
      [List.replicate 313344 0, List.replicate 313344 255] :=
  not_wellFormedAvi_segment 384 272 (401 / 8) _

end Segment

end C64Stream
