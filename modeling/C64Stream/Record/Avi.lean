import C64Stream.Lib.Hex
import C64Stream.Lib.Riff
import C64Stream.Script.Value

/-! The video files of a recording: their header, their frames, and how they are finalised. -/

namespace C64Stream

section Header

/-- A nonnegative number as thirty-two bits, without its fraction. -/
def truncateToUint32 (x : ℚ) : UInt32 :=
  UInt32.ofNat ⌊x⌋.toNat

/-- The main header of a video file, after its identifier and size. -/
def avihFields (width height : UInt32) (fps : ℚ) : List UInt8 :=
  let frameSize := width * height * 3
  le32 (truncateToUint32 (1000000 / fps + 1 / 2)) ++ -- dwMicroSecPerFrame
  le32 (truncateToUint32 (frameSize.toNat * fps)) ++ -- dwMaxBytesPerSec
  le32 0 ++ -- dwPaddingGranularity
  le32 0 ++ -- dwFlags
  le32 0 ++ -- dwTotalFrames
  le32 0 ++ -- dwInitialFrames
  le32 1 ++ -- dwStreams
  le32 frameSize ++ -- dwSuggestedBufferSize
  le32 width ++ -- dwWidth
  le32 height ++ -- dwHeight
  le32 0 ++ le32 0 ++ le32 0 ++ le32 0 -- dwReserved

/-- The stream header of a video file, after its identifier and size. -/
def strhFields (width height : UInt32) (fps : ℚ) : List UInt8 :=
  text "vids" ++ -- fccType
  le32 0 ++ -- fccHandler
  le32 0 ++ -- dwFlags
  le16 0 ++ -- wPriority
  le16 0 ++ -- wLanguage
  le32 0 ++ -- dwInitialFrames
  le32 1000000 ++ -- dwScale
  le32 (truncateToUint32 (fps * 1000000 + 1 / 2)) ++ -- dwRate
  le32 0 ++ -- dwStart
  le32 0 ++ -- dwLength
  le32 (width * height * 3) ++ -- dwSuggestedBufferSize
  le32 0xFFFFFFFF ++ -- dwQuality
  le32 0 -- dwSampleSize

/-- The stream format of a video file, after its identifier and size. -/
def strfFields (width height : UInt32) : List UInt8 :=
  le32 40 ++ -- biSize
  le32 width ++ -- biWidth
  le32 (0 - height) ++ -- biHeight, top-down
  le16 1 ++ -- biPlanes
  le16 24 ++ -- biBitCount
  le32 0 ++ -- biCompression
  le32 (width * height * 3) ++ -- biSizeImage
  le32 0 ++ -- biXPelsPerMeter
  le32 0 ++ -- biYPelsPerMeter
  le32 0 ++ -- biClrUsed
  le32 0 -- biClrImportant

/-- The header of a video file, with the sizes that the code computes by hand. -/
def c64VideoWriteAviHeader (width height : UInt32) (fps : ℚ) : List UInt8 :=
  text "RIFF" ++ le32 0 ++ text "AVI " ++
    text "LIST" ++ le32 (4 + 56 + (4 + 48 + 4 + 40)) ++ text "hdrl" ++
    text "avih" ++ le32 56 ++ avihFields width height fps ++
    text "LIST" ++ le32 (4 + 48 + 4 + 40) ++ text "strl" ++
    text "strh" ++ le32 48 ++ strhFields width height fps ++
    text "strf" ++ le32 40 ++ strfFields width height ++
    text "LIST" ++ le32 0 ++ text "movi"

end Header

section File

/-- Patch the size of a video file and its number of frames; a file that is too short or too long
for its size field is left alone. -/
def c64AviPatchHeaderInplace (file : List UInt8) (frameCount : UInt32) : List UInt8 × Bool :=
  if file.length < 8 ∨ UInt32.size ≤ file.length - 8 then (file, false)
  else
    (overwrite (overwrite file 4 (le32 (UInt32.ofNat (file.length - 8)))) 48 (le32 frameCount),
      true)

/-- The bytes of a frame. -/
def aviFrameChunk (frame : List UInt8) : List UInt8 :=
  text "00db" ++ le32 (UInt32.ofNat frame.length) ++ frame ++ padding frame

/-- A video file to which some frames were recorded, as it is closed. -/
def aviSegmentFile (width height : UInt32) (fps : ℚ) (frames : List (List UInt8)) : List UInt8 :=
  (c64AviPatchHeaderInplace
    (c64VideoWriteAviHeader width height fps ++ frames.flatMap aviFrameChunk)
    (UInt32.ofNat frames.length)).1

end File

end C64Stream
