import C64Stream.Device.Registry
import C64Stream.Lib.Hex

/-! Requests to the device: how their URLs are put together, and which of them are whole. -/

namespace C64Stream

section Escaping

/-- A path without the name of the device before it. -/
def c64StripC64uPrefix (path : Text) : Text :=
  if (path.take 5).map toLower = text "c64u:" then path.drop 5 else path

/-- A character that a URL can have anywhere. -/
def isUnreserved (byte : UInt8) : Bool :=
  isAlnum byte || byte == 45 || byte == 46 || byte == 95 || byte == 126

/-- A text as a part of a URL. -/
def percentEncode (source : Text) : Text :=
  source.flatMap fun byte => if isUnreserved byte then [byte] else 37 :: hexByte true byte

/-- What a request meets. -/
structure RestMeets where
  /-- Whether there is memory for a copy, counted in the order of the copies. -/
  memory : Nat → Bool
  /-- Whether the device does what a URL asks for. -/
  accepts : Text → Bool

/-- A text as a part of a URL, if there is memory for it. -/
def curlEasyEscape (meets : RestMeets) (copy : Nat) (source : Text) : Option Text :=
  if meets.memory copy then some (percentEncode source) else none

end Escaping

section Requests

/-- What became of a request: the URL that it was made for, and what was returned. -/
structure RestResult where
  performed : Option Text
  returned : Bool
  deriving DecidableEq

def refused : RestResult := ⟨none, false⟩

def perform (meets : RestMeets) (url : Text) : RestResult := ⟨some url, meets.accepts url⟩

/-- A request with a query. -/
def httpRequest (meets : RestMeets) (baseUrl endpoint query : Text) : RestResult :=
  perform meets (copyField 1024 (baseUrl ++ endpoint ++ text "?" ++ query))

/-- A signed number. -/
def signedText (n : Int) : Text :=
  if n < 0 then text "-" ++ decimal n.natAbs else decimal n.natAbs

/-- Writes bytes to the memory of the device. -/
def c64RestWriteMemory (meets : RestMeets) (baseUrl : Text) (address : UInt16)
    (data : List UInt8) : RestResult :=
  if data = [] then refused
  else if !meets.memory 0 then refused
  else
    let hexData := data.flatMap (hexByte true)
    let query := copyField 512 (text "address=" ++ hexByte true (address >>> 8).toUInt8 ++
      hexByte true address.toUInt8 ++ text "&data=" ++ hexData)
    httpRequest meets baseUrl (text "/v1/machine:writemem") query

/-- Mounts a disk image of the device. -/
def c64RestDriveMountImage (meets : RestMeets) (baseUrl drive c64uPath : Text)
    (type mode : Option Text) : RestResult :=
  match curlEasyEscape meets 0 (c64StripC64uPrefix c64uPath) with
  | none => refused
  | some escapedPath =>
    let typeEnc := type.bind (curlEasyEscape meets 1)
    let modeEnc := mode.bind (curlEasyEscape meets 2)
    let endpoint := copyField 256 (text "/v1/drives/" ++ drive ++ text ":mount")
    let query :=
      match typeEnc, modeEnc with
      | some typeEnc, some modeEnc =>
        copyField 512 (text "image=" ++ escapedPath ++
          (text "&type=" ++ typeEnc ++ text "&mode=" ++ modeEnc))
      | _, _ => copyField 512 (text "image=" ++ escapedPath)
    httpRequest meets baseUrl endpoint query

/-- Loads the ROM of a drive from the device. -/
def c64RestDriveLoadRomImage (meets : RestMeets) (baseUrl drive c64uPath : Text) : RestResult :=
  match curlEasyEscape meets 0 (c64StripC64uPrefix c64uPath) with
  | none => refused
  | some escapedPath =>
    let endpoint := copyField 256 (text "/v1/drives/" ++ drive ++ text ":load_rom")
    httpRequest meets baseUrl endpoint (copyField 512 (text "file=" ++ escapedPath))

/-- Sets an item of the configuration. -/
def c64RestConfigSetValue (meets : RestMeets) (baseUrl category item value : Text) :
    RestResult :=
  match curlEasyEscape meets 0 category, curlEasyEscape meets 1 item,
    curlEasyEscape meets 2 value with
  | some catEnc, some itemEnc, some valEnc =>
    let endpoint := copyField 512 (text "/v1/configs/" ++ catEnc ++ text "/" ++ itemEnc)
    httpRequest meets baseUrl endpoint (copyField 512 (text "value=" ++ valEnc))
  | _, _, _ => refused

/-- Plays a song of the device. -/
def c64RestPlaySidPath (meets : RestMeets) (baseUrl c64uPath : Text) (songNumber : Int) :
    RestResult :=
  match curlEasyEscape meets 0 (c64StripC64uPrefix c64uPath) with
  | none => refused
  | some escapedPath =>
    perform meets (copyField 512 (baseUrl ++ text "/v1/runners:sidplay?file=" ++ escapedPath ++
      text "&songnr=" ++ signedText songNumber))

/-- Runs a program of the device. -/
def c64RestRunPrgPath (meets : RestMeets) (baseUrl c64uPath : Text) : RestResult :=
  match curlEasyEscape meets 0 c64uPath with
  | none => refused
  | some escapedPath =>
    perform meets (copyField 512 (baseUrl ++ text "/v1/runners:run_prg?path=" ++ escapedPath))

end Requests

section Whole

/-- A request has the whole of an argument behind what comes before it in the URL, or it was not
made, and false was returned. -/
def Carries (before argument : Text) (outcome : RestResult) : Prop :=
  match outcome.performed with
  | some url => before ++ argument <+: url
  | none => outcome.returned = false

/-- The endpoint, the query up to the end of the argument, and the URL fit their buffers. -/
structure FitsBuffers (endpointSize : Nat) (baseUrl endpoint argument : Text) : Prop where
  endpointFits : endpoint.length < endpointSize
  queryFits : argument.length < 512
  urlFits : baseUrl.length + endpoint.length + 1 + argument.length < 1024

/-- A request that goes through all three buffers. -/
def throughBuffers (endpointSize : Nat) (baseUrl endpoint query : Text) : Text :=
  copyField 1024 (baseUrl ++ copyField endpointSize endpoint ++ text "?" ++ copyField 512 query)

theorem percentEncode_plain (source : Text) : 63 ∉ percentEncode source := by
  intro among
  obtain ⟨byte, _, inside⟩ := List.mem_flatMap.mp among
  have all : ∀ byte : UInt8,
      63 ∉ if isUnreserved byte then [byte] else 37 :: hexByte true byte :=
    forall_byte (by decide +kernel)
  exact all byte inside

theorem prefix_throughBuffers {endpointSize : Nat} (positive : 0 < endpointSize)
    (baseUrl endpoint argument rest : Text) (plain : 63 ∉ argument ++ rest) :
    baseUrl ++ endpoint ++ text "?" ++ argument <+:
        throughBuffers endpointSize baseUrl endpoint (argument ++ rest) ↔
      FitsBuffers endpointSize baseUrl endpoint argument := by
  have mark : text "?" = [63] := rfl
  unfold throughBuffers copyField
  rw [List.prefix_take_iff, mark]
  constructor
  · rintro ⟨starts, whole⟩
    simp only [List.length_append, List.length_singleton] at whole
    rw [List.append_assoc, List.append_assoc, List.append_assoc, List.append_assoc,
      List.prefix_append_right_inj] at starts
    have fits : endpoint.length < endpointSize := by
      -- Of an endpoint that was cut, the rest would have to begin with the query.
      by_contra cut
      have split := List.take_append_drop (endpointSize - 1) endpoint
      have left : (endpoint.drop (endpointSize - 1)) ≠ [] := by
        rw [List.ne_nil_iff_length_pos, List.length_drop]
        omega
      conv at starts =>
        lhs
        rw [← split, List.append_assoc]
      rw [List.prefix_append_right_inj] at starts
      obtain ⟨byte, behind, shape⟩ := List.exists_cons_of_ne_nil left
      rw [shape, List.cons_append, List.singleton_append, List.singleton_append,
        List.cons_prefix_cons] at starts
      have inside : (63 : UInt8) ∈ (argument ++ rest).take 511 :=
        starts.2.subset (by simp)
      exact plain (List.mem_of_mem_take inside)
    rw [List.take_of_length_le (by omega), List.prefix_append_right_inj,
      List.prefix_append_right_inj, List.prefix_take_iff] at starts
    exact ⟨fits, by omega, by omega⟩
  · rintro ⟨fits, query, url⟩
    constructor
    · rw [List.take_of_length_le (show endpoint.length ≤ endpointSize - 1 by omega),
        List.prefix_append_right_inj, List.prefix_take_iff]
      exact ⟨List.prefix_append _ _, by omega⟩
    · simp only [List.length_append, List.length_singleton]
      omega

theorem carries_refused (before argument : Text) : Carries before argument refused := rfl

def enoughMemory : RestMeets := ⟨fun _ => true, fun _ => true⟩

variable {baseUrl before argument : Text} {call : RestMeets → RestResult}

theorem carries_iff_fitsBuffers {endpointSize : Nat} {endpoint query : Text}
    (positive : 0 < endpointSize)
    (whole : before ++ argument = baseUrl ++ endpoint ++ text "?" ++ query) (plain : 63 ∉ query)
    (calls : ∀ meets, call meets = refused ∨ ∃ rest, 63 ∉ rest ∧
      call meets = perform meets (throughBuffers endpointSize baseUrl endpoint (query ++ rest)))
    (made : call enoughMemory ≠ refused) :
    (∀ meets, Carries before argument (call meets)) ↔
      FitsBuffers endpointSize baseUrl endpoint query := by
  have placed : ∀ rest, 63 ∉ rest → (before ++ argument <+:
      throughBuffers endpointSize baseUrl endpoint (query ++ rest) ↔
        FitsBuffers endpointSize baseUrl endpoint query) := by
    intro rest plainRest
    rw [whole]
    exact prefix_throughBuffers positive _ _ _ _ (by simp [plain, plainRest])
  constructor
  · intro all
    obtain ⟨rest, plainRest, shape⟩ := (calls enoughMemory).resolve_left made
    have here := all enoughMemory
    rw [shape] at here
    exact (placed rest plainRest).mp here
  · intro fits meets
    rcases calls meets with none | ⟨rest, plainRest, shape⟩
    · rw [none]
      exact carries_refused _ _
    · rw [shape]
      exact (placed rest plainRest).mpr fits

theorem carries_iff_fitsUrl {size : Nat} (positive : 0 < size)
    (calls : ∀ meets, call meets = refused ∨ ∃ rest,
      call meets = perform meets (copyField size (before ++ argument ++ rest)))
    (made : call enoughMemory ≠ refused) :
    (∀ meets, Carries before argument (call meets)) ↔ (before ++ argument).length < size := by
  have placed : ∀ rest, before ++ argument <+: copyField size (before ++ argument ++ rest) ↔
      (before ++ argument).length < size := by
    intro rest
    rw [copyField, List.prefix_take_iff]
    constructor
    · rintro ⟨_, fits⟩
      omega
    · intro fits
      exact ⟨List.prefix_append _ _, by omega⟩
  constructor
  · intro all
    obtain ⟨rest, shape⟩ := (calls enoughMemory).resolve_left made
    have here := all enoughMemory
    rw [shape] at here
    exact (placed rest).mp here
  · intro fits meets
    rcases calls meets with none | ⟨rest, shape⟩
    · rw [none]
      exact carries_refused _ _
    · rw [shape]
      exact (placed rest).mpr fits

theorem curlEasyEscape_cases (meets : RestMeets) (copy : Nat) (source : Text) :
    curlEasyEscape meets copy source = none ∨
      curlEasyEscape meets copy source = some (percentEncode source) := by
  unfold curlEasyEscape
  split
  · exact .inr rfl
  · exact .inl rfl

end Whole

section Functions

variable (baseUrl : Text)

theorem hexBytes_plain (data : List UInt8) : 63 ∉ data.flatMap (hexByte true) := by
  intro among
  obtain ⟨byte, _, inside⟩ := List.mem_flatMap.mp among
  have all : ∀ byte : UInt8, 63 ∉ hexByte true byte := forall_byte (by decide +kernel)
  exact all byte inside

theorem hexBytes_length (data : List UInt8) :
    (data.flatMap (hexByte true)).length = 2 * data.length := by
  induction data with
  | nil => rfl
  | cons byte data ih =>
    rw [List.flatMap_cons, List.length_append, ih, hexByte_length, List.length_cons]
    omega

theorem c64RestWriteMemory_carries (address : UInt16) (data : List UInt8) :
    (∀ meets, Carries (baseUrl ++ text "/v1/machine:writemem?address=" ++
        hexByte true (address >>> 8).toUInt8 ++ hexByte true address.toUInt8 ++ text "&data=")
      (data.flatMap (hexByte true)) (c64RestWriteMemory meets baseUrl address data)) ↔
      data = [] ∨ (18 + 2 * data.length < 512 ∧ baseUrl.length + 39 + 2 * data.length < 1024) := by
  by_cases none : data = []
  · refine ⟨fun _ => .inl none, fun _ meets => ?_⟩
    rw [c64RestWriteMemory, if_pos none]
    exact carries_refused _ _
  let query := text "address=" ++ hexByte true (address >>> 8).toUInt8 ++
    hexByte true address.toUInt8 ++ text "&data=" ++ data.flatMap (hexByte true)
  have size : query.length = 18 + 2 * data.length := by
    rw [show query.length = 18 + (data.flatMap (hexByte true)).length from
      List.length_append, hexBytes_length]
  have plain : 63 ∉ query := by
    have all : ∀ byte : UInt8, 63 ∉ hexByte true byte := forall_byte (by decide +kernel)
    simp only [query, List.mem_append, not_or]
    exact ⟨⟨⟨⟨by decide, all _⟩, all _⟩, by decide⟩, hexBytes_plain data⟩
  rw [@carries_iff_fitsBuffers baseUrl _ _ _ 21 (text "/v1/machine:writemem") query (by decide)]
  · have endpoint : (text "/v1/machine:writemem").length = 20 := rfl
    constructor
    · rintro ⟨_, fits, url⟩
      exact .inr ⟨by omega, by omega⟩
    · rintro (empty | ⟨fits, url⟩)
      · exact absurd empty none
      · exact ⟨by omega, by omega, by omega⟩
  · rw [show text "/v1/machine:writemem?address=" = text "/v1/machine:writemem" ++ text "?" ++
      text "address=" from by decide]
    simp only [query, List.append_assoc]
  · exact plain
  · intro meets
    rw [c64RestWriteMemory, if_neg none]
    split
    · exact .inl rfl
    · refine .inr ⟨[], List.not_mem_nil, ?_⟩
      rw [List.append_nil]
      rfl
  · rw [c64RestWriteMemory, if_neg none]
    exact nofun

theorem c64RestDriveMountImage_carries (drive path : Text) (type mode : Option Text) :
    (∀ meets, Carries (baseUrl ++ text "/v1/drives/" ++ drive ++ text ":mount?image=")
      (percentEncode (c64StripC64uPrefix path))
      (c64RestDriveMountImage meets baseUrl drive path type mode)) ↔
      17 + drive.length < 256 ∧ 6 + (percentEncode (c64StripC64uPrefix path)).length < 512 ∧
        baseUrl.length + drive.length + 24 +
          (percentEncode (c64StripC64uPrefix path)).length < 1024 := by
  generalize encoded : percentEncode (c64StripC64uPrefix path) = escaped
  have plain : 63 ∉ escaped := encoded ▸ percentEncode_plain _
  rw [@carries_iff_fitsBuffers baseUrl _ _ _ 256 (text "/v1/drives/" ++ drive ++ text ":mount")
    (text "image=" ++ escaped) (by decide)]
  · have endpoint : (text "/v1/drives/" ++ drive ++ text ":mount").length = 17 + drive.length := by
      simp only [List.length_append, show (text "/v1/drives/").length = 11 from rfl,
        show (text ":mount").length = 6 from rfl]
      omega
    have query : (text "image=" ++ escaped).length = 6 + escaped.length := List.length_append
    constructor
    · rintro ⟨fitsEndpoint, fitsQuery, fitsUrl⟩
      exact ⟨by omega, by omega, by omega⟩
    · rintro ⟨fitsEndpoint, fitsQuery, fitsUrl⟩
      exact ⟨by omega, by omega, by omega⟩
  · rw [show text ":mount?image=" = text ":mount" ++ text "?" ++ text "image=" from by decide]
    simp only [List.append_assoc]
  · simp only [List.mem_append, not_or]
    exact ⟨by decide, plain⟩
  · intro meets
    unfold c64RestDriveMountImage
    rcases curlEasyEscape_cases meets 0 (c64StripC64uPrefix path) with failed | made
    · rw [failed]
      exact .inl rfl
    · rw [made, encoded]
      refine .inr ?_
      dsimp only
      -- The type and the mode follow only where both could be escaped.
      cases typeEnc : type.bind (curlEasyEscape meets 1) with
      | none =>
        refine ⟨[], List.not_mem_nil, ?_⟩
        rw [List.append_nil]
        rfl
      | some typeText =>
        cases modeEnc : mode.bind (curlEasyEscape meets 2) with
        | none =>
          refine ⟨[], List.not_mem_nil, ?_⟩
          rw [List.append_nil]
          rfl
        | some modeText =>
          have plainCopy : ∀ {source : Option Text} {copy : Nat} {escapedText : Text},
              source.bind (curlEasyEscape meets copy) = some escapedText → 63 ∉ escapedText := by
            intro source copy escapedText made
            obtain ⟨raw, _, copied⟩ := Option.bind_eq_some_iff.mp made
            rcases curlEasyEscape_cases meets copy raw with failed | escapes
            · rw [failed] at copied
              cases copied
            · rw [escapes] at copied
              exact Option.some.inj copied ▸ percentEncode_plain _
          refine ⟨text "&type=" ++ typeText ++ text "&mode=" ++ modeText, ?_, rfl⟩
          simp only [List.mem_append, not_or]
          exact ⟨⟨⟨by decide, plainCopy typeEnc⟩, by decide⟩, plainCopy modeEnc⟩
  · unfold c64RestDriveMountImage
    cases type <;> cases mode <;> exact nofun

theorem c64RestDriveLoadRomImage_carries (drive path : Text) :
    (∀ meets, Carries (baseUrl ++ text "/v1/drives/" ++ drive ++ text ":load_rom?file=")
      (percentEncode (c64StripC64uPrefix path))
      (c64RestDriveLoadRomImage meets baseUrl drive path)) ↔
      20 + drive.length < 256 ∧ 5 + (percentEncode (c64StripC64uPrefix path)).length < 512 ∧
        baseUrl.length + drive.length + 26 +
          (percentEncode (c64StripC64uPrefix path)).length < 1024 := by
  generalize encoded : percentEncode (c64StripC64uPrefix path) = escaped
  have plain : 63 ∉ escaped := encoded ▸ percentEncode_plain _
  rw [@carries_iff_fitsBuffers baseUrl _ _ _ 256
    (text "/v1/drives/" ++ drive ++ text ":load_rom") (text "file=" ++ escaped) (by decide)]
  · have endpoint : (text "/v1/drives/" ++ drive ++ text ":load_rom").length =
        20 + drive.length := by
      simp only [List.length_append, show (text "/v1/drives/").length = 11 from rfl,
        show (text ":load_rom").length = 9 from rfl]
      omega
    have query : (text "file=" ++ escaped).length = 5 + escaped.length := List.length_append
    constructor
    · rintro ⟨fitsEndpoint, fitsQuery, fitsUrl⟩
      exact ⟨by omega, by omega, by omega⟩
    · rintro ⟨fitsEndpoint, fitsQuery, fitsUrl⟩
      exact ⟨by omega, by omega, by omega⟩
  · rw [show text ":load_rom?file=" = text ":load_rom" ++ text "?" ++ text "file=" from by decide]
    simp only [List.append_assoc]
  · simp only [List.mem_append, not_or]
    exact ⟨by decide, plain⟩
  · intro meets
    unfold c64RestDriveLoadRomImage
    rcases curlEasyEscape_cases meets 0 (c64StripC64uPrefix path) with failed | made
    · rw [failed]
      exact .inl rfl
    · rw [made, encoded]
      refine .inr ⟨[], List.not_mem_nil, ?_⟩
      rw [List.append_nil]
      rfl
  · exact nofun

theorem c64RestConfigSetValue_carries (category item value : Text) :
    (∀ meets, Carries baseUrl (text "/v1/configs/" ++ percentEncode category ++ text "/" ++
        percentEncode item ++ text "?value=" ++ percentEncode value)
      (c64RestConfigSetValue meets baseUrl category item value)) ↔
      13 + (percentEncode category).length + (percentEncode item).length < 512 ∧
        6 + (percentEncode value).length < 512 ∧
        baseUrl.length + (percentEncode category).length + (percentEncode item).length + 20 +
          (percentEncode value).length < 1024 := by
  rw [@carries_iff_fitsBuffers baseUrl _ _ _ 512 (text "/v1/configs/" ++ percentEncode category ++
    text "/" ++ percentEncode item) (text "value=" ++ percentEncode value) (by decide)]
  · have endpoint : (text "/v1/configs/" ++ percentEncode category ++ text "/" ++
        percentEncode item).length =
        13 + (percentEncode category).length + (percentEncode item).length := by
      simp only [List.length_append, show (text "/v1/configs/").length = 12 from rfl,
        show (text "/").length = 1 from rfl]
      omega
    have query : (text "value=" ++ percentEncode value).length =
        6 + (percentEncode value).length := List.length_append
    constructor
    · rintro ⟨fitsEndpoint, fitsQuery, fitsUrl⟩
      exact ⟨by omega, by omega, by omega⟩
    · rintro ⟨fitsEndpoint, fitsQuery, fitsUrl⟩
      exact ⟨by omega, by omega, by omega⟩
  · rw [show text "?value=" = text "?" ++ text "value=" from by decide]
    simp only [List.append_assoc]
  · simp only [List.mem_append, not_or]
    exact ⟨by decide, percentEncode_plain value⟩
  · intro meets
    unfold c64RestConfigSetValue
    rcases curlEasyEscape_cases meets 0 category with failed | madeCategory
    · rw [failed]
      exact .inl rfl
    rcases curlEasyEscape_cases meets 1 item with failed | madeItem
    · rw [madeCategory, failed]
      exact .inl rfl
    rcases curlEasyEscape_cases meets 2 value with failed | madeValue
    · rw [madeCategory, madeItem, failed]
      exact .inl rfl
    · rw [madeCategory, madeItem, madeValue]
      refine .inr ⟨[], List.not_mem_nil, ?_⟩
      rw [List.append_nil]
      rfl
  · exact nofun

theorem c64RestPlaySidPath_carries (path : Text) (songNumber : Int) :
    (∀ meets, Carries (baseUrl ++ text "/v1/runners:sidplay?file=")
      (percentEncode (c64StripC64uPrefix path))
      (c64RestPlaySidPath meets baseUrl path songNumber)) ↔
      baseUrl.length + 25 + (percentEncode (c64StripC64uPrefix path)).length < 512 := by
  rw [@carries_iff_fitsUrl _ _ _ 512 (by decide)]
  · simp only [List.length_append, show (text "/v1/runners:sidplay?file=").length = 25 from rfl]
  · intro meets
    unfold c64RestPlaySidPath
    rcases curlEasyEscape_cases meets 0 (c64StripC64uPrefix path) with failed | made
    · rw [failed]
      exact .inl rfl
    · rw [made]
      refine .inr ⟨text "&songnr=" ++ signedText songNumber, ?_⟩
      rw [← List.append_assoc]
  · exact nofun

theorem c64RestRunPrgPath_carries (path : Text) :
    (∀ meets, Carries (baseUrl ++ text "/v1/runners:run_prg?path=") (percentEncode path)
      (c64RestRunPrgPath meets baseUrl path)) ↔
      baseUrl.length + 25 + (percentEncode path).length < 512 := by
  rw [@carries_iff_fitsUrl _ _ _ 512 (by decide)]
  · simp only [List.length_append, show (text "/v1/runners:run_prg?path=").length = 25 from rfl]
  · intro meets
    unfold c64RestRunPrgPath
    rcases curlEasyEscape_cases meets 0 path with failed | made
    · rw [failed]
      exact .inl rfl
    · rw [made]
      exact .inr ⟨[], by rw [List.append_nil]⟩
  · exact nofun

end Functions

section Results

/-- Which requests always carry their whole argument, or are not made. -/
theorem restRequests_carry_iff (baseUrl : Text) :
    (∀ (address : UInt16) (data : List UInt8),
      (∀ meets, Carries (baseUrl ++ text "/v1/machine:writemem?address=" ++
          hexByte true (address >>> 8).toUInt8 ++ hexByte true address.toUInt8 ++ text "&data=")
        (data.flatMap (hexByte true)) (c64RestWriteMemory meets baseUrl address data)) ↔
        data = [] ∨ (18 + 2 * data.length < 512 ∧
          baseUrl.length + 39 + 2 * data.length < 1024)) ∧
    (∀ (drive path : Text) (type mode : Option Text),
      (∀ meets, Carries (baseUrl ++ text "/v1/drives/" ++ drive ++ text ":mount?image=")
        (percentEncode (c64StripC64uPrefix path))
        (c64RestDriveMountImage meets baseUrl drive path type mode)) ↔
        17 + drive.length < 256 ∧ 6 + (percentEncode (c64StripC64uPrefix path)).length < 512 ∧
          baseUrl.length + drive.length + 24 +
            (percentEncode (c64StripC64uPrefix path)).length < 1024) ∧
    (∀ (drive path : Text),
      (∀ meets, Carries (baseUrl ++ text "/v1/drives/" ++ drive ++ text ":load_rom?file=")
        (percentEncode (c64StripC64uPrefix path))
        (c64RestDriveLoadRomImage meets baseUrl drive path)) ↔
        20 + drive.length < 256 ∧ 5 + (percentEncode (c64StripC64uPrefix path)).length < 512 ∧
          baseUrl.length + drive.length + 26 +
            (percentEncode (c64StripC64uPrefix path)).length < 1024) ∧
    (∀ (category item value : Text),
      (∀ meets, Carries baseUrl (text "/v1/configs/" ++ percentEncode category ++ text "/" ++
          percentEncode item ++ text "?value=" ++ percentEncode value)
        (c64RestConfigSetValue meets baseUrl category item value)) ↔
        13 + (percentEncode category).length + (percentEncode item).length < 512 ∧
          6 + (percentEncode value).length < 512 ∧
          baseUrl.length + (percentEncode category).length + (percentEncode item).length + 20 +
            (percentEncode value).length < 1024) ∧
    (∀ (path : Text) (songNumber : Int),
      (∀ meets, Carries (baseUrl ++ text "/v1/runners:sidplay?file=")
        (percentEncode (c64StripC64uPrefix path))
        (c64RestPlaySidPath meets baseUrl path songNumber)) ↔
        baseUrl.length + 25 + (percentEncode (c64StripC64uPrefix path)).length < 512) ∧
    (∀ path : Text,
      (∀ meets, Carries (baseUrl ++ text "/v1/runners:run_prg?path=") (percentEncode path)
        (c64RestRunPrgPath meets baseUrl path)) ↔
        baseUrl.length + 25 + (percentEncode path).length < 512) :=
  ⟨c64RestWriteMemory_carries baseUrl, c64RestDriveMountImage_carries baseUrl,
    c64RestDriveLoadRomImage_carries baseUrl, c64RestConfigSetValue_carries baseUrl,
    c64RestPlaySidPath_carries baseUrl, c64RestRunPrgPath_carries baseUrl⟩

/-- Of 247 bytes that are to be written, the last digit is not in the URL of the request. -/
theorem block247_loses_digit :
    ∃ url, c64RestWriteMemory enoughMemory (text "http://c64u") 0xC000 (List.replicate 247 0) =
        ⟨some url, true⟩ ∧
      ¬ (List.replicate 247 (0 : UInt8)).flatMap (hexByte true) <:+: url := by
  refine ⟨text "http://c64u/v1/machine:writemem?address=C000&data=" ++ List.replicate 493 48,
    by decide +kernel, ?_⟩
  have digits : (List.replicate 247 (0 : UInt8)).flatMap (hexByte true) = List.replicate 494 48 := by
    decide +kernel
  rw [digits]
  rintro ⟨front, behind, same⟩
  -- A run of so many zeros lies across the equals sign before the digits.
  have total := congrArg List.length same
  rw [List.length_append, List.length_append, List.length_replicate, List.length_append,
    List.length_replicate, show (text "http://c64u/v1/machine:writemem?address=C000&data=").length =
      50 from rfl] at total
  have sign := congrArg (·[49]?) same
  rw [List.append_assoc, List.getElem?_append_right (by omega),
    List.getElem?_append_left (by rw [List.length_replicate]; omega),
    List.getElem?_replicate_of_lt (by omega)] at sign
  exact absurd sign (by decide)

end Results

end C64Stream
