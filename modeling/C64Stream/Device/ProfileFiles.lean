import C64Stream.Device.Registry

/-! What the file of a device reads back as, also where its writing was cut short. -/

namespace C64Stream

section Numbers

theorem decimal_digit {n : Nat} {byte : UInt8} (within : byte ∈ decimal n) :
    48 ≤ byte ∧ byte ≤ 57 := by
  obtain ⟨digit, among, rfl⟩ := List.mem_map.mp within
  have bounds := Nat.isDigit_of_mem_toDigits (by decide) (by decide) among
  rw [Char.isDigit, Bool.and_eq_true, decide_eq_true_eq, decide_eq_true_eq] at bounds
  have low : 48 ≤ digit.toNat := bounds.1
  have high : digit.toNat ≤ 57 := bounds.2
  rw [UInt8.le_iff_toNat_le, UInt8.le_iff_toNat_le,
    UInt8.toNat_ofNat_of_lt' (by change digit.toNat < 256; omega)]
  exact ⟨low, high⟩

theorem digit_not_space {byte : UInt8} (low : 48 ≤ byte) : isSpace byte = false := by
  have bound : 48 ≤ byte.toNat := UInt8.le_iff_toNat_le.mp low
  have other : byte ≠ 32 := by
    rintro rfl
    exact absurd bound (by decide)
  have above : ¬byte ≤ 13 := fun below => by
    have := UInt8.le_iff_toNat_le.mp below
    change byte.toNat ≤ 13 at this
    omega
  simp [isSpace, other, above]

theorem leadingNumber_digits {digits : List Char} (all : ∀ digit ∈ digits, digit.isDigit)
    (number : Nat) :
    leadingNumber number (digits.map fun digit => UInt8.ofNat digit.toNat)
      = Nat.ofDigitChars 10 digits number := by
  induction digits generalizing number with
  | nil => rfl
  | cons digit digits ih =>
    have bounds := all digit (by simp)
    rw [Char.isDigit, Bool.and_eq_true, decide_eq_true_eq, decide_eq_true_eq] at bounds
    have low : 48 ≤ digit.toNat := bounds.1
    have high : digit.toNat ≤ 57 := bounds.2
    have value : (UInt8.ofNat digit.toNat).toNat = digit.toNat :=
      UInt8.toNat_ofNat_of_lt' (by change digit.toNat < 256; omega)
    have isDigit : 48 ≤ UInt8.ofNat digit.toNat ∧ UInt8.ofNat digit.toNat ≤ 57 := by
      rw [UInt8.le_iff_toNat_le, UInt8.le_iff_toNat_le, value]
      exact ⟨low, high⟩
    rw [List.map_cons, leadingNumber, if_pos isDigit,
      ih fun digit within => all digit (by simp [within]), value, Nat.ofDigitChars_cons]
    rfl

theorem leadingNumber_decimal (n : Nat) : leadingNumber 0 (decimal n) = n := by
  rw [decimal, leadingNumber_digits fun digit within =>
    Nat.isDigit_of_mem_toDigits (by decide) (by decide) within]
  exact Nat.ofDigitChars_ten_toDigits

theorem strtoul_decimal {n : Nat} (small : n < 2 ^ 64) : strtoul (decimal n) = n := by
  have value := leadingNumber_decimal n
  have nonempty : decimal n ≠ [] := by simp [decimal, Nat.toDigits_ne_nil]
  obtain ⟨first, rest, shape⟩ := List.exists_cons_of_ne_nil nonempty
  have among : first ∈ decimal n := by simp [shape]
  obtain ⟨low, high⟩ := decimal_digit among
  have solid := digit_not_space low
  -- The first digit is neither white space nor a sign.
  have plus : first ≠ 43 := by rintro rfl; simp at low
  have minus : first ≠ 45 := by rintro rfl; simp at low
  unfold strtoul
  rw [shape] at value ⊢
  rw [List.dropWhile_cons_of_neg (by simp [solid])]
  dsimp only
  split
  · rename_i same; exact absurd (List.cons.inj same).1 plus
  · rename_i same; exact absurd (List.cons.inj same).1 minus
  · rw [value]
    exact Nat.min_eq_left (by omega)

theorem readPort_decimal (port : UInt32) : readPort (trimEnd (decimal port.toNat)) = port := by
  have solid : trimEnd (decimal port.toNat) = decimal port.toNat := by
    exact trimEnd_of_solid fun byte within => digit_not_space (decimal_digit within).1
  have small : port.toNat < 2 ^ 64 := Nat.lt_trans port.toNat_lt (by decide)
  rw [solid, readPort, strtoul_decimal small, UInt32.ofNat_toNat]

theorem decimal_length (port : UInt32) : (decimal port.toNat).length ≤ 10 := by
  rw [decimal, List.length_map, Nat.length_toDigits_le_iff (by decide) (by decide)]
  exact Nat.lt_trans port.toNat_lt (by decide)

theorem decimal_no_break (n : Nat) : 10 ∉ decimal n :=
  fun within => absurd (decimal_digit within).1 (by decide)

end Numbers

section Values

/-- A text fits a field of a size and holds no line break. -/
def FitsField (size : Nat) (value : Text) : Prop :=
  value.length < size ∧ 10 ∉ value

instance (size : Nat) (value : Text) : Decidable (FitsField size value) :=
  inferInstanceAs (Decidable (_ ∧ _))

/-- The texts of a device. -/
def Device.texts (device : Device) : List Text :=
  [device.id, device.name, device.host, device.peerHost, device.dnsServerIp]

/-- Every text of a device fits its field and holds no line break. -/
def Device.Fits (device : Device) : Prop :=
  FitsField c64DeviceIdMax device.id ∧ FitsField c64DeviceNameMax device.name ∧
    FitsField c64DeviceHostMax device.host ∧ FitsField c64DeviceHostMax device.peerHost ∧
    FitsField c64DeviceHostMax device.dnsServerIp

instance (device : Device) : Decidable device.Fits :=
  inferInstanceAs (Decidable (_ ∧ _))

/-- No text of a device ends in white space. -/
def Device.Trimmed (device : Device) : Prop :=
  ∀ value ∈ device.texts, trimEnd value = value

instance (device : Device) : Decidable device.Trimmed :=
  inferInstanceAs (Decidable (∀ value ∈ device.texts, trimEnd value = value))

theorem copyField_of_fits {size : Nat} {value : Text} (fits : FitsField size value) :
    copyField size value = value :=
  List.take_of_length_le (by have := fits.1; omega)

theorem fits_copyField {size : Nat} (positive : 0 < size) {value : Text} (single : 10 ∉ value) :
    FitsField size (copyField size value) := by
  constructor
  · rw [copyField, List.length_take]
    omega
  · exact fun within => single (List.mem_of_mem_take within)

theorem readEntry_kept {device : Device} {entry : Text × Text} (fits : device.Fits)
    (trimmed : device.Trimmed) (fitsValue : FitsField 64 entry.2)
    (trimmedValue : trimEnd entry.2 = entry.2) :
    (readEntry device entry).Fits ∧ (readEntry device entry).Trimmed := by
  obtain ⟨key, value⟩ := entry
  have whole : copyField 64 value = value := copyField_of_fits fitsValue
  obtain ⟨id, name, host, peerHost, dnsServerIp⟩ := fits
  simp only [Device.Trimmed, Device.texts, List.mem_cons, List.not_mem_nil, or_false,
    forall_eq_or_imp, forall_eq] at trimmed ⊢
  obtain ⟨trimmedId, trimmedName, trimmedHost, trimmedPeer, trimmedDns⟩ := trimmed
  -- Every key replaces at most the one field that it names.
  simp only [readEntry, c64DeviceIdMax, c64DeviceNameMax, c64DeviceHostMax, whole]
  split_ifs
  all_goals
    exact ⟨⟨by assumption, by assumption, by assumption, by assumption, by assumption⟩,
      by assumption, by assumption, by assumption, by assumption, by assumption⟩

theorem readEntries_kept {entries : List (Text × Text)} {device : Device} (fits : device.Fits)
    (trimmed : device.Trimmed)
    (values : ∀ entry ∈ entries, FitsField 64 entry.2 ∧ trimEnd entry.2 = entry.2) :
    (entries.foldl readEntry device).Fits ∧ (entries.foldl readEntry device).Trimmed := by
  induction entries generalizing device with
  | nil => exact ⟨fits, trimmed⟩
  | cons entry rest ih =>
    obtain ⟨fitsValue, trimmedValue⟩ := values entry (by simp)
    obtain ⟨fitsNext, trimmedNext⟩ := readEntry_kept fits trimmed fitsValue trimmedValue
    exact ih fitsNext trimmedNext fun entry within => values entry (by simp [within])

end Values

section RoundTrip

variable {device : Device}

theorem Device.entries_plain (fits : device.Fits) :
    ∀ entry ∈ device.entries, PlainKey entry.1 ∧ 10 ∉ entry.2 ∧ entry.1.length ≤ 13 ∧
      entry.2.length < 64 := by
  obtain ⟨id, name, host, peerHost, dnsServerIp⟩ := fits
  have ports := fun port : UInt32 => Nat.lt_of_le_of_lt (decimal_length port) (by decide : 10 < 64)
  have digits := fun port : UInt32 => decimal_no_break port.toNat
  have plain : ∀ key ∈ ["id", "name", "host", "peer_host", "dns_server_ip", "video_port",
      "audio_port", "control_port"].map text, PlainKey key ∧ key.length ≤ 13 := by
    intro key within
    have solid : ∀ key ∈ ["id", "name", "host", "peer_host", "dns_server_ip", "video_port",
        "audio_port", "control_port"].map text,
        (key.all fun byte => isSpace byte = false ∧ byte ≠ 61) = true ∧ key.length ≤ 13 ∧
          key.headD 35 ≠ 35 ∧ key.headD 35 ≠ 59 := by
      decide +kernel
    obtain ⟨solid, short, hash, semicolon⟩ := solid key within
    have bytes : ∀ byte ∈ key, isSpace byte = false ∧ byte ≠ 61 := fun byte among =>
      of_decide_eq_true (List.all_eq_true.mp solid byte among)
    cases key with
    | nil => exact absurd rfl hash
    | cons mark rest => exact ⟨⟨⟨mark, rest, rfl, hash, semicolon⟩, bytes⟩, short⟩
  intro entry within
  have keys : entry.1 ∈ ["id", "name", "host", "peer_host", "dns_server_ip", "video_port",
      "audio_port", "control_port"].map text := by
    have := List.mem_map_of_mem (f := Prod.fst) within
    simpa [Device.entries] using this
  refine ⟨(plain _ keys).1, ?_, (plain _ keys).2, ?_⟩
  all_goals
    simp only [Device.entries, List.mem_cons, List.not_mem_nil, or_false] at within
    rcases within with rfl | rfl | rfl | rfl | rfl | rfl | rfl | rfl
  · exact id.2
  · exact name.2
  · exact host.2
  · exact peerHost.2
  · exact dnsServerIp.2
  · exact digits _
  · exact digits _
  · exact digits _
  · exact id.1
  · exact name.1
  · exact host.1
  · exact peerHost.1
  · exact dnsServerIp.1
  · exact ports _
  · exact ports _
  · exact ports _

theorem readDevice_render (fits : device.Fits) (trimmed : device.Trimmed) :
    readDevice device.render = device := by
  have plain := Device.entries_plain fits
  have read : iniEntries 1024 device.render
      = device.entries.map fun entry => (entry.1, trimEnd entry.2) := by
    refine iniEntries_lines (fun entry within => ?_) (fun entry within => ?_)
    · exact ⟨(plain entry within).1, (plain entry within).2.1⟩
    · obtain ⟨-, -, key, value⟩ := plain entry within
      omega
  simp only [Device.Trimmed, Device.texts, List.mem_cons, List.not_mem_nil, or_false,
    forall_eq_or_imp, forall_eq] at trimmed
  obtain ⟨id, name, host, peerHost, dnsServerIp⟩ := trimmed
  rw [readDevice, read]
  simp only [Device.entries, List.map_cons, List.map_nil, List.foldl_cons, List.foldl_nil, id, name,
    host, peerHost, dnsServerIp]
  -- A key is compared with the ones before it, and differs from each.
  have differ : ([text "control_port", text "audio_port", text "video_port", text "dns_server_ip",
      text "peer_host", text "host", text "name", text "id"] : List Text).Nodup := by
    decide +kernel
  simp only [List.nodup_cons, List.mem_cons, List.not_mem_nil, or_false, not_or] at differ
  obtain ⟨control, audio, video, dns, peer, hostKey, nameKey, -⟩ := differ
  obtain ⟨fitsId, fitsName, fitsHost, fitsPeer, fitsDns⟩ := fits
  simp [readEntry, control, audio, video, dns, peer, hostKey, nameKey, copyField_of_fits fitsId,
    copyField_of_fits fitsName, copyField_of_fits fitsHost, copyField_of_fits fitsPeer,
    copyField_of_fits fitsDns, readPort_decimal]

theorem readDevice_take (fits : device.Fits) (n : Nat) :
    (readDevice (device.render.take n)).Fits ∧ (readDevice (device.render.take n)).Trimmed := by
  have plain := Device.entries_plain fits
  refine readEntries_kept (by decide) (by decide) fun read within => ?_
  have short : ∀ entry ∈ device.entries, entry.1.length + entry.2.length + 2 < 1024 := by
    intro entry within
    obtain ⟨-, -, key, value⟩ := plain entry within
    omega
  obtain ⟨entry, among, front, isFront, rfl⟩ := iniEntries_take
    (fun entry within => ⟨(plain entry within).1, (plain entry within).2.1⟩) short n read within
  obtain ⟨-, single, -, short⟩ := plain entry among
  have inside : trimEnd front <+: entry.2 := (trimEnd_isPrefix front).trans isFront
  refine ⟨⟨?_, fun broken => single (inside.subset broken)⟩, trimEnd_trimEnd front⟩
  exact Nat.lt_of_le_of_lt inside.length_le short

end RoundTrip

section Profiles

/-- The device of a file, if it holds one that is loaded. -/
def ProfileFile.device? (file : ProfileFile) : Option Device :=
  let device := readDevice file.content
  if validId device.id ∧ device.host ≠ [] then some device else none

/-- The file that is written for a device. -/
def Device.file (device : Device) : ProfileFile :=
  ⟨profileName device.id, device.render⟩

theorem Device.file_device? {device : Device} (valid : validId device.id = true)
    (reachable : device.host ≠ []) (fits : device.Fits) (trimmed : device.Trimmed) :
    device.file.device? = some device := by
  simp only [ProfileFile.device?, Device.file, readDevice_render fits trimmed]
  rw [if_pos ⟨valid, reachable⟩]

theorem ProfileFile.device?_valid {file : ProfileFile} {device : Device}
    (holds : file.device? = some device) : validId device.id = true ∧ device.host ≠ [] := by
  simp only [ProfileFile.device?] at holds
  split_ifs at holds with valid
  rw [← Option.some.inj holds]
  exact valid

theorem profileName_injective {first second : Text}
    (same : profileName first = profileName second) :
    first = second := by
  simpa [profileName] using same

theorem isProfileName_profileName (id : Text) : isProfileName (profileName id) = true := by
  have length : (text "device-").length = 7 := by decide +kernel
  have front : (profileName id).take 7 = text "device-" := by
    rw [profileName, List.append_assoc, ← length, List.take_left]
  have behind : text ".ini" <:+: profileName id := ⟨text "device-" ++ id, [], by simp [profileName]⟩
  simp [isProfileName, front, behind]

end Profiles

end C64Stream
