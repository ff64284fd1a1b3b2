import C64Stream.Automation.Songlengths

/-! The names of keys in a keymap: how they are brought into one form and looked up. -/

namespace C64Stream.Keymap

section Letters

/-- Whether two texts are the same but for the case of their letters. -/
def stringIeq (lhs rhs : Text) : Bool :=
  lhs.map toLower == rhs.map toLower

/-- Whether a text starts with another one, but for the case of their letters. -/
def stringStartsWithI (value start : Text) : Bool :=
  (start.map toLower).isPrefixOf (value.map toLower)

/-- A letter. -/
def isAlpha (byte : UInt8) : Bool :=
  (65 ≤ byte && byte ≤ 90) || (97 ≤ byte && byte ≤ 122)

/-- Append a text, as far as the buffer of 64 bytes has room for it. -/
def strncat (normalized added : Text) : Text :=
  normalized ++ added.take (63 - normalized.length)

end Letters

section Bases

/-- The name of a function key: the letter and a number from 1 to 24. -/
def normalizeFunctionKey (token : Text) : Option Text :=
  match token with
  | mark :: digit :: rest =>
    if toLower mark = 102 ∧ isDigit digit then
      let value := leadingNumber 0 (digit :: rest)
      if value < 1 ∨ 24 < value then none else some (text "F" ++ decimal value)
    else none
  | _ => none

/-- The words for keys, in the order in which they are tried, with the names of the keys. -/
def knownTokens : List (Text × Text) :=
  [(text "space", text "Space"), (text "enter", text "Enter"), (text "return", text "Enter"),
    (text "backspace", text "Backspace"), (text "delete", text "Delete"),
    (text "insert", text "Insert"), (text "home", text "Home"), (text "end", text "End"),
    (text "pageup", text "PageUp"), (text "page_up", text "PageUp"), (text "prior", text "PageUp"),
    (text "pagedown", text "PageDown"), (text "page_down", text "PageDown"),
    (text "next", text "PageDown"), (text "capslock", text "CapsLock"),
    (text "caps_lock", text "CapsLock"), (text "escape", text "Escape"),
    (text "esc", text "Escape"), (text "tab", text "Tab"), (text "pause", text "Pause"),
    (text "arrowup", text "ArrowUp"), (text "up", text "ArrowUp"),
    (text "arrowdown", text "ArrowDown"), (text "down", text "ArrowDown"),
    (text "arrowleft", text "ArrowLeft"), (text "left", text "ArrowLeft"),
    (text "arrowright", text "ArrowRight"), (text "right", text "ArrowRight"),
    (text "minus", text "Minus"), (text "equal", text "Equal"),
    (text "backquote", text "Backquote"), (text "bracketleft", text "BracketLeft"),
    (text "bracketright", text "BracketRight"), (text "backslash", text "Backslash"),
    (text "intlbackslash", text "IntlBackslash"), (text "semicolon", text "Semicolon"),
    (text "quote", text "Quote"), (text "comma", text "Comma"), (text "period", text "Period"),
    (text "slash", text "Slash"), (text "meta", text "Meta")]

/-- The name of the key that a base stands for, if it is one of the known ones. -/
def normalizeKnownBaseToken (token : Text) : Option Text :=
  match normalizeFunctionKey token with
  | some name => some name
  | none =>
    match knownTokens.find? (stringIeq token ·.1) with
    | some entry => some entry.2
    | none =>
      if token.length = 4 ∧ stringStartsWithI token (text "Key") ∧ isAlpha (token.getD 3 0) then
        some (text "Key" ++ [toUpper (token.getD 3 0)])
      else if token.length = 6 ∧ stringStartsWithI token (text "Digit") ∧
          isDigit (token.getD 5 0) then
        some (text "Digit" ++ [token.getD 5 0])
      else none

/-- The characters that are typed with a modifier, with the names of their keys. -/
def characterKeys : List (UInt8 × Text) :=
  [(45, text "Minus"), (61, text "Equal"), (43, text "Equal"), (96, text "Backquote"),
    (91, text "BracketLeft"), (93, text "BracketRight"), (92, text "Backslash"),
    (59, text "Semicolon"), (39, text "Quote"), (44, text "Comma"), (46, text "Period"),
    (47, text "Slash"), (64, text "Digit2"), (42, text "Digit8")]

/-- The name of a key that is given by one character. -/
def normalizeSingleCharToken (token : UInt8) (hasModifiers : Bool) : Text :=
  if hasModifiers then
    if isAlpha token then text "Key" ++ [toUpper token]
    else if isDigit token then text "Digit" ++ [token]
    else (characterKeys.lookup token).getD [token]
  else [token]

end Bases

section Identifiers

/-- What can stand in front of a base, with the bit of the modifier. -/
structure ModifierPrefix where
  written : Text
  bit : Nat
  proper : written ≠ []

/-- The modifiers that an identifier can start with. -/
def modifierPrefixes : List ModifierPrefix :=
  [⟨text "Shift+", 0x01, by decide⟩, ⟨text "Ctrl+", 0x02, by decide⟩,
    ⟨text "Control+", 0x02, by decide⟩, ⟨text "Alt+", 0x04, by decide⟩,
    ⟨text "Meta+", 0x08, by decide⟩, ⟨text "Cmd+", 0x08, by decide⟩,
    ⟨text "Command+", 0x08, by decide⟩]

/-- The modifiers that an identifier in its form can start with. -/
def normalizedPrefixes : List ModifierPrefix :=
  [⟨text "Shift+", 0x01, by decide⟩, ⟨text "Ctrl+", 0x02, by decide⟩,
    ⟨text "Alt+", 0x04, by decide⟩, ⟨text "Meta+", 0x08, by decide⟩]

variable (prefixes : List ModifierPrefix)

/-- Which of them a base starts with. -/
def findModifier (base : Text) : Option ModifierPrefix :=
  prefixes.find? fun entry => stringStartsWithI base entry.written

theorem findModifier_shorter {base : Text} {entry : ModifierPrefix}
    (found : findModifier prefixes base = some entry) :
    (base.drop entry.written.length).length < base.length := by
  have starts := List.find?_some found
  rw [stringStartsWithI, List.isPrefixOf_iff_prefix] at starts
  have fits := starts.length_le
  have := List.length_pos_iff.mpr entry.proper
  rw [List.length_map, List.length_map] at fits
  rw [List.length_drop]
  omega

/-- Take the modifiers off the front of a base. -/
def stripModifiers (modifiers : Nat) (base : Text) : Nat × Text :=
  match _ : findModifier prefixes base with
  | none => (modifiers, base)
  | some entry => stripModifiers (modifiers ||| entry.bit) (base.drop entry.written.length)
termination_by base.length
decreasing_by exact findModifier_shorter prefixes ‹_›

/-- The modifiers in their order and spelling. -/
def appendModifierPrefixes (modifiers : Nat) : Text :=
  let normalized := if modifiers &&& 0x01 ≠ 0 then strncat [] (text "Shift+") else []
  let normalized := if modifiers &&& 0x02 ≠ 0 then strncat normalized (text "Ctrl+") else normalized
  let normalized := if modifiers &&& 0x04 ≠ 0 then strncat normalized (text "Alt+") else normalized
  if modifiers &&& 0x08 ≠ 0 then strncat normalized (text "Meta+") else normalized

/-- The name of a base. -/
def normalizeBase (hasModifiers : Bool) (base : Text) : Text :=
  match normalizeKnownBaseToken base with
  | some name => name
  | none =>
    match base with
    | [token] => normalizeSingleCharToken token hasModifiers
    | _ => base.take 63

/-- Bring an identifier into its form: the modifiers, and the name of the base. -/
def c64KeymapNormalizeIdentifier (input : Text) : Option Text :=
  let (modifiers, base) := stripModifiers modifierPrefixes 0 input
  if base = [] then none
  else some (strncat (appendModifierPrefixes modifiers) (normalizeBase (modifiers ≠ 0) base))

end Identifiers

section Keymaps

/-- Whether a base can be met while keys are read. -/
def isSupportedBaseIdentifier (identifier : Text) : Bool :=
  match identifier with
  | [] => false
  | [byte] => 0x20 < byte && byte ≠ 0x7F
  | byte :: _ =>
    0xC0 ≤ byte || (normalizeKnownBaseToken identifier).isSome ||
      (identifier.length = 4 && (text "Key").isPrefixOf identifier &&
        isAlpha (identifier.getD 3 0)) ||
      (identifier.length = 6 && (text "Digit").isPrefixOf identifier &&
        isDigit (identifier.getD 5 0))

/-- Whether an identifier can be met while keys are read. -/
def c64KeymapIdentifierIsRuntimeSupported (identifier : Text) : Bool :=
  match c64KeymapNormalizeIdentifier identifier with
  | none => false
  | some normalized =>
    let (modifiers, base) := stripModifiers normalizedPrefixes 0 normalized
    (modifiers = 0x02 && base = text "Meta") || isSupportedBaseIdentifier base

/-- The first entry of a keymap, given by the keys of its entries, that an identifier names. -/
def keymapLookupIdentifier (keys : List Text) (candidate : Text) : Option Nat :=
  match c64KeymapNormalizeIdentifier candidate with
  | none => none
  | some normalized => keys.findIdx? (· = normalized)

end Keymaps

end C64Stream.Keymap
