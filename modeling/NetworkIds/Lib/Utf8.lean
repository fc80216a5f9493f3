import NetworkIds.Lib.Checked

set_option autoImplicit false

-- Lossy UTF-8 decoding: every maximal prefix of an ill-formed sequence becomes
-- one U+FFFD.
namespace Utf8

def replacement : Char := Char.ofNat 0xFFFD

def inRange (lower upper : Nat) (byte : Option UInt8) : Bool :=
  match byte with
  | none => false
  | some value => decide (lower ≤ value.toNat ∧ value.toNat ≤ upper)

def isContinuation (byte : Option UInt8) : Bool := inRange 0x80 0xBF byte

def low6 (byte : Option UInt8) : Nat := (byte.getD 0).toNat % 64

-- The bounds of the second byte exclude overlong forms and surrogates.
def secondRange (first : Nat) : Nat × Nat :=
  if first = 0xE0 then (0xA0, 0xBF)
  else if first = 0xED then (0x80, 0x9F)
  else if first = 0xF0 then (0x90, 0xBF)
  else if first = 0xF4 then (0x80, 0x8F)
  else (0x80, 0xBF)

def decodeChar (byte : UInt8) (rest : Bytes) : Char × Nat :=
  let first := byte.toNat
  let range := secondRange first
  if first < 0x80 then (Char.ofNat first, 1)
  else if first < 0xC2 then (replacement, 1)
  else if first < 0xE0 then
    if isContinuation rest[0]? then (Char.ofNat (first % 32 * 64 + low6 rest[0]?), 2)
    else (replacement, 1)
  else if first < 0xF0 then
    if inRange range.1 range.2 rest[0]? then
      if isContinuation rest[1]? then
        (Char.ofNat ((first % 16 * 64 + low6 rest[0]?) * 64 + low6 rest[1]?), 3)
      else (replacement, 2)
    else (replacement, 1)
  else if first < 0xF5 then
    if inRange range.1 range.2 rest[0]? then
      if isContinuation rest[1]? then
        if isContinuation rest[2]? then
          (Char.ofNat (((first % 8 * 64 + low6 rest[0]?) * 64 + low6 rest[1]?) * 64 + low6 rest[2]?), 4)
        else (replacement, 3)
      else (replacement, 2)
    else (replacement, 1)
  else (replacement, 1)

def decodeChars : Nat → Bytes → List Char
  | 0, _ => []
  | _, [] => []
  | fuel + 1, byte :: rest =>
      let result := decodeChar byte rest
      result.1 :: decodeChars fuel (rest.drop (result.2 - 1))

-- String::from_utf8_lossy. One byte at least goes with each character, so the
-- length of the text is enough fuel.
def fromUtf8Lossy (bytes : Bytes) : String := String.ofList (decodeChars bytes.length bytes)

example : fromUtf8Lossy [0x68, 0xE2, 0x82, 0xAC, 0xE2, 0x82, 0x69, 0xFF] =
    String.ofList ['h', Char.ofNat 0x20AC, Char.ofNat 0xFFFD, 'i', Char.ofNat 0xFFFD] := by decide +kernel

theorem ascii_chars (bytes : Bytes) (ascii : ∀ byte ∈ bytes, byte.toNat < 128) :
    decodeChars bytes.length bytes = bytes.map fun byte => Char.ofNat byte.toNat := by
  induction bytes with
  | nil => rfl
  | cons byte rest ih =>
      have first : decodeChar byte rest = (Char.ofNat byte.toNat, 1) := if_pos (ascii byte List.mem_cons_self)
      rw [List.length_cons, decodeChars, first, List.map_cons]
      exact congrArg _ (ih fun other member => ascii other (List.mem_cons_of_mem _ member))

theorem ascii_text (bytes : Bytes) (ascii : ∀ byte ∈ bytes, byte.toNat < 128) :
    fromUtf8Lossy bytes = String.ofList (bytes.map fun byte => Char.ofNat byte.toNat) := by
  rw [fromUtf8Lossy, ascii_chars bytes ascii]

end Utf8
