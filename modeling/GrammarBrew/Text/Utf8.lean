import GrammarBrew.Text.Basic

/-!
UTF-8: text as bytes and back. A sequence of bytes that is no character is taken as far as it could
have begun one, so that reading goes on right after it.
-/

set_option autoImplicit false
set_option relaxedAutoImplicit false

namespace GrammarBrew

abbrev Bytes := List UInt8

namespace Text

def encode (text : Text) : Bytes := text.flatMap String.utf8EncodeChar

/-- What a first byte says: its share of the code point, and the bounds of each byte that must
follow. -/
def leadByte (b : Nat) : Option (Nat × List (Nat × Nat)) :=
  let any := (0x80, 0xbf)
  if b < 0x80 then some (b, [])
  else if b < 0xc2 then none
  else if b < 0xe0 then some (b - 0xc0, [any])
  else if b = 0xe0 then some (0, [(0xa0, 0xbf), any])
  else if b = 0xed then some (0xd, [(0x80, 0x9f), any])
  else if b < 0xf0 then some (b - 0xe0, [any, any])
  else if b = 0xf0 then some (0, [(0x90, 0xbf), any, any])
  else if b < 0xf4 then some (b - 0xf0, [any, any, any])
  else if b = 0xf4 then some (4, [(0x80, 0x8f), any, any])
  else none

/-- Read the following bytes of a sequence within their bounds, up to the first that is out of them:
the code point, if all are there, and the bytes that are left. -/
def takeFollowing (value : Nat) : List (Nat × Nat) → Bytes → Option Nat × Bytes
  | [], bytes => (some value, bytes)
  | _ :: _, [] => (none, [])
  | (low, high) :: bounds, b :: bytes =>
    if low ≤ b.toNat ∧ b.toNat ≤ high then
      takeFollowing (value * 64 + (b.toNat - 0x80)) bounds bytes
    else (none, b :: bytes)

private theorem length_takeFollowing (value : Nat) (bounds : List (Nat × Nat)) (bytes : Bytes) :
    (takeFollowing value bounds bytes).2.length ≤ bytes.length := by
  induction bounds generalizing value bytes with
  | nil => exact Nat.le_refl _
  | cons bound bounds ih =>
    cases bytes with
    | nil => exact Nat.le_refl _
    | cons b bytes =>
      simp only [takeFollowing]
      split
      · exact Nat.le_succ_of_le (ih _ _)
      · exact Nat.le_refl _

/-- Read a sequence that begins with a byte: the character, or nothing where there is none, and the
bytes that are left. -/
def takeChar (first : UInt8) (bytes : Bytes) : Option Char × Bytes :=
  match leadByte first.toNat with
  | none => (none, bytes)
  | some (value, bounds) =>
    let following := takeFollowing value bounds bytes
    (following.1.map Char.ofNat, following.2)

private theorem length_takeChar (first : UInt8) (bytes : Bytes) :
    (takeChar first bytes).2.length ≤ bytes.length := by
  unfold takeChar
  split
  · exact Nat.le_refl _
  · exact length_takeFollowing _ _ _

/-- Continue `readChars` after what has been read, latest first. -/
def readCharsFrom (seen : List (Option Char)) : Bytes → List (Option Char)
  | [] => seen.reverse
  | first :: bytes =>
    readCharsFrom ((takeChar first bytes).1 :: seen) (takeChar first bytes).2
  termination_by bytes => bytes.length
  decreasing_by exact Nat.lt_succ_of_le (length_takeChar first bytes)

/-- The characters of some bytes, with nothing for each sequence that is none. -/
def readChars (bytes : Bytes) : List (Option Char) := readCharsFrom [] bytes

def decode? (bytes : Bytes) : Option Text := (readChars bytes).mapM id

/-- The text of some bytes, with the replacement character for each sequence that is no
character. -/
def decodeLossy (bytes : Bytes) : Text := (readChars bytes).map fun c? => c?.getD '\ufffd'

example : decode? [0xc3, 0xa9] = some ['é'] := by decide +kernel
example : decode? [0xed, 0xa0, 0x80] = none := by decide +kernel
example : decodeLossy [0x61, 0xf0, 0x90, 0x62] = ['a', '\ufffd', 'b'] := by decide +kernel

end Text

end GrammarBrew
