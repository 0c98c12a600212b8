import GrammarBrew.Text.Utf8

/-!
Runs of characters as sequences of byte ranges. A sequence stands for the characters whose bytes lie
in its ranges one after the other; a run falls into as few sequences as whole blocks of 64, 4096 and
262144 code points allow.
-/

set_option autoImplicit false
set_option relaxedAutoImplicit false

namespace GrammarBrew.Text

/-- The ranges that the bytes of some characters lie in, one after the other. -/
abbrev ByteRanges := List (UInt8 × UInt8)

/-- Split a run at the blocks of some size that it does not fill, and what it fills at larger
blocks; so many sizes are tried, each 64 times the one before. -/
def splitRun : Nat → Nat → Nat × Nat → List (Nat × Nat)
  | 0, _, run => [run]
  | sizes + 1, size, (first, last) =>
    if first / size = last / size then [(first, last)]
    else
      let start := if first % size = 0 then first else (first / size + 1) * size
      let stop := if last % size = size - 1 then last + 1 else last / size * size
      (if first < start then [(first, start - 1)] else []) ++
        (if start < stop then splitRun sizes (64 * size) (start, stop - 1) else []) ++
        if stop ≤ last then [(stop, last)] else []

/-- The bytes of the first and of the last character of a run, pair by pair. -/
def byteRanges (run : Nat × Nat) : ByteRanges :=
  (String.utf8EncodeChar (Char.ofNat run.1)).zip (String.utf8EncodeChar (Char.ofNat run.2))

def clip (low high : Nat) (run : Nat × Nat) : List (Nat × Nat) :=
  if max low run.1 ≤ min high run.2 then [(max low run.1, min high run.2)] else []

/-- The sequences that a run of characters falls into, the least first. -/
def sequencesOfRun (run : Nat × Nat) : List ByteRanges :=
  let longer := clip 0x80 0x7ff run ++ clip 0x800 0xffff run ++ clip 0x10000 0x10ffff run
  (clip 0 0x7f run ++ longer.flatMap (splitRun 3 64)).map byteRanges

example : sequencesOfRun (0x61, 0x7ff) = [[(0x61, 0x7f)], [(0xc2, 0xdf), (0x80, 0xbf)]] := by
  decide +kernel
example : sequencesOfRun (0x10000, 0x10ffff)
    = [[(0xf0, 0xf0), (0x90, 0xbf), (0x80, 0xbf), (0x80, 0xbf)],
      [(0xf1, 0xf3), (0x80, 0xbf), (0x80, 0xbf), (0x80, 0xbf)],
      [(0xf4, 0xf4), (0x80, 0x8f), (0x80, 0xbf), (0x80, 0xbf)]] := by decide +kernel

end GrammarBrew.Text
