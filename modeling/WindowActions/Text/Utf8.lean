import WindowActions.Text.CharSet

/-!
# Byte sequences of characters

UTF-8 writes the code point of a character as a lead byte and up to three continuation bytes. The
bytes are the digits of the code point to the base 64, each counted from a byte that tells its
role. So the code points of a range are written by a few sequences of byte ranges: in all but the
last byte that is not free, a sequence has one byte only, and behind it all bytes are free.
-/

namespace WindowActions

abbrev ByteRange := Nat × Nat

/-- Byte ranges of which one byte each, one behind the other, write a character. -/
abbrev ByteSequence := List ByteRange

/-- Code points that are written alike. -/
structure Utf8Block where
  first : Nat
  last : Nat
  /-- The byte from which the lead byte counts. -/
  lead : Nat
  continuations : Nat

/-- The byte from which continuation bytes count. -/
def continuationLead : Nat := 0x80

def continuationLast : Nat := 0xBF

/-- The four lengths of encodings, in ascending order. -/
def utf8Blocks : List Utf8Block := [
  ⟨0x00, 0x7F, 0x00, 0⟩, ⟨0x80, 0x7FF, 0xC0, 1⟩, ⟨0x800, 0xFFFF, 0xE0, 2⟩,
  ⟨0x10000, 0x10FFFF, 0xF0, 3⟩]

/-- The sequences that write the numbers from `first` to `last`, in ascending order. The byte in
front counts from `lead`, and a given number of continuation bytes follows. -/
def byteSequences (lead : Nat) : (continuations : Nat) → (first last : Nat) → List ByteSequence
  | 0, first, last => [[(lead + first, lead + last)]]
  | behind + 1, first, last =>
    let span := 64 ^ (behind + 1)
    let under (digit first last : Nat) : List ByteSequence :=
      (byteSequences continuationLead behind first last).map
        ((lead + digit, lead + digit) :: ·)
    let low := first / span
    let high := last / span
    if low = high then under low (first % span) (last % span)
    else
      let lowFull := first % span = 0
      let highFull := last % span = span - 1
      let fullFirst := if lowFull then low else low + 1
      let fullEnd := if highFull then high + 1 else high
      let free := List.replicate (behind + 1) (continuationLead, continuationLast)
      (if lowFull then [] else under low (first % span) (span - 1)) ++
        (if fullFirst < fullEnd then [(lead + fullFirst, lead + fullEnd - 1) :: free] else []) ++
        (if highFull then [] else under high 0 (last % span))

/-- The sequences that write the characters of a range, in ascending order. -/
def utf8Sequences (range : Nat × Nat) : List ByteSequence :=
  utf8Blocks.flatMap fun block =>
    let first := max range.1 block.first
    let last := min range.2 block.last
    if first ≤ last then byteSequences block.lead block.continuations first last else []

/-- The sequences that write the characters of a set, in ascending order. -/
def CharSet.byteSequences (s : CharSet) : List ByteSequence := s.ranges.flatMap utf8Sequences

end WindowActions
