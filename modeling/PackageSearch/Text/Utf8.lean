/-!
UTF-8: the bytes of a text, and reading bytes as text where each maximal part that is not UTF-8
becomes one replacement character.

The reader looks at one byte at a time. Between two bytes it is either at the start of a character
or inside one, where it knows how many bytes the character still needs and which values the next
of them may take.
-/

namespace PackageSearch.Text

def encode (text : List Char) : List UInt8 :=
  text.flatMap String.utf8EncodeChar

def byteCount (text : List Char) : Nat :=
  text.foldl (fun count character => count + character.utf8Size) 0

def replacement : Char := '\ufffd'

/-- Where a reader of UTF-8 stands between two bytes. -/
inductive ReadingState where
  | start
  /-- `missing + 1` bytes are still to come, the next of them from `low` to `high`; `value` holds
  the bits read so far. -/
  | inside (missing low high value : Nat)
  deriving DecidableEq, Repr

namespace ReadingState

/-- What the first byte of a character leads to: the new state and the characters it completes. -/
def ofFirst (byte : Nat) : ReadingState × List Char :=
  if byte < 0x80 then (.start, [Char.ofNat byte])
  else if 0xC2 ≤ byte && byte ≤ 0xDF then (.inside 0 0x80 0xBF (byte % 32), [])
  else if byte == 0xE0 then (.inside 1 0xA0 0xBF 0, [])
  else if byte == 0xED then (.inside 1 0x80 0x9F 13, [])
  else if 0xE1 ≤ byte && byte ≤ 0xEF then (.inside 1 0x80 0xBF (byte % 16), [])
  else if byte == 0xF0 then (.inside 2 0x90 0xBF 0, [])
  else if byte == 0xF4 then (.inside 2 0x80 0x8F 4, [])
  else if 0xF1 ≤ byte && byte ≤ 0xF3 then (.inside 2 0x80 0xBF (byte % 8), [])
  else (.start, [replacement])

/-- The state after one more byte, with the characters that this byte completes. A byte that does
not fit ends the character before it as one replacement and is read as a first byte itself. -/
def next : ReadingState → Nat → ReadingState × List Char
  | .start, byte => ofFirst byte
  | .inside missing low high value, byte =>
      if low ≤ byte && byte ≤ high then
        match missing with
        | 0 => (.start, [Char.ofNat (value * 64 + byte % 64)])
        | missing + 1 => (.inside missing 0x80 0xBF (value * 64 + byte % 64), [])
      else
        ((ofFirst byte).1, replacement :: (ofFirst byte).2)

/-- What the end of the bytes adds: a character left open is one replacement. -/
def atEnd : ReadingState → List Char
  | .start => []
  | .inside .. => [replacement]

end ReadingState

/-- One step of reading: the state, and the characters so far with the latest first. -/
def readByte (progress : ReadingState × List Char) (byte : UInt8) : ReadingState × List Char :=
  let (state, completed) := progress.1.next byte.toNat
  (state, completed.reverseAux progress.2)

/-- Reads bytes as UTF-8, each maximal invalid part as one replacement character. -/
def decodeLossy (bytes : List UInt8) : List Char :=
  let (state, completed) := bytes.foldl readByte (.start, [])
  (state.atEnd.reverseAux completed).reverse

/-- The text that bytes stand for when all of them are UTF-8. -/
def decode? (bytes : List UInt8) : Option (List Char) :=
  let text := decodeLossy bytes
  if encode text = bytes then some text else none

end PackageSearch.Text
