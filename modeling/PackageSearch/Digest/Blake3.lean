/-!
The BLAKE3 hash of a sequence of bytes.

The input is cut into chunks of 1024 bytes, each chunk into blocks of 64 bytes, and the chunks are
the leaves of a binary tree whose left part is always a full tree with the largest power of two of
chunks that leaves something for the right part. Every node is one last compression that is either
chained into its parent or, at the root, read as the digest.
-/

namespace PackageSearch.Digest.Blake3

abbrev Chaining := Vector UInt32 8

abbrev Block := Vector UInt32 16

def initial : Chaining :=
  #v[0x6A09E667, 0xBB67AE85, 0x3C6EF372, 0xA54FF53A, 0x510E527F, 0x9B05688C, 0x1F83D9AB, 0x5BE0CD19]

def chunkBytes : Nat := 1024

def blockBytes : Nat := 64

def chunkStart : UInt32 := 1

def chunkEnd : UInt32 := 2

def parent : UInt32 := 4

def root : UInt32 := 8

def rotateRight (word count : UInt32) : UInt32 :=
  (word >>> count) ||| (word <<< (32 - count))

def quarter (a b c d : Fin 16) (state : Block) (first second : UInt32) : Block :=
  let state := state.set a (state[a] + state[b] + first)
  let state := state.set d (rotateRight (state[d] ^^^ state[a]) 16)
  let state := state.set c (state[c] + state[d])
  let state := state.set b (rotateRight (state[b] ^^^ state[c]) 12)
  let state := state.set a (state[a] + state[b] + second)
  let state := state.set d (rotateRight (state[d] ^^^ state[a]) 8)
  let state := state.set c (state[c] + state[d])
  state.set b (rotateRight (state[b] ^^^ state[c]) 7)

def round (state block : Block) : Block :=
  let state := quarter 0 4 8 12 state block[0] block[1]
  let state := quarter 1 5 9 13 state block[2] block[3]
  let state := quarter 2 6 10 14 state block[4] block[5]
  let state := quarter 3 7 11 15 state block[6] block[7]
  let state := quarter 0 5 10 15 state block[8] block[9]
  let state := quarter 1 6 11 12 state block[10] block[11]
  let state := quarter 2 7 8 13 state block[12] block[13]
  quarter 3 4 9 14 state block[14] block[15]

def permute (block : Block) : Block :=
  #v[block[2], block[6], block[3], block[10], block[7], block[0], block[4], block[13],
    block[1], block[11], block[12], block[5], block[9], block[14], block[15], block[8]]

def rounds : Nat → Block → Block → Block
  | 0, state, _ => state
  | remaining + 1, state, block => rounds remaining (round state block) (permute block)

/-- A compression that is still to be made, so that the root can be told from the other nodes. -/
structure Node where
  chaining : Chaining
  block : Block
  counter : UInt64
  /-- The number of input bytes in the block. -/
  length : UInt32
  flags : UInt32

namespace Node

/-- The eight words that a compression yields. -/
def compress (node : Node) (extraFlags : UInt32) : Chaining :=
  let start : Block :=
    #v[node.chaining[0], node.chaining[1], node.chaining[2], node.chaining[3],
      node.chaining[4], node.chaining[5], node.chaining[6], node.chaining[7],
      initial[0], initial[1], initial[2], initial[3],
      node.counter.toUInt32, (node.counter >>> 32).toUInt32, node.length,
      node.flags ||| extraFlags]
  let final := rounds 7 start node.block
  Vector.ofFn fun position : Fin 8 => final[position.val] ^^^ final[position.val + 8]

def chain (node : Node) : Chaining :=
  node.compress 0

end Node

/-- Four bytes as one word, the lowest first; bytes past the end count as zero. -/
def word (bytes : List UInt8) (position : Nat) : UInt32 :=
  let byte (offset : Nat) : UInt32 := (bytes.getD (4 * position + offset) 0).toUInt32
  byte 0 ||| (byte 1 <<< 8) ||| (byte 2 <<< 16) ||| (byte 3 <<< 24)

def blockOf (bytes : List UInt8) : Block :=
  Vector.ofFn fun position : Fin 16 => word bytes position

/-- The last compression of a chunk, its earlier blocks being compressed on the way. -/
def chunkNode (counter : UInt64) (chaining : Chaining) (flags : UInt32) (bytes : List UInt8) :
    Node :=
  if bytes.length ≤ blockBytes then
    { chaining, block := blockOf bytes, counter, length := bytes.length.toUInt32,
      flags := flags ||| chunkEnd }
  else
    let node : Node :=
      { chaining, block := blockOf (bytes.take blockBytes), counter,
        length := blockBytes.toUInt32, flags }
    chunkNode counter node.chain 0 (bytes.drop blockBytes)
termination_by bytes.length
decreasing_by simp only [blockBytes, List.length_drop] at *; omega

/-- The bytes in the left part of a tree over more than one chunk. -/
def leftBytes (length : Nat) : Nat :=
  chunkBytes * Nat.pow 2 ((length - 1) / chunkBytes).log2

theorem leftBytes_pos (length : Nat) : 0 < leftBytes length :=
  Nat.mul_pos (by decide) (Nat.two_pow_pos _)

theorem leftBytes_lt {length : Nat} (large : chunkBytes < length) : leftBytes length < length := by
  unfold leftBytes
  have several : (length - 1) / chunkBytes ≠ 0 := by
    simp only [chunkBytes] at *
    omega
  have power : Nat.pow 2 ((length - 1) / chunkBytes).log2 ≤ (length - 1) / chunkBytes :=
    Nat.log2_self_le several
  have whole := Nat.mul_div_le (length - 1) chunkBytes
  have scaled := Nat.mul_le_mul_left chunkBytes power
  omega

/-- The last compression of the tree over the given bytes, whose first chunk has the given number. -/
def treeNode (counter : UInt64) (bytes : List UInt8) : Node :=
  if _large : chunkBytes < bytes.length then
    let left := treeNode counter (bytes.take (leftBytes bytes.length))
    let passed := (leftBytes bytes.length / chunkBytes).toUInt64
    let right := treeNode (counter + passed) (bytes.drop (leftBytes bytes.length))
    { chaining := initial, block := left.chain ++ right.chain, counter := 0,
      length := blockBytes.toUInt32, flags := parent }
  else
    chunkNode counter initial chunkStart bytes
termination_by bytes.length
decreasing_by
  · have shorter := leftBytes_lt ‹_›
    simp only [List.length_take]
    omega
  · have shorter := leftBytes_lt ‹_›
    have positive := leftBytes_pos bytes.length
    simp only [List.length_drop]
    omega

def bytesOf (value : UInt32) : List UInt8 :=
  [value.toUInt8, (value >>> 8).toUInt8, (value >>> 16).toUInt8, (value >>> 24).toUInt8]

def hash (bytes : List UInt8) : List UInt8 :=
  ((treeNode 0 bytes).compress root).toList.flatMap bytesOf

theorem length_flatMap_bytesOf (values : List UInt32) :
    (values.flatMap bytesOf).length = 4 * values.length := by
  induction values with
  | nil => rfl
  | cons value values inductionHypothesis =>
      simp only [List.flatMap_cons, List.length_append, List.length_cons, inductionHypothesis]
      simp only [bytesOf, List.length_cons, List.length_nil]
      omega

theorem length_hash (bytes : List UInt8) : (hash bytes).length = 32 := by
  rw [hash, length_flatMap_bytesOf, Vector.length_toList]

end PackageSearch.Digest.Blake3
