/-!
The BLAKE3 hash function with a 32-byte output. The input is cut into chunks of 1024 bytes, a
chunk is compressed block by block, and the chunks are the leaves of a binary tree whose left
subtree always holds a power of two chunks.
-/

namespace CodeAudit
namespace Blake3

def initialChain : Array UInt32 :=
  #[0x6A09E667, 0xBB67AE85, 0x3C6EF372, 0xA54FF53A, 0x510E527F, 0x9B05688C, 0x1F83D9AB, 0x5BE0CD19]

def chunkStart : UInt32 := 1
def chunkEnd : UInt32 := 2
def parentNode : UInt32 := 4
def rootNode : UInt32 := 8

def blockLength : Nat := 64
def chunkLength : Nat := 1024

def rotateRight (word count : UInt32) : UInt32 :=
  (word >>> count) ||| (word <<< (32 - count))

def wordsOf : List UInt8 → List UInt32
  | [] => []
  | a :: b :: c :: d :: rest =>
      (a.toUInt32 ||| (b.toUInt32 <<< 8) ||| (c.toUInt32 <<< 16) ||| (d.toUInt32 <<< 24)) ::
        wordsOf rest
  | [a, b, c] => [a.toUInt32 ||| (b.toUInt32 <<< 8) ||| (c.toUInt32 <<< 16)]
  | [a, b] => [a.toUInt32 ||| (b.toUInt32 <<< 8)]
  | [a] => [a.toUInt32]

def bytesOf (word : UInt32) : List UInt8 :=
  [word.toUInt8, (word >>> 8).toUInt8, (word >>> 16).toUInt8, (word >>> 24).toUInt8]

def blockWords (block : List UInt8) : Array UInt32 :=
  let given := wordsOf block
  (given ++ List.replicate (16 - given.length) 0).toArray

def mix (state : Array UInt32) (a b c d : Nat) (x y : UInt32) : Array UInt32 :=
  let va := state.getD a 0 + state.getD b 0 + x
  let vd := rotateRight (state.getD d 0 ^^^ va) 16
  let vc := state.getD c 0 + vd
  let vb := rotateRight (state.getD b 0 ^^^ vc) 12
  let va := va + vb + y
  let vd := rotateRight (vd ^^^ va) 8
  let vc := vc + vd
  let vb := rotateRight (vb ^^^ vc) 7
  (((state.setIfInBounds a va).setIfInBounds b vb).setIfInBounds c vc).setIfInBounds d vd

/-- One round: the four columns of the state, then its four diagonals. -/
def round (state message : Array UInt32) : Array UInt32 :=
  let word := fun index => message.getD index 0
  let state := mix state 0 4 8 12 (word 0) (word 1)
  let state := mix state 1 5 9 13 (word 2) (word 3)
  let state := mix state 2 6 10 14 (word 4) (word 5)
  let state := mix state 3 7 11 15 (word 6) (word 7)
  let state := mix state 0 5 10 15 (word 8) (word 9)
  let state := mix state 1 6 11 12 (word 10) (word 11)
  let state := mix state 2 7 8 13 (word 12) (word 13)
  mix state 3 4 9 14 (word 14) (word 15)

def permutation : List Nat :=
  [2, 6, 3, 10, 7, 0, 4, 13, 1, 11, 12, 5, 9, 14, 15, 8]

def permute (message : Array UInt32) : Array UInt32 :=
  (permutation.map fun index => message.getD index 0).toArray

def rounds : Nat → Array UInt32 → Array UInt32 → Array UInt32
  | 0, state, _ => state
  | count + 1, state, message => rounds count (round state message) (permute message)

/-- What is left to compress at a node of the tree. -/
structure Node where
  chain : Array UInt32
  block : List UInt8
  counter : Nat
  flags : UInt32

def Node.compress (node : Node) (extraFlags : UInt32) : Array UInt32 :=
  let start := node.chain ++ initialChain.take 4 ++
    #[node.counter.toUInt32, (node.counter / 0x100000000).toUInt32, node.block.length.toUInt32,
      node.flags ||| extraFlags]
  let final := rounds 7 start (blockWords node.block)
  ((List.range 8).map fun index => final.getD index 0 ^^^ final.getD (index + 8) 0).toArray

/-- The node of one chunk, whose earlier blocks have been compressed into `chain`. -/
def chunkNode (counter : Nat) (chain : Array UInt32) (flags : UInt32) (bytes : List UInt8) : Node :=
  if bytes.length ≤ blockLength then
    ⟨chain, bytes, counter, flags ||| chunkEnd⟩
  else
    let first : Node := ⟨chain, bytes.take blockLength, counter, flags⟩
    chunkNode counter (first.compress 0) 0 (bytes.drop blockLength)
termination_by bytes.length
decreasing_by
  simp only [blockLength, List.length_drop] at *
  omega

/-- The bytes under the left subtree of an input of `length` bytes that spans several chunks. -/
def leftLength (length : Nat) : Nat :=
  chunkLength * Nat.pow 2 ((length - 1) / chunkLength).log2

theorem left_length_pos (length : Nat) : 0 < leftLength length :=
  Nat.mul_pos (by decide) (Nat.two_pow_pos _)

theorem left_length_lt {length : Nat} (several : chunkLength < length) :
    leftLength length < length := by
  have quotient : (length - 1) / chunkLength ≠ 0 := by
    simp only [chunkLength] at *
    omega
  have power := Nat.log2_self_le quotient
  have product := Nat.div_mul_le_self (length - 1) chunkLength
  have scaled := Nat.mul_le_mul_left chunkLength power
  simp only [leftLength, Nat.pow_eq]
  rw [Nat.mul_comm] at product
  omega

def treeNode (counter : Nat) (bytes : List UInt8) : Node :=
  if _ : chunkLength < bytes.length then
    let size := leftLength bytes.length
    let left := treeNode counter (bytes.take size)
    let right := treeNode (counter + size / chunkLength) (bytes.drop size)
    let block := (left.compress 0 ++ right.compress 0).toList.flatMap bytesOf
    ⟨initialChain, block, 0, parentNode⟩
  else
    chunkNode counter initialChain chunkStart bytes
termination_by bytes.length
decreasing_by
  · have := left_length_lt ‹chunkLength < bytes.length›
    simp only [List.length_take]
    omega
  · have := left_length_pos bytes.length
    simp only [List.length_drop]
    omega

def hash (bytes : List UInt8) : List UInt8 :=
  ((treeNode 0 bytes).compress rootNode).toList.flatMap bytesOf

end Blake3
end CodeAudit
