import LedgerWallet.Bytes
import LedgerWallet.Bytes.Groups

/-! BLAKE3 with its default key and 32 bytes of output. The message is cut into chunks of 1024
bytes, the chunks are the leaves of a tree that is filled from the left, and every node is one
compression. -/
namespace LedgerWallet.Blake3

/-- Four words. The compression state has four rows, and a round works on whole rows. -/
structure Row where
  p : UInt32
  q : UInt32
  r : UInt32
  s : UInt32
deriving Inhabited

namespace Row

def map (f : UInt32 → UInt32) (a : Row) : Row := ⟨f a.p, f a.q, f a.r, f a.s⟩

def zip (f : UInt32 → UInt32 → UInt32) (a b : Row) : Row :=
  ⟨f a.p b.p, f a.q b.q, f a.r b.r, f a.s b.s⟩

def add : Row → Row → Row := zip (· + ·)

def xor : Row → Row → Row := zip (· ^^^ ·)

/-- Rotates the words of the row to the left. -/
def turn (a : Row) : Row := ⟨a.q, a.r, a.s, a.p⟩

def toList (a : Row) : List UInt32 := [a.p, a.q, a.r, a.s]

end Row

def rotateRight (amount : UInt32) (x : UInt32) : UInt32 := (x >>> amount) ||| (x <<< (32 - amount))

structure State where
  a : Row
  b : Row
  c : Row
  d : Row

/-- Half of a round: mixes the four columns with two message words each. -/
def State.mix (s : State) (x y : Row) : State :=
  let a := (s.a.add s.b).add x
  let d := (s.d.xor a).map (rotateRight 16)
  let c := s.c.add d
  let b := (s.b.xor c).map (rotateRight 12)
  let a := (a.add b).add y
  let d := (d.xor a).map (rotateRight 8)
  let c := c.add d
  ⟨a, (b.xor c).map (rotateRight 7), c, d⟩

/-- Brings the diagonals into columns. -/
def State.tilt (s : State) : State := ⟨s.a, s.b.turn, s.c.turn.turn, s.d.turn.turn.turn⟩

def State.straighten (s : State) : State := ⟨s.a, s.b.turn.turn.turn, s.c.turn.turn, s.d.turn⟩

abbrev Block := List UInt32

/-- Every second word of the block from `start` on. -/
def alternate (m : Block) (start : Nat) : Row :=
  ⟨m.getD start 0, m.getD (start + 2) 0, m.getD (start + 4) 0, m.getD (start + 6) 0⟩

def State.round (s : State) (m : Block) : State :=
  ((s.mix (alternate m 0) (alternate m 1)).tilt.mix (alternate m 8) (alternate m 9)).straighten

def permute (m : Block) : Block :=
  [2, 6, 3, 10, 7, 0, 4, 13, 1, 11, 12, 5, 9, 14, 15, 8].map (m.getD · 0)

def State.rounds : (count : Nat) → State → Block → State
  | 0, s, _ => s
  | count + 1, s, m => State.rounds count (s.round m) (permute m)

/-- Eight words that stand for everything below a node. -/
structure Chain where
  low : Row
  high : Row
deriving Inhabited

def Chain.words (chain : Chain) : List UInt32 := chain.low.toList ++ chain.high.toList

def initial : Chain :=
  ⟨⟨0x6a09e667, 0xbb67ae85, 0x3c6ef372, 0xa54ff53a⟩,
    ⟨0x510e527f, 0x9b05688c, 0x1f83d9ab, 0x5be0cd19⟩⟩

/-- The input of a compression. -/
structure Node where
  input : Chain
  block : Block
  counter : Nat
  length : Nat
  flags : UInt32
deriving Inhabited

namespace Node

def chunkStart : UInt32 := 1
def chunkEnd : UInt32 := 2
def parentFlag : UInt32 := 4
def rootFlag : UInt32 := 8

def chain (n : Node) : Chain :=
  let s : State := ⟨n.input.low, n.input.high, initial.low,
    ⟨UInt32.ofNat n.counter, UInt32.ofNat (n.counter / UInt32.size), UInt32.ofNat n.length, n.flags⟩⟩
  let s := s.rounds 7 n.block
  ⟨s.a.xor s.c, s.b.xor s.d⟩

def parent (left right : Node) : Node :=
  ⟨initial, left.chain.words ++ right.chain.words, 0, 64, parentFlag⟩

/-- The compression of a block, padded with zeros. -/
def ofBlock (input : Chain) (counter : Nat) (flags : UInt32) (bytes : List UInt8) : Node :=
  let padded := bytes ++ List.replicate (64 - bytes.length) 0
  ⟨input, (groups 4 padded).1.map fun word => UInt32.ofNat (LittleEndian.decode word),
    counter, bytes.length, flags⟩

/-- Compresses the blocks of a chunk in turn. The last one stays a node. -/
def ofBlocks (counter : Nat) (input : Chain) (flags : UInt32) : List (List UInt8) → Node
  | [] => ofBlock input counter (flags ||| chunkEnd) []
  | [last] => ofBlock input counter (flags ||| chunkEnd) last
  | bytes :: rest => ofBlocks counter (ofBlock input counter flags bytes).chain 0 rest

def ofChunk (counter : Nat) (bytes : List UInt8) : Node :=
  ofBlocks counter initial chunkStart (chunks 64 bytes)

def pairUp : List Node → List Node
  | left :: right :: rest => parent left right :: pairUp rest
  | rest => rest

/-- Joins neighbours level by level; a node without a neighbour moves up alone. -/
def root : (levels : Nat) → List Node → Node
  | _, [] => ofChunk 0 []
  | _, [node] => node
  | 0, node :: _ => node
  | levels + 1, nodes => root levels (pairUp nodes)

end Node

def digest (message : List UInt8) : Bytes 32 :=
  let leaves := (chunks 1024 message).zipIdx.map fun (bytes, counter) => Node.ofChunk counter bytes
  let root := Node.root leaves.length leaves
  let chain := { root with flags := root.flags ||| Node.rootFlag }.chain
  { toList := chain.words.flatMap fun word => LittleEndian.encode 4 word.toNat
    length_toList := by simp [Chain.words, Row.toList, LittleEndian.length_encode] }

end LedgerWallet.Blake3

namespace LedgerWallet

def blake3 (message : List UInt8) : Bytes 32 := Blake3.digest message

end LedgerWallet
