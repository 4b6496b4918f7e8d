import LedgerWallet.Bech32.Symbol

/-! The checksum: six symbols that make the residue of the whole text a fixed constant. The residue
is a polynomial over the symbols, held in 30 bits, and every step is linear. -/
namespace LedgerWallet.Bech32

/-- What leaves the residue at the top comes back as a multiple of the generator. -/
def feedback (top : Nat) : Nat :=
  (if top.testBit 0 then 0x3b6a57b2 else 0) ^^^ (if top.testBit 1 then 0x26508e6d else 0) ^^^
    (if top.testBit 2 then 0x1ea119fa else 0) ^^^ (if top.testBit 3 then 0x3d4233dd else 0) ^^^
    (if top.testBit 4 then 0x2a1462b3 else 0)

def step (residue symbol : Nat) : Nat :=
  ((residue % 0x2000000) <<< 5) ^^^ symbol ^^^ feedback (residue >>> 25)

def residueFrom (start : Nat) (symbols : List Nat) : Nat := symbols.foldl step start

/-- The prefix enters with the high bits of its characters, a zero, and their low bits. -/
def expand (hrp : List Char) : List Nat :=
  hrp.map (·.toNat >>> 5) ++ 0 :: hrp.map (·.toNat % 32)

def residue (hrp : List Char) (data : List Symbol) : Nat :=
  residueFrom 1 (expand hrp ++ data.map Fin.val)

/-- The residues of the two kinds of checksum. -/
def plainResidue : Nat := 1
def modernResidue : Nat := 0x2bc830a3

def checksum (hrp : List Char) (data : List Symbol) : List Symbol :=
  let rest := residue hrp (data ++ List.replicate 6 0) ^^^ modernResidue
  [25, 20, 15, 10, 5, 0].map fun shift => Symbol.ofNat (rest >>> shift)

end LedgerWallet.Bech32
