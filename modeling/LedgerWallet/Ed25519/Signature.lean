import LedgerWallet.Ed25519.Point
import LedgerWallet.Hash.Sha2

/-! Ed25519 signatures. The verifier recomputes the commitment and compares it as bytes; it asks
for a reduced scalar and admits every point that decodes. -/
namespace LedgerWallet.Ed25519

/-- The order of the generator. -/
def groupOrder : Nat := Nat.pow 2 252 + 27742317777372353535851937790883648493

/-- A seed hashed into a secret scalar and the key of the nonce. -/
structure Expanded where
  scalar : Nat
  nonceKey : List UInt8

def expand (seed : Bytes 32) : Expanded :=
  let hash := (sha512 seed.toList).toList
  let low := LittleEndian.decode (hash.take 32)
  { scalar := (low % Nat.pow 2 254 - low % 8) + Nat.pow 2 254
    nonceKey := hash.drop 32 }

def scalarOf (bytes : List UInt8) : Nat :=
  LittleEndian.decode (sha512 bytes).toList % groupOrder

theorem Point.length_encode (p : Point) : p.encode.length = 32 := by
  simp [Point.encode, LittleEndian.length_encode]

def publicKey (seed : Bytes 32) : Bytes 32 :=
  let point := Point.base.mul (expand seed).scalar
  ⟨point.encode, point.length_encode⟩

def sign (seed : Bytes 32) (message : List UInt8) : Bytes 64 :=
  let expanded := expand seed
  let key := publicKey seed
  let nonce := scalarOf (expanded.nonceKey ++ message)
  let commitment := (Point.base.mul nonce).encode
  let challenge := scalarOf (commitment ++ key.toList ++ message)
  { toList := commitment ++
      LittleEndian.encode 32 ((nonce + challenge * expanded.scalar) % groupOrder)
    length_toList := by
      simp [commitment, LittleEndian.length_encode, Point.length_encode] }

def isKey (key : List UInt8) : Bool := (Point.decode? key).isSome

def verify (key : Bytes 32) (message : List UInt8) (signature : Bytes 64) : Bool :=
  match Point.decode? key.toList with
  | none => false
  | some point =>
    let commitment := signature.toList.take 32
    let scalar := LittleEndian.decode (signature.toList.drop 32)
    let challenge := scalarOf (commitment ++ key.toList ++ message)
    scalar < groupOrder &&
      ((Point.base.mul scalar).add (point.neg.mul challenge)).encode == commitment

end LedgerWallet.Ed25519
