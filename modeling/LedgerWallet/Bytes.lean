/-! Byte strings: fixed lengths and little-endian numerals. -/
namespace LedgerWallet

/-- Exactly `n` bytes. -/
structure Bytes (n : Nat) where
  toList : List UInt8
  length_toList : toList.length = n
deriving DecidableEq

namespace Bytes

variable {n : Nat}

@[ext] theorem ext {a b : Bytes n} (h : a.toList = b.toList) : a = b := by
  cases a; cases b; cases h; rfl

def ofList? (n : Nat) (bytes : List UInt8) : Option (Bytes n) :=
  if h : bytes.length = n then some ⟨bytes, h⟩ else none

theorem ofList?_toList (bytes : Bytes n) : ofList? n bytes.toList = some bytes := by
  simp [ofList?, bytes.length_toList]

theorem toList_of_ofList? {list : List UInt8} {bytes : Bytes n}
    (h : ofList? n list = some bytes) : bytes.toList = list := by
  unfold ofList? at h
  split at h
  · cases h; rfl
  · contradiction

/-- The last `n` bytes of a longer byte string. -/
def takeLast {m : Nat} (bytes : Bytes m) (n : Nat) (h : n ≤ m) : Bytes n where
  toList := bytes.toList.drop (m - n)
  length_toList := by rw [List.length_drop, bytes.length_toList]; omega

def zero (n : Nat) : Bytes n := ⟨List.replicate n 0, List.length_replicate⟩

instance : Inhabited (Bytes n) := ⟨zero n⟩

/-- A shorter byte string comes before its extensions; otherwise the first difference decides. -/
def compareLists : List UInt8 → List UInt8 → Ordering
  | [], [] => .eq
  | [], _ :: _ => .lt
  | _ :: _, [] => .gt
  | a :: as, b :: bs => (compare a.toNat b.toNat).then (compareLists as bs)

end Bytes

namespace LittleEndian

/-- The `width` lowest base-256 digits of a number, least significant first. -/
def encode : (width : Nat) → Nat → List UInt8
  | 0, _ => []
  | width + 1, value => UInt8.ofNat value :: encode width (value / 256)

/-- How many numbers have a numeral of some width. -/
def capacity : (width : Nat) → Nat
  | 0 => 1
  | width + 1 => 256 * capacity width

def decode (bytes : List UInt8) : Nat :=
  bytes.foldr (fun byte rest => byte.toNat + 256 * rest) 0

theorem length_encode (width value : Nat) : (encode width value).length = width := by
  induction width generalizing value with
  | zero => rfl
  | succ width ih => simp [encode, ih]

theorem decode_encode {width value : Nat} (fits : value < capacity width) :
    decode (encode width value) = value := by
  induction width generalizing value with
  | zero =>
    have : value = 0 := by simpa [capacity] using fits
    simp [encode, decode, this]
  | succ width ih =>
    have tail : value / 256 < capacity width := by
      simp only [capacity] at fits
      omega
    have rest := ih tail
    simp only [decode] at rest
    simp only [encode, decode, List.foldr_cons, rest, UInt8.toNat_ofNat']
    exact Nat.mod_add_div value 256

theorem encode_decode (bytes : List UInt8) : encode bytes.length (decode bytes) = bytes := by
  induction bytes with
  | nil => rfl
  | cons byte rest ih =>
    have lt := byte.toNat_lt
    have rest_eq : (byte.toNat + 256 * decode rest) / 256 = decode rest := by omega
    have head : UInt8.ofNat (byte.toNat + 256 * decode rest) = byte := by
      apply UInt8.toNat_inj.mp
      rw [UInt8.toNat_ofNat']
      omega
    change encode (rest.length + 1) (byte.toNat + 256 * decode rest) = _
    simp only [encode, rest_eq, ih, head]

theorem decode_lt (bytes : List UInt8) : decode bytes < capacity bytes.length := by
  induction bytes with
  | nil => simp [decode, capacity]
  | cons byte rest ih =>
    have lt := byte.toNat_lt
    change byte.toNat + 256 * decode rest < 256 * capacity rest.length
    omega

end LittleEndian

end LedgerWallet
