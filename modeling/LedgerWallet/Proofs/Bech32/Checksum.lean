import LedgerWallet.Bech32.Checksum
import Mathlib.Algebra.Group.Nat.Defs

/-! The residue is linear in the start and in the symbols, so six more symbols can give it any value.
A checksum gives it the modern one. -/
namespace LedgerWallet.Bech32

/-- How many residues there are. -/
def residueBound : Nat := 2 ^ 30

theorem ite_xor (a b : Bool) (generator : Nat) :
    (if (a ^^ b) = true then generator else 0) =
      (if a = true then generator else 0) ^^^ (if b = true then generator else 0) := by
  cases a <;> cases b <;> simp

theorem feedback_xor (a b : Nat) : feedback (a ^^^ b) = feedback a ^^^ feedback b := by
  simp only [feedback, Nat.testBit_xor, ite_xor]
  ac_rfl

theorem feedback_lt (top : Nat) : feedback top < residueBound := by
  have generator {bit : Bool} {value : Nat} (small : value < residueBound) :
      (if bit = true then value else 0) < residueBound := by
    cases bit
    · exact Nat.two_pow_pos 30
    · exact small
  unfold feedback
  iterate 4 refine Nat.xor_lt_two_pow ?_ (generator (by decide))
  exact generator (by decide)

theorem step_xor (a b s t : Nat) : step (a ^^^ b) (s ^^^ t) = step a s ^^^ step b t := by
  have low : (a ^^^ b) % 0x2000000 = a % 0x2000000 ^^^ b % 0x2000000 := Nat.xor_mod_two_pow (n := 25)
  simp only [step, low, Nat.shiftLeft_xor_distrib, Nat.shiftRight_xor_distrib, feedback_xor]
  ac_rfl

theorem step_lt {residue symbol : Nat} (small : symbol < residueBound) :
    step residue symbol < residueBound := by
  have shifted : (residue % 0x2000000) <<< 5 < residueBound := by
    rw [Nat.shiftLeft_eq]
    unfold residueBound
    omega
  exact Nat.xor_lt_two_pow (Nat.xor_lt_two_pow shifted small) (feedback_lt _)

theorem residueFrom_append (start : Nat) (first second : List Nat) :
    residueFrom start (first ++ second) = residueFrom (residueFrom start first) second :=
  List.foldl_append

/-- The residue of the differences is the difference of the residues. -/
theorem residueFrom_xor (a b : Nat) {first second : List Nat}
    (same : first.length = second.length) :
    residueFrom (a ^^^ b) (List.zipWith (· ^^^ ·) first second) =
      residueFrom a first ^^^ residueFrom b second := by
  induction first generalizing a b second with
  | nil =>
    obtain rfl := List.eq_nil_of_length_eq_zero same.symm
    rfl
  | cons s first ih =>
    cases second with
    | nil => contradiction
    | cons t second =>
      have rest : first.length = second.length := by simpa using same
      change residueFrom (step (a ^^^ b) (s ^^^ t)) _ = _
      rw [step_xor, ih _ _ rest]
      rfl

theorem residueFrom_lt {start : Nat} {symbols : List Nat} (first : start < residueBound)
    (small : ∀ symbol ∈ symbols, symbol < residueBound) :
    residueFrom start symbols < residueBound := by
  induction symbols generalizing start with
  | nil => exact first
  | cons symbol rest ih =>
    exact ih (step_lt (small symbol List.mem_cons_self))
      fun other member => small other (List.mem_cons_of_mem symbol member)

theorem residue_lt (hrp : List Char) (data : List Symbol) : residue hrp data < residueBound := by
  apply residueFrom_lt (by decide)
  intro symbol member
  have char_lt (c : Char) : c.toNat < residueBound := by
    have valid : c.toNat < 0xd800 ∨ 0xdfff < c.toNat ∧ c.toNat < 0x110000 := c.valid
    unfold residueBound
    omega
  simp only [expand, List.mem_append, List.mem_cons, List.mem_map] at member
  rcases member with (⟨c, _, rfl⟩ | rfl | ⟨c, _, rfl⟩) | ⟨digit, _, rfl⟩
  · exact Nat.lt_of_le_of_lt (Nat.shiftRight_le _ _) (char_lt c)
  · decide
  · exact Nat.lt_of_le_of_lt (Nat.mod_le _ _) (char_lt c)
  · exact Nat.lt_trans digit.isLt (by decide)

/-- As long as nothing leaves it at the top, a residue takes its symbols as digits. -/
theorem step_shift {rest : Nat} (shift : Nat) (fits : rest < residueBound) :
    step (rest >>> (shift + 5)) (rest >>> shift % 32) = rest >>> shift := by
  have top : rest >>> (shift + 5) < 2 ^ 25 := by
    have lower : rest >>> (shift + 5) ≤ rest >>> 5 := by
      rw [Nat.add_comm, Nat.shiftRight_add]
      exact Nat.shiftRight_le _ _
    have bound : rest >>> 5 < 2 ^ 25 := by
      rw [Nat.shiftRight_eq_div_pow]
      unfold residueBound at fits
      omega
    omega
  have none : rest >>> (shift + 5) >>> 25 = 0 := by
    rw [Nat.shiftRight_eq_div_pow, Nat.div_eq_of_lt top]
  have kept : rest >>> (shift + 5) % 0x2000000 = rest >>> (shift + 5) := Nat.mod_eq_of_lt top
  have quiet : feedback 0 = 0 := by decide
  simp only [step, none, kept, quiet, Nat.xor_zero]
  apply Nat.eq_of_testBit_eq
  intro position
  have digit : (rest >>> shift % 32).testBit position =
      (decide (position < 5) && (rest >>> shift).testBit position) :=
    Nat.testBit_mod_two_pow _ 5 position
  simp only [Nat.testBit_xor, digit, Nat.testBit_shiftLeft, Nat.testBit_shiftRight]
  by_cases low : position < 5
  · simp [low, Nat.not_le.mpr low]
  · have above : shift + 5 + (position - 5) = shift + position := by omega
    simp [low, Nat.not_lt.mp low, above]

/-- Six digits of a value that fits give that value. -/
theorem residueFrom_digits {rest : Nat} (fits : rest < residueBound) :
    residueFrom 0 ([25, 20, 15, 10, 5, 0].map fun shift => rest >>> shift % 32) = rest := by
  have start : rest >>> (25 + 5) = 0 := by
    rw [Nat.shiftRight_eq_div_pow]
    exact Nat.div_eq_of_lt fits
  simp only [residueFrom, List.map_cons, List.map_nil, List.foldl_cons, List.foldl_nil]
  have first := step_shift 25 fits
  rw [start] at first
  rw [first, step_shift 20 fits, step_shift 15 fits, step_shift 10 fits,
    step_shift 5 fits, step_shift 0 fits, Nat.shiftRight_zero]

/-- With its checksum behind it, every text has the modern residue. -/
theorem residue_checksum (hrp : List Char) (data : List Symbol) :
    residue hrp (data ++ checksum hrp data) = modernResidue := by
  let start := residueFrom 1 (expand hrp ++ data.map Fin.val)
  let rest := residue hrp (data ++ List.replicate 6 0) ^^^ modernResidue
  let digits := [25, 20, 15, 10, 5, 0].map fun shift => rest >>> shift % 32
  have behind (symbols : List Symbol) :
      residue hrp (data ++ symbols) = residueFrom start (symbols.map Fin.val) := by
    rw [residue, List.map_append, ← List.append_assoc, residueFrom_append]
  have fits : rest < residueBound := Nat.xor_lt_two_pow (residue_lt _ _) (by decide)
  have zeros : residueFrom start (List.replicate 6 0) = residue hrp (data ++ List.replicate 6 0) := by
    rw [behind]
    rfl
  calc residue hrp (data ++ checksum hrp data)
      = residueFrom start digits := behind _
    _ = residueFrom (start ^^^ 0) (List.zipWith (· ^^^ ·) (List.replicate 6 0) digits) := by
        simp [digits, List.replicate]
    _ = residueFrom start (List.replicate 6 0) ^^^ residueFrom 0 digits :=
        residueFrom_xor start 0 rfl
    _ = residue hrp (data ++ List.replicate 6 0) ^^^ rest := by
        rw [zeros, residueFrom_digits fits]
    _ = modernResidue := by
        rw [← Nat.xor_assoc, Nat.xor_self, Nat.zero_xor]

end LedgerWallet.Bech32
