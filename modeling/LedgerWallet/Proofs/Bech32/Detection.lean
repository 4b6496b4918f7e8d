import LedgerWallet.Bech32.Text
import LedgerWallet.Proofs.Bech32.Checksum
import Mathlib.Data.Nat.Bitwise

/-! Two texts that differ in one character never both have a checksum. The residues of two texts differ
by the residue of their difference, and zeros carry that along. A step over a zero can be taken back, so
a difference that would have to end at nothing, or between the residues of the two kinds of checksum, is
known all along; it is never one that a single character makes. -/
namespace LedgerWallet.Bech32

/-- A residue that either kind of checksum leaves. -/
def Checked (residue : Nat) : Prop := residue = modernResidue ∨ residue = plainResidue

/-- What lies between the two residues. -/
def gap : Nat := plainResidue ^^^ modernResidue

theorem Checked.xor {a b : Nat} (first : Checked a) (second : Checked b) :
    a ^^^ b = 0 ∨ a ^^^ b = gap := by
  rcases first with rfl | rfl <;> rcases second with rfl | rfl <;> decide

/-- A residue after so many zeros. -/
def drift (value count : Nat) : Nat := residueFrom value (List.replicate count 0)

theorem drift_succ (value count : Nat) : drift value (count + 1) = drift (step value 0) count := rfl

theorem drift_succ' (value count : Nat) : drift value (count + 1) = step (drift value count) 0 := by
  rw [drift, List.replicate_succ', residueFrom_append]
  rfl

theorem step_zero (symbol : Nat) : step 0 symbol = symbol := by
  have quiet : feedback 0 = 0 := by decide
  simp only [step, Nat.zero_mod, Nat.zero_shiftLeft, Nat.zero_xor, Nat.zero_shiftRight, quiet,
    Nat.xor_zero]

theorem drift_zero (count : Nat) : drift 0 count = 0 := by
  induction count with
  | zero => rfl
  | succ count ih => rw [drift_succ, step_zero, ih]

/-- Residues that go on over the same symbols differ by what they differed by before. -/
theorem residueFrom_xor_same (a b : Nat) (symbols : List Nat) :
    residueFrom a symbols ^^^ residueFrom b symbols = drift (a ^^^ b) symbols.length := by
  have zeros : List.zipWith (· ^^^ ·) symbols symbols = List.replicate symbols.length 0 := by
    simp only [List.zipWith_self, Nat.xor_self, List.map_const']
  rw [drift, ← zeros, residueFrom_xor a b rfl]

/-- One symbol changed. -/
theorem residueFrom_xor_change (start : Nat) (before after : List Nat) (s t : Nat) :
    residueFrom start (before ++ s :: after) ^^^ residueFrom start (before ++ t :: after) =
      drift (s ^^^ t) after.length := by
  have changed (residue : Nat) : step residue s ^^^ step residue t = s ^^^ t := by
    rw [← step_xor, Nat.xor_self, step_zero]
  rw [residueFrom_append, residueFrom_append, ← changed (residueFrom start before)]
  exact residueFrom_xor_same _ _ after

/-- Two symbols changed. -/
theorem residueFrom_xor_changes (start : Nat) (before between after : List Nat) (s t u v : Nat) :
    residueFrom start (before ++ s :: between ++ u :: after) ^^^
        residueFrom start (before ++ t :: between ++ v :: after) =
      drift (drift (s ^^^ t) (between.length + 1) ^^^ (u ^^^ v)) after.length := by
  have first := residueFrom_xor_change start before between s t
  have second : step (residueFrom start (before ++ s :: between)) u ^^^
      step (residueFrom start (before ++ t :: between)) v =
        drift (s ^^^ t) (between.length + 1) ^^^ (u ^^^ v) := by
    rw [← step_xor, first, drift_succ']
    calc step (drift (s ^^^ t) between.length) (u ^^^ v)
        = step (drift (s ^^^ t) between.length ^^^ 0) (0 ^^^ (u ^^^ v)) := by
          rw [Nat.xor_zero, Nat.zero_xor]
      _ = _ := by rw [step_xor, step_zero]
  rw [residueFrom_append start (before ++ s :: between), residueFrom_append start
    (before ++ t :: between), ← second]
  exact residueFrom_xor_same _ _ after

/-- What was at the top of a residue, told by the low bits that a step over a zero left. -/
def topBefore (low : Nat) : Nat :=
  (if low.testBit 0 then 17 else 0) ^^^ (if low.testBit 1 then 11 else 0) ^^^
    (if low.testBit 2 then 22 else 0) ^^^ (if low.testBit 3 then 5 else 0) ^^^
    (if low.testBit 4 then 10 else 0)

theorem topBefore_feedback : ∀ top < 32, topBefore (feedback top % 32) = top := by decide

/-- Takes a step over a zero back. -/
def unstep (residue : Nat) : Nat :=
  let top := topBefore (residue % 32)
  (residue ^^^ feedback top) >>> 5 + 0x2000000 * top

theorem unstep_step {residue : Nat} (fits : residue < residueBound) :
    unstep (step residue 0) = residue := by
  have small : residue >>> 25 < 32 := by
    rw [Nat.shiftRight_eq_div_pow]
    unfold residueBound at fits
    omega
  have low : step residue 0 % 32 = feedback (residue >>> 25) % 32 := by
    have shifted : (residue % 0x2000000) <<< 5 % 2 ^ 5 = 0 := by
      rw [Nat.shiftLeft_eq, Nat.mul_mod_left]
    have parts := Nat.xor_mod_two_pow (a := (residue % 0x2000000) <<< 5)
      (b := feedback (residue >>> 25)) (n := 5)
    rw [shifted, Nat.zero_xor] at parts
    rwa [step, Nat.xor_zero]
  have rest : step residue 0 ^^^ feedback (residue >>> 25) = (residue % 0x2000000) <<< 5 := by
    rw [step, Nat.xor_zero, Nat.xor_assoc, Nat.xor_self, Nat.xor_zero]
  simp only [unstep, low, topBefore_feedback _ small, rest, Nat.shiftLeft_shiftRight]
  rw [Nat.shiftRight_eq_div_pow]
  exact Nat.mod_add_div residue 0x2000000

/-- The differences that come to the gap after so many zeros. -/
def trail : (count : Nat) → Nat
  | 0 => gap
  | count + 1 => unstep (trail count)

theorem eq_zero_of_drift {value count : Nat} (fits : value < residueBound)
    (vanishes : drift value count = 0) : value = 0 := by
  induction count generalizing value with
  | zero => exact vanishes
  | succ count ih =>
    have stepped := ih (step_lt (by decide)) vanishes
    rw [← unstep_step fits, stepped]
    decide

theorem eq_trail_of_drift {value count : Nat} (fits : value < residueBound)
    (closes : drift value count = gap) : value = trail count := by
  induction count generalizing value with
  | zero => exact closes
  | succ count ih =>
    rw [trail, ← ih (step_lt (by decide)) closes, unstep_step fits]

theorem trail_large : ∀ count < 72, 32 ≤ trail count := by decide +kernel

/-- A change of one symbol stays visible. -/
theorem drift_symbol {value count : Nat} (small : value < 32) (differs : value ≠ 0)
    (near : count < 72) : drift value count ≠ 0 ∧ drift value count ≠ gap := by
  have fits : value < residueBound := Nat.lt_trans small (by decide)
  refine ⟨fun vanishes => differs (eq_zero_of_drift fits vanishes), fun closes => ?_⟩
  have large := trail_large count near
  rw [← eq_trail_of_drift fits closes] at large
  omega

/-- What the high bits of a changed character make, a whole prefix later, is not made up for by a change
of low bits, neither at once nor on the way to the gap. -/
theorem drift_large : ∀ high < 4, high ≠ 0 → ∀ length < 18, 32 ≤ drift high (length + 1) ∧
    ∀ count < 72, 32 ≤ drift high (length + 1) ^^^ trail count := by decide +kernel

/-- A change of one character of a prefix stays visible. -/
theorem drift_character {high low length count : Nat} (highSmall : high < 4) (lowSmall : low < 32)
    (differs : high ≠ 0 ∨ low ≠ 0) (short : length < 18) (near : count < 72) :
    drift (drift high (length + 1) ^^^ low) count ≠ 0 ∧
      drift (drift high (length + 1) ^^^ low) count ≠ gap := by
  by_cases same : high = 0
  · subst same
    rw [drift_zero, Nat.zero_xor]
    exact drift_symbol lowSmall (differs.resolve_left (absurd rfl)) near
  · obtain ⟨large, apart⟩ := drift_large high highSmall same length short
    have carried : drift high (length + 1) < residueBound :=
      residueFrom_lt (Nat.lt_trans highSmall (by decide)) fun symbol member => by
        rw [List.eq_of_mem_replicate member]
        decide
    have fits : drift high (length + 1) ^^^ low < residueBound :=
      Nat.xor_lt_two_pow carried (Nat.lt_trans lowSmall (by decide))
    refine ⟨fun vanishes => ?_, fun closes => ?_⟩
    · have equal := Nat.xor_eq_zero_iff.mp (eq_zero_of_drift fits vanishes)
      omega
    · have rest : drift high (length + 1) ^^^ trail count = low := by
        rw [← eq_trail_of_drift fits closes, ← Nat.xor_assoc, Nat.xor_self, Nat.zero_xor]
      have larger := apart count near
      omega

variable {hrp : List Char} {data : List Symbol}

/-- With one symbol changed, no checksum is left. -/
theorem not_checked_of_symbol {before after : List Symbol} {x y : Symbol} (differs : x ≠ y)
    (near : after.length < 72) (checked : Checked (residue hrp (before ++ x :: after))) :
    ¬ Checked (residue hrp (before ++ y :: after)) := by
  intro again
  have split (symbol : Symbol) : residue hrp (before ++ symbol :: after) =
      residueFrom 1 ((expand hrp ++ before.map Fin.val) ++ symbol.val :: after.map Fin.val) := by
    rw [residue, List.map_append, List.map_cons, List.append_assoc]
  have difference := checked.xor again
  rw [split, split, residueFrom_xor_change, List.length_map] at difference
  have small : x.val ^^^ y.val < 32 := Nat.xor_lt_two_pow (n := 5) x.isLt y.isLt
  have changed : x.val ^^^ y.val ≠ 0 := fun equal =>
    differs (Fin.ext (Nat.xor_eq_zero_iff.mp equal))
  obtain ⟨visible, open_⟩ := drift_symbol small changed near
  exact difference.elim visible open_

/-- With one character of a prefix changed, no checksum is left. -/
theorem not_checked_of_prefix {before after : List Char} {c d : Char} (differs : c ≠ d)
    (visible : isPrefixChar c = true) (visible' : isPrefixChar d = true)
    (short : (before ++ c :: after).length < 18) (near : after.length + data.length < 72)
    (checked : Checked (residue (before ++ c :: after) data)) :
    ¬ Checked (residue (before ++ d :: after) data) := by
  intro again
  have split (c : Char) : residue (before ++ c :: after) data =
      residueFrom 1 (before.map (·.toNat >>> 5) ++ (c.toNat >>> 5) ::
        (after.map (·.toNat >>> 5) ++ 0 :: before.map (·.toNat % 32)) ++
          (c.toNat % 32) :: (after.map (·.toNat % 32) ++ data.map Fin.val)) := by
    simp [residue, expand]
  have difference := checked.xor again
  rw [split, split, residueFrom_xor_changes] at difference
  simp only [List.length_append, List.length_map, List.length_cons] at difference short
  simp only [isPrefixChar, Bool.and_eq_true, decide_eq_true_eq] at visible visible'
  have high : c.toNat >>> 5 ^^^ d.toNat >>> 5 < 4 := by
    apply Nat.xor_lt_two_pow (n := 2) <;> rw [Nat.shiftRight_eq_div_pow] <;> omega
  have low : c.toNat % 32 ^^^ d.toNat % 32 < 32 :=
    Nat.xor_lt_two_pow (n := 5) (Nat.mod_lt _ (by decide)) (Nat.mod_lt _ (by decide))
  have changed : c.toNat >>> 5 ^^^ d.toNat >>> 5 ≠ 0 ∨ c.toNat % 32 ^^^ d.toNat % 32 ≠ 0 := by
    by_contra equal
    rw [not_or, not_not, not_not, Nat.xor_eq_zero_iff, Nat.xor_eq_zero_iff,
      Nat.shiftRight_eq_div_pow, Nat.shiftRight_eq_div_pow] at equal
    exact differs (Char.toNat_inj.mp (by omega))
  have turn : after.length + (before.length + 1) < 18 := by omega
  obtain ⟨seen, open_⟩ := drift_character high low changed turn near
  exact difference.elim seen open_

end LedgerWallet.Bech32
