import LedgerWallet.Bytes.Bits
import Mathlib.Algebra.Group.Nat.Defs

/-! Numbers as bits and bits in groups. Padded groups of one width hold the bits that went in, so
groups of another width can be read from them again. -/
namespace LedgerWallet

variable {α : Type}

/-- Cutting into groups undoes putting whole groups one after the other. -/
theorem groupsFrom_flatten {width : Nat} (whole : List (List α)) {pending last : List α}
    (sizes : ∀ group ∈ whole, group.length = width) (short : last.length < width)
    (room : pending.length < width) (list : List α)
    (parts : pending.reverse ++ list = whole.flatten ++ last) :
    groupsFrom width pending list = (whole, last) := by
  induction list generalizing pending whole with
  | nil =>
    cases whole with
    | nil => simpa [groupsFrom] using parts
    | cons group rest =>
      have size := sizes group List.mem_cons_self
      have count := congrArg List.length parts
      simp only [List.append_nil, List.length_reverse, List.flatten_cons, List.length_append] at count
      omega
  | cons a list ih =>
    have parts' : (a :: pending).reverse ++ list = whole.flatten ++ last := by
      rw [← parts, List.reverse_cons, List.append_assoc, List.singleton_append]
    simp only [groupsFrom]
    split
    · rename_i filled
      cases whole with
      | nil =>
        have count := congrArg List.length parts'
        simp only [List.length_append, List.length_reverse, List.length_cons, List.flatten_nil,
          List.nil_append] at count
        omega
      | cons group rest =>
        have size := sizes group List.mem_cons_self
        rw [List.flatten_cons, List.append_assoc] at parts'
        obtain ⟨same, tail⟩ := List.append_inj parts' (by simp [size, filled])
        have others := fun g member => sizes g (List.mem_cons_of_mem group member)
        have empty : ([] : List α).length < width := by simp only [List.length_nil]; omega
        have cut := ih rest others empty tail
        simp only [cut, same]
    · exact ih whole sizes (by simp only [List.length_cons]; omega) parts'

theorem groups_flatten {width : Nat} {whole : List (List α)} {last : List α}
    (sizes : ∀ group ∈ whole, group.length = width) (short : last.length < width) :
    groups width (whole.flatten ++ last) = (whole, last) :=
  groupsFrom_flatten whole sizes short (by simp only [List.length_nil]; omega) _ rfl

theorem groupsFrom_spec {width : Nat} (list : List α) {pending : List α}
    (room : pending.length < width) :
    pending.reverse ++ list =
        (groupsFrom width pending list).1.flatten ++ (groupsFrom width pending list).2 ∧
      (∀ group ∈ (groupsFrom width pending list).1, group.length = width) ∧
      (groupsFrom width pending list).2.length < width := by
  induction list generalizing pending with
  | nil => simp [groupsFrom, room]
  | cons a list ih =>
    simp only [groupsFrom]
    split
    · rename_i filled
      have empty : ([] : List α).length < width := by simp only [List.length_nil]; omega
      obtain ⟨parts, sizes, short⟩ := ih empty
      refine ⟨?_, ?_, short⟩
      · rw [List.flatten_cons, List.append_assoc, ← parts]
        simp
      · intro group member
        rcases List.mem_cons.mp member with rfl | other
        · simp [filled]
        · exact sizes group other
    · have grown : (a :: pending).length < width := by simp only [List.length_cons]; omega
      obtain ⟨parts, sizes, short⟩ := ih grown
      refine ⟨?_, sizes, short⟩
      rw [← parts, List.reverse_cons, List.append_assoc, List.singleton_append]

/-- Groups hold the list they were cut from. -/
theorem groups_spec {width : Nat} (positive : 0 < width) (list : List α) :
    list = (groups width list).1.flatten ++ (groups width list).2 ∧
      (∀ group ∈ (groups width list).1, group.length = width) ∧
      (groups width list).2.length < width := by
  have empty : ([] : List α).length < width := positive
  simpa only [groups, List.reverse_nil, List.nil_append] using groupsFrom_spec list empty

namespace Bits

theorem length_ofNat (width n : Nat) : (ofNat width n).length = width := by
  induction width with
  | zero => rfl
  | succ width ih => simp [ofNat, ih]

theorem foldl_bits (bits : List Bool) (start : Nat) :
    bits.foldl (fun n bit => 2 * n + bit.toNat) start = 2 ^ bits.length * start + toNat bits := by
  induction bits generalizing start with
  | nil => simp [toNat]
  | cons bit rest ih =>
    have first : toNat (bit :: rest) = 2 ^ rest.length * (2 * 0 + bit.toNat) + toNat rest := ih _
    rw [List.foldl_cons, ih, first, List.length_cons, Nat.pow_succ, Nat.mul_add, Nat.mul_add,
      Nat.mul_zero, Nat.zero_add, Nat.mul_assoc, Nat.add_assoc]

theorem toNat_cons (bit : Bool) (rest : List Bool) :
    toNat (bit :: rest) = 2 ^ rest.length * bit.toNat + toNat rest := by
  rw [toNat, List.foldl_cons, foldl_bits, Nat.mul_zero, Nat.zero_add]

theorem toNat_lt (bits : List Bool) : toNat bits < 2 ^ bits.length := by
  induction bits with
  | nil => simp [toNat]
  | cons bit rest ih =>
    rw [toNat_cons, List.length_cons, Nat.pow_succ]
    cases bit <;> simp <;> omega

theorem toNat_ofNat (width n : Nat) : toNat (ofNat width n) = n % 2 ^ width := by
  induction width with
  | zero => simp [ofNat, toNat, Nat.mod_one]
  | succ width ih =>
    rw [ofNat, toNat_cons, length_ofNat, ih, Nat.toNat_testBit, Nat.mod_pow_succ, Nat.add_comm]

/-- Bits above the width do not matter. -/
theorem ofNat_mod {width bound : Nat} (n : Nat) (within : width ≤ bound) :
    ofNat width (n % 2 ^ bound) = ofNat width n := by
  induction width with
  | zero => rfl
  | succ width ih =>
    have inside : width < bound := within
    simp only [ofNat, Nat.testBit_mod_two_pow, inside, decide_true, Bool.true_and,
      ih (Nat.le_of_lt inside)]

theorem ofNat_toNat (bits : List Bool) : ofNat bits.length (toNat bits) = bits := by
  induction bits with
  | nil => rfl
  | cons bit rest ih =>
    have small := toNat_lt rest
    have low : (2 ^ rest.length * bit.toNat + toNat rest) % 2 ^ rest.length = toNat rest := by
      rw [Nat.mul_add_mod, Nat.mod_eq_of_lt small]
    have tail : ofNat rest.length (2 ^ rest.length * bit.toNat + toNat rest) = rest := by
      rw [← ofNat_mod _ (Nat.le_refl _), low, ih]
    have head : (2 ^ rest.length * bit.toNat + toNat rest).testBit rest.length = bit := by
      rw [Nat.testBit_two_pow_mul_add _ small]
      cases bit <;> simp
    rw [toNat_cons, List.length_cons, ofNat, head, tail]

end Bits

end LedgerWallet
