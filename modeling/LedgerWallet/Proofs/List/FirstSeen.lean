import Mathlib.Data.List.Basic

/-! Lists without their repetitions, in the order in which things are first seen. -/
namespace LedgerWallet

variable {α : Type} [BEq α] [LawfulBEq α]

theorem nodup_eraseDups (list : List α) : list.eraseDups.Nodup := by
  cases list with
  | nil => exact List.nodup_nil
  | cons head rest =>
    rw [List.eraseDups_cons, List.nodup_cons]
    exact ⟨by simp [List.mem_eraseDups], nodup_eraseDups _⟩
termination_by list.length
decreasing_by exact Nat.lt_succ_of_le (List.length_filter_le _ rest)

theorem eraseDups_of_nodup {list : List α} (distinct : list.Nodup) : list.eraseDups = list := by
  induction list with
  | nil => rfl
  | cons head rest ih =>
    obtain ⟨fresh, distinct⟩ := List.nodup_cons.mp distinct
    have kept : rest.filter (fun other => !other == head) = rest := by
      apply List.filter_eq_self.mpr
      intro other member
      rw [Bool.not_eq_true', beq_eq_false_iff_ne]
      rintro rfl
      exact fresh member
    rw [List.eraseDups_cons, kept, ih distinct]

theorem eraseDups_filter (p : α → Bool) (list : List α) :
    (list.filter p).eraseDups = list.eraseDups.filter p := by
  cases list with
  | nil => rfl
  | cons head rest =>
    have swapped : (rest.filter p).filter (fun other => !other == head) =
        (rest.filter fun other => !other == head).filter p := by
      rw [List.filter_filter, List.filter_filter]
      exact List.filter_congr fun _ _ => Bool.and_comm _ _
    rw [List.eraseDups_cons, List.filter_cons, List.filter_cons, ← eraseDups_filter p (rest.filter _)]
    split
    · rw [List.eraseDups_cons, swapped]
    · next refused =>
      have absent : (rest.filter p).filter (fun other => !other == head) = rest.filter p := by
        apply List.filter_eq_self.mpr
        intro other member
        rw [Bool.not_eq_true', beq_eq_false_iff_ne]
        rintro rfl
        exact refused (List.mem_filter.mp member).2
      rw [← swapped, absent]
termination_by list.length
decreasing_by exact Nat.lt_succ_of_le (List.length_filter_le _ rest)

/-- Taking out the repetitions of a part first changes nothing. -/
theorem eraseDups_append_left (first second : List α) :
    (first.eraseDups ++ second).eraseDups = (first ++ second).eraseDups := by
  have same : second.removeAll first.eraseDups = second.removeAll first := by
    apply List.filter_congr
    intro other _
    simp [List.mem_eraseDups]
  rw [List.eraseDups_append, List.eraseDups_append, same,
    eraseDups_of_nodup (nodup_eraseDups first)]

/-- What comes last is new or was seen before. -/
theorem eraseDups_concat (list : List α) (last : α) : (list ++ [last]).eraseDups =
    if last ∈ list then list.eraseDups else list.eraseDups ++ [last] := by
  rw [List.eraseDups_append]
  split
  · next seen => simp [List.removeAll, seen]
  · next fresh => simp [List.removeAll, fresh, List.eraseDups_cons]

/-- A list that begins with what another one may lack, and otherwise holds the same in the same order. -/
theorem eraseDups_of_head? {first : α} {list : List α} (rest : List α)
    (begins : list.head? = some first)
    (others : list.filter (fun other => !other == first) = rest.filter (fun other => !other == first)) :
    list.eraseDups = (first :: rest).eraseDups := by
  obtain ⟨tail, rfl⟩ : ∃ tail, list = first :: tail := by
    cases list with
    | nil => contradiction
    | cons head tail => exact ⟨tail, by rw [Option.some.inj begins]⟩
  rw [List.eraseDups_cons, List.eraseDups_cons, ← others, List.filter_cons_of_neg (by simp)]

end LedgerWallet
