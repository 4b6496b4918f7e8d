import LedgerWallet.Json.Printer
import LedgerWallet.Json.Reader

/-! JSON strings whose characters stand for themselves are read back as they were written. -/
namespace LedgerWallet.Json

/-- Written without an escape. -/
def IsPlain (c : Char) : Prop := c ≠ '"' ∧ c ≠ '\\' ∧ 0x20 ≤ c.toNat

/-- The text has no character that is written with an escape. -/
def isPlain (text : String) : Bool :=
  text.toList.all fun c => c != '"' && c != '\\' && 0x20 ≤ c.toNat

theorem plain_of_isPlain {text : String} (plain : isPlain text) : ∀ c ∈ text.toList, IsPlain c := by
  intro c member
  simpa [IsPlain, and_assoc] using List.all_eq_true.mp plain c member

theorem quoted_plain {text : String} (plain : ∀ c ∈ text.toList, IsPlain c) :
    (quoted text).toList = '"' :: (text.toList ++ ['"']) := by
  rw [quoted, String.toList_ofList]
  generalize text.toList = chars at plain ⊢
  have same : chars.flatMap escape = chars := by
    induction chars with
    | nil => rfl
    | cons c rest ih =>
      obtain ⟨⟨quote, backslash, visible⟩, later⟩ := List.forall_mem_cons.mp plain
      have alone : escape c = [c] := by
        rw [escape, if_neg (fun either => either.elim quote backslash), if_neg (by omega)]
      rw [List.flatMap_cons, alone, ih later]
      rfl
  rw [same]

namespace Reader

variable {α β : Type} {cursor next : Cursor} {c : Char} {rest : List Char}

theorem bind_of_ok {first : Reader α} {result : α} (told : first cursor = .ok (result, next))
    (second : α → Reader β) : (first >>= second) cursor = second result next := by
  change (first cursor >>= fun both => second both.1 both.2) = _
  rw [told]
  rfl

theorem advance_eq (ahead : cursor.rest = c :: rest) : advance cursor = .ok ((), cursor.after c rest) := by
  rw [advance, ahead]

theorem rest_start (text : String) : (Cursor.start text).rest = text.toList := rfl

theorem rest_after : (cursor.after c rest).rest = rest := by
  rw [Cursor.after]
  split <;> rfl

theorem budget_after : (cursor.after c rest).budget = cursor.budget := by
  rw [Cursor.after]
  split <;> rfl

/-- Nothing is passed over where no space stands. -/
theorem peekToken_eq (visible : ∀ c, cursor.rest.head? = some c → isSpace c = false) :
    peekToken cursor = .ok (cursor.rest.head?, cursor) := by
  have stays (fuel : Nat) : skipSpaceFor fuel cursor = .ok ((), cursor) := by
    cases fuel with
    | zero => rfl
    | succ fuel =>
      rw [skipSpaceFor, bind_of_ok rfl]
      cases ahead : cursor.rest.head? with
      | none => rfl
      | some c =>
        dsimp only
        rw [visible c ahead]
        rfl
  have passed : withFuel skipSpaceFor cursor = .ok ((), cursor) := stays cursor.budget
  rw [peekToken, bind_of_ok passed]
  rfl

/-- A string is read up to its quote, provided that there are enough turns. -/
theorem stringFor_plain {chars after : List Char} (plain : ∀ c ∈ chars, IsPlain c) {fuel : Nat}
    (enough : chars.length < fuel) (read : List Char) (ahead : cursor.rest = chars ++ '"' :: after) :
    ∃ last : Cursor, stringFor true fuel read cursor = .ok (chars.reverse ++ read, last) ∧
      last.rest = after ∧ last.budget = cursor.budget := by
  induction chars generalizing fuel cursor read with
  | nil =>
    obtain ⟨fuel, rfl⟩ : ∃ n, fuel = n + 1 := ⟨fuel - 1, by omega⟩
    refine ⟨cursor.after '"' after, ?_, rest_after, budget_after⟩
    rw [stringFor, bind_of_ok rfl, ahead]
    exact bind_of_ok (advance_eq ahead) _
  | cons c rest ih =>
    obtain ⟨fuel, rfl⟩ : ∃ n, fuel = n + 1 := ⟨fuel - 1, by omega⟩
    obtain ⟨⟨quote, backslash, visible⟩, later⟩ := List.forall_mem_cons.mp plain
    have moved : (cursor.after c (rest ++ '"' :: after)).rest = rest ++ '"' :: after := rest_after
    obtain ⟨last, told, left, budget⟩ := ih later (Nat.lt_of_succ_lt_succ enough) (c :: read) moved
    refine ⟨last, ?_, left, budget.trans budget_after⟩
    rw [stringFor, bind_of_ok rfl, ahead, List.cons_append, List.head?_cons]
    simp only [reduceIte]
    rw [if_pos visible, bind_of_ok (advance_eq (by rw [ahead, List.cons_append])), told,
      List.reverse_cons, List.append_assoc]
    rfl

theorem stringBody_plain {text : String} {after : List Char} (plain : ∀ c ∈ text.toList, IsPlain c)
    (enough : text.toList.length < cursor.budget) (ahead : cursor.rest = text.toList ++ '"' :: after) :
    ∃ last : Cursor, stringBody cursor = .ok (text, last) ∧ last.rest = after ∧
      last.budget = cursor.budget := by
  obtain ⟨last, told, left, budget⟩ := stringFor_plain plain enough [] ahead
  have read : withFuel (fun fuel => stringFor true fuel []) cursor =
      .ok (text.toList.reverse ++ [], last) := told
  refine ⟨last, ?_, left, budget⟩
  rw [stringBody, bind_of_ok read, List.append_nil, List.reverse_reverse, String.ofList_toList]
  rfl

/-- A reader that reads the whole text has read it. -/
theorem run_eq {reader : Reader α} {text : String} {value : α}
    (told : reader (Cursor.start text) = .ok (value, next)) (left : next.rest = []) :
    run reader text = .ok value := by
  have ended : finish next = .ok ((), next) := by
    rw [finish, bind_of_ok (peekToken_eq ?_), left]
    · rfl
    · rw [left]
      exact nofun
  rw [run, told]
  change (finish next >>= fun _ => pure value) = _
  rw [ended]
  rfl

end Reader

/-- What was written as a string is read as that string. -/
theorem parse_quoted {text : String} (plain : ∀ c ∈ text.toList, IsPlain c) :
    parse (quoted text) = .ok (string text) := by
  let start := Cursor.start (quoted text)
  have ahead : start.rest = '"' :: (text.toList ++ ['"']) :=
    (Reader.rest_start (quoted text)).trans (quoted_plain plain)
  let inside := start.after '"' (text.toList ++ ['"'])
  have enough : text.toList.length < inside.budget := by
    have count : (quoted text).length = (quoted text).toList.length := String.length_toList.symm
    rw [Reader.budget_after, show start.budget = (quoted text).length + 1 from rfl, count,
      quoted_plain plain]
    simp only [List.length_cons, List.length_append]
    omega
  obtain ⟨last, body, left, -⟩ := Reader.stringBody_plain plain enough Reader.rest_after
  have value : Reader.value Reader.maxDepth start = .ok (string text, last) := by
    rw [Reader.maxDepth, Reader.value, Reader.value.scalar, Reader.bind_of_ok (Reader.peekToken_eq ?_),
      ahead, List.head?_cons]
    · change (Reader.advance >>= fun _ => Reader.stringBody >>= fun text => pure (string text)) start = _
      rw [Reader.bind_of_ok (Reader.advance_eq ahead), Reader.bind_of_ok body]
      rfl
    · rw [ahead]
      rintro c ⟨⟩
      rfl
  exact Reader.run_eq value left

end LedgerWallet.Json
