import LedgerWallet.Json.Record
import LedgerWallet.Proofs.Json.PlainText
import LedgerWallet.Proofs.Text.Digits

/-! Documents of one member, as they are written: an object around a name and a value. -/
namespace LedgerWallet.Json

variable {α : Type}

/-- The characters of an object with one member. -/
def member (name : String) (value : List Char) : List Char :=
  '{' :: '"' :: (name.toList ++ '"' :: ':' :: (value ++ ['}']))

theorem render_member {name : String} (plain : ∀ c ∈ name.toList, IsPlain c) (value : Json) :
    (object [(name, value)]).render.toList = member name value.render.toList := by
  have parts : (object [(name, value)]).render =
      "\x7b" ++ (quoted name ++ ":" ++ value.render) ++ "\x7d" := by
    rw [render, renderMembers]
  rw [parts]
  simp [quoted_plain plain, member]

namespace Reader

variable {cursor : Cursor} {rest : List Char}

/-- Reads these characters in front of a closing brace, and stops there. -/
def ReadsInside (reader : Reader α) (chars : List Char) (value : α) : Prop :=
  ∀ (cursor : Cursor) (after : List Char), cursor.rest = chars ++ '}' :: after →
    chars.length < cursor.budget → ∃ last, reader cursor = .ok (value, last) ∧
      last.rest = '}' :: after ∧ last.budget = cursor.budget

theorem ReadsInside.map {β : Type} {read : Reader α} {chars : List Char} {value : α}
    (reads : ReadsInside read chars value) (f : α → β) : ReadsInside (f <$> read) chars (f value) := by
  intro cursor after ahead enough
  obtain ⟨last, told, left, budget⟩ := reads cursor after ahead enough
  refine ⟨last, ?_, left, budget⟩
  rw [map_eq_pure_bind, bind_of_ok told]
  rfl

theorem peekToken_cons {c : Char} (ahead : cursor.rest = c :: rest) (visible : isSpace c = false) :
    peekToken cursor = .ok (some c, cursor) := by
  rw [peekToken_eq, ahead]
  · rfl
  · rw [ahead]
    rintro _ ⟨⟩
    exact visible

theorem nextMember_name (ahead : cursor.rest = '"' :: rest) :
    nextMember true cursor = .ok (true, cursor) := by
  rw [nextMember, bind_of_ok (peekToken_cons ahead rfl)]
  rfl

theorem nextMember_end (first : Bool) (ahead : cursor.rest = '}' :: rest) :
    nextMember first cursor = .ok (false, cursor) := by
  rw [nextMember, bind_of_ok (peekToken_cons ahead rfl)]
  rfl

theorem colon_eq (ahead : cursor.rest = ':' :: rest) :
    colon cursor = .ok ((), cursor.after ':' rest) := by
  rw [colon, bind_of_ok (peekToken_cons ahead rfl)]
  exact advance_eq ahead

theorem endObject_eq (ahead : cursor.rest = '}' :: rest) :
    endObject cursor = .ok ((), cursor.after '}' rest) := by
  rw [endObject, bind_of_ok (peekToken_cons ahead rfl)]
  exact advance_eq ahead

variable {read : Reader α} {chars : List Char} {value : α} {name : String}

/-- The members of an object are a name, a value and the brace after it. -/
theorem membersInto_eq (reads : ReadsInside read chars value) (plain : ∀ c ∈ name.toList, IsPlain c)
    {after : List Char} (turns : Nat)
    (ahead : cursor.rest = '"' :: (name.toList ++ '"' :: ':' :: (chars ++ '}' :: after)))
    (enough : name.toList.length + chars.length < cursor.budget) :
    ∃ last, membersInto [.of name read fun value _ => some value] (turns + 2) [] true none cursor =
      .ok (.ok (some value), last) ∧ last.rest = '}' :: after ∧ last.budget = cursor.budget := by
  let opened := cursor.after '"' (name.toList ++ '"' :: ':' :: (chars ++ '}' :: after))
  have room : opened.budget = cursor.budget := budget_after
  obtain ⟨named, body, left, budget⟩ :=
    stringBody_plain plain (by omega : name.toList.length < opened.budget) rest_after
  let valued := named.after ':' (chars ++ '}' :: after)
  have more : valued.budget = named.budget := budget_after
  obtain ⟨last, told, ended, kept⟩ :=
    reads valued after rest_after (by omega : chars.length < valued.budget)
  refine ⟨last, ?_, ended, by omega⟩
  have field : (RecordField.of name read fun value (_ : Option α) => some value).read valued =
      .ok (.ok fun _ => some value, last) := bind_of_ok told _
  rw [membersInto, bind_of_ok (nextMember_name ahead), if_pos rfl, bind_of_ok (advance_eq ahead),
    bind_of_ok body]
  have found : [RecordField.of name read fun value (_ : Option α) => some value].find? (·.name = name) =
      some (.of name read fun value _ => some value) :=
    List.find?_cons_of_pos (decide_eq_true rfl)
  have fresh : ¬ ([] : List String).contains name := Bool.false_ne_true
  simp only [found]
  rw [if_neg fresh, bind_of_ok (colon_eq left), bind_of_ok field]
  dsimp only
  rw [membersInto, bind_of_ok (nextMember_end false ended)]
  rfl

/-- The object of a field that a record has to have. -/
theorem holding_eq (expected : String) (reads : ReadsInside read chars value)
    (plain : ∀ c ∈ name.toList, IsPlain c) {after : List Char}
    (ahead : cursor.rest = member name chars ++ after)
    (enough : (member name chars).length < cursor.budget) :
    ∃ last, holding expected name read cursor = .ok (value, last) ∧ last.rest = after ∧
      last.budget = cursor.budget := by
  have spelled : cursor.rest = '{' :: '"' :: (name.toList ++ '"' :: ':' :: (chars ++ '}' :: after)) := by
    rw [ahead, member]
    simp only [List.cons_append, List.append_assoc, List.nil_append]
  have length : (member name chars).length = name.toList.length + chars.length + 5 := by
    simp only [member, List.length_cons, List.length_append, List.length_nil]
    omega
  let opened := cursor.after '{' ('"' :: (name.toList ++ '"' :: ':' :: (chars ++ '}' :: after)))
  have room : opened.budget = cursor.budget := budget_after
  obtain ⟨turns, count⟩ : ∃ turns, opened.budget = turns + 2 := ⟨opened.budget - 2, by omega⟩
  obtain ⟨last, told, ended, budget⟩ := membersInto_eq reads plain turns rest_after
    (by omega : name.toList.length + chars.length < opened.budget)
  refine ⟨last.after '}' after, ?_, rest_after, budget_after.trans (budget.trans room)⟩
  have members : withFuel (fun fuel => membersInto [.of name read fun value _ => some value] fuel []
      true none) opened = .ok (.ok (some value), last) := by
    rw [withFuel, count]
    exact told
  have whole : record expected [.of name read fun value _ => some value] none cursor =
      .ok (some value, last.after '}' after) := by
    rw [record, bind_of_ok (peekToken_cons spelled rfl)]
    change (advance >>= fun _ => withFuel _ >>= closed endObject abandonObject) cursor = _
    rw [bind_of_ok (advance_eq spelled), bind_of_ok members, closed, bind_of_ok (endObject_eq ended)]
    rfl
  rw [holding, bind_of_ok whole]
  rfl

/-- A document of one member, read from its text. -/
theorem run_holding (expected : String) (reads : ReadsInside read chars value)
    (plain : ∀ c ∈ name.toList, IsPlain c) {text : String} (written : text.toList = member name chars) :
    run (holding expected name read) text = .ok value := by
  obtain ⟨last, told, left, -⟩ := holding_eq expected reads plain
    (by rw [rest_start, written, List.append_nil] : (Cursor.start text).rest = _ ++ [])
    (by
      have budget : (Cursor.start text).budget = text.length + 1 := rfl
      rw [budget, ← written, String.length_toList]
      exact Nat.lt_succ_self _)
  exact run_eq told left

/-- An object within an object. -/
theorem readsInside_holding (expected : String) (reads : ReadsInside read chars value)
    (plain : ∀ c ∈ name.toList, IsPlain c) :
    ReadsInside (holding expected name read) (member name chars) value := fun _ _ ahead enough =>
  holding_eq expected reads plain ahead enough

theorem expectChars_eq {word after : List Char} (ahead : cursor.rest = word ++ after) :
    ∃ last, expectChars word cursor = .ok ((), last) ∧ last.rest = after ∧
      last.budget = cursor.budget := by
  induction word generalizing cursor with
  | nil => exact ⟨cursor, rfl, ahead, rfl⟩
  | cons c word ih =>
    obtain ⟨last, told, left, budget⟩ := ih (rest_after : (cursor.after c _).rest = _)
    refine ⟨last, ?_, left, budget.trans budget_after⟩
    rw [expectChars, bind_of_ok rfl, ahead]
    change (if c = c then (advance >>= fun _ => expectChars word) else failNext .expectedIdentifier) cursor = _
    rw [if_pos rfl, bind_of_ok (advance_eq ahead)]
    exact told

/-- What is read as a value that has no parts is left to what takes it. -/
theorem scalarOf_eq {json : Json} {c : Char} (expected : String) (take : Json → Reader α)
    (ahead : cursor.rest = c :: rest) (visible : isSpace c = false) (list : c ≠ '[') (object : c ≠ '{')
    {last : Cursor} (told : Reader.value 0 cursor = .ok (json, last)) :
    scalarOf expected take cursor = take json last := by
  rw [scalarOf, bind_of_ok (peekToken_cons ahead visible)]
  have other (bracket : Char) (differs : c ≠ bracket) : some c ≠ some bracket := fun same =>
    differs (Option.some.inj same)
  have list := other '[' list
  have object := other '{' object
  generalize some c = token at list object
  split
  · contradiction
  · contradiction
  · exact bind_of_ok told take

/-- A word that stands for a value. -/
theorem scalarOf_word {c : Char} {word after : List Char} (json : Json) (expected : String)
    (take : Json → Reader α) (ahead : cursor.rest = c :: (word ++ after)) (visible : isSpace c = false)
    (list : c ≠ '[') (object : c ≠ '{') (judged : peekToken cursor = .ok (some c, cursor) →
      Reader.value 0 cursor = (advance >>= fun _ => expectChars word >>= fun _ => pure json) cursor) :
    ∃ last, scalarOf expected take cursor = take json last ∧ last.rest = after ∧
      last.budget = cursor.budget := by
  obtain ⟨last, told, left, budget⟩ := expectChars_eq (rest_after : (cursor.after c _).rest = _)
  refine ⟨last, scalarOf_eq expected take ahead visible list object ?_, left,
    budget.trans budget_after⟩
  rw [judged (peekToken_cons ahead visible), bind_of_ok (advance_eq ahead), bind_of_ok told]
  rfl

theorem readsInside_flag (flagged : Bool) :
    ReadsInside flag (Json.bool flagged).render.toList flagged := by
  intro cursor after ahead _
  cases flagged with
  | false =>
    have spelled : cursor.rest = 'f' :: (['a', 'l', 's', 'e'] ++ '}' :: after) := ahead
    refine scalarOf_word (.bool false) _ _ spelled rfl (by decide) (by decide) fun token => ?_
    rw [Reader.value, value.scalar, bind_of_ok token]
    rfl
  | true =>
    have spelled : cursor.rest = 't' :: (['r', 'u', 'e'] ++ '}' :: after) := ahead
    refine scalarOf_word (.bool true) _ _ spelled rfl (by decide) (by decide) fun token => ?_
    rw [Reader.value, value.scalar, bind_of_ok token]
    rfl

theorem text_eq {content : String} {after : List Char} (plain : ∀ c ∈ content.toList, IsPlain c)
    (enough : content.toList.length < cursor.budget)
    (ahead : cursor.rest = '"' :: (content.toList ++ '"' :: after)) :
    ∃ last, text cursor = .ok (content, last) ∧ last.rest = after ∧ last.budget = cursor.budget := by
  obtain ⟨last, body, left, budget⟩ :=
    stringBody_plain plain (budget_after.symm ▸ enough) (rest_after : (cursor.after '"' _).rest = _)
  have told : Reader.value 0 cursor = .ok (.string content, last) := by
    rw [Reader.value, value.scalar, bind_of_ok (peekToken_cons ahead rfl)]
    change (advance >>= fun _ => stringBody >>= fun text => pure _) cursor = _
    rw [bind_of_ok (advance_eq ahead), bind_of_ok body]
    rfl
  exact ⟨last, scalarOf_eq _ _ ahead rfl (by decide) (by decide) told, left,
    budget.trans budget_after⟩

theorem readsInside_alternative {ofName? : String → Option α} {names : List String} {content : String}
    {value : α} (known : ofName? content = some value) (plain : ∀ c ∈ content.toList, IsPlain c) :
    ReadsInside (alternative ofName? names) (Json.string content).render.toList value := by
  intro cursor after ahead enough
  rw [render, quoted_plain plain] at ahead enough
  have spelled : cursor.rest = '"' :: (content.toList ++ '"' :: '}' :: after) := by
    rw [ahead, List.cons_append, List.append_assoc]
    rfl
  have room : content.toList.length < cursor.budget := by
    simp only [List.length_cons, List.length_append] at enough
    omega
  obtain ⟨last, told, left, budget⟩ := text_eq plain room spelled
  refine ⟨last, ?_, left, budget⟩
  rw [alternative, bind_of_ok (peekToken_cons spelled rfl)]
  change (text >>= _) cursor = _
  rw [bind_of_ok told]
  dsimp only
  rw [known]
  rfl

/-- Digits are read up to the first character that is none. -/
theorem digitsFor_eq {digits after : List Char} (all : ∀ c ∈ digits, c.isDigit)
    (stops : ∀ c, after.head? = some c → Text.digit? c = none) {fuel : Nat}
    (enough : digits.length < fuel) (ahead : cursor.rest = digits ++ after) :
    ∃ last, digitsFor fuel cursor = .ok (digits.map Text.digitValue, last) ∧ last.rest = after ∧
      last.budget = cursor.budget := by
  induction digits generalizing fuel cursor with
  | nil =>
    obtain ⟨fuel, rfl⟩ : ∃ n, fuel = n + 1 := ⟨fuel - 1, by omega⟩
    refine ⟨cursor, ?_, ahead, rfl⟩
    have stopped : cursor.rest.head?.bind Text.digit? = none := by
      rw [ahead, List.nil_append]
      exact Option.bind_eq_none_iff.mpr stops
    rw [digitsFor, bind_of_ok rfl, stopped]
    rfl
  | cons c digits ih =>
    obtain ⟨fuel, rfl⟩ : ∃ n, fuel = n + 1 := ⟨fuel - 1, by omega⟩
    obtain ⟨first, later⟩ := List.forall_mem_cons.mp all
    obtain ⟨last, told, left, budget⟩ := ih later (Nat.lt_of_succ_lt_succ enough)
      (rest_after : (cursor.after c _).rest = _)
    refine ⟨last, ?_, left, budget.trans budget_after⟩
    have opened : cursor.rest = c :: (digits ++ after) := ahead
    have digit : cursor.rest.head?.bind Text.digit? = some (Text.digitValue c) := by
      rw [ahead]
      exact Text.digit?_eq_digitValue first
    rw [digitsFor, bind_of_ok rfl, digit]
    change (advance >>= fun _ => digitsFor fuel >>= fun rest => pure _) cursor = _
    rw [bind_of_ok (advance_eq opened), bind_of_ok told]
    rfl

end Reader

/-- A number that fits is all in its significand. -/
theorem Scaled.addWhole_eq {digits : List Char} {start : Nat}
    (fits : Nat.ofDigitChars 10 digits start < UInt64.size) :
    addWhole ⟨start, 0⟩ (digits.map Text.digitValue) = ⟨Nat.ofDigitChars 10 digits start, 0⟩ := by
  induction digits generalizing start with
  | nil => rfl
  | cons c digits ih =>
    rw [Text.ofDigitChars_cons] at fits ⊢
    have least := Text.le_ofDigitChars digits (10 * start + Text.digitValue c)
    have room : Scaled.fits ⟨start, 0⟩ (Text.digitValue c) = true :=
      decide_eq_true (Nat.lt_of_le_of_lt least fits)
    rw [List.map_cons, addWhole, room]
    exact ih fits

namespace Reader

variable {cursor : Cursor} {rest : List Char}

theorem ne_of_isDigit {c d : Char} (digit : c.isDigit) (other : ¬ d.isDigit) : c ≠ d := fun same =>
  other (same ▸ digit)

theorem peek_cons {c : Char} (ahead : cursor.rest = c :: rest) :
    peek cursor = .ok (some c, cursor) := by
  rw [peek, ahead]
  rfl

/-- Nothing follows the digits of an integer inside an object. -/
theorem afterWhole_eq (significand : Nat) (ahead : cursor.rest = '}' :: rest) :
    afterWhole false ⟨significand, 0⟩ cursor = .ok (.natural (UInt64.ofNat significand), cursor) := by
  rw [afterWhole, bind_of_ok (peek_cons ahead)]
  change (peek >>= _) cursor = _
  rw [bind_of_ok (peek_cons ahead)]
  rfl

theorem firstDigit_eq {c : Char} (atEnd : Problem) (digit : c.isDigit) (ahead : cursor.rest = c :: rest) :
    firstDigit atEnd cursor = .ok (Text.digitValue c, cursor.after c rest) := by
  rw [firstDigit, bind_of_ok (peek_cons ahead)]
  dsimp only
  rw [Text.digit?_eq_digitValue digit]
  dsimp only
  rw [bind_of_ok (advance_eq ahead)]
  rfl

/-- A zero is the first digit only where it is the only one. -/
theorem leadingDigit_eq {c : Char} (atEnd : Problem) (digit : c.isDigit) (ahead : cursor.rest = c :: rest)
    (alone : Text.digitValue c = 0 → rest.head?.bind Text.digit? = none) :
    leadingDigit atEnd cursor = .ok (Text.digitValue c, cursor.after c rest) := by
  have judged : (decide (Text.digitValue c = 0) && (rest.head?.bind Text.digit?).isSome) = false := by
    by_cases zero : Text.digitValue c = 0
    · rw [alone zero]
      exact Bool.and_false _
    · rw [decide_eq_false zero]
      rfl
  rw [leadingDigit, bind_of_ok (firstDigit_eq atEnd digit ahead), bind_of_ok rfl, rest_after, judged]
  rfl

theorem number_eq {n : Nat} {after : List Char} (fits : n < UInt64.size)
    (ahead : cursor.rest = Nat.toDigits 10 n ++ '}' :: after)
    (enough : (Nat.toDigits 10 n).length < cursor.budget) :
    ∃ last, number cursor = .ok (.natural (UInt64.ofNat n), last) ∧ last.rest = '}' :: after ∧
      last.budget = cursor.budget := by
  rcases Nat.eq_zero_or_pos n with rfl | positive
  · rw [Nat.toDigits_zero] at ahead
    refine ⟨cursor.after '0' ('}' :: after), ?_, rest_after, budget_after⟩
    rw [number, bind_of_ok (peek_cons ahead)]
    change (leadingDigit _ >>= _) cursor = _
    rw [bind_of_ok (leadingDigit_eq _ rfl ahead fun _ => rfl)]
    exact afterWhole_eq 0 rest_after
  · obtain ⟨c, digits, shown, digit, nonzero⟩ := Text.exists_toDigits_cons positive
    have opened : cursor.rest = c :: (digits ++ '}' :: after) := by rw [ahead, shown]; rfl
    have all : ∀ d ∈ digits, d.isDigit := fun d member =>
      Nat.isDigit_of_mem_toDigits (by decide) (Nat.le_refl 10) (shown ▸ List.mem_cons_of_mem c member)
    have value : Nat.ofDigitChars 10 digits (Text.digitValue c) = n := by
      rw [← Nat.ofDigitChars_ten_toDigits (n := n), shown, Text.ofDigitChars_cons, Nat.mul_zero,
        Nat.zero_add]
    have turns : digits.length < (cursor.after c (digits ++ '}' :: after)).budget := by
      rw [shown, List.length_cons] at enough
      rw [budget_after]
      omega
    obtain ⟨last, told, left, budget⟩ := digitsFor_eq all
      (by rintro _ ⟨⟩; rfl : ∀ d, ('}' :: after).head? = some d → Text.digit? d = none) turns rest_after
    have whole : Reader.digits (cursor.after c (digits ++ '}' :: after)) =
      .ok (digits.map Text.digitValue, last) := told
    refine ⟨last, ?_, left, budget.trans budget_after⟩
    have minus : (some c == some '-') = false :=
      beq_false_of_ne fun same => ne_of_isDigit digit (by decide) (Option.some.inj same)
    rw [number, bind_of_ok (peek_cons opened), minus]
    change (leadingDigit _ >>= _) cursor = _
    rw [bind_of_ok (leadingDigit_eq _ digit opened fun zero => absurd zero nonzero), if_neg nonzero,
      bind_of_ok whole, Scaled.addWhole_eq (value.symm ▸ fits), value]
    exact afterWhole_eq n left

theorem isSpace_of_isDigit {c : Char} (digit : c.isDigit) : isSpace c = false := by
  have blank := ne_of_isDigit digit (d := ' ') (by decide)
  have tab := ne_of_isDigit digit (d := '\t') (by decide)
  have line := ne_of_isDigit digit (d := '\n') (by decide)
  have back := ne_of_isDigit digit (d := '\r') (by decide)
  simp [isSpace, blank, tab, line, back]

/-- A value that starts with a digit is a number. -/
theorem value_of_number {c : Char} {n : Number} {last : Cursor} (digit : c.isDigit)
    (ahead : cursor.rest = c :: rest) (told : number cursor = .ok (n, last)) :
    Reader.value 0 cursor = .ok (Json.number n, last) := by
  have letter (d : Char) (other : ¬ d.isDigit) : some c ≠ some d := fun same =>
    ne_of_isDigit digit other (Option.some.inj same)
  have quote := letter '"' (by decide)
  have null := letter 'n' (by decide)
  have positive := letter 't' (by decide)
  have negative := letter 'f' (by decide)
  rw [Reader.value, value.scalar, bind_of_ok (peekToken_cons ahead (isSpace_of_isDigit digit))]
  generalize token : some c = found at quote null positive negative
  split
  · contradiction
  · contradiction
  · contradiction
  · contradiction
  · contradiction
  · cases token
    have bracket : ¬ (c = '[' ∨ c = '{') := not_or.mpr
      ⟨ne_of_isDigit digit (by decide), ne_of_isDigit digit (by decide)⟩
    have counts : c = '-' ∨ (Text.digit? c).isSome := .inr (by
      rw [Text.digit?_eq_digitValue digit]
      rfl)
    rw [if_neg bracket, if_pos counts, bind_of_ok told]
    rfl

theorem readsInside_integer {n bound : Nat} (expected : String) (small : n < bound)
    (most : bound ≤ UInt64.size) :
    ReadsInside (integerBelow bound expected) (Json.natural n).render.toList n := by
  intro cursor after ahead enough
  have fits : n < UInt64.size := Nat.lt_of_lt_of_le small most
  have shown : (Json.natural n).render.toList = Nat.toDigits 10 n := by
    have same : (Json.natural n).render = toString (UInt64.ofNat n).toNat := by
      rw [natural, render]
      rfl
    rw [same, Nat.toString_eq_repr, Nat.repr_eq_ofList_toDigits, String.toList_ofList,
      UInt64.toNat_ofNat_of_lt' fits]
  rw [shown] at ahead enough
  obtain ⟨last, told, left, budget⟩ := number_eq fits ahead enough
  refine ⟨last, ?_, left, budget⟩
  obtain ⟨c, digits, first⟩ := List.exists_cons_of_ne_nil (Nat.toDigits_ne_nil (n := n) (b := 10))
  have digit : c.isDigit := Nat.isDigit_of_mem_toDigits (by decide) (Nat.le_refl 10)
    (first ▸ List.mem_cons_self)
  have opened : cursor.rest = c :: (digits ++ '}' :: after) := by rw [ahead, first]; rfl
  have value := value_of_number digit opened told
  have below : (Json.number (.natural (UInt64.ofNat n))).below? bound = some n := by
    rw [below?, UInt64.toNat_ofNat_of_lt' fits, if_pos small]
  rw [integerBelow, scalarOf_eq _ _ opened (isSpace_of_isDigit digit)
    (ne_of_isDigit digit (by decide)) (ne_of_isDigit digit (by decide)) value, below]
  rfl

end Reader

end LedgerWallet.Json
