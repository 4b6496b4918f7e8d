import LedgerWallet.Address.Known
import LedgerWallet.Proofs.Address.Spelling
import LedgerWallet.Proofs.Bech32.Detection

/-! A misprint in an address is always noticed. One character put in the place of another leaves no
checksum when it stands in the prefix or in the data, and when it stands for the separator, or adds one,
nothing is left that could be split into a prefix and data of the right lengths. -/
namespace LedgerWallet

/-- One character of a text was replaced by another one. -/
def Misprint (text other : String) : Prop :=
  ∃ before old new after, text.toList = before ++ old :: after ∧
    other.toList = before ++ new :: after ∧ old ≠ new

theorem Network.suffix_end (network : Network) :
    ('_' :: network.suffix).getLast? ≠ some Bech32.separator := by
  rw [suffix]
  split
  · decide
  split
  · decide
  · rw [← List.cons_append, List.getLast?_concat]
    decide

theorem EntityKind.name_start (kind : EntityKind) : ∃ c d rest,
    kind.name.toList = c :: d :: rest ∧ c.isLower = true ∧ d.isLower = true := by
  cases kind <;> exact ⟨_, _, _, rfl, rfl, rfl⟩

namespace Address

open Bech32

variable {address : Address} {before after : List Char} {old new : Char}

/-- No prefix ends in a separator, so that one before the last could not stand for the last. -/
theorem hrp_ne_concat (address : Address) (front : List Char) :
    address.hrp ≠ front ++ [separator] := by
  intro same
  have last := congrArg List.getLast? same
  have ends := List.getLast?_eq_some_getLast (List.cons_ne_nil '_' address.network.suffix)
  rw [List.getLast?_concat, hrp, List.getLast?_append, ends, Option.some_or, ← ends] at last
  exact address.network.suffix_end last

/-- Whichever character is replaced, a small letter is left. -/
theorem any_isLower (shown : address.chars = before ++ old :: after) :
    (before ++ new :: after).any Char.isLower = true := by
  obtain ⟨c, d, rest, named, first, second⟩ := address.kind.name_start
  have start : address.chars = c :: d :: (rest ++ '_' :: address.network.suffix ++ separator ::
      (Symbol.ofBytes address.nodeId ++ checksum address.hrp (Symbol.ofBytes address.nodeId)).map
        Symbol.char) := by
    rw [chars, encode, hrp, named]
    simp
  rw [start] at shown
  cases before with
  | nil =>
    obtain ⟨-, rfl⟩ := List.cons.inj shown
    simp [second]
  | cons x before =>
    obtain ⟨rfl, -⟩ := List.cons.inj shown
    simp [first]

/-- A text of one case that misprints an address is in lowercase. -/
theorem toLower_misprint (shown : address.chars = before ++ old :: after)
    (single : mixesCases (before ++ new :: after) = false) :
    (before ++ new :: after).map Char.toLower = before ++ new :: after := by
  have lower : (before ++ new :: after).any Char.isUpper = false := by
    rw [mixesCases, any_isLower shown, Bool.and_true] at single
    exact single
  refine (List.map_congr_left fun c member => toLower_of_not_isUpper ?_).trans (List.map_id _)
  exact Bool.eq_false_iff.mpr (List.any_eq_false.mp lower c member)

/-- The symbols of an address, with those of its checksum. -/
def symbols (address : Address) : List Symbol :=
  Symbol.ofBytes address.nodeId ++ checksum address.hrp (Symbol.ofBytes address.nodeId)

theorem length_symbols_checksum (address : Address) : address.symbols.length = 54 := by
  have six (data : List Symbol) : (checksum address.hrp data).length = 6 := rfl
  rw [symbols, List.length_append, length_symbols, six]

theorem checked_symbols (address : Address) : Checked (residue address.hrp address.symbols) :=
  .inl (residue_checksum _ _)

/-- What a text in lowercase is read as: a prefix, and symbols with a checksum. -/
theorem Spelling.parts {other : Address} {text : String} (spelling : other.Spelling text)
    (lowered : text.toList.map Char.toLower = text.toList) : ∃ read : List Symbol,
      text.toList = other.hrp ++ separator :: read.map Symbol.char ∧
      54 ≤ read.length ∧ read.length ≤ 55 ∧ Checked (residue other.hrp read) := by
  obtain ⟨-, spare, check, few, six, same, checked⟩ := spelling
  have count : (Symbol.ofBytes other.nodeId ++ spare ++ check).length = 54 + spare.length := by
    rw [List.length_append, List.length_append, length_symbols, six]
    omega
  exact ⟨_, lowered.symm.trans same, by omega, by omega, checked⟩

/-- Where in the text of an address a character stands. -/
theorem place_cases (shown : address.chars = before ++ old :: after) :
    (∃ rest, address.hrp = before ++ old :: rest ∧
      after = rest ++ separator :: address.symbols.map Symbol.char) ∨
    (before = address.hrp ∧ old = separator ∧ after = address.symbols.map Symbol.char) ∨
    ∃ first symbol last, address.symbols = first ++ symbol :: last ∧ old = symbol.char ∧
      before = address.hrp ++ separator :: first.map Symbol.char ∧
      after = last.map Symbol.char := by
  have parts : address.hrp ++ separator :: address.symbols.map Symbol.char =
      before ++ old :: after := shown
  rcases List.append_eq_append_iff.mp parts with ⟨gone, rfl, back⟩ | ⟨gone, front, back⟩
  · cases gone with
    | nil =>
      obtain ⟨rfl, rfl⟩ := List.cons.inj back
      exact .inr (.inl ⟨List.append_nil _, rfl, rfl⟩)
    | cons c gone =>
      obtain ⟨rfl, data⟩ := List.cons.inj back
      obtain ⟨first, tail, split, rfl, rest⟩ := List.map_eq_append_iff.mp data
      obtain ⟨symbol, last, rfl, rfl, rfl⟩ := List.map_eq_cons_iff.mp rest
      exact .inr (.inr ⟨first, symbol, last, split, rfl, rfl, rfl⟩)
  · cases gone with
    | nil =>
      obtain ⟨rfl, rfl⟩ := List.cons.inj back
      exact .inr (.inl ⟨by rw [front, List.append_nil], rfl, rfl⟩)
    | cons c rest =>
      obtain ⟨rfl, rfl⟩ := List.cons.inj back
      exact .inl ⟨rest, front, rfl⟩

variable {other : Address} {read : List Symbol}

theorem not_read_of_prefix {rest : List Char} (differs : old ≠ new)
    (place : address.hrp = before ++ old :: rest)
    (same : before ++ new :: (rest ++ separator :: address.symbols.map Symbol.char) =
      other.hrp ++ separator :: read.map Symbol.char) :
    ¬ Checked (residue other.hrp read) := by
  have regrouped : (before ++ new :: rest) ++ separator :: address.symbols.map Symbol.char =
      other.hrp ++ separator :: read.map Symbol.char := by
    rw [← same, List.append_assoc, List.cons_append]
  obtain ⟨front, data⟩ := Text.eq_of_append_separator (Symbol.separator_not_mem _) (Symbol.separator_not_mem _)
    regrouped
  have visible : isPrefixChar old = true := address.hrp_writable.visible old (by simp [place])
  have visible' : isPrefixChar new = true := other.hrp_writable.visible new (by simp [← front])
  have named := address.kind.length_name
  have suffix := address.network.length_suffix
  have total := congrArg List.length place
  rw [hrp, List.length_append, List.length_cons, List.length_append, List.length_cons] at total
  have checked := address.checked_symbols
  rw [place] at checked
  rw [← front, ← Symbol.map_char_inj data]
  refine not_checked_of_prefix differs visible visible' ?_ ?_ checked
  · rw [List.length_append, List.length_cons]
    omega
  · rw [length_symbols_checksum]
    omega

/-- No prefix ends in a separator, so it cannot be read one character early. -/
theorem not_read_of_separator (differs : separator ≠ new)
    (enough : 54 ≤ read.length) (few : read.length ≤ 55)
    (same : address.hrp ++ new :: address.symbols.map Symbol.char =
      other.hrp ++ separator :: read.map Symbol.char) : False := by
  have counts := congrArg List.length same
  simp only [List.length_append, List.length_cons, List.length_map, length_symbols_checksum] at counts
  rcases Nat.lt_or_ge other.hrp.length address.hrp.length with shorter | longer
  · have regrouped : address.hrp ++ new :: address.symbols.map Symbol.char =
        (other.hrp ++ [separator]) ++ read.map Symbol.char := by
      rw [same, List.append_assoc, List.singleton_append]
    have length : address.hrp.length = (other.hrp ++ [separator]).length := by
      rw [List.length_append, List.length_singleton]
      omega
    exact address.hrp_ne_concat _ (List.append_inj regrouped length).1
  · obtain ⟨-, rest⟩ := List.append_inj same (by omega)
    exact differs (List.cons.inj rest).1.symm

/-- A symbol may become a separator. Then too few symbols are left behind it. -/
theorem not_read_of_symbol {first last : List Symbol} {symbol : Symbol} (differs : symbol.char ≠ new)
    (place : address.symbols = first ++ symbol :: last) (enough : 54 ≤ read.length)
    (same : (address.hrp ++ separator :: first.map Symbol.char) ++ new :: last.map Symbol.char =
      other.hrp ++ separator :: read.map Symbol.char) :
    ¬ Checked (residue other.hrp read) := by
  have total := address.length_symbols_checksum
  rw [place, List.length_append, List.length_cons] at total
  by_cases split : new = separator
  · subst split
    obtain ⟨-, data⟩ := Text.eq_of_append_separator (Symbol.separator_not_mem _) (Symbol.separator_not_mem _) same
    rw [← Symbol.map_char_inj data] at enough
    omega
  · have absent : separator ∉ first.map Symbol.char ++ new :: last.map Symbol.char := by
      simp only [List.mem_append, List.mem_cons, not_or]
      exact ⟨Symbol.separator_not_mem _, Ne.symm split, Symbol.separator_not_mem _⟩
    have regrouped : address.hrp ++ separator ::
        (first.map Symbol.char ++ new :: last.map Symbol.char) =
          other.hrp ++ separator :: read.map Symbol.char := by
      rw [← same, List.append_assoc, List.cons_append]
    obtain ⟨front, data⟩ := Text.eq_of_append_separator absent (Symbol.separator_not_mem _) regrouped
    obtain ⟨first', tail, rfl, before, rest⟩ := List.map_eq_append_iff.mp data.symm
    obtain ⟨symbol', last', rfl, rfl, after⟩ := List.map_eq_cons_iff.mp rest
    have checked := address.checked_symbols
    rw [place] at checked
    rw [← front, Symbol.map_char_inj before, Symbol.map_char_inj after]
    exact not_checked_of_symbol (fun same => differs (congrArg Symbol.char same)) (by omega) checked

/-- A misprint of an address is not read, as whatever address. -/
theorem parse_misprint (address : Address) (text : String)
    (misprint : Misprint address.text text) : ∃ fault, parse text = .error fault := by
  obtain ⟨before, old, new, after, shown, printed, differs⟩ := misprint
  rw [Address.text, String.toList_ofList] at shown
  cases outcome : parse text with
  | error fault => exact ⟨fault, rfl⟩
  | ok other =>
    exfalso
    have spelling := parse_eq_ok.mp outcome
    have single := spelling.1
    rw [printed] at single
    have lowered : text.toList.map Char.toLower = text.toList := by
      rw [printed]
      exact toLower_misprint shown single
    obtain ⟨read, parts, enough, few, checked⟩ := spelling.parts lowered
    rw [printed] at parts
    rcases place_cases shown with
      ⟨rest, place, rfl⟩ | ⟨rfl, rfl, rfl⟩ | ⟨first, symbol, last, place, rfl, rfl, rfl⟩
    · exact not_read_of_prefix differs place parts checked
    · exact not_read_of_separator differs enough few parts
    · exact not_read_of_symbol differs place enough parts checked

/-- The faucet of one network, as the prefix of another one has it. -/
theorem parse_misprint_sample :
    let address := faucet ⟨0x21⟩
    let other := String.ofList ("component_tdx_".toList ++
      '3' :: ("1_".toList ++ separator :: address.symbols.map Symbol.char))
    Misprint address.text other ∧ ∃ fault, parse other = .error fault := by
  intro address other
  have front : address.hrp = "component_tdx_".toList ++ '2' :: "1_".toList := by decide
  have shown : address.text.toList = "component_tdx_".toList ++
      '2' :: ("1_".toList ++ separator :: address.symbols.map Symbol.char) := by
    rw [Address.text, String.toList_ofList, ← List.cons_append, ← List.append_assoc, ← front]
    rfl
  have misprint : Misprint address.text other :=
    ⟨_, '2', '3', _, shown, String.toList_ofList, by decide⟩
  exact ⟨misprint, parse_misprint address other misprint⟩

end Address

end LedgerWallet
