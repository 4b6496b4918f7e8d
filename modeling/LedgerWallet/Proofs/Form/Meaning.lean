import LedgerWallet.Form.Manifest
import LedgerWallet.Form.Rehearsal
import LedgerWallet.Proofs.Manifest.Amending
import LedgerWallet.Proofs.Manifest.Tasks
import LedgerWallet.Proofs.Wallet.History

/-! What forms can ask for: one of the tasks, one of the amendments, and a rehearsal whose wallet was
built by additions. What holds of all of these holds of whatever is asked for. -/
namespace LedgerWallet.Form

variable {α β : Type} {form : Form} {name : String}

theorem bind_eq_ok {first : Except FormError α} {next : α → Except FormError β} {result : β} :
    first >>= next = .ok result ↔ ∃ value, first = .ok value ∧ next value = .ok result := by
  cases first with
  | error e => exact ⟨nofun, nofun⟩
  | ok value => simp only [Except.ok.injEq, exists_eq_left', bind, Except.bind]

theorem map_eq_ok {f : α → β} {first : Except FormError α} {result : β} :
    f <$> first = .ok result ↔ ∃ value, first = .ok value ∧ f value = result := by
  rw [map_eq_pure_bind, bind_eq_ok]
  simp only [pure, Except.pure, Except.ok.injEq]

theorem seq_eq_ok {first : Except FormError (α → β)} {second : Except FormError α} {result : β} :
    first <*> second = .ok result ↔
      ∃ f value, first = .ok f ∧ second = .ok value ∧ f value = result := by
  rw [seq_eq_bind_map, bind_eq_ok]
  simp only [map_eq_ok, exists_and_left]

/-- The form of a template asks for one of the tasks. -/
theorem task_of_template? {made : Except Failure Manifest}
    (read : form.template? name = some (.ok made)) : ∃ task : Template.Task, made = task.manifest := by
  unfold template? at read
  split at read
  · obtain ⟨recipient, -, rfl⟩ := map_eq_ok.mp (Option.some.inj read)
    exact ⟨.faucet recipient, rfl⟩
  · obtain ⟨fungibles, -, read⟩ := bind_eq_ok.mp (Option.some.inj read)
    obtain ⟨nonFungibles, -, read⟩ := bind_eq_ok.mp read
    obtain ⟨sender, -, read⟩ := bind_eq_ok.mp read
    cases read
    exact ⟨.transfer sender fungibles nonFungibles, rfl⟩
  · obtain ⟨claims, -, read⟩ := bind_eq_ok.mp (Option.some.inj read)
    obtain ⟨account, -, read⟩ := bind_eq_ok.mp read
    cases read
    exact ⟨.claim account claims, rfl⟩
  · obtain ⟨settings, -, rfl⟩ := map_eq_ok.mp (Option.some.inj read)
    exact ⟨.depositSettings settings, rfl⟩
  · obtain ⟨entity, -, read⟩ := bind_eq_ok.mp (Option.some.inj read)
    obtain ⟨hashes, -, read⟩ := bind_eq_ok.mp read
    cases read
    exact ⟨.ownerKeys entity hashes, rfl⟩
  · nomatch read

/-- An insertion aside, the form of an amendment asks for one of the amendments. -/
theorem amendment_of_amendment? {manifest : Manifest} {made : Except ManifestError Manifest}
    (read : form.amendment? manifest name = some (.ok made)) :
    (∃ index instruction, made = manifest.insertAt index instruction) ∨
      ∃ amendment : Amendment, made = amendment.outcome manifest := by
  unfold amendment? at read
  split at read
  · obtain ⟨_, instruction, placed, -, rfl⟩ := seq_eq_ok.mp (Option.some.inj read)
    obtain ⟨index, -, rfl⟩ := map_eq_ok.mp placed
    exact .inl ⟨index, instruction, rfl⟩
  · obtain ⟨_, amount, named, -, rfl⟩ := seq_eq_ok.mp (Option.some.inj read)
    obtain ⟨_, resource, placed, -, rfl⟩ := seq_eq_ok.mp named
    obtain ⟨index, -, rfl⟩ := map_eq_ok.mp placed
    exact .inr ⟨.guarantee index resource amount, rfl⟩
  · obtain ⟨payer, -, read⟩ := bind_eq_ok.mp (Option.some.inj read)
    obtain ⟨amount, -, read⟩ := bind_eq_ok.mp read
    cases read
    exact .inr ⟨.lockFee payer amount, rfl⟩
  · nomatch read

/-- The wallet of a rehearsal comes about by additions, as every wallet does. -/
theorem wallet_of_rehearsal {r : Rehearsal} (read : form.rehearsal = .ok r) :
    ∃ network added, r.wallet = Wallet.build network (List.map Addition.signer added) := by
  obtain ⟨network, -, read⟩ := bind_eq_ok.mp read
  obtain ⟨keys, -, read⟩ := bind_eq_ok.mp read
  cases read
  refine ⟨network, keys.map (·.1.held), ?_⟩
  rw [Wallet.build, List.foldl_map, List.foldl_map]
  rfl

end LedgerWallet.Form
