import LedgerWallet.Proofs.Manifest.Tasks
import LedgerWallet.Proofs.Manifest.Worktop
import Mathlib.Data.List.Nodup

/-! How a transfer brings its legs to their recipients: each of them is put into a bucket of its own,
which is deposited at once, and the worktop is left as it was. -/
namespace LedgerWallet

namespace Template

/-- What one leg brings to its recipient. -/
structure Parcel where
  recipient : Address
  goods : Goods
  signatureRequired : Bool

def FungibleLeg.parcel (leg : FungibleLeg) : Parcel :=
  ⟨leg.recipient, .amount leg.resource leg.amount, leg.signatureRequired⟩

def NonFungibleLeg.parcel (leg : NonFungibleLeg) : Parcel :=
  ⟨leg.recipient, .tokens leg.id.resource [leg.id.localId], leg.signatureRequired⟩

/-- A parcel and the bucket that carries it. -/
structure Delivery where
  parcel : Parcel
  bucket : Bucket

namespace Delivery

def taking (delivery : Delivery) : Goods × Bucket := (delivery.parcel.goods, delivery.bucket)

def deposit (delivery : Delivery) : Address × Bool × Bucket :=
  (delivery.parcel.recipient, delivery.parcel.signatureRequired, delivery.bucket)

/-- What the recipient gets. -/
def receipt (delivery : Delivery) : Address × Holding :=
  (delivery.parcel.recipient, delivery.parcel.goods.holding)

/-- The bucket is filled and deposited at once. -/
def moves (delivery : Delivery) : List Move :=
  [.take delivery.parcel.goods delivery.bucket,
    .deposit delivery.parcel.recipient delivery.parcel.signatureRequired delivery.bucket]

end Delivery

/-- Parcels in the buckets from a number on. -/
def deliveries (first : Nat) (parcels : List Parcel) : List Delivery :=
  (parcels.zipIdx first).map fun (parcel, n) => ⟨parcel, .numbered n⟩

variable {first : Nat} {parcels : List Parcel}

theorem deliveries_cons (first : Nat) (parcel : Parcel) (rest : List Parcel) :
    deliveries first (parcel :: rest) = ⟨parcel, .numbered first⟩ :: deliveries (first + 1) rest := rfl

theorem length_deliveries (first : Nat) (parcels : List Parcel) :
    (deliveries first parcels).length = parcels.length := by
  rw [deliveries, List.length_map, List.length_zipIdx]

theorem deliveries_append (first : Nat) (early late : List Parcel) :
    deliveries first (early ++ late) =
      deliveries first early ++ deliveries (first + early.length) late := by
  rw [deliveries, List.zipIdx_append, List.map_append, ← deliveries, ← deliveries]

/-- No two parcels share a bucket, as long as the numbers do not start over. -/
theorem nodup_buckets (small : first + parcels.length ≤ UInt32.size) :
    ((deliveries first parcels).map (·.bucket)).Nodup := by
  have numbers : (deliveries first parcels).map (·.bucket) =
      (List.range' first parcels.length).map Bucket.numbered := by
    rw [deliveries, List.map_map, ← List.zipIdx_map_snd first parcels, List.map_map]
    rfl
  rw [numbers]
  refine List.Nodup.map_on (fun m inside n inside' same => ?_) List.nodup_range'
  rw [List.mem_range'_1] at inside inside'
  exact Bucket.numbered_inj (by omega) (by omega) same

/-- What some moves do: the worktop gains `net`, the goods in `withdrawn` come from accounts, and the
deliveries in `served` are made, each at once. -/
structure Carries (moves : List Move) (net : Holding) (withdrawn : List (Address × Goods))
    (served : List Delivery) : Prop where
  withdrawals : moves.filterMap Move.withdrawal? = withdrawn
  takings : moves.filterMap Move.taking? = served.map Delivery.taking
  deposits : moves.filterMap Move.deposit? = served.map Delivery.deposit
  together : ∀ delivery ∈ served, delivery.moves <:+: moves
  run : ∀ transit : Transit, transit.buckets = [] → transit.run moves =
    some (transit.grown net (withdrawn.map fun entry => (entry.1, entry.2.holding))
      (served.map Delivery.receipt))

namespace Carries

variable {moves later : List Move} {net net' : Holding} {withdrawn withdrawn' : List (Address × Goods)}
  {served served' : List Delivery}

theorem nil : Carries [] 0 [] [] := by
  refine ⟨rfl, rfl, rfl, fun _ member => absurd member List.not_mem_nil, fun transit _ => ?_⟩
  rw [Transit.grown, add_zero, List.map_nil, List.append_nil, List.map_nil, List.append_nil]
  rfl

theorem withdraw (account : Address) (goods : Goods) :
    Carries [.withdraw account goods] goods.holding [(account, goods)] [] := by
  refine ⟨rfl, rfl, rfl, fun _ member => absurd member List.not_mem_nil, fun transit _ => ?_⟩
  rw [Transit.grown, List.map_nil, List.append_nil]
  rfl

theorem serve (delivery : Delivery) :
    Carries delivery.moves (-delivery.parcel.goods.holding) [] [delivery] := by
  refine ⟨rfl, rfl, rfl, fun _ member => List.mem_singleton.mp member ▸ List.infix_rfl, ?_⟩
  intro transit none
  simp [Delivery.moves, Delivery.receipt, Transit.run, Transit.step, Transit.grown, none, sub_eq_add_neg]

theorem append (early : Carries moves net withdrawn served)
    (late : Carries later net' withdrawn' served') :
    Carries (moves ++ later) (net + net') (withdrawn ++ withdrawn') (served ++ served') where
  withdrawals := by rw [List.filterMap_append, early.withdrawals, late.withdrawals]
  takings := by rw [List.filterMap_append, early.takings, late.takings, List.map_append]
  deposits := by rw [List.filterMap_append, early.deposits, late.deposits, List.map_append]
  together delivery member := by
    rcases List.mem_append.mp member with inside | inside
    · exact (early.together delivery inside).trans (List.prefix_append moves later).isInfix
    · exact (late.together delivery inside).trans (List.suffix_append moves later).isInfix
  run transit none := by
    rw [Transit.run_append, early.run transit none, Option.bind_some,
      late.run (transit.grown _ _ _) none, Transit.grown_grown, List.map_append, List.map_append]

theorem serveAll (first : Nat) (parcels : List Parcel) :
    Carries ((deliveries first parcels).flatMap Delivery.moves)
      (-(parcels.map (·.goods.holding)).sum) [] (deliveries first parcels) := by
  induction parcels generalizing first with
  | nil => exact neg_zero (G := Holding) ▸ nil
  | cons parcel rest ih =>
    rw [deliveries_cons, List.flatMap_cons, List.map_cons, List.sum_cons, neg_add]
    exact (serve ⟨parcel, .numbered first⟩).append (ih (first + 1))

end Carries

/-- Parcels are taken as long as the worktop holds all that is still to come. -/
theorem coversAll_deliveries {transit : Transit} (none : transit.buckets = [])
    (owned : ∀ parcel ∈ parcels, 0 ≤ parcel.goods.holding)
    (enough : (parcels.map (·.goods.holding)).sum ≤ transit.worktop) :
    transit.CoversAll ((deliveries first parcels).flatMap Delivery.moves) := by
  induction parcels generalizing first transit with
  | nil => trivial
  | cons parcel rest ih =>
    rw [List.forall_mem_cons] at owned
    rw [List.map_cons, List.sum_cons] at enough
    have others : 0 ≤ (rest.map (·.goods.holding)).sum := by
      refine List.sum_nonneg fun holding member => ?_
      obtain ⟨other, inside, rfl⟩ := List.mem_map.mp member
      exact owned.2 other inside
    rw [deliveries_cons, List.flatMap_cons]
    refine Transit.CoversAll.append
      ⟨(le_add_of_nonneg_right others).trans enough, fun _ _ => ⟨trivial, fun _ _ => trivial⟩⟩ ?_
    intro middle ran
    cases ran.symm.trans ((Carries.serve ⟨parcel, .numbered first⟩).run transit none)
    exact ih none owned.2 (le_add_neg_iff_add_le.mpr (add_comm _ parcel.goods.holding ▸ enough))

/-- What is withdrawn at once, and the parcels that it is put into. -/
structure Batch where
  goods : Goods
  parcels : List Parcel

namespace Batch

def moves (sender : Address) (first : Nat) (batch : Batch) : List Move :=
  .withdraw sender batch.goods :: (deliveries first batch.parcels).flatMap Delivery.moves

/-- The moves of one batch after the other. -/
def movesAll (sender : Address) : (first : Nat) → List Batch → List Move
  | _, [] => []
  | first, batch :: rest =>
    batch.moves sender first ++ movesAll sender (first + batch.parcels.length) rest

theorem movesAll_append (sender : Address) (first : Nat) (early late : List Batch) :
    movesAll sender first (early ++ late) = movesAll sender first early ++
      movesAll sender (first + (early.flatMap Batch.parcels).length) late := by
  induction early generalizing first with
  | nil => rfl
  | cons batch rest ih =>
    rw [List.cons_append, movesAll, ih, movesAll, List.append_assoc, List.flatMap_cons,
      List.length_append, Nat.add_assoc]

/-- The parcels are the whole of what is withdrawn. -/
def Whole (batch : Batch) : Prop := batch.goods.holding = (batch.parcels.map (·.goods.holding)).sum

theorem Whole.carries {batch : Batch} (whole : batch.Whole) (sender : Address) (first : Nat) :
    Carries (batch.moves sender first) 0 [(sender, batch.goods)] (deliveries first batch.parcels) := by
  have both := (Carries.withdraw sender batch.goods).append (.serveAll first batch.parcels)
  rwa [whole, add_neg_cancel] at both

/-- One batch after the other leaves the worktop as it was. -/
theorem carries_movesAll (sender : Address) (first : Nat) {batches : List Batch}
    (whole : ∀ batch ∈ batches, batch.Whole) :
    Carries (movesAll sender first batches) 0 (batches.map fun batch => (sender, batch.goods))
      (deliveries first (batches.flatMap Batch.parcels)) := by
  induction batches generalizing first with
  | nil => exact .nil
  | cons batch rest ih =>
    rw [List.forall_mem_cons] at whole
    have both := (whole.1.carries sender first).append (ih (first + batch.parcels.length) whole.2)
    rwa [add_zero, ← deliveries_append] at both

/-- What a batch takes was withdrawn just before, so that nothing else has to lie on the worktop. -/
theorem coversAll_movesAll (sender : Address) {batches : List Batch}
    (whole : ∀ batch ∈ batches, batch.Whole)
    (owned : ∀ parcel ∈ batches.flatMap Batch.parcels, 0 ≤ parcel.goods.holding)
    {transit : Transit} (none : transit.buckets = []) (solvent : 0 ≤ transit.worktop) :
    transit.CoversAll (movesAll sender first batches) := by
  induction batches generalizing first transit with
  | nil => trivial
  | cons batch rest ih =>
    rw [List.forall_mem_cons] at whole
    rw [List.flatMap_cons, List.forall_mem_append] at owned
    refine Transit.CoversAll.append ⟨trivial, fun next stepped => ?_⟩ fun middle ran => ?_
    · cases stepped
      refine coversAll_deliveries none owned.1 ?_
      rw [← whole.1]
      exact le_add_of_nonneg_left solvent
    · cases ran.symm.trans ((whole.1.carries sender first).run transit none)
      exact ih whole.2 owned.2 none (le_add_of_nonneg_left solvent)

end Batch

section Transfers

variable {sender : Address}

theorem move?_depositFor (recipient : Address) (signatureRequired : Bool) (bucket : Bucket) :
    (depositFor recipient signatureRequired bucket).move? =
      some (.deposit recipient signatureRequired bucket) := by
  cases signatureRequired
  · exact Instruction.move?_tryDeposit recipient bucket
  · exact Instruction.move?_deposit recipient bucket

/-- A total, and what its legs bring. -/
def fungibleBatch (legs : List FungibleLeg) (entry : Address × Amount) : Batch :=
  ⟨.amount entry.1 entry.2, (legs.filter (·.resource = entry.1)).map FungibleLeg.parcel⟩

def nonFungibleBatch (leg : NonFungibleLeg) : Batch := ⟨leg.parcel.goods, [leg.parcel]⟩

theorem map_move?_fungibleLegs (first : Nat) (legs : List FungibleLeg) :
    (fungibleLegs first legs).map Instruction.move? =
      ((deliveries first (legs.map FungibleLeg.parcel)).flatMap Delivery.moves).map some := by
  induction legs generalizing first with
  | nil => rfl
  | cons leg rest ih =>
    rw [fungibleLegs_cons, List.map_append, ih, List.map_cons, List.map_cons, List.map_nil,
      move?_depositFor, List.map_cons, deliveries_cons, List.flatMap_cons, List.map_append]
    rfl

/-- Fungible legs go in batches of one resource each. -/
theorem map_move?_fungibleTransfers (first : Nat) (legs : List FungibleLeg) (totals : Totals) :
    (fungibleTransfers sender legs first totals).map Instruction.move? =
      (Batch.movesAll sender first (totals.map (fungibleBatch legs))).map some := by
  induction totals generalizing first with
  | nil => rfl
  | cons entry rest ih =>
    rw [fungibleTransfers, List.map_append, List.map_cons, Instruction.move?_withdraw,
      map_move?_fungibleLegs, ih, List.map_cons, Batch.movesAll, List.map_append, Batch.moves,
      List.map_cons, fungibleBatch, List.length_map]

/-- Each non-fungible leg is a batch of its own. -/
theorem map_move?_nonFungibleTransfers (first : Nat) (legs : List NonFungibleLeg) :
    (nonFungibleTransfers sender first legs).map Instruction.move? =
      (Batch.movesAll sender first (legs.map nonFungibleBatch)).map some := by
  induction legs generalizing first with
  | nil => rfl
  | cons leg rest ih =>
    rw [nonFungibleTransfers_cons, List.map_append, List.map_append, List.map_singleton,
      Instruction.move?_withdrawNonFungibles, List.map_cons, List.map_singleton, move?_depositFor, ih,
      List.map_cons, Batch.movesAll, List.map_append]
    rfl

/-- The legs of a resource bring what they come to. -/
theorem sum_holdings (resource : Address) (legs : List FungibleLeg) :
    (((legs.filter (·.resource = resource)).map FungibleLeg.parcel).map (·.goods.holding)).sum =
      Pi.single (.amount resource) (Amount.attosSum (owed resource legs)) := by
  rw [owed, List.map_map]
  induction legs with
  | nil => exact (Pi.single_zero _).symm
  | cons leg rest ih =>
    rw [List.filter_cons]
    split
    · next own =>
      cases decide_eq_true_eq.mp own
      rw [List.map_cons, List.map_cons, List.sum_cons, ih, Amount.attosSum_cons, Pi.single_add]
      rfl
    · exact ih

theorem whole_fungibleBatch {legs : List FungibleLeg} {totals : Totals} (sums : totals.Sums legs)
    {entry : Address × Amount} (member : entry ∈ totals) : (fungibleBatch legs entry).Whole := by
  rw [Batch.Whole, fungibleBatch, sum_holdings, ← sums.sums entry member]
  rfl

theorem whole_nonFungibleBatch (leg : NonFungibleLeg) : (nonFungibleBatch leg).Whole :=
  List.sum_singleton.symm

theorem parcels_fungibleBatches {legs : List FungibleLeg} {totals : Totals} (sums : totals.Sums legs) :
    (totals.map (fungibleBatch legs)).flatMap Batch.parcels =
      (byResource legs).map FungibleLeg.parcel := by
  rw [byResource, ← sums.resources, List.flatMap_map, List.flatMap_map, List.map_flatMap]
  rfl

theorem parcels_nonFungibleBatches (legs : List NonFungibleLeg) :
    (legs.map nonFungibleBatch).flatMap Batch.parcels = legs.map NonFungibleLeg.parcel := by
  rw [List.flatMap_map, List.map_eq_flatMap]
  rfl

/-- A token is taken and deposited right after it was withdrawn. -/
theorem together_nonFungibleBatches (first : Nat) (legs : List NonFungibleLeg) :
    ∀ delivery ∈ deliveries first (legs.map NonFungibleLeg.parcel),
      (.withdraw sender delivery.parcel.goods :: delivery.moves) <:+:
        Batch.movesAll sender first (legs.map nonFungibleBatch) := by
  induction legs generalizing first with
  | nil => exact fun _ member => absurd member List.not_mem_nil
  | cons leg rest ih =>
    rw [List.map_cons, deliveries_cons, List.forall_mem_cons]
    exact ⟨(List.prefix_append _ _).isInfix, fun delivery member =>
      (ih (first + 1) delivery member).trans (List.suffix_append _ _).isInfix⟩

/-- All legs in the order in which they are dealt with. -/
def served (fungibles : List FungibleLeg) (nonFungibles : List NonFungibleLeg) : List Delivery :=
  deliveries 0 ((byResource fungibles).map FungibleLeg.parcel ++ nonFungibles.map NonFungibleLeg.parcel)

/-- The non-fungible legs come last, and their buckets follow those of the fungible ones. -/
theorem drop_served (fungibles : List FungibleLeg) (nonFungibles : List NonFungibleLeg) :
    (served fungibles nonFungibles).drop fungibles.length =
      deliveries fungibles.length (nonFungibles.map NonFungibleLeg.parcel) := by
  have count := (byResource_perm fungibles).length_eq
  rw [served, deliveries_append, List.length_map, count, Nat.zero_add]
  exact List.drop_left' (by rw [length_deliveries, List.length_map, count])

/-- Moves that bring each leg from the sender to its recipient. -/
structure Delivers (sender : Address) (fungibles : List FungibleLeg) (nonFungibles : List NonFungibleLeg)
    (moves : List Move) : Prop where
  /-- Each resource is withdrawn once, as they are first seen, for what its legs come to. Then each token
  is withdrawn by itself. -/
  withdrawals : ∃ totals : Totals, totals.Sums fungibles ∧ moves.filterMap Move.withdrawal? =
    (totals.map fun entry => (sender, .amount entry.1 entry.2)) ++
      nonFungibles.map fun leg => (sender, leg.parcel.goods)
  takings : moves.filterMap Move.taking? = (served fungibles nonFungibles).map Delivery.taking
  deposits : moves.filterMap Move.deposit? = (served fungibles nonFungibles).map Delivery.deposit
  buckets : ((served fungibles nonFungibles).map (·.bucket)).Nodup
  together : ∀ delivery ∈ served fungibles nonFungibles, delivery.moves <:+: moves
  togetherTokens : ∀ delivery ∈ (served fungibles nonFungibles).drop fungibles.length,
    (.withdraw sender delivery.parcel.goods :: delivery.moves) <:+: moves

/-- The batches of a transfer, resource by resource and then token by token. -/
def batches (fungibles : List FungibleLeg) (nonFungibles : List NonFungibleLeg) (totals : Totals) :
    List Batch :=
  totals.map (fungibleBatch fungibles) ++ nonFungibles.map nonFungibleBatch

section Batches

variable {fungibles : List FungibleLeg} {totals : Totals} (sums : totals.Sums fungibles)
  (nonFungibles : List NonFungibleLeg)
include sums

theorem whole_batches : ∀ batch ∈ batches fungibles nonFungibles totals, batch.Whole := by
  rw [batches, List.forall_mem_append, List.forall_mem_map, List.forall_mem_map]
  exact ⟨fun _ member => whole_fungibleBatch sums member, fun leg _ => whole_nonFungibleBatch leg⟩

theorem parcels_batches : (batches fungibles nonFungibles totals).flatMap Batch.parcels =
    (byResource fungibles).map FungibleLeg.parcel ++ nonFungibles.map NonFungibleLeg.parcel := by
  rw [batches, List.flatMap_append, parcels_fungibleBatches sums, parcels_nonFungibleBatches]

/-- All legs of a resource are in its batch, so that the tokens' buckets follow the number of legs. -/
theorem movesAll_batches (sender : Address) :
    Batch.movesAll sender 0 (batches fungibles nonFungibles totals) =
      Batch.movesAll sender 0 (totals.map (fungibleBatch fungibles)) ++
        Batch.movesAll sender fungibles.length (nonFungibles.map nonFungibleBatch) := by
  rw [batches, Batch.movesAll_append, parcels_fungibleBatches sums, List.length_map,
    (byResource_perm fungibles).length_eq, Nat.zero_add]

theorem carries_batches (sender : Address) :
    Carries (Batch.movesAll sender 0 (batches fungibles nonFungibles totals)) 0
      ((totals.map fun entry => (sender, .amount entry.1 entry.2)) ++
        nonFungibles.map fun leg => (sender, leg.parcel.goods)) (served fungibles nonFungibles) := by
  have carries := Batch.carries_movesAll sender 0 (whole_batches sums nonFungibles)
  rw [parcels_batches sums, batches, List.map_append, List.map_map, List.map_map] at carries
  exact carries

theorem delivers_batches (sender : Address) (few : fungibles.length + nonFungibles.length < 2 ^ 32) :
    Delivers sender fungibles nonFungibles
      (Batch.movesAll sender 0 (batches fungibles nonFungibles totals)) := by
  have carries := carries_batches sums nonFungibles sender
  refine ⟨⟨totals, sums, carries.withdrawals⟩, carries.takings, carries.deposits, nodup_buckets ?_,
    carries.together, ?_⟩
  · rw [List.length_append, List.length_map, List.length_map, (byResource_perm fungibles).length_eq,
      Nat.zero_add]
    exact few.le
  · rw [movesAll_batches sums, drop_served]
    exact fun delivery member => (together_nonFungibleBatches _ _ delivery member).trans
      (List.suffix_append _ _).isInfix

theorem coversAll_batches (sender : Address) (owned : ∀ leg ∈ fungibles, 0 ≤ leg.amount.attos) :
    Transit.empty.CoversAll (Batch.movesAll sender 0 (batches fungibles nonFungibles totals)) := by
  refine Batch.coversAll_movesAll sender (whole_batches sums nonFungibles) ?_ rfl le_rfl
  rw [parcels_batches sums, List.forall_mem_append, List.forall_mem_map, List.forall_mem_map]
  refine ⟨fun leg member => ?_, fun leg _ => Goods.holding_tokens_nonneg _ _⟩
  exact Goods.holding_amount_nonneg _ (owned leg ((byResource_perm fungibles).mem_iff.mp member))

end Batches

/-- A transfer loses and repeats nothing. Each leg is served once, those of one resource in their order, out
of what was withdrawn from the sender. In the end the worktop and all buckets are empty, and each
recipient has what its legs are about. As long as no leg is about less than nothing, whatever is taken
was there. -/
theorem transfer_delivers {sender : Address} {fungibles : List FungibleLeg}
    {nonFungibles : List NonFungibleLeg} (few : fungibles.length + nonFungibles.length < 2 ^ 32)
    {manifest : Manifest} (made : transfer sender fungibles nonFungibles = .ok manifest) :
    (byResource fungibles).Perm fungibles ∧
    (∀ resource, (byResource fungibles).filter (·.resource = resource) =
      fungibles.filter (·.resource = resource)) ∧
    ∃ list moves, manifest.instructions? = some list ∧ list.map Instruction.move? = moves.map some ∧
      Delivers sender fungibles nonFungibles moves ∧
      ∃ done, Transit.empty.run moves = some done ∧ done.worktop = 0 ∧ done.buckets = [] ∧
        done.deposited = (served fungibles nonFungibles).map Delivery.receipt ∧
        (done.withdrawn.map (·.2)).sum = (done.deposited.map (·.2)).sum ∧
        ((∀ leg ∈ fungibles, 0 ≤ leg.amount.attos) → Transit.empty.CoversAll moves) := by
  refine ⟨byResource_perm fungibles, filter_byResource fungibles, ?_⟩
  obtain ⟨list, told, -, rfl⟩ := convert_eq_ok.mp made
  rcases Totals.of_cases fungibles with ⟨-, totals, summed, sums⟩ | ⟨-, untold⟩
  · rw [transferInstructions, summed] at told
    cases told
    have same : (fungibleTransfers sender fungibles 0 totals ++
        nonFungibleTransfers sender fungibles.length nonFungibles).map Instruction.move? =
          (Batch.movesAll sender 0 (batches fungibles nonFungibles totals)).map some := by
      rw [List.map_append, map_move?_fungibleTransfers, map_move?_nonFungibleTransfers,
        movesAll_batches sums, List.map_append]
    have ran := (carries_batches sums nonFungibles sender).run .empty rfl
    have clear : (0 : Holding) + 0 = 0 := add_zero 0
    exact ⟨_, _, rfl, same, delivers_batches sums nonFungibles sender few, _, ran, clear, rfl, rfl,
      (Transit.balanced_empty.run ran).settled clear rfl, coversAll_batches sums nonFungibles sender⟩
  · rw [transferInstructions, untold] at told
    contradiction

/-- Two coins and a token to two recipients. The first coin goes out in two parts, with the second one
asked for between them. -/
theorem transfer_delivers_sample :
    let account (n : UInt8) : Address := ⟨.account, .stokenet, Address.wellKnownBody n⟩
    let coin (n : UInt8) : Address := ⟨.resource, .stokenet, Address.wellKnownBody n⟩
    let fungibles : List FungibleLeg := [⟨account 2, coin 1, .ofUnits 5, false⟩,
      ⟨account 3, coin 2, .ofUnits 3, true⟩, ⟨account 3, coin 1, .ofUnits 2, false⟩]
    let nonFungibles : List NonFungibleLeg := [⟨account 2, ⟨coin 3, .integer 1⟩, true⟩]
    ∃ manifest list moves, transfer (account 1) fungibles nonFungibles = .ok manifest ∧
      manifest.instructions? = some list ∧ list.map Instruction.move? = moves.map some ∧
      moves.filterMap Move.taking? = [(.amount (coin 1) (.ofUnits 5), .numbered 0),
        (.amount (coin 1) (.ofUnits 2), .numbered 1), (.amount (coin 2) (.ofUnits 3), .numbered 2),
        (.tokens (coin 3) [.integer 1], .numbered 3)] ∧
      ∃ done, Transit.empty.run moves = some done ∧ done.worktop = 0 ∧ done.buckets = [] ∧
        Transit.empty.CoversAll moves := by
  intro account coin fungibles nonFungibles
  have fits : LegsFit fungibles := Totals.legsFit_of_isSome (by decide)
  obtain ⟨manifest, made⟩ := (Task.transfer (account 1) fungibles nonFungibles).exists_manifest
    ⟨by decide, by decide⟩ fits (by decide)
  obtain ⟨-, -, list, moves, instructions, same, delivers, done, ran, clear, none, -, -, covers⟩ :=
    transfer_delivers (by decide) made
  have owned : ∀ leg ∈ fungibles, 0 ≤ leg.amount.attos := by decide
  exact ⟨manifest, list, moves, made, instructions, same, delivers.takings, done, ran, clear, none,
    covers owned⟩

end Transfers

end Template

end LedgerWallet
