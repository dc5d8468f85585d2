import AgentPey.AnchorWorker

/-!
What a store says of its holds and its anchors (`anchoring.ts`). Whoever else calls the escrows and the registry, and
whatever becomes of the store's own calls: an order that is stored as held or as anchored is so, with its own reference,
amount and payment, as long as the records of the registry that the worker takes for its own are its own. The registry's
client does not compare them with what it asked for, as the escrow's client does, and there the worker stores an order as
anchored that is not.
-/
namespace AgentPey.AnchorWorker
open Soroban AgentPey.Store Routines Disciplines Turns
open PurchaseEscrow (Host World Purchase)
open ReceiptRegistry (ReceiptRecord)
open Option (map_eq_some_iff map_some)
open Function (update update_of_ne update_self)
open PurchaseEscrow (Deployed sampleAddress sampleEnv sampleHash sampleHost sampleWorld)

variable {host : Host} (retryDelaysMs : List Nat)

/-! ### What is true of an order -/

def OrderRecord.isHeld (order : OrderRecord) : Prop := ∃ hold, order.hold = some hold ∧ hold.status = .held

def OrderRecord.isAnchored (order : OrderRecord) : Prop := ∃ anchor, order.anchor = some anchor ∧ anchor.status = .anchored

/-- A hold that is still tried, or tried again. -/
def OrderRecord.holdPending (order : OrderRecord) : Prop := ∃ hold, order.hold = some hold ∧ hold.status = .pending

/-- The order's escrow holds a purchase that is exactly this order's. -/
def Order.InEscrow (order : Order) (s : Store host) : Prop :=
  ∃ escrow p, order.record.paidInto = some escrow ∧ PurchaseEscrow.get (s.escrows escrow) order.id = some p ∧
    sameHold p order.holdInput = true

/-- Whether a record of the registry is exactly the anchor that was asked for, under the store's signing account. -/
def isOwn (signer : Address) (input : AnchorInput) (record : ReceiptRecord) : Bool :=
  record.merchant = signer && record.amount = input.amount && record.order_ref = input.orderRef

variable (signer : Address)

/-- The registry's record of the order's receipt is the store's own. -/
def Order.InRegistry (order : Order) (s : Store host) : Prop :=
  ∃ record, ReceiptRegistry.get s.registry order.receiptHash = some record ∧
    isOwn signer order.anchorInput record = true

/-- What an order is stored as is true; it was not anchored before a hold that is tried again, and a hold is given up after
    the last retry only. -/
structure Sound (s : Store host) (orderId : Bytes) (order : OrderRecord) : Prop where
  held : order.isHeld → ∃ receiptHash, order.receipt = some receiptHash ∧ Order.InEscrow ⟨orderId, order, receiptHash⟩ s
  anchored : order.isAnchored → ∃ receiptHash, order.receipt = some receiptHash ∧
    Order.InRegistry signer ⟨orderId, order, receiptHash⟩ s
  waited : order.isAnchored → ¬order.holdPending
  spent : ∀ hold, order.hold = some hold → hold.status = .failed → retryDelaysMs.length < hold.attempts

/-- An order does not go back. -/
structure Onward (order later : OrderRecord) : Prop where
  held : order.isHeld → later.isHeld
  anchored : order.isAnchored → later.isAnchored

/-- What the contracts have, they keep. -/
structure Grown (s s' : Store host) : Prop where
  purchases : ∀ {escrow orderRef p}, PurchaseEscrow.get (s.escrows escrow) orderRef = some p →
    ∃ p', PurchaseEscrow.get (s'.escrows escrow) orderRef = some p' ∧ EscrowRecords.SameTerms p p'
  receipts : ∀ {hash record}, ReceiptRegistry.get s.registry hash = some record →
    ReceiptRegistry.get s'.registry hash = some record

section
variable {signer retryDelaysMs} {s s' : Store host} {order : Order} {orderId : Bytes} {record later : OrderRecord}
  {hold : OrderHold} {current : OrderAnchor} {receiptHash : BytesN 32}

theorem Onward.refl (order : OrderRecord) : Onward order order := ⟨id, id⟩

theorem Onward.trans {first second third : OrderRecord} (one : Onward first second) (two : Onward second third) :
    Onward first third := ⟨two.held ∘ one.held, two.anchored ∘ one.anchored⟩

theorem Grown.same (escrows : s'.escrows = s.escrows) (registry : s'.registry = s.registry) : Grown s s' where
  purchases found := ⟨_, escrows ▸ found, .refl _⟩
  receipts found := registry ▸ found

theorem sameHold_terms {p p' : Purchase} (terms : EscrowRecords.SameTerms p p') (input : HoldInput) :
    sameHold p' input = sameHold p input := by
  simp only [sameHold, terms.order_ref, terms.payer, terms.amount, terms.tx_hash, terms.receipt_hash]

theorem Order.InEscrow.grown (held : order.InEscrow s) (grown : Grown s s') : order.InEscrow s' := by
  obtain ⟨escrow, p, mine, found, same⟩ := held
  obtain ⟨p', found', terms⟩ := grown.purchases found
  exact ⟨escrow, p', mine, found', (sameHold_terms terms _).trans same⟩

theorem Order.InRegistry.grown (recorded : order.InRegistry signer s) (grown : Grown s s') : order.InRegistry signer s' := by
  obtain ⟨record, found, own⟩ := recorded
  exact ⟨record, grown.receipts found, own⟩

theorem Sound.grown (sound : Sound retryDelaysMs signer s orderId record) (grown : Grown s s') :
    Sound retryDelaysMs signer s' orderId record where
  held isHeld := by
    obtain ⟨receiptHash, receipt, held⟩ := sound.held isHeld
    exact ⟨receiptHash, receipt, held.grown grown⟩
  anchored isAnchored := by
    obtain ⟨receiptHash, receipt, recorded⟩ := sound.anchored isAnchored
    exact ⟨receiptHash, receipt, recorded.grown grown⟩
  waited := sound.waited
  spent := sound.spent

/-! ### The changes of an order -/

theorem heldAs_sound (sound : Sound retryDelaysMs signer s orderId record) (receipt : record.receipt = some receiptHash)
    (held : Order.InEscrow ⟨orderId, record, receiptHash⟩ s) (due : record.hold = some hold) (attempt : Nat) (now : Int)
    (result : HoldResult) : Sound retryDelaysMs signer s orderId (heldAs attempt now result record) := by
  obtain ⟨escrow, p, mine, found, same⟩ := held
  refine ⟨fun _ => ⟨receiptHash, receipt, escrow, p, ?_, found, same⟩, sound.anchored, fun _ pending => ?_,
    fun hold' now' failed => ?_⟩
  · simpa [OrderRecord.paidInto, heldAs, due] using mine
  · obtain ⟨hold', now', pending⟩ := pending
    simp only [heldAs, due, map_some, Option.some.injEq] at now'
    rw [← now'] at pending
    cases pending
  · simp only [heldAs, due, map_some, Option.some.injEq] at now'
    rw [← now'] at failed
    cases failed

theorem heldAs_onward (due : record.hold = some hold) (attempt : Nat) (now : Int) (result : HoldResult) :
    Onward record (heldAs attempt now result record) where
  held _ := ⟨_, by simp only [heldAs, due, map_some]; rfl, rfl⟩
  anchored isAnchored := isAnchored

theorem holdFailed_sound (sound : Sound retryDelaysMs signer s orderId record) (due : record.hold = some hold)
    (unheld : hold.status ≠ .held) (error : Failure) :
    Sound retryDelaysMs signer s orderId (holdFailed (hold.attempts + 1) retryDelaysMs[hold.attempts]? error record) := by
  refine ⟨fun isHeld => ?_, sound.anchored, fun isAnchored pending => ?_, fun hold' now failed => ?_⟩
  · obtain ⟨hold', now, held⟩ := isHeld
    simp only [holdFailed, due, map_some, Option.some.injEq] at now
    rw [← now] at held
    dsimp only at held
    split_ifs at held
  · -- An anchored order's hold was given up: there is no retry left for it.
    have failed : hold.status = .failed := by
      have waited := sound.waited isAnchored
      cases status : hold.status with
      | pending => exact (waited ⟨hold, due, status⟩).elim
      | held => exact (unheld status).elim
      | failed => rfl
    have none_left : retryDelaysMs[hold.attempts]? = none :=
      List.getElem?_eq_none (Nat.le_of_lt (sound.spent hold due failed))
    obtain ⟨hold', now, pending⟩ := pending
    simp only [holdFailed, due, none_left, map_some, Option.some.injEq] at now
    rw [← now] at pending
    cases pending
  · simp only [holdFailed, due, map_some, Option.some.injEq] at now
    rw [← now] at failed ⊢
    dsimp only at failed ⊢
    split_ifs at failed with gaveUp
    have past : retryDelaysMs.length ≤ hold.attempts := by simpa using gaveUp
    omega

theorem holdFailed_onward (due : record.hold = some hold) (unheld : hold.status ≠ .held) (attempt : Nat) (delay : Option Nat)
    (error : Failure) : Onward record (holdFailed attempt delay error record) where
  held isHeld := by
    obtain ⟨hold', now, held⟩ := isHeld
    rw [due] at now
    cases now
    exact (unheld held).elim
  anchored isAnchored := isAnchored

theorem anchoredAs_sound (sound : Sound retryDelaysMs signer s orderId record) (receipt : record.receipt = some receiptHash)
    (recorded : Order.InRegistry signer ⟨orderId, record, receiptHash⟩ s) (settled : ¬record.holdPending) (attempt : Nat)
    (now : Int) (result : AnchorResult) : Sound retryDelaysMs signer s orderId (anchoredAs attempt now result record) where
  held := sound.held
  anchored _ := ⟨receiptHash, receipt, recorded⟩
  waited _ := settled
  spent := sound.spent

theorem anchoredAs_onward (due : record.anchor = some current) (attempt : Nat) (now : Int) (result : AnchorResult) :
    Onward record (anchoredAs attempt now result record) where
  held isHeld := isHeld
  anchored _ := ⟨_, by simp only [anchoredAs, due, map_some]; rfl, rfl⟩

theorem anchorFailed_unanchored (due : record.anchor = some current) (attempt : Nat) (delay : Option Nat) (error : Failure) :
    ¬(anchorFailed attempt delay error record).isAnchored := by
  rintro ⟨anchor, now, anchored⟩
  simp only [anchorFailed, due, map_some, Option.some.injEq] at now
  rw [← now] at anchored
  dsimp only at anchored
  split_ifs at anchored

theorem anchorFailed_sound (sound : Sound retryDelaysMs signer s orderId record) (due : record.anchor = some current)
    (attempt : Nat) (delay : Option Nat) (error : Failure) :
    Sound retryDelaysMs signer s orderId (anchorFailed attempt delay error record) where
  held := sound.held
  anchored isAnchored := (anchorFailed_unanchored due attempt delay error isAnchored).elim
  waited isAnchored := (anchorFailed_unanchored due attempt delay error isAnchored).elim
  spent := sound.spent

theorem anchorFailed_onward (due : record.anchor = some current) (unanchored : current.status ≠ .anchored) (attempt : Nat)
    (delay : Option Nat) (error : Failure) : Onward record (anchorFailed attempt delay error record) where
  held isHeld := isHeld
  anchored isAnchored := by
    obtain ⟨anchor, now, anchored⟩ := isAnchored
    rw [due] at now
    cases now
    exact (unanchored anchored).elim

end

/-! ### What every run keeps -/

/-- The order that a job holds is stored as the job has it, and its hold is due. -/
structure Order.HoldDue (order : Order) (s : Store host) : Prop where
  stored : s.orders order.id = some order.record
  receipt : order.record.receipt = some order.receiptHash
  due : ∃ hold, order.record.hold = some hold ∧ hold.status ≠ .held

/-- Or its anchor is, with a hold that is not tried again. -/
structure Order.AnchorDue (order : Order) (s : Store host) : Prop where
  stored : s.orders order.id = some order.record
  receipt : order.record.receipt = some order.receiptHash
  due : ∃ anchor, order.record.anchor = some anchor ∧ anchor.status ≠ .anchored
  settled : ¬order.record.holdPending

def Known.Holds (s : Store host) : Known → Prop
  | .fresh => True
  | .ready orderId => ∃ record, s.orders orderId = some record ∧ ¬record.holdPending
  | .holding order => order.HoldDue s
  | .found order p => order.HoldDue s ∧ (sameHold p order.holdInput = true → order.InEscrow s)
  | .held order => order.HoldDue s ∧ order.InEscrow s
  | .anchoring order => order.AnchorDue s
  | .recorded order => order.AnchorDue s ∧ order.InRegistry signer s
  | .passed => True

def Mode.Holds (s : Store host) : Mode → Prop
  | .turn _ known => known.Holds signer s
  | _ => True

abbrev Modes := List (Call × Option Mode)

structure Kept (s : Store host) (ms : Modes) : Prop where
  escrows : ∀ escrow, ∃ id config t, EscrowHistory.Recorded id config (s.escrows escrow) t
  turns : InTurn Mode.place s.chain ms
  holds : ∀ {i : Nat} {c m}, ms[i]? = some (c, some m) → m.Holds signer s
  latest : ∀ {orderId record}, s.orders orderId = some record → (orderId, record) ∈ s.versions
  sound : ∀ {orderId record}, (orderId, record) ∈ s.versions → Sound retryDelaysMs signer s orderId record
  onward : ∀ {orderId record}, (orderId, record) ∈ s.versions → ∃ later, s.orders orderId = some later ∧ Onward record later

section
variable {signer retryDelaysMs} {s s' : Store host} {ms : Modes} {i : Nat} {c : Call} {m m' : Mode} {n : Nat}
  {known known' : Known} {order : Order} {orderId : Bytes} {record : OrderRecord} {change : OrderRecord → OrderRecord}

theorem Mode.Holds.grown (holds : m.Holds signer s) (grown : Grown s s')
    (stored : ∀ {orderId record}, s.orders orderId = some record → s'.orders orderId = some record) : m.Holds signer s' := by
  cases m with
  | out | drawn | waits => trivial
  | turn n known =>
    cases known with
    | fresh | passed => trivial
    | ready orderId =>
      obtain ⟨record, found, settled⟩ := holds
      exact ⟨record, stored found, settled⟩
    | holding order => exact { holds with stored := stored holds.stored }
    | found order p =>
      exact ⟨{ holds.1 with stored := stored holds.1.stored }, fun same => (holds.2 same).grown grown⟩
    | held order => exact ⟨{ holds.1 with stored := stored holds.1.stored }, holds.2.grown grown⟩
    | anchoring order => exact { holds with stored := stored holds.stored }
    | recorded order => exact ⟨{ holds.1 with stored := stored holds.1.stored }, holds.2.grown grown⟩

theorem holds_idle (idle : ∀ n, m.place ≠ .has n) (s : Store host) : m.Holds signer s := by
  cases m with
  | out | drawn | waits => trivial
  | turn n known => exact (idle n rfl).elim

section
variable (kept : Kept retryDelaysMs signer s ms)
include kept

theorem Kept.others (mode : ms[i]? = some (c, some m)) (has : m.place = .has n) {j : Nat} {d : Call} (other : j ≠ i)
    (found : ms[j]? = some (d, some m')) (s' : Store host) : m'.Holds signer s' :=
  holds_idle (fun _ has' => other (kept.turns.one found mode has' has)) s'

theorem Kept.mode (mode : ms[i]? = some (c, some m)) (place : m'.place = m.place)
    (holds : m'.Holds signer s) : Kept retryDelaysMs signer s (ms.set i (c, some m')) where
  escrows := kept.escrows
  turns := kept.turns.stays mode place
  holds found := all_set holds (fun _ _ _ _ old => kept.holds old) found
  latest := kept.latest
  sound := kept.sound
  onward := kept.onward

theorem Kept.aside (grown : Grown s s')
    (escrows : ∀ escrow, ∃ id config t, EscrowHistory.Recorded id config (s'.escrows escrow) t) (orders : s'.orders = s.orders)
    (versions : s'.versions = s.versions) (chain : s'.chain = s.chain) : Kept retryDelaysMs signer s' ms where
  escrows := escrows
  turns := chain ▸ kept.turns
  holds found := (kept.holds found).grown grown fun stored => orders ▸ stored
  latest stored := versions ▸ kept.latest (orders ▸ stored)
  sound among := (kept.sound (versions ▸ among)).grown grown
  onward among := orders ▸ kept.onward (versions ▸ among)

theorem Kept.elsewhere (escrows : s'.escrows = s.escrows) (registry : s'.registry = s.registry) (orders : s'.orders = s.orders)
    (versions : s'.versions = s.versions) (chain : s'.chain = s.chain) : Kept retryDelaysMs signer s' ms :=
  kept.aside (.same escrows registry) (escrows ▸ kept.escrows) orders versions chain

theorem Kept.stores {next : OrderRecord} (sound : Sound retryDelaysMs signer s orderId next)
    (onward : ∀ now, s.orders orderId = some now → Onward now next) {ms' : Modes} (turns : InTurn Mode.place s.chain ms')
    (holds : ∀ {j : Nat} {d m'}, ms'[j]? = some (d, some m') →
      m'.Holds signer { s with
        orders := update s.orders orderId (some next)
        versions := s.versions ++ [(orderId, next)] }) : Kept retryDelaysMs signer { s with
      orders := update s.orders orderId (some next)
      versions := s.versions ++ [(orderId, next)] } ms' where
  escrows := kept.escrows
  turns := turns
  holds := holds
  latest {id record} stored := by
    dsimp only at stored ⊢
    by_cases same : id = orderId
    · subst same
      rw [update_self] at stored
      cases stored
      exact List.mem_append_right _ (List.mem_singleton_self _)
    · rw [update_of_ne same] at stored
      exact List.mem_append_left _ (kept.latest stored)
  sound {id record} among := by
    rcases List.mem_append.mp among with old | new
    · exact (kept.sound old).grown (.same rfl rfl)
    · cases List.mem_singleton.mp new
      exact sound.grown (.same rfl rfl)
  onward {id record} among := by
    dsimp only
    rcases List.mem_append.mp among with old | new
    · obtain ⟨now, stored, later⟩ := kept.onward old
      by_cases same : id = orderId
      · subst same
        exact ⟨next, update_self .., later.trans (onward now stored)⟩
      · exact ⟨now, by rw [update_of_ne same, stored], later⟩
    · cases List.mem_singleton.mp new
      exact ⟨next, update_self .., .refl next⟩

end

theorem update_stored (stored : s.orders orderId = some record) : s.update orderId change = { s with
      orders := update s.orders orderId (some (change record))
      versions := s.versions ++ [(orderId, change record)] } := by
  unfold Store.update
  rw [stored]

theorem Kept.changes (kept : Kept retryDelaysMs signer s ms) (mode : ms[i]? = some (c, some (.turn n known)))
    (stored : s.orders orderId = some record) (sound : Sound retryDelaysMs signer s orderId (change record))
    (onward : Onward record (change record))
    (holds : ∀ s', s'.orders orderId = some (change record) → known'.Holds signer (s' : Store host)) :
    Kept retryDelaysMs signer (s.update orderId change) (ms.set i (c, some (.turn n known'))) := by
  rw [update_stored stored]
  refine kept.stores sound (fun now same => ?_) (kept.turns.stays mode rfl) fun {j d m'} found => ?_
  · rw [stored] at same
    cases same
    exact onward
  · exact all_set (holds _ (update_self ..)) (fun _ _ _ other old => kept.others mode rfl other old _) found

theorem Known.Holds.toHold (holds : known.Holds signer s) (mine : known.toHold order) : order.HoldDue s := by
  rcases mine with rfl | ⟨p, rfl⟩ | rfl
  · exact holds
  · exact holds.1
  · exact holds.1

theorem Known.Holds.isHeld (holds : known.Holds signer s) (mine : known.isHeld order) : order.InEscrow s := by
  rcases mine with rfl | ⟨p, rfl, same⟩
  · exact holds.2
  · exact holds.2 same

theorem Known.Holds.toAnchor (holds : known.Holds signer s) (mine : known.toAnchor order) : order.AnchorDue s := by
  rcases mine with rfl | rfl
  · exact holds
  · exact holds.1

variable {hold : OrderHold} {call : PurchaseEscrow.Call} {request : AnchorInput} {m₀ : Mode} {o : Op}

theorem Order.HoldDue.unheld (holdDue : order.HoldDue s) (due : order.record.hold = some hold) : hold.status ≠ .held := by
  obtain ⟨hold', now, unheld⟩ := holdDue.due
  rw [due] at now
  cases now
  exact unheld

theorem Order.AnchorDue.unanchored (anchorDue : order.AnchorDue s) {anchor : OrderAnchor}
    (due : order.record.anchor = some anchor) : anchor.status ≠ .anchored := by
  obtain ⟨anchor', now, unanchored⟩ := anchorDue.due
  rw [due] at now
  cases now
  exact unanchored

theorem heldAs_settled (due : record.hold = some hold) (attempt : Nat) (now : Int) (result : HoldResult) :
    ¬(heldAs attempt now result record).holdPending := by
  rintro ⟨hold', held, pending⟩
  simp only [heldAs, due, map_some, Option.some.injEq] at held
  rw [← held] at pending
  cases pending

theorem holdFailed_settled (due : record.hold = some hold) (attempt : Nat) (error : Failure) :
    ¬(holdFailed attempt none error record).holdPending := by
  rintro ⟨hold', failed, pending⟩
  simp only [holdFailed, due, map_some, Option.some.injEq] at failed
  rw [← failed] at pending
  cases pending

theorem Kept.goes (kept : Kept retryDelaysMs signer s ms) (mode : ms[i]? = some (c, some m))
    (goes : Goes retryDelaysMs m s s' m') : Kept retryDelaysMs signer s' (ms.set i (c, some m')) := by
  have holds := kept.holds mode
  cases goes with
  | rests | same => exact kept.mode mode rfl holds
  | pops | times => exact (kept.mode mode rfl holds).elsewhere rfl rfl rfl rfl rfl
  | draws =>
    refine ⟨kept.escrows, kept.turns.draws rfl, fun found => ?_, kept.latest, fun among => ?_, kept.onward⟩
    · have later : ∀ j d m', j ≠ i → ms[j]? = some (d, some m') → m'.Holds signer { s with chain := s.chain.draw } :=
        fun _ _ _ _ old => (kept.holds old).grown (.same rfl rfl) id
      exact all_set trivial later found
    · exact (kept.sound among).grown (.same rfl rfl)
  | leaves =>
    refine ⟨kept.escrows, kept.turns.leaves mode rfl rfl, fun found => ?_, kept.latest, fun among => ?_, kept.onward⟩
    · have later : ∀ j d m', j ≠ i → ms[j]? = some (d, some m') → m'.Holds signer { s with chain := s.chain.next } :=
        fun _ _ _ _ old => (kept.holds old).grown (.same rfl rfl) id
      exact all_set trivial later found
    · exact (kept.sound among).grown (.same rfl rfl)
  | passes found settled =>
    refine kept.mode mode rfl ⟨_, found, ?_⟩
    rintro ⟨hold, now, pending⟩
    rw [settled hold now] at pending
    cases pending
  | holds found receipt due unheld => exact kept.mode mode rfl ⟨found, receipt, _, due, unheld⟩
  | held mine due =>
    have holdDue := Known.Holds.toHold holds mine.toHold
    refine kept.changes mode holdDue.stored ?_ (heldAs_onward due _ _ _) fun s' stored => ?_
    · exact heldAs_sound (kept.sound (kept.latest holdDue.stored)) holdDue.receipt (Known.Holds.isHeld holds mine) due _ _ _
    · exact ⟨_, stored, heldAs_settled due _ _ _⟩
  | @unheld n _ known order hold error mine due =>
    have holdDue := Known.Holds.toHold holds mine
    have unheld := holdDue.unheld due
    refine kept.changes mode holdDue.stored ?_ (holdFailed_onward due unheld _ _ error) fun s' stored => ?_
    · exact holdFailed_sound (kept.sound (kept.latest holdDue.stored)) due unheld error
    · cases delay : retryDelaysMs[hold.attempts]? with
      | some delay => trivial
      | none =>
        rw [delay] at stored
        exact ⟨_, stored, holdFailed_settled due _ error⟩
  | anchors found receipt due unanchored =>
    obtain ⟨record, found', settled⟩ := holds
    rw [found] at found'
    cases found'
    exact kept.mode mode rfl ⟨found, receipt, ⟨_, due, unanchored⟩, settled⟩
  | anchored due =>
    obtain ⟨anchorDue, recorded⟩ := holds
    refine kept.changes mode anchorDue.stored ?_ (anchoredAs_onward due _ _ _) fun _ _ => trivial
    exact anchoredAs_sound (kept.sound (kept.latest anchorDue.stored)) anchorDue.receipt recorded anchorDue.settled _ _ _
  | unanchored mine due =>
    have anchorDue := Known.Holds.toAnchor holds mine
    have onward := anchorFailed_onward due (anchorDue.unanchored due)
    refine kept.changes mode anchorDue.stored ?_ (onward _ _ _) fun _ _ => trivial
    exact anchorFailed_sound (kept.sound (kept.latest anchorDue.stored)) due _ _ _

/-! ### The contracts -/

@[simp] theorem setEscrow_self (s : Store host) (escrow : Address) (world : World host) :
    (s.setEscrow escrow world).escrows escrow = world := update_self ..

@[simp] theorem setEscrow_other (s : Store host) {escrow other : Address} (apart : other ≠ escrow) (world : World host) :
    (s.setEscrow escrow world).escrows other = s.escrows other := update_of_ne apart ..

theorem Kept.chain (kept : Kept retryDelaysMs signer s ms) (escrow : Address) (action : PurchaseEscrow.Action host) :
    Kept retryDelaysMs signer (s.setEscrow escrow (PurchaseEscrow.step (s.escrows escrow) action).1) ms := by
  refine kept.aside ⟨fun {other orderRef p} found => ?_, id⟩ (fun other => ?_) rfl rfl rfl
  · by_cases same : other = escrow
    · subst same
      obtain ⟨_, _, _, recorded⟩ := kept.escrows other
      obtain ⟨p', kept', terms, _⟩ := EscrowRecords.step_terms recorded found action
      exact ⟨p', by rw [setEscrow_self, kept'], terms⟩
    · exact ⟨p, by rw [setEscrow_other s same, found], .refl p⟩
  · by_cases same : other = escrow
    · subst same
      obtain ⟨_, _, _, recorded⟩ := kept.escrows other
      rw [setEscrow_self]
      exact ⟨_, _, _, EscrowHistory.recorded_step recorded action⟩
    · rw [setEscrow_other s same]
      exact kept.escrows other

variable {escrow : Address} {input : Input}

theorem afterCall_some (after : afterCall escrow call input s = some s') : ∃ world,
      PurchaseEscrow.invoke input.env call (s.escrows escrow) = .ok world ∧ s' = s.setEscrow escrow world := by
  unfold afterCall at after
  cases ran : PurchaseEscrow.invoke input.env call (s.escrows escrow) with
  | ok world =>
    rw [ran] at after
    cases after
    exact ⟨world, rfl, rfl⟩
  | error refused =>
    rw [ran] at after
    cases after

theorem Kept.called (kept : Kept retryDelaysMs signer s ms)
    (after : afterCall escrow call input s = some s') : Kept retryDelaysMs signer s' ms := by
  obtain ⟨world, ran, rfl⟩ := afterCall_some after
  have one : (PurchaseEscrow.step (s.escrows escrow) (.call input.env call)).1 = world := by rw [PurchaseEscrow.step, ran]
  rw [← one]
  exact kept.chain escrow (.call input.env call)

theorem Kept.registered (kept : Kept retryDelaysMs signer s ms) {env : ReceiptRegistry.Env} {hash : BytesN 32}
    {merchant : Address} {amount : Int} {order_ref : Bytes} {after : ReceiptRegistry.World}
    (ran : ReceiptRegistry.invoke env s.registry hash merchant amount order_ref = .ok after) :
    Kept retryDelaysMs signer { s with registry := after } ms :=
  kept.aside ⟨fun found => ⟨_, found, .refl _⟩, ReceiptRegistry.get_kept ran⟩ kept.escrows rfl rfl rfl

theorem afterAnchor_some (after : afterAnchor signer request input s = some s') :
    ∃ registry, ReceiptRegistry.invoke input.ledgerEnv s.registry request.hash signer request.amount request.orderRef =
      .ok registry ∧ s' = { s with registry := registry } := by
  unfold afterAnchor at after
  cases ran : anchorCall signer request input s with
  | ok registry =>
    rw [ran] at after
    cases after
    exact ⟨registry, ran, rfl⟩
  | error refused =>
    rw [ran] at after
    cases after

theorem Kept.anchored (kept : Kept retryDelaysMs signer s ms)
    (after : afterAnchor signer request input s = some s') : Kept retryDelaysMs signer s' ms := by
  obtain ⟨registry, ran, rfl⟩ := afterAnchor_some after
  exact kept.registered ran

theorem sent_after {α : Type} {name : String} {after : Option (Store host)} {value : α} {answer : Except Failure α}
    (served : sent name after value input s = (answer, s')) : (s' = s ∧ ∀ value, answer ≠ .ok value) ∨ after = some s' := by
  unfold sent at served
  cases after with
  | some s₁ =>
    cases failure : input.failure with
    | none =>
      simp only [failure] at served
      cases served
      exact .inr rfl
    | some e =>
      simp only [failure] at served
      by_cases lands : input.lands
      · simp only [lands, if_true] at served
        cases served
        exact .inr rfl
      · simp only [lands] at served
        cases served
        exact .inl ⟨rfl, nofun⟩
  | none =>
    cases failure : input.failure with
    | none =>
      simp only [failure] at served
      cases served
      exact .inl ⟨rfl, nofun⟩
    | some e =>
      simp only [failure] at served
      cases served
      exact .inl ⟨rfl, nofun⟩

theorem held_sent (mine : order.record.paidInto = some escrow)
    (after : afterCall escrow order.holdInput.call input s = some s') : order.InEscrow s' := by
  obtain ⟨world, ran, rfl⟩ := afterCall_some after
  have records := EscrowCalls.hold_ok ran
  refine ⟨escrow, PurchaseEscrow.fresh order.id order.record.payer order.record.amountUSDCAtomic order.record.txHash
    order.receiptHash input.env.timestamp, mine, ?_, ?_⟩
  · rw [setEscrow_self]
    show world.purchases.lookup order.id = _
    rw [records.purchases, lookup_insert]
    exact if_pos rfl
  · simp [sameHold, PurchaseEscrow.fresh, Order.holdInput, AnchorWorker.holdInput]

theorem anchored_sent (after : afterAnchor signer order.anchorInput input s = some s') : order.InRegistry signer s' := by
  obtain ⟨registry, ran, rfl⟩ := afterAnchor_some after
  obtain ⟨_, _, _, _, receipts⟩ := ReceiptRegistry.invoke_effect ran
  refine ⟨ReceiptRegistry.anchored input.ledgerEnv signer order.record.amountUSDCAtomic order.id, ?_, ?_⟩
  · rw [ReceiptRegistry.get, receipts, lookup_insert]
    exact if_pos rfl
  · simp [isOwn, ReceiptRegistry.anchored, Order.anchorInput, AnchorWorker.anchorInput]

/-! ### The answers -/

/-- Whether a record that the worker comes to read, where the registry has the receipt already, is the store's own. -/
def ownAnswer (signer : Address) (input : Input) (s : Store host) : Op → Bool
  | .record request => input.failure.isSome || (ReceiptRegistry.get s.registry request.hash).all (isOwn signer request)
  | _ => true

theorem answerWith_some {α : Type} {value answer : Except Failure α} (served : answerWith input value s = some (answer, s')) :
    s' = s ∧ ∀ got, answer = .ok got → input.failure = none ∧ value = .ok got := by
  unfold answerWith at served
  cases failure : input.failure with
  | some e =>
    rw [failure] at served
    cases served
    exact ⟨rfl, nofun⟩
  | none =>
    rw [failure] at served
    cases served
    exact ⟨rfl, fun _ same => ⟨rfl, same⟩⟩

section
variable (kept : Kept retryDelaysMs signer s ms)
include kept

theorem Kept.unchanged (mode : ms[i]? = some (c, some m)) (same : m' = m) :
    Kept retryDelaysMs signer s (ms.set i (c, some m')) := by
  rw [same, set_same mode]
  exact kept

theorem Kept.reads (mine : order.record.paidInto = some escrow) {orderRef : Bytes} {p : Purchase}
    (read : decoded (PurchaseEscrow.get (s.escrows escrow) orderRef) = .ok (some p))
    (same : sameHold p order.holdInput = true) : order.InEscrow s := by
  obtain ⟨_, _, _, recorded⟩ := kept.escrows escrow
  have found : PurchaseEscrow.get (s.escrows escrow) orderRef = some p := by
    cases stored : PurchaseEscrow.get (s.escrows escrow) orderRef with
    | none =>
      rw [stored] at read
      cases read
    | some q =>
      rw [stored, decoded] at read
      split_ifs at read
      exact Except.ok.inj read
  have own : p.order_ref = orderRef := (recorded.solvent.stored orderRef p found).1
  have named : p.order_ref = order.id := by
    simp only [sameHold, Bool.and_eq_true, decide_eq_true_eq] at same
    exact same.1.1.1.1
  refine ⟨escrow, p, mine, ?_, same⟩
  rw [← named, own]
  exact found

theorem Kept.serveHold (mode : ms[i]? = some (c, some (.turn n (.holding order)))) (mine : order.record.paidInto = some escrow)
    {answer : Except Failure Landed}
    (served : sent "hold" (afterCall escrow order.holdInput.call input s) input.result input s = (answer, s')) :
    Kept retryDelaysMs signer s'
      (ms.set i (c, some (Mode.answer (.turn n (.holding order)) (.sendHold escrow order.holdInput) answer))) := by
  rcases sent_after served with ⟨rfl, failed⟩ | after
  · cases answer with
    | error e => exact kept.unchanged mode rfl
    | ok landed => exact (failed landed rfl).elim
  · have later := kept.called after
    cases answer with
    | error e => exact later.unchanged mode rfl
    | ok landed =>
      have holdDue : order.HoldDue s' := later.holds mode
      have now : Mode.Holds signer s' (.turn n (.held order)) := ⟨holdDue, held_sent mine after⟩
      exact later.mode mode rfl now

theorem Kept.serveAnchor (mode : ms[i]? = some (c, some (.turn n (.anchoring order)))) {answer : Except Failure Landed}
    (served : sent "anchor" (afterAnchor signer order.anchorInput input s) input.result input s = (answer, s')) :
    Kept retryDelaysMs signer s'
      (ms.set i (c, some (Mode.answer (.turn n (.anchoring order)) (.sendAnchor order.anchorInput) answer))) := by
  rcases sent_after served with ⟨rfl, failed⟩ | after
  · cases answer with
    | error e => exact kept.unchanged mode rfl
    | ok landed => exact (failed landed rfl).elim
  · have later := kept.anchored after
    cases answer with
    | error e => exact later.unchanged mode rfl
    | ok landed =>
      have anchorDue : order.AnchorDue s' := later.holds mode
      have now : Mode.Holds signer s' (.turn n (.recorded order)) := ⟨anchorDue, anchored_sent after⟩
      exact later.mode mode rfl now

end

theorem Asks.turn (asks : Asks m₀ o m) (later : ∀ n, o ≠ .before n) : ∃ n known, m = .turn n known ∧ known.may o := by
  cases m₀ with
  | out | waits => exact asks.elim
  | drawn k =>
    cases o with
    | before n => exact (later n rfl).elim
    | _ => exact asks.elim
  | turn n known => exact ⟨n, known, asks.1, asks.2⟩

section
variable (kept : Kept retryDelaysMs signer s ms) (mode : ms[i]? = some (c, some m))
include kept mode

theorem Kept.asks (asks : Asks m o m') : Kept retryDelaysMs signer s (ms.set i (c, some m')) := by
  cases m with
  | out | waits => exact asks.elim
  | drawn k =>
    cases o with
    | before n =>
      obtain ⟨_, rfl⟩ := asks
      exact kept.mode mode rfl trivial
    | _ => exact asks.elim
  | turn n known =>
    obtain ⟨rfl, _⟩ := asks
    exact kept.unchanged mode rfl

theorem Kept.serve (asks : Asks m₀ o m) (own : ownAnswer signer input s o = true) {answer : Except Failure o.Answer}
    (served : AnchorWorker.serve signer o input s = some (answer, s')) :
    Expected o answer ∧ Kept retryDelaysMs signer s' (ms.set i (c, some (m.answer o answer))) := by
  cases o with
  | before n =>
    rw [AnchorWorker.serve] at served
    split_ifs at served with next
    cases served
    refine ⟨rfl, ?_⟩
    cases m₀ with
    | drawn k =>
      obtain ⟨rfl, rfl⟩ := asks
      subst next
      refine ⟨kept.escrows, kept.turns.enters mode rfl rfl, fun found => ?_, kept.latest, kept.sound, kept.onward⟩
      exact all_set trivial (fun _ _ _ _ old => kept.holds old) found
    | out | waits => exact asks.elim
    | turn n known => exact asks.2.elim
  | simulateHold escrow request =>
    obtain ⟨n, known, rfl, _⟩ := asks.turn nofun
    obtain ⟨rfl, _⟩ := answerWith_some served
    exact ⟨trivial, kept.unchanged mode rfl⟩
  | sendHold escrow request =>
    obtain ⟨n, known, rfl, order, rfl, rfl, mine⟩ := asks.turn nofun
    exact ⟨trivial, kept.serveHold mode mine (Option.some.inj served)⟩
  | payment escrow txHash =>
    obtain ⟨n, known, rfl, _⟩ := asks.turn nofun
    obtain ⟨rfl, _⟩ := answerWith_some served
    exact ⟨trivial, kept.unchanged mode rfl⟩
  | purchase escrow orderRef =>
    obtain ⟨n, known, rfl, order, rfl, mine⟩ := asks.turn nofun
    obtain ⟨rfl, told⟩ := answerWith_some served
    refine ⟨trivial, ?_⟩
    cases answer with
    | error e => exact kept.unchanged mode rfl
    | ok got =>
      cases got with
      | none => exact kept.unchanged mode rfl
      | some p =>
        have holdDue : order.HoldDue s' := kept.holds mode
        have now : Mode.Holds signer s' (.turn n (.found order p)) := ⟨holdDue, kept.reads mine (told _ rfl).2⟩
        exact kept.mode mode rfl now
  | simulateAnchor request =>
    obtain ⟨n, known, rfl, _⟩ := asks.turn nofun
    obtain ⟨rfl, _⟩ := answerWith_some served
    exact ⟨trivial, kept.unchanged mode rfl⟩
  | sendAnchor request =>
    obtain ⟨n, known, rfl, order, rfl, rfl⟩ := asks.turn nofun
    exact ⟨trivial, kept.serveAnchor mode (Option.some.inj served)⟩
  | record request =>
    obtain ⟨n, known, rfl, order, rfl, rfl⟩ := asks.turn nofun
    obtain ⟨rfl, told⟩ := answerWith_some served
    refine ⟨trivial, ?_⟩
    cases answer with
    | error e => exact kept.unchanged mode rfl
    | ok got =>
      cases got with
      | none => exact kept.unchanged mode rfl
      | some record =>
        obtain ⟨answered, read⟩ := told _ rfl
        have found : ReceiptRegistry.get s'.registry order.receiptHash = some record := Except.ok.inj read
        have anchorDue : order.AnchorDue s' := kept.holds mode
        have mine : isOwn signer order.anchorInput record = true := by
          rw [ownAnswer, answered] at own
          change (ReceiptRegistry.get s'.registry order.receiptHash).all _ = true at own
          rw [found] at own
          exact own
        have now : Mode.Holds signer s' (.turn n (.recorded order)) := ⟨anchorDue, record, found, mine⟩
        exact kept.mode mode rfl now
  | signed escrow work =>
    obtain ⟨n, known, rfl, _⟩ := asks.turn nofun
    refine ⟨trivial, ?_⟩
    rcases sent_after (Option.some.inj served) with ⟨rfl, _⟩ | after
    · exact kept.unchanged mode rfl
    · exact (kept.called after).unchanged mode rfl
  | saved =>
    obtain ⟨n, known, rfl, _⟩ := asks.turn nofun
    cases served
    exact ⟨rfl, kept.unchanged mode rfl⟩

end

/-! ### What else happens -/

theorem newOrder_sound (s : Store host) (escrow : Option Address) (sale : Sale) :
    Sound retryDelaysMs signer s orderId (newOrder escrow sale) := by
  have pending : ∀ hold, (newOrder escrow sale).hold = some hold → hold.status = .pending := by
    intro hold now
    obtain ⟨_, _, rfl⟩ := map_eq_some_iff.mp now
    rfl
  have unanchored : ¬(newOrder escrow sale).isAnchored := by
    rintro ⟨anchor, now, anchored⟩
    cases now
    cases anchored
  refine ⟨?_, fun anchored => (unanchored anchored).elim, fun anchored => (unanchored anchored).elim, ?_⟩
  · rintro ⟨hold, now, held⟩
    rw [pending hold now] at held
    cases held
  · intro hold now failed
    rw [pending hold now] at failed
    cases failed

section
variable (kept : Kept retryDelaysMs signer s ms)
include kept

theorem Kept.put (sale : Sale) : Kept retryDelaysMs signer (s.put sale) ms := by
  unfold Store.put
  cases free : s.orders sale.orderId with
  | some order => exact kept
  | none =>
    refine kept.stores (newOrder_sound s s.escrow sale) (fun now same => ?_) kept.turns fun {j d m'} found => ?_
    · rw [free] at same
      cases same
    · refine (kept.holds found).grown (.same rfl rfl) fun {orderId record} stored => ?_
      have apart : orderId ≠ sale.orderId := by
        rintro rfl
        rw [free] at stored
        cases stored
      show update s.orders sale.orderId _ orderId = some record
      rw [update_of_ne apart]
      exact stored

theorem Kept.outside (k : Outside host) : Kept retryDelaysMs signer (outside k s) ms := by
  cases k with
  | escrow address action => exact kept.chain address action
  | registry env hash merchant amount order_ref =>
    rw [AnchorWorker.outside]
    split
    · rename_i ran
      exact kept.registered ran
    · exact kept
  | clock now => exact kept.elsewhere rfl rfl rfl rfl rfl
  | sale sale => exact kept.put sale
  | stop => exact kept.elsewhere rfl rfl rfl rfl rfl
  | configure escrow => exact kept.elsewhere rfl rfl rfl rfl rfl

theorem Kept.crash : Kept retryDelaysMs signer (restart s) (ms.map fun call => (call.1, none)) where
  escrows := kept.escrows
  turns := inTurn_kill
  holds found := by cases mode_of_kill found
  latest := kept.latest
  sound among := (kept.sound among).grown (.same rfl rfl)
  onward := kept.onward

theorem Kept.start (c : Call) : Kept retryDelaysMs signer s (ms ++ [(c, some .out)]) where
  escrows := kept.escrows
  turns := kept.turns.starts rfl
  holds found := all_append trivial (fun _ _ _ old => kept.holds old) found
  latest := kept.latest
  sound := kept.sound
  onward := kept.onward

theorem Kept.finish (i : Nat) (c : Call) : Kept retryDelaysMs signer s (ms.set i (c, none)) where
  escrows := kept.escrows
  turns := kept.turns.ends
  holds found := all_over (fun _ _ _ _ old => kept.holds old) found
  latest := kept.latest
  sound := kept.sound
  onward := kept.onward

end

/-! ### One job at a time -/

/-- A job that has drawn its number and waits for the turn, or that has it. -/
def Mode.entered : Mode → Prop
  | .out => False
  | .drawn _ => False
  | _ => True

def Queued (ms : Modes) : Prop := ∀ (j : Nat) d m, ms[j]? = some (d, some m) → m.entered

/-- And all but the one that acts are, meanwhile. -/
def QueuedBut (i : Nat) (ms : Modes) : Prop := ∀ (j : Nat) d m, j ≠ i → ms[j]? = some (d, some m) → m.entered

theorem QueuedBut.acts (queued : QueuedBut i ms) (m : Mode) : QueuedBut i (ms.set i (c, some m)) := by
  intro j d m' other found
  rcases mode_of_set found with ⟨same, _, _⟩ | ⟨_, old⟩
  · exact (other same).elim
  · exact queued j d m' other old

theorem QueuedBut.waits (queued : QueuedBut i ms) (entered : m.entered) : Queued (ms.set i (c, some m)) := by
  intro j d m' found
  exact all_set entered queued found

theorem QueuedBut.over (queued : QueuedBut i ms) : Queued (ms.set i (c, none)) := by
  intro j d m' found
  exact all_over queued found

theorem Queued.starts (queued : Queued ms) (m : Mode) : QueuedBut ms.length (ms ++ [(c, some m)]) := by
  intro j d m' other found
  rcases mode_of_append found with ⟨same, _, _⟩ | old
  · exact (other same).elim
  · exact queued j d m' old

theorem Asks.entered (asks : Asks m o m') : m'.entered := by
  cases m with
  | out | waits => exact asks.elim
  | drawn k =>
    cases o with
    | before n =>
      obtain ⟨_, rfl⟩ := asks
      trivial
    | _ => exact asks.elim
  | turn n known =>
    obtain ⟨rfl, _⟩ := asks
    trivial

theorem Mode.entered.answer (entered : m.entered) (o : Op) (answer : Except Failure o.Answer) :
    (m.answer o answer).entered := by
  cases m with
  | out | drawn => exact entered.elim
  | waits n => cases o <;> trivial
  | turn n known => trivial

theorem waits_stuck (s : Store host) {r : Job host Unit} : ¬Follows (jobs host retryDelaysMs) (.waits n) r (Ends c) := by
  intro follows
  cases r with
  | returns a => cases follows
  | throws e => cases follows
  | sync next rest =>
    obtain ⟨_, goes, _⟩ := follows s
    cases goes
  | await o rest =>
    obtain ⟨_, asks, _⟩ := follows
    exact asks.elim

/-- A job that runs: it has come to its turn, and is not over. -/
def Running : Phase (Store host) Op Failure Op.Answer Unit → Prop
  | .waiting (.before _) _ => False
  | .waiting _ _ => True
  | .answered _ => True
  | .finished _ => False
  | .killed => False

theorem Running.turn {phase : Phase (Store host) Op Failure Op.Answer Unit} (running : Running phase) (s : Store host)
    (entered : m.entered) (stands : InMode (jobs host retryDelaysMs) Ends c phase (some m)) :
    ∃ n known, m = .turn n known := by
  cases phase with
  | waiting o rest =>
    obtain ⟨⟨m₀, asks⟩, _⟩ := stands
    obtain ⟨n, known, turn, _⟩ := Asks.turn asks fun n same => by
      subst same
      exact running
    exact ⟨n, known, turn⟩
  | answered r =>
    cases m with
    | out | drawn => exact entered.elim
    | waits n => exact (waits_stuck s stands).elim
    | turn n known => exact ⟨n, known, rfl⟩
  | finished result => exact running.elim
  | killed => exact running.elim

end

/-! ### Whole runs -/

abbrev Workers (host : Host) := System Call (Store host) Op Failure Op.Answer Unit

/-- Where the worker, told that the registry has an order's receipt already, reads its record: whether that is the store's
    own. -/
def ownRecord (w : Workers host) : Action Call Input (Outside host) → Bool
  | .perform i input =>
    match w.calls[i]? with
    | some (_, .waiting o _) => ownAnswer signer input w.shared o
    | _ => true
  | _ => true

def Op.anchors : Op → Option AnchorInput
  | .simulateAnchor input => some input
  | .sendAnchor input => some input
  | .record input => some input
  | _ => none

/-- What is stored of the holds and the anchors is true, and stays; no receipt is being anchored whose hold is tried again;
    and one job runs at a time. -/
structure Truthful (w : Workers host) : Prop where
  latest : ∀ orderId order, w.shared.orders orderId = some order → (orderId, order) ∈ w.shared.versions
  sound : ∀ orderId order, (orderId, order) ∈ w.shared.versions → Sound retryDelaysMs signer w.shared orderId order
  onward : ∀ orderId order, (orderId, order) ∈ w.shared.versions →
    ∃ later, w.shared.orders orderId = some later ∧ Onward order later
  waits : ∀ (i : Nat) c o rest input, w.calls[i]? = some (c, .waiting o rest) → o.anchors = some input →
    ∃ order, w.shared.orders input.orderRef = some order ∧ ¬order.holdPending
  one : ∀ (i j : Nat) c d phase phase', w.calls[i]? = some (c, phase) → w.calls[j]? = some (d, phase') → Running phase →
    Running phase' → i = j

variable {signer retryDelaysMs}

theorem keeps_kept :
    Keeps (worker signer retryDelaysMs) (jobs host retryDelaysMs) Ends
      (fun s ms _ => Kept retryDelaysMs signer s ms ∧ Queued ms)
      (fun i s ms _ => Kept retryDelaysMs signer s ms ∧ QueuedBut i ms) fun w _ a => ownRecord signer w a = true where
  start holds _ _ := ⟨_, follows_body _, holds.1.start _, holds.2.starts _⟩
  resume holds _ _ := ⟨holds.1, fun j d m _ found => holds.2 j d m found⟩
  sync holds mode goes := ⟨holds.1.goes mode goes, holds.2.acts _⟩
  ask holds mode asks _ _ _ := ⟨holds.1.asks mode asks, holds.2.waits (Asks.entered asks)⟩
  serve holds _ mode here may asks served := by
    rw [ownRecord, here] at may
    obtain ⟨expected, kept⟩ := holds.1.serve mode asks may served
    refine ⟨expected, kept, fun j d m' found => ?_⟩
    exact all_set ((holds.2 _ _ _ mode).answer _ _) (fun j d m' _ old => holds.2 j d m' old) found
  finish holds _ _ _ _ := ⟨holds.1.finish _ _, holds.2.over⟩
  outside holds _ := ⟨holds.1.outside _, holds.2⟩
  crash holds _ _ := ⟨holds.1.crash, fun j d m' found => by cases mode_of_kill found⟩

theorem kept_opened {escrows : Address → World host} (deployed : ∀ escrow, Deployed (escrows escrow))
    (registry : ReceiptRegistry.World) (escrow : Option Address) (now : Int) :
    Kept retryDelaysMs signer (opened escrows registry escrow now) [] where
  escrows e := ⟨_, _, _, EscrowHistory.run_recorded (deployed e) []⟩
  turns := inTurn_nil
  holds found := by simp at found
  latest stored := by cases stored
  sound among := by cases among
  onward among := by cases among

variable {w : Workers host}

theorem truthful_of_holds {t : List (Event Call Op Failure Op.Answer Unit)}
    (holds : Holds (jobs host retryDelaysMs) Ends (fun s ms _ => Kept retryDelaysMs signer s ms ∧ Queued ms) w t) :
    Truthful retryDelaysMs signer w := by
  obtain ⟨ms, ⟨kept, queued⟩, aligned⟩ := holds
  have turn : ∀ {i : Nat} {c phase}, w.calls[i]? = some (c, phase) → Running phase →
      ∃ n known, ms[i]? = some (c, some (.turn n known)) := by
    intro i c phase here running
    obtain ⟨mode, found, stands⟩ := aligned.2 i c phase here
    cases mode with
    | none => cases phase <;> first | exact stands.elim | exact running.elim
    | some m =>
      obtain ⟨n, known, rfl⟩ := running.turn w.shared (queued i c m found) stands
      exact ⟨n, known, found⟩
  refine ⟨fun _ _ => kept.latest, fun _ _ => kept.sound, fun _ _ => kept.onward, fun i c o rest input here anchors => ?_,
    fun i j c d phase phase' here here' running running' => ?_⟩
  · obtain ⟨mode, found, stands⟩ := aligned.2 i c _ here
    cases mode with
    | none => exact stands.elim
    | some m =>
      obtain ⟨⟨m₀, asks⟩, _⟩ := stands
      obtain ⟨n, known, rfl, may⟩ := Asks.turn asks (by rintro n rfl; cases anchors)
      obtain ⟨order, rfl, rfl⟩ : ∃ order, known = .anchoring order ∧ input = order.anchorInput := by
        cases o <;> cases anchors <;> exact may
      have anchorDue : order.AnchorDue w.shared := kept.holds found
      exact ⟨order.record, anchorDue.stored, anchorDue.settled⟩
  · obtain ⟨n, known, found⟩ := turn here running
    obtain ⟨k, known', found'⟩ := turn here' running'
    exact kept.turns.one found found' rfl rfl

/-- However the worker's jobs run beside each other and beside anybody's calls of the contracts, whatever the network makes
    of its own, and with restarts anywhere: in every run in which the worker, where it takes a receipt for anchored because
    the registry has it, finds the store's own record, every state is as it should be. -/
theorem worker_truthful {escrows : Address → World host} (deployed : ∀ escrow, Deployed (escrows escrow))
    (registry : ReceiptRegistry.World) (escrow : Option Address) (now : Int)
    (actions : List (Action Call Input (Outside host))) (own : ∀ before a after, actions = before ++ a :: after →
      ownRecord signer
        (Traces.exec (step (worker signer retryDelaysMs)) ⟨opened escrows registry escrow now, []⟩ before).1 a) :
    Truthful retryDelaysMs signer
      (Traces.exec (step (worker signer retryDelaysMs)) ⟨opened escrows registry escrow now, []⟩ actions).1 := by
  have queued : Queued [] := fun j d m found => by simp at found
  have start : Holds (jobs host retryDelaysMs) Ends (fun s ms _ => Kept retryDelaysMs signer s ms ∧ Queued ms)
      ⟨opened escrows registry escrow now, []⟩ [] := ⟨[], ⟨kept_opened deployed registry escrow now, queued⟩, aligned_nil⟩
  exact truthful_of_holds (kept_along keeps_kept start actions own)

theorem own_of_along {actions : List (Action Call Input (Outside host))}
    (all : Traces.along (step (worker signer retryDelaysMs)) (fun w _ a => ownRecord signer w a) w [] actions = true) :
    ∀ before a after, actions = before ++ a :: after →
      ownRecord signer (Traces.exec (step (worker signer retryDelaysMs)) w before).1 a := Traces.along_run all

def RETRY_DELAYS_MS : List Nat := [2000, 5000, 15000]

def goOn (i n : Nat) (failure : Option Failure) : List (Action Call Input (Outside sampleHost)) :=
  (List.replicate n [.perform i ⟨failure, true, sampleEnv 1, ⟨1, 1, fun _ => true⟩, ⟨"transaction", 1⟩⟩,
    .resume i]).flatten

def sampleStore : Workers sampleHost :=
  ⟨opened (fun _ => sampleWorld) (ReceiptRegistry.deploy sampleHash)
    (some (sampleAddress 7)) 0, []⟩

def sampleSale : Sale :=
  ⟨[1], sampleAddress 5, 60, sampleHash, sampleHash⟩

def sampleRun (actions : List (Action Call Input (Outside sampleHost))) : Workers sampleHost :=
  (Traces.exec (step (worker (sampleAddress 2) RETRY_DELAYS_MS)) sampleStore actions).1

/-- A hold lands, and is reported as failed; the retry finds it, and the receipt is anchored. -/
def lostHold : List (Action Call Input (Outside sampleHost)) :=
  ([.outside (.sale sampleSale), .start (.enqueue [1])] : List (Action Call Input (Outside sampleHost))) ++
    goOn 0 2 none ++ goOn 0 1 (some ⟨"timeout", none⟩) ++ goOn 0 1 none ++
    ([.start (.timer 0)] : List (Action Call Input (Outside sampleHost))) ++ goOn 1 8 none

theorem lost_hold_truthful :
    ((sampleRun lostHold).shared.orders [1]).map
        (fun order => (order.hold.map OrderHold.status, order.anchor.map OrderAnchor.status)) =
          some (some .held, some .anchored) ∧
      Truthful RETRY_DELAYS_MS (sampleAddress 2) (sampleRun lostHold) :=
  ⟨by decide +kernel,
    worker_truthful (fun _ => PurchaseEscrow.sampleWorld_deployed) _ _ _ lostHold (own_of_along (by decide +kernel))⟩

/-- Somebody else anchors the receipt of a sale before the store does. -/
def strangersAnchor : List (Action Call Input (Outside sampleHost)) :=
  ([.outside (.sale sampleSale),
    .outside (.registry ⟨1, 1, fun _ => true⟩ sampleHash (sampleAddress 9) 1 [2]),
    .start (.enqueue [1])] : List (Action Call Input (Outside sampleHost))) ++ goOn 0 7 none

/-- The worker stores the order as anchored, and the registry's record is of another merchant, amount and order. -/
theorem anchored_by_stranger :
    ((sampleRun strangersAnchor).shared.orders [1]).map (fun order => (order.receipt, order.anchor.map OrderAnchor.status)) =
        some (some sampleHash, some .anchored) ∧
      (ReceiptRegistry.get (sampleRun strangersAnchor).shared.registry sampleHash).map
        (fun record => (record.merchant, record.amount, record.order_ref)) = some (sampleAddress 9, 1, [2]) ∧
      ¬Truthful RETRY_DELAYS_MS (sampleAddress 2) (sampleRun strangersAnchor) := by
  have stored : ((sampleRun strangersAnchor).shared.orders [1]).map
      (fun order => (order.receipt, order.anchor.map OrderAnchor.status)) =
        some (some sampleHash, some .anchored) := by decide +kernel
  have named : (ReceiptRegistry.get (sampleRun strangersAnchor).shared.registry sampleHash).map
      (fun record => (record.merchant, record.amount, record.order_ref)) =
        some (sampleAddress 9, 1, [2]) := by decide +kernel
  refine ⟨stored, named, fun truthful => ?_⟩
  obtain ⟨order, found, what⟩ := map_eq_some_iff.mp stored
  obtain ⟨receipt, status⟩ := Prod.mk.inj what
  obtain ⟨anchor, due, anchored⟩ := map_eq_some_iff.mp status
  obtain ⟨receiptHash, receipt', record, there, own⟩ :=
    (truthful.sound [1] order (truthful.latest [1] order found)).anchored ⟨anchor, due, anchored⟩
  rw [receipt] at receipt'
  cases receipt'
  rw [there] at named
  have merchant : record.merchant = sampleAddress 9 := (Prod.mk.inj (Option.some.inj named)).1
  simp only [isOwn, merchant, Bool.and_eq_true, decide_eq_true_eq] at own
  exact absurd own.1.1 (by decide)

end AgentPey.AnchorWorker
