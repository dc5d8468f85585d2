import AgentPey.OrderPromises
import Mathlib.Data.List.Nodup

/-!
One settlement, one order. In every run of `fulfilPaidPurchase` on one order store, a settlement has one order of the
platform, one record and one receipt, whoever asks for it and how often, as long as the receipt of a placed order can be
signed, and no crash comes between an order and its row.
-/
namespace AgentPey.OneOrder
open Receipts CheckoutSessions Orders Routines Gateway PaidOrders Disciplines OrderStages OrderPromises
open List (append_nil mem_append mem_cons_self mem_filter mem_singleton)

abbrev Seen := Event PaidPurchase Op Failure Op.Answer (OrderRecord × Bool)

/-- Whether an event is the platform taking an order for a settlement. -/
def takes (txHash : String) : Seen → Bool
  | .answered _ _ (.createOrder input) (.ok _) => input.txHash = txHash
  | _ => false

def ordersTaken (txHash : String) (t : List Seen) : List Seen := t.filter (takes txHash)

/-- The record of a settlement that an event shows: it is being stored, or handed back. -/
def shows (txHash : String) : Seen → Option OrderRecord
  | .asked _ _ (.saveOrder _ order) => if order.settlement.txHash = txHash then some order else none
  | .answered _ _ (.saveOrder _ order) _ => if order.settlement.txHash = txHash then some order else none
  | .finished _ c (.ok (record, _)) => if c.settlement.txHash = txHash then some record else none
  | _ => none

def recordsShown (txHash : String) (t : List Seen) : List OrderRecord := t.filterMap (shows txHash)

/-- One order for a settlement: the platform has taken one at most, one record of it at most is stored, and whatever
    record is stored or handed back, with its receipt, is the same. -/
structure OrderedOnce (s : Storefront) (t : List Seen) (txHash : String) : Prop where
  taken : (ordersTaken txHash t).length ≤ 1
  same : ∀ a ∈ recordsShown txHash t, ∀ b ∈ recordsShown txHash t, a = b
  row : (s.orderRows.filter (·.settlement.txHash = txHash)).length ≤ 1
  stored : ∀ row ∈ s.orderRows, row.settlement.txHash = txHash → row ∈ recordsShown txHash t

def caller : Seen → Nat
  | .asked i _ _ => i
  | .answered i _ _ _ => i
  | .finished i _ _ => i

def lastOf (i : Nat) (t : List Seen) : Option Seen := t.reverse.find? (caller · = i)

variable (deps : Deps)

def placedClaims (purchase : PaidPurchase) (orderId platformOrderId : String) (issuedAt : Int) : ReceiptClaims :=
  buildReceiptClaims (placedRecord deps purchase orderId issuedAt (.ok platformOrderId)) deps.config issuedAt

/-- The settlement whose order an event shows: the platform has taken it, or its record is being stored or handed back. -/
def concerns : Seen → Option String
  | .asked _ _ (.saveOrder _ order) => some order.settlement.txHash
  | .answered _ _ (.saveOrder _ order) _ => some order.settlement.txHash
  | .answered _ _ (.createOrder input) (.ok _) => some input.txHash
  | .finished _ c (.ok _) => some c.settlement.txHash
  | _ => none

/-- A call whose order the platform has just taken goes on when the receipt's claims pass its schema; a crash comes when
    every settlement with an order has its row. -/
def accounted (w : System PaidPurchase Storefront Op Failure Op.Answer (OrderRecord × Bool)) (t : List Seen) :
    Action PaidPurchase Input Outside → Bool
  | .resume i =>
    match lastOf i t with
    | some (.answered _ c (.createOrder input) (.ok platformOrderId)) =>
      receiptClaimsSchema deps.crypto (placedClaims deps c input.reference platformOrderId w.shared.now)
    | _ => true
  | .crash => t.all fun e => (concerns e).all fun txHash => (findBySettlementTx w.shared.orderRows txHash).isSome
  | _ => true

/-! ### The records -/

/-- What a call's stage says of the record it holds, of what the platform has just answered, and that the receipt of an
    order it has taken can be signed. -/
def Tells (s : Storefront) (t : List Seen) (i : Nat) (c : PaidPurchase) : Stage → Prop
  | .again record => record ∈ s.memory.orders ∧ record.settlement.txHash = c.settlement.txHash
  | .placed _ orderId createdAt answer => Coherent deps c orderId createdAt ∧
      lastOf i t = some (.answered i c (.createOrder (orderInput c orderId)) answer)
  | .dated _ orderId createdAt (.ok id) issuedAt =>
    ∃ issued, signed deps (placedRecord deps c orderId createdAt (.ok id)) issuedAt = .ok issued
  | .made _ record => record ∈ s.memory.orders ∧ record.settlement.txHash = c.settlement.txHash
  | .told _ (.ok record) => record ∈ s.memory.orders ∧ record.settlement.txHash = c.settlement.txHash
  | .ended (.ok record) => record ∈ s.memory.orders ∧ record.settlement.txHash = c.settlement.txHash
  | _ => True

/-- A settlement has one record in memory at most; whatever was shown, stored or promised is in memory; the platform has
    taken an order only for a settlement with a record, or with a call that is about to make it. -/
structure Booked (s : Storefront) (ms : Modes) (t : List Seen) : Prop where
  one : ∀ a ∈ s.memory.orders, ∀ b ∈ s.memory.orders, a.settlement.txHash = b.settlement.txHash → a = b
  ids : (s.orderRows.map OrderRecord.orderId).Nodup
  rows : ∀ row ∈ s.orderRows, row ∈ s.memory.orders
  kept : ∀ (i : Nat) c m p record, ms[i]? = some (c, some m) → m.2.heeds p →
    s.promises[p]? = some (some (.ok record)) →
    record ∈ s.memory.orders ∧ record.settlement.txHash = c.settlement.txHash
  unmade : ∀ (i : Nat) c m, ms[i]? = some (c, some m) → m.2.unmade → ∀ a ∈ s.memory.orders,
    a.settlement.txHash ≠ c.settlement.txHash
  tells : ∀ (i : Nat) c m, ms[i]? = some (c, some m) → Tells deps s t i c m.2
  taken : ∀ txHash, ordersTaken txHash t ≠ [] → (∃ a ∈ s.memory.orders, a.settlement.txHash = txHash) ∨
    ∃ (i : Nat) (c : PaidPurchase) (m : Mode), ms[i]? = some (c, some m) ∧ c.settlement.txHash = txHash ∧ m.2.taken
  once : ∀ txHash, (ordersTaken txHash t).length ≤ 1
  shown : ∀ txHash, ∀ a ∈ recordsShown txHash t, a ∈ s.memory.orders ∧ a.settlement.txHash = txHash
  stored : ∀ row ∈ s.orderRows, row ∈ recordsShown row.settlement.txHash t

section
variable {deps} {s s' : Storefront} {ms : Modes} {t : List Seen} {i : Nat} {c : PaidPurchase} {m : Mode}

theorem recordsShown_append (txHash : String) (t e : List Seen) :
    recordsShown txHash (t ++ e) = recordsShown txHash t ++ recordsShown txHash e :=
  List.filterMap_append

variable {j p : Nat} {stage : Stage} {e : List Seen} {mode' : Option Mode}

theorem lastOf_append {e : Seen} : lastOf j (t ++ [e]) = if caller e = j then some e else lastOf j t := by
  unfold lastOf
  rw [List.reverse_append, List.reverse_singleton, List.singleton_append, List.find?_cons]
  by_cases same : caller e = j
  · simp [same]
  · simp [same]

theorem Tells.same {d : PaidPurchase} {t' : List Seen} (tells : Tells deps s t j d stage)
    (orders : ∀ a ∈ s.memory.orders, a ∈ s'.memory.orders) (last : lastOf j t' = lastOf j t) : Tells deps s' t' j d stage := by
  cases stage with
  | again record => exact ⟨orders record tells.1, tells.2⟩
  | made p record => exact ⟨orders record tells.1, tells.2⟩
  | placed p orderId createdAt answer => exact ⟨tells.1, last.trans tells.2⟩
  | told p answer =>
    cases answer with
    | ok record => exact ⟨orders record tells.1, tells.2⟩
    | error e => trivial
  | ended answer =>
    cases answer with
    | ok record => exact ⟨orders record tells.1, tells.2⟩
    | error e => trivial
  | dated p orderId createdAt answer issuedAt =>
    cases answer with
    | ok id => exact tells
    | error e => trivial
  | start | waits | makes | drawn | rests | lost => trivial

theorem Booked.goes_on (booked : Booked deps s ms t) (mode : ms[i]? = some (c, some m))
    (orders : s'.memory.orders = s.memory.orders) (rows : s'.orderRows = s.orderRows)
    (promises : ∀ (p : Nat) record, s'.promises[p]? = some (some (.ok record)) → s.promises[p]? = some (some (.ok record)))
    (takes : ∀ txHash, ordersTaken txHash (t ++ e) ≠ [] → ordersTaken txHash t ≠ [] ∨
      (c.settlement.txHash = txHash ∧ ∃ m', mode' = some m' ∧ m'.2.taken))
    (once : ∀ txHash, (ordersTaken txHash (t ++ e)).length ≤ 1) (last : ∀ j, j ≠ i → lastOf j (t ++ e) = lastOf j t)
    (shows : ∀ txHash, ∀ a ∈ recordsShown txHash e, a ∈ s.memory.orders ∧ a.settlement.txHash = txHash)
    (unmade : ∀ m', mode' = some m' → m'.2.unmade → ∀ a ∈ s.memory.orders, a.settlement.txHash ≠ c.settlement.txHash)
    (heeds : ∀ m' p record, mode' = some m' → m'.2.heeds p → s.promises[p]? = some (some (.ok record)) →
      record ∈ s.memory.orders ∧ record.settlement.txHash = c.settlement.txHash)
    (tells : ∀ m', mode' = some m' → Tells deps s' (t ++ e) i c m'.2)
    (had : m.2.taken → ∃ m', mode' = some m' ∧ m'.2.taken) : Booked deps s' (ms.set i (c, mode')) (t ++ e) := by
  constructor
  · rw [orders]
    exact booked.one
  · rw [rows]
    exact booked.ids
  · rw [rows, orders]
    exact booked.rows
  · intro j d n p record found heeded kept
    have kept := promises p record kept
    rw [orders]
    rcases mode_of_set found with ⟨_, rfl, same⟩ | ⟨_, old⟩
    · exact heeds n p record same.symm heeded kept
    · exact booked.kept j d n p record old heeded kept
  · intro j d n found isUnmade
    rw [orders]
    rcases mode_of_set found with ⟨_, rfl, same⟩ | ⟨_, old⟩
    · exact unmade n same.symm isUnmade
    · exact booked.unmade j d n old isUnmade
  · intro j d n found
    rcases mode_of_set found with ⟨rfl, rfl, same⟩ | ⟨different, old⟩
    · exact tells n same.symm
    · exact (booked.tells j d n old).same (fun a member => orders ▸ member) (last j different)
  · intro txHash some_
    obtain ⟨inside, _⟩ := List.getElem?_eq_some_iff.mp mode
    rw [orders]
    rcases takes txHash some_ with before | ⟨same, m', rfl, isTaken⟩
    · rcases booked.taken txHash before with there | ⟨j, d, n, found, same, isTaken⟩
      · exact .inl there
      · right
        by_cases here : j = i
        · subst here
          rw [mode] at found
          cases found
          obtain ⟨m', rfl, still⟩ := had isTaken
          exact ⟨j, c, m', by simp [inside], same, still⟩
        · exact ⟨j, d, n, by rw [List.getElem?_set_ne (Ne.symm here), found], same, isTaken⟩
    · exact .inr ⟨i, c, m', by simp [inside], same, isTaken⟩
  · exact once
  · intro txHash a member
    rw [orders]
    rw [recordsShown_append] at member
    rcases mem_append.mp member with old | new
    · exact booked.shown txHash a old
    · exact shows txHash a new
  · rw [rows]
    intro row member
    rw [recordsShown_append]
    exact List.mem_append_left _ (booked.stored row member)

theorem ordersTaken_quiet (takes : ordersTaken txHash e = []) : ordersTaken txHash (t ++ e) = ordersTaken txHash t := by
  unfold ordersTaken at takes ⊢
  rw [List.filter_append, takes, append_nil]

theorem untaken {P : String → Prop} (takes : ∀ txHash, ordersTaken txHash e = []) (txHash : String)
    (some_ : ordersTaken txHash (t ++ e) ≠ []) : ordersTaken txHash t ≠ [] ∨ P txHash :=
  .inl (ordersTaken_quiet (takes txHash) ▸ some_)

theorem Booked.still (booked : Booked deps s ms t) (takes : ∀ txHash, ordersTaken txHash e = []) (txHash : String) :
    (ordersTaken txHash (t ++ e)).length ≤ 1 := by
  rw [ordersTaken_quiet (takes txHash)]
  exact booked.once txHash

/-! ### Records and promises made -/

theorem signed_ok {record issued : OrderRecord} {issuedAt : Int} (signs : signed deps record issuedAt = .ok issued) :
    issued.orderId = record.orderId ∧ issued.settlement = record.settlement := by
  unfold signed at signs
  cases receipt : signReceipt deps.crypto (buildReceiptClaims record deps.config issuedAt) deps.config.signingSecret with
  | error e =>
    rw [receipt] at signs
    cases signs
  | ok receipt =>
    rw [receipt] at signs
    cases signs
    exact ⟨rfl, rfl⟩

theorem placedRecord_ids (purchase : PaidPurchase) (orderId : String) (createdAt : Int) (answer : Except Failure String) :
    (placedRecord deps purchase orderId createdAt answer).orderId = orderId ∧
      (placedRecord deps purchase orderId createdAt answer).settlement.txHash = purchase.settlement.txHash := by
  cases answer <;> exact ⟨rfl, rfl⟩

theorem unmade_owner (unmade : stage.unmade) : ∃ p, stage.owner = some p := by
  cases stage <;> first | exact ⟨_, rfl⟩ | cases unmade

section
variable (booked : Booked deps s ms t) (flights : Flights deps s ms) (mode : ms[i]? = some (c, some m))
   (owner : m.2.owner = some p)
include booked flights mode owner

theorem Booked.stores {order : OrderRecord} (unmade : m.2.unmade) (new : ∀ a ∈ s.memory.orders, a.orderId ≠ order.orderId)
    (same : order.settlement.txHash = c.settlement.txHash) :
    Booked deps (putOrder order s) (ms.set i (c, some (c, .made p order))) t := by
  have orders : (putOrder order s).memory.orders = s.memory.orders ++ [order] := setOrder_new new
  have more : ∀ a ∈ s.memory.orders, a ∈ (putOrder order s).memory.orders := fun a member => by
    rw [orders]
    exact List.mem_append_left _ member
  have here : order ∈ (putOrder order s).memory.orders := by rw [orders]; exact List.mem_append_right _ (List.mem_singleton_self _)
  have apart := booked.unmade i c m mode unmade
  constructor
  · rw [orders]
    intro a membera b memberb equal
    rcases mem_append.mp membera with olda | herea
    · rcases mem_append.mp memberb with oldb | hereb
      · exact booked.one a olda b oldb equal
      · cases mem_singleton.mp hereb
        exact (apart a olda (equal.trans same)).elim
    · cases mem_singleton.mp herea
      rcases mem_append.mp memberb with oldb | hereb
      · exact (apart b oldb (equal.symm.trans same)).elim
      · exact (mem_singleton.mp hereb).symm
  · exact booked.ids
  · exact fun row member => more row (booked.rows row member)
  · intro j d n q record found heeded kept
    rcases mode_of_set found with ⟨_, rfl, same⟩ | ⟨_, old⟩
    · cases same
      have heeds : m.2.heeds q := by
        rcases heeded with owns | waits
        · exact .inl (owner.trans owns)
        · cases waits
      exact (booked.kept i d m q record mode heeds kept).imp_left (more record)
    · exact (booked.kept j d n q record old heeded kept).imp_left (more record)
  · intro j d n found isUnmade
    rcases mode_of_set found with ⟨_, _, same⟩ | ⟨different, old⟩
    · cases same
      cases isUnmade
    · rw [orders]
      intro a member
      rcases mem_append.mp member with before | last
      · exact booked.unmade j d n old isUnmade a before
      · cases mem_singleton.mp last
        intro equal
        obtain ⟨q, owns⟩ := unmade_owner isUnmade
        exact different (flights.one_maker old mode owns owner (equal.symm.trans same))
  · intro j d n found
    rcases mode_of_set found with ⟨_, rfl, stage⟩ | ⟨_, old⟩
    · cases stage
      exact ⟨here, same⟩
    · exact (booked.tells j d n old).same more rfl
  · intro txHash some_
    rcases booked.taken txHash some_ with ⟨a, member, equal⟩ | ⟨j, d, n, found, equal, isTaken⟩
    · exact .inl ⟨a, more a member, equal⟩
    · by_cases own : j = i
      · subst own
        rw [mode] at found
        cases found
        exact .inl ⟨order, here, same.trans equal⟩
      · exact .inr ⟨j, d, n, by rw [List.getElem?_set_ne (Ne.symm own), found], equal, isTaken⟩
  · exact booked.once
  · intro txHash a member
    exact ⟨more a (booked.shown txHash a member).1, (booked.shown txHash a member).2⟩
  · exact booked.stored

theorem Booked.settles {result : Except Failure OrderRecord}
    (own : ∀ record, result = .ok record → record ∈ s.memory.orders ∧ record.settlement.txHash = c.settlement.txHash)
    (free : m.2.taken = false) : Booked deps (settlePromise p result s) (ms.set i (c, some (c, .rests p))) t := by
  have kept : ∀ (q : Nat) record, (settlePromise p result s).promises[q]? = some (some (.ok record)) →
      (q = p ∧ result = .ok record) ∨ s.promises[q]? = some (some (.ok record)) := by
    intro q record here
    rw [settlePromise, List.getElem?_set] at here
    by_cases same : p = q
    · rw [if_pos same] at here
      split_ifs at here
      exact .inl ⟨same.symm, Option.some.inj (Option.some.inj here)⟩
    · rw [if_neg same] at here
      exact .inr here
  constructor
  · exact booked.one
  · exact booked.ids
  · exact booked.rows
  · intro j d n q record found heeded here
    rcases kept q record here with ⟨rfl, equal⟩ | old
    · -- The promise is this call's: who heeds it has the same settlement.
      obtain ⟨member, mine⟩ := own record equal
      refine ⟨member, ?_⟩
      rcases mode_of_set found with ⟨_, rfl, _⟩ | ⟨different, before⟩
      · exact mine
      · rcases heeded with owns | waits
        · exact (different (flights.alone j i d c n m q before mode owns owner)).elim
        · rw [mine]
          exact (flights.waiting j d n q before waits).2 i c m mode owner
    · rcases mode_of_set found with ⟨_, rfl, same⟩ | ⟨_, before⟩
      · cases same
        have heeds : m.2.heeds q := by
          rcases heeded with owns | waits
          · exact .inl (owner.trans owns)
          · cases waits
        exact booked.kept i d m q record mode heeds old
      · exact booked.kept j d n q record before heeded old
  · intro j d n found isUnmade
    rcases mode_of_set found with ⟨_, _, same⟩ | ⟨_, old⟩
    · cases same
      cases isUnmade
    · exact booked.unmade j d n old isUnmade
  · intro j d n found
    rcases mode_of_set found with ⟨_, _, same⟩ | ⟨_, old⟩
    · cases same
      trivial
    · exact (booked.tells j d n old).same (fun _ member => member) rfl
  · intro txHash some_
    rcases booked.taken txHash some_ with there | ⟨j, d, n, found, equal, isTaken⟩
    · exact .inl there
    · right
      by_cases here : j = i
      · subst here
        rw [mode] at found
        cases found
        rw [free] at isTaken
        cases isTaken
      · exact ⟨j, d, n, by rw [List.getElem?_set_ne (Ne.symm here), found], equal, isTaken⟩
  · exact booked.once
  · exact booked.shown
  · exact booked.stored

end

end

/-! ### The steps -/

structure Sound (s : Storefront) (ms : Modes) (t : List Seen) : Prop where
  flights : Flights deps s ms
  numbered : Numbered deps s ms
  booked : Booked deps s ms t

/-- The receipt of an order that the platform has taken can be signed. -/
def Signs (c : PaidPurchase) (now : Int) : Stage → Prop
  | .placed _ orderId createdAt (.ok id) =>
    ∃ issued, signed deps (placedRecord deps c orderId createdAt (.ok id)) now = .ok issued
  | _ => True

/-- What is said within an act of a call: the same, and that it can sign what it has to. -/
def Acting (i : Nat) (s : Storefront) (ms : Modes) (t : List Seen) : Prop :=
  Sound deps s ms t ∧ ∀ c m, ms[i]? = some (c, some m) → Signs deps c s.now m.2

section
variable {deps} {s s' : Storefront} {ms : Modes} {t : List Seen} {i : Nat} {c : PaidPurchase} {m m' : Mode}
variable {txHash : String}

variable {orders : List OrderRecord} {stage : Stage} {a order : OrderRecord} {o : Op}
   {w : System PaidPurchase Storefront Op Failure Op.Answer (OrderRecord × Bool)} {orderId : String} {createdAt : Int}

theorem findBySettlementTx_none (unknown : findBySettlementTx orders txHash = none) :
    ∀ a ∈ orders, a.settlement.txHash ≠ txHash := by
  simpa [findBySettlementTx] using unknown

theorem findBySettlementTx_some {record : OrderRecord}
    (found : findBySettlementTx orders txHash = some record) : record ∈ orders ∧ record.settlement.txHash = txHash :=
  ⟨List.mem_of_find?_eq_some found, by simpa using List.find?_some found⟩

/-- A stage that promises, reserves and waits for nothing more, and has what the platform has taken. -/
structure Like (m m' : Stage) : Prop where
  owner : m'.owner = m.owner
  reserved : ∀ id, m'.reserved = some id → m.reserved = some id
  unmade : m'.unmade → m.unmade
  waits : ∀ p, m' = .waits p → m = .waits p
  taken : m.taken → m'.taken

theorem taken_owner (free : stage.owner = none) : stage.taken = false := by
  cases stage <;> first | rfl | cases free

section
variable (sound : Sound deps s ms t) (mode : ms[i]? = some (c, some m))
include sound mode

theorem Sound.keeps {mode' : Option Mode} {e : List Seen} (orders : s'.memory.orders = s.memory.orders)
    (rows : s'.orderRows = s.orderRows) (promises : s'.promises = s.promises) (inFlight : s'.ordersInFlight = s.ordersInFlight)
    (drawn : s'.ordersDrawn = s.ordersDrawn) (takes : ∀ txHash, ordersTaken txHash e = [])
    (last : ∀ j, j ≠ i → lastOf j (t ++ e) = lastOf j t)
    (shows : ∀ txHash, ∀ a ∈ recordsShown txHash e, a ∈ s.memory.orders ∧ a.settlement.txHash = txHash)
    (like : ∀ m', mode' = some m' → m'.1 = c ∧ Like m.2 m'.2 ∧ Tells deps s' (t ++ e) i c m'.2)
    (gone : mode' = none → m.2.owner = none) : Sound deps s' (ms.set i (c, mode')) (t ++ e) := by
  obtain ⟨flights, numbered, booked⟩ := sound
  constructor
  · apply flights.keeps mode inFlight (by rw [promises]) ?_ gone
    intro m' here
    obtain ⟨same, like, _⟩ := like m' here
    exact ⟨same, like.owner, like.waits⟩
  · apply numbered.keeps_set mode orders drawn
    intro m' id here
    exact (like m' here).2.1.reserved id
  · apply booked.goes_on mode orders rows (fun p record kept => promises ▸ kept) (untaken takes) (booked.still takes) last shows
    · intro m' here unmade
      exact booked.unmade i c m mode ((like m' here).2.1.unmade unmade)
    · intro m' p record here heeds kept
      obtain ⟨_, like, _⟩ := like m' here
      refine booked.kept i c m p record mode ?_ kept
      rcases heeds with owns | waits
      · exact .inl (like.owner ▸ owns)
      · exact .inr (like.waits p waits)
    · exact fun m' here => (like m' here).2.2
    · intro isTaken
      cases mode' with
      | none =>
        rw [taken_owner (gone rfl)] at isTaken
        cases isTaken
      | some m' => exact ⟨m', rfl, (like m' rfl).2.1.taken isTaken⟩

theorem Sound.keeps_silent (orders : s'.memory.orders = s.memory.orders) (rows : s'.orderRows = s.orderRows)
    (promises : s'.promises = s.promises) (inFlight : s'.ordersInFlight = s.ordersInFlight)
    (drawn : s'.ordersDrawn = s.ordersDrawn)
    (like : m'.1 = c ∧ Like m.2 m'.2 ∧ Tells deps s' t i c m'.2) : Sound deps s' (ms.set i (c, some m')) t := by
  have keeps : Sound deps s' (ms.set i (c, some m')) (t ++ []) :=
    sound.keeps mode orders rows promises inFlight drawn (fun _ => rfl) (fun j _ => by rw [append_nil])
      (fun _ _ member => by cases member) (by rintro _ ⟨⟩; rwa [append_nil]) fun impossible => by cases impossible
  rwa [append_nil] at keeps

theorem Sound.rests {p : Nat} {result : Except Failure OrderRecord} (owner : m.2.owner = some p)
    (own : ∀ record, result = .ok record → record ∈ s.memory.orders ∧ record.settlement.txHash = c.settlement.txHash)
    (free : m.2.taken = false) : Sound deps (settlePromise p result s) (ms.set i (c, some (c, .rests p))) t := by
  obtain ⟨flights, numbered, booked⟩ := sound
  refine ⟨flights.keeps mode rfl (List.length_set ..) ?_ (fun gone => by cases gone), ?_,
    booked.settles flights mode owner own free⟩
  · rintro _ ⟨⟩
    exact ⟨rfl, owner.symm, fun _ waits => by cases waits⟩
  · exact numbered.keeps_set mode rfl rfl (by rintro _ _ ⟨⟩ reserves; cases reserves)

/-- A call goes on without an order of its own. -/
theorem Sound.goes_on (flights : Flights deps s' (ms.set i (c, some m'))) (orders : s'.memory.orders = s.memory.orders)
    (rows : s'.orderRows = s.orderRows) (drawn : s'.ordersDrawn = s.ordersDrawn) (reserved : m'.2.reserved = none)
    (free : m.2.taken = false)
    (promises : ∀ (p : Nat) record, s'.promises[p]? = some (some (.ok record)) → s.promises[p]? = some (some (.ok record)))
    (unmade : m'.2.unmade → ∀ a ∈ s.memory.orders, a.settlement.txHash ≠ c.settlement.txHash)
    (heeds : ∀ p record, m'.2.heeds p → s.promises[p]? = some (some (.ok record)) →
      record ∈ s.memory.orders ∧ record.settlement.txHash = c.settlement.txHash)
    (tells : Tells deps s' t i c m'.2) : Sound deps s' (ms.set i (c, some m')) t := by
  refine ⟨flights, sound.numbered.keeps_set mode orders drawn ?_, ?_⟩
  · rintro _ id ⟨⟩ reserves
    rw [reserved] at reserves
    cases reserves
  · rw [← append_nil t] at tells ⊢
    refine sound.booked.goes_on mode orders rows promises (untaken fun _ => rfl) (sound.booked.still fun _ => rfl)
      (fun j _ => by rw [append_nil]) (fun _ _ member => by cases member) ?_ ?_ ?_ ?_
    · rintro _ ⟨⟩
      exact unmade
    · rintro _ p record ⟨⟩
      exact heeds p record
    · rintro _ ⟨⟩
      exact tells
    · rw [free]
      intro taken
      cases taken

theorem Sound.turns (signs : Signs deps c s.now m.2)
    (turns : Turns deps m s s' m') : Sound deps s' (ms.set i (c, some m')) t ∧ Signs deps c s'.now m'.2 := by
  have ⟨flights, numbered, booked⟩ := sound
  have own := flights.own i c m mode
  cases turns with
  | @duplicate c' _ record found =>
    obtain rfl : c' = c := own
    obtain ⟨member, equal⟩ := findBySettlementTx_some found
    refine ⟨sound.goes_on mode ?_ rfl rfl rfl rfl rfl (fun _ _ kept => kept) (fun unmade => by cases unmade)
      (by rintro _ _ (owns | waits); cases owns; cases waits) ⟨member, equal⟩, trivial⟩
    exact flights.keeps mode rfl rfl (by rintro _ ⟨⟩; exact ⟨rfl, rfl, fun _ waits => by cases waits⟩) fun gone => by cases gone
  | @running c' _ p unknown flying =>
    obtain rfl : c' = c := own
    refine ⟨sound.goes_on mode (flights.joins mode flying) rfl rfl rfl rfl rfl (fun _ _ kept => kept)
      (fun unmade => by cases unmade) ?_ trivial, trivial⟩
    rintro q record (owns | waits) kept
    · cases owns
    · cases waits
      obtain ⟨k, e, l, found, owns, equal⟩ := flights.owned _ p flying
      rw [← equal]
      exact booked.kept k e l p record found (.inl owns) kept
  | @free c' _ unknown free =>
    obtain rfl : c' = c := own
    have looked : (lookup deps c'.settlement.txHash s).2 = { s with
        ordersInFlight := Function.update s.ordersInFlight (inFlightKey deps c'.settlement.txHash) (some s.promises.length)
        promises := s.promises ++ [none] } := by simp [lookup, unknown, free]
    rw [looked]
    refine ⟨sound.goes_on mode (flights.begins mode free rfl (by simp)) rfl rfl rfl rfl rfl ?_
      (fun _ => findBySettlementTx_none unknown) ?_ trivial, trivial⟩
    · intro p record kept
      by_cases old : p < s.promises.length
      · rwa [List.getElem?_append_left old] at kept
      · rw [List.getElem?_append_right (Nat.not_lt.mp old), List.getElem?_singleton] at kept
        split_ifs at kept
        cases kept
    · rintro q record (owns | waits) kept
      · cases owns
        simp at kept
      · cases waits
  | @put c' _ record =>
    obtain rfl : c' = c := own
    have told : Tells deps s t i c' (.again record) := booked.tells i c' _ mode
    have orders : (putOrder record s).memory.orders = s.memory.orders := setOrder_same told.1 numbered.distinct
    refine ⟨sound.keeps_silent mode orders rfl rfl rfl rfl ⟨rfl, ?_, ?_⟩, trivial⟩
    · exact ⟨rfl, fun _ h => h, fun h => h, fun _ h => h, fun h => h⟩
    · exact told.same (fun a member => orders.symm ▸ member) rfl
  | @draw c' _ p =>
    obtain rfl : c' = c := own
    refine ⟨⟨?_, numbered.draws, ?_⟩, trivial⟩
    · exact flights.keeps mode rfl rfl (by rintro _ ⟨⟩; exact ⟨rfl, rfl, fun _ waits => by cases waits⟩) fun gone => by cases gone
    · rw [← append_nil t]
      refine booked.goes_on mode rfl rfl (fun _ _ kept => kept) (untaken fun _ => rfl) (booked.still fun _ => rfl)
        (fun j _ => by rw [append_nil]) (fun _ _ member => by cases member)
        (by rintro _ ⟨⟩ _; exact booked.unmade i c' _ mode rfl) ?_
        (by rintro _ ⟨⟩; trivial) fun taken => by cases taken
      rintro _ q record ⟨⟩ (owns | waits) kept
      · exact booked.kept i c' _ q record mode (.inl owns) kept
      · cases waits
  | @date c' _ p orderId createdAt answer =>
    obtain rfl : c' = c := own
    refine ⟨sound.keeps_silent mode rfl rfl rfl rfl rfl ⟨rfl, ?_, ?_⟩, trivial⟩
    · exact ⟨rfl, fun _ h => h, fun h => h, (fun _ h => by cases h), fun h => by cases answer <;> exact h⟩
    · cases answer <;> exact signs
  | @make c' _ p orderId createdAt answer issuedAt issued signs' =>
    obtain rfl : c' = c := own
    obtain ⟨number, settlement⟩ := signed_ok signs'
    obtain ⟨placedId, placedTx⟩ : (placedRecord deps c' orderId createdAt answer).orderId = orderId ∧
        (placedRecord deps c' orderId createdAt answer).settlement.txHash = c'.settlement.txHash :=
      placedRecord_ids c' orderId createdAt answer
    have reserves : Stage.reserved (.dated p orderId createdAt answer issuedAt) = some issued.orderId := by
      rw [number, placedId]
      rfl
    refine ⟨⟨?_, numbered.stores mode reserves rfl, ?_⟩, trivial⟩
    · exact flights.keeps mode rfl rfl (by rintro _ ⟨⟩; exact ⟨rfl, rfl, fun _ waits => by cases waits⟩) fun gone => by cases gone
    · apply booked.stores flights mode rfl rfl
      · exact (numbered.fresh i c' _ issued.orderId mode reserves).2
      · rw [settlement, placedTx]
  | @refuse c' _ p orderId createdAt e =>
    obtain rfl : c' = c := own
    exact ⟨sound.rests mode rfl (fun _ impossible => by cases impossible) rfl, trivial⟩
  | @unsigned c' _ p orderId createdAt answer issuedAt e fails =>
    obtain rfl : c' = c := own
    refine ⟨sound.rests mode rfl (fun _ impossible => by cases impossible) ?_, trivial⟩
    -- An order that the platform has taken can be signed.
    cases answer with
    | error e => rfl
    | ok id =>
      obtain ⟨issued, can⟩ : ∃ issued, signed deps (placedRecord deps c' orderId createdAt (.ok id)) issuedAt = .ok issued :=
        booked.tells i c' _ mode
      rw [fails] at can
      cases can
  | @settle c' _ p record result only =>
    obtain rfl : c' = c := own
    refine ⟨sound.rests mode rfl (fun other here => ?_) rfl, trivial⟩
    rw [only other here]
    exact booked.tells i c' _ mode
  | @forget c' _ p answer =>
    obtain rfl : c' = c := own
    have told : Tells deps s t i c' (.told p answer) := booked.tells i c' _ mode
    refine ⟨sound.goes_on mode (flights.forgets mode) rfl rfl rfl rfl rfl (fun _ _ kept => kept)
      (fun unmade => by cases unmade) (by rintro _ _ (owns | waits); cases owns; cases waits) ?_, trivial⟩
    cases answer with
    | ok record => exact told
    | error e => trivial

end

theorem taken_unmade (taken : stage.taken) : stage.unmade := by
  cases stage <;> first | rfl | cases taken

variable {e : Seen}

theorem lastOf_other {j : Nat} (other : j ≠ i) (here : caller e = i) : lastOf j (t ++ [e]) = lastOf j t := by
  rw [lastOf_append, if_neg fun same => other (same.symm.trans here)]

theorem mem_recordsShown : a ∈ recordsShown txHash [e] ↔ shows txHash e = some a := by
  rw [recordsShown, List.filterMap_cons]
  cases shows txHash e with
  | none => simp
  | some b => simp [eq_comm]

theorem like_refl (stage : Stage) : Like stage stage := ⟨rfl, fun _ h => h, fun h => h, fun _ h => h, fun h => h⟩

theorem shows_save {s : Storefront} (holds : order ∈ s.memory.orders ∧ order.settlement.txHash = c.settlement.txHash)
    (shown : (if order.settlement.txHash = txHash then some order else none) = some a) :
    a ∈ s.memory.orders ∧ a.settlement.txHash = txHash := by
  split_ifs at shown with same
  cases shown
  exact ⟨holds.1, same⟩

theorem Sound.asks (sound : Sound deps s ms t) (mode : ms[i]? = some (c, some m)) (asks : Asks deps m o m') :
    Sound deps s (ms.set i (c, some m')) (t ++ [.asked i c o]) := by
  obtain ⟨c', stage⟩ := m
  obtain rfl : c' = c := sound.flights.own i c _ mode
  have told := sound.booked.tells i c' _ mode
  have last : ∀ j, j ≠ i → lastOf j (t ++ [.asked i c' o]) = lastOf j t := fun j other => lastOf_other other rfl
  have keeps : ∀ m', m' = (c', stage) → (∀ txHash a, shows txHash (.asked i c' o) = some a →
        a ∈ s.memory.orders ∧ a.settlement.txHash = txHash) → Tells deps s (t ++ [.asked i c' o]) i c' stage →
      Sound deps s (ms.set i (c', some m')) (t ++ [.asked i c' o]) := by
    rintro _ rfl shown told
    refine sound.keeps mode rfl rfl rfl rfl rfl (fun _ => rfl) last ?_ ?_ fun gone => by cases gone
    · exact fun txHash a member => shown txHash a (mem_recordsShown.mp member)
    · rintro _ ⟨⟩
      exact ⟨rfl, like_refl _, told⟩
  cases stage with
  | again record =>
    cases o with
    | saveOrder turn order =>
      obtain ⟨rfl, rfl⟩ := asks
      exact keeps _ rfl (fun txHash a shown => shows_save told shown) told
    | _ => exact asks.elim
  | waits p =>
    cases o with
    | orderInFlight asked =>
      obtain ⟨_, rfl⟩ := asks
      exact keeps _ rfl (fun _ _ shown => by cases shown) trivial
    | _ => exact asks.elim
  | drawn p orderId createdAt =>
    cases o with
    | createOrder input =>
      obtain ⟨_, _, rfl⟩ := asks
      exact keeps _ rfl (fun _ _ shown => by cases shown) trivial
    | _ => exact asks.elim
  | made p record =>
    cases o with
    | saveOrder turn order =>
      obtain ⟨rfl, rfl⟩ := asks
      exact keeps _ rfl (fun txHash a shown => shows_save told shown) told
    | _ => exact asks.elim
  | rests p =>
    cases o with
    | orderInFlight asked =>
      obtain ⟨_, rfl⟩ := asks
      exact keeps _ rfl (fun _ _ shown => by cases shown) trivial
    | _ => exact asks.elim
  | start | makes | placed | dated | told | ended | lost => cases o <;> exact asks.elim

theorem Sound.finish (sound : Sound deps s ms t) {result : Except Failure (OrderRecord × Bool)}
    (mode : ms[i]? = some (c, some m)) (ends : Ends c m result) :
    Sound deps s (ms.set i (c, none)) (t ++ [.finished i c result]) := by
  have told := sound.booked.tells i c m mode
  refine sound.keeps mode rfl rfl rfl rfl rfl (fun _ => rfl) (fun j other => lastOf_other other rfl) ?_
    (fun _ impossible => by cases impossible) fun _ => ends.1
  intro txHash a member
  have shown := mem_recordsShown.mp member
  cases result with
  | error e => cases shown
  | ok handed =>
    obtain ⟨record, replayed⟩ := handed
    have holds : record ∈ s.memory.orders ∧ record.settlement.txHash = c.settlement.txHash := by
      rcases ends.2 record replayed rfl with again | ended
      · rw [again] at told
        exact told
      · rw [ended] at told
        exact told
    change (if c.settlement.txHash = txHash then some record else none) = some a at shown
    split_ifs at shown with same
    cases shown
    exact ⟨holds.1, holds.2.trans same⟩

theorem Sound.start (sound : Sound deps s ms t) (c : PaidPurchase) : Sound deps s (ms ++ [(c, some (c, .start))]) t := by
  obtain ⟨flights, numbered, booked⟩ := sound
  have old : ∀ {j : Nat} {d : PaidPurchase} {n : Mode}, (ms ++ [(c, some (c, .start))])[j]? = some (d, some n) →
      n.2 = .start ∨ ms[j]? = some (d, some n) := by
    intro j d n found
    rcases mode_of_append found with ⟨_, _, same⟩ | old
    · cases same
      exact .inl rfl
    · exact .inr old
  constructor
  · exact flights.start c
  · apply numbered.keeps rfl rfl
    intro j d n id found reserves
    rcases old found with start | before
    · rw [start] at reserves
      cases reserves
    · exact ⟨n, before, reserves⟩
  · refine { booked with kept := ?_, unmade := ?_, tells := ?_, taken := ?_ }
    · intro j d n p record found heeds
      rcases old found with start | before
      · rw [start] at heeds
        rcases heeds with owns | waits
        · cases owns
        · cases waits
      · exact booked.kept j d n p record before heeds
    · intro j d n found isUnmade
      rcases old found with start | before
      · rw [start] at isUnmade
        cases isUnmade
      · exact booked.unmade j d n before isUnmade
    · intro j d n found
      rcases old found with start | before
      · rw [start]
        trivial
      · exact booked.tells j d n before
    · intro txHash some_
      rcases booked.taken txHash some_ with there | ⟨j, d, n, found, same, isTaken⟩
      · exact .inl there
      · obtain ⟨inside, _⟩ := List.getElem?_eq_some_iff.mp found
        exact .inr ⟨j, d, n, by rw [List.getElem?_append_left inside, found], same, isTaken⟩

theorem outside_orders (k : Outside) (s : Storefront) :
    (outside k s).memory.orders = s.memory.orders ∧ (outside k s).orderRows = s.orderRows ∧
      (outside k s).promises = s.promises ∧ (outside k s).ordersInFlight = s.ordersInFlight ∧
      (outside k s).ordersDrawn = s.ordersDrawn := by
  cases k with
  | clock n => exact ⟨rfl, rfl, rfl, rfl, rfl⟩
  | catalogue id product => exact ⟨rfl, rfl, rfl, rfl, rfl⟩
  | restock id stock => exact ⟨rfl, rfl, rfl, rfl, rfl⟩
  | close ticket =>
    rw [outside]
    split
    · rw [releaseHold]
      split
      · exact ⟨rfl, rfl, rfl, rfl, rfl⟩
      · exact ⟨rfl, rfl, rfl, rfl, rfl⟩
    · exact ⟨rfl, rfl, rfl, rfl, rfl⟩

theorem Sound.elsewhere (sound : Sound deps s ms t) (orders : s'.memory.orders = s.memory.orders)
    (promises : s'.promises = s.promises) (inFlight : s'.ordersInFlight = s.ordersInFlight)
    (drawn : s'.ordersDrawn = s.ordersDrawn) (ids : (s'.orderRows.map OrderRecord.orderId).Nodup)
    (rows : ∀ row ∈ s'.orderRows, row ∈ s.memory.orders ∧ row ∈ recordsShown row.settlement.txHash t) : Sound deps s' ms t := by
  obtain ⟨flights, numbered, booked⟩ := sound
  constructor
  · refine ⟨flights.own, ?_, ?_, flights.alone, ?_⟩
    · rw [inFlight, promises]
      exact flights.flying
    · rw [inFlight]
      exact flights.owned
    · rw [promises]
      exact flights.waiting
  · exact numbered.keeps orders drawn fun j d n id found reserves => ⟨n, found, reserves⟩
  · refine ⟨?_, ids, ?_, ?_, ?_, ?_, ?_, booked.once, ?_, fun row member => (rows row member).2⟩
    · rw [orders]
      exact booked.one
    · rw [orders]
      exact fun row member => (rows row member).1
    · rw [promises, orders]
      exact booked.kept
    · rw [orders]
      exact booked.unmade
    · exact fun j d n found => (booked.tells j d n found).same (fun a member => orders.symm ▸ member) rfl
    · rw [orders]
      exact booked.taken
    · rw [orders]
      exact booked.shown

theorem Sound.outside (sound : Sound deps s ms t) (k : Outside) : Sound deps (Gateway.outside k s) ms t := by
  obtain ⟨orders, rows, promises, inFlight, drawn⟩ := outside_orders k s
  refine sound.elsewhere orders promises inFlight drawn (rows ▸ sound.booked.ids) fun row member => ?_
  rw [rows] at member
  exact ⟨sound.booked.rows row member, sound.booked.stored row member⟩

/-! ### Crashes and answers -/

theorem concerns_takes (taken : takes txHash e) : concerns e = some txHash := by
  unfold takes at taken
  split at taken
  · exact congrArg some (by simpa using taken)
  · cases taken

theorem concerns_shows (shown : shows txHash e = some a) : concerns e = some txHash := by
  unfold shows at shown
  split at shown
  · split_ifs at shown with same
    exact congrArg some same
  · split_ifs at shown with same
    exact congrArg some same
  · split_ifs at shown with same
    exact congrArg some same
  · cases shown

theorem accounted_row (may : accounted deps w t .crash) (seen : e ∈ t) (concern : concerns e = some txHash) :
    ∃ row ∈ w.shared.orderRows, row.settlement.txHash = txHash := by
  have all := List.all_eq_true.mp may e seen
  rw [concern] at all
  obtain ⟨row, found⟩ := Option.isSome_iff_exists.mp (show (findBySettlementTx w.shared.orderRows txHash).isSome from all)
  exact ⟨row, findBySettlementTx_some found⟩

section
variable (sound : Sound deps s ms t)
include sound

theorem Sound.crash
    (rows : ∀ e ∈ t, ∀ txHash, concerns e = some txHash → ∃ row ∈ s.orderRows, row.settlement.txHash = txHash) :
    Sound deps (restart s) (ms.map fun call => (call.1, none)) t := by
  obtain ⟨_, numbered, booked⟩ := sound
  have known := booked.rows
  constructor
  · exact Flights.crash
  · constructor
    · exact fun a member => numbered.drawn a (known a member)
    · exact fun a membera b memberb => numbered.distinct a (known a membera) b (known b memberb)
    · intro j d n id found
      cases mode_of_kill found
    · intro j k d e n l id found
      cases mode_of_kill found
  · constructor
    · exact fun a membera b memberb => booked.one a (known a membera) b (known b memberb)
    · exact booked.ids
    · exact fun row member => member
    · intro j d n p record found
      cases mode_of_kill found
    · intro j d n found
      cases mode_of_kill found
    · intro j d n found
      cases mode_of_kill found
    · intro txHash some_
      obtain ⟨e, member⟩ := List.exists_mem_of_ne_nil _ some_
      obtain ⟨seen, isTaken⟩ := mem_filter.mp member
      exact .inl (rows e seen txHash (concerns_takes isTaken))
    · exact booked.once
    · intro txHash a member
      obtain ⟨e, seen, shown⟩ := List.mem_filterMap.mp member
      obtain ⟨row, stored, same⟩ := rows e seen txHash (concerns_shows shown)
      obtain ⟨inMemory, own⟩ := booked.shown txHash a member
      -- In memory there is one record of a settlement, and the row is one.
      have equal := booked.one row (known row stored) a inMemory (same.trans own.symm)
      exact ⟨equal ▸ stored, own⟩
    · exact booked.stored

theorem Sound.writes (orders : s'.memory.orders = s.memory.orders) (rows : s'.orderRows = setOrder s.orderRows order)
    (promises : s'.promises = s.promises) (inFlight : s'.ordersInFlight = s.ordersInFlight)
    (drawn : s'.ordersDrawn = s.ordersDrawn) (member : order ∈ s.memory.orders)
    (shown : order ∈ recordsShown order.settlement.txHash t) : Sound deps s' ms t := by
  refine sound.elsewhere orders promises inFlight drawn (rows ▸ setOrder_ids order sound.booked.ids) fun row here => ?_
  rw [rows] at here
  rcases mem_setOrder here with rfl | old
  · exact ⟨member, shown⟩
  · exact ⟨sound.booked.rows row old, sound.booked.stored row old⟩

theorem Sound.places {p : Nat} {answer : Except Failure String}
    (mode : ms[i]? = some (c, some (c, .drawn p orderId createdAt))) (coherent : Coherent deps c orderId createdAt)
    (memory : s'.memory = s.memory) (rows : s'.orderRows = s.orderRows) (promises : s'.promises = s.promises)
    (inFlight : s'.ordersInFlight = s.ordersInFlight) (drawn : s'.ordersDrawn = s.ordersDrawn) :
    Sound deps s' (ms.set i (c, some (c, .placed p orderId createdAt answer)))
      (t ++ [.answered i c (.createOrder (orderInput c orderId)) answer]) := by
  have orders : s'.memory.orders = s.memory.orders := by rw [memory]
  have last : ∀ j, j ≠ i → lastOf j (t ++ [.answered i c (.createOrder (orderInput c orderId)) answer]) = lastOf j t :=
    fun j other => lastOf_other other rfl
  have told : Tells deps s' (t ++ [.answered i c (.createOrder (orderInput c orderId)) answer]) i c
      (.placed p orderId createdAt answer) := ⟨coherent, by rw [lastOf_append]; exact if_pos rfl⟩
  cases answer with
  | error e =>
    refine sound.keeps mode orders rows promises inFlight drawn (fun _ => rfl) last ?_ ?_ fun gone => by cases gone
    · exact fun txHash a member => by cases mem_recordsShown.mp member
    · rintro _ ⟨⟩
      exact ⟨rfl, ⟨rfl, fun _ h => h, fun h => h, (fun _ h => by cases h), fun h => by cases h⟩, told⟩
  | ok id =>
    obtain ⟨flights, numbered, booked⟩ := sound
    have unmade := booked.unmade i c _ mode rfl
    -- Nothing was taken before for a settlement whose order this call makes.
    have first : ordersTaken c.settlement.txHash t = [] := by
      by_contra some_
      rcases booked.taken _ some_ with ⟨a, member, same⟩ | ⟨j, d, n, found, same, isTaken⟩
      · exact unmade a member same
      · obtain ⟨q, owns⟩ := unmade_owner (taken_unmade isTaken)
        have equal := flights.one_maker mode found rfl owns same.symm
        subst equal
        rw [mode] at found
        cases found
        cases isTaken
    have takes_one : ∀ txHash, ordersTaken txHash (t ++ [.answered i c (.createOrder (orderInput c orderId)) (.ok id)]) =
        ordersTaken txHash t ++ if c.settlement.txHash = txHash then
          [.answered i c (.createOrder (orderInput c orderId)) (.ok id)] else [] := by
      intro txHash
      unfold ordersTaken
      rw [List.filter_append, List.filter_cons, List.filter_nil]
      by_cases same : c.settlement.txHash = txHash
      · simp [takes, orderInput, same]
      · simp [takes, orderInput, same]
    constructor
    · exact flights.keeps mode inFlight (by rw [promises]) (by rintro _ ⟨⟩; exact ⟨rfl, rfl, fun _ waits => by cases waits⟩)
        fun gone => by cases gone
    · exact numbered.keeps_set mode orders drawn (by rintro _ _ ⟨⟩ reserves; exact reserves)
    · apply booked.goes_on mode orders rows (fun p record kept => promises ▸ kept) ?_ ?_ last
      · exact fun txHash a member => by cases mem_recordsShown.mp member
      · rintro _ ⟨⟩ _
        exact unmade
      · rintro _ q record ⟨⟩ (owns | waits) kept
        · exact booked.kept i c _ q record mode (.inl owns) kept
        · cases waits
      · rintro _ ⟨⟩
        exact told
      · intro isTaken
        cases isTaken
      · intro txHash some_
        rw [takes_one] at some_
        by_cases same : c.settlement.txHash = txHash
        · exact .inr ⟨same, _, rfl, rfl⟩
        · rw [if_neg same, append_nil] at some_
          exact .inl some_
      · intro txHash
        rw [takes_one]
        by_cases same : c.settlement.txHash = txHash
        · rw [if_pos same, ← same, first]
          exact Nat.le_refl 1
        · rw [if_neg same, append_nil]
          exact booked.once txHash

theorem Sound.serve {m₀ : Mode} {input : Input} {answer : Except Failure o.Answer} (mode : ms[i]? = some (c, some m))
    (asks : Asks deps m₀ o m) (served : Gateway.serve o input s = some (answer, s')) :
    Sound deps s' (ms.set i (c, some ((stages deps).answer m o answer))) (t ++ [.answered i c o answer]) := by
  obtain ⟨c', stage⟩ := m
  obtain rfl : c' = c := sound.flights.own i c _ mode
  have told := sound.booked.tells i c' _ mode
  have last : ∀ j, j ≠ i → lastOf j (t ++ [.answered i c' o answer]) = lastOf j t := fun j other => lastOf_other other rfl
  cases o with
  | createOrder order =>
    have placing : ∃ p orderId createdAt, stage = .drawn p orderId createdAt ∧ order = orderInput c' orderId ∧
        Coherent deps c' orderId createdAt := by
      obtain ⟨c₀, stage₀⟩ := m₀
      cases stage₀ with
      | drawn p orderId createdAt =>
        obtain ⟨rfl, coherent, same⟩ := asks
        cases same
        exact ⟨p, orderId, createdAt, rfl, rfl, coherent⟩
      | _ => exact asks.elim
    obtain ⟨p, orderId, createdAt, rfl, rfl, coherent⟩ := placing
    rcases answerWrite_ok served with rfl | ⟨rfl, _⟩
    · exact sound.places mode coherent rfl rfl rfl rfl rfl
    · exact sound.places mode coherent rfl rfl rfl rfl rfl
  | saveOrder turn order =>
    have holding : stage = .again order ∨ ∃ p, stage = .made p order := by
      obtain ⟨c₀, stage₀⟩ := m₀
      cases stage₀ with
      | again record =>
        obtain ⟨rfl, same⟩ := asks
        exact .inl (Prod.mk.inj same).2
      | made p record =>
        obtain ⟨rfl, same⟩ := asks
        exact .inr ⟨p, (Prod.mk.inj same).2⟩
      | _ => exact asks.elim
    have holds : order ∈ s.memory.orders ∧ order.settlement.txHash = c'.settlement.txHash := by
      rcases holding with rfl | ⟨p, rfl⟩
      · exact told
      · exact told
    have stays : ∀ s₁ : Storefront, s₁.memory.orders = s.memory.orders → s₁.orderRows = s.orderRows →
        s₁.promises = s.promises → s₁.ordersInFlight = s.ordersInFlight → s₁.ordersDrawn = s.ordersDrawn →
        Sound deps s₁ (ms.set i (c', some (c', stage))) (t ++ [.answered i c' (.saveOrder turn order) answer]) := by
      intro s₁ orders rows promises inFlight drawn
      refine sound.keeps mode orders rows promises inFlight drawn (fun _ => rfl) last ?_ ?_ fun gone => by cases gone
      · exact fun txHash a member => shows_save holds (mem_recordsShown.mp member)
      · rintro _ ⟨⟩
        refine ⟨rfl, like_refl _, ?_⟩
        rcases holding with rfl | ⟨p, rfl⟩
        · exact ⟨orders.symm ▸ holds.1, holds.2⟩
        · exact ⟨orders.symm ▸ holds.1, holds.2⟩
    rw [Gateway.serve] at served
    split at served
    · rcases answerWrite_ok served with rfl | ⟨rfl, _⟩
      · -- Written, after the record has been shown.
        refine (stays (writeOver s) rfl rfl rfl rfl rfl).writes rfl rfl rfl rfl rfl holds.1 ?_
        rw [recordsShown_append]
        refine List.mem_append_right _ (mem_recordsShown.mpr ?_)
        exact if_pos rfl
      · exact stays _ rfl rfl rfl rfl rfl
    · cases served
  | orderInFlight p =>
    rw [Gateway.serve] at served
    split at served
    · rename_i result promise
      cases served
      have shows_nothing : ∀ txHash, ∀ a ∈ recordsShown txHash [(.answered i c' (.orderInFlight p) answer : Seen)],
          a ∈ s.memory.orders ∧ a.settlement.txHash = txHash := fun txHash a member => by cases mem_recordsShown.mp member
      obtain ⟨c₀, stage₀⟩ := m₀
      cases stage₀ with
      | waits q =>
        obtain ⟨rfl, same⟩ := asks
        cases same
        refine sound.keeps mode rfl rfl rfl rfl rfl (fun _ => rfl) last shows_nothing ?_ fun gone => by cases gone
        rintro _ ⟨⟩
        cases answer with
        | ok record =>
          refine ⟨rfl, ⟨rfl, (fun _ h => by cases h), (fun h => by cases h), (fun _ h => by cases h), fun h => by cases h⟩, ?_⟩
          exact sound.booked.kept i c' _ p record mode (.inr rfl) promise
        | error e =>
          exact ⟨rfl, ⟨rfl, (fun _ h => by cases h), (fun h => by cases h), (fun _ h => by cases h), fun h => by cases h⟩,
            trivial⟩
      | rests q =>
        obtain ⟨rfl, same⟩ := asks
        cases same
        refine sound.keeps mode rfl rfl rfl rfl rfl (fun _ => rfl) last shows_nothing ?_ fun gone => by cases gone
        rintro _ ⟨⟩
        refine ⟨rfl, ⟨rfl, (fun _ h => by cases h), (fun h => by cases h), (fun _ h => by cases h), fun h => by cases h⟩, ?_⟩
        cases answer with
        | ok record => exact sound.booked.kept i c' _ p record mode (.inl rfl) promise
        | error e => trivial
      | _ => exact asks.elim
    · cases served
  | _ =>
    obtain ⟨c₀, stage₀⟩ := m₀
    cases stage₀ <;> exact asks.elim

end

/-- An order that the platform has taken can be signed when its claims pass the receipt's schema. -/
theorem signed_of_schema {id : String} {issuedAt : Int} (coherent : Coherent deps c orderId createdAt)
    (schema : receiptClaimsSchema deps.crypto (placedClaims deps c orderId id issuedAt)) :
    ∃ issued, signed deps (placedRecord deps c orderId createdAt (.ok id)) issuedAt = .ok issued := by
  have claims : buildReceiptClaims (placedRecord deps c orderId createdAt (.ok id)) deps.config issuedAt =
      placedClaims deps c orderId id issuedAt := rfl
  have coherent_now : receiptIncoherence (placedClaims deps c orderId id issuedAt) = none := coherent
  obtain ⟨receipt, signs⟩ : ∃ receipt, signReceipt deps.crypto (placedClaims deps c orderId id issuedAt)
      deps.config.signingSecret = .ok receipt := by
    rw [signReceipt, if_neg (not_not_intro schema), coherent_now]
    exact ⟨_, rfl⟩
  refine ⟨(placedRecord deps c orderId createdAt (.ok id)).receipted deps.config receipt, ?_⟩
  rw [signed, claims, signs]
  rfl

theorem Sound.resumes (sound : Sound deps s ms t) (here : w.shared = s)
    (may : accounted deps w t (.resume i)) : Acting deps i s ms t := by
  refine ⟨sound, fun c m mode => ?_⟩
  obtain ⟨c', stage⟩ := m
  obtain rfl : c' = c := sound.flights.own i c _ mode
  have told := sound.booked.tells i c' _ mode
  cases stage with
  | placed p orderId createdAt answer =>
    obtain ⟨coherent, last⟩ : Coherent deps c' orderId createdAt ∧
      lastOf i t = some (.answered i c' (.createOrder (orderInput c' orderId)) answer) := told
    cases answer with
    | error e => trivial
    | ok id =>
      rw [accounted, last, here] at may
      exact signed_of_schema coherent may
  | _ => trivial

end

/-! ### Whole runs -/

/-- Calls of `fulfilPaidPurchase` on one order store. -/
def host : Host PaidPurchase Storefront Op Failure Op.Answer (OrderRecord × Bool) Input Outside where
  body := fulfilPaidPurchase deps
  serve := serve
  outside := outside
  restart := restart

theorem sound_opened (opensAt : Int) (platform : Platform) : Sound deps (opened opensAt platform) [] [] where
  flights :=
    { own := fun i c m found => by simp at found
      flying := fun i c m p found => by simp at found
      owned := fun txHash p flying => by cases flying
      alone := fun i j c d m n p found => by simp at found
      waiting := fun i c m p found => by simp at found }
  numbered :=
    { drawn := fun a member => by cases member
      distinct := fun a member => by cases member
      fresh := fun i c m id found => by simp at found
      apart := fun i j c d m n id found => by simp at found }
  booked :=
    { one := fun a member => by cases member
      ids := List.nodup_nil
      rows := fun row member => by cases member
      kept := fun i c m p record found => by simp at found
      unmade := fun i c m found => by simp at found
      tells := fun i c m found => by simp at found
      taken := fun txHash some_ => (some_ rfl).elim
      once := fun txHash => Nat.zero_le 1
      shown := fun txHash a member => by cases member
      stored := fun row member => by cases member }

theorem keeps_sound :
    Keeps (host deps) (stages deps) Ends (Sound deps) (Acting deps) fun w t a => accounted deps w t a where
  start {w ms t c} sound _ _ := by
    refine ⟨(c, .start), follows_fulfilPaidPurchase deps c, sound.start c, ?_⟩
    intro d m mode
    have last : (ms ++ [(c, some (c, Stage.start))])[ms.length]? = some (c, some (c, .start)) := by simp
    rw [last] at mode
    cases mode
    trivial
  resume sound _ may := sound.resumes rfl may
  sync {s ms t i c m s' m'} acting mode step := by
    obtain ⟨sound, signs⟩ := acting
    obtain ⟨sound', signs'⟩ := sound.turns mode (signs c m mode) step
    refine ⟨sound', fun d n found => ?_⟩
    obtain ⟨inside, _⟩ := List.getElem?_eq_some_iff.mp mode
    rw [List.getElem?_set_self inside] at found
    cases found
    exact signs'
  ask acting mode asks _ _ _ := acting.1.asks mode asks
  serve sound _ mode _ _ asks served := ⟨trivial, sound.serve mode asks served⟩
  finish acting mode ends _ _ := acting.1.finish mode ends
  outside sound _ := sound.outside _
  crash sound _ may := sound.crash fun _ seen _ concern => accounted_row may seen concern

theorem length_le_one {rows : List OrderRecord} (nodup : rows.Nodup) (same : ∀ a ∈ rows, ∀ b ∈ rows, a = b) :
    rows.length ≤ 1 := by
  cases rows with
  | nil => exact Nat.zero_le 1
  | cons a rest =>
    cases rest with
    | nil => exact Nat.le_refl 1
    | cons b rest =>
      have equal := same a mem_cons_self b (List.mem_cons_of_mem _ mem_cons_self)
      have apart := (List.nodup_cons.mp nodup).1
      rw [equal] at apart
      exact (apart mem_cons_self).elim

/-- In every run of calls on one order store, in which the receipt of a placed order passes its schema and no crash comes
    between an order and its row, each settlement is one order, one record and one receipt, whoever asks for it. -/
theorem ordered_once (opensAt : Int) (platform : Platform) (actions : List (Action PaidPurchase Input Outside))
    (may : ∀ before a after, actions = before ++ a :: after →
      accounted deps (Traces.exec (step (host deps)) ⟨opened opensAt platform, []⟩ before).1
        (Traces.exec (step (host deps)) ⟨opened opensAt platform, []⟩ before).2 a) :
    let run := Traces.exec (step (host deps)) ⟨opened opensAt platform, []⟩ actions
    ∀ txHash, OrderedOnce run.1.shared run.2 txHash := by
  intro run txHash
  have start : Holds (stages deps) Ends (Sound deps) ⟨opened opensAt platform, []⟩ [] :=
    ⟨[], sound_opened deps opensAt platform, aligned_nil⟩
  obtain ⟨ms, ⟨_, _, booked⟩, _⟩ := kept_along (keeps_sound deps) start actions may
  have one : ∀ a b : OrderRecord, a ∈ run.1.shared.memory.orders → b ∈ run.1.shared.memory.orders →
      a.settlement.txHash = txHash → b.settlement.txHash = txHash → a = b :=
    fun a b membera memberb samea sameb => booked.one a membera b memberb (samea.trans sameb.symm)
  constructor
  · exact booked.once txHash
  · intro a membera b memberb
    obtain ⟨inMemorya, samea⟩ := booked.shown txHash a membera
    obtain ⟨inMemoryb, sameb⟩ := booked.shown txHash b memberb
    exact one a b inMemorya inMemoryb samea sameb
  · apply length_le_one (List.Nodup.of_map _ booked.ids |>.filter _)
    intro a membera b memberb
    obtain ⟨ina, samea⟩ := mem_filter.mp membera
    obtain ⟨inb, sameb⟩ := mem_filter.mp memberb
    exact one a b (booked.rows a ina) (booked.rows b inb) (by simpa using samea) (by simpa using sameb)
  · intro row member same
    exact same ▸ booked.stored row member

/-! ### A product without a name -/

def teaPurchase (name : String) : PaidPurchase where
  quote := ⟨[⟨⟨"tea", "TEA-1", name, "1000", "CLP", some 5⟩, 1, 10000000, 10000000, "1000"⟩], 10000000, "1000", "CLP"⟩
  body := ⟨1, none, none, none⟩
  idempotencyKey := none
  settlement :=
    { txHash := teaTx
      network := STELLAR_TESTNET_CAIP2
      payer := answered.settled.payer
      payTo := teaRequirements.payTo
      asset := teaRequirements.asset
      amountAtomic := teaRequirements.amount
      settledAt := 0 }
  payer := answered.settled.payer.getD ""
  ucpCheckoutId := none
  consent := none

def goes (i : Nat) : List (Action PaidPurchase Input Outside) := [.perform i answered, .resume i]

/-- Two calls at once, a crash when both are over, and a third call. -/
def threeCalls : List (Action PaidPurchase Input Outside) :=
  ([.start (teaPurchase "Green tea"), .start (teaPurchase "Green tea")] : List (Action PaidPurchase Input Outside)) ++ goes 0 ++
    goes 0 ++ goes 1 ++ goes 1 ++ goes 0 ++
    ([.crash, .start (teaPurchase "Green tea")] : List (Action PaidPurchase Input Outside)) ++ goes 2

theorem ordered_once_sample :
    OrderedOnce (Traces.exec (step (host teaShop)) ⟨opened 0 (teaPlatform 5), []⟩ threeCalls).1.shared
      (Traces.exec (step (host teaShop)) ⟨opened 0 (teaPlatform 5), []⟩ threeCalls).2 teaTx :=
  ordered_once teaShop 0 (teaPlatform 5) threeCalls
    (Traces.along_run (show Traces.along _ (accounted teaShop) _ [] threeCalls from by decide +kernel)) teaTx

/-- The platform has a product whose name is empty: its order is made, no receipt can be signed, and the call fails. A
    second call for the same settlement makes a second order. -/
def namelessTwice : List (Action PaidPurchase Input Outside) :=
  ([.start (teaPurchase "")] : List (Action PaidPurchase Input Outside)) ++ goes 0 ++ goes 0 ++
    ([.start (teaPurchase "")] : List (Action PaidPurchase Input Outside)) ++ goes 1

theorem nameless_twice :
    ¬OrderedOnce (Traces.exec (step (host teaShop)) ⟨opened 0 (teaPlatform 5), []⟩ namelessTwice).1.shared
      (Traces.exec (step (host teaShop)) ⟨opened 0 (teaPlatform 5), []⟩ namelessTwice).2 teaTx := by
  intro once
  have two : (ordersTaken teaTx (Traces.exec (step (host teaShop)) ⟨opened 0 (teaPlatform 5), []⟩ namelessTwice).2).length =
      2 := by
    decide +kernel
  have one := once.taken
  omega

end AgentPey.OneOrder
