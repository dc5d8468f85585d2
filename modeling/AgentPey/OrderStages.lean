import AgentPey.PaidOrders
import AgentPey.Disciplines

/-!
The way from a settlement to its order, stage by stage. One call makes the order: it draws an id, asks the platform,
signs the receipt, stores the record and settles its promise. Every other call either finds the record or waits for
that promise, and stores what it was handed again.
-/
namespace AgentPey.OrderStages
open Receipts CheckoutSessions Orders Routines Gateway PaidOrders Disciplines

/-- How far a call has come: it has looked for nothing yet; it has the settlement's order; it waits for the call that
    makes it. Or it makes it: it has promised it, drawn its id, heard from the platform, taken the time for the receipt,
    stored the record; its promise is settled, it has heard so, and no longer stands in the way of others. -/
inductive Stage where
  | start
  | again (record : OrderRecord)
  | waits (promise : Nat)
  | makes (promise : Nat)
  | drawn (promise : Nat) (orderId : String) (createdAt : Int)
  | placed (promise : Nat) (orderId : String) (createdAt : Int) (answer : Except Failure String)
  | dated (promise : Nat) (orderId : String) (createdAt : Int) (answer : Except Failure String) (issuedAt : Int)
  | made (promise : Nat) (record : OrderRecord)
  | rests (promise : Nat)
  | told (promise : Nat) (answer : Except Failure OrderRecord)
  | ended (answer : Except Failure OrderRecord)
  | lost

/-- The promise of the order a call makes, as long as others find it. -/
def Stage.owner : Stage → Option Nat
  | .makes promise => some promise
  | .drawn promise _ _ => some promise
  | .placed promise _ _ _ => some promise
  | .dated promise _ _ _ _ => some promise
  | .made promise _ => some promise
  | .rests promise => some promise
  | .told promise _ => some promise
  | _ => none

def Stage.reserved : Stage → Option String
  | .drawn _ orderId _ => some orderId
  | .placed _ orderId _ _ => some orderId
  | .dated _ orderId _ _ _ => some orderId
  | _ => none

def Stage.unmade : Stage → Bool
  | .makes _ => true
  | .drawn _ _ _ => true
  | .placed _ _ _ _ => true
  | .dated _ _ _ _ _ => true
  | _ => false

/-- The platform has taken the order, and its record is not stored yet. -/
def Stage.taken : Stage → Bool
  | .placed _ _ _ (.ok _) => true
  | .dated _ _ _ (.ok _) _ => true
  | _ => false

def Stage.heeds (m : Stage) (p : Nat) : Prop := m.owner = some p ∨ m = .waits p

abbrev Mode := PaidPurchase × Stage

variable (deps : Deps)

def placedRecord (purchase : PaidPurchase) (orderId : String) (createdAt : Int) (answer : Except Failure String) :
    OrderRecord :=
  (newRecord deps.config purchase orderId createdAt).placed answer

def Coherent (purchase : PaidPurchase) (orderId : String) (createdAt : Int) : Prop :=
  receiptIncoherence (buildReceiptClaims (newRecord deps.config purchase orderId createdAt) deps.config createdAt) = none

def putOrder (order : OrderRecord) (s : Storefront) : Storefront :=
  { s with memory := { s.memory with orders := setOrder s.memory.orders order, writing := s.memory.writing + 1 } }

inductive Turns : Mode → Storefront → Storefront → Mode → Prop
  | duplicate {c s record} (found : findBySettlementTx s.memory.orders c.settlement.txHash = some record) :
      Turns (c, .start) s s (c, .again record)
  | running {c s promise} (unknown : findBySettlementTx s.memory.orders c.settlement.txHash = none)
      (flying : s.ordersInFlight (inFlightKey deps c.settlement.txHash) = some promise) :
      Turns (c, .start) s s (c, .waits promise)
  | free {c s} (unknown : findBySettlementTx s.memory.orders c.settlement.txHash = none)
      (free : s.ordersInFlight (inFlightKey deps c.settlement.txHash) = none) :
      Turns (c, .start) s (lookup deps c.settlement.txHash s).2 (c, .makes s.promises.length)
  | put {c s record} : Turns (c, .again record) s (putOrder record s) (c, .again record)
  | draw {c s promise} : Turns (c, .makes promise) s { s with ordersDrawn := s.ordersDrawn + 1 }
      (c, .drawn promise (deps.orderIds.newOrderId s.ordersDrawn) s.now)
  | date {c s promise orderId createdAt answer} : Turns (c, .placed promise orderId createdAt answer) s s
      (c, .dated promise orderId createdAt answer s.now)
  | make {c s promise orderId createdAt answer issuedAt issued}
      (signs : signed deps (placedRecord deps c orderId createdAt answer) issuedAt = .ok issued) :
      Turns (c, .dated promise orderId createdAt answer issuedAt) s (putOrder issued s) (c, .made promise issued)
  | refuse {c s promise orderId createdAt e} : Turns (c, .drawn promise orderId createdAt) s
      (settlePromise promise (.error e) s) (c, .rests promise)
  | unsigned {c s promise orderId createdAt answer issuedAt e}
      (fails : signed deps (placedRecord deps c orderId createdAt answer) issuedAt = .error e) :
      Turns (c, .dated promise orderId createdAt answer issuedAt) s (settlePromise promise (.error e) s) (c, .rests promise)
  | settle {c s promise record result} (same : ∀ other, result = .ok other → other = record) :
      Turns (c, .made promise record) s (settlePromise promise result s) (c, .rests promise)
  | forget {c s promise answer} : Turns (c, .told promise answer) s (forget deps c.settlement.txHash s) (c, .ended answer)

def Asks : Mode → Op → Mode → Prop
  | (c, .again record), .saveOrder _ order, m' => order = record ∧ m' = (c, .again record)
  | (c, .waits promise), .orderInFlight asked, m' => asked = promise ∧ m' = (c, .waits promise)
  | (c, .drawn promise orderId createdAt), .createOrder input, m' =>
    input = orderInput c orderId ∧ Coherent deps c orderId createdAt ∧ m' = (c, .drawn promise orderId createdAt)
  | (c, .made promise record), .saveOrder _ order, m' => order = record ∧ m' = (c, .made promise record)
  | (c, .rests promise), .orderInFlight asked, m' => asked = promise ∧ m' = (c, .rests promise)
  | _, _, _ => False

def Stage.places (m : Stage) (answer : Except Failure String) : Stage :=
  match m with
  | .drawn promise orderId createdAt => .placed promise orderId createdAt answer
  | m => m

def Stage.hears (m : Stage) (answer : Except Failure OrderRecord) : Stage :=
  match m with
  | .waits _ =>
    match answer with
    | .ok record => .again record
    | .error _ => .lost
  | .rests promise => .told promise answer
  | m => m

def stages : Discipline Storefront Op Failure Op.Answer Mode where
  sync := Turns deps
  ask := Asks deps
  expects _ _ := True
  answer m
    | .createOrder _, answer => (m.1, m.2.places answer)
    | .orderInFlight _, answer => (m.1, m.2.hears answer)
    | _, _ => m

/-- A call that is over has a settlement's order for its result, and stands in nobody's way. -/
def Ends (_ : PaidPurchase) (m : Mode) (result : Except Failure (OrderRecord × Bool)) : Prop :=
  m.2.owner = none ∧ ∀ record replayed, result = .ok (record, replayed) →
    m.2 = .again record ∨ m.2 = .ended (.ok record)

/-! ### The routines keep to the stages -/

theorem follows_keepReplayed (c : PaidPurchase) (record : OrderRecord) :
    Follows (stages deps) (c, .again record) (keepReplayed record) fun m result =>
      m = (c, .again record) ∧ ∀ other, result = .ok other → other = record := by
  intro s
  refine ⟨(c, .again record), .put, (c, .again record), ⟨rfl, rfl⟩, fun answer _ => ?_⟩
  cases answer with
  | ok u => exact ⟨rfl, fun _ same => (Except.ok.inj same).symm⟩
  | error e => exact ⟨rfl, fun _ impossible => by cases impossible⟩

/-- Where an attempt to make the order ends. -/
def Attempted (c : PaidPurchase) (promise : Nat) (m : Mode) (result : Except Failure OrderRecord) : Prop :=
  ∀ s, Turns deps m s (settlePromise promise result s) (c, .rests promise)

/-- The platform has answered, one way or the other. -/
def Placed (c : PaidPurchase) (promise : Nat) (orderId : String) (createdAt : Int) (m : Mode) :
    Except Failure (Except Failure String) → Prop
  | .ok answer => m = (c, .placed promise orderId createdAt answer)
  | .error _ => False

theorem follows_createOrder {c : PaidPurchase} {promise : Nat} {orderId : String} {createdAt : Int}
    (coherent : Coherent deps c orderId createdAt) :
    Follows (stages deps) (c, .drawn promise orderId createdAt) (ask (.createOrder (orderInput c orderId))).attempt
      (Placed c promise orderId createdAt) := by
  apply Follows.attempt
  have asks : Asks deps (c, .drawn promise orderId createdAt) (.createOrder (orderInput c orderId))
      (c, .drawn promise orderId createdAt) := ⟨rfl, coherent, rfl⟩
  exact ⟨_, asks, fun answer _ => follows_ofExcept rfl⟩

section
variable (c : PaidPurchase)
include c

/-- The receipt is signed and the record stored, or neither. -/
theorem follows_issue (promise : Nat) (orderId : String) (createdAt : Int) (answer : Except Failure String)
    (issuedAt : Int) : Follows (stages deps) (c, .dated promise orderId createdAt answer issuedAt)
      (do
        let issued ← liftM (signed deps (placedRecord deps c orderId createdAt answer) issuedAt)
        put issued
        pure issued : Gate OrderRecord)
      (Attempted deps c promise) := by
  cases signs : signed deps (placedRecord deps c orderId createdAt answer) issuedAt with
  | error e =>
    intro s
    exact .unsigned signs
  | ok issued =>
    intro s
    refine ⟨(c, .made promise issued), .make signs, (c, .made promise issued), ⟨rfl, rfl⟩, fun written _ => ?_⟩
    cases written with
    | ok u =>
      intro s'
      exact .settle fun other same => (Except.ok.inj same).symm
    | error e =>
      intro s'
      exact .settle fun other impossible => by cases impossible

theorem follows_createPaidOrder (promise : Nat) :
    Follows (stages deps) (c, .makes promise) (createPaidOrder deps c) (Attempted deps c promise) := by
  intro s
  refine ⟨_, .draw, ?_⟩
  dsimp only [Routine.bind]
  cases coherent : receiptIncoherence (buildReceiptClaims
      (newRecord deps.config c (deps.orderIds.newOrderId s.ordersDrawn) s.now) deps.config s.now) with
  | some incoherence =>
    intro s'
    exact .refuse
  | none =>
    apply (follows_createOrder deps coherent).seq
    · rintro _ answer rfl s'
      exact ⟨_, .date, follows_issue deps c promise _ _ answer _⟩
    · intro _ _ impossible
      exact impossible.elim

/-- The call that makes the order hears of its own promise, and lets others make one again. -/
theorem follows_own (promise : Nat) : Follows (stages deps) (c, .rests promise)
      ((ask (.orderInFlight promise)).finally_ (forget deps c.settlement.txHash)) fun m result =>
        m = (c, .ended result) := by
  apply Follows.finally_
  have asks : Asks deps (c, .rests promise) (.orderInFlight promise) (c, .rests promise) := ⟨rfl, rfl⟩
  refine ⟨_, asks, fun answer _ => follows_ofExcept ?_⟩
  intro s
  exact ⟨_, .forget, rfl⟩

theorem follows_again (record : OrderRecord) : Follows (stages deps) (c, .again record)
      (do
        let record ← keepReplayed record
        pure (record, true) : Gate (OrderRecord × Bool)) (Ends c) := by
  apply (follows_keepReplayed deps c record).seq
  · rintro _ other ⟨rfl, same⟩
    refine ⟨rfl, ?_⟩
    rintro _ _ ⟨⟩
    rw [same other rfl]
    exact .inl rfl
  · rintro _ e ⟨rfl, _⟩
    exact ⟨rfl, fun _ _ impossible => by cases impossible⟩

theorem follows_waits (promise : Nat) : Follows (stages deps) (c, .waits promise)
      (do
        let record ← ask (.orderInFlight promise)
        let record ← keepReplayed record
        pure (record, true) : Gate (OrderRecord × Bool)) (Ends c) := by
  apply Follows.seq (R := fun m result => m = (c, (Stage.waits promise).hears result))
  · have asks : Asks deps (c, .waits promise) (.orderInFlight promise) (c, .waits promise) := ⟨rfl, rfl⟩
    exact ⟨_, asks, fun answer _ => follows_ofExcept rfl⟩
  · rintro _ record rfl
    exact follows_again deps c record
  · rintro _ e rfl
    exact ⟨rfl, fun _ _ impossible => by cases impossible⟩

theorem follows_makes (promise : Nat) : Follows (stages deps) (c, .makes promise)
      (do
        let result ← (createPaidOrder deps c).attempt
        Routine.modify (settlePromise promise result)
        let record ← (ask (.orderInFlight promise)).finally_ (forget deps c.settlement.txHash)
        pure (record, false) : Gate (OrderRecord × Bool)) (Ends c) := by
  apply Follows.seq (R := fun m result => ∃ made, result = .ok made ∧ Attempted deps c promise m made)
  · apply Follows.attempt
    exact (follows_createPaidOrder deps c promise).imp fun m result attempted => ⟨result, rfl, attempted⟩
  · rintro m _ ⟨made, ⟨⟩, attempted⟩ s
    refine ⟨_, attempted s, ?_⟩
    apply (follows_own deps c promise).seq
    · rintro _ record rfl
      refine ⟨rfl, ?_⟩
      rintro _ _ ⟨⟩
      exact .inr rfl
    · rintro _ e rfl
      exact ⟨rfl, fun _ _ impossible => by cases impossible⟩
  · rintro _ _ ⟨_, ⟨⟩, _⟩

theorem follows_fulfilPaidPurchase : Follows (stages deps) (c, .start) (fulfilPaidPurchase deps c) (Ends c) := by
  intro s
  cases known : findBySettlementTx s.memory.orders c.settlement.txHash with
  | some record =>
    have looked : lookup deps c.settlement.txHash s = (.duplicate record, s) := by simp [lookup, known]
    refine ⟨(c, .again record), ?_, ?_⟩
    · change Turns deps _ s (lookup deps c.settlement.txHash s).2 _
      rw [looked]
      exact .duplicate known
    · simp only [Routine.bind, looked]
      exact follows_again deps c record
  | none =>
    cases flying : s.ordersInFlight (inFlightKey deps c.settlement.txHash) with
    | some promise =>
      have looked : lookup deps c.settlement.txHash s = (.running promise, s) := by simp [lookup, known, flying]
      refine ⟨(c, .waits promise), ?_, ?_⟩
      · change Turns deps _ s (lookup deps c.settlement.txHash s).2 _
        rw [looked]
        exact .running known flying
      · simp only [Routine.bind, looked]
        exact follows_waits deps c promise
    | none =>
      have looked : (lookup deps c.settlement.txHash s).1 = .free s.promises.length := by simp [lookup, known, flying]
      refine ⟨(c, .makes s.promises.length), .free known flying, ?_⟩
      simp only [Routine.bind, looked]
      exact follows_makes deps c s.promises.length

end

end AgentPey.OrderStages
