import AgentPey.DecimalTexts
import AgentPey.OneOrder

/-!
What becomes of an order that the platform has made (`createPaidOrder`, `signReceipt`). Before the platform is asked, the
receipt's amounts and its asset are checked; the schema of the whole document only when the receipt is signed, and by
then the platform's order exists.
-/
namespace AgentPey.ReceiptedOrders
open Receipts DecimalTexts CheckoutSessions Orders Routines Gateway PaidOrders OrderStages OneOrder

/-! ### Written amounts -/

theorem decimal_written (atomic : Nat) : decimalStringSchema (usdcAtomicToDecimal atomic) = true := by
  obtain ⟨whole, fraction, decimal, text, _⟩ := formatUnits_written atomic USDC_DECIMALS
  rw [decimalStringSchema, usdcAtomicToDecimal, text, decimal.parts]
  rfl

theorem sameAmount_written (atomic : Nat) : sameAmount (usdcAtomicToDecimal atomic) atomic = true := by
  rw [sameAmount, usdcAtomicToDecimal, parseDecimal_formatUnits]
  exact decide_eq_true rfl

/-! ### What a receipt asks for -/

/-- A line that a receipt may list. -/
structure Listable (line : CheckoutQuote) : Prop where
  productId : line.product.id ≠ ""
  sku : line.product.sku ≠ ""
  name : line.product.name ≠ ""
  quantity : 0 < line.quantity

/-- The settings of a store that can sign receipts at all. -/
structure Documented (deps : Deps) : Prop where
  platform : deps.config.adapterName ≠ ""
  merchantDid : stellarDidSchema ("did:stellar:testnet:" ++ deps.config.signingAccount) = true
  merchantAccount : deps.crypto.isStellarAccount deps.config.merchantAccount = true
  escrow : ∀ escrow, deps.config.escrowId = some escrow → deps.crypto.isStellarContractId escrow = true

/-- Of a purchase, the number of its order, the platform's answer and the time: what the precheck does not look at. -/
structure Receiptable (deps : Deps) (purchase : PaidPurchase) (orderId : String) (answer : Except Failure String)
    (issuedAt : Int) : Prop where
  store : Documented deps
  number : orderId ≠ ""
  platformOrderId : answer ≠ .ok ""
  payer : stellarPayerSchema deps.crypto purchase.payer = true
  asset : deps.crypto.isStellarContractId purchase.settlement.asset = true
  txHash : txHashSchema purchase.settlement.txHash = true
  some_line : purchase.quote.lines ≠ []
  lines : ∀ line ∈ purchase.quote.lines, Listable line
  issued : isoDatetime issuedAt = true
  refundable : isoDatetime (issuedAt + deps.config.refundWindowSeconds * 1000) = true

variable {deps : Deps} {purchase : PaidPurchase}

theorem receiptItemSchema_iff (line : CheckoutQuote) :
    receiptItemSchema ⟨line.product.id, line.product.sku, line.product.name, line.quantity, usdcAtomicToDecimal line.unitAtomic,
      line.unitAtomic⟩ = true ↔ Listable line := by
  constructor
  · intro schema
    simp only [receiptItemSchema, Bool.and_eq_true, decide_eq_true_eq] at schema
    obtain ⟨⟨⟨⟨id, sku⟩, name⟩, quantity⟩, _⟩ := schema
    exact ⟨id, sku, name, quantity⟩
  · intro listable
    simp only [receiptItemSchema, Bool.and_eq_true, decide_eq_true_eq]
    exact ⟨⟨⟨⟨listable.productId, listable.sku⟩, listable.name⟩, listable.quantity⟩, decimal_written _⟩

theorem placed_platformOrderId (orderId : String) (createdAt : Int) (answer : Except Failure String) :
    (placedRecord deps purchase orderId createdAt answer).platformOrderId ≠ some "" ↔ answer ≠ .ok "" := by
  cases answer <;> simp [placedRecord, OrderRecord.placed, newRecord]

/-- The claims of the receipt for an order that the platform has answered for. -/
def claimsOf (deps : Deps) (purchase : PaidPurchase) (orderId : String) (createdAt : Int) (answer : Except Failure String)
    (issuedAt : Int) : ReceiptClaims :=
  buildReceiptClaims (placedRecord deps purchase orderId createdAt answer) deps.config issuedAt

theorem claims_same (orderId : String) (createdAt : Int) (answer : Except Failure String) (issuedAt : Int) :
    claimsOf deps purchase orderId createdAt answer issuedAt =
      { buildReceiptClaims (newRecord deps.config purchase orderId createdAt) deps.config issuedAt with
        platformOrderId := (placedRecord deps purchase orderId createdAt answer).platformOrderId } := by
  cases answer <;> rfl

/-- The schema of a receipt is what is asked of its purchase. -/
theorem schema_iff (orderId : String) (createdAt : Int) (answer : Except Failure String) (issuedAt : Int) :
    receiptClaimsSchema deps.crypto (claimsOf deps purchase orderId createdAt answer issuedAt) = true ↔
      Receiptable deps purchase orderId answer issuedAt := by
  have items : ((purchase.quote.lines.map fun line : CheckoutQuote => (⟨line.product.id, line.product.sku, line.product.name,
      line.quantity, usdcAtomicToDecimal line.unitAtomic, line.unitAtomic⟩ : ReceiptItem)).all receiptItemSchema = true) ↔
        ∀ line ∈ purchase.quote.lines, Listable line := by
    rw [List.all_eq_true, List.forall_mem_map]
    exact forall₂_congr fun line _ => receiptItemSchema_iff line
  have escrow : deps.config.escrowId.all deps.crypto.isStellarContractId = true ↔
      ∀ escrow, deps.config.escrowId = some escrow → deps.crypto.isStellarContractId escrow = true := by
    cases deps.config.escrowId <;> simp
  rw [claims_same]
  constructor
  · intro schema
    simp only [receiptClaimsSchema, buildReceiptClaims, newRecord, List.map_map, Function.comp_def, Bool.and_eq_true,
      decide_eq_true_eq, placed_platformOrderId, items, escrow, ne_eq, List.map_eq_nil_iff] at schema
    obtain ⟨⟨⟨⟨⟨⟨⟨⟨⟨⟨⟨⟨⟨⟨⟨_, number⟩, placed⟩, platform⟩, did⟩, account⟩, payer⟩, _⟩, asset⟩, _⟩, txHash⟩, some_line⟩, lines⟩,
      issued⟩, refundable⟩, held⟩ := schema
    exact ⟨⟨platform, did, account, held⟩, number, placed, payer, asset, txHash, some_line, lines, issued, refundable⟩
  · intro receiptable
    obtain ⟨⟨platform, did, account, held⟩, number, placed, payer, asset, txHash, some_line, lines, issued, refundable⟩ :=
      receiptable
    simp only [receiptClaimsSchema, buildReceiptClaims, newRecord, List.map_map, Function.comp_def, Bool.and_eq_true,
      decide_eq_true_eq, placed_platformOrderId, items, escrow, ne_eq, List.map_eq_nil_iff]
    exact ⟨⟨⟨⟨⟨⟨⟨⟨⟨⟨⟨⟨⟨⟨⟨trivial, number⟩, placed⟩, platform⟩, did⟩, account⟩, payer⟩, trivial⟩, asset⟩, decimal_written _⟩, txHash⟩,
      some_line⟩, lines⟩, issued⟩, refundable⟩, held⟩

/-! ### After the platform has answered -/

/-- What is left of the call then. -/
def afterPlatform (deps : Deps) (purchase : PaidPurchase) (orderId : String) (createdAt : Int) (answer : Except Failure String) :
    Gate OrderRecord := do
  let issuedAt ← now
  let issued ← liftM (signed deps (placedRecord deps purchase orderId createdAt answer) issuedAt)
  put issued
  pure issued

variable {s : Storefront}

/-- The platform is asked for an order whose receipt, as far as the precheck looks, is coherent. -/
theorem platform_asked {s' : Storefront} {input : CreateOrderInput} {rest : Except Failure String → Gate OrderRecord}
    (placing : (createPaidOrder deps purchase).advance s = (.waiting (.createOrder input) rest, s')) :
    Coherent deps purchase (deps.orderIds.newOrderId s.ordersDrawn) s.now ∧
      rest = afterPlatform deps purchase (deps.orderIds.newOrderId s.ordersDrawn) s.now := by
  dsimp only [createPaidOrder, drawOrder, Routine.atomic, bind, Routine.bind, Routine.advance] at placing
  cases incoherent : receiptIncoherence (buildReceiptClaims
      (newRecord deps.config purchase (deps.orderIds.newOrderId s.ordersDrawn) s.now) deps.config s.now) with
  | some incoherence =>
    rw [incoherent] at placing
    cases placing
  | none =>
    rw [incoherent] at placing
    refine ⟨incoherent, ?_⟩
    cases placing
    funext answer
    cases answer <;> rfl

/-- The receipt of the order is signed, and the order stored with it. -/
def Recorded (deps : Deps) (purchase : PaidPurchase) (orderId : String) (createdAt : Int) (answer : Except Failure String)
    (rest : Gate OrderRecord) (s : Storefront) : Prop :=
  ∃ receipt,
    signReceipt deps.crypto (claimsOf deps purchase orderId createdAt answer s.now) deps.config.signingSecret = .ok receipt ∧
      ∃ record stored, record = (placedRecord deps purchase orderId createdAt answer).receipted deps.config receipt ∧
        rest.advance s = (.waiting (.saveOrder s.memory.writing record) stored, putOrder record s)

section
variable {orderId : String} {createdAt : Int} {answer : Except Failure String} {s : Storefront}

theorem recorded_of_signed {receipt : Receipt}
    (signs : signReceipt deps.crypto (claimsOf deps purchase orderId createdAt answer s.now) deps.config.signingSecret =
      .ok receipt) :
    Recorded deps purchase orderId createdAt answer (afterPlatform deps purchase orderId createdAt answer) s := by
  have issues : signed deps (placedRecord deps purchase orderId createdAt answer) s.now =
      .ok ((placedRecord deps purchase orderId createdAt answer).receipted deps.config receipt) := by
    rw [signed, ← claimsOf, signs]
    rfl
  let record := (placedRecord deps purchase orderId createdAt answer).receipted deps.config receipt
  refine ⟨receipt, signs, record, fun written => do Routine.ofExcept written; pure record, rfl, ?_⟩
  change (Routine.bind (liftM (signed deps (placedRecord deps purchase orderId createdAt answer) s.now) : Gate OrderRecord)
    _).advance s = _
  rw [issues]
  rfl

/-- What the precheck has found coherent is signed when its schema admits it. -/
theorem signs_iff (coherent : Coherent deps purchase orderId createdAt) (issuedAt : Int) :
    (∃ receipt, signReceipt deps.crypto (claimsOf deps purchase orderId createdAt answer issuedAt) deps.config.signingSecret =
      .ok receipt) ↔ Receiptable deps purchase orderId answer issuedAt := by
  have coherent_now : receiptIncoherence (claimsOf deps purchase orderId createdAt answer issuedAt) = none := by
    rw [claims_same]
    exact coherent
  rw [← schema_iff orderId createdAt answer issuedAt, signReceipt, coherent_now]
  by_cases schema : receiptClaimsSchema deps.crypto (claimsOf deps purchase orderId createdAt answer issuedAt) = true
  · simp [schema]
  · simp [schema]

end

/-- An order that the platform was asked for is recorded with its receipt, whatever the platform has answered and whenever
    the call goes on, exactly when the purchase, the answer and the time are ones that a receipt's schema admits. -/
theorem recorded_iff_receiptable {s s' : Storefront} {input : CreateOrderInput}
    {rest : Except Failure String → Gate OrderRecord}
    (placing : (createPaidOrder deps purchase).advance s = (.waiting (.createOrder input) rest, s'))
    (answer : Except Failure String) (later : Storefront) :
    Recorded deps purchase (deps.orderIds.newOrderId s.ordersDrawn) s.now answer (rest answer) later ↔
      Receiptable deps purchase (deps.orderIds.newOrderId s.ordersDrawn) answer later.now := by
  obtain ⟨coherent, rfl⟩ := platform_asked placing
  constructor
  · rintro ⟨receipt, signs, _⟩
    exact (signs_iff coherent later.now).mp ⟨receipt, signs⟩
  · intro receiptable
    obtain ⟨receipt, signs⟩ := (signs_iff coherent later.now).mpr receiptable
    exact recorded_of_signed signs

/-! ### A product without a name -/

variable (deps purchase) in
/-- A purchase that passes its check before anything is sent reaches the platform. -/
theorem platform_asked_of_coherent (coherent : Coherent deps purchase (deps.orderIds.newOrderId s.ordersDrawn) s.now) :
    ∃ s', (createPaidOrder deps purchase).advance s =
      (.waiting (.createOrder (orderInput purchase (deps.orderIds.newOrderId s.ordersDrawn)))
        (afterPlatform deps purchase (deps.orderIds.newOrderId s.ordersDrawn) s.now), s') := by
  refine ⟨{ s with ordersDrawn := s.ordersDrawn + 1 }, ?_⟩
  dsimp only [createPaidOrder, drawOrder, Routine.atomic, bind, Routine.bind, Routine.advance]
  rw [show receiptIncoherence _ = none from coherent]
  refine congrArg (fun rest => (Phase.waiting _ rest, _)) (funext fun answer => ?_)
  cases answer <;> rfl

def teaOrder : String := teaShop.orderIds.newOrderId 0

/-- An order of green tea is recorded with its receipt. -/
theorem recorded_iff_receiptable_sample : Recorded teaShop (teaPurchase "Green tea") teaOrder 0 (.ok "7001")
    (afterPlatform teaShop (teaPurchase "Green tea") teaOrder 0 (.ok "7001")) (opened 0 (teaPlatform 5)) := by
  obtain ⟨s', placing⟩ := platform_asked_of_coherent teaShop (teaPurchase "Green tea")
    (s := opened 0 (teaPlatform 5)) (by unfold Coherent; decide)
  apply (recorded_iff_receiptable placing (.ok "7001") (opened 0 (teaPlatform 5))).mpr
  apply (schema_iff teaOrder 0 _ _).mp
  decide

/-- The platform takes the order of a product without a name, and no receipt of it can be signed: the call fails. -/
theorem nameless_unrecorded : ∃ rest s', (createPaidOrder teaShop (teaPurchase "")).advance (opened 0 (teaPlatform 5)) =
    (.waiting (.createOrder (orderInput (teaPurchase "") teaOrder)) rest, s') ∧
      ¬Recorded teaShop (teaPurchase "") teaOrder 0 (.ok "7001") (rest (.ok "7001")) (opened 0 (teaPlatform 5)) := by
  obtain ⟨s', placing⟩ := platform_asked_of_coherent teaShop (teaPurchase "")
    (s := opened 0 (teaPlatform 5)) (by unfold Coherent; decide)
  refine ⟨_, s', placing, ?_⟩
  rintro ⟨receipt, signs, _⟩
  have refused : receiptClaimsSchema teaShop.crypto (claimsOf teaShop (teaPurchase "") teaOrder 0 (.ok "7001") 0) = false := by
    decide
  change signReceipt _ (claimsOf teaShop (teaPurchase "") teaOrder 0 (.ok "7001") 0) _ = _ at signs
  rw [signReceipt, refused, if_pos (by decide)] at signs
  cases signs

end AgentPey.ReceiptedOrders
