import AgentPey.ReceiptedOrders
import AgentPey.SessionCoherence

/-!
Whether a completion that is paid can be finished, for any platform that may name a product by another id than the one it
was asked for. Of what `finish` checks once the money has moved, everything but the ids of the quoted products follows
from what a charged session is.
-/
namespace AgentPey.PaidCompletions
open Receipts CheckoutSessions Orders Routines Gateway PaidOrders UcpCheckout Disciplines SessionWrites SessionCoherence
open ReceiptedOrders

/-! ### What finish refuses -/

variable (deps : Deps)

/-- `finish` refuses a paid session as one whose settlement is not accounted for: by its quote, or because no receipt of
    the purchase would be coherent. -/
def Refused (session : CheckoutSession) : Prop :=
  (∃ reason, paidPurchase deps session = .error (unaccountedFor reason)) ∨
    ∃ purchase orderId createdAt reason, paidPurchase deps session = .ok purchase ∧
      receiptIncoherence (buildReceiptClaims (newRecord deps.config purchase orderId createdAt) deps.config createdAt) =
        some reason

/-- Whatever a charged session's settlement is, and whenever it comes, `finish` does not refuse it. -/
def Finishable (session : CheckoutSession) (requirements : StoredRequirements) : Prop :=
  ∀ response settledAt, response.success → ¬Refused deps (settledSession session requirements response settledAt)

def SameIds (session : CheckoutSession) : Prop :=
  ∀ quote, session.quote = some quote → quote.lines.map QuotedLine.productId = session.lines.map SessionLine.productId

/-- The platform names products as it likes; the library builds requirements in USDC. -/
def asNamed : Providers := ⟨fun _ _ => True, fun asset => asset = USDC_CONTRACT⟩

section
variable {deps} {session : CheckoutSession} {requirements : StoredRequirements}
variable {currency : String} {e : Failure}

theorem currencyDecimals_error (fails : currencyDecimals currency = .error e) :
    ∃ content, e = .vitrinee .validationError content := by
  unfold currencyDecimals at fails
  split at fails
  all_goals cases fails
  exact ⟨_, rfl⟩

variable {decimals : Nat} {lines : List CheckoutQuote} {quoted : List QuotedLine}

theorem parseDecimal_error {value : String} (fails : parseDecimal value decimals = .error e) :
    ∃ content, e = .vitrinee .validationError content := by
  unfold parseDecimal at fails
  split at fails
  · cases fails
    exact ⟨_, rfl⟩
  · split at fails
    · cases fails
      exact ⟨_, rfl⟩
    · cases fails

theorem bind_error {α β : Type} {x : Except Failure α} {f : α → Except Failure β} (fails : (x >>= f) = .error e) :
    x = .error e ∨ ∃ a, x = .ok a ∧ f a = .error e := by
  cases x with
  | error e' =>
    cases fails
    exact .inl rfl
  | ok a => exact .inr ⟨a, rfl, fails⟩

theorem addLines_error
    (fails : addLines currency decimals lines = .error e) : ∃ content, e = .vitrinee .validationError content := by
  induction lines with
  | nil => cases fails
  | cons line rest ih =>
    rw [addLines] at fails
    dsimp only at fails
    split at fails
    · cases fails
      exact ⟨_, rfl⟩
    · rcases bind_error fails with unparsed | ⟨amount, _, fails⟩
      · exact parseDecimal_error unparsed
      · rcases bind_error fails with rests | ⟨totals, _, fails⟩
        · exact ih rests
        · cases fails

theorem purchaseQuote_error (fails : purchaseQuote lines = .error e) : ∃ content, e = .vitrinee .validationError content := by
  cases lines with
  | nil =>
    cases fails
    exact ⟨_, rfl⟩
  | cons first rest =>
    rcases bind_error fails with unknown | ⟨decimals, _, fails⟩
    · exact currencyDecimals_error unknown
    · rcases bind_error fails with added | ⟨totals, _, fails⟩
      · exact addLines_error added
      · cases fails

/-- The lines that `finish` adds up cost what the quote says. -/
theorem quoted_totals {lines : List SessionLine} (same : quoted.length = lines.length) :
    ((lines.zip quoted).map fun (line, q) => quotedProduct line q currency).map CheckoutQuote.totalAtomic =
      quoted.map QuotedLine.totalAtomic := by
  rw [List.map_map]
  conv_rhs => rw [← List.map_snd_zip (show quoted.length ≤ lines.length from same.le), List.map_map]
  rfl

theorem quoted_units {lines : List SessionLine} (prices : List.Forall₂ (PricesAs asNamed) lines quoted) :
    (((lines.zip quoted).map fun (line, q) => quotedProduct line q currency).map fun line => line.unitAtomic * line.quantity) =
      quoted.map QuotedLine.totalAtomic := by
  induction prices with
  | nil => rfl
  | cons price _ ih =>
    simp only [List.zip_cons_cons, List.map_cons] at ih ⊢
    rw [ih, price.2]
    rfl

/-- A purchase whose lines add up to its settlement in USDC can back a receipt. -/
theorem coherent_purchase {purchase : PaidPurchase} (orderId : String) (createdAt : Int)
    (asset : purchase.settlement.asset = USDC_CONTRACT)
    (sum : (purchase.quote.lines.map fun line => line.unitAtomic * line.quantity).sum = purchase.settlement.amountAtomic) :
    receiptIncoherence (buildReceiptClaims (newRecord deps.config purchase orderId createdAt) deps.config createdAt) = none := by
  have items : ∀ item ∈ (buildReceiptClaims (newRecord deps.config purchase orderId createdAt) deps.config createdAt).items,
      sameAmount item.unitPriceUSDC item.unitPriceUSDCAtomic = true := by
    intro item member
    simp only [buildReceiptClaims, List.mem_map] at member
    obtain ⟨_, _, rfl⟩ := member
    exact sameAmount_written _
  have none_ : (buildReceiptClaims (newRecord deps.config purchase orderId createdAt) deps.config createdAt).items.find?
      (fun item => ¬sameAmount item.unitPriceUSDC item.unitPriceUSDCAtomic) = none := by
    rw [List.find?_eq_none]
    intro item member
    simp [items item member]
  have total : ((buildReceiptClaims (newRecord deps.config purchase orderId createdAt) deps.config createdAt).items.map
      fun item => item.unitPriceUSDCAtomic * item.quantity).sum = purchase.settlement.amountAtomic := by
    simpa [buildReceiptClaims, newRecord, Function.comp_def] using sum
  rw [receiptIncoherence, if_neg (by exact not_not_intro asset), if_neg (by exact not_not_intro (sameAmount_written _)), none_]
  exact if_neg (not_not_intro total)

/-- A charged session can be finished exactly when its quote names the products of its lines: its total, what was paid and
    the receipt's amounts agree in any case. -/
theorem finishable_iff (charged : Charged asNamed session requirements) :
    Finishable deps session requirements ↔ SameIds session := by
  obtain ⟨⟨termed, quotes, _⟩, _, terms⟩ := charged
  obtain ⟨asset, quote, quoted, amount⟩ := termed requirements terms
  obtain ⟨prices, total⟩ := quotes quote quoted
  constructor
  · intro finishable other same
    rw [quoted] at same
    cases same
    by_contra differ
    -- Any settlement whose payer is known is refused.
    apply finishable ⟨true, "", "", some "", none⟩ 0 rfl
    refine .inl ⟨"the checkout's quote is not for its lines", ?_⟩
    rw [paidPurchase]
    simp only [settledSession, quoted]
    show (if _ then _ else _) = _
    rw [if_pos differ]
    rfl
  · intro sameIds response settledAt _ refused
    have same := sameIds quote quoted
    have length : quote.lines.length = session.lines.length := by simpa using congrArg List.length same
    have paid : ∀ payer, (response.payer <|> session.paymentKey.bind deps.crypto.payerFromTransactionXdr) = some payer →
        paidPurchase deps (settledSession session requirements response settledAt) = (do
          let whole ← purchaseQuote ((session.lines.zip quote.lines).map fun (line, q) => quotedProduct line q quote.currency)
          pure
            { quote := whole
              body := bodyFor (settledSession session requirements response settledAt)
              idempotencyKey := session.completeIdempotencyKey
              settlement :=
                { txHash := response.transaction
                  network := response.network
                  payer := some payer
                  payTo := requirements.payTo
                  asset := requirements.asset
                  amountAtomic := requirements.amount
                  settledAt := settledAt }
              payer := payer
              ucpCheckoutId := some session.id
              consent := if deps.config.recordsBuyerConsent then some (buyerConsentOf session.consent) else none }) := by
      intro payer known
      rw [paidPurchase]
      simp only [settledSession, quoted, known, same, ne_eq, not_true_eq_false, if_false]
      cases summed : purchaseQuote ((session.lines.zip quote.lines).map fun (line, q) => quotedProduct line q quote.currency) with
      | error e => rfl
      | ok whole =>
        have sum : whole.totalAtomic = quote.totalAtomic := by
          rw [(purchaseQuote_ok summed).2, quoted_totals length, total]
        have accounted : ¬(whole.totalAtomic ≠ quote.totalAtomic ∨ whole.totalAtomic ≠ requirements.amount) := by
          rw [sum, amount]
          simp
        simp only [bind, Except.bind, if_neg accounted]
    cases known : (response.payer <|> session.paymentKey.bind deps.crypto.payerFromTransactionXdr) with
    | none =>
      have unpaid : paidPurchase deps (settledSession session requirements response settledAt) =
          .error (.vitrinee .paymentError "payment settled but the payer account could not be determined") := by
        rw [paidPurchase]
        simp only [settledSession, quoted, known]
      rcases refused with ⟨reason, fails⟩ | ⟨_, _, _, _, pays, _⟩
      · rw [unpaid] at fails
        cases fails
      · rw [unpaid] at pays
        cases pays
    | some payer =>
      rcases refused with ⟨reason, fails⟩ | ⟨purchase, orderId, createdAt, reason, pays, incoherent⟩
      · rw [paid payer known] at fails
        rcases bind_error fails with unquoted | ⟨_, _, fails⟩
        · obtain ⟨content, same⟩ := purchaseQuote_error unquoted
          cases same
        · cases fails
      · rw [paid payer known] at pays
        obtain ⟨whole, summed, pays⟩ := bind_ok pays
        cases pays
        refine Option.some_ne_none reason (incoherent.symm.trans (coherent_purchase _ _ ?_ ?_))
        · exact asset
        · rw [(purchaseQuote_ok summed).1, quoted_units prices, amount, total]

end

/-! ### Runs on a platform with names of its own -/

/-- A product as the platform has it, under the id that the platform has for it. -/
def canonical (platform : Platform) (id : String) : Option Product :=
  (platform.products id).map fun product => { product with stock := platform.stock product.id }

def serveCanonical : (o : Op) → Input → Storefront → Option (Except Failure o.Answer × Storefront)
  | .getProduct id, input, s => answerWith input (canonical s.platform id) s
  | o, input, s => serve o input s

def canonicalHost : Host Request Storefront Op Failure Op.Answer Reply Input Outside where
  body := route deps
  serve := serveCanonical
  outside := outside
  restart := restart

/-- What the x402 library says of `buildPaymentRequirements`: the requirements it builds ask for the price it is given,
    in the asset of the price. -/
def buildsUsdc (w : Running) (a : Action Request Input Outside) : Bool :=
  builds w a &&
    match a with
    | .perform i input =>
      match w.calls[i]? with
      | some (_, .waiting (.buildPaymentRequirements ..) _) => input.requirements.all (·.asset = USDC_CONTRACT)
      | _ => true
    | _ => true

abbrev Seen := Event Request Op Failure Op.Answer Reply

def savedBy : Op → Option CheckoutSession
  | .saveSession session => some session
  | _ => none

/-- The version of a session that a call has asked to store last, after one more event. -/
def laterSaved (i : Nat) (last : Option CheckoutSession) : Seen → Option CheckoutSession
  | .asked j _ o => if j = i then (savedBy o).or last else last
  | _ => last

def lastSaved (i : Nat) (t : List Seen) : Option CheckoutSession := t.foldl (laterSaved i) none

@[simp] theorem lastSaved_append (i : Nat) (t : List Seen) (e : Seen) :
    lastSaved i (t ++ [e]) = laterSaved i (lastSaved i t) e := by
  simp [lastSaved]

variable {o : Op} {i : Nat}

theorem stores_last {m m' : Option CheckoutSession} (stores : Stores asNamed m o m') : m' = (savedBy o).or m := by
  cases o with
  | saveSession session => exact stores.2
  | settlePayment => exact stores.1
  | _ => exact stores

/-- Each call's mode is the version it has stored last. -/
structure Tracked (ms : List (Request × Option (Option CheckoutSession))) (t : List Seen) : Prop where
  last : ∀ i c m, ms[i]? = some (c, some m) → lastSaved i t = m
  unborn : ∀ i, ms.length ≤ i → lastSaved i t = none

section
variable {deps} {ms : List (Request × Option (Option CheckoutSession))} {t : List Seen}

theorem Tracked.start (tracked : Tracked ms t) (c : Request) : Tracked (ms ++ [(c, some none)]) t where
  last i d m found := by
    rcases mode_of_append found with ⟨rfl, _, same⟩ | old
    · cases same
      exact tracked.unborn _ le_rfl
    · exact tracked.last i d m old
  unborn i outside := tracked.unborn i (by simp at outside; omega)

variable {i : Nat} {c : Request} {m : Option CheckoutSession}

section
variable (tracked : Tracked ms t)
include tracked

theorem Tracked.set (mode : ms[i]? = some (c, some m)) {next : Option (Option CheckoutSession)}
    (same : ∀ m', next = some m' → m' = m) : Tracked (ms.set i (c, next)) t where
  last j d m' found := by
    rcases mode_of_set found with ⟨rfl, _, rfl⟩ | ⟨_, old⟩
    · rw [same m' rfl]
      exact tracked.last j c m mode
    · exact tracked.last j d m' old
  unborn j outside := tracked.unborn j (by simpa using outside)

theorem Tracked.silent {e : Seen} (silent : ∀ i last, laterSaved i last e = last) : Tracked ms (t ++ [e]) where
  last i c m found := by
    rw [lastSaved_append, silent]
    exact tracked.last i c m found
  unborn i outside := by
    rw [lastSaved_append, silent]
    exact tracked.unborn i outside

theorem Tracked.asked {m' : Option CheckoutSession} {o : Op} (mode : ms[i]? = some (c, some m))
    (stores : Stores asNamed m o m') : Tracked (ms.set i (c, some m')) (t ++ [.asked i c o]) where
  last j d n found := by
    rw [lastSaved_append]
    rcases mode_of_set found with ⟨rfl, _, same⟩ | ⟨other, old⟩
    · cases same
      rw [laterSaved, if_pos rfl, tracked.last j c m mode, stores_last stores]
    · rw [laterSaved, if_neg (Ne.symm other)]
      exact tracked.last j d n old
  unborn j outside := by
    obtain ⟨inside, _⟩ := List.getElem?_eq_some_iff.mp mode
    have beyond : ms.length ≤ j := by simpa using outside
    rw [lastSaved_append, laterSaved, if_neg (by omega)]
    exact tracked.unborn j beyond

theorem Tracked.crash : Tracked (ms.map fun call => (call.1, none)) t where
  last i c m found := by cases mode_of_kill found
  unborn i outside := tracked.unborn i (by simpa using outside)

end

end

theorem served_canonical {w : Running} {c : Request} {rest : Except Failure o.Answer → Gate Reply} {input : Input}
    {answer : Except Failure o.Answer} {s' : Storefront} {m m' : Option CheckoutSession} (all : AllCoherent asNamed w.shared)
    (stores : Stores asNamed m o m') (here : w.calls[i]? = some (c, .waiting o rest)) (may : buildsUsdc w (.perform i input))
    (given : serveCanonical o input w.shared = some (answer, s')) : Known asNamed o answer ∧ AllCoherent asNamed s' := by
  obtain ⟨amount, asset⟩ := Bool.and_eq_true_iff.mp may
  by_cases product : ∃ id, o = .getProduct id
  · obtain ⟨id, rfl⟩ := product
    obtain ⟨rfl, _⟩ := answerWith_ok given
    refine ⟨?_, all⟩
    cases answer with
    | error e => trivial
    | ok found => cases found <;> trivial
  · apply served all stores here amount (fun _ => trivial)
    · rintro payTo price timeout rfl built has
      simp only [here] at asset
      rw [has] at asset
      show built.asset = USDC_CONTRACT
      simpa using asset
    · rw [← given]
      cases o with
      | getProduct id => exact absurd ⟨id, rfl⟩ product
      | _ => rfl

theorem keeps_tracked :
    Keeps (canonicalHost deps) (coherence asNamed) (fun _ _ _ => True) (fun s ms t => AllCoherent asNamed s ∧ Tracked ms t)
      (fun _ s ms t => AllCoherent asNamed s ∧ Tracked ms t) fun w _ a => buildsUsdc w a where
  start holds _ _ := ⟨none, sound_route deps _ none, holds.1, holds.2.start _⟩
  resume holds _ _ := holds
  sync holds mode same := ⟨allCoherent_same holds.1 same.1, holds.2.set mode fun _ next => by cases next; exact same.2⟩
  ask holds mode stores _ _ _ := ⟨holds.1, holds.2.asked mode stores⟩
  serve holds _ mode here may asks performed := by
    obtain ⟨known, all⟩ := served_canonical holds.1 asks here may performed
    exact ⟨known, all, (holds.2.set mode fun _ next => by cases next; rfl).silent fun _ _ => rfl⟩
  finish holds mode _ _ _ :=
    ⟨holds.1, (holds.2.set mode fun _ impossible => by cases impossible).silent fun _ _ => rfl⟩
  outside holds _ := ⟨allCoherent_same holds.1 (sessions_outside _ _), holds.2⟩
  crash holds _ _ := ⟨holds.1, holds.2.crash⟩

/-- The requirements that a call has been asked to settle, and waits for. -/
def settling : Phase Storefront Op Failure Op.Answer Reply → Option StoredRequirements
  | .waiting (.settlePayment requirements ..) _ => some requirements
  | _ => none

theorem settling_waits {phase : Phase Storefront Op Failure Op.Answer Reply} {requirements : StoredRequirements}
    (settles : settling phase = some requirements) :
    ∃ transaction hold checkoutId rest, phase = .waiting (.settlePayment requirements transaction hold checkoutId) rest := by
  unfold settling at settles
  split at settles
  · cases settles
    exact ⟨_, _, _, _, rfl⟩
  · cases settles

/-- The requirements that a call of a system waits to have settled. -/
def charging (w : Running) (i : Nat) : Option StoredRequirements := w.calls[i]?.bind fun call => settling call.2

/-- In every run of one app: whenever a payment is to be settled, the version its call has stored last is charged, and
    `finish` will not refuse the settlement as unaccounted for exactly when that version's quote names the products of
    its lines. -/
theorem paid_finishable (opensAt : Int) (platform : Platform) (actions : List (Action Request Input Outside))
    (libraryBuilds : ∀ before a after, actions = before ++ a :: after →
      buildsUsdc (Traces.exec (step (canonicalHost deps)) ⟨opened opensAt platform, []⟩ before).1 a)
    (i : Nat) (requirements : StoredRequirements)
    (charges : charging (Traces.exec (step (canonicalHost deps)) ⟨opened opensAt platform, []⟩ actions).1 i =
      some requirements) :
    ∃ session, lastSaved i (Traces.exec (step (canonicalHost deps)) ⟨opened opensAt platform, []⟩ actions).2 = some session ∧
      session.status = .completeInProgress ∧ session.requirements = some requirements ∧
      (Finishable deps session requirements ↔ SameIds session) := by
  have start : Holds (coherence asNamed) (fun _ _ _ => True) (fun s ms t => AllCoherent asNamed s ∧ Tracked ms t)
      (⟨opened opensAt platform, []⟩ : Running) [] := by
    refine ⟨[], ⟨?_, ?_⟩, aligned_nil⟩
    · rintro id session ⟨⟩
    · exact ⟨fun i c m impossible => by simp at impossible, fun i _ => rfl⟩
  obtain ⟨ms, ⟨_, tracked⟩, _, modes⟩ := kept_along (keeps_tracked deps) start actions fun before a after split =>
    libraryBuilds before a after split
  obtain ⟨⟨c, phase⟩, found, settles⟩ := Option.bind_eq_some_iff.mp charges
  obtain ⟨mode, modes, stands⟩ := modes i c phase found
  obtain ⟨transaction, hold, checkoutId, rest, rfl⟩ := settling_waits settles
  obtain ⟨m, rfl⟩ := stands.running rfl
  obtain ⟨⟨_, rfl, session, rfl, charged⟩, _⟩ := stands
  exact ⟨session, tracked.last i c _ modes, charged.status, charged.terms, finishable_iff charged⟩

/-- What is paid for in a run can be finished. -/
def PaysFinishable (opensAt : Int) (platform : Platform) (actions : List (Action Request Input Outside)) : Prop :=
  let now := Traces.exec (step (canonicalHost deps)) ⟨opened opensAt platform, []⟩ actions
  ∀ i requirements, charging now.1 i = some requirements →
    ∃ session, lastSaved i now.2 = some session ∧ Finishable deps session requirements

def payingFor (id : String) : List (Action Request Input Outside) :=
  [.start (.create ⟨[⟨id, 1⟩], ⟨none, none, none, none⟩, none, some (some ⟨false, some (none, teaAddress)⟩)⟩ teaView)] ++
    goOn 0 5 ++ [.start completeTea] ++ goOn 1 3

/-- A platform that reads ids as numbers. -/
def numbered : Platform where
  products _ := some ⟨"123", "TEA-1", "Green tea", "1000", "CLP", none⟩
  stock _ := some 5
  orders := []

/-- Whether the quote of the version a call has stored last names the products of its lines. -/
def sameIds (i : Nat) (t : List Seen) : Bool :=
  (lastSaved i t).all fun session =>
    session.quote.all fun quote => quote.lines.map QuotedLine.productId = session.lines.map SessionLine.productId

theorem sameIds_iff {t : List Seen} {session : CheckoutSession} (last : lastSaved i t = some session) :
    sameIds i t ↔ SameIds session := by
  simp [sameIds, last, SameIds, Option.all_eq_true]

theorem paid_finishable_sample :
    ∃ session, lastSaved 1 (Traces.exec (step (canonicalHost teaShop)) ⟨opened 0 numbered, []⟩ (payingFor "123")).2 =
      some session ∧ Finishable teaShop session teaRequirements := by
  obtain ⟨session, last, _, _, finishable⟩ := paid_finishable teaShop 0 numbered (payingFor "123")
    (Traces.along_run (show Traces.along _ (fun w _ a => buildsUsdc w a) _ [] (payingFor "123") from by decide))
    1 teaRequirements (by decide)
  exact ⟨session, last, finishable.mpr ((sameIds_iff last).mp (by decide))⟩

def settledTea : SettleResponse := ⟨true, teaTx, STELLAR_TESTNET_CAIP2, some "GBUYER", none⟩

/-- A tea asked for by `00123` is paid, and its order is then refused: the quote names `123`. -/
theorem paid_unfinishable : ¬PaysFinishable teaShop 0 numbered (payingFor "00123") := by
  intro pays
  obtain ⟨session, last, finishable⟩ := pays 1 teaRequirements (by decide)
  have refused : ((lastSaved 1 (Traces.exec (step (canonicalHost teaShop)) ⟨opened 0 numbered, []⟩ (payingFor "00123")).2).all
      fun session => match paidPurchase teaShop (settledSession session teaRequirements settledTea 0) with
        | .error e => e = unaccountedFor "the checkout's quote is not for its lines"
        | .ok _ => false) = true := by
    decide
  rw [last, Option.all_some] at refused
  apply finishable settledTea 0 rfl
  split at refused
  · rename_i e fails
    exact .inl ⟨_, by rw [fails, of_decide_eq_true refused]⟩
  · cases refused

end AgentPey.PaidCompletions
