import AgentPey.X402Checkout
import AgentPey.OrderStages

/-!
The way of an x402 checkout through the app. It looks for the order of its key, hears what the product costs, takes its
hold, and gives it up at the end; between, a settled payment goes through the stages of its order.
-/
namespace AgentPey.X402Places
open Receipts CheckoutSessions Orders Routines Gateway PaidOrders Disciplines OrderStages X402Checkout

/-- Where a request stands: it has not looked yet; it has found no order for its key; it has asked for a quote. A paying
    one then has its hold, and later its settled purchase; at the end it has neither. -/
inductive Place where
  | arrived
  | looks
  | quotes
  | holds (held : Hold)
  | fulfils (held : Hold) (purchase : PaidPurchase) (stage : Stage)
  | finished

def Place.hold : Place → Option Hold
  | .holds held => some held
  | .fulfils held _ _ => some held
  | _ => none

abbrev Place.Mode := CheckoutRequest × Place

variable (deps : Deps)

/-- Questions about the price and the payment, without an effect. -/
def Light : Op → Bool
  | .getProduct _ => true
  | .ready => true
  | .buildPaymentRequirements .. => true
  | .verifyPayment .. => true
  | _ => false

inductive Goes : Place.Mode → Storefront → Storefront → Place.Mode → Prop
  | look {c s} (none_ : c.existing s = none) : Goes (c, .arrived) s s (c, .looks)
  | replay {c s existing} (found : c.existing s = some existing) : Goes (c, .arrived) s s (c, .finished)
  | take {c stock name s held s'} (pays : c.payment ≠ none) (takes : X402Checkout.hold c stock name s = (.ok held, s')) :
      Goes (c, .quotes) s s' (c, .holds held)
  | refuse {c s} : Goes (c, .quotes) s s (c, .quotes)
  | miss {c held transaction s} : Goes (c, .holds held) s (pickUp transaction s).2 (c, .holds held)
  | pick {c held transaction s purchase} (key : purchase.idempotencyKey = c.idempotencyKey) :
      Goes (c, .holds held) s (pickUp transaction s).2 (c, .fulfils held purchase .start)
  | turn {c held m s s' m'} (turns : Turns deps m s s' m') : Goes (c, .fulfils held m.1 m.2) s s' (c, .fulfils held m'.1 m'.2)
  | release {c x held s} (has : x.hold = some held) : Goes (c, x) s (releaseHold held.ticket s) (c, .finished)

def Place.Asks : Place.Mode → Op → Place.Mode → Prop
  | (c, .looks), .getProduct _, m' => m' = (c, .quotes)
  | (c, .quotes), o, m' => c.payment = none ∧ Light o ∧ m' = (c, .quotes)
  | (c, .holds held), .settlePayment _ _ hold _, m' => hold = held ∧ m' = (c, .holds held)
  | (c, .holds held), o, m' => Light o ∧ m' = (c, .holds held)
  | (c, .fulfils held purchase stage), o, m' =>
    ∃ m, OrderStages.Asks deps (purchase, stage) o m ∧ m' = (c, .fulfils held m.1 m.2)
  | _, _, _ => False

def Place.answered (x : Place) (o : Op) (answer : Except Failure o.Answer) : Place :=
  match x with
  | .fulfils held purchase stage =>
    let m := (stages deps).answer (purchase, stage) o answer
    .fulfils held m.1 m.2
  | x => x

def places : Discipline Storefront Op Failure Op.Answer Place.Mode where
  sync := Goes deps
  ask := Place.Asks deps
  expects _ _ := True
  answer m o answer := (m.1, m.2.answered deps o answer)

/-- A request that is over holds nothing. -/
def Place.Ends (_ : CheckoutRequest) (m : Place.Mode) (_ : Except Failure Reply) : Prop := m.2.hold = none

/-! ### The routines keep to their places -/

abbrev Placed {α : Type} (m : Place.Mode) (r : Gate α) (Q : Place.Mode → Except Failure α → Prop) : Prop :=
  Follows (places deps) m r Q

variable {deps}
variable {c : CheckoutRequest}

variable {x : Place}

theorem placed_ask {o : Op} (light : Light o) (place : (x = .quotes ∧ c.payment = none) ∨ ∃ held, x = .holds held) :
    Placed deps (c, x) (ask o) fun m _ => m = (c, x) := by
  have asks : Place.Asks deps (c, x) o (c, x) := by
    rcases place with ⟨rfl, free⟩ | ⟨held, rfl⟩
    · exact ⟨free, light, rfl⟩
    · cases o <;> first | exact ⟨light, rfl⟩ | cases light
  refine follows_ask asks fun answer _ => ?_
  rcases place with ⟨rfl, _⟩ | ⟨held, rfl⟩
  · rfl
  · rfl

section
variable (place : (x = .quotes ∧ c.payment = none) ∨ ∃ held, x = .holds held)
include place

theorem placed_quote (productId : String) (quantity reserved : Nat) :
    Placed deps (c, x) (UcpCheckout.quoteCheckout deps productId quantity reserved) fun m _ => m = (c, x) := by
  apply (placed_ask (by rfl) place).seq
  · rintro _ product rfl
    exact follows_lift rfl
  · rintro _ e rfl
    rfl

theorem placed_requirementsFor (req : CheckoutRequest) :
    Placed deps (c, x) (requirementsFor deps req) fun m _ => m = (c, x) := by
  apply (placed_quote place _ _ _).seq
  · rintro _ quote rfl
    apply (placed_ask (by rfl) place).seq
    · rintro _ _ rfl
      apply (placed_ask (by rfl) place).seq
      · rintro _ built rfl
        cases built with
        | none => rfl
        | some requirements => rfl
      · rintro _ e rfl
        rfl
    · rintro _ e rfl
      rfl
  · rintro _ e rfl
    rfl

end

theorem placed_quoted (free : c.payment = none) : Placed deps (c, .quotes) (quoted deps c) (Place.Ends c) := by
  apply (placed_requirementsFor (.inl ⟨rfl, free⟩) c).seq
  · rintro _ _ rfl
    apply (placed_quote (.inl ⟨rfl, free⟩) _ _ _).seq
    · rintro _ _ rfl
      rfl
    · rintro _ e rfl
      rfl
  · rintro _ e rfl
    rfl

theorem placed_settleUpfront (c : CheckoutRequest) (transaction : String) (held : Hold) :
    Placed deps (c, .holds held) (settleUpfront deps c transaction held) fun m _ => m = (c, .holds held) := by
  apply (placed_requirementsFor (.inr ⟨held, rfl⟩) c).seq
  · rintro _ _ rfl
    apply (placed_ask (by rfl) (.inr ⟨held, rfl⟩)).seq
    · rintro _ verified rfl
      cases verified with
      | none => rfl
      | some requirements =>
        have asks : Place.Asks deps (c, .holds held) (.settlePayment requirements transaction held none) (c, .holds held) :=
          ⟨rfl, rfl⟩
        apply Follows.seq (R := fun m _ => m = (c, Place.holds held))
        · exact follows_ask asks fun _ _ => rfl
        · rintro _ response rfl
          rfl
        · rintro _ e rfl
          rfl
    · rintro _ e rfl
      rfl
  · rintro _ e rfl
    rfl

theorem placed_fulfil (c : CheckoutRequest) (held : Hold) (purchase : PaidPurchase) :
    Placed deps (c, .fulfils held purchase .start) (fulfilPaidPurchase deps purchase) fun m _ =>
      m.1 = c ∧ m.2.hold = some held := by
  have through : Placed deps (c, .fulfils held purchase .start) (fulfilPaidPurchase deps purchase) _ :=
    (follows_fulfilPaidPurchase deps purchase).inject
      (fun m : OrderStages.Mode => ((c, .fulfils held m.1 m.2) : Place.Mode)) (fun _ _ _ _ turns => .turn turns)
      (fun _ _ m' asks => ⟨m', asks, rfl⟩) fun _ _ _ _ => ⟨trivial, rfl⟩
  refine through.imp ?_
  rintro _ result ⟨m₀, rfl, _⟩
  exact ⟨rfl, rfl⟩

theorem purchaseOf_key {quote : CheckoutQuote} {transaction : String}
    {picked : Option (Settlement × Option OrderRecord)} {purchase : PaidPurchase}
    (paid : paidPurchase deps c quote transaction picked = .ok purchase) : purchase.idempotencyKey = c.idempotencyKey := by
  match picked with
  | none => cases paid
  | some (settlement, duplicate) =>
    rw [paidPurchase] at paid
    split at paid
    · cases paid
    · cases priced : purchaseQuote [quote] with
      | error e =>
        rw [priced] at paid
        cases paid
      | ok whole =>
        rw [priced] at paid
        cases paid
        rfl

theorem placed_completeCheckout (c : CheckoutRequest) (quote : CheckoutQuote) (transaction : String) (held : Hold) :
    Placed deps (c, .holds held) (completeCheckout deps c quote transaction) fun m _ => m.1 = c ∧ m.2.hold = some held := by
  intro s
  cases paid : paidPurchase deps c quote transaction (pickUp transaction s).1 with
  | error e =>
    refine ⟨_, .miss, ?_⟩
    simp only [Routine.bind, paid]
    exact ⟨rfl, rfl⟩
  | ok purchase =>
    refine ⟨_, .pick (purchaseOf_key paid), ?_⟩
    simp only [Routine.bind, paid]
    apply (placed_fulfil c held purchase).seq
    · intro m _ ends
      exact ends
    · intro m e ends
      exact ends

theorem placed_charged (c : CheckoutRequest) (quote : CheckoutQuote) (transaction : String) (held : Hold) :
    Placed deps (c, .holds held) (charged deps c quote transaction held) fun m _ => m.1 = c ∧ m.2.hold = some held := by
  apply (placed_settleUpfront c transaction held).seq
  · rintro _ settled rfl
    cases settled with
    | true => exact placed_completeCheckout c quote transaction held
    | false => exact ⟨rfl, rfl⟩
  · rintro _ e rfl
    exact ⟨rfl, rfl⟩

theorem placed_checkout (c : CheckoutRequest) (quote : CheckoutQuote) :
    Placed deps (c, .quotes) (checkout deps c quote) (Place.Ends c) := by
  unfold checkout
  cases pays : c.payment with
  | none => exact placed_quoted pays
  | some transaction =>
    intro s
    cases taken : X402Checkout.hold c quote.product.stock quote.product.name s with
    | mk result s' =>
      cases result with
      | error e =>
        have unchanged : s' = s := by
          have after := congrArg Prod.snd taken
          rw [X402Checkout.hold] at after taken
          split_ifs at after taken
          · exact after.symm
          · split at taken
            · cases taken
              rfl
            · cases taken
        subst unchanged
        refine ⟨(c, .quotes), ?_, ?_⟩
        · change Goes deps _ s' (X402Checkout.hold c quote.product.stock quote.product.name s').2 _
          rw [taken]
          exact .refuse
        · simp only [Routine.bind, taken]
          rfl
      | ok held =>
        refine ⟨(c, .holds held), ?_, ?_⟩
        · change Goes deps _ s (X402Checkout.hold c quote.product.stock quote.product.name s).2 _
          rw [taken]
          exact .take (by rw [pays]; exact Option.some_ne_none _) taken
        · simp only [Routine.bind, taken]
          apply Follows.finally_
          refine (placed_charged c quote transaction held).imp ?_
          rintro ⟨_, x⟩ result ⟨rfl, has⟩ s
          exact ⟨_, .release has, rfl⟩

theorem placed_route (c : CheckoutRequest) : Placed deps (c, .arrived) (route deps c) (Place.Ends c) := by
  intro s
  cases found : c.existing s with
  | some existing =>
    refine ⟨_, .replay found, ?_⟩
    simp only [Routine.bind, found]
    exact follows_lift rfl
  | none =>
    refine ⟨_, .look found, ?_⟩
    simp only [Routine.bind, found]
    have asks : Place.Asks deps (c, .looks) (.getProduct c.productId) (c, .quotes) := rfl
    apply Follows.seq (R := fun m _ => m = (c, Place.quotes))
    · apply Follows.seq (R := fun m _ => m = (c, Place.quotes))
      · exact follows_ask asks fun _ _ => rfl
      · rintro _ product rfl
        exact follows_lift rfl
      · rintro _ e rfl
        rfl
    · rintro _ quote rfl
      exact placed_checkout c quote
    · rintro _ e rfl
      rfl

end AgentPey.X402Places
