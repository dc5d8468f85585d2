import AgentPey.OrderKeys

/-!
One payment for each idempotency key of the x402 checkout. In every run of one app, while a payment is being settled
no other request with its key is past the preflight, and no order has the key, as long as no order has come for the key
when a request's quote does, and no connection closes before its answer. A repeated key is answered with its order.
-/
namespace AgentPey.IdempotencyKeys
open Receipts CheckoutSessions Orders Routines Gateway PaidOrders Disciplines OrderStages OrderPromises X402Checkout X402Places
open OrderKeys

abbrev Seen := Event CheckoutRequest Op Failure Op.Answer Reply

abbrev App := System CheckoutRequest Storefront Op Failure Op.Answer Reply

def asksBy (i : Nat) : Seen → Bool
  | .asked j _ _ => j = i
  | _ => false

def questions (i : Nat) (t : List Seen) : Nat := t.countP (asksBy i)

/-- A request pays, and is past the preflight: it has waited for more than the preflight's quote. -/
def InProgress (w : App) (t : List Seen) (i : Nat) (c : CheckoutRequest) : Prop :=
  c.payment ≠ none ∧ 2 ≤ questions i t ∧ ∃ phase, w.calls[i]? = some (c, phase) ∧ phase.over = false

def settling {ρ : Op → Type} {α : Type} : Phase Storefront Op Failure ρ α → Bool
  | .waiting (.settlePayment ..) _ => true
  | _ => false

def Settling (w : App) (i : Nat) (c : CheckoutRequest) : Prop :=
  ∃ phase, w.calls[i]? = some (c, phase) ∧ settling phase

/-- While a payment is being settled, its key has no order, and no other request that is in progress. -/
structure OncePerKey (w : App) (t : List Seen) : Prop where
  unordered : ∀ (i : Nat) c key, Settling w i c → c.idempotencyKey = some key →
    findByIdempotencyKey w.shared.memory.orders key = none
  alone : ∀ (i j : Nat) c d key, Settling w i c → InProgress w t j d → c.idempotencyKey = some key →
    d.idempotencyKey = some key → i = j

/-- When a paying request goes on with its quote, its key has no order yet; and a connection closes when nothing is held
    for it under a key. -/
def undisturbed (w : App) (t : List Seen) : Action CheckoutRequest Input Outside → Bool
  | .resume i =>
    match w.calls[i]? with
    | some (c, _) => c.payment.isNone || questions i t ≠ 1 || (c.existing w.shared).isNone
    | none => true
  | .outside (.close ticket) => !w.shared.memory.holds.any fun held => held.ticket = ticket && held.key.isSome
  | _ => true

/-! ### Holds -/

variable (deps : Deps)

/-- A request's hold is the only one with its ticket, and stands beside its key. -/
structure Holding (s : Storefront) (c : CheckoutRequest) (held : Hold) : Prop where
  key : held.key = c.idempotencyKey
  given : held.ticket < s.tickets
  only : ∀ other ∈ s.memory.holds, other.ticket = held.ticket → other = held
  there : ∀ key, held.key = some key → held ∈ s.memory.holds ∧ key ∈ s.memory.inFlight

/-- How many questions a paying request has asked by the time it stands there. -/
def counts : Place → Nat → Prop
  | .arrived, n => n = 0
  | .looks, n => n = 0
  | .quotes, n => n = 1
  | _, _ => True

/-- Holds under one key are one request's, and before it is charged its key has no order. -/
structure Charges (s : Storefront) (ms : Requests) (t : List Seen) : Prop where
  own : ∀ (i : Nat) c m, ms[i]? = some (c, some m) → m.1 = c
  tickets : ∀ held ∈ s.memory.holds, held.ticket < s.tickets
  held : ∀ (i : Nat) c m h, ms[i]? = some (c, some m) → m.2.hold = some h → Holding s c h
  alone : ∀ (i j : Nat) c d m n h h' key, ms[i]? = some (c, some m) → ms[j]? = some (d, some n) → m.2.hold = some h →
    n.2.hold = some h' → h.key = some key → h'.key = some key → i = j
  clear : ∀ (i : Nat) c m h key, ms[i]? = some (c, some m) → m.2 = .holds h → h.key = some key →
    ∀ o ∈ s.memory.orders, o.idempotencyKey ≠ some key
  counted : ∀ (i : Nat) c m, ms[i]? = some (c, some m) → c.payment ≠ none → counts m.2 (questions i t)
  later : ∀ i, ms.length ≤ i → questions i t = 0

section
variable {deps} {s s' : Storefront} {ms : Requests} {t t' : List Seen} {i : Nat} {c : CheckoutRequest} {m : Place.Mode}
variable {held : Hold}

theorem Holding.same (holding : Holding s c held) (holds : s'.memory.holds = s.memory.holds)
    (keys : s'.memory.inFlight = s.memory.inFlight) (tickets : s'.tickets = s.tickets) : Holding s' c held := by
  obtain ⟨key, given, only, there⟩ := holding
  refine ⟨key, ?_, ?_, ?_⟩
  · rw [tickets]
    exact given
  · rw [holds]
    exact only
  · rw [holds, keys]
    exact there

variable {mode' : Option Place.Mode} {stock : Option Nat} {name : String} {ticket j : Nat} {e : Seen} {input : Input}
   {keyOf : String → Option String} {purchase : PaidPurchase} {stage : Stage} {key : Option String} {n : OrderStages.Mode}
   {w : App}

theorem Charges.moves (charges : Charges s ms t) (mode : ms[i]? = some (c, some m)) (holds : s'.memory.holds = s.memory.holds)
    (keys : s'.memory.inFlight = s.memory.inFlight) (tickets : s'.tickets = s.tickets)
    (orders : s'.memory.orders = s.memory.orders ∨ (Adds s s' c.idempotencyKey ∧ ∃ h p stage, m.2 = .fulfils h p stage))
    (hold : ∀ m', mode' = some m' → m'.1 = c ∧ (∀ h, m'.2.hold = some h → m.2.hold = some h) ∧
      ∀ h, m'.2 = .holds h → m.2 = .holds h) (others : ∀ j, j ≠ i → questions j t' = questions j t)
    (counted : ∀ m', mode' = some m' → c.payment ≠ none → counts m'.2 (questions i t')) :
    Charges s' (ms.set i (c, mode')) t' := by
  have here : ∀ {j : Nat} {d : CheckoutRequest} {n : Place.Mode} {h : Hold}, (ms.set i (c, mode'))[j]? = some (d, some n) →
      n.2.hold = some h → ∃ n₀, ms[j]? = some (d, some n₀) ∧ n₀.2.hold = some h ∧ ∀ h, n.2 = .holds h → n₀.2 = .holds h := by
    intro j d n h found has
    rcases mode_of_set found with ⟨rfl, rfl, same⟩ | ⟨_, old⟩
    · obtain ⟨_, keeps, before⟩ := hold n same.symm
      exact ⟨m, mode, keeps h has, before⟩
    · exact ⟨n, old, has, fun _ place => place⟩
  constructor
  · intro j d n found
    rcases mode_of_set found with ⟨_, rfl, same⟩ | ⟨_, old⟩
    · exact (hold n same.symm).1
    · exact charges.own j d n old
  · rw [holds, tickets]
    exact charges.tickets
  · intro j d n h found has
    obtain ⟨n₀, old, had, _⟩ := here found has
    exact (charges.held j d n₀ h old had).same holds keys tickets
  · intro j k d e n l h h' key foundj foundk hasj hask
    obtain ⟨_, oldj, hadj, _⟩ := here foundj hasj
    obtain ⟨_, oldk, hadk, _⟩ := here foundk hask
    exact charges.alone j k d e _ _ h h' key oldj oldk hadj hadk
  · intro j d n h key found place keyed o member same
    obtain ⟨n₀, old, had, before⟩ := here found (h := h) (by rw [place]; rfl)
    have clear := charges.clear j d n₀ h key old (before h place) keyed
    rcases orders with unchanged | ⟨adds, h', p, stage, makes⟩
    · exact clear o (unchanged ▸ member) same
    · rcases adds o member with there | own | ⟨first, there, alike⟩
      · exact clear o there same
      · -- The order is of the request that makes it, which has a hold under its own key.
        have hasOwn : m.2.hold = some h' := by rw [makes]; rfl
        have ownKey : h'.key = some key := by rw [(charges.held i c m h' mode hasOwn).key, ← own, same]
        obtain rfl := charges.alone j i d c n₀ m h h' key old mode had hasOwn keyed ownKey
        rw [mode] at old
        cases old
        rw [before h place] at makes
        cases makes
      · exact clear first there (alike.trans same)
  · intro j d n found pays
    rcases mode_of_set found with ⟨rfl, rfl, same⟩ | ⟨other, old⟩
    · exact counted n same.symm pays
    · rw [others j other]
      exact charges.counted j d n old pays
  · intro j beyond
    rw [List.length_set] at beyond
    obtain ⟨inside, _⟩ := List.getElem?_eq_some_iff.mp mode
    rw [others j (by omega)]
    exact charges.later j beyond

theorem hold_ok (takes : X402Checkout.hold c stock name s = (.ok held, s')) :
    (∀ key, c.idempotencyKey = some key → key ∉ s.memory.inFlight) ∧ held.key = c.idempotencyKey ∧ held.ticket = s.tickets ∧
      ∃ more, s' = { s with
        tickets := s.tickets + 1
        memory := { s.memory with
          held := more
          holds := s.memory.holds ++ [held]
          inFlight := c.idempotencyKey.toList ++ s.memory.inFlight } } := by
  unfold X402Checkout.hold at takes
  split_ifs at takes with busy
  · cases takes
  · split at takes
    · cases takes
    · rename_i more _
      cases takes
      refine ⟨fun key own there => busy ?_, rfl, rfl, more, rfl⟩
      rw [own, Option.any_some]
      exact decide_eq_true there

theorem Charges.takes (charges : Charges s ms t) (mode : ms[i]? = some (c, some m))
    (takes : X402Checkout.hold c stock name s = (.ok held, s')) (clear : c.existing s = none) :
    Charges s' (ms.set i (c, some (c, .holds held))) t := by
  obtain ⟨free, ownKey, ownTicket, more, rfl⟩ := hold_ok takes
  have older : ∀ {d : CheckoutRequest} {h : Hold}, Holding s d h → Holding { s with
      tickets := s.tickets + 1
      memory := { s.memory with
        held := more
        holds := s.memory.holds ++ [held]
        inFlight := c.idempotencyKey.toList ++ s.memory.inFlight } } d h := by
    rintro d h ⟨key, given, only, there⟩
    refine ⟨key, Nat.lt_succ_of_lt given, ?_, fun key keyed => ?_⟩
    · intro other member same
      rcases List.mem_append.mp member with old | new
      · exact only other old same
      · rw [List.mem_singleton.mp new, ownTicket] at same
        omega
    · obtain ⟨member, busy⟩ := there key keyed
      exact ⟨List.mem_append_left _ member, List.mem_append_right _ busy⟩
  constructor
  · intro j d n found
    rcases mode_of_set found with ⟨_, rfl, same⟩ | ⟨_, old⟩
    · cases same
      rfl
    · exact charges.own j d n old
  · intro h member
    rcases List.mem_append.mp member with old | new
    · exact Nat.lt_succ_of_lt (charges.tickets h old)
    · rw [List.mem_singleton.mp new, ownTicket]
      exact Nat.lt_succ_self _
  · intro j d n h found has
    rcases mode_of_set found with ⟨_, rfl, same⟩ | ⟨_, old⟩
    · cases same
      cases has
      refine ⟨ownKey, by rw [ownTicket]; exact Nat.lt_succ_self _, ?_, fun key keyed => ⟨by simp, ?_⟩⟩
      · intro other member same
        rcases List.mem_append.mp member with old | new
        · have older := charges.tickets other old
          omega
        · exact List.mem_singleton.mp new
      · rw [ownKey] at keyed
        simp [keyed]
    · exact older (charges.held j d n h old has)
  · -- Nobody else has the key, since it was not in flight.
    have apart : ∀ {j : Nat} {d : CheckoutRequest} {n : Place.Mode} {h : Hold} {key : String}, ms[j]? = some (d, some n) →
        n.2.hold = some h → h.key = some key → held.key ≠ some key := by
      intro j d n h key found has keyed own
      exact free key (ownKey ▸ own) ((charges.held j d n h found has).there key keyed).2
    intro j k d e n l h h' key foundj foundk hasj hask keyj keyk
    rcases mode_of_set foundj with ⟨rfl, _, same⟩ | ⟨_, oldj⟩
    · cases same
      cases hasj
      rcases mode_of_set foundk with ⟨rfl, _, _⟩ | ⟨_, oldk⟩
      · rfl
      · exact (apart oldk hask keyk keyj).elim
    · rcases mode_of_set foundk with ⟨rfl, _, same⟩ | ⟨_, oldk⟩
      · cases same
        cases hask
        exact (apart oldj hasj keyj keyk).elim
      · exact charges.alone j k d e n l h h' key oldj oldk hasj hask keyj keyk
  · intro j d n h key found place keyed
    rcases mode_of_set found with ⟨_, rfl, same⟩ | ⟨_, old⟩
    · cases same
      cases place
      rw [ownKey] at keyed
      rw [CheckoutRequest.existing, keyed] at clear
      intro o member same
      have absent := List.find?_eq_none.mp clear o member
      simp [same] at absent
    · exact charges.clear j d n h key old place keyed
  · intro j d n found pays
    rcases mode_of_set found with ⟨_, _, same⟩ | ⟨_, old⟩
    · cases same
      trivial
    · exact charges.counted j d n old pays
  · intro j beyond
    rw [List.length_set] at beyond
    exact charges.later j beyond

theorem releaseHold_leaves (ticket : Nat) (s : Storefront) : releaseHold ticket s = s ∨ ∃ found ∈ s.memory.holds,
    found.ticket = ticket ∧ (releaseHold ticket s).memory.holds = s.memory.holds.filter (·.ticket ≠ ticket) ∧
      (releaseHold ticket s).memory.inFlight = s.memory.inFlight.filter (some · ≠ found.key) ∧
      (releaseHold ticket s).memory.orders = s.memory.orders ∧ (releaseHold ticket s).tickets = s.tickets := by
  unfold releaseHold
  cases found : s.memory.holds.find? (·.ticket = ticket) with
  | none => exact .inl rfl
  | some hold =>
    exact .inr ⟨hold, List.mem_of_find?_eq_some found, by simpa using List.find?_some found, rfl, rfl, rfl, rfl⟩

theorem Holding.released (holding : Holding s c held)
    (apart : ∀ found ∈ s.memory.holds, found.ticket = ticket → ∀ key, held.key = some key →
      held.ticket ≠ ticket ∧ found.key ≠ some key) : Holding (releaseHold ticket s) c held := by
  rcases releaseHold_leaves ticket s with same | ⟨found, member, ticketed, holds, keys, _, tickets⟩
  · rwa [same]
  · obtain ⟨key, given, only, there⟩ := holding
    refine ⟨key, by rwa [tickets], ?_, fun key keyed => ?_⟩
    · rw [holds]
      exact fun other inside => only other (List.mem_of_mem_filter inside)
    · obtain ⟨member', busy⟩ := there key keyed
      obtain ⟨other, different⟩ := apart found member ticketed key keyed
      rw [holds, keys]
      exact ⟨List.mem_filter.mpr ⟨member', by simpa using other⟩, List.mem_filter.mpr ⟨busy, by simpa using different.symm⟩⟩

theorem releaseHold_tickets (charges : Charges s ms t) (ticket : Nat) :
    ∀ held ∈ (releaseHold ticket s).memory.holds, held.ticket < (releaseHold ticket s).tickets := by
  rcases releaseHold_leaves ticket s with same | ⟨_, _, _, holds, _, _, tickets⟩
  · rw [same]
    exact charges.tickets
  · rw [holds, tickets]
    exact fun held member => charges.tickets held (List.mem_of_mem_filter member)

theorem releaseHold_orders (ticket : Nat) (s : Storefront) : (releaseHold ticket s).memory.orders = s.memory.orders := by
  rcases releaseHold_leaves ticket s with same | ⟨_, _, _, _, _, orders, _⟩
  · rw [same]
  · exact orders

theorem Charges.releases (charges : Charges s ms t) (mode : ms[i]? = some (c, some m)) (has : m.2.hold = some held)
    : Charges (releaseHold held.ticket s) (ms.set i (c, some (c, .finished))) t := by
  have own := charges.held i c m held mode has
  have finished : Charges s (ms.set i (c, some (c, .finished))) t := by
    refine charges.moves mode rfl rfl rfl (.inl rfl) ?_ (fun _ _ => rfl) ?_
    · rintro _ ⟨⟩
      exact ⟨rfl, nofun, nofun⟩
    · rintro _ ⟨⟩ _
      trivial
  refine { finished with tickets := releaseHold_tickets charges held.ticket, held := ?_, clear := ?_ }
  · intro j d n h found had
    rcases mode_of_set found with ⟨_, _, same⟩ | ⟨other, old⟩
    · cases same
      cases had
    · refine (charges.held j d n h old had).released fun found member ticketed key keyed => ?_
      obtain rfl := own.only found member ticketed
      have different : found.key ≠ some key := fun ownKey =>
        other (charges.alone j i d c n m h found key old mode had has keyed ownKey)
      refine ⟨fun same => different ?_, different⟩
      rw [← own.only h ((charges.held j d n h old had).there key keyed).1 same]
      exact keyed
  · rw [releaseHold_orders]
    exact finished.clear

theorem Charges.closes (charges : Charges s ms t) (keyless : ∀ held ∈ s.memory.holds, held.ticket = ticket → held.key = none) :
    Charges (releaseHold ticket s) ms t := by
  refine { charges with tickets := releaseHold_tickets charges ticket, held := ?_, clear := ?_ }
  · intro j d n h found has
    have holding := charges.held j d n h found has
    refine holding.released fun other member ticketed key keyed => ⟨fun same => ?_, ?_⟩
    · have none_ := keyless h (holding.there key keyed).1 same
      rw [keyed] at none_
      cases none_
    · rw [keyless other member ticketed]
      exact (Option.some_ne_none key).symm
  · rw [releaseHold_orders]
    exact charges.clear

theorem Charges.start (charges : Charges s ms t) (c : CheckoutRequest) : Charges s (ms ++ [(c, some (c, .arrived))]) t := by
  have old : ∀ {j : Nat} {d : CheckoutRequest} {n : Place.Mode} {h : Hold},
      (ms ++ [(c, some (c, .arrived))])[j]? = some (d, some n) → n.2.hold = some h → ms[j]? = some (d, some n) := by
    intro j d n h found has
    rcases mode_of_append found with ⟨_, _, same⟩ | old
    · cases same
      cases has
    · exact old
  constructor
  · intro j d n found
    rcases mode_of_append found with ⟨_, rfl, same⟩ | old
    · cases same
      rfl
    · exact charges.own j d n old
  · exact charges.tickets
  · exact fun j d n h found has => charges.held j d n h (old found has) has
  · exact fun j k d e n l h h' key foundj foundk hasj hask =>
      charges.alone j k d e n l h h' key (old foundj hasj) (old foundk hask) hasj hask
  · exact fun j d n h key found place => charges.clear j d n h key (old found (h := h) (by rw [place]; rfl)) place
  · intro j d n found pays
    rcases mode_of_append found with ⟨rfl, _, same⟩ | old
    · cases same
      exact charges.later _ (Nat.le_refl _)
    · exact charges.counted j d n old pays
  · intro j beyond
    rw [List.length_append] at beyond
    exact charges.later j (by omega)

theorem questions_append : questions j (t ++ [e]) = questions j t + if asksBy j e then 1 else 0 := by
  rw [questions, List.countP_append, List.countP_singleton]
  rfl

theorem questions_silent (silent : asksBy j e = false) : questions j (t ++ [e]) = questions j t := by
  rw [questions_append, silent]
  rfl

/-! ### Steps -/

theorem pickUp_leaves (transaction : String) (s : Storefront) : ∃ ledger,
    (pickUp transaction s).2 = { s with memory := { s.memory with ledger := ledger } } := by
  unfold pickUp UcpCheckout.ledgerTake
  split_ifs
  · exact ⟨_, rfl⟩
  · cases s.memory.ledger.lookup transaction <;> exact ⟨_, rfl⟩

theorem turn_holds {m m' : OrderStages.Mode} (turns : Turns deps m s s' m') : s'.memory.holds = s.memory.holds ∧
    s'.memory.inFlight = s.memory.inFlight ∧ s'.tickets = s.tickets := by
  cases turns with
  | @free c _ unknown free => simp [lookup, unknown, free]
  | _ => exact ⟨rfl, rfl, rfl⟩

variable {o : Op}

theorem asks_stage {m m' : OrderStages.Mode} (asks : OrderStages.Asks deps m o m') : m' = m := by
  obtain ⟨purchase, stage⟩ := m
  cases stage <;> cases o <;> first | exact asks.elim | exact asks.2 | exact asks.2.2

variable (deps) in
/-- The orders' ids stand for their keys, and the holds for their requests. -/
structure Safe (s : Storefront) (ms : Requests) (t : List Seen) : Prop where
  names : ∃ keyOf, Named deps keyOf s ms
  charges : Charges s ms t

variable (deps) in
/-- Between two acts nobody is at the end. -/
structure Between (s : Storefront) (ms : Requests) (t : List Seen) : Prop extends Safe deps s ms t where
  busy : ∀ (i : Nat) c m, ms[i]? = some (c, some m) → m.2 ≠ .finished

variable (deps) in
/-- Within an act of a request: one that goes on with its quote has no order for its key. -/
structure Within (i : Nat) (s : Storefront) (ms : Requests) (t : List Seen) : Prop extends Safe deps s ms t where
  others : ∀ (j : Nat) c m, j ≠ i → ms[j]? = some (c, some m) → m.2 ≠ .finished
  ready : ∀ c m, ms[i]? = some (c, some m) → m.2 = .quotes → c.payment ≠ none → c.existing s = none

variable {m' : Place.Mode}

theorem Within.to (within : Within deps i s ms t) (elsewhere : m'.2 ≠ .quotes)
    (safe : Safe deps s' (ms.set i (c, some m')) t) : Within deps i s' (ms.set i (c, some m')) t := by
  refine ⟨safe, fun j d n other found => ?_, fun d n found place => ?_⟩
  · rcases mode_of_set found with ⟨rfl, _, _⟩ | ⟨_, old⟩
    · exact (other rfl).elim
    · exact within.others j d n other old
  · rcases mode_of_set found with ⟨_, _, same⟩ | ⟨other, _⟩
    · cases same
      exact (elsewhere place).elim
    · exact (other rfl).elim

theorem Safe.moves (safe : Safe deps s ms t) (mode : ms[i]? = some (c, some m))
    (same : ∃ ledger, s' = { s with memory := { s.memory with ledger := ledger } })
    (hold : ∀ m', mode' = some m' → m'.1 = c ∧ (∀ h, m'.2.hold = some h → m.2.hold = some h) ∧
      ∀ h, m'.2 = .holds h → m.2 = .holds h)
    (stage : ∀ keyOf m' held purchase stage, Named deps keyOf s ms → mode' = some m' → m'.2 = .fulfils held purchase stage →
      purchase.idempotencyKey = c.idempotencyKey ∧ Keyed deps keyOf s c.idempotencyKey stage)
    (others : ∀ j, j ≠ i → questions j t' = questions j t)
    (counted : ∀ m', mode' = some m' → c.payment ≠ none → counts m'.2 (questions i t')) :
    Safe deps s' (ms.set i (c, mode')) t' := by
  obtain ⟨⟨keyOf, named⟩, charges⟩ := safe
  obtain ⟨ledger, rfl⟩ := same
  refine ⟨⟨keyOf, ?_⟩, ?_⟩
  · apply named.moves
    · rfl
    · rfl
    · rfl
    · rfl
    · rfl
    · exact fun m' held purchase st => stage keyOf m' held purchase st named
  · apply charges.moves mode
    · rfl
    · rfl
    · rfl
    · exact .inl rfl
    · exact hold
    · exact others
    · exact counted

theorem same_ledger (s : Storefront) : ∃ ledger, s = { s with memory := { s.memory with ledger := ledger } } := ⟨_, rfl⟩

theorem Within.goes (within : Within deps i s ms t) (mode : ms[i]? = some (c, some m)) (step : Goes deps m s s' m')
    : Within deps i s' (ms.set i (c, some m')) t := by
  have own : m.1 = c := within.charges.own i c m mode
  have counted := within.charges.counted i c m mode
  cases step with
  | @look d _ none_ =>
    obtain rfl : d = c := own
    refine within.to (fun impossible => by cases impossible) (within.toSafe.moves mode (same_ledger s) ?_ ?_ (fun _ _ => rfl) ?_)
    · rintro _ ⟨⟩
      exact ⟨rfl, fun _ has => (by cases has), fun _ place => (by cases place)⟩
    · rintro _ _ _ _ _ _ ⟨⟩ place
      cases place
    · rintro _ ⟨⟩ pays
      exact counted pays
  | @replay d _ existing found =>
    obtain rfl : d = c := own
    refine within.to (fun impossible => by cases impossible) (within.toSafe.moves mode (same_ledger s) ?_ ?_ (fun _ _ => rfl) ?_)
    · rintro _ ⟨⟩
      exact ⟨rfl, fun _ has => (by cases has), fun _ place => (by cases place)⟩
    · rintro _ _ _ _ _ _ ⟨⟩ place
      cases place
    · rintro _ ⟨⟩ _
      trivial
  | @take d stock name _ held _ pays takes =>
    obtain rfl : d = c := own
    refine within.to (fun impossible => by cases impossible) ⟨?_, ?_⟩
    · obtain ⟨keyOf, named⟩ := within.names
      obtain ⟨_, _, _, more, rfl⟩ := hold_ok takes
      refine ⟨keyOf, named.moves rfl rfl rfl rfl rfl ?_⟩
      rintro _ _ _ _ ⟨⟩ place
      cases place
    · exact within.charges.takes mode takes (within.ready d _ mode rfl pays)
  | @refuse d _ =>
    obtain rfl : d = c := own
    rw [set_same mode]
    exact within
  | @miss d held transaction _ =>
    obtain rfl : d = c := own
    refine within.to (fun impossible => by cases impossible)
      (within.toSafe.moves mode (pickUp_leaves transaction s) ?_ ?_ (fun _ _ => rfl) ?_)
    · rintro _ ⟨⟩
      exact ⟨rfl, fun _ has => has, fun _ place => place⟩
    · rintro _ _ _ _ _ _ ⟨⟩ place
      cases place
    · rintro _ ⟨⟩ _
      trivial
  | @pick d held transaction _ purchase key =>
    obtain rfl : d = c := own
    refine within.to (fun impossible => by cases impossible)
      (within.toSafe.moves mode (pickUp_leaves transaction s) ?_ ?_ (fun _ _ => rfl) ?_)
    · rintro _ ⟨⟩
      exact ⟨rfl, fun _ has => has, fun _ place => by cases place⟩
    · rintro _ _ _ _ _ _ ⟨⟩ ⟨⟩
      exact ⟨key, fun id reserved => by cases reserved⟩
    · rintro _ ⟨⟩ _
      trivial
  | @turn d held p _ _ p' turns =>
    obtain rfl : d = c := own
    obtain ⟨keyOf, named⟩ := within.names
    obtain ⟨names, adds⟩ := named.turn mode turns
    obtain ⟨holds, keys, tickets⟩ := turn_holds turns
    refine within.to (fun impossible => by cases impossible) ⟨names, ?_⟩
    refine within.charges.moves mode holds keys tickets (.inr ⟨adds, held, p.1, p.2, rfl⟩) ?_ (fun _ _ => rfl) ?_
    · rintro _ ⟨⟩
      exact ⟨rfl, fun _ has => has, fun _ place => by cases place⟩
    · rintro _ ⟨⟩ _
      trivial
  | @release d x held _ has =>
    obtain rfl : d = c := own
    refine within.to (fun impossible => by cases impossible) ⟨?_, within.charges.releases mode has⟩
    obtain ⟨keyOf, named⟩ := within.names
    refine ⟨keyOf, named.moves (releaseHold_orders held.ticket s) ?_ ?_ ?_ ?_ ?_⟩
    all_goals try (unfold releaseHold; split <;> rfl)
    rintro _ _ _ _ ⟨⟩ place
    cases place

theorem place_asks {x : Place} (asks : Place.Asks deps (c, x) o m') :
    (x = .looks ∧ m' = (c, .quotes)) ∨ (m' = (c, x) ∧ ((x = .quotes ∧ c.payment = none) ∨ ∃ h, x.hold = some h)) := by
  cases x with
  | arrived => cases o <;> exact asks.elim
  | finished => cases o <;> exact asks.elim
  | looks =>
    cases o with
    | getProduct id => exact .inl ⟨rfl, asks⟩
    | _ => exact asks.elim
  | quotes =>
    have free : c.payment = none ∧ Light o ∧ m' = (c, .quotes) := by
      cases o <;> exact asks
    exact .inr ⟨free.2.2, .inl ⟨rfl, free.1⟩⟩
  | holds held =>
    have same : m' = (c, .holds held) := by
      cases o <;> exact asks.2
    exact .inr ⟨same, .inr ⟨held, rfl⟩⟩
  | fulfils held purchase stage =>
    have stays : ∃ n, OrderStages.Asks deps (purchase, stage) o n ∧ m' = (c, .fulfils held n.1 n.2) := by
      cases o <;> exact asks
    obtain ⟨n, stage', rfl⟩ := stays
    rw [asks_stage stage']
    exact .inr ⟨rfl, .inr ⟨held, rfl⟩⟩

theorem Within.asks (within : Within deps i s ms t) (mode : ms[i]? = some (c, some m)) (asks : Place.Asks deps m o m')
    : Between deps s (ms.set i (c, some m')) (t ++ [.asked i c o]) := by
  obtain ⟨d, x⟩ := m
  obtain rfl : d = c := within.charges.own i c _ mode
  have counted := within.charges.counted i d _ mode
  have others : ∀ j, j ≠ i → questions j (t ++ [.asked i d o]) = questions j t := by
    intro j other
    exact questions_silent (decide_eq_false (Ne.symm other))
  have busy : m'.2 ≠ .finished → ∀ (j : Nat) e n, (ms.set i (d, some m'))[j]? = some (e, some n) → n.2 ≠ .finished := by
    intro here j e n found
    rcases mode_of_set found with ⟨_, _, same⟩ | ⟨other, old⟩
    · cases same
      exact here
    · exact within.others j e n other old
  rcases place_asks asks with ⟨rfl, rfl⟩ | ⟨rfl, stays⟩
  · refine ⟨within.toSafe.moves mode (same_ledger s) ?_ ?_ others ?_, busy fun impossible => by cases impossible⟩
    · rintro _ ⟨⟩
      exact ⟨rfl, fun _ has => (by cases has), fun _ place => (by cases place)⟩
    · rintro _ _ _ _ _ _ ⟨⟩ place
      cases place
    · rintro _ ⟨⟩ pays
      rw [questions_append, show questions i t = 0 from counted pays, show asksBy i (.asked i d o) = true from decide_eq_true rfl]
      rfl
  · refine ⟨within.toSafe.moves mode (same_ledger s) ?_ ?_ others ?_, busy ?_⟩
    · rintro _ ⟨⟩
      exact ⟨rfl, fun _ has => has, fun _ place => place⟩
    · rintro keyOf _ held purchase stage named ⟨⟩ place
      exact named.stages i d _ held purchase stage mode place
    · rintro _ ⟨⟩ pays
      rcases stays with ⟨_, free⟩ | ⟨h, has⟩
      · exact (pays free).elim
      · cases x <;> trivial
    · rintro rfl
      rcases stays with ⟨impossible, _⟩ | ⟨h, has⟩
      · cases impossible
      · cases has

/-- What only changes the platform, the sessions, the ledger or the clock. -/
structure Aside (s s' : Storefront) : Prop where
  orders : s'.memory.orders = s.memory.orders
  inFlight : s'.ordersInFlight = s.ordersInFlight
  drawn : s'.ordersDrawn = s.ordersDrawn
  promises : s'.promises = s.promises
  holds : s'.memory.holds = s.memory.holds
  keys : s'.memory.inFlight = s.memory.inFlight
  tickets : s'.tickets = s.tickets

variable {answer : Except Failure o.Answer}

theorem serve_aside (served : serve o input s = some (answer, s')) :
    Aside s s' ∧ (s'.orderRows = s.orderRows ∨ ∃ turn order, o = .saveOrder turn order ∧
      s'.orderRows = setOrder s.orderRows order) := by
  cases o with
  | getSession | getProduct | ready | buildPaymentRequirements | signMerchantAuthorization | verifyCheckoutMandate
  | verifyPayment | attachWebhook =>
    obtain ⟨rfl, _⟩ := answerWith_ok served
    exact ⟨⟨rfl, rfl, rfl, rfl, rfl, rfl, rfl⟩, .inl rfl⟩
  | saveSession session =>
    rcases answerWrite_ok served with rfl | ⟨rfl, _⟩ <;> exact ⟨⟨rfl, rfl, rfl, rfl, rfl, rfl, rfl⟩, .inl rfl⟩
  | createOrder order =>
    rcases answerWrite_ok served with rfl | ⟨rfl, _⟩ <;> exact ⟨⟨rfl, rfl, rfl, rfl, rfl, rfl, rfl⟩, .inl rfl⟩
  | settlePayment requirements transaction hold checkoutId =>
    rw [serve] at served
    split at served
    · cases served
      exact ⟨⟨rfl, rfl, rfl, rfl, rfl, rfl, rfl⟩, .inl rfl⟩
    · cases served
      unfold onAfterSettle
      split_ifs <;> exact ⟨⟨rfl, rfl, rfl, rfl, rfl, rfl, rfl⟩, .inl rfl⟩
  | saveOrder turn order =>
    rw [serve] at served
    split_ifs at served
    rcases answerWrite_ok served with rfl | ⟨rfl, _⟩
    · exact ⟨⟨rfl, rfl, rfl, rfl, rfl, rfl, rfl⟩, .inr ⟨turn, order, rfl, rfl⟩⟩
    · exact ⟨⟨rfl, rfl, rfl, rfl, rfl, rfl, rfl⟩, .inl rfl⟩
  | orderInFlight promise =>
    rw [serve] at served
    split at served
    · cases served
      exact ⟨⟨rfl, rfl, rfl, rfl, rfl, rfl, rfl⟩, .inl rfl⟩
    · cases served

theorem asks_filed {turn : Nat} {order : OrderRecord} (keyed : Keyed deps keyOf s key stage)
    (asks : OrderStages.Asks deps (purchase, stage) (.saveOrder turn order) n) : Filed deps keyOf s order := by
  cases stage with
  | again record =>
    obtain ⟨rfl, _⟩ := asks
    exact keyed.toFiled
  | made p record =>
    obtain ⟨rfl, _⟩ := asks
    exact keyed.toFiled
  | _ => exact asks.elim

theorem keyed_answer (keyed : Keyed deps keyOf s key stage) (asks : OrderStages.Asks deps (purchase, stage) o n)
    (served : serve o input s = some (answer, s')) :
    Keyed deps keyOf s key ((stages deps).answer (purchase, stage) o answer).2 := by
  cases o with
  | createOrder order =>
    cases stage with
    | drawn p orderId createdAt => exact keyed
    | _ => exact asks.elim
  | orderInFlight asked =>
    cases stage with
    | waits p =>
      obtain ⟨rfl, _⟩ := asks
      cases answer with
      | error e => exact fun id reserved => by cases reserved
      | ok record =>
        refine keyed record ?_
        rw [serve] at served
        split at served
        · rename_i kept
          cases served
          exact kept
        · cases served
    | rests p => exact fun id reserved => by cases reserved
    | _ => exact asks.elim
  | _ => exact keyed

theorem Between.serve (between : Between deps s ms t) {m₀ : Place.Mode} (mode : ms[i]? = some (c, some m))
    (asks : Place.Asks deps m₀ o m) (served : Gateway.serve o input s = some (answer, s')) :
    Between deps s' (ms.set i (c, some (m.1, m.2.answered deps o answer))) (t ++ [.answered i c o answer]) := by
  obtain ⟨d, x⟩ := m
  obtain rfl : d = c := between.charges.own i c _ mode
  obtain ⟨⟨keyOf, named⟩, charges⟩ := between.toSafe
  obtain ⟨⟨orders, inFlight, drawn, promises, holds, keys, tickets⟩, rows⟩ := serve_aside served
  -- A request that makes its order has asked from the stage it is in.
  have stays : ∀ held purchase stage, x = .fulfils held purchase stage → ∃ n, OrderStages.Asks deps (purchase, stage) o n := by
    rintro held purchase stage rfl
    obtain ⟨e, y⟩ := m₀
    rcases place_asks asks with ⟨_, impossible⟩ | ⟨same, _⟩
    · cases impossible
    · cases same
      have again : ∃ n, OrderStages.Asks deps (purchase, stage) o n ∧ (d, Place.fulfils held purchase stage) = (d, .fulfils held n.1 n.2) := by
        cases o <;> exact asks
      exact ⟨again.choose, again.choose_spec.1⟩
  have grows : Grows deps keyOf s s' := grows_same orders drawn promises
  have hold : (x.answered deps o answer).hold = x.hold := by
    cases x <;> rfl
  have place : ∀ h, x.answered deps o answer = .holds h → x = .holds h := by
    intro h
    cases x <;> first | exact id | (intro impossible; cases impossible)
  have finished : x.answered deps o answer = .finished → x = .finished := by
    cases x <;> first | exact id | (intro impossible; cases impossible)
  have counted : ∀ n, counts x n → counts (x.answered deps o answer) n := by
    cases x <;> exact fun _ counts => counts
  refine ⟨⟨⟨keyOf, ?_⟩, ?_⟩, ?_⟩
  · apply named.grows grows
    · rw [orders]
      exact fun o member => .inl member
    · intro o' member
      rcases rows with same | ⟨turn, order, rfl, written⟩
      · exact .inl (same ▸ member)
      · rw [written] at member
        rcases mem_setOrder member with rfl | old
        · obtain ⟨e, y⟩ := m₀
          rcases place_asks asks with ⟨rfl, _⟩ | ⟨same, _⟩
          · exact asks.elim
          · cases same
            cases x with
            | fulfils held purchase stage =>
              obtain ⟨n, asks'⟩ := stays held purchase stage rfl
              exact .inr (grows.filed (asks_filed (named.stages i d _ held purchase stage mode rfl).2 asks'))
            | arrived | looks | finished => exact asks.elim
            | quotes => exact (Bool.false_ne_true asks.2.1).elim
            | holds held => exact (Bool.false_ne_true asks.1).elim
        · exact .inl old
    · rw [inFlight]
      exact fun _ _ found => .inl found
    · intro j e n held purchase stage found here
      rcases mode_of_set found with ⟨_, rfl, same⟩ | ⟨_, old⟩
      · cases same
        cases x with
        | fulfils held₀ purchase₀ stage₀ =>
          obtain ⟨n, asks'⟩ := stays held₀ purchase₀ stage₀ rfl
          obtain ⟨key, keyed⟩ := named.stages i e _ held₀ purchase₀ stage₀ mode rfl
          have after := keyed_answer keyed asks' served
          cases here
          refine .inr ⟨?_, grows.keyed after⟩
          cases o <;> exact key
        | arrived | looks | quotes | holds | finished => cases here
      · exact .inl old
  · refine charges.moves mode holds keys tickets (.inl orders) ?_ (fun j _ => questions_silent rfl) ?_
    · rintro _ ⟨⟩
      exact ⟨rfl, fun h has => hold ▸ has, place⟩
    · rintro _ ⟨⟩ pays
      rw [questions_silent rfl]
      exact counted _ (charges.counted i d _ mode pays)
  · intro j e n found
    rcases mode_of_set found with ⟨_, _, same⟩ | ⟨_, old⟩
    · cases same
      exact fun ends => between.busy i d _ mode (finished ends)
    · exact between.busy j e n old

theorem Within.finish (within : Within deps i s ms t) (mode : ms[i]? = some (c, some m)) {result : Except Failure Reply} :
    Between deps s (ms.set i (c, none)) (t ++ [.finished i c result]) := by
  refine ⟨within.toSafe.moves mode (same_ledger s) ?_ ?_ (fun j _ => questions_silent rfl) ?_, fun j d n found => ?_⟩
  · exact fun _ impossible => by cases impossible
  · exact fun _ _ _ _ _ _ impossible => by cases impossible
  · exact fun _ impossible => by cases impossible
  · rcases mode_of_set found with ⟨_, _, same⟩ | ⟨other, old⟩
    · cases same
    · exact within.others j d n other old

section
variable (between : Between deps s ms t)
include between

theorem Between.start (c : CheckoutRequest) : Within deps ms.length s (ms ++ [(c, some (c, .arrived))]) t := by
  obtain ⟨keyOf, named⟩ := between.names
  refine ⟨⟨⟨keyOf, ?_⟩, between.charges.start c⟩, fun j d n other found => ?_, fun d n found place => ?_⟩
  · refine named.grows (grows_same rfl rfl rfl) (fun _ member => .inl member) (fun _ member => .inl member)
      (fun _ _ found => .inl found) fun j d n held purchase stage found place => ?_
    rcases mode_of_append found with ⟨_, _, same⟩ | old
    · cases same
      cases place
    · exact .inl old
  · rcases mode_of_append found with ⟨rfl, _, _⟩ | old
    · exact (other rfl).elim
    · exact between.busy j d n old
  · rcases mode_of_append found with ⟨_, _, same⟩ | old
    · cases same
      cases place
    · obtain ⟨inside, _⟩ := List.getElem?_eq_some_iff.mp old
      omega

theorem Between.aside (aside : Aside s s') (rows : s'.orderRows = s.orderRows) : Between deps s' ms t := by
  obtain ⟨⟨⟨keyOf, named⟩, charges⟩, busy⟩ := between
  obtain ⟨orders, inFlight, drawn, promises, holds, keys, tickets⟩ := aside
  refine ⟨⟨⟨keyOf, ?_⟩, ?_⟩, busy⟩
  · refine named.grows (grows_same orders drawn promises) ?_ ?_ ?_ fun _ _ _ _ _ _ found _ => .inl found
    · rw [orders]
      exact fun o member => .inl member
    · rw [rows]
      exact fun o member => .inl member
    · rw [inFlight]
      exact fun _ _ found => .inl found
  · refine { charges with tickets := ?_, held := ?_, clear := ?_ }
    · rw [holds, tickets]
      exact charges.tickets
    · exact fun i c m h found has => (charges.held i c m h found has).same holds keys tickets
    · rw [orders]
      exact charges.clear

theorem Between.outside {k : Outside} (shared : w.shared = s)
    (may : undisturbed w t (.outside k)) : Between deps (Gateway.outside k s) ms t := by
  subst shared
  cases k with
  | clock n => exact between.aside ⟨rfl, rfl, rfl, rfl, rfl, rfl, rfl⟩ rfl
  | catalogue id product => exact between.aside ⟨rfl, rfl, rfl, rfl, rfl, rfl, rfl⟩ rfl
  | restock id stock => exact between.aside ⟨rfl, rfl, rfl, rfl, rfl, rfl, rfl⟩ rfl
  | close ticket =>
    have keyless : ∀ held ∈ w.shared.memory.holds, held.ticket = ticket → held.key = none := by
      intro held member ticketed
      cases keyed : held.key with
      | none => rfl
      | some key =>
        have busy : (w.shared.memory.holds.any fun held => held.ticket = ticket && held.key.isSome) = true :=
          List.any_eq_true.mpr ⟨held, member, by simp [ticketed, keyed]⟩
        simp [undisturbed, busy] at may
    rw [Gateway.outside]
    split
    · obtain ⟨⟨⟨keyOf, named⟩, charges⟩, busy⟩ := between
      refine ⟨⟨⟨keyOf, ?_⟩, charges.closes keyless⟩, busy⟩
      have aside : Grows deps keyOf w.shared (releaseHold ticket w.shared) := by
        refine grows_same (releaseHold_orders ticket _) ?_ ?_
        all_goals (unfold releaseHold; split <;> rfl)
      refine named.grows aside ?_ ?_ ?_ fun _ _ _ _ _ _ found _ => .inl found
      · rw [releaseHold_orders]
        exact fun o member => .inl member
      · rw [show (releaseHold ticket w.shared).orderRows = w.shared.orderRows by unfold releaseHold; split <;> rfl]
        exact fun o member => .inl member
      · rw [show (releaseHold ticket w.shared).ordersInFlight = w.shared.ordersInFlight by
          unfold releaseHold; split <;> rfl]
        exact fun _ _ found => .inl found
    · exact between

theorem Between.crash : Between deps (restart s) (ms.map fun call => (call.1, none)) t := by
  obtain ⟨⟨⟨keyOf, named⟩, charges⟩, busy⟩ := between
  refine ⟨⟨⟨keyOf, ?_, ?_, ?_, ?_⟩, ?_⟩, ?_⟩
  · exact fun o member => ⟨(named.rows o member).drawn, (named.rows o member).key⟩
  · exact fun o member => ⟨(named.rows o member).drawn, (named.rows o member).key⟩
  · intro _ _ found
    cases found
  · intro i c m _ _ _ found
    cases mode_of_kill found
  · refine ⟨?_, fun _ member => by simp [restart, Memory.opened] at member, ?_, ?_, ?_, ?_, fun i beyond => ?_⟩
    · intro i c m found
      cases mode_of_kill found
    · intro i c m h found
      cases mode_of_kill found
    · intro i j c d m n h h' key found
      cases mode_of_kill found
    · intro i c m h key found
      cases mode_of_kill found
    · intro i c m found
      cases mode_of_kill found
    · rw [List.length_map] at beyond
      exact charges.later i beyond
  · intro i c m found
    cases mode_of_kill found

theorem Between.resume (shared : w.shared = s) (aligned : Aligned (places deps) Place.Ends w.calls ms) {i : Nat}
    (may : undisturbed w t (.resume i)) : Within deps i s ms t := by
  subst shared
  refine ⟨between.toSafe, fun j c m _ found => between.busy j c m found, fun c m found place pays => ?_⟩
  obtain ⟨inside, _⟩ := List.getElem?_eq_some_iff.mp found
  rw [← aligned.1] at inside
  obtain ⟨mode, there, _⟩ := aligned.2 i _ _ (List.getElem?_eq_getElem inside)
  have same : (w.calls[i]).1 = c := by
    rw [found] at there
    cases there
    rfl
  have once := between.charges.counted i c m found pays
  rw [place] at once
  change questions i t = 1 at once
  simp only [undisturbed, List.getElem?_eq_getElem inside, same, once] at may
  cases paid : c.payment with
  | none => exact (pays paid).elim
  | some transaction => simpa [paid] using may

end

end

/-! ### Whole runs -/

theorem keeps_between : Keeps (host deps) (places deps) Place.Ends (fun s ms t => Between deps s ms t)
    (fun i s ms t => Within deps i s ms t) fun w t a => undisturbed w t a where
  start between _ _ := ⟨_, placed_route _, between.start _⟩
  resume between aligned may := between.resume rfl aligned may
  sync within mode step := within.goes mode step
  ask within mode asks _ _ _ := within.asks mode asks
  serve between _ mode _ _ asks served := ⟨trivial, between.serve mode asks served⟩
  finish within mode _ _ _ := within.finish mode
  outside between may := between.outside rfl may
  crash between _ _ := between.crash

theorem between_opened (opensAt : Int) (platform : Platform) :
    Holds (places deps) Place.Ends (fun s ms t => Between deps s ms t) ⟨opened opensAt platform, []⟩ [] := by
  refine ⟨[], ⟨⟨⟨fun _ => none, ?_⟩, ?_⟩, ?_⟩, aligned_nil⟩
  · refine ⟨?_, ?_, ?_, ?_⟩ <;> simp [opened, Memory.opened]
  · constructor <;> simp [opened, Memory.opened, questions]
  · simp

variable {c : CheckoutRequest}

variable {ms : Requests} {w : App} {i : Nat}

theorem Between.holds {s : Storefront} {t : List Seen} (between : Between deps s ms t)
    (aligned : Aligned (places deps) Place.Ends w.calls ms) (going : InProgress w t i c) :
    ∃ m h, ms[i]? = some (c, some m) ∧ m.2.hold = some h := by
  obtain ⟨pays, twice, phase, here, running⟩ := going
  obtain ⟨mode, found, stands⟩ := aligned.2 i c phase here
  obtain ⟨⟨d, x⟩, rfl⟩ := stands.running running
  have counted := between.charges.counted i c _ found pays
  cases x with
  | arrived => exact absurd (show questions i t = 0 from counted) (by omega)
  | looks => exact absurd (show questions i t = 0 from counted) (by omega)
  | quotes => exact absurd (show questions i t = 1 from counted) (by omega)
  | finished => exact (between.busy i c _ found rfl).elim
  | holds held => exact ⟨_, held, found, rfl⟩
  | fulfils held purchase stage => exact ⟨_, held, found, rfl⟩

theorem settling_holds (aligned : Aligned (places deps) Place.Ends w.calls ms) (charged : Settling w i c) :
    ∃ d h, ms[i]? = some (c, some (d, .holds h)) := by
  obtain ⟨phase, here, settles⟩ := charged
  obtain ⟨mode, found, stands⟩ := aligned.2 i c phase here
  cases phase with
  | waiting o rest =>
    cases mode with
    | none => exact stands.elim
    | some m =>
      obtain ⟨⟨⟨d, x⟩, asks⟩, _⟩ := stands
      cases o with
      | settlePayment requirements transaction hold checkoutId =>
        cases x with
        | holds held =>
          obtain ⟨_, rfl⟩ := asks
          exact ⟨d, held, found⟩
        | quotes => exact (Bool.false_ne_true asks.2.1).elim
        | fulfils held purchase stage =>
          obtain ⟨n, asks, _⟩ := asks
          cases stage <;> exact asks.elim
        | _ => exact asks.elim
      | _ => cases settles
  | _ => cases settles

/-- At every moment of a run: one payment for each key; and a request whose key has an order is answered with it. -/
def OnePayment (opensAt : Int) (platform : Platform) (actions : List (Action CheckoutRequest Input Outside)) : Prop :=
  ∀ before after, actions = before ++ after →
    let now := Traces.exec (step (host deps)) ⟨opened opensAt platform, []⟩ before
    OncePerKey now.1 now.2 ∧ ∀ c existing rest, after = .start c :: rest → c.existing now.1.shared = some existing →
      (step (host deps) now.1 (.start c)).2 = [.finished now.1.calls.length c (replay c existing)]

/-- A repeated key is answered at once, with its order or with the conflict, and nothing is asked. -/
theorem repeat_answered {existing : OrderRecord} (found : c.existing w.shared = some existing) :
    (step (host deps) w (.start c)).2 = [.finished w.calls.length c (replay c existing)] := by
  change announce w.calls.length c ((route deps c).advance w.shared).1 = _
  have ends : (route deps c).advance w.shared =
      (liftM (replay c existing) : Gate Reply).advance w.shared := by
    dsimp only [route, bind, Routine.read, Routine.bind, Routine.advance]
    rw [found]
    rfl
  rw [ends]
  cases replay c existing <;> rfl

def boughtAgain : List (Action CheckoutRequest Input Outside) :=
  [.start (buyTea (some "run-42") "AAAA")] ++ goOn 0 9 ++ [.start (buyTea (some "run-42") "BBBB")]

/-- The second request looks for an order while the first is still to come, hears the price when the first is over, and
    is charged. -/
def overtaken : List (Action CheckoutRequest Input Outside) :=
  ([.start (buyTea (some "run-42") "BBBB"), .perform 0 answered, .start (buyTea (some "run-42") "AAAA")] :
      List (Action CheckoutRequest Input Outside)) ++ goOn 1 9 ++ ([.resume 0] : List (Action CheckoutRequest Input Outside)) ++ goOn 0 4

end AgentPey.IdempotencyKeys
