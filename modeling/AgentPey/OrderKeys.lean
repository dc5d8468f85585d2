import AgentPey.X402Places
import AgentPey.OrderPromises

/-!
The idempotency keys of the orders that x402 checkouts make. An order's id is drawn for the key of its request, and
whatever version of the order is stored, promised or handed back later has that key.
-/
namespace AgentPey.OrderKeys
open Receipts CheckoutSessions Orders Routines Gateway PaidOrders Disciplines OrderStages OrderPromises X402Checkout X402Places
open Function (update update_of_ne update_self)

abbrev Requests := List (CheckoutRequest × Option Place.Mode)

variable (deps : Deps) (keyOf : String → Option String)

/-- A record has the key that its id was drawn for. -/
structure Filed (s : Storefront) (record : OrderRecord) : Prop where
  drawn : Drawn deps s record.orderId
  key : keyOf record.orderId = record.idempotencyKey

/-- A record that a request holds is in memory, perhaps in another version. -/
structure Told (s : Storefront) (record : OrderRecord) : Prop extends Filed deps keyOf s record where
  there : ∃ o ∈ s.memory.orders, o.orderId = record.orderId

/-- What a promise has brought, if anything, can be told. -/
def Promised (s : Storefront) (promise : Nat) : Prop :=
  ∀ record, s.promises[promise]? = some (some (.ok record)) → Told deps keyOf s record

/-- What a stage of an order with this key holds. -/
def Keyed (s : Storefront) (key : Option String) : Stage → Prop
  | .again record => Told deps keyOf s record
  | .made _ record => Told deps keyOf s record
  | .waits promise => Promised deps keyOf s promise
  | stage => ∀ id, stage.reserved = some id → Drawn deps s id ∧ keyOf id = key

/-- Every id was drawn for the key of its order. -/
structure Named (s : Storefront) (ms : Requests) : Prop where
  orders : ∀ o ∈ s.memory.orders, Filed deps keyOf s o
  rows : ∀ o ∈ s.orderRows, Filed deps keyOf s o
  flying : ∀ inFlight promise, s.ordersInFlight inFlight = some promise → Promised deps keyOf s promise
  stages : ∀ (i : Nat) c m held purchase stage, ms[i]? = some (c, some m) → m.2 = .fulfils held purchase stage →
    purchase.idempotencyKey = c.idempotencyKey ∧ Keyed deps keyOf s c.idempotencyKey stage

/-- What a step may do to the ids, the records and the promises that requests hold. -/
structure Grows (s s' : Storefront) : Prop where
  drawn : s.ordersDrawn ≤ s'.ordersDrawn
  orders : ∀ o ∈ s.memory.orders, ∃ o' ∈ s'.memory.orders, o'.orderId = o.orderId
  promises : ∀ (promise : Nat) record, s'.promises[promise]? = some (some (.ok record)) →
    s.promises[promise]? = some (some (.ok record)) ∨ Told deps keyOf s' record

section
variable {deps keyOf} {s s' : Storefront} {ms : Requests} {i : Nat} {c : CheckoutRequest} {m : Place.Mode}

theorem Grows.id_drawn (grows : Grows deps keyOf s s') {id : String} (drawn : Drawn deps s id) : Drawn deps s' id := by
  obtain ⟨n, old, same⟩ := drawn
  exact ⟨n, Nat.lt_of_lt_of_le old grows.drawn, same⟩

variable {record : OrderRecord}

theorem Grows.filed (grows : Grows deps keyOf s s') (filed : Filed deps keyOf s record) :
    Filed deps keyOf s' record := ⟨grows.id_drawn filed.drawn, filed.key⟩

theorem Grows.told (grows : Grows deps keyOf s s') (told : Told deps keyOf s record) : Told deps keyOf s' record := by
  obtain ⟨o, member, same⟩ := told.there
  obtain ⟨o', member', same'⟩ := grows.orders o member
  exact ⟨grows.filed told.toFiled, o', member', same'.trans same⟩

variable {promise : Nat} {held : Hold} {purchase : PaidPurchase}

theorem Grows.promised (grows : Grows deps keyOf s s') (promised : Promised deps keyOf s promise) :
    Promised deps keyOf s' promise := by
  intro record kept
  rcases grows.promises promise record kept with old | told
  · exact grows.told (promised record old)
  · exact told

theorem Grows.keyed (grows : Grows deps keyOf s s') {key : Option String} {stage : Stage}
    (keyed : Keyed deps keyOf s key stage) : Keyed deps keyOf s' key stage := by
  cases stage with
  | again record => exact grows.told keyed
  | made p record => exact grows.told keyed
  | waits p => exact grows.promised keyed
  | start | makes | drawn | placed | dated | rests | told | ended | lost =>
    exact fun id reserved => ⟨grows.id_drawn (keyed id reserved).1, (keyed id reserved).2⟩

theorem grows_same (orders : s'.memory.orders = s.memory.orders) (drawn : s'.ordersDrawn = s.ordersDrawn)
    (promises : s'.promises = s.promises) : Grows deps keyOf s s' where
  drawn := drawn.ge
  orders o member := ⟨o, orders ▸ member, rfl⟩
  promises _ _ kept := .inl (promises ▸ kept)

theorem Named.grows (named : Named deps keyOf s ms) (grows : Grows deps keyOf s s') {ms' : Requests}
    (orders : ∀ o ∈ s'.memory.orders, o ∈ s.memory.orders ∨ Filed deps keyOf s' o)
    (rows : ∀ o ∈ s'.orderRows, o ∈ s.orderRows ∨ Filed deps keyOf s' o)
    (flying : ∀ inFlight promise, s'.ordersInFlight inFlight = some promise →
      s.ordersInFlight inFlight = some promise ∨ Promised deps keyOf s' promise)
    (stages : ∀ (j : Nat) d n held purchase stage, ms'[j]? = some (d, some n) → n.2 = .fulfils held purchase stage →
      ms[j]? = some (d, some n) ∨ (purchase.idempotencyKey = d.idempotencyKey ∧ Keyed deps keyOf s' d.idempotencyKey stage)) :
    Named deps keyOf s' ms' where
  orders o member := (orders o member).elim (fun old => grows.filed (named.orders o old)) id
  rows o member := (rows o member).elim (fun old => grows.filed (named.rows o old)) id
  flying inFlight promise found :=
    (flying inFlight promise found).elim (fun old => grows.promised (named.flying inFlight promise old)) id
  stages j d n held purchase stage found place := by
    rcases stages j d n held purchase stage found place with old | new
    · obtain ⟨key, keyed⟩ := named.stages j d n held purchase stage old place
      exact ⟨key, grows.keyed keyed⟩
    · exact new

theorem Named.moves (named : Named deps keyOf s ms) {mode' : Option Place.Mode} (orders : s'.memory.orders = s.memory.orders)
    (rows : s'.orderRows = s.orderRows) (inFlight : s'.ordersInFlight = s.ordersInFlight)
    (drawn : s'.ordersDrawn = s.ordersDrawn) (promises : s'.promises = s.promises)
    (stage : ∀ m' held purchase stage, mode' = some m' → m'.2 = .fulfils held purchase stage →
      purchase.idempotencyKey = c.idempotencyKey ∧ Keyed deps keyOf s c.idempotencyKey stage) :
    Named deps keyOf s' (ms.set i (c, mode')) := by
  have grows : Grows deps keyOf s s' := grows_same orders drawn promises
  apply named.grows grows
  · rw [orders]
    exact fun o member => .inl member
  · rw [rows]
    exact fun o member => .inl member
  · rw [inFlight]
    exact fun _ _ found => .inl found
  · intro j d n held purchase st found place
    rcases mode_of_set found with ⟨_, rfl, same⟩ | ⟨_, old⟩
    · obtain ⟨key, keyed⟩ := stage n held purchase st same.symm place
      exact .inr ⟨key, grows.keyed keyed⟩
    · exact .inl old

theorem Told.key_there (told : Told deps keyOf s record) (named : Named deps keyOf s ms) :
    ∃ o ∈ s.memory.orders, o.idempotencyKey = record.idempotencyKey := by
  obtain ⟨o, member, same⟩ := told.there
  refine ⟨o, member, ?_⟩
  rw [← (named.orders o member).key, same, told.key]

theorem setOrder_keeps (orders : List OrderRecord) (order : OrderRecord) :
    order ∈ setOrder orders order ∧ ∀ o ∈ orders, ∃ o' ∈ setOrder orders order, o'.orderId = o.orderId := by
  unfold setOrder
  by_cases there : orders.any (·.orderId = order.orderId)
  · rw [if_pos there]
    obtain ⟨old, member, same⟩ := List.any_eq_true.mp there
    have same : old.orderId = order.orderId := by simpa using same
    refine ⟨List.mem_map.mpr ⟨old, member, if_pos same⟩, fun o also => ?_⟩
    by_cases equal : o.orderId = order.orderId
    · exact ⟨order, List.mem_map.mpr ⟨o, also, if_pos equal⟩, equal.symm⟩
    · exact ⟨o, List.mem_map.mpr ⟨o, also, if_neg equal⟩, rfl⟩
  · rw [if_neg there]
    exact ⟨by simp, fun o also => ⟨o, List.mem_append_left _ also, rfl⟩⟩

theorem grows_put : Grows deps keyOf s (putOrder record s) where
  drawn := Nat.le_refl _
  orders := (setOrder_keeps s.memory.orders record).2
  promises _ _ kept := .inl kept

section
variable (named : Named deps keyOf s ms)
include named

theorem Named.stage (grows : Grows deps keyOf s s') {stage : Stage} (orders : s'.memory.orders = s.memory.orders)
    (rows : s'.orderRows = s.orderRows) (flying : ∀ inFlight promise, s'.ordersInFlight inFlight = some promise →
      s.ordersInFlight inFlight = some promise ∨ Promised deps keyOf s' promise)
    (key : purchase.idempotencyKey = c.idempotencyKey) (keyed : Keyed deps keyOf s' c.idempotencyKey stage) :
    Named deps keyOf s' (ms.set i (c, some (c, .fulfils held purchase stage))) := by
  apply named.grows grows
  · rw [orders]
    exact fun o member => .inl member
  · rw [rows]
    exact fun o member => .inl member
  · exact flying
  · intro j d n held' purchase' stage' found place
    rcases mode_of_set found with ⟨_, rfl, same⟩ | ⟨_, old⟩
    · cases same
      cases place
      exact .inr ⟨key, keyed⟩
    · exact .inl old

theorem Named.put {stage : Stage} (filed : Filed deps keyOf s record) (key : purchase.idempotencyKey = c.idempotencyKey)
    (keyed : Told deps keyOf (putOrder record s) record → Keyed deps keyOf (putOrder record s) c.idempotencyKey stage) :
    Named deps keyOf (putOrder record s) (ms.set i (c, some (c, .fulfils held purchase stage))) := by
  have grows : Grows deps keyOf s (putOrder record s) := grows_put
  have told : Told deps keyOf (putOrder record s) record :=
    ⟨grows.filed filed, record, (setOrder_keeps s.memory.orders record).1, rfl⟩
  apply named.grows grows
  · intro o member
    rcases mem_setOrder member with rfl | old
    · exact .inr told.toFiled
    · exact .inl old
  · exact fun o member => .inl member
  · exact fun _ _ found => .inl found
  · intro j d n held' purchase' stage' found place
    rcases mode_of_set found with ⟨_, rfl, same⟩ | ⟨_, old⟩
    · cases same
      cases place
      exact .inr ⟨key, keyed told⟩
    · exact .inl old

theorem Named.draw (key : Option String) : Named deps (update keyOf (deps.orderIds.newOrderId s.ordersDrawn) key) s ms := by
  have other : ∀ id, Drawn deps s id → update keyOf (deps.orderIds.newOrderId s.ordersDrawn) key id = keyOf id := by
    rintro id ⟨n, old, rfl⟩
    apply update_of_ne
    intro same
    have same := deps.orderIds.fresh same
    omega
  have filed : ∀ o, Filed deps keyOf s o → Filed deps (update keyOf _ key) s o :=
    fun o filed => ⟨filed.drawn, (other _ filed.drawn).trans filed.key⟩
  have told : ∀ o, Told deps keyOf s o → Told deps (update keyOf _ key) s o :=
    fun o told => ⟨filed o told.toFiled, told.there⟩
  constructor
  · exact fun o member => filed o (named.orders o member)
  · exact fun o member => filed o (named.rows o member)
  · exact fun inFlight promise found record kept => told record (named.flying inFlight promise found record kept)
  · intro i c m held purchase stage found place
    obtain ⟨same, keyed⟩ := named.stages i c m held purchase stage found place
    refine ⟨same, ?_⟩
    cases stage with
    | again record => exact told record keyed
    | made p record => exact told record keyed
    | waits p => exact fun record kept => told record (keyed record kept)
    | start | makes | drawn | placed | dated | rests | told | ended | lost =>
      exact fun id reserved => ⟨(keyed id reserved).1, (other id (keyed id reserved).1).trans (keyed id reserved).2⟩

end

theorem signed_key {record issued : OrderRecord} {issuedAt : Int} (signs : signed deps record issuedAt = .ok issued) :
    issued.orderId = record.orderId ∧ issued.idempotencyKey = record.idempotencyKey := by
  unfold signed at signs
  cases receipt : signReceipt deps.crypto (buildReceiptClaims record deps.config issuedAt) deps.config.signingSecret with
  | error e =>
    rw [receipt] at signs
    cases signs
  | ok receipt =>
    rw [receipt] at signs
    cases signs
    exact ⟨rfl, rfl⟩

variable (deps) in
theorem placedRecord_key (purchase : PaidPurchase) (orderId : String) (createdAt : Int) (answer : Except Failure String) :
    (placedRecord deps purchase orderId createdAt answer).orderId = orderId ∧
      (placedRecord deps purchase orderId createdAt answer).idempotencyKey = purchase.idempotencyKey := by
  cases answer <;> exact ⟨rfl, rfl⟩

/-- What a turn of an order stores has the key of its request, or of an order that was there. -/
def Adds (s s' : Storefront) (key : Option String) : Prop :=
  ∀ o ∈ s'.memory.orders, o ∈ s.memory.orders ∨ o.idempotencyKey = key ∨
    ∃ old ∈ s.memory.orders, old.idempotencyKey = o.idempotencyKey

theorem adds_same (key : Option String) (orders : s'.memory.orders = s.memory.orders) : Adds s s' key := by
  intro o member
  rw [orders] at member
  exact .inl member

theorem grows_settle {result : Except Failure OrderRecord} (told : ∀ record, result = .ok record → Told deps keyOf s record) :
    Grows deps keyOf s (settlePromise promise result s) := by
  refine ⟨Nat.le_refl _, fun o member => ⟨o, member, rfl⟩, fun p record kept => ?_⟩
  rw [show (settlePromise promise result s).promises = s.promises.set promise (some result) from rfl,
    List.getElem?_set] at kept
  split_ifs at kept with same
  · cases kept
    obtain ⟨filed, there⟩ := told record rfl
    exact .inr ⟨⟨filed.drawn, filed.key⟩, there⟩
  · exact .inl kept

theorem Named.turn (named : Named deps keyOf s ms) {m m' : OrderStages.Mode}
    (mode : ms[i]? = some (c, some (c, .fulfils held m.1 m.2))) (turns : Turns deps m s s' m') :
    (∃ keyOf', Named deps keyOf' s' (ms.set i (c, some (c, .fulfils held m'.1 m'.2)))) ∧ Adds s s' c.idempotencyKey := by
  obtain ⟨key, keyed⟩ := named.stages i c _ held m.1 m.2 mode rfl
  cases turns with
  | @duplicate p _ record found =>
    refine ⟨⟨keyOf, named.stage (grows_same rfl rfl rfl) rfl rfl (fun _ _ found => .inl found) key ?_⟩, adds_same _ rfl⟩
    have member : record ∈ s.memory.orders := List.mem_of_find?_eq_some found
    exact ⟨named.orders record member, record, member, rfl⟩
  | @running p _ promise unknown flying =>
    refine ⟨⟨keyOf, named.stage (grows_same rfl rfl rfl) rfl rfl (fun _ _ found => .inl found) key ?_⟩, adds_same _ rfl⟩
    exact named.flying _ _ flying
  | @free p _ unknown free =>
    have looked : (lookup deps p.settlement.txHash s).2 = { s with
        ordersInFlight := update s.ordersInFlight (inFlightKey deps p.settlement.txHash) (some s.promises.length)
        promises := s.promises ++ [none] } := by simp [lookup, unknown, free]
    rw [looked]
    have kept : ∀ (q : Nat) record, (s.promises ++ [none])[q]? = some (some (.ok record)) →
        s.promises[q]? = some (some (.ok record)) := by
      intro q record found
      by_cases old : q < s.promises.length
      · rwa [List.getElem?_append_left old] at found
      · rw [List.getElem?_append_right (Nat.not_lt.mp old), List.getElem?_singleton] at found
        split_ifs at found
        cases found
    refine ⟨⟨keyOf, named.stage ?_ rfl rfl ?_ key ?_⟩, adds_same _ rfl⟩
    · exact ⟨Nat.le_refl _, fun o member => ⟨o, member, rfl⟩, fun q record found => .inl (kept q record found)⟩
    · intro inFlight promise found
      change update s.ordersInFlight _ _ inFlight = some promise at found
      by_cases same : inFlight = inFlightKey deps p.settlement.txHash
      · rw [same, update_self] at found
        cases found
        refine .inr fun record there => ?_
        have old := kept _ record there
        simp at old
      · rw [update_of_ne same] at found
        exact .inl found
    · intro id reserved
      cases reserved
  | @put p _ record =>
    have told : Told deps keyOf s record := keyed
    refine ⟨⟨keyOf, named.put told.toFiled key id⟩, fun o member => ?_⟩
    rcases mem_setOrder member with rfl | old
    · exact .inr (.inr (told.key_there named))
    · exact .inl old
  | @draw p _ promise =>
    have drawn := named.draw c.idempotencyKey
    refine ⟨⟨_, drawn.stage ?_ rfl rfl (fun _ _ found => .inl found) key ?_⟩, adds_same _ rfl⟩
    · exact ⟨Nat.le_succ _, fun o member => ⟨o, member, rfl⟩, fun q record found => .inl found⟩
    · rintro id ⟨⟩
      exact ⟨⟨s.ordersDrawn, Nat.lt_succ_self _, rfl⟩, update_self ..⟩
  | @date p _ promise orderId createdAt answer =>
    refine ⟨⟨keyOf, named.stage (grows_same rfl rfl rfl) rfl rfl (fun _ _ found => .inl found) key ?_⟩, adds_same _ rfl⟩
    exact fun id reserved => keyed id reserved
  | @make p _ promise orderId createdAt answer issuedAt issued signs =>
    obtain ⟨number, same⟩ := signed_key signs
    obtain ⟨placedId, placedKey⟩ := placedRecord_key deps p orderId createdAt answer
    have own := keyed orderId rfl
    have issuedKey : issued.idempotencyKey = c.idempotencyKey := same.trans (placedKey.trans key)
    have filed : Filed deps keyOf s issued := by
      rw [placedId] at number
      exact ⟨number ▸ own.1, by rw [number, own.2, issuedKey]⟩
    refine ⟨⟨keyOf, named.put filed key id⟩, fun o member => ?_⟩
    rcases mem_setOrder member with rfl | old
    · exact .inr (.inl issuedKey)
    · exact .inl old
  | @refuse p _ promise orderId createdAt e =>
    refine ⟨⟨keyOf, named.stage (grows_settle fun _ impossible => by cases impossible) rfl rfl
      (fun _ _ found => .inl found) key fun id reserved => by cases reserved⟩, adds_same _ rfl⟩
  | @unsigned p _ promise orderId createdAt answer issuedAt e fails =>
    refine ⟨⟨keyOf, named.stage (grows_settle fun _ impossible => by cases impossible) rfl rfl
      (fun _ _ found => .inl found) key fun id reserved => by cases reserved⟩, adds_same _ rfl⟩
  | @settle p _ promise record result only =>
    refine ⟨⟨keyOf, named.stage (grows_settle fun other brought => ?_) rfl rfl
      (fun _ _ found => .inl found) key fun id reserved => by cases reserved⟩, adds_same _ rfl⟩
    rw [only other brought]
    exact keyed
  | @forget p _ promise answer =>
    have grows : Grows deps keyOf s (forget deps p.settlement.txHash s) := grows_same rfl rfl rfl
    refine ⟨⟨keyOf, named.stage grows rfl rfl ?_ key ?_⟩, adds_same _ rfl⟩
    · intro inFlight promise found
      change update s.ordersInFlight _ _ inFlight = some promise at found
      rw [Function.update_apply] at found
      split_ifs at found
      exact .inl found
    · intro id reserved
      cases reserved

end

end AgentPey.OrderKeys
