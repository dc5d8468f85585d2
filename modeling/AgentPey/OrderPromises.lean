import AgentPey.OrderStages

/-!
Who promises the order of a settlement, and which id it has. One call at most promises it, and every other call for the
settlement finds that promise; an id that is drawn for an order belongs to no other.
-/
namespace AgentPey.OrderPromises
open Receipts CheckoutSessions Orders Routines Gateway PaidOrders Disciplines OrderStages

abbrev Modes := List (PaidPurchase × Option Mode)

variable (deps : Deps)

/-! ### The promises -/

/-- A settlement's order is promised by one call at most, which others find; who waits for a promise waits for the order
    of its own settlement. -/
structure Flights (s : Storefront) (ms : Modes) : Prop where
  own : ∀ (i : Nat) c m, ms[i]? = some (c, some m) → m.1 = c
  flying : ∀ (i : Nat) c m p, ms[i]? = some (c, some m) → m.2.owner = some p →
    s.ordersInFlight (inFlightKey deps c.settlement.txHash) = some p ∧ p < s.promises.length
  owned : ∀ txHash p, s.ordersInFlight (inFlightKey deps txHash) = some p →
    ∃ (i : Nat) (c : PaidPurchase) (m : Mode), ms[i]? = some (c, some m) ∧ m.2.owner = some p ∧ c.settlement.txHash = txHash
  alone : ∀ (i j : Nat) c d m n p, ms[i]? = some (c, some m) → ms[j]? = some (d, some n) → m.2.owner = some p →
    n.2.owner = some p → i = j
  waiting : ∀ (i : Nat) c m p, ms[i]? = some (c, some m) → m.2 = .waits p → p < s.promises.length ∧
    ∀ (j : Nat) d n, ms[j]? = some (d, some n) → n.2.owner = some p → d.settlement.txHash = c.settlement.txHash

section
variable {deps} {s s' : Storefront} {ms : Modes} {i : Nat} {c : PaidPurchase} {m : Mode}

theorem inFlightKey_inj {a b : String} : inFlightKey deps a = inFlightKey deps b ↔ a = b := by
  unfold inFlightKey
  constructor
  · exact (String.append_right_inj _).mp
  · rintro rfl
    rfl

variable {p : Nat}

section
variable (flights : Flights deps s ms)
include flights

theorem Flights.one_maker {j : Nat} {d : PaidPurchase} {n : Mode} {q : Nat} (first : ms[i]? = some (c, some m))
    (second : ms[j]? = some (d, some n)) (mine : m.2.owner = some p) (yours : n.2.owner = some q)
    (same : c.settlement.txHash = d.settlement.txHash) : i = j := by
  have here := (flights.flying i c m p first mine).1
  have there := (flights.flying j d n q second yours).1
  rw [same, there] at here
  cases here
  exact flights.alone i j c d m n _ first second mine yours

theorem Flights.keeps {mode' : Option Mode} (mode : ms[i]? = some (c, some m))
    (inFlight : s'.ordersInFlight = s.ordersInFlight) (promises : s'.promises.length = s.promises.length)
    (own : ∀ m', mode' = some m' → m'.1 = c ∧ m'.2.owner = m.2.owner ∧ ∀ p, m'.2 = .waits p → m.2 = .waits p)
    (gone : mode' = none → m.2.owner = none) : Flights deps s' (ms.set i (c, mode')) := by
  have old : ∀ (j : Nat) d n, (ms.set i (c, mode'))[j]? = some (d, some n) → ∃ n₀, ms[j]? = some (d, some n₀) ∧
      n.1 = d ∧ n.2.owner = n₀.2.owner ∧ ∀ p, n.2 = .waits p → n₀.2 = .waits p := by
    intro j d n found
    rcases mode_of_set found with ⟨rfl, rfl, same⟩ | ⟨_, old⟩
    · exact ⟨m, mode, own n same.symm⟩
    · exact ⟨n, old, flights.own j d n old, rfl, fun _ waits => waits⟩
  constructor
  · intro j d n found
    obtain ⟨_, _, same, _⟩ := old j d n found
    exact same
  · intro j d n p found owns
    obtain ⟨n₀, before, _, owner, _⟩ := old j d n found
    rw [inFlight, promises]
    exact flights.flying j d n₀ p before (owner ▸ owns)
  · intro txHash p flying
    rw [inFlight] at flying
    obtain ⟨j, d, n, found, owns, same⟩ := flights.owned txHash p flying
    by_cases here : j = i
    · subst here
      rw [mode] at found
      cases found
      cases after : mode' with
      | none =>
        rw [gone after] at owns
        cases owns
      | some m' =>
        obtain ⟨inside, _⟩ := List.getElem?_eq_some_iff.mp mode
        exact ⟨j, c, m', by simp [inside], by rw [(own m' after).2.1, owns], same⟩
    · exact ⟨j, d, n, by rw [List.getElem?_set_ne (Ne.symm here), found], owns, same⟩
  · intro j k d e n l p foundj foundk ownsj ownsk
    obtain ⟨_, beforej, _, ownerj, _⟩ := old j d n foundj
    obtain ⟨_, beforek, _, ownerk, _⟩ := old k e l foundk
    exact flights.alone j k d e _ _ p beforej beforek (ownerj ▸ ownsj) (ownerk ▸ ownsk)
  · intro j d n p found waits
    obtain ⟨n₀, before, _, _, waited⟩ := old j d n found
    obtain ⟨bound, others⟩ := flights.waiting j d n₀ p before (waited p waits)
    refine ⟨promises ▸ bound, fun k e l foundk ownsk => ?_⟩
    obtain ⟨l₀, beforek, _, ownerk, _⟩ := old k e l foundk
    exact others k e l₀ beforek (ownerk ▸ ownsk)

theorem Flights.joins (mode : ms[i]? = some (c, some (c, .start)))
    (flying : s.ordersInFlight (inFlightKey deps c.settlement.txHash) = some p) :
    Flights deps s (ms.set i (c, some (c, .waits p))) := by
  obtain ⟨k, e, l, foundk, ownsk, same⟩ := flights.owned _ p flying
  have old : ∀ (j : Nat) d n, (ms.set i (c, some (c, .waits p)))[j]? = some (d, some n) →
      (j = i ∧ d = c ∧ n = (c, .waits p)) ∨ ms[j]? = some (d, some n) := by
    intro j d n found
    rcases mode_of_set found with ⟨rfl, rfl, same⟩ | ⟨_, old⟩
    · exact .inl ⟨rfl, rfl, Option.some.inj same⟩
    · exact .inr old
  constructor
  · intro j d n found
    rcases old j d n found with ⟨_, rfl, rfl⟩ | before
    · rfl
    · exact flights.own j d n before
  · intro j d n q found owns
    rcases old j d n found with ⟨_, rfl, rfl⟩ | before
    · cases owns
    · exact flights.flying j d n q before owns
  · intro txHash q here
    obtain ⟨j, d, n, found, owns, own⟩ := flights.owned txHash q here
    have other : j ≠ i := by
      rintro rfl
      rw [mode] at found
      cases found
      cases owns
    exact ⟨j, d, n, by rw [List.getElem?_set_ne (Ne.symm other), found], owns, own⟩
  · intro j k d e n l q foundj foundk ownsj ownsk
    rcases old j d n foundj with ⟨_, rfl, rfl⟩ | beforej
    · cases ownsj
    · rcases old k e l foundk with ⟨_, rfl, rfl⟩ | beforek
      · cases ownsk
      · exact flights.alone j k d e n l q beforej beforek ownsj ownsk
  · intro j d n q found waits
    have settled : ∀ (k : Nat) e l, (ms.set i (c, some (c, .waits p)))[k]? = some (e, some l) → l.2.owner = some q →
        ms[k]? = some (e, some l) := by
      intro k e l foundk ownsk
      rcases old k e l foundk with ⟨_, rfl, rfl⟩ | before
      · cases ownsk
      · exact before
    rcases old j d n found with ⟨_, rfl, rfl⟩ | before
    · cases waits
      refine ⟨(flights.flying k e l p foundk ownsk).2, fun j' d' n' found' owns' => ?_⟩
      have here := settled j' d' n' found' owns'
      have one := flights.alone j' k d' e n' l p here foundk owns' ownsk
      subst one
      rw [here] at foundk
      cases foundk
      exact same
    · obtain ⟨bound, others⟩ := flights.waiting j d n q before waits
      exact ⟨bound, fun k e l foundk ownsk => others k e l (settled k e l foundk ownsk) ownsk⟩

theorem Flights.begins (mode : ms[i]? = some (c, some (c, .start)))
    (free : s.ordersInFlight (inFlightKey deps c.settlement.txHash) = none) (inFlight : s'.ordersInFlight =
      Function.update s.ordersInFlight (inFlightKey deps c.settlement.txHash) (some s.promises.length))
    (promises : s'.promises.length = s.promises.length + 1) :
    Flights deps s' (ms.set i (c, some (c, .makes s.promises.length))) := by
  have old : ∀ (j : Nat) d n, (ms.set i (c, some (c, .makes s.promises.length)))[j]? = some (d, some n) →
      (j = i ∧ d = c ∧ n = (c, .makes s.promises.length)) ∨ (j ≠ i ∧ ms[j]? = some (d, some n)) := by
    intro j d n found
    rcases mode_of_set found with ⟨rfl, rfl, same⟩ | ⟨different, old⟩
    · exact .inl ⟨rfl, rfl, Option.some.inj same⟩
    · exact .inr ⟨different, old⟩
  -- A call that has a promise has another one than the new.
  have elder : ∀ (j : Nat) d n q, ms[j]? = some (d, some n) → n.2.owner = some q → q < s.promises.length :=
    fun j d n q found owns => (flights.flying j d n q found owns).2
  constructor
  · intro j d n found
    rcases old j d n found with ⟨_, rfl, rfl⟩ | ⟨_, before⟩
    · rfl
    · exact flights.own j d n before
  · intro j d n q found owns
    rw [inFlight, promises]
    rcases old j d n found with ⟨_, rfl, rfl⟩ | ⟨_, before⟩
    · cases owns
      exact ⟨Function.update_self .., Nat.lt_succ_self _⟩
    · obtain ⟨flying, bound⟩ := flights.flying j d n q before owns
      refine ⟨?_, Nat.lt_succ_of_lt bound⟩
      rw [Function.update_apply]
      split_ifs with same
      · rw [same, free] at flying
        cases flying
      · exact flying
  · intro txHash q flying
    rw [inFlight, Function.update_apply] at flying
    split_ifs at flying with same
    · cases flying
      obtain ⟨inside, _⟩ := List.getElem?_eq_some_iff.mp mode
      exact ⟨i, c, (c, .makes _), by simp [inside], rfl, (inFlightKey_inj.mp same).symm⟩
    · obtain ⟨j, d, n, found, owns, own⟩ := flights.owned txHash q flying
      have other : j ≠ i := by
        rintro rfl
        rw [mode] at found
        cases found
        cases owns
      exact ⟨j, d, n, by rw [List.getElem?_set_ne (Ne.symm other), found], owns, own⟩
  · intro j k d e n l q foundj foundk ownsj ownsk
    rcases old j d n foundj with ⟨rfl, rfl, rfl⟩ | ⟨_, beforej⟩
    · rcases old k e l foundk with ⟨rfl, _, _⟩ | ⟨_, beforek⟩
      · rfl
      · cases ownsj
        exact absurd (elder k e l _ beforek ownsk) (Nat.lt_irrefl _)
    · rcases old k e l foundk with ⟨rfl, rfl, rfl⟩ | ⟨_, beforek⟩
      · cases ownsk
        exact absurd (elder j d n _ beforej ownsj) (Nat.lt_irrefl _)
      · exact flights.alone j k d e n l q beforej beforek ownsj ownsk
  · intro j d n q found waits
    rcases old j d n found with ⟨_, rfl, rfl⟩ | ⟨_, before⟩
    · cases waits
    · obtain ⟨bound, others⟩ := flights.waiting j d n q before waits
      refine ⟨promises ▸ Nat.lt_succ_of_lt bound, fun k e l foundk ownsk => ?_⟩
      rcases old k e l foundk with ⟨_, rfl, rfl⟩ | ⟨_, beforek⟩
      · cases ownsk
        exact absurd bound (Nat.lt_irrefl _)
      · exact others k e l beforek ownsk

end

theorem forget_inFlight (txHash : String) : (forget deps txHash s).ordersInFlight =
    Function.update s.ordersInFlight (inFlightKey deps txHash) none := rfl

theorem Flights.forgets (flights : Flights deps s ms) {answer : Except Failure OrderRecord}
    (mode : ms[i]? = some (c, some (c, .told p answer))) :
    Flights deps (forget deps c.settlement.txHash s) (ms.set i (c, some (c, .ended answer))) := by
  have old : ∀ (j : Nat) d n, (ms.set i (c, some (c, .ended answer)))[j]? = some (d, some n) →
      (j = i ∧ d = c ∧ n = (c, .ended answer)) ∨ (j ≠ i ∧ ms[j]? = some (d, some n)) := by
    intro j d n found
    rcases mode_of_set found with ⟨rfl, rfl, same⟩ | ⟨different, old⟩
    · exact .inl ⟨rfl, rfl, Option.some.inj same⟩
    · exact .inr ⟨different, old⟩
  constructor
  · intro j d n found
    rcases old j d n found with ⟨_, rfl, rfl⟩ | ⟨_, before⟩
    · rfl
    · exact flights.own j d n before
  · intro j d n q found owns
    rcases old j d n found with ⟨_, rfl, rfl⟩ | ⟨different, before⟩
    · cases owns
    · refine ⟨?_, (flights.flying j d n q before owns).2⟩
      rw [forget_inFlight, Function.update_of_ne]
      · exact (flights.flying j d n q before owns).1
      · intro same
        exact different (flights.one_maker before mode owns rfl (inFlightKey_inj.mp same))
  · intro txHash q flying
    rw [forget_inFlight, Function.update_apply] at flying
    split_ifs at flying with same
    obtain ⟨j, d, n, found, owns, own⟩ := flights.owned txHash q flying
    have other : j ≠ i := by
      rintro rfl
      rw [mode] at found
      cases found
      exact same (congrArg (inFlightKey deps) own.symm)
    exact ⟨j, d, n, by rw [List.getElem?_set_ne (Ne.symm other), found], owns, own⟩
  · intro j k d e n l q foundj foundk ownsj ownsk
    rcases old j d n foundj with ⟨_, rfl, rfl⟩ | ⟨_, beforej⟩
    · cases ownsj
    · rcases old k e l foundk with ⟨_, rfl, rfl⟩ | ⟨_, beforek⟩
      · cases ownsk
      · exact flights.alone j k d e n l q beforej beforek ownsj ownsk
  · intro j d n q found waits
    rcases old j d n found with ⟨_, rfl, rfl⟩ | ⟨_, before⟩
    · cases waits
    · obtain ⟨bound, others⟩ := flights.waiting j d n q before waits
      refine ⟨bound, fun k e l foundk ownsk => ?_⟩
      rcases old k e l foundk with ⟨_, rfl, rfl⟩ | ⟨_, beforek⟩
      · cases ownsk
      · exact others k e l beforek ownsk

theorem Flights.start (flights : Flights deps s ms) (c : PaidPurchase) : Flights deps s (ms ++ [(c, some (c, .start))]) := by
  have old : ∀ (j : Nat) d n, (ms ++ [(c, some (c, .start))])[j]? = some (d, some n) →
      (n = (d, .start)) ∨ ms[j]? = some (d, some n) := by
    intro j d n found
    rcases mode_of_append found with ⟨_, rfl, same⟩ | old
    · exact .inl (Option.some.inj same)
    · exact .inr old
  constructor
  · intro j d n found
    rcases old j d n found with rfl | before
    · rfl
    · exact flights.own j d n before
  · intro j d n q found owns
    rcases old j d n found with rfl | before
    · cases owns
    · exact flights.flying j d n q before owns
  · intro txHash q flying
    obtain ⟨j, d, n, found, owns, own⟩ := flights.owned txHash q flying
    obtain ⟨inside, _⟩ := List.getElem?_eq_some_iff.mp found
    exact ⟨j, d, n, by rw [List.getElem?_append_left inside, found], owns, own⟩
  · intro j k d e n l q foundj foundk ownsj ownsk
    rcases old j d n foundj with rfl | beforej
    · cases ownsj
    · rcases old k e l foundk with rfl | beforek
      · cases ownsk
      · exact flights.alone j k d e n l q beforej beforek ownsj ownsk
  · intro j d n q found waits
    rcases old j d n found with rfl | before
    · cases waits
    · obtain ⟨bound, others⟩ := flights.waiting j d n q before waits
      refine ⟨bound, fun k e l foundk ownsk => ?_⟩
      rcases old k e l foundk with rfl | beforek
      · cases ownsk
      · exact others k e l beforek ownsk

theorem Flights.crash : Flights deps (restart s) (ms.map fun call => (call.1, none)) where
  own i c m found := by cases mode_of_kill found
  flying i c m p found := by cases mode_of_kill found
  owned txHash p flying := by cases flying
  alone i j c d m n p found := by cases mode_of_kill found
  waiting i c m p found := by cases mode_of_kill found

end

/-! ### The order ids -/

def Drawn (s : Storefront) (orderId : String) : Prop := ∃ n < s.ordersDrawn, deps.orderIds.newOrderId n = orderId

/-- An order's id is its own: a stored record's, or the one a call has drawn for the record it makes. -/
structure Numbered (s : Storefront) (ms : Modes) : Prop where
  drawn : ∀ a ∈ s.memory.orders, Drawn deps s a.orderId
  distinct : ∀ a ∈ s.memory.orders, ∀ b ∈ s.memory.orders, a.orderId = b.orderId → a = b
  fresh : ∀ (i : Nat) c m id, ms[i]? = some (c, some m) → m.2.reserved = some id →
    Drawn deps s id ∧ ∀ a ∈ s.memory.orders, a.orderId ≠ id
  apart : ∀ (i j : Nat) c d m n id, ms[i]? = some (c, some m) → ms[j]? = some (d, some n) → m.2.reserved = some id →
    n.2.reserved = some id → i = j

section
variable {deps} {s s' : Storefront} {ms : Modes} {i : Nat} {c : PaidPurchase} {m : Mode}
variable {orders : List OrderRecord} {order : OrderRecord}

theorem setOrder_same (member : order ∈ orders) (distinct : ∀ a ∈ orders, ∀ b ∈ orders, a.orderId = b.orderId → a = b)
    : setOrder orders order = orders := by
  have there : orders.any (·.orderId = order.orderId) := List.any_eq_true.mpr ⟨order, member, by simp⟩
  rw [setOrder, if_pos there]
  conv_rhs => rw [← List.map_id orders]
  apply List.map_congr_left
  intro other also
  split_ifs with same
  · exact distinct order member other also same.symm
  · rfl

theorem setOrder_new (new : ∀ a ∈ orders, a.orderId ≠ order.orderId) : setOrder orders order = orders ++ [order] := by
  have absent : ¬orders.any (·.orderId = order.orderId) := by
    intro there
    obtain ⟨other, member, same⟩ := List.any_eq_true.mp there
    exact new other member (by simpa using same)
  rw [setOrder, if_neg absent]

theorem mem_setOrder {order a : OrderRecord} (member : a ∈ setOrder orders order) : a = order ∨ a ∈ orders := by
  unfold setOrder at member
  split_ifs at member with there
  · obtain ⟨other, also, same⟩ := List.mem_map.mp member
    split_ifs at same
    · exact .inl same.symm
    · exact .inr (same ▸ also)
  · rcases List.mem_append.mp member with old | new
    · exact .inr old
    · exact .inl (List.mem_singleton.mp new)

theorem setOrder_ids (order : OrderRecord) (ids : (orders.map OrderRecord.orderId).Nodup) :
    ((setOrder orders order).map OrderRecord.orderId).Nodup := by
  unfold setOrder
  split_ifs with there
  · have same : (orders.map fun o => if o.orderId = order.orderId then order else o).map OrderRecord.orderId =
        orders.map OrderRecord.orderId := by
      rw [List.map_map]
      apply List.map_congr_left
      intro other _
      dsimp only [Function.comp]
      split_ifs with equal
      · exact equal.symm
      · rfl
    rwa [same]
  · rw [List.map_append]
    refine List.nodup_append.mpr ⟨ids, by simp, ?_⟩
    intro id old id' new same
    obtain ⟨other, member, rfl⟩ := List.mem_map.mp old
    have equal := List.mem_singleton.mp new
    exact there (List.any_eq_true.mpr ⟨other, member, by simpa using same.trans equal⟩)

section
variable (numbered : Numbered deps s ms)
include numbered

theorem Numbered.keeps {ms' : Modes} (orders : s'.memory.orders = s.memory.orders) (drawn : s'.ordersDrawn = s.ordersDrawn)
    (modes : ∀ (j : Nat) d n id, ms'[j]? = some (d, some n) → n.2.reserved = some id →
      ∃ n₀, ms[j]? = some (d, some n₀) ∧ n₀.2.reserved = some id) : Numbered deps s' ms' := by
  constructor
  · rw [orders]
    intro a member
    rw [Drawn, drawn]
    exact numbered.drawn a member
  · rw [orders]
    exact numbered.distinct
  · intro j d n id found reserves
    obtain ⟨n₀, before, reserved⟩ := modes j d n id found reserves
    rw [orders, Drawn, drawn]
    exact numbered.fresh j d n₀ id before reserved
  · intro j k d e n l id foundj foundk reservesj reservesk
    obtain ⟨_, beforej, reservedj⟩ := modes j d n id foundj reservesj
    obtain ⟨_, beforek, reservedk⟩ := modes k e l id foundk reservesk
    exact numbered.apart j k d e _ _ id beforej beforek reservedj reservedk

theorem Numbered.keeps_set {mode' : Option Mode} (mode : ms[i]? = some (c, some m))
    (orders : s'.memory.orders = s.memory.orders) (drawn : s'.ordersDrawn = s.ordersDrawn)
    (reserved : ∀ m' id, mode' = some m' → m'.2.reserved = some id → m.2.reserved = some id) :
    Numbered deps s' (ms.set i (c, mode')) := by
  apply numbered.keeps orders drawn
  intro j d n id found reserves
  rcases mode_of_set found with ⟨rfl, rfl, same⟩ | ⟨_, old⟩
  · exact ⟨m, mode, reserved n id same.symm reserves⟩
  · exact ⟨n, old, reserves⟩

theorem Numbered.draws {p : Nat} {createdAt : Int} : Numbered deps { s with ordersDrawn := s.ordersDrawn + 1 }
      (ms.set i (c, some (c, .drawn p (deps.orderIds.newOrderId s.ordersDrawn) createdAt))) := by
  have later : ∀ id, Drawn deps s id → Drawn deps { s with ordersDrawn := s.ordersDrawn + 1 } id := by
    rintro id ⟨n, old, rfl⟩
    exact ⟨n, Nat.lt_succ_of_lt old, rfl⟩
  -- The new id is not an older one.
  have new : ¬Drawn deps s (deps.orderIds.newOrderId s.ordersDrawn) := by
    rintro ⟨n, old, same⟩
    have same := deps.orderIds.fresh same
    omega
  constructor
  · exact fun a member => later _ (numbered.drawn a member)
  · exact numbered.distinct
  · intro j d n id found reserves
    rcases mode_of_set found with ⟨_, _, same⟩ | ⟨_, old⟩
    · cases same
      cases reserves
      refine ⟨⟨_, Nat.lt_succ_self _, rfl⟩, fun a member same => ?_⟩
      exact new (same ▸ numbered.drawn a member)
    · exact ⟨later id (numbered.fresh j d n id old reserves).1, (numbered.fresh j d n id old reserves).2⟩
  · intro j k d e n l id foundj foundk reservesj reservesk
    rcases mode_of_set foundj with ⟨rfl, _, same⟩ | ⟨_, oldj⟩
    · cases same
      cases reservesj
      rcases mode_of_set foundk with ⟨rfl, _, _⟩ | ⟨_, oldk⟩
      · rfl
      · exact (new (numbered.fresh k e l _ oldk reservesk).1).elim
    · rcases mode_of_set foundk with ⟨rfl, _, same⟩ | ⟨_, oldk⟩
      · cases same
        cases reservesk
        exact (new (numbered.fresh j d n _ oldj reservesj).1).elim
      · exact numbered.apart j k d e n l id oldj oldk reservesj reservesk

theorem Numbered.stores (mode : ms[i]? = some (c, some m)) (reserves : m.2.reserved = some order.orderId) {m' : Mode}
    (free : m'.2.reserved = none) : Numbered deps (putOrder order s) (ms.set i (c, some m')) := by
  obtain ⟨given, new⟩ := numbered.fresh i c m _ mode reserves
  have orders : (putOrder order s).memory.orders = s.memory.orders ++ [order] := setOrder_new new
  constructor
  · rw [orders]
    intro a member
    rcases List.mem_append.mp member with old | here
    · exact numbered.drawn a old
    · exact List.mem_singleton.mp here ▸ given
  · rw [orders]
    intro a membera b memberb same
    rcases List.mem_append.mp membera with olda | herea
    · rcases List.mem_append.mp memberb with oldb | hereb
      · exact numbered.distinct a olda b oldb same
      · cases List.mem_singleton.mp hereb
        exact (new a olda same).elim
    · cases List.mem_singleton.mp herea
      rcases List.mem_append.mp memberb with oldb | hereb
      · exact (new b oldb same.symm).elim
      · exact (List.mem_singleton.mp hereb).symm
  · intro j d n id found reserved
    rcases mode_of_set found with ⟨_, _, same⟩ | ⟨different, old⟩
    · cases same
      rw [free] at reserved
      cases reserved
    · obtain ⟨also, unused⟩ := numbered.fresh j d n id old reserved
      refine ⟨also, ?_⟩
      rw [orders]
      intro a member same
      rcases List.mem_append.mp member with before | here
      · exact unused a before same
      · cases List.mem_singleton.mp here
        exact different (numbered.apart j i d c n m id old mode reserved (same ▸ reserves))
  · intro j k d e n l id foundj foundk reservesj reservesk
    rcases mode_of_set foundj with ⟨_, _, same⟩ | ⟨_, oldj⟩
    · cases same
      rw [free] at reservesj
      cases reservesj
    · rcases mode_of_set foundk with ⟨_, _, same⟩ | ⟨_, oldk⟩
      · cases same
        rw [free] at reservesk
        cases reservesk
      · exact numbered.apart j k d e n l id oldj oldk reservesj reservesk

end

end

end AgentPey.OrderPromises
