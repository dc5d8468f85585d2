import AgentPey.SignalDesk
import Mathlib.Data.List.Pairwise

/-!
Whether SignalDesk delivers each payment once and keeps its credits in step with its deliveries, over every interleaving of
requests. The first is the key of a table; the second fails between the two writes of a credits delivery, and for good when
the second write finds the delivery of another request, fails, or is never reached.
-/
namespace AgentPey.SignalDesk
open Routines Disciplines

abbrev Seen := List (Event Request Op Failure Op.Answer Response)
abbrev World := System Request Store Op Failure Op.Answer Response
abbrev Act := Action Request Input Empty

def run (desk : Merchant) (w : World) (actions : List Act) : World × Seen := Traces.exec (step (signalDesk desk)) w actions

/-! ### The steps of a request -/

/-- The settled payment, whom credits were granted to, and the delivery a query found. -/
structure Mode where
  tx : Option String
  granted : Option String
  told : Option DeliveryRecord

def Asks (m : Mode) : Op → Prop
  | .verify _ _ => True
  | .settle _ _ => True
  | .findDeliveryByPayment paymentTx => m.tx = some paymentTx
  | .grantCredits _ amount => amount = CREDITS_PER_PURCHASE
  | .insertDelivery paymentTx record => m.tx = some paymentTx ∧ record.signedReceipt.receipt.payment_tx = paymentTx ∧
      (record.productId = AI_CREDITS.id → m.granted = some record.buyer)

def Mode.hears (m : Mode) : (o : Op) → Except Failure o.Answer → Mode
  | .settle _ _, .ok settled => ⟨settled.transaction, none, none⟩
  | .findDeliveryByPayment _, .ok (some record) => { m with told := some record }
  | .grantCredits account _, .ok _ => { m with granted := some account }
  | _, _ => m

def steps : Discipline Store Op Failure Op.Answer Mode where
  sync _ _ _ _ := False
  ask m o m' := m' = m ∧ Asks m o
  expects _ _ := True
  answer := Mode.hears

/-- The body is that of a delivery, with what the answer says beside it. -/
def Delivers (c : Request) (body : DeliveryBody) (record : DeliveryRecord) : Prop :=
  ∃ extra, body = deliveryBody record c.baseUrl extra

/-- A request that delivers answers with the delivery it was told of, for the payment it settled. -/
def Ends (c : Request) (m : Mode) (result : Except Failure Response) : Prop :=
  ∀ body settled, result = .ok (.delivered body settled) → ∃ paymentTx record,
    settled.transaction = some paymentTx ∧ m.tx = some paymentTx ∧ m.told = some record ∧ Delivers c body record

section
variable {desk : Merchant} {c : Request} {product : SignalDeskProduct} {m : Mode} {paymentTx : String}

theorem ends_error (e : Failure) : Ends c m (.error e) := fun _ _ impossible => nomatch impossible

theorem follows_asks {o : Op} (may : Asks m o) : Follows steps m (ask o) fun m' answer => m' = m.hears o answer :=
  follows_ask ⟨rfl, may⟩ fun _ _ => rfl

theorem follows_pure {α : Type} (x : Except Failure α) :
    Follows steps m (liftM x : Job α) fun m' result => m' = m ∧ result = x :=
  follows_lift ⟨rfl, rfl⟩

theorem follows_find (paid : m.tx = some paymentTx) :
    Follows steps m (ask (.findDeliveryByPayment paymentTx)) fun m' (answer : Except Failure (Option DeliveryRecord)) =>
      m'.tx = some paymentTx ∧ ∀ record, answer = .ok (some record) → m'.told = some record := by
  apply (follows_asks (o := .findDeliveryByPayment paymentTx) paid).imp
  rintro m' answer rfl
  match answer with
  | .error e => exact ⟨paid, fun _ impossible => nomatch impossible⟩
  | .ok none => exact ⟨paid, fun _ impossible => nomatch impossible⟩
  | .ok (some record) => exact ⟨paid, fun _ same => by cases same; rfl⟩

theorem follows_deliver (settled : SettleResponse) (brief : product.path = MARKET_BRIEF.path → product.id ≠ AI_CREDITS.id) :
    Follows steps m (deliver desk product c settled) fun m' result => m'.tx = m.tx ∧
      ∀ delivered, result = .ok delivered → product.id = AI_CREDITS.id → m'.granted = some delivered.buyer := by
  unfold deliver
  split_ifs with path pair
  · exact ⟨rfl, fun _ _ credits => absurd credits (brief path)⟩
  · exact ⟨rfl, fun _ impossible => nomatch impossible⟩
  · split
    · exact ⟨rfl, fun _ impossible => nomatch impossible⟩
    · rename_i account _
      split_ifs with accepted
      · apply Follows.seq (follows_asks (o := .grantCredits account CREDITS_PER_PURCHASE) rfl)
        · rintro m' balance rfl
          exact ⟨rfl, fun _ same _ => by cases same; rfl⟩
        · rintro m' e rfl
          exact ⟨rfl, fun _ impossible => nomatch impossible⟩
      · exact ⟨rfl, fun _ impossible => nomatch impossible⟩

theorem follows_recordDelivery {record : DeliveryRecord} (may : Asks m (.insertDelivery paymentTx record)) :
    Follows steps m (recordDelivery paymentTx record) fun m' result =>
      m'.tx = some paymentTx ∧ ∀ stored, result = .ok stored → m'.told = some stored := by
  unfold recordDelivery
  apply Follows.seq (follows_asks may)
  · rintro m' _ rfl
    apply Follows.seq (follows_find may.1)
    · rintro m' stored ⟨paid, told⟩
      match stored with
      | none => exact ⟨paid, fun _ impossible => nomatch impossible⟩
      | some stored => exact ⟨paid, fun _ same => by cases same; exact told stored rfl⟩
    · exact fun _ _ ends => ⟨ends.1, fun _ impossible => nomatch impossible⟩
  · rintro m' e rfl
    exact ⟨may.1, fun _ impossible => nomatch impossible⟩

theorem signReceipt_receipt {receipt : Receipt} {signed : SignedReceipt} (ran : signReceipt desk receipt = .ok signed) :
    signed.receipt = receipt := by
  unfold signReceipt at ran
  dsimp only at ran
  cases signature : desk.sign (desk.receiptHash receipt) with
  | error e =>
    rw [signature] at ran
    cases ran
  | ok pair =>
    rw [signature] at ran
    cases ran
    rfl

variable {settled : SettleResponse}

theorem follows_fulfil (brief : product.path = MARKET_BRIEF.path → product.id ≠ AI_CREDITS.id) (paid : m.tx = some paymentTx)
    (settles : settled.transaction = some paymentTx) : Follows steps m (fulfil desk product c settled paymentTx) (Ends c) := by
  unfold fulfil
  apply Follows.seq (follows_find paid) _ fun _ e _ => ends_error e
  rintro m already ⟨paid, told⟩
  match already with
  | some record =>
    rintro body settled' same
    cases same
    exact ⟨paymentTx, record, settles, paid, told record rfl, _, rfl⟩
  | none =>
    apply Follows.seq (follows_deliver settled brief) _ fun _ e _ => ends_error e
    rintro m' delivered ⟨same, granted⟩
    apply Follows.seq (follows_pure _) _ fun _ e _ => ends_error e
    rintro m'' signed ⟨rfl, ran⟩
    have may : Asks m'' (.insertDelivery paymentTx (recordOf desk product c delivered signed)) :=
      ⟨same.trans paid, congrArg Receipt.payment_tx (signReceipt_receipt ran.symm), granted delivered rfl⟩
    apply Follows.seq (follows_recordDelivery may) _ fun _ e _ => ends_error e
    rintro m stored ⟨paid, told⟩ body settled' same
    cases same
    exact ⟨paymentTx, stored, settles, paid, told stored rfl, _, rfl⟩

theorem checkSettled_ok {settling : Except Failure SettleResponse}
    (checked : checkSettled settling = .ok (settled, paymentTx)) :
    settling = .ok settled ∧ settled.transaction = some paymentTx := by
  unfold checkSettled at checked
  split at checked
  · cases checked
  · split_ifs at checked
    split at checked
    · cases checked
    · rename_i some_
      cases checked
      refine ⟨rfl, ?_⟩
      cases transaction : settled.transaction with
      | none => simp [transaction] at some_
      | some tx => rfl

theorem follows_handlePaidRoute (brief : product.path = MARKET_BRIEF.path → product.id ≠ AI_CREDITS.id) :
    Follows steps m (handlePaidRoute desk product c) (Ends c) := by
  unfold handlePaidRoute
  apply Follows.seq (follows_pure _) _ fun _ e _ => ends_error e
  rintro m _ ⟨rfl, _⟩
  dsimp only
  split
  · exact fun _ _ impossible => nomatch impossible
  · apply Follows.seq (follows_pure _) _ fun _ e _ => ends_error e
    rintro m payload ⟨rfl, _⟩
    have verifies : Follows steps m (ask (.verify payload (requirements desk product))).attempt fun _ _ => True :=
      Follows.attempt ((follows_asks (o := .verify _ _) trivial).imp fun _ _ _ => trivial)
    apply Follows.seq verifies _ fun _ e _ => ends_error e
    rintro m verified _
    apply Follows.seq (follows_pure _) _ fun _ e _ => ends_error e
    rintro m _ ⟨rfl, _⟩
    have settling : Follows steps m (ask (.settle payload (requirements desk product))).attempt fun m' result =>
        ∀ settled : SettleResponse, result = .ok (.ok settled) → m'.tx = settled.transaction := by
      refine Follows.attempt ((follows_asks (o := .settle _ _) trivial).imp ?_)
      rintro m' answer rfl settled same
      cases same
      rfl
    apply Follows.seq settling _ fun _ e _ => ends_error e
    rintro m settling told
    apply Follows.seq (follows_pure _) _ fun _ e _ => ends_error e
    rintro m ⟨settled, paymentTx⟩ ⟨rfl, checked⟩
    obtain ⟨rfl, settles⟩ := checkSettled_ok checked.symm
    exact follows_fulfil brief ((told settled rfl).trans settles) settles

theorem follows_handle : Follows steps m (handle desk c) (Ends c) := by
  unfold handle
  split
  · exact fun _ _ impossible => nomatch impossible
  · rename_i product found
    apply follows_handlePaidRoute
    have among := List.mem_of_find?_eq_some found
    simp only [PRODUCTS, List.mem_cons, List.not_mem_nil, or_false] at among
    rcases among with rfl | rfl
    · decide
    · decide

end

/-! ### One delivery for each payment -/

/-- A grant for the account was answered. -/
def Granted (account : String) (t : Seen) : Prop :=
  ∃ i c amount balance, .answered i c (.grantCredits account amount) (.ok balance) ∈ t

/-- A payment has one delivery at most, and with it one receipt, and whoever is answered with a delivery is answered with
    that of the payment it settled. -/
structure OncePaid (s : Store) (t : Seen) : Prop where
  one : s.deliveries.Pairwise fun a b => a.1 ≠ b.1
  receipts : ∀ row ∈ s.deliveries, row.2.signedReceipt.receipt.payment_tx = row.1
  answered : ∀ i c body settled, .finished i c (.ok (.delivered body settled)) ∈ t →
    ∃ paymentTx record, settled.transaction = some paymentTx ∧ (paymentTx, record) ∈ s.deliveries ∧ Delivers c body record
  same : ∀ i j c d body body' settled settled', .finished i c (.ok (.delivered body settled)) ∈ t →
    .finished j d (.ok (.delivered body' settled')) ∈ t → settled.transaction = settled'.transaction →
      ∃ record, Delivers c body record ∧ Delivers d body' record

section
variable {desk : Merchant} {s s' : Store} {ms : List (Request × Option Mode)} {t : Seen} {i : Nat} {c : Request} {m : Mode}

/-- What a request has been told is so. -/
structure Knows (s : Store) (t : Seen) (m : Mode) : Prop where
  told : ∀ record, m.told = some record → ∃ paymentTx, m.tx = some paymentTx ∧ (paymentTx, record) ∈ s.deliveries
  granted : ∀ account, m.granted = some account → Granted account t

structure Kept (s : Store) (ms : List (Request × Option Mode)) (t : Seen) : Prop where
  one : s.deliveries.Pairwise fun a b => a.1 ≠ b.1
  receipts : ∀ row ∈ s.deliveries, row.2.signedReceipt.receipt.payment_tx = row.1
  bought : ∀ row ∈ s.deliveries, row.2.productId = AI_CREDITS.id → Granted row.2.buyer t
  knows : ∀ (i : Nat) c m, ms[i]? = some (c, some m) → Knows s t m
  answered : ∀ i c body settled, .finished i c (.ok (.delivered body settled)) ∈ t →
    ∃ paymentTx record, settled.transaction = some paymentTx ∧ (paymentTx, record) ∈ s.deliveries ∧ Delivers c body record

theorem Granted.more {account : String} (granted : Granted account t) (more : Seen) : Granted account (t ++ more) := by
  obtain ⟨i, c, amount, balance, among⟩ := granted
  exact ⟨i, c, amount, balance, List.mem_append_left _ among⟩

theorem Knows.more (knows : Knows s t m) (rows : ∀ row ∈ s.deliveries, row ∈ s'.deliveries) (more : Seen) :
    Knows s' (t ++ more) m := by
  refine ⟨fun record told => ?_, fun account granted => (knows.granted account granted).more more⟩
  obtain ⟨paymentTx, paid, among⟩ := knows.told record told
  exact ⟨paymentTx, paid, rows _ among⟩

theorem Kept.mode (kept : Kept s ms t) {e : Event Request Op Failure Op.Answer Response}
    (quiet : ∀ i c result, e ≠ .finished i c result) (knows : Knows s (t ++ [e]) m) :
    Kept s (ms.set i (c, some m)) (t ++ [e]) where
  one := kept.one
  receipts := kept.receipts
  bought row among credits := (kept.bought row among credits).more _
  knows _ _ _ found := all_set (P := fun _ _ => Knows s (t ++ [e])) knows
    (fun j d m' _ old => (kept.knows j d m' old).more (fun _ among => among) _) found
  answered i c body settled finished := by
    rcases List.mem_append.mp finished with old | last
    · exact kept.answered i c body settled old
    · exact absurd (List.mem_singleton.mp last).symm (quiet i c _)

variable {paymentTx : String}

variable {record : DeliveryRecord} {input : Input}

theorem Kept.insert (kept : Kept s ms t) (admits : s.admits paymentTx record)
    (receipt : record.signedReceipt.receipt.payment_tx = paymentTx)
    (bought : record.productId = AI_CREDITS.id → Granted record.buyer t) : Kept (s.insert paymentTx record) ms t := by
  have rows : ∀ row ∈ s.deliveries, row ∈ (s.insert paymentTx record).deliveries := fun _ among =>
    List.mem_append_left _ among
  refine ⟨?_, ?_, ?_, fun i c m mode => ?_, fun i c body settled finished => ?_⟩
  · refine List.pairwise_append.mpr ⟨kept.one, List.pairwise_singleton .., fun a among b last => ?_⟩
    rw [List.mem_singleton.mp last]
    exact (admits a among).1
  · intro row among
    rcases List.mem_append.mp among with old | last
    · exact kept.receipts row old
    · rw [List.mem_singleton.mp last]
      exact receipt
  · intro row among credits
    rcases List.mem_append.mp among with old | last
    · exact kept.bought row old credits
    · rw [List.mem_singleton.mp last] at credits ⊢
      exact bought credits
  · simpa using (kept.knows i c m mode).more rows []
  · obtain ⟨tx, known, settles, among, delivers⟩ := kept.answered i c body settled finished
    exact ⟨tx, known, settles, rows _ among, delivers⟩

theorem Kept.grant (kept : Kept s ms t) (account : String) (amount : Nat) : Kept (s.grant account amount) ms t :=
  ⟨kept.one, kept.receipts, kept.bought, fun i c m mode => ⟨(kept.knows i c m mode).told, (kept.knows i c m mode).granted⟩,
    kept.answered⟩

theorem mem_delivery (found : s.delivery paymentTx = some record) : (paymentTx, record) ∈ s.deliveries := by
  unfold Store.delivery at found
  obtain ⟨row, first, rfl⟩ := Option.map_eq_some_iff.mp found
  obtain rfl : row.1 = paymentTx := by simpa using List.find?_some first
  exact List.mem_of_find?_eq_some first

theorem reply_ok {α : Type} {a b : α} (replied : reply input a = .ok b) : b = a := by
  unfold reply at replied
  split at replied
  · exact (Except.ok.inj replied).symm
  · cases replied

theorem knows_nothing (tx : Option String) : Knows s t ⟨tx, none, none⟩ where
  told _ impossible := nomatch impossible
  granted _ impossible := nomatch impossible

/-- A delivery that an answer holds is in the table. -/
def Truthful (s : Store) : (o : Op) → Except Failure o.Answer → Prop
  | .findDeliveryByPayment paymentTx, .ok (some record) => (paymentTx, record) ∈ s.deliveries
  | _, _ => True

theorem Knows.hears (knows : Knows s t m) (i : Nat) (c : Request) : ∀ (o : Op) (answer : Except Failure o.Answer),
    Asks m o → Truthful s o answer → Knows s (t ++ [.answered i c o answer]) (m.hears o answer)
  | .verify _ _, _, _, _ => knows.more (fun _ among => among) _
  | .settle _ _, .error _, _, _ => knows.more (fun _ among => among) _
  | .settle _ _, .ok _, _, _ => knows_nothing _
  | .findDeliveryByPayment _, .error _, _, _ => knows.more (fun _ among => among) _
  | .findDeliveryByPayment _, .ok none, _, _ => knows.more (fun _ among => among) _
  | .findDeliveryByPayment paymentTx, .ok (some record), paid, among =>
    ⟨fun told same => by cases same; exact ⟨paymentTx, paid, among⟩, fun account granted =>
      (knows.granted account granted).more _⟩
  | .grantCredits _ _, .error _, _, _ => knows.more (fun _ among => among) _
  | .grantCredits account amount, .ok balance, _, _ =>
    ⟨fun record told => knows.told record told, fun account' same => by
      cases same
      exact ⟨i, c, amount, balance, List.mem_append_right _ (List.mem_singleton_self _)⟩⟩
  | .insertDelivery _ _, _, _, _ => knows.more (fun _ among => among) _

theorem Kept.written (kept : Kept s ms t) {o : Op} {answer : Except Failure o.Answer} (mode : ms[i]? = some (c, some m))
    (asks : Asks m o) (served : serve o input s = some (answer, s')) : Kept s' ms t ∧ Truthful s' o answer := by
  cases o with
  | verify _ _ =>
    cases served
    exact ⟨kept, trivial⟩
  | settle _ _ =>
    cases served
    exact ⟨kept, trivial⟩
  | findDeliveryByPayment paymentTx =>
    cases served
    refine ⟨kept, ?_⟩
    match replied : reply input (s.delivery paymentTx) with
    | .error e => trivial
    | .ok none => trivial
    | .ok (some record) => exact mem_delivery (reply_ok replied).symm
  | grantCredits account amount =>
    refine ⟨?_, trivial⟩
    rw [SignalDesk.serve] at served
    split_ifs at served
    · cases served
      exact kept.grant account amount
    · cases served
      exact kept
    · cases served
      exact kept
  | insertDelivery paymentTx record =>
    refine ⟨?_, trivial⟩
    obtain ⟨_, receipt, credits⟩ := asks
    rw [SignalDesk.serve] at served
    split_ifs at served with admits
    · cases served
      exact kept.insert admits receipt fun bought => (kept.knows i c m mode).granted _ (credits bought)
    · cases served
      exact kept
    · cases served
      exact kept
    · cases served
      exact kept

theorem keeps (desk : Merchant) : Keeps (signalDesk desk) steps Ends Kept (fun _ => Kept) fun _ _ _ => True where
  start {w _ t c} kept _ _ := by
    refine ⟨⟨none, none, none⟩, follows_handle, ?_⟩
    exact { kept with
      knows := fun _ _ _ found => all_append (P := fun _ _ => Knows w.shared t) (knows_nothing none)
        (fun j d m' => kept.knows j d m') found }
  resume kept _ _ := kept
  sync _ _ step := step.elim
  ask {_ _ _ i c m _ _ _ _ _} kept mode asks _ _ _ := by
    obtain ⟨rfl, _⟩ := asks
    exact kept.mode (fun _ _ _ same => nomatch same) ((kept.knows i c _ mode).more (fun _ among => among) _)
  serve {w _ _ i c m m₀ o rest input answer s'} kept _ mode _ _ asks served := by
    obtain ⟨rfl, may⟩ := asks
    obtain ⟨written, truthful⟩ := kept.written mode may served
    exact ⟨trivial, written.mode (fun _ _ _ same => nomatch same) ((written.knows i c _ mode).hears i c o answer may truthful)⟩
  finish {s ms t i c m result w a calls} kept mode ends _ _ := by
    have knows := kept.knows i c m mode
    refine ⟨kept.one, kept.receipts, fun row among credits => (kept.bought row among credits).more _, ?_, ?_⟩
    · exact fun _ _ _ found => all_over (P := fun _ _ => Knows s (t ++ [.finished i c result]))
        (fun j d m' _ old => (kept.knows j d m' old).more (fun _ among => among) _) found
    · intro j d body settled finished
      rcases List.mem_append.mp finished with old | last
      · exact kept.answered j d body settled old
      · cases List.mem_singleton.mp last
        obtain ⟨paymentTx, record, settles, paid, told, delivers⟩ := ends body settled rfl
        obtain ⟨tx, named, among⟩ := knows.told record told
        rw [paid] at named
        cases named
        exact ⟨paymentTx, record, settles, among, delivers⟩
  outside {_ _ _ k} := nomatch k
  crash kept _ _ := { kept with knows := fun _ _ _ found => nomatch mode_of_kill found }

theorem Kept.delivery (kept : Kept s ms t) {first second : DeliveryRecord} (one : (paymentTx, first) ∈ s.deliveries)
    (other : (paymentTx, second) ∈ s.deliveries) : first = second := by
  by_contra different
  have symm : Std.Symm fun a b : String × DeliveryRecord => a.1 ≠ b.1 := ⟨fun _ _ => Ne.symm⟩
  exact kept.one.forall one other (fun same => different (congrArg Prod.snd same)) rfl

theorem Kept.oncePaid (kept : Kept s ms t) : OncePaid s t := by
  refine ⟨kept.one, kept.receipts, kept.answered, fun i j c d body body' settled settled' first second tx => ?_⟩
  obtain ⟨paymentTx, record, settles, among, delivers⟩ := kept.answered i c body settled first
  obtain ⟨paymentTx', record', settles', among', delivers'⟩ := kept.answered j d body' settled' second
  obtain rfl : paymentTx = paymentTx' := Option.some.inj (settles.symm.trans (tx.trans settles'))
  exact ⟨record, delivers, kept.delivery among' among ▸ delivers'⟩

end

/-! ### Credits and their deliveries -/

def Store.creditDeliveries (s : Store) (account : String) : Nat :=
  s.deliveries.countP fun row => row.2.productId = AI_CREDITS.id ∧ row.2.buyer = account

def InStep (s : Store) : Prop := ∀ account, s.credits account = CREDITS_PER_PURCHASE * s.creditDeliveries account

/-- Whose balance a step raises. -/
def raises (w : World) : Act → Option String
  | .perform i input =>
    match w.calls[i]? with
    | some (_, .waiting (.grantCredits account amount) _) =>
      if w.shared.credits account + amount ≤ MAX_BIGINT ∧ input.writes then some account else none
    | _ => none
  | _ => none

/-- For whom a step records a credit delivery. -/
def records (w : World) : Act → Option String
  | .perform i input =>
    match w.calls[i]? with
    | some (_, .waiting (.insertDelivery paymentTx record) _) =>
      if record.productId = AI_CREDITS.id ∧ w.shared.admits paymentTx record ∧ input.writes then some record.buyer else none
    | _ => none
  | _ => none

/-- How many steps of a run do so for an account. -/
def times (desk : Merchant) (does : World → Act → Option String) (account : String) (w : World) : List Act → Nat
  | [] => 0
  | a :: rest => (if does w a = some account then 1 else 0) + times desk does account (step (signalDesk desk) w a).1 rest

section
variable {desk : Merchant} {w : World} {t : Seen} {a : Act} {account : String}

theorem creditDeliveries_insert (s : Store) (paymentTx : String) (record : DeliveryRecord) (account : String) :
    (s.insert paymentTx record).creditDeliveries account =
      s.creditDeliveries account + if record.productId = AI_CREDITS.id ∧ record.buyer = account then 1 else 0 := by
  unfold Store.creditDeliveries Store.insert
  rw [List.countP_append, List.countP_singleton]
  simp

theorem credits_grant (s : Store) (buyer account : String) (amount : Nat) :
    (s.grant buyer amount).credits account = s.credits account + if buyer = account then amount else 0 := by
  unfold Store.grant
  by_cases same : buyer = account
  · subst same
    simp
  · simp [same, Function.update_of_ne (Ne.symm same)]

theorem advance_shared {r : Job Response} {m : Mode} {Q : Mode → Except Failure Response → Prop}
    (follows : Follows steps m r Q) (s : Store) : (r.advance s).2 = s := by
  cases r with
  | returns _ => rfl
  | throws _ => rfl
  | sync next rest =>
    obtain ⟨_, never, _⟩ := follows s
    exact never.elim
  | await _ _ => rfl

theorem step_shared (desk : Merchant) (holds : Holds steps Ends Kept w t) (a : Act) :
    ((step (signalDesk desk) w a).1.shared = w.shared ∧ raises w a = none ∧ records w a = none) ∨
    (∃ buyer, (step (signalDesk desk) w a).1.shared = w.shared.grant buyer CREDITS_PER_PURCHASE ∧
      raises w a = some buyer ∧ records w a = none) ∨
    ∃ paymentTx record, (step (signalDesk desk) w a).1.shared = w.shared.insert paymentTx record ∧
      raises w a = none ∧ records w a = if record.productId = AI_CREDITS.id then some record.buyer else none := by
  obtain ⟨ms, kept, aligned⟩ := holds
  cases a with
  | start c => exact .inl ⟨advance_shared (follows_handle (m := ⟨none, none, none⟩)) _, rfl, rfl⟩
  | outside k => cases k
  | crash => exact .inl ⟨rfl, rfl, rfl⟩
  | resume i =>
    refine .inl ⟨?_, rfl, rfl⟩
    rw [step]
    split
    · rename_i c r found
      obtain ⟨mode, _, stands⟩ := aligned.2 i c _ found
      cases mode with
      | none => exact stands.elim
      | some m => exact advance_shared stands _
    · rfl
  | perform i input =>
    cases found : w.calls[i]? with
    | none => simp [step, raises, records, found]
    | some call =>
      obtain ⟨c, phase⟩ := call
      cases phase with
      | answered r => simp [step, raises, records, found]
      | finished result => simp [step, raises, records, found]
      | killed => simp [step, raises, records, found]
      | waiting o rest =>
        obtain ⟨mode, _, stands⟩ := aligned.2 i c _ found
        cases mode with
        | none => exact stands.elim
        | some m =>
          obtain ⟨⟨_, rfl, may⟩, _⟩ := stands
          cases o with
          | verify _ _ => simp [step, raises, records, found, signalDesk, SignalDesk.serve]
          | settle _ _ => simp [step, raises, records, found, signalDesk, SignalDesk.serve]
          | findDeliveryByPayment _ => simp [step, raises, records, found, signalDesk, SignalDesk.serve]
          | grantCredits account amount =>
            obtain rfl : amount = CREDITS_PER_PURCHASE := may
            by_cases fits : w.shared.credits account + CREDITS_PER_PURCHASE ≤ MAX_BIGINT
            · by_cases writes : input.writes = true
              · simp [step, raises, records, found, signalDesk, SignalDesk.serve, fits, writes]
              · simp [step, raises, records, found, signalDesk, SignalDesk.serve, fits, writes]
            · simp [step, raises, records, found, signalDesk, SignalDesk.serve, fits]
          | insertDelivery paymentTx record =>
            by_cases admits : w.shared.admits paymentTx record
            · by_cases writes : input.writes = true
              · refine .inr (.inr ⟨paymentTx, record, ?_⟩)
                simp [step, raises, records, found, signalDesk, SignalDesk.serve, admits, writes]
              · simp [step, raises, records, found, signalDesk, SignalDesk.serve, admits, writes]
            · by_cases paid : (w.shared.delivery paymentTx).isSome = true
              · simp [step, raises, records, found, signalDesk, SignalDesk.serve, admits, paid]
              · simp [step, raises, records, found, signalDesk, SignalDesk.serve, admits, paid]

theorem step_credits (desk : Merchant) (holds : Holds steps Ends Kept w t) (a : Act) (account : String) :
    (step (signalDesk desk) w a).1.shared.credits account =
      w.shared.credits account + CREDITS_PER_PURCHASE * if raises w a = some account then 1 else 0 := by
  rcases step_shared desk holds a with ⟨same, raised, _⟩ | ⟨buyer, granted, raised, _⟩ | ⟨_, _, inserted, raised, _⟩
  · simp [same, raised]
  · rw [granted, raised, credits_grant]
    by_cases own : buyer = account
    · simp [own]
    · simp [own]
  · simp [inserted, raised, Store.insert]

theorem step_creditDeliveries (desk : Merchant) (holds : Holds steps Ends Kept w t) (a : Act) (account : String) :
    (step (signalDesk desk) w a).1.shared.creditDeliveries account =
      w.shared.creditDeliveries account + if records w a = some account then 1 else 0 := by
  rcases step_shared desk holds a with
    ⟨same, _, recorded⟩ | ⟨_, granted, _, recorded⟩ | ⟨_, record, inserted, _, recorded⟩
  · simp [same, recorded]
  · rw [granted, recorded]
    rfl
  · rw [inserted, recorded, creditDeliveries_insert]
    by_cases credits : record.productId = AI_CREDITS.id
    · simp [credits]
    · simp [credits]

theorem Holds.next (desk : Merchant) (holds : Holds steps Ends Kept w t) (a : Act) :
    Holds steps Ends Kept (step (signalDesk desk) w a).1 (t ++ (step (signalDesk desk) w a).2) :=
  Disciplines.Holds.step (keeps desk) holds trivial

/-- A balance is what was granted, and the deliveries are what was recorded. -/
theorem run_counts (desk : Merchant) (holds : Holds steps Ends Kept w t) (account : String) (actions : List Act) :
    (run desk w actions).1.shared.credits account =
      w.shared.credits account + CREDITS_PER_PURCHASE * times desk raises account w actions ∧
    (run desk w actions).1.shared.creditDeliveries account =
      w.shared.creditDeliveries account + times desk records account w actions := by
  induction actions generalizing w t with
  | nil => exact ⟨rfl, rfl⟩
  | cons a rest ih =>
    obtain ⟨credits, deliveries⟩ := ih (Holds.next desk holds a)
    rw [step_credits desk holds] at credits
    rw [step_creditDeliveries desk holds] at deliveries
    simp only [times]
    refine ⟨credits.trans ?_, deliveries.trans (Nat.add_assoc ..)⟩
    rw [Nat.mul_add, Nat.add_assoc]

theorem raises_of_granted {i : Nat} {c : Request} {amount balance : Nat}
    (seen : .answered i c (.grantCredits account amount) (.ok balance) ∈ (step (signalDesk desk) w a).2) :
    raises w a = some account := by
  have not_announced : ∀ (j : Nat) (d : Request) (phase : Phase Store Op Failure Op.Answer Response),
      .answered i c (.grantCredits account amount) (.ok balance) ∉ announce j d phase := by
    rintro j d (_ | _ | _ | _) <;> simp [announce]
  cases a with
  | start d => exact absurd seen (not_announced _ _ _)
  | outside k => cases k
  | crash => exact absurd seen List.not_mem_nil
  | resume j =>
    rw [step] at seen
    split at seen
    · exact absurd seen (not_announced _ _ _)
    · exact absurd seen List.not_mem_nil
  | perform j input =>
    rw [step] at seen
    split at seen
    · rename_i d o rest found
      split at seen
      · rename_i answer s' served
        cases List.mem_singleton.mp seen
        have answers : SignalDesk.serve (.grantCredits account amount) input w.shared = some (.ok balance, s') := served
        rw [SignalDesk.serve] at answers
        split_ifs at answers with fits writes
        · simp [raises, found, fits, writes]
        · obtain ⟨replied, _⟩ := Prod.mk.inj (Option.some.inj answers)
          -- What took no effect was not answered.
          unfold Input.writes at writes
          unfold reply at replied
          cases failure : input.failure with
          | none => simp [failure] at writes
          | some e => simp [failure] at replied
        · cases answers
      · exact absurd seen List.not_mem_nil
    · exact absurd seen List.not_mem_nil

end

/-! ### Runs -/

section
variable {desk : Merchant}

theorem begins : Holds steps Ends Kept ⟨opened, []⟩ [] := by
  refine ⟨[], ⟨.nil, fun _ impossible => ?_, fun _ impossible => ?_, fun _ _ _ impossible => ?_, fun _ _ _ _ impossible => ?_⟩,
    aligned_nil⟩ <;> exact nomatch impossible

theorem holds_run (desk : Merchant) (actions : List Act) :
    Holds steps Ends Kept (run desk ⟨opened, []⟩ actions).1 (run desk ⟨opened, []⟩ actions).2 :=
  kept_along (keeps desk) begins actions fun _ _ _ _ => trivial

theorem counts (desk : Merchant) (account : String) (actions : List Act) :
    (run desk ⟨opened, []⟩ actions).1.shared.credits account =
      CREDITS_PER_PURCHASE * times desk raises account ⟨opened, []⟩ actions ∧
    (run desk ⟨opened, []⟩ actions).1.shared.creditDeliveries account =
      times desk records account ⟨opened, []⟩ actions := by
  obtain ⟨credits, deliveries⟩ := run_counts desk begins account actions
  exact ⟨credits.trans (Nat.zero_add _), deliveries.trans (Nat.zero_add _)⟩

variable {account : String} {w : World} {actions : List Act}

theorem times_none {does : World → Act → Option String}
    (none_ : ∀ before a after, actions = before ++ a :: after → does (run desk w before).1 a = none) :
    times desk does account w actions = 0 := by
  induction actions generalizing w with
  | nil => rfl
  | cons a rest ih =>
    have first : does w a = none := none_ [] a rest rfl
    rw [times, first, if_neg (fun impossible => nomatch impossible), Nat.zero_add]
    exact ih fun before b after split => none_ (a :: before) b after (by rw [split, List.cons_append])

theorem inStep_of_none
    (none_ : ∀ before a after, actions = before ++ a :: after →
    raises (run desk ⟨opened, []⟩ before).1 a = none) : InStep (run desk ⟨opened, []⟩ actions).1.shared := by
  obtain ⟨ms, kept, _⟩ := holds_run desk actions
  intro account
  have deliveries : (run desk ⟨opened, []⟩ actions).1.shared.creditDeliveries account = 0 := by
    refine List.countP_eq_zero.mpr fun row among bought => ?_
    obtain ⟨credits, rfl⟩ := of_decide_eq_true bought
    obtain ⟨i, c, amount, balance, seen⟩ := kept.bought row among credits
    obtain ⟨before, a, after, split, there⟩ := Traces.mem_exec seen
    have raised := raises_of_granted there
    have nothing := none_ before a after split
    rw [run, raised] at nothing
    cases nothing
  have credits := (counts desk account actions).1
  rw [times_none none_] at credits
  rw [credits, deliveries]

theorem ahead {t : Seen} (holds : Holds steps Ends Kept w t) {a : Act} (raised : raises w a = some account)
    (before : InStep w.shared) : ¬InStep (step (signalDesk desk) w a).1.shared := by
  intro after
  have now := after account
  rcases step_shared desk holds a with ⟨_, nothing, _⟩ | ⟨_, granted, same, _⟩ | ⟨_, _, _, nothing, _⟩
  · rw [raised] at nothing
    cases nothing
  · rw [raised] at same
    cases same
    have earlier := before account
    have credits := credits_grant w.shared account account CREDITS_PER_PURCHASE
    have deliveries : (w.shared.grant account CREDITS_PER_PURCHASE).creditDeliveries account =
        w.shared.creditDeliveries account := rfl
    rw [granted, credits, deliveries, if_pos rfl, earlier] at now
    simp [CREDITS_PER_PURCHASE] at now
  · rw [raised] at nothing
    cases nothing

end

/-- In every run each payment has one delivery, one receipt and one answer; and the balances are those of the recorded
    deliveries in every state of a run exactly when no grant of it takes effect: a grant comes before its delivery. In one
    state they are exactly when as many deliveries were recorded for each account as grants took effect. -/
theorem paid_once_iff (desk : Merchant) (actions : List Act) :
    OncePaid (run desk ⟨opened, []⟩ actions).1.shared (run desk ⟨opened, []⟩ actions).2 ∧
    ((∀ before after, actions = before ++ after → OncePaid (run desk ⟨opened, []⟩ before).1.shared (run desk ⟨opened, []⟩ before).2 ∧
        InStep (run desk ⟨opened, []⟩ before).1.shared) ↔
      ∀ before a after, actions = before ++ a :: after → raises (run desk ⟨opened, []⟩ before).1 a = none) ∧
    (InStep (run desk ⟨opened, []⟩ actions).1.shared ↔
      ∀ account, times desk raises account ⟨opened, []⟩ actions = times desk records account ⟨opened, []⟩ actions) := by
  have once : ∀ actions : List Act, OncePaid (run desk ⟨opened, []⟩ actions).1.shared (run desk ⟨opened, []⟩ actions).2 := by
    intro actions
    obtain ⟨_, kept, _⟩ := holds_run desk actions
    exact kept.oncePaid
  refine ⟨once actions, ⟨fun always before a after split => ?_, fun quiet before after split => ⟨once before, ?_⟩⟩, ?_⟩
  · match raised : raises (run desk ⟨opened, []⟩ before).1 a with
    | none => rfl
    | some account =>
      have next := (always (before ++ [a]) after (by simp [split])).2
      rw [run, Traces.exec_append] at next
      exact absurd next (ahead (holds_run desk before) raised (always before (a :: after) split).2)
  · exact inStep_of_none fun earlier a later cut => quiet earlier a (later ++ after) (by simp [split, cut])
  · refine forall_congr' fun account => ?_
    obtain ⟨credits, deliveries⟩ := counts desk account actions
    rw [credits, deliveries]
    exact Nat.mul_right_inj (by decide)

/-! ### Two requests with one payment -/

def sampleDesk : Merchant where
  merchantPayTo := "G-merchant"
  asset := "USDC"
  decodePaymentSignature _ := some ⟨⟨"exact", "stellar:testnet", "USDC", "1000000", "G-merchant", 60,
    "\x7b\"areFeesSponsored\":true\x7d"⟩, some "https://signaldesk/api/x402/ai-credits", "signed"⟩
  renderMarketBrief _ _ _ := "brief"
  renderCreditsStatement _ _ _ _ _ := "statement"
  artifactHash artifact := artifact
  receiptHash receipt := receipt.delivery_id
  sign hash := .ok (hash, "G-merchant")

def sampleAccount : String := "usr_0123456789ABCDEFGHJKMNPQRS"

def sampleRequest (deliveryId : String) : Request where
  path := AI_CREDITS.path
  url := "https://signaldesk/api/x402/ai-credits"
  baseUrl := "https://signaldesk"
  pair := none
  account := some sampleAccount
  paymentSignature := some "signature"
  deliveryId := deliveryId
  deliveredAt := "2026-01-01T00:00:00.000Z"

def sampleInput : Input := ⟨⟨true, none, none⟩, ⟨true, some "tx", some "G-payer", some "1000000", none, none⟩, none, true⟩

def sampleStep (i : Nat) : List Act := [.perform i sampleInput, .resume i]

/-- Two requests settle one payment and find no delivery; each grants, and the second one finds the delivery of the first. -/
def sampleRace : List Act :=
  [.start (sampleRequest "dlv_1"), .start (sampleRequest "dlv_2")] ++ sampleStep 0 ++ sampleStep 1 ++ sampleStep 0 ++
    sampleStep 1 ++ sampleStep 0 ++ sampleStep 1 ++ sampleStep 0 ++ sampleStep 0 ++ sampleStep 0 ++ sampleStep 1 ++
    sampleStep 1 ++ sampleStep 1

theorem race_two_grants :
    ¬∀ (desk : Merchant) (actions : List Act), OncePaid (run desk ⟨opened, []⟩ actions).1.shared (run desk ⟨opened, []⟩ actions).2 ∧
      InStep (run desk ⟨opened, []⟩ actions).1.shared := by
  intro always
  have credited := (always sampleDesk sampleRace).2 sampleAccount
  revert credited
  decide +kernel

end AgentPey.SignalDesk
