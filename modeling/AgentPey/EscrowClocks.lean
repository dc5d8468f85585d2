import AgentPey.EscrowReads

/-!
The windows of a dispute as three local clocks read them: the arbiter's (`assertMayDecide` of `resolve/src/response.ts`),
the store's (`checkOpen` of `vitrinee-gateway/src/disputes.ts`) and the buyer's (`checkClaimableEscrow` of
`mcp/src/escrow-dispute.ts`). The first two compare milliseconds, the last one and the contract whole seconds.
-/
namespace AgentPey.EscrowClocks
open Soroban Store PurchaseEscrow EscrowHistory EscrowReads Dates
open EscrowEvents (EscrowStatus statusMap)
open EscrowReleases (orNull)
open ReceiptChecks (PURCHASE_ESCROW_WASM_HASHES)

/-! ### The checks -/

structure Failure where
  name : String
  message : String
  deriving DecidableEq

def refused (message : String) : Failure := ⟨"DisputeRefused", message⟩

/-- `date.toISOString()`. -/
def isoText : Date → Except Failure String
  | none => .error ⟨"RangeError", "Invalid time value"⟩
  | some t => .ok (String.ofList t.text)

/-- `new Date(seconds * 1000)`. -/
def dateAt (seconds : Nat) : Date := TimeValue.ofMs (seconds * 1000)

def RESPONSE_WINDOW_SECONDS : Nat := 48 * 3600

def responseDeadline (openedAt : Nat) (windowSeconds : Option Nat) : Date :=
  dateAt (openedAt + windowSeconds.getD RESPONSE_WINDOW_SECONDS)

def assertMayDecide (openedAt : Nat) (hasResponse : Bool) (now : Date) (windowSeconds : Option Nat) :
    Except Failure Unit :=
  if hasResponse then .ok ⟨⟩
  else if before now (responseDeadline openedAt windowSeconds) then
    .error ⟨"ResolveResponsePending",
      "the merchant has until the deadline to respond; decide with its response, or after the deadline"⟩
  else .ok ⟨⟩

/-- The store's clock: until when an open dispute takes an answer. -/
def checkOpen (escrow : EscrowConfig) (now : Date) (purchase : EscrowPurchase) : Except Failure Date :=
  if purchase.status = .responded then .error (refused "the store already answered this dispute")
  else
    match purchase.openedAt with
    | none => .error (refused "this order has no open dispute to answer")
    | some openedAt =>
      if purchase.status ≠ .disputed then .error (refused "this order has no open dispute to answer")
      else
        let respondBy := dateAt (openedAt + escrow.responseWindowSeconds)
        if before respondBy now then do
          let iso ← isoText respondBy
          .error (refused s!"the time to answer ended on {iso}")
        else .ok respondBy

/-- What a claim from the chat is about, and what this server was set up with. -/
structure Claim where
  orderId : Bytes
  receiptHash : BytesN 32
  txHash : BytesN 32
  amountAtomic : Int
  payer : Address
  arbiters : Option (List Address)
  readers : Bool
  openers : Bool
  now : Date

/-- The last check of `checkClaimableEscrow`: its switch over the status. -/
def checkWindow (config : EscrowConfig) (purchase : EscrowPurchase) (now : Date) : Except Failure Unit :=
  let nowS := now.map (·.ms / 1000)
  match purchase.status with
  | .held => .ok ⟨⟩
  | .shipped =>
    let releaseAfter := purchase.shippedAt.getD 0 + config.releaseWindowSeconds
    -- An invalid clock is not past anything.
    if nowS.any (fun nowS => (releaseAfter : Int) ≤ nowS) then do
      let iso ← isoText (dateAt releaseAfter)
      .error ⟨"ResolveClaimWindowClosed",
        s!"the claim window closed on {iso}: the payment can only be released to the store now; nothing was sent"⟩
    else .ok ⟨⟩
  | .released =>
    .error ⟨"ResolveClaimWindowClosed",
      "the release window closed with no claim and the escrow already paid the store; nothing was sent"⟩
  | .disputed => .error (exists_ "disputed")
  | .responded => .error (exists_ "responded")
  | .resolved => .error (exists_ "resolved")
  | .expired => .error (exists_ "expired")
where
  exists_ (status : String) : Failure :=
    ⟨"ResolveDisputeExists",
      s!"this purchase already has a dispute in the store's escrow ({status}): one purchase, one dispute; nothing was sent"⟩

/-- The buyer's clock, on what the reads of the escrow gave: nothing when one failed or took too long. -/
def checkClaimableEscrow (claim : Claim) (read : Option (Option EscrowPurchase × EscrowConfig)) :
    Except Failure (EscrowPurchase × EscrowConfig) := do
  let some arbiters := claim.arbiters | throw noWay
  if claim.readers = false ∨ claim.openers = false then throw noWay
  let some (purchase, config) := read
    | throw ⟨"NetworkError",
        "could not read the store's escrow on Stellar; nothing was sent, try again in a minute"⟩
  if ¬config.wasmHash.any (PURCHASE_ESCROW_WASM_HASHES.contains ·) then
    throw ⟨"EscrowUnverified",
      "the receipt's escrow does not run the purchase-escrow code AgentPey knows; nothing was sent"⟩
  if config.arbiter ∉ arbiters then
    throw ⟨"EscrowUnverified",
      "the receipt's escrow names an arbiter AgentPey does not accept; nothing was sent"⟩
  let some purchase := purchase
    | throw ⟨"ResolveReceiptInvalid", "the store has not recorded this purchase in its escrow yet, so a dispute cannot " ++
        "be opened there; nothing was sent"⟩
  if purchase.orderRef ≠ claim.orderId ∨ purchase.receiptHash ≠ claim.receiptHash ∨ purchase.txHash ≠ claim.txHash ∨
      purchase.amountAtomic ≠ claim.amountAtomic then
    throw ⟨"ResolveReceiptInvalid",
      "the store's escrow holds a different purchase for this order than the signed receipt says; nothing was sent"⟩
  if purchase.payer ≠ claim.payer then
    throw ⟨"ResolveClaimantNotPayer",
      "this purchase was paid from an account this agent does not control, so it cannot open the dispute; " ++
        "nothing was sent"⟩
  checkWindow config purchase claim.now
  pure (purchase, config)
where
  noWay : Failure :=
    ⟨"ConfigError",
      "this order was paid into the store's escrow, and this server cannot open a dispute there; nothing was sent"⟩

/-- Everything but the state of the purchase is in order for the claim. -/
structure Claim.Fits (claim : Claim) (purchase : EscrowPurchase) (config : EscrowConfig) : Prop where
  arbiters : ∃ arbiters, claim.arbiters = some arbiters ∧ config.arbiter ∈ arbiters
  readers : claim.readers = true
  openers : claim.openers = true
  code : config.wasmHash.any (PURCHASE_ESCROW_WASM_HASHES.contains ·) = true
  orderRef : purchase.orderRef = claim.orderId
  receiptHash : purchase.receiptHash = claim.receiptHash
  txHash : purchase.txHash = claim.txHash
  amountAtomic : purchase.amountAtomic = claim.amountAtomic
  payer : purchase.payer = claim.payer

theorem checkClaimableEscrow_iff {claim : Claim} {purchase : EscrowPurchase} {config : EscrowConfig}
    (fits : claim.Fits purchase config) :
    (∃ claimable, checkClaimableEscrow claim (some (some purchase, config)) = .ok claimable) ↔
      checkWindow config purchase claim.now = .ok ⟨⟩ := by
  obtain ⟨⟨arbiters, known, accepted⟩, readers, openers, code, orderRef, receiptHash, txHash, amountAtomic, payer⟩ := fits
  simp only [checkClaimableEscrow, known, readers, openers, code, accepted, orderRef, receiptHash, txHash, amountAtomic,
    payer]
  cases checkWindow config purchase claim.now with
  | ok => simp
  | error failure => simp

/-! ### What the contract checks -/

section
variable {host : Host} {w : World host} {order_ref : Bytes} {p : Purchase} {env : Env}

theorem respond_passes (found : get w order_ref = some p) (payee : env.authorised w.config.payee = true)
    (response_hash : BytesN 32) : (∃ w', invoke env (.respond order_ref response_hash) w = .ok w') ↔
      p.status = .Disputed ∧ env.timestamp ≤ saturating_add p.opened_at w.config.response_window := by
  change w.purchases.lookup order_ref = some p at found
  have loaded : load (start w) order_ref = .ok p := okOr_eq_ok.mpr found
  have authorised : (require_auth env w.config.payee : Outcome Error Unit) = .ok ⟨⟩ := failIf_eq_ok.mpr (by simp [payee])
  simp only [invoke, respond, authorised, loaded, ok_bind, start_config]
  constructor
  · rintro ⟨w', ran⟩
    obtain ⟨_, disputed, ran⟩ := bind_eq_ok.mp ran
    obtain ⟨_, inTime, _⟩ := bind_eq_ok.mp ran
    exact ⟨not_not.mp (failIf_eq_ok.mp disputed), UInt64.not_lt.mp (failIf_eq_ok.mp inTime)⟩
  · rintro ⟨disputed, inTime⟩
    exact ⟨_, bind_eq_ok.mpr ⟨⟨⟩, failIf_eq_ok.mpr (not_not.mpr disputed), bind_eq_ok.mpr
      ⟨⟨⟩, failIf_eq_ok.mpr (UInt64.not_lt.mpr inTime), rfl⟩⟩⟩

/-- Whether `open` may be called now. -/
def MayOpen (config : Config) (p : Purchase) (now : UInt64) : Prop :=
  (may_open config p now : Outcome Error Unit) = .ok ⟨⟩

theorem may_open_cases (config : Config) (p : Purchase) (now : UInt64) :
    MayOpen config p now ∨ (may_open config p now : Outcome Error Unit) = .error (.error .WrongStatus) ∨
      (may_open config p now : Outcome Error Unit) = .error (.error .ClaimWindowClosed) := by
  unfold MayOpen may_open failIf
  cases p.status with
  | Held => exact .inl rfl
  | Shipped =>
    by_cases closed : saturating_add p.shipped_at config.release_window ≤ now
    · exact .inr (.inr (if_pos closed))
    · exact .inl (if_neg closed)
  | Released | Disputed | Responded | Resolved | Expired => exact .inr (.inl rfl)

/-- The consent to a dispute never fails as the checks of its time do. -/
theorem payer_consents_avoids {claim_hash : BytesN 32} {sig : Option (BytesN 64)} {e : Error}
    (apart : e = .WrongStatus ∨ e = .ClaimWindowClosed) :
    Avoids (.error e) (payer_consents env w p order_ref claim_hash sig) := by
  unfold payer_consents
  split
  · exact avoids_failIf (by simp)
  · refine avoids_bind (avoids_okOr ?_) fun _ _ => avoids_bind (avoids_okOr (by simp)) fun _ _ =>
      avoids_bind (fun failed => by rw [EscrowCalls.open_message_eq] at failed; cases failed) fun _ _ =>
        avoids_failIf (by simp)
    rcases apart with rfl | rfl <;> simp
  · rcases apart with rfl | rfl <;> simp [Avoids]

theorem open_passes (found : get w order_ref = some p) (claim_hash : BytesN 32) (sig : Option (BytesN 64)) :
    (Avoids (.error .WrongStatus) (invoke env (.openDispute order_ref claim_hash sig) w) ∧
      Avoids (.error .ClaimWindowClosed) (invoke env (.openDispute order_ref claim_hash sig) w)) ↔
      MayOpen w.config p env.timestamp := by
  change w.purchases.lookup order_ref = some p at found
  have loaded : load (start w) order_ref = .ok p := okOr_eq_ok.mpr found
  simp only [invoke, openDispute, loaded, ok_bind, start_config]
  constructor
  · rintro ⟨status, inTime⟩
    rcases may_open_cases w.config p env.timestamp with passes | refused | refused
    · exact passes
    · rw [refused] at status
      exact absurd rfl status
    · rw [refused] at inTime
      exact absurd rfl inTime
  · intro passes
    rw [MayOpen] at passes
    simp only [passes, ok_bind]
    exact ⟨avoids_bind (payer_consents_avoids (.inl rfl)) fun _ _ => avoids_ok _,
      avoids_bind (payer_consents_avoids (.inr rfl)) fun _ _ => avoids_ok _⟩

theorem pay_store_avoids (to_store : Int) : Avoids (.error .ResponseWindowOpen) (pay_store w to_store) := by
  unfold pay_store
  split_ifs
  · exact avoids_okOr (by simp)
  · exact avoids_ok _

/-- A close never fails as the checks of `resolve` do. -/
theorem close_avoids (status : Status) (refund : Int) (now : UInt64) :
    Avoids (.error .ResponseWindowOpen) (close w p status refund now) := by
  unfold close
  generalize deliver w p.payer refund = delivered
  obtain ⟨after, sent⟩ := delivered
  refine avoids_bind (fun failed => by simp at failed) fun _ _ => avoids_bind (fun failed => by simp at failed) fun _ _ =>
    avoids_bind (fun failed => by simp at failed) fun _ _ => avoids_bind (pay_store_avoids _) fun _ _ =>
      avoids_ok _

theorem resolve_waits (found : get w order_ref = some p) (arbiter : env.authorised w.config.arbiter = true)
    (disputed : p.status = .Disputed) (verdict_hash : BytesN 32) (refund : Int) :
    Avoids (.error .ResponseWindowOpen) (invoke env (.resolve order_ref verdict_hash refund) w) ↔
      saturating_add p.opened_at w.config.response_window < env.timestamp := by
  change w.purchases.lookup order_ref = some p at found
  have loaded : load (start w) order_ref = .ok p := okOr_eq_ok.mpr found
  have authorised : (require_auth env w.config.arbiter : Outcome Error Unit) = .ok ⟨⟩ := failIf_eq_ok.mpr (by simp [arbiter])
  simp only [invoke, resolve, authorised, loaded, ok_bind, start_config]
  by_cases waiting : env.timestamp ≤ saturating_add p.opened_at w.config.response_window
  · have fails : (may_resolve w.config p env.timestamp : Outcome Error Unit) = .error (.error .ResponseWindowOpen) := by
      unfold may_resolve
      rw [disputed]
      exact failIf_eq_error.mpr ⟨waiting, rfl⟩
    rw [fails]
    exact ⟨fun avoids => absurd rfl avoids, fun past => absurd past (UInt64.not_lt.mpr waiting)⟩
  · have passes : (may_resolve w.config p env.timestamp : Outcome Error Unit) = .ok ⟨⟩ := by
      unfold may_resolve
      rw [disputed]
      exact failIf_eq_ok.mpr waiting
    rw [passes, ok_bind]
    refine ⟨fun _ => UInt64.not_le.mp waiting, fun _ => ?_⟩
    exact avoids_guard fun _ => avoids_guard fun _ => avoids_guard fun _ =>
      avoids_bind (close_avoids _ _ _) fun _ _ => avoids_ok _

end

/-! ### What the clocks say -/

def MAX_SECONDS : Nat := 8640000000000

variable {seconds : Nat}

theorem dateAt_some (fits : seconds ≤ MAX_SECONDS) : ∃ t : TimeValue, dateAt seconds = some t ∧ t.ms = seconds * 1000 := by
  have inRange : -100000000 * MS_PER_DAY ≤ (seconds * 1000 : Int) ∧ (seconds * 1000 : Int) ≤ 100000000 * MS_PER_DAY := by
    unfold MAX_SECONDS at fits
    unfold MS_PER_DAY
    omega
  exact ⟨⟨_, inRange⟩, dif_pos inRange, rfl⟩

theorem dateAt_none (late : MAX_SECONDS < seconds) : dateAt seconds = none := by
  refine dif_neg fun inRange => ?_
  unfold MAX_SECONDS at late
  unfold MS_PER_DAY at inRange
  omega

theorem before_iff {t u : TimeValue} : before (some t) (some u) = true ↔ t.ms < u.ms := by
  simp [before]

section
variable {T : UInt64} {now : TimeValue} {p : Purchase}

theorem second_le (second : now.ms / 1000 = T.toNat) : T.toNat ≤ MAX_SECONDS := by
  have := now.inRange.2
  unfold MS_PER_DAY at this
  unfold MAX_SECONDS
  omega

/-- The arbiter's clock admits from the deadline's own second on, and whenever there is no date for it. -/
theorem assertMayDecide_iff (second : now.ms / 1000 = T.toNat) (openedAt window : Nat) :
    assertMayDecide openedAt false (some now) (some window) = .ok ⟨⟩ ↔
      openedAt + window ≤ T.toNat ∨ MAX_SECONDS < openedAt + window := by
  have bound := second_le second
  unfold assertMayDecide responseDeadline
  rw [if_neg Bool.false_ne_true, Option.getD_some]
  by_cases late : MAX_SECONDS < openedAt + window
  · simp [dateAt_none late, before, late]
  · obtain ⟨deadline, dated, ms⟩ := dateAt_some (Nat.le_of_not_lt late)
    rw [dated]
    by_cases early : now.ms < deadline.ms
    · rw [if_pos (before_iff.mpr early)]
      simp only [reduceCtorEq, false_iff]
      omega
    · rw [if_neg (mt before_iff.mp early)]
      simp only [true_iff]
      omega

theorem openedAt_asRead (p : Purchase) :
    (asRead p).openedAt = if p.opened_at.toNat = 0 then none else some p.opened_at.toNat := rfl

/-- The store's clock admits until the deadline's own first millisecond, or for ever when there is no date for it. -/
theorem checkOpen_iff (escrow : EscrowConfig) (p : Purchase) :
    (∃ respondBy, checkOpen escrow (some now) (asRead p) = .ok respondBy) ↔
      p.status = .Disputed ∧ p.opened_at.toNat ≠ 0 ∧
        (MAX_SECONDS < p.opened_at.toNat + escrow.responseWindowSeconds ∨
          now.ms ≤ (p.opened_at.toNat + escrow.responseWindowSeconds : Nat) * 1000) := by
  have status : (asRead p).status = statusMap p.status := rfl
  unfold checkOpen
  rw [status, openedAt_asRead]
  cases disputed : p.status with
  | Held | Shipped | Released | Responded | Resolved | Expired =>
    by_cases zero : p.opened_at.toNat = 0 <;> simp [statusMap, zero]
  | Disputed =>
    by_cases zero : p.opened_at.toNat = 0
    · simp [statusMap, zero]
    · simp only [statusMap, zero, reduceCtorEq, if_false, ne_eq, not_true, not_false_iff, true_and]
      by_cases late : MAX_SECONDS < p.opened_at.toNat + escrow.responseWindowSeconds
      · simp [dateAt_none late, before, late]
      · obtain ⟨respondBy, dated, ms⟩ := dateAt_some (Nat.le_of_not_lt late)
        rw [dated]
        by_cases closed : respondBy.ms < now.ms
        · rw [if_pos (before_iff.mpr closed)]
          have past : ¬now.ms ≤ (p.opened_at.toNat + escrow.responseWindowSeconds : Nat) * 1000 := by omega
          constructor
          · rintro ⟨_, answered⟩
            cases answered
          · rintro (undated | inTime)
            · exact absurd undated late
            · exact absurd inTime past
        · rw [if_neg (mt before_iff.mp closed)]
          exact ⟨fun _ => .inr (by omega), fun _ => ⟨_, rfl⟩⟩

/-- The buyer's clock admits as `open` does. -/
theorem checkWindow_iff (second : now.ms / 1000 = T.toNat) {c : Config} {wasmHash : Option String} {config : EscrowConfig}
    (read : decodeEscrowConfig c wasmHash = some config) (p : Purchase) :
    checkWindow config (asRead p) (some now) = .ok ⟨⟩ ↔ MayOpen c p T := by
  have bound := second_le second
  have status : (asRead p).status = statusMap p.status := rfl
  have shippedAt : (asRead p).shippedAt.getD 0 = p.shipped_at.toNat := by
    change (orNull p.shipped_at.toNat).getD 0 = _
    unfold orNull
    split_ifs with zero
    · exact zero.symm
    · rfl
  have window : config.releaseWindowSeconds = c.release_window.toNat := by
    unfold decodeEscrowConfig at read
    split_ifs at read
    cases read
    rfl
  unfold checkWindow MayOpen may_open
  rw [status, shippedAt, window]
  cases p.status with
  | Held => simp [statusMap]
  | Released | Disputed | Responded | Resolved | Expired => simp [statusMap]
  | Shipped =>
    have same : (p.shipped_at.toNat + c.release_window.toNat : Nat) ≤ T.toNat ↔
        saturating_add p.shipped_at c.release_window ≤ T := by
      rw [UInt64.le_iff_toNat_le, toNat_saturating_add]
      unfold MAX_SECONDS at bound
      unfold u64Max
      omega
    by_cases closed : saturating_add p.shipped_at c.release_window ≤ T
    · have past := same.mpr closed
      obtain ⟨deadline, dated, _⟩ := dateAt_some (past.trans bound)
      have passed : ((p.shipped_at.toNat + c.release_window.toNat : Nat) : Int) ≤ now.ms / 1000 := by omega
      simp only [statusMap, Option.map_some, Option.any_some, passed, decide_true, if_true, dated, failIf, closed]
      constructor
      · intro refused
        cases refused
      · intro impossible
        cases impossible
    · have early : ¬((p.shipped_at.toNat + c.release_window.toNat : Nat) : Int) ≤ now.ms / 1000 := fun past =>
        closed (same.mp (by omega))
      simp only [statusMap, Option.map_some, Option.any_some, early, decide_false, Bool.false_eq_true, if_false, failIf, closed]

end

/-! ### Agreement -/

section
variable {host : Host} {w w₀ : World host} {order_ref : Bytes} {p : Purchase} {T : UInt64} {now : TimeValue}

/-- The ledger is at this second, and the store and the arbiter authorise the call. -/
structure At (T : UInt64) (w : World host) (env : Env) : Prop where
  timestamp : env.timestamp = T
  payee : env.authorised w.config.payee = true
  arbiter : env.authorised w.config.arbiter = true

theorem at_exists (T : UInt64) (w : World host) : ∃ env, At T w env := ⟨⟨T, fun _ => true, fun _ => none⟩, rfl, rfl, rfl⟩

/-- What the three clocks admit of a purchase is what the contract takes: without an answer the arbiter decides only past
    the response window, the store answers exactly when `respond` passes, and the buyer claims exactly when `open` gets
    past its checks of the status and the time. -/
structure Agree (w : World host) (order_ref : Bytes) (p : Purchase) (told : EscrowPurchase) (config : EscrowConfig)
    (T : UInt64) (now : TimeValue) : Prop where
  decides : p.status = .Disputed → ∀ openedAt, told.openedAt = some openedAt →
    assertMayDecide openedAt false (some now) (some config.responseWindowSeconds) = .ok ⟨⟩ →
      ∀ env, At T w env → ∀ verdict_hash refund,
        Avoids (.error .ResponseWindowOpen) (invoke env (.resolve order_ref verdict_hash refund) w)
  answers : (∃ respondBy, checkOpen config (some now) told = .ok respondBy) ↔
    ∀ env, At T w env → ∀ response_hash, ∃ w', invoke env (.respond order_ref response_hash) w = .ok w'
  claims : ∀ claim : Claim, claim.now = some now → claim.Fits told config →
    ((∃ claimable, checkClaimableEscrow claim (some (some told, config)) = .ok claimable) ↔
      ∀ env, At T w env → ∀ claim_hash sig,
        Avoids (.error .WrongStatus) (invoke env (.openDispute order_ref claim_hash sig) w) ∧
          Avoids (.error .ClaimWindowClosed) (invoke env (.openDispute order_ref claim_hash sig) w))

/-- A dispute's response window ends at a date and not within this second, and, opened at the epoch itself, which is read
    as no time, it has ended. -/
def Clear (config : Config) (p : Purchase) (T : UInt64) : Prop :=
  p.status = .Disputed →
    p.opened_at.toNat + config.response_window.toNat ≤ MAX_SECONDS ∧
      p.opened_at.toNat + config.response_window.toNat ≠ T.toNat ∧
        (p.opened_at.toNat = 0 → config.response_window.toNat < T.toNat)

instance (config : Config) (p : Purchase) (T : UInt64) : Decidable (Clear config p T) := by
  unfold Clear
  infer_instance

section
variable (found : get w order_ref = some p)
include found

theorem respond_at : (∀ env, At T w env → ∀ response_hash, ∃ w', invoke env (.respond order_ref response_hash) w = .ok w') ↔
      p.status = .Disputed ∧ T ≤ saturating_add p.opened_at w.config.response_window := by
  constructor
  · intro answers
    obtain ⟨env, here⟩ := at_exists T w
    rw [← here.timestamp]
    exact (respond_passes found here.payee ⟨List.replicate 32 0, rfl⟩).mp (answers env here _)
  · intro passes env here response_hash
    refine (respond_passes found here.payee response_hash).mpr ?_
    rw [here.timestamp]
    exact passes

theorem open_at : (∀ env, At T w env → ∀ claim_hash sig,
      Avoids (.error .WrongStatus) (invoke env (.openDispute order_ref claim_hash sig) w) ∧
        Avoids (.error .ClaimWindowClosed) (invoke env (.openDispute order_ref claim_hash sig) w)) ↔
      MayOpen w.config p T := by
  constructor
  · intro opens
    obtain ⟨env, here⟩ := at_exists T w
    rw [← here.timestamp]
    exact (open_passes found ⟨List.replicate 32 0, rfl⟩ none).mp (opens env here _ _)
  · intro passes env here claim_hash sig
    refine (open_passes found claim_hash sig).mpr ?_
    rw [here.timestamp]
    exact passes

theorem resolve_at (disputed : p.status = .Disputed) : (∀ env, At T w env → ∀ verdict_hash refund,
      Avoids (.error .ResponseWindowOpen) (invoke env (.resolve order_ref verdict_hash refund) w)) ↔
      saturating_add p.opened_at w.config.response_window < T := by
  constructor
  · intro resolves
    obtain ⟨env, here⟩ := at_exists T w
    rw [← here.timestamp]
    exact (resolve_waits found here.arbiter disputed ⟨List.replicate 32 0, rfl⟩ 0).mp (resolves env here _ _)
  · intro past env here verdict_hash refund
    refine (resolve_waits found here.arbiter disputed verdict_hash refund).mpr ?_
    rw [here.timestamp]
    exact past

theorem agree_iff (second : now.ms / 1000 = T.toNat) {wasmHash : Option String} {config : EscrowConfig}
    (read : decodeEscrowConfig w.config wasmHash = some config) :
    Agree w order_ref p (asRead p) config T now ↔ Clear w.config p T := by
  have bound := second_le second
  have window : config.responseWindowSeconds = w.config.response_window.toNat := by
    unfold decodeEscrowConfig at read
    split_ifs at read
    cases read
    rfl
  have inTime : T ≤ saturating_add p.opened_at w.config.response_window ↔
      T.toNat ≤ p.opened_at.toNat + w.config.response_window.toNat := by
    rw [UInt64.le_iff_toNat_le, toNat_saturating_add]
    unfold MAX_SECONDS at bound
    unfold u64Max
    omega
  have past : saturating_add p.opened_at w.config.response_window < T ↔
      p.opened_at.toNat + w.config.response_window.toNat < T.toNat := by
    rw [← UInt64.not_le, inTime, Nat.not_le]
  constructor
  · intro agree disputed
    have answers := agree.answers
    rw [checkOpen_iff, respond_at found, inTime, window] at answers
    by_cases zero : p.opened_at.toNat = 0
    · -- The read has no time, so the store refuses; then `respond` has to be late too.
      have late : ¬ T.toNat ≤ p.opened_at.toNat + w.config.response_window.toNat := fun inTime =>
        (answers.mpr ⟨disputed, inTime⟩).2.1 zero
      exact ⟨by omega, by omega, fun _ => by omega⟩
    · have decides := agree.decides disputed p.opened_at.toNat (if_neg zero)
      rw [assertMayDecide_iff second, resolve_at found disputed, past, window] at decides
      refine ⟨?_, ?_, fun epoch => absurd epoch zero⟩
      · by_contra undated
        have := decides (.inr (Nat.lt_of_not_le undated))
        omega
      · intro now_
        have := decides (.inl now_.le)
        omega
  · intro clear
    refine ⟨?_, ?_, ?_⟩
    · intro disputed openedAt opened admitted
      obtain ⟨dated, apart, _⟩ := clear disputed
      rw [openedAt_asRead] at opened
      split_ifs at opened with zero
      cases opened
      rw [assertMayDecide_iff second, window] at admitted
      refine (resolve_at found disputed).mpr (past.mpr ?_)
      omega
    · rw [checkOpen_iff, respond_at found, inTime, window]
      refine and_congr_right fun disputed => ?_
      obtain ⟨dated, apart, epoch⟩ := clear disputed
      omega
    · intro claim clock fits
      rw [checkClaimableEscrow_iff fits, clock, checkWindow_iff second read, open_at found]

end

/-- Whatever a run stores is read, and about what is read the clocks agree with the contract unless the response window of
    a dispute ends within this very second, or at no date; or the dispute was opened at the epoch and has not ended. -/
theorem clocks_agree (deployed : Deployed w₀) (actions : List (Action host))
    (found : get (run w₀ actions).1 order_ref = some p) (second : now.ms / 1000 = T.toNat) (wasmHash : Option String) :
    ∃ told config, decodePurchase p = some told ∧
      decodeEscrowConfig (run w₀ actions).1.config wasmHash = some config ∧
        (Agree (run w₀ actions).1 order_ref p told config T now ↔ Clear (run w₀ actions).1.config p T) := by
  have read := decodeEscrowConfig_run deployed actions wasmHash
  exact ⟨_, _, decodePurchase_run deployed actions found, read, agree_iff found second read⟩

end

/-- A dispute opened at second 1 with 20 seconds to answer, half a second after its deadline. -/
def sampleNow : TimeValue := ⟨21500, by decide⟩

theorem sample_second : sampleNow.ms / 1000 = (21 : UInt64).toNat := by decide

theorem clocks_agree_sample :
    ∃ p told config, get (run sampleWorld (sampleDispute.take 2)).1 [2] = some p ∧ decodePurchase p = some told ∧
      decodeEscrowConfig (run sampleWorld (sampleDispute.take 2)).1.config none = some config ∧
        (Agree (run sampleWorld (sampleDispute.take 2)).1 [2] p told config 21 sampleNow ↔
          Clear (run sampleWorld (sampleDispute.take 2)).1.config p 21) := by
  cases found : get (run sampleWorld (sampleDispute.take 2)).1 [2] with
  | none => exact absurd found (by decide +kernel)
  | some p =>
    obtain ⟨told, config, read, readConfig, agree⟩ :=
      clocks_agree sampleWorld_deployed (sampleDispute.take 2) found sample_second none
    exact ⟨p, told, config, rfl, read, readConfig, agree⟩

/-- In the second of the deadline the store's clock refuses an answer that `respond` takes, and the arbiter's lets it decide
    what `resolve` refuses. -/
theorem deadline_second :
    ¬∀ (actions : List (Action sampleHost)) (order_ref : Bytes) (p : Purchase) (told : EscrowPurchase)
      (config : EscrowConfig) (T : UInt64) (now : TimeValue) (wasmHash : Option String),
      get (run sampleWorld actions).1 order_ref = some p → now.ms / 1000 = T.toNat → decodePurchase p = some told →
        decodeEscrowConfig (run sampleWorld actions).1.config wasmHash = some config →
          Agree (run sampleWorld actions).1 order_ref p told config T now := by
  intro agree
  cases found : get (run sampleWorld (sampleDispute.take 2)).1 [2] with
  | none => exact absurd found (by decide +kernel)
  | some p =>
    have read := decodeEscrowConfig_run sampleWorld_deployed (sampleDispute.take 2) none
    have clear := (agree_iff found sample_second read).mp
      (agree _ _ p _ _ 21 sampleNow none found sample_second
        (decodePurchase_run sampleWorld_deployed (sampleDispute.take 2) found) read)
    have unclear : (get (run sampleWorld (sampleDispute.take 2)).1 [2]).all fun p =>
        ¬Clear (run sampleWorld (sampleDispute.take 2)).1.config p 21 := by decide +kernel
    rw [found] at unclear
    simp at unclear
    exact unclear clear

end AgentPey.EscrowClocks
