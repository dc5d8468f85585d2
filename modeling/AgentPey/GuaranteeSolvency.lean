import AgentPey.AgentResolve

/-!
The money behind the guarantees. What is locked for a merchant is the sum of its
open disputes, it never exceeds the merchant's guarantee, and the guarantees
together never exceed what the contract holds.
-/
namespace AgentPey.GuaranteeSolvency
open Soroban Store Tokens AgentResolve

variable {token : Token Address}

def openAmount (merchant : Address) (dispute : Dispute) : Int :=
  if dispute.merchant = merchant ∧ dispute.status = .Open then dispute.amount else 0

def openDisputes (w : World token) (merchant : Address) : Int := total (openAmount merchant) w.disputes

/-- The sum of all merchants' balances: a merchant without an entry has none. -/
def guaranteed (w : World token) : Int := total Guarantee.balance w.guarantees

structure Solvent (w : World token) : Prop where
  nonneg : ∀ merchant, 0 ≤ (guarantee w merchant).locked
  within : ∀ merchant, (guarantee w merchant).locked ≤ (guarantee w merchant).balance
  locks : ∀ merchant, (guarantee w merchant).locked = openDisputes w merchant
  amounts : ∀ receipt dispute, get w receipt = some dispute → 0 ≤ dispute.amount
  backed : guaranteed w ≤ w.balance

section
variable {w : World token} {merchant : Address}
variable {dispute : Dispute}

theorem openAmount_nonneg (nonneg : 0 ≤ dispute.amount) : 0 ≤ openAmount merchant dispute := by
  unfold openAmount
  split_ifs
  · exact nonneg
  · exact le_refl 0

theorem openAmount_opened (m payer : Address) (claim_hash : BytesN 32) (amount : Int) (now : UInt64) :
    openAmount merchant (opened m payer claim_hash amount now) = if merchant = m then amount else 0 := by
  simp [openAmount, opened, eq_comm]

theorem openAmount_resolved (dispute : Dispute) (verdict_hash : BytesN 32) (refund : Int) (now : UInt64) :
    openAmount merchant (resolved dispute verdict_hash refund now) = 0 := by
  simp [openAmount, resolved]

theorem openAmount_open (isOpen : dispute.status = .Open) :
    openAmount merchant dispute = if merchant = dispute.merchant then dispute.amount else 0 := by
  simp [openAmount, isOpen, eq_comm]

theorem guaranteed_insert (w : World token) (merchant : Address) (value : Guarantee) :
    total Guarantee.balance (w.guarantees.insert merchant value) =
      guaranteed w - (guarantee w merchant).balance + value.balance := by
  rw [total_insert, guaranteed, guarantee]
  cases w.guarantees.lookup merchant <;> rfl

theorem guarantee_insert (w : World token) (merchant other : Address) (value : Guarantee) :
    ((w.guarantees.insert merchant value).lookup other).getD .default =
      if other = merchant then value else guarantee w other := by
  rw [lookup_insert, guarantee]
  by_cases same : other = merchant
  · rw [if_pos same, if_pos same]
    rfl
  · rw [if_neg same, if_neg same]

theorem Solvent.amount_le (solvent : Solvent w) {receipt : BytesN 32} (disputed : get w receipt = some dispute)
    (isOpen : dispute.status = .Open) : dispute.amount ≤ (guarantee w dispute.merchant).locked := by
  have part : openAmount dispute.merchant dispute ≤ openDisputes w dispute.merchant :=
    weight_le_total (fun k v found => openAmount_nonneg (solvent.amounts k v found)) disputed
  rw [openAmount_open isOpen, if_pos rfl] at part
  rw [solvent.locks]
  exact part

end

variable {w : World token} {state : token.State}

variable {dst : Address} {amount : Int}

theorem balance_moved {src : Address} (moved : token.transfer w.token src dst amount = some state) :
    token.balance state w.current_contract_address =
      w.balance - (if w.current_contract_address = src then amount else 0) +
        (if w.current_contract_address = dst then amount else 0) := by
  rw [token.transfer_moves moved]
  rfl

/-- A transfer out of the contract takes at most its amount: a payment to itself takes nothing. -/
theorem balance_sent (nonneg : 0 ≤ amount)
    (moved : token.transfer w.token w.current_contract_address dst amount = some state) :
    w.balance - amount ≤ token.balance state w.current_contract_address := by
  rw [balance_moved moved, if_pos rfl]
  split_ifs
  · omega
  · omega

/-- A call writes one guarantee: what it changes of the lock it changes of that merchant's
    open disputes, and what it adds to the balance the contract has received. -/
theorem Solvent.write (solvent : Solvent w) {merchant : Address} {value : Guarantee} {disputes : Keyed (BytesN 32) Dispute}
    {events : List Event} (nonneg : 0 ≤ value.locked) (within : value.locked ≤ value.balance)
    (locks : ∀ m, total (openAmount m) disputes =
      openDisputes w m + (if m = merchant then value.locked - (guarantee w merchant).locked else 0))
    (amounts : ∀ receipt dispute, disputes.lookup receipt = some dispute → 0 ≤ dispute.amount)
    (backed : guaranteed w - (guarantee w merchant).balance + value.balance ≤
      token.balance state w.current_contract_address) : Solvent { w with
      guarantees := w.guarantees.insert merchant value
      disputes := disputes
      token := state
      events := events } where
  nonneg m := by
    rw [guarantee, guarantee_insert]
    split_ifs with same
    · exact nonneg
    · exact solvent.nonneg m
  within m := by
    rw [guarantee, guarantee_insert]
    split_ifs with same
    · exact within
    · exact solvent.within m
  locks m := by
    have before := solvent.locks m
    change _ = total (openAmount m) disputes
    rw [guarantee, guarantee_insert, locks]
    split_ifs with same
    · subst same
      omega
    · omega
  amounts := amounts
  backed := by
    change total Guarantee.balance _ ≤ token.balance state w.current_contract_address
    rw [guaranteed_insert]
    exact backed

section
variable {env : Env} {call : Call} {w w' : World token}

theorem solvent_effect (solvent : Solvent w) (effect : Effect env w call w') : Solvent w' := by
  have backed := solvent.backed
  cases effect with
  | @deposit src merchant amount state events authorised outside positive moved =>
    have within := solvent.within merchant
    have received := balance_moved moved
    rw [if_neg (Ne.symm outside), if_pos rfl] at received
    refine solvent.write (solvent.nonneg merchant) ?_ (fun m => ?_) solvent.amounts ?_
    · change (guarantee w merchant).locked ≤ (guarantee w merchant).balance + amount
      omega
    · simp [openDisputes]
    · rw [received]
      change guaranteed w - _ + ((guarantee w merchant).balance + amount) ≤ _
      omega
  | @withdraw merchant dst amount state events authorised outside positive free moved =>
    have sent := balance_sent (Int.le_of_lt positive) moved
    refine solvent.write (solvent.nonneg merchant) ?_ (fun m => ?_) solvent.amounts ?_
    · change (guarantee w merchant).locked ≤ (guarantee w merchant).balance - amount
      omega
    · simp [openDisputes]
    · change guaranteed w - _ + ((guarantee w merchant).balance - amount) ≤ _
      omega
  | @openDispute receipt payer claim_hash amount record events arbiter undisputed anchored inTime positive below free =>
    have nonneg := solvent.nonneg record.merchant
    refine solvent.write ?_ ?_ (fun m => ?_) (fun other dispute found => ?_) ?_
    · change 0 ≤ (guarantee w record.merchant).locked + amount
      omega
    · change (guarantee w record.merchant).locked + amount ≤ (guarantee w record.merchant).balance
      omega
    · rw [total_insert_new _ _ undisputed, openAmount_opened, openDisputes]
      simp
    · rw [lookup_insert] at found
      split_ifs at found with same
      · cases found
        exact Int.le_of_lt positive
      · exact solvent.amounts other dispute found
    · change guaranteed w - _ + (guarantee w record.merchant).balance ≤ w.balance
      omega
  | @resolve receipt verdict_hash refund dispute state events arbiter disputed unresolved nonneg below moved =>
    have locked := solvent.amount_le disputed unresolved
    have within := solvent.within dispute.merchant
    have sent : w.balance - refund ≤ token.balance state w.current_contract_address := by
      rcases moved with ⟨_, moved⟩ | ⟨rfl, rfl⟩
      · exact balance_sent nonneg moved
      · change w.balance - 0 ≤ w.balance
        omega
    refine solvent.write ?_ ?_ (fun m => ?_) (fun other found stored => ?_) ?_
    · change 0 ≤ (guarantee w dispute.merchant).locked - dispute.amount
      omega
    · change (guarantee w dispute.merchant).locked - dispute.amount ≤ (guarantee w dispute.merchant).balance - refund
      omega
    · rw [total_insert_old _ _ disputed, openAmount_open unresolved, openAmount_resolved, openDisputes]
      split_ifs
      · simp
        omega
      · simp
    · rw [lookup_insert] at stored
      split_ifs at stored with same
      · cases stored
        exact solvent.amounts receipt dispute disputed
      · exact solvent.amounts other found stored
    · change guaranteed w - _ + ((guarantee w dispute.merchant).balance - refund) ≤ _
      omega

theorem solvent_step (solvent : Solvent w) (action : Action token) : Solvent (step w action).1 := by
  cases action with
  | call env call =>
    simp only [step]
    cases ran : invoke env call w with
    | ok after => exact solvent_effect solvent (invoke_cases ran)
    | error failure => exact solvent
  | external state =>
    simp only [step]
    by_cases kept : w.balance ≤ token.balance state w.current_contract_address
    · rw [if_pos kept]
      exact ⟨solvent.nonneg, solvent.within, solvent.locks, solvent.amounts, solvent.backed.trans kept⟩
    · rw [if_neg kept]
      exact solvent

end

theorem deployed_solvent (deployed : Deployed w) : Solvent w := by
  obtain ⟨id, state, arbiter, tokenAddress, registry, claim_window, made⟩ := deployed
  simp only [construct, bind_eq_ok, failIf_eq_ok] at made
  obtain ⟨_, _, made⟩ := made
  cases made
  refine ⟨fun m => le_refl 0, fun m => le_refl 0, fun m => rfl, fun receipt dispute found => ?_, ?_⟩
  · cases found
  · exact token.balance_nonneg state (.contract id)

theorem run_solvent {w₀ : World token} (deployed : Deployed w₀) (actions : List (Action token)) : Solvent (run w₀ actions).1 :=
  Traces.exec_invariant (I := Solvent) (fun _ action solvent => solvent_step solvent action) (deployed_solvent deployed) actions

/-- The guarantees of a deployed contract are solvent after every run, and a call that
    fails leaves everything as it was. -/
theorem guarantee_solvency {w₀ : World token} (deployed : Deployed w₀) (actions : List (Action token)) :
    (∀ merchant, 0 ≤ (guarantee (run w₀ actions).1 merchant).locked ∧
      (guarantee (run w₀ actions).1 merchant).locked ≤ (guarantee (run w₀ actions).1 merchant).balance ∧
      (guarantee (run w₀ actions).1 merchant).locked = openDisputes (run w₀ actions).1 merchant) ∧
    guaranteed (run w₀ actions).1 ≤ (run w₀ actions).1.balance ∧
    ∀ env call failure, invoke env call (run w₀ actions).1 = .error failure →
      (run w₀ (actions ++ [.call env call])).1 = (run w₀ actions).1 := by
  have solvent := run_solvent deployed actions
  refine ⟨fun m => ⟨solvent.nonneg m, solvent.within m, solvent.locks m⟩, solvent.backed, ?_⟩
  intro env call failure failed
  have unchanged : (step (run w₀ actions).1 (.call env call)).1 = (run w₀ actions).1 := by
    simp only [step, failed]
  simpa only [run, Traces.exec_append, Traces.exec_cons, Traces.exec_nil] using unchanged

/-! ### A deployment to run -/

def sampleAccount (n : UInt8) : Address := .account (filled n)
def sampleHash : BytesN 32 := filled 7

/-- 100 units of account 1, on a ledger where everybody can receive. -/
def sampleLedger : Ledger Address where
  balance a := if a = sampleAccount 1 then 100 else 0
  receives _ := true
  nonneg a := by
    split_ifs <;> decide
  fits a := by
    split_ifs <;> decide

def sampleWorld : World (ledgerToken Address) :=
  ⟨⟨List.replicate 32 9, rfl⟩, ⟨sampleAccount 3, sampleAccount 4, sampleAccount 5, 60⟩, ∅, ∅, sampleLedger, []⟩

/-- Everybody authorises, and account 2 has anchored one receipt of 50. -/
def sampleEnv (timestamp : UInt64) : Env where
  timestamp := timestamp
  authorised _ := true
  receipt hash := some (if hash = sampleHash then some ⟨sampleAccount 2, 50, [1], 1, 5⟩ else none)

/-- A guarantee of 100, a dispute over 40 of it that is judged with a refund of 25, and
    a withdrawal of 30. -/
def sampleActions : List (Action (ledgerToken Address)) :=
  [.call (sampleEnv 0) (.deposit (sampleAccount 1) (sampleAccount 2) 100),
    .call (sampleEnv 10) (.openDispute sampleHash (sampleAccount 6) sampleHash 40),
    .call (sampleEnv 20) (.resolve sampleHash sampleHash 25),
    .call (sampleEnv 30) (.withdraw (sampleAccount 2) (sampleAccount 2) 30)]

theorem sampleWorld_deployed : Deployed sampleWorld :=
  ⟨⟨List.replicate 32 9, rfl⟩, sampleLedger, sampleAccount 3, sampleAccount 4, sampleAccount 5, 60, rfl⟩

theorem guarantee_solvency_sample :
    guarantee (run sampleWorld sampleActions).1 (sampleAccount 2) = ⟨45, 0⟩ ∧
      guaranteed (run sampleWorld sampleActions).1 ≤ (run sampleWorld sampleActions).1.balance :=
  ⟨by decide +kernel, (guarantee_solvency sampleWorld_deployed sampleActions).2.1⟩

end AgentPey.GuaranteeSolvency
