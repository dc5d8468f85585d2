import AgentPey.GuaranteeSolvency
import AgentPey.ReceiptRegistry

/-!
Who can lose a guarantee. The receipt registry and the disputes over its receipts
run together, called by anybody in any order; `open` asks the registry for the
receipt. Of each receipt the history of both contracts knows one anchoring, one
dispute and one refund at most, and a merchant's guarantee shrinks only by its own
withdrawal or by a refund for a receipt it has anchored itself.
-/
namespace AgentPey.GuaranteeLosses
open Soroban Store Tokens AgentResolve
open GuaranteeSolvency (guarantee_insert sampleAccount sampleHash sampleLedger sampleWorld)

variable {token : Token Address}

/-- Both contracts, on one ledger. -/
structure Contracts (token : Token Address) where
  registry : ReceiptRegistry.World
  resolve : World token

/-- Both as they are deployed: the disputes are over the receipts of this registry. -/
structure Deployed (w : Contracts token) : Prop where
  registry : w.registry = ReceiptRegistry.deploy w.registry.id
  resolve : AgentResolve.Deployed w.resolve
  joined : w.resolve.config.registry = .contract w.registry.id

/-- The ledger an invocation runs in, and whether its calls of other contracts come through. -/
structure Env where
  timestamp : UInt64
  sequence : UInt32
  authorised : Address → Bool
  reachable : Bool

/-- A record as `agent-resolve` decodes it. -/
def decoded (record : ReceiptRegistry.ReceiptRecord) : ReceiptRecord :=
  ⟨record.merchant, record.amount, record.order_ref, record.ledger, record.timestamp⟩

def Env.atRegistry (env : Env) : ReceiptRegistry.Env := ⟨env.timestamp, env.sequence, env.authorised⟩

/-- What `agent-resolve` sees of it, with what the registry answers it. -/
def Env.atResolve (env : Env) (registry : ReceiptRegistry.World) : AgentResolve.Env where
  timestamp := env.timestamp
  authorised := env.authorised
  receipt hash := if env.reachable then some ((ReceiptRegistry.get registry hash).map decoded) else none

/-! ### Runs -/

inductive Action (token : Token Address) where
  | anchor (env : Env) (hash : BytesN 32) (merchant : Address) (amount : Int) (order_ref : Bytes)
  | call (env : Env) (call : Call)
  | external (state : token.State)

/-- What a run keeps of a successful call. -/
inductive Entry where
  | anchored (env : Env) (hash : BytesN 32) (merchant : Address) (amount : Int)
  | called (env : Env) (call : Call)

def step (w : Contracts token) : Action token → Contracts token × List Entry
  | .anchor env hash merchant amount order_ref =>
    match ReceiptRegistry.invoke env.atRegistry w.registry hash merchant amount order_ref with
    | .ok registry => ({ w with registry := registry }, [.anchored env hash merchant amount])
    | .error _ => (w, [])
  | .call env call =>
    match invoke (env.atResolve w.registry) call w.resolve with
    | .ok resolve => ({ w with resolve := resolve }, [.called env call])
    | .error _ => (w, [])
  | .external state => ({ w with resolve := (AgentResolve.step w.resolve (.external state)).1 }, [])

def run (w : Contracts token) (actions : List (Action token)) : Contracts token × List Entry := Traces.exec step w actions

/-! ### The history of a receipt -/

def anchors (receipt : BytesN 32) (t : List Entry) : List (Address × Int) :=
  t.filterMap fun
    | .anchored _ hash merchant amount => if hash = receipt then some (merchant, amount) else none
    | .called _ _ => none

def disputes (receipt : BytesN 32) (t : List Entry) : List Int :=
  t.filterMap fun
    | .called _ (.openDispute hash _ _ amount) => if hash = receipt then some amount else none
    | _ => none

def refunds (receipt : BytesN 32) (t : List Entry) : List Int :=
  t.filterMap fun
    | .called _ (.resolve hash _ refund) => if hash = receipt then some refund else none
    | _ => none

/-- A receipt that a merchant has anchored, with its authorisation. -/
def AnchoredBy (t : List Entry) (receipt : BytesN 32) (merchant : Address) (amount : Int) : Prop :=
  ∃ env : Env, .anchored env receipt merchant amount ∈ t ∧ env.authorised merchant = true

/-- One anchoring, one dispute and one refund at most, each within the one before it. -/
structure Fair (receipt : BytesN 32) (t : List Entry) : Prop where
  one_anchor : (anchors receipt t).length ≤ 1
  one_dispute : (disputes receipt t).length ≤ 1
  one_refund : (refunds receipt t).length ≤ 1
  locked : ∀ refund ∈ refunds receipt t, ∃ amount ∈ disputes receipt t, 0 ≤ refund ∧ refund ≤ amount
  anchored : ∀ amount ∈ disputes receipt t, ∃ merchant anchored, AnchoredBy t receipt merchant anchored ∧ amount ≤ anchored

/-- What a guarantee may lose by a call: what its merchant withdraws of the free part, or a refund for one of its
    receipts. -/
inductive Loses (w : Contracts token) (t : List Entry) (merchant : Address) : Action token → Int → Prop
  | withdraws {env dst amount} (authorised : env.authorised merchant = true)
      (free : amount ≤ (guarantee w.resolve merchant).balance - (guarantee w.resolve merchant).locked) :
      Loses w t merchant (.call env (.withdraw merchant dst amount)) amount
  | refunds {env receipt verdict_hash refund dispute anchored} (disputed : get w.resolve receipt = some dispute)
      (unresolved : dispute.status = .Open) (lost : refund ≤ dispute.amount) (within : dispute.amount ≤ anchored)
      (own : AnchoredBy t receipt merchant anchored) :
      Loses w t merchant (.call env (.resolve receipt verdict_hash refund)) refund

/-! ### What the contracts keep of it -/

/-- The registry's records and the disputes are what the history says. -/
structure Recorded (w : Contracts token) (t : List Entry) : Prop where
  known : ∀ receipt, anchors receipt t =
    ((ReceiptRegistry.get w.registry receipt).map fun record => (record.merchant, record.amount)).toList
  authorised : ∀ env receipt merchant amount, .anchored env receipt merchant amount ∈ t → env.authorised merchant = true
  disputed : ∀ receipt, disputes receipt t = ((get w.resolve receipt).map Dispute.amount).toList
  refunded : ∀ receipt, refunds receipt t =
    (((get w.resolve receipt).filter fun dispute => dispute.status = .Resolved).map Dispute.refund).toList
  lawful : ∀ receipt dispute, get w.resolve receipt = some dispute → ∃ record,
    ReceiptRegistry.get w.registry receipt = some record ∧ dispute.merchant = record.merchant ∧
      dispute.amount ≤ record.amount ∧ (dispute.status = .Resolved → 0 ≤ dispute.refund ∧ dispute.refund ≤ dispute.amount)

theorem deployed_recorded {w : Contracts token} (deployed : Deployed w) : Recorded w [] := by
  obtain ⟨id, state, arbiter, tokenAddress, registry, claim_window, made⟩ := deployed.resolve
  simp only [construct, bind_eq_ok, failIf_eq_ok] at made
  obtain ⟨_, _, made⟩ := made
  have nobody : ∀ receipt, get w.resolve receipt = none := by
    intro receipt
    rw [← Except.ok.inj made]
    rfl
  have empty : ∀ receipt, ReceiptRegistry.get w.registry receipt = none := by
    intro receipt
    rw [deployed.registry]
    rfl
  constructor
  · intro receipt
    rw [empty]
    rfl
  · intro env receipt merchant amount impossible
    cases impossible
  · intro receipt
    rw [nobody]
    rfl
  · intro receipt
    rw [nobody]
    rfl
  · intro receipt dispute found
    rw [nobody] at found
    cases found

section
variable {w : Contracts token} {t : List Entry} {env : Env}

variable {receipt : BytesN 32} {merchant : Address} {registry : ReceiptRegistry.World}

theorem Recorded.anchoredBy (recorded : Recorded w t) {record : ReceiptRegistry.ReceiptRecord}
    (found : ReceiptRegistry.get w.registry receipt = some record) : AnchoredBy t receipt record.merchant record.amount := by
  have known : (record.merchant, record.amount) ∈ anchors receipt t := by
    rw [recorded.known, found]
    exact List.mem_singleton_self _
  rw [anchors, List.mem_filterMap] at known
  obtain ⟨entry, member, same⟩ := known
  cases entry with
  | called env call => cases same
  | anchored env hash merchant amount =>
    dsimp only at same
    split_ifs at same with here
    cases same
    subst here
    exact ⟨env, member, recorded.authorised env hash _ _ member⟩

theorem Recorded.anchor (recorded : Recorded w t) {hash : BytesN 32} {amount : Int} {order_ref : Bytes}
    (ran : ReceiptRegistry.invoke env.atRegistry w.registry hash merchant amount order_ref = .ok registry) :
    Recorded { w with registry := registry } (t ++ [.anchored env hash merchant amount]) := by
  obtain ⟨authorised, _, free, _, receipts⟩ := ReceiptRegistry.invoke_effect ran
  constructor
  · intro receipt
    rw [anchors, List.filterMap_append, ← anchors, recorded.known]
    simp only [ReceiptRegistry.get, receipts, lookup_insert] at free ⊢
    by_cases same : receipt = hash
    · subst same
      simp [free, ReceiptRegistry.anchored]
    · simp [same, Ne.symm same]
  · intro env' receipt m n member
    rcases List.mem_append.mp member with old | new
    · exact recorded.authorised env' receipt m n old
    · cases List.mem_singleton.mp new
      exact authorised
  · intro receipt
    rw [disputes, List.filterMap_append, ← disputes, recorded.disputed]
    exact List.append_nil _
  · intro receipt
    rw [refunds, List.filterMap_append, ← refunds, recorded.refunded]
    exact List.append_nil _
  · intro receipt dispute found
    obtain ⟨record, stored, lawful⟩ := recorded.lawful receipt dispute found
    exact ⟨record, ReceiptRegistry.get_kept ran stored, lawful⟩

theorem answer_of {record : ReceiptRecord} (answer : (env.atResolve registry).receipt receipt = some (some record)) :
    ∃ stored, ReceiptRegistry.get registry receipt = some stored ∧ record = decoded stored := by
  simp only [Env.atResolve] at answer
  split_ifs at answer
  obtain ⟨stored, found, same⟩ := Option.map_eq_some_iff.mp (Option.some.inj answer)
  exact ⟨stored, found, same.symm⟩

variable {resolve : World token}

section
variable (recorded : Recorded w t)
include recorded

theorem Recorded.call {call : Call} (effect : Effect (env.atResolve w.registry) w.resolve call resolve) :
    Recorded { w with resolve := resolve } (t ++ [.called env call]) := by
  have same_anchors : ∀ receipt, anchors receipt (t ++ [.called env call]) = anchors receipt t := by
    intro receipt
    rw [anchors, List.filterMap_append, ← anchors]
    exact List.append_nil _
  have authorised : ∀ env' receipt merchant amount, .anchored env' receipt merchant amount ∈ t ++ [.called env call] →
      env'.authorised merchant = true := by
    intro env' receipt merchant amount member
    rcases List.mem_append.mp member with old | new
    · exact recorded.authorised env' receipt merchant amount old
    · cases List.mem_singleton.mp new
  have said : ∀ receipt, disputes receipt (t ++ [.called env call]) = ((get resolve receipt).map Dispute.amount).toList ∧
      refunds receipt (t ++ [.called env call]) =
        (((get resolve receipt).filter fun dispute => dispute.status = .Resolved).map Dispute.refund).toList := by
    intro receipt
    rw [disputes, refunds, List.filterMap_append, List.filterMap_append, ← disputes, ← refunds, recorded.disputed,
      recorded.refunded]
    cases effect with
    | deposit => exact ⟨List.append_nil _, List.append_nil _⟩
    | withdraw => exact ⟨List.append_nil _, List.append_nil _⟩
    | @openDispute hash payer claim_hash amount record events arbiter undisputed anchored inTime positive within free =>
      simp only [AgentResolve.get, lookup_insert]
      by_cases same : receipt = hash
      · subst same
        rw [AgentResolve.get] at undisputed
        simp [undisputed, opened]
      · simp [same, Ne.symm same]
    | @resolve hash verdict_hash refund dispute state events arbiter disputed unresolved nonneg within moved =>
      simp only [AgentResolve.get, lookup_insert]
      by_cases same : receipt = hash
      · subst same
        rw [AgentResolve.get] at disputed
        simp [disputed, resolved, Option.filter, unresolved]
      · simp [same, Ne.symm same]
  refine ⟨fun receipt => (same_anchors receipt).trans (recorded.known receipt), authorised, fun receipt => (said receipt).1,
    fun receipt => (said receipt).2, ?_⟩
  · intro receipt dispute found
    cases effect with
    | deposit => exact recorded.lawful receipt dispute found
    | withdraw => exact recorded.lawful receipt dispute found
    | @openDispute hash payer claim_hash amount record events arbiter undisputed anchored inTime positive within free =>
      rw [AgentResolve.get, lookup_insert] at found
      split_ifs at found with same
      · cases found
        subst same
        obtain ⟨stored, known, rfl⟩ := answer_of anchored
        exact ⟨stored, known, rfl, within, fun impossible => by cases impossible⟩
      · exact recorded.lawful receipt dispute found
    | @resolve hash verdict_hash refund old state events arbiter disputed unresolved nonneg within moved =>
      rw [AgentResolve.get, lookup_insert] at found
      split_ifs at found with same
      · cases found
        subst same
        obtain ⟨record, known, merchant, bounded, _⟩ := recorded.lawful receipt old disputed
        exact ⟨record, known, merchant, bounded, fun _ => ⟨nonneg, within⟩⟩
      · exact recorded.lawful receipt dispute found

theorem Recorded.step (action : Action token) : Recorded (step w action).1 (t ++ (step w action).2) := by
  cases action with
  | anchor env hash merchant amount order_ref =>
    simp only [GuaranteeLosses.step]
    cases ran : ReceiptRegistry.invoke env.atRegistry w.registry hash merchant amount order_ref with
    | ok registry => exact recorded.anchor ran
    | error failure => simpa using recorded
  | call env call =>
    simp only [GuaranteeLosses.step]
    cases ran : invoke (env.atResolve w.registry) call w.resolve with
    | ok resolve => exact recorded.call (invoke_cases ran)
    | error failure => simpa using recorded
  | external state =>
    have same : ∀ receipt, get (AgentResolve.step w.resolve (.external state)).1 receipt = get w.resolve receipt := by
      intro receipt
      simp only [AgentResolve.step]
      split_ifs <;> rfl
    simp only [GuaranteeLosses.step, List.append_nil]
    refine ⟨recorded.known, recorded.authorised, ?_, ?_, ?_⟩
    · intro receipt
      rw [same]
      exact recorded.disputed receipt
    · intro receipt
      rw [same]
      exact recorded.refunded receipt
    · intro receipt
      rw [same]
      exact recorded.lawful receipt

theorem Recorded.fair (receipt : BytesN 32) : Fair receipt t := by
  have toList_le : ∀ {α : Type} (o : Option α), o.toList.length ≤ 1 := fun o => by cases o <;> simp
  constructor
  · rw [recorded.known]
    exact toList_le _
  · rw [recorded.disputed]
    exact toList_le _
  · rw [recorded.refunded]
    exact toList_le _
  · intro refund member
    rw [recorded.refunded, Option.mem_toList, Option.map_eq_some_iff] at member
    obtain ⟨dispute, found, rfl⟩ := member
    obtain ⟨found, status⟩ := Option.filter_eq_some_iff.mp found
    obtain ⟨record, _, _, _, bounds⟩ := recorded.lawful receipt dispute found
    refine ⟨dispute.amount, ?_, bounds (by simpa using status)⟩
    rw [recorded.disputed, found]
    exact List.mem_singleton_self _
  · intro amount member
    rw [recorded.disputed, Option.mem_toList, Option.map_eq_some_iff] at member
    obtain ⟨dispute, found, rfl⟩ := member
    obtain ⟨record, known, _, bounded, _⟩ := recorded.lawful receipt dispute found
    exact ⟨_, _, recorded.anchoredBy known, bounded⟩

/-- A guarantee is lowered by its merchant's withdrawal or a refund, and by no other call. -/
theorem Recorded.loses {call : Call} (effect : Effect (env.atResolve w.registry) w.resolve call resolve)
    (lower : (guarantee resolve merchant).balance < (guarantee w.resolve merchant).balance) :
    ∃ lost, Loses w t merchant (.call env call) lost ∧
      (guarantee resolve merchant).balance = (guarantee w.resolve merchant).balance - lost := by
  cases effect with
  | @deposit src m amount state events authorised outside positive moved =>
    rw [guarantee, guarantee_insert] at lower
    split_ifs at lower with same
    · subst same
      dsimp only at lower
      omega
    · omega
  | @withdraw m dst amount state events authorised outside positive free moved =>
    rw [guarantee, guarantee_insert] at lower ⊢
    split_ifs at lower with same
    · subst same
      exact ⟨amount, .withdraws authorised free, by rw [if_pos rfl]⟩
    · omega
  | @openDispute hash payer claim_hash amount record events arbiter undisputed anchored inTime positive within free =>
    rw [guarantee, guarantee_insert] at lower
    split_ifs at lower with same
    · subst same
      dsimp only at lower
      omega
    · omega
  | @resolve hash verdict_hash refund dispute state events arbiter disputed unresolved nonneg within moved =>
    rw [guarantee, guarantee_insert] at lower ⊢
    split_ifs at lower with same
    · subst same
      obtain ⟨record, known, own, bounded, _⟩ := recorded.lawful hash dispute disputed
      refine ⟨refund, .refunds disputed unresolved within bounded ?_, by rw [if_pos rfl]⟩
      rw [own]
      exact recorded.anchoredBy known
    · omega

/-- A refund is taken from the merchant that anchored the receipt, and from nobody else. -/
theorem Recorded.pays {verdict_hash : BytesN 32} {refund : Int}
    (effect : Effect (env.atResolve w.registry) w.resolve (.resolve receipt verdict_hash refund) resolve) :
    ∃ merchant anchored, anchors receipt t = [(merchant, anchored)] ∧ refund ≤ anchored ∧
      (guarantee resolve merchant).balance = (guarantee w.resolve merchant).balance - refund ∧
      ∀ other, other ≠ merchant → guarantee resolve other = guarantee w.resolve other := by
  cases effect with
  | @resolve _ _ _ dispute state events arbiter disputed unresolved nonneg within moved =>
    obtain ⟨record, known, own, bounded, _⟩ := recorded.lawful receipt dispute disputed
    refine ⟨dispute.merchant, record.amount, ?_, within.trans bounded, ?_, ?_⟩
    · rw [recorded.known, known, own]
      rfl
    · rw [guarantee, guarantee_insert, if_pos rfl]
    · intro other different
      rw [guarantee, guarantee_insert, if_neg different]

end

end

theorem run_recorded {w₀ : Contracts token} (deployed : Deployed w₀) (actions : List (Action token)) :
    Recorded (run w₀ actions).1 (run w₀ actions).2 :=
  Traces.exec_trace_invariant (I := Recorded) (fun _ _ action recorded => recorded.step action)
    (deployed_recorded deployed) actions

/-- In every joint run a receipt is anchored, disputed and refunded at most once, each time for no more than before; a
    guarantee is lowered only by its merchant's own withdrawal of its free part or by a refund for a receipt anchored under
    its merchant's authorisation; and a refund comes out of no other guarantee. -/
theorem guarantee_losses {w₀ : Contracts token} (deployed : Deployed w₀) (actions : List (Action token)) :
    (∀ receipt, Fair receipt (run w₀ actions).2) ∧
    ∀ before action after, actions = before ++ action :: after →
      let w := (run w₀ before).1
      let w' := (step w action).1
      (∀ merchant, (guarantee w'.resolve merchant).balance < (guarantee w.resolve merchant).balance →
        ∃ lost, Loses w (run w₀ before).2 merchant action lost ∧
          (guarantee w'.resolve merchant).balance = (guarantee w.resolve merchant).balance - lost) ∧
      ∀ env receipt verdict_hash refund, action = .call env (.resolve receipt verdict_hash refund) →
        (step w action).2 ≠ [] → ∃ merchant anchored, anchors receipt (run w₀ before).2 = [(merchant, anchored)] ∧
          refund ≤ anchored ∧
          (guarantee w'.resolve merchant).balance = (guarantee w.resolve merchant).balance - refund ∧
          ∀ other, other ≠ merchant → guarantee w'.resolve other = guarantee w.resolve other := by
  refine ⟨(run_recorded deployed actions).fair, ?_⟩
  intro before action after _ w w'
  have recorded := run_recorded deployed before
  constructor
  · intro merchant lower
    cases action with
    | anchor env hash m amount order_ref =>
      simp only [w', GuaranteeLosses.step] at lower
      split at lower
      · exact (Int.lt_irrefl _ lower).elim
      · exact (Int.lt_irrefl _ lower).elim
    | call env call =>
      simp only [w', GuaranteeLosses.step] at lower ⊢
      cases ran : invoke (env.atResolve w.registry) call w.resolve with
      | ok resolve =>
        rw [ran] at lower
        exact recorded.loses (invoke_cases ran) lower
      | error failure =>
        rw [ran] at lower
        exact (Int.lt_irrefl _ lower).elim
    | external state =>
      have same : guarantee w'.resolve merchant = guarantee w.resolve merchant := by
        simp only [w', GuaranteeLosses.step, AgentResolve.step]
        split_ifs <;> rfl
      rw [same] at lower
      exact (Int.lt_irrefl _ lower).elim
  · rintro env receipt verdict_hash refund rfl succeeded
    simp only [w', GuaranteeLosses.step] at succeeded ⊢
    cases ran : invoke (env.atResolve w.registry) (.resolve receipt verdict_hash refund) w.resolve with
    | ok resolve => exact recorded.pays (invoke_cases ran)
    | error failure =>
      rw [ran] at succeeded
      exact (succeeded rfl).elim

/-! ### A deployment to run -/

def sampleContracts : Contracts (ledgerToken Address) where
  registry := ReceiptRegistry.deploy ⟨List.replicate 32 8, rfl⟩
  resolve := { sampleWorld with config := { sampleWorld.config with registry := .contract ⟨List.replicate 32 8, rfl⟩ } }

def sampleEnv (timestamp : UInt64) : Env := ⟨timestamp, 1, fun _ => true, true⟩

/-- Account 2 anchors a receipt of 50 and has a guarantee of 100; a dispute over 40 of the receipt ends with a refund of
    25; what is left of the guarantee is withdrawn in part. -/
def sampleCalls : List (Action (ledgerToken Address)) :=
  [.anchor (sampleEnv 5) sampleHash (sampleAccount 2) 50 [1],
    .call (sampleEnv 5) (.deposit (sampleAccount 1) (sampleAccount 2) 100),
    .call (sampleEnv 10) (.openDispute sampleHash (sampleAccount 6) sampleHash 40),
    .call (sampleEnv 20) (.resolve sampleHash sampleHash 25),
    .call (sampleEnv 30) (.withdraw (sampleAccount 2) (sampleAccount 2) 30)]

theorem sampleContracts_deployed : Deployed sampleContracts where
  registry := rfl
  resolve := ⟨⟨List.replicate 32 9, rfl⟩, sampleLedger, sampleAccount 3, sampleAccount 4, _, 60, rfl⟩
  joined := rfl

theorem guarantee_losses_sample : refunds sampleHash (run sampleContracts sampleCalls).2 = [25] ∧
    Fair sampleHash (run sampleContracts sampleCalls).2 :=
  ⟨by decide +kernel, (guarantee_losses sampleContracts_deployed sampleCalls).1 sampleHash⟩

end AgentPey.GuaranteeLosses
