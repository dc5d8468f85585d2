import AgentPey.AgentPass
import AgentPey.Store
import AgentPey.Disciplines
import Mathlib.Data.List.Dedup

/-!
The rails that the pilot sponsors (`tenant-rail.ts`) over the agents of the directory and the network. Calls run in any
processes: the directory is what they share, and a process that dies is calls that are never resumed. A transfer that was
submitted may land at any time, whatever its caller was told.
-/
namespace AgentPey.SponsoredRails
open AgentPass Routines Disciplines
open Store (Keyed total)
open List (mem_append mem_append_left mem_append_right mem_cons mem_cons_of_mem mem_filter mem_map)

def MAX_SPONSORED_RAILS : Nat := 40
def SPONSORED_FUNDING_PER_TENANT : String := "3.0000000"

def INITIAL_FUNDING : Int := 30000000

/-! ### The directory and the network -/

/-- The address of a contract comes from the key that deploys it and a salt. -/
structure Rail where
  owner : String
  salt : String
  deriving DecidableEq, Repr

structure AgentInstance where
  policyRailContractId : Option Rail
  policyRailFundedAt : Option Int
  deriving DecidableEq, Repr

/-- A transfer that was submitted: whether it has landed, and whether its caller was told that it failed. -/
structure Transfer where
  contractId : Rail
  landed : Bool
  failed : Bool
  deriving DecidableEq, Repr

structure Pilot where
  agents : Keyed String AgentInstance
  transfers : List Transfer

def agentNotFound (id : String) : Thrown := .AgentPassError "AgentNotFound" "no agent with that id" [("agentId", .string id)]

def Pilot.set (s : Pilot) (id : String) (row : AgentInstance) : Pilot := { s with agents := s.agents.insert id row }

def Pilot.setAgentPolicyRail (s : Pilot) (id : String) (contractId : Rail) : Except Thrown AgentInstance × Pilot :=
  match s.agents.lookup id with
  | none => (.error (agentNotFound id), s)
  | some row =>
    if row.policyRailContractId.isNone then
      let row := { row with policyRailContractId := some contractId }
      (.ok row, s.set id row)
    else (.ok row, s)

def Pilot.claimRailFunding (s : Pilot) (id : String) (now : Int) : Bool × Pilot :=
  match s.agents.lookup id with
  | none => (false, s)
  | some row =>
    if row.policyRailContractId.isSome ∧ row.policyRailFundedAt.isNone then
      (true, s.set id { row with policyRailFundedAt := some now })
    else (false, s)

def Pilot.releaseRailFunding (s : Pilot) (id : String) : Pilot :=
  match s.agents.lookup id with
  | none => s
  | some row => s.set id { row with policyRailFundedAt := none }

def AgentInstance.funded (row : AgentInstance) : Int := if row.policyRailFundedAt.isSome then 1 else 0

def Pilot.countFundedRails (s : Pilot) : Int := total AgentInstance.funded s.agents

def Pilot.submit (s : Pilot) (contractId : Rail) (failed : Bool) : Pilot :=
  { s with transfers := s.transfers ++ [⟨contractId, false, failed⟩] }

def Pilot.change (s : Pilot) (k : Nat) (f : Transfer → Transfer) : Pilot := { s with transfers := s.transfers.modify k f }

/-! ### The calls -/

inductive Op where
  | findAgent (id : String)
  | countFundedRails
  | readUsdcBalance (address : String)
  | fundWithFriendbot (id : String)
  | deployRailContract (id : String)
  | setAgentPolicyRail (id : String) (contractId : Rail)
  | claimRailFunding (id : String)
  | releaseRailFunding (id : String)
  | buildTransfer (contractId : Rail)
  | sendTransfer (contractId : Rail)
  | confirmTransfer (k : Nat)

/-- A balance is what its text says as a number, in ten-millionths, if it is one. -/
abbrev Op.Answer : Op → Type
  | .findAgent _ => Option AgentInstance
  | .countFundedRails => Int
  | .readUsdcBalance _ => String × Option Int
  | .fundWithFriendbot _ => Unit
  | .deployRailContract _ => Rail
  | .setAgentPolicyRail .. => AgentInstance
  | .claimRailFunding _ => Bool
  | .releaseRailFunding _ => Unit
  | .buildTransfer _ => Unit
  | .sendTransfer _ => Nat
  | .confirmTransfer _ => Unit

abbrev Work := Routine Pilot Op Thrown Op.Answer

/-- The account that sponsors, and the text of a contract's address. -/
structure Reserve where
  publicKey : String
  address : Rail → String

variable (reserve : Reserve)

def creditExhausted (message : String) (details : Details) : Thrown := .AgentPassError "SponsoredCreditExhausted" message details

def requireSponsoredCredit : Work Unit := do
  let funded ← Routine.ask Op.countFundedRails
  if funded ≥ MAX_SPONSORED_RAILS then
    .throws (creditExhausted "the pilot has already sponsored as many tenants as it allows"
      [("funded", .number funded), ("cap", .number MAX_SPONSORED_RAILS), ("remedy", .string "raise the cap")])
  else do
    let (reserveUsdc, amount) ← Routine.ask (Op.readUsdcBalance reserve.publicKey)
    if amount.any (· < INITIAL_FUNDING) then
      .throws (creditExhausted "the pilot's reserve cannot cover another sponsored tenant"
        [("reserveUsdc", .string reserveUsdc), ("needed", .string SPONSORED_FUNDING_PER_TENANT), ("reserve", .string reserve.publicKey),
          ("remedy", .string "fund the reserve")])
    else pure ()

def fundingFailed (contractId : Rail) : Thrown :=
  .AgentPassError "NetworkError" "funding the newly deployed policy_rail with USDC failed"
    [("contractId", .string (reserve.address contractId)), ("funder", .string reserve.publicKey),
      ("amount", .string SPONSORED_FUNDING_PER_TENANT)]

/-- `signAndSend`: submits, and waits until the network has it. -/
def signAndSend (contractId : Rail) : Work Unit := do
  let k ← Routine.ask (Op.sendTransfer contractId)
  Routine.ask (Op.confirmTransfer k)

def sentOr (contractId : Rail) : Except Thrown Unit → Work Unit
  | .ok _ => pure ()
  | .error _ => .throws (fundingFailed reserve contractId)

def fundRailBalance (contractId : Rail) : Work Unit := do
  Routine.ask (Op.buildTransfer contractId)
  let sent ← (signAndSend contractId).attempt
  sentOr reserve contractId sent

def released (agentId : String) : Except Thrown Unit → Work Unit
  | .ok _ => pure ()
  | .error e => do
    let _ ← (Routine.ask (Op.releaseRailFunding agentId)).attempt
    .throws e

def fundRailOnce (agentId : String) (contractId : Rail) : Work Unit := do
  let claimed ← Routine.ask (Op.claimRailFunding agentId)
  if claimed then do
    let funded ← (fundRailBalance reserve contractId).attempt
    released agentId funded
  else pure ()

def ensureTenantPolicyRail (agentId : String) (instance_ : AgentInstance) : Work Rail :=
  match instance_.policyRailContractId with
  | some existing =>
    if instance_.policyRailFundedAt.isNone then do
      fundRailOnce reserve agentId existing
      pure existing
    else pure existing
  | none => do
    requireSponsoredCredit reserve
    Routine.ask (Op.fundWithFriendbot agentId)
    let contractId ← Routine.ask (Op.deployRailContract agentId)
    let persisted ← Routine.ask (Op.setAgentPolicyRail agentId contractId)
    fundRailOnce reserve agentId (persisted.policyRailContractId.getD contractId)
    pure (persisted.policyRailContractId.getD contractId)

def resolvedOr (agentId : String) : Option AgentInstance → Work Rail
  | some instance_ => ensureTenantPolicyRail reserve agentId instance_
  | none => .throws (.AgentPassError "AgentNotFound" "esta sesión no tiene un agente propio para desplegar su rail"
      [("tenantAgentId", .string agentId)])

/-- `resolveRailPayer`: the agent is read, and then its rail is ensured. -/
def body (agentId : String) : Work Rail := do
  let instance_ ← Routine.ask (Op.findAgent agentId)
  resolvedOr reserve agentId instance_

/-- What answers a question: an error with nothing done, what it asks for, or that and an error. -/
inductive Input where
  | fails (e : Thrown)
  | done (now : Int)
  | lost (e : Thrown) (now : Int)
  | balance (text : String) (amount : Option Int)
  | deployed (salt : String)

/-- A contract belongs to the key of the agent that deploys it. -/
def serve : (o : Op) → Input → Pilot → Option (Except Thrown o.Answer × Pilot)
  | .confirmTransfer k, .fails e, s => some (.error e, s.change k fun t => { t with failed := true })
  | .confirmTransfer k, .done _, s => if s.transfers[k]?.any (·.landed) then some (.ok (), s) else none
  | .sendTransfer contractId, .done _, s => some (.ok s.transfers.length, s.submit contractId false)
  | .sendTransfer contractId, .lost e _, s => some (.error e, s.submit contractId true)
  | .findAgent id, .done _, s => some (.ok (s.agents.lookup id), s)
  | .countFundedRails, .done _, s => some (.ok s.countFundedRails, s)
  | .readUsdcBalance _, .balance text amount, s => some (.ok (text, amount), s)
  | .fundWithFriendbot _, .done _, s => some (.ok (), s)
  | .deployRailContract id, .deployed salt, s => some (.ok ⟨id, salt⟩, s)
  | .setAgentPolicyRail id contractId, .done _, s => some (s.setAgentPolicyRail id contractId)
  | .setAgentPolicyRail id contractId, .lost e _, s => some (.error e, (s.setAgentPolicyRail id contractId).2)
  | .claimRailFunding id, .done now, s => some (.ok (s.claimRailFunding id now).1, (s.claimRailFunding id now).2)
  | .claimRailFunding id, .lost e now, s => some (.error e, (s.claimRailFunding id now).2)
  | .releaseRailFunding id, .done _, s => some (.ok (), s.releaseRailFunding id)
  | .releaseRailFunding id, .lost e _, s => some (.error e, s.releaseRailFunding id)
  | .buildTransfer _, .done _, s => some (.ok (), s)
  | _, .fails e, s => some (.error e, s)
  | _, _, _ => none

/-- An agent is created, or a transfer lands. -/
inductive Elsewhere where
  | createAgent (id : String)
  | lands (k : Nat)

def outside : Elsewhere → Pilot → Pilot
  | .createAgent id, s => if (s.agents.lookup id).isSome then s else s.set id ⟨none, none⟩
  | .lands k, s => s.change k fun t => { t with landed := true }

def host : Host String Pilot Op Thrown Op.Answer Rail Input Elsewhere where
  body := body reserve
  serve := serve
  outside := outside
  restart s := s

abbrev Act := Action String Input Elsewhere
abbrev Web := System String Pilot Op Thrown Op.Answer Rail

/-- No transfer that was reported as failed lands, before or after, and nothing is claimed past the cap. -/
def fair : Op → Input → Pilot → Bool
  | .confirmTransfer k, .fails _, s => s.transfers[k]?.all fun t => !t.landed
  | .claimRailFunding id, _, s => !(s.claimRailFunding id 0).1 || decide (s.countFundedRails < MAX_SPONSORED_RAILS)
  | _, _, _ => true

def sound (w : Web) : Act → Bool
  | .perform i input =>
    match w.calls[i]? with
    | some (_, .waiting o _) => fair o input w.shared
    | _ => true
  | .outside (.lands k) => w.shared.transfers[k]?.all fun t => !t.failed
  | _ => true

def started : Web := ⟨⟨∅, []⟩, []⟩

def run (actions : List Act) : Web := (Traces.exec (step (host reserve)) started actions).1

/-! ### Accounts -/

def Pilot.recorded (s : Pilot) (id : String) (rail : Rail) : Prop :=
  ∃ row, s.agents.lookup id = some row ∧ row.policyRailContractId = some rail

/-- A transfer that may land. -/
def Transfer.live (rail : Rail) (t : Transfer) : Bool := decide (t.contractId = rail) && !t.failed

def Pilot.live (s : Pilot) (rail : Rail) : Nat := s.transfers.countP (Transfer.live rail)

/-- Where the claims are: with calls that hold them, or spent on a transfer that may land. A call knows of a recorded
    rail, may hold its claim, and may wait for a transfer of its own. -/
structure Accounts (s : Pilot) (aims claims : List (String × Rail)) (sending : List (Rail × Nat)) : Prop where
  owned : ∀ id rail, s.recorded id rail → rail.owner = id
  aimed : ∀ aim ∈ aims ++ claims, s.recorded aim.1 aim.2
  targets : ∀ t ∈ s.transfers, s.recorded t.contractId.owner t.contractId
  balance : ∀ id row rail, s.agents.lookup id = some row → row.policyRailContractId = some rail →
    claims.count (id, rail) + s.live rail ≤ if row.policyRailFundedAt.isSome then 1 else 0
  waiting : ∀ wait ∈ sending, ∃ t, s.transfers[wait.2]? = some t ∧ t.contractId = wait.1 ∧ t.failed = false
  apart : (sending.map Prod.snd).Nodup
  failed : ∀ t ∈ s.transfers, t.failed = true → t.landed = false
  cap : s.countFundedRails ≤ MAX_SPONSORED_RAILS

section
variable {s : Pilot} {aims aims' claims claims' : List (String × Rail)} {sending sending' : List (Rail × Nat)}
  {id : String} {row : AgentInstance} {rail : Rail}

theorem accounts_started : Accounts ⟨∅, []⟩ [] [] [] where
  owned id rail recorded := by
    obtain ⟨row, found, _⟩ := recorded
    cases found
  aimed := by simp
  targets := by simp
  balance id row rail found := by cases found
  waiting := by simp
  apart := List.nodup_nil
  failed := by simp
  cap := by decide

section
variable (accounts : Accounts s aims claims sending)
include accounts

theorem Accounts.fewer (first : ∀ aim ∈ aims', aim ∈ aims) (second : claims'.Subperm claims)
    (third : sending'.Subperm sending) : Accounts s aims' claims' sending' where
  owned := accounts.owned
  aimed aim among := by
    refine accounts.aimed aim ?_
    rcases mem_append.mp among with old | old
    · exact mem_append_left _ (first aim old)
    · exact mem_append_right _ (second.subset old)
  targets := accounts.targets
  balance id row rail found recorded :=
    (Nat.add_le_add_right (second.count_le _) _).trans (accounts.balance id row rail found recorded)
  waiting wait among := accounts.waiting wait (third.subset among)
  apart := by
    obtain ⟨list, perm, sub⟩ := third
    exact ((perm.map Prod.snd).nodup_iff).mp (accounts.apart.sublist (sub.map _))
  failed := accounts.failed
  cap := accounts.cap

theorem Accounts.congr (first : aims.Perm aims') (second : claims.Perm claims')
    (third : sending.Perm sending') : Accounts s aims' claims' sending' :=
  accounts.fewer (fun _ among => first.mem_iff.mpr among) second.symm.subperm third.symm.subperm

theorem Accounts.aim (recorded : s.recorded id rail) : Accounts s ((id, rail) :: aims) claims sending where
  owned := accounts.owned
  aimed aim among := by
    rcases mem_cons.mp among with rfl | old
    · exact recorded
    · exact accounts.aimed aim old
  targets := accounts.targets
  balance := accounts.balance
  waiting := accounts.waiting
  apart := accounts.apart
  failed := accounts.failed
  cap := accounts.cap

end

/-! #### The directory -/

theorem lookup_set (other : String) : (s.set id row).agents.lookup other = if other = id then some row else s.agents.lookup other :=
  Store.lookup_insert ..

variable {old : AgentInstance} {now : Int} {t : Transfer}

theorem recorded_set (row : AgentInstance) (found : s.agents.lookup id = some old)
    (keeps : ∀ rail, old.policyRailContractId = some rail → row.policyRailContractId = some rail) {other : String}
    (recorded : s.recorded other rail) : (s.set id row).recorded other rail := by
  obtain ⟨first, known, same⟩ := recorded
  by_cases here : other = id
  · subst here
    obtain rfl := Option.some.inj (found.symm.trans known)
    exact ⟨row, by rw [lookup_set, if_pos rfl], keeps rail same⟩
  · exact ⟨first, by rw [lookup_set, if_neg here, known], same⟩

theorem count_set (found : s.agents.lookup id = some old) :
    (s.set id row).countFundedRails = s.countFundedRails - old.funded + row.funded :=
  Store.total_insert_old _ row found

theorem Accounts.mark (accounts : Accounts s aims claims sending) (found : s.agents.lookup id = some row)
    (fundedAt : Option Int) (aimed : ∀ claim ∈ claims', s.recorded claim.1 claim.2)
    (others : ∀ other, other.1 ≠ id → claims'.count other = claims.count other)
    (own : ∀ rail, row.policyRailContractId = some rail →
      claims'.count (id, rail) + s.live rail ≤ if fundedAt.isSome then 1 else 0)
    (cap : (s.set id { row with policyRailFundedAt := fundedAt }).countFundedRails ≤ MAX_SPONSORED_RAILS) :
    Accounts (s.set id { row with policyRailFundedAt := fundedAt }) aims claims' sending := by
  have stays : ∀ {other rail}, s.recorded other rail →
      (s.set id { row with policyRailFundedAt := fundedAt }).recorded other rail :=
    recorded_set { row with policyRailFundedAt := fundedAt } found fun _ same => same
  have was : ∀ {other rail}, (s.set id { row with policyRailFundedAt := fundedAt }).recorded other rail →
      s.recorded other rail := by
    rintro other rail ⟨first, known, same⟩
    rw [lookup_set] at known
    by_cases here : other = id
    · rw [if_pos here] at known
      cases known
      exact ⟨row, here ▸ found, same⟩
    · rw [if_neg here] at known
      exact ⟨first, known, same⟩
  refine ⟨fun other rail recorded => accounts.owned other rail (was recorded), fun aim among => stays ?_,
    fun t among => stays (accounts.targets t among), fun other first rail known same => ?_, accounts.waiting, accounts.apart,
    accounts.failed, cap⟩
  · rcases mem_append.mp among with old | new
    · exact accounts.aimed aim (mem_append_left _ old)
    · exact aimed aim new
  · rw [lookup_set] at known
    by_cases here : other = id
    · rw [if_pos here] at known
      cases known
      subst here
      exact own rail same
    · rw [if_neg here] at known
      rw [others (other, rail) here]
      exact accounts.balance other first rail known same

theorem count_claim (found : s.agents.lookup id = some row) (free : row.policyRailFundedAt = none) :
    (s.set id { row with policyRailFundedAt := some now }).countFundedRails = s.countFundedRails + 1 := by
  rw [count_set found]
  simp [AgentInstance.funded, free]

theorem claimRailFunding_cases (s : Pilot) (id : String) (now : Int) : s.claimRailFunding id now = (false, s) ∨
    ∃ row rail, s.agents.lookup id = some row ∧ row.policyRailContractId = some rail ∧ row.policyRailFundedAt = none ∧
      s.claimRailFunding id now = (true, s.set id { row with policyRailFundedAt := some now }) := by
  unfold Pilot.claimRailFunding
  cases found : s.agents.lookup id with
  | none => exact .inl rfl
  | some row =>
    by_cases free : row.policyRailContractId.isSome ∧ row.policyRailFundedAt.isNone
    · obtain ⟨rail, same⟩ := Option.isSome_iff_exists.mp free.1
      exact .inr ⟨row, rail, rfl, same, Option.isNone_iff_eq_none.mp free.2, if_pos free⟩
    · exact .inl (if_neg free)

theorem Accounts.claim (accounts : Accounts s ((id, rail) :: aims) claims sending)
    (claimed : (s.claimRailFunding id now).1 = true) (below : s.countFundedRails < MAX_SPONSORED_RAILS) (told : Bool) :
    Accounts (s.claimRailFunding id now).2 ((id, rail) :: aims) (if told then (id, rail) :: claims else claims) sending := by
  rcases claimRailFunding_cases s id now with refused | ⟨row, own, found, same, free, next⟩
  · rw [refused] at claimed
    cases claimed
  obtain ⟨first, known, recorded⟩ := accounts.aimed (id, rail) (by simp)
  obtain rfl := Option.some.inj (found.symm.trans known)
  obtain rfl := Option.some.inj (same.symm.trans recorded)
  rw [next]
  have room := accounts.balance id row own found same
  rw [free] at room
  simp only [Option.isSome_none, Bool.false_eq_true, if_false] at room
  refine accounts.mark found (some now) (fun claim among => ?_) (fun other apart => ?_) (fun rail' same' => ?_) ?_
  · have cases : claim = (id, own) ∨ claim ∈ claims := by
      cases told
      · exact .inr among
      · exact mem_cons.mp among
    rcases cases with rfl | old
    · exact ⟨row, found, same⟩
    · exact accounts.aimed claim (mem_append_right _ old)
  · cases told
    · rfl
    · exact List.count_cons_of_ne fun here => apart (by rw [← here])
  · obtain rfl := Option.some.inj (same.symm.trans same')
    cases told
    · simp only [Bool.false_eq_true, if_false, Option.isSome_some, if_true]
      omega
    · simp only [if_true, List.count_cons_self, Option.isSome_some]
      omega
  · rw [count_claim found free]
    omega

theorem Accounts.release (accounts : Accounts s aims ((id, rail) :: claims) sending) :
    Accounts (s.releaseRailFunding id) aims claims sending := by
  obtain ⟨row, found, same⟩ := accounts.aimed (id, rail) (by simp)
  have next : s.releaseRailFunding id = s.set id { row with policyRailFundedAt := none } := by
    unfold Pilot.releaseRailFunding
    simp only [found]
  rw [next]
  have room := accounts.balance id row rail found same
  rw [List.count_cons_self] at room
  have one : (if row.policyRailFundedAt.isSome = true then 1 else 0) ≤ 1 := by
    by_cases claimed : row.policyRailFundedAt.isSome = true <;> simp [claimed]
  refine accounts.mark found none (fun claim among => ?_) (fun other apart => ?_) (fun rail' same' => ?_) ?_
  · exact accounts.aimed claim (mem_append_right _ (mem_cons_of_mem _ among))
  · exact (List.count_cons_of_ne fun here => apart (by rw [← here])).symm
  · obtain rfl := Option.some.inj (same.symm.trans same')
    simp only [Option.isSome_none, Bool.false_eq_true, if_false]
    omega
  · rw [count_set found]
    have low : 0 ≤ row.funded := by
      unfold AgentInstance.funded
      by_cases claimed : row.policyRailFundedAt.isSome <;> simp [claimed]
    have cap := accounts.cap
    show s.countFundedRails - row.funded + 0 ≤ _
    omega

/-- What recording a rail does: it fails, it leaves the rail that is there, or it gives the agent its first. -/
theorem setAgentPolicyRail_cases (s : Pilot) (id : String) (contractId : Rail) :
    (∃ e, s.setAgentPolicyRail id contractId = (.error e, s)) ∨
    (∃ row rail, s.agents.lookup id = some row ∧ row.policyRailContractId = some rail ∧
      s.setAgentPolicyRail id contractId = (.ok row, s)) ∨
    ∃ row, s.agents.lookup id = some row ∧ row.policyRailContractId = none ∧
      s.setAgentPolicyRail id contractId = (.ok { row with policyRailContractId := some contractId },
        s.set id { row with policyRailContractId := some contractId }) := by
  unfold Pilot.setAgentPolicyRail
  cases found : s.agents.lookup id with
  | none => exact .inl ⟨_, rfl⟩
  | some row =>
    cases same : row.policyRailContractId with
    | some rail => exact .inr (.inl ⟨row, rail, rfl, same, by simp [same]⟩)
    | none => exact .inr (.inr ⟨row, rfl, same, by simp [same]⟩)

theorem Accounts.record (accounts : Accounts s aims claims sending) (found : s.agents.lookup id = some row)
    (none' : row.policyRailContractId = none) (own : rail.owner = id) :
    Accounts (s.set id { row with policyRailContractId := some rail }) aims claims sending := by
  have stays : ∀ {other rail'}, s.recorded other rail' →
      (s.set id { row with policyRailContractId := some rail }).recorded other rail' :=
    recorded_set { row with policyRailContractId := some rail } found fun _ same => nomatch none'.symm.trans same
  have new : ∀ rail', ¬s.recorded id rail' := by
    rintro rail' ⟨first, known, same⟩
    obtain rfl := Option.some.inj (found.symm.trans known)
    cases none'.symm.trans same
  refine ⟨?_, fun aim among => stays (accounts.aimed aim among), fun t among => stays (accounts.targets t among), ?_,
    accounts.waiting, accounts.apart, accounts.failed, ?_⟩
  · rintro other rail' ⟨first, known, same⟩
    rw [lookup_set] at known
    by_cases here : other = id
    · rw [if_pos here] at known
      cases known
      cases same
      exact own.trans here.symm
    · rw [if_neg here] at known
      exact accounts.owned other rail' ⟨first, known, same⟩
  · intro other first rail' known same
    rw [lookup_set] at known
    by_cases here : other = id
    · rw [if_pos here] at known
      cases known
      obtain rfl := Option.some.inj same
      have unclaimed : claims.count (other, rail) = 0 := by
        refine List.count_eq_zero.mpr fun among => new rail ?_
        exact here ▸ accounts.aimed _ (mem_append_right _ among)
      have unsent : s.live rail = 0 := by
        refine List.countP_eq_zero.mpr fun t among live => new rail ?_
        have target := accounts.targets t among
        obtain rfl : t.contractId = rail := by
          simp only [Transfer.live, Bool.and_eq_true, decide_eq_true_eq] at live
          exact live.1
        exact own ▸ target
      show claims.count (other, rail) + s.live rail ≤ _
      rw [unclaimed, unsent]
      exact Nat.zero_le _
    · rw [if_neg here] at known
      exact accounts.balance other first rail' known same
  · rw [count_set found]
    have cap := accounts.cap
    show s.countFundedRails - row.funded + row.funded ≤ _
    omega

theorem Accounts.create (accounts : Accounts s aims claims sending) (free : s.agents.lookup id = none) :
    Accounts (s.set id ⟨none, none⟩) aims claims sending := by
  have same : ∀ {other rail}, (s.set id ⟨none, none⟩).recorded other rail ↔ s.recorded other rail := by
    intro other rail
    unfold Pilot.recorded
    rw [lookup_set]
    by_cases here : other = id
    · rw [if_pos here, here, free]
      simp
    · rw [if_neg here]
  refine ⟨fun other rail recorded => accounts.owned other rail (same.mp recorded),
    fun aim among => same.mpr (accounts.aimed aim among), fun t among => same.mpr (accounts.targets t among), ?_,
    accounts.waiting, accounts.apart, accounts.failed, ?_⟩
  · intro other first rail known recorded
    obtain ⟨old, before, rail'⟩ := same.mp ⟨first, known, recorded⟩
    have kept : other ≠ id := by
      rintro rfl
      cases free.symm.trans before
    rw [lookup_set, if_neg kept] at known
    exact accounts.balance other first rail known recorded
  · have counted : (s.set id ⟨none, none⟩).countFundedRails = s.countFundedRails + 0 :=
      Store.total_insert_new _ _ free
    rw [counted, Int.add_zero]
    exact accounts.cap

/-! #### The transfers -/

theorem Accounts.submit (accounts : Accounts s aims ((id, rail) :: claims) sending) :
    Accounts (s.submit rail false) aims claims ((rail, s.transfers.length) :: sending) ∧
      Accounts (s.submit rail true) aims ((id, rail) :: claims) sending := by
  have mine : s.recorded id rail := accounts.aimed (id, rail) (by simp)
  have owner := accounts.owned id rail mine
  have live : ∀ failed other, (s.submit rail failed).live other = s.live other + if rail = other ∧ failed = false then 1 else 0 := by
    intro failed other
    unfold Pilot.live Pilot.submit
    rw [List.countP_append, List.countP_singleton]
    simp [Transfer.live]
  have targets : ∀ failed, ∀ t ∈ (s.submit rail failed).transfers, s.recorded t.contractId.owner t.contractId := by
    intro failed t among
    rcases mem_append.mp among with old | new
    · exact accounts.targets t old
    · obtain rfl := List.mem_singleton.mp new
      exact owner.symm ▸ mine
  have kept : ∀ failed, ∀ wait ∈ sending, ∃ t, (s.submit rail failed).transfers[wait.2]? = some t ∧ t.contractId = wait.1 ∧
      t.failed = false := by
    intro failed wait among
    obtain ⟨t, here, same⟩ := accounts.waiting wait among
    obtain ⟨inside, _⟩ := List.getElem?_eq_some_iff.mp here
    exact ⟨t, (List.getElem?_append_left inside).trans here, same⟩
  have failed : ∀ told, ∀ t ∈ (s.submit rail told).transfers, t.failed = true → t.landed = false := by
    intro told t among fails
    rcases mem_append.mp among with old | new
    · exact accounts.failed t old fails
    · obtain rfl := List.mem_singleton.mp new
      rfl
  constructor
  · refine ⟨accounts.owned, fun aim among => ?_, targets false, fun other row rail' found same => ?_, fun wait among => ?_, ?_,
      failed false, accounts.cap⟩
    · refine accounts.aimed aim ?_
      rcases mem_append.mp among with old | old
      · exact mem_append_left _ old
      · exact mem_append_right _ (mem_cons_of_mem _ old)
    · have room := accounts.balance other row rail' found same
      rw [List.count_cons] at room
      rw [live]
      by_cases here : rail = rail'
      · subst here
        obtain rfl := owner.symm.trans (accounts.owned other rail ⟨row, found, same⟩)
        simp only [BEq.rfl, if_true, and_self] at room ⊢
        omega
      · simp only [here, false_and, if_false]
        omega
    · rcases mem_cons.mp among with rfl | old
      · exact ⟨_, List.getElem?_concat_length, rfl, rfl⟩
      · exact kept false wait old
    · refine List.nodup_cons.mpr ⟨fun among => ?_, accounts.apart⟩
      obtain ⟨wait, old, same⟩ := mem_map.mp among
      obtain ⟨t, here, _⟩ := accounts.waiting wait old
      obtain ⟨inside, _⟩ := List.getElem?_eq_some_iff.mp here
      exact absurd same (Nat.ne_of_lt inside)
  · refine ⟨accounts.owned, accounts.aimed, targets true, fun other row rail' found same => ?_, kept true, accounts.apart,
      failed true, accounts.cap⟩
    have room := accounts.balance other row rail' found same
    rw [live]
    simpa using room

variable {f : Transfer → Transfer} {k : Nat}

theorem split_change (here : s.transfers[k]? = some t) :
    ∃ before after, s.transfers = before ++ t :: after ∧ (s.change k f).transfers = before ++ f t :: after := by
  obtain ⟨inside, rfl⟩ := List.getElem?_eq_some_iff.mp here
  refine ⟨s.transfers.take k, s.transfers.drop (k + 1), ?_, List.modify_eq_take_cons_drop inside⟩
  rw [← List.drop_eq_getElem_cons inside, List.take_append_drop]

theorem Accounts.change (accounts : Accounts s aims claims sending) (here : s.transfers[k]? = some t)
    (address : (f t).contractId = t.contractId) (aimed : ∀ claim ∈ claims', s.recorded claim.1 claim.2)
    (balance : ∀ id rail, s.recorded id rail → claims'.count (id, rail) + (if (f t).live rail then 1 else 0) ≤
      claims.count (id, rail) + if t.live rail then 1 else 0) (fewer : sending'.Sublist sending)
    (waiting : ∀ wait ∈ sending', wait.2 = k → (f t).failed = t.failed)
    (failed : (f t).failed = true → (f t).landed = false) : Accounts (s.change k f) aims claims' sending' := by
  obtain ⟨before, after, old, new⟩ := split_change (f := f) here
  refine ⟨accounts.owned, fun aim among => ?_, fun u among => ?_, fun id row rail found same => ?_, fun wait among => ?_,
    accounts.apart.sublist (fewer.map _), fun u among => ?_, accounts.cap⟩
  · rcases mem_append.mp among with known | claim
    · exact accounts.aimed aim (mem_append_left _ known)
    · exact aimed aim claim
  · show s.recorded u.contractId.owner u.contractId
    have targets := accounts.targets
    rw [old] at targets
    rw [new] at among
    rcases mem_append.mp among with first | rest
    · exact targets u (mem_append_left _ first)
    · rcases mem_cons.mp rest with rfl | last
      · rw [address]
        exact targets t (by simp)
      · exact targets u (mem_append_right _ (mem_cons_of_mem _ last))
  · have room := accounts.balance id row rail found same
    have change := balance id rail ⟨row, found, same⟩
    unfold Pilot.live at room ⊢
    rw [old] at room
    rw [new]
    simp only [List.countP_append, List.countP_cons] at room ⊢
    omega
  · obtain ⟨u, there, target, unfailed⟩ := accounts.waiting wait (fewer.subset among)
    show ∃ t, (s.transfers.modify k f)[wait.2]? = some t ∧ _
    rw [List.getElem?_modify, there]
    by_cases same : k = wait.2
    · obtain rfl := Option.some.inj ((same ▸ here).symm.trans there)
      refine ⟨f t, by simp [same], address.trans target, ?_⟩
      rw [waiting wait among same.symm, unfailed]
    · exact ⟨u, by simp [same], target, unfailed⟩
  · have never := accounts.failed
    rw [old] at never
    rw [new] at among
    rcases mem_append.mp among with first | rest
    · exact never u (mem_append_left _ first)
    · rcases mem_cons.mp rest with rfl | last
      · exact failed
      · exact never u (mem_append_right _ (mem_cons_of_mem _ last))

theorem change_none (absent : s.transfers[k]? = none) : s.change k f = s := by
  unfold Pilot.change
  rw [List.modify_eq_self (List.getElem?_eq_none_iff.mp absent)]

theorem Accounts.land (accounts : Accounts s aims claims sending) (sound : s.transfers[k]?.all (fun t => !t.failed) = true) :
    Accounts (s.change k fun t => { t with landed := true }) aims claims sending := by
  cases here : s.transfers[k]? with
  | none => rwa [change_none here]
  | some t =>
    have open_ : t.failed = false := by simpa [here] using sound
    refine accounts.change here rfl (fun claim among => accounts.aimed claim (mem_append_right _ among))
      (fun _ _ _ => Nat.le_refl _) (List.Sublist.refl _) (fun _ _ _ => rfl) fun fails => ?_
    cases open_.symm.trans fails

theorem Accounts.fail (accounts : Accounts s aims claims ((rail, k) :: sending)) (recorded : s.recorded id rail)
    (sound : s.transfers[k]?.all (fun t => !t.landed) = true) :
    Accounts (s.change k fun t => { t with failed := true }) aims ((id, rail) :: claims) sending := by
  obtain ⟨t, here, target, open_⟩ := accounts.waiting (rail, k) (by simp)
  have owner := accounts.owned id rail recorded
  refine accounts.change here rfl (fun claim among => ?_) (fun other rail' known => ?_) (List.sublist_cons_self ..)
    (fun wait among same => ?_) fun _ => by simpa [here] using sound
  · rcases mem_cons.mp among with rfl | old
    · exact recorded
    · exact accounts.aimed claim (mem_append_right _ old)
  · have dead : ({ t with failed := true } : Transfer).live rail' = false := by simp [Transfer.live]
    have alive : t.live rail' = decide (rail = rail') := by simp [Transfer.live, open_, show t.contractId = rail from target]
    rw [dead, alive, List.count_cons]
    by_cases here : rail = rail'
    · subst here
      obtain rfl := owner.symm.trans (accounts.owned other rail known)
      simp
    · simp [here]
  · have apart := (List.nodup_cons.mp accounts.apart).1
    exact absurd (List.mem_map_of_mem among) (same ▸ apart)

end

/-! ### What a call does -/

/-- Where a call stands: with nothing, before the claim of a rail that is recorded, with that claim, or with its transfer. -/
inductive Mode where
  | idle
  | facing (id : String) (rail : Rail)
  | claimed (id : String) (rail : Rail)
  | sent (id : String) (rail : Rail) (k : Nat)

def Mode.aim : Mode → Option (String × Rail)
  | .idle => none
  | .facing id rail => some (id, rail)
  | .claimed id rail => some (id, rail)
  | .sent id rail _ => some (id, rail)

def Mode.claim : Mode → Option (String × Rail)
  | .claimed id rail => some (id, rail)
  | _ => none

def Mode.sending : Mode → Option (Rail × Nat)
  | .sent _ rail k => some (rail, k)
  | _ => none

def may : Mode → Op → Prop
  | .idle, .findAgent _ => True
  | .idle, .countFundedRails => True
  | .idle, .readUsdcBalance _ => True
  | .idle, .fundWithFriendbot _ => True
  | .idle, .deployRailContract _ => True
  | .idle, .setAgentPolicyRail id rail => rail.owner = id
  | .facing id _, .claimRailFunding id' => id' = id
  | .claimed _ _, .buildTransfer _ => True
  | .claimed _ rail, .sendTransfer rail' => rail' = rail
  | .claimed id _, .releaseRailFunding id' => id' = id
  | .sent _ _ k, .confirmTransfer k' => k' = k
  | _, _ => False

/-- Where a call stands that faces an agent as it was read. -/
def faces (id : String) (row : AgentInstance) : Mode :=
  match row.policyRailContractId with
  | some rail => .facing id rail
  | none => .idle

def learns : Mode → (o : Op) → Except Thrown o.Answer → Mode
  | _, .findAgent id, .ok (some row) => faces id row
  | _, .setAgentPolicyRail id _, .ok row => faces id row
  | .facing id rail, .claimRailFunding _, .ok true => .claimed id rail
  | .facing _ _, .claimRailFunding _, _ => .idle
  | .claimed id rail, .sendTransfer _, .ok k => .sent id rail k
  | .claimed _ _, .releaseRailFunding _, _ => .idle
  | .sent _ _ _, .confirmTransfer _, .ok _ => .idle
  | .sent id rail _, .confirmTransfer _, .error _ => .claimed id rail
  | m, _, _ => m

/-- A rail is of the agent that deploys it, and an agent has one once one is recorded for it. -/
def expects : (o : Op) → Except Thrown o.Answer → Prop
  | .deployRailContract id, .ok rail => rail.owner = id
  | .setAgentPolicyRail _ _, .ok row => row.policyRailContractId.isSome = true
  | _, _ => True

def accounts : Discipline Pilot Op Thrown Op.Answer Mode where
  sync _ _ _ _ := False
  ask m o m' := m' = m ∧ may m o
  expects := expects
  answer := learns

section
variable {reserve} {id : String} {rail : Rail} {Q : Mode → Except Thrown Unit → Prop}

theorem follows_requireSponsoredCredit (ok : Q .idle (.ok ())) (fails : ∀ e, Q .idle (.error e)) :
    Follows accounts .idle (requireSponsoredCredit reserve) Q := by
  apply Follows.bind
  refine follows_ask ⟨rfl, trivial⟩ fun answer _ => ?_
  cases answer with
  | error e => exact fails e
  | ok funded =>
    show Follows accounts .idle (if funded ≥ MAX_SPONSORED_RAILS then _ else _) Q
    by_cases full : funded ≥ MAX_SPONSORED_RAILS
    · rw [if_pos full]
      exact fails _
    · rw [if_neg full]
      apply Follows.bind
      refine follows_ask ⟨rfl, trivial⟩ fun answer _ => ?_
      cases answer with
      | error e => exact fails e
      | ok balance =>
        show Follows accounts .idle (if balance.2.any (· < INITIAL_FUNDING) then _ else _) Q
        by_cases low : balance.2.any (· < INITIAL_FUNDING)
        · rw [if_pos low]
          exact fails _
        · rw [if_neg low]
          exact ok

theorem follows_fundRailBalance (ok : Q .idle (.ok ())) (fails : ∀ e, Q (.claimed id rail) (.error e)) :
    Follows accounts (.claimed id rail) (fundRailBalance reserve rail) Q := by
  apply Follows.bind
  refine follows_ask ⟨rfl, trivial⟩ fun answer _ => ?_
  cases answer with
  | error e => exact fails e
  | ok _ =>
    apply Follows.bind
    apply Follows.attempt
    apply Follows.bind
    refine follows_ask ⟨rfl, rfl⟩ fun answer _ => ?_
    cases answer with
    | error e => exact fails _
    | ok k =>
      refine follows_ask ⟨rfl, rfl⟩ fun answer _ => ?_
      cases answer with
      | error e => exact fails _
      | ok _ => exact ok

theorem follows_fundRailOnce (ok : Q .idle (.ok ())) (fails : ∀ e, Q .idle (.error e)) :
    Follows accounts (.facing id rail) (fundRailOnce reserve id rail) Q := by
  apply Follows.bind
  refine follows_ask ⟨rfl, rfl⟩ fun answer _ => ?_
  cases answer with
  | error e => exact fails e
  | ok claimed =>
    cases claimed with
    | false => exact ok
    | true =>
      apply Follows.bind
      apply Follows.attempt
      refine follows_fundRailBalance ok fun e => ?_
      apply Follows.bind
      apply Follows.attempt
      exact follows_ask ⟨rfl, rfl⟩ fun _ _ => fails e

theorem follows_body (agentId : String) : Obeys accounts .idle (body reserve agentId) := by
  apply Follows.bind
  refine follows_ask ⟨rfl, trivial⟩ fun answer _ => ?_
  cases answer with
  | error e => trivial
  | ok found =>
    cases found with
    | none => trivial
    | some row =>
      show Follows accounts (faces agentId row) (ensureTenantPolicyRail reserve agentId row) _
      obtain ⟨existing, fundedAt⟩ := row
      cases existing with
      | some rail =>
        show Follows accounts (.facing agentId rail) (if fundedAt.isNone then _ else _) _
        by_cases unfunded : fundedAt.isNone
        · rw [if_pos unfunded]
          apply Follows.bind
          exact follows_fundRailOnce trivial fun _ => trivial
        · rw [if_neg unfunded]
          trivial
      | none =>
        apply Follows.bind (r := requireSponsoredCredit reserve)
        refine follows_requireSponsoredCredit ?_ fun _ => trivial
        apply Follows.bind (r := Routine.ask (Op.fundWithFriendbot agentId))
        refine follows_ask ⟨rfl, trivial⟩ fun answer _ => ?_
        cases answer with
        | error e => trivial
        | ok _ =>
          apply Follows.bind (r := Routine.ask (Op.deployRailContract agentId))
          refine follows_ask ⟨rfl, trivial⟩ fun answer own => ?_
          cases answer with
          | error e => trivial
          | ok contractId =>
            apply Follows.bind (r := Routine.ask (Op.setAgentPolicyRail agentId contractId))
            refine follows_ask ⟨rfl, own⟩ fun answer recorded => ?_
            cases answer with
            | error e => trivial
            | ok persisted =>
              obtain ⟨actual, same⟩ := Option.isSome_iff_exists.mp recorded
              show Follows accounts (faces agentId persisted) _ _
              unfold faces
              rw [same]
              apply Follows.bind (r := fundRailOnce reserve agentId _)
              rw [same]
              exact follows_fundRailOnce trivial fun _ => trivial

end

/-! ### Every run -/

/-- The accounts with one call in a mode, beside what the other calls have. -/
abbrev In (s : Pilot) (m : Mode) (aims claims : List (String × Rail)) (sending : List (Rail × Nat)) : Prop :=
  Accounts s (m.aim.toList ++ aims) (m.claim.toList ++ claims) (m.sending.toList ++ sending)

section
variable {s s' : Pilot} {aims claims : List (String × Rail)} {sending : List (Rail × Nat)} {id : String} {rail : Rail}
  {input : Input}

theorem In.reads {row : AgentInstance} (accounts : Accounts s aims claims sending) (found : s.agents.lookup id = some row) :
    In s (faces id row) aims claims sending := by
  unfold faces
  cases same : row.policyRailContractId with
  | none => exact accounts
  | some rail => exact accounts.aim ⟨row, found, same⟩

variable {m : Mode} {answer : Except Thrown Unit}

theorem In.idle (accounts : In s m aims claims sending) : In s .idle aims claims sending :=
  accounts.fewer (fun _ among => mem_append_right _ among) (List.sublist_append_right ..).subperm
    (List.sublist_append_right ..).subperm

theorem In.findAgent {answer : Except Thrown (Option AgentInstance)} (accounts : In s .idle aims claims sending)
    (served : serve (.findAgent id) input s = some (answer, s')) :
    In s' (learns .idle (.findAgent id) answer) aims claims sending := by
  cases input with
  | fails e =>
    cases served
    exact accounts
  | done now =>
    cases served
    cases found : s.agents.lookup id with
    | none => exact accounts
    | some row => exact In.reads accounts found
  | _ => cases served

theorem In.setAgentPolicyRail {answer : Except Thrown AgentInstance} (accounts : In s .idle aims claims sending)
    (own : rail.owner = id) (served : serve (.setAgentPolicyRail id rail) input s = some (answer, s')) :
    In s' (learns .idle (.setAgentPolicyRail id rail) answer) aims claims sending := by
  -- Whether the call learns of it or not, the directory has done its work.
  have worked : In (s.setAgentPolicyRail id rail).2
      (learns .idle (.setAgentPolicyRail id rail) (s.setAgentPolicyRail id rail).1) aims claims sending := by
    rcases setAgentPolicyRail_cases s id rail with ⟨e, same⟩ | ⟨row, known, found, _, same⟩ | ⟨row, found, free, same⟩
    · rw [same]
      exact accounts
    · rw [same]
      exact In.reads accounts found
    · rw [same]
      exact In.reads (accounts.record found free own) (by rw [lookup_set, if_pos rfl])
  cases input with
  | fails e =>
    cases served
    exact accounts
  | lost e now =>
    cases served
    exact In.idle worked
  | done now =>
    obtain ⟨rfl, rfl⟩ : (s.setAgentPolicyRail id rail).1 = answer ∧ (s.setAgentPolicyRail id rail).2 = s' := by
      simpa [serve, Prod.ext_iff] using served
    exact worked
  | _ => cases served

theorem In.claimRailFunding {answer : Except Thrown Bool} (accounts : In s (.facing id rail) aims claims sending)
    (sound : fair (.claimRailFunding id) input s = true) (served : serve (.claimRailFunding id) input s = some (answer, s')) :
    In s' (learns (.facing id rail) (.claimRailFunding id) answer) aims claims sending := by
  have timeless : ∀ now, (s.claimRailFunding id now).1 = (s.claimRailFunding id 0).1 := by
    intro now
    unfold Pilot.claimRailFunding
    cases s.agents.lookup id with
    | none => rfl
    | some row =>
      simp only
      split_ifs <;> rfl
  have worked : ∀ now told, (told = true → (s.claimRailFunding id now).1 = true) →
      In (s.claimRailFunding id now).2 (if told then .claimed id rail else .facing id rail) aims claims sending := by
    intro now told tells
    cases claimed : (s.claimRailFunding id now).1 with
    | false =>
      have untold : told = false := by
        by_contra told
        rw [tells (by simpa using told)] at claimed
        cases claimed
      rcases claimRailFunding_cases s id now with same | ⟨_, _, _, _, _, same⟩
      · rw [same, untold]
        exact accounts
      · rw [same] at claimed
        cases claimed
    | true =>
      have below : s.countFundedRails < MAX_SPONSORED_RAILS := by
        simpa [fair, ← timeless now, claimed] using sound
      have after := Accounts.claim accounts claimed below told
      cases told <;> exact after
  cases input with
  | fails e =>
    cases served
    exact In.idle accounts
  | lost e now =>
    cases served
    exact In.idle (worked now false (fun impossible => nomatch impossible))
  | done now =>
    cases served
    cases claimed : (s.claimRailFunding id now).1 with
    | false => exact In.idle (worked now false (fun impossible => nomatch impossible))
    | true => exact worked now true fun _ => claimed
  | _ => cases served

theorem In.sendTransfer {answer : Except Thrown Nat} (accounts : In s (.claimed id rail) aims claims sending)
    (served : serve (.sendTransfer rail) input s = some (answer, s')) :
    In s' (learns (.claimed id rail) (.sendTransfer rail) answer) aims claims sending := by
  obtain ⟨sent, failed⟩ := Accounts.submit accounts
  cases input with
  | fails e =>
    cases served
    exact accounts
  | lost e now =>
    cases served
    exact failed
  | done now =>
    cases served
    exact sent
  | _ => cases served

theorem In.releaseRailFunding (accounts : In s (.claimed id rail) aims claims sending)
    (served : serve (.releaseRailFunding id) input s = some (answer, s')) :
    In s' (learns (.claimed id rail) (.releaseRailFunding id) answer) aims claims sending := by
  have worked : In (s.releaseRailFunding id) .idle aims claims sending :=
    In.idle (m := .facing id rail) (Accounts.release accounts)
  cases input with
  | fails e =>
    cases served
    exact In.idle accounts
  | lost e now =>
    cases served
    exact worked
  | done now =>
    cases served
    exact worked
  | _ => cases served

theorem In.confirmTransfer {k : Nat} (accounts : In s (.sent id rail k) aims claims sending)
    (sound : fair (.confirmTransfer k) input s = true) (served : serve (.confirmTransfer k) input s = some (answer, s')) :
    In s' (learns (.sent id rail k) (.confirmTransfer k) answer) aims claims sending := by
  cases input with
  | fails e =>
    cases served
    exact Accounts.fail accounts (accounts.aimed (id, rail) (by simp [Mode.aim])) sound
  | done now =>
    by_cases landed : s.transfers[k]?.any (·.landed) = true
    · obtain ⟨rfl, rfl⟩ : Except.ok () = answer ∧ s = s' := by simpa [serve, landed] using served
      exact In.idle accounts
    · simp [serve, landed] at served
  | _ => cases served

theorem In.served {o : Op} {answer : Except Thrown o.Answer} (accounts : In s m aims claims sending) (asks : may m o)
    (sound : fair o input s = true) (served : serve o input s = some (answer, s')) :
    In s' (learns m o answer) aims claims sending := by
  cases m with
  | idle =>
    cases o with
    | findAgent id => exact accounts.findAgent served
    | setAgentPolicyRail id rail => exact accounts.setAgentPolicyRail asks served
    | countFundedRails => cases input <;> cases served <;> exact accounts
    | readUsdcBalance address => cases input <;> cases served <;> exact accounts
    | fundWithFriendbot id => cases input <;> cases served <;> exact accounts
    | deployRailContract id =>
      cases input with
      | deployed salt =>
        cases served
        exact accounts
      | _ => cases served <;> exact accounts
    | _ => cases asks
  | facing id rail =>
    cases o with
    | claimRailFunding id' =>
      obtain rfl : id' = id := asks
      exact accounts.claimRailFunding sound served
    | _ => cases asks
  | claimed id rail =>
    cases o with
    | buildTransfer rail' => cases input <;> cases served <;> exact accounts
    | sendTransfer rail' =>
      obtain rfl : rail' = rail := asks
      exact accounts.sendTransfer served
    | releaseRailFunding id' =>
      obtain rfl : id' = id := asks
      exact accounts.releaseRailFunding served
    | _ => cases asks
  | sent id rail k =>
    cases o with
    | confirmTransfer k' =>
      obtain rfl : k' = k := asks
      exact accounts.confirmTransfer sound served
    | _ => cases asks

end

variable {s : Pilot} {o : Op} {input : Input} {actions : List Act} {id : String} {rail : Rail}
   {answer : Except Thrown o.Answer}

theorem served_expects {s' : Pilot} (served : serve o input s = some (answer, s')) : expects o answer := by
  cases o with
  | setAgentPolicyRail id contractId =>
    cases answer with
    | error e => trivial
    | ok row =>
      cases input with
      | done now =>
        have result : (s.setAgentPolicyRail id contractId).1 = .ok row := congrArg Prod.fst (Option.some.inj served)
        rcases setAgentPolicyRail_cases s id contractId with ⟨e, same⟩ | ⟨row', rail, _, has, same⟩ | ⟨row', _, _, same⟩
        · rw [same] at result
          cases result
        · rw [same] at result
          cases result
          exact Option.isSome_iff_exists.mpr ⟨rail, has⟩
        · rw [same] at result
          cases result
          rfl
      | _ => cases served
  | deployRailContract id => cases input <;> cases served <;> first | exact rfl | trivial
  | _ => cases answer <;> trivial

abbrev Modes := List (String × Option Mode)

/-- The accounts of all calls. -/
def Kept (s : Pilot) (ms : Modes) : Prop := Accounts s (pick Mode.aim ms) (pick Mode.claim ms) (pick Mode.sending ms)

section
variable {s s' : Pilot} {ms : Modes} {i : Nat} {c : String} {m m' : Mode}

theorem Kept.at_ (kept : Kept s ms) (here : ms[i]? = some (c, some m)) :
    In s m (pick Mode.aim (ms.eraseIdx i)) (pick Mode.claim (ms.eraseIdx i)) (pick Mode.sending (ms.eraseIdx i)) :=
  Accounts.congr kept (pick_at Mode.aim here) (pick_at Mode.claim here) (pick_at Mode.sending here)

theorem In.kept (accounts : In s m' (pick Mode.aim (ms.eraseIdx i)) (pick Mode.claim (ms.eraseIdx i))
    (pick Mode.sending (ms.eraseIdx i))) (here : ms[i]? = some (c, some m)) : Kept s (ms.set i (c, some m')) :=
  Accounts.congr accounts (pick_set Mode.aim here (some m')).symm (pick_set Mode.claim here (some m')).symm
    (pick_set Mode.sending here (some m')).symm

theorem Kept.over (kept : Kept s ms) (here : ms[i]? = some (c, some m)) : Kept s (ms.set i (c, none)) :=
  Accounts.congr (In.idle (kept.at_ here)) (pick_set Mode.aim here none).symm (pick_set Mode.claim here none).symm
    (pick_set Mode.sending here none).symm

end

theorem keeps_accounts : Keeps (host reserve) accounts (fun _ _ _ => True) (fun s ms _ => Kept s ms) (fun _ s ms _ => Kept s ms)
    fun w _ a => sound w a = true where
  start {w ms t c} holds aligned _ := by
    refine ⟨.idle, follows_body c, ?_⟩
    unfold Kept
    rw [pick_append rfl, pick_append rfl, pick_append rfl]
    exact holds
  resume holds _ _ := holds
  sync _ _ impossible := impossible.elim
  ask {s ms t i c m o m' w a calls} holds here asks _ _ _ := by
    obtain ⟨rfl, _⟩ := asks
    rw [set_same here]
    exact holds
  serve {w ms t i c m m₀ o rest input answer s'} holds aligned mode here sounds asks served := by
    obtain ⟨rfl, may⟩ := asks
    have fair : fair o input w.shared = true := by simpa [sound, here] using sounds
    have after := In.served (Kept.at_ holds mode) may fair served
    exact ⟨served_expects served, after.kept mode⟩
  finish holds here _ _ _ := Kept.over holds here
  outside {w ms t k} holds sounds := by
    cases k with
    | lands k => exact Accounts.land holds sounds
    | createAgent id =>
      show Kept (if (w.shared.agents.lookup id).isSome then w.shared else w.shared.set id ⟨none, none⟩) ms
      by_cases known : (w.shared.agents.lookup id).isSome
      · rwa [if_pos known]
      · rw [if_neg known]
        exact Accounts.create holds (by simpa using known)
  crash {w ms t} holds _ _ := by
    unfold Kept
    rw [pick_killed, pick_killed, pick_killed]
    exact Accounts.fewer holds (by simp) (List.nil_subperm) (List.nil_subperm)

/-- Every step of a run is sound. -/
def Sound (actions : List Act) : Prop := ∀ before a after, actions = before ++ a :: after → sound (run reserve before) a = true

theorem run_accounts (good : Sound reserve actions) :
    ∃ aims claims sending, Accounts (run reserve actions).shared aims claims sending := by
  have start : Holds accounts (fun _ _ _ => True) (fun s ms _ => Kept s ms) started [] :=
    ⟨[], accounts_started, aligned_nil⟩
  obtain ⟨ms, kept, _⟩ := kept_along (keeps_accounts reserve) start actions good
  exact ⟨_, _, _, kept⟩

/-! ### What has been sponsored -/

def Pilot.received (s : Pilot) (rail : Rail) : Nat := s.transfers.countP fun t => decide (t.contractId = rail) && t.landed

def Pilot.sponsored (s : Pilot) : List Rail := ((s.transfers.filter (·.landed)).map Transfer.contractId).dedup

section
variable {s : Pilot} {aims claims : List (String × Rail)} {sending : List (Rail × Nat)}

theorem Accounts.received_le (accounts : Accounts s aims claims sending) (rail : Rail) : s.received rail ≤ s.live rail := by
  refine List.countP_mono_left fun t among landed => ?_
  simp only [Bool.and_eq_true, decide_eq_true_eq] at landed
  have unfailed : t.failed = false := by
    by_contra failed
    rw [Bool.not_eq_false] at failed
    cases landed.2.symm.trans (accounts.failed t among failed)
  simp [Transfer.live, landed.1, unfailed]

theorem Accounts.funded (accounts : Accounts s aims claims sending) {rail : Rail} (received : 0 < s.received rail) :
    ∃ row, s.agents.lookup rail.owner = some row ∧ row.policyRailContractId = some rail ∧
      row.policyRailFundedAt.isSome = true ∧ s.received rail ≤ 1 := by
  obtain ⟨t, among, landed⟩ := List.countP_pos_iff.mp received
  simp only [Bool.and_eq_true, decide_eq_true_eq] at landed
  obtain ⟨row, found, same⟩ := accounts.targets t among
  rw [landed.1] at found same
  have room := accounts.balance _ row rail found same
  have most := accounts.received_le rail
  by_cases funded : row.policyRailFundedAt.isSome = true
  · rw [if_pos funded] at room
    exact ⟨row, found, same, funded, by omega⟩
  · rw [if_neg funded] at room
    omega

theorem total_funded (list : List (Sigma fun _ : String => AgentInstance)) :
    (list.map fun e => AgentInstance.funded e.2).sum = ((list.filter fun e => e.2.policyRailFundedAt.isSome).length : Int) := by
  induction list with
  | nil => rfl
  | cons e rest ih =>
    rw [List.map_cons, List.sum_cons, ih, List.filter_cons]
    unfold AgentInstance.funded
    by_cases funded : e.2.policyRailFundedAt.isSome = true
    · simp [funded]
      omega
    · simp [funded]

/-- There are at most as many sponsored rails as there are agents marked as funded. -/
theorem Accounts.sponsored_le (accounts : Accounts s aims claims sending) :
    (s.sponsored.length : Int) ≤ s.countFundedRails := by
  have counted : s.countFundedRails = ((s.agents.entries.filter fun e => e.2.policyRailFundedAt.isSome).length : Int) :=
    total_funded _
  have among : s.sponsored ⊆ (s.agents.entries.filter fun e => e.2.policyRailFundedAt.isSome).filterMap fun e =>
      e.2.policyRailContractId := by
    intro rail member
    obtain ⟨t, landed, rfl⟩ := mem_map.mp (List.mem_dedup.mp member)
    have received : 0 < s.received t.contractId := by
      refine List.countP_pos_iff.mpr ⟨t, (mem_filter.mp landed).1, ?_⟩
      simpa using (mem_filter.mp landed).2
    obtain ⟨row, found, same, funded, _⟩ := accounts.funded received
    refine List.mem_filterMap.mpr ⟨⟨t.contractId.owner, row⟩, mem_filter.mpr ⟨?_, funded⟩, same⟩
    exact AList.mem_lookup_iff.mp found
  have fewer := (List.subperm_of_subset (List.nodup_dedup _) among).length_le
  have less := List.length_filterMap_le (fun e : Sigma fun _ : String => AgentInstance => e.2.policyRailContractId)
    (s.agents.entries.filter fun e => e.2.policyRailFundedAt.isSome)
  unfold Pilot.sponsored at fewer ⊢
  omega

end

theorem recorded_served {s' : Pilot} (recorded : s.recorded id rail)
    (served : serve o input s = some (answer, s')) : s'.recorded id rail := by
  have marked : ∀ {other row} (fundedAt : Option Int), s.agents.lookup other = some row →
      (s.set other { row with policyRailFundedAt := fundedAt }).recorded id rail := by
    intro other row fundedAt found
    exact recorded_set { row with policyRailFundedAt := fundedAt } found (fun _ same => same) recorded
  have set : ∀ other contractId, (s.setAgentPolicyRail other contractId).2.recorded id rail := by
    intro other contractId
    rcases setAgentPolicyRail_cases s other contractId with ⟨e, same⟩ | ⟨row, known, _, _, same⟩ | ⟨row, found, free, same⟩
    · rw [same]
      exact recorded
    · rw [same]
      exact recorded
    · rw [same]
      exact recorded_set { row with policyRailContractId := some contractId } found (fun _ has => nomatch free.symm.trans has)
        recorded
  have claim : ∀ other now, (s.claimRailFunding other now).2.recorded id rail := by
    intro other now
    rcases claimRailFunding_cases s other now with same | ⟨row, _, found, _, _, same⟩
    · rw [same]
      exact recorded
    · rw [same]
      exact marked (some now) found
  have release : ∀ other, (s.releaseRailFunding other).recorded id rail := by
    intro other
    unfold Pilot.releaseRailFunding
    cases found : s.agents.lookup other with
    | none => exact recorded
    | some row => exact marked none found
  cases o with
  | setAgentPolicyRail other contractId =>
    cases input with
    | done now =>
      have same : (s.setAgentPolicyRail other contractId).2 = s' := congrArg Prod.snd (Option.some.inj served)
      exact same ▸ set other contractId
    | _ => cases served <;> first | exact recorded | exact set other contractId
  | claimRailFunding other => cases input <;> cases served <;> first | exact recorded | exact claim other _
  | releaseRailFunding other => cases input <;> cases served <;> first | exact recorded | exact release other
  | confirmTransfer k =>
    cases input with
    | done now =>
      by_cases landed : s.transfers[k]?.any (·.landed) = true
      · obtain ⟨_, rfl⟩ : Except.ok () = answer ∧ s = s' := by simpa [serve, landed] using served
        exact recorded
      · simp [serve, landed] at served
    | _ => cases served <;> exact recorded
  | _ => cases input <;> cases served <;> exact recorded

theorem recorded_outside (recorded : s.recorded id rail) (k : Elsewhere) : (outside k s).recorded id rail := by
  cases k with
  | lands k => exact recorded
  | createAgent other =>
    show (if (s.agents.lookup other).isSome then s else s.set other ⟨none, none⟩).recorded id rail
    by_cases known : (s.agents.lookup other).isSome
    · rwa [if_pos known]
    · rw [if_neg known]
      obtain ⟨row, found, same⟩ := recorded
      refine ⟨row, ?_, same⟩
      rw [lookup_set, if_neg, found]
      rintro rfl
      exact known (by rw [found]; rfl)

theorem keeps_shared {P : Pilot → Prop}
    (served : ∀ {s s' : Pilot} {o : Op} {input : Input} {answer : Except Thrown o.Answer}, P s →
      serve o input s = some (answer, s') → P s') (elsewhere : ∀ {s} k, P s → P (outside k s)) :
    Keeps (host reserve) accounts (fun _ _ _ => True) (fun s _ _ => P s) (fun _ s _ _ => P s) fun _ _ _ => True where
  start {_ _ _ c} holds _ _ := ⟨.idle, follows_body c, holds⟩
  resume holds _ _ := holds
  sync _ _ impossible := impossible.elim
  ask holds _ _ _ _ _ := holds
  serve holds _ _ _ _ _ answered := ⟨served_expects answered, served holds answered⟩
  finish holds _ _ _ _ := holds
  outside holds _ := elsewhere _ holds
  crash holds _ _ := holds

theorem rail_stays {before : List Act} (after : List Act)
    (recorded : (run reserve before).shared.recorded id rail) : (run reserve (before ++ after)).shared.recorded id rail := by
  have start : Holds accounts (fun _ _ _ => True) (fun _ _ _ => True) started [] := ⟨[], trivial, aligned_nil⟩
  obtain ⟨ms, _, aligned⟩ := kept_along (keeps_shared reserve (fun _ _ => trivial) fun _ _ => trivial) start before
    fun _ _ _ _ => trivial
  have now : Holds accounts (fun _ _ _ => True) (fun s _ _ => s.recorded id rail) (run reserve before) [] :=
    ⟨ms, recorded, aligned⟩
  obtain ⟨_, kept, _⟩ := kept_along (keeps_shared reserve recorded_served fun k holds => recorded_outside holds k) now after
    fun _ _ _ _ => trivial
  rw [run, Traces.exec_append]
  exact kept

/-- In a run whose steps are sound, each rail receives at most one transfer, the rails that ever received one are no more
    than the pilot sponsors, and an agent's rail stays its rail. -/
theorem sponsored_once (actions : List Act) (good : Sound reserve actions) :
    (∀ rail, (run reserve actions).shared.received rail ≤ 1) ∧
    (run reserve actions).shared.sponsored.length ≤ MAX_SPONSORED_RAILS ∧
    ∀ before after id rail rail', actions = before ++ after → (run reserve before).shared.recorded id rail →
      (run reserve actions).shared.recorded id rail' → rail' = rail := by
  obtain ⟨aims, claims, sending, accounts⟩ := run_accounts reserve good
  refine ⟨fun rail => ?_, ?_, ?_⟩
  · by_cases received : 0 < (run reserve actions).shared.received rail
    · obtain ⟨_, _, _, _, once⟩ := accounts.funded received
      exact once
    · omega
  · have few := accounts.sponsored_le
    have cap := accounts.cap
    omega
  · rintro before after id rail rail' rfl recorded now
    obtain ⟨row, found, same⟩ := rail_stays reserve after recorded
    obtain ⟨row', found', same'⟩ := now
    obtain rfl := Option.some.inj (found.symm.trans found')
    exact Option.some.inj (same'.symm.trans same)

theorem sound_of_along
    (all : Traces.along (step (host reserve)) (fun w _ a => sound w a) started [] actions = true) : Sound reserve actions :=
  Traces.along_run all

def pilot : Reserve := ⟨"GRESERVE", fun rail => rail.salt⟩

def answered (i : Nat) (inputs : List Input) : List Act := inputs.flatMap fun input => [.perform i input, .resume i]

def first (i : Nat) (salt : String) : List Act :=
  answered i [.done 0, .done 0, .balance "100.0000000" (some 1000000000), .done 0, .deployed salt, .done 0, .done 1, .done 1, .done 1]

def funded : List Act :=
  ([.outside (.createAgent "a"), .start "a"] : List Act) ++ first 0 "x" ++ ([.outside (.lands 0)] : List Act) ++
    answered 0 [.done 2]

theorem funded_once : (run pilot funded).shared.sponsored = [⟨"a", "x"⟩] ∧
    (run pilot funded).shared.received ⟨"a", "x"⟩ ≤ 1 :=
  ⟨by decide, (sponsored_once pilot funded (sound_of_along pilot (by decide))).1 ⟨"a", "x"⟩⟩

def timeout : Thrown := .AgentPassError "NetworkError" "the transaction was not found in time" []

/-- A transfer lands, and is reported as failed: the claim is given back, and the next purchase funds the rail again. -/
def fundedTwice : List Act :=
  ([.outside (.createAgent "a"), .start "a"] : List Act) ++ first 0 "x" ++ ([.outside (.lands 0)] : List Act) ++
    answered 0 [.fails timeout, .done 2] ++ ([.start "a"] : List Act) ++ answered 1 [.done 3, .done 3, .done 3, .done 3] ++
    ([.outside (.lands 1)] : List Act) ++ answered 1 [.done 4]

theorem paid_twice : (run pilot fundedTwice).shared.received ⟨"a", "x"⟩ = 2 ∧
    (run pilot fundedTwice).shared.sponsored = [⟨"a", "x"⟩] := by
  decide

end AgentPey.SponsoredRails
