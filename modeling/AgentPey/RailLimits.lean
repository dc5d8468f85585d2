import AgentPey.PolicyRail

/-!
The limits of the policy rail. What the hook grants in one UTC day never adds up
to more than `per_day`, because the counter of that day holds exactly the sum of
the day's grants as long as the network keeps the entry (`Counted`).
-/
namespace AgentPey.RailLimits
open Soroban Store Tokens PolicyRail
open TemporaryStorage (extend_ttl get_eq_none get_of_live lookup_extend_set lookup_extend_set_ne set)

variable {host : Host}

def Grant.amount (g : Grant) : Int :=
  match g.auth_contexts with
  | [.Contract call] => (call.args[2]? >>= Val.toI128).getD 0
  | _ => 0

def ofDay (day : UInt64) (t : List Grant) : List Grant := t.filter (fun g => decide (g.env.day = day))

def spentIn (day : UInt64) (t : List Grant) : Int := ((ofDay day t).map Grant.amount).sum

theorem ofDay_append (day : UInt64) (t t' : List Grant) : ofDay day (t ++ t') = ofDay day t ++ ofDay day t' :=
  List.filter_append ..

theorem spentIn_append (day : UInt64) (t t' : List Grant) : spentIn day (t ++ t') = spentIn day t + spentIn day t' := by
  simp [spentIn, ofDay_append]

/-- A grant as the rail may give it: one transfer of its asset from itself, signed by
    the owner in force, within the limit of a transfer and before the end. -/
structure Proper (w : World host) (config : Config) (g : Grant) : Prop where
  current : w.config = some config
  inTime : g.env.timestamp ≤ config.valid_until
  signed : ∃ signature, g.signatures = [⟨config.owner, signature⟩] ∧
    host.ed25519_verify config.owner g.signature_payload signature = true
  invocation : ∃ dst n, g.auth_contexts =
    [.Contract ⟨config.asset, TRANSFER_FN, [.address w.current_contract_address, dst, .i128 n]⟩]
  positive : 0 < Grant.amount g
  perTx : Grant.amount g ≤ config.per_tx

/-- What the hook checks and what it writes. -/
structure Authorises (w : World host) (config : Config) (g : Grant) (w' : World host) : Prop where
  proper : Proper w config g
  fits : InI128 (spent_on w g.env g.env.day + Grant.amount g)
  perDay : spent_on w g.env g.env.day + Grant.amount g ≤ config.per_day
  world : w' =
    { w with
      spent := extend_ttl
        (set host.min_temp_entry_ttl w.spent g.env.sequence g.env.day
          (spent_on w g.env g.env.day + Grant.amount g))
        g.env.sequence g.env.day SPEND_ENTRY_TTL_THRESHOLD SPEND_ENTRY_TTL_EXTEND_TO }

section
variable {w w' : World host} {env : Env}

theorem only_eq_some {α : Type} {l : List α} {a : α} : only l = some a ↔ l = [a] := by
  match l with
  | [] => simp [only]
  | [b] => simp [only]
  | _ :: _ :: _ => simp [only]

theorem toContract_eq_some {context : Context} {call : ContractContext} :
    context.toContract = some call ↔ context = .Contract call := by
  cases context <;> simp [Context.toContract]

variable {v : Val} {config : Config} {payload : Bytes} {signatures : List Signature} {contexts : List Context}

theorem toAddress_eq_some {a : Address} : v.toAddress = some a ↔ v = .address a := by
  cases v <;> simp [Val.toAddress]

theorem toI128_eq_some {n : Int} : v.toI128 = some n ↔ ∃ m, m.1 = n ∧ v = .i128 m := by
  cases v with
  | i128 m =>
    constructor
    · intro found
      exact ⟨m, Option.some.inj found, rfl⟩
    · rintro ⟨m', rfl, same⟩
      cases same
      rfl
  | _ => simp [Val.toI128]

theorem check_signature_ok {u : PUnit} (ran : check_signature host config payload signatures = .ok u) :
    ∃ signature, signatures = [⟨config.owner, signature⟩] ∧
      host.ed25519_verify config.owner payload signature = true := by
  simp only [check_signature, bind_eq_ok, failIf_eq_ok, okOr_eq_ok, only_eq_some, not_not] at ran
  obtain ⟨⟨key, signature⟩, one, _, owner, verified⟩ := ran
  have owner : key = config.owner := owner
  subst owner
  exact ⟨signature, one, by simpa using verified⟩

theorem check_invocation_ok {amount : Int} (ran : check_invocation w config contexts = .ok amount) :
    0 < amount ∧ ∃ dst n, n.1 = amount ∧ contexts =
      [.Contract ⟨config.asset, TRANSFER_FN, [.address w.current_contract_address, dst, .i128 n]⟩] := by
  simp only [check_invocation, bind_eq_ok, failIf_eq_ok, okOr_eq_ok, only_eq_some, toContract_eq_some, not_or,
    not_not] at ran
  obtain ⟨_, one, ⟨contract, fn_name, args⟩, rfl, _, shape, payer, first, _, rfl, found, third, _, positive, last⟩ := ran
  cases last
  obtain ⟨rfl, rfl, three⟩ := shape
  refine ⟨Int.not_le.mp positive, ?_⟩
  -- three arguments, of which the second may be anything
  obtain ⟨a, dst, c, rfl⟩ := List.length_eq_three.mp three
  obtain rfl := toAddress_eq_some.mp first
  obtain ⟨n, same, rfl⟩ := toI128_eq_some.mp third
  exact ⟨dst, n, same, one⟩

theorem check_auth_ok (ran : check_auth env w payload signatures contexts = .ok w') :
    ∃ config, Authorises w config ⟨env, payload, signatures, contexts⟩ w' := by
  simp only [check_auth, load, bind_eq_ok, okOr_eq_ok, failIf_eq_ok, checked_add_eq_some] at ran
  obtain ⟨config, found, _, inTime, _, signed, amount, called, _, perTx, _, ⟨fits, rfl⟩, _, perDay, last⟩ := ran
  cases last
  obtain ⟨positive, dst, n, rfl, rfl⟩ := check_invocation_ok called
  refine ⟨config, ⟨found, by simpa using inTime, check_signature_ok signed, ⟨dst, n, rfl⟩, positive, ?_⟩, fits, ?_, rfl⟩
  · exact Int.not_lt.mp perTx
  · exact Int.not_lt.mp perDay

/-- What a successful call is: a grant, a withdrawal or a new owner. -/
inductive Effect (w : World host) (env : Env) : Call → World host → Prop
  | granted {payload : Bytes} {signatures : List Signature} {contexts : List Context} {w' : World host} {config : Config}
      (authorises : Authorises w config ⟨env, payload, signatures, contexts⟩ w') :
      Effect w env (.check_auth payload signatures contexts) w'
  | withdrawn {dst : Address} {amount : Int} {config : Config} {token : host.token.State}
      (current : w.config = some config) (principal : env.authorised config.principal = true) (positive : 0 < amount)
      (moved : host.token.transfer w.token w.current_contract_address dst amount = some token) :
      Effect w env (.withdraw dst amount) { w with token }
  | rotated {new_owner : BytesN 32} {config : Config} (current : w.config = some config)
      (principal : env.authorised config.principal = true) :
      Effect w env (.set_owner new_owner) { w with config := some { config with owner := new_owner } }

theorem invoke_cases {call : Call} (ran : invoke env call w = .ok w') : Effect w env call w' := by
  cases call with
  | check_auth payload signatures contexts =>
    obtain ⟨config, authorises⟩ := check_auth_ok ran
    exact .granted authorises
  | withdraw dst amount =>
    simp only [invoke, withdraw, load, require_auth, bind_eq_ok, okOr_eq_ok, failIf_eq_ok] at ran
    obtain ⟨config, found, _, principal, _, positive, token, moved, last⟩ := ran
    cases last
    exact .withdrawn found (by simpa using principal) (Int.not_le.mp positive) moved
  | set_owner new_owner =>
    simp only [invoke, set_owner, load, require_auth, bind_eq_ok, okOr_eq_ok, failIf_eq_ok] at ran
    obtain ⟨config, found, _, principal, last⟩ := ran
    cases last
    exact .rotated found (by simpa using principal)

theorem no_overflow (env : Env) (call : Call) : invoke env call w ≠ .error (.trap .overflow) := by
  cases call with
  | check_auth payload signatures contexts =>
    refine avoids_get fun config _ => avoids_guard fun _ => avoids_bind ?_ fun _ _ => avoids_bind ?_ fun amount _ => ?_
    · refine avoids_get fun _ _ => ?_
      exact avoids_guard fun _ => avoids_failIf (by decide)
    · refine avoids_get fun _ _ => avoids_get fun _ _ => ?_
      refine avoids_guard fun _ => avoids_get fun _ _ => ?_
      refine avoids_guard fun _ => avoids_get fun _ _ => ?_
      exact avoids_guard fun _ => avoids_ok _
    · refine avoids_guard fun _ => avoids_get fun _ _ => ?_
      exact avoids_guard fun _ => avoids_ok _
  | withdraw dst amount =>
    refine avoids_get fun _ _ => avoids_guard fun _ => ?_
    exact avoids_guard fun _ => avoids_get fun _ _ => avoids_ok _
  | set_owner new_owner =>
    exact avoids_get fun _ _ => avoids_guard fun _ => avoids_ok _

end

/-! ### The counters -/

/-- The day's entry can still be read. -/
def Kept (w : World host) (env : Env) (day : UInt64) : Prop :=
  ∀ e, w.spent.lookup day = some e → env.sequence ≤ e.live_until

/-- What a state and the grants behind it agree on, for a rail that was deployed with
    the settings `c`: only the owner may have changed. -/
structure Counted (id : BytesN 32) (c : Config) (w : World host) (t : List Grant) : Prop where
  sameId : w.id = id
  current : ∃ owner, w.config = some { c with owner }
  counter : ∀ day e, w.spent.lookup day = some e → e.value = spentIn day t ∧ InI128 e.value
  uncounted : ∀ day, w.spent.lookup day = none → ofDay day t = []
  within : ∀ day, spentIn day t ≤ c.per_day

section
variable {id : BytesN 32} {c : Config} {w w' : World host} {t : List Grant} {env : Env} {call : Call}

/-- While it is kept, the counter of a day reads as the sum of the day's grants. -/
theorem Counted.spent_on_eq (counted : Counted id c w t) {day : UInt64} (kept : Kept w env day) :
    spent_on w env day = spentIn day t := by
  unfold spent_on
  cases found : w.spent.lookup day with
  | none =>
    rw [get_eq_none (by simp [found]), spentIn, counted.uncounted day found]
    rfl
  | some e =>
    rw [get_of_live found (kept e found)]
    exact (counted.counter day e found).1

theorem counted_effect (counted : Counted id c w t) (effect : Effect w env call w')
    (kept : ∀ payload signatures contexts, call = .check_auth payload signatures contexts → Kept w env env.day) :
    Counted id c w' (t ++ granted env call) := by
  obtain ⟨sameId, ⟨owner, current⟩, counter, uncounted, within⟩ := counted
  cases effect with
  | @granted payload signatures contexts w' config authorises =>
    have before : spent_on w env env.day = spentIn env.day t :=
      Counted.spent_on_eq ⟨sameId, ⟨owner, current⟩, counter, uncounted, within⟩ (kept _ _ _ rfl)
    obtain ⟨proper, fits, perDay, rfl⟩ := authorises
    have same := proper.current.symm.trans current
    cases same
    rw [before] at fits perDay
    -- the sum of the day grows by what the counter does
    have here : spentIn env.day (t ++ [⟨env, payload, signatures, contexts⟩]) =
        spentIn env.day t + Grant.amount ⟨env, payload, signatures, contexts⟩ := by
      rw [spentIn_append]
      simp [spentIn, ofDay]
    have elsewhere : ∀ day, day ≠ env.day → ofDay day (t ++ [⟨env, payload, signatures, contexts⟩]) = ofDay day t := by
      intro day other
      simp [ofDay, List.filter_append, Ne.symm other]
    refine ⟨sameId, ⟨owner, current⟩, fun day e found => ?_, fun day absent => ?_, fun day => ?_⟩
    · by_cases today : day = env.day
      · subst today
        rw [lookup_extend_set] at found
        cases found
        rw [PolicyRail.granted, here, before]
        exact ⟨rfl, fits⟩
      · rw [lookup_extend_set_ne _ _ _ _ today] at found
        rw [PolicyRail.granted, spentIn, elsewhere day today]
        exact counter day e found
    · by_cases today : day = env.day
      · subst today
        rw [lookup_extend_set] at absent
        cases absent
      · rw [lookup_extend_set_ne _ _ _ _ today] at absent
        rw [PolicyRail.granted, elsewhere day today]
        exact uncounted day absent
    · by_cases today : day = env.day
      · subst today
        rw [PolicyRail.granted, here]
        exact perDay
      · rw [PolicyRail.granted, spentIn, elsewhere day today]
        exact within day
  | withdrawn found principal positive moved =>
    rw [PolicyRail.granted, List.append_nil]
    exact ⟨sameId, ⟨owner, current⟩, counter, uncounted, within⟩
  | @rotated new_owner config found principal =>
    rw [PolicyRail.granted, List.append_nil]
    have same := found.symm.trans current
    cases same
    exact ⟨sameId, ⟨new_owner, rfl⟩, counter, uncounted, within⟩

/-- In the state where the hook is called the network still keeps the counter of its day. -/
def Readable (w : World host) : Action host → Prop
  | .call env (.check_auth _ _ _) => Kept w env env.day
  | _ => True

theorem counted_step (counted : Counted id c w t) {action : Action host} (readable : Readable w action) :
    Counted id c (step w action).1 (t ++ (step w action).2) := by
  cases action with
  | call env call =>
    simp only [step]
    cases ran : invoke env call w with
    | ok after =>
      refine counted_effect counted (invoke_cases ran) ?_
      rintro payload signatures contexts rfl
      exact readable
    | error failure => simpa using counted
  | external token =>
    simp only [step, List.append_nil]
    exact ⟨counted.sameId, counted.current, counted.counter, counted.uncounted, counted.within⟩

end

/-! ### Every run -/

/-- The network evicts no counter within its day. -/
def Unevicted (w : World host) (actions : List (Action host)) : Prop :=
  ∀ before action after, actions = before ++ action :: after → Readable (run w before).1 action

section
variable {w₀ : World host}

theorem deployed_counted (deployed : Deployed w₀) : ∃ c, w₀.config = some c ∧ Counted w₀.id c w₀ [] := by
  obtain ⟨_, _, _, _, _, _, _, _, _, ran⟩ := deployed
  simp only [construct, bind_eq_ok, failIf_eq_ok, not_or, not_le] at ran
  obtain ⟨_, ⟨_, positive⟩, _, _, last⟩ := ran
  cases last
  refine ⟨_, rfl, rfl, ⟨_, rfl⟩, fun day e found => ?_, fun _ _ => rfl, fun _ => positive.le⟩
  cases found

theorem deployed_empty (deployed : Deployed w₀) : w₀.spent = ∅ := by
  obtain ⟨_, _, _, _, _, _, _, _, _, ran⟩ := deployed
  simp only [construct, bind_eq_ok, failIf_eq_ok] at ran
  obtain ⟨_, _, _, _, last⟩ := ran
  cases last
  rfl

variable {c : Config} {actions : List (Action host)} {g : Grant}

theorem run_counted (counted : Counted w₀.id c w₀ [])
    (unevicted : Unevicted w₀ actions) : Counted w₀.id c (run w₀ actions).1 (run w₀ actions).2 :=
  Traces.exec_invariant_along (I := Counted w₀.id c) counted actions
    fun before action after split earlier => counted_step earlier (unevicted before action after split)

/-- Only the hook touches the counters. -/
theorem step_spent (w : World host) (env : Env) {call : Call} (other : granted env call = []) :
    (step w (.call env call)).1.spent = w.spent := by
  simp only [step]
  cases ran : invoke env call w with
  | ok after =>
    cases invoke_cases ran with
    | granted => cases other
    | withdrawn => rfl
    | rotated => rfl
  | error failure => rfl

/-- Every grant comes from one step, in which the rail found it proper. -/
theorem grant_proper (given : g ∈ (run w₀ actions).2) : ∃ before after config,
      actions = before ++ .call g.env (.check_auth g.signature_payload g.signatures g.auth_contexts) :: after ∧
      Proper (run w₀ before).1 config g := by
  obtain ⟨before, action, after, split, emitted⟩ := Traces.mem_exec given
  cases action with
  | call env call =>
    simp only [step] at emitted
    cases ran : invoke env call (run w₀ before).1 with
    | ok world =>
      rw [show invoke env call (Traces.exec step w₀ before).1 = _ from ran] at emitted
      cases invoke_cases ran with
      | granted authorises =>
        obtain rfl := List.mem_singleton.mp emitted
        exact ⟨before, after, _, split, authorises.proper⟩
      | withdrawn => cases emitted
      | rotated => cases emitted
    | error failure =>
      rw [show invoke env call (Traces.exec step w₀ before).1 = _ from ran] at emitted
      cases emitted
  | external token => cases emitted

theorem Unevicted.shorter {before after : List (Action host)} (unevicted : Unevicted w₀ (before ++ after)) :
    Unevicted w₀ before := by
  rintro first action rest rfl
  exact unevicted first action (rest ++ after) (by simp)

/-- What a rail with the settings `c` may grant: one transfer of its own asset from
    itself, of a positive amount within `per_tx`, in time, that the owner in force has signed. -/
structure Permitted (log : SigningLog host.ed25519_verify) (c : Config) (id owner : BytesN 32) (g : Grant) : Prop where
  signed : ∃ signature, g.signatures = [⟨owner, signature⟩] ∧ log.signed owner g.signature_payload signature
  transfer : ∃ dst n, n.1 = Grant.amount g ∧ g.auth_contexts =
    [.Contract ⟨c.asset, TRANSFER_FN, [.address (.contract id), dst, .i128 n]⟩]
  positive : 0 < Grant.amount g
  perTx : Grant.amount g ≤ c.per_tx
  inTime : g.env.timestamp ≤ c.valid_until

theorem Proper.permitted (log : SigningLog host.ed25519_verify) {config : Config} {id : BytesN 32} {w : World host}
    {t : List Grant} (proper : Proper w config g) (counted : Counted id c w t) :
    w.config = some { c with owner := config.owner } ∧ Permitted log c id config.owner g := by
  obtain ⟨current, inTime, ⟨signature, one, verified⟩, ⟨dst, n, called⟩, positive, perTx⟩ := proper
  obtain ⟨owner, stored⟩ := counted.current
  have same := current.symm.trans stored
  cases same
  have self : w.current_contract_address = .contract id := congrArg Address.contract counted.sameId
  rw [self] at called
  refine ⟨stored, ⟨signature, one, log.unforgeable verified⟩, ⟨dst, n, ?_, called⟩, positive, perTx, inTime⟩
  rw [Grant.amount, called]
  rfl

/-- The daily limit, over every run in which the network keeps each counter for its day. -/
theorem run_within_limits (log : SigningLog host.ed25519_verify) (deployed : Deployed w₀) {actions : List (Action host)}
    (unevicted : Unevicted w₀ actions) : ∃ c, w₀.config = some c ∧
      let w := (run w₀ actions).1
      let t := (run w₀ actions).2
      (∀ day, spentIn day t ≤ c.per_day ∧ ∀ env, Kept w env day → spent_on w env day = spentIn day t) ∧
      (∀ g ∈ t, ∃ before after owner,
        actions = before ++ .call g.env (.check_auth g.signature_payload g.signatures g.auth_contexts) :: after ∧
        (run w₀ before).1.config = some { c with owner } ∧ Permitted log c w₀.id owner g) ∧
      (∀ env dst amount, (step w (.call env (.withdraw dst amount))).1.spent = w.spent) ∧
      (∀ env new_owner, (step w (.call env (.set_owner new_owner))).1.spent = w.spent) ∧
      (∀ env call failure, invoke env call w = .error failure → step w (.call env call) = (w, [])) ∧
      (∀ env call, invoke env call w ≠ .error (.trap .overflow)) ∧
      ∀ day e, w.spent.lookup day = some e → InI128 e.value := by
  obtain ⟨c, current, start⟩ := deployed_counted deployed
  refine ⟨c, current, ?_⟩
  intro w t
  have counted : Counted w₀.id c w t := run_counted start unevicted
  refine ⟨fun day => ⟨counted.within day, fun env kept => counted.spent_on_eq kept⟩, fun g given => ?_,
    fun env _ _ => step_spent w env rfl, fun env _ => step_spent w env rfl, fun env call failure failed => ?_,
    no_overflow, fun day e found => (counted.counter day e found).2⟩
  · obtain ⟨before, after, config, split, proper⟩ := grant_proper given
    subst split
    obtain ⟨inForce, permitted⟩ := proper.permitted log (run_counted start unevicted.shorter)
    exact ⟨before, after, config.owner, rfl, inForce, permitted⟩
  · simp only [step, failed]

end

/-- Two payments of 50 in one day, on a network that gives new entries sixteen ledgers. -/
def samplePayments : List (Action (sampleHost 16)) := [samplePayment 1 ⟨50, by decide⟩, samplePayment 900 ⟨50, by decide⟩]

theorem samplePayments_unevicted : Unevicted (sampleRail 16) samplePayments := by
  rintro before action after split
  match before with
  | [] =>
    cases split
    exact fun e found => nomatch found
  | [_] =>
    cases split
    rintro e found
    cases found
    decide
  | _ :: _ :: rest =>
    have lengths := congrArg List.length split
    simp only [samplePayments, List.length_cons, List.length_nil, List.length_append] at lengths
    omega

def sampleLog : SigningLog (sampleHost 16).ed25519_verify where
  signed key _ sig := sig.1.take 32 = key.1
  unforgeable verified := of_decide_eq_true verified

theorem run_within_limits_sample : spentIn 0 (run (sampleRail 16) samplePayments).2 ≤ 100 := by
  obtain ⟨c, current, limits, _⟩ := run_within_limits sampleLog sampleRail_deployed samplePayments_unevicted
  cases current
  exact (limits 0).1

end AgentPey.RailLimits
