import AgentPey.RailLimits

/-!
How long the network keeps the counter of a day. A new entry gets the network's
own lifetime, and only a payment near its end extends it: with a lifetime of at
least `SPEND_ENTRY_TTL_THRESHOLD` ledgers the first payment of a day extends
nothing, and the counter may expire within the day. `spend_entry_lifetime` says
exactly when it does not.
-/
namespace AgentPey.SpendEntryLifetime
open Soroban Store TemporaryStorage PolicyRail RailLimits
open List (mem_append_left mem_append_right mem_cons mem_cons_of_mem mem_cons_self mem_singleton)

variable {host : Host}

def sequence : Action host → Option Nat
  | .call env _ => some env.sequence
  | .external _ => none

def ledgers (actions : List (Action host)) : List Nat := actions.filterMap sequence

/-- The ledgers in which the rail granted the day's payments, in order. -/
def paidAt (day : UInt64) (t : List Grant) : List Nat := (ofDay day t).map (fun g => g.env.sequence)

def DaySpans (actions : List (Action host)) (day : UInt64) (first last : Nat) : Prop :=
  ∀ env call, .call env call ∈ actions → env.day = day → first ≤ env.sequence ∧ env.sequence ≤ last

/-- From the first payment of the day on, its counter can be read in every ledger of
    the day, up to the last one. -/
def StaysLive (w₀ : World host) (actions : List (Action host)) (day : UInt64) (last : Nat) : Prop :=
  ∀ before after ledger, actions = before ++ after → paidAt day (run w₀ before).2 ≠ [] →
    (∀ n ∈ ledgers before, n ≤ ledger) → (∀ n ∈ ledgers after, ledger ≤ n) → ledger ≤ last →
    ∃ e, (run w₀ before).1.spent.lookup day = some e ∧ ledger ≤ e.live_until

/-- A first payment in ledger `p` has its entry extended: at once, or by a later payment
    in the last ledgers of the network's own lifetime. -/
def Extended (ttl p : Nat) (rest : List Nat) : Prop :=
  ttl < SPEND_ENTRY_TTL_THRESHOLD ∨ ∃ q ∈ rest, q ≤ p + ttl ∧ p + ttl < q + SPEND_ENTRY_TTL_THRESHOLD

/-- The day ends before the first entry can expire, or that entry is extended in time. -/
def Outlives (ttl last : Nat) : List Nat → Prop
  | [] => True
  | p :: rest => last ≤ p + ttl ∨ Extended ttl p rest

/-- The entry of a day whose payments so far were in these ledgers: none, extended past
    the day, as the network made it, or expired once. -/
def Lease (ttl last : Nat) (found : Option (Leased Int)) : List Nat → Prop
  | [] => found = none
  | p :: rest => ∃ e, found = some e ∧
      (Extended ttl p rest ∧ last ≤ e.live_until ∨
        ¬ Extended ttl p rest ∧
          ((∀ q ∈ p :: rest, q ≤ p + ttl) ∧ e.live_until = p + ttl ∨ ∃ q ∈ rest, p + ttl < q))

variable {ttl p : Nat} {rest : List Nat}

theorem Extended.append (extended : Extended ttl p rest) (more : List Nat) : Extended ttl p (rest ++ more) := by
  rcases extended with short | ⟨q, member, window⟩
  · exact .inl short
  · exact .inr ⟨q, mem_append_left _ member, window⟩

theorem Extended.later {more : List Nat} (extended : Extended ttl p (rest ++ more)) (never : ¬ Extended ttl p rest) :
    ∃ q ∈ more, q ≤ p + ttl ∧ p + ttl < q + SPEND_ENTRY_TTL_THRESHOLD := by
  rcases extended with short | ⟨q, member, window⟩
  · exact absurd (.inl short) never
  · rcases List.mem_append.mp member with earlier | later
    · exact absurd (.inr ⟨q, earlier, window⟩) never
    · exact ⟨q, later, window⟩

theorem extended_snoc {q : Nat} : Extended ttl p (rest ++ [q]) ↔
      Extended ttl p rest ∨ q ≤ p + ttl ∧ p + ttl < q + SPEND_ENTRY_TTL_THRESHOLD := by
  constructor
  · intro extended
    by_cases before : Extended ttl p rest
    · exact .inl before
    · obtain ⟨r, member, window⟩ := extended.later before
      rw [mem_singleton.mp member] at window
      exact .inr window
  · rintro (before | window)
    · exact before.append [q]
    · exact .inr ⟨q, mem_append_right _ (List.mem_singleton_self q), window⟩

theorem lease_first {last q : Nat} (span : last ≤ q + SPEND_ENTRY_TTL_EXTEND_TO) (value : Int) : Lease ttl last
      (some ⟨value, renewed ttl SPEND_ENTRY_TTL_THRESHOLD SPEND_ENTRY_TTL_EXTEND_TO q none⟩) [q] := by
  refine ⟨_, rfl, ?_⟩
  unfold renewed Extended
  simp only [Option.getD_none, Nat.add_sub_cancel_left]
  by_cases short : ttl < SPEND_ENTRY_TTL_THRESHOLD
  · rw [if_pos short]
    exact .inl ⟨.inl short, span⟩
  · rw [if_neg short]
    refine .inr ⟨?_, .inl ⟨?_, rfl⟩⟩
    · rintro (here | ⟨r, member, _⟩)
      · exact short here
      · cases member
    · intro r member
      rw [mem_singleton.mp member]
      omega

/-- A later payment of the day finds the entry live and extends it if it is about to
    expire, or finds it expired. -/
theorem lease_next {last q : Nat} {e : Leased Int} (span : last ≤ p + SPEND_ENTRY_TTL_EXTEND_TO)
    (lease : Lease ttl last (some e) (p :: rest)) (ordered : ∀ r ∈ p :: rest, r ≤ q) (inDay : q ≤ last) (value : Int) :
    Lease ttl last
      (some ⟨value, renewed ttl SPEND_ENTRY_TTL_THRESHOLD SPEND_ENTRY_TTL_EXTEND_TO q
        (((some e).filter (fun e => q ≤ e.live_until)).map Leased.live_until)⟩) (p :: (rest ++ [q])) := by
  obtain ⟨_, same, fate⟩ := lease
  cases same
  have pq := ordered p mem_cons_self
  refine ⟨_, rfl, ?_⟩
  rw [extended_snoc]
  rcases fate with ⟨extended, enough⟩ | ⟨never, ⟨within, initial⟩ | ⟨r, member, past⟩⟩
  · -- live until the end of the day: an extension only adds to it
    refine .inl ⟨.inl extended, ?_⟩
    have alive : q ≤ e.live_until := inDay.trans enough
    rw [renewed_of_live alive]
    split_ifs
    · show last ≤ q + SPEND_ENTRY_TTL_EXTEND_TO
      omega
    · exact enough
  · by_cases alive : q ≤ p + ttl
    · have alive' : q ≤ e.live_until := by omega
      rw [renewed_of_live alive', initial]
      by_cases window : p + ttl < q + SPEND_ENTRY_TTL_THRESHOLD
      · refine .inl ⟨.inr ⟨alive, window⟩, ?_⟩
        rw [if_pos (by omega)]
        show last ≤ q + SPEND_ENTRY_TTL_EXTEND_TO
        omega
      · refine .inr ⟨?_, .inl ⟨?_, ?_⟩⟩
        · rintro (extended | ⟨_, here⟩)
          · exact never extended
          · exact window here
        · intro r member
          rcases mem_cons.mp member with rfl | member
          · exact within r mem_cons_self
          · rcases List.mem_append.mp member with earlier | last
            · exact within r (mem_cons_of_mem p earlier)
            · rw [mem_singleton.mp last]
              exact alive
        · rw [if_neg (by omega)]
    · refine .inr ⟨?_, .inr ⟨q, mem_append_right _ (List.mem_singleton_self q), Nat.not_le.mp alive⟩⟩
      rintro (extended | ⟨here, _⟩)
      · exact never extended
      · exact alive here
  · refine .inr ⟨?_, .inr ⟨r, mem_append_left _ member, past⟩⟩
    have later := ordered r (mem_cons_of_mem p member)
    rintro (extended | ⟨here, _⟩)
    · exact never extended
    · omega

/-! ### Runs -/

def Ordered (actions : List (Action host)) : Prop := (ledgers actions).Pairwise (· ≤ ·)

section
variable {w₀ : World host} {day : UInt64} {first last : Nat}

theorem ledgers_append (before after : List (Action host)) : ledgers (before ++ after) = ledgers before ++ ledgers after :=
  List.filterMap_append ..

theorem paidAt_append (day : UInt64) (t t' : List Grant) : paidAt day (t ++ t') = paidAt day t ++ paidAt day t' := by
  simp [paidAt, ofDay_append]

variable {actions : List (Action host)} {env : Env} {call : Call}

theorem paidAt_call {n : Nat} (paid : n ∈ paidAt day (run w₀ actions).2) :
    ∃ env call, .call env call ∈ actions ∧ env.day = day ∧ env.sequence = n := by
  obtain ⟨g, listed, rfl⟩ := List.mem_map.mp paid
  obtain ⟨given, today⟩ := List.mem_filter.mp listed
  obtain ⟨before, after, _, split, _⟩ := grant_proper given
  refine ⟨g.env, .check_auth g.signature_payload g.signatures g.auth_contexts, ?_, by simpa using today, rfl⟩
  rw [split]
  exact mem_append_right _ mem_cons_self

theorem mem_ledgers (member : .call env call ∈ actions) : env.sequence ∈ ledgers actions :=
  List.mem_filterMap.mpr ⟨_, member, rfl⟩

theorem paid_before {before after : List (Action host)} (ordered : Ordered (before ++ .call env call :: after)) :
    ∀ n ∈ paidAt day (run w₀ before).2, n ≤ env.sequence := by
  intro n paid
  obtain ⟨env', call', member, _, rfl⟩ := paidAt_call paid
  unfold Ordered at ordered
  rw [ledgers_append, List.pairwise_append] at ordered
  exact ordered.2.2 _ (mem_ledgers member) _ (mem_ledgers mem_cons_self)

/-- The counter of the day, in every state of an ordered run. -/
theorem run_lease (fresh : w₀.spent.lookup day = none) (ordered : Ordered actions) (inDay : DaySpans actions day first last)
    (span : last ≤ first + SPEND_ENTRY_TTL_EXTEND_TO) :
    Lease host.min_temp_entry_ttl last ((run w₀ actions).1.spent.lookup day) (paidAt day (run w₀ actions).2) := by
  refine Traces.exec_invariant_along
    (I := fun (w : World host) t => Lease host.min_temp_entry_ttl last (w.spent.lookup day) (paidAt day t)) fresh actions ?_
  rintro before action after rfl lease
  cases action with
  | external token =>
    simp only [step, List.append_nil]
    exact lease
  | call env call =>
    simp only [step]
    cases ran : invoke env call (Traces.exec step w₀ before).1 with
    | error failure => simpa using lease
    | ok after' =>
      cases invoke_cases ran with
      | withdrawn => simpa [granted] using lease
      | rotated => simpa [granted] using lease
      | @granted payload signatures contexts w' config authorises =>
        have world := authorises.world
        subst world
        rw [paidAt_append]
        by_cases today : env.day = day
        · -- a payment of the day: its entry is written, then extended
          have here : paidAt day (PolicyRail.granted env (.check_auth payload signatures contexts)) = [env.sequence] := by
            simp [PolicyRail.granted, paidAt, ofDay, today]
          rw [here, ← today, lookup_extend_set, today]
          have bounds := inDay env _ (mem_append_right _ mem_cons_self) today
          have earlier : ∀ n ∈ paidAt day (run w₀ before).2, n ≤ env.sequence := paid_before ordered
          have sofar : ∀ n ∈ paidAt day (run w₀ before).2, first ≤ n := by
            intro n paid
            obtain ⟨env', call', member, that, rfl⟩ := paidAt_call paid
            exact (inDay env' call' (mem_append_left _ member) that).1
          unfold live
          change Lease _ _ (AList.lookup day (run w₀ before).1.spent) (paidAt day (run w₀ before).2) at lease
          show Lease _ _ (some ⟨_, renewed _ _ _ _
            (((AList.lookup day (run w₀ before).1.spent).filter _).map _)⟩) (paidAt day (run w₀ before).2 ++ _)
          cases payments : paidAt day (run w₀ before).2 with
          | nil =>
            rw [payments] at lease
            rw [show AList.lookup day (run w₀ before).1.spent = none from lease]
            exact lease_first (q := env.sequence) (by omega) _
          | cons p rest =>
            rw [payments] at lease earlier sofar
            obtain ⟨e, found, fate⟩ := lease
            have start := sofar p mem_cons_self
            rw [found]
            exact lease_next (by omega) ⟨e, rfl, fate⟩ earlier bounds.2 _
        · have none : paidAt day (PolicyRail.granted env (.check_auth payload signatures contexts)) = [] := by
            simp [PolicyRail.granted, paidAt, ofDay, today]
          rw [none, List.append_nil, lookup_extend_set_ne _ _ _ _ (Ne.symm today)]
          exact lease

theorem cut_at (bound : Nat) (actions : List (Action host)) (ordered : Ordered actions) :
    ∃ before after, actions = before ++ after ∧ (∀ n ∈ ledgers before, n ≤ bound) ∧
      ∀ n ∈ ledgers after, bound < n := by
  induction actions with
  | nil => exact ⟨[], [], rfl, by simp [ledgers], by simp [ledgers]⟩
  | cons action rest ih =>
    cases at_ : sequence action with
    | none =>
      have skip : ledgers (action :: rest) = ledgers rest := List.filterMap_cons_none at_
      have ordered' : Ordered rest := by
        unfold Ordered at *
        rwa [skip] at ordered
      obtain ⟨before, after, rfl, low, high⟩ := ih ordered'
      refine ⟨action :: before, after, rfl, ?_, high⟩
      rw [show ledgers (action :: before) = ledgers before from List.filterMap_cons_none at_]
      exact low
    | some n =>
      have here : ∀ l, ledgers (action :: l) = n :: ledgers l := fun l => List.filterMap_cons_some at_
      unfold Ordered at ordered
      rw [here, List.pairwise_cons] at ordered
      by_cases below : n ≤ bound
      · obtain ⟨before, after, rfl, low, high⟩ := ih ordered.2
        refine ⟨action :: before, after, rfl, ?_, high⟩
        rw [here]
        exact List.forall_mem_cons.mpr ⟨below, low⟩
      · refine ⟨[], action :: rest, rfl, by simp [ledgers], ?_⟩
        rw [here]
        intro m member
        rcases mem_cons.mp member with rfl | member
        · exact Nat.not_le.mp below
        · have := ordered.1 m member
          omega

theorem Ordered.before {before after : List (Action host)} (ordered : Ordered (before ++ after)) : Ordered before := by
  unfold Ordered at *
  rw [ledgers_append, List.pairwise_append] at ordered
  exact ordered.1

theorem DaySpans.before {before after : List (Action host)} (inDay : DaySpans (before ++ after) day first last) :
    DaySpans before day first last :=
  fun env call member => inDay env call (mem_append_left _ member)

theorem run_append (before after : List (Action host)) :
    (run w₀ (before ++ after)).2 = (run w₀ before).2 ++ (run (run w₀ before).1 after).2 := by
  rw [run, Traces.exec_append]
  rfl

end

/-- The counter of a day stays live from its first payment to the last ledger of the day
    exactly when the network's own lifetime is below the threshold, or reaches the end
    of the day, or another payment comes in its last ledgers. -/
theorem spend_entry_lifetime {w₀ : World host} (deployed : Deployed w₀) {actions : List (Action host)}
    (ordered : Ordered actions) {day : UInt64} {first last : Nat} (inDay : DaySpans actions day first last)
    (span : last ≤ first + SPEND_ENTRY_TTL_EXTEND_TO) :
    StaysLive w₀ actions day last ↔ Outlives host.min_temp_entry_ttl last (paidAt day (run w₀ actions).2) := by
  have fresh : w₀.spent.lookup day = none := by
    rw [deployed_empty deployed]
    rfl
  constructor
  · intro stays
    cases payments : paidAt day (run w₀ actions).2 with
    | nil => trivial
    | cons p rest =>
      by_contra failed
      obtain ⟨past, never⟩ := not_or.mp failed
      -- cut the run after the last ledger of the entry as the network made it
      obtain ⟨before, after, rfl, low, high⟩ := cut_at (p + host.min_temp_entry_ttl) actions ordered
      have lease : Lease _ last ((run w₀ before).1.spent.lookup day) _ :=
        run_lease fresh ordered.before inDay.before span
      rw [run_append, paidAt_append] at payments
      cases earlier : paidAt day (run w₀ before).2 with
      | nil =>
        rw [earlier, List.nil_append] at payments
        obtain ⟨env, call, member, _, same⟩ := paidAt_call (payments ▸ mem_cons_self : p ∈ _)
        have := high _ (mem_ledgers member)
        omega
      | cons p' rest' =>
        rw [earlier] at payments lease
        obtain ⟨rfl, rfl⟩ := List.cons.inj payments
        obtain ⟨e, found, fate⟩ := lease
        obtain ⟨e', found', alive⟩ := stays before after (p' + host.min_temp_entry_ttl + 1) rfl (by rw [earlier]; simp)
          (fun n member => (low n member).trans (Nat.le_succ _)) high (Nat.not_le.mp past)
        rw [found] at found'
        cases found'
        rcases fate with ⟨extended, _⟩ | ⟨_, ⟨_, initial⟩ | ⟨q, member, late⟩⟩
        · exact never (extended.append _)
        · omega
        · have paid : q ∈ paidAt day (run w₀ before).2 := by
            rw [earlier]
            exact mem_cons_of_mem p' member
          obtain ⟨env, call, called, _, rfl⟩ := paidAt_call paid
          have := low _ (mem_ledgers called)
          omega
  · rintro outlives before after ledger rfl some low high inTime
    have lease : Lease _ last ((run w₀ before).1.spent.lookup day) _ :=
      run_lease fresh ordered.before inDay.before span
    rw [run_append, paidAt_append] at outlives
    cases payments : paidAt day (run w₀ before).2 with
    | nil => exact absurd payments some
    | cons p rest =>
      rw [payments] at lease outlives
      obtain ⟨e, found, fate⟩ := lease
      refine ⟨e, found, ?_⟩
      rcases fate with ⟨_, enough⟩ | ⟨never, fate⟩
      · exact inTime.trans enough
      -- not extended so far: what saves the entry is the end of the day or a payment to come
      rcases outlives with ends | extended
      · rcases fate with ⟨_, initial⟩ | ⟨q, member, late⟩
        · omega
        · have paid : q ∈ paidAt day (run w₀ before).2 := by
            rw [payments]
            exact mem_cons_of_mem p member
          obtain ⟨env, call, called, today, rfl⟩ := paidAt_call paid
          have := (inDay env call (mem_append_left _ called) today).2
          omega
      · obtain ⟨q, later, window⟩ := extended.later never
        obtain ⟨env, call, called, _, rfl⟩ := paidAt_call later
        have bound := high _ (mem_ledgers called)
        rcases fate with ⟨_, initial⟩ | ⟨r, member, late⟩
        · omega
        · have paid : r ∈ paidAt day (run w₀ before).2 := by
            rw [payments]
            exact mem_cons_of_mem p member
          obtain ⟨env', call', called', _, rfl⟩ := paidAt_call paid
          have := low _ (mem_ledgers called')
          omega

/-- Two payments of `n` in the first UTC day, on a network with this lifetime of new entries. -/
def twoPayments (ttl : Nat) (n : { n : Int // InI128 n }) : List (Action (sampleHost ttl)) :=
  [samplePayment 1 n, samplePayment 12000 n]

theorem twoPayments_ordered (ttl : Nat) (n : { n : Int // InI128 n }) : Ordered (twoPayments ttl n) := by
  show [1, 12000].Pairwise (· ≤ ·)
  decide

theorem twoPayments_inDay (ttl : Nat) (n : { n : Int // InI128 n }) : DaySpans (twoPayments ttl n) 0 0 17279 := by
  intro env call member _
  rcases mem_cons.mp member with one | member
  · cases one
    decide
  · cases mem_singleton.mp member
    decide

/-- On a network that gives new entries ten thousand ledgers the counter is gone when
    the second payment of the day comes, and both are granted: 120 of at most 100. -/
theorem spend_entry_evicted :
    let actions := twoPayments 10000 ⟨60, by decide⟩
    Deployed (sampleRail 10000) ∧ Ordered actions ∧ DaySpans actions 0 0 17279 ∧
      17279 ≤ 0 + SPEND_ENTRY_TTL_EXTEND_TO ∧ ¬ StaysLive (sampleRail 10000) actions 0 17279 ∧
      spentIn 0 (run (sampleRail 10000) actions).2 = 120 := by
  refine ⟨sampleRail_deployed, twoPayments_ordered _ _, twoPayments_inDay _ _, by decide, ?_, by decide⟩
  intro stays
  obtain ⟨e, found, alive⟩ := stays [samplePayment 1 ⟨60, by decide⟩] [samplePayment 12000 ⟨60, by decide⟩] 12000 rfl
    (by decide) (by decide) (by decide) (by decide)
  cases found
  exact absurd alive (by decide)

/-- On a network that gives them sixteen, the first payment extends the entry at once. -/
theorem spend_entry_lifetime_sample : StaysLive (sampleRail 16) (twoPayments 16 ⟨50, by decide⟩) 0 17279 := by
  have outlives : Outlives 16 17279 [1, 12000] := .inr (.inl (by decide))
  exact (spend_entry_lifetime sampleRail_deployed (twoPayments_ordered _ _) (twoPayments_inDay _ _) (by decide)).mpr
    outlives

end AgentPey.SpendEntryLifetime
