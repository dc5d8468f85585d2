import AgentPey.Gateway
import AgentPey.Store

/-!
`Reservations`: the units of each product that paid checkouts in flight hold. The class is one map; who holds what is
known to its callers only, so a run here keeps every hold that was ever granted beside the map. The map is what the
holds still outstanding add up to as long as none of them is released twice.
-/
namespace AgentPey.Reservations
open Store Gateway

/-- A request for units of one product. A checkout may name a product on several lines. -/
structure Line where
  productId : String
  quantity : Nat
  /-- `none` means untracked. -/
  stock : Option Int
  deriving DecidableEq, Repr

/-- The `held` map of `Reservations`. -/
abbrev Units := Keyed String Int

def reserved (held : Units) (productId : String) : Int := (held.lookup productId).getD 0

/-- Holds `quantity` if `stock - reserved` allows it. -/
def tryReserve (held : Units) (productId : String) (quantity : Nat) (stock : Option Int) : Bool × Units :=
  if stock.any fun stock => stock - reserved held productId < quantity then (false, held)
  else (true, held.insert productId (reserved held productId + quantity))

def release (held : Units) (productId : String) (quantity : Nat) : Units :=
  let left := reserved held productId - quantity
  if left > 0 then held.insert productId left else held.erase productId

def releaseAll (held : Units) (requests : List Line) : Units :=
  requests.foldl (fun held request => release held request.productId request.quantity) held

/-- The loop of `tryReserveAll`; `taken` is its local list, of the requests held before. -/
def tryReserveFrom (held : Units) (taken : List Line) : List Line → Option String × Units
  | [] => (none, held)
  | request :: rest =>
    match tryReserve held request.productId request.quantity request.stock with
    | (false, held) => (some request.productId, releaseAll held taken)
    | (true, held) => tryReserveFrom held (taken ++ [request]) rest

/-- Holds every request, or none: the product that could not be held, if any. -/
def tryReserveAll (held : Units) (requests : List Line) : Option String × Units := tryReserveFrom held [] requests

/-- The units of a product that a list of requests names, on all its lines. -/
def units (lines : List Line) (productId : String) : Nat :=
  ((lines.filter fun line => line.productId = productId).map Line.quantity).sum

/-! ### What each call does to the reserved quantities -/

variable {held : Units} {p : String}

@[simp] theorem units_nil : units [] p = 0 := rfl

theorem units_cons (line : Line) (rest : List Line) :
    units (line :: rest) p = (if line.productId = p then line.quantity else 0) + units rest p := by
  by_cases same : line.productId = p
  · simp [units, same]
  · simp [units, same]

theorem units_append (lines more : List Line) : units (lines ++ more) p = units lines p + units more p := by
  simp [units]

@[simp] theorem reserved_empty : reserved ∅ p = 0 := rfl

theorem reserved_insert (q : String) (n : Int) : reserved (held.insert q n) p = if p = q then n else reserved held p := by
  unfold reserved
  rw [lookup_insert]
  by_cases same : p = q
  · simp [same]
  · simp [same]

theorem reserved_erase (q : String) : reserved (held.erase q) p = if p = q then 0 else reserved held p := by
  unfold reserved
  by_cases same : p = q
  · subst same
    rw [AList.lookup_erase, if_pos rfl, Option.getD_none]
  · rw [AList.lookup_erase_ne same, if_neg same]

variable {held' : Units}

variable {quantity hold : Nat} {stock : Option Int} {refused : Option String} {counts : Held}

theorem tryReserve_granted (granted : tryReserve held p quantity stock = (true, held')) :
    (∀ n, stock = some n → reserved held p + quantity ≤ n) ∧
      ∀ q, reserved held' q = reserved held q + if p = q then (quantity : Int) else 0 := by
  unfold tryReserve at granted
  split_ifs at granted with short
  · simp at granted
  · obtain rfl : held.insert p (reserved held p + quantity) = held' := by simpa using granted
    refine ⟨?_, fun q => ?_⟩
    · rintro n rfl
      simp only [Option.any_some, decide_eq_true_eq] at short
      omega
    · rw [reserved_insert]
      by_cases same : q = p
      · simp [same]
      · simp [same, Ne.symm same]

theorem tryReserve_refused (refused : tryReserve held p quantity stock = (false, held')) : held' = held := by
  unfold tryReserve at refused
  split_ifs at refused
  · simpa using refused.symm
  · simp at refused

/-- Units are taken off down to nothing, never below. -/
theorem reserved_release (q : String) (quantity : Nat) :
    reserved (release held q quantity) p = if q = p then max 0 (reserved held p - quantity) else reserved held p := by
  unfold release
  by_cases left : reserved held q - quantity > 0
  · simp only [left, ↓reduceIte, reserved_insert]
    by_cases same : q = p
    · subst same
      simp only [↓reduceIte]
      omega
    · simp [same, Ne.symm same]
  · simp only [left, ↓reduceIte, reserved_erase]
    by_cases same : q = p
    · subst same
      simp only [↓reduceIte]
      omega
    · simp [same, Ne.symm same]

theorem reserved_releaseAll (lines : List Line) (kept : 0 ≤ reserved held p) :
    reserved (releaseAll held lines) p = max 0 (reserved held p - units lines p) := by
  induction lines generalizing held with
  | nil => simp [releaseAll, kept]
  | cons line rest ih =>
    have first : reserved (release held line.productId line.quantity) p = _ := reserved_release line.productId line.quantity
    have remains : 0 ≤ reserved (release held line.productId line.quantity) p := by
      rw [first]
      split_ifs
      · exact le_max_left ..
      · exact kept
    have later := ih remains
    rw [releaseAll, List.foldl_cons, ← releaseAll, later, first, units_cons]
    split_ifs
    · push_cast
      omega
    · simp

theorem units_last {lines : List Line} (named : 0 < units lines p) :
    ∃ first line rest, lines = first ++ line :: rest ∧ line.productId = p ∧ units (first ++ [line]) p = units lines p := by
  induction lines using List.reverseRec with
  | nil => simp at named
  | append_singleton lines line ih =>
    by_cases same : line.productId = p
    · exact ⟨lines, line, [], rfl, same, rfl⟩
    · have unnamed : units [line] p = 0 := by simp [units_cons, same]
      rw [units_append, unnamed] at named ⊢
      obtain ⟨first, last, rest, rfl, product, all⟩ := ih (by simpa using named)
      exact ⟨first, last, rest ++ [line], by simp, product, all⟩

theorem tryReserveFrom_spec {taken rest : List Line} (before : Units) (start : ∀ q, 0 ≤ reserved before q)
    (sofar : ∀ q, reserved held q = reserved before q + units taken q)
    (ran : tryReserveFrom held taken rest = (refused, held')) (q : String) :
    reserved held' q = if refused.isNone then reserved held q + units rest q else reserved before q := by
  induction rest generalizing held taken with
  | nil =>
    cases ran
    simp
  | cons request rest ih =>
    unfold tryReserveFrom at ran
    split at ran
    case h_1 more outcome =>
      obtain ⟨rfl, rfl⟩ := Prod.mk.inj ran
      have unchanged := tryReserve_refused outcome
      subst unchanged
      have known := start q
      have now := sofar q
      rw [reserved_releaseAll taken (by omega), now]
      simp only [Option.isNone_some, Bool.false_eq_true, ↓reduceIte]
      omega
    case h_2 more outcome =>
      obtain ⟨_, added⟩ := tryReserve_granted outcome
      have sofar' : ∀ q, reserved more q = reserved before q + units (taken ++ [request]) q := by
        intro q
        rw [added, sofar, units_append, units_cons, units_nil]
        by_cases same : q = request.productId
        · simp [same, add_assoc]
        · simp [Ne.symm same]
      rw [ih sofar' ran, added, units_cons]
      by_cases same : q = request.productId
      · simp [same, add_assoc]
      · simp [Ne.symm same]

/-- At its own grant, a line's product is reserved no further than the line's stock. -/
theorem tryReserveFrom_bound {taken first rest : List Line} {line : Line} {stock : Int}
    (given : line.stock = some stock) (ran : tryReserveFrom held taken (first ++ line :: rest) = (none, held')) :
    reserved held line.productId + units (first ++ [line]) line.productId ≤ stock := by
  induction first generalizing held taken with
  | nil =>
    rw [List.nil_append, tryReserveFrom] at ran
    split at ran
    case h_1 => simp at ran
    case h_2 more outcome =>
      obtain ⟨bound, _⟩ := tryReserve_granted outcome
      simpa [units_cons] using bound stock given
  | cons request first ih =>
    rw [List.cons_append, tryReserveFrom] at ran
    split at ran
    case h_1 => simp at ran
    case h_2 more outcome =>
      obtain ⟨_, added⟩ := tryReserve_granted outcome
      have later := ih ran
      rw [added] at later
      rw [List.cons_append, units_cons]
      push_cast
      split_ifs at later ⊢ <;> omega

/-! ### Runs -/

/-- A hold that was granted. -/
structure Granted where
  lines : List Line
  outstanding : Bool
  deriving DecidableEq, Repr

/-- The map, and every hold granted so far in the order of the grants. -/
structure State where
  held : Units
  holds : List Granted
  deriving DecidableEq

def initial : State := ⟨∅, []⟩

inductive Action where
  | tryReserveAll (requests : List Line)
  /-- The units of the hold at this place are released, for the first time or again. -/
  | release (hold : Nat)

def step (s : State) : Action → State
  | .tryReserveAll requests =>
    match tryReserveAll s.held requests with
    | (none, held) => ⟨held, s.holds ++ [⟨requests, true⟩]⟩
    | (some _, held) => ⟨held, s.holds⟩
  | .release hold =>
    match s.holds[hold]? with
    | none => s
    | some granted => ⟨releaseAll s.held granted.lines, s.holds.set hold { granted with outstanding := false }⟩

def run (actions : List Action) : State := actions.foldl step initial

def outstanding (holds : List Granted) (productId : String) : Nat :=
  ((holds.filter Granted.outstanding).map fun hold => units hold.lines productId).sum

/-- Each release is of a hold that was granted and not released before. -/
def ReleasedOnce (actions : List Action) : Prop :=
  ∀ before hold after, actions = before ++ .release hold :: after →
    ∃ granted, (run before).holds[hold]? = some granted ∧ granted.outstanding = true

theorem outstanding_snoc (holds : List Granted) (lines : List Line) :
    outstanding (holds ++ [⟨lines, true⟩]) p = outstanding holds p + units lines p := by
  simp [outstanding]

variable {granted : Granted} {s : State} {actions : List Action}

theorem outstanding_released {holds : List Granted} (found : holds[hold]? = some granted) :
    outstanding (holds.set hold { granted with outstanding := false }) p + (if granted.outstanding then units granted.lines p else 0) =
      outstanding holds p := by
  induction holds generalizing hold with
  | nil => simp at found
  | cons first rest ih =>
    cases hold with
    | zero =>
      obtain rfl : first = granted := by simpa using found
      by_cases still : first.outstanding = true
      · simp [outstanding, still, Nat.add_comm]
      · simp [outstanding, still]
    | succ hold =>
      have later := ih (by simpa using found)
      by_cases still : first.outstanding = true
      · simp only [outstanding, List.set_cons_succ, List.filter_cons, still, ↓reduceIte, List.map_cons, List.sum_cons] at later ⊢
        omega
      · simp only [outstanding, List.set_cons_succ, List.filter_cons, still, Bool.false_eq_true, ↓reduceIte] at later ⊢
        omega

theorem run_snoc (actions : List Action) (a : Action) : run (actions ++ [a]) = step (run actions) a := by
  simp [run]

/-- All requests or none, whatever is reserved when they come. -/
theorem reserved_tryReserveAll {requests : List Line} (start : ∀ q, 0 ≤ reserved held q)
    (ran : tryReserveAll held requests = (refused, held')) (q : String) :
    reserved held' q = if refused.isNone then reserved held q + units requests q else reserved held q :=
  tryReserveFrom_spec held start (by simp) ran q

/-- The map holds no more of a product than the holds outstanding, and nothing below zero. -/
def Within (s : State) : Prop := ∀ p, 0 ≤ reserved s.held p ∧ reserved s.held p ≤ outstanding s.holds p

theorem Within.step (within : Within s) (a : Action) : Within (step s a) := by
  intro p
  obtain ⟨positive, bounded⟩ := within p
  cases a with
  | tryReserveAll requests =>
    rcases ran : tryReserveAll s.held requests with ⟨refused, held'⟩
    have all := reserved_tryReserveAll (fun q => (within q).1) ran p
    cases refused with
    | none =>
      simp only [Option.isNone_none, ↓reduceIte] at all
      simp only [Reservations.step, ran, all, outstanding_snoc]
      push_cast
      omega
    | some short =>
      simp only [Option.isNone_some, Bool.false_eq_true, ↓reduceIte] at all
      simpa only [Reservations.step, ran, all] using ⟨positive, bounded⟩
  | release hold =>
    cases found : s.holds[hold]? with
    | none => simpa only [Reservations.step, found] using ⟨positive, bounded⟩
    | some granted =>
      have rest := outstanding_released (p := p) found
      simp only [Reservations.step, found, reserved_releaseAll granted.lines positive]
      split_ifs at rest <;> omega

theorem run_within (actions : List Action) : Within (run actions) := by
  induction actions using List.reverseRec with
  | nil => exact fun p => ⟨le_refl 0, Int.natCast_nonneg _⟩
  | append_singleton actions a ih =>
    rw [run_snoc]
    exact ih.step a

theorem ReleasedOnce.before {a : Action} (once : ReleasedOnce (actions ++ [a])) : ReleasedOnce actions := by
  rintro before hold after rfl
  exact once before hold (after ++ [a]) (by simp)

/-- Where no hold is released twice, the map is what the holds outstanding add up to. -/
theorem run_exact (once : ReleasedOnce actions) (p : String) :
    reserved (run actions).held p = outstanding (run actions).holds p := by
  induction actions using List.reverseRec with
  | nil => rfl
  | append_singleton actions a ih =>
    have earlier := ih once.before
    have within := run_within actions
    rw [run_snoc]
    cases a with
    | tryReserveAll requests =>
      rcases ran : tryReserveAll (run actions).held requests with ⟨refused, held'⟩
      have all := reserved_tryReserveAll (fun q => (within q).1) ran p
      cases refused with
      | none =>
        simp only [Option.isNone_none, ↓reduceIte] at all
        simp only [step, ran, all, outstanding_snoc, earlier]
        push_cast
        rfl
      | some short =>
        simp only [Option.isNone_some, Bool.false_eq_true, ↓reduceIte] at all
        simpa only [step, ran, all] using earlier
    | release hold =>
      obtain ⟨granted, found, still⟩ := once actions hold [] rfl
      have rest := outstanding_released (p := p) found
      rw [if_pos still] at rest
      simp only [step, found, reserved_releaseAll granted.lines (within p).1]
      omega

theorem release_again (within : Within s) (found : s.holds[hold]? = some granted) :
    (∀ p, reserved (step s (.release hold)).held p = reserved s.held p) ↔
      ∀ p, 0 < units granted.lines p → reserved s.held p = 0 := by
  refine forall_congr' fun p => ?_
  have positive := (within p).1
  simp only [step, found, reserved_releaseAll granted.lines positive]
  omega

/-! ### The process' own view -/

def line (request : HeldUnits) : Line := ⟨request.productId, request.quantity, request.stock.map Int.ofNat⟩

theorem tryReserve_refines (request : HeldUnits) (agree : ∀ q, reserved held q = counts q) :
    (counts.tryReserve request = none →
      tryReserve held request.productId request.quantity (line request).stock = (false, held)) ∧
    ∀ counts', counts.tryReserve request = some counts' → ∃ held',
      tryReserve held request.productId request.quantity (line request).stock = (true, held') ∧
        ∀ q, reserved held' q = counts' q := by
  have added : ∀ q, reserved (held.insert request.productId (reserved held request.productId + request.quantity)) q =
      Function.update counts request.productId (counts request.productId + request.quantity) q := by
    intro q
    rw [reserved_insert]
    by_cases same : q = request.productId
    · simp [same, agree]
    · simp [same, agree]
  cases stocked : request.stock with
  | none =>
    have granted : tryReserve held request.productId request.quantity (line request).stock =
        (true, held.insert request.productId (reserved held request.productId + request.quantity)) := by
      simp [tryReserve, line, stocked]
    refine ⟨by simp [Held.tryReserve, stocked], fun counts' held => ⟨_, granted, ?_⟩⟩
    obtain rfl : Function.update counts request.productId (counts request.productId + request.quantity) = counts' := by
      simpa [Held.tryReserve, stocked] using held
    exact added
  | some stock =>
    by_cases short : (stock : Int) - counts request.productId < request.quantity
    · simp [tryReserve, Held.tryReserve, line, stocked, agree, short]
    · simp only [tryReserve, Held.tryReserve, line, stocked, Option.map_some, Option.any_some, agree, Int.ofNat_eq_natCast,
        short, decide_false, Bool.false_eq_true, ↓reduceIte]
      simpa [short, agree] using added

/-- The storefront's model of the map refuses and holds what the class does. -/
theorem tryReserveAll_refines (requests : List HeldUnits) (agree : ∀ q, reserved held q = counts q) :
    (∀ short, counts.tryReserveAll requests = .error short ↔ (tryReserveAll held (requests.map line)).1 = some short) ∧
      ∀ counts', counts.tryReserveAll requests = .ok counts' →
        ∀ q, reserved (tryReserveAll held (requests.map line)).2 q = counts' q := by
  unfold tryReserveAll
  generalize ([] : List Line) = taken
  induction requests generalizing held counts taken with
  | nil =>
    refine ⟨by simp [Held.tryReserveAll, tryReserveFrom], ?_⟩
    rintro counts' ⟨⟩
    exact agree
  | cons request rest ih =>
    obtain ⟨refuses, grants⟩ := tryReserve_refines request agree
    rw [Held.tryReserveAll, List.map_cons, tryReserveFrom]
    cases outcome : counts.tryReserve request with
    | none =>
      have refused := refuses outcome
      simp [line, show tryReserve held request.productId request.quantity (request.stock.map Int.ofNat) = (false, held)
        from refused]
    | some counts' =>
      obtain ⟨held', granted, agree'⟩ := grants counts' outcome
      simpa [line, show tryReserve held request.productId request.quantity (request.stock.map Int.ofNat) = (true, held')
        from granted] using ih agree' (taken ++ [line request])

/-! ### Reservations keep to the holds -/

/-- For every sequence of calls: requests are held all or not at all, and each line is granted within its stock;
    nothing is reserved below zero, nor beyond the holds outstanding, which are what is reserved while no hold is
    released twice. A second release takes the units off again: it changes nothing exactly when no hold outstanding
    has units of its products. -/
theorem reservations_keep_to_holds (actions : List Action) :
    (∀ requests refused held', tryReserveAll (run actions).held requests = (refused, held') →
      (refused.isSome → ∀ p, reserved held' p = reserved (run actions).held p) ∧
      (refused = none → (∀ p, reserved held' p = reserved (run actions).held p + units requests p) ∧
        (∀ first line rest stock, requests = first ++ line :: rest → line.stock = some stock →
          reserved (run actions).held line.productId + units (first ++ [line]) line.productId ≤ stock) ∧
        ∀ p stock, 0 < units requests p → (∀ line ∈ requests, line.productId = p → line.stock = some stock) →
          reserved held' p ≤ stock)) ∧
    (∀ p, 0 ≤ reserved (run actions).held p ∧ reserved (run actions).held p ≤ outstanding (run actions).holds p) ∧
    (ReleasedOnce actions →
      (∀ p, reserved (run actions).held p = outstanding (run actions).holds p) ∧
      ∀ hold granted, (run actions).holds[hold]? = some granted → granted.outstanding = false →
        ((∀ p, reserved (step (run actions) (.release hold)).held p = reserved (run actions).held p) ↔
          ∀ p, 0 < units granted.lines p → outstanding (run actions).holds p = 0)) := by
  have within := run_within actions
  refine ⟨fun requests refused held' ran => ?_, within, fun once => ?_⟩
  · have all := reserved_tryReserveAll (fun q => (within q).1) ran
    refine ⟨?_, ?_⟩
    · intro short p
      cases refused with
      | none => simp at short
      | some product => simpa using all p
    · rintro rfl
      have grants : ∀ first line rest stock, requests = first ++ line :: rest → line.stock = some stock →
          reserved (run actions).held line.productId + units (first ++ [line]) line.productId ≤ stock := by
        rintro first line rest stock rfl given
        exact tryReserveFrom_bound given ran
      refine ⟨fun p => by simpa using all p, grants, fun p stock named agreed => ?_⟩
      obtain ⟨first, line, rest, rfl, rfl, last⟩ := units_last named
      have bound := grants first line rest stock rfl (agreed line (by simp) rfl)
      rw [last] at bound
      simpa using (all line.productId).trans_le bound
  · have exact' := run_exact once
    refine ⟨exact', fun hold granted found _ => ?_⟩
    rw [release_again within found]
    simp only [exact', Int.natCast_eq_zero]

/-- Two purchases of one unit each, the first of which is released twice. -/
def releasedTwice : List Action :=
  [.tryReserveAll [⟨"mug", 1, some 5⟩], .tryReserveAll [⟨"mug", 1, some 5⟩], .release 0, .release 0]

/-- The second release of the first hold takes off the unit of the second, which is still outstanding. -/
theorem released_twice : reserved (run (releasedTwice.take 3)).held "mug" = 1 ∧
    (run (releasedTwice.take 3)).holds[0]? = some ⟨[⟨"mug", 1, some 5⟩], false⟩ ∧
    reserved (run releasedTwice).held "mug" = 0 ∧ outstanding (run releasedTwice).holds "mug" = 1 := by
  decide

end AgentPey.Reservations
