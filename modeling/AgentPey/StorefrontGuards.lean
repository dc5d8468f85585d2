import AgentPey.StorefrontVisits

/-!
One app at a time. The locks, the keys in flight and the held units of an app are known to that app alone. While a build is
begun only when no other request of the merchant is under way, all requests are in one app at any time, and a
session is settled once over all the apps there ever were.
-/
namespace AgentPey.StorefrontGuards
open Receipts CheckoutSessions Orders Routines Gateway UcpCheckout Disciplines SessionWrites SessionLocks SessionPayments
open Storefronts StorefrontVisits
open Storefronts (host)
open Traces (along exec)

abbrev PoolEvent := Event Request PoolOp Failure PoolOp.Answer Reply

abbrev Platforms := System Request Pool PoolOp Failure PoolOp.Answer Reply

def inner : PoolEvent → Option Seen
  | .asked i c (.app _ o) => some (.asked i c o)
  | .answered i c (.app _ o) answer => some (.answered i c o answer)
  | .finished i c result => some (.finished i c result)
  | _ => none

def inApps (t : List PoolEvent) : List Seen := t.filterMap inner

/-- A request is under way in the app of a build. -/
def ServedBy (w : Platforms) (t : List PoolEvent) (i b : Nat) : Prop :=
  (∃ c phase, w.calls[i]? = some (c, phase) ∧ phase.over = false) ∧ ∃ c o, .asked i c (.app b o) ∈ t

/-- The requests that are under way at one time are in one app, and over all apps a session is settled again only when
    its settlements so far were refused. -/
structure Exclusive (w : Platforms) (t : List PoolEvent) : Prop where
  one_app : ∀ i j a b, ServedBy w t i a → ServedBy w t j b → a = b
  once : SettledOnce (inApps t)
  one : ∀ id, (unrefused id (inApps t)).length ≤ 1

variable (options : PoolOptions)

/-- A request begins to build only when no other one is under way. -/
def alone (w : Platforms) (a : Action Request Input PoolOutside) : Bool :=
  match (step (host options) w a).2 with
  | [.asked i _ (.verifyEscrow _)] => w.calls.zipIdx.all fun (call, j) => j = i || call.2.over
  | _ => true

/-! ### What is said of a platform -/

abbrev PoolModes := List (Request × Option Mode)

def stand : Place → Option Stand
  | .inside _ m => some m
  | _ => none

/-- How the requests stand to the sessions. -/
def inners (ms : PoolModes) : SessionLocks.Modes := ms.map fun call => (call.1, call.2.bind fun m => stand m.2)

def front (p : Pool) : Storefront := (appView (p.builds.length - 1)).get p

/-- What a place claims of the pool: whatever it is tied to is the last build. -/
def Fits (p : Pool) : Place → Prop
  | .away => True
  | .tied b => b + 1 = p.builds.length
  | .begun _ => False
  | .builds b => b + 1 = p.builds.length ∧ p.builds[b]? = some none
  | .inside b _ => b + 1 = p.builds.length ∧ ∃ built, p.builds[b]? = some (some (.ok built))

/-- The last build is the only one that matters. One request makes it, and until it is made nobody is in an app. -/
structure Guarded (p : Pool) (ms : PoolModes) (t : List PoolEvent) : Prop where
  fits : ∀ (i : Nat) c m, ms[i]? = some (c, some m) → m.1 = c ∧ Fits p m.2
  kept : ∀ b, p.built = some b → b + 1 = p.builds.length
  builder : ∀ (i j : Nat) c d m n a b, ms[i]? = some (c, some m) → ms[j]? = some (d, some n) → m.2 = .builds a →
    n.2 = .builds b → i = j
  served : ∀ (i : Nat) c b o, .asked i c (.app b o) ∈ t →
    i < ms.length ∧ ∀ d m, ms[i]? = some (d, some m) → ∃ s, m.2 = .inside b s
  charged : Charged options.deps (front p) (inners ms) (inApps t)

/-- Within one act a request may have begun a build that it has not asked anything for. -/
def Beginning (i : Nat) (p : Pool) (ms : PoolModes) (t : List PoolEvent) : Prop :=
  Guarded options p ms t ∨ ∃ p₀ ms₀ c x, Guarded options p₀ ms₀ t ∧ ms₀[i]? = some (c, some (c, x)) ∧ x.free ∧
    p = (beginBuild p₀).2 ∧ ms = ms₀.set i (c, some (c, .begun p₀.builds.length))

section
variable {options} {p p' : Pool} {ms : PoolModes} {t : List PoolEvent} {i : Nat} {c : Request} {x x' : Place}

theorem inners_get {m : Stand} : (inners ms)[i]? = some (c, some m) ↔
    ∃ d b, ms[i]? = some (c, some (d, .inside b m)) := by
  rw [inners, List.getElem?_map, Option.map_eq_some_iff]
  constructor
  · rintro ⟨⟨c', mode⟩, found, same⟩
    obtain ⟨rfl, bound⟩ := Prod.mk.inj same
    obtain ⟨⟨d, place⟩, rfl, stands⟩ := Option.bind_eq_some_iff.mp bound
    cases place with
    | inside b m' =>
      cases stands
      exact ⟨d, b, found⟩
    | _ => cases stands
  · rintro ⟨d, b, found⟩
    exact ⟨_, found, rfl⟩

theorem inners_set (mode : Option Mode) :
    inners (ms.set i (c, mode)) = (inners ms).set i (c, mode.bind fun m => stand m.2) := by
  rw [inners, List.map_set]
  rfl

variable {b : Nat}

variable {built : Built} {e : PoolEvent} {o : PoolOp} {config : GatewayConfig} {w after : Platforms}
   {a : Action Request Input PoolOutside}

theorem memoryOf_set (s : Storefront) (ready : p.builds[b]? = some (some (.ok built))) :
    (appView b).get ((appView b).set s p) = s := by
  have here : (p.builds.modify b (setMemory s.memory))[b]? = some (some (.ok { built with memory := s.memory })) := by
    rw [List.getElem?_modify_eq, ready]
    rfl
  have memory : memoryOf ((appView b).set s p) b = s.memory := by
    rw [memoryOf, show ((appView b).set s p).builds[b]? = some (some (.ok { built with memory := s.memory })) from here]
  change (⟨s.toCommons, memoryOf ((appView b).set s p) b⟩ : Storefront) = s
  rw [memory]

theorem Fits.tie (fits : Fits p x) (tied : x.tie = some b) : b + 1 = p.builds.length := by
  cases x with
  | away => cases tied
  | tied b' => cases tied; exact fits
  | begun b' => exact fits.elim
  | builds b' => cases tied; exact fits.1
  | inside b' s => cases tied; exact fits.1

theorem Fits.free (fits : Fits p x) (same : p'.builds = p.builds) : Fits p' x := by
  cases x <;> simp_all [Fits]

theorem Guarded.place (guarded : Guarded options p ms t) (mode : ms[i]? = some (c, some (c, x))) {t' : List PoolEvent}
    (others : ∀ (j : Nat) d y, j ≠ i → ms[j]? = some (d, some (d, y)) → Fits p y → Fits p' y) (fits : Fits p' x')
    (kept : ∀ b, p'.built = some b → b + 1 = p'.builds.length) (builder : ∀ b, x' = .builds b → x = .builds b)
    (events : ∀ j d b o, .asked j d (.app b o) ∈ t' → .asked j d (.app b o) ∈ t ∨ (j = i ∧ ∃ s, x' = .inside b s))
    (stays : ∀ b s, x = .inside b s → ∃ s', x' = .inside b s')
    (charged : Charged options.deps (front p') ((inners ms).set i (c, (some (c, x')).bind fun m => stand m.2)) (inApps t')) :
    Guarded options p' (ms.set i (c, some (c, x'))) t' where
  fits j d m found := by
    rcases mode_of_set found with ⟨_, rfl, same⟩ | ⟨different, old⟩
    · cases same
      exact ⟨rfl, fits⟩
    · obtain ⟨d', y⟩ := m
      obtain ⟨rfl, fits⟩ := guarded.fits j d _ old
      exact ⟨rfl, others j _ y different old fits⟩
  kept := kept
  builder j k d e m n a b foundj foundk buildsj buildsk := by
    have older : ∀ (j : Nat) d m a, (ms.set i (c, some (c, x')))[j]? = some (d, some m) → m.2 = .builds a →
        ∃ m', ms[j]? = some (d, some m') ∧ m'.2 = .builds a := by
      intro j d m a found builds
      rcases mode_of_set found with ⟨rfl, rfl, same⟩ | ⟨_, old⟩
      · cases same
        exact ⟨_, mode, builder a builds⟩
      · exact ⟨m, old, builds⟩
    obtain ⟨m', oldj, buildsj⟩ := older j d m a foundj buildsj
    obtain ⟨n', oldk, buildsk⟩ := older k e n b foundk buildsk
    exact guarded.builder j k d e m' n' a b oldj oldk buildsj buildsk
  served j d b o asked := by
    rw [List.length_set]
    rcases events j d b o asked with old | ⟨rfl, new⟩
    · obtain ⟨inside, places⟩ := guarded.served j d b o old
      refine ⟨inside, fun e m found => ?_⟩
      rcases mode_of_set found with ⟨rfl, rfl, same⟩ | ⟨_, older⟩
      · cases same
        obtain ⟨s, here⟩ := places _ _ mode
        exact stays b s here
      · exact places e m older
    · refine ⟨(List.getElem?_eq_some_iff.mp mode).1, fun e m found => ?_⟩
      rcases mode_of_set found with ⟨_, rfl, same⟩ | ⟨different, _⟩
      · cases same
        exact new
      · exact (different rfl).elim
  charged := by
    rw [inners_set]
    exact charged

/-- Nobody is in an app while a build is under way. -/
theorem Guarded.nobody (guarded : Guarded options p ms t) (mode : ms[i]? = some (c, some (c, .builds b))) :
    ∀ (j : Nat) d m, (inners ms)[j]? ≠ some (d, some m) := by
  intro j d m found
  obtain ⟨e, b', here⟩ := inners_get.mp found
  obtain ⟨last, pending⟩ := (guarded.fits i c _ mode).2
  obtain ⟨last', built, ready⟩ := (guarded.fits j d _ here).2
  obtain rfl : b = b' := by omega
  rw [pending] at ready
  cases ready

theorem ready_of_modify {b b' : Nat} (memory : Memory) (ready : p.builds[b]? = some (some (.ok built))) :
    ∃ built, (p.builds.modify b' (setMemory memory))[b]? = some (some (.ok built)) := by
  by_cases same : b' = b
  · subst same
    exact ⟨_, by rw [List.getElem?_modify_eq, ready]; rfl⟩
  · exact ⟨built, by rw [List.getElem?_modify_ne _ _ same, ready]⟩

theorem Fits.inApp {y : Place} (fits : Fits p y) (s : Storefront) : Fits ((appView b).set s p) y := by
  have length : ((appView b).set s p).builds.length = p.builds.length := List.length_modify _ _ _
  cases y with
  | away => trivial
  | tied b' => exact fits.trans length.symm
  | begun b' => exact fits.elim
  | builds b' =>
    refine ⟨fits.1.trans length.symm, ?_⟩
    change (p.builds.modify b (setMemory s.memory))[b']? = some none
    rw [List.getElem?_modify, fits.2]
    split <;> rfl
  | inside b' m =>
    obtain ⟨last, built, ready⟩ := fits
    exact ⟨last.trans length.symm, ready_of_modify s.memory ready⟩

theorem front_of_tie (last : b + 1 = p.builds.length) : front p = (appView b).get p := by
  rw [front, ← last, Nat.add_sub_cancel]

theorem Guarded.set_front (guarded : Guarded options p ms t) {m : Stand}
    (mode : ms[i]? = some (c, some (c, .inside b m))) (s : Storefront) : front ((appView b).set s p) = s := by
  obtain ⟨last, built, ready⟩ := (guarded.fits i c _ mode).2
  have length : ((appView b).set s p).builds.length = p.builds.length := List.length_modify _ _ _
  rw [front_of_tie (last.trans length.symm)]
  exact memoryOf_set s ready

theorem Guarded.inApp (guarded : Guarded options p ms t) {m m' : Stand} {s : Storefront} {e : List PoolEvent}
    (mode : ms[i]? = some (c, some (c, .inside b m))) (events : ∀ j d b' o, .asked j d (.app b' o) ∈ e → j = i ∧ b' = b)
    (charged : Charged options.deps s ((inners ms).set i (c, some m')) (inApps (t ++ e))) :
    Guarded options ((appView b).set s p) (ms.set i (c, some (c, .inside b m'))) (t ++ e) := by
  obtain ⟨last, built, ready⟩ := (guarded.fits i c _ mode).2
  have length : ((appView b).set s p).builds.length = p.builds.length := List.length_modify _ _ _
  apply guarded.place mode
  · exact fun j d y _ _ fits => fits.inApp s
  · exact ⟨last.trans length.symm, ready_of_modify s.memory ready⟩
  · intro b' kept
    rw [length]
    exact guarded.kept b' kept
  · rintro b' ⟨⟩
  · intro j d b' o asked
    rcases List.mem_append.mp asked with old | new
    · exact .inl old
    · obtain ⟨rfl, rfl⟩ := events j d b' o new
      exact .inr ⟨rfl, m', rfl⟩
  · rintro _ _ ⟨⟩
    exact ⟨m', rfl⟩
  · rw [guarded.set_front mode s]
    exact charged

variable {m m' : Mode}

theorem Guarded.goes (guarded : Guarded options p ms t) (mode : ms[i]? = some (c, some m))
    (goes : Goes options m p p' m') : Beginning options i p' (ms.set i (c, some m')) t := by
  obtain ⟨rfl, fits⟩ := guarded.fits i c m mode
  have quiet : ∀ (mode : Option Mode) {x : Place}, ms[i]? = some (m.1, some (m.1, x)) → stand x = none →
      (mode.bind fun m => stand m.2) = none → (inners ms).set i (m.1, mode.bind fun m => stand m.2) = inners ms := by
    intro mode x found apart apart'
    rw [apart']
    apply set_same
    rw [inners, List.getElem?_map, found]
    simp [apart]
  cases goes with
  | @same c x p free =>
    left
    rw [set_same mode]
    exact guarded
  | @looks c p found =>
    left
    apply guarded.place mode
    · exact fun j d y _ _ fits => fits.free rfl
    · trivial
    · exact guarded.kept
    · rintro b ⟨⟩
    · exact fun _ _ _ _ old => .inl old
    · rintro b s ⟨⟩
    · rw [quiet _ mode rfl rfl]
      exact guarded.charged
  | @finds c p b kept =>
    left
    apply guarded.place mode
    · exact fun _ _ _ _ _ fits => fits
    · exact guarded.kept b kept
    · exact guarded.kept
    · rintro b ⟨⟩
    · exact fun _ _ _ _ old => .inl old
    · rintro b s ⟨⟩
    · rw [quiet _ mode rfl rfl]
      exact guarded.charged
  | @begins c x p free =>
    exact .inr ⟨p, ms, c, x, guarded, mode, free, rfl, rfl⟩
  | @settles c b p result new =>
    left
    obtain ⟨last, pending⟩ := fits
    have length : (settleBuild b result p).builds.length = p.builds.length := List.length_set
    have free := guarded.nobody mode
    apply guarded.place mode
    · intro j d y different found fits
      cases y with
      | away => trivial
      | tied b' => exact fits.trans length.symm
      | begun b' => exact fits.elim
      | builds b' => exact (different (guarded.builder j i d c _ _ b' b found mode rfl rfl)).elim
      | inside b' m => exact (free j d m (inners_get.mpr ⟨d, b', found⟩)).elim
    · exact last.trans length.symm
    · intro b' kept
      rw [length]
      apply guarded.kept
      rw [settleBuild] at kept
      dsimp only at kept
      split_ifs at kept
      · exact kept
      · exact (Option.filter_eq_some_iff.mp kept).1
    · rintro b ⟨⟩
    · exact fun _ _ _ _ old => .inl old
    · rintro b s ⟨⟩
    · rw [quiet _ mode rfl rfl]
      -- The new app holds nothing yet.
      have memory : (front (settleBuild b result p)).memory.holds = [] := by
        rw [front_of_tie (last.trans length.symm)]
        change (memoryOf (settleBuild b result p) b).holds = []
        have inside : b < p.builds.length := by omega
        have here : (settleBuild b result p).builds[b]? = some (some result) := List.getElem?_set_self inside
        rw [memoryOf, here]
        cases result with
        | error e => rfl
        | ok built =>
          obtain ⟨orders, opened⟩ := new built rfl
          simp only [opened]
          rfl
      have ucp : UcpHolds (front (settleBuild b result p)) := by
        intro hold member
        rw [memory] at member
        cases member
      exact guarded.charged.apart rfl rfl ucp free
  | @enters c b p built ready =>
    left
    apply guarded.place mode
    · exact fun _ _ _ _ _ fits => fits
    · exact ⟨fits, built, ready⟩
    · exact guarded.kept
    · rintro b ⟨⟩
    · exact fun _ _ _ _ old => .inl old
    · rintro b s ⟨⟩
    · exact guarded.charged.enter
  | @inner c b config m p s m' moves =>
    left
    have here : (inners ms)[i]? = some (c, some m) := inners_get.mpr ⟨c, b, mode⟩
    rw [← front_of_tie fits.1] at moves
    have charged : Charged { options.deps with config := config } (front p) (inners ms) (inApps t) :=
      guarded.charged.config rfl
    have kept := guarded.inApp (e := []) mode (fun _ _ _ _ asked => by cases asked)
      (by rw [List.append_nil]; exact (charged.moves here moves).config rfl)
    rwa [List.append_nil] at kept

theorem inApps_append (t : List PoolEvent) (e : PoolEvent) : inApps (t ++ [e]) = inApps t ++ (inner e).toList := by
  rw [inApps, List.filterMap_append]
  cases seen : inner e <;> simp [inApps, seen]

theorem inApps_other (other : inner e = none) : inApps (t ++ [e]) = inApps t := by
  rw [inApps_append, other, Option.toList_none, List.append_nil]

section
variable (guarded : Guarded options p ms t)
include guarded

theorem Guarded.event (other : inner e = none) : Guarded options p ms (t ++ [e]) where
  fits := guarded.fits
  kept := guarded.kept
  builder := guarded.builder
  served j d b o asked := by
    rcases List.mem_append.mp asked with old | new
    · exact guarded.served j d b o old
    · obtain rfl := List.mem_singleton.mp new
      cases other
  charged := by
    rw [inApps_other other]
    exact guarded.charged

theorem Guarded.asks (mode : ms[i]? = some (c, some m))
    (asks : Asks m o m') : Guarded options p (ms.set i (c, some m')) (t ++ [.asked i c o]) := by
  obtain ⟨rfl, fits⟩ := guarded.fits i c m mode
  have stays : m' = m → inner (.asked i m.1 o) = none →
      Guarded options p (ms.set i (m.1, some m')) (t ++ [.asked i m.1 o]) := by
    rintro rfl other
    rw [set_same mode]
    exact guarded.event other
  obtain ⟨c, x⟩ := m
  cases x with
  | begun b => exact fits.elim
  | away => cases o <;> first | exact asks.elim | exact stays asks rfl
  | tied b =>
    cases o with
    | built other => exact stays asks.2 rfl
    | idle other => exact stays asks rfl
    | store => exact stays asks rfl
    | getBySlug | verifyEscrow | openOrders | app => exact asks.elim
  | builds b => cases o <;> first | exact asks.elim | exact stays asks rfl
  | inside b m =>
    cases o with
    | app other o =>
      obtain ⟨rfl, m₁, asks, rfl⟩ := asks
      have here : (inners ms)[i]? = some (c, some m) := inners_get.mpr ⟨c, other, mode⟩
      have same : (appView other).set (front p) p = p := by
        rw [front_of_tie fits.1]
        change { p with shop := p.shop, builds := p.builds.modify other (setMemory (memoryOf p other)) } = p
        obtain ⟨_, built, ready⟩ := fits
        have unchanged : p.builds.modify other (setMemory (memoryOf p other)) = p.builds := by
          apply List.ext_getElem?
          intro j
          by_cases same : other = j
          · subst same
            rw [List.getElem?_modify_eq, memoryOf, ready]
            rfl
          · rw [List.getElem?_modify_ne _ _ same]
        rw [unchanged]
      have charged : Charged options.deps (front p) ((inners ms).set i (c, some m₁))
          (inApps (t ++ [.asked i c (.app other o)])) := by
        rw [inApps_append]
        exact guarded.charged.asks here asks
      have inApp := guarded.inApp mode (fun j d b' o' asked => ?_) charged
      · rwa [same] at inApp
      · cases List.mem_singleton.mp asked
        exact ⟨rfl, rfl⟩
    | getBySlug | built | idle | verifyEscrow | openOrders | store => exact asks.elim

theorem Guarded.begins (mode : ms[i]? = some (c, some (c, x))) (free : x.free)
    (alone : ∀ (j : Nat) d m, j ≠ i → ms[j]? ≠ some (d, some m)) :
    Guarded options (beginBuild p).2 (ms.set i (c, some (c, .builds p.builds.length)))
      (t ++ [.asked i c (.verifyEscrow config)]) := by
  have length : (beginBuild p).2.builds.length = p.builds.length + 1 := List.length_append
  have only : ∀ (j : Nat) d m, (ms.set i (c, some (c, .builds p.builds.length)))[j]? = some (d, some m) →
      j = i ∧ d = c ∧ m = (c, .builds p.builds.length) := by
    intro j d m found
    rcases mode_of_set found with ⟨rfl, rfl, same⟩ | ⟨different, old⟩
    · cases same
      exact ⟨rfl, rfl, rfl⟩
    · exact (alone j d m different old).elim
  refine Guarded.event ?_ rfl
  constructor
  · intro j d m found
    obtain ⟨rfl, rfl, rfl⟩ := only j d m found
    exact ⟨rfl, length.symm, List.getElem?_concat_length⟩
  · rintro b ⟨⟩
    exact length.symm
  · intro j k d e m n a b foundj foundk _ _
    rw [(only j d m foundj).1, (only k e n foundk).1]
  · intro j d b o asked
    obtain ⟨old, places⟩ := guarded.served j d b o asked
    refine ⟨by simpa using old, fun e m found => ?_⟩
    obtain ⟨rfl, rfl, rfl⟩ := only j e m found
    obtain ⟨s, rfl⟩ := places _ _ mode
    exact free.elim
  · have ucp : UcpHolds (front (beginBuild p).2) := by
      have memory : (front (beginBuild p).2).memory.holds = [] := by
        rw [front_of_tie length.symm]
        change (memoryOf (beginBuild p).2 p.builds.length).holds = []
        have here : (beginBuild p).2.builds[p.builds.length]? = some none := List.getElem?_concat_length
        rw [memoryOf, here]
        rfl
      intro hold member
      rw [memory] at member
      cases member
    refine guarded.charged.apart rfl rfl ucp fun j d m found => ?_
    obtain ⟨e, b, here⟩ := inners_get.mp found
    cases (only j d _ here).2.2

end

theorem nobody_of_alone (may : alone options w a = true)
    (stepped : step (host options) w a = (after, [.asked i c (.verifyEscrow config)]))
    (others : Others (visits options) Ends w.calls ms i) : ∀ (j : Nat) d m, j ≠ i → ms[j]? ≠ some (d, some m) := by
  intro j d m different found
  have inside := others.1 j different (List.getElem?_eq_some_iff.mp found).1
  obtain ⟨mode, here, stands⟩ := others.2 j w.calls[j].1 w.calls[j].2 different (List.getElem?_eq_getElem inside)
  simp only [alone, stepped, List.all_eq_true] at may
  have finished := may (w.calls[j], j) (List.mk_mem_zipIdx_iff_getElem?.mpr (List.getElem?_eq_getElem inside))
  simp only [different, decide_false, Bool.false_or] at finished
  rw [stands.over finished, found] at here
  cases here

section
variable (beginning : Beginning options i p ms t) (mode : ms[i]? = some (c, some m))
include beginning mode

theorem Beginning.asks (asks : Asks m o m') (others : Others (visits options) Ends w.calls ms i)
    (may : alone options w a = true) (stepped : step (host options) w a = (after, [.asked i c o])) :
    Guarded options p (ms.set i (c, some m')) (t ++ [.asked i c o]) := by
  rcases beginning with guarded | ⟨p₀, ms₀, d, x, guarded, mode₀, free, rfl, rfl⟩
  · exact guarded.asks mode asks
  · have inside := (List.getElem?_eq_some_iff.mp mode₀).1
    rw [List.getElem?_set_self inside] at mode
    cases mode
    cases o with
    | verifyEscrow config =>
      obtain rfl : m' = (c, .builds p₀.builds.length) := asks
      rw [List.set_set]
      apply guarded.begins mode₀ free
      intro j e m different found
      apply nobody_of_alone may stepped others j e m different
      rw [List.getElem?_set_ne (Ne.symm different), found]
    | getBySlug | built | idle | openOrders | store | app => exact asks.elim

theorem Beginning.goes (goes : Goes options m p p' m') : Beginning options i p' (ms.set i (c, some m')) t := by
  rcases beginning with guarded | ⟨p₀, ms₀, d, x, guarded, mode₀, free, rfl, rfl⟩
  · exact guarded.goes mode goes
  · have inside := (List.getElem?_eq_some_iff.mp mode₀).1
    rw [List.getElem?_set_self inside] at mode
    cases mode
    -- A build that is begun is asked for at once.
    cases goes with
    | same free => exact free.elim
    | begins free => exact free.elim

end

theorem Guarded.over (guarded : Guarded options p ms t) (i : Nat) (c : Request) (result : Except Failure Reply) :
    Guarded options p (ms.set i (c, none)) (t ++ [.finished i c result]) := by
  have older : ∀ {j : Nat} {d : Request} {m : Mode}, (ms.set i (c, none))[j]? = some (d, some m) →
      ms[j]? = some (d, some m) := by
    intro j d m found
    rcases mode_of_set found with ⟨_, _, same⟩ | ⟨_, old⟩
    · cases same
    · exact old
  constructor
  · exact fun j d m found => guarded.fits j d m (older found)
  · exact guarded.kept
  · exact fun j k d e m n a b foundj foundk => guarded.builder j k d e m n a b (older foundj) (older foundk)
  · intro j d b o asked
    rcases List.mem_append.mp asked with old | new
    · obtain ⟨inside, places⟩ := guarded.served j d b o old
      exact ⟨by simpa using inside, fun e m found => places e m (older found)⟩
    · cases List.mem_singleton.mp new
  · rw [inners_set, inApps_append]
    exact guarded.charged.finish i c result

theorem Beginning.finish {m : Mode} {result : Except Failure Reply} (beginning : Beginning options i p ms t)
    (mode : ms[i]? = some (c, some m)) (ends : Ends c m result) :
    Guarded options p (ms.set i (c, none)) (t ++ [.finished i c result]) := by
  rcases beginning with guarded | ⟨p₀, ms₀, d, x, guarded, mode₀, free, rfl, rfl⟩
  · exact guarded.over i c result
  · have inside := (List.getElem?_eq_some_iff.mp mode₀).1
    rw [List.getElem?_set_self inside] at mode
    cases mode
    rcases ends with free | ⟨b, s, place, _⟩
    · exact free.elim
    · cases place

section
variable (guarded : Guarded options p ms t)
include guarded

theorem Guarded.serve {m m₀ : Mode} {input : Input} {answer : Except Failure o.Answer} (mode : ms[i]? = some (c, some m))
    (asks : Asks m₀ o m) (served : servePool o input p = some (answer, p')) : (visits options).expects o answer ∧
      Guarded options p' (ms.set i (c, some ((visits options).answer m o answer))) (t ++ [.answered i c o answer]) := by
  obtain ⟨rfl, fits⟩ := guarded.fits i c m mode
  have stays : p' = p → Guarded options p' (ms.set i (m.1, some m)) (t ++ [.answered i m.1 o answer]) ∨
      ∃ b o', o = .app b o' := by
    rintro rfl
    cases o with
    | app b o' => exact .inr ⟨b, o', rfl⟩
    | _ =>
      left
      rw [set_same mode]
      exact guarded.event rfl
  have unchanged : ∀ {α : Type} {value : α} {answer : Except Failure α}, poolAnswer input value p = some (answer, p') →
      p' = p := by
    intro α value answer served
    rw [poolAnswer] at served
    split at served <;> cases served <;> rfl
  cases o with
  | app b o =>
    obtain ⟨d, x⟩ := m₀
    cases x with
    | inside b' m₁ =>
      obtain ⟨rfl, m₂, asks, rfl⟩ := asks
      rw [servePool] at served
      split at served
      · rename_i answer' s found
        cases served
        rw [← front_of_tie fits.1] at found
        have here : (inners ms)[i]? = some (d, some m₂) := inners_get.mpr ⟨d, b, mode⟩
        obtain ⟨expected, charged⟩ := guarded.charged.serve here asks found
        refine ⟨expected, guarded.inApp mode (fun j e b' o' asked => ?_) ?_⟩
        · cases List.mem_singleton.mp asked
        · rw [inApps_append]
          exact charged
      · cases served
    | away | tied | begun | builds => exact asks.elim
  | getBySlug | verifyEscrow | openOrders =>
    refine ⟨trivial, ?_⟩
    rcases stays (unchanged served) with kept | ⟨_, _, impossible⟩
    · exact kept
    · cases impossible
  | built b =>
    refine ⟨trivial, ?_⟩
    rw [servePool] at served
    rcases stays (by split at served <;> cases served <;> rfl) with kept | ⟨_, _, impossible⟩
    · exact kept
    · cases impossible
  | idle | store =>
    refine ⟨trivial, ?_⟩
    rcases stays (by cases served; rfl) with kept | ⟨_, _, impossible⟩
    · exact kept
    · cases impossible

theorem Guarded.start (c : Request) : Guarded options p (ms ++ [(c, some (c, .away))]) t := by
  have inner : inners (ms ++ [(c, some (c, .away))]) = inners ms ++ [(c, none)] := by simp [inners, stand]
  constructor
  · intro j d m found
    rcases mode_of_append found with ⟨_, rfl, same⟩ | old
    · cases same
      exact ⟨rfl, trivial⟩
    · exact guarded.fits j d m old
  · exact guarded.kept
  · have older : ∀ {j : Nat} {d : Request} {m : Mode} {b : Nat}, (ms ++ [(c, some (c, .away))])[j]? = some (d, some m) →
        m.2 = .builds b → ms[j]? = some (d, some m) := by
      intro j d m b found builds
      rcases mode_of_append found with ⟨_, _, same⟩ | old
      · cases same
        cases builds
      · exact old
    exact fun j k d e m n a b foundj foundk buildsj buildsk =>
      guarded.builder j k d e m n a b (older foundj buildsj) (older foundk buildsk) buildsj buildsk
  · intro j d b o asked
    obtain ⟨inside, places⟩ := guarded.served j d b o asked
    refine ⟨by rw [List.length_append]; omega, fun e m found => ?_⟩
    rw [List.getElem?_append_left inside] at found
    exact places e m found
  · -- To the apps nothing has happened.
    have older : ∀ (j : Nat) d m, (inners ms ++ [(c, none)])[j]? = some (d, some m) → (inners ms)[j]? = some (d, some m) := by
      intro j d m found
      rcases mode_of_append found with ⟨_, _, same⟩ | old
      · cases same
      · exact old
    have aside := guarded.charged.aside (e := []) (guarded.charged.orderly.others fun j d m found => .inl (older j d m found))
      rfl (fun id => by rw [List.append_nil]) (by rw [List.append_nil]; exact guarded.charged.once)
      fun j d m found => .inl (older j d m found)
    rw [List.append_nil] at aside
    rwa [inner]

theorem Guarded.outside (k : PoolOutside) : Guarded options (poolOutside k p) ms t := by
  have builds : (poolOutside k p).builds = p.builds := by cases k <;> rfl
  have built : (poolOutside k p).built = p.built := by cases k <;> rfl
  constructor
  · exact fun j d m found => ⟨(guarded.fits j d m found).1, (guarded.fits j d m found).2.free builds⟩
  · rw [builds, built]
    exact guarded.kept
  · exact guarded.builder
  · exact guarded.served
  · cases k with
    | configure comercio => exact guarded.charged
    | shop k =>
      cases k with
      | close ticket => exact guarded.charged
      | clock now => exact guarded.charged.outside (.clock now)
      | catalogue id product => exact guarded.charged.outside (.catalogue id product)
      | restock id stock => exact guarded.charged.outside (.restock id stock)

theorem Guarded.crash : Guarded options (restartPool p) (ms.map fun call => (call.1, none)) t := by
  constructor
  · intro j d m found
    cases mode_of_kill found
  · rintro b ⟨⟩
  · intro j k d e m n a b found
    cases mode_of_kill found
  · intro j d b o asked
    obtain ⟨inside, _⟩ := guarded.served j d b o asked
    refine ⟨by rwa [List.length_map], fun e m found => ?_⟩
    cases mode_of_kill found
  · refine guarded.charged.apart rfl rfl guarded.charged.orderly.ucp fun j d m found => ?_
    obtain ⟨e, b, here⟩ := inners_get.mp found
    cases mode_of_kill here

end

theorem Guarded.exclusive (guarded : Guarded options w.shared ms t)
    (aligned : Aligned (visits options) Ends w.calls ms) : Exclusive w t := by
  have last : ∀ i b, ServedBy w t i b → b + 1 = w.shared.builds.length := by
    rintro i b ⟨⟨c, phase, found, running⟩, d, o, asked⟩
    obtain ⟨mode, here, stands⟩ := aligned.2 i c phase found
    obtain ⟨m, rfl⟩ := stands.running running
    obtain ⟨s, place⟩ := (guarded.served i d b o asked).2 c m here
    exact (guarded.fits i c m here).2.tie (by rw [place]; rfl)
  refine ⟨fun i j a b ina inb => ?_, guarded.charged.once, guarded.charged.one⟩
  have := last i a ina
  have := last j b inb
  omega

end

/-! ### Whole runs -/

theorem keeps_guarded :
    Keeps (host options) (visits options) Ends (Guarded options) (Beginning options)
      fun w _ a => alone options w a where
  start guarded _ _ := ⟨_, follows_serveStore options _, .inl (guarded.start _)⟩
  resume guarded _ _ := .inl guarded
  sync beginning mode goes := beginning.goes mode goes
  ask beginning mode asks others may stepped := beginning.asks mode asks others may stepped
  serve guarded _ mode _ _ asks served := guarded.serve mode asks served
  finish beginning mode ends _ _ := beginning.finish mode ends
  outside guarded _ := guarded.outside _
  crash guarded _ _ := guarded.crash

theorem guarded_opened (opensAt : Int) (platform : Platform) (comercio : Option Comercio) :
    Guarded options (openedPool opensAt platform comercio) [] [] := by
  constructor
  · intro i c m found
    simp at found
  · rintro b ⟨⟩
  · intro i j c d m n a b found
    simp at found
  · intro i c b o asked
    simp at asked
  · exact charged_opened options.deps opensAt platform

/-- In every run of a platform in which a request begins to build a merchant's app only when no other request of the
    merchant is under way, its requests are in one app at any time, and a session is not settled twice. -/
theorem one_app_at_a_time (opensAt : Int) (platform : Platform) (comercio : Option Comercio)
    (actions : List (Action Request Input PoolOutside)) (separate : ∀ before a after, actions = before ++ a :: after →
      alone options (exec (step (host options)) ⟨openedPool opensAt platform comercio, []⟩ before).1 a) :
    let run := exec (step (host options)) ⟨openedPool opensAt platform comercio, []⟩ actions
    Exclusive run.1 run.2 := by
  have start : Holds (visits options) Ends (Guarded options) ⟨openedPool opensAt platform comercio, []⟩ [] :=
    ⟨[], guarded_opened options opensAt platform comercio, aligned_nil⟩
  obtain ⟨ms, guarded, aligned⟩ := kept_along (keeps_guarded options) start actions separate
  exact guarded.exclusive aligned

/-! ### Two apps of one merchant -/

def teaMerchant (updatedAt : String) : Option Comercio := some ⟨"tea", true, updatedAt, teaShop.config⟩

def teaPool : PoolOptions := ⟨teaShop, 5000⟩

/-- A request's question is answered, and it goes on, so many times. -/
def goes (i n : Nat) : List (Action Request Input PoolOutside) :=
  (List.replicate n [.perform i answered, .resume i]).flatten

/-- One checkout, created and paid for; its store is written again, and the next request builds a new app. -/
def rebuiltBetween : List (Action Request Input PoolOutside) :=
  ([.start createTea] : List (Action Request Input PoolOutside)) ++ goes 0 10 ++
    ([.start completeTea] : List (Action Request Input PoolOutside)) ++ goes 1 12 ++
    ([.outside (.configure (teaMerchant "2")), .outside (.shop (.clock 5000)), .start readTea] :
      List (Action Request Input PoolOutside)) ++ goes 2 9

theorem one_app_at_a_time_sample :
    Exclusive (exec (step (host teaPool)) ⟨openedPool 0 (teaPlatform 5) (teaMerchant "1"), []⟩
        rebuiltBetween).1
      (exec (step (host teaPool)) ⟨openedPool 0 (teaPlatform 5) (teaMerchant "1"), []⟩ rebuiltBetween).2 :=
  one_app_at_a_time teaPool 0 (teaPlatform 5) (teaMerchant "1") rebuiltBetween
    (Traces.along_run (show along _ (fun w _ a => alone teaPool w a) _ [] rebuiltBetween from by decide +kernel))

/-- A request has read the session it completes; the store is written again; a second request for the same session builds
    a new app, whose lock is free, and settles; then the first one goes on and settles. -/
def rebuiltMeanwhile : List (Action Request Input PoolOutside) :=
  ([.start createTea] : List (Action Request Input PoolOutside)) ++ goes 0 10 ++
    ([.start completeTea] : List (Action Request Input PoolOutside)) ++ goes 1 3 ++
    ([.outside (.configure (teaMerchant "2")), .outside (.shop (.clock 5000)), .start completeTea] :
      List (Action Request Input PoolOutside)) ++ goes 2 10 ++ goes 1 2

theorem settled_by_two_apps :
    ¬Exclusive (exec (step (host teaPool)) ⟨openedPool 0 (teaPlatform 5) (teaMerchant "1"), []⟩
        rebuiltMeanwhile).1
      (exec (step (host teaPool)) ⟨openedPool 0 (teaPlatform 5) (teaMerchant "1"), []⟩
        rebuiltMeanwhile).2 := by
  intro exclusive
  have two : (unrefused teaSession (inApps (exec (step (host teaPool))
      ⟨openedPool 0 (teaPlatform 5) (teaMerchant "1"), []⟩ rebuiltMeanwhile).2)).length = 2 := by
    decide +kernel
  have one := exclusive.one teaSession
  omega

end AgentPey.StorefrontGuards
