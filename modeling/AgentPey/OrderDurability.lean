import AgentPey.Store
import AgentPey.Orders

/-!
What the `OrderStore` of a gateway (`orders.ts`) keeps through failed writes and crashes, over either of its backends: one
JSON file, rewritten by every write, or a row for each order. A change is in memory before its write is queued; the writes
run one after another. Every version of an order has a number, which the code does not have, and which only statements
about the store's past use. A write to a row that another merchant has is one that fails.
-/
namespace AgentPey.OrderDurability
open Store (Keyed lookup_insert)

variable {Record : Type}

structure Version (Record : Type) where
  seq : Nat
  record : Record
  deriving DecidableEq, Repr

abbrev Snapshot (Record : Type) := Keyed String (Version Record)

/-! ### The backends -/

/-- The file, with a snapshot or with the beginning of one's text, which is not JSON. A text that lacks only its last line
    break is whole. -/
inductive OrdersFile (Record : Type) where
  | absent
  | whole (all : Snapshot Record)
  | cut

inductive OrderPersistence (Record : Type) where
  | file (content : OrdersFile Record)
  | postgres (rows : Snapshot Record)

/-- `load`, and nothing where it throws. -/
def OrderPersistence.load : OrderPersistence Record → Option (Snapshot Record)
  | .file .absent => some ∅
  | .file (.whole all) => some all
  | .file .cut => none
  | .postgres rows => some rows

/-- What `persist` hands to the backend: a record, and every record. -/
structure Write (Record : Type) where
  orderId : String
  order : Version Record
  all : Snapshot Record

def OrderPersistence.save (w : Write Record) : OrderPersistence Record → OrderPersistence Record
  | .file _ => .file (.whole w.all)
  | .postgres rows => .postgres (rows.insert w.orderId w.order)

/-- How a write ends. One that is reported as failed may have been done, or cut short. -/
inductive Outcome where
  | stored
  | unreported
  | refused
  | cut
  deriving DecidableEq, Repr

def OrderPersistence.after (backend : OrderPersistence Record) (w : Write Record) : Outcome → OrderPersistence Record
  | .stored => backend.save w
  | .unreported => backend.save w
  | .refused => backend
  | .cut => match backend with
    | .file _ => .file .cut
    | .postgres rows => .postgres rows

/-! ### The store -/

/-- A store that could not be loaded is not open. Of the past: every version, those whose write was acknowledged, and those
    whose write was reported as failed. -/
structure OrderStore (Record : Type) where
  orders : Snapshot Record
  writing : List (Write Record)
  persistence : OrderPersistence Record
  isOpen : Bool
  versions : List (String × Record)
  acknowledged : List (String × Nat)
  failed : List (String × Nat)

def OrderStore.get (s : OrderStore Record) (orderId : String) : Option Record := (s.orders.lookup orderId).map Version.record

/-- `persist`, up to its await. -/
def OrderStore.persist (s : OrderStore Record) (orderId : String) (order : Version Record) : OrderStore Record :=
  { s with writing := s.writing ++ [⟨orderId, order, s.orders⟩] }

def OrderStore.set (s : OrderStore Record) (orderId : String) (record : Record) : OrderStore Record :=
  let order : Version Record := ⟨s.versions.length, record⟩
  { s with orders := s.orders.insert orderId order, versions := s.versions ++ [(orderId, record)] }.persist orderId order

/-- `update`, up to its await; a change may throw. -/
def OrderStore.update (s : OrderStore Record) (orderId : String) (change : Record → Option Record) : OrderStore Record :=
  match s.get orderId with
  | none => s
  | some current =>
    match change current with
    | none => s
    | some next => s.set orderId next

def OrderStore.endWrite (s : OrderStore Record) (w : Write Record) (rest : List (Write Record)) (outcome : Outcome) :
    OrderStore Record :=
  { s with writing := rest, persistence := s.persistence.after w outcome }

def OrderStore.report (s : OrderStore Record) (w : Write Record) : Outcome → OrderStore Record
  | .stored => { s with acknowledged := s.acknowledged ++ [(w.orderId, w.order.seq)] }
  | _ => { s with failed := s.failed ++ [(w.orderId, w.order.seq)] }

/-- `OrderStore.open`, over what the backend has. -/
def OrderStore.reopen (s : OrderStore Record) : OrderStore Record :=
  match s.persistence.load with
  | some all => { s with orders := all, writing := [], isOpen := true }
  | none => { s with orders := ∅, writing := [], isOpen := false }

inductive Act (Record : Type) where
  | put (orderId : String) (record : Record)
  | update (orderId : String) (change : Record → Option Record)
  /-- The first of the queued writes ends. -/
  | written (outcome : Outcome)
  /-- The process dies, and with it the queue; its first write may be under way. -/
  | crash (outcome : Outcome)

def step (s : OrderStore Record) : Act Record → OrderStore Record
  | .put orderId record => if s.isOpen then s.set orderId record else s
  | .update orderId change => if s.isOpen then s.update orderId change else s
  | .written outcome =>
    match s.writing with
    | [] => s
    | w :: rest => (s.endWrite w rest outcome).report w outcome
  | .crash outcome =>
    match s.writing with
    | [] => s.reopen
    | w :: rest => (s.endWrite w rest outcome).reopen

/-- A store over an empty backend: no file yet, or no rows. -/
inductive Medium where
  | file
  | postgres
  deriving DecidableEq, Repr

def Medium.empty : Medium → OrderPersistence Record
  | .file => .file .absent
  | .postgres => .postgres ∅

def opened (medium : Medium) : OrderStore Record := ⟨∅, [], medium.empty, true, [], [], []⟩

def run (medium : Medium) (acts : List (Act Record)) : OrderStore Record := acts.foldl step (opened medium)

/-! ### The order of the snapshots -/

/-- Every order of one snapshot is in the other, in the same version or a later one. -/
def Older (first second : Snapshot Record) : Prop :=
  ∀ id v, first.lookup id = some v → ∃ v', second.lookup id = some v' ∧ v.seq ≤ v'.seq

theorem Older.refl (all : Snapshot Record) : Older all all := fun _ v found => ⟨v, found, Nat.le_refl _⟩

variable {first second : Snapshot Record} {id : String} {order : Version Record} {acts : List (Act Record)}

theorem Older.trans {third : Snapshot Record} (one : Older first second) (two : Older second third) : Older first third := by
  intro id v found
  obtain ⟨v', found', le⟩ := one id v found
  obtain ⟨v'', found'', le'⟩ := two id v' found'
  exact ⟨v'', found'', le.trans le'⟩

theorem Older.insert (older : Older first second)
    (later : ∀ v, second.lookup id = some v → v.seq ≤ order.seq) : Older first (second.insert id order) := by
  intro other v found
  obtain ⟨v', found', le⟩ := older other v found
  rw [lookup_insert]
  by_cases same : other = id
  · rw [if_pos same]
    exact ⟨order, rfl, le.trans (later v' (same ▸ found'))⟩
  · rw [if_neg same]
    exact ⟨v', found', le⟩

theorem Older.row (older : Older first second)
    (own : second.lookup id = some order) : Older (first.insert id order) second := by
  intro other v found
  rw [lookup_insert] at found
  by_cases same : other = id
  · rw [if_pos same] at found
    exact ⟨order, same ▸ own, Nat.le_of_eq (congrArg Version.seq (Option.some.inj found)).symm⟩
  · rw [if_neg same] at found
    exact older other v found

/-- What the backend has, what the queued writes have, and what is in the memory of an open store. -/
def OrderStore.snapshots (s : OrderStore Record) : List (Snapshot Record) :=
  s.persistence.load.toList ++ (s.writing.map Write.all ++ if s.isOpen then [s.orders] else [])

def Has (all : Snapshot Record) (version : String × Nat) : Prop :=
  ∃ v, all.lookup version.1 = some v ∧ version.2 ≤ v.seq

structure Durable (s : OrderStore Record) : Prop where
  sorted : s.snapshots.Pairwise Older
  real : ∀ all ∈ s.snapshots, ∀ id v, all.lookup id = some v → s.versions[v.seq]? = some (id, v.record)
  acknowledged : ∀ version ∈ s.acknowledged, ∀ all ∈ s.snapshots, Has all version
  own : ∀ w ∈ s.writing, w.all.lookup w.orderId = some w.order
  last : ∀ w, s.writing.getLast? = some w → w.all = s.orders

variable {s s' : OrderStore Record} {w : Write Record} {rest : List (Write Record)}

theorem durable_opened (medium : Medium) : Durable (opened medium : OrderStore Record) where
  sorted := by cases medium <;> simp [opened, OrderStore.snapshots, Medium.empty, OrderPersistence.load, Older.refl]
  real all among id v found := by
    have empty : all = ∅ := by
      cases medium <;> simpa [opened, OrderStore.snapshots, Medium.empty, OrderPersistence.load] using among
    rw [empty, AList.lookup_empty] at found
    cases found
  acknowledged version among := by simp [opened] at among
  own w among := by simp [opened] at among
  last w found := by simp [opened] at found

section
variable (durable : Durable s)
include durable

theorem Durable.seq_lt {all : Snapshot Record} (among : all ∈ s.snapshots) {v : Version Record}
    (found : all.lookup id = some v) : v.seq < s.versions.length :=
  (List.getElem?_eq_some_iff.mp (durable.real all among id v found)).1

theorem Durable.set (running : s.isOpen = true) (orderId : String) (record : Record) : Durable (s.set orderId record) := by
  have old : s.snapshots = s.persistence.load.toList ++ s.writing.map Write.all ++ [s.orders] := by
    rw [OrderStore.snapshots, if_pos running, List.append_assoc]
  set order : Version Record := ⟨s.versions.length, record⟩ with orderIs
  set orders := s.orders.insert orderId order with ordersIs
  have new : (s.set orderId record).snapshots =
      s.persistence.load.toList ++ s.writing.map Write.all ++ [orders, orders] := by
    simp [OrderStore.snapshots, OrderStore.set, OrderStore.persist, running, ordersIs, orderIs]
  have memory : s.orders ∈ s.snapshots := by simp [old]
  have later : ∀ v, s.orders.lookup orderId = some v → v.seq ≤ order.seq := fun v found =>
    (durable.seq_lt memory found).le
  have cases : ∀ all ∈ (s.set orderId record).snapshots, all ∈ s.snapshots ∨ all = orders := by
    intro all among
    rw [new] at among
    rw [old]
    simp only [List.mem_append, List.mem_cons, List.not_mem_nil, or_false] at among ⊢
    tauto
  have before : ∀ all ∈ s.snapshots, Older all orders := by
    intro all among
    rw [old] at among
    rcases List.mem_append.mp among with earlier | now
    · have sorted := durable.sorted
      rw [old] at sorted
      exact ((List.pairwise_append.mp sorted).2.2 all earlier s.orders (by simp)).insert later
    · rw [List.mem_singleton.mp now]
      exact (Older.refl s.orders).insert later
  refine ⟨?_, fun all among id v found => ?_, fun version kept all among => ?_, fun w among => ?_, fun w found => ?_⟩
  · have sorted := durable.sorted
    rw [old] at sorted
    rw [new, List.pairwise_append]
    refine ⟨(List.pairwise_append.mp sorted).1, by simp [Older.refl], fun all earlier next among => ?_⟩
    obtain rfl : next = orders := by simpa using among
    exact before all (by rw [old]; exact List.mem_append_left _ earlier)
  · have stays : ∀ {k : Nat} {x}, s.versions[k]? = some x → (s.versions ++ [(orderId, record)])[k]? = some x := by
      intro k x known
      rw [List.getElem?_append_left (List.getElem?_eq_some_iff.mp known).1, known]
    rcases cases all among with earlier | rfl
    · exact stays (durable.real all earlier id v found)
    · rw [ordersIs, lookup_insert] at found
      by_cases same : id = orderId
      · rw [if_pos same] at found
        obtain rfl := Option.some.inj found
        rw [same]
        exact List.getElem?_concat_length
      · rw [if_neg same] at found
        exact stays (durable.real s.orders memory id v found)
  · rcases cases all among with earlier | rfl
    · exact durable.acknowledged version kept all earlier
    · obtain ⟨v, found, le⟩ := durable.acknowledged version kept s.orders memory
      obtain ⟨v', found', le'⟩ := before s.orders memory version.1 v found
      exact ⟨v', found', le.trans le'⟩
  · rcases List.mem_append.mp (show w ∈ s.writing ++ [⟨orderId, order, orders⟩] from among) with earlier | now
    · exact durable.own w earlier
    · rw [List.mem_singleton.mp now]
      exact AList.lookup_insert _
  · have last : (s.writing ++ [(⟨orderId, order, orders⟩ : Write Record)]).getLast? = some w := found
    rw [List.getLast?_concat] at last
    rw [← Option.some.inj last]
    rfl

theorem Durable.fewer (sub : s'.snapshots.Sublist s.snapshots) (versions : s'.versions = s.versions)
    (acknowledged : s'.acknowledged = s.acknowledged) (writing : ∀ w ∈ s'.writing, w ∈ s.writing)
    (last : ∀ w, s'.writing.getLast? = some w → w.all = s'.orders) : Durable s' where
  sorted := durable.sorted.sublist sub
  real all among id v found := by
    rw [versions]
    exact durable.real all (sub.subset among) id v found
  acknowledged version kept all among := durable.acknowledged version (acknowledged ▸ kept) all (sub.subset among)
  own w among := durable.own w (writing w among)
  last := last

theorem Durable.last_rest (first : s.writing = w :: rest) : ∀ w', rest.getLast? = some w' → w'.all = s.orders := by
  intro w' found
  refine durable.last w' ?_
  rw [first, List.getLast?_cons, found]
  rfl

theorem Durable.row (first : s.writing = w :: rest) {rows : Snapshot Record} (table : s.persistence = .postgres rows) :
    Durable { s with writing := rest, persistence := .postgres (rows.insert w.orderId w.order) } := by
  have old : s.snapshots = rows :: (w.all :: (rest.map Write.all ++ if s.isOpen then [s.orders] else [])) := by
    simp [OrderStore.snapshots, table, first, OrderPersistence.load]
  have sorted := durable.sorted
  rw [old, List.pairwise_cons, List.pairwise_cons] at sorted
  obtain ⟨fromRows, fromWrite, later⟩ := sorted
  have own : w.all.lookup w.orderId = some w.order := durable.own w (by simp [first])
  have written : Older (rows.insert w.orderId w.order) w.all := (fromRows w.all (by simp)).row own
  have rowsThere : rows ∈ s.snapshots := by simp [old]
  have writeThere : w.all ∈ s.snapshots := by simp [old]
  refine ⟨?_, fun all among id v found => ?_, fun version kept all among => ?_, fun w' among => ?_, durable.last_rest first⟩
  · refine List.pairwise_cons.mpr ⟨fun all among => written.trans (fromWrite all among), later⟩
  · rcases List.mem_cons.mp among with rfl | others
    · rw [lookup_insert] at found
      by_cases same : id = w.orderId
      · rw [if_pos same] at found
        obtain rfl := Option.some.inj found
        rw [same]
        exact durable.real w.all writeThere _ _ own
      · rw [if_neg same] at found
        exact durable.real rows rowsThere id v found
    · exact durable.real all (by rw [old]; simp only [List.mem_cons]; exact .inr (.inr others)) id v found
  · rcases List.mem_cons.mp among with rfl | others
    · obtain ⟨v, found, le⟩ := durable.acknowledged version kept rows rowsThere
      by_cases same : version.1 = w.orderId
      · refine ⟨w.order, by rw [lookup_insert, if_pos same], ?_⟩
        obtain ⟨v', found', le'⟩ := fromRows w.all (by simp) version.1 v found
        rw [same, own] at found'
        rw [Option.some.inj found']
        exact le.trans le'
      · exact ⟨v, by rw [lookup_insert, if_neg same, found], le⟩
    · exact durable.acknowledged version kept all (by rw [old]; simp only [List.mem_cons]; exact .inr (.inr others))
  · exact durable.own w' (by rw [first]; exact List.mem_cons_of_mem _ among)

theorem Durable.endWrite (first : s.writing = w :: rest) (outcome : Outcome) : Durable (s.endWrite w rest outcome) := by
  have later : ∀ w' ∈ rest, w' ∈ s.writing := fun w' among => first ▸ List.mem_cons_of_mem w among
  have old : s.snapshots = s.persistence.load.toList ++
      (w.all :: (rest.map Write.all ++ if s.isOpen then [s.orders] else [])) := by
    simp [OrderStore.snapshots, first]
  have same : s.persistence.after w outcome = s.persistence → Durable (s.endWrite w rest outcome) := by
    intro unchanged
    refine durable.fewer ?_ rfl rfl later (durable.last_rest first)
    rw [old]
    unfold OrderStore.endWrite OrderStore.snapshots
    rw [unchanged]
    exact (List.Sublist.refl _).append (List.sublist_cons_self ..)
  cases backend : s.persistence with
  | file content =>
    have whole : (s.persistence.after w outcome).load.toList = [w.all] → Durable (s.endWrite w rest outcome) := by
      intro stored
      refine durable.fewer ?_ rfl rfl later (durable.last_rest first)
      rw [old]
      unfold OrderStore.endWrite OrderStore.snapshots
      rw [stored]
      exact List.sublist_append_right ..
    cases outcome with
    | stored => exact whole (by rw [backend]; rfl)
    | unreported => exact whole (by rw [backend]; rfl)
    | refused => exact same rfl
    | cut =>
      refine durable.fewer ?_ rfl rfl later (durable.last_rest first)
      rw [old]
      unfold OrderStore.endWrite OrderStore.snapshots
      rw [backend]
      exact (List.sublist_cons_self ..).trans (List.sublist_append_right ..)
  | postgres rows =>
    have row := durable.row first backend
    unfold OrderStore.endWrite
    cases outcome with
    | stored => rw [backend]; exact row
    | unreported => rw [backend]; exact row
    | refused => exact same rfl
    | cut => exact same (by rw [backend]; rfl)

theorem Durable.stored (first : s.writing = w :: rest) :
    ∀ all ∈ (s.endWrite w rest .stored).snapshots, Has all (w.orderId, w.order.seq) := by
  have own : w.all.lookup w.orderId = some w.order := durable.own w (by simp [first])
  have after := durable.endWrite first .stored
  intro all among
  have stored : ∃ disk, (s.endWrite w rest .stored).persistence.load = some disk ∧ disk.lookup w.orderId = some w.order := by
    unfold OrderStore.endWrite
    cases backend : s.persistence with
    | file content => exact ⟨w.all, rfl, own⟩
    | postgres rows => exact ⟨rows.insert w.orderId w.order, rfl, AList.lookup_insert _⟩
  obtain ⟨disk, loads, there⟩ := stored
  have sorted := after.sorted
  unfold OrderStore.snapshots at among sorted
  rw [loads, Option.toList_some, List.singleton_append] at among sorted
  rcases List.mem_cons.mp among with rfl | others
  · exact ⟨w.order, there, Nat.le_refl _⟩
  · obtain ⟨v, found, le⟩ := (List.pairwise_cons.mp sorted).1 all others w.orderId w.order there
    exact ⟨v, found, le⟩

theorem Durable.report (outcome : Outcome)
    (stored : outcome = .stored → ∀ all ∈ s.snapshots, Has all (w.orderId, w.order.seq)) : Durable (s.report w outcome) := by
  cases outcome with
  | stored =>
    refine ⟨durable.sorted, durable.real, fun version kept all among => ?_, durable.own, durable.last⟩
    rcases List.mem_append.mp kept with earlier | now
    · exact durable.acknowledged version earlier all among
    · rw [List.mem_singleton.mp now]
      exact stored rfl all among
  | _ => exact ⟨durable.sorted, durable.real, durable.acknowledged, durable.own, durable.last⟩

theorem Durable.reopen : Durable s.reopen := by
  unfold OrderStore.reopen
  cases loads : s.persistence.load with
  | none =>
    have nothing : ∀ orders : Snapshot Record, ({ s with orders := orders, writing := [], isOpen := false } : OrderStore Record).snapshots = [] := by
      intro orders
      simp [OrderStore.snapshots, loads]
    refine ⟨by rw [nothing]; exact List.Pairwise.nil, fun all among => ?_, fun version _ all among => ?_, fun w among => ?_,
      fun w found => ?_⟩
    · simp [nothing] at among
    · simp [nothing] at among
    · simp at among
    · simp at found
  | some disk =>
    have there : disk ∈ s.snapshots := by simp [OrderStore.snapshots, loads]
    have both : ({ s with orders := disk, writing := [], isOpen := true } : OrderStore Record).snapshots = [disk, disk] := by
      simp [OrderStore.snapshots, loads]
    have only : ∀ all ∈ ({ s with orders := disk, writing := [], isOpen := true } : OrderStore Record).snapshots, all = disk := by
      intro all among
      rw [both] at among
      simpa using among
    refine ⟨by rw [both]; simp [Older.refl], fun all among => ?_, fun version kept all among => ?_, fun w among => ?_,
      fun w found => ?_⟩
    · rw [only all among]
      exact durable.real disk there
    · rw [only all among]
      exact durable.acknowledged version kept disk there
    · simp at among
    · simp at found

end

/-- What an update does: nothing, where there is no such order or its change throws, or one more version. -/
theorem update_cases (s : OrderStore Record) (orderId : String) (change : Record → Option Record) :
    ((s.get orderId).bind change = none ∧ s.update orderId change = s) ∨
      ∃ record, (s.get orderId).bind change = some record ∧ s.update orderId change = s.set orderId record := by
  unfold OrderStore.update
  cases s.get orderId with
  | none => exact .inl ⟨rfl, rfl⟩
  | some current =>
    cases next : change current with
    | none => exact .inl ⟨next, by simp [next]⟩
    | some record => exact .inr ⟨record, next, by simp [next]⟩

theorem Durable.step (durable : Durable s) (a : Act Record) : Durable (step s a) := by
  have change : ∀ orderId record, Durable (if s.isOpen then s.set orderId record else s) := by
    intro orderId record
    by_cases running : s.isOpen = true
    · rw [if_pos running]
      exact durable.set running orderId record
    · rwa [if_neg running]
  cases a with
  | put orderId record => exact change orderId record
  | update orderId f =>
    show Durable (if s.isOpen then s.update orderId f else s)
    rcases update_cases s orderId f with ⟨_, same⟩ | ⟨record, _, same⟩
    · rw [same, ite_self]
      exact durable
    · rw [same]
      exact change orderId record
  | written outcome =>
    unfold OrderDurability.step
    cases first : s.writing with
    | nil => exact durable
    | cons w rest =>
      refine (durable.endWrite first outcome).report outcome fun stored => ?_
      rw [stored]
      exact durable.stored first
  | crash outcome =>
    unfold OrderDurability.step
    cases first : s.writing with
    | nil => exact durable.reopen
    | cons w rest => exact (durable.endWrite first outcome).reopen

theorem run_durable (medium : Medium) (acts : List (Act Record)) : Durable (run medium acts) := by
  induction acts using List.reverseRec with
  | nil => exact durable_opened medium
  | append_singleton before a ih =>
    rw [run, List.foldl_append]
    exact Durable.step ih a

/-! ### What memory has -/

/-- What an act makes of an order. Nothing that happens to a write changes it. -/
def applied (id : String) (record : Option Record) : Act Record → Option Record
  | .put orderId next => if orderId = id then some next else record
  | .update orderId change => if orderId = id then record.map fun current => (change current).getD current else record
  | _ => record

theorem applied_update (id : String) (record : Option Record) (orderId : String) (change : Record → Option Record) :
    applied id record (.update orderId change) =
      if orderId = id then record.map fun current => (change current).getD current else record := rfl

def Act.crashes : Act Record → Bool
  | .crash _ => true
  | _ => false

def Act.cuts : Act Record → Bool
  | .written outcome => outcome = .cut
  | .crash outcome => outcome = .cut
  | _ => false

theorem get_set (s : OrderStore Record) (orderId : String) (record : Record) (id : String) :
    (s.set orderId record).get id = if orderId = id then some record else s.get id := by
  show (((s.orders.insert orderId ⟨s.versions.length, record⟩).lookup id).map Version.record) = _
  rw [lookup_insert]
  by_cases same : id = orderId
  · rw [if_pos same, if_pos same.symm]
    rfl
  · rw [if_neg same, if_neg (Ne.symm same)]
    rfl

theorem get_step (running : s.isOpen = true) {a : Act Record} (stays : a.crashes = false) (id : String) :
    (step s a).get id = applied id (s.get id) a ∧ (step s a).isOpen = true := by
  cases a with
  | put orderId record =>
    show (if s.isOpen then s.set orderId record else s).get id = _ ∧ (if s.isOpen then s.set orderId record else s).isOpen = true
    rw [if_pos running]
    exact ⟨get_set s orderId record id, running⟩
  | update orderId change =>
    show (if s.isOpen then s.update orderId change else s).get id = _ ∧
      (if s.isOpen then s.update orderId change else s).isOpen = true
    rw [if_pos running, applied_update]
    rcases update_cases s orderId change with ⟨nothing, same⟩ | ⟨record, next, same⟩
    · rw [same]
      refine ⟨?_, running⟩
      by_cases mine : orderId = id
      · rw [if_pos mine, ← mine]
        cases there : s.get orderId with
        | none => rfl
        | some current =>
          rw [there] at nothing
          simp [show change current = none from nothing]
      · rw [if_neg mine]
    · rw [same, get_set]
      refine ⟨?_, running⟩
      by_cases mine : orderId = id
      · rw [if_pos mine, if_pos mine, ← mine]
        obtain ⟨current, there, changed⟩ := Option.bind_eq_some_iff.mp next
        rw [there]
        simp [changed]
      · rw [if_neg mine, if_neg mine]
  | written outcome =>
    unfold step
    cases first : s.writing with
    | nil => exact ⟨rfl, running⟩
    | cons w rest => cases outcome <;> exact ⟨rfl, running⟩
  | crash outcome => cases stays

/-- Until a crash an order is what its changes have made of it, one after another. -/
theorem get_foldl (running : s.isOpen = true) (stays : ∀ a ∈ acts, a.crashes = false) (id : String) :
    (acts.foldl step s).get id = acts.foldl (applied id) (s.get id) := by
  induction acts generalizing s with
  | nil => rfl
  | cons a rest ih =>
    obtain ⟨now, still⟩ := get_step running (stays a (by simp)) id
    rw [List.foldl_cons, List.foldl_cons, ih still fun b among => stays b (List.mem_cons_of_mem _ among), now]

/-! ### What the backend has -/

def OrderPersistence.medium : OrderPersistence Record → Medium
  | .file _ => .file
  | .postgres _ => .postgres

theorem after_medium (backend : OrderPersistence Record) (w : Write Record) (outcome : Outcome) :
    (backend.after w outcome).medium = backend.medium := by
  cases backend <;> cases outcome <;> rfl

theorem after_loads {backend : OrderPersistence Record} (w : Write Record) {outcome : Outcome} (loads : backend.load.isSome)
    (whole : outcome ≠ .cut) : (backend.after w outcome).load.isSome := by
  cases outcome with
  | cut => exact absurd rfl whole
  | refused => exact loads
  | _ => cases backend <;> rfl

theorem reopen_persistence (s : OrderStore Record) : s.reopen.persistence = s.persistence := by
  unfold OrderStore.reopen
  cases s.persistence.load <;> rfl

theorem step_persistence (s : OrderStore Record) (a : Act Record) : (step s a).persistence = s.persistence ∨
    ∃ w rest outcome, s.writing = w :: rest ∧ (a = .written outcome ∨ a = .crash outcome) ∧
      (step s a).persistence = s.persistence.after w outcome := by
  cases a with
  | put orderId record =>
    show (if s.isOpen then s.set orderId record else s).persistence = _ ∨ _
    by_cases running : s.isOpen = true
    · rw [if_pos running]
      exact .inl rfl
    · rw [if_neg running]
      exact .inl rfl
  | update orderId change =>
    show (if s.isOpen then s.update orderId change else s).persistence = _ ∨ _
    by_cases running : s.isOpen = true
    · rw [if_pos running]
      rcases update_cases s orderId change with ⟨_, same⟩ | ⟨record, _, same⟩
      · rw [same]
        exact .inl rfl
      · rw [same]
        exact .inl rfl
    · rw [if_neg running]
      exact .inl rfl
  | written outcome =>
    unfold step
    cases first : s.writing with
    | nil => exact .inl rfl
    | cons w rest => exact .inr ⟨w, rest, outcome, rfl, .inl rfl, by cases outcome <;> rfl⟩
  | crash outcome =>
    unfold step
    cases first : s.writing with
    | nil => exact .inl (reopen_persistence s)
    | cons w rest => exact .inr ⟨w, rest, outcome, rfl, .inr rfl, reopen_persistence _⟩

theorem run_snoc (medium : Medium) (before : List (Act Record)) (a : Act Record) :
    run medium (before ++ [a]) = step (run medium before) a := by
  rw [run, List.foldl_append]
  rfl

theorem run_medium (medium : Medium) (acts : List (Act Record)) : (run medium acts).persistence.medium = medium := by
  induction acts using List.reverseRec with
  | nil => cases medium <;> rfl
  | append_singleton before a ih =>
    rw [run_snoc]
    rcases step_persistence (run medium before) a with same | ⟨w, rest, outcome, _, _, same⟩
    · rw [same, ih]
    · rw [same, after_medium, ih]

/-- Only a file write that was cut short keeps a backend from being loaded. -/
theorem run_loads {medium : Medium} (fails : (run medium acts).persistence.load = none) :
    medium = .file ∧ ∃ a ∈ acts, a.cuts = true := by
  refine ⟨?_, ?_⟩
  · have backend := run_medium medium acts
    cases persistence : (run medium acts).persistence with
    | file content => exact backend.symm.trans (by rw [persistence]; rfl)
    | postgres rows =>
      rw [persistence] at fails
      cases fails
  · by_contra uncut
    have loads : (run medium acts).persistence.load.isSome := by
      clear fails
      induction acts using List.reverseRec with
      | nil => cases medium <;> rfl
      | append_singleton before a ih =>
        have earlier := ih fun cut => uncut (by
          obtain ⟨b, among, cuts⟩ := cut
          exact ⟨b, List.mem_append_left _ among, cuts⟩)
        rw [run_snoc]
        rcases step_persistence (run medium before) a with same | ⟨w, rest, outcome, _, kind, same⟩
        · rwa [same]
        · rw [same]
          refine after_loads w earlier fun cut => uncut ⟨a, by simp, ?_⟩
          rcases kind with rfl | rfl <;> simp [Act.cuts, cut]
    rw [fails] at loads
    cases loads

/-! ### The store of order records -/

/-! ### What a crash leaves -/

/-- Over either backend, whichever writes fail and wherever the process dies: until a crash an order is what its changes
    have made of it, whatever became of their writes. The backend can be loaded, unless a file write was cut short, and what
    it loads is of versions that the store had, for each order no earlier than any that was acknowledged. When the last
    queued write is stored, the file has all that is in memory, and the table this order as it is there. -/
theorem order_store_durable (medium : Medium) (acts : List (Act Record)) :
    (∀ before after id, acts = before ++ after → (run medium before).isOpen = true → (∀ a ∈ after, a.crashes = false) →
      (run medium acts).get id = after.foldl (applied id) ((run medium before).get id)) ∧
    ((run medium acts).persistence.load = none → medium = .file ∧ ∃ a ∈ acts, a.cuts = true) ∧
    (∀ all, (run medium acts).persistence.load = some all →
      (∀ id v, all.lookup id = some v → (run medium acts).versions[v.seq]? = some (id, v.record)) ∧
      ∀ version ∈ (run medium acts).acknowledged, ∃ v, all.lookup version.1 = some v ∧ version.2 ≤ v.seq) ∧
    ∀ before w, acts = before ++ [.written .stored] → (run medium before).writing = [w] →
      ∃ all, (run medium acts).persistence.load = some all ∧
        all.lookup w.orderId = (run medium acts).orders.lookup w.orderId ∧
        (medium = .file → all = (run medium acts).orders) := by
  have durable := run_durable medium acts
  refine ⟨?_, run_loads, fun all loads => ?_, ?_⟩
  · rintro before after id rfl running stays
    rw [run, List.foldl_append]
    exact get_foldl running stays id
  · have there : all ∈ (run medium acts).snapshots := by simp [OrderStore.snapshots, loads]
    exact ⟨durable.real all there, fun version kept => durable.acknowledged version kept all there⟩
  · rintro before w rfl queue
    have earlier := run_durable medium before
    have memory : w.all = (run medium before).orders := earlier.last w (by simp [queue])
    have own := earlier.own w (by simp [queue])
    have backend := run_medium medium before
    rw [run_snoc]
    simp only [step, queue]
    show ∃ all, ((run medium before).persistence.after w .stored).load = some all ∧
      all.lookup w.orderId = (run medium before).orders.lookup w.orderId ∧ (medium = .file → all = (run medium before).orders)
    rw [← memory, own]
    cases persistence : (run medium before).persistence with
    | file content => exact ⟨w.all, rfl, own, fun _ => rfl⟩
    | postgres rows =>
      refine ⟨rows.insert w.orderId w.order, rfl, AList.lookup_insert _, fun file => ?_⟩
      rw [persistence] at backend
      cases backend.trans file

/-- A write fails, and the next one, of another order, is stored. -/
def carried : List (Act Nat) := [.put "first" 1, .written .refused, .put "second" 2, .written .stored]

theorem failed_write_stays :
    (run .file (carried.take 2)).failed = [("first", 0)] ∧ (run .file (carried.take 2)).get "first" = some 1 ∧
      (run .postgres (carried.take 2)).get "first" = some 1 ∧
      ((run .file carried).persistence.load.bind fun all => all.lookup "first") = some ⟨0, 1⟩ := by
  decide

end AgentPey.OrderDurability
