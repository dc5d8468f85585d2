import AgentPey.FixedPoint
import Mathlib.Data.List.Zip

/-!
What left of an order (`recordShipment` of `vitrinee-gateway/ucp/order-events.ts`, `shippedUnits` and `parcelLines` of
`lines.ts`). The platform reports parcels, by product and number when it says what is in them; an event of the order names
lines. Numbers of units are whole. Of an order and of a line what nothing here reads is left out.
-/
namespace AgentPey.Shipments

structure OrderItem where
  productId : String
  quantity : Nat
  deriving DecidableEq, Repr

/-- A line of the order, by its id, and how many of its units. -/
structure EventLine where
  id : String
  quantity : Nat
  deriving DecidableEq, Repr

inductive Source where
  | platform | simulation
  deriving DecidableEq, Repr

structure OrderFulfillmentEvent where
  id : String
  occurredAt : String
  trackingNumber : Option String
  trackingUrl : Option String
  carrier : Option String
  source : Source
  platformRef : Option String
  lines : List EventLine
  deriving DecidableEq, Repr

inductive State where
  | partly | fulfilled
  deriving DecidableEq, Repr

structure ReportedLine where
  productId : String
  quantity : Int
  deriving DecidableEq, Repr

structure ShipmentInput where
  source : Source
  state : Option State
  occurredAt : Option String
  trackingNumber : Option String
  trackingUrl : Option String
  carrier : Option String
  platformRef : Option String
  lines : Option (List ReportedLine)
  deriving DecidableEq, Repr

inductive FulfillmentState where
  | partly | fulfilled | canceled
  deriving DecidableEq, Repr

def State.stored : State → FulfillmentState
  | .partly => .partly
  | .fulfilled => .fulfilled

/-- `held` is whether the payment is held in an escrow, `releasePending` whether its release window is owed since then;
    one that has gone on from there is `some false`. -/
structure OrderRecord where
  items : List OrderItem
  fulfillmentEvents : List OrderFulfillmentEvent
  fulfillmentState : Option FulfillmentState
  held : Bool
  releasePending : Option Bool
  deriving DecidableEq, Repr

/-! ### Lines -/

def orderLineId (index : Nat) : String := "li_" ++ toString (index + 1)

/-- The position of the line that an id names: `/^li_\d+$/`. -/
def lineIndex (id : String) : Option Nat :=
  match id.toList with
  | 'l' :: 'i' :: '_' :: digits =>
    if digits ≠ [] ∧ digits.all Char.isDigit ∧ 0 < Nat.ofDigitChars 10 digits 0 then
      some (Nat.ofDigitChars 10 digits 0 - 1)
    else none
  | _ => none

def units (lines : List EventLine) (index : Nat) : Nat :=
  ((lines.filter fun line => lineIndex line.id = some index).map EventLine.quantity).sum

def OrderRecord.lines (record : OrderRecord) : List EventLine := record.fulfillmentEvents.flatMap OrderFulfillmentEvent.lines

/-- How many units of each line the recorded events already account for. -/
def shippedUnits (record : OrderRecord) : List Nat :=
  record.items.zipIdx.map fun (item, index) => min (units record.lines index) item.quantity

/-- A line while a parcel is spread over the lines. -/
structure Row where
  productId : String
  pending : Nat
  carried : Nat
  deriving DecidableEq, Repr

/-- The units of one product of a parcel, given to the lines of that product that still have units pending, in order. -/
def carry (productId : String) : Nat → List Row → List Row
  | _, [] => []
  | left, row :: rest =>
    if left = 0 then row :: rest
    else if row.productId ≠ productId then row :: carry productId left rest
    else
      let taken := min left row.pending
      { row with pending := row.pending - taken, carried := row.carried + taken } :: carry productId (left - taken) rest

def named : Nat → List Row → List EventLine
  | _, [] => []
  | index, row :: rest =>
    if 0 < row.carried then ⟨orderLineId index, row.carried⟩ :: named (index + 1) rest else named (index + 1) rest

def startRows (record : OrderRecord) : List Row :=
  (record.items.zip (shippedUnits record)).map fun (item, shipped) => ⟨item.productId, item.quantity - shipped, 0⟩

def ShipmentInput.detail (shipment : ShipmentInput) : List ReportedLine := shipment.lines.getD []

/-- The rows once a parcel is spread. Nothing of a line that is not of a positive number. -/
def parcelRows (record : OrderRecord) (shipment : ShipmentInput) : List Row :=
  if shipment.detail ≠ [] then
    shipment.detail.foldl (fun rows line => carry line.productId line.quantity.toNat rows) (startRows record)
  else if shipment.state.getD .fulfilled = .fulfilled then
    (startRows record).map fun row => { row with pending := 0, carried := row.carried + row.pending }
  else startRows record

def parcelLines (record : OrderRecord) (shipment : ShipmentInput) : List EventLine := named 0 (parcelRows record shipment)

/-! ### Recording -/

/-- Whether a shipment is already there: by the platform's own id for it, and without one by its source. -/
def seen (record : OrderRecord) (shipment : ShipmentInput) : Bool :=
  record.fulfillmentEvents.any fun event =>
    match shipment.platformRef with
    | none => event.source = shipment.source
    | some _ => event.platformRef = shipment.platformRef

/-- Where the order stands after a report. `releases` is whether the store releases payments from an escrow. -/
def standing (releases : Bool) (record : OrderRecord) (shipment : ShipmentInput) : OrderRecord :=
  let state := if record.fulfillmentState ≠ some .fulfilled ∨ shipment.state ≠ some .partly then
    some (shipment.state.getD .fulfilled).stored else record.fulfillmentState
  { record with
    fulfillmentState := state
    releasePending := if releases ∧ state = some .fulfilled ∧ record.held ∧ record.releasePending = none then some true
      else record.releasePending }

def eventOf (record : OrderRecord) (shipment : ShipmentInput) (now : String) (lines : List EventLine) :
    OrderFulfillmentEvent where
  id := "ful_" ++ toString (record.fulfillmentEvents.length + 1)
  occurredAt := shipment.occurredAt.getD now
  trackingNumber := shipment.trackingNumber
  trackingUrl := shipment.trackingUrl
  carrier := shipment.carrier
  source := shipment.source
  platformRef := shipment.platformRef
  lines := lines

/-- The record after a report, and whether it has a new event. -/
def recordShipment (releases : Bool) (record : OrderRecord) (shipment : ShipmentInput) (now : String) : OrderRecord × Bool :=
  let next := standing releases record shipment
  if seen record shipment then (next, false)
  else
    let lines := parcelLines record shipment
    if lines = [] then (next, false)
    else ({ next with fulfillmentEvents := record.fulfillmentEvents ++ [eventOf record shipment now lines] }, true)

def run (releases : Bool) (record : OrderRecord) (reports : List (ShipmentInput × String)) : OrderRecord :=
  reports.foldl (fun record report => (recordShipment releases record report.1 report.2).1) record

def placed (items : List OrderItem) (held : Bool) : OrderRecord := ⟨items, [], none, held, none⟩

/-! ### Units of lines -/

theorem lineIndex_orderLineId (index : Nat) : lineIndex (orderLineId index) = some index := by
  have text : (orderLineId index).toList = 'l' :: 'i' :: '_' :: Nat.toDigits 10 (index + 1) := by
    rw [orderLineId, String.toList_append, Nat.toString_eq_repr, Nat.toList_repr]
    rfl
  have digits : (Nat.toDigits 10 (index + 1)).all Char.isDigit = true :=
    List.all_eq_true.mpr fun c member => FixedPoint.isDigit_of_mem member
  unfold lineIndex
  rw [text]
  show (if _ then some _ else none) = some index
  rw [if_pos ⟨Nat.toDigits_ne_nil, digits, by rw [Nat.ofDigitChars_ten_toDigits]; omega⟩, Nat.ofDigitChars_ten_toDigits]
  rfl

theorem units_append (lines more : List EventLine) (index : Nat) :
    units (lines ++ more) index = units lines index + units more index := by
  simp [units]

theorem units_cons (line : EventLine) (lines : List EventLine) (index : Nat) :
    units (line :: lines) index = (if lineIndex line.id = some index then line.quantity else 0) + units lines index := by
  by_cases own : lineIndex line.id = some index <;> simp [units, own]

theorem units_named (start index : Nat) (rows : List Row) :
    units (named start rows) (start + index) = (rows[index]?.map Row.carried).getD 0 ∧
      ∀ before < start, units (named start rows) before = 0 := by
  induction rows generalizing start index with
  | nil => simp [named, units]
  | cons row rest ih =>
    have later : ∀ before < start + 1, units (named (start + 1) rest) before = 0 := (ih (start + 1) 0).2
    have first (at_ : Nat) : units (named start (row :: rest)) at_ =
        (if start = at_ then row.carried else 0) + units (named (start + 1) rest) at_ := by
      by_cases some_ : 0 < row.carried
      · rw [named, if_pos some_, units_cons, lineIndex_orderLineId]
        simp
      · have nothing : row.carried = 0 := by omega
        rw [named, if_neg some_, nothing]
        simp
    constructor
    · rw [first]
      cases index with
      | zero => simp [later start (by omega)]
      | succ index =>
        have rest_ := (ih (start + 1) index).1
        rw [show start + 1 + index = start + (index + 1) by omega] at rest_
        rw [if_neg (by omega), rest_]
        simp
    · intro before lt
      rw [first, if_neg (by omega), later before (by omega)]

/-! ### Spreading a parcel -/

def perProduct (f : Row → Nat) (product : String) (rows : List Row) : Nat :=
  (rows.map fun row => if row.productId = product then f row else 0).sum

@[simp] theorem perProduct_nil (f : Row → Nat) (product : String) : perProduct f product [] = 0 := rfl

@[simp] theorem perProduct_cons (f : Row → Nat) (product : String) (row : Row) (rows : List Row) :
    perProduct f product (row :: rows) = (if row.productId = product then f row else 0) + perProduct f product rows := by
  simp [perProduct]

/-- Units go from pending to carried, within each row. -/
def Moved (row row' : Row) : Prop :=
  row'.productId = row.productId ∧ row.carried ≤ row'.carried ∧ row'.pending + row'.carried = row.pending + row.carried

theorem Moved.refl (row : Row) : Moved row row := ⟨rfl, le_rfl, rfl⟩

theorem Moved.trans {a b c : Row} (first : Moved a b) (second : Moved b c) : Moved a c :=
  ⟨second.1.trans first.1, first.2.1.trans second.2.1, second.2.2.trans first.2.2⟩

abbrev AllMoved : List Row → List Row → Prop := List.Forall₂ Moved

theorem AllMoved.refl (rows : List Row) : AllMoved rows rows := List.forall₂_same.mpr fun row _ => Moved.refl row

theorem AllMoved.trans {a b c : List Row} (first : AllMoved a b) (second : AllMoved b c) : AllMoved a c := by
  induction first generalizing c with
  | nil => exact second
  | cons moved _ ih =>
    cases second with
    | cons again rest => exact .cons (moved.trans again) (ih rest)

theorem carry_moves (product : String) : ∀ (left : Nat) (rows : List Row), AllMoved rows (carry product left rows) := by
  intro left rows
  induction rows generalizing left with
  | nil => exact .nil
  | cons row rest ih =>
    unfold carry
    split_ifs with none_ other
    · exact AllMoved.refl _
    · exact .cons (Moved.refl row) (ih left)
    · refine .cons ⟨rfl, Nat.le_add_right .., ?_⟩ (ih _)
      show row.pending - min left row.pending + (row.carried + min left row.pending) = row.pending + row.carried
      omega

/-- What is pending of the product of a reported line falls by its units, as far as there are any. -/
theorem carry_pending (product : String) (left : Nat) (rows : List Row) (p : String) :
    perProduct Row.pending p (carry product left rows) =
      perProduct Row.pending p rows - if product = p then left else 0 := by
  induction rows generalizing left with
  | nil => simp [carry]
  | cons row rest ih =>
    by_cases none_ : left = 0
    · simp [carry, none_]
    by_cases own : row.productId = product
    · have spread : carry product left (row :: rest) =
          { row with pending := row.pending - min left row.pending, carried := row.carried + min left row.pending } ::
            carry product (left - min left row.pending) rest := by
        rw [carry, if_neg none_, if_neg (not_not_intro own)]
      rw [spread, perProduct_cons, perProduct_cons, ih]
      by_cases same : product = p
      · simp only [own, same, if_true]
        omega
      · simp [own, same]
    · have passed : carry product left (row :: rest) = row :: carry product left rest := by
        rw [carry, if_neg none_, if_pos own]
      rw [passed, perProduct_cons, perProduct_cons, ih]
      by_cases same : product = p
      · subst same
        simp [own]
      · simp [same]

def reported (detail : List ReportedLine) (product : String) : Nat :=
  (detail.map fun line => if line.productId = product then line.quantity.toNat else 0).sum

theorem detail_moves (detail : List ReportedLine) (rows : List Row) :
    AllMoved rows (detail.foldl (fun rows line => carry line.productId line.quantity.toNat rows) rows) := by
  induction detail generalizing rows with
  | nil => exact AllMoved.refl rows
  | cons line rest ih => exact (carry_moves line.productId _ rows).trans (ih _)

theorem detail_pending (detail : List ReportedLine) (rows : List Row) (p : String) :
    perProduct Row.pending p (detail.foldl (fun rows line => carry line.productId line.quantity.toNat rows) rows) =
      perProduct Row.pending p rows - reported detail p := by
  induction detail generalizing rows with
  | nil => simp [reported]
  | cons line rest ih =>
    have more : reported (line :: rest) p = (if line.productId = p then line.quantity.toNat else 0) + reported rest p := by
      simp [reported]
    rw [List.foldl_cons, ih, carry_pending, more]
    omega

variable {rows : List Row} {items : List OrderItem} {start index : Nat} {item : OrderItem} {shipment : ShipmentInput}

theorem AllMoved.total {rows' : List Row} (moved : AllMoved rows rows') (p : String) :
    perProduct Row.pending p rows' + perProduct Row.carried p rows' =
      perProduct Row.pending p rows + perProduct Row.carried p rows := by
  induction moved with
  | nil => rfl
  | cons move _ ih =>
    obtain ⟨product, _, sum⟩ := move
    simp only [perProduct_cons, product]
    split_ifs <;> omega

theorem parcelRows_moves (record : OrderRecord) (shipment : ShipmentInput) :
    AllMoved (startRows record) (parcelRows record shipment) := by
  unfold parcelRows
  split_ifs
  · exact detail_moves _ _
  · rw [AllMoved, List.forall₂_map_right_iff, List.forall₂_same]
    intro row _
    refine ⟨rfl, Nat.le_add_right .., ?_⟩
    show 0 + (row.carried + row.pending) = row.pending + row.carried
    omega
  · exact AllMoved.refl _

/-! ### The lines of an order -/

/-- The sum of a number of each line of a product, the first of them at a position. -/
def totalFrom (f : OrderItem → Nat → Nat) (product : String) : Nat → List OrderItem → Nat
  | _, [] => 0
  | index, item :: rest => (if item.productId = product then f item index else 0) + totalFrom f product (index + 1) rest

def unitsOf (record : OrderRecord) (lines : List EventLine) (product : String) : Nat :=
  totalFrom (fun _ index => units lines index) product 0 record.items

def pendingOf (record : OrderRecord) (product : String) : Nat :=
  totalFrom (fun item index => item.quantity - units record.lines index) product 0 record.items

abbrev Alike : List OrderItem → List Row → Prop := List.Forall₂ fun item row => row.productId = item.productId

theorem totalFrom_rows (alike : Alike items rows) {f : OrderItem → Nat → Nat} {g : Row → Nat} (product : String)
    (same : ∀ index item row, items[index]? = some item →
      rows[index]? = some row → f item (start + index) = g row) :
    totalFrom f product start items = perProduct g product rows := by
  induction alike generalizing start with
  | nil => rfl
  | @cons item row items rows one _ ih =>
    have here : f item start = g row := same 0 item row rfl rfl
    have later : totalFrom f product (start + 1) items = perProduct g product rows := ih fun index item row first second => by
      rw [← same (index + 1) item row first second]
      congr 1
      omega
    rw [totalFrom, perProduct_cons, later, here, one]

/-- The row of a line at the start: what has not left of it. -/
def startRow (record : OrderRecord) (index : Nat) (item : OrderItem) : Row :=
  ⟨item.productId, item.quantity - min (units record.lines index) item.quantity, 0⟩

theorem startRows_getElem (record : OrderRecord) (index : Nat) :
    (startRows record)[index]? = record.items[index]?.map (startRow record index) := by
  cases found : record.items[index]? with
  | none => simp [startRows, shippedUnits, List.zip, List.getElem?_zipWith, found]
  | some item => simp [startRows, shippedUnits, List.zip, List.getElem?_zipWith, found, startRow]

theorem startRows_alike (record : OrderRecord) : Alike record.items (startRows record) := by
  rw [Alike, List.forall₂_iff_get]
  have size : (startRows record).length = record.items.length := by simp [startRows, shippedUnits]
  refine ⟨size.symm, fun index first second => ?_⟩
  have row := startRows_getElem record index
  rw [List.getElem?_eq_getElem first, List.getElem?_eq_getElem second, Option.map_some, Option.some_inj] at row
  simp [row, startRow]

theorem AllMoved.alike {rows' : List Row} (alike : Alike items rows) (moved : AllMoved rows rows') : Alike items rows' := by
  induction alike generalizing rows' with
  | nil =>
    cases moved
    exact .nil
  | cons same _ ih =>
    cases moved with
    | cons move rest => exact .cons (move.1.trans same) (ih rest)

variable {record : OrderRecord}

theorem parcelRow (shipment : ShipmentInput) (found : record.items[index]? = some item)
    : ∃ row, (parcelRows record shipment)[index]? = some row ∧
      Moved (startRow record index item) row ∧ units (parcelLines record shipment) index = row.carried := by
  have start := startRows_getElem record index
  rw [found, Option.map_some] at start
  obtain ⟨inside, first⟩ := List.getElem?_eq_some_iff.mp start
  obtain ⟨size, moved⟩ := List.forall₂_iff_get.mp (parcelRows_moves record shipment)
  have second : index < (parcelRows record shipment).length := size ▸ inside
  have carried := (units_named 0 index (parcelRows record shipment)).1
  refine ⟨(parcelRows record shipment)[index], List.getElem?_eq_getElem second, ?_, ?_⟩
  · have move := moved index inside second
    simp only [List.get_eq_getElem, first] at move
    exact move
  · rw [Nat.zero_add, List.getElem?_eq_getElem second] at carried
    exact carried

theorem parcel_fits (shipment : ShipmentInput) (found : record.items[index]? = some item)
    (sound : units record.lines index ≤ item.quantity) :
    units record.lines index + units (parcelLines record shipment) index ≤ item.quantity := by
  obtain ⟨row, _, ⟨_, _, sum⟩, carried⟩ := parcelRow shipment found
  rw [carried]
  simp only [startRow] at sum
  omega

/-- A parcel that completes an order, of which the platform does not say more, carries all that has not left. -/
theorem parcel_completes (found : record.items[index]? = some item) (sound : units record.lines index ≤ item.quantity)
    (plain : shipment.detail = []) (completes : shipment.state.getD .fulfilled = .fulfilled) :
    units record.lines index + units (parcelLines record shipment) index = item.quantity := by
  obtain ⟨row, at_, _, carried⟩ := parcelRow shipment found
  have rows : parcelRows record shipment =
      (startRows record).map fun row => { row with pending := 0, carried := row.carried + row.pending } := by
    rw [parcelRows, if_neg (not_not_intro plain), if_pos completes]
  rw [rows, List.getElem?_map, startRows_getElem, found] at at_
  obtain rfl := Option.some.inj at_
  rw [carried]
  simp only [startRow]
  omega

/-- A parcel that is reported by product carries of each product what is reported, as far as so much has not left. -/
theorem parcel_by_product (sound : ∀ index item, record.items[index]? = some item → units record.lines index ≤ item.quantity)
    (detailed : shipment.detail ≠ []) (product : String) : unitsOf record (parcelLines record shipment) product =
      min (reported shipment.detail product) (pendingOf record product) := by
  have alike := startRows_alike record
  have moves := parcelRows_moves record shipment
  have carried : unitsOf record (parcelLines record shipment) product =
      perProduct Row.carried product (parcelRows record shipment) := by
    refine totalFrom_rows (AllMoved.alike alike moves) product fun index item row found at_ => ?_
    obtain ⟨_, same, _, units⟩ := parcelRow shipment found
    rw [at_] at same
    cases same
    rw [Nat.zero_add, units]
  have pending : pendingOf record product = perProduct Row.pending product (startRows record) := by
    refine totalFrom_rows alike product fun index item row found at_ => ?_
    rw [startRows_getElem, found] at at_
    obtain rfl := Option.some.inj at_
    have := sound index item found
    simp only [startRow, Nat.zero_add]
    omega
  have none_ : perProduct Row.carried product (startRows record) = 0 := by
    simp [perProduct, startRows, Function.comp_def]
  have total := moves.total product
  have rest : perProduct Row.pending product (parcelRows record shipment) =
      perProduct Row.pending product (startRows record) - reported shipment.detail product := by
    rw [parcelRows, if_pos detailed, detail_pending]
  rw [carried, pending]
  omega

/-! ### Runs -/

/-- Not the same shipment: another id of the platform's, or another source when neither has one. -/
def Apart (a b : OrderFulfillmentEvent) : Prop :=
  a.platformRef ≠ b.platformRef ∨ a.platformRef = none ∧ a.source ≠ b.source

/-- What holds of an order's events. -/
structure Accounted (record : OrderRecord) : Prop where
  within : ∀ index item, record.items[index]? = some item → units record.lines index ≤ item.quantity
  named : ∀ line ∈ record.lines, ∃ index < record.items.length, line.id = orderLineId index ∧ 0 < line.quantity
  once : record.fulfillmentEvents.Pairwise Apart

theorem mem_named {line : EventLine} (member : line ∈ named start rows) :
    ∃ index < rows.length, line.id = orderLineId (start + index) ∧ 0 < line.quantity := by
  induction rows generalizing start with
  | nil => cases member
  | cons row rest ih =>
    have later (inside : line ∈ named (start + 1) rest) :
        ∃ index < (row :: rest).length, line.id = orderLineId (start + index) ∧ 0 < line.quantity := by
      obtain ⟨index, lt, id, some_⟩ := ih inside
      refine ⟨index + 1, by simp [lt], ?_, some_⟩
      rw [id]
      congr 1
      omega
    unfold named at member
    split_ifs at member with some_
    · rcases List.mem_cons.mp member with rfl | inside
      · exact ⟨0, by simp, rfl, some_⟩
      · exact later inside
    · exact later member

theorem recordShipment_cases (releases : Bool) (record : OrderRecord) (shipment : ShipmentInput) (now : String) :
    (recordShipment releases record shipment now).1.items = record.items ∧
      ((recordShipment releases record shipment now).1.fulfillmentEvents = record.fulfillmentEvents ∧
          (seen record shipment = true ∨ parcelLines record shipment = []) ∨
        (recordShipment releases record shipment now).1.fulfillmentEvents =
            record.fulfillmentEvents ++ [eventOf record shipment now (parcelLines record shipment)] ∧
          seen record shipment = false) := by
  by_cases known : seen record shipment = true
  · have value : recordShipment releases record shipment now = (standing releases record shipment, false) := if_pos known
    rw [value]
    exact ⟨rfl, .inl ⟨rfl, .inl known⟩⟩
  by_cases empty : parcelLines record shipment = []
  · have value : recordShipment releases record shipment now = (standing releases record shipment, false) := by
      rw [recordShipment, if_neg known]
      exact if_pos empty
    rw [value]
    exact ⟨rfl, .inl ⟨rfl, .inr empty⟩⟩
  · have value : recordShipment releases record shipment now = ({ standing releases record shipment with fulfillmentEvents :=
        record.fulfillmentEvents ++ [eventOf record shipment now (parcelLines record shipment)] }, true) := by
      rw [recordShipment, if_neg known]
      exact if_neg empty
    rw [value]
    exact ⟨rfl, .inr ⟨rfl, by simpa using known⟩⟩

section
variable {record : OrderRecord}

theorem accounted_placed (items : List OrderItem) (held : Bool) : Accounted (placed items held) where
  within _ _ _ := Nat.zero_le _
  named _ member := by cases member
  once := .nil

theorem lines_snoc {next : OrderRecord} {event : OrderFulfillmentEvent}
    (events : next.fulfillmentEvents = record.fulfillmentEvents ++ [event]) : next.lines = record.lines ++ event.lines := by
  simp [OrderRecord.lines, events]

variable {shipment : ShipmentInput}

theorem apart_of_unseen (unseen : seen record shipment = false) {now : String}
    {lines : List EventLine} : ∀ event ∈ record.fulfillmentEvents, Apart event (eventOf record shipment now lines) := by
  intro event member
  rw [seen, List.any_eq_false] at unseen
  have other := unseen event member
  cases ref : shipment.platformRef with
  | none =>
    rw [ref] at other
    have sources : event.source ≠ shipment.source := by simpa using other
    by_cases named : event.platformRef = none
    · exact .inr ⟨named, sources⟩
    · exact .inl fun same => named (same.trans ref)
  | some id =>
    rw [ref] at other
    refine .inl fun same => other ?_
    simpa using same.trans ref

theorem accounted_record (accounted : Accounted record) (releases : Bool) (shipment : ShipmentInput) (now : String) :
    Accounted (recordShipment releases record shipment now).1 := by
  obtain ⟨items, ⟨events, _⟩ | ⟨events, unseen⟩⟩ := recordShipment_cases releases record shipment now
  · have lines : (recordShipment releases record shipment now).1.lines = record.lines := by
      rw [OrderRecord.lines, events, OrderRecord.lines]
    constructor
    · rw [items, lines]
      exact accounted.within
    · rw [items, lines]
      exact accounted.named
    · rw [events]
      exact accounted.once
  · have lines := lines_snoc events
    constructor
    · intro index item found
      rw [items] at found
      rw [lines, units_append]
      exact parcel_fits shipment found (accounted.within index item found)
    · intro line member
      rw [items]
      rw [lines] at member
      rcases List.mem_append.mp member with old | new
      · exact accounted.named line old
      · obtain ⟨index, lt, id, some_⟩ := mem_named new
        have size : (parcelRows record shipment).length = record.items.length :=
          (AllMoved.alike (startRows_alike record) (parcelRows_moves record shipment)).length_eq.symm
        exact ⟨index, size ▸ lt, by rw [id, Nat.zero_add], some_⟩
    · rw [events, List.pairwise_append]
      refine ⟨accounted.once, List.pairwise_singleton .., fun event member last same => ?_⟩
      obtain rfl := List.mem_singleton.mp same
      exact apart_of_unseen unseen event member

theorem run_accounted (releases : Bool) (reports : List (ShipmentInput × String)) (accounted : Accounted record) :
    (run releases record reports).items = record.items ∧ Accounted (run releases record reports) := by
  induction reports generalizing record with
  | nil => exact ⟨rfl, accounted⟩
  | cons report rest ih =>
    obtain ⟨items, still⟩ := ih (accounted_record accounted releases report.1 report.2)
    exact ⟨items.trans (recordShipment_cases releases record report.1 report.2).1, still⟩

/-- What is left of each line once a parcel of which the platform says no more completes the order: nothing. -/
theorem completed (accounted : Accounted record) (releases : Bool) (now : String) (plain : shipment.detail = [])
    (completes : shipment.state.getD .fulfilled = .fulfilled) (unseen : seen record shipment = false) {index : Nat}
    {item : OrderItem} (found : record.items[index]? = some item) :
    units (recordShipment releases record shipment now).1.lines index = item.quantity := by
  have all := parcel_completes found (accounted.within index item found) plain completes
  obtain ⟨_, ⟨events, known | empty⟩ | ⟨events, _⟩⟩ := recordShipment_cases releases record shipment now
  · rw [known] at unseen
    cases unseen
  · rw [empty] at all
    rw [OrderRecord.lines, events, ← OrderRecord.lines]
    exact all
  · rw [lines_snoc events, units_append]
    exact all

end

/-- What a report does to an order. Of each product a parcel carries what is reported of it, as far as so much has not left;
    and a new parcel that completes the order, of which the platform does not say what is in it, leaves nothing. -/
structure Handled (releases : Bool) (order : OrderRecord) (shipment : ShipmentInput) (now : String) : Prop where
  events : (recordShipment releases order shipment now).1.fulfillmentEvents = order.fulfillmentEvents ∨
    seen order shipment = false ∧ (recordShipment releases order shipment now).1.fulfillmentEvents =
      order.fulfillmentEvents ++ [eventOf order shipment now (parcelLines order shipment)]
  byProduct : shipment.detail ≠ [] → ∀ product, unitsOf order (parcelLines order shipment) product =
    min (reported shipment.detail product) (pendingOf order product)
  completes : shipment.detail = [] → shipment.state.getD .fulfilled = .fulfilled → seen order shipment = false →
    ∀ index item, order.items[index]? = some item →
      units (recordShipment releases order shipment now).1.lines index = item.quantity

/-- After any reports the events of an order name its own lines and account for no more of each than was ordered, no
    shipment is there twice, and this is what any report does next. -/
theorem shipments_accounted (releases : Bool) (items : List OrderItem) (held : Bool)
    (reports : List (ShipmentInput × String)) :
    (run releases (placed items held) reports).items = items ∧ Accounted (run releases (placed items held) reports) ∧
      ∀ shipment now, Handled releases (run releases (placed items held) reports) shipment now := by
  obtain ⟨same, accounted⟩ := run_accounted releases reports (accounted_placed items held)
  refine ⟨same, accounted, fun shipment now => ⟨?_, parcel_by_product accounted.within,
    fun plain completes unseen _ _ found => completed accounted releases now plain completes unseen found⟩⟩
  obtain ⟨_, ⟨events, _⟩ | ⟨events, unseen⟩⟩ := recordShipment_cases releases (run releases (placed items held) reports)
    shipment now
  · exact .inl events
  · exact .inr ⟨unseen, events⟩

def sampleParcel : ShipmentInput := ⟨.platform, some .fulfilled, none, none, none, none, some "1", some [⟨"tea", 1⟩]⟩

/-- A parcel that completes an order of two units, and of which the platform says that it carries one. -/
theorem completing_parcel_short :
    let order := placed [⟨"tea", 2⟩] false
    seen order sampleParcel = false ∧ (recordShipment false order sampleParcel "").2 = true ∧
      (recordShipment false order sampleParcel "").1.fulfillmentState = some .fulfilled ∧
      units (recordShipment false order sampleParcel "").1.lines 0 = 1 := by
  decide +kernel

end AgentPey.Shipments
