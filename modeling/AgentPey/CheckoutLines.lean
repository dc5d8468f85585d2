import AgentPey.CheckoutMandates
import AgentPey.AugmentingPaths
import Mathlib.Data.Fintype.EquivFin

/-!
A signed checkout against the constraints of an open mandate (`checkOpenCheckoutConstraints` of
`packages/ap2/src/checkout.ts`): lines pair up one to one with the entries that the mandate allows.
-/
namespace AgentPey.CheckoutLines
open SdJwt Disclosures CheckoutMandates AugmentingPaths

/-- The pairing of lines and entries, with at most `fuel` lines displaced in turn. -/
def pairsWithin (fuel n : ℕ) (fits : ℕ → ℕ → Bool) : Option Bool :=
  place fits (List.range n) fuel (List.range n) fun _ => none

/-- No more than `n` entries are seen, so no more than `n` lines are displaced in turn. -/
def pairsOneToOne (n : ℕ) (fits : ℕ → ℕ → Bool) : Bool := (pairsWithin (n + 1) n fits).getD false

/-- A line of a checkout. -/
structure Line where
  item : String
  quantity : Int
  deriving DecidableEq, Repr

/-- `z.looseObject({ item: z.looseObject({ id: z.string() }), quantity: z.int() })`. -/
def lineSchema (value : Json) : Option Line := do
  let item ← textOf (field "id" (field "item" value))
  let quantity ← intOf (field "quantity" value)
  some ⟨item, quantity⟩

def linesSchema (checkout : Members ℚ) : Option (List Line) := (itemsOf (checkout.lookup "line_items")).bind (·.mapM lineSchema)

/-- A line in the quantity of an entry, of one of its items. -/
def admits (entry : AllowedLine) (line : Line) : Bool :=
  entry.quantity = line.quantity ∧ entry.acceptable_items.any (·.id = line.item)

def fits (lines : List Line) (wanted : List AllowedLine) (line entry : ℕ) : Bool :=
  match lines[line]?, wanted[entry]? with
  | some l, some w => admits w l
  | _, _ => false

def checkConstraint (lines : List Line) (checkout : Members ℚ) (businessOrigin : String) :
    CheckoutConstraint → Resolving ℚ Unit
  | .lineItems wanted =>
    ensure (lines.length = wanted.length ∧ pairsOneToOne lines.length (fits lines wanted)) "Ap2ScopeMismatch"
      "the checkout is not the items the open mandate allows"
      [("lines", .array (lines.map fun l => .array [.string l.item, .number l.quantity]))]
  | .allowedMerchants allowed =>
    ensure (textOf (field "id" (checkout.lookup "merchant")) = some businessOrigin ∧ allowed.any (·.id = businessOrigin))
      "Ap2ScopeMismatch" "this business is not among the open mandate's allowed merchants"
      [("origin", .string businessOrigin)]

def checkOpenCheckoutConstraints (opened : OpenCheckoutMandate) (checkout : Members ℚ) (businessOrigin : String) :
    Resolving ℚ Unit := do
  let lines ← orFail (linesSchema checkout) "Ap2ScopeMismatch" "the signed checkout has no readable line items" []
  opened.constraints.forM (checkConstraint lines checkout businessOrigin)

/-! ### One to one -/

variable {n : ℕ} {wanted : List AllowedLine}

theorem served_iff {fits : ℕ → ℕ → Bool} : Served fits (List.range n) (List.range n) ↔
    ∃ entryOf : Equiv.Perm (Fin n), ∀ line : Fin n, fits line (entryOf line) = true := by
  constructor
  · rintro ⟨choice, different, fit⟩
    let entry (line : Fin n) : Fin n :=
      ⟨(choice ⟨line, by simp⟩).1, by simpa using (choice ⟨line, by simp⟩).2⟩
    have injective : Function.Injective entry := by
      intro line other same
      have same := different (Subtype.ext (Fin.mk.inj same))
      exact Fin.ext (by simpa using same)
    exact ⟨Equiv.ofBijective entry (Finite.injective_iff_bijective.mp injective), fun line => fit ⟨line, by simp⟩⟩
  · rintro ⟨entryOf, fit⟩
    refine ⟨fun line => ⟨entryOf ⟨line.1, by simpa using line.2⟩, by simp⟩, ?_,
      fun line => fit ⟨line.1, by simpa using line.2⟩⟩
    intro line other same
    have same : entryOf ⟨line.1, by simpa using line.2⟩ = entryOf ⟨other.1, by simpa using other.2⟩ :=
      Fin.ext (by simpa using same)
    exact Subtype.ext (by simpa using entryOf.injective same)

theorem pairsWithin_answers {fuel : ℕ} (enough : n < fuel) (fits : ℕ → ℕ → Bool) :
    ∃ answer, pairsWithin fuel n fits = some answer ∧
      (answer = true ↔ ∃ entryOf : Equiv.Perm (Fin n), ∀ line : Fin n, fits line (entryOf line) = true) := by
  rw [← served_iff]
  refine place_iff ?_ List.nodup_range
  exact lt_of_le_of_lt (by simpa using List.toFinset_card_le (List.range n)) enough

theorem pairsOneToOne_iff (n : ℕ) (fits : ℕ → ℕ → Bool) : pairsOneToOne n fits = true ↔
    ∃ entryOf : Equiv.Perm (Fin n), ∀ line : Fin n, fits line (entryOf line) = true := by
  obtain ⟨answer, found, right⟩ := pairsWithin_answers (Nat.lt_succ_self n) fits
  rw [← right]
  simp [pairsOneToOne, found]

theorem pairsWithin_total {fuel : ℕ} (enough : n < fuel) (fits : ℕ → ℕ → Bool) :
    pairsWithin fuel n fits = some (pairsOneToOne n fits) := by
  obtain ⟨answer, found, right⟩ := pairsWithin_answers enough fits
  rw [found, Option.some_inj, Bool.eq_iff_iff, right, pairsOneToOne_iff]

variable {lines : List Line}

theorem fits_iff {line entry : ℕ} (placed : line < lines.length)
    (listed : entry < wanted.length) : fits lines wanted line entry = true ↔
      wanted[entry].quantity = lines[line].quantity ∧ ∃ item ∈ wanted[entry].acceptable_items, item.id = lines[line].item := by
  simp [fits, placed, listed, admits]

/-! ### The constraints -/

/-- Every line has an entry of its own that admits it, and no entry is left over. -/
def Admitted (lines : List Line) (wanted : List AllowedLine) : Prop :=
  ∃ entryOf : Fin lines.length ≃ Fin wanted.length, ∀ line : Fin lines.length,
    wanted[entryOf line].quantity = lines[line].quantity ∧
      ∃ item ∈ wanted[entryOf line].acceptable_items, item.id = lines[line].item

def Satisfied (lines : List Line) (checkout : Members ℚ) (businessOrigin : String) : CheckoutConstraint → Prop
  | .lineItems wanted => Admitted lines wanted
  | .allowedMerchants allowed =>
    textOf (field "id" (checkout.lookup "merchant")) = some businessOrigin ∧ ∃ merchant ∈ allowed, merchant.id = businessOrigin

theorem admitted_iff : Admitted lines wanted ↔
    lines.length = wanted.length ∧ pairsOneToOne lines.length (fits lines wanted) = true := by
  rw [pairsOneToOne_iff]
  constructor
  · rintro ⟨entryOf, admitted⟩
    have size : lines.length = wanted.length := by simpa using Fintype.card_congr entryOf
    refine ⟨size, entryOf.trans (finCongr size.symm), fun line => ?_⟩
    exact (fits_iff line.2 (entryOf line).2).mpr (admitted line)
  · rintro ⟨size, entryOf, fit⟩
    refine ⟨entryOf.trans (finCongr size), fun line => ?_⟩
    have listed : (entryOf line : ℕ) < wanted.length := by omega
    exact (fits_iff line.2 listed).mp (fit line)

theorem ensure_iff {condition : Prop} [Decidable condition] {code message : String} {details : Members ℚ} :
    ensure condition code message details = .ok () ↔ condition := by
  by_cases holds : condition <;> simp [ensure, holds]

theorem checkConstraint_iff {checkout : Members ℚ} {businessOrigin : String} {constraint : CheckoutConstraint} :
    checkConstraint lines checkout businessOrigin constraint = .ok () ↔ Satisfied lines checkout businessOrigin constraint := by
  cases constraint with
  | lineItems wanted => rw [checkConstraint, ensure_iff, Satisfied, admitted_iff]
  | allowedMerchants allowed =>
    rw [checkConstraint, ensure_iff, Satisfied]
    simp

theorem forM_iff {α : Type} {check : α → Resolving ℚ Unit} : ∀ {items : List α},
    forM items check = .ok () ↔ ∀ item ∈ items, check item = .ok () := by
  intro items
  induction items with
  | nil => simp; rfl
  | cons item items ih =>
    rw [List.forM_cons]
    cases first : check item with
    | error e => simp [first, bind, Except.bind]
    | ok u => simpa [first, bind, Except.bind] using ih

/-- The search ends within one displacement more than there are entries, and it answers whether the lines and the entries
    pair up one to one; a signed checkout passes exactly when its lines are readable and every constraint is satisfied,
    the lines of one of line items being admitted one to one. -/
theorem checkout_lines_iff (n extra : ℕ) (fits : ℕ → ℕ → Bool) (opened : OpenCheckoutMandate) (checkout : Members ℚ)
    (businessOrigin : String) : pairsWithin (n + 1 + extra) n fits = some (pairsOneToOne n fits) ∧
      (pairsOneToOne n fits = true ↔ ∃ entryOf : Equiv.Perm (Fin n), ∀ line : Fin n, fits line (entryOf line) = true) ∧
      (checkOpenCheckoutConstraints opened checkout businessOrigin = .ok () ↔
        ∃ lines, linesSchema checkout = some lines ∧
          ∀ constraint ∈ opened.constraints, Satisfied lines checkout businessOrigin constraint) := by
  refine ⟨pairsWithin_total (by omega) fits, pairsOneToOne_iff n fits, ?_⟩
  unfold checkOpenCheckoutConstraints
  cases read : linesSchema checkout with
  | none => simp [orFail, bind, Except.bind]
  | some lines =>
    show forM opened.constraints (checkConstraint lines checkout businessOrigin) = .ok () ↔ _
    simp [forM_iff, checkConstraint_iff]

/-- A line that fits two entries gives up the first of them to one that fits no other. -/
example : pairsOneToOne 2 (fun line entry => line = 0 || entry = 0) = true := by decide +kernel

end AgentPey.CheckoutLines
