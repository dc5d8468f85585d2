import AgentPey.Shoppers
import AgentPey.Disciplines

/-!
The quotes of the MCP shopper and the spend that each of them reserves (`quotes.ts`, and what `shopper.ts` does with
them). Signing a quote's intent reserves its spend. From there on the reservation is in one place at a time: with the
call that signed it, in the book, with the call that took it, with its payment, or released. The lists of a `Shop` are
what the process has done so far, so that nothing is counted on what a call says of itself.
-/
namespace AgentPey.Quotes
open AgentPass Dates PurchaseChecks Routines Disciplines
open Shoppers (QuoteEntry UcpQuote DatedIntent Store UcpLine QuoteInput PayInput UcpPaymentReceipt Process confirmed
  withPaymentSent mayHaveBeenPaid DEFAULT_QUOTE_TTL_MS DEFAULT_MAX_QUOTES)
open List (append_assoc length_append map_append map_singleton mem_map mem_singleton perm_append_comm perm_append_singleton)

/-! ### The book -/

structure QuoteBookOptions where
  ttlMs : Int
  max : Nat
  positive : 0 < max

/-- The options of the running server. -/
def defaults : QuoteBookOptions := ⟨DEFAULT_QUOTE_TTL_MS, DEFAULT_MAX_QUOTES, by decide⟩

/-- `randomUUID`, one after another. -/
structure Uuids where
  randomUUID : Nat → String
  fresh : Function.Injective randomUUID

inductive DropReason where
  | expired
  | evicted
  deriving DecidableEq, Repr

/-- The clock, the ids drawn so far, the book in the order of its insertions, and what has happened to quotes. -/
structure Shop where
  now : Int
  drawn : Nat
  entries : List QuoteEntry
  issued : List QuoteEntry
  /-- The calls of `onDrop`, each of which releases the spend of the entry's intent. -/
  dropped : List (QuoteEntry × DropReason)
  /-- What `take` has returned, and when. -/
  taken : List (QuoteEntry × Int)
  /-- The calls of `payUcpQuote`. -/
  paid : List QuoteEntry
  /-- The intents whose spend `quote` has released itself. -/
  abandoned : List String
  /-- The entries whose spend `pay` has released. -/
  refunded : List QuoteEntry

def started (now : Int) (drawn : Nat) : Shop := ⟨now, drawn, [], [], [], [], [], [], []⟩

def intentId (entry : QuoteEntry) : String := entry.intent.intent.intentId

def Shop.onDrop (s : Shop) (entries : List QuoteEntry) (reason : DropReason) : Shop :=
  { s with dropped := s.dropped ++ entries.map fun entry => (entry, reason) }

/-- `sweep` up to its await, with the entries whose `onDrop` it waits for. -/
def Shop.sweep (s : Shop) : List QuoteEntry × Shop :=
  let expired := s.entries.filter fun entry => entry.expiresAt ≤ s.now
  (expired, { s with entries := s.entries.filter fun entry => !decide (entry.expiresAt ≤ s.now) }.onDrop expired .expired)

/-- The loop of `issue`: the oldest go while there is no room. What goes, and what stays. -/
def makeRoom (max : Nat) : List QuoteEntry → List QuoteEntry × List QuoteEntry
  | [] => ([], [])
  | oldest :: rest =>
    if rest.length + 1 ≥ max then
      let later := makeRoom max rest
      (oldest :: later.1, later.2)
    else ([], oldest :: rest)

variable (options : QuoteBookOptions) (uuids : Uuids)

def Shop.evict (s : Shop) : Shop :=
  { s with entries := (makeRoom options.max s.entries).2 }.onDrop (makeRoom options.max s.entries).1 .evicted

def Shop.issue (quote : UcpQuote) (venueId : String) (intent : DatedIntent) (s : Shop) : QuoteEntry × Shop :=
  let s := s.sweep.2.evict options
  let entry : QuoteEntry := ⟨"q_" ++ uuids.randomUUID s.drawn, quote, venueId, intent, min (s.now + options.ttlMs) intent.expiresAt⟩
  (entry, { s with drawn := s.drawn + 1, entries := s.entries ++ [entry], issued := s.issued ++ [entry] })

def dateOf (ms : Int) : Date :=
  if inRange : -100000000 * MS_PER_DAY ≤ ms ∧ ms ≤ 100000000 * MS_PER_DAY then some ⟨ms, inRange⟩ else none

def quoteNotFound (id : String) : Thrown :=
  .AgentPassError "QuoteNotFound" "no quote with that id is waiting to be paid: ask for a new quote" [("quoteId", .string id)]

def quoteExpired (id : String) (expiresAt : Int) : Thrown :=
  match toISOString (dateOf expiresAt) with
  | .ok iso => .AgentPassError "QuoteExpired" "the quote expired: ask for a new quote"
      [("quoteId", .string id), ("expiredAt", .string iso)]
  | .error e => e

/-- `take`: the quote leaves the book, and is paid unless its window is over. -/
def Shop.take (id : String) (s : Shop) : Except Thrown QuoteEntry × Shop :=
  match s.entries.find? fun entry => entry.id = id with
  | none => (.error (quoteNotFound id), s)
  | some entry =>
    let s := { s with entries := s.entries.eraseP fun entry => entry.id = id }
    if entry.expiresAt ≤ s.now then (.error (quoteExpired id entry.expiresAt), s.onDrop [entry] .expired)
    else (.ok entry, { s with taken := s.taken ++ [(entry, s.now)] })

/-! ### The shopper -/

inductive Op where
  | store (name : String)
  /-- The releases of what was swept. -/
  | settled (expired : List QuoteEntry)
  | signIntent (store : Store) (lines : List UcpLine)
  | quoteUcpCheckout (url : String) (lines : List UcpLine)
  | released (intentId : String)
  | venues
  | payUcpQuote (entry : QuoteEntry)

abbrev Op.Answer : Op → Type
  | .store _ => Store
  | .settled _ => Unit
  | .signIntent .. => DatedIntent
  | .quoteUcpCheckout .. => UcpQuote
  | .released _ => Unit
  | .venues => Unit
  | .payUcpQuote _ => UcpPaymentReceipt

abbrev Work := Routine Shop Op Thrown Op.Answer

/-- The call of the rail's `release` by a quote that failed. -/
def Shop.abandon (intentId : String) (s : Shop) : Shop := { s with abandoned := s.abandoned ++ [intentId] }

/-- The call of `payUcpQuote`. -/
def Shop.hand (entry : QuoteEntry) (s : Shop) : Shop := { s with paid := s.paid ++ [entry] }

/-- The call of the rail's `release` by a payment that provably never left. -/
def Shop.refund (entry : QuoteEntry) (s : Shop) : Shop := { s with refunded := s.refunded ++ [entry] }

/-- `release`: whatever the rail answers, the error goes on. -/
def releasing {α : Type} (call : Shop → Shop) (intentId : String) (e : Thrown) : Work α := do
  Routine.modify call
  let _ ← (Routine.ask (Op.released intentId)).attempt
  .throws e

def opening (intent : DatedIntent) : Except Thrown UcpQuote → Work UcpQuote
  | .ok quote => pure quote
  | .error e => releasing (Shop.abandon intent.intent.intentId) intent.intent.intentId e

def quote (input : QuoteInput) : Work QuoteEntry := do
  let store : Store ← Routine.ask (Op.store input.store)
  let expired ← Routine.atomic Shop.sweep
  Routine.ask (Op.settled expired)
  let intent : DatedIntent ← Routine.ask (Op.signIntent store input.lines)
  let opened ← (Routine.ask (Op.quoteUcpCheckout store.url input.lines)).attempt
  let quote ← opening intent opened
  Routine.atomic (Shop.issue options uuids quote store.venueId intent)

def takeQuote (input : PayInput) : Work QuoteEntry := do
  confirmed input
  Routine.ask Op.venues
  let taken ← Routine.atomic (Shop.take input.quoteId)
  taken

def unsent : Except Thrown QuoteEntry → Work QuoteEntry
  | .ok entry => pure entry
  | .error e => .throws (withPaymentSent e false)

def paying (entry : QuoteEntry) : Except Thrown UcpPaymentReceipt → Work UcpPaymentReceipt
  | .ok receipt => pure receipt
  | .error e => if mayHaveBeenPaid e then .throws e else releasing (Shop.refund entry) (intentId entry) e

def pay (input : PayInput) : Work UcpPaymentReceipt := do
  let taken ← (takeQuote input).attempt
  let entry ← unsent taken
  Routine.modify (Shop.hand entry)
  let paid ← (Routine.ask (Op.payUcpQuote entry)).attempt
  paying entry paid

inductive Call where
  | quote (input : QuoteInput)
  | pay (input : PayInput)
  | sweep

inductive Outcome where
  | quoted (entry : QuoteEntry)
  | paid (receipt : UcpPaymentReceipt)
  | done

def body : Call → Work Outcome
  | .quote input => do
    let entry ← quote options uuids input
    pure (.quoted entry)
  | .pay input => do
    let receipt ← pay input
    pure (.paid receipt)
  | .sweep => do
    let expired ← Routine.atomic Shop.sweep
    Routine.ask (Op.settled expired)
    pure .done

inductive Input where
  | fails (e : Thrown)
  | nothing
  | store (store : Store)
  | intent (intent : DatedIntent)
  | checkout (quote : UcpQuote)
  | receipt (receipt : UcpPaymentReceipt)

/-- The intent that an agent has signed has a random id. -/
def withId (id : String) (intent : DatedIntent) : DatedIntent := { intent with intent := { intent.intent with intentId := id } }

def serve : (o : Op) → Input → Shop → Option (Except Thrown o.Answer × Shop)
  | _, .fails e, s => some (.error e, s)
  | .store _, .store store, s => some (.ok store, s)
  | .settled _, .nothing, s => some (.ok (), s)
  | .signIntent .., .intent intent, s =>
    some (.ok (withId (uuids.randomUUID s.drawn) intent), { s with drawn := s.drawn + 1 })
  | .quoteUcpCheckout .., .checkout quote, s => some (.ok quote, s)
  | .released _, .nothing, s => some (.ok (), s)
  | .venues, .nothing, s => some (.ok (), s)
  | .payUcpQuote _, .receipt receipt, s => some (.ok receipt, s)
  | _, _, _ => none

/-- The clock shows any times. A restart leaves nothing in memory. -/
def host : Host Call Shop Op Thrown Op.Answer Outcome Input Int where
  body := body options uuids
  serve := serve uuids
  outside now s := { s with now := now }
  restart s := started s.now s.drawn

/-! ### The accounts -/

def Shop.gone (s : Shop) : List QuoteEntry := s.dropped.map Prod.fst ++ s.taken.map Prod.fst

def Shop.reserved (s : Shop) (signed : List String) : List String := signed ++ s.abandoned ++ s.issued.map intentId

/-- Where the reservations are, beside the shop itself: with calls that have signed, that have taken a quote, and that
    wait for its payment. -/
structure Books (s : Shop) (signed : List String) (holding paying : List QuoteEntry) : Prop where
  places : (s.entries ++ s.gone).Perm s.issued
  room : s.entries.length ≤ options.max
  early : ∀ taken ∈ s.taken, taken.2 < taken.1.expiresAt
  handed : (s.taken.map Prod.fst).Perm (holding ++ s.paid)
  refunds : (paying ++ s.refunded).Subperm s.paid
  intents : (s.reserved signed).Nodup
  drawn : ∀ id ∈ s.reserved signed, ∃ k < s.drawn, id = uuids.randomUUID k
  ids : (s.issued.map QuoteEntry.id).Nodup
  drawnIds : ∀ entry ∈ s.issued, ∃ k < s.drawn, entry.id = "q_" ++ uuids.randomUUID k

section
variable {options uuids} {s : Shop} {signed signed' : List String} {holding holding' paying paying' : List QuoteEntry}

theorem books_started (now : Int) (drawn : Nat) : Books options uuids (started now drawn) [] [] [] where
  places := List.Perm.refl _
  room := Nat.zero_le _
  early := by simp [started]
  handed := List.Perm.refl _
  refunds := List.Subperm.refl _
  intents := List.nodup_nil
  drawn := by simp [started, Shop.reserved]
  ids := List.nodup_nil
  drawnIds := by simp [started]

section
variable (books : Books options uuids s signed holding paying)
include books

theorem Books.congr (first : signed.Perm signed') (second : holding.Perm holding')
    (third : paying.Perm paying') : Books options uuids s signed' holding' paying' := by
  have same : (s.reserved signed).Perm (s.reserved signed') := (first.append_right _).append_right _
  exact {
    books with
    handed := books.handed.trans (second.append_right _)
    refunds := ((third.append_right s.refunded).symm.subperm).trans books.refunds
    intents := same.nodup_iff.mp books.intents
    drawn := fun id member => books.drawn id (same.mem_iff.mpr member) }

theorem Books.drop {gone kept : List QuoteEntry} (split : s.entries.Perm (kept ++ gone)) (reason : DropReason) :
    Books options uuids ({ s with entries := kept }.onDrop gone reason) signed holding paying := by
  refine { books with places := ?_, room := ?_ }
  · refine List.Perm.trans ?_ books.places
    have moved : ((gone.map fun entry => (entry, reason)).map Prod.fst) = gone := by
      rw [List.map_map]
      exact List.map_id gone
    simp only [Shop.onDrop, Shop.gone, map_append, moved]
    refine List.Perm.trans ?_ (split.append_right _).symm
    simp only [append_assoc]
    refine List.Perm.append_left kept ?_
    rw [← append_assoc, ← append_assoc]
    exact perm_append_comm.append_right _
  · have length := split.length_eq
    rw [length_append] at length
    have bound := books.room
    show kept.length ≤ options.max
    omega

theorem Books.sweep : Books options uuids s.sweep.2 signed holding paying := by
  refine books.drop ?_ .expired
  have split := List.filter_append_perm (fun entry : QuoteEntry => !decide (entry.expiresAt ≤ s.now)) s.entries
  simpa using split.symm

end

theorem makeRoom_split (max : Nat) (entries : List QuoteEntry) :
    entries = (makeRoom max entries).1 ++ (makeRoom max entries).2 := by
  induction entries with
  | nil => rfl
  | cons oldest rest ih =>
    unfold makeRoom
    by_cases full : rest.length + 1 ≥ max
    · rw [if_pos full]
      exact congrArg (oldest :: ·) ih
    · rw [if_neg full]
      rfl

theorem makeRoom_lt {max : Nat} (positive : 0 < max) (entries : List QuoteEntry) : (makeRoom max entries).2.length < max := by
  induction entries with
  | nil => exact positive
  | cons oldest rest ih =>
    unfold makeRoom
    by_cases full : rest.length + 1 ≥ max
    · rw [if_pos full]
      exact ih
    · rw [if_neg full]
      exact Nat.not_le.mp full

theorem Books.evict (books : Books options uuids s signed holding paying) :
    Books options uuids (s.evict options) signed holding paying := by
  refine books.drop ?_ .evicted
  exact (List.Perm.of_eq (makeRoom_split options.max s.entries)).trans perm_append_comm

variable {id venueId : String} {quote : UcpQuote} {intent : DatedIntent}

section
variable (books : Books options uuids s (intent.intent.intentId :: signed) holding paying)
include books

theorem Books.add {ends : Int} (free : s.entries.length < options.max)
    (fresh : id = "q_" ++ uuids.randomUUID s.drawn) : Books options uuids
      { s with drawn := s.drawn + 1, entries := s.entries ++ [⟨id, quote, venueId, intent, ends⟩],
               issued := s.issued ++ [⟨id, quote, venueId, intent, ends⟩] } signed holding paying := by
  have moved : (signed ++ s.abandoned ++ (s.issued ++ [(⟨id, quote, venueId, intent, ends⟩ : QuoteEntry)]).map intentId).Perm
      (s.reserved (intent.intent.intentId :: signed)) := by
    rw [map_append, ← append_assoc]
    exact perm_append_comm
  refine { books with
    places := ?_, room := ?_, intents := moved.nodup_iff.mpr books.intents, drawn := ?_, ids := ?_, drawnIds := ?_ }
  · have shifted : (s.entries ++ [(⟨id, quote, venueId, intent, ends⟩ : QuoteEntry)] ++ s.gone).Perm
        (s.entries ++ s.gone ++ [⟨id, quote, venueId, intent, ends⟩]) := by
      rw [append_assoc, append_assoc]
      exact perm_append_comm.append_left _
    exact shifted.trans (books.places.append_right _)
  · show (s.entries ++ [_]).length ≤ options.max
    rw [length_append, List.length_singleton]
    omega
  · intro id member
    obtain ⟨k, small, same⟩ := books.drawn id (moved.mem_iff.mp member)
    exact ⟨k, Nat.lt_succ_of_lt small, same⟩
  · rw [map_append, List.nodup_append]
    refine ⟨books.ids, List.nodup_singleton _, ?_⟩
    rintro old earlier new latest rfl
    obtain ⟨entry, among, rfl⟩ := mem_map.mp earlier
    obtain ⟨k, small, same⟩ := books.drawnIds entry among
    rw [map_singleton, mem_singleton] at latest
    rw [same] at latest
    have uuid := (String.append_right_inj "q_").mp (latest.trans fresh)
    exact absurd (uuids.fresh uuid) (Nat.ne_of_lt small)
  · intro entry among
    rcases List.mem_append.mp among with old | new
    · obtain ⟨k, small, same⟩ := books.drawnIds entry old
      exact ⟨k, Nat.lt_succ_of_lt small, same⟩
    · rw [mem_singleton.mp new]
      exact ⟨s.drawn, Nat.lt_succ_self _, fresh⟩

theorem Books.issue : Books options uuids (s.issue options uuids quote venueId intent).2 signed holding paying :=
  books.sweep.evict.add (makeRoom_lt options.positive _) rfl

end

variable {entry : QuoteEntry}

theorem find_perm {entries : List QuoteEntry} {p : QuoteEntry → Bool} (found : entries.find? p = some entry)
    : entries.Perm (entries.eraseP p ++ [entry]) := by
  induction entries with
  | nil => simp at found
  | cons first rest ih =>
    by_cases here : p first = true
    · obtain rfl : first = entry := by simpa [here] using found
      rw [List.eraseP_cons_of_pos here]
      exact (perm_append_singleton first rest).symm
    · rw [List.eraseP_cons_of_neg here]
      rw [List.find?_cons_of_neg here] at found
      exact (ih found).cons first

theorem Books.took (books : Books options uuids s signed holding paying)
    (taken : (s.take id).1 = .ok entry) : Books options uuids (s.take id).2 signed (entry :: holding) paying := by
  unfold Shop.take at taken ⊢
  cases found : s.entries.find? fun entry => entry.id = id with
  | none => simp [found] at taken
  | some first =>
    by_cases late : first.expiresAt ≤ s.now
    · simp [found, late] at taken
    · obtain rfl : first = entry := by simpa [found, late] using taken
      simp only [late, ↓reduceIte]
      have split := find_perm found
      have length := split.length_eq
      rw [length_append] at length
      refine { books with places := ?_, room := ?_, early := ?_, handed := ?_ }
      · refine List.Perm.trans ?_ books.places
        simp only [Shop.gone, map_append, map_singleton]
        refine List.Perm.trans ?_ (split.append_right _).symm
        simp only [append_assoc]
        refine List.Perm.append_left _ ?_
        rw [← append_assoc]
        exact perm_append_comm
      · have bound := books.room
        show (s.entries.eraseP _).length ≤ options.max
        omega
      · intro pair among
        rcases List.mem_append.mp among with old | new
        · exact books.early pair old
        · rw [mem_singleton.mp new]
          exact Int.not_le.mp late
      · rw [map_append, map_singleton]
        exact perm_append_comm.trans (books.handed.cons _)

theorem Books.missed {e : Thrown} (books : Books options uuids s signed holding paying)
    (missed : (s.take id).1 = .error e) : Books options uuids (s.take id).2 signed holding paying := by
  unfold Shop.take at missed ⊢
  cases found : s.entries.find? fun entry => entry.id = id with
  | none => exact books
  | some first =>
    by_cases late : first.expiresAt ≤ s.now
    · simp only [late, ↓reduceIte]
      exact books.drop (find_perm found) .expired
    · simp [found, late] at missed

theorem Books.hand (books : Books options uuids s signed (entry :: holding) paying) :
    Books options uuids (s.hand entry) signed holding (entry :: paying) := by
  refine { books with handed := ?_, refunds := ?_ }
  · refine books.handed.trans ?_
    rw [List.cons_append]
    show (entry :: (holding ++ s.paid)).Perm (holding ++ (s.paid ++ [entry]))
    rw [← append_assoc]
    exact (perm_append_singleton entry _).symm
  · have grown : (entry :: (paying ++ s.refunded)).Subperm (entry :: s.paid) := (List.subperm_cons entry).mpr books.refunds
    exact grown.trans (perm_append_singleton entry s.paid).symm.subperm

theorem Books.abandon (books : Books options uuids s (id :: signed) holding paying) :
    Books options uuids (s.abandon id) signed holding paying := by
  have moved : ((s.abandon id).reserved signed).Perm (s.reserved (id :: signed)) := by
    simp only [Shop.reserved, Shop.abandon, ← append_assoc, List.cons_append]
    exact (perm_append_singleton id (signed ++ s.abandoned)).append_right _
  exact { books with
    intents := moved.nodup_iff.mpr books.intents
    drawn := fun id member => books.drawn id (moved.mem_iff.mp member) }

theorem Books.refund (books : Books options uuids s signed holding (entry :: paying)) :
    Books options uuids (s.refund entry) signed holding paying := by
  refine { books with refunds := ?_ }
  show (paying ++ (s.refunded ++ [entry])).Subperm s.paid
  rw [← append_assoc]
  exact (perm_append_singleton entry _).subperm.trans books.refunds

section
variable (books : Books options uuids s signed holding paying)
include books

theorem Books.sign :
    Books options uuids { s with drawn := s.drawn + 1 } (uuids.randomUUID s.drawn :: signed) holding paying := by
  refine { books with intents := ?_, drawn := ?_, drawnIds := ?_ }
  · show (uuids.randomUUID s.drawn :: s.reserved signed).Nodup
    refine List.nodup_cons.mpr ⟨fun member => ?_, books.intents⟩
    obtain ⟨k, small, same⟩ := books.drawn _ member
    exact absurd (uuids.fresh same) (Nat.ne_of_gt small)
  · intro id member
    rcases List.mem_cons.mp (show id ∈ uuids.randomUUID s.drawn :: s.reserved signed from member) with rfl | old
    · exact ⟨s.drawn, Nat.lt_succ_self _, rfl⟩
    · obtain ⟨k, small, same⟩ := books.drawn id old
      exact ⟨k, Nat.lt_succ_of_lt small, same⟩
  · intro entry among
    obtain ⟨k, small, same⟩ := books.drawnIds entry among
    exact ⟨k, Nat.lt_succ_of_lt small, same⟩

theorem Books.forget (less : signed'.Sublist signed)
    (fewer : paying'.Sublist paying) : Books options uuids s signed' holding paying' := by
  have sub : (s.reserved signed').Sublist (s.reserved signed) := (less.append_right _).append_right _
  exact { books with
    refunds := ((fewer.append_right _).subperm).trans books.refunds
    intents := books.intents.sublist sub
    drawn := fun id member => books.drawn id (sub.mem member) }

theorem Books.tick (now : Int) : Books options uuids { s with now := now } signed holding paying := { books with }

end

end

/-! ### What a call does -/

/-- Where a call stands: with nothing, with an intent it has signed, with a quote it has taken, or with a payment. -/
inductive Mode where
  | idle
  | signed (intentId : String)
  | holding (entry : QuoteEntry)
  | paying (entry : QuoteEntry)

def Mode.intent : Mode → Option String
  | .signed id => some id
  | _ => none

def Mode.held : Mode → Option QuoteEntry
  | .holding entry => some entry
  | _ => none

def Mode.payment : Mode → Option QuoteEntry
  | .paying entry => some entry
  | _ => none

inductive Moves : Mode → Shop → Shop → Mode → Prop where
  | sweep {m s} : Moves m s s.sweep.2 m
  | issue {s quote venueId} {intent : DatedIntent} :
      Moves (.signed intent.intent.intentId) s (s.issue options uuids quote venueId intent).2 .idle
  | took {s id entry} (taken : (Shop.take id s).1 = .ok entry) : Moves .idle s (s.take id).2 (.holding entry)
  | missed {s id e} (missed : (Shop.take id s).1 = .error e) : Moves .idle s (s.take id).2 .idle
  | hand {s entry} : Moves (.holding entry) s (s.hand entry) (.paying entry)
  | abandon {s id} : Moves (.signed id) s (s.abandon id) .idle
  | refund {s entry} : Moves (.paying entry) s (s.refund entry) .idle

def learns : Mode → (o : Op) → Except Thrown o.Answer → Mode
  | _, .signIntent .., .ok intent => .signed intent.intent.intentId
  | m, _, _ => m

def accounts : Discipline Shop Op Thrown Op.Answer Mode where
  sync := Moves options uuids
  ask m o m' := m' = m ∧ m.held = none ∧ ∀ store lines, o = .signIntent store lines → m = .idle
  expects _ _ := True
  answer := learns

/-- No call ends with a quote it has taken and not paid. -/
def Ends (_ : Call) (m : Mode) (_ : Except Thrown Outcome) : Prop := m.held = none

section
variable {options uuids} {m m' : Mode} {s s' : Shop} {α : Type}

theorem Moves.books {signed : List String} {holding paying : List QuoteEntry} (moves : Moves options uuids m s s' m')
    (books : Books options uuids s (m.intent.toList ++ signed) (m.held.toList ++ holding) (m.payment.toList ++ paying)) :
    Books options uuids s' (m'.intent.toList ++ signed) (m'.held.toList ++ holding) (m'.payment.toList ++ paying) := by
  cases moves with
  | sweep => exact books.sweep
  | issue => exact books.issue
  | took taken => exact books.took taken
  | missed missed => exact books.missed missed
  | hand => exact books.hand
  | abandon => exact books.abandon
  | refund => exact books.refund

variable {o : Op}

theorem learns_aside (aside : ∀ store lines, o ≠ .signIntent store lines) (answer : Except Thrown o.Answer) :
    learns m o answer = m := by
  cases o with
  | signIntent store lines => exact absurd rfl (aside store lines)
  | _ => cases m <;> rfl

theorem follows_aside {Q : Mode → Except Thrown o.Answer → Prop} (aside : ∀ store lines, o ≠ .signIntent store lines)
    (free : m.held = none) (later : ∀ answer, Q m answer) : Follows (accounts options uuids) m (.ask o) Q := by
  refine follows_ask ⟨rfl, free, fun store lines same => absurd same (aside store lines)⟩ fun answer _ => ?_
  show Q (learns m o answer) answer
  rw [learns_aside aside]
  exact later answer

theorem follows_releasing {call : Shop → Shop} {id : String} {e : Thrown} {Q : Mode → Except Thrown α → Prop}
    (moves : ∀ s, Moves options uuids m s (call s) .idle) (ends : Q .idle (.error e)) :
    Follows (accounts options uuids) m (releasing call id e : Work α) Q := by
  apply Follows.bind
  refine fun s => ⟨.idle, moves s, ?_⟩
  apply Follows.bind
  apply Follows.attempt
  exact follows_aside (by simp) rfl fun _ => ends

theorem follows_quote (input : QuoteInput) :
    Follows (accounts options uuids) .idle (quote options uuids input) fun m _ => m.held = none := by
  unfold quote
  apply Follows.bind
  refine follows_aside (by simp) rfl fun answer => ?_
  cases answer with
  | error e => exact rfl
  | ok store =>
    apply Follows.bind
    refine fun s => ⟨.idle, .sweep, ?_⟩
    apply Follows.bind
    refine follows_aside (by simp) rfl fun answer => ?_
    cases answer with
    | error e => exact rfl
    | ok _ =>
      apply Follows.bind
      refine follows_ask ⟨rfl, rfl, fun _ _ _ => rfl⟩ fun answer _ => ?_
      cases answer with
      | error e => exact rfl
      | ok intent =>
        apply Follows.bind
        apply Follows.attempt
        refine follows_aside (by simp) rfl fun opened => ?_
        apply Follows.bind
        cases opened with
        | error e => exact follows_releasing (fun _ => .abandon) rfl
        | ok quote => exact fun s => ⟨.idle, .issue, rfl⟩

theorem follows_pay (input : PayInput) : Follows (accounts options uuids) .idle (pay input) fun m _ => m.held = none := by
  unfold pay
  apply Follows.bind
  apply Follows.attempt
  unfold takeQuote
  apply Follows.bind
  refine follows_lift ?_
  cases confirmed input with
  | error e => exact rfl
  | ok _ =>
    apply Follows.bind
    refine follows_aside (by simp) rfl fun answer => ?_
    cases answer with
    | error e => exact rfl
    | ok _ =>
      apply Follows.bind
      intro s
      cases taken : (Shop.take input.quoteId s).1 with
      | error e =>
        refine ⟨.idle, .missed taken, ?_⟩
        show Follows _ _ (liftM (Shop.take input.quoteId s).1 : Work QuoteEntry) _
        rw [taken]
        exact rfl
      | ok entry =>
        refine ⟨.holding entry, .took taken, ?_⟩
        show Follows _ _ (liftM (Shop.take input.quoteId s).1 : Work QuoteEntry) _
        rw [taken]
        apply Follows.bind (r := unsent (.ok entry))
        apply Follows.bind (r := Routine.modify (Shop.hand entry))
        refine fun s => ⟨.paying entry, .hand, ?_⟩
        apply Follows.bind (r := (Routine.ask (Op.payUcpQuote entry)).attempt)
        apply Follows.attempt
        refine follows_aside (by simp) rfl fun paid => ?_
        cases paid with
        | ok receipt => exact rfl
        | error e =>
          show Follows _ _ (if mayHaveBeenPaid e then _ else _) _
          by_cases sent : mayHaveBeenPaid e = true
          · rw [if_pos sent]
            exact rfl
          · rw [if_neg sent]
            exact follows_releasing (fun _ => .refund) rfl

theorem follows_body (c : Call) : Follows (accounts options uuids) .idle (body options uuids c) (Ends c) := by
  cases c with
  | quote input =>
    apply Follows.bind
    refine (follows_quote input).imp fun m result free => ?_
    cases result with
    | ok entry => exact free
    | error e => exact free
  | pay input =>
    apply Follows.bind
    refine (follows_pay input).imp fun m result free => ?_
    cases result with
    | ok receipt => exact free
    | error e => exact free
  | sweep =>
    apply Follows.bind
    refine fun s => ⟨.idle, .sweep, ?_⟩
    apply Follows.bind
    refine follows_aside (by simp) rfl fun answer => ?_
    cases answer with
    | ok _ => exact rfl
    | error e => exact rfl

end

/-! ### Every run -/

def Accounts (s : Shop) (ms : List (Call × Option Mode)) : Prop :=
  Books options uuids s (pick Mode.intent ms) (pick Mode.held ms) (pick Mode.payment ms)

/-- No call but one has a quote that it has taken and not paid. -/
def CalmBut (i : Nat) (ms : List (Call × Option Mode)) : Prop :=
  ∀ j c m, j ≠ i → ms[j]? = some (c, some m) → m.held = none

def Calm (ms : List (Call × Option Mode)) : Prop := ∀ (j : Nat) c m, ms[j]? = some (c, some m) → m.held = none

section
variable {options uuids} {s s' : Shop} {ms : List (Call × Option Mode)} {i : Nat} {c : Call} {m m' : Mode}

section
variable (accounts : Accounts options uuids s ms) (here : ms[i]? = some (c, some m))
include accounts here

theorem Accounts.moves (moves : Moves options uuids m s s' m') : Accounts options uuids s' (ms.set i (c, some m')) := by
  have before := Books.congr accounts (pick_at Mode.intent here) (pick_at Mode.held here) (pick_at Mode.payment here)
  exact (moves.books before).congr (pick_set Mode.intent here (some m')).symm (pick_set Mode.held here (some m')).symm
    (pick_set Mode.payment here (some m')).symm

theorem Accounts.end_ (free : m.held = none) : Accounts options uuids s (ms.set i (c, none)) := by
  have before := Books.congr accounts (pick_at Mode.intent here) (pick_at Mode.held here) (pick_at Mode.payment here)
  rw [Option.bind_some, Option.bind_some, Option.bind_some, free, Option.toList_none, List.nil_append] at before
  have after := before.forget (List.sublist_append_right ..) (List.sublist_append_right ..)
  exact after.congr (pick_set Mode.intent here none).symm (pick_set Mode.held here none).symm
    (pick_set Mode.payment here none).symm

end

theorem pick_calm (calm : Calm ms) : pick Mode.held ms = [] := by
  refine List.filterMap_eq_nil_iff.mpr fun call among => ?_
  obtain ⟨j, here⟩ := List.mem_iff_getElem?.mp among
  obtain ⟨c, mode⟩ := call
  cases mode with
  | none => rfl
  | some m => exact calm j c m here

theorem CalmBut.set (calm : CalmBut i ms) (mode : Option Mode) : CalmBut i (ms.set i (c, mode)) := by
  intro j d m other here
  rcases mode_of_set here with ⟨same, _⟩ | ⟨_, here⟩
  · exact absurd same other
  · exact calm j d m other here

theorem CalmBut.calm (calm : CalmBut i ms) {mode : Option Mode} (free : ∀ m, mode = some m → m.held = none) :
    Calm (ms.set i (c, mode)) := by
  intro j d m here
  rcases mode_of_set here with ⟨_, _, same⟩ | ⟨other, here⟩
  · exact free m same.symm
  · exact calm j d m other here

theorem served_mode {o : Op} {input : Input} {answer : Except Thrown o.Answer}
    (served : serve uuids o input s = some (answer, s')) :
    (s' = s ∧ learns m o answer = m) ∨ ((∃ store lines, o = .signIntent store lines) ∧
      s' = { s with drawn := s.drawn + 1 } ∧ learns m o answer = .signed (uuids.randomUUID s.drawn)) := by
  cases input with
  | fails e =>
    obtain ⟨rfl, rfl⟩ : Except.error e = answer ∧ s = s' := by simpa [serve] using served
    refine .inl ⟨rfl, ?_⟩
    cases m <;> cases o <;> rfl
  | intent intent =>
    cases o with
    | signIntent store lines =>
      obtain ⟨rfl, rfl⟩ : Except.ok (withId (uuids.randomUUID s.drawn) intent) = answer ∧ { s with drawn := s.drawn + 1 } = s' := by
        simpa [serve] using served
      refine .inr ⟨⟨store, lines, rfl⟩, rfl, ?_⟩
      cases m <;> rfl
    | _ => simp [serve] at served
  | _ =>
    cases o with
    | signIntent store lines => simp [serve] at served
    | _ =>
      first
        | simp [serve] at served
          done
        | obtain ⟨_, rfl⟩ := by simpa only [serve, Option.some.injEq, Prod.mk.injEq] using served
          exact .inl ⟨rfl, learns_aside (by simp) answer⟩

theorem Accounts.sign (accounts : Accounts options uuids s ms) (here : ms[i]? = some (c, some .idle)) :
    Accounts options uuids { s with drawn := s.drawn + 1 } (ms.set i (c, some (.signed (uuids.randomUUID s.drawn)))) := by
  have before := Books.congr accounts (pick_at Mode.intent here) (pick_at Mode.held here) (pick_at Mode.payment here)
  exact (Books.sign before).congr (pick_set Mode.intent here (some (.signed _))).symm
    (pick_set Mode.held here (some (.signed _))).symm (pick_set Mode.payment here (some (.signed _))).symm

end

theorem keeps_accounts : Keeps (host options uuids) (accounts options uuids) Ends
    (fun s ms _ => Accounts options uuids s ms ∧ Calm ms) (fun i s ms _ => Accounts options uuids s ms ∧ CalmBut i ms)
    fun _ _ _ => True where
  start {w ms t c} holds aligned _ := by
    obtain ⟨accounts, calm⟩ := holds
    refine ⟨.idle, follows_body c, ?_, fun j d m other here => ?_⟩
    · unfold Accounts
      rw [pick_append rfl, pick_append rfl, pick_append rfl]
      exact accounts
    · rcases mode_of_append here with ⟨same, _⟩ | here
      · exact absurd same other
      · exact calm j d m here
  resume holds _ _ := ⟨holds.1, fun j c m _ here => holds.2 j c m here⟩
  sync {s ms t i c m s' m'} holds here moves := ⟨holds.1.moves here moves, holds.2.set _⟩
  ask {s ms t i c m o m' w a calls} holds here asks _ _ _ := by
    obtain ⟨rfl, free, _⟩ := asks
    refine ⟨?_, holds.2.calm fun m same => Option.some.inj same ▸ free⟩
    rw [set_same here]
    exact holds.1
  serve {w ms t i c m m₀ o rest input answer s'} holds aligned here _ _ asks served := by
    obtain ⟨rfl, free, signs⟩ := asks
    refine ⟨trivial, ?_⟩
    have calm : CalmBut i ms := fun j c m _ found => holds.2 j c m found
    rcases served_mode (m := m) served with ⟨rfl, same⟩ | ⟨⟨store, lines, same⟩, rfl, learnt⟩
    · show Accounts options uuids _ (ms.set i (c, some (learns _ o answer))) ∧ Calm (ms.set i (c, some (learns _ o answer)))
      rw [same]
      refine ⟨?_, calm.calm fun m same => Option.some.inj same ▸ free⟩
      rw [set_same here]
      exact holds.1
    · obtain rfl := signs store lines same
      show Accounts options uuids _ (ms.set i (c, some (learns _ o answer))) ∧ Calm (ms.set i (c, some (learns _ o answer)))
      rw [learnt]
      refine ⟨holds.1.sign here, calm.calm fun m same => ?_⟩
      rw [← Option.some.inj same]
      rfl
  finish {s ms t i c m result w a calls} holds here ends _ _ :=
    ⟨holds.1.end_ here ends, holds.2.calm fun _ impossible => nomatch impossible⟩
  outside {w ms t k} holds _ := ⟨Books.tick holds.1 k, holds.2⟩
  crash {w ms t} _ _ _ := by
    refine ⟨?_, fun j c m here => ?_⟩
    · unfold Accounts
      rw [pick_killed, pick_killed, pick_killed]
      exact books_started _ _
    · cases mode_of_kill here

def runOf (now : Int) (actions : List (Action Call Input Int)) : Shop :=
  (Traces.exec (step (host options uuids)) ⟨started now 0, []⟩ actions).1.shared

theorem run_books (now : Int) (actions : List (Action Call Input Int)) :
    ∃ signed paying, Books options uuids (runOf options uuids now actions) signed [] paying := by
  have start : Holds (accounts options uuids) Ends (fun s ms _ => Accounts options uuids s ms ∧ Calm ms)
      (⟨started now 0, []⟩ : System Call Shop Op Thrown Op.Answer Outcome) [] := by
    refine ⟨[], ⟨books_started now 0, fun j c m here => ?_⟩, aligned_nil⟩
    simp at here
  obtain ⟨ms, ⟨books, calm⟩, _⟩ := kept_along (keeps_accounts options uuids) start actions fun _ _ _ _ => trivial
  unfold Accounts at books
  rw [pick_calm calm] at books
  exact ⟨_, _, books⟩

/-! ### Every quote leaves once -/

/-- How often a quote is in the book, was dropped and was taken. -/
def Shop.inBook (s : Shop) (id : String) : Nat := (s.entries.map QuoteEntry.id).count id
def Shop.drops (s : Shop) (id : String) : Nat := ((s.dropped.map Prod.fst).map QuoteEntry.id).count id
def Shop.takes (s : Shop) (id : String) : Nat := ((s.taken.map Prod.fst).map QuoteEntry.id).count id

def Shop.payments (s : Shop) (id : String) : Nat := (s.paid.map intentId).count id

/-- How often the spend of an intent was released: by `onDrop`, by a quote that failed, by a payment that never left. -/
def Shop.releases (s : Shop) (id : String) : Nat :=
  ((s.dropped.map Prod.fst).map intentId).count id + s.abandoned.count id + (s.refunded.map intentId).count id

section
variable {options uuids} {s : Shop} {signed : List String} {paying : List QuoteEntry} {entry : QuoteEntry}

section
variable (books : Books options uuids s signed [] paying)
include books

/-- Of the places a quote may be in, it is in exactly one. -/
theorem Books.counted {f : QuoteEntry → String} (distinct : (s.issued.map f).Nodup) (issued : entry ∈ s.issued) :
    (s.entries.map f).count (f entry) + ((s.dropped.map Prod.fst).map f).count (f entry) +
      ((s.taken.map Prod.fst).map f).count (f entry) = 1 := by
  have all := (books.places.map f).count_eq (f entry)
  rw [List.count_eq_one_of_mem distinct (List.mem_map_of_mem issued)] at all
  simp only [Shop.gone, map_append, List.count_append] at all ⊢
  omega

theorem Books.intents_issued : (s.issued.map intentId).Nodup :=
  books.intents.sublist (List.sublist_append_right ..)

/-- A payment was handed what was taken, and its own release is the only one of what it was handed. -/
theorem Books.spend (issued : entry ∈ s.issued) :
    s.payments (intentId entry) = ((s.taken.map Prod.fst).map intentId).count (intentId entry) ∧
      s.abandoned.count (intentId entry) = 0 ∧
      (s.refunded.map intentId).count (intentId entry) ≤ s.payments (intentId entry) := by
  refine ⟨?_, ?_, ?_⟩
  · exact ((books.handed.map intentId).count_eq _).symm
  · refine List.count_eq_zero.mpr fun member => ?_
    have apart := (List.nodup_append.mp books.intents).2.2
    exact apart _ (List.mem_append_right _ member) _ (List.mem_map_of_mem issued) rfl
  · obtain ⟨some', same, among⟩ := books.refunds
    have bound := (among.map intentId).count_le (intentId entry)
    rw [(same.map intentId).count_eq, map_append, List.count_append] at bound
    unfold Shop.payments
    omega

end

end

/-- In every run, for any options of the book: the book never holds more than its maximum, a quote is taken only before
    it expires, and a sweep leaves none that has expired. Every quote issued is in the book, or was dropped with one
    call of `onDrop`, or was taken, and only one of these, once. Its spend is reserved while it is in the book, is
    released once when it was dropped, and else is handed to one payment, which alone may release it, once. -/
theorem quotes_leave_once (now : Int) (actions : List (Action Call Input Int)) :
    (runOf options uuids now actions).entries.length ≤ options.max ∧
    (∀ taken ∈ (runOf options uuids now actions).taken, taken.2 < taken.1.expiresAt) ∧
    (∀ entry ∈ (runOf options uuids now actions).sweep.2.entries, (runOf options uuids now actions).now < entry.expiresAt) ∧
    ∀ entry ∈ (runOf options uuids now actions).issued,
      (runOf options uuids now actions).inBook entry.id + (runOf options uuids now actions).drops entry.id +
        (runOf options uuids now actions).takes entry.id = 1 ∧
      (entry ∈ (runOf options uuids now actions).entries ∧
          (runOf options uuids now actions).payments (intentId entry) = 0 ∧
          (runOf options uuids now actions).releases (intentId entry) = 0 ∨
        (∃ reason, (entry, reason) ∈ (runOf options uuids now actions).dropped) ∧
          (runOf options uuids now actions).payments (intentId entry) = 0 ∧
          (runOf options uuids now actions).releases (intentId entry) = 1 ∨
        (∃ at_, (entry, at_) ∈ (runOf options uuids now actions).taken) ∧
          (runOf options uuids now actions).payments (intentId entry) = 1 ∧
          (runOf options uuids now actions).releases (intentId entry) =
            ((runOf options uuids now actions).refunded.map intentId).count (intentId entry) ∧
          (runOf options uuids now actions).releases (intentId entry) ≤ 1) := by
  obtain ⟨signed, paying, books⟩ := run_books options uuids now actions
  generalize runOf options uuids now actions = s at books ⊢
  refine ⟨books.room, books.early, fun entry kept => ?_, fun entry issued => ⟨books.counted books.ids issued, ?_⟩⟩
  · have later := (List.mem_filter.mp (show entry ∈ s.entries.filter _ from kept)).2
    simpa using later
  · have once := books.counted books.intents_issued issued
    obtain ⟨handed, kept, refunds⟩ := books.spend issued
    unfold Shop.releases
    have place : entry ∈ s.entries ∨ entry ∈ s.dropped.map Prod.fst ∨ entry ∈ s.taken.map Prod.fst := by
      have among := books.places.mem_iff.mpr issued
      simpa [Shop.gone] using among
    have here : ∀ {list : List QuoteEntry}, entry ∈ list → 0 < (list.map intentId).count (intentId entry) := fun member =>
      List.count_pos_iff.mpr (List.mem_map_of_mem member)
    rcases place with inBook | dropped | taken
    · have := here inBook
      exact .inl ⟨inBook, by omega, by omega⟩
    · have := here dropped
      obtain ⟨⟨_, reason⟩, among, rfl⟩ := mem_map.mp dropped
      exact .inr (.inl ⟨⟨reason, among⟩, by omega, by omega⟩)
    · have := here taken
      obtain ⟨⟨_, at_⟩, among, rfl⟩ := mem_map.mp taken
      exact .inr (.inr ⟨⟨at_, among⟩, by omega, by omega, by omega⟩)

end AgentPey.Quotes
