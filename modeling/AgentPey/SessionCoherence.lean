import AgentPey.SessionWrites
import Mathlib.Data.List.Forall2

/-!
Every stored checkout session is coherent: its payment requirements ask for what its quote adds up to, and its quote
prices its own lines. Requests keep parts of what a session had (its quote while the same lines cost the same, its
requirements while the total is the same) beside parts that are new, and store nothing else.
-/
namespace AgentPey.SessionCoherence
open Receipts CheckoutSessions Orders Routines Gateway PaidOrders UcpCheckout Disciplines SessionWrites

/-- A quoted line prices a line: the same item, and its unit price times the quantity. -/
def Prices (line : SessionLine) (quoted : QuotedLine) : Prop :=
  quoted.productId = line.productId ∧ quoted.totalAtomic = quoted.unitAtomic * line.quantity

/-- A quote of lines, in their order, that adds up. -/
structure Quotes (lines : List SessionLine) (quote : SessionQuote) : Prop where
  prices : List.Forall₂ Prices lines quote.lines
  total : quote.totalAtomic = (quote.lines.map QuotedLine.totalAtomic).sum

/-- What is promised of the answers: under which id the platform has a product that was asked for, and the asset of
    requirements that the payment library has built. -/
structure Providers where
  names : String → String → Prop
  assets : String → Prop

/-- A platform has its products under the ids they are asked for by. -/
def plain : Providers := ⟨fun id own => own = id, fun _ => True⟩

variable (known : Providers)

def PricesAs (line : SessionLine) (quoted : QuotedLine) : Prop :=
  known.names line.productId quoted.productId ∧ quoted.totalAtomic = quoted.unitAtomic * line.quantity

structure QuotesAs (lines : List SessionLine) (quote : SessionQuote) : Prop where
  prices : List.Forall₂ (PricesAs known) lines quote.lines
  total : quote.totalAtomic = (quote.lines.map QuotedLine.totalAtomic).sum

/-- Requirements come with the quote they are for. -/
def Termed (session : CheckoutSession) : Prop :=
  ∀ requirements, session.requirements = some requirements → known.assets requirements.asset ∧
    ∃ quote, session.quote = some quote ∧ requirements.amount = quote.totalAtomic

/-- A session waits for its payment, or is being paid. -/
def Payable (session : CheckoutSession) : Prop :=
  session.status = .readyForComplete ∨ session.status = .completeInProgress

structure Coherent (session : CheckoutSession) : Prop where
  termed : Termed known session
  quoted : ∀ quote, session.quote = some quote → QuotesAs known session.lines quote
  payable : Payable session → session.requirements.isSome

section
variable {known}

theorem Coherent.terms {session : CheckoutSession} (coherent : Coherent known session) (payable : Payable session) :
    ∃ requirements quote, session.requirements = some requirements ∧ session.quote = some quote ∧
      requirements.amount = quote.totalAtomic ∧ QuotesAs known session.lines quote := by
  obtain ⟨requirements, has⟩ := Option.isSome_iff_exists.mp (coherent.payable payable)
  obtain ⟨_, quote, quoted, amount⟩ := coherent.termed requirements has
  exact ⟨requirements, quote, has, quoted, amount, coherent.quoted quote quoted⟩

theorem Coherent.same {session other : CheckoutSession} (coherent : Coherent known session)
    (lines : other.lines = session.lines) (quote : other.quote = session.quote)
    (requirements : other.requirements = session.requirements) (payable : Payable other → session.requirements.isSome) :
    Coherent known other where
  termed := by
    unfold Termed
    rw [quote, requirements]
    exact coherent.termed
  quoted := by
    rw [quote, lines]
    exact coherent.quoted
  payable := by
    rw [requirements]
    exact payable

end

/-! ### The discipline -/

/-- What is known of an answer: a stored session is coherent, and built requirements are for the price they were asked
    for. -/
def Known : (o : Op) → Except Failure o.Answer → Prop
  | .getSession _, .ok (some session) => Coherent known session
  | .getProduct id, .ok (some product) => known.names id product.id
  | .buildPaymentRequirements _ amount _, .ok (some built) => built.amount = amount ∧ known.assets built.asset
  | _, _ => True

/-- A session as it is stored before it is charged for these requirements. -/
structure Charged (session : CheckoutSession) (requirements : StoredRequirements) : Prop where
  coherent : Coherent known session
  status : session.status = .completeInProgress
  terms : session.requirements = some requirements

/-- Only coherent sessions are stored, and one is charged in the version stored last. -/
def Stores (m : Option CheckoutSession) : Op → Option CheckoutSession → Prop
  | .saveSession session, m' => Coherent known session ∧ m' = some session
  | .settlePayment requirements .., m' => m' = m ∧ ∃ session, m = some session ∧ Charged known session requirements
  | _, m' => m' = m

/-- The mode is the version a request has stored last. -/
def coherence : Discipline Storefront Op Failure Op.Answer (Option CheckoutSession) where
  sync m s s' m' := s'.sessions = s.sessions ∧ m' = m
  ask m o m' := Stores known m o m'
  expects := Known known
  answer m _ _ := m

/-- A routine that keeps to it, and what it ends with. -/
abbrev Sound {α : Type} (r : Gate α) (Q : Except Failure α → Prop) : Prop := ∀ m, Follows (coherence known) m r fun _ => Q

section
variable {known} {α β : Type} {Q : Except Failure α → Prop}

variable {r : Gate α} {f : β → Gate α}

theorem sound_of_quiet (quiet : Quiet r Q) : Sound known r Q := by
  intro m
  have within : Follows (coherence known) m r fun m' result => m' = m ∧ Q result := by
    apply Follows.within quiet
    · exact fun s s' untouched => ⟨untouched.1, rfl⟩
    · intro o plain
      refine ⟨?_, fun _ _ => ⟨trivial, rfl⟩⟩
      cases o <;> first | exact plain.elim | rfl
  exact within.imp fun _ _ ends => ends.2

theorem Sound.seq {r : Gate β} {R : Except Failure β → Prop} (first : Sound known r R)
    (goes_on : ∀ b, R (.ok b) → Sound known (f b) Q) (fails : ∀ e, R (.error e) → Q (.error e)) : Sound known (r >>= f) Q :=
  fun m => Follows.seq (first m) (fun m' b ends => goes_on b ends m') fun _ => fails

theorem Sound.then_ {r : Gate β} {R : Except Failure β → Prop} (first : Sound known r R)
    (goes_on : ∀ b, R (.ok b) → Sound known (f b) fun _ => True) : Sound known (r >>= f) fun _ => True :=
  first.seq goes_on fun _ _ => trivial

theorem Sound.attempt {Q : Except Failure (Except Failure α) → Prop} (sound : Sound known r fun x => Q (.ok x)) :
    Sound known r.attempt Q :=
  fun m => Follows.attempt (sound m)

theorem Sound.finally_ {last : Storefront → Storefront} (sound : Sound known r Q)
    (same : ∀ s, (last s).sessions = s.sessions) : Sound known (r.finally_ last) Q :=
  fun m => Follows.finally_ ((sound m).imp fun m' _ ends s => ⟨m', ⟨same s, rfl⟩, ends⟩)

theorem sound_pure {a : α} (ends : Q (.ok a)) : Sound known (pure a) Q := fun _ => ends

theorem sound_throws {e : Failure} (ends : Q (.error e)) : Sound known (Routine.throws e) Q := fun _ => ends

theorem sound_ask {o : Op} (stores : ∀ m, Stores known m o m) {Q : Except Failure o.Answer → Prop}
    (ends : ∀ answer, Known known o answer → Q answer) : Sound known (ask o) Q :=
  fun m => ⟨m, stores m, fun answer known => follows_ofExcept (ends answer known)⟩

theorem follows_save_then {session : CheckoutSession} (coherent : Coherent known session) {f : Unit → Gate α}
    (goes_on : Follows (coherence known) (some session) (f ⟨⟩) fun _ => Q) (fails : ∀ e, Q (.error e)) :
    Sound known (ask (.saveSession session) >>= f) Q := by
  intro m
  apply Follows.seq (R := fun m' result => m' = some session)
  · exact ⟨some session, ⟨coherent, rfl⟩, fun answer _ => follows_ofExcept rfl⟩
  · rintro _ ⟨⟩ rfl
    exact goes_on
  · exact fun _ e _ => fails e

theorem sound_now : Sound known now fun _ => True := sound_of_quiet (quiet_now fun _ => trivial)

theorem sound_lift {x : Except Failure α} (ends : Q x) : Sound known (liftM x) Q := fun _ => follows_lift ends

end

/-! ### Quotes -/

theorem bind_ok {α β : Type} {x : Except Failure α} {f : α → Except Failure β} {b : β} (ok : (x >>= f) = .ok b) :
    ∃ a, x = .ok a ∧ f a = .ok b := by
  cases x with
  | error e => cases ok
  | ok a => exact ⟨a, rfl, ok⟩

/-- A quote of one line's product, for one line's quantity. -/
def Fits (known : Providers) (line : SessionLine) (quote : CheckoutQuote) : Prop :=
  known.names line.productId quote.product.id ∧ quote.totalAtomic = quote.unitAtomic * line.quantity

theorem priceCheckout_ok {config : GatewayConfig} {id : String} {quantity reserved : Nat} {product : Product}
    {quote : CheckoutQuote} (priced : priceCheckout config id quantity reserved (some product) = .ok quote) :
    quote.product = product ∧ quote.totalAtomic = quote.unitAtomic * quantity := by
  rw [priceCheckout] at priced
  dsimp only at priced
  split at priced
  · cases priced
  · obtain ⟨unitAtomic, _, priced⟩ := bind_ok priced
    obtain ⟨totalAtomic, times, priced⟩ := bind_ok priced
    obtain ⟨decimals, _, priced⟩ := bind_ok priced
    obtain ⟨unit, _, priced⟩ := bind_ok priced
    cases priced
    rw [timesQuantity] at times
    split at times
    · cases times
    · cases times
      exact ⟨rfl, rfl⟩

theorem addLines_ok {currency : String} {decimals : Nat} {lines : List CheckoutQuote} {total : Nat × Nat}
    (added : addLines currency decimals lines = .ok total) : total.1 = (lines.map CheckoutQuote.totalAtomic).sum := by
  induction lines generalizing total with
  | nil =>
    cases added
    rfl
  | cons line rest ih =>
    rw [addLines] at added
    dsimp only at added
    split at added
    · cases added
    · obtain ⟨amount, _, added⟩ := bind_ok added
      obtain ⟨⟨totalAtomic, totalLocal⟩, summed, added⟩ := bind_ok added
      cases added
      simp [← ih summed]

variable {quote : PurchaseQuote} {fresh : SessionQuote} {stored : StoredRequirements} {s s' : Storefront}

theorem purchaseQuote_ok {lines : List CheckoutQuote} (quoted : purchaseQuote lines = .ok quote) :
    quote.lines = lines ∧ quote.totalAtomic = (lines.map CheckoutQuote.totalAtomic).sum := by
  cases lines with
  | nil => cases quoted
  | cons first rest =>
    obtain ⟨decimals, _, quoted⟩ := bind_ok quoted
    obtain ⟨⟨totalAtomic, totalLocal⟩, added, quoted⟩ := bind_ok quoted
    cases quoted
    exact ⟨rfl, addLines_ok added⟩

variable {known : Providers} {lines : List SessionLine}

theorem quotes_snapshot (deps : Deps) (fits : List.Forall₂ (Fits known) lines quote.lines)
    (total : quote.totalAtomic = (quote.lines.map CheckoutQuote.totalAtomic).sum) (asOf : Int)
    : QuotesAs known lines (snapshot deps quote asOf) where
  prices := by
    rw [snapshot, List.forall₂_map_right_iff]
    exact fits.imp fun _ _ fit => fit
  total := by simp [snapshot, total, Function.comp_def]

def Alike (a b : QuotedLine) : Prop :=
  a.productId = b.productId ∧ a.unitAtomic = b.unitAtomic ∧ a.totalAtomic = b.totalAtomic

theorem alike_of_same {a b : QuotedLine} (same : sameQuotedLine a b = true) : Alike a b := by
  simp only [sameQuotedLine, Bool.and_eq_true, decide_eq_true_eq] at same
  exact ⟨same.1.1.1.1.1, same.1.1.1.1.2, same.1.1.1.2⟩

theorem prices_alike {fresh current : List QuotedLine} (prices : List.Forall₂ (PricesAs known) lines fresh)
    (alike : List.Forall₂ Alike current fresh) : List.Forall₂ (PricesAs known) lines current := by
  induction prices generalizing current with
  | nil =>
    cases alike
    exact .nil
  | cons price _ ih =>
    cases alike with
    | cons same others =>
      obtain ⟨product, unit, total⟩ := same
      exact .cons ⟨product ▸ price.1, by rw [total, unit, price.2]⟩ (ih others)

theorem totals_alike {current fresh : List QuotedLine} (alike : List.Forall₂ Alike current fresh) :
    (current.map QuotedLine.totalAtomic).sum = (fresh.map QuotedLine.totalAtomic).sum := by
  induction alike with
  | nil => rfl
  | cons same _ ih => simp [ih, same.2.2]

theorem quotes_kept (quotes : QuotesAs known lines fresh) (session : CheckoutSession) :
    QuotesAs known lines (keptQuote session fresh) ∧ (keptQuote session fresh).totalAtomic = fresh.totalAtomic := by
  rw [keptQuote]
  split
  · exact ⟨quotes, rfl⟩
  · rename_i current _
    split
    · rename_i kept
      obtain ⟨totals, same⟩ := kept
      simp only [sameQuotedLines, Bool.and_eq_true, decide_eq_true_eq, List.all_eq_true] at same
      have alike : List.Forall₂ Alike current.lines fresh.lines :=
        List.forall₂_iff_zip.mpr ⟨same.1.1, fun member => alike_of_same (same.2 _ member)⟩
      exact ⟨⟨prices_alike quotes.prices alike, by rw [totals, quotes.total, totals_alike alike]⟩, totals⟩
    · exact ⟨quotes, rfl⟩

/-! ### Quoting -/

variable {known : Providers} (deps : Deps)

/-- What quoting lines ends with: when nothing is unavailable, a quote of each. -/
def LinesQuoted (known : Providers) (lines : List SessionLine) : Except Failure (List CheckoutQuote × List UcpMessage) → Prop
  | .ok (quotes, unavailable) => unavailable = [] → List.Forall₂ (Fits known) lines quotes
  | .error _ => True

theorem sound_quoteCheckout (line : SessionLine) (reserved : Nat) :
    Sound known (quoteCheckout deps line.productId line.quantity reserved) fun result =>
      ∀ quote, result = .ok quote → Fits known line quote := by
  apply Sound.seq (R := fun answer => ∀ product, answer = .ok (some product) → known.names line.productId product.id)
  · apply sound_ask (o := .getProduct line.productId) fun _ => rfl
    rintro _ named product rfl
    exact named
  · intro answer named
    apply sound_lift
    intro quote priced
    cases answer with
    | none => cases priced
    | some product =>
      obtain ⟨same, total⟩ := priceCheckout_ok priced
      exact ⟨by rw [same]; exact named product rfl, total⟩
  · intro e _ quote impossible
    cases impossible

theorem sound_quoteLines (lines : List SessionLine) :
    ∀ index asked, Sound known (quoteLines deps index asked lines) (LinesQuoted known lines) := by
  induction lines with
  | nil => exact fun _ _ => sound_pure fun _ => .nil
  | cons line rest ih =>
    intro index asked
    apply (sound_of_quiet (quiet_read (Q := fun _ => True) fun _ => trivial)).seq (fun s _ => ?_) fun _ _ => trivial
    apply Sound.seq (R := fun result => ∃ quoted, result = .ok quoted ∧ ∀ quote, quoted = .ok quote → Fits known line quote)
    · apply Sound.attempt
      exact fun m => (sound_quoteCheckout deps line _ m).imp fun _ quoted fits => ⟨quoted, rfl, fits⟩
    · rintro _ ⟨quoted, ⟨⟩, fits⟩
      dsimp only
      split
      · rename_i quote
        apply (ih _ _).seq
        · rintro ⟨quotes, unavailable⟩ rests
          exact sound_pure fun none_ => .cons (fits quote rfl) (rests none_)
        · exact fun _ _ => trivial
      · apply (ih _ _).seq
        · rintro ⟨quotes, unavailable⟩ _
          exact sound_pure fun none_ => by cases none_
        · exact fun _ _ => trivial
      · exact sound_throws trivial
    · rintro _ ⟨_, ⟨⟩, _⟩

/-- A quote of a session's lines that adds up. -/
def Adds (known : Providers) (lines : List SessionLine) (quote : PurchaseQuote) : Prop :=
  List.Forall₂ (Fits known) lines quote.lines ∧ quote.totalAtomic = (quote.lines.map CheckoutQuote.totalAtomic).sum

theorem sound_evaluate (session : CheckoutSession) : Sound known (evaluate deps session) fun result =>
      ∀ evaluation, result = .ok evaluation → ∀ quote, evaluation.quote = some quote → Adds known session.lines quote := by
  apply (sound_quoteLines deps session.lines _ _).seq
  · rintro ⟨lines, unavailable⟩ fits
    dsimp only
    split
    · rename_i none_
      apply (sound_lift (Q := fun result => ∀ quote, result = .ok quote → Adds known session.lines quote) ?_).seq
      · intro quote adds
        apply sound_pure
        rintro _ ⟨⟩ _ ⟨⟩
        exact adds quote rfl
      · rintro _ _ _ ⟨⟩
      · intro quote quoted
        obtain ⟨same, total⟩ := purchaseQuote_ok quoted
        rw [Adds, same]
        exact ⟨fits none_, total⟩
    · apply sound_pure
      rintro _ ⟨⟩ _ ⟨⟩
  · rintro _ _ _ ⟨⟩

theorem sound_requirementsFor (quote : PurchaseQuote) :
    Sound known (requirementsFor deps quote) fun result => ∀ requirements, result = .ok requirements →
      requirements.amount = quote.totalAtomic ∧ known.assets requirements.asset := by
  apply (sound_ask (o := .ready) (fun _ => rfl) (Q := fun _ => True) fun _ _ => trivial).seq
  · rintro _ _
    apply Sound.seq (R := fun answer => ∀ built, answer = .ok (some built) →
      built.amount = quote.totalAtomic ∧ known.assets built.asset)
    · apply sound_ask (o := .buildPaymentRequirements _ quote.totalAtomic _) fun _ => rfl
      rintro _ builds built rfl
      exact builds
    · intro built builds
      cases built with
      | none =>
        apply sound_throws
        rintro _ ⟨⟩
      | some requirements =>
        apply sound_lift
        intro parsed ok
        rw [parseRequirements] at ok
        split at ok
        · cases ok
        · cases ok
          exact builds requirements rfl
    · rintro _ _ _ ⟨⟩
  · rintro _ _ _ ⟨⟩

variable {session : CheckoutSession}

theorem coherent_incomplete {quote : Option SessionQuote} (quoted : ∀ q, quote = some q → QuotesAs known session.lines q) :
    Coherent known { session with status := .incomplete, requirements := none, quote := quote } where
  termed requirements impossible := by cases impossible
  quoted := quoted
  payable payable := by rcases payable with status | status <;> cases status

variable {requirements : StoredRequirements}

theorem coherent_ready {quote : SessionQuote} (quotes : QuotesAs known session.lines quote)
    (amount : requirements.amount = quote.totalAtomic) (asset : known.assets requirements.asset) :
    Coherent known { session with status := .readyForComplete, requirements := some requirements, quote := some quote } where
  termed := by
    rintro _ ⟨⟩
    exact ⟨asset, quote, rfl, amount⟩
  quoted := by
    rintro _ ⟨⟩
    exact quotes
  payable _ := rfl

theorem amount_kept (termed : Termed known session) (kept : keptRequirements session fresh = some requirements) :
    requirements.amount = fresh.totalAtomic ∧ known.assets requirements.asset := by
  rw [keptRequirements] at kept
  split at kept
  · rename_i sameTotal
    obtain ⟨asset, current, quoted, amount⟩ := termed requirements kept
    rw [quoted] at sameTotal
    rw [amount]
    exact ⟨by simpa using sameTotal, asset⟩
  · cases kept

/-- A session whose requirements are for its quote is coherent once it has been quoted again. -/
theorem sound_refresh (termed : Termed known session) :
    Sound known (refresh deps session) fun result => ∀ refreshed, result = .ok refreshed → Coherent known refreshed.1 := by
  apply (sound_evaluate deps session).seq
  · intro evaluation adds
    dsimp only
    cases has : evaluation.quote with
    | none =>
      apply sound_pure
      rintro _ ⟨⟩
      exact coherent_incomplete (by rintro _ ⟨⟩)
    | some quote =>
      obtain ⟨fits, total⟩ := adds evaluation rfl quote has
      apply sound_now.seq
      · intro asOf _
        have quotes : QuotesAs known session.lines (snapshot deps quote asOf) := quotes_snapshot deps fits total asOf
        split
        · apply sound_pure
          rintro _ ⟨⟩
          exact coherent_incomplete (by rintro _ ⟨⟩; exact quotes)
        · split
          · rename_i requirements kept
            apply sound_pure
            rintro _ ⟨⟩
            obtain ⟨again, same⟩ := quotes_kept quotes session
            obtain ⟨amount, asset⟩ := amount_kept termed kept
            exact coherent_ready again (amount.trans same.symm) asset
          · apply (sound_requirementsFor deps quote).seq
            · intro requirements built
              apply sound_pure
              rintro _ ⟨⟩
              obtain ⟨amount, asset⟩ := built requirements rfl
              exact coherent_ready quotes amount asset
            · rintro _ _ _ ⟨⟩
      · rintro _ _ _ ⟨⟩
  · rintro _ _ _ ⟨⟩

/-! ### Requests -/

theorem sound_save_then {α : Type} (coherent : Coherent known session) {f : Unit → Gate α} {Q : Except Failure α → Prop}
    (goes_on : Sound known (f ⟨⟩) Q) (fails : ∀ e, Q (.error e)) : Sound known (ask (.saveSession session) >>= f) Q :=
  follows_save_then coherent (goes_on (some session)) fails

theorem sound_checkoutResponse (status : Nat) (session : CheckoutSession) (view : View) (messages : List UcpMessage) :
    Sound known (checkoutResponse deps status session view messages) fun _ => True :=
  sound_of_quiet (quiet_checkoutResponse deps status session view messages)

theorem sound_loadSession (id : String) :
    Sound known (loadSession id) fun result => ∀ session, result = .ok (some session) → Coherent known session := by
  rw [loadSession]
  split
  · apply sound_pure
    rintro _ ⟨⟩
  · apply Sound.seq (R := fun answer => ∀ session, answer = .ok (some session) → Coherent known session)
    · apply sound_ask (o := .getSession id) fun _ => rfl
      rintro _ stored session rfl
      exact stored
    · intro found stored
      cases found with
      | none =>
        apply sound_pure
        rintro _ ⟨⟩
      | some session =>
        have coherent := stored session rfl
        apply sound_now.seq
        · intro readAt _
          split
          · have canceled : Coherent known { session with status := .canceled, updatedAt := readAt } :=
              coherent.same rfl rfl rfl fun payable => by rcases payable with status | status <;> cases status
            apply sound_save_then canceled
            · apply sound_pure
              rintro _ ⟨⟩
              exact canceled
            · rintro _ _ ⟨⟩
          · apply sound_pure
            rintro _ ⟨⟩
            exact coherent
        · rintro _ _ _ ⟨⟩
    · rintro _ _ _ ⟨⟩

theorem sound_finish (coherent : Coherent known session) : Sound known (finish deps session) fun _ => True := by
  apply (sound_lift (Q := fun _ => True) trivial).then_
  intro purchase _
  apply (sound_of_quiet (quiet_fulfilPaidPurchase deps purchase)).then_
  rintro ⟨record, _⟩ _
  dsimp only
  split
  · exact sound_throws trivial
  · apply sound_now.then_
    intro closedAt _
    apply sound_save_then _ _ fun _ => trivial
    · exact coherent.same rfl rfl rfl fun payable => by rcases payable with status | status <;> cases status
    · split
      · exact sound_pure trivial
      · exact sound_of_quiet (Quiet.then_ (Follows.attempt (quiet_ask (by trivial) fun _ => trivial)) fun _ => trivial)

theorem follows_settle (charged : Charged known session requirements) (transaction : String) (hold : Hold) (id : String) :
    Follows (coherence known) (some session) (settle requirements transaction hold id) fun _ _ => True := by
  apply Follows.seq (R := fun _ _ => True)
  · apply Follows.attempt
    exact ⟨some session, ⟨rfl, session, rfl, charged⟩, fun answer _ => follows_ofExcept trivial⟩
  · exact fun _ _ _ => trivial
  · exact fun _ _ _ => trivial

section
variable (coherent : Coherent known session)
include coherent

section
variable (terms : session.requirements = some stored) (payment : Payment) (hold : Hold)
include terms payment hold

theorem sound_pay : Sound known (pay deps session stored payment hold) fun _ => True := by
  have has : session.requirements.isSome := Option.isSome_of_eq_some terms
  apply sound_now.then_
  intro startedAt _
  have started : Coherent known (inProgress deps session payment startedAt) := coherent.same rfl rfl rfl fun _ => has
  apply follows_save_then started _ fun _ => trivial
  · refine Follows.seq (follows_settle ⟨started, rfl, terms⟩ _ hold _) (fun m outcome _ => ?_) fun _ _ _ => trivial
    revert m
    apply sound_now.then_
    intro answeredAt _
    cases outcome with
    | refused reason =>
      apply sound_save_then _ _ fun _ => trivial
      · exact coherent.same rfl rfl rfl fun _ => has
      · exact (sound_checkoutResponse deps _ _ _ _).then_ fun _ _ => sound_pure trivial
    | unknown reason transaction =>
      apply sound_save_then _ _ fun _ => trivial
      · exact coherent.same rfl rfl rfl fun _ => has
      · exact (sound_checkoutResponse deps _ _ _ _).then_ fun _ _ => sound_pure trivial
    | settled response =>
      have paid : Coherent known (settledSession (inProgress deps session payment startedAt) stored response answeredAt) :=
        coherent.same rfl rfl rfl fun _ => has
      apply sound_save_then paid _ fun _ => trivial
      apply Sound.then_ (R := fun _ => True)
      · exact fun m s => ⟨m, ⟨rfl, rfl⟩, trivial⟩
      · exact fun _ _ => (sound_finish deps paid).then_ fun _ _ => sound_pure trivial

theorem sound_payHeld : Sound known (payHeld deps session stored payment hold) fun _ => True := by
  apply Sound.then_ (R := fun _ => True)
  · exact (sound_pay deps coherent terms payment hold).finally_ fun s => (untouched_releaseHold _ s).1
  · intro paid _
    cases paid with
    | inl reply => exact sound_pure trivial
    | inr session => exact sound_checkoutResponse deps _ _ _ _

end

theorem sound_charge (payment : Payment) : Sound known (charge deps session payment) fun _ => True := by
  rw [charge]
  split
  · rename_i stored _ terms _
    apply (sound_of_quiet (quiet_evaluate deps session)).then_
    intro evaluation _
    dsimp only
    split
    · apply (sound_refresh deps coherent.termed).then_
      rintro ⟨refreshed, _⟩ again
      apply sound_now.then_
      intro refreshedAt _
      apply sound_save_then _ (sound_checkoutResponse deps _ _ _ _) fun _ => trivial
      exact (again _ rfl).same rfl rfl rfl (again _ rfl).payable
    · split
      · exact sound_checkoutResponse deps _ _ _ _
      · apply (sound_of_quiet (quiet_atomic (Q := fun _ => True) (untouched_reserveAll _) fun _ => trivial)).then_
        intro reserved _
        cases reserved with
        | error short => exact sound_checkoutResponse deps _ _ _ _
        | ok hold => exact sound_payHeld deps coherent terms payment hold
  · exact sound_throws trivial

theorem sound_chargeMandated (credential : Credential) (key : Option String) (input : CompleteInput) (view : View) :
    Sound known (chargeMandated deps session credential key input view) fun _ => True := by
  rw [chargeMandated]
  split
  · exact sound_charge deps coherent _
  · apply (sound_of_quiet (quiet_checkAp2Mandate session _ view input)).then_
    intro outcome _
    cases outcome with
    | error refusal => exact sound_checkoutResponse deps _ _ _ _
    | ok mandate => exact sound_charge deps coherent _

theorem sound_confirmConsent (input : CompleteInput) (view : View) :
    Sound known (confirmConsent deps session input view) fun result => ∀ confirmed, result = .ok confirmed → Coherent known confirmed := by
  rw [confirmConsent]
  split
  · apply (sound_lift (Q := fun result => ∀ next, result = .ok next → Coherent known next.1) ?_).seq
    · rintro ⟨next, outcome⟩ kept
      have consented : Coherent known next := kept _ rfl
      dsimp only
      split
      · apply sound_now.seq
        · intro appliedAt _
          have dated : Coherent known { next with updatedAt := appliedAt } := consented.same rfl rfl rfl consented.payable
          apply sound_save_then dated
          · apply sound_pure
            rintro _ ⟨⟩
            exact dated
          · rintro _ _ ⟨⟩
        · rintro _ _ _ ⟨⟩
      · apply sound_pure
        rintro _ ⟨⟩
        exact consented
    · rintro _ _ _ ⟨⟩
    · rintro ⟨next, outcome⟩ applied
      have same := applyConsentInput_eq applied
      rw [same]
      exact coherent.same rfl rfl rfl coherent.payable
  · apply sound_pure
    rintro _ ⟨⟩
    exact coherent

theorem sound_completeLive (key : Option String) (input : CompleteInput)
    (view : View) : Sound known (completeLive deps session key input view) fun _ => True := by
  rw [completeLive]
  split
  · exact sound_checkoutResponse deps _ _ _ _
  · split
    · exact sound_checkoutResponse deps _ _ _ _
    · apply (sound_confirmConsent deps coherent input view).then_
      intro _ confirmed
      have coherent := confirmed _ rfl
      dsimp only
      split
      · apply (sound_refresh deps coherent.termed).then_
        rintro ⟨refreshed, _⟩ again
        exact sound_save_then (again _ rfl) (sound_checkoutResponse deps _ _ _ _) fun _ => trivial
      · split
        · exact sound_checkoutResponse deps _ _ _ _
        · exact sound_chargeMandated deps coherent _ key input view

end

theorem sound_complete (id : String) (key : Option String) (input : CompleteInput) (view : View) :
    Sound known (complete deps id key input view) fun _ => True := by
  apply (sound_loadSession id).then_
  intro found loaded
  cases found with
  | none => exact sound_pure trivial
  | some session =>
    have coherent := loaded session rfl
    dsimp only
    split
    · split
      · exact sound_pure trivial
      · exact sound_checkoutResponse deps _ _ _ _
    · exact sound_pure trivial
    · split
      · exact (sound_finish deps coherent).then_ fun _ _ => sound_checkoutResponse deps _ _ _ _
      · exact sound_checkoutResponse deps _ _ _ _
    · exact sound_completeLive deps coherent key input view

/-- New lines keep the requirements beside the quote they were for, until the session is quoted again. -/
theorem termed_applyInput {session next : CheckoutSession} {input : SessionInput} {version : UcpVersion} {advertised : Bool}
    {outcome : ConsentOutcome} (applied : applyInput deps session input version advertised = .ok (next, outcome))
    (termed : Termed known session) : Termed known next := by
  rw [applyInput_eq applied]
  exact termed

theorem sound_create (input : SessionInput) (view : View) : Sound known (create deps input view) fun _ => True := by
  apply Sound.then_ (R := fun result => ∀ session, result = .ok session → Termed known session)
  · intro m s
    refine ⟨m, ⟨rfl, rfl⟩, ?_⟩
    rintro _ ⟨⟩ _ ⟨⟩
  · intro session drawn
    have termed := drawn session rfl
    dsimp only
    split
    · exact sound_pure trivial
    · apply (sound_lift (Q := fun result => ∀ next, result = .ok next → Termed known next.1) ?_).then_
      · rintro ⟨next, outcome⟩ kept
        apply (sound_refresh deps (kept _ rfl)).then_
        rintro ⟨refreshed, _⟩ again
        exact sound_save_then (again _ rfl) (sound_checkoutResponse deps _ _ _ _) fun _ => trivial
      · rintro ⟨next, outcome⟩ applied
        exact termed_applyInput deps applied termed

theorem sound_readRoute (id : String) (view : View) : Sound known (readRoute deps id view) fun _ => True := by
  apply (sound_loadSession id).then_
  intro found _
  cases found with
  | none => exact sound_pure trivial
  | some session => exact sound_checkoutResponse deps _ _ _ _

theorem sound_update (id : String) (input : SessionInput) (view : View) :
    Sound known (update deps id input view) fun _ => True := by
  apply (sound_loadSession id).then_
  intro found loaded
  cases found with
  | none => exact sound_pure trivial
  | some session =>
    have termed := (loaded session rfl).termed
    dsimp only
    split
    · exact sound_pure trivial
    · apply (sound_lift (Q := fun result => ∀ next, result = .ok next → Termed known next.1) ?_).then_
      · rintro ⟨next, outcome⟩ kept
        apply (sound_refresh deps (kept _ rfl)).then_
        rintro ⟨refreshed, _⟩ again
        apply sound_now.then_
        intro updatedAt _
        apply sound_save_then _ (sound_checkoutResponse deps _ _ _ _) fun _ => trivial
        exact (again _ rfl).same rfl rfl rfl (again _ rfl).payable
      · rintro ⟨next, outcome⟩ applied
        exact termed_applyInput deps applied termed

theorem sound_cancel (id : String) (view : View) : Sound known (cancel deps id view) fun _ => True := by
  apply (sound_loadSession id).then_
  intro found loaded
  cases found with
  | none => exact sound_pure trivial
  | some session =>
    dsimp only
    split
    · exact sound_pure trivial
    · apply sound_now.then_
      intro canceledAt _
      apply sound_save_then _ (sound_checkoutResponse deps _ _ _ _) fun _ => trivial
      exact (loaded session rfl).same rfl rfl rfl fun payable => by rcases payable with status | status <;> cases status

theorem sound_withSessionLock (id : String) {work : Gate Reply} (sound : Sound known work fun _ => True) :
    Sound known (withSessionLock id work) fun _ => True := by
  apply Sound.then_ (R := fun _ => True)
  · intro m s
    refine ⟨m, ⟨?_, rfl⟩, trivial⟩
    change (lockSession id s).2.sessions = s.sessions
    unfold lockSession
    split <;> rfl
  · intro taken _
    cases taken with
    | false => exact sound_pure trivial
    | true => exact sound.finally_ fun _ => rfl

theorem sound_ucpRoute {handler : Gate Reply} (sound : Sound known handler fun _ => True) :
    Sound known (ucpRoute handler) fun _ => True := by
  apply Sound.then_ (R := fun _ => True) (Sound.attempt sound)
  intro result _
  cases result <;> exact sound_pure trivial

theorem sound_route (request : Request) : Sound known (route deps request) fun _ => True := by
  cases request with
  | create input view => exact sound_ucpRoute (sound_create deps input view)
  | read id view => exact sound_ucpRoute (sound_readRoute deps id view)
  | update id input view => exact sound_ucpRoute (sound_withSessionLock id (sound_update deps id input view))
  | cancel id view => exact sound_ucpRoute (sound_withSessionLock id (sound_cancel deps id view))
  | complete id key input view => exact sound_ucpRoute (sound_withSessionLock id (sound_complete deps id key input view))

/-! ### Whole runs -/

abbrev Running := System Request Storefront Op Failure Op.Answer Reply

/-- What the x402 library says of `buildPaymentRequirements`: the requirements it builds ask for the price it is given. -/
def builds (w : Running) : Action Request Input Outside → Bool
  | .perform i input =>
    match w.calls[i]? with
    | some (_, .waiting (.buildPaymentRequirements _ amount _) _) => input.requirements.all (·.amount = amount)
    | _ => true
  | _ => true

def AllCoherent (known : Providers) (s : Storefront) : Prop :=
  ∀ id session, s.sessions id = some session → Coherent known session

theorem allCoherent_same (all : AllCoherent known s) (same : s'.sessions = s.sessions) : AllCoherent known s' := by
  intro id session found
  rw [same] at found
  exact all id session found

theorem allCoherent_store (all : AllCoherent known s) (coherent : Coherent known session)
    : AllCoherent known (storeSession session s) := by
  intro id other found
  by_cases same : id = session.id
  · subst same
    have other_ : some session = some other := by simpa [storeSession] using found
    cases other_
    exact coherent
  · apply all id other
    simpa [storeSession, Function.update_of_ne same] using found

theorem served {w : Running} {i : Nat} {c : Request} {o : Op} {rest : Except Failure o.Answer → Gate Reply} {input : Input}
    {answer : Except Failure o.Answer} {m m' : Option CheckoutSession} (all : AllCoherent known w.shared)
    (stores : Stores known m o m') (here : w.calls[i]? = some (c, .waiting o rest)) (may : builds w (.perform i input))
    (named : ∀ id, known.names id id) (assets : ∀ payTo amount timeout, o = .buildPaymentRequirements payTo amount timeout →
      ∀ built, input.requirements = some built → known.assets built.asset)
    (served : serve o input w.shared = some (answer, s')) : Known known o answer ∧ AllCoherent known s' := by
  cases o with
  | getSession id =>
    obtain ⟨rfl, read⟩ := answerWith_ok served
    refine ⟨?_, all⟩
    cases answer with
    | error e => trivial
    | ok found =>
      cases found with
      | none => trivial
      | some session => exact all id session (read _ rfl).symm
  | saveSession session =>
    refine ⟨trivial, ?_⟩
    rcases answerWrite_ok served with written | ⟨same, _⟩
    · rw [written]
      exact allCoherent_store all stores.1
    · rw [same]
      exact all
  | getProduct id =>
    obtain ⟨rfl, read⟩ := answerWith_ok served
    refine ⟨?_, all⟩
    cases answer with
    | error e => trivial
    | ok found =>
      cases found with
      | none => trivial
      | some product =>
        have found := (read _ rfl).symm
        obtain ⟨_, _, same⟩ := Option.map_eq_some_iff.mp found
        rw [← same]
        exact named id
  | buildPaymentRequirements payTo amount timeout =>
    obtain ⟨rfl, read⟩ := answerWith_ok served
    refine ⟨?_, all⟩
    cases answer with
    | error e => trivial
    | ok found =>
      cases found with
      | none => trivial
      | some built =>
        rw [builds, here] at may
        dsimp only at may
        rw [← read _ rfl] at may
        exact ⟨by simpa using may, assets payTo amount timeout rfl built (read _ rfl).symm⟩
  | ready =>
    obtain ⟨rfl, _⟩ := answerWith_ok served
    exact ⟨trivial, all⟩
  | signMerchantAuthorization =>
    obtain ⟨rfl, _⟩ := answerWith_ok served
    exact ⟨trivial, all⟩
  | verifyCheckoutMandate mandate =>
    obtain ⟨rfl, _⟩ := answerWith_ok served
    exact ⟨trivial, all⟩
  | verifyPayment amount transaction =>
    obtain ⟨rfl, _⟩ := answerWith_ok served
    exact ⟨trivial, all⟩
  | attachWebhook orderId target =>
    obtain ⟨rfl, _⟩ := answerWith_ok served
    exact ⟨trivial, all⟩
  | settlePayment requirements transaction hold checkoutId =>
    refine ⟨trivial, allCoherent_same all ?_⟩
    rw [serve] at served
    split at served
    · cases served
      rfl
    · cases served
      rw [onAfterSettle]
      split <;> rfl
  | createOrder order =>
    refine ⟨trivial, ?_⟩
    rcases answerWrite_ok served with written | ⟨same, _⟩
    · rw [written]
      exact allCoherent_same all rfl
    · rw [same]
      exact all
  | saveOrder turn order =>
    refine ⟨trivial, ?_⟩
    rw [serve] at served
    split at served
    · rcases answerWrite_ok served with written | ⟨same, _⟩
      · rw [written]
        exact allCoherent_same all rfl
      · rw [same]
        exact allCoherent_same all rfl
    · cases served
  | orderInFlight promise =>
    refine ⟨trivial, ?_⟩
    rw [serve] at served
    split at served
    · cases served
      exact all
    · cases served

theorem sessions_outside (k : Outside) (s : Storefront) : (outside k s).sessions = s.sessions := by
  cases k with
  | clock now => rfl
  | catalogue id product => rfl
  | restock id stock => rfl
  | close ticket =>
    rw [outside]
    split
    · exact (untouched_releaseHold ticket s).1
    · rfl

theorem keeps_coherent :
    Keeps (host deps) (coherence plain) (fun _ _ _ => True) (fun s _ _ => AllCoherent plain s)
      (fun _ s _ _ => AllCoherent plain s) fun w _ a => builds w a where
  start all _ _ := ⟨none, sound_route deps _ none, all⟩
  resume all _ _ := all
  sync all _ same := allCoherent_same all same.1
  ask all _ _ _ _ _ := all
  serve all _ _ here may asks performed :=
    served all asks here may (fun _ => rfl) (fun _ _ _ _ _ _ => trivial) performed
  finish all _ _ _ _ := all
  outside all _ := allCoherent_same all (sessions_outside _ _)
  crash all _ _ := all

def payingTea : List (Action Request Input Outside) := [.start createTea] ++ goOn 0 5 ++ [.start completeTea] ++ goOn 1 4

end AgentPey.SessionCoherence
