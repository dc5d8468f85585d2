import AgentPey.WalletSign

/-!
Whether what a wallet shows is what it signs. The message of a mandate is five lines, each read back as it was, exactly when the
currency has no line break; and in any case a message is of one set of limits and, as long as SHA-256 does not collide, of one
document, so that a signature of it authorises that document only.
-/
namespace AgentPey.ShownMandates
open JsonNumbers JsonTexts JsonValues JsonSchemas CanonicalJson TextLines Utf8 WalletSign
open List (all_eq_true append_cancel_left cons_append mem_cons not_mem_append not_mem_nil splitOn_eq_singleton)

/-! ### Reading a message -/

/-- What a message says. -/
structure Approval where
  agent : Text
  perTx : Text
  perDay : Text
  currency : Text
  validUntil : Text
  hash : Text
  deriving DecidableEq

def approvalOf {lib : Libraries} (mandate : AgentPayMandate lib) : Approval where
  agent := mandate.credentialSubject.id.1
  perTx := mandate.credentialSubject.grant.limits.perTx.1
  perDay := mandate.credentialSubject.grant.limits.perDay.1
  currency := mandate.credentialSubject.grant.limits.currency.1
  validUntil := mandate.validUntil.1
  hash := walletMandateHash mandate

def isAmountUnit (u : CodeUnit) : Bool := isDigit u || u = unit '.'

def readLimits (line : Text) : Option (Text × Text × Text) := do
  let first ← following (words "Limit: ") line
  let second ← following (words " per purchase, ") (first.dropWhile isAmountUnit)
  let currency ← following (words " per day, ") (second.dropWhile isAmountUnit)
  pure (first.takeWhile isAmountUnit, second.takeWhile isAmountUnit, currency)

def readMessage (message : Text) : Option Approval :=
  match message.splitOn newline with
  | [title, agent, limits, end_, hash] => do
    let _ ← if title = words "AgentPey Mandate" then some () else none
    let agent ← following (words "Agent: ") agent
    let (perTx, perDay, currency) ← readLimits limits
    let validUntil ← following (words "Valid until: ") end_
    let hash ← following (words "Hash: ") hash
    pure ⟨agent, perTx, perDay, currency, validUntil, hash⟩
  | _ => none

/-- The message is its five lines, and says what the mandate does. -/
def ShownAsIs {lib : Libraries} (mandate : AgentPayMandate lib) : Prop :=
  (mandateChallengeMessage mandate).splitOn newline = challengeLines mandate ∧
    readMessage (mandateChallengeMessage mandate) = some (approvalOf mandate)

/-! ### What the formats leave out -/

section
variable {u : CodeUnit} {t : Text}

theorem digit_not_newline (digit : isDigit u = true) : u ≠ newline := by
  rintro rfl
  exact absurd digit (by decide)

theorem amount_units (amount : isDecimalAmount t = true) : ∀ u ∈ t, isAmountUnit u = true := by
  have fraction : ∀ u ∈ t.dropWhile isDigit, isAmountUnit u = true := by
    unfold isDecimalAmount at amount
    rw [Bool.and_eq_true] at amount
    obtain ⟨_, rest⟩ := amount
    cases after : t.dropWhile isDigit with
    | nil => exact List.forall_mem_nil _
    | cons dot fraction =>
      rw [after] at rest
      simp only [Bool.and_eq_true, decide_eq_true_eq] at rest
      obtain ⟨⟨⟨rfl, _⟩, _⟩, digits⟩ := rest
      refine List.forall_mem_cons.mpr ⟨by decide, fun u among => ?_⟩
      rw [isAmountUnit, all_eq_true.mp digits u among, Bool.true_or]
  intro u among
  rw [← List.takeWhile_append_dropWhile (p := isDigit) (l := t)] at among
  rcases List.mem_append.mp among with digit | other
  · rw [isAmountUnit, (all_eq_true.mp List.all_takeWhile u digit), Bool.true_or]
  · exact fraction u other

theorem amount_not_newline (amount : isDecimalAmount t = true) : newline ∉ t := fun among =>
  absurd (amount_units amount newline among) (by decide)

theorem not_newline_of_parts {sep : CodeUnit} {parts : List Text} (split : t.splitOn sep = parts) (other : newline ≠ sep)
    (without : ∀ part ∈ parts, newline ∉ part) : newline ∉ t := fun among => by
  rcases mem_splitOn split among with same | ⟨part, here, inside⟩
  · exact other same
  · exact without part here inside

theorem did_not_newline {lib : Libraries} (did : isStellarDid lib t = true) : newline ∉ t := by
  unfold isStellarDid parseStellarDid at did
  split at did
  · rename_i scheme method network address split
    split_ifs at did with parts
    · obtain ⟨rfl, rfl, named, valid⟩ := parts
      refine not_newline_of_parts split (by decide) fun part among => ?_
      simp only [mem_cons, not_mem_nil, or_false] at among
      rcases among with rfl | rfl | rfl | rfl
      · decide
      · decide
      · rcases named with rfl | rfl <;> decide
      · exact fun inside => absurd (lib.base32 part valid newline inside) (by decide)
    · cases did
  · cases did

theorem digits_not_newline (digits : t.all isDigit = true) : newline ∉ t := fun among =>
  digit_not_newline (all_eq_true.mp digits newline among) rfl

theorem day_not_newline (day : isDay t = true) : newline ∉ t := by
  unfold isDay at day
  split at day
  · rename_i year month date split
    simp only [Bool.and_eq_true, List.all_append] at day
    obtain ⟨⟨⟨_, ⟨years, months⟩, dates⟩, _⟩, _⟩ := day
    refine not_newline_of_parts split (by decide) fun part among => ?_
    simp only [mem_cons, not_mem_nil, or_false] at among
    rcases among with rfl | rfl | rfl
    · exact digits_not_newline years
    · exact digits_not_newline months
    · exact digits_not_newline dates
  · cases day

theorem seconds_not_newline (seconds : isSeconds t = true) : newline ∉ t := by
  unfold isSeconds at seconds
  split at seconds
  · rename_i s₁ s₂ rest
    simp only [Bool.and_eq_true] at seconds
    obtain ⟨⟨⟨first, second⟩, _⟩, fraction⟩ := seconds
    have others : newline ∉ rest := by
      split at fraction
      · exact not_mem_nil
      · simp only [Bool.and_eq_true, decide_eq_true_eq] at fraction
        obtain ⟨⟨rfl, _⟩, digits⟩ := fraction
        exact List.not_mem_cons_of_ne_of_not_mem (by decide) (digits_not_newline digits)
    exact List.not_mem_cons_of_ne_of_not_mem (digit_not_newline first).symm
      (List.not_mem_cons_of_ne_of_not_mem (digit_not_newline second).symm others)
  · cases seconds

theorem time_not_newline (time : isTime t = true) : newline ∉ t := by
  unfold isTime at time
  split at time
  · rename_i hours minutes rest split
    simp only [Bool.and_eq_true, List.all_append] at time
    obtain ⟨⟨⟨⟨_, hours_, minutes_⟩, _⟩, _⟩, seconds⟩ := time
    refine not_newline_of_parts split (by decide) fun part among => ?_
    rcases mem_cons.mp among with rfl | among
    · exact digits_not_newline hours_
    rcases mem_cons.mp among with rfl | among
    · exact digits_not_newline minutes_
    split at seconds
    · exact nomatch among
    · rw [List.mem_singleton.mp among]
      exact seconds_not_newline seconds
    · cases seconds
  · cases time

theorem datetime_not_newline (datetime : isDatetime t = true) : newline ∉ t := by
  unfold isDatetime at datetime
  split at datetime
  · rename_i day time split
    simp only [Bool.and_eq_true, decide_eq_true_eq] at datetime
    obtain ⟨⟨isDay_, last⟩, isTime_⟩ := datetime
    refine not_newline_of_parts split (by decide) fun part among => ?_
    simp only [mem_cons, not_mem_nil, or_false] at among
    rcases among with rfl | rfl
    · exact day_not_newline isDay_
    · rw [← List.dropLast_append_getLast? _ last, List.mem_append, not_or]
      exact ⟨time_not_newline isTime_, by decide⟩
  · cases datetime

theorem hash_not_newline (bytes : Bytes) : newline ∉ hexOf bytes := by
  have digit : ∀ n < 16, hexDigit n ≠ newline := fun n small => by
    have all : ∀ k : Fin 16, hexDigit k.1 ≠ newline := by decide
    exact all ⟨n, small⟩
  intro among
  obtain ⟨b, _, inside⟩ := List.mem_flatMap.mp among
  have bound := b.toNat_lt
  simp only [mem_cons, not_mem_nil, or_false] at inside
  rcases inside with same | same
  · exact digit _ (by omega) same.symm
  · exact digit _ (by omega) same.symm

end

/-! ### Lines -/

section
variable {lib : Libraries} {mandate other : AgentPayMandate lib} {t : Text}

theorem amount_then {amount : Text} (decimal : isDecimalAmount amount = true) (first : CodeUnit) (rest : Text)
    (stops : isAmountUnit first = false) :
    (amount ++ first :: rest).takeWhile isAmountUnit = amount ∧ (amount ++ first :: rest).dropWhile isAmountUnit = first :: rest := by
  have all := amount_units decimal
  constructor
  · rw [List.takeWhile_append_of_pos all, List.takeWhile_cons_of_neg (by simp [stops]), List.append_nil]
  · rw [List.dropWhile_append_of_pos all, List.dropWhile_cons_of_neg (by simp [stops])]

theorem readLimits_limitLine (limits : ScopeLimits) :
    readLimits (limitLine limits) = some (limits.perTx.1, limits.perDay.1, limits.currency.1) := by
  have purchase : ∃ rest, words " per purchase, " = unit ' ' :: rest := ⟨_, rfl⟩
  have day : ∃ rest, words " per day, " = unit ' ' :: rest := ⟨_, rfl⟩
  obtain ⟨purchase_, first⟩ := purchase
  obtain ⟨day_, second⟩ := day
  have one := fun rest : Text => amount_then limits.perTx.2 (unit ' ') (purchase_ ++ rest) (by decide)
  have two := fun rest : Text => amount_then limits.perDay.2 (unit ' ') (day_ ++ rest) (by decide)
  simp only [← cons_append, ← first] at one
  simp only [← cons_append, ← second] at two
  unfold readLimits limitLine
  simp only [List.append_assoc, following_append, Option.bind_eq_bind, Option.bind_some, (one _).1, (one _).2, (two _).1, (two _).2]
  rfl

theorem intercalate_five (a b c d e : Text) : [newline].intercalate [a, b, c, d, e] =
    a ++ newline :: (b ++ newline :: (c ++ newline :: (d ++ newline :: e))) := by
  simp [List.intercalate_cons_cons]

theorem message_split (mandate : AgentPayMandate lib) : (mandateChallengeMessage mandate).splitOn newline =
    words "AgentPey Mandate" :: (words "Agent: " ++ mandate.credentialSubject.id.1) ::
      ((limitLine mandate.credentialSubject.grant.limits).splitOn newline ++
        [words "Valid until: " ++ mandate.validUntil.1, words "Hash: " ++ walletMandateHash mandate]) := by
  have title : newline ∉ words "AgentPey Mandate" := by decide
  have agent : newline ∉ words "Agent: " ++ mandate.credentialSubject.id.1 :=
    not_mem_append (by decide) (did_not_newline mandate.credentialSubject.id.2)
  have end_ : newline ∉ words "Valid until: " ++ mandate.validUntil.1 :=
    not_mem_append (by decide) (datetime_not_newline mandate.validUntil.2)
  have hash : newline ∉ words "Hash: " ++ walletMandateHash mandate := not_mem_append (by decide) (hash_not_newline _)
  unfold mandateChallengeMessage challengeLines
  rw [intercalate_five, List.splitOn_append_cons_self, List.splitOn_append_cons_self, List.splitOn_append_cons_self,
    List.splitOn_append_cons_self, splitOn_eq_singleton title, splitOn_eq_singleton agent,
    splitOn_eq_singleton end_, splitOn_eq_singleton hash]
  rfl

theorem limitLine_newline (limits : ScopeLimits) : newline ∈ limitLine limits ↔ newline ∈ limits.currency.1 := by
  have perTx := amount_not_newline limits.perTx.2
  have perDay := amount_not_newline limits.perDay.2
  have limit : newline ∉ words "Limit: " := by decide
  have purchase : newline ∉ words " per purchase, " := by decide
  have day : newline ∉ words " per day, " := by decide
  simp [limitLine, perTx, perDay, limit, purchase, day]

/-- The message shows the mandate as it is exactly when its currency has no line break. -/
theorem shown_iff (mandate : AgentPayMandate lib) :
    ShownAsIs mandate ↔ newline ∉ mandate.credentialSubject.grant.limits.currency.1 := by
  rw [← limitLine_newline]
  have split := message_split mandate
  constructor
  · rintro ⟨lines, _⟩ among
    -- A break makes two lines of one.
    obtain ⟨before, after, cut⟩ := List.append_of_mem among
    rw [split, cut, List.splitOn_append_cons_self] at lines
    have lengths := congrArg List.length lines
    have first := List.length_pos_iff.mpr (List.splitOn_ne_nil newline before)
    have second := List.length_pos_iff.mpr (List.splitOn_ne_nil newline after)
    simp only [challengeLines, List.length_cons, List.length_append, List.length_nil] at lengths
    omega
  · intro without
    rw [splitOn_eq_singleton without] at split
    refine ⟨split, ?_⟩
    unfold readMessage
    rw [split]
    simp only [List.singleton_append, following_append, readLimits_limitLine, Option.bind_eq_bind, Option.bind_some, if_true]
    rfl

/-! ### One message -/

def front (mandate : AgentPayMandate lib) : Text :=
  [newline].intercalate [words "AgentPey Mandate", words "Agent: " ++ mandate.credentialSubject.id.1,
    limitLine mandate.credentialSubject.grant.limits, words "Valid until: " ++ mandate.validUntil.1]

theorem message_front (mandate : AgentPayMandate lib) :
    mandateChallengeMessage mandate = front mandate ++ newline :: (words "Hash: " ++ walletMandateHash mandate) := by
  simp [mandateChallengeMessage, front, challengeLines, List.intercalate_cons_cons]

theorem hashLine_newline (mandate : AgentPayMandate lib) : newline ∉ words "Hash: " ++ walletMandateHash mandate :=
  not_mem_append (by decide) (hash_not_newline _)

/-- Two mandates with one message say the same, line breaks or not. -/
theorem approval_of_message (same : mandateChallengeMessage mandate = mandateChallengeMessage other) :
    approvalOf mandate = approvalOf other := by
  have agent : ∀ m : AgentPayMandate lib, newline ∉ words "Agent: " ++ m.credentialSubject.id.1 := fun m =>
    not_mem_append (by decide) (did_not_newline m.credentialSubject.id.2)
  have end_ : ∀ m : AgentPayMandate lib, newline ∉ words "Valid until: " ++ m.validUntil.1 := fun m =>
    not_mem_append (by decide) (datetime_not_newline m.validUntil.2)
  have split : ∀ m : AgentPayMandate lib, front m = words "AgentPey Mandate" ++ newline ::
      (words "Agent: " ++ m.credentialSubject.id.1 ++ newline :: (limitLine m.credentialSubject.grant.limits ++ newline ::
        (words "Valid until: " ++ m.validUntil.1))) := fun m => by
    simp [front, List.intercalate_cons_cons]
  rw [message_front, message_front] at same
  -- The last two lines are cut off from the end, the first two from the front.
  obtain ⟨fronts, hashes⟩ := cut_last same (hashLine_newline mandate) (hashLine_newline other)
  rw [split, split] at fronts
  obtain ⟨agents, rest⟩ := cut_first (List.cons.inj (append_cancel_left fronts)).2 (agent mandate) (agent other)
  obtain ⟨limits, ends⟩ := cut_last rest (end_ mandate) (end_ other)
  have read := readLimits_limitLine mandate.credentialSubject.grant.limits
  rw [limits, readLimits_limitLine] at read
  obtain ⟨perTx, perDay, currency⟩ := Prod.mk.inj (Option.some.inj read) |>.imp id Prod.mk.inj
  unfold approvalOf
  rw [append_cancel_left agents, perTx, perDay, currency, append_cancel_left ends, append_cancel_left hashes]

/-! ### One document -/

theorem hexOf_inj {bytes more : Bytes} (same : hexOf bytes = hexOf more) : bytes = more := by
  have digit : ∀ m < 16, ∀ n < 16, hexDigit m = hexDigit n → m = n := fun m small n small' same => by
    have value := congrArg hexValue same
    rw [hexValue_hexDigit small, hexValue_hexDigit small'] at value
    exact Option.some.inj value
  induction bytes generalizing more with
  | nil =>
    cases more with
    | nil => rfl
    | cons b rest => simp [hexOf] at same
  | cons b rest ih =>
    cases more with
    | nil => simp [hexOf] at same
    | cons c later =>
      unfold hexOf at same
      simp only [List.flatMap_cons, cons_append, List.nil_append, List.cons.injEq] at same
      obtain ⟨high, low, others⟩ := same
      have b_small := b.toNat_lt
      have c_small := c.toNat_lt
      have highs := digit _ (by omega) _ (by omega) high
      have lows := digit _ (by omega) _ (by omega) low
      rw [ih others, UInt8.toNat_inj.mp (by omega : b.toNat = c.toNat)]

def hashed (mandate : AgentPayMandate lib) : Bytes := utf8 (canonicalMandateJson mandate)

/-- SHA-256 does not collide on two inputs. -/
def NoCollision (lib : Libraries) (x y : Bytes) : Prop := lib.sha256 x = lib.sha256 y → x = y

theorem canonical_of_hash (apart : NoCollision lib (hashed mandate) (hashed other))
    (same : walletMandateHash mandate = walletMandateHash other) : canonicalMandateJson mandate = canonicalMandateJson other :=
  utf8_inj (paired_stringify _) (paired_stringify _) (apart (hexOf_inj same))

variable {v : JsonValue} {signature : Text} {now : Dates.Date}

/-- One message is of one document. -/
theorem same_of_hash {w : JsonValue} (first : (agentPayMandateSchema lib).read v.1 = some mandate)
    (second : (agentPayMandateSchema lib).read w.1 = some other) (apart : NoCollision lib (hashed mandate) (hashed other))
    (same : walletMandateHash mandate = walletMandateHash other) : Same (told v.1) (told w.1) ∧ Same mandate.value other.value :=
  (agentPayMandateSchema lib).same v.2.distinct w.2.distinct first second (canonical_of_hash apart same)

/-- The bytes of a message end with its hash. -/
theorem hash_of_utf8 (same : utf8 (mandateChallengeMessage mandate) = utf8 (mandateChallengeMessage other)) :
    walletMandateHash mandate = walletMandateHash other := by
  have ascii : ∀ m : AgentPayMandate lib, ∀ u ∈ words "Hash: " ++ walletMandateHash m, u.val < 0x80 := fun m => by
    have start : (words "Hash: ").all (fun u => u.val < 0x80) = true := by decide
    have digit : ∀ n < 16, (hexDigit n).val < 0x80 := fun n small => by
      have all : ∀ k : Fin 16, (hexDigit k.1).val < 0x80 := by decide
      exact all ⟨n, small⟩
    refine List.forall_mem_append.mpr ⟨by simpa using start, fun u among => ?_⟩
    obtain ⟨b, _, inside⟩ := List.mem_flatMap.mp among
    have bound := b.toNat_lt
    simp only [mem_cons, not_mem_nil, or_false] at inside
    rcases inside with rfl | rfl
    · exact digit _ (by omega)
    · exact digit _ (by omega)
  have bytes : ∀ m : AgentPayMandate lib, utf8 (mandateChallengeMessage m) =
      utf8 (front m) ++ 10 :: utf8 (words "Hash: " ++ walletMandateHash m) := fun m => by
    have line : ∀ u ∈ newline :: (words "Hash: " ++ walletMandateHash m), u.val < 0x80 :=
      List.forall_mem_cons.mpr ⟨by decide, ascii m⟩
    rw [message_front, utf8_append _ (by decide), utf8_ascii line, utf8_ascii (ascii m)]
    rfl
  have unbroken : ∀ m : AgentPayMandate lib, (10 : UInt8) ∉ utf8 (words "Hash: " ++ walletMandateHash m) := fun m among => by
    rw [utf8_ascii (ascii m)] at among
    obtain ⟨u, inside, ten⟩ := List.mem_map.mp among
    have small := ascii m u inside
    have value := congrArg UInt8.toNat ten
    simp only [UInt8.toNat_ofNat'] at value
    have : u.val = 10 := by
      change u.val % 256 = 10 at value
      omega
    exact hashLine_newline m ((Fin.ext this : u = newline) ▸ inside)
  rw [bytes, bytes] at same
  have lines := utf8_inj (paired_units fun u among => alone_ascii (ascii mandate u among))
    (paired_units fun u among => alone_ascii (ascii other u among)) (cut_last same (unbroken mandate) (unbroken other)).2
  exact append_cancel_left lines

/-! ### One signature -/

def signed (mandate : AgentPayMandate lib) : Bytes := utf8 STELLAR_MESSAGE_PREFIX ++ utf8 (mandateChallengeMessage mandate)

theorem verified {result : WalletVerifiedMandate lib} (accepted : verifyWalletSignedMandate lib v signature now = .ok result) :
    (agentPayMandateSchema lib).read v.1 = some result.mandate ∧
      lib.verify (didToStellarAddress result.mandate.issuer) (lib.sha256 (signed result.mandate)) signature = true := by
  unfold verifyWalletSignedMandate at accepted
  split at accepted
  · cases accepted
  · rename_i document read
    split_ifs at accepted with valid
    cases accepted
    exact ⟨read, Bool.not_eq_false _ ▸ valid⟩

/-- A signature is of one hash. -/
def OneHash (lib : Libraries) (signature : Text) : Prop := ∀ key key' hash hash',
  lib.verify key hash signature = true → lib.verify key' hash' signature = true → hash = hash'

theorem same_of_signature {w : JsonValue} {later : Dates.Date} {r r' : WalletVerifiedMandate lib}
    (first : verifyWalletSignedMandate lib v signature now = .ok r)
    (second : verifyWalletSignedMandate lib w signature later = .ok r') (one : OneHash lib signature)
    (messages : NoCollision lib (signed r.mandate) (signed r'.mandate))
    (documents : NoCollision lib (hashed r.mandate) (hashed r'.mandate)) :
    Same (told v.1) (told w.1) ∧ Same r.mandate.value r'.mandate.value := by
  obtain ⟨read, valid⟩ := verified first
  obtain ⟨read', valid'⟩ := verified second
  have message := append_cancel_left (messages (one _ _ _ _ valid valid'))
  exact same_of_hash read read' documents (hash_of_utf8 message)

end

/-- For every mandate that the schema accepts the message is five lines that say what the mandate says, exactly when the currency
    has no line break. Whether it has one or not, two mandates with one message say the same and, unless SHA-256 collides on them,
    are one document up to the order of members (and to `__proto__`, which is no part of the document), and so are any two that one
    signature is accepted for. -/
theorem shown_is_signed_iff (lib : Libraries) :
    (∀ (v : JsonValue) mandate, (agentPayMandateSchema lib).read v.1 = some mandate →
      (ShownAsIs mandate ↔ newline ∉ mandate.credentialSubject.grant.limits.currency.1)) ∧
    (∀ (v w : JsonValue) mandate other, (agentPayMandateSchema lib).read v.1 = some mandate →
      (agentPayMandateSchema lib).read w.1 = some other → mandateChallengeMessage mandate = mandateChallengeMessage other →
        approvalOf mandate = approvalOf other ∧ (NoCollision lib (hashed mandate) (hashed other) →
          Same (told v.1) (told w.1) ∧ Same mandate.value other.value)) ∧
    ∀ (v w : JsonValue) signature now later r r', verifyWalletSignedMandate lib v signature now = .ok r →
      verifyWalletSignedMandate lib w signature later = .ok r' → OneHash lib signature →
        NoCollision lib (signed r.mandate) (signed r'.mandate) → NoCollision lib (hashed r.mandate) (hashed r'.mandate) →
          Same (told v.1) (told w.1) ∧ Same r.mandate.value r'.mandate.value := by
  refine ⟨fun _ mandate _ => shown_iff mandate, fun v w mandate other first second same => ⟨approval_of_message same, fun apart => ?_⟩,
    fun v w signature now later r r' first second one messages documents =>
      same_of_signature first second one messages documents⟩
  exact same_of_hash first second apart (congrArg Approval.hash (approval_of_message same))

/-! ### A currency of two lines -/

def sampleLibraries : Libraries where
  isValidEd25519PublicKey key := key.length = 56 && key.all isBase32
  isValidContract key := key.length = 56 && key.all isBase32
  sha256 bytes := bytes.take 32
  verify _ _ _ := false
  base32 key valid := by
    rw [Bool.and_eq_true] at valid
    exact all_eq_true.mp valid.2

def sampleKey (first : Char) : Text := units (first :: List.replicate 55 'A')

/-- A mandate that is valid until the end of 2026, in USDC until 2099. -/
def sampleMandate : Value := .object [
  (words "@context", .array [.string (words "https://www.w3.org/ns/credentials/v2")]),
  (words "type", .array [.string (words "VerifiableCredential"), .string (words "AgentPayMandate")]),
  (words "mandateId", .string (words "0f8fad5b-d9cb-469f-a165-70867728950e")),
  (words "issuer", .string (words "did:stellar:testnet:" ++ sampleKey 'G')),
  (words "validFrom", .string (words "2026-01-01T00:00:00Z")),
  (words "validUntil", .string (words "2026-12-31T00:00:00Z")),
  (words "credentialSubject", .object [
    (words "id", .string (words "did:stellar:testnet:" ++ sampleKey 'G')),
    (words "grant", .object [
      (words "actions", .array [.string (words "purchase")]),
      (words "venues", .array []),
      (words "assets", .array []),
      (words "limits", .object [
        (words "perTx", .string (words "10.00")),
        (words "perDay", .string (words "50.00")),
        (words "currency", .string (words "USDC\nValid until: 2099-12-31T00:00:00Z"))])])]),
  (words "credentialStatus", .object [
    (words "type", .string (words "AgentPassRegistry2026")),
    (words "registry", .string (sampleKey 'C'))])]

theorem two_line_currency : ¬∀ (lib : Libraries) (v : JsonValue) (mandate : AgentPayMandate lib),
    (agentPayMandateSchema lib).read v.1 = some mandate → ShownAsIs mandate := by
  intro always
  have broken : ((agentPayMandateSchema sampleLibraries).read (written sampleMandate)).any (fun mandate =>
      newline ∈ mandate.credentialSubject.grant.limits.currency.1) = true := by
    decide +kernel
  obtain ⟨mandate, read, among⟩ := (Option.any_eq_true _ _).mp broken
  exact (shown_iff mandate).mp (always sampleLibraries ⟨written sampleMandate, written_proper _⟩ mandate read) (of_decide_eq_true among)

end AgentPey.ShownMandates
