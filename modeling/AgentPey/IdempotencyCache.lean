import AgentPey.Recency
import AgentPey.JsonTexts

/-!
`IdempotencyCache`: the answers of the UCP checkout that a repeated `Idempotency-Key` gets back. The cache holds at
most 1000 answers and 2 MiB of them, and forgets the oldest first; `bytes` is counted by hand beside the map.
-/
namespace AgentPey.IdempotencyCache
open Store Recency JsonNumbers JsonValues JsonTexts

def IDEMPOTENCY_TTL_MS : Int := 24 * 60 * 60 * 1000
def MAX_ENTRIES : Nat := 1000
def MAX_BYTES : Nat := 2 * 1024 * 1024

structure Entry where
  hash : String
  status : Nat
  /-- The answer as sent, serialized once. -/
  json : Text
  «at» : Int
  deriving DecidableEq

inductive IdempotencyLookup where
  | new
  | replay (status : Nat) (body : Value)
  | conflict

/-- `entries` is in the order of the insertions, the newest first. -/
structure Cache where
  entries : Keyed String Entry
  bytes : Int

def empty : Cache := ⟨∅, 0⟩

def Cache.size (cache : Cache) : Nat := cache.entries.entries.length

/-- `none` where `JSON.parse` throws. -/
def Cache.lookup (cache : Cache) (now : Int) (key hash : String) : Option IdempotencyLookup :=
  match cache.entries.lookup key with
  | none => some .new
  | some entry =>
    if now - entry.at > IDEMPOTENCY_TTL_MS then some .new
    else if entry.hash = hash then (parse entry.json).map (.replay entry.status)
    else some .conflict

def Cache.drop (cache : Cache) (key : String) : Cache :=
  match cache.entries.lookup key with
  | none => cache
  | some entry => ⟨cache.entries.erase key, cache.bytes - entry.json.length⟩

/-- The loop at the end of `remember`, over the keys in the order of their insertion. -/
def Cache.evict (cache : Cache) : List String → Cache
  | [] => cache
  | oldest :: rest =>
    if cache.size ≤ MAX_ENTRIES ∧ cache.bytes ≤ MAX_BYTES then cache else (cache.drop oldest).evict rest

/-- An answer to remember. `body` is `none` where it is `undefined`. -/
structure Call where
  key : String
  hash : String
  status : Nat
  body : Option JsonValue
  now : Int

/-- `body ?? null`. -/
def Call.answer (call : Call) : JsonValue := call.body.getD ⟨.null, trivial⟩

def Call.json (call : Call) : Text := stringify call.answer.1

def Call.entry (call : Call) : Entry := ⟨call.hash, call.status, call.json, call.now⟩

def Cache.remember (cache : Cache) (call : Call) : Cache :=
  -- An answer larger than the whole bound is not kept.
  if call.json.length > MAX_BYTES then cache
  else
    let dropped := cache.drop call.key
    let grown : Cache := ⟨dropped.entries.insert call.key call.entry, dropped.bytes + call.json.length⟩
    grown.evict grown.entries.keys.reverse

def run (calls : List Call) : Cache := calls.foldl Cache.remember empty

/-! ### The counter -/

/-- What an entry adds to `bytes`. -/
def weight (entry : Entry) : Int := entry.json.length

/-- `bytes` counts the stored answers. -/
def Counted (cache : Cache) : Prop := cache.bytes = total weight cache.entries

variable {cache : Cache}

theorem drop_entries (key : String) : (cache.drop key).entries = cache.entries.erase key := by
  unfold Cache.drop
  cases found : cache.entries.lookup key with
  | none => exact (erase_absent found).symm
  | some entry => rfl

theorem Counted.drop (counted : Counted cache) (key : String) : Counted (cache.drop key) := by
  unfold Counted Cache.drop
  cases found : cache.entries.lookup key with
  | none => exact counted
  | some entry =>
    rw [total_erase weight found, ← counted]
    rfl

variable {key : String}

theorem Counted.add (counted : Counted cache) (free : cache.entries.lookup key = none) (entry : Entry) :
    Counted ⟨cache.entries.insert key entry, cache.bytes + entry.json.length⟩ := by
  show _ = total weight (cache.entries.insert key entry)
  rw [total_insert_new weight entry free, ← counted]
  rfl

/-! ### Eviction -/

def Fits (entries : List (Sigma fun _ : String => Entry)) : Prop :=
  entries.length ≤ MAX_ENTRIES ∧ (entries.map fun e => weight e.2).sum ≤ MAX_BYTES

/-- The loop forgets oldest entries, and no more of them than the bounds ask for. -/
theorem evict_spec (counted : Counted cache) : Counted (cache.evict cache.entries.keys.reverse) ∧
      ∃ n, (cache.evict cache.entries.keys.reverse).entries.entries = cache.entries.entries.take n ∧
        Fits (cache.entries.entries.take n) ∧
        ∀ m, n < m → m ≤ cache.entries.entries.length → ¬Fits (cache.entries.entries.take m) := by
  generalize listed : cache.entries.entries = entries
  have keys : cache.entries.keys = entries.map Sigma.fst := by
    rw [← listed]
    rfl
  rw [keys]
  clear keys
  induction entries using List.reverseRec generalizing cache with
  | nil =>
    refine ⟨counted, 0, by simpa [Cache.evict] using listed, ⟨Nat.zero_le _, by simp⟩, fun m more within => ?_⟩
    simp only [List.length_nil] at within
    omega
  | append_singleton entries oldest ih =>
    have all : (cache.size ≤ MAX_ENTRIES ∧ cache.bytes ≤ MAX_BYTES) ↔ Fits (entries ++ [oldest]) := by
      rw [Cache.size, listed, show cache.bytes = _ from counted, total, listed]
      rfl
    rw [List.map_append, List.reverse_append, List.map_singleton, List.reverse_singleton, List.singleton_append, Cache.evict]
    by_cases fits : Fits (entries ++ [oldest])
    · rw [if_pos (all.mpr fits)]
      refine ⟨counted, entries.length + 1, ?_, ?_, ?_⟩
      · rw [listed, List.take_of_length_le (by simp)]
      · rwa [List.take_of_length_le (by simp)]
      · intro m more within
        simp only [List.length_append, List.length_singleton] at within
        omega
    · rw [if_neg (mt all.mp fits)]
      have rest : (cache.drop oldest.1).entries.entries = entries := by
        rw [drop_entries]
        exact entries_erase_last listed
      obtain ⟨counted', n, kept, within, least⟩ := ih (counted.drop oldest.1) rest
      by_cases enough : n ≤ entries.length
      · refine ⟨counted', n, ?_, ?_, fun m more bounded => ?_⟩
        · rw [kept, List.take_append_of_le_length enough]
        · rwa [List.take_append_of_le_length enough]
        · by_cases short : m ≤ entries.length
          · rw [List.take_append_of_le_length short]
            exact least m more short
          · rw [List.take_of_length_le (by simpa using Nat.not_le.mp short)]
            exact fits
      · have whole : entries.take n = entries := List.take_of_length_le (Nat.le_of_not_le enough)
        refine ⟨counted', entries.length, ?_, ?_, fun m more bounded => ?_⟩
        · rw [kept, whole, List.take_left]
        · rw [List.take_left]
          rwa [whole] at within
        · rw [List.take_of_length_le (by simpa using more)]
          exact fits

variable {call : Call}

/-- What `remember` leaves of an answer that is kept: the answer itself, and of the other entries as many of the newest
    as the bounds allow. -/
theorem remember_spec (counted : Counted cache) (small : call.json.length ≤ MAX_BYTES) : Counted (cache.remember call) ∧
      ∃ n, (cache.remember call).entries.entries = ⟨call.key, call.entry⟩ :: (cache.entries.erase call.key).entries.take n ∧
        Fits (⟨call.key, call.entry⟩ :: (cache.entries.erase call.key).entries.take n) ∧
        ∀ m, n < m → m ≤ (cache.entries.erase call.key).entries.length →
          ¬Fits (⟨call.key, call.entry⟩ :: (cache.entries.erase call.key).entries.take m) := by
  have free : (cache.drop call.key).entries.lookup call.key = none := by
    rw [drop_entries, AList.lookup_erase]
  have grown := (counted.drop call.key).add free call.entry
  have front : ((cache.drop call.key).entries.insert call.key call.entry).entries =
      ⟨call.key, call.entry⟩ :: (cache.entries.erase call.key).entries := by
    rw [AList.entries_insert_of_notMem (AList.lookup_eq_none.mp free), drop_entries]
  obtain ⟨counted', n, kept, fits, least⟩ := evict_spec grown
  simp only [front] at kept fits least
  rw [Cache.remember, if_neg (Nat.not_lt.mpr small)]
  refine ⟨counted', ?_⟩
  cases n with
  | zero =>
    -- The newest answer alone is within the bounds, so the loop never comes to it.
    have alone : ¬Fits [⟨call.key, call.entry⟩] := by simpa using least 1 Nat.one_pos (by simp)
    refine absurd ⟨show 1 ≤ MAX_ENTRIES by decide, ?_⟩ alone
    simpa [weight, Call.entry] using small
  | succ n =>
    rw [List.take_succ_cons] at kept fits
    refine ⟨n, kept, fits, fun m more within => ?_⟩
    simpa using least (m + 1) (by omega) (by simpa using within)

theorem remember_large (large : MAX_BYTES < call.json.length) : cache.remember call = cache := by
  rw [Cache.remember, if_pos large]

/-! ### Runs -/

def kept (calls : List Call) : List (String × Entry) :=
  (calls.filter fun call => call.json.length ≤ MAX_BYTES).map fun call => (call.key, call.entry)

def LastKept (calls : List Call) (key : String) (call : Call) : Prop :=
  ∃ before after, calls = before ++ call :: after ∧ call.key = key ∧ call.json.length ≤ MAX_BYTES ∧
    ∀ later ∈ after, later.key = key → MAX_BYTES < later.json.length

theorem kept_snoc (calls : List Call) (small : call.json.length ≤ MAX_BYTES) :
    kept (calls ++ [call]) = kept calls ++ [(call.key, call.entry)] := by
  simp [kept, small]

theorem kept_large (calls : List Call) (large : MAX_BYTES < call.json.length) : kept (calls ++ [call]) = kept calls := by
  simp [kept, large]

/-- In every run the counter is right, both bounds hold, and only the oldest answers are missing. -/
structure Sound (calls : List Call) (cache : Cache) : Prop where
  counted : Counted cache
  fits : Fits cache.entries.entries
  recent : Recent cache.entries (latest (kept calls))

theorem run_snoc (calls : List Call) (call : Call) : run (calls ++ [call]) = (run calls).remember call := by
  simp [run]

theorem run_sound (calls : List Call) : Sound calls (run calls) := by
  induction calls using List.reverseRec with
  | nil => exact ⟨rfl, ⟨Nat.zero_le _, by simp [run, empty]⟩, List.prefix_rfl⟩
  | append_singleton calls call ih =>
    rw [run_snoc]
    by_cases small : call.json.length ≤ MAX_BYTES
    · obtain ⟨counted, n, left, fits, _⟩ := remember_spec ih.counted small
      refine ⟨counted, left ▸ fits, ?_⟩
      rw [kept_snoc calls small, latest_snoc]
      have front : ((run calls).entries.insert call.key call.entry).entries =
          ⟨call.key, call.entry⟩ :: ((run calls).entries.erase call.key).entries := AList.entries_insert ..
      have newest : (⟨call.key, call.entry⟩ :: ((run calls).entries.erase call.key).entries.take n) <+:
          ((run calls).entries.insert call.key call.entry).entries := by
        rw [front]
        exact List.cons_prefix_cons.mpr ⟨rfl, List.take_prefix ..⟩
      unfold Recent
      rw [left]
      exact newest.trans (ih.recent.insert call.key call.entry)
    · have large := Nat.not_le.mp small
      rw [remember_large large]
      exact ⟨ih.counted, ih.fits, kept_large calls large ▸ ih.recent⟩

theorem lookup_kept (calls : List Call) (key : String) (entry : Entry) :
    (latest (kept calls)).lookup key = some entry ↔ ∃ call, LastKept calls key call ∧ call.entry = entry := by
  rw [lookup_latest]
  constructor
  · rintro ⟨before, after, split, others⟩
    obtain ⟨first, rest, cut, rfl, listed⟩ := List.map_eq_append_iff.mp split
    obtain ⟨call, later, rfl, same, rfl⟩ := List.map_eq_cons_iff.mp listed
    obtain ⟨before, after, rfl, _, tail⟩ := List.filter_eq_append_iff.mp cut
    obtain ⟨skipped, after, rfl, large, small, others'⟩ := List.filter_eq_cons_iff.mp tail
    obtain ⟨rfl, rfl⟩ := Prod.mk.inj same
    refine ⟨call, ⟨before ++ skipped, after, by simp, rfl, by simpa using small, fun other member sameKey => ?_⟩, rfl⟩
    by_contra fits
    have found : other ∈ later := by
      rw [← others']
      exact List.mem_filter.mpr ⟨member, by simpa using fits⟩
    exact others (other.key, other.entry) (List.mem_map_of_mem found) sameKey
  · rintro ⟨call, ⟨before, after, rfl, rfl, small, others⟩, rfl⟩
    refine ⟨kept before, kept after, by simp [kept, small], fun e member sameKey => ?_⟩
    obtain ⟨later, listed, rfl⟩ := List.mem_map.mp member
    obtain ⟨inside, fits⟩ := List.mem_filter.mp listed
    have large := others later inside sameKey
    simp only [decide_eq_true_eq] at fits
    omega

/-- What a run has stored under a key is the last answer kept for it. -/
theorem stored_iff (calls : List Call) (key : String) (entry : Entry) : (run calls).entries.lookup key = some entry ↔
      key ∈ (run calls).entries ∧ ∃ call, LastKept calls key call ∧ call.entry = entry := by
  have recent := (run_sound calls).recent
  constructor
  · intro found
    exact ⟨AList.lookup_isSome.mp (by simp [found]), (lookup_kept calls key entry).mp (recent.lookup found)⟩
  · rintro ⟨stored, last⟩
    obtain ⟨other, found⟩ := Option.isSome_iff_exists.mp (AList.lookup_isSome.mpr stored)
    have same := recent.lookup found
    rw [(lookup_kept calls key entry).mpr last] at same
    rw [found, same]

theorem parse_json (call : Call) : parse call.json = some (written call.answer.1) := parse_stringify _

variable {calls : List Call}

theorem lookup_stored (stored : key ∈ (run calls).entries) (last : LastKept calls key call) (now : Int) (hash : String) :
    (run calls).lookup now key hash =
      if now - call.now > IDEMPOTENCY_TTL_MS then some .new
      else if call.hash = hash then some (.replay call.status (written call.answer.1)) else some .conflict := by
  have found := (stored_iff calls key call.entry).mpr ⟨stored, call, last, rfl⟩
  simp only [Cache.lookup, found, Call.entry, parse_json, Option.map_some]

theorem lookup_absent (absent : key ∉ (run calls).entries) (now : Int) (hash : String) :
    (run calls).lookup now key hash = some .new := by
  simp [Cache.lookup, AList.lookup_eq_none.mpr absent]

theorem stored_last (stored : key ∈ (run calls).entries) : ∃ call, LastKept calls key call := by
  obtain ⟨entry, found⟩ := Option.isSome_iff_exists.mp (AList.lookup_isSome.mpr stored)
  obtain ⟨_, call, last, _⟩ := (stored_iff calls key entry).mp found
  exact ⟨call, last⟩

/-- The cache in every run of `remember` and `lookup`. The counter is the sum of the stored lengths and both bounds
    hold; a new answer goes to the front, and of the others as many of the newest stay as the bounds allow; only an
    answer beyond the whole bound is not kept. While a key's answer is stored, a lookup before it expires replays the
    last one kept for the key, read back from the text that was sent, or answers conflict when its hash is another. -/
theorem cache_replays_last (calls : List Call) :
    (run calls).bytes = total weight (run calls).entries ∧ (run calls).size ≤ MAX_ENTRIES ∧ (run calls).bytes ≤ MAX_BYTES ∧
    (∀ call, call.json.length ≤ MAX_BYTES →
      ∃ n, (run (calls ++ [call])).entries.entries =
          ⟨call.key, call.entry⟩ :: ((run calls).entries.erase call.key).entries.take n ∧
        ∀ m, n < m → m ≤ ((run calls).entries.erase call.key).entries.length →
          ¬Fits (⟨call.key, call.entry⟩ :: ((run calls).entries.erase call.key).entries.take m)) ∧
    (∀ call, MAX_BYTES < call.json.length → run (calls ++ [call]) = run calls) ∧
    (∀ now key hash status body, (run calls).lookup now key hash = some (.replay status body) ↔
      ∃ call, LastKept calls key call ∧ key ∈ (run calls).entries ∧ call.hash = hash ∧
        now - call.now ≤ IDEMPOTENCY_TTL_MS ∧ status = call.status ∧ body = written call.answer.1 ∧
        stringify body = call.json) ∧
    (∀ now key hash, (run calls).lookup now key hash = some .conflict ↔
      ∃ call, LastKept calls key call ∧ key ∈ (run calls).entries ∧ call.hash ≠ hash ∧
        now - call.now ≤ IDEMPOTENCY_TTL_MS) ∧
    ∀ now key hash, (run calls).lookup now key hash ≠ none := by
  have sound := run_sound calls
  refine ⟨sound.counted, sound.fits.1, ?_, fun call small => ?_, fun call large => ?_, fun now key hash status body => ?_,
    fun now key hash => ?_, fun now key hash => ?_⟩
  · rw [show (run calls).bytes = _ from sound.counted]
    exact sound.fits.2
  · obtain ⟨_, n, left, _, least⟩ := remember_spec sound.counted small
    rw [run_snoc]
    exact ⟨n, left, least⟩
  · rw [run_snoc, remember_large large]
  all_goals by_cases stored : key ∈ (run calls).entries
  · constructor
    · intro replayed
      obtain ⟨call, last⟩ := stored_last stored
      rw [lookup_stored stored last] at replayed
      by_cases old : now - call.now > IDEMPOTENCY_TTL_MS
      · simp [old] at replayed
      · by_cases same : call.hash = hash
        · obtain ⟨rfl, rfl⟩ : call.status = status ∧ written call.answer.1 = body := by simpa [old, same] using replayed
          exact ⟨call, last, stored, same, Int.not_lt.mp old, rfl, rfl, stringify_written call.answer.2⟩
        · simp [old, same] at replayed
    · rintro ⟨call, last, _, same, fresh, rfl, rfl, _⟩
      rw [lookup_stored stored last, if_neg (Int.not_lt.mpr fresh), if_pos same]
  · rw [lookup_absent stored]
    simp [stored]
  · constructor
    · intro refused
      obtain ⟨call, last⟩ := stored_last stored
      rw [lookup_stored stored last] at refused
      by_cases old : now - call.now > IDEMPOTENCY_TTL_MS
      · simp [old] at refused
      · by_cases same : call.hash = hash
        · simp [old, same] at refused
        · exact ⟨call, last, stored, same, Int.not_lt.mp old⟩
    · rintro ⟨call, last, _, other, fresh⟩
      rw [lookup_stored stored last, if_neg (Int.not_lt.mpr fresh), if_neg other]
  · rw [lookup_absent stored]
    simp [stored]
  · obtain ⟨call, last⟩ := stored_last stored
    rw [lookup_stored stored last]
    split_ifs <;> simp
  · simp [lookup_absent stored]

end AgentPey.IdempotencyCache
