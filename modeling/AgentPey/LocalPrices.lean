import AgentPey.DecimalTexts
import Mathlib.Data.Nat.Cast.Order.Field
import Mathlib.Data.Rat.Floor

/-!
The price in USDC of a local amount (`localToUsdcAtomic`): one rounding, half up, of the exact number of units.
-/
namespace AgentPey.LocalPrices
open Receipts DecimalTexts

/-- The integer nearest to a number, and the one above when two are. -/
def HalfUp (x : ℚ) (n : ℕ) : Prop := (n : ℚ) - 1 / 2 ≤ x ∧ x < n + 1 / 2

theorem HalfUp.mono {x y : ℚ} {m n : ℕ} (first : HalfUp x m) (second : HalfUp y n) (le : x ≤ y) : m ≤ n := by
  obtain ⟨lower, _⟩ := first
  obtain ⟨_, upper⟩ := second
  have below : (m : ℚ) < n + 1 := by linarith
  exact Nat.lt_succ_iff.mp (by exact_mod_cast below)

theorem divRoundHalfUp_iff {numerator denominator n : ℕ} (positive : 0 < denominator) :
    divRoundHalfUp numerator denominator = .ok n ↔ HalfUp ((numerator : ℚ) / denominator) n := by
  have whole : divRoundHalfUp numerator denominator = .ok ((numerator * 2 + denominator) / (denominator * 2)) :=
    if_neg positive.ne'
  have cast : (0 : ℚ) < denominator := by exact_mod_cast positive
  rw [whole, Except.ok.injEq, Nat.div_eq_iff (by omega), HalfUp, div_lt_iff₀ cast, le_div_iff₀ cast]
  constructor
  · rintro ⟨lower, upper⟩
    have lower : (n * (denominator * 2) : ℚ) ≤ numerator * 2 + denominator := by exact_mod_cast lower
    have upper : (numerator * 2 + denominator : ℚ) + 1 ≤ n * (denominator * 2) + denominator * 2 := by
      have : numerator * 2 + denominator + 1 ≤ n * (denominator * 2) + denominator * 2 := by omega
      exact_mod_cast this
    constructor <;> nlinarith
  · rintro ⟨lower, upper⟩
    have lower : (n * (denominator * 2) : ℚ) ≤ numerator * 2 + denominator := by linarith
    have upper : (numerator * 2 + denominator : ℚ) < n * (denominator * 2) + denominator * 2 := by linarith
    have lower : n * (denominator * 2) ≤ numerator * 2 + denominator := by exact_mod_cast lower
    have upper : numerator * 2 + denominator < n * (denominator * 2) + denominator * 2 := by exact_mod_cast upper
    exact ⟨lower, by omega⟩

theorem halfUp_exists {x : ℚ} (nonneg : 0 ≤ x) : ∃ n, HalfUp x n := by
  have lower := Nat.floor_le (show 0 ≤ x + 1 / 2 by linarith)
  have upper := Nat.lt_floor_add_one (x + 1 / 2)
  exact ⟨⌊x + 1 / 2⌋₊, by constructor <;> linarith⟩

/-- The text has no more places than the currency. -/
def Fits (amountLocal currency : String) : Prop := ∃ places decimals, decimalPlaces amountLocal = .ok places ∧
  currencyDecimals currency = .ok decimals ∧ places ≤ decimals

/-- What a conversion accepts, and the amount and the rate that it reads: the rate is in the currency, which is known, the
    amount has no more places than the currency, and the rate is positive. -/
structure Accepted (amountLocal currency : String) (fx : FxRate) (amount rate : ℚ) : Prop where
  quoted : toUpperCase fx.quote = toUpperCase currency
  fits : Fits amountLocal currency
  reads : decimalValue amountLocal = some amount
  readsRate : decimalValue fx.rate = some rate
  positive : 0 < rate

section
variable {amountLocal currency : String} {fx : FxRate} {atomic : ℕ}

theorem localToUsdcAtomic_ok : localToUsdcAtomic amountLocal currency fx = .ok atomic ↔
    toUpperCase fx.quote = toUpperCase currency ∧
      ∃ localDecimals localAtomic rateDecimals rateAtomic, currencyDecimals currency = .ok localDecimals ∧
        parseDecimal amountLocal localDecimals = .ok localAtomic ∧ decimalPlaces fx.rate = .ok rateDecimals ∧
        parseDecimal fx.rate rateDecimals = .ok rateAtomic ∧ rateAtomic ≠ 0 ∧
        divRoundHalfUp (localAtomic * 10 ^ rateDecimals * 10 ^ USDC_DECIMALS) (rateAtomic * 10 ^ localDecimals) =
          .ok atomic := by
  unfold localToUsdcAtomic
  by_cases quoted : toUpperCase fx.quote = toUpperCase currency
  · cases currencyDecimals currency with
    | error e => simp [quoted, bind, Except.bind]
    | ok localDecimals =>
      cases parsed : parseDecimal amountLocal localDecimals with
      | error e => simp [quoted, parsed, bind, Except.bind]
      | ok localAtomic =>
        cases decimalPlaces fx.rate with
        | error e => simp [quoted, parsed, bind, Except.bind]
        | ok rateDecimals =>
          cases rated : parseDecimal fx.rate rateDecimals with
          | error e => simp [quoted, parsed, rated, bind, Except.bind]
          | ok rateAtomic =>
            by_cases zero : rateAtomic = 0
            · simp [quoted, parsed, rated, zero, bind, Except.bind, throw, throwThe, MonadExceptOf.throw]
            · simp [quoted, parsed, rated, zero, bind, Except.bind]
  · simp [quoted, bind, Except.bind, throw, throwThe, MonadExceptOf.throw]

variable {rateDecimals rateAtomic otherAtomic : ℕ} {amount rate : ℚ}

theorem rate_iff : decimalPlaces fx.rate = .ok rateDecimals ∧ parseDecimal fx.rate rateDecimals = .ok rateAtomic ↔
      ∃ whole fraction, partsOf fx.rate = some (whole, fraction) ∧ fraction.length = rateDecimals ∧
        (rateAtomic : ℚ) = valueOf whole fraction * 10 ^ rateDecimals := by
  rw [decimalPlaces_iff, parseDecimal_iff]
  constructor
  · rintro ⟨⟨whole, fraction, read, places⟩, _, _, again, _, exact_⟩
    rw [read] at again
    cases again
    exact ⟨whole, fraction, read, places, exact_⟩
  · rintro ⟨whole, fraction, read, places, exact_⟩
    exact ⟨⟨whole, fraction, read, places⟩, whole, fraction, read, places.le, exact_⟩

/-- The quotient that is rounded is the exact number of units. -/
theorem exact_units {localDecimals localAtomic : ℕ} (amountIs : (localAtomic : ℚ) = amount * 10 ^ localDecimals)
    (rateIs : (rateAtomic : ℚ) = rate * 10 ^ rateDecimals) (positive : 0 < rate) :
    ((localAtomic * 10 ^ rateDecimals * 10 ^ USDC_DECIMALS : ℕ) : ℚ) / ((rateAtomic * 10 ^ localDecimals : ℕ) : ℚ) =
      amount / rate * 10 ^ USDC_DECIMALS := by
  push_cast
  rw [amountIs, rateIs]
  field_simp

/-- The number of units is the exact one, rounded half up. -/
theorem localToUsdcAtomic_iff : localToUsdcAtomic amountLocal currency fx = .ok atomic ↔
    ∃ amount rate, Accepted amountLocal currency fx amount rate ∧
      HalfUp (amount / rate * 10 ^ USDC_DECIMALS) atomic := by
  rw [localToUsdcAtomic_ok]
  constructor
  · rintro ⟨quoted, localDecimals, localAtomic, rateDecimals, rateAtomic, known, parsed, places, rated, nonzero, rounded⟩
    obtain ⟨whole, fraction, read, fits, amountIs⟩ := parseDecimal_iff.mp parsed
    obtain ⟨rateWhole, rateFraction, rateRead, rfl, rateIs⟩ := rate_iff.mp ⟨places, rated⟩
    have positive : 0 < valueOf rateWhole rateFraction := by
      have some_ : (0 : ℚ) < rateAtomic := by exact_mod_cast Nat.pos_of_ne_zero nonzero
      rw [rateIs] at some_
      exact pos_of_mul_pos_left some_ (by positivity)
    refine ⟨valueOf whole fraction, valueOf rateWhole rateFraction,
      ⟨quoted, ⟨_, localDecimals, decimalPlaces_iff.mpr ⟨whole, fraction, read, rfl⟩, known, fits⟩,
        by rw [decimalValue, read]; rfl, by rw [decimalValue, rateRead]; rfl, positive⟩, ?_⟩
    rw [divRoundHalfUp_iff (by positivity), exact_units amountIs rateIs positive] at rounded
    exact rounded
  · rintro ⟨amount, rate, ⟨quoted, ⟨places, localDecimals, written, known, fits⟩, reads, readsRate, positive⟩, nearest⟩
    obtain ⟨whole, fraction, read, rfl⟩ := decimalPlaces_iff.mp written
    obtain ⟨⟨rateWhole, rateFraction⟩, rateRead, rfl⟩ := Option.map_eq_some_iff.mp readsRate
    obtain rfl : valueOf whole fraction = amount := by simpa [decimalValue, read] using reads
    have localIs := valueOf_units whole fraction fits
    have rateIs := valueOf_units rateWhole rateFraction le_rfl
    generalize 10 ^ (localDecimals - fraction.length) * Nat.ofDigitChars 10 (whole ++ fraction) 0 = localAtomic at localIs
    generalize 10 ^ (rateFraction.length - rateFraction.length) * Nat.ofDigitChars 10 (rateWhole ++ rateFraction) 0 =
      rateAtomic at rateIs
    have nonzero : 0 < rateAtomic := by
      have some_ : (0 : ℚ) < rateAtomic := by
        rw [rateIs]
        positivity
      exact_mod_cast some_
    obtain ⟨ratePlaces, rated⟩ := rate_iff.mpr ⟨rateWhole, rateFraction, rateRead, rfl, rateIs⟩
    refine ⟨quoted, localDecimals, localAtomic, rateFraction.length, rateAtomic, known,
      parseDecimal_iff.mpr ⟨whole, fraction, read, fits, localIs⟩, ratePlaces, rated, nonzero.ne', ?_⟩
    rw [divRoundHalfUp_iff (by positivity), exact_units localIs rateIs positive]
    exact nearest

theorem Accepted.converts (accepted : Accepted amountLocal currency fx amount rate) :
    ∃ atomic, localToUsdcAtomic amountLocal currency fx = .ok atomic := by
  have nonneg := decimalValue_nonneg accepted.reads
  have positive := accepted.positive
  obtain ⟨atomic, nearest⟩ := halfUp_exists (show 0 ≤ amount / rate * 10 ^ USDC_DECIMALS by positivity)
  exact ⟨atomic, localToUsdcAtomic_iff.mpr ⟨amount, rate, accepted, nearest⟩⟩

/-- An amount that is not smaller is not less in USDC. -/
theorem localToUsdcAtomic_mono {other : String} {more : ℚ} (converted : localToUsdcAtomic amountLocal currency fx = .ok atomic)
    (convertedOther : localToUsdcAtomic other currency fx = .ok otherAtomic) (reads : decimalValue amountLocal = some amount)
    (readsOther : decimalValue other = some more) (le : amount ≤ more) : atomic ≤ otherAtomic := by
  obtain ⟨a, rate, accepted, nearest⟩ := localToUsdcAtomic_iff.mp converted
  obtain ⟨b, rate', acceptedOther, nearestOther⟩ := localToUsdcAtomic_iff.mp convertedOther
  obtain rfl : amount = a := Option.some.inj (reads.symm.trans accepted.reads)
  obtain rfl : more = b := Option.some.inj (readsOther.symm.trans acceptedOther.reads)
  obtain rfl : rate = rate' := Option.some.inj (accepted.readsRate.symm.trans acceptedOther.readsRate)
  have positive := accepted.positive
  refine nearest.mono nearestOther ?_
  gcongr

/-- At a rate that is not lower an amount is not more in USDC. -/
theorem localToUsdcAtomic_anti {fx' : FxRate} {higher : ℚ} (converted : localToUsdcAtomic amountLocal currency fx = .ok atomic)
    (convertedOther : localToUsdcAtomic amountLocal currency fx' = .ok otherAtomic) (reads : decimalValue fx.rate = some rate)
    (readsOther : decimalValue fx'.rate = some higher) (le : rate ≤ higher) : otherAtomic ≤ atomic := by
  obtain ⟨a, r, accepted, nearest⟩ := localToUsdcAtomic_iff.mp converted
  obtain ⟨b, r', acceptedOther, nearestOther⟩ := localToUsdcAtomic_iff.mp convertedOther
  obtain rfl : a = b := Option.some.inj (accepted.reads.symm.trans acceptedOther.reads)
  obtain rfl : rate = r := Option.some.inj (reads.symm.trans accepted.readsRate)
  obtain rfl : higher = r' := Option.some.inj (readsOther.symm.trans acceptedOther.readsRate)
  have positive := accepted.positive
  have nonneg := decimalValue_nonneg accepted.reads
  refine nearestOther.mono nearest ?_
  gcongr

end

theorem accepted_rate_zeros {amountLocal currency quote rate more : String} (zeros : MoreZeros rate more) {a r : ℚ} :
    Accepted amountLocal currency ⟨quote, more⟩ a r ↔ Accepted amountLocal currency ⟨quote, rate⟩ a r := by
  constructor
  · exact fun accepted => ⟨accepted.quoted, accepted.fits, accepted.reads, zeros.value ▸ accepted.readsRate, accepted.positive⟩
  · exact fun accepted => ⟨accepted.quoted, accepted.fits, accepted.reads, zeros.value.trans accepted.readsRate,
      accepted.positive⟩

theorem accepted_amount_zeros {amountLocal more currency : String} {fx : FxRate} (zeros : MoreZeros amountLocal more)
    (fits : Fits more currency) {a r : ℚ} : Accepted more currency fx a r ↔ Accepted amountLocal currency fx a r := by
  have shorter : Fits amountLocal currency := by
    obtain ⟨whole, fraction, n, read, readMore⟩ := zeros
    obtain ⟨places, decimals, written, known, le⟩ := fits
    obtain ⟨_, _, again, rfl⟩ := decimalPlaces_iff.mp written
    rw [readMore] at again
    cases again
    rw [List.length_append] at le
    exact ⟨fraction.length, decimals, decimalPlaces_iff.mpr ⟨whole, fraction, read, rfl⟩, known, by omega⟩
  constructor
  · exact fun accepted => ⟨accepted.quoted, shorter, zeros.value ▸ accepted.reads, accepted.readsRate, accepted.positive⟩
  · exact fun accepted => ⟨accepted.quoted, fits, zeros.value.trans accepted.reads, accepted.readsRate, accepted.positive⟩

/-- What is accepted is converted into the integer nearest to the exact number of units, half up, and nothing else is. The
    result grows with the amount and falls with the rate, and zeros at the end of either text do not change it. Writing
    units and reading texts with all places are inverse, for any number of places. -/
theorem local_prices :
    (∀ amountLocal currency fx atomic, localToUsdcAtomic amountLocal currency fx = .ok atomic ↔
      ∃ amount rate, Accepted amountLocal currency fx amount rate ∧ HalfUp (amount / rate * 10 ^ USDC_DECIMALS) atomic) ∧
    (∀ amountLocal currency fx amount rate, Accepted amountLocal currency fx amount rate →
      ∃ atomic, localToUsdcAtomic amountLocal currency fx = .ok atomic) ∧
    (∀ amountLocal other currency fx atomic otherAtomic amount more,
      localToUsdcAtomic amountLocal currency fx = .ok atomic → localToUsdcAtomic other currency fx = .ok otherAtomic →
      decimalValue amountLocal = some amount → decimalValue other = some more → amount ≤ more → atomic ≤ otherAtomic) ∧
    (∀ amountLocal currency fx fx' atomic otherAtomic rate higher,
      localToUsdcAtomic amountLocal currency fx = .ok atomic → localToUsdcAtomic amountLocal currency fx' = .ok otherAtomic →
      decimalValue fx.rate = some rate → decimalValue fx'.rate = some higher → rate ≤ higher → otherAtomic ≤ atomic) ∧
    (∀ amountLocal currency quote rate more, MoreZeros rate more → ∀ atomic,
      localToUsdcAtomic amountLocal currency ⟨quote, more⟩ = .ok atomic ↔
        localToUsdcAtomic amountLocal currency ⟨quote, rate⟩ = .ok atomic) ∧
    (∀ amountLocal more currency fx, MoreZeros amountLocal more → Fits more currency → ∀ atomic,
      localToUsdcAtomic more currency fx = .ok atomic ↔ localToUsdcAtomic amountLocal currency fx = .ok atomic) ∧
    (∀ atomic decimals, Canonical decimals (formatUnits atomic decimals) ∧
      parseDecimal (formatUnits atomic decimals) decimals = .ok atomic) ∧
    ∀ text decimals, Canonical decimals text →
      ∃ atomic, parseDecimal text decimals = .ok atomic ∧ formatUnits atomic decimals = text := by
  refine ⟨fun _ _ _ _ => localToUsdcAtomic_iff, fun _ _ _ _ _ accepted => accepted.converts,
    fun _ _ _ _ _ _ _ _ => localToUsdcAtomic_mono, fun _ _ _ _ _ _ _ _ => localToUsdcAtomic_anti,
    fun _ _ _ _ _ zeros _ => ?_, fun _ _ _ _ zeros fits _ => ?_,
    fun atomic decimals => ⟨canonical_formatUnits atomic decimals, parseDecimal_formatUnits atomic decimals⟩,
    fun _ _ => formatUnits_parseDecimal⟩
  · simp only [localToUsdcAtomic_iff, accepted_rate_zeros zeros]
  · simp only [localToUsdcAtomic_iff, accepted_amount_zeros zeros fits]

/-- 12.5 and 12.50 pesos at 20 and at 20.00. -/
theorem local_prices_sample :
    localToUsdcAtomic "12.50" "MXN" ⟨"mxn", "20.00"⟩ = .ok 6250000 ∧
      localToUsdcAtomic "12.5" "MXN" ⟨"mxn", "20"⟩ = .ok 6250000 := by
  have longer : localToUsdcAtomic "12.50" "MXN" ⟨"mxn", "20.00"⟩ = .ok 6250000 := by decide
  have rate : MoreZeros "20" "20.00" := ⟨['2', '0'], [], 2, by decide, by decide⟩
  have amount : MoreZeros "12.5" "12.50" := ⟨['1', '2'], ['5'], 1, by decide, by decide⟩
  have fits : Fits "12.50" "MXN" := ⟨2, 2, by decide, by decide, le_rfl⟩
  obtain ⟨_, _, _, _, rateZeros, amountZeros, _⟩ := local_prices
  have shorter := (rateZeros "12.50" "MXN" "mxn" "20" "20.00" rate 6250000).mp longer
  exact ⟨longer, (amountZeros "12.5" "12.50" "MXN" ⟨"mxn", "20"⟩ amount fits 6250000).mp shorter⟩

end AgentPey.LocalPrices
