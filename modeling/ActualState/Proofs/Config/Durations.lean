import ActualState.Config.Basic

/-!
# Durations of any configuration

A duration counted in heartbeat periods can be asked for before the check, so it has to come out
right for every period and every count. Words could lose something twice: the count is cut to 32
bits and the seconds to 64. Where either loses anything the duration is a year, and there the exact
product is more than a year as well. Only a period of zero has no such product: counted more often
than 32 bits can say it also comes to a year, which keeps durations from falling as counts grow.
-/
namespace ActualState

open Time (Duration)

/-- Whether a count keeps its value in 32 bits, and its product with a period in 64. -/
def FitsWords (period count : UInt64) : Prop :=
  count.toUInt32.toUInt64 = count ∧ (period * count).toNat = period.toNat * count.toNat

theorem fitsWords_iff {period count : UInt64} :
    FitsWords period count ↔
      count.toNat < 4294967296 ∧ period.toNat * count.toNat < 18446744073709551616 := by
  have narrowed : count.toUInt32.toUInt64 = count ↔ count.toNat < 4294967296 := by
    rw [← UInt64.toNat_inj, UInt32.toNat_toUInt64, UInt64.toNat_toUInt32]
    exact Nat.mod_eq_iff_lt (by decide)
  have unwrapped : (period * count).toNat = period.toNat * count.toNat ↔
      period.toNat * count.toNat < 18446744073709551616 := by
    rw [UInt64.toNat_mul]
    exact Nat.mod_eq_iff_lt (by decide)
  rw [FitsWords, narrowed, unwrapped]

/-- Seconds of a year or more come to a year at least. -/
theorem maxDuration_le {seconds : Nat} (long : 31536000 ≤ seconds) :
    maxDuration ≤ seconds * Time.second :=
  Nat.mul_le_mul_right Time.second long

namespace ListenerConfig

variable {c d : ListenerConfig} {m n : UInt64}

/-- A product that words hold is the one they compute. -/
theorem inHeartbeats_of_fitsWords (fits : FitsWords c.heartbeatPeriodSecs n) :
    c.inHeartbeats n = some ((c.heartbeatPeriodSecs * n).toNat * Time.second) := by
  rw [inHeartbeats, if_pos (fitsWords_iff.1 fits), fits.2]

theorem inHeartbeats_of_not_fitsWords (lost : ¬FitsWords c.heartbeatPeriodSecs n) :
    c.inHeartbeats n = none :=
  if_neg (mt fitsWords_iff.2 lost)

/-- A count of 32 bits is capped exactly, whether its product fits a word or not. -/
theorem cappedHeartbeats_of_narrow (narrow : n.toNat < 4294967296) :
    c.cappedHeartbeats n =
      min (c.heartbeatPeriodSecs.toNat * n.toNat * Time.second) maxDuration := by
  by_cases fits : c.heartbeatPeriodSecs.toNat * n.toNat < 18446744073709551616
  · rw [cappedHeartbeats, inHeartbeats, if_pos ⟨narrow, fits⟩]
  · have long : maxDuration ≤ c.heartbeatPeriodSecs.toNat * n.toNat * Time.second :=
      maxDuration_le (by omega)
    rw [cappedHeartbeats, inHeartbeats, if_neg (fun both => fits both.2), Nat.min_eq_right long]

theorem cappedHeartbeats_of_wide (wide : 4294967296 ≤ n.toNat) :
    c.cappedHeartbeats n = maxDuration := by
  rw [cappedHeartbeats, inHeartbeats, if_neg (fun both => Nat.not_lt.2 wide both.1)]

/-- Without time between heartbeats, a count of 33 bits still comes to a year. -/
example : heartbeatTtl { heartbeatPeriodSecs := 0, heartbeatTtlInHeartbeats := 4294967296 } =
    maxDuration := by decide

theorem cappedHeartbeats_le (c : ListenerConfig) (n : UInt64) :
    c.cappedHeartbeats n ≤ maxDuration := by
  rcases Nat.lt_or_ge n.toNat 4294967296 with narrow | wide
  · rw [cappedHeartbeats_of_narrow narrow]
    exact Nat.min_le_right _ _
  · exact Nat.le_of_eq (cappedHeartbeats_of_wide wide)

/-- A period of at least a second makes a count beyond 32 bits longer than a year. -/
theorem cappedHeartbeats_eq_min (counted : 0 < c.heartbeatPeriodSecs.toNat ∨
    n.toNat < 4294967296) :
    c.cappedHeartbeats n =
      min (c.heartbeatPeriodSecs.toNat * n.toNat * Time.second) maxDuration := by
  rcases Nat.lt_or_ge n.toNat 4294967296 with narrow | wide
  · exact cappedHeartbeats_of_narrow narrow
  · have positive : 0 < c.heartbeatPeriodSecs.toNat := by omega
    have grows : n.toNat ≤ c.heartbeatPeriodSecs.toNat * n.toNat :=
      Nat.le_mul_of_pos_left _ positive
    have long : maxDuration ≤ c.heartbeatPeriodSecs.toNat * n.toNat * Time.second :=
      maxDuration_le (by omega)
    rw [cappedHeartbeats_of_wide wide, Nat.min_eq_right long]

/-- More periods, or longer ones, never come to less. -/
theorem cappedHeartbeats_mono (period : c.heartbeatPeriodSecs ≤ d.heartbeatPeriodSecs)
    (count : m ≤ n) : c.cappedHeartbeats m ≤ d.cappedHeartbeats n := by
  have counts : m.toNat ≤ n.toNat := UInt64.le_iff_toNat_le.1 count
  rcases Nat.lt_or_ge n.toNat 4294967296 with narrow | wide
  · have product : c.heartbeatPeriodSecs.toNat * m.toNat ≤ d.heartbeatPeriodSecs.toNat * n.toNat :=
      Nat.mul_le_mul (UInt64.le_iff_toNat_le.1 period) counts
    rw [cappedHeartbeats_of_narrow (Nat.lt_of_le_of_lt counts narrow),
      cappedHeartbeats_of_narrow narrow]
    refine Nat.le_min.2 ⟨?_, Nat.min_le_right _ _⟩
    exact Nat.le_trans (Nat.min_le_left _ _) (Nat.mul_le_mul_right Time.second product)
  · rw [cappedHeartbeats_of_wide wide]
    exact cappedHeartbeats_le c m

/-- The year is a whole number of seconds too, so whatever is capped there is one. -/
theorem cappedHeartbeats_whole (c : ListenerConfig) (n : UInt64) :
    ∃ seconds : UInt64, c.cappedHeartbeats n = seconds.toNat * Time.second := by
  rcases Nat.lt_or_ge n.toNat 4294967296 with narrow | wide
  · have small : min (c.heartbeatPeriodSecs.toNat * n.toNat) 31536000 < 18446744073709551616 :=
      Nat.lt_of_le_of_lt (Nat.min_le_right _ _) (by decide)
    refine ⟨UInt64.ofNatLT _ small, ?_⟩
    rw [UInt64.toNat_ofNatLT, ← Nat.mul_min_mul_right]
    exact cappedHeartbeats_of_narrow narrow
  · exact ⟨31536000, cappedHeartbeats_of_wide wide⟩

/-- What is asked of a duration that stands for a count of heartbeat periods, in every
configuration. -/
structure IsCappedProduct (count : ListenerConfig → UInt64)
    (duration : ListenerConfig → Duration) : Prop where
  /-- There is always an answer, of as many whole seconds as a word holds. -/
  whole : ∀ c, ∃ seconds : UInt64, duration c = seconds.toNat * Time.second
  le_year : ∀ c, duration c ≤ maxDuration
  /-- It does not fall when the period grows, or the count, or both; nothing else moves it. -/
  mono : ∀ c d : ListenerConfig, c.heartbeatPeriodSecs ≤ d.heartbeatPeriodSecs →
    count c ≤ count d → duration c ≤ duration d
  /-- Up to a year it is the exact product. -/
  eq_min : ∀ c : ListenerConfig,
    0 < c.heartbeatPeriodSecs.toNat ∨ (count c).toNat < 4294967296 →
      duration c = min (c.heartbeatPeriodSecs.toNat * (count c).toNat * Time.second) maxDuration
  /-- Where words lose nothing, their product is what is capped. -/
  kept : ∀ c : ListenerConfig, FitsWords c.heartbeatPeriodSecs (count c) →
    duration c = min ((c.heartbeatPeriodSecs * count c).toNat * Time.second) maxDuration
  /-- A count that was cut, or a product that wrapped, is never used. -/
  lost : ∀ c : ListenerConfig, ¬FitsWords c.heartbeatPeriodSecs (count c) →
    duration c = maxDuration

theorem isCappedProduct_cappedHeartbeats (count : ListenerConfig → UInt64) :
    IsCappedProduct count fun c => c.cappedHeartbeats (count c) where
  whole c := cappedHeartbeats_whole c (count c)
  le_year c := cappedHeartbeats_le c (count c)
  mono _ _ := cappedHeartbeats_mono
  eq_min _ := cappedHeartbeats_eq_min
  kept _ fits := by rw [cappedHeartbeats, inHeartbeats_of_fitsWords fits]
  lost _ lost := by rw [cappedHeartbeats, inHeartbeats_of_not_fitsWords lost]

/-- The three durations that are counted in heartbeat periods are capped products, whatever the
period and the counts are: no check has to come first. -/
theorem counted_durations_are_capped_products :
    IsCappedProduct heartbeatTtlInHeartbeats heartbeatTtl ∧
      IsCappedProduct actualFreshnessTtlInHeartbeats actualFreshnessTtl ∧
      IsCappedProduct storeUsageSampleInHeartbeats storeUsageSampleInterval :=
  ⟨isCappedProduct_cappedHeartbeats heartbeatTtlInHeartbeats,
    isCappedProduct_cappedHeartbeats actualFreshnessTtlInHeartbeats,
    isCappedProduct_cappedHeartbeats storeUsageSampleInHeartbeats⟩

/-- A product that wraps to zero, and a count whose 32 bits are zero: both come to a year. A count
that is zero comes to nothing, however long the period. -/
theorem counted_durations_are_capped_products_lost_in_words :
    let c : ListenerConfig :=
      { heartbeatPeriodSecs := 8589934592, heartbeatTtlInHeartbeats := 2147483648,
        actualFreshnessTtlInHeartbeats := 4294967296, storeUsageSampleInHeartbeats := 0 }
    c.heartbeatPeriodSecs * c.heartbeatTtlInHeartbeats = 0 ∧
      c.actualFreshnessTtlInHeartbeats.toUInt32 = 0 ∧
      c.heartbeatTtl = maxDuration ∧ c.actualFreshnessTtl = maxDuration ∧
      c.storeUsageSampleInterval = 0 := by
  intro c
  obtain ⟨ttl, freshness, usage⟩ := counted_durations_are_capped_products
  have wraps : ¬FitsWords c.heartbeatPeriodSecs c.heartbeatTtlInHeartbeats := fun fits =>
    absurd (fitsWords_iff.1 fits) (by decide)
  have cut : ¬FitsWords c.heartbeatPeriodSecs c.actualFreshnessTtlInHeartbeats := fun fits =>
    absurd (fitsWords_iff.1 fits) (by decide)
  refine ⟨by decide, by decide, ttl.lost c wraps, freshness.lost c cut, ?_⟩
  rw [usage.eq_min c (.inl (by decide))]
  decide

end ListenerConfig

end ActualState
