import ActualState.Config.Load
import ActualState.Listener.Runtime
import ActualState.Proofs.Config.Durations
import Mathlib.Tactic.SplitIfs

/-!
# What the check of a configuration means

The check works on durations: it narrows counts to 32 bits, multiplies within 64 bits and compares
nanoseconds. Here the same is said in plain arithmetic on the numbers of the configuration:
`Setting.IsSane` is what the check asks of each setting, `Setting.complaint` is what it has to say
otherwise. The product of a count and the period never overflows where the check gets as far as
the count, since the period has passed before it.
-/
namespace ActualState

open Time (Duration Ticker)

namespace Setting

/-- The settings in the order in which they are checked. -/
def order : List Setting :=
  [.heartbeatPeriod, .syncInterval, .heartbeatTtl, .actualFreshnessTtl, .storeUsageSample, .topics]

/-- The number that a setting is given as; the topics are no number. -/
def number? (c : ListenerConfig) : Setting → Option Nat
  | .heartbeatPeriod => some c.heartbeatPeriodSecs.toNat
  | .syncInterval => some c.syncIntervalMs.toNat
  | .heartbeatTtl => some c.heartbeatTtlInHeartbeats.toNat
  | .actualFreshnessTtl => some c.actualFreshnessTtlInHeartbeats.toNat
  | .storeUsageSample => some c.storeUsageSampleInHeartbeats.toNat
  | .topics => none

/-- Whether a setting is counted in heartbeat periods. -/
def isCount : Setting → Bool
  | .heartbeatTtl | .actualFreshnessTtl | .storeUsageSample => true
  | .heartbeatPeriod | .syncInterval | .topics => false

/-- Whether a count of heartbeat periods is at least one and comes to at most a year. -/
def IsSaneCount (c : ListenerConfig) (count : UInt64) : Prop :=
  1 ≤ count.toNat ∧ c.heartbeatPeriodSecs.toNat * count.toNat ≤ 31536000

instance (c : ListenerConfig) (count : UInt64) : Decidable (IsSaneCount c count) :=
  inferInstanceAs (Decidable (_ ∧ _))

/-- What the check asks of a setting. -/
def IsSane (c : ListenerConfig) : Setting → Prop
  | .heartbeatPeriod => 1 ≤ c.heartbeatPeriodSecs.toNat ∧ c.heartbeatPeriodSecs.toNat ≤ 31536000
  | .syncInterval => 1 ≤ c.syncIntervalMs.toNat ∧ c.syncIntervalMs.toNat ≤ 31536000000
  | .heartbeatTtl => IsSaneCount c c.heartbeatTtlInHeartbeats
  | .actualFreshnessTtl => IsSaneCount c c.actualFreshnessTtlInHeartbeats
  | .storeUsageSample => IsSaneCount c c.storeUsageSampleInHeartbeats
  | .topics => c.topics.heartbeat ≠ c.topics.advertise

instance (c : ListenerConfig) : DecidablePred (IsSane c)
  | .heartbeatPeriod | .syncInterval => inferInstanceAs (Decidable (_ ∧ _))
  | .heartbeatTtl | .actualFreshnessTtl | .storeUsageSample =>
    inferInstanceAs (Decidable (IsSaneCount c _))
  | .topics => inferInstanceAs (Decidable (_ ≠ _))

/-- What there is to say about a setting that is not sane. -/
def complaint (c : ListenerConfig) (s : Setting) : String :=
  match s.number? c with
  | none => "heartbeat and advertise topics must differ"
  | some n =>
    if n = 0 then "must be greater than zero"
    else if s.isCount ∧ 4294967296 ≤ n then "duration overflows"
    else "must not exceed one year"

/-- The first setting that is not sane. -/
def firstInsane? (c : ListenerConfig) : Option Setting := order.find? fun s => !decide (s.IsSane c)

theorem mem_order (s : Setting) : s ∈ order := by cases s <;> decide

theorem firstInsane?_eq_none_iff {c : ListenerConfig} :
    firstInsane? c = none ↔ ∀ s : Setting, s.IsSane c := by
  simp only [firstInsane?, List.find?_eq_none, Bool.not_eq_true', decide_eq_false_iff_not,
    Classical.not_not]
  exact ⟨fun h s => h s (mem_order s), fun h s _ => h s⟩

/-- The reason behind a complaint. -/
def reason (c : ListenerConfig) (s : Setting) : Reason :=
  match s.number? c with
  | none => .sameTopics
  | some n => if n = 0 then .zero else if s.isCount ∧ 4294967296 ≤ n then .overflows else .tooLong

theorem text_reason (c : ListenerConfig) (s : Setting) : (s.reason c).text = s.complaint c := by
  unfold reason complaint
  split
  · rfl
  · split_ifs <;> rfl

end Setting

theorem Reason.text_injective {r q : Reason} (h : r.text = q.text) : r = q := by
  revert h
  cases r <;> cases q <;> decide

namespace ListenerConfig

variable {c : ListenerConfig}

/-! ### The checks one by one -/

/-- What the check should say about one setting. -/
def verdict (c : ListenerConfig) (s : Setting) : Except Invalid Unit :=
  if s.IsSane c then .ok () else .error ⟨s, s.reason c⟩

/-- The check of a number of units of which `limit` are a year. -/
theorem checkDuration_units (s : Setting) {limit unit : Nat} (positive : 0 < unit)
    (year : maxDuration = limit * unit) (n : Nat) :
    checkDuration s (some (n * unit)) =
      if n = 0 then .error ⟨s, .zero⟩ else if limit < n then .error ⟨s, .tooLong⟩ else .ok () := by
  have zero : n * unit = 0 ↔ n = 0 := by
    rw [Nat.mul_eq_zero]
    omega
  have long : maxDuration < n * unit ↔ limit < n := by
    rw [year]
    exact Nat.mul_lt_mul_right positive
  simp only [checkDuration, zero, long]

theorem check_heartbeatPeriod (c : ListenerConfig) :
    checkDuration .heartbeatPeriod (some c.heartbeatPeriod) = c.verdict .heartbeatPeriod := by
  rw [heartbeatPeriod, checkDuration_units _ (by decide) (show _ = 31536000 * Time.second by decide)]
  simp only [verdict, Setting.IsSane, Setting.reason, Setting.number?, Setting.isCount,
    Bool.false_eq_true, false_and, if_false]
  split_ifs <;> first | rfl | omega

theorem check_syncInterval (c : ListenerConfig) :
    checkDuration .syncInterval (some c.syncInterval) = c.verdict .syncInterval := by
  rw [syncInterval,
    checkDuration_units _ (by decide) (show _ = 31536000000 * Time.millisecond by decide)]
  simp only [verdict, Setting.IsSane, Setting.reason, Setting.number?, Setting.isCount,
    Bool.false_eq_true, false_and, if_false]
  split_ifs <;> first | rfl | omega

/-- Where the period is sane, a count that fits 32 bits has its exact product. -/
theorem inHeartbeats_eq (sane : Setting.heartbeatPeriod.IsSane c) (count : UInt64) :
    c.inHeartbeats count =
      if 4294967296 ≤ count.toNat then none
      else some (c.heartbeatPeriodSecs.toNat * count.toNat * Time.second) := by
  unfold inHeartbeats
  by_cases large : 4294967296 ≤ count.toNat
  · rw [if_neg (fun fits => absurd fits.1 (Nat.not_lt.2 large)), if_pos large]
  · have product : c.heartbeatPeriodSecs.toNat * count.toNat ≤ 31536000 * 4294967296 :=
      Nat.mul_le_mul sane.2 (by omega)
    rw [if_pos ⟨by omega, by omega⟩, if_neg large]

/-- The check of a count, once the period has passed. -/
theorem check_count (sane : Setting.heartbeatPeriod.IsSane c) {s : Setting} {count : UInt64}
    (counted : s.isCount = true) (number : s.number? c = some count.toNat)
    (meaning : s.IsSane c ↔ Setting.IsSaneCount c count) :
    checkDuration s (c.inHeartbeats count) = c.verdict s := by
  have factor : c.heartbeatPeriodSecs.toNat * count.toNat = 0 ↔ count.toNat = 0 := by
    have positive := sane.1
    rw [Nat.mul_eq_zero]
    omega
  have grows : count.toNat ≤ c.heartbeatPeriodSecs.toNat * count.toNat :=
    Nat.le_mul_of_pos_left _ sane.1
  rw [inHeartbeats_eq sane]
  simp only [verdict, meaning, Setting.IsSaneCount, Setting.reason, number, counted, true_and]
  by_cases large : 4294967296 ≤ count.toNat
  · rw [if_pos large, if_neg (by omega), if_neg (by omega), if_pos large]
    rfl
  · rw [if_neg large, checkDuration_units _ (by decide) (show _ = 31536000 * Time.second by decide)]
    simp only [factor]
    split_ifs <;> first | rfl | omega

theorem check_topics (c : ListenerConfig) :
    (if c.topics.heartbeat = c.topics.advertise then .error ⟨.topics, .sameTopics⟩ else .ok ()) =
      c.verdict .topics := by
  by_cases same : c.topics.heartbeat = c.topics.advertise
  · have refused : ¬ Setting.topics.IsSane c := fun differ => differ same
    rw [if_pos same, verdict, if_neg refused]
    rfl
  · have sane : Setting.topics.IsSane c := same
    rw [if_neg same, verdict, if_pos sane]

/-- Verdicts on settings in turn: the first that is not sane decides. -/
theorem forM_verdict (c : ListenerConfig) (ss : List Setting) :
    ss.forM c.verdict =
      match ss.find? fun s => !decide (s.IsSane c) with
      | none => .ok ()
      | some s => .error ⟨s, s.reason c⟩ := by
  induction ss with
  | nil => rfl
  | cons s ss ih =>
    show (c.verdict s >>= fun _ => ss.forM c.verdict) = _
    by_cases sane : s.IsSane c
    · rw [verdict, if_pos sane, List.find?_cons_of_neg (by simpa using sane), ← ih]
      rfl
    · rw [verdict, if_neg sane, List.find?_cons_of_pos (by simpa using sane)]
      rfl

/-- The check is the verdicts on all settings in turn. -/
theorem validate_eq (c : ListenerConfig) : c.validate = Setting.order.forM c.verdict := by
  rw [validate, check_heartbeatPeriod, check_syncInterval, check_topics]
  by_cases sane : Setting.heartbeatPeriod.IsSane c
  · rw [check_count sane (s := .heartbeatTtl) rfl rfl Iff.rfl,
      check_count sane (s := .actualFreshnessTtl) rfl rfl Iff.rfl,
      check_count sane (s := .storeUsageSample) rfl rfl Iff.rfl]
    show _ = (c.verdict .heartbeatPeriod >>= fun _ => c.verdict .syncInterval >>= fun _ =>
      c.verdict .heartbeatTtl >>= fun _ => c.verdict .actualFreshnessTtl >>= fun _ =>
      c.verdict .storeUsageSample >>= fun _ => c.verdict .topics >>= fun _ => .ok ())
    cases c.verdict .topics <;> rfl
  · have stops : c.verdict .heartbeatPeriod = .error ⟨_, Setting.reason c .heartbeatPeriod⟩ :=
      if_neg sane
    show _ = (c.verdict .heartbeatPeriod >>= fun _ => _)
    rw [stops]
    rfl

theorem validate_eq_firstInsane (c : ListenerConfig) :
    c.validate =
      match Setting.firstInsane? c with
      | none => .ok ()
      | some s => .error ⟨s, s.reason c⟩ :=
  (validate_eq c).trans (forM_verdict c Setting.order)

theorem validate_eq_ok_iff : c.validate = .ok () ↔ ∀ s : Setting, s.IsSane c := by
  rw [validate_eq_firstInsane, ← Setting.firstInsane?_eq_none_iff]
  cases Setting.firstInsane? c <;> simp

theorem validate_eq_error_iff {i : Invalid} :
    c.validate = .error i ↔
      Setting.firstInsane? c = some i.setting ∧ i.reason.text = i.setting.complaint c := by
  rw [validate_eq_firstInsane]
  cases first : Setting.firstInsane? c with
  | none => simp
  | some s =>
    obtain ⟨t, r⟩ := i
    simp only [Except.error.injEq, Invalid.mk.injEq, Option.some.injEq, ← Setting.text_reason]
    constructor
    · rintro ⟨rfl, rfl⟩
      exact ⟨rfl, rfl⟩
    · rintro ⟨rfl, same⟩
      exact ⟨rfl, Reason.text_injective same.symm⟩

/-! ### What is loaded -/

theorem validate_default : validate {} = .ok () :=
  validate_eq_ok_iff.2 fun s => by cases s <;> decide

/-- What is let through has passed. The check is any check here: with the one at hand, the kernel
would multiply durations in unary to decide where the match goes. -/
theorem passed_of_ok (check : ListenerConfig → Except Invalid Unit)
    {read : Except Config.YamlProblem ListenerConfig}
    (loaded :
      (match read with
        | .error p => .error (.yaml p)
        | .ok c =>
          match check c with
          | .error i => .error (.invalid i)
          | .ok () => .ok c : Except Config.Refusal ListenerConfig) = .ok c) :
    check c = .ok () := by
  split at loaded
  · contradiction
  · split at loaded
    · contradiction
    · next passed =>
      obtain ⟨⟩ := loaded
      exact passed

theorem validate_of_ofYaml {text : String} (loaded : Config.ofYaml text = .ok c) :
    c.validate = .ok () := by
  rw [Config.ofYaml] at loaded
  exact passed_of_ok validate loaded

theorem validate_of_load {e : Entry} (loaded : Config.load e = .ok c) : c.validate = .ok () := by
  cases e with
  | absent =>
    obtain ⟨⟩ := loaded
    exact validate_default
  | directory => contradiction
  | file content =>
    simp only [Config.load] at loaded
    split at loaded
    · contradiction
    · exact validate_of_ofYaml loaded

/-! ### What is sane is exact -/

theorem cappedHeartbeats_eq (period : Setting.heartbeatPeriod.IsSane c) {count : UInt64}
    (sane : Setting.IsSaneCount c count) :
    c.cappedHeartbeats count = c.heartbeatPeriodSecs.toNat * count.toNat * Time.second := by
  rw [cappedHeartbeats_eq_min (.inl period.1)]
  exact Nat.min_eq_left (Nat.mul_le_mul_right Time.second sane.2)

/-- A ticker can be made with any period but zero. -/
theorem start?_of_pos (name : String) {period : Duration} (positive : 0 < period)
    (now : Duration) : Ticker.start? name period now = some ⟨name, period, now + period⟩ :=
  if_neg (Nat.pos_iff_ne_zero.1 positive)

/-- The check passes exactly the configurations whose settings are all sane, and otherwise names
the first one in order that is not, with the complaint about it. Whatever is loaded has passed the
check; and in what has passed it, durations are exact products and tickers have a period. -/
theorem only_sane_settings_pass (c : ListenerConfig) :
    (c.validate = .ok () ↔ ∀ s : Setting, s.IsSane c) ∧
      (∀ i : Invalid, c.validate = .error i ↔
        Setting.firstInsane? c = some i.setting ∧ i.reason.text = i.setting.complaint c) ∧
      (∀ text, Config.ofYaml text = .ok c → c.validate = .ok ()) ∧
      (∀ e, Config.load e = .ok c → c.validate = .ok ()) ∧
      (c.validate = .ok () →
        c.heartbeatTtl =
            c.heartbeatPeriodSecs.toNat * c.heartbeatTtlInHeartbeats.toNat * Time.second ∧
          c.actualFreshnessTtl =
            c.heartbeatPeriodSecs.toNat * c.actualFreshnessTtlInHeartbeats.toNat * Time.second ∧
          c.storeUsageSampleInterval =
            c.heartbeatPeriodSecs.toNat * c.storeUsageSampleInHeartbeats.toNat * Time.second ∧
          ∀ clock, ∃ t u, Ticker.start? flushTicker c.syncInterval clock = some t ∧ 0 < t.period ∧
            Ticker.start? usageTicker c.storeUsageSampleInterval clock = some u ∧ 0 < u.period) := by
  refine ⟨validate_eq_ok_iff, fun i => validate_eq_error_iff, fun _ => validate_of_ofYaml,
    fun _ => validate_of_load, fun passed => ?_⟩
  have sane := validate_eq_ok_iff.1 passed
  have period := sane .heartbeatPeriod
  have sample := cappedHeartbeats_eq period (sane .storeUsageSample)
  have flushes : 0 < c.syncInterval := Nat.mul_pos (sane .syncInterval).1 (by decide)
  have samples : 0 < c.storeUsageSampleInterval := by
    rw [storeUsageSampleInterval, sample]
    exact Nat.mul_pos (Nat.mul_pos period.1 (sane .storeUsageSample).1) (by decide)
  refine ⟨cappedHeartbeats_eq period (sane .heartbeatTtl),
    cappedHeartbeats_eq period (sane .actualFreshnessTtl), sample, fun clock => ?_⟩
  exact ⟨_, _, start?_of_pos _ flushes clock, flushes, start?_of_pos _ samples clock, samples⟩

/-- A count that would be zero if it were cut to 32 bits is the first setting that is not sane. -/
example : Setting.firstInsane? { actualFreshnessTtlInHeartbeats := 4294967296 } =
    some .actualFreshnessTtl := by decide

end ListenerConfig

end ActualState
