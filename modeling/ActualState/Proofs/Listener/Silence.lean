import ActualState.Proofs.Listener.Conservation
import ActualState.Health

/-!
# Silence

A listener has one field for the time of the last heartbeat and no other sign that one came in:
before the first it holds the epoch. So the epoch stands for silence. What the listener tells and
does is the same whether nothing came in or the last heartbeat came in at the epoch itself, and
while nothing came in an advertisement waits until the freshness TTL has passed since the epoch.
At every other reading of the clock the field is the reading taken with the last heartbeat.
-/
namespace ActualState

open Time (Moment Duration)

namespace Listener

/-- The reading of the wall clock taken with the last heartbeat that came in, if one did. -/
def lastReading? (is : List Input) : Option Moment := (accepted is).getLast?.map Prod.snd

@[simp] theorem lastReading?_concat (is : List Input) (i : Input) :
    lastReading? (is ++ [i]) = (i.accepted?.map Prod.snd).or (lastReading? is) := by
  rw [lastReading?, accepted_concat]
  cases i.accepted? with
  | none => simp [lastReading?]
  | some a => simp

theorem lastReading?_eq_none_iff (is : List Input) : lastReading? is = none ↔ accepted is = [] := by
  simp [lastReading?]

variable {l k : Listener} {i : Input} {es : List Effect}

/-- Only a heartbeat that is accepted is a sign of life. -/
theorem Move.lastLiveness (m : Move l i k es) :
    k.aggregation.lastLiveness = (i.accepted?.map Prod.snd).getD l.aggregation.lastLiveness := by
  cases m with
  | accepted decoded => simp [Input.accepted?, decoded, Aggregation.record, Except.toOption]
  | dropped refused => simp [Input.accepted?, refused, Except.toOption]
  | idle => simp [Input.accepted?, drained, Aggregation.drain]
  | tooLate => simp [Input.accepted?, Aggregation.recordSaved]
  | bumped => simp [Input.accepted?, Aggregation.recordSaved]
  | revoked => simp [Input.accepted?]
  | _ => rfl

/-- After every run the listener knows the last reading, or the epoch if there was none. -/
theorem lastLiveness_after (c : ListenerConfig) (is : List Input) :
    ((fresh c).after is).aggregation.lastLiveness = (lastReading? is).getD .epoch := by
  have known : ((fresh c).after is).aggregation.lastLiveness =
      (lastReading? ((fresh c).trace is).inputs).getD .epoch := by
    refine run_induction
      (P := fun l t => l.aggregation.lastLiveness = (lastReading? t.inputs).getD .epoch) rfl ?_ is
    intro k t i k' es h m
    rw [m.lastLiveness, h, Trace.inputs_concat, lastReading?_concat]
    cases i.accepted? with
    | none => rfl
    | some a => rfl
  rwa [inputs_trace] at known

/-- The date of the last heartbeat in a health document, whatever else is in it. -/
theorem lastHeartbeat_gather {a : Aggregation} {heard : Option Moment}
    (known : a.lastLiveness = heard.getD .epoch) (uptime : Nat) (tracker : HealthTracker)
    (certified : Bool) (deas : Nat) :
    (ListenerHealth.gather uptime tracker a certified deas).lastHeartbeat =
      heard.filter fun m => m.instant ≠ Moment.epoch.instant := by
  cases heard with
  | none => simp [ListenerHealth.gather, known]
  | some m =>
    by_cases h : m.instant = Moment.epoch.instant
    · simp [ListenerHealth.gather, known, Option.filter, h]
    · simp [ListenerHealth.gather, known, Option.filter, h]

/-- After every run, the date of the last heartbeat in a health document is the reading taken with
the last heartbeat that came in, unless that reading is the instant of the epoch; and while none
came in, an advertisement renews the certificate exactly when the wall clock is at least the
freshness TTL past the epoch. -/
theorem epoch_stands_for_silence (c : ListenerConfig) (is : List Input) :
    (∀ uptime tracker certified deas m,
      (ListenerHealth.gather uptime tracker ((fresh c).after is).aggregation certified
          deas).lastHeartbeat = some m ↔
        (∃ h, (accepted is).getLast? = some (h, m)) ∧ m.instant ≠ Moment.epoch.instant) ∧
    (accepted is = [] → ∀ now stamp,
      ((fresh c).after is).handleAdvertise now stamp =
        if c.actualFreshnessTtl ≤ now.since .epoch then [.call (.bump stamp)] else []) := by
  constructor
  · intro uptime tracker certified deas m
    rw [lastHeartbeat_gather (lastLiveness_after c is), Option.filter_eq_some_iff]
    simp [lastReading?]
  · intro none_ now stamp
    have silent : lastReading? is = none := (lastReading?_eq_none_iff is).2 none_
    have config : ((fresh c).after is).config = c := config_after _ is
    simp [handleAdvertise, isSilent, lastLiveness_after, silent, config]

/-- A clock that is not set: a message that is refused is no sign of life, whatever the clock
reads, and a heartbeat from before the epoch is one. -/
theorem epoch_stands_for_silence_clock_not_set :
    let refused : List Input := [.heartbeat [0x7B] ⟨5, 0⟩]
    let early : List Input := [.heartbeat (Text.Utf8.ofString "\x7b\"dea\":\"a\"\x7d") ⟨-1, 0⟩]
    let ttl := 30 * Time.second
    accepted refused = [] ∧
      ((fresh {}).after refused).handleAdvertise ⟨ttl - 1, 0⟩ .epoch = [] ∧
      ((fresh {}).after refused).handleAdvertise ⟨ttl, 0⟩ .epoch = [.call (.bump .epoch)] ∧
      (ListenerHealth.gather 0 {} ((fresh {}).after early).aggregation false 0).lastHeartbeat =
        some ⟨-1, 0⟩ := by
  intro refused early ttl
  have nothing : accepted refused = [] := by decide +kernel
  have last : (accepted early).getLast? = some (⟨"a", []⟩, ⟨-1, 0⟩) := by decide +kernel
  obtain ⟨-, advertised⟩ := epoch_stands_for_silence {} refused
  obtain ⟨told, -⟩ := epoch_stands_for_silence {} early
  refine ⟨nothing, ?_, ?_, ?_⟩
  · rw [advertised nothing]
    exact if_neg (by decide +kernel)
  · rw [advertised nothing]
    exact if_pos (by decide +kernel)
  · exact (told 0 {} false 0 ⟨-1, 0⟩).2 ⟨⟨_, last⟩, by decide⟩

/-- A heartbeat that comes in at the epoch is not told, and at the epoch a listener that has heard
nothing does not renew the certificate. -/
theorem heartbeat_at_epoch_is_not_told :
    let is : List Input := [.heartbeat (Text.Utf8.ofString "\x7b\"dea\":\"a\"\x7d") .epoch]
    (accepted is).getLast? = some (⟨"a", []⟩, .epoch) ∧
      (ListenerHealth.gather 0 {} ((fresh {}).after is).aggregation false 0).lastHeartbeat = none ∧
      accepted [] = [] ∧ ((fresh {}).after []).handleAdvertise .epoch .epoch = [] := by
  decide +kernel

end Listener

end ActualState
