import ActualState.Bus.Connection
import Mathlib.Data.List.Nodup

/-!
# Subscriptions after a reconnect

When the broker accepts a connection, every topic that was ever subscribed is requested once more.
Nobody waits for these requests, and they share their queue with everything that gathered while
there was no connection: those that find it full are lost until the next reconnect. In whatever
order the topics are gone through, what is queued is therefore an initial part of them, and it is
all of them exactly if the others are waiting in the queue already.
-/
namespace ActualState.Bus

namespace Routing

/-- A topic that is new is the last one. -/
theorem map_fst_addRoute (topic : String) (number : Nat) (routes : List (String × List Nat)) :
    (addRoute topic number routes).map Prod.fst =
      if topic ∈ routes.map Prod.fst then routes.map Prod.fst
      else routes.map Prod.fst ++ [topic] := by
  induction routes with
  | nil => rfl
  | cons route rest ih =>
    obtain ⟨t, ns⟩ := route
    by_cases same : t = topic
    · subst same
      simp [addRoute]
    · rw [addRoute, if_neg same, List.map_cons, List.map_cons, ih]
      by_cases known : topic ∈ rest.map Prod.fst
      · rw [if_pos known, if_pos (List.mem_cons_of_mem t known)]
      · have other : topic ∉ t :: rest.map Prod.fst := by
          simp only [List.mem_cons, not_or]
          exact ⟨Ne.symm same, known⟩
        rw [if_neg known, if_neg other, List.cons_append]

theorem topics_subscribe (r : Routing) (topic : String) :
    (r.subscribe topic).topics =
      if topic ∈ r.topics then r.topics else r.topics ++ [topic] :=
  map_fst_addRoute topic r.subscriptions.length r.routes

@[simp] theorem topics_close (r : Routing) (number : Nat) : (r.close number).topics = r.topics := rfl

/-- A topic keeps its place in the table when its closed subscriptions leave it. -/
@[simp] theorem topics_dispatch (r : Routing) (topic : String) (payload : List UInt8) :
    (r.dispatch topic payload).1.topics = r.topics := by
  unfold dispatch
  split
  · rfl
  · next numbers _ =>
    simp only [topics, List.map_map]
    refine List.map_congr_left fun route _ => ?_
    simp only [Function.comp]
    split <;> rfl

end Routing

namespace Connection

/-- The connection after steps in order. -/
def after (c : Connection) (steps : List Step) : Connection := steps.foldl step c

@[simp] theorem after_nil (c : Connection) : c.after [] = c := rfl

@[simp] theorem after_cons (c : Connection) (s : Step) (steps : List Step) :
    c.after (s :: steps) = (c.step s).after steps := rfl

@[simp] theorem routing_request (c : Connection) (r : Request) :
    (c.request r).routing = c.routing := by
  unfold request
  split <;> rfl

@[simp] theorem routing_tryRequest (c : Connection) (r : Request) :
    (c.tryRequest r).routing = c.routing := by
  unfold tryRequest
  split <;> rfl

@[simp] theorem routing_requestAll (c : Connection) (topics : List String) :
    (c.requestAll topics).routing = c.routing := by
  induction topics generalizing c with
  | nil => rfl
  | cons topic topics ih => exact (ih _).trans (routing_tryRequest c _)

@[simp] theorem health_requestAll (c : Connection) (topics : List String) :
    (c.requestAll topics).health = c.health := by
  induction topics generalizing c with
  | nil => rfl
  | cons topic topics ih =>
    have rest := ih (c.tryRequest (.subscribe topic))
    refine rest.trans ?_
    unfold tryRequest
    split <;> rfl

@[simp] theorem isUp_accepted (c : Connection) (order : List String) :
    (c.accepted order).isUp = true := by
  simp [isUp, accepted, HealthTracker.connected]

@[simp] theorem routing_send (c : Connection) : c.send.routing = c.routing := by
  unfold send
  split
  · split <;> rfl
  · rfl

/-- That the broker accepts the connection changes nothing about the subscriptions. -/
theorem routing_step_accepted (c : Connection) (order : List String) :
    (c.step (.accepted order)).routing = c.routing := by
  simp only [step]
  split
  · exact routing_requestAll _ order
  · rfl

/-- Only a subscription changes which topics are known. -/
theorem topics_step (c : Connection) (s : Step) :
    (c.step s).routing.topics =
      match s with
      | .subscribe topic => (c.routing.subscribe topic).topics
      | _ => c.routing.topics := by
  cases s with
  | subscribe topic => simp [step, subscribe]
  | publish topic payload =>
    simp only [step, publish?]
    split <;> simp
  | close number => rfl
  | accepted order => exact congrArg _ (routing_step_accepted c order)
  | lost => rfl
  | incoming topic payload => simp [step]
  | send => simp [step]

theorem nodup_topics_step {c : Connection} (h : c.routing.topics.Nodup) (s : Step) :
    (c.step s).routing.topics.Nodup := by
  rw [topics_step]
  cases s with
  | subscribe topic =>
    simp only [Routing.topics_subscribe]
    split
    · exact h
    · next new =>
      exact List.Nodup.append h (List.nodup_singleton _) (List.disjoint_singleton.2 new)
  | publish _ _ | close _ | accepted _ | lost | incoming _ _ | send => exact h

theorem mem_topics_step {c : Connection} {s : Step} {topic : String} :
    topic ∈ (c.step s).routing.topics ↔ topic ∈ c.routing.topics ∨ s = .subscribe topic := by
  rw [topics_step]
  cases s with
  | subscribe t =>
    simp only [Routing.topics_subscribe, Step.subscribe.injEq]
    split
    · next known =>
      refine ⟨.inl, ?_⟩
      rintro (h | rfl)
      · exact h
      · exact known
    · simp [eq_comm]
  | publish _ _ | close _ | accepted _ | lost | incoming _ _ | send => simp

theorem nodup_topics_after {c : Connection} (h : c.routing.topics.Nodup) (steps : List Step) :
    (c.after steps).routing.topics.Nodup := by
  induction steps generalizing c with
  | nil => exact h
  | cons s steps ih => exact ih (nodup_topics_step h s)

/-- The topics that a run knows in the end are those it knew and those it subscribed to. -/
theorem mem_topics_after {c : Connection} {steps : List Step} {topic : String} :
    topic ∈ (c.after steps).routing.topics ↔
      topic ∈ c.routing.topics ∨ .subscribe topic ∈ steps := by
  induction steps generalizing c with
  | nil => simp
  | cons s steps ih => simp [ih, mem_topics_step, or_assoc, eq_comm]

/-! ### What a full queue takes -/

/-- How many requests the queue still takes. -/
def room (c : Connection) : Nat := capacity - c.queue.length

theorem queue_requestAll (c : Connection) (topics : List String) :
    (c.requestAll topics).queue = c.queue ++ (topics.take c.room).map .subscribe := by
  induction topics generalizing c with
  | nil => simp [requestAll]
  | cons topic topics ih =>
    have rest := ih (c.tryRequest (.subscribe topic))
    show (requestAll _ topics).queue = _
    rw [rest]
    unfold tryRequest room
    split
    · next free =>
      have left : capacity - c.queue.length = capacity - (c.queue.length + 1) + 1 := by omega
      simp only [List.length_append, List.length_singleton, left, List.take_succ_cons,
        List.map_cons, List.append_assoc, List.singleton_append]
    · next full => simp [Nat.sub_eq_zero_of_le (Nat.not_lt.1 full)]

theorem step_accepted {c : Connection} {order : List String}
    (listing : order.Perm c.routing.topics) : c.step (.accepted order) = c.accepted order :=
  if_pos (List.isPerm_iff.2 listing)

theorem queue_accepted (c : Connection) (order : List String) :
    (c.accepted order).queue = c.queue ++ (order.take c.room).map .subscribe :=
  queue_requestAll { c with health := c.health.connected } order

/-- A topic is requested if it comes early enough, or if a request for it has been waiting. -/
theorem mem_queue_accepted {c : Connection} {order : List String} {topic : String} :
    .subscribe topic ∈ (c.accepted order).queue ↔
      .subscribe topic ∈ c.queue ∨ topic ∈ order.take c.room := by
  rw [queue_accepted, List.mem_append, List.mem_map]
  simp only [Request.subscribe.injEq, exists_eq_right]

/-- Messages that nobody sends take up the room that there is. -/
theorem after_publishes {c : Connection} {topic : String} (plain : isPattern topic = false)
    (payload : List UInt8) (n : Nat) (h : c.queue.length + n ≤ capacity) :
    c.after (List.replicate n (.publish topic payload)) =
      { c with queue := c.queue ++ List.replicate n (.publish topic payload) } := by
  induction n generalizing c with
  | zero => simp
  | succ n ih =>
    have free : c.queue.length < capacity := by omega
    have one : c.step (.publish topic payload) =
        { c with queue := c.queue ++ [.publish topic payload] } := by
      simp [step, publish?, plain, request, free]
    have less : (c.queue ++ [Request.publish topic payload]).length + n ≤ capacity := by
      simp only [List.length_append, List.length_singleton]
      omega
    rw [List.replicate_succ, after_cons, one, ih less, List.replicate_succ, List.append_assoc]
    rfl

/-- When the broker accepts a connection, the topics that were ever subscribed are requested in
some order as long as the queue has room. All of them are requested exactly if those that find no
room have a request in the queue from before. -/
theorem requested_after_accepted (steps : List Step) :
    let c := after {} steps
    c.routing.topics.Nodup ∧ (∀ topic, topic ∈ c.routing.topics ↔ .subscribe topic ∈ steps) ∧
      ∀ order, order.Perm c.routing.topics →
        let d := c.step (.accepted order)
        d.isUp = true ∧ d.queue = c.queue ++ (order.take c.room).map .subscribe ∧
          ((∀ topic, Step.subscribe topic ∈ steps → .subscribe topic ∈ d.queue) ↔
            ∀ topic ∈ order.drop c.room, .subscribe topic ∈ c.queue) := by
  intro c
  have known (topic : String) : topic ∈ c.routing.topics ↔ .subscribe topic ∈ steps := by
    rw [mem_topics_after]
    exact or_iff_right List.not_mem_nil
  have once : c.routing.topics.Nodup := by
    apply nodup_topics_after
    exact List.nodup_nil
  refine ⟨once, known, fun order listing => ?_⟩
  intro d
  have accepted : d = c.accepted order := step_accepted listing
  have parts : order.take c.room ++ order.drop c.room = order := List.take_append_drop _ _
  rw [accepted]
  refine ⟨isUp_accepted c order, queue_accepted c order, ?_⟩
  constructor
  · intro all topic late
    have subscribed := (known topic).1 (listing.mem_iff.1 (List.mem_of_mem_drop late))
    obtain waiting | early := mem_queue_accepted.1 (all topic subscribed)
    · exact waiting
    · have distinct : (order.take c.room ++ order.drop c.room).Nodup :=
        parts.symm ▸ listing.nodup_iff.2 once
      exact absurd rfl ((List.nodup_append.1 distinct).2.2 topic early topic late)
  · intro rest topic subscribed
    have mem := listing.mem_iff.2 ((known topic).2 subscribed)
    rw [← parts, List.mem_append] at mem
    obtain early | late := mem
    · exact mem_queue_accepted.2 (.inr early)
    · exact mem_queue_accepted.2 (.inl (rest topic late))

/-- One subscription, and an outage in which other calls fill the queue: the subscription stays
open, nobody waits, and when the broker is back it is not requested again. -/
theorem not_requested_after_outage :
    let steps : List Step :=
      [.accepted [], .subscribe "t", .send, .lost] ++ List.replicate 64 (.publish "p" [])
    let c := after {} steps
    let d := c.step (.accepted ["t"])
    .subscribe "t" ∈ steps ∧ c.routing.isOpen 0 = true ∧ c.waiting = [] ∧
      d.isUp = true ∧ .subscribe "t" ∉ d.queue := by
  have plain : isPattern "p" = false := by simp [isPattern]
  have outage := after_publishes (c := after {} [.accepted [], .subscribe "t", .send, .lost])
    plain [] 64 (by decide +kernel)
  intro steps c d
  have run : c = _ := List.foldl_append.trans outage
  simp only [d, run]
  decide +kernel

end Connection

end ActualState.Bus
