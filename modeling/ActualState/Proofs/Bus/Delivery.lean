import ActualState.Proofs.Bus.Resubscription
import ActualState.Register

/-!
# What a subscription receives

The table of routes is an index of the subscriptions: each topic leads to its open subscriptions,
and to some closed ones that the next message on it removes. Seen from a subscription the index
does not matter: a message is given to the open subscriptions of its topic and to no other. So a
subscription has received the messages on its topic from the time it was made to the time it was
closed, whatever became of the others.
-/
namespace ActualState.Bus

namespace Subscription

/-- Whether a message on a topic goes to a subscription. -/
def takes (s : Subscription) (topic : String) : Bool := s.isOpen && s.topic = topic

/-- The subscription after a message was routed. -/
def given (topic : String) (payload : List UInt8) (s : Subscription) : Subscription :=
  if s.takes topic then { s with received := s.received ++ [payload] } else s

/-- The subscription after it was given up. -/
def closed (s : Subscription) : Subscription := { s with isOpen := false }

theorem takes_iff {s : Subscription} {topic : String} :
    s.takes topic = true ↔ s.isOpen = true ∧ s.topic = topic := by
  simp [takes]

@[simp] theorem topic_given (topic : String) (payload : List UInt8) (s : Subscription) :
    (s.given topic payload).topic = s.topic := by
  unfold given
  split <;> rfl

@[simp] theorem isOpen_given (topic : String) (payload : List UInt8) (s : Subscription) :
    (s.given topic payload).isOpen = s.isOpen := by
  unfold given
  split <;> rfl

end Subscription

namespace Routing

/-- The numbers that a topic leads to. -/
def route (r : Routing) (topic : String) : List Nat := (r.routes.lookup topic).getD []

theorem lookup_addRoute (topic : String) (number : Nat) (routes : List (String × List Nat))
    (t : String) :
    ((addRoute topic number routes).lookup t).getD [] =
      (routes.lookup t).getD [] ++ if t = topic then [number] else [] := by
  induction routes with
  | nil => by_cases same : t = topic <;> simp [addRoute, Register.lookup_cons_eq, same]
  | cons entry rest ih =>
    obtain ⟨u, ns⟩ := entry
    by_cases first : u = topic
    · subst first
      by_cases same : t = u <;> simp [addRoute, Register.lookup_cons_eq, same]
    · rw [addRoute, if_neg first, Register.lookup_cons_eq, Register.lookup_cons_eq]
      by_cases here : t = u
      · subst here
        simp [first]
      · rw [if_neg here, if_neg here, ih]

theorem route_subscribe (r : Routing) (topic t : String) :
    (r.subscribe topic).route t =
      r.route t ++ if t = topic then [r.subscriptions.length] else [] :=
  lookup_addRoute topic r.subscriptions.length r.routes t

@[simp] theorem route_close (r : Routing) (number : Nat) (t : String) :
    (r.close number).route t = r.route t := rfl

theorem lookup_replaced (topic : String) (kept : List Nat) (routes : List (String × List Nat))
    (t : String) :
    (routes.map fun (u, ns) => if u = topic then (u, kept) else (u, ns)).lookup t =
      (routes.lookup t).map fun ns => if t = topic then kept else ns := by
  induction routes with
  | nil => rfl
  | cons entry rest ih =>
    obtain ⟨u, ns⟩ := entry
    have head : (if u = topic then (u, kept) else (u, ns)) =
        (u, if u = topic then kept else ns) := by split <;> rfl
    simp only [List.map_cons, head, Register.lookup_cons_eq, ih]
    by_cases here : t = u
    · subst here
      simp
    · rw [if_neg here, if_neg here]

/-- A message removes the closed subscriptions from its own route. -/
theorem route_dispatch (r : Routing) (topic : String) (payload : List UInt8) (t : String) :
    (r.dispatch topic payload).1.route t =
      if t = topic then (r.route t).filter r.isOpen else r.route t := by
  unfold dispatch
  split
  · next unknown =>
    split
    · next same => simp [route, same, unknown]
    · rfl
  · next numbers known =>
    simp only [route, lookup_replaced]
    split
    · next same => simp [same, known]
    · cases r.routes.lookup t <;> rfl

/-- The subscriptions of a route each get the message. -/
theorem subscriptions_dispatch_eq (r : Routing) (topic : String) (payload : List UInt8) :
    (r.dispatch topic payload).1.subscriptions =
      ((r.route topic).filter r.isOpen).foldl (receive payload) r.subscriptions := by
  unfold dispatch route
  cases r.routes.lookup topic <;> rfl

theorem dispatch_snd (r : Routing) (topic : String) (payload : List UInt8) :
    (r.dispatch topic payload).2 = !((r.route topic).filter r.isOpen).isEmpty := by
  unfold dispatch route
  cases r.routes.lookup topic <;> rfl

/-- Numbers that are all different get the message once each. -/
theorem getElem?_foldl_receive {numbers : List Nat} (distinct : numbers.Nodup)
    (payload : List UInt8) (ss : List Subscription) (n : Nat) :
    (numbers.foldl (receive payload) ss)[n]? =
      if n ∈ numbers then
        ss[n]?.map fun s => { s with received := s.received ++ [payload] }
      else ss[n]? := by
  induction numbers generalizing ss with
  | nil => simp
  | cons m numbers ih =>
    obtain ⟨new, distinct⟩ := List.nodup_cons.1 distinct
    rw [List.foldl_cons, ih distinct, receive, List.getElem?_modify]
    by_cases first : m = n
    · subst first
      simp [new]
    · simp [first, Ne.symm first]

/-- Routes that are an index of the subscriptions. -/
structure IsIndex (r : Routing) : Prop where
  distinct : ∀ t, (r.route t).Nodup
  sound : ∀ t, ∀ n ∈ r.route t, ∃ s, r.subscriptions[n]? = some s ∧ s.topic = t
  complete : ∀ n s, r.subscriptions[n]? = some s → s.isOpen = true → n ∈ r.route s.topic

theorem isIndex_empty : IsIndex {} :=
  ⟨fun _ => List.nodup_nil, fun _ _ mem => absurd mem List.not_mem_nil, by simp⟩

/-- The open subscriptions that a topic leads to are those that take its messages. -/
theorem IsIndex.mem_filter_isOpen {r : Routing} (h : r.IsIndex) {topic : String} {n : Nat} :
    n ∈ (r.route topic).filter r.isOpen ↔
      ∃ s, r.subscriptions[n]? = some s ∧ s.takes topic = true := by
  rw [List.mem_filter]
  constructor
  · rintro ⟨mem, opened⟩
    obtain ⟨s, found, same⟩ := h.sound topic n mem
    refine ⟨s, found, Subscription.takes_iff.2 ⟨?_, same⟩⟩
    simpa [isOpen, found] using opened
  · rintro ⟨s, found, takes⟩
    obtain ⟨opened, rfl⟩ := Subscription.takes_iff.1 takes
    exact ⟨h.complete n s found opened, by simp [isOpen, found, opened]⟩

/-- A message is given to the subscriptions that take it, and the others stay as they are. -/
theorem IsIndex.subscriptions_dispatch {r : Routing} (h : r.IsIndex) (topic : String)
    (payload : List UInt8) :
    (r.dispatch topic payload).1.subscriptions =
      r.subscriptions.map (Subscription.given topic payload) := by
  have distinct := (h.distinct topic).filter r.isOpen
  apply List.ext_getElem?
  intro n
  rw [subscriptions_dispatch_eq, getElem?_foldl_receive distinct, List.getElem?_map]
  cases found : r.subscriptions[n]? with
  | none => simp
  | some s =>
    have takes : n ∈ (r.route topic).filter r.isOpen ↔ s.takes topic = true := by
      simp [h.mem_filter_isOpen, found]
    simp only [takes, Option.map_some, Subscription.given]
    split <;> rfl

theorem IsIndex.subscribe {r : Routing} (h : r.IsIndex) (topic : String) :
    (r.subscribe topic).IsIndex := by
  have old {n : Nat} {s : Subscription} (found : r.subscriptions[n]? = some s) :
      n < r.subscriptions.length := (List.getElem?_eq_some_iff.1 found).1
  have inside {n : Nat} {s : Subscription} (found : r.subscriptions[n]? = some s) :
      (r.subscribe topic).subscriptions[n]? = some s := by
    rw [Routing.subscribe, List.getElem?_append_left (old found), found]
  constructor
  · intro t
    rw [route_subscribe]
    refine List.Nodup.append (h.distinct t) (by split <;> simp) ?_
    split
    · refine List.disjoint_singleton.2 fun mem => ?_
      obtain ⟨s, found, -⟩ := h.sound t _ mem
      exact Nat.lt_irrefl _ (old found)
    · exact List.disjoint_nil_right _
  · intro t n mem
    rw [route_subscribe, List.mem_append] at mem
    rcases mem with known | new
    · obtain ⟨s, found, same⟩ := h.sound t n known
      exact ⟨s, inside found, same⟩
    · split at new
      · next same =>
        rw [List.mem_singleton.1 new]
        exact ⟨{ topic }, by simp [Routing.subscribe], same.symm⟩
      · contradiction
  · intro n s found opened
    rw [route_subscribe, List.mem_append]
    rw [Routing.subscribe, List.getElem?_append] at found
    split at found
    · exact .inl (h.complete n s found opened)
    · next past =>
      obtain ⟨here, rfl⟩ := List.getElem?_eq_some_iff.1 found
      have last : n = r.subscriptions.length := by
        simp only [List.length_singleton] at here
        omega
      exact .inr (by simp [last])

theorem IsIndex.close {r : Routing} (h : r.IsIndex) (number : Nat) : (r.close number).IsIndex := by
  have found? (n : Nat) : (r.close number).subscriptions[n]? =
      (r.subscriptions[n]?).map fun s => if number = n then s.closed else s := by
    simp only [Routing.close, List.getElem?_modify]
    rfl
  refine ⟨h.distinct, ?_, ?_⟩
  · intro t n mem
    obtain ⟨s, found, same⟩ := h.sound t n mem
    rw [found?, found]
    refine ⟨_, rfl, ?_⟩
    split <;> exact same
  · intro n s found opened
    rw [found?] at found
    obtain ⟨s', before, rfl⟩ := Option.map_eq_some_iff.1 found
    split at opened
    · contradiction
    · next other =>
      rw [if_neg other]
      exact h.complete n s' before opened

theorem IsIndex.dispatch {r : Routing} (h : r.IsIndex) (topic : String) (payload : List UInt8) :
    (r.dispatch topic payload).1.IsIndex := by
  have found? (n : Nat) : (r.dispatch topic payload).1.subscriptions[n]? =
      (r.subscriptions[n]?).map (Subscription.given topic payload) := by
    rw [h.subscriptions_dispatch, List.getElem?_map]
  constructor
  · intro t
    rw [route_dispatch]
    split
    · exact (h.distinct t).filter _
    · exact h.distinct t
  · intro t n mem
    have known : n ∈ r.route t := by
      rw [route_dispatch] at mem
      split at mem
      · exact List.mem_of_mem_filter mem
      · exact mem
    obtain ⟨s, found, same⟩ := h.sound t n known
    exact ⟨_, by rw [found?, found, Option.map_some], by rw [Subscription.topic_given, same]⟩
  · intro n s found opened
    rw [found?] at found
    obtain ⟨s', before, rfl⟩ := Option.map_eq_some_iff.1 found
    rw [Subscription.isOpen_given] at opened
    have known := h.complete n s' before opened
    rw [Subscription.topic_given, route_dispatch]
    split
    · exact List.mem_filter.2 ⟨known, by simp [isOpen, before, opened]⟩
    · exact known

end Routing

/-! ### Runs -/

/-- What a step does to the subscriptions. -/
def Step.onSubscriptions (s : Step) (ss : List Subscription) : List Subscription :=
  match s with
  | .subscribe topic => ss ++ [{ topic }]
  | .close number => ss.modify number Subscription.closed
  | .incoming topic payload => ss.map (Subscription.given topic payload)
  | .publish _ _ | .accepted _ | .lost | .send => ss

/-- What a step does to the subscription with a number. -/
def Step.onOne (n : Nat) (s : Subscription) (step : Step) : Subscription :=
  match step with
  | .close m => if m = n then s.closed else s
  | .incoming topic payload => s.given topic payload
  | .subscribe _ | .publish _ _ | .accepted _ | .lost | .send => s

theorem getElem?_onSubscriptions {ss : List Subscription} {n : Nat} {s : Subscription}
    (h : ss[n]? = some s) (step : Step) :
    (step.onSubscriptions ss)[n]? = some (step.onOne n s) := by
  cases step with
  | subscribe topic =>
    have lt := (List.getElem?_eq_some_iff.1 h).1
    simp [Step.onSubscriptions, Step.onOne, List.getElem?_append_left lt, h]
  | close m =>
    rw [Step.onSubscriptions, List.getElem?_modify, h, Step.onOne]
    rfl
  | incoming topic payload => simp [Step.onSubscriptions, Step.onOne, h]
  | publish _ _ | accepted _ | lost | send => exact h

/-- What a run does to the subscription with a number. -/
theorem getElem?_foldl_onSubscriptions {ss : List Subscription} {n : Nat} {s : Subscription}
    (h : ss[n]? = some s) (steps : List Step) :
    (steps.foldl (fun ss s => s.onSubscriptions ss) ss)[n]? =
      some (steps.foldl (Step.onOne n) s) := by
  induction steps generalizing ss s with
  | nil => exact h
  | cons step steps ih => exact ih (getElem?_onSubscriptions h step)

/-- The topics of the subscriptions that a run makes, in order. -/
def subscribed (steps : List Step) : List String :=
  steps.filterMap fun
    | .subscribe topic => some topic
    | _ => none

/-- The messages on a topic that come in, in order. -/
def messagesOn (topic : String) (steps : List Step) : List (List UInt8) :=
  steps.filterMap fun
    | .incoming t payload => if t = topic then some payload else none
    | _ => none

/-- The part of a run until a subscription is closed. -/
def untilClosed (n : Nat) (steps : List Step) : List Step := steps.takeWhile (· ≠ .close n)

/-- A closed subscription stays as it is. -/
theorem foldl_onOne_of_closed {s : Subscription} (h : s.isOpen = false) (n : Nat)
    (steps : List Step) : steps.foldl (Step.onOne n) s = s := by
  induction steps with
  | nil => rfl
  | cons step steps ih =>
    have same : step.onOne n s = s := by
      obtain ⟨topic, isOpen, received⟩ := s
      subst h
      cases step with
      | close m => simp [Step.onOne, Subscription.closed]
      | incoming t payload => simp [Step.onOne, Subscription.given, Subscription.takes]
      | subscribe _ | publish _ _ | accepted _ | lost | send => rfl
    rw [List.foldl_cons, same, ih]

theorem messagesOn_cons (topic : String) (step : Step) (steps : List Step) :
    messagesOn topic (step :: steps) = messagesOn topic [step] ++ messagesOn topic steps := by
  unfold messagesOn
  rw [← List.filterMap_append, List.singleton_append]

/-- A step that does not close an open subscription leaves all but its messages alone. -/
theorem onOne_of_open {s : Subscription} (h : s.isOpen = true) {n : Nat} {step : Step}
    (other : step ≠ .close n) :
    step.onOne n s = { s with received := s.received ++ messagesOn s.topic [step] } := by
  cases step with
  | close m =>
    have differ : m ≠ n := fun same => other (same ▸ rfl)
    simp [Step.onOne, differ, messagesOn]
  | incoming topic payload =>
    by_cases same : s.topic = topic
    · simp [Step.onOne, Subscription.given, Subscription.takes, h, messagesOn, same]
    · simp [Step.onOne, Subscription.given, Subscription.takes, messagesOn, same, Ne.symm same]
  | subscribe _ | publish _ _ | accepted _ | lost | send => simp [Step.onOne, messagesOn]

/-- An open subscription receives the messages on its topic until it is closed. -/
theorem foldl_onOne_of_open {s : Subscription} (h : s.isOpen = true) (n : Nat)
    (steps : List Step) :
    steps.foldl (Step.onOne n) s =
      ⟨s.topic, decide (.close n ∉ steps),
        s.received ++ messagesOn s.topic (untilClosed n steps)⟩ := by
  induction steps generalizing s with
  | nil =>
    obtain ⟨topic, isOpen, received⟩ := s
    subst h
    simp [messagesOn, untilClosed]
  | cons step steps ih =>
    rw [List.foldl_cons]
    by_cases closes : step = .close n
    · subst closes
      rw [Step.onOne, if_pos rfl, foldl_onOne_of_closed rfl]
      simp [Subscription.closed, messagesOn, untilClosed]
    · have rest : untilClosed n (step :: steps) = step :: untilClosed n steps :=
        List.takeWhile_cons_of_pos (by simpa using closes)
      rw [onOne_of_open h closes, ih (by exact h), rest,
        messagesOn_cons s.topic step (untilClosed n steps)]
      simp [Ne.symm closes]

/-- Runs that differ for one subscription only do so for that one. -/
theorem foldl_onSubscriptions_of_ne {ss ts : List Subscription} {n : Nat}
    (length : ss.length = ts.length) (same : ∀ k, k ≠ n → ss[k]? = ts[k]?) (steps : List Step)
    {k : Nat} (other : k ≠ n) :
    (steps.foldl (fun ss s => s.onSubscriptions ss) ss)[k]? =
      (steps.foldl (fun ss s => s.onSubscriptions ss) ts)[k]? := by
  induction steps generalizing ss ts with
  | nil => exact same k other
  | cons step steps ih =>
    refine ih ?_ fun m hm => ?_
    · cases step with
      | subscribe _ | close _ | incoming _ _ => simp [Step.onSubscriptions, length]
      | publish _ _ | accepted _ | lost | send => exact length
    · cases step with
      | subscribe topic =>
        simp only [Step.onSubscriptions, List.getElem?_append, length]
        split
        · exact same m hm
        · rfl
      | close _ => simp only [Step.onSubscriptions, List.getElem?_modify, same m hm]
      | incoming _ _ => simp only [Step.onSubscriptions, List.getElem?_map, same m hm]
      | publish _ _ | accepted _ | lost | send => exact same m hm

namespace Connection

theorem subscriptions_step {c : Connection} (h : c.routing.IsIndex) (s : Step) :
    (c.step s).routing.subscriptions = s.onSubscriptions c.routing.subscriptions ∧
      (c.step s).routing.IsIndex := by
  cases s with
  | subscribe topic =>
    simp only [step, subscribe, routing_request]
    exact ⟨rfl, h.subscribe topic⟩
  | publish topic payload =>
    simp only [step, publish?]
    split
    · exact ⟨rfl, h⟩
    · simp only [Option.getD_some, routing_request]
      exact ⟨rfl, h⟩
  | close number => exact ⟨rfl, h.close number⟩
  | accepted order =>
    rw [routing_step_accepted]
    exact ⟨rfl, h⟩
  | lost => exact ⟨rfl, h⟩
  | incoming topic payload =>
    exact ⟨h.subscriptions_dispatch topic payload, h.dispatch topic payload⟩
  | send =>
    simp only [step, routing_send]
    exact ⟨rfl, h⟩

/-- A run does to the subscriptions what its steps do, one after the other. -/
theorem subscriptions_after {c : Connection} (h : c.routing.IsIndex) (steps : List Step) :
    (c.after steps).routing.subscriptions =
        steps.foldl (fun ss s => s.onSubscriptions ss) c.routing.subscriptions ∧
      (c.after steps).routing.IsIndex := by
  induction steps generalizing c with
  | nil => exact ⟨rfl, h⟩
  | cons s steps ih =>
    obtain ⟨same, index⟩ := subscriptions_step h s
    obtain ⟨rest, last⟩ := ih index
    rw [after_cons, List.foldl_cons, ← same]
    exact ⟨rest, last⟩

theorem subscriptions_run (steps : List Step) :
    (after {} steps).routing.subscriptions =
        steps.foldl (fun ss s => s.onSubscriptions ss) [] ∧
      (after {} steps).routing.IsIndex :=
  subscriptions_after (c := {}) Routing.isIndex_empty steps

/-- The subscriptions of a run are those that it makes. -/
theorem length_subscriptions_after (steps : List Step) :
    (after {} steps).routing.subscriptions.length = (subscribed steps).length := by
  have grows (steps : List Step) (ss : List Subscription) :
      (steps.foldl (fun ss s => s.onSubscriptions ss) ss).length =
        ss.length + (subscribed steps).length := by
    induction steps generalizing ss with
    | nil => rfl
    | cons step steps ih =>
      rw [List.foldl_cons, ih]
      cases step with
      | subscribe topic =>
        simp only [Step.onSubscriptions, subscribed, List.length_append, List.filterMap_cons,
          List.length_cons, List.length_nil]
        omega
      | close _ | incoming _ _ => simp [Step.onSubscriptions, subscribed]
      | publish _ _ | accepted _ | lost | send => rfl
  rw [(subscriptions_run steps).1, grows]
  exact Nat.zero_add _

/-- The topics of a run are never forgotten. -/
theorem topics_prefix_after (c : Connection) (steps : List Step) :
    c.routing.topics <+: (c.after steps).routing.topics := by
  induction steps generalizing c with
  | nil => exact List.prefix_rfl
  | cons s steps ih =>
    refine List.IsPrefix.trans ?_ (ih (c.step s))
    rw [topics_step]
    cases s with
    | subscribe topic =>
      simp only [Routing.topics_subscribe]
      split
      · exact List.prefix_rfl
      · exact List.prefix_append _ _
    | publish _ _ | close _ | accepted _ | lost | incoming _ _ | send => exact List.prefix_rfl

/-- What became of a subscription: it is open unless it was closed, and it has received the
messages on its topic until then. -/
theorem subscription_after (before later : List Step) (topic : String) :
    let n := (subscribed before).length
    (after {} (before ++ .subscribe topic :: later)).routing.subscriptions[n]? =
      some ⟨topic, decide (.close n ∉ later), messagesOn topic (untilClosed n later)⟩ := by
  intro n
  have whole := (subscriptions_run (before ++ .subscribe topic :: later)).1
  have start := (subscriptions_run before).1
  have number : (after {} before).routing.subscriptions.length = n :=
    length_subscriptions_after before
  rw [start] at number
  have made : (Step.onSubscriptions (.subscribe topic)
      (before.foldl (fun ss s => s.onSubscriptions ss) []))[n]? = some { topic } := by
    rw [← number]
    exact List.getElem?_concat_length
  rw [whole, List.foldl_append, List.foldl_cons, getElem?_foldl_onSubscriptions made,
    foldl_onOne_of_open rfl]
  rfl

/-- Every subscription has received exactly the messages on its topic between the time it was made
and the time it was closed, once each and in order. A message counts as delivered exactly if an
open subscription to its topic has received it. Closing a subscription changes none of the others,
and the topics that are requested after a reconnect only grow. -/
theorem messages_reach_their_topic (steps : List Step) :
    let c := after {} steps
    (∀ before topic later, steps = before ++ .subscribe topic :: later →
      let n := (subscribed before).length
      c.routing.subscriptions[n]? =
        some ⟨topic, decide (.close n ∉ later), messagesOn topic (untilClosed n later)⟩) ∧
    c.routing.subscriptions.length = (subscribed steps).length ∧
    (∀ topic payload, (c.routing.dispatch topic payload).2 = true ↔
      ∃ (n : Nat) (s : Subscription), c.routing.subscriptions[n]? = some s ∧
        s.isOpen = true ∧ s.topic = topic ∧
        (c.routing.dispatch topic payload).1.subscriptions[n]? =
          some { s with received := s.received ++ [payload] }) ∧
    (∀ before n later, steps = before ++ .close n :: later → ∀ k ≠ n,
      c.routing.subscriptions[k]? = (after {} (before ++ later)).routing.subscriptions[k]?) ∧
    ∀ more, c.routing.topics <+: (after {} (steps ++ more)).routing.topics := by
  intro c
  obtain ⟨run, index⟩ := subscriptions_run steps
  refine ⟨?_, length_subscriptions_after steps, ?_, ?_, ?_⟩
  · intro before topic later parts
    subst parts
    exact subscription_after before later topic
  · intro topic payload
    have reported : (c.routing.dispatch topic payload).2 = true ↔
        ∃ n, n ∈ (c.routing.route topic).filter c.routing.isOpen := by
      simp [Routing.dispatch_snd, List.eq_nil_iff_forall_not_mem]
    rw [reported]
    refine exists_congr fun n => index.mem_filter_isOpen.trans (exists_congr fun s => ?_)
    rw [index.subscriptions_dispatch, List.getElem?_map]
    constructor
    · rintro ⟨found, takes⟩
      obtain ⟨opened, same⟩ := Subscription.takes_iff.1 takes
      exact ⟨found, opened, same, by rw [found, Option.map_some, Subscription.given, if_pos takes]⟩
    · rintro ⟨found, opened, same, -⟩
      exact ⟨found, Subscription.takes_iff.2 ⟨opened, same⟩⟩
  · intro before n later parts k other
    have without := (subscriptions_run (before ++ later)).1
    rw [run, without, parts, List.foldl_append, List.foldl_append, List.foldl_cons]
    refine foldl_onSubscriptions_of_ne (by simp [Step.onSubscriptions]) (fun m hm => ?_) later other
    simp [Step.onSubscriptions, Ne.symm hm]
  · intro more
    rw [show after {} (steps ++ more) = c.after more from List.foldl_append]
    exact topics_prefix_after c more

/-- Of two subscriptions to one topic the first is closed between two messages: it keeps the first
message, and the other receives both, without the one on another topic. -/
theorem messages_reach_their_topic_closed_neighbour :
    let steps : List Step := [.subscribe "a", .subscribe "b", .subscribe "a", .incoming "a" [1],
      .close 0, .incoming "b" [2], .incoming "a" [3]]
    let c := after {} steps
    c.routing.subscriptions[0]? = some ⟨"a", false, [[1]]⟩ ∧
      c.routing.subscriptions[2]? = some ⟨"a", true, [[1], [3]]⟩ ∧
      (c.routing.dispatch "b" [4]).2 = true ∧ (c.routing.dispatch "c" [5]).2 = false := by
  intro steps c
  obtain ⟨each, -, delivered, -⟩ := messages_reach_their_topic steps
  have first := each [] "a" _ rfl
  have last := each [.subscribe "a", .subscribe "b"] "a" _ rfl
  refine ⟨first.trans (by decide +kernel), last.trans (by decide +kernel), ?_, ?_⟩
  · exact (delivered "b" [4]).2 ⟨1, ⟨"b", true, [[2]]⟩, by decide +kernel⟩
  · decide +kernel

end Connection

end ActualState.Bus
