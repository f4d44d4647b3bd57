import ActualState.Http.Router
import ActualState.Proofs.Text.Utf8

/-!
# Who may read what

Two tests decide what a request is told. Whether a path needs the key is read off its first
characters; which resource it is for is read off the whole of it. They agree where it matters: of
the paths that need no key only `/health` and `/metrics` are for a resource at all, and the answer
of `/health` is the same in every state.
-/
namespace ActualState.Http

/-! ### The key -/

/-- The first of the keys of a request is the one in the environment, not empty and of visible ASCII
characters, spaces and tabs. -/
def Carries (setting : Option (List UInt8)) (keys : List (List UInt8)) : Prop :=
  ∃ key rest, setting = some key ∧ keys = key :: rest ∧ key ≠ [] ∧
    ∀ b ∈ key, b.toNat = 0x09 ∨ (0x20 ≤ b.toNat ∧ b.toNat < 0x7F)

theorem isVisible_iff (value : List UInt8) :
    isVisible value = true ↔ ∀ b ∈ value, b.toNat = 0x09 ∨ (0x20 ≤ b.toNat ∧ b.toNat < 0x7F) := by
  have tab (b : UInt8) : b = 0x09 ↔ b.toNat = 0x09 := UInt8.toNat_inj.symm
  simp [isVisible, tab, UInt8.le_iff_toNat_le, UInt8.lt_iff_toNat_lt, or_comm]

/-- A visible value is a text. -/
theorem isText_of_isVisible {value : List UInt8} (h : isVisible value = true) :
    Text.Utf8.IsText value := by
  refine Text.Utf8.isText_of_ascii fun b hb => ?_
  have range := (isVisible_iff value).1 h b hb
  omega

theorem ofString_eq_nil_iff (s : String) : Text.Utf8.ofString s = [] ↔ s.isEmpty = true := by
  constructor
  · intro h
    have back := Text.Utf8.toString?_ofString s
    rw [h] at back
    have empty : "" = s := Option.some.inj back
    rw [← empty]
    rfl
  · intro h
    rw [String.isEmpty_iff.1 h]
    rfl

/-- The test of the key is passed by the requests that carry it. -/
theorem isAuthorized_iff (setting : Option (List UInt8)) (keys : List (List UInt8)) :
    isAuthorized (expectedKey setting) keys = true ↔ Carries setting keys := by
  constructor
  · intro h
    unfold isAuthorized at h
    split at h
    · next e key rest expected =>
      obtain ⟨bytes, set, text⟩ := Option.bind_eq_some_iff.1 expected
      have same : bytes = Text.Utf8.ofString e := Text.Utf8.toString?_eq_some_iff.1 text
      simp only [Bool.and_eq_true, Bool.not_eq_true', beq_iff_eq] at h
      obtain ⟨⟨filled, visible⟩, matching⟩ := h
      have nonempty : key ≠ [] := by
        rw [matching]
        intro empty
        rw [(ofString_eq_nil_iff e).1 empty] at filled
        exact Bool.noConfusion filled
      exact ⟨key, rest, by rw [set, same, matching], rfl, nonempty, (isVisible_iff key).1 visible⟩
    · exact Bool.noConfusion h
  · rintro ⟨key, rest, set, rfl, nonempty, visible⟩
    have shown : isVisible key = true := (isVisible_iff key).2 visible
    obtain ⟨e, rfl⟩ := isText_of_isVisible shown
    have expected : expectedKey setting = some e := by
      rw [expectedKey, set, Option.bind_some, Text.Utf8.toString?_ofString]
    have filled : e.isEmpty = false :=
      Bool.eq_false_iff.2 fun empty => nonempty ((ofString_eq_nil_iff e).2 empty)
    simp [isAuthorized, expected, filled, shown]

/-! ### The paths that need no key -/

theorem beginsWith_iff (path start : String) :
    beginsWith path start = true ↔ start.toList <+: path.toList := List.isPrefixOf_iff_prefix

theorem isOpen_iff (path : String) :
    isOpen path = true ↔ "/health".toList <+: path.toList ∨ "/metrics".toList <+: path.toList := by
  rw [isOpen, Bool.or_eq_true, beginsWith_iff, beginsWith_iff]

/-- A path to a single DEA begins with `/deas/`. -/
theorem prefix_of_deaSegment? {path segment : String} (h : deaSegment? path = some segment) :
    "/deas/".toList <+: path.toList := by
  simp only [deaSegment?] at h
  split at h
  · next found =>
    simp only [Bool.and_eq_true] at found
    exact List.isPrefixOf_iff_prefix.1 found.1.1
  · exact nomatch h

/-- A path to a single DEA needs the key. -/
theorem deaSegment?_of_isOpen {path : String} (h : isOpen path = true) :
    deaSegment? path = none := by
  cases found : deaSegment? path with
  | none => rfl
  | some segment =>
    obtain ⟨rest, deas⟩ := prefix_of_deaSegment? found
    -- the second character is `d`, and neither `h` nor `m`
    rcases (isOpen_iff path).1 h with ⟨tail, other⟩ | ⟨tail, other⟩
    · rw [← deas] at other
      simp at other
    · rw [← deas] at other
      simp at other

/-- A path that needs no key is `/health`, or `/metrics`, or for nothing. -/
theorem ofPath?_of_isOpen {path : String} (h : isOpen path = true) (other : path ≠ "/metrics") :
    Route.ofPath? path = some .health ∨ Route.ofPath? path = none := by
  unfold Route.ofPath?
  by_cases health : path = "/health"
  · exact .inl (if_pos health)
  · have system : path ≠ "/system/health" := by
      rintro rfl
      exact absurd h (by decide)
    have freshness : path ≠ "/actual/freshness" := by
      rintro rfl
      exact absurd h (by decide)
    have deas : path ≠ "/deas" := by
      rintro rfl
      exact absurd h (by decide)
    right
    simp [health, other, system, freshness, deas, deaSegment?_of_isOpen h]

/-! ### What is answered -/

/-- Reading a resource is never refused for want of a key. -/
theorem status_read_ne (r : Route) (s : Snapshot) : (read r s).status ≠ 401 := by
  cases r with
  | health => simp [read, textResponse]
  | metrics => simp [read, textResponse]
  | systemHealth =>
    simp only [read, systemHealth]
    split <;> simp [jsonResponse, textResponse]
  | freshness => simp [read, freshness, jsonResponse]
  | deas => simp [read, deas, jsonResponse]
  | dea segment =>
    simp only [read, dea]
    split
    · simp [textResponse]
    · split <;> simp [jsonResponse]

theorem status_respond_ne (method : String) (route : Option Route) (s : Snapshot) :
    (respond method route s).status ≠ 401 := by
  cases route with
  | none => simp [respond]
  | some r =>
    simp only [respond]
    split
    · exact status_read_ne r s
    · split
      · exact status_read_ne r s
      · simp

/-- What needs no key and is not `/metrics` is answered alike in all states. -/
theorem respond_of_isOpen {path : String} (h : isOpen path = true) (other : path ≠ "/metrics")
    (method : String) (s t : Snapshot) :
    respond method (Route.ofPath? path) s = respond method (Route.ofPath? path) t := by
  rcases ofPath?_of_isOpen h other with route | route
  · rw [route]
    rfl
  · rw [route]
    rfl

/-- A request without the key is told nothing about the state, except at `/metrics`, and it is
turned away unless its path begins with `/health` or `/metrics`; a request with the key is never
turned away for want of one. -/
theorem key_guards_state (setting : Option (List UInt8)) (q : Request) (s t : Snapshot) :
    (¬ Carries setting q.apiKeys → pathOf q.target ≠ "/metrics" →
      handle (expectedKey setting) q s = handle (expectedKey setting) q t) ∧
    (¬ Carries setting q.apiKeys → ¬ "/health".toList <+: (pathOf q.target).toList →
      ¬ "/metrics".toList <+: (pathOf q.target).toList →
      (handle (expectedKey setting) q s).status = 401) ∧
    (Carries setting q.apiKeys → (handle (expectedKey setting) q s).status ≠ 401) := by
  refine ⟨fun without other => ?_, fun without health metrics => ?_, fun carried => ?_⟩
  · have denied : isAuthorized (expectedKey setting) q.apiKeys = false :=
      Bool.eq_false_iff.2 (mt (isAuthorized_iff setting q.apiKeys).1 without)
    cases needless : isOpen (pathOf q.target) with
    | false => simp [handle, denied, needless]
    | true => simp [handle, needless, respond_of_isOpen needless other q.method s t]
  · have denied : isAuthorized (expectedKey setting) q.apiKeys = false :=
      Bool.eq_false_iff.2 (mt (isAuthorized_iff setting q.apiKeys).1 without)
    have needed : isOpen (pathOf q.target) = false :=
      Bool.eq_false_iff.2 (mt (isOpen_iff _).1 (not_or.2 ⟨health, metrics⟩))
    simp [handle, denied, needed]
  · have admitted : isAuthorized (expectedKey setting) q.apiKeys = true :=
      (isAuthorized_iff setting q.apiKeys).2 carried
    simpa [handle, admitted] using status_respond_ne q.method (Route.ofPath? (pathOf q.target)) s

/-- Where the key is `k`, a list of DEAs and a path that goes on after `/health` are asked for
without it, and the list once more with it. -/
theorem key_guards_state_list :
    let key : Option (List UInt8) := some [0x6B]
    let early : Snapshot := { (default : Snapshot) with now := ⟨0, 0⟩ }
    let late : Snapshot := { (default : Snapshot) with now := ⟨1, 0⟩ }
    let wrong : Request := ⟨"GET", "/deas", [[0x4B], [0x6B]]⟩
    let longer : Request := ⟨"GET", "/healthz?/metrics", []⟩
    let right : Request := ⟨"GET", "/deas", [[0x6B]]⟩
    ¬ Carries key wrong.apiKeys ∧ (handle (expectedKey key) wrong early).status = 401 ∧
      ¬ Carries key longer.apiKeys ∧
      handle (expectedKey key) longer early = handle (expectedKey key) longer late ∧
      Carries key right.apiKeys ∧ (handle (expectedKey key) right late).status ≠ 401 := by
  intro key early late wrong longer right
  have withoutWrong : ¬ Carries key wrong.apiKeys :=
    mt (isAuthorized_iff key wrong.apiKeys).2 (by decide)
  have withoutLonger : ¬ Carries key longer.apiKeys :=
    mt (isAuthorized_iff key longer.apiKeys).2 (by decide)
  have withRight : Carries key right.apiKeys := (isAuthorized_iff key right.apiKeys).1 (by decide)
  exact ⟨withoutWrong,
    (key_guards_state key wrong early late).2.1 withoutWrong (by decide) (by decide),
    withoutLonger, (key_guards_state key longer early late).1 withoutLonger (by decide),
    withRight, (key_guards_state key right late early).2.2 withRight⟩

end ActualState.Http
