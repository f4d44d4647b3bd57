import ActualState.Proofs.Http.Access
import ActualState.Proofs.Register
import ActualState.Proofs.Text.Percent
import Mathlib.Data.List.TakeWhile

/-!
# What the views have in common

The list of DEAs, the single DEAs, the health document and the freshness are each worked out on
their own from the same listener and store. At one time they agree: the list has every DEA of the
actual state once, in the order of the bytes of their guids, and each DEA by itself looks as it
does in the list.
-/
namespace ActualState.Http

/-! ### Requests -/

theorem pathOf_eq {target : String} (h : ∀ c ∈ target.toList, c ≠ '?' ∧ c ≠ '#') :
    pathOf target = target := by
  have all : target.toList.takeWhile (fun c => c != '?' && c != '#') = target.toList := by
    refine List.takeWhile_eq_self_iff.2 fun c hc => ?_
    simpa using h c hc
  rw [pathOf, all, String.ofList_toList]

/-- What a request to read a resource is answered if it brings the key. -/
theorem handle_get {setting : Option (List UInt8)} {q : Request} {r : Route}
    (carried : Carries setting q.apiKeys) (method : q.method = "GET")
    (route : Route.ofPath? (pathOf q.target) = some r) (s : Snapshot) :
    handle (expectedKey setting) q s = read r s := by
  have admitted : isAuthorized (expectedKey setting) q.apiKeys = true :=
    (isAuthorized_iff setting q.apiKeys).2 carried
  have free : (read r s).allow = none := by
    cases r with
    | systemHealth =>
      simp only [read, systemHealth]
      split <;> rfl
    | dea segment =>
      simp only [read, dea]
      split
      · rfl
      · split <;> rfl
    | _ => rfl
  have same : { read r s with allow := none } = read r s := by rw [← free]
  simp [handle, admitted, route, respond, method, allowed, same]

/-- A segment of a path that stands for a guid. -/
structure Segment (segment guid : String) : Prop where
  plain : ∀ c ∈ segment.toList, c ≠ '/' ∧ c ≠ '?' ∧ c ≠ '#'
  decoded : Text.Percent.decode (Text.Utf8.ofString segment) = Text.Utf8.ofString guid

theorem segment_encodeText (guid : String) : Segment (Text.Percent.encodeText guid) guid where
  plain _ hc := Text.Percent.of_mem_encodeText hc
  decoded := by rw [Text.Percent.ofString_encodeText, Text.Percent.decode_encode]

namespace Segment

variable {segment guid : String}

theorem of_all (plain : segment.toList.all (fun c => c ≠ '/' ∧ c ≠ '?' ∧ c ≠ '#') = true)
    (decoded : Text.Percent.decode (Text.Utf8.ofString segment) = Text.Utf8.ofString guid) :
    Segment segment guid where
  plain c hc := of_decide_eq_true (List.all_eq_true.1 plain c hc)
  decoded := decoded

theorem decodeSegment? (h : Segment segment guid) : decodeSegment? segment = some guid := by
  rw [Http.decodeSegment?, h.decoded, Text.Utf8.toString?_ofString]

theorem ne_nil (h : Segment segment guid) (named : guid ≠ "") : segment.toList ≠ [] := by
  intro empty
  have decoded := h.decoded
  rw [Text.Utf8.ofString, empty, Text.Utf8.encode_nil] at decoded
  have blank : guid.isEmpty = true := (ofString_eq_nil_iff guid).1 decoded.symm
  exact named (String.isEmpty_iff.1 blank)

/-- The path of a segment is for the DEA that it stands for. -/
theorem ofPath? (h : Segment segment guid) (named : guid ≠ "") :
    Route.ofPath? (pathOf ("/deas/" ++ segment)) = some (.dea segment) := by
  have path : pathOf ("/deas/" ++ segment) = "/deas/" ++ segment := by
    refine pathOf_eq fun c hc => ?_
    rw [String.toList_append, List.mem_append] at hc
    rcases hc with hc | hc
    · have all : "/deas/".toList.all (fun c => c ≠ '?' ∧ c ≠ '#') = true := by decide
      exact of_decide_eq_true (List.all_eq_true.1 all c hc)
    · exact (h.plain c hc).2
  have rest : ("/deas/" ++ segment).toList = "/deas/".toList ++ segment.toList :=
    String.toList_append
  have single : segment.toList.contains '/' = false := by
    rw [Bool.eq_false_iff]
    intro slash
    exact (h.plain '/' (by simpa using slash)).1 rfl
  have filled : segment.toList.isEmpty = false := by simpa using h.ne_nil named
  have found : deaSegment? ("/deas/" ++ segment) = some segment := by
    simp only [deaSegment?, rest, List.drop_left, single, filled]
    simp
  have other (p : String) (hp : ¬ "/deas/".toList <+: p.toList) : "/deas/" ++ segment ≠ p := by
    rintro rfl
    exact hp ⟨segment.toList, rest.symm⟩
  rw [path, Route.ofPath?, if_neg (other _ (by decide)), if_neg (other _ (by decide)),
    if_neg (other _ (by decide)), if_neg (other _ (by decide)), if_neg (other _ (by decide)), found,
    Option.map_some]

end Segment

/-! ### The state -/

/-- The entries of a register stand in the order of the bytes of their names. -/
theorem pairwise_bytes {α : Type} (r : Register α) :
    r.entries.Pairwise fun a b => Text.Utf8.ofString a.1 < Text.Utf8.ofString b.1 :=
  r.sorted.imp Text.Utf8.ofString_lt_ofString

/-- A DEA that is alive was updated less than the TTL ago, as far as it was in the past. -/
theorem ageSeconds_le {file : FileStore} {now : Time.Moment} {e : String × DeaRecord}
    (listed : e ∈ (file.actualState now).entries) :
    ageSeconds e.2 now * Time.second ≤ file.heartbeatTtl := by
  have alive : e.2.isAlive file.heartbeatTtl now = true := (List.mem_filter.1 listed).2
  have recent : now.since e.2.updatedAt < file.heartbeatTtl := of_decide_eq_true alive
  have whole : ageSeconds e.2 now * Time.second ≤ (now.since e.2.updatedAt).toNat :=
    Nat.div_mul_le_self _ _
  omega

/-- The list of DEAs is what anyone finds who goes through the state in whatever order and then
sorts by guid. -/
theorem read_deas_of_perm (s : Snapshot) {listing : List (String × DeaRecord)}
    (complete : listing.Perm (s.backend.actualState s.now).entries) :
    read .deas s =
      jsonResponse (.list (fun e => deaView e.1 e.2 s.now)
        (listing.mergeSort fun a b => a.1 ≤ b.1)) := by
  rw [Register.mergeSort_of_perm complete]
  rfl

/-- The answer for one DEA is its entry of the state, if it has one. -/
theorem read_dea {segment guid : String} (h : Segment segment guid) (s : Snapshot) :
    read (.dea segment) s =
      (((s.backend.actualState s.now).get? guid).map fun r =>
        jsonResponse (deaView guid r s.now)).getD { status := 404 } := by
  simp only [read, dea, h.decodeSegment?]
  cases (s.backend.actualState s.now).get? guid <;> rfl

theorem get_toJson {h : ListenerHealth} {v : Json.Value} (text : h.toJson = .ok v) :
    v.get "deas_tracked" = .nat h.deasTracked ∧ v.get "actual_state_fresh" = .boolean h.fresh := by
  simp only [ListenerHealth.toJson] at text
  cases last : h.lastHeartbeat with
  | none =>
    rw [last] at text
    cases text
    exact ⟨rfl, rfl⟩
  | some m =>
    simp only [last] at text
    cases format : m.format with
    | error f =>
      rw [format] at text
      cases text
    | ok t =>
      rw [format] at text
      cases text
      exact ⟨rfl, rfl⟩

/-- All views of one state, asked for at one time with the key, agree. -/
theorem views_agree {setting : Option (List UInt8)} {keys : List (List UInt8)}
    (carried : Carries setting keys) (s : Snapshot) :
    let get (target : String) : Response := handle (expectedKey setting) ⟨"GET", target, keys⟩ s
    let state := s.backend.actualState s.now
    let list := state.entries
    let fresh := s.backend.isFresh s.now
    (get "/deas" = jsonResponse (.array (list.map fun e => deaView e.1 e.2 s.now)) ∧
      (list.Pairwise fun a b => Text.Utf8.ofString a.1 < Text.Utf8.ofString b.1) ∧
      ∀ guid r, (guid, r) ∈ list ↔ state.get? guid = some r) ∧
    (∀ guid, guid ≠ "" → ∀ segment, Segment segment guid →
      (∀ r, (guid, r) ∈ list →
        get ("/deas/" ++ segment) = jsonResponse (deaView guid r s.now)) ∧
      ((∀ r, (guid, r) ∉ list) → (get ("/deas/" ++ segment)).status = 404)) ∧
    (∀ guid, Segment (Text.Percent.encodeText guid) guid) ∧
    (s.health.deasTracked = list.length ∧ s.health.fresh = fresh ∧
      ∀ v, s.health.toJson = .ok v → get "/system/health" = jsonResponse v ∧
        v.get "deas_tracked" = .nat list.length ∧ v.get "actual_state_fresh" = .boolean fresh) ∧
    (∃ v, get "/actual/freshness" = jsonResponse v ∧ v.get "fresh" = .boolean fresh) ∧
    ∀ e ∈ list,
      (deaView e.1 e.2 s.now).get "age_seconds" = .nat (ageSeconds e.2 s.now) ∧
      ∀ file disk, s.backend = .file file disk →
        ageSeconds e.2 s.now * Time.second ≤ file.heartbeatTtl := by
  intro get state list fresh
  have listed (guid : String) (r : DeaRecord) : (guid, r) ∈ list ↔ state.get? guid = some r :=
    Register.get?_eq_some_iff.symm
  have answer (target : String) (r : Route) (route : Route.ofPath? (pathOf target) = some r) :
      get target = read r s :=
    handle_get (q := ⟨"GET", target, keys⟩) carried rfl route s
  refine ⟨⟨answer "/deas" .deas (by decide), pairwise_bytes state, listed⟩,
    fun guid named segment h => ⟨fun r hr => ?_, fun absent => ?_⟩, segment_encodeText,
    ⟨rfl, rfl, fun v text => ⟨?_, get_toJson text⟩⟩,
    ⟨_, answer "/actual/freshness" .freshness (by decide), rfl⟩,
    fun e he => ⟨rfl, fun file disk kept => ?_⟩⟩
  · have found : state.get? guid = some r := (listed guid r).1 hr
    rw [answer _ _ (h.ofPath? named), read_dea h, found, Option.map_some, Option.getD_some]
  · have unknown : state.get? guid = none :=
      Option.eq_none_iff_forall_ne_some.2 fun r hr => absent r ((listed guid r).2 hr)
    rw [answer _ _ (h.ofPath? named), read_dea h, unknown, Option.map_none, Option.getD_none]
  · rw [answer "/system/health" .systemHealth (by decide), read, systemHealth, text]
  · have entry : e ∈ (file.actualState s.now).entries := by
      simpa [list, state, kept, Backend.actualState] using he
    exact ageSeconds_le entry

/-- A store whose clock was set back knows one DEA, by a guid with a slash in it. -/
theorem views_agree_clock_set_back :
    let key : List UInt8 := [0x6B]
    let record : DeaRecord := ⟨[], ⟨100, 0⟩⟩
    let s : Snapshot :=
      ⟨⟨40, 0⟩, 0, {}, .file ⟨10, 5, ⟨.insert .empty "é/" record, none⟩, {}⟩ {}, {}, {}⟩
    let get (target : String) : Response := handle (expectedKey (some key)) ⟨"GET", target, [key]⟩ s
    Carries (some key) [key] ∧ Segment "%c3%A9%2f" "é/" ∧
      get "/deas/%c3%A9%2f" = jsonResponse (deaView "é/" record ⟨40, 0⟩) ∧
      Segment "x" "x" ∧ (get "/deas/x").status = 404 ∧
      s.health.deasTracked = 1 ∧ ageSeconds record ⟨40, 0⟩ * Time.second ≤ 10 := by
  intro key record s get
  have carried : Carries (some key) [key] := (isAuthorized_iff (some key) [key]).1 (by decide)
  have encoded : Segment "%c3%A9%2f" "é/" := .of_all (by decide) (by decide)
  have plain : Segment "x" "x" := .of_all (by decide) (by decide)
  obtain ⟨-, single, -, ⟨tracked, -, -⟩, -, ages⟩ := views_agree carried s
  have listed : ("é/", record) ∈ (s.backend.actualState s.now).entries := by decide
  have absent (r : DeaRecord) : ("x", r) ∉ (s.backend.actualState s.now).entries := by
    simp [s, Backend.actualState, FileStore.actualState, Document.alive, Document.prune,
      Register.filter, Register.insert, Register.insertEntry, Register.empty]
  exact ⟨carried, encoded, (single "é/" (by decide) _ encoded).1 record listed, plain,
    (single "x" (by decide) _ plain).2 absent, tracked, (ages _ listed).2 _ _ rfl⟩

end ActualState.Http
