import ActualState.Heartbeat
import ActualState.Proofs.Json.Records

/-!
# Heartbeats in any spelling

A heartbeat is read from every text that writes it as nested objects: the fields of an object stand
in any order among any members under other names, texts and keys are spelled in any way, a timestamp
is any numeral of its value, and the list of instances may be left out where there are none. No text
is read in which an object gives a field twice, or leaves out one that it has to give.
-/
namespace ActualState

open Json (Literal Node Numeral map_eq_ok bind_eq_ok)

/-! ### Instances -/

namespace InstanceHeartbeat

/-- The names of the fields of an instance. -/
def names : List String :=
  ["cc_partition", "droplet", "version", "instance", "index", "state", "state_timestamp"]

/-- The trees that write an instance. -/
inductive WrittenAs (i : InstanceHeartbeat) : Node → Prop
  | object {n : Node} {partition app version guid state : Literal} {timestamp : Numeral}
      (gives : n.Gives names [
        ("cc_partition", .string partition),
        ("droplet", .string app),
        ("version", .string version),
        ("instance", .string guid),
        ("index", .number ⟨false, Decimal.digits i.instanceIndex, none, none⟩),
        ("state", .string state),
        ("state_timestamp", .number timestamp)])
      (partition_means : partition.Means i.ccPartition) (app_means : app.Means i.appGuid)
      (version_means : version.Means i.appVersion) (guid_means : guid.Means i.instanceGuid)
      (state_means : state.Means i.state.name)
      (value : timestamp.value?.map Json.Number.toDouble = some i.stateTimestamp) :
      WrittenAs i n

theorem distinct_fields : (fields.map (·.name)).Nodup := by decide

theorem independent_fields : Json.AreIndependent fields := by
  intro f hf g hg other m n s t u first second
  simp only [fields, List.mem_cons, List.not_mem_nil, or_false] at hf hg
  rcases hf with rfl | rfl | rfl | rfl | rfl | rfl | rfl <;>
    rcases hg with rfl | rfl | rfl | rfl | rfl | rfl | rfl <;>
      first
      | exact absurd rfl other
      | obtain ⟨a, read_, rfl⟩ := map_eq_ok.1 first
        obtain ⟨b, read_', rfl⟩ := map_eq_ok.1 second
        exact ⟨_, map_eq_ok.2 ⟨b, read_', rfl⟩, map_eq_ok.2 ⟨a, read_, rfl⟩⟩

/-- An instance is read from every tree that writes it. -/
theorem read_of_writtenAs {i : InstanceHeartbeat} (small : i.instanceIndex < 4294967296)
    {n : Node} (whole : n.IsWhole) (written : i.WrittenAs n) : reader n = .ok i := by
  obtain @⟨partition, app, version, guid, state, timestamp, gives, partition_means, app_means,
    version_means, guid_means, state_means, value⟩ := written
  let nodes : List Node := [.string partition, .string app, .string version, .string guid,
    .number ⟨false, Decimal.digits i.instanceIndex, none, none⟩, .string state, .number timestamp]
  have name : InstanceState.variants.lookup i.state.name = some i.state := by
    cases i.state <;> decide
  have stored : Json.storeAll (fields.zip nodes) ⟨"", "", "", "", 0, .starting, 0⟩ = .ok i := by
    simp only [nodes, fields, field, List.zip_cons_cons, List.zip_nil_left, Json.storeAll,
      Json.readText_of_means partition_means, Json.readText_of_means app_means,
      Json.readText_of_means version_means, Json.readText_of_means guid_means,
      Json.readNatural_digits small, Json.readVariant_of_means state_means name,
      Json.readDouble_of_value value, Except.map, Json.ok_bind]
  have names_ : (fields.zip nodes).map (·.1.name) = fields.map (·.name) := rfl
  have known (g) (hg : g ∈ fields.zip nodes) : g.1 ∈ fields := (List.of_mem_zip hg).1
  have required (f) (hf : f ∈ fields) : f.name ∈ (fields.zip nodes).map (·.1.name) := by
    rw [names_]
    exact List.mem_map_of_mem hf
  exact Json.readRecord_of_gives distinct_fields independent_fields known
    (names_ ▸ distinct_fields) whole gives (fun f hf _ => required f hf) stored

theorem read_all_of_writtenAs {is : List InstanceHeartbeat} {ns : List Node}
    (written : List.Forall₂ (fun i n => i.WrittenAs n) is ns)
    (small : ∀ i ∈ is, i.instanceIndex < 4294967296) (whole : ∀ n ∈ ns, n.IsWhole) :
    List.Forall₂ (fun i n => reader n = .ok i) is ns := by
  induction written with
  | nil => exact .nil
  | cons first _ ih =>
    rw [List.forall_mem_cons] at small whole
    exact .cons (read_of_writtenAs small.1 whole.1 first) (ih small.2 whole.2)

/-- A flawed object is not read as an instance. -/
theorem read_of_isFlawed {n : Node} (flawed : n.IsFlawed names names) (i : InstanceHeartbeat) :
    reader n ≠ .ok i := by
  refine Json.readRecord_of_isFlawed flawed rfl ?_ _ _ i
  intro name mem
  obtain ⟨f, hf, rfl⟩ := List.mem_map.1 (show name ∈ fields.map (·.name) from mem)
  refine ⟨f, hf, rfl, ?_⟩
  simp only [fields, List.mem_cons, List.not_mem_nil, or_false] at hf
  rcases hf with rfl | rfl | rfl | rfl | rfl | rfl | rfl <;> rfl

end InstanceHeartbeat

/-! ### Heartbeats -/

namespace Heartbeat

/-- The names of the fields of a heartbeat. -/
def names : List String := ["dea", "droplets"]

/-- The trees that write a heartbeat. -/
inductive WrittenAs (h : Heartbeat) : Node → Prop
  | bare {n : Node} {dea : Literal} (gives : n.Gives names [("dea", .string dea)])
      (dea_means : dea.Means h.deaGuid) (none : h.instances = []) : WrittenAs h n
  | full {n : Node} {dea : Literal} {elements : List Node}
      (gives : n.Gives names [("dea", .string dea), ("droplets", .array elements .closed)])
      (dea_means : dea.Means h.deaGuid)
      (instances : List.Forall₂ (fun i e => i.WrittenAs e) h.instances elements) : WrittenAs h n

/-- Trees in which an object gives a field twice, or leaves out one that it has to give: the whole
or one of the instances. -/
inductive IsFlawed : Node → Prop
  | whole {n : Node} (flawed : n.IsFlawed names ["dea"]) : IsFlawed n
  | element {n : Node} {entries : List (String × Node)} {elements : List Node} {e : Node}
      (members : n.HasMembers entries) (droplets : ("droplets", .array elements .closed) ∈ entries)
      (mem : e ∈ elements)
      (flawed : e.IsFlawed InstanceHeartbeat.names InstanceHeartbeat.names) : IsFlawed n

theorem distinct_fields : (fields.map (·.name)).Nodup := by decide

theorem independent_fields : Json.AreIndependent fields := by
  intro f hf g hg other m n s t u first second
  simp only [fields, List.mem_cons, List.not_mem_nil, or_false] at hf hg
  rcases hf with rfl | rfl <;> rcases hg with rfl | rfl <;>
    first
    | exact absurd rfl other
    | obtain ⟨a, read_, rfl⟩ := map_eq_ok.1 first
      obtain ⟨b, read_', rfl⟩ := map_eq_ok.1 second
      exact ⟨_, map_eq_ok.2 ⟨b, read_', rfl⟩, map_eq_ok.2 ⟨a, read_, rfl⟩⟩

/-- A heartbeat is read from every tree that writes it. -/
theorem read_of_writtenAs {h : Heartbeat} (small : ∀ i ∈ h.instances, i.instanceIndex < 4294967296)
    {n : Node} (whole : n.IsWhole) (written : h.WrittenAs n) : reader n = .ok h := by
  have known (nodes : List Node) (g) (hg : g ∈ fields.zip nodes) : g.1 ∈ fields :=
    (List.of_mem_zip hg).1
  have required (dea : Node) (nodes : List Node) (f) (hf : f ∈ fields)
      (needed : f.absence = .required) :
      f.name ∈ (fields.zip (dea :: nodes)).map (·.1.name) := by
    simp only [fields, List.mem_cons, List.not_mem_nil, or_false] at hf
    rcases hf with rfl | rfl
    · exact List.mem_cons_self
    · contradiction
  cases written with
  | @bare dea gives dea_means no_instances =>
    have stored : Json.storeAll (fields.zip [.string dea]) ⟨"", []⟩ = .ok h := by
      simp only [fields, List.zip_cons_cons, List.zip_nil_right, Json.storeAll,
        Json.readText_of_means dea_means, Except.map, Json.ok_bind,
        ← no_instances]
    exact Json.readRecord_of_gives distinct_fields independent_fields (known [.string dea])
      (List.nodup_singleton _) whole gives (required _ _) stored
  | @full dea elements gives dea_means instances =>
    have elements_whole : ∀ e ∈ elements, e.IsWhole := by
      have array := Json.Node.isWhole_of_gives whole gives ("droplets", .array elements .closed)
        (List.mem_cons_of_mem _ List.mem_cons_self)
      exact Json.Node.areWhole_iff.1 array.1
    have list := Json.readList_of_forall₂
      (InstanceHeartbeat.read_all_of_writtenAs instances small elements_whole)
    have stored : Json.storeAll (fields.zip [.string dea, .array elements .closed]) ⟨"", []⟩ =
        .ok h := by
      simp only [fields, List.zip_cons_cons, List.zip_nil_left, Json.storeAll,
        Json.readText_of_means dea_means, list, Except.map, Json.ok_bind]
    exact Json.readRecord_of_gives distinct_fields independent_fields
      (known [.string dea, .array elements .closed]) distinct_fields whole gives (required _ _)
      stored

/-- Flawed trees are not read. -/
theorem read_of_isFlawed {n : Node} (flawed : IsFlawed n) (h : Heartbeat) : reader n ≠ .ok h := by
  cases flawed with
  | whole flawed =>
    refine Json.readRecord_of_isFlawed flawed rfl ?_ _ _ h
    intro name mem
    rw [List.mem_singleton.1 mem]
    exact ⟨_, List.mem_cons_self, rfl, rfl⟩
  | element members droplets mem flawed =>
    intro read_
    obtain ⟨-, -, stored⟩ := Json.given_of_readRecord members read_
    have given := Json.mem_given_of_mem distinct_fields
      (List.mem_cons_of_mem _ List.mem_cons_self) droplets
    obtain ⟨s, t, stored⟩ := stored _ given
    obtain ⟨is, list, -⟩ := map_eq_ok.1 stored
    obtain ⟨js, all, -⟩ := bind_eq_ok.1 list
    obtain ⟨i, read_⟩ := Json.readAll_each all mem
    exact InstanceHeartbeat.read_of_isFlawed flawed i read_

/-- A text is read as each heartbeat whose tree it spells, and is refused if its tree is flawed. -/
theorem decode_of_spelledAs {n : Node} {bs : List UInt8} (spelled : n.SpelledAs bs) :
    (∀ h : Heartbeat, (∀ i ∈ h.instances, i.instanceIndex < 4294967296) → h.WrittenAs n →
        decode bs = .ok h) ∧
      (IsFlawed n → ∃ p, decode bs = .error p) := by
  have read_ : decode bs = reader n := Json.read_of_spelledAs reader spelled
  rw [read_]
  constructor
  · intro h small written
    exact read_of_writtenAs small spelled.whole written
  · intro flawed
    cases result : reader n with
    | ok h => exact absurd result (read_of_isFlawed flawed h)
    | error p => exact ⟨p, rfl⟩

/-- An instance with its fields in reverse. -/
def mixedInstance : List (String × Json.Value) := [
  ("state_timestamp", .nat 1700000000), ("state", .string "RUNNING"), ("index", .nat 2),
  ("instance", .string "i"), ("version", .string "v\n1"), ("droplet", .string "a"),
  ("cc_partition", .string "d")]

/-- A heartbeat with another member between its fields, an escape in a key and a surrogate pair. -/
def mixedTree : Node := .object [
  (Json.literalOf "droplets", .array [(Json.Value.object mixedInstance).toNode] .closed),
  (Json.literalOf "x", (Json.Value.array [.null, .object [("x", .array [])]]).toNode),
  (⟨[.byte 0x64, .byte 0x65, .unit 0x61], none⟩, .string ⟨[.unit 0xD83D, .unit 0xDE00], none⟩)]
  .closed

def mixedText : List UInt8 := Text.Utf8.ofString
  (" \x7b\"droplets\":[\x7b\"state_timestamp\":1700000000,\"state\":\"RUNNING\",\"index\":2," ++
    "\"instance\":\"i\",\"version\":\"v\\n1\",\"droplet\":\"a\",\"cc_partition\":\"d\"\x7d],\n" ++
    "\"x\":[null,\x7b\"x\":[]\x7d],\"de\\u0061\":\"\\ud83D\\uDE00\"\x7d\n")

theorem mixedTree_spelledAs : mixedTree.SpelledAs mixedText where
  whole := by repeat' constructor
  tokens := by
    have space : Json.IsBlank [0x20] := by simp [Json.IsBlank]
    have newline : Json.IsBlank [0x0A] := by simp [Json.IsBlank]
    have small (d : Nat) (h : d < 16) :
        Json.IsHexDigit d (Text.Utf8.byte (Nat.digitChar d).toNat) := ⟨h, .inl rfl⟩
    have large (d : Nat) (h : d < 16) :
        Json.IsHexDigit d (Text.Utf8.byte (Nat.digitChar d).toUpper.toNat) := ⟨h, .inr rfl⟩
    have key : Json.SpelledItems [.byte 0x64, .byte 0x65, .unit 0x61] _ :=
      .cons (.plain (by decide)) (.cons (.plain (by decide)) (.cons
        (.hex (small 0 (by decide)) (small 0 (by decide)) (small 6 (by decide))
          (small 1 (by decide))) .nil))
    have pair : Json.SpelledItems [.unit 0xD83D, .unit 0xDE00] _ :=
      .cons (.hex (small 13 (by decide)) (small 8 (by decide)) (small 3 (by decide))
        (large 13 (by decide))) (.cons
        (.hex (large 13 (by decide)) (large 14 (by decide)) (small 0 (by decide))
          (small 0 (by decide))) .nil)
    have tokens := Json.SpelledTokens.token space .openObject <|
      .tight (Json.spelledAs_printString "droplets") <| .tight .colon <| .tight .openArray <|
      Json.Value.spelledTokens_print (.object mixedInstance) <| .tight .closeArray <|
      .tight .comma <| .token newline (Json.spelledAs_printString "x") <| .tight .colon <|
      Json.Value.spelledTokens_print (.array [.null, .object [("x", .array [])]]) <|
      .tight .comma <| .tight (.string key) <| .tight .colon <| .tight (.string pair) <|
      .tight .closeObject <| .blank newline
    refine (congrArg (Json.SpelledTokens _) ?_).mp tokens
    decide +kernel

theorem mixedTree_writtenAs :
    WrittenAs ⟨"😀", [⟨"d", "a", "v\n1", "i", 2, .running, 1.7e9⟩]⟩ mixedTree := by
  have key : Json.MeansChars ['d', 'e', 'a']
      ([.byte 0x64] ++ ([.byte 0x65] ++ ([.unit 0x61] ++ []))) :=
    .cons .bytes (.cons .bytes (.cons (.unit (by decide)) .nil))
  have pair : Json.MeansChars ['😀'] ([.unit 0xD83D, .unit 0xDE00] ++ []) :=
    .cons (.pair (by decide)) .nil
  have value : (Json.Number.natural 1700000000).numeral.value?.map Json.Number.toDouble =
      some 1.7e9 := by decide +kernel
  have members : mixedTree.HasMembers [
      ("droplets", .array [(Json.Value.object mixedInstance).toNode] .closed),
      ("x", (Json.Value.array [.null, .object [("x", .array [])]]).toNode),
      ("dea", .string ⟨[.unit 0xD83D, .unit 0xDE00], none⟩)] :=
    ⟨_, rfl, .cons ⟨Json.means_literalOf _, rfl⟩ (.cons ⟨Json.means_literalOf _, rfl⟩
      (.cons ⟨⟨rfl, key⟩, rfl⟩ .nil))⟩
  have reverse : ((mixedInstance.map fun m => (m.1, m.2.toNode)).filter fun e =>
      e.1 ∈ InstanceHeartbeat.names).Perm (mixedInstance.map fun m => (m.1, m.2.toNode)).reverse :=
    (List.reverse_perm _).symm
  have element : InstanceHeartbeat.WrittenAs ⟨"d", "a", "v\n1", "i", 2, .running, 1.7e9⟩
      (Json.Value.object mixedInstance).toNode :=
    .object ⟨_, Json.hasMembers_toNode mixedInstance, reverse⟩ (Json.means_literalOf "d")
      (Json.means_literalOf "a") (Json.means_literalOf "v\n1") (Json.means_literalOf "i")
      (Json.means_literalOf "RUNNING") value
  exact .full ⟨_, members, .swap _ _ _⟩ ⟨rfl, pair⟩ (.cons element .nil)

/-- A heartbeat with an instance that gives its index twice. -/
def doubled : Json.Value := .object [("dea", .string "a"),
  ("droplets", .array [.object (("index", .nat 2) :: mixedInstance)])]

theorem isFlawed_doubled : IsFlawed doubled.toNode := by
  refine .element (Json.hasMembers_toNode _) (List.mem_cons_of_mem _ List.mem_cons_self)
    List.mem_cons_self ⟨_, Json.hasMembers_toNode _, .inl ⟨"index", by decide, ?_⟩⟩
  decide

theorem decode_of_spelledAs_mixed :
    (mixedTree.SpelledAs mixedText ∧
      decode mixedText = .ok ⟨"😀", [⟨"d", "a", "v\n1", "i", 2, .running, 1.7e9⟩]⟩) ∧
    (doubled.toNode.SpelledAs doubled.toBytes ∧ IsFlawed doubled.toNode ∧
      ∃ p, decode doubled.toBytes = .error p) :=
  ⟨⟨mixedTree_spelledAs,
      (decode_of_spelledAs mixedTree_spelledAs).1 _ (by decide) mixedTree_writtenAs⟩,
    doubled.spelledAs_toBytes, isFlawed_doubled,
    (decode_of_spelledAs doubled.spelledAs_toBytes).2 isFlawed_doubled⟩

end Heartbeat

end ActualState
