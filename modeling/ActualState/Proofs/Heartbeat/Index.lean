import ActualState.Proofs.Heartbeat.Extent
import ActualState.Proofs.Heartbeat.Spelling
import ActualState.Proofs.Json.Gaps
import ActualState.Proofs.Json.Naturals

/-!
# The index of an instance

Which of the instances of its app an instance is, a message says with a literal of any length. It is
taken as it stands or the whole message is refused: no index is cut off, wrapped around or rounded.
-/
namespace ActualState

open Json (Literal Node Numeral Step Path ofDigits)

namespace InstanceHeartbeat

/-- A field leaves alone what its own place has no part in. -/
theorem store_field_of_comm {α : Type} {name : String} {value : Json.Reader α}
    {set : α → InstanceHeartbeat → InstanceHeartbeat}
    (move : InstanceHeartbeat → InstanceHeartbeat) (comm : ∀ a i, set a (move i) = move (set a i))
    (n : Node) (i : InstanceHeartbeat) :
    (field name value set).store n (move i) = ((field name value set).store n i).map move := by
  unfold field
  simp only [comm]
  cases value n <;> rfl

/-- The index has a place of its own among the fields of an instance. -/
theorem isSetter_index : ∃ f : Field Node Json.Problem InstanceHeartbeat, f.name = "index" ∧
    Json.IsSetter fields f (Json.readNatural 32) fun v i => { i with instanceIndex := v } := by
  refine ⟨field "index" (Json.readNatural 32) fun v i => { i with instanceIndex := v }, rfl,
    by simp [fields], fun _ _ => rfl, fun _ _ _ => rfl, ?_⟩
  intro g hg other n v i
  simp only [fields, List.mem_cons, List.not_mem_nil, or_false] at hg
  rcases hg with rfl | rfl | rfl | rfl | rfl | rfl | rfl <;>
    first
    | exact absurd rfl other
    | exact store_field_of_comm (fun i => { i with instanceIndex := v }) (fun _ _ => rfl) n i

end InstanceHeartbeat

namespace Heartbeat

theorem isSetter_droplets : ∃ f : Field Node Json.Problem Heartbeat, f.name = "droplets" ∧
    Json.IsSetter fields f (Json.readList InstanceHeartbeat.reader)
      fun is h => { h with instances := is } := by
  refine ⟨_, rfl, List.mem_cons_of_mem _ List.mem_cons_self, fun _ _ => rfl, fun _ _ _ => rfl, ?_⟩
  intro g hg other n a h
  simp only [fields, List.mem_cons, List.not_mem_nil, or_false] at hg
  rcases hg with rfl | rfl
  · simp only []
    cases Json.readText n <;> rfl
  · exact absurd rfl other

/-- The way to the index of an instance, counted from the first one. A heartbeat and an instance may
be an object or a list each. -/
inductive IsIndexPath (k : Nat) : Path → Prop
  | intro {droplets index : Step} {before after : List Node}
      (outer : droplets.LeadsTo names "droplets") (place : before.length = k)
      (inner : index.LeadsTo InstanceHeartbeat.names "index") :
      IsIndexPath k [droplets, .element before after, index]

/-- A heartbeat that is read with one index is read with any other, as far as that is read. -/
theorem reader_plug {path : Path} {k : Nat} (leads : IsIndexPath k path) {m : Node} {h : Heartbeat}
    (read_ : reader (path.plug m) = .ok h) :
    ∃ i, h.instances[k]? = some i ∧ ∀ n, reader (path.plug n) =
      (Json.readNatural 32 n).map fun v =>
        { h with instances := h.instances.set k { i with instanceIndex := v } } := by
  obtain @⟨droplets, index, before, after, outer, rfl, inner⟩ := leads
  obtain ⟨f, name, list⟩ := isSetter_droplets
  obtain ⟨g, name', natural⟩ := InstanceHeartbeat.isSetter_index
  have outer : droplets.LeadsTo (fields.map (·.name)) f.name := name ▸ outer
  have inner : index.LeadsTo (InstanceHeartbeat.fields.map (·.name)) g.name := name' ▸ inner
  have whole := list.readRecord_plug distinct_fields outer read_
  -- The list of instances is the one that the whole was read with.
  have instances : Json.readList InstanceHeartbeat.reader
      ((Step.element before after).plug (index.plug m)) = .ok h.instances := by
    have same := whole ((Step.element before after).plug (index.plug m))
    obtain ⟨is, list_, same⟩ := Json.map_eq_ok.1 (same.symm.trans read_)
    rw [list_, ← same]
  obtain ⟨⟨i, place, instance_⟩, others⟩ := Json.readList_plug instances
  have within := natural.readRecord_plug InstanceHeartbeat.distinct_fields inner instance_
  refine ⟨i, place, fun n => ?_⟩
  have all := whole ((Step.element before after).plug (index.plug n))
  rw [others, show InstanceHeartbeat.reader (index.plug n) = _ from within n] at all
  refine Eq.trans all ?_
  cases Json.readNatural 32 n <;> rfl

/-- A message with the index `0` in the gap and one with any other literal there: a bare literal
below `2 ^ 32` is the index, digit for digit, and with every other one, of whatever length, the
message is refused. -/
theorem index_is_exact {path : Path} {k : Nat} (leads : IsIndexPath k path)
    {before after : List UInt8} (around : path.IsAround before after) {h : Heartbeat}
    (sound : decode (before ++ [0x30] ++ after) = .ok h) {n : Numeral} (shape : n.IsShaped)
    {literal : List UInt8} (spelled : n.SpelledAs literal) :
    ∃ i, h.instances[k]? = some i ∧
      (n.IsBare ∧ ¬ n.HasLeadingZero ∧ ofDigits n.whole < 4294967296 →
        decode (before ++ literal ++ after) =
          .ok { h with
            instances := h.instances.set k { i with instanceIndex := ofDigits n.whole } }) ∧
      (¬ (n.IsBare ∧ ¬ n.HasLeadingZero ∧ ofDigits n.whole < 4294967296) →
        IsRefused (before ++ literal ++ after)) := by
  have text {n : Numeral} (wellFormed : n.IsWellFormed) {literal : List UInt8}
      (spelled : n.SpelledAs literal) :
      decode (before ++ literal ++ after) = reader (path.plug (.number n)) := by
    have token : Json.SpelledTokens [.number n] literal := by
      have tight := Json.SpelledTokens.tight (.number wellFormed spelled) (.blank Json.isBlank_nil)
      rwa [List.append_nil] at tight
    exact Json.read_of_spelledAs reader (around.spelledAs ⟨trivial, token⟩)
  have zero : (⟨false, [0], none, none⟩ : Numeral).IsWellFormed :=
    ⟨by simp [Decimal.AreDigits], .inl rfl, fun _ given => absurd given (Option.not_mem_none _),
      fun _ given => absurd given (Option.not_mem_none _)⟩
  have digit : (⟨false, [0], none, none⟩ : Numeral).SpelledAs [0x30] := ⟨[], .none, rfl⟩
  rw [text zero digit] at sound
  obtain ⟨i, place, others⟩ := reader_plug leads sound
  refine ⟨i, place, ?_, fun other => isRefused_of_decode fun a accepted => ?_⟩
  · rintro ⟨bare, canonical, small⟩
    rw [text (shape.isWellFormed canonical) spelled, others,
      (Json.readNatural_number_iff (by decide)).2 ⟨bare, rfl, small⟩]
    rfl
  · by_cases leading : n.HasLeadingZero
    · obtain ⟨-, -, t, last, closing⟩ := isEnclosing_reader.exists_closing accepted
      have inner : path ≠ [] := by
        rintro rfl
        cases leads
      rw [List.append_assoc, around.finish_run inner,
        Json.Lexer.run_of_leadingZero shape leading spelled] at last
      obtain rfl : Json.Token.brokenNumber .malformed = t := by
        simpa [Json.Lexer.finish] using last
      exact closing
    · rw [text (shape.isWellFormed leading) spelled, others] at accepted
      obtain ⟨v, natural, -⟩ := Json.map_eq_ok.1 accepted
      obtain ⟨bare, value, small⟩ := (Json.readNatural_number_iff (by decide)).1 natural
      exact other ⟨bare, leading, value ▸ small⟩

/-- The way to the index of an instance that is a list, in a heartbeat that is an object. -/
def listedPath : Path :=
  let text (s : String) : Node := (Json.Value.string s).toNode
  [.member [(Json.literalOf "dea", text "a")] (Json.literalOf "droplets") [], .element [] [],
    .element [text "d", text "p", text "v", text "i"] [text "CRASHED", (Json.Value.nat 1).toNode]]

theorem listedPath_isAround :
    listedPath.IsAround
      (Text.Utf8.ofString "\x7b\"dea\":\"a\",\"droplets\":[[\"d\",\"p\",\"v\",\"i\", ")
      (Text.Utf8.ofString ",\"CRASHED\",1]]\x7d") where
  whole := by repeat' constructor
  before := by
    have space : Json.IsBlank [0x20] := by simp [Json.IsBlank]
    have text (s : String) {ts : List Json.Token} {rest : List UInt8} :=
      @Json.SpelledTokens.tight _ ts _ rest (Json.spelledAs_printString s)
    have tokens := Json.SpelledTokens.tight .openObject <| text "dea" <| .tight .colon <|
      text "a" <| .tight .comma <| text "droplets" <| .tight .colon <| .tight .openArray <|
      .tight .openArray <| text "d" <| .tight .comma <| text "p" <| .tight .comma <|
      text "v" <| .tight .comma <| text "i" <| .tight .comma <| .blank space
    refine (congrArg (Json.SpelledTokens _) ?_).mp tokens
    decide +kernel
  after := by
    have tokens := Json.SpelledTokens.tight .comma <|
      .tight (Json.spelledAs_printString "CRASHED") <| .tight .comma <|
      Json.Value.spelledTokens_print (.nat 1) <| .tight .closeArray <| .tight .closeArray <|
      .tight .closeObject <| .blank Json.isBlank_nil
    refine (congrArg (Json.SpelledTokens _) ?_).mp tokens
    decide +kernel

/-- The greatest index, the number behind it, and a small one with zeros in front. -/
theorem index_is_exact_at_limit :
    let before := Text.Utf8.ofString
      "\x7b\"dea\":\"a\",\"droplets\":[[\"d\",\"p\",\"v\",\"i\", "
    let after := Text.Utf8.ofString ",\"CRASHED\",1]]\x7d"
    decode (before ++ Text.Utf8.ofString "4294967295" ++ after) =
        .ok ⟨"a", [⟨"d", "p", "v", "i", 4294967295, .crashed, 1⟩]⟩ ∧
      IsRefused (before ++ Text.Utf8.ofString "4294967296" ++ after) ∧
      IsRefused (before ++ Text.Utf8.ofString "007" ++ after) := by
  intro before after
  have sound : decode (before ++ [0x30] ++ after) =
      .ok ⟨"a", [⟨"d", "p", "v", "i", 0, .crashed, 1⟩]⟩ := by decide +kernel
  have leads : IsIndexPath 0 listedPath :=
    .intro (.named (Json.means_literalOf "droplets")) rfl (.placed rfl)
  have whole (ds : List Nat) (some_ : ds ≠ []) (digits : Decimal.AreDigits ds) :=
    @index_is_exact listedPath 0 leads before after listedPath_isAround _ sound
      ⟨false, ds, none, none⟩ ⟨⟨some_, digits⟩, nofun, nofun⟩ _ ⟨[], .none, rfl⟩
  obtain ⟨i, place, greatest, -⟩ := whole [4, 2, 9, 4, 9, 6, 7, 2, 9, 5] (by decide)
    (by simp [Decimal.AreDigits])
  obtain ⟨-, -, -, beyond⟩ := whole [4, 2, 9, 4, 9, 6, 7, 2, 9, 6] (by decide)
    (by simp [Decimal.AreDigits])
  obtain ⟨-, -, -, zeros⟩ := whole [0, 0, 7] (by decide) (by simp [Decimal.AreDigits])
  obtain rfl : _ = i := Option.some.inj place
  refine ⟨greatest ⟨⟨rfl, rfl, rfl⟩, ?_, by decide⟩, beyond fun h => ?_, zeros fun h => ?_⟩
  · rintro ⟨d, ds, leading⟩
    simp at leading
  · exact absurd h.2.2 (by decide)
  · exact h.2.1 ⟨0, [7], rfl⟩

end Heartbeat

end ActualState
