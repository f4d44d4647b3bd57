import ActualState.Config.Load
import ActualState.Proofs.Config.Sheets
import ActualState.Proofs.Config.Validation
import ActualState.Proofs.Json.Members

/-!
# Settings in part

The text of a sheet is read as what the sheet lays over the defaults, unless a known key is given
twice in one mapping. Both levels are read by one induction on the lines: a reading `Settles` on
the record that the lines come to, and a field that holds a section settles in the same way.
-/
namespace ActualState.Config

open Yaml (Word Scalar Item Page Node)

/-! ### Members one by one -/

section Members

variable {κ ν ε σ : Type} {m : Members κ ν ε} {fields : List (Field ν ε σ)} {k : κ} {v : ν}
  {name : String}

/-- A member that the record does not know is skipped. -/
theorem readMembers_unknown (named : m.name k = .ok name)
    (strange : Record.find? fields name = none) (skip : m.skip v = .ok ()) (rest : List (κ × ν))
    (seen : List String) (s : σ) :
    Record.readMembers m fields ((k, v) :: rest) seen s =
      Record.readMembers m fields rest seen s := by
  simp only [Record.readMembers, named, Json.ok_bind, strange, skip]

/-- A member that gives a field for the first time is stored. -/
theorem readMembers_known (named : m.name k = .ok name) {f : Field ν ε σ}
    (found : Record.find? fields name = some f) (rest : List (κ × ν)) (seen : List String) (s : σ) :
    Record.readMembers m fields ((k, v) :: rest) seen s =
      if name ∈ seen then .error (m.problem (.duplicateField name))
      else (f.store v s).bind fun s => Record.readMembers m fields rest (name :: seen) s := by
  have same : f.name = name := by simpa using List.find?_some found
  simp only [Record.readMembers, named, Json.ok_bind, found, same, List.contains_iff_mem]
  rfl

end Members

/-! ### Records -/

/-- A reading that gives `a` if all is well and complains of a key that is given twice if not. -/
def Settles {τ : Type} (good : Prop) (a : τ) : Except YamlProblem τ → Prop
  | .ok b => good ∧ b = a
  | .error p => ¬good ∧ ∃ path name, p = .mismatch path (.duplicateField name)

namespace Settles

variable {τ υ : Type} {good good' : Prop} {a : τ} {r : Except YamlProblem τ}

theorem map (h : Settles good a r) (f : τ → υ) : Settles good (f a) (r.map f) := by
  cases r with
  | ok b => exact ⟨h.1, congrArg f h.2⟩
  | error p => exact h

theorem congr (h : Settles good a r) (same : good ↔ good') : Settles good' a r := by
  rwa [← propext same]

theorem eq_ok (h : Settles good a r) (well : good) : r = .ok a := by
  cases r with
  | ok b => exact congrArg Except.ok h.2
  | error p => exact absurd well h.1

theorem eq_error (h : Settles good a r) (bad : ¬good) :
    ∃ path name, r = .error (.mismatch path (.duplicateField name)) := by
  cases r with
  | ok b => exact absurd h.1 bad
  | error p =>
    obtain ⟨path, name, rfl⟩ := h.2
    exact ⟨path, name, rfl⟩

end Settles

section Records

variable {α β σ : Type} [Content β] {l : Layout α β σ}
  {fields : List (Field Located YamlProblem σ)}

/-- Fields that read what a layout writes. -/
structure Fits (fields : List (Field Located YamlProblem σ)) (l : Layout α β σ) : Prop where
  names : fields.map (·.name) = l.names
  reads (a : α) : ∃ f, Record.find? fields (l.key a).text = some f ∧ ∀ path s,
    Settles (l.inner a).Nodup (l.set a s) (f.store ⟨path, Content.node (l.value a)⟩ s)

/-- The nodes of a line. -/
def Line.nodes (line : Line l) : Node × Node := (line.entry.1.node, Content.node line.entry.2)

/-- The members of a record at a place. -/
def members (path : List String) (lines : List (Line l)) : List (Node × Located) :=
  lines.map fun line => (line.nodes.1, ⟨line.entry.1.text :: path, line.nodes.2⟩)

theorem members_cons_known (path : List String) (a : α) (lines : List (Line l)) :
    members path (.known a :: lines) = ((l.key a).node,
      ⟨(l.key a).text :: path, Content.node (l.value a)⟩) :: members path lines :=
  rfl

theorem members_cons_unknown (path : List String) (w : Word) (strange : w.text ∉ l.names) (i : Int)
    (lines : List (Line l)) :
    members path (.unknown w strange i :: lines) = (w.node,
      ⟨w.text :: path, Content.node (Content.scalar (.integer i) : β)⟩) :: members path lines :=
  rfl

theorem find?_unknown (fits : Fits fields l) {name : String} (strange : name ∉ l.names) :
    Record.find? fields name = none := by
  refine List.find?_eq_none.2 fun f hf same => strange ?_
  rw [← fits.names, ← beq_iff_eq.1 same]
  exact List.mem_map_of_mem hf

/-- Lines in order, with some known keys before them. -/
theorem settles_readMembers (fits : Fits fields l) (root : Node) (path : List String)
    (lines : List (Line l)) (seen : List String) (s : σ) :
    Settles (IsDistinct lines ∧ ∀ name ∈ known lines, name ∉ seen) (overlay s lines)
      ((Record.readMembers (yamlMembers root path) fields (members path lines) seen s).map
        (·.2)) := by
  induction lines generalizing seen s with
  | nil => exact ⟨⟨⟨List.nodup_nil, nofun⟩, nofun⟩, rfl⟩
  | cons line lines ih =>
    cases line with
    | unknown w strange i =>
      have whole : (Content.node (Content.scalar (.integer i) : β)).isWhole = true := by
        rw [Content.node_scalar]
        rfl
      have here := readMembers_unknown (m := yamlMembers root path) (k := w.node)
        (v := ⟨w.text :: path, Content.node (Content.scalar (.integer i) : β)⟩) rfl
        (find?_unknown fits strange) (if_pos whole) (members path lines) seen s
      rw [members_cons_unknown, here]
      refine (ih seen s).congr ?_
      rw [isDistinct_cons_unknown, known_cons_unknown]
    | known a =>
      obtain ⟨f, found, reads⟩ := fits.reads a
      have here := readMembers_known (m := yamlMembers root path) (k := (l.key a).node)
        (v := ⟨(l.key a).text :: path, Content.node (l.value a)⟩) rfl found (members path lines)
        seen s
      rw [members_cons_known, here]
      by_cases again : (l.key a).text ∈ seen
      · rw [if_pos again]
        exact ⟨fun distinct => distinct.2 _ List.mem_cons_self again, path, _, rfl⟩
      · rw [if_neg again]
        have stored := reads ((l.key a).text :: path) s
        generalize f.store ⟨(l.key a).text :: path, Content.node (l.value a)⟩ s = r at stored ⊢
        cases r with
        | error p =>
          exact ⟨fun distinct => stored.1 (isDistinct_cons_known.1 distinct.1).2.1, stored.2⟩
        | ok b =>
          obtain ⟨inner, rfl⟩ := stored
          refine (ih ((l.key a).text :: seen) (l.set a s)).congr ?_
          rw [isDistinct_cons_known, known_cons_known, List.forall_mem_cons]
          simp only [List.mem_cons, not_or]
          constructor
          · rintro ⟨distinct, others⟩
            exact ⟨⟨fun twice => (others _ twice).1 rfl, inner, distinct⟩, again,
              fun name given => (others name given).2⟩
          · rintro ⟨⟨once, -, distinct⟩, -, others⟩
            exact ⟨distinct, fun name given =>
              ⟨fun same => once (same ▸ given), others name given⟩⟩

theorem recordOfNode_mapping (root : Node) (title : String) (start : σ) (path : List String)
    (lines : List (Line l)) :
    recordOfNode root title fields start ⟨path, .mapping none (lines.map Line.nodes) true⟩ =
      (Record.readMembers (yamlMembers root path) fields (members path lines) [] start).map
        (·.2) := by
  simp only [recordOfNode, dealias, List.map_map, if_true]
  change Except.bind (Record.readMembers (yamlMembers root path) fields (members path lines) []
    start) _ = _
  cases Record.readMembers (yamlMembers root path) fields (members path lines) [] start <;> rfl

/-- Lines as the entries of a mapping. -/
theorem settles_mapping (fits : Fits fields l) (root : Node) (title : String) (start : σ)
    (path : List String) (lines : List (Line l)) :
    Settles (IsDistinct lines) (overlay start lines)
      (recordOfNode root title fields start ⟨path, .mapping none (lines.map Line.nodes) true⟩) := by
  rw [recordOfNode_mapping]
  exact (settles_readMembers fits root path lines [] start).congr (by simp)

end Records

/-! ### Sections -/

section Sections

variable {α σ : Type} {l : Layout α Scalar σ} {fields : List (Field Located YamlProblem σ)}

/-- A section, with lines or without. -/
theorem settles_section (fits : Fits fields l) (root : Node) (title : String) (start : σ)
    (path : List String) (lines : List (Line l)) :
    Settles (IsDistinct lines) (overlay start lines)
      (recordOfNode root title fields start ⟨path, (asSection lines).node⟩) := by
  cases lines with
  | nil => exact ⟨⟨List.nodup_nil, nofun⟩, rfl⟩
  | cons line lines =>
    have node : (asSection (line :: lines)).node =
        .mapping none ((line :: lines).map Line.nodes) true := by
      simp only [asSection, List.map_cons, Item.node, List.map_map]
      rfl
    rw [node]
    exact settles_mapping fits root title start path (line :: lines)

end Sections

/-! ### Values -/

section Values

variable {σ : Type}

theorem naturalOf_natural {bits n : Nat} (path : List String) (wide : n < 18446744073709551616)
    (small : n < Nat.pow 2 bits) : naturalOf bits path (natural n).node = .ok n := by
  have read : (Yaml.natural? (natural n).content).filter (· < 18446744073709551616) = some n := by
    rw [natural, Scalar.content, Yaml.natural?_toString]
    simpa using wide
  have spelled (expected : String) : spelledOf
      (fun s => (Yaml.natural? s).filter (· < 18446744073709551616)) "int" expected path
      (natural n).node = .ok n := by
    simp only [spelledOf, Scalar.node, natural, Scalar.style, isSpelled] at read ⊢
    simp [read]
  simp only [naturalOf, spelled, Json.ok_bind, small, if_true]
  rfl

/-- An integer within the range of its field. -/
theorem settles_natural (bits : Nat) {n : Nat} (path : List String)
    (wide : n < 18446744073709551616) (small : n < Nat.pow 2 bits) (set : Nat → σ) :
    Settles ([] : List String).Nodup (set n) ((naturalOf bits path (natural n).node).map set) := by
  rw [naturalOf_natural path wide small]
  exact ⟨List.nodup_nil, rfl⟩

theorem settles_port (path : List String) (n : UInt16) (set : UInt16 → σ) :
    Settles ([] : List String).Nodup (set n)
      ((naturalOf 16 path (natural n.toNat).node).map fun k => set (.ofNat k)) := by
  have small := n.toNat_lt
  have settled := settles_natural 16 path (by omega) small fun k => set (.ofNat k)
  rwa [UInt16.ofNat_toNat] at settled

theorem settles_number (path : List String) (n : UInt64) (set : UInt64 → σ) :
    Settles ([] : List String).Nodup (set n)
      ((naturalOf 64 path (natural n.toNat).node).map fun k => set (.ofNat k)) := by
  have small := n.toNat_lt
  have settled := settles_natural 64 path small small fun k => set (.ofNat k)
  rwa [UInt64.ofNat_toNat] at settled

end Values

/-! ### The fields of the settings -/

section Fits

variable (root : Node)

theorem fits_store : Fits (storeFields (yamlSource root)) storeLayout where
  names := rfl
  reads
    | .path _ => ⟨_, rfl, fun _ _ => ⟨List.nodup_nil, rfl⟩⟩

theorem fits_mqtt : Fits (mqttFields (yamlSource root)) mqttLayout where
  names := rfl
  reads
    | .host _ => ⟨_, rfl, fun _ _ => ⟨List.nodup_nil, rfl⟩⟩
    | .port n => ⟨_, rfl, fun path c => settles_port path n fun n => mqttLayout.set (.port n) c⟩
    | .clientId _ => ⟨_, rfl, fun _ _ => ⟨List.nodup_nil, rfl⟩⟩
    | .keepAliveSecs n => ⟨_, rfl, fun path c =>
      settles_number path n fun n => mqttLayout.set (.keepAliveSecs n) c⟩

theorem fits_topics : Fits (topicsFields (yamlSource root)) topicsLayout where
  names := rfl
  reads
    | .heartbeat _ | .advertise _ => ⟨_, rfl, fun _ _ => ⟨List.nodup_nil, rfl⟩⟩

theorem fits_http : Fits (httpFields (yamlSource root)) httpLayout where
  names := rfl
  reads
    | .bind _ => ⟨_, rfl, fun _ _ => ⟨List.nodup_nil, rfl⟩⟩

/-- A section is all well if no known key of it is given twice. -/
theorem settles_inner {α σ τ : Type} {l : Layout α Scalar σ}
    {fields : List (Field Located YamlProblem σ)} (fits : Fits fields l)
    (flat : ∀ a, l.inner a = []) (title : String) (start : σ) (path : List String)
    (lines : List (Line l)) (set : σ → τ) :
    Settles (known lines).Nodup (set (overlay start lines))
      ((recordOfNode root title fields start ⟨path, (asSection lines).node⟩).map set) := by
  refine ((settles_section fits root title start path lines).map set).congr ?_
  refine and_iff_left fun line _ => ?_
  cases line with
  | known a => simp [Line.inner, flat a]
  | unknown w strange i => exact List.nodup_nil

theorem fits_listener : Fits (listenerFields (yamlSource root)) listenerLayout where
  names := rfl
  reads
    | .heartbeatPeriodSecs n => ⟨_, rfl, fun path c =>
      settles_number path n fun n => listenerLayout.set (.heartbeatPeriodSecs n) c⟩
    | .heartbeatTtlInHeartbeats n => ⟨_, rfl, fun path c =>
      settles_number path n fun n => listenerLayout.set (.heartbeatTtlInHeartbeats n) c⟩
    | .actualFreshnessTtlInHeartbeats n => ⟨_, rfl, fun path c =>
      settles_number path n fun n => listenerLayout.set (.actualFreshnessTtlInHeartbeats n) c⟩
    | .syncIntervalMs n => ⟨_, rfl, fun path c =>
      settles_number path n fun n => listenerLayout.set (.syncIntervalMs n) c⟩
    | .storeUsageSampleInHeartbeats n => ⟨_, rfl, fun path c =>
      settles_number path n fun n => listenerLayout.set (.storeUsageSampleInHeartbeats n) c⟩
    | .trackStoreUsage b => ⟨_, rfl, fun _ _ => by cases b <;> exact ⟨List.nodup_nil, rfl⟩⟩
    | .store lines => ⟨_, rfl, fun path c =>
      settles_inner root (fits_store root) (fun _ => rfl) "struct StoreConf" {} path lines
      fun a => ({ c with store := a } : ListenerConfig)⟩
    | .mqtt lines => ⟨_, rfl, fun path c =>
      settles_inner root (fits_mqtt root) (fun _ => rfl) "struct MqttConf" {} path lines
      fun a => ({ c with mqtt := a } : ListenerConfig)⟩
    | .topics lines => ⟨_, rfl, fun path c =>
      settles_inner root (fits_topics root) (fun _ => rfl) "struct TopicsConf" {} path lines
      fun a => ({ c with topics := a } : ListenerConfig)⟩
    | .http lines => ⟨_, rfl, fun path c =>
      settles_inner root (fits_http root) (fun _ => rfl) "struct HttpConf" {} path lines
      fun a => ({ c with http := a } : ListenerConfig)⟩

end Fits

/-! ### Sheets -/

theorem isBlankText_text (line : Line listenerLayout) (lines : List (Line listenerLayout)) :
    Text.isBlankText (Sheet.text (line :: lines)) = false := by
  obtain ⟨c, ws, chars, initial⟩ := Word.exists_chars line.entry.1
  have visible : Text.isBlank c = false := by
    have printable := Yaml.isInner_of_isInitial initial
    simp only [Yaml.isInner, Text.isBlank, Bool.and_eq_true, Bool.or_eq_false_iff,
      Bool.and_eq_false_iff, decide_eq_true_eq, decide_eq_false_iff_not, bne_iff_ne, ne_eq,
      Yaml.le_iff_toNat, Yaml.eq_iff_toNat, Char.reduceToNat] at printable ⊢
    omega
  have text : (Sheet.text (line :: lines)).toList =
      c :: (ws ++ ':' :: line.entry.2.chars ++ Page.chars (lines.map Line.entry)) := by
    rw [Sheet.text, String.toList_ofList, List.map_cons, Page.chars, List.flatMap_cons, chars]
    rfl
  rw [Text.isBlankText, text, List.all_cons, visible, Bool.false_and]

/-- A sheet is read as what it lays over the defaults. -/
theorem settles_ofYamlText (sheet : Sheet) :
    Settles (IsDistinct sheet) sheet.config (ofYamlText sheet.text) := by
  cases sheet with
  | nil => exact ⟨⟨List.nodup_nil, nofun⟩, rfl⟩
  | cons line lines =>
    let root : Node := .mapping none ((line :: lines).map Line.nodes) true
    have entries : Page.entries ((line :: lines).map Line.entry) =
        (line :: lines).map Line.nodes := by
      rw [Page.entries, List.map_map]
      rfl
    have some_ : (line :: lines).map Line.entry ≠ [] := List.cons_ne_nil _ _
    have document : Yaml.Document.ofText (Sheet.text (line :: lines)) = ⟨some root, false⟩ := by
      rw [Sheet.text, Yaml.ofText_page some_, entries]
    have read : ofYamlText (Sheet.text (line :: lines)) =
        readListener (yamlSource root) ⟨[], root⟩ := by
      simp only [ofYamlText, isBlankText_text, document, ofDocument, Bool.false_eq_true, if_false]
      cases readListener (yamlSource root) ⟨[], root⟩ <;> rfl
    rw [read]
    exact settles_mapping (fits_listener root) root "struct ListenerConfig" {} [] (line :: lines)

/-- What the check decides on settings that were read. The check is any check here: with the one at
hand, the kernel would multiply durations in unary to decide where the match goes. -/
theorem decided_of_read (check : ListenerConfig → Except Invalid Unit)
    (r : Except YamlProblem ListenerConfig) (c : ListenerConfig) :
    let result : Except Refusal ListenerConfig :=
      match r with
      | .error p => .error (.yaml p)
      | .ok c =>
        match check c with
        | .error i => .error (.invalid i)
        | .ok () => .ok c
    r = .ok c → (check c = .ok () → result = .ok c) ∧
      ∀ i, check c = .error i → result = .error (.invalid i) := by
  rintro result rfl
  exact ⟨fun valid => by simp only [result, valid], fun i invalid => by simp only [result, invalid]⟩

/-- A sheet lays what it gives over the defaults, on both levels, and the check has the last word.
A known key that is given twice in one mapping is refused before. -/
theorem sheet_overlays_defaults (sheet : Sheet) :
    (IsDistinct sheet →
      (sheet.config.validate = .ok () → ofYaml sheet.text = .ok sheet.config) ∧
        ∀ i, sheet.config.validate = .error i → ofYaml sheet.text = .error (.invalid i)) ∧
    (¬IsDistinct sheet → ∃ path name,
      ofYaml sheet.text = .error (.yaml (.mismatch path (.duplicateField name)))) := by
  have settled := settles_ofYamlText sheet
  constructor
  · intro distinct
    have decided := decided_of_read ListenerConfig.validate (ofYamlText sheet.text) sheet.config
      (settled.eq_ok distinct)
    rwa [ofYaml]
  · intro twice
    obtain ⟨path, name, refused⟩ := settled.eq_error twice
    exact ⟨path, name, by rw [ofYaml, refused]⟩

/-- Part of the settings, part of a section, and keys that mean nothing. -/
def brokerSheet : Sheet := [
  .known (.mqtt [
    .known (.clientId ⟨"listener \"1\"", List.all_eq_true.1 (by decide)⟩),
    .unknown ⟨"retries", by decide, by decide⟩ (by decide) (-3),
    .known (.port 1884)]),
  .unknown (mqttLayout.key (.port 0)) (by decide) 7,
  .known (.heartbeatPeriodSecs 5)]

/-- The same, and the section a second time. -/
def doubledSheet : Sheet := brokerSheet ++ [.known (.mqtt [])]

theorem sheet_overlays_defaults_brokerSheet :
    brokerSheet.text = "mqtt:\n  client_id: \"listener \\\"1\\\"\"\n  retries: -3\n  port: 1884\n" ++
      "port: 7\nheartbeat_period_secs: 5\n" ∧
    ofYaml brokerSheet.text = .ok
      { heartbeatPeriodSecs := 5, mqtt := { port := 1884, clientId := some "listener \"1\"" } } ∧
    ∃ path name, ofYaml doubledSheet.text =
      .error (.yaml (.mismatch path (.duplicateField name))) := by
  have valid : brokerSheet.config.validate = .ok () :=
    ListenerConfig.validate_eq_ok_iff.2 fun s => by cases s <;> decide
  exact ⟨by decide, ((sheet_overlays_defaults brokerSheet).1 (by decide)).1 valid,
    (sheet_overlays_defaults doubledSheet).2 (by decide)⟩

end ActualState.Config
