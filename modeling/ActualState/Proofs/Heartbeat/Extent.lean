import ActualState.Listener.Basic
import ActualState.Proofs.Json.Extent

/-!
# Messages that break off or run on

A heartbeat is read from a whole message only. A message that breaks off anywhere before its last
bracket is refused, and so is one with anything but white space behind that bracket; a listener
that is sent one of these stays as it is.
-/
namespace ActualState

open Time (Moment)

namespace Heartbeat

/-- A message that is refused, and that no listener takes notice of. -/
def IsRefused (payload : List UInt8) : Prop :=
  (∃ e, decode payload = .error e) ∧
    ∀ (l : Listener) (now : Moment), l.handleHeartbeat payload now = (l, none)

theorem isRefused_of_decode {payload : List UInt8} (h : ∀ a, decode payload ≠ .ok a) :
    IsRefused payload := by
  cases refused : decode payload with
  | error e => exact ⟨⟨e, refused⟩, fun l now => by simp [Listener.handleHeartbeat, refused]⟩
  | ok a => exact absurd refused (h a)

theorem isEnclosing_reader : Json.Reader.IsEnclosing reader :=
  Json.Reader.isEnclosing_readRecord _ _ _

/-- A message that is accepted can only be followed by white space. -/
theorem isBlank_of_decode {payload rest : List UInt8} {h a : Heartbeat}
    (accepted : decode payload = .ok h) (longer : decode (payload ++ rest) = .ok a) :
    Json.IsBlank rest := by
  by_contra solid
  have refused : decode (payload ++ rest) = Json.throwFault .malformed :=
    isEnclosing_reader.read_append accepted solid
  rw [refused] at longer
  contradiction

/-- What is cut off at the end of a message without white space there is not all white space. -/
theorem not_isBlank_of_rdropWhile {payload part rest : List UInt8}
    (cut : part ++ rest = payload.rdropWhile Json.isSpace) (some_ : rest ≠ []) :
    ¬ Json.IsBlank rest := by
  intro blank
  have whole : payload.rdropWhile Json.isSpace ≠ [] := by
    rw [← cut]
    exact List.append_ne_nil_of_right_ne_nil part some_
  have last : (payload.rdropWhile Json.isSpace).getLast whole = rest.getLast some_ := by
    simp only [← cut]
    exact List.getLast_append_of_ne_nil _ some_
  apply List.rdropWhile_last_not Json.isSpace payload whole
  rw [last]
  exact Json.isSpace_iff.2 (blank _ (List.getLast_mem some_))

/-- Less the white space at its end, a message that is accepted has no proper part that is
accepted, at whatever byte it breaks off; and all that may follow it is white space. -/
theorem only_whole_messages_pass {payload : List UInt8} {h : Heartbeat}
    (accepted : decode payload = .ok h) :
    let message := payload.rdropWhile Json.isSpace
    decode message = .ok h ∧
      (∀ part, part <+: message → part ≠ message → IsRefused part) ∧
      ∀ rest, (Json.IsBlank rest → decode (message ++ rest) = .ok h) ∧
        (¬ Json.IsBlank rest → IsRefused (message ++ rest)) := by
  intro message
  have around : message ++ payload.rtakeWhile Json.isSpace = payload :=
    List.rdropWhile_append_rtakeWhile
  have blank : Json.IsBlank (payload.rtakeWhile Json.isSpace) := fun b hb =>
    Json.isSpace_iff.1 (List.mem_rtakeWhile_imp hb)
  have whole : decode message = .ok h := by
    rw [← around] at accepted
    exact (isEnclosing_reader.read_append_blank blank).1 accepted
  refine ⟨whole, fun part cut proper => ?_, fun rest => ⟨fun blank => ?_, fun solid => ?_⟩⟩
  · obtain ⟨rest, cut⟩ := cut
    have some_ : rest ≠ [] := by
      rintro rfl
      exact proper ((List.append_nil part).symm.trans cut)
    apply isRefused_of_decode
    intro a early
    rw [← cut] at whole
    exact not_isBlank_of_rdropWhile cut some_ (isBlank_of_decode early whole)
  · exact (isEnclosing_reader.read_append_blank blank).2 whole
  · exact isRefused_of_decode fun a longer => solid (isBlank_of_decode whole longer)

/-- A message that breaks off in a number of a member that is skipped, and one that runs on with
the start of another. -/
theorem only_whole_messages_pass_cut_in_number :
    let message := Text.Utf8.ofString "\x7b\"x\":[\"é\",-12.5e3],\"dea\":\"a\"\x7d"
    let payload := message ++ [0x0A, 0x20]
    decode payload = .ok ⟨"a", []⟩ ∧ payload.rdropWhile Json.isSpace = message ∧
      IsRefused (message.take 15) ∧ IsRefused (message ++ [0x20, 0x7B]) := by
  intro message payload
  have accepted : decode payload = .ok ⟨"a", []⟩ := by decide +kernel
  have trimmed : payload.rdropWhile Json.isSpace = message := by decide +kernel
  obtain ⟨-, cut, longer⟩ := only_whole_messages_pass accepted
  rw [trimmed] at cut longer
  refine ⟨accepted, trimmed, cut _ (List.take_prefix 15 message) (by decide +kernel), ?_⟩
  exact (longer [0x20, 0x7B]).2 (by simp [Json.IsBlank])

end Heartbeat

end ActualState
