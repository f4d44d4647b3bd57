import ActualState.Proofs.Yaml.Pages

/-!
# The trees of simple pages

The builder goes through the tokens of a page with one open mapping, or two within a section. A
key without anything after it is closed by the token that follows, so what counts after an entry is
only how the next key or the end of the mapping is taken.
-/
namespace ActualState.Yaml

/-! ### The tree of a page -/

/-- The node of a key. -/
def Word.node (w : Word) : Node := .scalar none w.text .plain none

/-- A line of a section as an entry of a mapping. -/
def Row.entry (row : Row) : Node × Node := (row.1.node, row.2.node)

/-- The node of what stands at a key. -/
def Item.node : Item → Node
  | .scalar v => v.node
  | .rows [] => .empty
  | .rows rs => .mapping none (rs.map Row.entry) true

/-- The entries of a page. -/
def Page.entries (page : Page) : List (Node × Node) := page.map fun e => (e.1.node, e.2.node)

namespace Builder

open Lexer (wordTokens rowTokens itemTokens pageTokens)

/-- Where something is due, in a document without anchors and handles. -/
def ofDue (d : Due) : Builder := { due := d }

/-- After these entries of a block mapping, last one first. -/
def afterEntries (entries : List (Node × Node)) (around : List Frame) : Builder :=
  ofDue (.nextKey .block none entries around)

/-- Behind the colon of a key. -/
def atValue (entries : List (Node × Node)) (w : Word) (around : List Frame) : Builder :=
  ofDue (.slot (.value .block none entries w.node) around)

section Mapping

variable (entries : List (Node × Node)) (w : Word) (around : List Frame)

theorem foldl_word :
    (wordTokens w).foldl step (afterEntries entries around) = atValue entries w around := rfl

theorem step_scalar (v : Scalar) :
    (atValue entries w around).step v.token = afterEntries ((w.node, v.node) :: entries) around :=
  rfl

/-- A section begins. -/
theorem step_section : (atValue entries w around).step .blockMappingStart =
    afterEntries [] (.value .block none entries w.node :: around) :=
  rfl

/-- A section ends. -/
theorem step_sectionEnd (inner : List (Node × Node)) :
    (afterEntries inner (.value .block none entries w.node :: around)).step .blockEnd =
      afterEntries ((w.node, .mapping none inner.reverse true) :: entries) around :=
  rfl

theorem foldl_row (row : Row) :
    (rowTokens row).foldl step (afterEntries entries around) =
      afterEntries (row.entry :: entries) around := by
  rw [rowTokens, List.foldl_append, foldl_word]
  exact step_scalar entries row.1 around row.2

/-- The lines of a section, after some that were there. -/
theorem foldl_rows (rs : List Row) :
    (rs.flatMap rowTokens).foldl step (afterEntries entries around) =
      afterEntries ((rs.map Row.entry).reverse ++ entries) around := by
  induction rs generalizing entries with
  | nil => rfl
  | cons row rs ih =>
    rw [List.flatMap_cons, List.foldl_append, foldl_row, ih]
    simp

end Mapping

/-- A state that takes the next key, or the end of the mapping, as it is taken after these
entries. -/
def Follows (b : Builder) (entries : List (Node × Node)) : Prop :=
  ∀ t, t = .key ∨ t = .blockEnd → b.step t = (afterEntries entries []).step t

/-- An entry, however the one before it is closed. -/
theorem foldl_entry {b : Builder} {entries : List (Node × Node)} (follows : b.Follows entries)
    (w : Word) (item : Item) :
    ((wordTokens w ++ itemTokens item).foldl step b).Follows ((w.node, item.node) :: entries) := by
  have key : (wordTokens w).foldl step b = atValue entries w [] := by
    rw [← foldl_word entries w []]
    simp only [wordTokens, List.foldl_cons, follows .key (.inl rfl)]
  rw [List.foldl_append, key]
  intro t next
  cases item with
  | scalar v => rfl
  | rows rs =>
    cases rs with
    | nil => rcases next with rfl | rfl <;> rfl
    | cons row rs =>
      have rows := foldl_rows [] [.value .block none entries w.node] (row :: rs)
      have tokens : itemTokens (.rows (row :: rs)) =
          .blockMappingStart :: ((row :: rs).flatMap rowTokens ++ [.blockEnd]) := rfl
      rw [tokens, List.foldl_cons, step_section, List.foldl_append, rows, List.foldl_cons,
        step_sectionEnd]
      simp [Item.node]

/-- A page from any of its keys on. -/
theorem foldl_page {b : Builder} {entries : List (Node × Node)} (follows : b.Follows entries)
    (page : Page) :
    ((pageTokens page ++ [Token.blockEnd, .streamEnd]).foldl step b).due =
      .done ⟨some (.mapping none (entries.reverse ++ Page.entries page) true), false⟩ := by
  induction page generalizing b entries with
  | nil =>
    have closed := follows .blockEnd (.inr rfl)
    simp only [pageTokens, List.flatMap_nil, List.nil_append, List.foldl_cons, closed]
    simp [Page.entries]
    rfl
  | cons e page ih =>
    have rest := ih (foldl_entry follows e.1 e.2)
    have tokens : pageTokens (e :: page) =
        (wordTokens e.1 ++ itemTokens e.2) ++ pageTokens page := rfl
    rw [tokens, List.append_assoc, List.foldl_append, rest]
    simp [Page.entries]

end Builder

/-- The text of a page is read as the mapping that it lists. -/
theorem ofText_page {page : Page} (some_ : page ≠ []) :
    Document.ofText (.ofList (Page.chars page)) =
      ⟨some (.mapping none (Page.entries page) true), false⟩ := by
  have begins : Builder.step {} .blockMappingStart = Builder.afterEntries [] [] := rfl
  have rest := Builder.foldl_page (b := Builder.afterEntries [] []) (fun t next => rfl) page
  rw [Document.ofText, String.toList_ofList, tokens_page some_, Document.ofTokens,
    List.foldl_cons, begins, rest]
  rfl

end ActualState.Yaml
