import ActualState.Proofs.Yaml.Steps

/-!
# Simple pages

A page is a block mapping of two levels, one line for each key: a scalar, or further lines that are
indented by two. Its text is read as the tree that it is meant to be. The lexer goes through it line
by line, with the tokens of the block structure where the indentation changes; the builder has one
entry after the other closed.
-/
namespace ActualState.Yaml

/-! ### Pages and their texts -/

/-- A key without quotes. -/
structure Word where
  text : String
  isWord : isWord text.toList = true
  short : text.toList.length ≤ maxKeyLength

/-- A text of printable ASCII. -/
structure Printable where
  text : String
  printable : ∀ c ∈ text.toList, isPrintable c = true

/-- A scalar. -/
inductive Scalar where
  | integer (i : Int)
  | flag (b : Bool)
  | text (s : Printable)

namespace Scalar

/-- What a scalar is read as. -/
def content : Scalar → String
  | .integer i => toString i
  | .flag b => toString b
  | .text s => s.text

/-- Texts are written between double quotes. -/
def style : Scalar → Style
  | .integer _ | .flag _ => .plain
  | .text _ => .doubleQuoted

/-- The characters of a scalar. -/
def chars (v : Scalar) : List Char :=
  if v.style = .plain then v.content.toList else quote v.content.toList

def token (v : Scalar) : Token := .scalar v.content v.style

def node (v : Scalar) : Node := .scalar none v.content v.style none

end Scalar

/-- A line of a section. -/
abbrev Row := Word × Scalar

/-- What stands at a key. -/
inductive Item where
  | scalar (v : Scalar)
  | rows (rs : List Row)

/-- The keys of a page, in order. -/
abbrev Page := List (Word × Item)

/-- The line of a key with a scalar. -/
def Row.line (row : Row) : List Char :=
  row.1.text.toList ++ ':' :: ' ' :: (row.2.chars ++ ['\n'])

/-- The lines of a section. -/
def indented (rs : List Row) : List Char := rs.flatMap fun row => ' ' :: ' ' :: row.line

/-- What follows the colon of a key. -/
def Item.chars : Item → List Char
  | .scalar v => ' ' :: (v.chars ++ ['\n'])
  | .rows rs => '\n' :: indented rs

/-- The text of a page. -/
def Page.chars (page : Page) : List Char :=
  page.flatMap fun e => e.1.text.toList ++ ':' :: e.2.chars

theorem Word.exists_chars (w : Word) : ∃ c ws, w.text.toList = c :: ws ∧ isInitial c = true := by
  have word := w.isWord
  cases chars : w.text.toList with
  | nil => simp [chars, Yaml.isWord] at word
  | cons c ws =>
    rw [chars] at word
    exact ⟨c, ws, rfl, (Bool.and_eq_true_iff.1 word).1⟩

/-! ### The lexer -/

namespace Lexer

open Scalar

/-- The tokens of a key and its colon. -/
def wordTokens (w : Word) : List Token := [.key, .scalar w.text .plain, .value]

def rowTokens (row : Row) : List Token := wordTokens row.1 ++ [row.2.token]

def itemTokens : Item → List Token
  | .scalar v => [v.token]
  | .rows [] => []
  | .rows rs => .blockMappingStart :: rs.flatMap rowTokens ++ [.blockEnd]

def pageTokens (page : Page) : List Token := page.flatMap fun e => wordTokens e.1 ++ itemTokens e.2

/-- A key, wherever its line begins. -/
theorem leads_key (w : Word) {r : List Char} (gap : atGap r = true) (p : Place)
    (columns : List Nat) (n : Nat) :
    let closed := columns.takeWhile (p.column < ·)
    let left := columns.dropWhile (p.column < ·)
    ∃ q m, p.column ≤ q.column ∧ Leads (atLine ⟨w.text.toList ++ ':' :: r, p⟩ columns n)
      ((closed.map fun _ => .blockEnd) ++
        (if opensAt left p.column then .blockMappingStart :: wordTokens w else wordTokens w))
      (afterColon ⟨r, q⟩ (if opensAt left p.column then p.column :: left else left) m) := by
  intro closed left
  obtain ⟨c, ws, chars, -⟩ := Word.exists_chars w
  have word := w.isWord
  have short := w.short
  have text : String.ofList (c :: ws) = w.text := by rw [← chars, String.ofList_toList]
  rw [chars] at word short
  obtain ⟨required, first⟩ := leads_word word short gap p columns n
  have inside : left.takeWhile ((p.skip (c :: ws).length).column < ·) = [] := by
    cases begins : left with
    | nil => rfl
    | cons d ds =>
      have stays : ¬ p.column < d := by
        have head := List.head?_dropWhile_not (p.column < ·) columns
        rw [show columns.dropWhile (p.column < ·) = d :: ds from begins] at head
        simpa using head
      have further : ¬ p.column + (c :: ws).length < d := by omega
      rw [Place.skip, List.takeWhile_cons, if_neg (by simpa using further)]
  obtain ⟨m, second⟩ := leads_colon (c :: ws) gap
    (k := ⟨n + closed.length, required, p⟩) (p := p.skip (c :: ws).length) rfl
    (Nat.add_le_add_left short p.index) inside
  refine ⟨(p.skip (c :: ws).length).skip 1, m, ?_, ?_⟩
  · simp only [Place.skip]
    omega
  · have tokens : keyTokens (opensAt left p.column) (c :: ws) =
        if opensAt left p.column then .blockMappingStart :: wordTokens w else wordTokens w := by
      rw [keyTokens, text]
      split <;> rfl
    rw [chars, ← tokens]
    exact first.trans second

/-- Digits are a plain scalar, with or without a minus sign. -/
theorem startsPlain_digits (n : Nat) {p : Place} (inside : p.column ≠ 0) :
    (∃ c ws, (Decimal.digits n).map Nat.digitChar = c :: ws ∧
      (∀ d ∈ c :: ws, isInner d = true) ∧ StartsPlain p (c :: ws)) ∧
    StartsPlain p ('-' :: (Decimal.digits n).map Nat.digitChar) := by
  have all : ∀ d ∈ (Decimal.digits n).map Nat.digitChar, isInitial d = true := by
    intro d hd
    obtain ⟨k, digit, rfl⟩ := List.mem_map.1 hd
    exact isInitial_digitChar (Decimal.areDigits_digits n k digit)
  cases chars : (Decimal.digits n).map Nat.digitChar with
  | nil => exact absurd (List.map_eq_nil_iff.1 chars) (Decimal.digits_ne_nil n)
  | cons c ws =>
    rw [chars] at all
    have initial := all c List.mem_cons_self
    exact ⟨⟨c, ws, rfl, fun d hd => isInner_of_isInitial (all d hd), .word initial⟩,
      .minus initial inside⟩

theorem startsPlain_content {v : Scalar} (plain : v.style = .plain) {p : Place}
    (inside : p.column ≠ 0) :
    ∃ c ws, v.content.toList = c :: ws ∧ (∀ d ∈ c :: ws, isInner d = true) ∧
      StartsPlain p (c :: ws) := by
  cases v with
  | text s => cases plain
  | flag b =>
    cases b with
    | true => exact ⟨'t', ['r', 'u', 'e'], rfl, List.all_eq_true.1 (by decide), .word rfl⟩
    | false => exact ⟨'f', ['a', 'l', 's', 'e'], rfl, List.all_eq_true.1 (by decide), .word rfl⟩
  | integer i =>
    cases i with
    | ofNat n =>
      rw [content, show Int.ofNat n = (n : Int) from rfl, toList_natCast]
      exact (startsPlain_digits n inside).1
    | negSucc n =>
      obtain ⟨⟨c, ws, chars, inner, -⟩, minus⟩ := startsPlain_digits (n + 1) inside
      rw [content, toList_negSucc]
      rw [chars] at minus ⊢
      refine ⟨'-', c :: ws, rfl, fun d hd => ?_, minus⟩
      rcases List.mem_cons.1 hd with rfl | later
      · rfl
      · exact inner d later

/-- A scalar on the line of its key leads to the next line. -/
theorem leads_scalar (v : Scalar) {cs : List Char} (line : BeginsLine cs) {k : Nat} {p : Place}
    (columns : List Nat) (n : Nat) (further : k < (afterColon ⟨cs, p⟩ columns n).leastColumn)
    (inside : columns.takeWhile (p.column + 1 < ·) = []) :
    ∃ q, q.column = k ∧
      Leads (afterColon ⟨' ' :: (v.chars ++ '\n' :: (List.replicate k ' ' ++ cs)), p⟩ columns n)
        [v.token] (atLine ⟨cs, q⟩ columns (n + 1)) := by
  by_cases plain : v.style = .plain
  · obtain ⟨c, ws, chars, inner, starts⟩ := startsPlain_content plain
      (p := p.skip 1) (Nat.succ_ne_zero _)
    have text : String.ofList (c :: ws) = v.content := by rw [← chars, String.ofList_toList]
    rw [Scalar.chars, if_pos plain, chars, token, plain, ← text]
    exact leads_plain inner starts line further inside
  · cases v with
    | integer i => exact absurd rfl plain
    | flag b => exact absurd rfl plain
    | text s =>
      have text : String.ofList s.text.toList = s.text := String.ofList_toList
      have quoted := leads_quoted (p := p) (n := n) s.printable line k inside
      rw [text] at quoted
      exact quoted

/-- A line with a word begins with it. -/
theorem beginsLine_word (w : Word) (r : List Char) : BeginsLine (w.text.toList ++ r) := by
  obtain ⟨c, ws, chars, initial⟩ := Word.exists_chars w
  exact .inr ⟨c, ws ++ r, by rw [chars, List.cons_append], initial⟩

/-- A line of a section, the first one or a later one. -/
theorem leads_row (row : Row) {cs : List Char} (line : BeginsLine cs) {k : Nat} (near : k ≤ 2)
    {p : Place} (at_ : p.column = 2) (first : Bool) (n : Nat) :
    ∃ q m, q.column = k ∧
      Leads (atLine ⟨row.line ++ (List.replicate k ' ' ++ cs), p⟩ (if first then [0] else [2, 0]) n)
        (if first then .blockMappingStart :: rowTokens row else rowTokens row)
        (atLine ⟨cs, q⟩ [2, 0] m) := by
  let r := ' ' :: (row.2.chars ++ '\n' :: (List.replicate k ' ' ++ cs))
  have text : row.line ++ (List.replicate k ' ' ++ cs) = row.1.text.toList ++ ':' :: r := by
    simp [Row.line, r]
  obtain ⟨q, m, further, key⟩ := leads_key row.1 (r := r) rfl p (if first then [0] else [2, 0]) n
  have inside : [2, 0].takeWhile (q.column + 1 < ·) = [] := by
    have less : ¬ q.column + 1 < 2 := by omega
    simp [less]
  obtain ⟨q', column, scalar⟩ :=
    leads_scalar row.2 (p := q) line [2, 0] m (Nat.lt_succ_of_le near) inside
  refine ⟨q', m + 1, column, ?_⟩
  rw [text]
  cases first with
  | true =>
    have whole := key.trans (by simpa [at_, opensAt] using scalar)
    simpa [at_, opensAt, rowTokens] using whole
  | false =>
    have whole := key.trans (by simpa [at_, opensAt] using scalar)
    simpa [at_, opensAt, rowTokens] using whole

/-- What follows a line: another line of the section, or what comes after it. -/
theorem indented_append (rs : List Row) {cs : List Char} (line : BeginsLine cs) :
    ∃ k cs', k ≤ 2 ∧ indented rs ++ cs = List.replicate k ' ' ++ cs' ∧ BeginsLine cs' ∧
      ((rs = [] ∧ k = 0 ∧ cs' = cs) ∨
        ∃ row rest, rs = row :: rest ∧ k = 2 ∧ cs' = row.line ++ (indented rest ++ cs)) := by
  cases rs with
  | nil => exact ⟨0, cs, Nat.zero_le 2, rfl, line, .inl ⟨rfl, rfl, rfl⟩⟩
  | cons row rest =>
    refine ⟨2, row.line ++ (indented rest ++ cs), Nat.le_refl 2, ?_, ?_,
      .inr ⟨row, rest, rfl, rfl, rfl⟩⟩
    · simp [indented, List.replicate_succ]
    · rw [Row.line, List.append_assoc]
      exact beginsLine_word row.1 _

/-- The lines of a section, from any of them on. -/
theorem leads_rows (row : Row) (rs : List Row) {cs : List Char} (line : BeginsLine cs) {p : Place}
    (at_ : p.column = 2) (first : Bool) (n : Nat) :
    ∃ q m, q.column = 0 ∧
      Leads (atLine ⟨row.line ++ (indented rs ++ cs), p⟩ (if first then [0] else [2, 0]) n)
        ((if first then [.blockMappingStart] else []) ++ (row :: rs).flatMap rowTokens)
        (atLine ⟨cs, q⟩ [2, 0] m) := by
  induction rs generalizing row p first n with
  | nil =>
    obtain ⟨q, m, column, last⟩ := leads_row row line (Nat.zero_le 2) at_ first n
    refine ⟨q, m, column, ?_⟩
    cases first <;> simpa [indented] using last
  | cons next rs ih =>
    obtain ⟨k, cs', near, text, line', follows⟩ := indented_append (next :: rs) line
    rcases follows with ⟨none_, -⟩ | ⟨row', rest, same, rfl, rfl⟩
    · cases none_
    · cases same
      obtain ⟨q, m, column, here⟩ := leads_row row line' near at_ first n
      obtain ⟨q', m', column', others⟩ := ih next column false m
      refine ⟨q', m', column', ?_⟩
      rw [text]
      have whole := here.trans others
      cases first <;> simpa using whole

/-- The columns that can be open before a line in the first column, each with the tokens that such
a line begins with. -/
inductive Around : List Nat → List Token → Prop
  | start : Around [] [.blockMappingStart]
  | line : Around [0] []
  | rows : Around [2, 0] [.blockEnd]

/-- What follows the colon of a key in the first column. -/
theorem leads_item (item : Item) {cs : List Char} (line : BeginsLine cs) (p : Place) (n : Nat) :
    ∃ q columns m ts before, q.column = 0 ∧ Around columns before ∧ columns ≠ [] ∧
      ts ++ before = itemTokens item ∧
      Leads (afterColon ⟨item.chars ++ cs, p⟩ [0] n) ts (atLine ⟨cs, q⟩ columns m) := by
  cases item with
  | scalar v =>
    have inside : [0].takeWhile (p.column + 1 < ·) = [] := by simp
    obtain ⟨q, column, scalar⟩ := leads_scalar v (p := p) line [0] n Nat.one_pos inside
    refine ⟨q, [0], n + 1, [v.token], [], column, .line, by simp, rfl, ?_⟩
    simpa [Item.chars] using scalar
  | rows rs =>
    cases rs with
    | nil => exact ⟨_, [0], n, [], [], rfl, .line, by simp, rfl, leads_break line 0 p [0] n⟩
    | cons row rs =>
      have begins : BeginsLine (row.line ++ (indented rs ++ cs)) := by
        rw [Row.line, List.append_assoc]
        exact beginsLine_word row.1 _
      obtain ⟨q, m, column, rows⟩ := leads_rows row rs line
        (show (p.nextLine.skip 2).column = 2 from rfl) true n
      have text : (Item.rows (row :: rs)).chars ++ cs =
          '\n' :: (List.replicate 2 ' ' ++ (row.line ++ (indented rs ++ cs))) := by
        simp [Item.chars, indented, List.replicate_succ]
      refine ⟨q, [2, 0], m, .blockMappingStart :: (row :: rs).flatMap rowTokens, [.blockEnd],
        column, .rows, by simp, rfl, ?_⟩
      · rw [text]
        exact (leads_break begins 2 p [0] n).trans rows

/-- A key in the first column, with all that belongs to it. -/
theorem leads_entry (w : Word) (item : Item) {cs : List Char} (line : BeginsLine cs) {p : Place}
    (top : p.column = 0) {columns : List Nat} {before : List Token} (around : Around columns before)
    (n : Nat) :
    ∃ q columns' m ts before', q.column = 0 ∧ Around columns' before' ∧ columns' ≠ [] ∧
      ts ++ before' = before ++ (wordTokens w ++ itemTokens item) ∧
      Leads (atLine ⟨w.text.toList ++ ':' :: (item.chars ++ cs), p⟩ columns n) ts
        (atLine ⟨cs, q⟩ columns' m) := by
  have gap : atGap (item.chars ++ cs) = true := by
    cases item <;> rfl
  obtain ⟨q, m, -, key⟩ := leads_key w gap p columns n
  have key' : Leads (atLine ⟨w.text.toList ++ ':' :: (item.chars ++ cs), p⟩ columns n)
      (before ++ wordTokens w) (afterColon ⟨item.chars ++ cs, q⟩ [0] m) := by
    cases around <;> simpa [top, opensAt] using key
  obtain ⟨q', columns', m', ts, before', column, around', some_, tokens, rest⟩ :=
    leads_item item line q m
  refine ⟨q', columns', m', before ++ wordTokens w ++ ts, before', column, around', some_, ?_,
    key'.trans rest⟩
  rw [List.append_assoc, tokens, List.append_assoc]

theorem beginsLine_page (page : Page) : BeginsLine (Page.chars page) := by
  cases page with
  | nil => exact .inl rfl
  | cons e page =>
    rw [Page.chars, List.flatMap_cons, List.append_assoc]
    exact beginsLine_word e.1 _

/-- The tokens of a page from any of its keys on. -/
theorem run_page (page : Page) {p : Place} (top : p.column = 0) {columns : List Nat}
    {before : List Token} (around : Around columns before) (some_ : columns = [] → page ≠ [])
    (n : Nat) {fuel : Nat} (enough : (Page.chars page).length < fuel) :
    (atLine ⟨Page.chars page, p⟩ columns n).run fuel =
      before ++ (pageTokens page ++ [.blockEnd, .streamEnd]) := by
  induction page generalizing p columns before n fuel with
  | nil =>
    obtain ⟨fuel, rfl⟩ : ∃ k, fuel = k + 1 := ⟨fuel - 1, by omega⟩
    have ended := run_atEnd p columns n fuel top
    rw [show Page.chars [] = [] from rfl, ended]
    cases around with
    | start => exact absurd rfl (some_ rfl)
    | line => rfl
    | rows => rfl
  | cons e page ih =>
    obtain ⟨q, columns', m, ts, before', column, around', left, tokens, leads⟩ :=
      leads_entry e.1 e.2 (beginsLine_page page) top around n
    have text : Page.chars (e :: page) =
        e.1.text.toList ++ ':' :: (e.2.chars ++ Page.chars page) := by
      simp [Page.chars]
    rw [text] at enough ⊢
    obtain ⟨fuel', enough', first⟩ := leads fuel enough
    have rest := ih column around' (fun none_ => absurd none_ left) m enough'
    rw [first, rest, ← List.append_assoc, tokens]
    simp [pageTokens]

end Lexer

/-! ### The text as a whole -/

theorem printable_word (w : Word) : ∀ c ∈ w.text.toList, isPrintable c = true := by
  obtain ⟨c, ws, chars, initial⟩ := Word.exists_chars w
  have word := w.isWord
  rw [chars] at word ⊢
  have inner := (Bool.and_eq_true_iff.1 word).2
  intro d hd
  rcases List.mem_cons.1 hd with rfl | later
  · exact isPrintable_of_isInner (isInner_of_isInitial initial)
  · exact isPrintable_of_isInner (List.all_eq_true.1 inner d later)

theorem printable_quote {cs : List Char} (printable : ∀ c ∈ cs, isPrintable c = true) :
    ∀ c ∈ quote cs, isPrintable c = true := by
  intro c hc
  simp only [quote, List.mem_append, List.mem_cons, List.mem_flatMap, List.not_mem_nil,
    or_false] at hc
  rcases hc with (rfl | ⟨d, hd, hc⟩) | rfl
  · rfl
  · unfold escape at hc
    split at hc
    · simp only [List.mem_cons, List.not_mem_nil, or_false] at hc
      rcases hc with rfl | rfl
      · rfl
      · exact printable _ hd
    · rw [List.mem_singleton.1 hc]
      exact printable _ hd
  · rfl

theorem printable_scalar (v : Scalar) : ∀ c ∈ v.chars, isPrintable c = true := by
  by_cases plain : v.style = .plain
  · obtain ⟨c, ws, chars, inner, -⟩ :=
      Lexer.startsPlain_content plain (p := ⟨0, 0, 1⟩) Nat.one_ne_zero
    rw [Scalar.chars, if_pos plain, chars]
    exact fun d hd => isPrintable_of_isInner (inner d hd)
  · cases v with
    | integer i => exact absurd rfl plain
    | flag b => exact absurd rfl plain
    | text s => exact printable_quote s.printable

/-- A character of a page: printable, or the end of a line. -/
def IsPlain (c : Char) : Prop := c = '\n' ∨ isPrintable c = true

theorem isPlain_line (row : Row) : ∀ c ∈ row.line, IsPlain c := by
  intro c hc
  simp only [Row.line, List.mem_append, List.mem_cons, List.not_mem_nil, or_false] at hc
  rcases hc with word | rfl | rfl | scalar | rfl
  · exact .inr (printable_word row.1 c word)
  · exact .inr rfl
  · exact .inr rfl
  · exact .inr (printable_scalar row.2 c scalar)
  · exact .inl rfl

theorem isPlain_item (item : Item) : ∀ c ∈ item.chars, IsPlain c := by
  intro c hc
  cases item with
  | scalar v =>
    simp only [Item.chars, List.mem_append, List.mem_cons, List.not_mem_nil, or_false] at hc
    rcases hc with rfl | scalar | rfl
    · exact .inr rfl
    · exact .inr (printable_scalar v c scalar)
    · exact .inl rfl
  | rows rs =>
    simp only [Item.chars, indented, List.mem_cons, List.mem_flatMap] at hc
    rcases hc with rfl | ⟨row, -, rfl | rfl | line⟩
    · exact .inl rfl
    · exact .inr rfl
    · exact .inr rfl
    · exact isPlain_line row c line

theorem isPlain_page (page : Page) : ∀ c ∈ Page.chars page, IsPlain c := by
  intro c hc
  obtain ⟨e, -, entry⟩ := List.mem_flatMap.1 hc
  simp only [List.mem_append, List.mem_cons] at entry
  rcases entry with word | rfl | item
  · exact .inr (printable_word e.1 c word)
  · exact .inr rfl
  · exact isPlain_item e.2 c item

/-- All line breaks are of one kind already. -/
theorem unifyBreaks_of_isPlain {cs : List Char} (plain : ∀ c ∈ cs, IsPlain c) :
    unifyBreaks cs = cs := by
  induction cs with
  | nil => rfl
  | cons c cs ih =>
    have rest := ih fun d hd => plain d (List.mem_cons_of_mem c hd)
    have first := plain c List.mem_cons_self
    have noReturn : c ≠ '\r' := by
      rintro rfl
      simp [IsPlain, isPrintable] at first
    have noNext : c ≠ '\u0085' := by
      rintro rfl
      simp [IsPlain, isPrintable] at first
    rw [unifyBreaks, rest] <;> simp [noReturn, noNext]

/-- The tokens of the text of a page. -/
theorem tokens_page {page : Page} (some_ : page ≠ []) :
    tokens (Page.chars page) =
      .blockMappingStart :: (Lexer.pageTokens page ++ [.blockEnd, .streamEnd]) := by
  have plain := isPlain_page page
  have noMark : (Page.chars page).head? ≠ some '\uFEFF' := by
    intro mark
    have first := plain _ (List.mem_of_mem_head? mark)
    simp [IsPlain, isPrintable] at first
  have allowed : (Page.chars page).all isAllowed = true := by
    refine List.all_eq_true.2 fun c hc => ?_
    rcases plain c hc with rfl | printable
    · rfl
    · exact isAllowed_of_isPrintable printable
  have run := Lexer.run_page page (p := {}) rfl .start (fun _ => some_) 0
    (Nat.lt_succ_self (Page.chars page).length)
  rw [tokens]
  simp only [noMark, if_false, allowed, if_true, unifyBreaks_of_isPlain plain]
  exact run

end ActualState.Yaml
