import Mathlib.Data.List.TakeWhile
import ActualState.Proofs.Yaml.Words

/-!
# The lexer line by line

What the lexer does with a line that holds a key and at most one scalar. Two states recur: before
the first character of a line (`atLine`) and behind the colon of a key (`afterColon`). `Leads` is
what is common to one step and to many: these tokens come out between two states, as long as the
steps last, which is one for each character at most.
-/
namespace ActualState.Yaml.Lexer

/-! ### Between two states -/

/-- From one state to another, with some tokens on the way. -/
def Leads (l : Lexer) (ts : List Token) (m : Lexer) : Prop :=
  ∀ fuel, l.rest.chars.length < fuel →
    ∃ fuel', m.rest.chars.length < fuel' ∧ l.run fuel = ts ++ m.run fuel'

theorem Leads.trans {l m n : Lexer} {ts us : List Token} (h : Leads l ts m) (k : Leads m us n) :
    Leads l (ts ++ us) n := by
  intro fuel enough
  obtain ⟨fuel', enough', first⟩ := h fuel enough
  obtain ⟨fuel'', enough'', second⟩ := k fuel' enough'
  exact ⟨fuel'', enough'', by rw [first, second, List.append_assoc]⟩

/-- One step that gets further in the text. -/
theorem leads_of_advance {l m n : Lexer} {ts : List Token}
    (next : l.advance.bind dropStaleKeys = some m) (settled : m.settle = (ts, n))
    (open_ : n.ended = false) (further : n.rest.chars.length < l.rest.chars.length) :
    Leads l ts n := by
  intro fuel enough
  obtain ⟨fuel, rfl⟩ : ∃ k, fuel = k + 1 := ⟨fuel - 1, by omega⟩
  refine ⟨fuel, by omega, ?_⟩
  simp [run, next, settled, open_]

/-- What counts of a state is what is left after the gap before the next token. -/
theorem run_congr {l m : Lexer} (same : l.skipGap (l.rest.chars.length + 1) =
    m.skipGap (m.rest.chars.length + 1)) (fuel : Nat) : l.run fuel = m.run fuel := by
  cases fuel with
  | zero => rfl
  | succ fuel => simp only [run, advance, same]

/-- A gap that leads to another state gives no tokens. -/
theorem leads_of_skipGap {l m : Lexer} (gap : l.skipGap (l.rest.chars.length + 1) = m)
    (still : m.skipGap (m.rest.chars.length + 1) = m)
    (less : m.rest.chars.length ≤ l.rest.chars.length) : Leads l [] m :=
  fun fuel enough => ⟨fuel, by omega, run_congr (gap.trans still.symm) fuel⟩

/-! ### Gaps -/

/-- A character that a gap ends at. -/
def isVisible (c : Char) : Bool := '!' ≤ c && c ≤ '~' && c != '#'

theorem isVisible_of_isInner {c : Char} (h : isInner c = true) : isVisible c = true := by
  simp only [isInner, isVisible, Bool.and_eq_true] at h ⊢
  exact ⟨h.1.1, h.2⟩

theorem isBlank_of_isVisible {c : Char} (h : isVisible c = true) : isBlank c = false := by
  simp only [isVisible, isBlank, Bool.and_eq_true, Bool.or_eq_false_iff, decide_eq_true_eq,
    decide_eq_false_iff_not, bne_iff_ne, ne_eq, le_iff_toNat, eq_iff_toNat,
    Char.reduceToNat] at h ⊢
  omega

theorem isBreak_of_isVisible {c : Char} (h : isVisible c = true) : isBreak c = false := by
  simp only [isVisible, isBreak, Bool.and_eq_true, Bool.or_eq_false_iff, decide_eq_true_eq,
    decide_eq_false_iff_not, bne_iff_ne, ne_eq, le_iff_toNat, eq_iff_toNat,
    Char.reduceToNat] at h ⊢
  omega

/-- What stands behind a gap: something visible, or the end of the text. -/
def EndsGap (cs : List Char) : Prop := cs = [] ∨ ∃ c r, cs = c :: r ∧ isVisible c = true

theorem endsGap_of_beginsLine {cs : List Char} (h : BeginsLine cs) : EndsGap cs := by
  rcases h with rfl | ⟨c, r, rfl, initial⟩
  · exact .inl rfl
  · exact .inr ⟨c, r, rfl, isVisible_of_isInner (isInner_of_isInitial initial)⟩

section Gap

variable {l : Lexer} {cs : List Char} {p : Place}

/-- Spaces before something visible. -/
theorem skipGap_spaces (ends : EndsGap cs) {k : Nat}
    (rest : l.rest = ⟨List.replicate k ' ' ++ cs, p⟩) (fuel : Nat) :
    l.skipGap (fuel + 1) = { l with rest := ⟨cs, p.skip k⟩ } := by
  have noMark : l.rest.skipMark = l.rest := by
    have other : l.rest.chars.head? ≠ some '\uFEFF' := by
      rw [rest]
      cases k with
      | zero =>
        rcases ends with rfl | ⟨c, r, rfl, visible⟩
        · simp
        · rintro mark
          cases (Option.some.inj mark)
          cases visible
      | succ k => simp [List.replicate_succ]
    simp [Rest.skipMark, other]
  have blanks (tabs : Bool) : ((List.replicate k ' ' ++ cs).takeWhile
      fun c => c = ' ' || (tabs && c = '\t')).length = k := by
    rw [List.takeWhile_append_of_pos (by simp +contextual)]
    rcases ends with rfl | ⟨c, r, rfl, visible⟩
    · simp
    · have blank := isBlank_of_isVisible visible
      simp only [isBlank, Bool.or_eq_false_iff] at blank
      simp [blank.1, blank.2]
  have skipped : l.rest.skip k = ⟨cs, p.skip k⟩ := by simp [rest, Rest.skip]
  rw [skipGap, noMark]
  simp only [rest, blanks] at skipped ⊢
  rw [skipped]
  rcases ends with rfl | ⟨c, r, rfl, visible⟩
  · rfl
  · have hash : c ≠ '#' := by
      rintro rfl
      cases visible
    have noComment : (⟨c :: r, p.skip k⟩ : Rest).skipComment = ⟨c :: r, p.skip k⟩ := by
      unfold Rest.skipComment
      split
      · simp_all
      · rfl
    rw [noComment]
    simp [isBreak_of_isVisible visible]

/-- A line break, and the indentation of the next line. -/
theorem skipGap_break (ends : EndsGap cs) (outside : l.outerKeys = []) {k : Nat}
    (rest : l.rest = ⟨'\n' :: (List.replicate k ' ' ++ cs), p⟩) (fuel : Nat) :
    l.skipGap (fuel + 2) =
      { l with rest := ⟨cs, p.nextLine.skip k⟩, keyAllowed := true } := by
  have next := skipGap_spaces
    (l := { l with rest := ⟨List.replicate k ' ' ++ cs, p.nextLine⟩, keyAllowed := true }) ends rfl
    fuel
  have flow : l.inFlow = false := by simp [inFlow, outside]
  rw [skipGap]
  simp [rest, Rest.skipMark, Rest.skip, Rest.skipComment, Rest.skipBreak, isBreak, flow, next,
    Place.skip]

end Gap

/-! ### The two states -/

/-- Before the first character of a line. -/
def atLine (r : Rest) (columns : List Nat) (settled : Nat) : Lexer :=
  { rest := r, columns, settled }

/-- Behind the colon of a key. -/
def afterColon (r : Rest) (columns : List Nat) (settled : Nat) : Lexer :=
  { rest := r, columns, settled, keyAllowed := false }

section Lines

variable {cs r : List Char} {p : Place} {columns : List Nat} {n : Nat}

theorem skipGap_atLine (ends : EndsGap cs) (p : Place) (columns : List Nat) (n fuel : Nat) :
    (atLine ⟨cs, p⟩ columns n).skipGap (fuel + 1) = atLine ⟨cs, p⟩ columns n :=
  skipGap_spaces (k := 0) ends rfl fuel

/-- A key without a scalar leads to the next line. -/
theorem leads_break (line : BeginsLine cs) (k : Nat) (p : Place) (columns : List Nat) (n : Nat) :
    Leads (afterColon ⟨'\n' :: (List.replicate k ' ' ++ cs), p⟩ columns n) []
      (atLine ⟨cs, p.nextLine.skip k⟩ columns n) := by
  have ends := endsGap_of_beginsLine line
  refine leads_of_skipGap ?_ (skipGap_atLine ends _ columns n _) ?_
  · exact skipGap_break (l := afterColon _ columns n) ends rfl rfl _
  · simp only [afterColon, atLine, List.length_cons, List.length_append]
    omega

/-! ### Keys -/

/-- A key that is not settled yet. -/
theorem dropStaleKeys_of_key {l : Lexer} {k : PendingKey} (key : l.key = some k)
    (outside : l.outerKeys = []) (fresh : l.isStale k = false) : l.dropStaleKeys = some l := by
  obtain ⟨rest, cols, _, _, allowed, held, settled, ended⟩ := l
  subst key outside
  simp [dropStaleKeys, fresh]

theorem dropStaleKeys_of_none {l : Lexer} (key : l.key = none) (outside : l.outerKeys = []) :
    l.dropStaleKeys = some l := by
  obtain ⟨rest, cols, _, _, allowed, held, settled, ended⟩ := l
  subst key outside
  simp [dropStaleKeys]

/-- A character that no indicator is. -/
theorem not_contains_of_isInitial {c : Char} (h : isInitial c = true) {ds : List Char}
    (others : ds.any isInitial = false) : ds.contains c = false := by
  rw [Bool.eq_false_iff]
  intro found
  exact List.any_eq_false.1 others c (List.contains_iff_mem.1 found) h

/-- How a plain scalar begins: like a word, or with a minus sign inside a line. -/
inductive StartsPlain (p : Place) : List Char → Prop
  | word {c : Char} {r : List Char} (initial : isInitial c = true) : StartsPlain p (c :: r)
  | minus {c : Char} {r : List Char} (initial : isInitial c = true) (inside : p.column ≠ 0) :
    StartsPlain p ('-' :: c :: r)

theorem take_eq_takePlain {l : Lexer} (starts : StartsPlain l.rest.place l.rest.chars)
    (outside : l.outerKeys = []) : l.take = l.takePlain := by
  have flow : l.inFlow = false := by simp [inFlow, outside]
  generalize chars : l.rest.chars = cs at starts
  cases starts with
  | @word c r initial =>
    have other {d : Char} (h : isInitial d = false) : c ≠ d := ne_of_isInitial initial h
    have inner := isInner_of_isInitial initial
    have begins : beginsPlain l.inFlow (c :: r) = true := by
      have indicator : ",[]\x7b\x7d#&*!|>'\"%@`".toList.contains c = false :=
        not_contains_of_isInitial initial (by decide)
      simp [beginsPlain, other (d := '-') rfl, other (d := '?') rfl, other (d := ':') rfl,
        isBlank_of_isInner inner, isBreak_of_isPrintable (isPrintable_of_isInner inner)]
      simpa using indicator
    rw [flow] at begins
    simp [take, chars, flow, atMarker_of_isInitial initial, other (d := '-') rfl,
      other (d := '?') rfl, other (d := ':') rfl, other (d := '%') rfl, other (d := '[') rfl,
      other (d := ']') rfl, other (d := '\x7b') rfl, other (d := '\x7d') rfl, other (d := ',') rfl,
      other (d := '*') rfl, other (d := '&') rfl, other (d := '!') rfl, other (d := '|') rfl,
      other (d := '>') rfl, other (d := '\'') rfl, other (d := '"') rfl, begins]
  | @minus c r initial inside =>
    have inner := isInner_of_isInitial initial
    simp [take, chars, flow, inside, atGap, beginsPlain, isBlank_of_isInner inner,
      isBreak_of_isPrintable (isPrintable_of_isInner inner)]

/-- On the colon of a key. -/
def onColon (w : List Char) (r : Rest) (columns : List Nat) (k : PendingKey) : Lexer :=
  { rest := r, columns, key := some k, keyAllowed := false,
    held := [.scalar (.ofList w) .plain], settled := k.number }

/-- A key that is scanned, behind the block collections that end before it. -/
theorem leads_word {c : Char} {ws : List Char} (word : isWord (c :: ws) = true)
    (short : (c :: ws).length ≤ maxKeyLength) (gap : atGap r = true) (p : Place)
    (columns : List Nat) (n : Nat) :
    ∃ required, Leads (atLine ⟨c :: ws ++ ':' :: r, p⟩ columns n)
      ((columns.takeWhile (p.column < ·)).map fun _ => .blockEnd)
      (onColon (c :: ws) ⟨':' :: r, p.skip (c :: ws).length⟩ (columns.dropWhile (p.column < ·))
        ⟨n + (columns.takeWhile (p.column < ·)).length, required, p⟩) := by
  obtain ⟨initial, inner⟩ := Bool.and_eq_true_iff.1 word
  have all : ∀ d ∈ c :: ws, isInner d = true := by
    intro d hd
    rcases List.mem_cons.1 hd with rfl | later
    · exact isInner_of_isInitial initial
    · exact List.all_eq_true.1 inner d later
  have ends : EndsGap (c :: ws ++ ':' :: r) :=
    .inr ⟨c, ws ++ ':' :: r, rfl, isVisible_of_isInner (isInner_of_isInitial initial)⟩
  let closed := columns.takeWhile (p.column < ·)
  let m : Lexer :=
    { rest := ⟨c :: ws ++ ':' :: r, p⟩, columns := columns.dropWhile (p.column < ·),
      held := closed.map fun _ => .blockEnd, settled := n }
  let required := !m.inFlow && m.columns.head? = some p.column
  let k : PendingKey := ⟨n + closed.length, required, p⟩
  let m' : Lexer :=
    { rest := ⟨':' :: r, p.skip (c :: ws).length⟩, columns := m.columns, key := some k,
      keyAllowed := false, held := m.held ++ [.scalar (.ofList (c :: ws)) .plain], settled := n }
  have taken : (atLine ⟨c :: ws ++ ':' :: r, p⟩ columns n).advance = some m' := by
    have starts : StartsPlain m.rest.place m.rest.chars := .word initial
    rw [advance, skipGap_atLine ends]
    have fresh := dropStaleKeys_of_none (l := atLine ⟨c :: ws ++ ':' :: r, p⟩ columns n) rfl rfl
    simp only [fresh, Option.bind_eq_bind, Option.bind_some]
    change m.take = some m'
    have noted : m.noteKey = some { m with key := some k } := by
      simp [noteKey, dropKey, m, k, required, closed]
    have scanned := scanPlain_key (p := p) all (fun _ => initial) gap m.leastColumn
    rw [take_eq_takePlain starts rfl, takePlain, noted]
    simp only [Option.bind_eq_bind, Option.bind_some]
    change (scanPlain false m.leastColumn true [] {} p (c :: ws ++ ':' :: r)).bind _ = some m'
    rw [scanned]
    rfl
  have fresh : m'.isStale k = false := by
    simpa [isStale, m', k, Place.skip] using short
  refine ⟨required, leads_of_advance (m := m') ?_ ?_ rfl ?_⟩
  · rw [taken]
    exact dropStaleKeys_of_key rfl rfl fresh
  · simp [settle, m', m, k, onColon, closed]
  · simp only [onColon, atLine, List.length_append, List.length_cons]
    omega

/-- Whether a block mapping begins at a column inside the open collections. -/
def opensAt (columns : List Nat) (column : Nat) : Bool :=
  match columns with
  | [] => true
  | c :: _ => c < column

theorem leastColumn_le_iff {l : Lexer} {column : Nat} :
    l.leastColumn ≤ column ↔ opensAt l.columns column = true := by
  cases open_ : l.columns with
  | nil => simp [leastColumn, opensAt, open_]
  | cons c cs => simp only [leastColumn, opensAt, open_, decide_eq_true_iff, Nat.add_one_le_iff]

/-- The tokens around a key, which begins a block mapping or goes on with one. -/
def keyTokens (opens : Bool) (w : List Char) : List Token :=
  (if opens then [.blockMappingStart, .key] else [.key]) ++ [.scalar (.ofList w) .plain, .value]

/-- The colon makes a key of the word before it. -/
theorem leads_colon (w : List Char) (gap : atGap r = true) {k : PendingKey}
    (line : k.place.line = p.line) (short : p.index ≤ k.place.index + maxKeyLength)
    (inside : columns.takeWhile (p.column < ·) = []) :
    ∃ n, Leads (onColon w ⟨':' :: r, p⟩ columns k) (keyTokens (opensAt columns k.place.column) w)
      (afterColon ⟨r, p.skip 1⟩
        (if opensAt columns k.place.column then k.place.column :: columns else columns) n) := by
  let l := onColon w ⟨':' :: r, p⟩ columns k
  have fresh : l.isStale k = false := by simp [isStale, l, onColon, line, short]
  have visible : EndsGap (':' :: r) := .inr ⟨':', r, rfl, rfl⟩
  have still : l.skipGap (l.rest.chars.length + 1) = l :=
    skipGap_spaces (l := l) (k := 0) visible rfl _
  have closed : l.closeWhile (fun column => l.rest.place.column < column) = l := by
    have kept : columns.dropWhile (p.column < ·) = columns :=
      List.dropWhile_eq_self_iff.2 (List.takeWhile_eq_nil_iff.1 inside)
    simp [closeWhile, l, onColon, inFlow, inside, kept]
  have opened : l.openBlock k.place.column = (opensAt columns k.place.column,
      { l with columns := if opensAt columns k.place.column then k.place.column :: columns
        else columns }) := by
    by_cases opens : opensAt columns k.place.column
    · simp [openBlock, l, onColon, inFlow, leastColumn_le_iff, opens]
    · simp [openBlock, l, onColon, inFlow, leastColumn_le_iff, opens]
  have taken : l.advance = l.takeValue := by
    rw [advance, still]
    simp only [dropStaleKeys_of_key (l := l) rfl rfl fresh, Option.bind_eq_bind, Option.bind_some,
      closed]
    simp [take, l, onColon, atMarker, inFlow, gap]
  let m : Lexer :=
    { rest := ⟨r, p.skip 1⟩,
      columns := if opensAt columns k.place.column then k.place.column :: columns else columns,
      keyAllowed := false, held := keyTokens (opensAt columns k.place.column) w,
      settled := k.number }
  have value : l.takeValue = some m := by
    have key : l.key = some k := rfl
    unfold takeValue
    simp only [key, opened]
    simp [insertAt, addMark, allowKey, add, Rest.skip, l, onColon, m, keyTokens]
  refine ⟨k.number + m.held.length, leads_of_advance (m := m) ?_ ?_ rfl ?_⟩
  · rw [show (onColon w ⟨':' :: r, p⟩ columns k).advance = l.takeValue from taken, value]
    exact dropStaleKeys_of_none (l := m) rfl rfl
  · simp [settle, m, afterColon]
  · simp [afterColon, onColon]

/-! ### Scalars -/

/-- A scalar on the line of its key ends no block collection. -/
theorem advance_afterColon (ends : EndsGap cs) (k : Nat)
    (inside : columns.takeWhile (p.column + k < ·) = []) :
    (afterColon ⟨List.replicate k ' ' ++ cs, p⟩ columns n).advance =
      (afterColon ⟨cs, p.skip k⟩ columns n).take := by
  have kept : columns.dropWhile (p.column + k < ·) = columns :=
    List.dropWhile_eq_self_iff.2 (List.takeWhile_eq_nil_iff.1 inside)
  have gap := skipGap_spaces (l := afterColon ⟨List.replicate k ' ' ++ cs, p⟩ columns n) ends rfl
    (afterColon ⟨List.replicate k ' ' ++ cs, p⟩ columns n).rest.chars.length
  rw [advance, gap]
  simp [afterColon, dropStaleKeys, closeWhile, inFlow, Place.skip, inside, kept]

theorem StartsPlain.append {q : Place} {ws : List Char} (h : StartsPlain q ws) (r : List Char) :
    StartsPlain q (ws ++ r) := by
  cases h with
  | word initial => exact .word initial
  | minus initial inside => exact .minus initial inside

/-- One token that is held back no longer. -/
theorem settle_scalar (t : Token) (r : Rest) (columns : List Nat) (allowed : Bool) (n : Nat) :
    ({ rest := r, columns, keyAllowed := allowed, held := [t], settled := n } : Lexer).settle =
      ([t], { rest := r, columns, keyAllowed := allowed, settled := n + 1 }) := by
  simp [settle]

/-- A plain scalar leads to the next line. -/
theorem leads_plain {c : Char} {ws : List Char} (inner : ∀ d ∈ c :: ws, isInner d = true)
    (starts : StartsPlain (p.skip 1) (c :: ws)) (line : BeginsLine cs) {k : Nat}
    (further : k < (afterColon ⟨cs, p⟩ columns n).leastColumn)
    (inside : columns.takeWhile (p.column + 1 < ·) = []) :
    ∃ q, q.column = k ∧
      Leads (afterColon ⟨' ' :: (c :: ws ++ '\n' :: (List.replicate k ' ' ++ cs)), p⟩ columns n)
        [.scalar (.ofList (c :: ws)) .plain] (atLine ⟨cs, q⟩ columns (n + 1)) := by
  let text := c :: ws ++ '\n' :: (List.replicate k ' ' ++ cs)
  let l := afterColon ⟨text, p.skip 1⟩ columns n
  let q := ((p.skip 1).skip (c :: ws).length).nextLine.skip k
  let m : Lexer :=
    { rest := ⟨cs, q⟩, columns, held := [.scalar (.ofList (c :: ws)) .plain], settled := n }
  have ends : EndsGap text :=
    .inr ⟨c, _, rfl, isVisible_of_isInner (inner c List.mem_cons_self)⟩
  have taken : (afterColon ⟨' ' :: text, p⟩ columns n).advance = some m := by
    have next := advance_afterColon (p := p) (n := n) ends 1 inside
    have plain := take_eq_takePlain (l := l) (starts.append _) rfl
    have scanned := scanPlain_line (p := p.skip 1) inner
      (fun top => absurd top (Nat.succ_ne_zero _)) line further
    rw [show ' ' :: text = List.replicate 1 ' ' ++ text from rfl, next, plain]
    change (scanPlain false l.leastColumn true [] {} (p.skip 1) text).bind _ = some m
    rw [show l.leastColumn = (afterColon ⟨cs, p⟩ columns n).leastColumn from rfl, scanned]
    rfl
  refine ⟨q, Nat.zero_add k, leads_of_advance (m := m) ?_ (settle_scalar ..) rfl ?_⟩
  · rw [taken]
    exact dropStaleKeys_of_none (l := m) rfl rfl
  · simp only [afterColon, atLine, List.length_cons, List.length_append]
    omega

/-- A quoted scalar leads to the next line. -/
theorem leads_quoted {ts : List Char} (printable : ∀ d ∈ ts, isPrintable d = true)
    (line : BeginsLine cs) (k : Nat) (inside : columns.takeWhile (p.column + 1 < ·) = []) :
    ∃ q, q.column = k ∧
      Leads (afterColon ⟨' ' :: (quote ts ++ '\n' :: (List.replicate k ' ' ++ cs)), p⟩ columns n)
        [.scalar (.ofList ts) .doubleQuoted] (atLine ⟨cs, q⟩ columns (n + 1)) := by
  let after := '\n' :: (List.replicate k ' ' ++ cs)
  let text := quote ts ++ after
  have quoted : text = '"' :: (ts.flatMap escape ++ '"' :: after) := by
    simp [text, quote]
  obtain ⟨q, scanned⟩ := scanDouble_escaped printable [] [] (p := (p.skip 1).skip 1)
    (Nat.succ_ne_zero _) after
  let m : Lexer :=
    { rest := ⟨after, q⟩, columns, keyAllowed := false,
      held := [.scalar (.ofList ts) .doubleQuoted], settled := n }
  have ends : EndsGap text := .inr ⟨'"', _, quoted, rfl⟩
  have taken : (afterColon ⟨' ' :: text, p⟩ columns n).advance = some m := by
    have next := advance_afterColon (p := p) (n := n) ends 1 inside
    rw [show ' ' :: text = List.replicate 1 ' ' ++ text from rfl, next, quoted]
    simp [take, afterColon, inFlow, takeQuoted, takeAtom, noteKey, allowKey, addRead, add,
      Rest.skip, scanned, m, atMarker]
  refine ⟨q.nextLine.skip k, Nat.zero_add k, ?_⟩
  have first : Leads (afterColon ⟨' ' :: text, p⟩ columns n) [.scalar (.ofList ts) .doubleQuoted]
      (afterColon ⟨after, q⟩ columns (n + 1)) := by
    refine leads_of_advance (m := m) ?_ (settle_scalar ..) rfl ?_
    · rw [taken]
      exact dropStaleKeys_of_none (l := m) rfl rfl
    · rw [quoted]
      simp only [afterColon, List.length_cons, List.length_append]
      omega
  exact first.trans (leads_break line k q columns (n + 1))

/-! ### The end -/

/-- At the end of the text all block collections end. -/
theorem run_atEnd (p : Place) (columns : List Nat) (n fuel : Nat) (top : p.column = 0) :
    (atLine ⟨[], p⟩ columns n).run (fuel + 1) =
      (columns.map fun _ => .blockEnd) ++ [.streamEnd] := by
  let l := atLine ⟨[], p⟩ columns n
  have still : l.skipGap (l.rest.chars.length + 1) = l :=
    skipGap_atLine (.inl rfl) p columns n _
  have split : columns.takeWhile (0 < ·) ++ columns.dropWhile (0 < ·) = columns :=
    List.takeWhile_append_dropWhile
  have all (ds : List Nat) :
      ds.takeWhile (fun _ => true) = ds ∧ ds.dropWhile (fun _ => true) = [] :=
    ⟨List.takeWhile_eq_self_iff.2 fun _ _ => rfl, List.dropWhile_eq_nil_iff.2 fun _ _ => rfl⟩
  let m : Lexer :=
    { l with columns := [], held := columns.map (fun _ => .blockEnd) ++ [.streamEnd],
             keyAllowed := false, ended := true }
  have taken : l.advance = some m := by
    have joined : (columns.takeWhile (0 < ·)).map (fun _ => Token.blockEnd) ++
        ((columns.dropWhile (0 < ·)).map (fun _ => Token.blockEnd) ++ [.streamEnd]) =
        columns.map (fun _ => .blockEnd) ++ [.streamEnd] := by
      rw [← List.append_assoc, ← List.map_append, split]
    rw [advance, still]
    simp only [l, m, atLine, dropStaleKeys, closeWhile, inFlow, take, takeEnd, dropKey, add, top,
      all, joined, List.any_cons, List.any_nil, List.map_nil, List.nil_append, List.append_assoc,
      List.isEmpty_eq_false_iff, Option.map_none, Option.getD_none,
      Option.filter_none, Option.pure_def, Option.bind_eq_bind, Option.bind_some, Bool.or_self,
      Bool.not_not, Bool.not_true, Bool.not_eq_eq_eq_not, Bool.false_eq_true, ne_eq, ite_not,
      ↓reduceIte]
  have settled : l.advance.bind dropStaleKeys = some m := by
    rw [taken]
    exact dropStaleKeys_of_none (l := m) rfl rfl
  have whole : m.settle.1 = m.held := List.take_of_length_le (Nat.le_refl m.held.length)
  rw [run, settled]
  exact whole

end Lines

end ActualState.Yaml.Lexer
