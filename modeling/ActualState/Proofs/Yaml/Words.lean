import ActualState.Proofs.Decimal.Digits
import ActualState.Yaml.Document
import ActualState.Yaml.Plain

/-!
# Words and quoted texts

How the scalars of a simple YAML text are scanned: words, which need no quotes, up to the colon or
the line break after them, and texts of printable characters between double quotes, with quotes and
backslashes escaped.
-/
namespace ActualState.Yaml

/-! ### Characters -/

/-- A letter, a digit or an underscore. -/
def isInitial (c : Char) : Bool := isWordChar c && c != '-'

/-- A character that goes on with a plain scalar wherever it stands. -/
def isInner (c : Char) : Bool := '!' ≤ c && c ≤ '~' && c != ':' && c != '#'

/-- A printable character of ASCII, the space included. -/
def isPrintable (c : Char) : Bool := ' ' ≤ c && c ≤ '~'

theorem le_iff_toNat {c d : Char} : c ≤ d ↔ c.toNat ≤ d.toNat := Iff.rfl

theorem eq_iff_toNat {c d : Char} : c = d ↔ c.toNat = d.toNat := Char.toNat_inj.symm

theorem isInner_of_isInitial {c : Char} (h : isInitial c = true) : isInner c = true := by
  simp only [isInitial, isWordChar, isInner, Bool.and_eq_true, Bool.or_eq_true,
    decide_eq_true_eq, bne_iff_ne, ne_eq, le_iff_toNat, eq_iff_toNat, Char.reduceToNat] at h ⊢
  omega

theorem isPrintable_of_isInner {c : Char} (h : isInner c = true) : isPrintable c = true := by
  simp only [isInner, isPrintable, Bool.and_eq_true, decide_eq_true_eq, bne_iff_ne, ne_eq,
    le_iff_toNat, Char.reduceToNat] at h ⊢
  omega

theorem isBlank_of_isInner {c : Char} (h : isInner c = true) : isBlank c = false := by
  simp only [isInner, isBlank, Bool.and_eq_true, Bool.or_eq_false_iff, decide_eq_true_eq,
    decide_eq_false_iff_not, bne_iff_ne, ne_eq, le_iff_toNat, eq_iff_toNat,
    Char.reduceToNat] at h ⊢
  omega

theorem isBreak_of_isPrintable {c : Char} (h : isPrintable c = true) : isBreak c = false := by
  simp only [isPrintable, isBreak, Bool.and_eq_true, Bool.or_eq_false_iff, decide_eq_true_eq,
    decide_eq_false_iff_not, le_iff_toNat, eq_iff_toNat, Char.reduceToNat] at h ⊢
  omega

theorem isAllowed_of_isPrintable {c : Char} (h : isPrintable c = true) : isAllowed c = true := by
  simp only [isPrintable, isAllowed, Bool.and_eq_true, Bool.or_eq_true, decide_eq_true_eq,
    le_iff_toNat, Char.reduceToNat] at h ⊢
  omega

/-- What an initial character is not. -/
theorem ne_of_isInitial {c d : Char} (h : isInitial c = true) (other : isInitial d = false) :
    c ≠ d := by
  rintro rfl
  cases h.symm.trans other

theorem ne_of_isInner {c d : Char} (h : isInner c = true) (other : isInner d = false) : c ≠ d := by
  rintro rfl
  cases h.symm.trans other

/-! ### Words -/

/-- A word: characters that make a plain scalar in any place. -/
def isWord : List Char → Bool
  | [] => false
  | c :: r => isInitial c && r.all isInner

theorem atMarker_of_isInitial {c : Char} (h : isInitial c = true) (r : List Char) :
    atMarker (c :: r) = false := by
  have dash := ne_of_isInitial h (d := '-') (by decide)
  have dot := ne_of_isInitial h (d := '.') (by decide)
  unfold atMarker
  split
  · simp_all
  · simp_all
  · rfl

section Plain

variable {indent : Nat} {acc : List Char} {p : Place} {c : Char} {ws r : List Char}

theorem scanPlain_inner (inner : ∀ c ∈ ws, isInner c = true) (indent : Nat) (acc : List Char)
    (p : Place) (r : List Char) :
    scanPlain false indent false acc {} p (ws ++ r) =
      scanPlain false indent false (ws.reverse ++ acc) {} (p.skip ws.length) r := by
  induction ws generalizing acc p with
  | nil => rfl
  | cons c ws ih =>
    have first := inner c List.mem_cons_self
    have colon := ne_of_isInner first (d := ':') (by decide)
    have rest := ih (fun d hd => inner d (List.mem_cons_of_mem c hd)) (c :: acc) p.next
    rw [List.cons_append, scanPlain]
    simp only [isBlank_of_isInner first, isBreak_of_isPrintable (isPrintable_of_isInner first),
      colon, Bool.false_eq_true, if_false, Bool.false_and, decide_false, Bool.false_or, Gap.text,
      Bool.not_false, if_true, List.nil_append, rest, List.reverse_cons, List.append_assoc,
      List.singleton_append, List.length_cons]
    rw [Place.skip, Place.skip, Place.next]
    simp only [Nat.add_assoc, Nat.add_comm 1]

/-- A plain scalar is scanned to the end of its word. -/
theorem scanPlain_word (inner : ∀ d ∈ c :: ws, isInner d = true)
    (marker : p.column = 0 → isInitial c = true) (indent : Nat) (r : List Char) :
    scanPlain false indent true [] {} p (c :: ws ++ r) =
      scanPlain false indent false (c :: ws).reverse {} (p.skip (c :: ws).length) r := by
  have first := inner c List.mem_cons_self
  have colon := ne_of_isInner first (d := ':') (by decide)
  have hash := ne_of_isInner first (d := '#') (by decide)
  have marker' : (p.column = 0 && atMarker (c :: (ws ++ r))) = false := by
    by_cases top : p.column = 0
    · simp [atMarker_of_isInitial (marker top)]
    · simp [top]
  have rest := scanPlain_inner (fun d hd => inner d (List.mem_cons_of_mem c hd)) indent [c] p.next r
  rw [List.cons_append, scanPlain]
  simp only [isBlank_of_isInner first, isBreak_of_isPrintable (isPrintable_of_isInner first),
    colon, hash, marker', Bool.false_eq_true, if_false, List.isEmpty_nil, Bool.not_true,
    Bool.false_and, decide_false, Bool.or_false, Bool.and_false, Gap.text, Bool.not_false, if_true,
    List.append_nil, rest, List.reverse_cons, List.length_cons]
  rw [Place.skip, Place.skip, Place.next]
  simp only [Nat.add_assoc, Nat.add_comm 1]

/-- A word before a colon. -/
theorem scanPlain_key (inner : ∀ d ∈ c :: ws, isInner d = true)
    (marker : p.column = 0 → isInitial c = true) (gap : atGap r = true) (indent : Nat) :
    scanPlain false indent true [] {} p (c :: ws ++ ':' :: r) =
      some ⟨String.ofList (c :: ws), false, ⟨':' :: r, p.skip (c :: ws).length⟩⟩ := by
  rw [scanPlain_word inner marker, scanPlain]
  simp [isBlank, isBreak, gap]

/-- What begins a line after its indentation: a word, or nothing at the end of the text. -/
def BeginsLine (cs : List Char) : Prop := cs = [] ∨ ∃ c r, cs = c :: r ∧ isInitial c = true

/-- The indentation of the next line is not part of a plain scalar. -/
theorem scanPlain_indentation {b : Char} (line : BeginsLine r) (some_ : acc ≠ []) (k : Nat)
    (further : p.column + k < indent) :
    scanPlain false indent true acc { broken := true, first := some b } p
        (List.replicate k ' ' ++ r) =
      some ⟨String.ofList acc.reverse, true, ⟨r, p.skip k⟩⟩ := by
  induction k generalizing p with
  | zero =>
    rcases line with rfl | ⟨c, r, rfl, initial⟩
    · rfl
    · have inner := isInner_of_isInitial initial
      have empty : acc.isEmpty = false := by simpa using some_
      have less : p.column < indent := by omega
      rw [List.replicate_zero, List.nil_append, scanPlain]
      simp [isBlank_of_isInner inner, isBreak_of_isPrintable (isPrintable_of_isInner inner), empty,
        less, Place.skip]
  | succ k ih =>
    have blank : isBlank ' ' = true := rfl
    have rest := ih (p := p.next) (by simp only [Place.next]; omega)
    rw [List.replicate_succ, List.cons_append, scanPlain]
    simp only [blank, if_true, Char.reduceEq, decide_false, Bool.and_false, Bool.false_eq_true,
      if_false, Gap.addBlank, rest]
    simp only [Place.skip, Place.next, Nat.add_assoc, Nat.add_comm 1]

/-- A word that is alone on its line. -/
theorem scanPlain_line (inner : ∀ d ∈ c :: ws, isInner d = true)
    (marker : p.column = 0 → isInitial c = true) (line : BeginsLine r) {k : Nat}
    (further : k < indent) :
    scanPlain false indent true [] {} p (c :: ws ++ '\n' :: (List.replicate k ' ' ++ r)) =
      some ⟨String.ofList (c :: ws), true,
        ⟨r, (p.skip (c :: ws).length).nextLine.skip k⟩⟩ := by
  have isBreak_newline : isBreak '\n' = true := rfl
  have blank : isBlank '\n' = false := rfl
  have rest := scanPlain_indentation (b := '\n') (p := (p.skip (c :: ws).length).nextLine) line
    (List.reverse_ne_nil_iff.2 (List.cons_ne_nil c ws)) k (by simpa [Place.nextLine])
  rw [scanPlain_word inner marker, scanPlain]
  simp only [blank, isBreak_newline, Bool.false_eq_true, if_false, if_true, Gap.addBreak, rest,
    List.reverse_reverse]

end Plain

/-! ### Quoted texts -/

/-- A character between double quotes. -/
def escape (c : Char) : List Char := if c = '"' ∨ c = '\\' then ['\\', c] else [c]

/-- A text between double quotes. -/
def quote (cs : List Char) : List Char := '"' :: cs.flatMap escape ++ ['"']

/-- A character that stands for itself. -/
theorem scanDouble_cons {c : Char} (noQuote : c ≠ '"') (noSlash : c ≠ '\\') (acc : List Char)
    (gap : Gap) {p : Place} (inside : p.column ≠ 0) (r : List Char) :
    scanDouble acc gap p (c :: r) =
      if isBlank c then scanDouble acc (gap.addBlank c) p.next r
      else if isBreak c then scanDouble acc (gap.addBreak c) p.nextLine r
      else scanDouble (c :: (gap.text ++ acc)) {} p.next r := by
  rw [scanDouble]
  · simp [inside]
  all_goals simp [noQuote, noSlash]

/-- A quoted text is scanned to its closing quote. -/
theorem scanDouble_escaped {cs : List Char} (printable : ∀ c ∈ cs, isPrintable c = true)
    (acc bs : List Char) {p : Place} (inside : p.column ≠ 0) (r : List Char) :
    ∃ q, scanDouble acc { blanks := bs } p (cs.flatMap escape ++ '"' :: r) =
      some (String.ofList ((bs ++ acc).reverse ++ cs), ⟨r, q⟩) := by
  -- Spaces are gathered apart from the text, until the next character or the closing quote.
  induction cs generalizing acc bs p with
  | nil => exact ⟨p.next, by simp [scanDouble, Gap.text]⟩
  | cons c cs ih =>
    have first := printable c List.mem_cons_self
    have others := fun d hd => printable d (List.mem_cons_of_mem c hd)
    have further : p.next.column ≠ 0 := Nat.succ_ne_zero p.column
    have skipped : (p.skip 2).column ≠ 0 := Nat.succ_ne_zero (p.column + 1)
    rw [List.flatMap_cons, List.append_assoc]
    by_cases escaped : c = '"' ∨ c = '\\'
    · obtain ⟨q, rest⟩ := ih others (c :: (bs ++ acc)) [] skipped
      refine ⟨q, ?_⟩
      have step : scanDouble acc { blanks := bs } p
          (escape c ++ (cs.flatMap escape ++ '"' :: r)) =
          scanDouble (c :: (bs ++ acc)) {} (p.skip 2) (cs.flatMap escape ++ '"' :: r) := by
        rcases escaped with rfl | rfl <;> simp [escape, scanDouble, isBreak, escapeChar?, Gap.text]
      rw [step, rest]
      simp
    · have plain : escape c = [c] := if_neg escaped
      obtain ⟨noQuote, noSlash⟩ := not_or.1 escaped
      rw [plain, List.singleton_append, scanDouble_cons noQuote noSlash acc _ inside,
        isBreak_of_isPrintable first]
      cases blank : isBlank c with
      | true =>
        obtain ⟨q, rest⟩ := ih others acc (c :: bs) further
        refine ⟨q, ?_⟩
        simp [Gap.addBlank, rest]
      | false =>
        obtain ⟨q, rest⟩ := ih others (c :: (bs ++ acc)) [] further
        refine ⟨q, ?_⟩
        simp [Gap.text, rest]

/-! ### Numbers -/

section Numbers

open Decimal (digits AreDigits areDigits_digits head_digits toDigits_eq_map)

/-- The digits of a natural. -/
theorem toList_natCast (n : Nat) : (toString (n : Int)).toList = (digits n).map Nat.digitChar := by
  rw [← toDigits_eq_map]
  simp [toString, Int.repr, Nat.repr]

theorem toList_negSucc (n : Nat) :
    (toString (Int.negSucc n)).toList = '-' :: (digits (n + 1)).map Nat.digitChar := by
  rw [← toDigits_eq_map]
  simp [toString, Int.repr, Nat.repr]

theorem isInitial_digitChar {d : Nat} (digit : d < 10) : isInitial d.digitChar = true := by
  decide +revert

theorem digit?_digitChar {d : Nat} (digit : d < 10) : Text.digit? 10 d.digitChar = some d := by
  decide +revert

theorem natural?_digits (n : Nat) :
    Text.natural? 10 ((digits n).map Nat.digitChar) = some n := by
  have gathered (ds : List Nat) (are : AreDigits ds) (k : Nat) :
      (ds.map Nat.digitChar).foldl
        (fun acc c => do return (← acc) * 10 + (← Text.digit? 10 c)) (some k) =
        some (ds.foldl (fun n d => n * 10 + d) k) := by
    induction ds generalizing k with
    | nil => rfl
    | cons d ds ih =>
      have digit := are d List.mem_cons_self
      simp only [List.map_cons, List.foldl_cons, digit?_digitChar digit]
      exact ih (fun e he => are e (List.mem_cons_of_mem d he)) (k * 10 + d)
  have some_ : ((digits n).map Nat.digitChar).isEmpty = false := by
    simp [Decimal.digits_ne_nil]
  rw [Text.natural?, if_neg (by simp [some_]), gathered _ (areDigits_digits n)]
  exact congrArg some (Decimal.ofDigits_digits n)

/-- Digits without a sign, and without a zero before further ones. -/
theorem unsigned?_of_bare {c : Char} {r : List Char} (initial : isInitial c = true)
    (bare : r = [] ∨ c ≠ '0') : unsigned? (dropPlus (c :: r)) = Text.natural? 10 (c :: r) := by
  have plus := ne_of_isInitial initial (d := '+') (by decide)
  have minus := ne_of_isInitial initial (d := '-') (by decide)
  have kept : dropPlus (c :: r) = c :: r := by
    unfold dropPlus
    split <;> simp_all
  have notLed : isZeroLed (c :: r) = false := by
    unfold isZeroLed dropSign
    rcases bare with rfl | other
    · split <;> simp_all
    · split <;> simp_all
  rw [kept, unsigned?, notLed]
  · rfl
  all_goals
    rcases bare with rfl | other
    · simp
    · simp [other]

/-- A natural in decimal is read as itself. -/
theorem natural?_toString (n : Nat) : natural? (toString (n : Int)) = some n := by
  have read := natural?_digits n
  rw [natural?, toList_natCast]
  have are := areDigits_digits n
  have bare : ∃ d ds, digits n = d :: ds ∧ (ds = [] ∨ 0 < d) := by
    by_cases small : n < 10
    · exact ⟨n, [], by rw [digits, if_pos small], .inl rfl⟩
    · obtain ⟨d, ds, head, pos⟩ := head_digits (n := n) (by omega)
      exact ⟨d, ds, head, .inr pos⟩
  obtain ⟨d, ds, head, bare⟩ := bare
  rw [head] at read are ⊢
  have digit := are d List.mem_cons_self
  rw [List.map_cons] at read ⊢
  rw [unsigned?_of_bare (isInitial_digitChar digit), read]
  refine bare.imp (fun none_ => by rw [none_]; rfl) fun pos zero => ?_
  have inverse : Text.digit? 10 d.digitChar = some d := digit?_digitChar digit
  rw [zero] at inverse
  have : (0 : Nat) = d := Option.some.inj inverse
  omega

end Numbers

end ActualState.Yaml
