import ActualState.Proofs.Json.Extent

/-!
# One value in a text

A tree with a gap for one value, and its texts: what stands in front of the gap and what stands
behind it. Any value that is written there completes the text, unless its spelling already breaks
off, which ends the text at that place. Records and lists that are read with one value in the gap
are read with any other as far as that value itself is.
-/
namespace ActualState.Json

/-! ### Trees with a gap -/

/-- One step into a tree: what stands around the value that it leads to. -/
inductive Step where
  | element (before after : List Node)
  | member (before : List (Literal × Node)) (key : Literal) (after : List (Literal × Node))

namespace Step

/-- The container with a value in its gap. -/
def plug : Step → Node → Node
  | .element before after, n => .array (before ++ n :: after) .closed
  | .member before key after, n => .object (before ++ (key, n) :: after) .closed

/-- The tokens in front of the gap. -/
def head : Step → List Token
  | .element before _ => .openArray :: before.flatMap fun n => n.tokens ++ [.comma]
  | .member before key _ =>
    .openObject :: (before.flatMap fun m => .string m.1 :: .colon :: (m.2.tokens ++ [.comma])) ++
      [.string key, .colon]

/-- The tokens behind the gap. -/
def tail : Step → List Token
  | .element _ after => Node.elementTokens after
  | .member _ _ after => Node.memberTokens after

/-- The step leads to a field of a record: to a member under its name, or to its place in a list of
all fields. -/
inductive LeadsTo (names : List String) (name : String) : Step → Prop
  | named {before : List (Literal × Node)} {key : Literal} {after : List (Literal × Node)}
      (means : key.Means name) : LeadsTo names name (.member before key after)
  | placed {before after : List Node} (place : names[before.length]? = some name) :
      LeadsTo names name (.element before after)

theorem tokens_plug (s : Step) (n : Node) : (s.plug n).tokens = s.head ++ n.tokens ++ s.tail := by
  cases s with
  | element before after =>
    have later (before : List Node) : Node.elementTokens (before ++ n :: after) =
        .comma :: (before.flatMap (fun m => m.tokens ++ [.comma]) ++ n.tokens ++
          Node.elementTokens after) := by
      induction before with
      | nil => rfl
      | cons m before ih => simp [Node.elementTokens, ih]
    cases before with
    | nil => rfl
    | cons m before => simp [plug, head, tail, Node.tokens, later]
  | member before key after =>
    have later (before : List (Literal × Node)) :
        Node.memberTokens (before ++ (key, n) :: after) =
          .comma :: (before.flatMap (fun m => .string m.1 :: .colon :: (m.2.tokens ++ [.comma])) ++
            [.string key, .colon] ++ n.tokens ++ Node.memberTokens after) := by
      induction before with
      | nil => rfl
      | cons m before ih => simp [Node.memberTokens, ih]
    cases before with
    | nil => rfl
    | cons m before => simp [plug, head, tail, Node.tokens, later]

/-- The last token in front of a gap is a mark. -/
theorem exists_head_eq (s : Step) : ∃ ts t, s.head = ts ++ [t] ∧ ¬ t.IsNumber := by
  cases s with
  | element before after =>
    rcases List.eq_nil_or_concat before with rfl | ⟨before, m, rfl⟩
    · refine ⟨[], .openArray, rfl, ?_⟩
      intro number
      cases number
    · refine ⟨.openArray :: (before.flatMap (fun n => n.tokens ++ [.comma]) ++ m.tokens), .comma,
        by simp [head], ?_⟩
      intro number
      cases number
  | member before key after =>
    refine ⟨.openObject ::
        (before.flatMap (fun m => .string m.1 :: .colon :: (m.2.tokens ++ [.comma])) ++
          [.string key]), .colon, by simp [head], ?_⟩
    intro number
    cases number

theorem isWhole_of_plug (s : Step) {n : Node} (whole : (s.plug n).IsWhole) : n.IsWhole := by
  cases s with
  | element before after => exact Node.areWhole_iff.1 whole.1 n (by simp)
  | member before key after =>
    obtain ⟨whole, -⟩ := whole
    induction before with
    | nil => exact whole.2.1
    | cons a before ih => exact ih whole.2.2

theorem isWhole_plug (s : Step) {m n : Node} (whole : (s.plug m).IsWhole) (value : n.IsWhole) :
    (s.plug n).IsWhole := by
  cases s with
  | element before after =>
    refine ⟨Node.areWhole_iff.2 fun a ha => ?_, rfl⟩
    have all := Node.areWhole_iff.1 whole.1
    rw [List.mem_append, List.mem_cons] at ha
    rcases ha with ha | rfl | ha
    · exact all a (List.mem_append_left _ ha)
    · exact value
    · exact all a (List.mem_append_right _ (List.mem_cons_of_mem _ ha))
  | member before key after =>
    obtain ⟨whole, -⟩ := whole
    refine ⟨?_, rfl⟩
    induction before with
    | nil =>
      obtain ⟨key_, -, others⟩ := whole
      exact ⟨key_, value, others⟩
    | cons a before ih =>
      obtain ⟨key_, first, others⟩ := whole
      exact ⟨key_, first, ih others⟩

end Step

/-- The way to a gap, from the whole text on. -/
abbrev Path := List Step

namespace Path

/-- The tree with a value in the gap. -/
def plug (path : Path) (n : Node) : Node := path.foldr Step.plug n

/-- The tokens in front of the gap. -/
def head (path : Path) : List Token := path.flatMap Step.head

/-- The tokens behind the gap, those of the innermost container first. -/
def tail : Path → List Token
  | [] => []
  | s :: path => tail path ++ s.tail

theorem tokens_plug (path : Path) (n : Node) :
    (path.plug n).tokens = path.head ++ n.tokens ++ path.tail := by
  induction path with
  | nil => simp [plug, head, tail]
  | cons s path ih =>
    show (s.plug (plug path n)).tokens = _
    rw [s.tokens_plug, ih]
    simp [head, tail]

theorem isWhole_plug (path : Path) {m n : Node} (whole : (path.plug m).IsWhole)
    (value : n.IsWhole) : (path.plug n).IsWhole := by
  induction path with
  | nil => exact value
  | cons s path ih => exact s.isWhole_plug whole (ih (s.isWhole_of_plug whole))

/-- The last token in front of a gap is a mark. -/
theorem exists_head_eq {path : Path} (inner : path ≠ []) :
    ∃ ts t, path.head = ts ++ [t] ∧ ¬ t.IsNumber := by
  rcases List.eq_nil_or_concat path with rfl | ⟨path, s, rfl⟩
  · contradiction
  · obtain ⟨ts, t, last, mark⟩ := s.exists_head_eq
    exact ⟨head path ++ ts, t, by simp [head, last], mark⟩

end Path

/-! ### Texts with a gap -/

theorem IsBlank.append {space more : List UInt8} (h : IsBlank space) (h' : IsBlank more) :
    IsBlank (space ++ more) := fun b hb => (List.mem_append.1 hb).elim (h b) (h' b)

/-- White space in front of tokens belongs to them. -/
theorem SpelledTokens.blank_append {space : List UInt8} (blank : IsBlank space) {ts : List Token}
    {bs : List UInt8} (h : SpelledTokens ts bs) : SpelledTokens ts (space ++ bs) := by
  cases h with
  | blank more => exact .blank (blank.append more)
  | token more first others =>
    rw [← List.append_assoc]
    exact .token (blank.append more) first others

theorem SpelledTokens.append {ts us : List Token} {bs cs : List UInt8} (h : SpelledTokens ts bs)
    (h' : SpelledTokens us cs) : SpelledTokens (ts ++ us) (bs ++ cs) := by
  induction h with
  | blank blank => exact h'.blank_append blank
  | token blank first _ ih =>
    rw [List.append_assoc, List.append_assoc]
    exact .token blank first ih

namespace Path

/-- What stands in front of the gap and behind it in a text. -/
structure IsAround (path : Path) (before after : List UInt8) : Prop where
  whole : (path.plug (.word .null)).IsWhole
  before : SpelledTokens path.head before
  after : SpelledTokens path.tail after

variable {path : Path} {before after : List UInt8}

/-- A value in the gap completes the text. -/
theorem IsAround.spelledAs (h : path.IsAround before after) {n : Node} {bs : List UInt8}
    (spelled : n.SpelledAs bs) : (path.plug n).SpelledAs (before ++ bs ++ after) := by
  refine ⟨path.isWhole_plug h.whole spelled.whole, ?_⟩
  rw [tokens_plug]
  exact (h.before.append spelled.tokens).append h.after

end Path

namespace Lexer

/-- Tokens that end with a mark are read as these tokens, whatever follows. -/
theorem run_spelledTokens_append {ts : List Token} {bs : List UInt8} (h : SpelledTokens ts bs)
    (apart : ts.IsChain Apart) (mark : ∀ t ∈ ts.getLast?, ¬ t.IsNumber) (done : List Token)
    (rest : List UInt8) :
    (run ⟨done, .between⟩ (bs ++ rest)).finish =
      (run ⟨ts.reverse ++ done, .between⟩ rest).finish := by
  induction h generalizing done with
  | @blank space blank => rw [run_blank blank, List.reverse_nil, List.nil_append]
  | @token t ts space bs more blank first others ih =>
    obtain ⟨next, apart⟩ := List.isChain_cons.1 apart
    -- A number is not the last of these tokens, so that the text of a mark follows it.
    have delimited (number : t.IsNumber) : IsDelimited (more ++ rest) := by
      cases others with
      | blank => exact absurd number (mark t rfl)
      | @token s ss space_ cs more blank_ second others =>
        have within := isDelimited_of_spelledTokens (.token blank_ second others)
          fun u hu => next u hu number
        obtain ⟨b, cs, rfl, -⟩ := exists_head_of_spelledAs second (next s rfl number)
        cases space_ <;> exact within
    have later : ∀ t ∈ ts.getLast?, ¬ t.IsNumber := by
      cases ts with
      | nil => exact nofun
      | cons s ss => exact mark
    rw [List.append_assoc, List.append_assoc, run_blank blank, run_token first delimited,
      ih apart later]
    simp

end Lexer

namespace Path

variable {path : Path} {before after : List UInt8}

/-- In front of a gap inside a container the lexer is between tokens. -/
theorem IsAround.finish_run (h : path.IsAround before after) (inner : path ≠ [])
    (rest : List UInt8) :
    tokens (before ++ rest) = (Lexer.run ⟨path.head.reverse, .between⟩ rest).finish := by
  obtain ⟨ts, t, last, mark⟩ := exists_head_eq inner
  have apart : path.head.IsChain Apart := by
    have whole := (path.plug (.word .null)).isChain_tokens .nil nofun
    rw [List.append_nil, tokens_plug, List.append_assoc] at whole
    exact whole.left_of_append
  have mark : ∀ t ∈ path.head.getLast?, ¬ t.IsNumber := by
    simpa [last] using mark
  have read_ := Lexer.run_spelledTokens_append h.before apart mark [] rest
  rwa [List.append_nil] at read_

end Path

/-! ### Reading what has a gap -/

variable {σ α : Type} {fields : List (Field Node Problem σ)} {f : Field Node Problem σ}
  {value : Reader α} {set : α → σ → σ}

/-- A field that keeps what is read in a place of its own. -/
structure IsSetter (fields : List (Field Node Problem σ)) (f : Field Node Problem σ)
    (value : Reader α) (set : α → σ → σ) : Prop where
  known : f ∈ fields
  store : ∀ n s, f.store n s = (value n).map fun a => set a s
  again : ∀ a b s, set a (set b s) = set a s
  apart : ∀ g ∈ fields, g.name ≠ f.name → ∀ n a s, g.store n (set a s) = (g.store n s).map (set a)

theorem readMembers_append (before after : List (Literal × Node)) (seen : List String) (s : σ) :
    Record.readMembers members fields (before ++ after) seen s =
      (Record.readMembers members fields before seen s).bind fun r =>
        Record.readMembers members fields after r.1 r.2 := by
  induction before generalizing seen s with
  | nil => rfl
  | cons m before ih =>
    rw [List.cons_append, Record.readMembers, Record.readMembers]
    cases members.name m.1 with
    | error e => rfl
    | ok name =>
      simp only [ok_bind]
      cases Record.find? fields name with
      | none =>
        cases members.skip m.2 with
        | error e => rfl
        | ok _ => exact ih seen s
      | some f =>
        simp only []
        split
        · rfl
        · cases f.store m.2 s with
          | error e => rfl
          | ok t => exact ih _ t

/-- Members behind the one that gives a field leave its place alone. -/
theorem IsSetter.readMembers_set (h : IsSetter fields f value set) (a : α)
    (ms : List (Literal × Node)) {seen : List String} (given_ : f.name ∈ seen) (s : σ) :
    Record.readMembers members fields ms seen (set a s) =
      (Record.readMembers members fields ms seen s).map fun r => (r.1, set a r.2) := by
  induction ms generalizing seen s with
  | nil => rfl
  | cons m ms ih =>
    rw [Record.readMembers, Record.readMembers]
    cases members.name m.1 with
    | error e => rfl
    | ok name =>
      simp only [ok_bind]
      cases found : Record.find? fields name with
      | none =>
        cases members.skip m.2 with
        | error e => rfl
        | ok _ => exact ih given_ s
      | some g =>
        simp only []
        split
        · rfl
        · next fresh =>
          have other : g.name ≠ f.name := fun same => fresh (by simpa [same] using given_)
          rw [h.apart g (List.mem_of_find?_eq_some found) other]
          cases g.store m.2 s with
          | error e => rfl
          | ok t => exact ih (List.mem_cons_of_mem _ given_) t

/-- The value of the member that gives a field decides on that field alone. -/
theorem IsSetter.readMembers_member (h : IsSetter fields f value set)
    (distinct : (fields.map (·.name)).Nodup) {before after : List (Literal × Node)}
    {key : Literal} (means : key.Means f.name) {m : Node} {seen : List String} {s : σ}
    {r : List String × σ}
    (read_ : Record.readMembers members fields (before ++ (key, m) :: after) seen s = .ok r)
    (n : Node) :
    Record.readMembers members fields (before ++ (key, n) :: after) seen s =
      (value n).map fun a => (r.1, set a r.2) := by
  have name : members.name key = .ok f.name := Literal.text_of_means means
  have found := find?_of_mem distinct h.known
  rw [readMembers_append] at read_ ⊢
  obtain ⟨⟨early, t⟩, first, read_⟩ := bind_eq_ok.1 read_
  rw [first]
  simp only [Record.readMembers, Except.bind, name, ok_bind, found] at read_ ⊢
  split at read_
  · contradiction
  · next fresh =>
    obtain ⟨u, stored, rest⟩ := bind_eq_ok.1 read_
    rw [h.store] at stored
    obtain ⟨b, -, rfl⟩ := map_eq_ok.1 stored
    rw [if_neg fresh, h.store]
    cases value n with
    | error e => rfl
    | ok a =>
      -- What follows was read over `b`, and is read the same over `a`.
      have given_ : f.name ∈ f.name :: early := List.mem_cons_self
      have other := h.readMembers_set a after given_ (set b t)
      rw [h.again, rest] at other
      exact other

/-- Fields that come later in a list leave the place alone. -/
theorem IsSetter.readPositional_set (h : IsSetter fields f value set) (a : α) (note : String)
    (ending : Ending) {later : List (Field Node Problem σ)}
    (others : ∀ g ∈ later, g ∈ fields ∧ g.name ≠ f.name) (index : Nat) (elements : List Node)
    (s : σ) :
    readPositional note ending index later elements (set a s) =
      (readPositional note ending index later elements s).map fun r => (r.1, set a r.2) := by
  induction later generalizing index elements s with
  | nil => cases elements <;> rfl
  | cons g later ih =>
    obtain ⟨⟨known, other⟩, others⟩ := List.forall_mem_cons.1 others
    cases elements with
    | nil =>
      cases ending with
      | cut _ found => rfl
      | closed =>
        simp only [readPositional]
        split
        · exact ih others (index + 1) [] s
        · rfl
    | cons n elements =>
      rw [readPositional, readPositional, h.apart g known other]
      cases g.store n s with
      | error e => rfl
      | ok t => exact ih others (index + 1) elements t

/-- The value at the place of a field decides on that field alone. -/
theorem IsSetter.readPositional_element (h : IsSetter fields f value set) {note : String}
    {ending : Ending} {earlier later : List (Field Node Problem σ)}
    (others : ∀ g ∈ later, g ∈ fields ∧ g.name ≠ f.name) {before after : List Node}
    (place : earlier.length = before.length) {m : Node} {index : Nat} {s : σ}
    {r : List Node × σ}
    (read_ : readPositional note ending index (earlier ++ f :: later) (before ++ m :: after) s =
      .ok r) (n : Node) :
    readPositional note ending index (earlier ++ f :: later) (before ++ n :: after) s =
      (value n).map fun a => (r.1, set a r.2) := by
  induction earlier generalizing before index s with
  | nil =>
    obtain rfl := List.eq_nil_of_length_eq_zero place.symm
    obtain ⟨t, stored, read_⟩ := bind_eq_ok.1 read_
    rw [h.store] at stored
    obtain ⟨b, -, rfl⟩ := map_eq_ok.1 stored
    rw [List.nil_append, List.nil_append, readPositional, h.store]
    cases value n with
    | error e => rfl
    | ok a =>
      -- What follows was read over `b`, and is read the same over `a`.
      have other := h.readPositional_set a note ending others (index + 1) after (set b s)
      rw [h.again, read_] at other
      exact other
  | cons g earlier ih =>
    cases before with
    | nil => contradiction
    | cons l before =>
      obtain ⟨t, stored, read_⟩ := bind_eq_ok.1 read_
      rw [List.cons_append, List.cons_append, readPositional, stored]
      exact ih (Nat.succ.inj place) read_

theorem complete_eq_ok {seen : List String} {s r : σ}
    (done : Record.complete Problem.mismatch fields seen s = .ok r) :
    r = s ∧ ∀ t, Record.complete Problem.mismatch fields seen t = .ok t := by
  unfold Record.complete at done ⊢
  split at done
  · contradiction
  · exact ⟨(Except.ok.inj done).symm, fun _ => rfl⟩

/-- The fields before and behind one at its place. -/
theorem exists_of_place (distinct : (fields.map (·.name)).Nodup) (known : f ∈ fields) {k : Nat}
    (place : (fields.map (·.name))[k]? = some f.name) :
    ∃ earlier later, fields = earlier ++ f :: later ∧ earlier.length = k := by
  rw [List.getElem?_map, Option.map_eq_some_iff] at place
  obtain ⟨g, place, name⟩ := place
  obtain rfl : g = f := by
    have found := find?_of_mem distinct (List.mem_of_getElem? place)
    rw [name, find?_of_mem distinct known] at found
    exact (Option.some.inj found).symm
  obtain ⟨small, rfl⟩ := List.getElem?_eq_some_iff.1 place
  refine ⟨fields.take k, fields.drop (k + 1), ?_, by simp [Nat.le_of_lt small]⟩
  rw [← List.drop_eq_getElem_cons small, List.take_append_drop]

/-- A record that is read with one value of a field is read with any other, as far as the value
itself is. -/
theorem IsSetter.readRecord_plug (h : IsSetter fields f value set)
    (distinct : (fields.map (·.name)).Nodup) {s : Step}
    (leads : s.LeadsTo (fields.map (·.name)) f.name) {title : String} {start r : σ} {m : Node}
    (read_ : readRecord title fields start (s.plug m) = .ok r) (n : Node) :
    readRecord title fields start (s.plug n) = (value n).map fun a => set a r := by
  cases leads with
  | @named before key after means =>
    obtain ⟨⟨seen, t⟩, all, read_⟩ := bind_eq_ok.1 read_
    obtain ⟨-, -, read_⟩ := bind_eq_ok.1 read_
    obtain ⟨rfl, complete⟩ := complete_eq_ok read_
    rw [Step.plug, readRecord, h.readMembers_member distinct means all n]
    cases value n with
    | error e => rfl
    | ok a => exact complete (set a r)
  | @placed before after place =>
    obtain ⟨⟨rest, t⟩, all, read_⟩ := bind_eq_ok.1 read_
    obtain ⟨_, checked, read_⟩ := bind_eq_ok.1 read_
    obtain rfl : t = r := Except.ok.inj read_
    obtain ⟨earlier, later, rfl, length⟩ := exists_of_place distinct h.known place
    have others (g) (hg : g ∈ later) : g ∈ earlier ++ f :: later ∧ g.name ≠ f.name := by
      rw [List.map_append, List.map_cons, List.nodup_middle, List.nodup_cons] at distinct
      refine ⟨by simp [hg], fun same => distinct.1 ?_⟩
      rw [← same]
      exact List.mem_append_right _ (List.mem_map_of_mem hg)
    rw [Step.plug, readRecord, h.readPositional_element others length all n]
    cases value n with
    | error e => rfl
    | ok a =>
      show ((checkEnd rest .closed).bind fun _ => .ok (set a t)) = _
      rw [checked]
      rfl

theorem readAll_element {before after : List Node} {m : Node} {as : List α}
    (read_ : readAll value (before ++ m :: after) = .ok as) :
    (∃ a, as[before.length]? = some a ∧ value m = .ok a) ∧
      ∀ n, readAll value (before ++ n :: after) =
        (value n).map fun a => as.set before.length a := by
  induction before generalizing as with
  | nil =>
    obtain ⟨a, first, read_⟩ := bind_eq_ok.1 read_
    obtain ⟨bs, others, read_⟩ := bind_eq_ok.1 read_
    obtain ⟨⟩ := read_
    refine ⟨⟨a, rfl, first⟩, fun n => ?_⟩
    rw [List.nil_append, readAll, others]
    cases value n <;> rfl
  | cons l before ih =>
    obtain ⟨a, first, read_⟩ := bind_eq_ok.1 read_
    obtain ⟨bs, others, read_⟩ := bind_eq_ok.1 read_
    obtain ⟨⟩ := read_
    obtain ⟨element, others⟩ := ih others
    refine ⟨element, fun n => ?_⟩
    rw [List.cons_append, readAll, first, others]
    cases value n <;> rfl

/-- A list that is read with one element is read with any other, as far as that element is. -/
theorem readList_plug {before after : List Node} {m : Node} {as : List α}
    (read_ : readList value ((Step.element before after).plug m) = .ok as) :
    (∃ a, as[before.length]? = some a ∧ value m = .ok a) ∧
      ∀ n, readList value ((Step.element before after).plug n) =
        (value n).map fun a => as.set before.length a := by
  obtain ⟨bs, all, read_⟩ := bind_eq_ok.1 read_
  obtain ⟨-, -, read_⟩ := bind_eq_ok.1 read_
  obtain rfl : bs = as := Except.ok.inj read_
  obtain ⟨element, others⟩ := readAll_element all
  refine ⟨element, fun n => ?_⟩
  rw [Step.plug, readList, others n]
  cases value n <;> rfl

end ActualState.Json
