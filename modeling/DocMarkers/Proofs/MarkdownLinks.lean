import DocMarkers.Link.Markdown
import DocMarkers.Proofs.SplitTexts
import Mathlib.Computability.Language

/-! # The link of an argument

An argument that is one whole link is read as its label and its inner part, and there is one way to
read it (`Link.IsLink.unique`). The parentheses of the inner part are balanced and nested at most
one deep. The same texts are those of a pattern with a star (`Link.mem_pattern_iff`), whose groups
each hold one pair of parentheses.

The inner part names a destination (`Link.IsDestination`). A title behind it does not count, so the
link of an argument is its destination with or without one (`Link.argument_link_exact`).
-/

namespace DocMarkers

namespace Text

/-- The first piece of a text ends before the first character that separates. -/
theorem head?_splitWhere (separates : Char → Bool) (text : List Char) :
    (splitWhere separates text).head? = some (text.takeWhile (!separates ·)) := by
  induction text with
  | nil => rfl
  | cons c rest ih =>
      unfold splitWhere
      by_cases here : separates c = true
      · simp [here]
      · rw [if_neg here]
        cases pieces : splitWhere separates rest with
        | nil => exact absurd pieces (splitWhere_ne_nil separates rest)
        | cons piece more =>
            rw [pieces] at ih
            obtain rfl := Option.some.inj ih
            simp [here]

/-- The first word of a text that does not start with a blank ends before its first blank. -/
theorem headD_words {text : List Char} (filled : ∀ c, text.head? = some c → isBlank c = false) :
    (words text).headD [] = text.takeWhile (!isBlank ·) := by
  have first := head?_splitWhere isBlank text
  unfold words
  cases text with
  | nil => rfl
  | cons c rest =>
      have solid : isBlank c = false := filled c rfl
      cases pieces : splitWhere isBlank (c :: rest) with
      | nil => exact absurd pieces (splitWhere_ne_nil isBlank (c :: rest))
      | cons piece more =>
          rw [pieces] at first
          obtain rfl := Option.some.inj first
          simp [solid]

end Text

namespace Link

/-- The parentheses of a text are balanced and nested at most one deep: no beginning of the text
closes more than it opens or leaves two open, and in the end none is open. -/
def HasFlatPairs (text : List Char) : Prop :=
  (∀ front, front <+: text →
    front.count ')' ≤ front.count '(' ∧ front.count '(' ≤ front.count ')' + 1) ∧
    text.count '(' = text.count ')'

/-- A text is one whole link with a label and an inner part. -/
def IsLink (text label inner : List Char) : Prop :=
  text = '[' :: label ++ ']' :: '(' :: inner ++ [')'] ∧ ']' ∉ label ∧ HasFlatPairs inner

/-- The destination that the inner part of a link names, when it has been trimmed: what stands
between a `<` at its start and the first `>`, or else its first word, which is empty if there is
none. -/
def IsDestination (core destination : List Char) : Prop :=
  (∃ after, core = '<' :: destination ++ '>' :: after ∧ '>' ∉ destination) ∨
    (¬ ∃ inside after, core = '<' :: inside ++ '>' :: after) ∧
      ∃ after, core = destination ++ after ∧ (∀ c ∈ destination, Text.isBlank c = false) ∧
        ∀ c, after.head? = some c → Text.isBlank c = true

section Pairs

variable {text : List Char} {opened : Nat}

theorem forall_prefix_cons_iff {P : List Char → Prop} {c : Char} {rest : List Char} :
    (∀ front, front <+: c :: rest → P front) ↔
      P [] ∧ ∀ front, front <+: rest → P (c :: front) := by
  constructor
  · intro all
    refine ⟨all [] List.nil_prefix, ?_⟩
    intro front isPrefix
    exact all _ (List.cons_prefix_cons.mpr ⟨rfl, isPrefix⟩)
  · intro both front isPrefix
    obtain ⟨start, later⟩ := both
    rcases List.prefix_cons_iff.mp isPrefix with rfl | ⟨others, rfl, shorter⟩
    · exact start
    · exact later others shorter

/-- The condition on the parentheses of a text in front of which some are open already. -/
def PairsUp (opened : Nat) (text : List Char) : Prop :=
  (∀ front, front <+: text →
    front.count ')' ≤ opened + front.count '(' ∧ opened + front.count '(' ≤ front.count ')' + 1) ∧
    opened + text.count '(' = text.count ')'

theorem pairsUp_zero_iff : PairsUp 0 text ↔ HasFlatPairs text := by
  simp [PairsUp, HasFlatPairs]

theorem pairsUp_nil_iff : PairsUp opened [] ↔ opened = 0 := by
  simp +contextual [PairsUp]

/-- Only where none is open, one may be opened. -/
theorem pairsUp_opening_iff : PairsUp opened ('(' :: text) ↔ opened = 0 ∧ PairsUp 1 text := by
  have counts (front : List Char) :
      opened + ('(' :: front).count '(' = opened + (1 + front.count '(') ∧
        ('(' :: front).count ')' = front.count ')' := by
    simp [Nat.add_comm]
  unfold PairsUp
  rw [forall_prefix_cons_iff]
  simp only [counts]
  constructor
  · intro pairs
    obtain ⟨⟨-, later⟩, total⟩ := pairs
    obtain rfl : opened = 0 := by
      have second := (later [] List.nil_prefix).2
      simp only [List.count_nil] at second
      omega
    simp only [Nat.zero_add] at later total
    exact ⟨rfl, later, total⟩
  · intro pairs
    obtain ⟨rfl, later, total⟩ := pairs
    simp only [Nat.zero_add]
    exact ⟨⟨by simp, later⟩, total⟩

/-- Only one that is open may be closed. -/
theorem pairsUp_closing_iff : PairsUp opened (')' :: text) ↔ opened = 1 ∧ PairsUp 0 text := by
  have counts (front : List Char) :
      (')' :: front).count '(' = front.count '(' ∧
        (')' :: front).count ')' = 1 + front.count ')' := by
    simp [Nat.add_comm]
  unfold PairsUp
  rw [forall_prefix_cons_iff]
  simp only [counts]
  constructor
  · intro pairs
    obtain ⟨⟨start, later⟩, total⟩ := pairs
    obtain rfl : opened = 1 := by
      have first := (later [] List.nil_prefix).1
      have before := start.2
      simp only [List.count_nil] at first before
      omega
    refine ⟨rfl, ?_, by omega⟩
    intro front isPrefix
    have kept := later front isPrefix
    omega
  · intro pairs
    obtain ⟨rfl, later, total⟩ := pairs
    refine ⟨⟨by simp, ?_⟩, by omega⟩
    intro front isPrefix
    have kept := later front isPrefix
    omega

theorem pairsUp_cons_iff {c : Char} (opening : c ≠ '(') (closing : c ≠ ')') :
    PairsUp opened (c :: text) ↔ PairsUp opened text := by
  have counts (front : List Char) :
      (c :: front).count '(' = front.count '(' ∧ (c :: front).count ')' = front.count ')' := by
    simp [opening, closing]
  unfold PairsUp
  rw [forall_prefix_cons_iff]
  simp only [counts]
  constructor
  · intro pairs
    exact ⟨pairs.1.2, pairs.2⟩
  · intro pairs
    exact ⟨⟨pairs.1 [] List.nil_prefix, pairs.1⟩, pairs.2⟩

/-- The reader accepts the texts whose parentheses pair up, also when one is open already. The
induction is on the text. -/
theorem isShallow_iff {inside : Bool} :
    isShallow inside text = true ↔ PairsUp inside.toNat text := by
  induction text generalizing inside with
  | nil =>
      rw [pairsUp_nil_iff]
      cases inside <;> simp [isShallow]
  | cons c rest ih =>
      unfold isShallow
      by_cases opening : c = '('
      · subst opening
        rw [pairsUp_opening_iff, if_pos rfl, Bool.and_eq_true, ih]
        cases inside <;> simp
      · by_cases closing : c = ')'
        · subst closing
          rw [pairsUp_closing_iff, if_neg opening, if_pos rfl, Bool.and_eq_true, ih]
          cases inside <;> simp
        · rw [pairsUp_cons_iff opening closing, if_neg opening, if_neg closing, ih]

/-- What pairs up by itself changes nothing behind a text. The induction is on the text. -/
theorem PairsUp.append_iff {behind : List Char} (closed : PairsUp 0 behind) :
    PairsUp opened (text ++ behind) ↔ PairsUp opened text := by
  induction text generalizing opened with
  | nil =>
      rw [List.nil_append, pairsUp_nil_iff]
      constructor
      · intro pairs
        have own := pairs.2
        have total := closed.2
        omega
      · intro none
        exact none ▸ closed
  | cons c rest ih =>
      rw [List.cons_append]
      by_cases opening : c = '('
      · subst opening
        rw [pairsUp_opening_iff, pairsUp_opening_iff, ih]
      · by_cases closing : c = ')'
        · subst closing
          rw [pairsUp_closing_iff, pairsUp_closing_iff, ih]
        · rw [pairsUp_cons_iff opening closing, pairsUp_cons_iff opening closing, ih]

theorem HasFlatPairs.append {behind : List Char} (pairs : HasFlatPairs text)
    (later : HasFlatPairs behind) : HasFlatPairs (text ++ behind) := by
  rw [← pairsUp_zero_iff] at pairs later ⊢
  exact later.append_iff.mpr pairs

end Pairs

section Pattern

variable {text : List Char} {opened : Nat}

/-- The texts without parentheses. -/
def plainTexts : Language Char :=
  {text : List Char | '(' ∉ text ∧ ')' ∉ text}

/-- One pair of parentheses with what follows up to the next one. -/
def pairTexts : Language Char :=
  {['(']} * plainTexts * {[')']} * plainTexts

/-- The inner part of a link as a pattern, `[^()]*(\([^()]*\)[^()]*)*`. -/
def innerPattern : Language Char :=
  plainTexts * KStar.kstar pairTexts

/-- The texts that a label may be. -/
def labelTexts : Language Char :=
  {text : List Char | ']' ∉ text}

/-- A whole link as a pattern, `\[[^\]]*\]\(` and `\)` around the inner part. -/
def pattern : Language Char :=
  {['[']} * labelTexts * {[']', '(']} * innerPattern * {[')']}

theorem mem_literal_iff {literal : List Char} :
    text ∈ ({literal} : Language Char) ↔ text = literal :=
  Iff.rfl

theorem mem_pairTexts_iff :
    text ∈ pairTexts ↔ ∃ inside ∈ plainTexts, ∃ behind ∈ plainTexts,
      text = '(' :: inside ++ ')' :: behind := by
  unfold pairTexts
  simp only [Language.mem_mul, mem_literal_iff]
  constructor
  · intro matched
    obtain ⟨-, ⟨-, ⟨-, rfl, inside, plainInside, rfl⟩, -, rfl, rfl⟩, behind, plainBehind, rfl⟩ :=
      matched
    exact ⟨inside, plainInside, behind, plainBehind, by simp⟩
  · intro matched
    obtain ⟨inside, plainInside, behind, plainBehind, rfl⟩ := matched
    exact ⟨_, ⟨_, ⟨_, rfl, inside, plainInside, rfl⟩, _, rfl, rfl⟩, behind, plainBehind, by simp⟩

theorem pairsUp_append_iff {front : List Char} (plain : front ∈ plainTexts) :
    PairsUp opened (front ++ text) ↔ PairsUp opened text := by
  induction front with
  | nil => rfl
  | cons c front ih =>
      obtain ⟨noOpening, noClosing⟩ := plain
      obtain ⟨opening, noOpening⟩ := List.ne_and_not_mem_of_not_mem_cons noOpening
      obtain ⟨closing, noClosing⟩ := List.ne_and_not_mem_of_not_mem_cons noClosing
      rw [List.cons_append, pairsUp_cons_iff opening.symm closing.symm]
      exact ih ⟨noOpening, noClosing⟩

/-- A text whose parentheses pair up is cut into pairs, behind the end of a pair that is open. The
induction is on the text. -/
theorem mem_innerPattern_of_pairsUp :
    (PairsUp 0 text → text ∈ innerPattern) ∧
      (PairsUp 1 text → ∃ inside ∈ plainTexts, ∃ behind ∈ innerPattern,
        text = inside ++ ')' :: behind) := by
  have empty : [] ∈ plainTexts := ⟨List.not_mem_nil, List.not_mem_nil⟩
  induction text with
  | nil =>
      refine ⟨fun _ => ⟨[], empty, [], Language.nil_mem_kstar _, rfl⟩, ?_⟩
      intro pairs
      cases pairsUp_nil_iff.mp pairs
  | cons c rest ih =>
      obtain ⟨closed, open_⟩ := ih
      by_cases opening : c = '('
      · subst opening
        simp only [pairsUp_opening_iff, one_ne_zero, false_and, false_implies, and_true, true_and]
        intro pairs
        obtain ⟨inside, plain, behind, ⟨front, plainFront, groups, starred, rfl⟩, rfl⟩ :=
          open_ pairs
        obtain ⟨parts, rfl, arePairs⟩ := Language.mem_kstar.mp starred
        refine ⟨[], empty, _, Language.mem_kstar.mpr
          ⟨('(' :: inside ++ ')' :: front) :: parts, rfl, ?_⟩, by simp⟩
        exact List.forall_mem_cons.mpr
          ⟨mem_pairTexts_iff.mpr ⟨inside, plain, front, plainFront, rfl⟩, arePairs⟩
      · by_cases closing : c = ')'
        · subst closing
          simp only [pairsUp_closing_iff, zero_ne_one, false_and, false_implies, true_and]
          intro pairs
          exact ⟨[], empty, rest, closed pairs, rfl⟩
        · have longer {front : List Char} (plain : front ∈ plainTexts) :
              c :: front ∈ plainTexts := by
            constructor
            · simp [plain.1, Ne.symm opening]
            · simp [plain.2, Ne.symm closing]
          simp only [pairsUp_cons_iff opening closing]
          constructor
          · intro pairs
            obtain ⟨front, plain, groups, starred, rfl⟩ := closed pairs
            exact ⟨c :: front, longer plain, groups, starred, rfl⟩
          · intro pairs
            obtain ⟨inside, plain, behind, matched, rfl⟩ := open_ pairs
            exact ⟨c :: inside, longer plain, behind, matched, rfl⟩

/-- The pattern for the inner part has the texts whose parentheses are balanced and nested at most
one deep. -/
theorem mem_innerPattern_iff : text ∈ innerPattern ↔ HasFlatPairs text := by
  rw [← pairsUp_zero_iff]
  refine ⟨?_, mem_innerPattern_of_pairsUp.1⟩
  intro matched
  obtain ⟨front, plain, groups, starred, rfl⟩ := matched
  obtain ⟨parts, rfl, arePairs⟩ := Language.mem_kstar.mp starred
  rw [pairsUp_append_iff plain]
  clear starred
  induction parts with
  | nil => exact pairsUp_nil_iff.mpr rfl
  | cons part parts ih =>
      obtain ⟨isPair, later⟩ := List.forall_mem_cons.mp arePairs
      obtain ⟨inside, plainInside, behind, plainBehind, rfl⟩ := mem_pairTexts_iff.mp isPair
      rw [List.flatten_cons, List.append_assoc, List.cons_append, List.cons_append,
        pairsUp_opening_iff, pairsUp_append_iff plainInside, pairsUp_closing_iff,
        pairsUp_append_iff plainBehind]
      exact ⟨rfl, rfl, ih later⟩

/-- The pattern has the texts that are one whole link. -/
theorem mem_pattern_iff : text ∈ pattern ↔ ∃ label inner, IsLink text label inner := by
  unfold pattern IsLink
  simp only [Language.mem_mul, mem_literal_iff, mem_innerPattern_iff]
  constructor
  · intro matched
    obtain
        ⟨-, ⟨-, ⟨-, ⟨-, rfl, label, isLabel, rfl⟩, -, rfl, rfl⟩, inner, pairs, rfl⟩, -, rfl, rfl⟩ :=
      matched
    exact ⟨label, inner, by simp, isLabel, pairs⟩
  · intro isLink
    obtain ⟨label, inner, rfl, isLabel, pairs⟩ := isLink
    exact ⟨_, ⟨_, ⟨_, ⟨_, rfl, label, isLabel, rfl⟩, _, rfl, rfl⟩, inner, pairs, rfl⟩, _, rfl,
      by simp⟩

end Pattern

section Reading

variable {text label inner otherLabel otherInner core : List Char}

theorem markdownParts?_eq_some_iff :
    markdownParts? text = some (label, inner) ↔ IsLink text label inner := by
  unfold markdownParts? IsLink
  simp only [Option.bind_eq_bind, Option.bind_eq_some_iff, Prod.exists,
    Text.dropPrefix?_eq_some_iff, Text.cutFirst?_eq_some_iff, Option.ite_none_right_eq_some,
    Option.some.injEq, Prod.mk.injEq, isShallow_iff, List.getLast?_eq_some_iff]
  constructor
  · intro cut
    obtain ⟨-, rfl, label, -, ⟨rfl, absent⟩, -, rfl, ⟨⟨inner, rfl⟩, pairs⟩, rfl, rfl⟩ := cut
    rw [List.dropLast_concat] at pairs ⊢
    exact ⟨by simp, absent, pairsUp_zero_iff.mp pairs⟩
  · intro isLink
    obtain ⟨rfl, absent, pairs⟩ := isLink
    refine ⟨_, rfl, label, '(' :: inner ++ [')'], ⟨by simp, absent⟩, inner ++ [')'], rfl, ?_⟩
    rw [List.dropLast_concat]
    exact ⟨⟨⟨inner, rfl⟩, pairsUp_zero_iff.mpr pairs⟩, rfl, rfl⟩

/-- A text is read as a link in one way. -/
theorem IsLink.unique (isLink : IsLink text label inner)
    (others : IsLink text otherLabel otherInner) :
    label = otherLabel ∧ inner = otherInner := by
  have read := markdownParts?_eq_some_iff.mpr isLink
  rw [markdownParts?_eq_some_iff.mpr others] at read
  obtain ⟨rfl, rfl⟩ := Prod.mk.inj (Option.some.inj read)
  exact ⟨rfl, rfl⟩

/-- The inner part of a link names one destination. -/
theorem IsDestination.unique {destination other : List Char}
    (names : IsDestination core destination) (others : IsDestination core other) :
    destination = other := by
  rcases names with ⟨after, rfl, first⟩ | ⟨bare, after, rfl, solid, ends⟩
  · rcases others with ⟨otherAfter, same, otherFirst⟩ | ⟨otherBare, -⟩
    · exact (Text.eq_of_cut (List.cons.inj same).2 first otherFirst).1
    · exact absurd ⟨_, _, rfl⟩ otherBare
  · rcases others with ⟨otherAfter, same, -⟩ | ⟨-, otherAfter, same, otherSolid, otherEnds⟩
    · exact absurd ⟨_, _, same⟩ bare
    · have word : (destination ++ after).takeWhile (!Text.isBlank ·) = other := by
        rw [same]
        exact Text.takeWhile_append_of_stops (by simpa using otherSolid) (by simpa using otherEnds)
      rw [← word]
      exact (Text.takeWhile_append_of_stops (by simpa using solid) (by simpa using ends)).symm

/-- What is read as the destination is the one that the trimmed inner part names. -/
theorem isDestination_destination (trims : Text.TrimsTo inner core) :
    IsDestination core (destination inner) := by
  unfold destination
  rw [Text.trim_eq_iff.mpr trims]
  dsimp only
  cases bracketed : (Text.dropPrefix? ['<'] core).bind (Text.cutFirst? '>') with
  | some parts =>
      obtain ⟨rest, opened, cut⟩ := Option.bind_eq_some_iff.mp bracketed
      obtain ⟨rfl, first⟩ := Text.cutFirst?_eq_some cut
      have opens : core = ['<'] ++ (parts.1 ++ '>' :: parts.2) :=
        Text.dropPrefix?_eq_some_iff.mp opened
      exact .inl ⟨parts.2, opens, first⟩
  | none =>
      obtain ⟨-, -, -, -, filled⟩ := trims
      dsimp only
      rw [Text.headD_words fun c first => filled c (.inl first)]
      refine .inr
        ⟨?_, core.dropWhile (!Text.isBlank ·), List.takeWhile_append_dropWhile.symm, ?_, ?_⟩
      · intro opened
        obtain ⟨inside, after, rfl⟩ := opened
        have unclosed : Text.cutFirst? '>' (inside ++ '>' :: after) = none := bracketed
        exact Text.cutFirst?_eq_none_iff.mp unclosed (by simp)
      · intro c member
        simpa using List.mem_takeWhile_imp member
      · intro c first
        have kept := List.head?_dropWhile_not (!Text.isBlank ·) core
        rw [first] at kept
        simpa using kept

theorem toList_ofArgument_of_isLink {argument : String}
    (trims : Text.TrimsTo argument.toList text) (isLink : IsLink text label inner) :
    (ofArgument argument).toList = destination inner := by
  unfold ofArgument
  rw [Text.trim_eq_iff.mpr trims]
  dsimp only
  rw [markdownParts?_eq_some_iff.mpr isLink]
  exact String.toList_ofList

theorem toList_ofArgument_of_not_isLink {argument : String}
    (trims : Text.TrimsTo argument.toList text) (other : ¬ ∃ label inner, IsLink text label inner) :
    (ofArgument argument).toList = text := by
  have unread : markdownParts? text = none := by
    cases read : markdownParts? text with
    | none => rfl
    | some parts => exact absurd ⟨parts.1, parts.2, markdownParts?_eq_some_iff.mp read⟩ other
  unfold ofArgument
  rw [Text.trim_eq_iff.mpr trims]
  dsimp only
  rw [unread]
  exact String.toList_ofList

/-- A link stands in brackets, so no blanks are trimmed away. -/
theorem IsLink.trimsTo (isLink : IsLink text label inner) : Text.TrimsTo text text := by
  refine ⟨[], [], by simp, nofun, ?_⟩
  obtain ⟨rfl, -, -⟩ := isLink
  intro c ends
  rcases ends with first | last
  · obtain rfl : '[' = c := by simpa using first
    rfl
  · rw [List.getLast?_concat] at last
    obtain rfl := Option.some.inj last
    rfl

/-- A destination without blanks is the first word of the inner part, whatever follows it behind a
blank. -/
theorem isDestination_of_solid {uri after : List Char} (trims : Text.TrimsTo (uri ++ after) core)
    (filled : uri ≠ []) (solid : ∀ c ∈ uri, Text.isBlank c = false) (bare : uri.head? ≠ some '<')
    (ends : ∀ c, after.head? = some c → Text.isBlank c = true) : IsDestination core uri := by
  obtain ⟨first, rest, rfl⟩ := List.exists_cons_of_ne_nil filled
  obtain ⟨before, behind, cut, blank, -⟩ := trims
  obtain ⟨blankBefore, blankBehind⟩ := List.forall_mem_append.mp blank
  have start : before = [] := by
    cases before with
    | nil => rfl
    | cons c before =>
        obtain ⟨rfl, -⟩ := List.cons.inj cut
        cases (solid first List.mem_cons_self).symm.trans (blankBefore first List.mem_cons_self)
  rw [start, List.nil_append] at cut
  rcases List.append_eq_append_iff.mp cut with ⟨shift, rfl, rfl⟩ | ⟨shift, same, rfl⟩
  · refine .inr ⟨?_, shift, rfl, solid, ?_⟩
    · intro opened
      obtain ⟨inside, after, same⟩ := opened
      exact bare (congrArg some (List.cons.inj same).1)
    · intro c isFirst
      apply ends
      rw [List.head?_append, isFirst]
      rfl
  · have none : shift = [] := by
      apply List.eq_nil_iff_forall_not_mem.mpr
      intro c member
      have isSolid := solid c (same ▸ List.mem_append_right core member)
      cases isSolid.symm.trans (blankBehind c (List.mem_append_left after member))
    rw [none, List.append_nil] at same
    subst same
    refine .inr ⟨?_, [], (List.append_nil _).symm, solid, nofun⟩
    intro opened
    obtain ⟨inside, after, same⟩ := opened
    exact bare (congrArg some (List.cons.inj same).1)

theorem ofArgument_of_solid {uri after : List Char} (isLink : IsLink text label (uri ++ after))
    (filled : uri ≠ []) (solid : ∀ c ∈ uri, Text.isBlank c = false) (bare : uri.head? ≠ some '<')
    (ends : ∀ c, after.head? = some c → Text.isBlank c = true) :
    ofArgument (String.ofList text) = String.ofList uri := by
  have trims : Text.TrimsTo (String.ofList text).toList text := by
    rw [String.toList_ofList]
    exact isLink.trimsTo
  have isTrimmed := Text.trim_eq_iff.mp (rfl : Text.trim (uri ++ after) = _)
  have read := (isDestination_destination isTrimmed).unique
    (isDestination_of_solid isTrimmed filled solid bare ends)
  rw [← String.toList_inj, String.toList_ofList, toList_ofArgument_of_isLink trims isLink, read]

/-- **The link of an argument.** Let `text` be an argument without the blanks at its ends. If it is
one whole link, which it is in one way, its link is the destination that the trimmed inner part
names; otherwise its link is `text`. The whole links are the texts of the pattern.

So a link with a label and a destination without blanks has that destination as its link, and a
title behind a blank does not change that. -/
theorem argument_link_exact :
    (∀ argument : String, ∃ text, Text.TrimsTo argument.toList text ∧
      (text ∈ pattern ↔ ∃ label inner, IsLink text label inner) ∧
      (∀ label inner otherLabel otherInner, IsLink text label inner →
        IsLink text otherLabel otherInner → label = otherLabel ∧ inner = otherInner) ∧
      (∀ label inner, IsLink text label inner → ∃ core, Text.TrimsTo inner core ∧
        IsDestination core (ofArgument argument).toList) ∧
      ((¬ ∃ label inner, IsLink text label inner) → (ofArgument argument).toList = text)) ∧
    ∀ label uri : List Char, ']' ∉ label → uri ≠ [] → (∀ c ∈ uri, Text.isBlank c = false) →
      uri.head? ≠ some '<' → HasFlatPairs uri →
        ofArgument (String.ofList ('[' :: label ++ ']' :: '(' :: uri ++ [')'])) =
          String.ofList uri ∧
        ∀ blank title, Text.isBlank blank = true → HasFlatPairs title →
          ofArgument (String.ofList
            ('[' :: label ++ ']' :: '(' :: (uri ++ blank :: title) ++ [')'])) =
              String.ofList uri := by
  refine ⟨?_, ?_⟩
  · intro argument
    have trims := Text.trim_eq_iff.mp (rfl : Text.trim argument.toList = _)
    refine ⟨_, trims, mem_pattern_iff, ?_, ?_, toList_ofArgument_of_not_isLink trims⟩
    · intro label inner otherLabel otherInner isLink others
      exact isLink.unique others
    · intro label inner isLink
      have isTrimmed := Text.trim_eq_iff.mp (rfl : Text.trim inner = _)
      rw [toList_ofArgument_of_isLink trims isLink]
      exact ⟨_, isTrimmed, isDestination_destination isTrimmed⟩
  · intro label uri isLabel filled solid bare pairs
    refine ⟨?_, ?_⟩
    · have isLink : IsLink ('[' :: label ++ ']' :: '(' :: uri ++ [')']) label (uri ++ []) := by
        rw [List.append_nil]
        exact ⟨rfl, isLabel, pairs⟩
      exact ofArgument_of_solid isLink filled solid bare nofun
    · intro blank title isBlank titled
      have opening : blank ≠ '(' := by
        rintro rfl
        cases isBlank
      have closing : blank ≠ ')' := by
        rintro rfl
        cases isBlank
      have behind : HasFlatPairs (blank :: title) := by
        rw [← pairsUp_zero_iff, pairsUp_cons_iff opening closing, pairsUp_zero_iff]
        exact titled
      refine ofArgument_of_solid ⟨rfl, isLabel, pairs.append behind⟩ filled solid bare ?_
      intro c first
      exact Option.some.inj first ▸ isBlank

end Reading

end Link

end DocMarkers
