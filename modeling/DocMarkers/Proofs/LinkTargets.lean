import DocMarkers.Link.Target
import DocMarkers.Proofs.JoinedPaths
import DocMarkers.Proofs.SplitTexts

/-! # Where links lead

The kind of a link is told by its scheme, and without one by whether it is a fragment
(`Link.link_kind_exact`). What is behind `#` or `?` does not change the file that a link leads to,
whatever it is.

A link to a file stays below the directory that it is taken from (`Link.file_link_anchored`), with
one exception: of two slashes at the start of a link only the first is taken away, so what is left
is absolute and the root does not count any more (`Link.doubled_slash_leaves_root`).
-/

namespace DocMarkers

namespace Link

open Text (TrimsTo)

/-- A link has a scheme when what stands before its first colon has at least two characters, of
which the first is a letter and the others are letters, digits, `+`, `-` or `.`; all of ASCII. -/
def HasScheme (link scheme : List Char) : Prop :=
  (∃ rest, link = scheme ++ ':' :: rest ∧ ':' ∉ scheme) ∧
    ∃ first others, scheme = first :: others ∧ others ≠ [] ∧ first.isAlpha = true ∧
      ∀ c ∈ others, c.isAlphanum = true ∨ c = '+' ∨ c = '-' ∨ c = '.'

/-- The scheme is one of the network, in any case. -/
def IsRemote (scheme : List Char) : Prop :=
  scheme.map Char.toLower = "http".toList ∨ scheme.map Char.toLower = "https".toList

section Schemes

variable {link scheme : List Char} {c : Char}

theorem isSchemeChar_iff :
    isSchemeChar c = true ↔ c.isAlphanum = true ∨ c = '+' ∨ c = '-' ∨ c = '.' := by
  simp [isSchemeChar, or_assoc]

theorem isRemoteScheme_iff : isRemoteScheme scheme = true ↔ IsRemote scheme := by
  simp [isRemoteScheme, IsRemote]

theorem isScheme_iff :
    isScheme scheme = true ↔
      ∃ first others, scheme = first :: others ∧ others ≠ [] ∧ first.isAlpha = true ∧
        ∀ c ∈ others, c.isAlphanum = true ∨ c = '+' ∨ c = '-' ∨ c = '.' := by
  simp only [← isSchemeChar_iff]
  unfold isScheme
  split
  · simp
  · next short =>
    simp only [Bool.false_eq_true, false_iff]
    intro spelled
    obtain ⟨first, others, rfl, filled, -⟩ := spelled
    obtain ⟨second, rest, rfl⟩ := List.exists_cons_of_ne_nil filled
    exact short first second rest rfl

theorem scheme?_eq_some_iff : scheme? link = some scheme ↔ HasScheme link scheme := by
  unfold scheme? HasScheme
  simp only [Option.bind_eq_bind, Option.bind_eq_some_iff, Prod.exists, Text.cutFirst?_eq_some_iff,
    Option.ite_none_right_eq_some, isScheme_iff, Option.some.injEq]
  constructor
  · intro cut
    obtain ⟨before, rest, isCut, spelled, rfl⟩ := cut
    exact ⟨⟨rest, isCut⟩, spelled⟩
  · intro has
    obtain ⟨⟨rest, isCut⟩, spelled⟩ := has
    exact ⟨scheme, rest, isCut, spelled, rfl⟩

theorem scheme?_eq_none_iff : scheme? link = none ↔ ¬ ∃ scheme, HasScheme link scheme := by
  simp only [← scheme?_eq_some_iff, Option.eq_none_iff_forall_ne_some, not_exists, ne_eq]

/-- A link has one scheme. -/
theorem HasScheme.unique {other : List Char} (has : HasScheme link scheme)
    (others : HasScheme link other) : scheme = other := by
  have read := scheme?_eq_some_iff.mpr has
  rw [scheme?_eq_some_iff.mpr others] at read
  exact (Option.some.inj read).symm

theorem HasScheme.exists_iff {P : List Char → Prop} (has : HasScheme link scheme) :
    (∃ other, HasScheme link other ∧ P other) ↔ P scheme := by
  constructor
  · intro holds
    obtain ⟨other, others, isSo⟩ := holds
    exact has.unique others ▸ isSo
  · intro holds
    exact ⟨scheme, has, holds⟩

end Schemes

/-- What separates a file from the place in it that is asked for. -/
def Separates (c : Char) : Prop :=
  c = '#' ∨ c = '?'

section Suffixes

variable {link suffix core : List Char} {separator : Char}

/-- A suffix behind a link gives it no scheme. -/
theorem exists_scheme_of_append (separates : Separates separator) (filled : link ≠ [])
    (has : ∃ scheme, HasScheme (link ++ separator :: suffix) scheme) :
    ∃ scheme, HasScheme link scheme := by
  obtain ⟨scheme, ⟨rest, cut, first⟩, spelled⟩ := has
  rcases List.append_eq_append_iff.mp cut with ⟨shift, rfl, moved⟩ | ⟨shift, rfl, moved⟩
  · -- The scheme would reach over the separator, which is no character of a scheme.
    exfalso
    obtain ⟨start, others, same, -, -, chars⟩ := spelled
    have inside : separator ∈ others := by
      cases shift with
      | nil =>
          obtain ⟨rfl, -⟩ := List.cons.inj moved
          rcases separates with isHash | isMark
          · cases isHash
          · cases isMark
      | cons c shift =>
          obtain ⟨rfl, -⟩ := List.cons.inj moved
          obtain ⟨head, tail, rfl⟩ := List.exists_cons_of_ne_nil filled
          rw [← (List.cons.inj same).2]
          simp
    rcases separates with rfl | rfl
    · have impossible := chars '#' inside
      revert impossible
      decide
    · have impossible := chars '?' inside
      revert impossible
      decide
  · cases shift with
    | nil =>
        obtain ⟨isColon, -⟩ := List.cons.inj moved
        rcases separates with isHash | isMark
        · cases isColon.trans isHash
        · cases isColon.trans isMark
    | cons c shift =>
        obtain ⟨rfl, -⟩ := List.cons.inj moved
        exact ⟨scheme, ⟨shift, rfl, first⟩, spelled⟩

/-- A suffix does not belong to the part that names a file. -/
theorem filePart_append (separates : Separates separator) :
    filePart (link ++ separator :: suffix) = filePart link := by
  have stops : (separator != '#' && separator != '?') = false := by
    rcases separates with rfl | rfl <;> rfl
  unfold filePart
  induction link with
  | nil => simp [stops]
  | cons c rest ih =>
      rw [List.cons_append, List.takeWhile_cons, List.takeWhile_cons, ih]

/-- Trimming changes a suffix only at its end. -/
theorem exists_trimsTo_append {before : List Char} (trims : TrimsTo before link)
    (filled : link ≠ [])
    (separates : Separates separator) (suffix : List Char) :
    ∃ core, TrimsTo (link ++ separator :: suffix) (link ++ separator :: core) := by
  obtain ⟨-, -, -, -, solid⟩ := trims
  obtain ⟨after, cut, blank, ends⟩ := Text.exists_trimEnd suffix
  refine ⟨Text.trimEnd suffix, [], after, ?_, by simpa using blank, ?_⟩
  · simp [← cut]
  · intro c isEnd
    rcases isEnd with first | last
    · rw [List.head?_append_of_ne_nil _ filled] at first
      exact solid c (.inl first)
    · cases kept : Text.trimEnd suffix with
      | nil =>
          rw [kept, List.getLast?_concat] at last
          obtain rfl := Option.some.inj last
          rcases separates with rfl | rfl <;> rfl
      | cons start rest =>
          apply ends
          rw [kept] at last ⊢
          rw [List.getLast?_append_cons, List.getLast?_cons_cons] at last
          exact last

end Suffixes

section Kinds

variable {uri : String} {link scheme : List Char} {file root : Path}

theorem classify_of_hasScheme (trims : TrimsTo uri.toList link) (has : HasScheme link scheme) :
    LinkTarget.classify uri file root =
      if isRemoteScheme scheme then .remote (String.ofList link)
      else .unsupported (String.ofList link) := by
  unfold LinkTarget.classify
  rw [Text.trim_eq_iff.mpr trims]
  dsimp only
  rw [scheme?_eq_some_iff.mpr has]

theorem classify_of_not_hasScheme (trims : TrimsTo uri.toList link)
    (bare : ¬ ∃ scheme, HasScheme link scheme) :
    LinkTarget.classify uri file root =
      if link = [] ∨ link.head? = some '#' then .fragment (String.ofList link)
      else .file (resolve link file root) := by
  unfold LinkTarget.classify
  rw [Text.trim_eq_iff.mpr trims]
  dsimp only
  rw [scheme?_eq_none_iff.mpr bare]

theorem classify_eq_remote_iff (trims : TrimsTo uri.toList link) :
    LinkTarget.classify uri file root = .remote (String.ofList link) ↔
      ∃ scheme, HasScheme link scheme ∧ IsRemote scheme := by
  by_cases bare : ¬ ∃ scheme, HasScheme link scheme
  · have none : ¬ ∃ scheme, HasScheme link scheme ∧ IsRemote scheme :=
      fun has => bare ⟨_, has.choose_spec.1⟩
    rw [classify_of_not_hasScheme trims bare]
    simp only [none, iff_false]
    split <;> exact LinkTarget.noConfusion
  · obtain ⟨scheme, has⟩ := not_not.mp bare
    rw [classify_of_hasScheme trims has, has.exists_iff, ← isRemoteScheme_iff]
    split <;> simp_all

theorem classify_eq_unsupported_iff (trims : TrimsTo uri.toList link) :
    LinkTarget.classify uri file root = .unsupported (String.ofList link) ↔
      ∃ scheme, HasScheme link scheme ∧ ¬ IsRemote scheme := by
  by_cases bare : ¬ ∃ scheme, HasScheme link scheme
  · have none : ¬ ∃ scheme, HasScheme link scheme ∧ ¬ IsRemote scheme :=
      fun has => bare ⟨_, has.choose_spec.1⟩
    rw [classify_of_not_hasScheme trims bare]
    simp only [none, iff_false]
    split <;> exact LinkTarget.noConfusion
  · obtain ⟨scheme, has⟩ := not_not.mp bare
    rw [classify_of_hasScheme trims has, has.exists_iff, ← isRemoteScheme_iff]
    split <;> simp_all

theorem classify_eq_fragment_iff (trims : TrimsTo uri.toList link) :
    LinkTarget.classify uri file root = .fragment (String.ofList link) ↔
      (¬ ∃ scheme, HasScheme link scheme) ∧ (link = [] ∨ link.head? = some '#') := by
  by_cases bare : ¬ ∃ scheme, HasScheme link scheme
  · rw [classify_of_not_hasScheme trims bare]
    simp only [bare, not_false_eq_true, true_and]
    split <;> simp_all
  · obtain ⟨scheme, has⟩ := not_not.mp bare
    rw [classify_of_hasScheme trims has]
    simp only [bare, false_and, iff_false]
    split <;> exact LinkTarget.noConfusion

/-- A link to a file has no scheme and is no fragment, and resolving it tells the file. -/
theorem classify_eq_file_iff (trims : TrimsTo uri.toList link) {path : Path} :
    LinkTarget.classify uri file root = .file path ↔
      (¬ ∃ scheme, HasScheme link scheme) ∧ link ≠ [] ∧ link.head? ≠ some '#' ∧
        resolve link file root = path := by
  by_cases bare : ¬ ∃ scheme, HasScheme link scheme
  · rw [classify_of_not_hasScheme trims bare]
    by_cases fragment : link = [] ∨ link.head? = some '#'
    · rw [if_pos fragment]
      rcases fragment with empty | hash
      · simp [empty]
      · simp [hash]
    · obtain ⟨filled, opens⟩ := not_or.mp fragment
      rw [if_neg fragment]
      simp [bare, filled, opens]
  · obtain ⟨scheme, has⟩ := not_not.mp bare
    rw [classify_of_hasScheme trims has]
    simp only [bare, false_and, iff_false]
    split <;> exact LinkTarget.noConfusion

/-- A link to a file leads to the same file with any suffix behind `#` or `?`. -/
theorem classify_append (trims : TrimsTo uri.toList link) {path : Path} {separator : Char}
    (separates : Separates separator) (suffix : List Char)
    (leads : LinkTarget.classify uri file root = .file path) :
    LinkTarget.classify (String.ofList (link ++ separator :: suffix)) file root = .file path := by
  obtain ⟨bare, filled, opens, resolved⟩ := (classify_eq_file_iff trims).mp leads
  obtain ⟨core, trimsLonger⟩ := exists_trimsTo_append trims filled separates suffix
  rw [← String.toList_ofList (l := link ++ separator :: suffix)] at trimsLonger
  rw [classify_eq_file_iff trimsLonger]
  refine ⟨?_, by simp, ?_, ?_⟩
  · exact fun has => bare (exists_scheme_of_append separates filled has)
  · rw [List.head?_append_of_ne_nil _ filled]
    exact opens
  · rw [← resolved]
    unfold resolve
    rw [filePart_append separates]

end Kinds

/-- **The kind of a link.** Let `link` be a link without the blanks at its ends. It leads to the
network, or nowhere that can be checked, exactly when it has a scheme, and the scheme tells which.
Without a scheme it is a fragment when it is empty or starts with `#`, and otherwise leads to a
file. Whatever is put behind a `#` or `?` at its end, a link to a file leads to the same file. -/
theorem link_kind_exact (uri : String) (file root : Path) :
    ∃ link, TrimsTo uri.toList link ∧
      (LinkTarget.classify uri file root = .remote (String.ofList link) ↔
        ∃ scheme, HasScheme link scheme ∧ IsRemote scheme) ∧
      (LinkTarget.classify uri file root = .unsupported (String.ofList link) ↔
        ∃ scheme, HasScheme link scheme ∧ ¬ IsRemote scheme) ∧
      (LinkTarget.classify uri file root = .fragment (String.ofList link) ↔
        (¬ ∃ scheme, HasScheme link scheme) ∧ (link = [] ∨ link.head? = some '#')) ∧
      ((∃ path, LinkTarget.classify uri file root = .file path) ↔
        (¬ ∃ scheme, HasScheme link scheme) ∧ link ≠ [] ∧ link.head? ≠ some '#') ∧
      ∀ path, LinkTarget.classify uri file root = .file path → ∀ suffix : List Char,
        LinkTarget.classify (String.ofList (link ++ '#' :: suffix)) file root = .file path ∧
          LinkTarget.classify (String.ofList (link ++ '?' :: suffix)) file root = .file path := by
  have trims := Text.trim_eq_iff.mp (rfl : Text.trim uri.toList = _)
  refine ⟨_, trims, classify_eq_remote_iff trims, classify_eq_unsupported_iff trims,
    classify_eq_fragment_iff trims, ?_, ?_⟩
  · simp only [classify_eq_file_iff trims, exists_and_left, exists_eq', and_true]
  · intro path leads suffix
    exact ⟨classify_append trims (.inl rfl) suffix leads,
      classify_append trims (.inr rfl) suffix leads⟩

section Anchors

variable {uri : String} {link : List Char} {file root path : Path}

theorem isAbsolute_ofChars {text : List Char} :
    (Path.ofChars text).isAbsolute = (text.head? == some '/') := by
  rw [Bool.eq_iff_iff, beq_iff_eq, ← Text.head?_encode (by decide)]
  exact beq_iff_eq

/-- The part that names a file starts with a slash only when the link does. -/
theorem head?_filePart_ne (opens : link.head? ≠ some '/') : (filePart link).head? ≠ some '/' := by
  unfold filePart
  rw [List.head?_takeWhile]
  intro first
  exact opens (Option.filter_eq_some_iff.mp first).1

theorem filePart_slash (rest : List Char) : filePart ('/' :: rest) = '/' :: filePart rest :=
  rfl

/-- A link that does not start with a slash stays below the directory of its document. -/
theorem directory_prefix_resolve (opens : link.head? ≠ some '/') :
    (file.parent?.getD ⟨""⟩).components <+: (resolve link file root).components := by
  have named := head?_filePart_ne opens
  have relative : (Path.ofChars (filePart link)).isAbsolute = false := by
    rw [isAbsolute_ofChars]
    simpa using named
  unfold resolve
  cases rooted : Text.dropPrefix? ['/'] (filePart link) with
  | none => exact Path.components_prefix_join relative
  | some rest =>
      have starts : filePart link = ['/'] ++ rest := Text.dropPrefix?_eq_some_iff.mp rooted
      exact absurd (congrArg List.head? starts) named

theorem resolve_slash (rest : List Char) :
    resolve ('/' :: rest) file root = root.join (Path.ofChars (filePart rest)) := by
  have rooted : Text.dropPrefix? ['/'] (filePart ('/' :: rest)) = some (filePart rest) :=
    Text.dropPrefix?_eq_some_iff.mpr (filePart_slash rest)
  unfold resolve
  rw [rooted]

/-- A link that starts with a single slash stays below the root. -/
theorem root_prefix_resolve {rest : List Char} (single : rest.head? ≠ some '/') :
    root.components <+: (resolve ('/' :: rest) file root).components := by
  have relative : (Path.ofChars (filePart rest)).isAbsolute = false := by
    rw [isAbsolute_ofChars]
    simpa using head?_filePart_ne single
  rw [resolve_slash]
  exact Path.components_prefix_join relative

/-- What is left of a link that starts with two slashes is absolute, and takes the place of the
root. -/
theorem resolve_doubled_slash (rest : List Char) :
    resolve ('/' :: '/' :: rest) file root = Path.ofChars ('/' :: filePart rest) := by
  have absolute : (Path.ofChars ('/' :: filePart rest)).isAbsolute = true := by
    rw [isAbsolute_ofChars]
    rfl
  rw [resolve_slash, filePart_slash]
  unfold Path.join
  rw [if_pos absolute]

end Anchors

/-- **Anchors of links.** A link to a file that does not start with a slash leads below the
directory of its document, and one that starts with a single slash below the root. A link that
starts with two slashes leads to what follows the first one, up to `#` or `?`, whatever the root and
the document are. -/
theorem file_link_anchored {uri : String} {file root path : Path}
    (leads : LinkTarget.classify uri file root = .file path) :
    ∃ link, TrimsTo uri.toList link ∧
      (link.head? ≠ some '/' → (file.parent?.getD ⟨""⟩).components <+: path.components) ∧
      (∀ rest, link = '/' :: rest → rest.head? ≠ some '/' →
        root.components <+: path.components) ∧
      ∀ rest, link = '/' :: '/' :: rest → path = Path.ofChars ('/' :: filePart rest) := by
  have trims := Text.trim_eq_iff.mp (rfl : Text.trim uri.toList = _)
  obtain ⟨-, -, -, rfl⟩ := (classify_eq_file_iff trims).mp leads
  refine ⟨_, trims, directory_prefix_resolve, ?_, ?_⟩
  · intro rest starts single
    rw [starts]
    exact root_prefix_resolve single
  · intro rest starts
    rw [starts]
    exact resolve_doubled_slash rest

/-- A link that climbs stays below the directory of its document as far as the steps of its path
go. -/
theorem file_link_anchored_when_climbing :
    LinkTarget.classify "../img/logo.png#top" ⟨"docs/guide.md"⟩ ⟨"."⟩ =
        .file ⟨"docs/../img/logo.png"⟩ ∧
      (Path.mk "docs").components <+: (Path.mk "docs/../img/logo.png").components := by
  have leads : LinkTarget.classify "../img/logo.png#top" ⟨"docs/guide.md"⟩ ⟨"."⟩ =
      .file ⟨"docs/../img/logo.png"⟩ := by
    decide +kernel
  obtain ⟨link, trims, below, -, -⟩ := file_link_anchored leads
  have spelled : link = "../img/logo.png#top".toList := by
    rw [← Text.trim_eq_iff.mpr trims]
    decide +kernel
  have directory : Path.parent? ⟨"docs/guide.md"⟩ = some ⟨"docs"⟩ := by decide +kernel
  rw [spelled, directory] at below
  exact ⟨leads, below (by decide +kernel)⟩

/-- A link with two slashes at its start leads out of the root, and out of the directory of its
document. -/
theorem doubled_slash_leaves_root :
    LinkTarget.classify "//etc/hosts" ⟨"docs/a.md"⟩ ⟨"docs"⟩ = .file ⟨"/etc/hosts"⟩ ∧
      ¬ (Path.mk "docs").components <+: (Path.mk "/etc/hosts").components := by
  decide +kernel

end Link

end DocMarkers
