import DocMarkers.Proofs.Reading
import DocMarkers.Proofs.SplitTexts

/-! # The clauses of a placeholder

The clauses of a body are its trimmed pieces between semicolons, without the blank ones, and a
clause is a parameter or bare (`Clause.Spells`). So a body has one row of clauses
(`Clause.ofBody_eq_iff`).

A clause can be faulty behind those before it (`Clause.HasFault`): its parameter was given already,
or else its value is empty. The clauses are read from left to right, and what has been read of a row
without a fault is told by the first clause of each kind (`Marker.Reading.Holds`). The first faulty
clause ends the reading with its fault (`Marker.Reading.exists_addAll_of_firstFault`).

`marker_reading_exact` joins this to what a text is read as.
-/

namespace DocMarkers

namespace Clause

/-- What a trimmed piece of a body spells: a parameter when a known key stands before its first `=`,
and otherwise a bare clause. -/
inductive Spells : List Char → Clause → Prop where
  | parameter {key value trimmed : List Char} {known : Parameter} (first : '=' ∉ key)
      (named : Text.TrimsTo key known.key.toList) (trims : Text.TrimsTo value trimmed) :
      Spells (key ++ '=' :: value) (.parameter known trimmed)
  | bare {text : List Char}
      (unnamed : ∀ key value, text = key ++ '=' :: value → '=' ∉ key → ∀ known : Parameter,
        ¬ Text.TrimsTo key known.key.toList) :
      Spells text (.bare text)

/-- The clauses of a body. -/
def AreOf (body : List Char) (clauses : List Clause) : Prop :=
  ∃ texts, Text.HasItems ';' body texts ∧ List.Forall₂ Spells texts clauses

/-- The text of a bare clause. -/
def bare? : Clause → Option (List Char)
  | bare text => some text
  | parameter .. => none

/-- The value of a clause that gives one parameter. -/
def value? (wanted : Parameter) : Clause → Option (List Char)
  | bare _ => none
  | parameter given value => if given = wanted then some value else none

section Reading

variable {text key value : List Char} {clause : Clause} {known : Parameter}

theorem parameter?_eq_some_iff : parameter? key = some known ↔ key = known.key.toList := by
  constructor
  · intro found
    unfold parameter? at found
    split at found
    · next isId => exact Option.some.inj found ▸ isId
    · split at found
      · next isTest => exact Option.some.inj found ▸ isTest
      · split at found
        · next isIds => exact Option.some.inj found ▸ isIds
        · cases found
  · intro named
    subst named
    cases known <;> decide

theorem parameter?_trim_eq_some_iff :
    parameter? (Text.trim key) = some known ↔ Text.TrimsTo key known.key.toList := by
  rw [parameter?_eq_some_iff, Text.trim_eq_iff]

/-- A trimmed piece spells one clause. -/
theorem Spells.unique {other : Clause} (spells : Spells text clause) (others : Spells text other) :
    clause = other := by
  cases spells with
  | parameter first named trims =>
      generalize whole : _ ++ '=' :: _ = text at others
      cases others with
      | parameter otherFirst otherNamed otherTrims =>
          obtain ⟨rfl, rfl⟩ := Text.eq_of_cut whole first otherFirst
          have same := (parameter?_trim_eq_some_iff.mpr named).symm.trans
            (parameter?_trim_eq_some_iff.mpr otherNamed)
          rw [Option.some.inj same, ← Text.trim_eq_iff.mpr trims, Text.trim_eq_iff.mpr otherTrims]
      | bare unnamed => exact absurd named (unnamed _ _ whole.symm first _)
  | bare unnamed =>
      cases others with
      | parameter first named _ => exact absurd named (unnamed _ _ rfl first _)
      | bare => rfl

/-- A trimmed piece spells what it is read as. -/
theorem spells_read (text : List Char) : Spells text (read text) := by
  unfold read
  cases cut : Text.cutFirst? '=' text with
  | none =>
      have absent := Text.cutFirst?_eq_none_iff.mp cut
      refine .bare ?_
      intro key value split
      exact absurd (split ▸ by simp) absent
  | some parts =>
      obtain ⟨key, value⟩ := parts
      obtain ⟨rfl, first⟩ := Text.cutFirst?_eq_some_iff.mp cut
      dsimp only
      cases named : parameter? (Text.trim key) with
      | none =>
          refine .bare ?_
          intro otherKey otherValue same otherFirst known trims
          obtain ⟨rfl, -⟩ := Text.eq_of_cut same first otherFirst
          cases named.symm.trans (parameter?_trim_eq_some_iff.mpr trims)
      | some known =>
          have isNamed := parameter?_trim_eq_some_iff.mp named
          exact .parameter first isNamed (Text.trim_eq_iff.mp rfl)

/-- What a trimmed piece is read as is what it spells. -/
theorem read_eq_iff : read text = clause ↔ Spells text clause := by
  constructor
  · intro isRead
    exact isRead ▸ spells_read text
  · exact (spells_read text).unique

/-- A body has one row of clauses. -/
theorem ofBody_eq_iff {body : List Char} {clauses : List Clause} :
    ofBody body = clauses ↔ AreOf body clauses := by
  have reads (texts : List (List Char)) :
      texts.map read = clauses ↔ List.Forall₂ Spells texts clauses := by
    rw [← List.forall₂_eq_eq_eq, List.forall₂_map_left_iff]
    simp only [read_eq_iff]
  unfold ofBody AreOf
  simp only [reads, Text.hasItems_iff, exists_eq_left']

/-- The items of a list of ids. -/
theorem idItems_eq_iff {items : List (List Char)} :
    idItems value = items ↔ Text.HasItems ',' value items :=
  Text.hasItems_iff.symm

end Reading

/-- What is wrong with a clause that stands behind others: its parameter was given already, or else
its value is empty. -/
inductive HasFault (before : List Clause) : Clause → Marker.Fault → Prop where
  | duplicate {known : Parameter} {earlier value : List Char}
      (given : .parameter known earlier ∈ before) :
      HasFault before (.parameter known value) (.duplicate known)
  | emptyIds {value : List Char} (new : ∀ earlier, .parameter .ids earlier ∉ before)
      (empty : Text.HasItems ',' value []) : HasFault before (.parameter .ids value) .emptyIds
  | emptyValue {known : Parameter} (single : known ≠ .ids)
      (new : ∀ earlier, .parameter known earlier ∉ before) :
      HasFault before (.parameter known []) (.emptyValue known)

/-- No clause of a row has a fault. -/
def AreClean (clauses : List Clause) : Prop :=
  ∀ front clause rest, clauses = front ++ clause :: rest → ∀ fault, ¬ HasFault front clause fault

/-- The fault of the first faulty clause of a row. -/
def FirstFault (clauses : List Clause) (fault : Marker.Fault) : Prop :=
  ∃ front clause rest, clauses = front ++ clause :: rest ∧ AreClean front ∧
    HasFault front clause fault

/-- A row of clauses says what to check: it has a bare clause or a list of ids. -/
def MakeClaim (clauses : List Clause) : Prop :=
  (∃ text, .bare text ∈ clauses) ∨ ∃ value, .parameter .ids value ∈ clauses

/-- The condition under which a row of clauses is read: no parameter comes twice, no value is empty,
and something is to be checked. -/
structure AreSound (clauses : List Clause) : Prop where
  once : clauses.Pairwise fun left right => ∀ known first second,
    left = .parameter known first → right ≠ .parameter known second
  values : ∀ known value, known ≠ .ids → .parameter known value ∈ clauses → value ≠ []
  items : ∀ value, .parameter .ids value ∈ clauses →
    ∃ items, Text.HasItems ',' value items ∧ items ≠ []
  claim : MakeClaim clauses

section Faults

variable {before front rest clauses : List Clause} {clause : Clause} {fault : Marker.Fault}

theorem areClean_concat_iff :
    AreClean (before ++ [clause]) ↔ AreClean before ∧ ∀ fault, ¬ HasFault before clause fault := by
  constructor
  · intro clean
    refine ⟨?_, clean before clause [] rfl⟩
    intro front other rest split
    exact clean front other (rest ++ [clause]) (by simp [split])
  · intro clean front other rest split
    rcases List.eq_nil_or_concat rest with rfl | ⟨later, last, rfl⟩
    · obtain ⟨rfl, same⟩ := List.append_inj' split rfl
      obtain rfl := List.singleton_inj.mp same
      exact clean.2
    · have shape : front ++ other :: (later ++ [last]) = (front ++ other :: later) ++ [last] := by
        simp
      rw [List.concat_eq_append, shape] at split
      exact clean.1 front other later (List.append_inj' split rfl).1

/-- A row is clean, or one of its clauses is the first faulty one. -/
theorem areClean_or_exists_firstFault (clauses : List Clause) :
    AreClean clauses ∨ ∃ fault, FirstFault clauses fault := by
  induction clauses using List.reverseRecOn with
  | nil => exact .inl (by simp [AreClean])
  | append_singleton before clause ih =>
      rcases ih with clean | ⟨fault, front, other, rest, rfl, faulty⟩
      · by_cases sound : ∀ fault, ¬ HasFault before clause fault
        · exact .inl (areClean_concat_iff.mpr ⟨clean, sound⟩)
        · obtain ⟨fault, isFault⟩ := not_forall_not.mp sound
          exact .inr ⟨fault, before, clause, [], rfl, clean, isFault⟩
      · exact .inr ⟨fault, front, other, rest ++ [clause], by simp, faulty⟩

theorem pairwise_of_areClean (clean : AreClean clauses) :
    clauses.Pairwise fun left right => ∀ known first second,
      left = .parameter known first → right ≠ .parameter known second := by
  induction clauses using List.reverseRecOn with
  | nil => exact .nil
  | append_singleton before clause ih =>
      obtain ⟨cleanBefore, sound⟩ := areClean_concat_iff.mp clean
      refine List.pairwise_append.mpr ⟨ih cleanBefore, List.pairwise_singleton _ _, ?_⟩
      intro left member right isLast known first second isFirst isSecond
      obtain rfl := List.mem_singleton.mp isLast
      subst isFirst
      subst isSecond
      exact sound _ (.duplicate member)

/-- A row is sound when no clause of it is faulty and it says what to check. -/
theorem areSound_iff : AreSound clauses ↔ AreClean clauses ∧ MakeClaim clauses := by
  constructor
  · intro sound
    refine ⟨?_, sound.claim⟩
    intro front clause rest split fault faulty
    subst split
    have inside : clause ∈ front ++ clause :: rest := by simp
    cases faulty with
    | duplicate given =>
        have apart := (List.pairwise_append.mp sound.once).2.2 _ given _ List.mem_cons_self
        exact apart _ _ _ rfl rfl
    | emptyIds new empty =>
        obtain ⟨items, hasItems, filled⟩ := sound.items _ inside
        exact filled ((idItems_eq_iff.mpr hasItems).symm.trans (idItems_eq_iff.mpr empty))
    | emptyValue single new => exact sound.values _ _ single inside rfl
  · intro both
    obtain ⟨clean, claim⟩ := both
    refine ⟨pairwise_of_areClean clean, ?_, ?_, claim⟩
    · intro known value single member empty
      subst empty
      obtain ⟨front, rest, split⟩ := List.append_of_mem member
      -- Behind another of its kind a clause is faulty as well, only for another reason.
      by_cases given : ∃ earlier, .parameter known earlier ∈ front
      · exact clean _ _ _ split _ (.duplicate given.choose_spec)
      · exact clean _ _ _ split _ (.emptyValue single (not_exists.mp given))
    · intro value member
      refine ⟨idItems value, idItems_eq_iff.mp rfl, ?_⟩
      intro empty
      obtain ⟨front, rest, split⟩ := List.append_of_mem member
      by_cases given : ∃ earlier, .parameter .ids earlier ∈ front
      · exact clean _ _ _ split _ (.duplicate given.choose_spec)
      · exact clean _ _ _ split _ (.emptyIds (not_exists.mp given) (idItems_eq_iff.mp empty))

end Faults

section Values

variable {clauses : List Clause} {wanted : Parameter} {value : List Char}

theorem findSome?_concat_of_none {wanted : Clause → Option (List Char)} {clause : Clause}
    (other : wanted clause = none) :
    (clauses ++ [clause]).findSome? wanted = clauses.findSome? wanted := by
  rw [List.findSome?_append, List.findSome?_singleton, other, Option.or_none]

theorem findSome?_concat_of_new {wanted : Clause → Option (List Char)} {clause : Clause}
    (first : clauses.findSome? wanted = none) :
    (clauses ++ [clause]).findSome? wanted = wanted clause := by
  rw [List.findSome?_append, List.findSome?_singleton, first, Option.none_or]

theorem value?_eq_some_iff {clause : Clause} :
    clause.value? wanted = some value ↔ clause = .parameter wanted value := by
  cases clause with
  | bare text => simp [value?]
  | parameter given own => simp [value?]

theorem mem_of_findSome?_value? (found : clauses.findSome? (value? wanted) = some value) :
    .parameter wanted value ∈ clauses := by
  obtain ⟨clause, member, own⟩ := List.exists_of_findSome?_eq_some found
  exact value?_eq_some_iff.mp own ▸ member

theorem isSome_findSome?_value?_iff :
    (clauses.findSome? (value? wanted)).isSome = true ↔
      ∃ value, .parameter wanted value ∈ clauses := by
  constructor
  · intro given
    obtain ⟨value, found⟩ := Option.isSome_iff_exists.mp given
    exact ⟨value, mem_of_findSome?_value? found⟩
  · intro given
    obtain ⟨value, member⟩ := given
    rw [List.isSome_findSome?, List.any_eq_true]
    exact ⟨_, member, by simp [value?]⟩

theorem isSome_findSome?_bare?_iff :
    (clauses.findSome? bare?).isSome = true ↔ ∃ text, .bare text ∈ clauses := by
  rw [List.isSome_findSome?, List.any_eq_true]
  constructor
  · intro given
    obtain ⟨clause, member, isBare⟩ := given
    cases clause with
    | bare text => exact ⟨text, member⟩
    | parameter given value => cases isBare
  · intro given
    obtain ⟨text, member⟩ := given
    exact ⟨_, member, rfl⟩

/-- A parameter that does not come twice has the value that any of its clauses gives. -/
theorem findSome?_value?_of_mem (sound : AreSound clauses)
    (member : .parameter wanted value ∈ clauses) :
    clauses.findSome? (value? wanted) = some value := by
  obtain ⟨front, rest, rfl⟩ := List.append_of_mem member
  have first : front.findSome? (value? wanted) = none := by
    rw [List.findSome?_eq_none_iff]
    intro clause earlier
    rw [Option.eq_none_iff_forall_ne_some]
    intro other own
    have apart := (List.pairwise_append.mp sound.once).2.2 _ earlier _ List.mem_cons_self
    exact apart wanted other value (value?_eq_some_iff.mp own) rfl
  rw [List.findSome?_append, first, Option.none_or, List.findSome?_cons, value?, if_pos rfl]

end Values

end Clause

namespace Marker

namespace Reading

/-- What has been read tells the first clause of each kind. -/
structure Holds (reading : Reading) (clauses : List Clause) : Prop where
  argument : reading.argument = clauses.findSome? Clause.bare?
  id : reading.id = clauses.findSome? (Clause.value? .id)
  test : reading.test = clauses.findSome? (Clause.value? .test)
  ids : reading.ids.map Subtype.val = (clauses.findSome? (Clause.value? .ids)).map Clause.idItems

namespace Holds

variable {reading : Reading} {before clauses : List Clause} {clause : Clause} {fault : Fault}

theorem start : ({} : Reading).Holds [] :=
  ⟨rfl, rfl, rfl, rfl⟩

/-- A parameter has been given when a clause gives it. -/
theorem has_iff (holds : reading.Holds clauses) (wanted : Parameter) :
    reading.has wanted = true ↔ ∃ value, .parameter wanted value ∈ clauses := by
  rw [← Clause.isSome_findSome?_value?_iff]
  cases wanted with
  | id => rw [← holds.id, has]
  | test => rw [← holds.test, has]
  | ids =>
      have found := congrArg Option.isSome holds.ids
      rw [Option.isSome_map, Option.isSome_map] at found
      rw [← found, has]

theorem add_of_hasFault (holds : reading.Holds before)
    (faulty : Clause.HasFault before clause fault) : reading.add clause = .error fault := by
  cases faulty with
  | duplicate given =>
      unfold add
      dsimp only
      rw [if_pos ((holds.has_iff _).mpr ⟨_, given⟩)]
  | emptyIds new empty =>
      have absent : ¬ reading.has .ids = true := fun given =>
        ((holds.has_iff _).mp given).elim new
      unfold add
      dsimp only
      rw [if_neg absent, dif_neg (not_not.mpr (Clause.idItems_eq_iff.mpr empty))]
  | @emptyValue known single new =>
      have absent : ¬ reading.has known = true := fun given =>
        ((holds.has_iff _).mp given).elim new
      unfold add
      dsimp only
      rw [if_neg absent]
      cases known with
      | id => rfl
      | test => rfl
      | ids => exact absurd rfl single

theorem exists_add_bare (holds : reading.Holds before) (text : List Char) :
    ∃ next, reading.add (.bare text) = .ok next ∧ next.Holds (before ++ [.bare text]) := by
  have others (wanted : Parameter) :
      (before ++ [Clause.bare text]).findSome? (Clause.value? wanted) =
        before.findSome? (Clause.value? wanted) :=
    Clause.findSome?_concat_of_none rfl
  have ids := holds.ids.trans (congrArg (Option.map _) (others .ids).symm)
  unfold add
  cases known : reading.argument with
  | none =>
      have first : before.findSome? Clause.bare? = none := holds.argument.symm.trans known
      have counted : (before ++ [Clause.bare text]).findSome? Clause.bare? = some text :=
        Clause.findSome?_concat_of_new first
      exact ⟨_, rfl, counted.symm,
        holds.id.trans (others .id).symm, holds.test.trans (others .test).symm, ids⟩
  | some earlier =>
      refine ⟨_, rfl, ?_, holds.id.trans (others .id).symm, holds.test.trans (others .test).symm,
        ids⟩
      rw [List.findSome?_append, ← holds.argument, known, Option.some_or]

theorem exists_add_parameter {given : Parameter} {value : List Char} (holds : reading.Holds before)
    (sound : ∀ fault, ¬ Clause.HasFault before (.parameter given value) fault) :
    ∃ next, reading.add (.parameter given value) = .ok next ∧
      next.Holds (before ++ [.parameter given value]) := by
  have new (earlier : List Char) : .parameter given earlier ∉ before := by
    intro member
    exact sound _ (.duplicate member)
  have absent : ¬ reading.has given = true := by
    intro isGiven
    obtain ⟨earlier, member⟩ := (holds.has_iff given).mp isGiven
    exact new earlier member
  have first : before.findSome? (Clause.value? given) = none := by
    rw [← Option.not_isSome_iff_eq_none, Clause.isSome_findSome?_value?_iff, not_exists]
    exact new
  have counted : (before ++ [Clause.parameter given value]).findSome? (Clause.value? given) =
      some value := by
    rw [Clause.findSome?_concat_of_new first, Clause.value?_eq_some_iff]
  have others (wanted : Parameter) (different : given ≠ wanted) :
      (before ++ [Clause.parameter given value]).findSome? (Clause.value? wanted) =
        before.findSome? (Clause.value? wanted) :=
    Clause.findSome?_concat_of_none (if_neg different)
  have bare : (before ++ [Clause.parameter given value]).findSome? Clause.bare? =
      before.findSome? Clause.bare? :=
    Clause.findSome?_concat_of_none rfl
  have argument := holds.argument.trans bare.symm
  have filled (single : given ≠ .ids) : value ≠ [] := by
    intro empty
    subst empty
    exact sound _ (.emptyValue single new)
  unfold add
  dsimp only
  rw [if_neg absent]
  cases given with
  | id =>
      dsimp only
      rw [if_neg (filled Parameter.noConfusion)]
      exact ⟨_, rfl, argument, counted.symm, holds.test.trans (others .test nofun).symm,
        holds.ids.trans (congrArg (Option.map _) (others .ids nofun).symm)⟩
  | test =>
      dsimp only
      rw [if_neg (filled Parameter.noConfusion)]
      exact ⟨_, rfl, argument, holds.id.trans (others .id nofun).symm, counted.symm,
        holds.ids.trans (congrArg (Option.map _) (others .ids nofun).symm)⟩
  | ids =>
      have items : Clause.idItems value ≠ [] := by
        intro empty
        exact sound _ (.emptyIds new (Clause.idItems_eq_iff.mp empty))
      dsimp only
      rw [dif_pos items]
      refine ⟨_, rfl, argument, holds.id.trans (others .id nofun).symm,
        holds.test.trans (others .test nofun).symm, ?_⟩
      rw [counted]
      rfl

/-- A clause without a fault is read, and counts if it is the first of its kind. -/
theorem exists_add (holds : reading.Holds before)
    (sound : ∀ fault, ¬ Clause.HasFault before clause fault) :
    ∃ next, reading.add clause = .ok next ∧ next.Holds (before ++ [clause]) := by
  cases clause with
  | bare text => exact holds.exists_add_bare text
  | parameter given value => exact holds.exists_add_parameter sound

/-- A row of clauses without a fault is read to its end. -/
theorem exists_addAll (holds : reading.Holds before) (clean : Clause.AreClean (before ++ clauses)) :
    ∃ last : Reading, last.Holds (before ++ clauses) ∧
      ∀ rest, reading.addAll (clauses ++ rest) = last.addAll rest := by
  induction clauses generalizing reading before with
  | nil => exact ⟨reading, by simpa using holds, fun _ => rfl⟩
  | cons clause clauses ih =>
      obtain ⟨next, added, nextHolds⟩ := holds.exists_add (clean before clause clauses rfl)
      obtain ⟨last, lastHolds, later⟩ := ih nextHolds (by simpa using clean)
      refine ⟨last, by simpa using lastHolds, ?_⟩
      intro rest
      rw [List.cons_append, addAll, added]
      exact later rest

end Holds

/-- The clauses of a clean row are all read. -/
theorem exists_addAll_of_areClean {clauses : List Clause} (clean : Clause.AreClean clauses) :
    ∃ reading : Reading, reading.Holds clauses ∧
      ({} : Reading).addAll clauses = (reading, none) := by
  obtain ⟨reading, holds, reads⟩ :=
    Holds.start.exists_addAll (show Clause.AreClean ([] ++ clauses) from clean)
  refine ⟨reading, holds, ?_⟩
  rw [← List.append_nil clauses]
  exact reads []

/-- The first faulty clause ends the reading. -/
theorem exists_addAll_of_firstFault {clauses : List Clause} {fault : Fault}
    (faulty : Clause.FirstFault clauses fault) :
    ∃ reading : Reading, ({} : Reading).addAll clauses = (reading, some fault) := by
  obtain ⟨front, clause, rest, rfl, clean, isFault⟩ := faulty
  obtain ⟨reading, holds, reads⟩ :=
    Holds.start.exists_addAll (show Clause.AreClean ([] ++ front) from clean)
  refine ⟨reading, ?_⟩
  have isFault : Clause.HasFault ([] ++ front) clause fault := isFault
  rw [reads, addAll, holds.add_of_hasFault isFault]

end Reading

/-- What a placeholder with these clauses says: the first bare clause, the values of its parameters
and, if it has a list of ids, their items. -/
structure IsOf (marker : Marker) (raw : String) (clauses : List Clause) : Prop where
  raw_eq : marker.raw = raw
  argument : marker.argument?.map String.toList = clauses.findSome? Clause.bare?
  id : marker.id.map String.toList = clauses.findSome? (Clause.value? .id)
  test : marker.testId =
    ((clauses.findSome? (Clause.value? .test)).map String.ofList).getD "dacdoc-url"
  kind : marker.kind = .composite ↔ ∃ value, .parameter .ids value ∈ clauses
  ids : ∀ value, .parameter .ids value ∈ clauses →
    Text.HasItems ',' value (marker.ids.map String.toList)
  alone : marker.kind = .primitive → marker.ids = []

section Read

variable {raw : String} {body : List Char} {clauses : List Clause}

theorem readClauses_eq (framed : raw.toList = Placeholder.ofBody body) :
    readClauses raw = some (({} : Reading).addAll (Clause.ofBody body)) := by
  unfold readClauses
  rw [Placeholder.body?_eq_some_iff.mpr framed]
  rfl

/-- A placeholder with a faulty clause is refused for the first one. -/
theorem read_of_firstFault {fault : Fault} (framed : raw.toList = Placeholder.ofBody body)
    (faulty : Clause.FirstFault (Clause.ofBody body) fault) :
    read raw = .error (fault.error raw) := by
  obtain ⟨reading, reads⟩ := Reading.exists_addAll_of_firstFault faulty
  unfold read
  rw [readClauses_eq framed, reads]

theorem Reading.Holds.claim?_eq_none_iff {reading : Reading} (holds : reading.Holds clauses) :
    reading.claim? = none ↔ ¬ Clause.MakeClaim clauses := by
  have ids := congrArg Option.isSome holds.ids
  rw [Option.isSome_map, Option.isSome_map] at ids
  unfold Clause.MakeClaim
  rw [← Clause.isSome_findSome?_bare?_iff, ← Clause.isSome_findSome?_value?_iff, ← holds.argument,
    ← ids]
  unfold claim?
  cases reading.ids with
  | some items => simp
  | none => cases reading.argument <;> simp

/-- A placeholder whose clauses are clean but say nothing to check has no argument. -/
theorem read_of_claimless (framed : raw.toList = Placeholder.ofBody body)
    (clean : Clause.AreClean (Clause.ofBody body))
    (claimless : ¬ Clause.MakeClaim (Clause.ofBody body)) :
    read raw = .error (.missingArgument raw) := by
  obtain ⟨reading, holds, reads⟩ := Reading.exists_addAll_of_areClean clean
  unfold read
  rw [readClauses_eq framed, reads]
  dsimp only
  rw [holds.claim?_eq_none_iff.mpr claimless]

/-- The marker of a sound row of clauses that has been read. -/
theorem Reading.Holds.isOf {reading : Reading} {claim : Claim} (holds : reading.Holds clauses)
    (sound : Clause.AreSound clauses) (isClaim : reading.claim? = some claim) :
    IsOf ⟨raw, reading.id.map String.ofList, (reading.test.map String.ofList).getD defaultTestId,
      claim⟩ raw clauses := by
  have spelled (text : Option (List Char)) : (text.map String.ofList).map String.toList = text := by
    cases text <;> simp
  have given (value : List Char) (member : .parameter .ids value ∈ clauses) :
      reading.ids.map Subtype.val = some (Clause.idItems value) := by
    rw [holds.ids, Clause.findSome?_value?_of_mem sound member]
    rfl
  have isGiven : reading.ids.isSome = true ↔ ∃ value, .parameter .ids value ∈ clauses :=
    holds.has_iff .ids
  have argument := (spelled reading.argument).trans holds.argument
  have id := (spelled reading.id).trans holds.id
  have test := congrArg (fun text => (text.map String.ofList).getD defaultTestId) holds.test
  unfold claim? at isClaim
  split at isClaim
  · next items known =>
    obtain rfl := Option.some.inj isClaim
    refine ⟨rfl, argument, id, test, iff_of_true rfl (isGiven.mp (by rw [known]; rfl)), ?_, nofun⟩
    intro value member
    have same := given value member
    rw [known] at same
    have items : Clause.idItems value = items.val := (Option.some.inj same).symm
    rw [← Clause.idItems_eq_iff, items]
    simp [Marker.ids]
  · next text alone known =>
    obtain rfl := Option.some.inj isClaim
    rw [known] at argument
    have absent : ¬ ∃ value, .parameter .ids value ∈ clauses := by
      rw [← isGiven, alone]
      exact Bool.false_ne_true
    refine ⟨rfl, argument, id, test, iff_of_false nofun absent, ?_, fun _ => rfl⟩
    intro value member
    exact absurd ⟨value, member⟩ absent
  · cases isClaim

/-- A placeholder whose clauses are sound is read as what they say. -/
theorem exists_read_of_areSound (framed : raw.toList = Placeholder.ofBody body)
    (sound : Clause.AreSound (Clause.ofBody body)) :
    ∃ marker, read raw = .ok marker ∧ marker.IsOf raw (Clause.ofBody body) := by
  obtain ⟨clean, makesClaim⟩ := Clause.areSound_iff.mp sound
  obtain ⟨reading, holds, reads⟩ := Reading.exists_addAll_of_areClean clean
  have claims : reading.claim? ≠ none := fun none => holds.claim?_eq_none_iff.mp none makesClaim
  obtain ⟨claim, isClaim⟩ := Option.ne_none_iff_exists'.mp claims
  unfold read
  rw [readClauses_eq framed, reads]
  dsimp only
  rw [isClaim]
  exact ⟨_, rfl, holds.isOf sound isClaim⟩

/-- A placeholder is read, has a faulty clause, or has nothing to check. -/
theorem read_cases (framed : raw.toList = Placeholder.ofBody body) :
    (Clause.AreSound (Clause.ofBody body) ∧
      ∃ marker, read raw = .ok marker ∧ marker.IsOf raw (Clause.ofBody body)) ∨
    (∃ fault, Clause.FirstFault (Clause.ofBody body) fault ∧ read raw = .error (fault.error raw)) ∨
    Clause.AreClean (Clause.ofBody body) ∧ ¬ Clause.MakeClaim (Clause.ofBody body) ∧
      read raw = .error (.missingArgument raw) := by
  rcases Clause.areClean_or_exists_firstFault (Clause.ofBody body) with clean | ⟨fault, faulty⟩
  · by_cases makesClaim : Clause.MakeClaim (Clause.ofBody body)
    · have sound := Clause.areSound_iff.mpr ⟨clean, makesClaim⟩
      exact .inl ⟨sound, exists_read_of_areSound framed sound⟩
    · exact .inr (.inr ⟨clean, makesClaim, read_of_claimless framed clean makesClaim⟩)
  · exact .inr (.inl ⟨fault, faulty, read_of_firstFault framed faulty⟩)

end Read

end Marker

theorem Placeholder.toList_eq_ofBody_iff {raw body : String} :
    raw.toList = ofBody body.toList ↔ raw = "!DACDOC" ++ body ++ "!" := by
  have framed : ("!DACDOC" ++ body ++ "!").toList = ofBody body.toList := by
    rw [String.toList_append, String.toList_append]
    rfl
  rw [← framed, String.toList_inj]

/-- **Reading a placeholder.** A text is refused as no placeholder when it has no body between the
opening and a frame at its end. The clauses of a body are one row. A placeholder can be read when no
parameter comes twice, no value is empty, and there is a bare clause or a list of ids, and then its
marker says what the clauses say. Otherwise the first faulty clause gives the error, and only where
there is none the argument is missing. -/
theorem marker_reading_exact (raw : String) :
    (∀ shown, Marker.read raw = .error (.notAPlaceholder shown) ↔
      shown = raw ∧ ∀ body, raw ≠ "!DACDOC" ++ body ++ "!") ∧
    ∀ body, raw = "!DACDOC" ++ body ++ "!" →
      ∃ clauses, (∀ others, Clause.AreOf body.toList others ↔ others = clauses) ∧
        ((∃ marker, Marker.read raw = .ok marker) ↔ Clause.AreSound clauses) ∧
        (∀ marker, Marker.read raw = .ok marker → marker.IsOf raw clauses) ∧
        ∀ error, Marker.read raw = .error error ↔
          (∃ fault, Clause.FirstFault clauses fault ∧ error = fault.error raw) ∨
            Clause.AreClean clauses ∧ ¬ Clause.MakeClaim clauses ∧
              error = .missingArgument raw := by
  constructor
  · intro shown
    rw [Marker.read_eq_notAPlaceholder_iff]
    refine and_congr_right fun _ => ⟨?_, ?_⟩
    · intro unframed body framed
      exact unframed body.toList (Placeholder.toList_eq_ofBody_iff.mpr framed)
    · intro unframed body framed
      refine unframed (String.ofList body) (Placeholder.toList_eq_ofBody_iff.mp ?_)
      rw [String.toList_ofList]
      exact framed
  · intro body isFramed
    have framed := Placeholder.toList_eq_ofBody_iff.mpr isFramed
    refine ⟨Clause.ofBody body.toList, ?_, ?_, ?_, ?_⟩
    · intro others
      rw [← Clause.ofBody_eq_iff, eq_comm]
    · constructor
      · intro isRead
        obtain ⟨marker, isRead⟩ := isRead
        rcases Marker.read_cases framed with ⟨sound, -⟩ | ⟨fault, -, fails⟩ | ⟨-, -, fails⟩
        · exact sound
        · cases isRead.symm.trans fails
        · cases isRead.symm.trans fails
      · intro sound
        obtain ⟨marker, isRead, -⟩ := Marker.exists_read_of_areSound framed sound
        exact ⟨marker, isRead⟩
    · intro marker isRead
      rcases Marker.read_cases framed with
        ⟨-, other, same, isOf⟩ | ⟨fault, -, fails⟩ | ⟨-, -, fails⟩
      · obtain rfl := Except.ok.inj (isRead.symm.trans same)
        exact isOf
      · cases isRead.symm.trans fails
      · cases isRead.symm.trans fails
    · intro error
      constructor
      · intro fails
        rcases Marker.read_cases framed with
          ⟨-, marker, isRead, -⟩ | ⟨fault, faulty, same⟩ | ⟨clean, claimless, same⟩
        · cases isRead.symm.trans fails
        · exact .inl ⟨fault, faulty, Except.error.inj (fails.symm.trans same)⟩
        · exact .inr ⟨clean, claimless, Except.error.inj (fails.symm.trans same)⟩
      · rintro (⟨fault, faulty, rfl⟩ | ⟨clean, claimless, rfl⟩)
        · exact Marker.read_of_firstFault framed faulty
        · exact Marker.read_of_claimless framed clean claimless

/-- That a parameter comes twice is noticed before its empty value. -/
example : Marker.read "!DACDOC a; id = b;id=!" =
    .error (.duplicateParameter .id "!DACDOC a; id = b;id=!") := by
  decide +kernel

end DocMarkers
