import DocMarkers.Tree.Read

/-! # The steps of a walk

What one step of a walk does: it stays, it enters a file, or it ends at a free name. A look-up of a
path is the walk along its steps (`Tree.locate_of_walk`, `Tree.locate_of_vacant`).
-/

namespace DocMarkers.Tree

section Steps

variable {tree : Tree} {makesFile : Bool} {links : Nat} {here : Location} {name : Name}
  {rest : List Step}

theorem walk_nil {entry : Entry} (found : tree.find? here = some entry) :
    tree.walk makesFile links here [] = .ok (.entry here entry found) := by
  rw [walk]
  split
  · next other =>
    obtain rfl := Option.some.inj (found.symm.trans other)
    rfl
  · next absent => cases found.symm.trans absent

/-- Every step needs a directory to start from. -/
theorem walk_cons_of_directory {step : Step} (inside : tree.find? here = some .directory) :
    tree.walk makesFile links here (step :: rest) =
      match step with
      | .gap | .stay => tree.walk makesFile links here rest
      | .up => tree.walk makesFile links here.tail rest
      | .into name =>
        if makesFile && areSlashes rest then .error .isADirectory
        else if name.isTooLong then .error .nameTooLong
        else
          match free : tree.find? (name :: here) with
          | none => if rest.isEmpty then .ok (.vacant name here inside free) else .error .missing
          | some (.link target) =>
            match links with
            | 0 => .error .tooManyLinks
            | links + 1 =>
              tree.walk makesFile links (startOf here ⟨target⟩) (Step.ofBytes target ++ rest)
          | some _ => tree.walk makesFile links (name :: here) rest := by
  rw [walk]
  split
  · next absent => cases inside.symm.trans absent
  · rfl
  · next other different found =>
    obtain rfl := Option.some.inj (inside.symm.trans found)
    exact absurd rfl different

theorem walk_stay (inside : tree.find? here = some .directory) :
    tree.walk makesFile links here (.stay :: rest) = tree.walk makesFile links here rest :=
  walk_cons_of_directory inside

/-- An entry that is no link is entered, unless a file is to be made and only slashes are left.
Behind a file, whatever follows fails. -/
theorem walk_into {entry : Entry} (inside : tree.find? here = some .directory)
    (opened : (makesFile && areSlashes rest) = false) (short : name.isTooLong = false)
    (found : tree.find? (name :: here) = some entry) (real : ∀ target, entry ≠ .link target) :
    tree.walk makesFile links here (.into name :: rest) =
      tree.walk makesFile links (name :: here) rest := by
  rw [walk_cons_of_directory inside]
  dsimp only
  rw [opened, if_neg Bool.false_ne_true, short, if_neg Bool.false_ne_true]
  split
  · next free => cases found.symm.trans free
  · next target link => exact absurd (Option.some.inj (found.symm.trans link)) (real target)
  · rfl

/-- A link is followed, with the same exception. -/
theorem walk_into_link {target : Bytes} (inside : tree.find? here = some .directory)
    (opened : (makesFile && areSlashes rest) = false) (short : name.isTooLong = false)
    (found : tree.find? (name :: here) = some (.link target)) :
    tree.walk makesFile (links + 1) here (.into name :: rest) =
      tree.walk makesFile links (startOf here ⟨target⟩) (Step.ofBytes target ++ rest) := by
  rw [walk_cons_of_directory inside]
  dsimp only
  rw [opened, if_neg Bool.false_ne_true, short, if_neg Bool.false_ne_true]
  split
  · next free => cases found.symm.trans free
  · next other link =>
    obtain rfl := Entry.link.inj (Option.some.inj (found.symm.trans link))
    rfl
  · next real link => exact absurd (Option.some.inj (found.symm.trans link)).symm (real target)

/-- A walk ends at a free name when nothing follows. -/
theorem walk_into_free (inside : tree.find? here = some .directory)
    (short : name.isTooLong = false) (free : tree.find? (name :: here) = none) :
    tree.walk makesFile links here [.into name] = .ok (.vacant name here inside free) := by
  have opened : (makesFile && areSlashes []) = false := Bool.and_false makesFile
  rw [walk_cons_of_directory inside]
  dsimp only
  rw [opened, if_neg Bool.false_ne_true, short, if_neg Bool.false_ne_true]
  split
  · rfl
  · next link => cases free.symm.trans link
  · next found => cases free.symm.trans found

end Steps

variable {tree : Tree} {path : Path} {steps : List Step}

theorem locate_of_walk {location : Location} {entry : Entry}
    {found : tree.find? location = some entry} (sound : byteFault? path = none)
    (spelled : Step.ofBytes path.bytes = steps)
    (walks : tree.walk false linkLimit (startOf tree.workingDirectory path) steps =
      .ok (.entry location entry found)) :
    tree.locate path = .ok (location, entry) := by
  unfold locate arrive
  rw [sound, spelled]
  dsimp only
  rw [walks]
  rfl

/-- The text of a file is what its bytes spell. -/
theorem readText_of_locate {location : Location} {text : String}
    (located : tree.locate path = .ok (location, .file text.toUTF8)) :
    tree.readText path = .ok text := by
  have spelled : String.fromUTF8? text.toUTF8 = some text := dif_pos text.isValidUTF8
  unfold readText
  rw [located]
  simp only [bind, Except.bind, spelled]
  rfl

/-- Bytes that spell no text are an error. -/
theorem readText_of_undecodable {location : Location} {bytes : ByteArray}
    (located : tree.locate path = .ok (location, .file bytes))
    (undecodable : String.fromUTF8? bytes = none) : tree.readText path = .error .notText := by
  unfold readText
  rw [located]
  simp only [bind, Except.bind, undecodable]
  rfl

end DocMarkers.Tree
