import DocMarkers.Proofs.Descents
import DocMarkers.Proofs.Writes

/-! # Where written documents land

The place of a written document does not show in its path when links lie on it. But no write makes a
link, and none turns a directory into something else, so the links that count are those of the tree
before the first write: they tell where the file of a path lands (`Tree.LandsAt`), also when the
directories on the way are still to be made.

Writing documents changes a tree only there, and by new directories (`Tree.HasReceived`).
-/

namespace DocMarkers.Tree

/-- Where steps lead through the links of a tree; what is not there counts as a directory. -/
inductive Leads (tree : Tree) : (here : Location) → List Step → Location → Prop where
  | nil {here : Location} : Leads tree here [] here
  | step {here location : Location} {step : Step} {rest : List Step}
      (plain : ∀ target, tree.find? (step.leads here) ≠ some (.link target))
      (later : Leads tree (step.leads here) rest location) :
      Leads tree here (step :: rest) location
  | link {here location : Location} {name : Name} {target : Bytes} {rest : List Step}
      (isLink : tree.find? (name :: here) = some (.link target))
      (later : Leads tree (startOf here ⟨target⟩) (Step.ofBytes target ++ rest) location) :
      Leads tree here (.into name :: rest) location

/-- The file that is written to a path lands at a location. A link at the end of the path gives way
to the file, the others are followed. -/
def LandsAt (tree : Tree) (path : Path) (location : Location) : Prop :=
  ∃ front name parent, Step.ofBytes path.bytes = front ++ [.into name] ∧
    tree.Leads (startOf tree.workingDirectory path) front parent ∧ location = name :: parent

/-- A walk to a directory starts in one. -/
theorem Walks.inside {tree : Tree} {links left : Nat} {here location : Location} {steps : List Step}
    (walks : tree.Walks links here steps left location .directory) :
    tree.find? here = some .directory := by
  cases walks with
  | nil found => exact found
  | step inside => exact inside
  | link inside => exact inside

section Leads

variable {tree : Tree} {here location other : Location} {steps : List Step} {path : Path}

theorem Leads.unique (leads : tree.Leads here steps location)
    (others : tree.Leads here steps other) : location = other := by
  induction leads with
  | nil =>
      cases others
      rfl
  | step plain _ ih =>
      cases others with
      | step _ later => exact ih later
      | link isLink _ => exact absurd isLink (plain _)
  | link isLink _ ih =>
      cases others with
      | step plain _ => exact absurd isLink (plain _)
      | link same later =>
          obtain rfl := Entry.link.inj (Option.some.inj (isLink.symm.trans same))
          exact ih later

theorem Leads.eq_follow (plain : tree.IsPlain here steps) (leads : tree.Leads here steps location) :
    location = Step.follow here steps := by
  induction leads with
  | nil => rfl
  | step _ _ ih => exact ih plain.tail
  | link isLink _ _ => exact absurd isLink (plain.tail.start _)

/-- A file lands at one location. -/
theorem LandsAt.unique (lands : tree.LandsAt path location) (others : tree.LandsAt path other) :
    location = other := by
  obtain ⟨front, name, parent, steps, leads, rfl⟩ := lands
  obtain ⟨otherFront, otherName, otherParent, otherSteps, otherLeads, rfl⟩ := others
  obtain ⟨rfl, last⟩ := List.append_inj' (steps.symm.trans otherSteps) rfl
  obtain rfl := Step.into.inj (List.singleton_inj.mp last)
  rw [leads.unique otherLeads]

/-- Without links, it lands at the place of its path. -/
theorem LandsAt.eq_placeOf (plain : tree.HasPlainPath path) (lands : tree.LandsAt path location) :
    location = tree.placeOf path := by
  obtain ⟨front, name, parent, steps, leads, rfl⟩ := lands
  unfold HasPlainPath at plain
  rw [steps] at plain
  unfold placeOf
  rw [steps, leads.eq_follow plain.of_append]
  simp [Step.follow, Step.leads]

end Leads

/-- One of the documents that land at a location stands there. -/
def HoldsLanded (before after : Tree) (writes : List (Path × String)) (location : Location) :
    Prop :=
  ∃ write ∈ writes, before.LandsAt write.1 location ∧
    after.find? location = some (.file write.2.toUTF8)

/-- What writing documents leaves behind: every location is as it was, or has become a directory
where nothing was, or holds one of the documents. -/
structure HasReceived (before after : Tree) (writes : List (Path × String)) : Prop where
  workingDirectory : after.workingDirectory = before.workingDirectory
  entries : ∀ location, after.find? location = before.find? location ∨
    before.find? location = none ∧ after.find? location = some .directory ∨
    before.find? location ≠ some .directory ∧ HoldsLanded before after writes location
  /-- Where a document landed, there is it or another one. -/
  landed : ∀ write ∈ writes, ∃ location,
    before.LandsAt write.1 location ∧ HoldsLanded before after writes location

variable {before middle after : Tree} {writes : List (Path × String)} {path : Path} {text : String}
  {here location : Location} {steps : List Step} {links left : Nat}

theorem HoldsLanded.grow (holds : HoldsLanded before middle writes location)
    (grows : Extends middle after) : HoldsLanded before after writes location := by
  obtain ⟨write, member, lands, isFile⟩ := holds
  exact ⟨write, member, lands, grows.kept isFile⟩

namespace HasReceived

theorem refl (tree : Tree) : HasReceived tree tree [] :=
  ⟨rfl, fun _ => .inl rfl, nofun⟩

theorem not_link_of_directory (received : HasReceived before after writes)
    (found : after.find? location = some .directory) (target : Bytes) :
    before.find? location ≠ some (.link target) := by
  intro isLink
  rcases received.entries location with same | ⟨free, -⟩ | ⟨-, write, -, -, isFile⟩
  · cases found.symm.trans (same.trans isLink)
  · cases free.symm.trans isLink
  · cases found.symm.trans isFile

theorem link_of_link {target : Bytes} (received : HasReceived before after writes)
    (isLink : after.find? location = some (.link target)) :
    before.find? location = some (.link target) := by
  rcases received.entries location with same | ⟨-, made⟩ | ⟨-, write, -, -, isFile⟩
  · exact same.symm.trans isLink
  · cases made.symm.trans isLink
  · cases isFile.symm.trans isLink

theorem directory_of_directory (received : HasReceived before after writes)
    (found : before.find? location = some .directory) :
    after.find? location = some .directory := by
  rcases received.entries location with same | ⟨free, -⟩ | ⟨other, -⟩
  · exact same.trans found
  · cases free.symm.trans found
  · exact absurd found other

/-- The directories on the way of a walk may be new, but the links are old. -/
theorem leads_of_walks (received : HasReceived before after writes)
    (walks : after.Walks links here steps left location .directory) :
    before.Leads here steps location := by
  generalize isDirectory : Entry.directory = entry at walks
  induction walks with
  | nil => exact .nil
  | step _ _ _ later ih =>
      subst isDirectory
      exact .step (received.not_link_of_directory later.inside) (ih rfl)
  | link _ _ isLink _ ih => exact .link (received.link_of_link isLink) (ih isDirectory)

/-- What replaces the end of a path stands where the file of the path lands. -/
theorem landsAt_of_reaches {front : List Step} {name : Name} {parent : Location}
    (received : HasReceived before after writes)
    (spelled : Step.ofBytes path.bytes = front ++ [.into name])
    (reaches : after.Reaches (startOf after.workingDirectory path) front parent .directory) :
    before.LandsAt path (name :: parent) := by
  obtain ⟨found, walks⟩ := reaches
  obtain ⟨left, derived⟩ := Walks.exists_of_walk walks
  rw [received.workingDirectory] at derived
  exact ⟨front, name, parent, spelled, received.leads_of_walks derived, rfl⟩

theorem grow (received : HasReceived before middle writes) (grows : Extends middle after) :
    HasReceived before after writes where
  workingDirectory := grows.workingDirectory.trans received.workingDirectory
  entries := by
    intro location
    rcases received.entries location with same | ⟨free, made⟩ | ⟨other, holds⟩
    · rcases grows.entries location with kept | ⟨free, made⟩
      · exact .inl (kept.trans same)
      · exact .inr (.inl ⟨same ▸ free, made⟩)
    · exact .inr (.inl ⟨free, grows.kept made⟩)
    · exact .inr (.inr ⟨other, holds.grow grows⟩)
  landed := by
    intro write member
    obtain ⟨location, lands, holds⟩ := received.landed write member
    exact ⟨location, lands, holds.grow grows⟩

theorem replace (received : HasReceived before middle writes)
    (replaced : middle.replace path (.file text.toUTF8) = .ok after) :
    HasReceived before after (writes ++ [(path, text)]) := by
  obtain ⟨-, front, name, parent, within, replaceable, spelled, reaches, -, rfl⟩ :=
    exists_of_replace replaced
  have isPut := middle.find?_put name parent (.file text.toUTF8) within replaceable
  have lands := received.landsAt_of_reaches spelled reaches
  have holdsNew : HoldsLanded before _ (writes ++ [(path, text)]) (name :: parent) :=
    ⟨(path, text), by simp, lands, (isPut _).trans (if_pos rfl)⟩
  -- A document may land where an earlier one has; the place then holds the later one.
  have holdsOther {location : Location} (holds : HoldsLanded before middle writes location) :
      HoldsLanded before (middle.put name parent (.file text.toUTF8) within replaceable)
        (writes ++ [(path, text)]) location := by
    by_cases same : location = name :: parent
    · exact same ▸ holdsNew
    · obtain ⟨write, member, landed, isFile⟩ := holds
      refine ⟨write, List.mem_append_left _ member, landed, ?_⟩
      rw [isPut, if_neg same, isFile]
  refine ⟨received.workingDirectory, ?_, ?_⟩
  · intro location
    by_cases same : location = name :: parent
    · subst same
      refine .inr (.inr ⟨?_, holdsNew⟩)
      exact fun found => replaceable (received.directory_of_directory found)
    · rw [isPut, if_neg same]
      rcases received.entries location with kept | made | ⟨other, holds⟩
      · exact .inl kept
      · exact .inr (.inl made)
      · exact .inr (.inr ⟨other, holdsOther holds⟩)
  · intro write member
    rcases List.mem_append.mp member with early | late
    · obtain ⟨location, landed, holds⟩ := received.landed write early
      exact ⟨location, landed, holdsOther holds⟩
    · obtain rfl := List.mem_singleton.mp late
      exact ⟨_, lands, holdsNew⟩

/-- One more document is written, and lands where the links from before the first one lead. -/
theorem writeDocument (received : HasReceived before middle writes)
    (succeeds : middle.writeDocument path text = (.ok (), after)) :
    HasReceived before after (writes ++ [(path, text)]) := by
  obtain ⟨cleared, grows, replaced⟩ := exists_replace_of_writeDocument succeeds
  exact (received.grow grows).replace replaced

/-- Where no document lands, a file or a link stays. -/
theorem find?_of_not_landsAt {entry : Entry} (received : HasReceived before after writes)
    (elsewhere : ∀ write ∈ writes, ¬ before.LandsAt write.1 location)
    (found : before.find? location = some entry) : after.find? location = some entry := by
  rcases received.entries location with same | ⟨free, -⟩ | ⟨-, write, member, lands, -⟩
  · exact same.trans found
  · cases free.symm.trans found
  · exact absurd lands (elsewhere write member)

/-- Where a document lands, there is a document in the end. -/
theorem holds_of_landsAt {write : Path × String} (received : HasReceived before after writes)
    (member : write ∈ writes) (lands : before.LandsAt write.1 location) :
    HoldsLanded before after writes location := by
  obtain ⟨other, landed, holds⟩ := received.landed write member
  exact lands.unique landed ▸ holds

end HasReceived

end DocMarkers.Tree
