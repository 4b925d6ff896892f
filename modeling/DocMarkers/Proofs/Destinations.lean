import DocMarkers.Project.Write
import DocMarkers.Proofs.Descents
import DocMarkers.Proofs.RelativePaths

/-! # Where rendered documents go

A document goes to the same names below the directory of its target as it has below the root
(`RenderTarget.destination?_pathBelow`). When no link lies on the way, its place is that of the
directory with these names (`Tree.placeOf_pathBelow`), so no document is written over another one.
-/

namespace DocMarkers

namespace Tree

/-- A slash at the end of a path does not lead anywhere. -/
theorem placeOf_eq_follow_base (tree : Tree) (path : Path) :
    tree.placeOf path =
      Step.follow (startOf tree.workingDirectory path) (path.base.map Step.ofSegment) := by
  unfold placeOf
  rcases Step.ofBytes_eq_or path with steps | steps
  · rw [steps]
  · rw [steps]
    unfold Step.follow
    rw [List.foldl_append]
    rfl

theorem placeOf_join (tree : Tree) (path : Path) (name : Name) :
    tree.placeOf (path.join ⟨name.bytes⟩) = name :: tree.placeOf path := by
  rw [placeOf_eq_follow_base tree path]
  unfold placeOf startOf Step.follow
  rw [Path.isAbsolute_join, Step.ofBytes_join, List.foldl_append]
  rfl

/-- Entries below one directory are at the places that their names lead to from there. -/
theorem placeOf_pathBelow (tree : Tree) (root : Path) (names : List Name) :
    tree.placeOf (Discovery.pathBelow root names) = names.reverse ++ tree.placeOf root := by
  unfold Discovery.pathBelow
  induction names generalizing root with
  | nil => rfl
  | cons name rest ih =>
      rw [List.foldl_cons, ih, placeOf_join, List.reverse_cons, List.append_assoc]
      rfl

end Tree

namespace RenderTarget

/-- The directory below which rendered documents go. -/
def directoryOr (root : Path) : RenderTarget → Path
  | inPlace => root
  | directory path => path

/-- A document keeps the names that lead down to it. -/
theorem destination?_pathBelow (target : RenderTarget) (root : Path) {names : List Name}
    (filled : names ≠ []) :
    target.destination? root (Discovery.pathBelow root names) =
      some (Discovery.pathBelow (target.directoryOr root) names) := by
  cases target with
  | inPlace => rfl
  | directory path =>
      unfold destination? directoryOr
      dsimp only
      rw [Discovery.stripPrefix?_pathBelow root filled, Option.map_some,
        Discovery.join_ofNames path filled]

end RenderTarget

end DocMarkers
