import DocMarkers.Proofs.FirstAppearance
import DocMarkers.Resolution.Occurrence
import Mathlib.Data.List.Nodup
import Mathlib.Data.List.Pairwise

/-! # The order of resolution

The occurrences of a project stand in the order of their files, and within one file in the order in
which their texts first appear in it (`Occurrence.pairwise_precedes`). No occurrence comes twice
(`Occurrence.nodup_ofFiles`).

The first occurrence of a project that declares an id is therefore the one that precedes all others
which declare it, and a look-up by position finds exactly that one
(`Occurrence.isFirstDeclarer_iff`).
-/

namespace DocMarkers

/-- Where a marker's text first stands in a row of markers. -/
def Marker.position (markers : List Marker) (marker : Marker) : Nat :=
  markers.findIdx fun other => other.raw = marker.raw

namespace Occurrence

/-- `left` comes before `right` in a project: its file does, or in one file its marker does. -/
def Precedes (files : Path.Map (List Marker)) (left right : Occurrence) : Prop :=
  left.file < right.file ∨
    left.file = right.file ∧ ∃ markers, (left.file, markers) ∈ files.entries ∧
      Marker.position markers left.marker < Marker.position markers right.marker

/-- `first` is the first occurrence of a project that declares `id`. -/
structure IsFirstDeclarer (files : Path.Map (List Marker)) (id : String) (first : Occurrence) :
    Prop where
  mem : first ∈ ofFiles files
  declares : first.marker.id = some id
  least : ∀ other ∈ ofFiles files, other.marker.id = some id →
    other = first ∨ first.Precedes files other

variable {files : Path.Map (List Marker)}

/-- A project has one list of markers for each file. -/
theorem markers_unique {file : Path} {first second : List Marker}
    (left : (file, first) ∈ files.entries) (right : (file, second) ∈ files.entries) :
    first = second := by
  have keys : (files.entries.map Prod.fst).Nodup := by
    refine List.pairwise_map.mpr (files.ascending.imp ?_)
    intro left right before same
    exact Path.lt_irrefl _ (same ▸ before)
  exact (Prod.mk.inj (List.inj_on_of_nodup_map keys left right rfl)).2

theorem Precedes.asymm {left right : Occurrence} (before : left.Precedes files right) :
    ¬ right.Precedes files left := by
  rintro (after | ⟨file, markers, member, after⟩)
  · rcases before with before | ⟨same, -⟩
    · exact Path.lt_irrefl _ (Path.lt_trans before after)
    · exact Path.lt_irrefl _ (same ▸ after)
  · rcases before with before | ⟨-, others, otherMember, before⟩
    · exact Path.lt_irrefl _ (file ▸ before)
    · rw [file] at member
      rw [markers_unique otherMember member] at before
      exact Nat.lt_asymm before after

theorem Precedes.ne {left right : Occurrence} (before : left.Precedes files right) :
    left ≠ right := by
  intro same
  subst same
  exact before.asymm before

/-- Every occurrence comes before all later ones. -/
theorem pairwise_precedes (files : Path.Map (List Marker)) :
    (ofFiles files).Pairwise (Precedes files) := by
  refine List.pairwise_flatMap.mpr ⟨?_, ?_⟩
  · rintro ⟨file, markers⟩ member
    refine List.pairwise_map.mpr ((pairwise_findIdx_distinctOn Marker.raw markers).imp ?_)
    intro left right before
    exact .inr ⟨rfl, markers, member, before⟩
  · refine files.ascending.imp ?_
    rintro ⟨leftFile, leftMarkers⟩ ⟨rightFile, rightMarkers⟩ before
    intro left leftMember right rightMember
    obtain ⟨leftMarker, -, rfl⟩ := List.mem_map.mp leftMember
    obtain ⟨rightMarker, -, rfl⟩ := List.mem_map.mp rightMember
    exact .inl before

theorem nodup_ofFiles (files : Path.Map (List Marker)) : (ofFiles files).Nodup :=
  (pairwise_precedes files).imp Precedes.ne

/-- The occurrences at two places of a project are the same only when the places are. -/
theorem get_injective {first second : Fin (ofFiles files).length}
    (same : (ofFiles files).get first = (ofFiles files).get second) : first = second :=
  List.nodup_iff_injective_get.mp (nodup_ofFiles files) same

theorem declares_iff {occurrence : Occurrence} {id : String} :
    occurrence.declares id = true ↔ occurrence.marker.id = some id := by
  unfold declares
  exact beq_iff_eq

/-- Looking for a declaration finds the first occurrence that has one. -/
theorem isFirstDeclarer_iff {id : String} {first : Occurrence} :
    IsFirstDeclarer files id first ↔
      ∃ place, declarer? (ofFiles files) id = some place ∧ (ofFiles files).get place = first := by
  have ordered := List.pairwise_iff_get.mp (pairwise_precedes files)
  constructor
  · rintro ⟨member, declares, least⟩
    obtain ⟨place, rfl⟩ := List.mem_iff_get.mp member
    refine ⟨place, List.findFinIdx?_eq_some_iff.mpr ⟨declares_iff.mpr declares, ?_⟩, rfl⟩
    intro earlier before declared
    have precedes := ordered earlier place before
    rcases least _ (List.get_mem _ earlier) (declares_iff.mp declared) with same | after
    · exact precedes.ne same
    · exact precedes.asymm after
  · rintro ⟨place, found, rfl⟩
    obtain ⟨declares, earliest⟩ := List.findFinIdx?_eq_some_iff.mp found
    refine ⟨List.get_mem _ place, declares_iff.mp declares, ?_⟩
    intro other member declared
    obtain ⟨otherPlace, rfl⟩ := List.mem_iff_get.mp member
    rcases Nat.lt_trichotomy otherPlace.val place.val with before | same | after
    · exact absurd (declares_iff.mpr declared) (earliest otherPlace before)
    · exact .inl (congrArg _ (Fin.ext same))
    · exact .inr (ordered place otherPlace after)

/-- An id has at most one first declaration. -/
theorem IsFirstDeclarer.unique {id : String} {first second : Occurrence}
    (left : IsFirstDeclarer files id first) (right : IsFirstDeclarer files id second) :
    first = second := by
  obtain ⟨place, found, rfl⟩ := isFirstDeclarer_iff.mp left
  obtain ⟨other, otherFound, rfl⟩ := isFirstDeclarer_iff.mp right
  rw [Option.some.inj (found.symm.trans otherFound)]

/-- Nothing is found exactly when no occurrence declares the id. -/
theorem declarer?_eq_none_iff {id : String} :
    declarer? (ofFiles files) id = none ↔
      ∀ occurrence ∈ ofFiles files, occurrence.marker.id ≠ some id := by
  unfold declarer?
  rw [List.findFinIdx?_eq_none_iff]
  constructor
  · intro absent occurrence member declares
    exact absent occurrence member (declares_iff.mpr declares)
  · intro absent occurrence member declares
    exact absent occurrence member (declares_iff.mp declares)

end Occurrence

end DocMarkers
