import DocMarkers.Check
import DocMarkers.Distinct

/-! # Circles of references

Composite checks that refer to themselves, directly or through other composite checks, mean nothing.
They fall into classes: two of them are in one class when each leads to the other. `cycles` lists
the classes, and `breakCycles` takes away the meaning of their members and of no other check.

`explore` follows references among the checks that it has not seen, and `mem_explore_iff` says that
it finds exactly what can be reached.
-/

namespace DocMarkers

/-- `Leads next domain start goal`: a row of steps inside `domain` leads from `start` to `goal`. -/
inductive Leads (next : Nat → List Nat) (domain : List Nat) : Nat → Nat → Prop where
  | here {goal : Nat} : goal ∈ domain → Leads next domain goal goal
  | step {start middle goal : Nat} :
      start ∈ domain → middle ∈ next start → Leads next domain middle goal →
        Leads next domain start goal

/-- What can be reached from `pending` inside `fresh`, in the order of discovery. Each discovery
leaves fewer places to discover. -/
def explore (next : Nat → List Nat) : (fresh pending : List Nat) → List Nat
  | _, [] => []
  | fresh, place :: pending =>
    if place ∈ fresh then place :: explore next (fresh.erase place) (next place ++ pending)
    else explore next fresh pending
termination_by fresh pending => (fresh.length, pending.length)
decreasing_by
  · next inside =>
    have := List.length_erase_of_mem inside
    have := List.length_pos_of_mem inside
    exact Prod.Lex.left _ _ (by omega)
  · exact Prod.Lex.right _ (by simp)

theorem Leads.start_mem {next : Nat → List Nat} {domain : List Nat} {start goal : Nat}
    (leads : Leads next domain start goal) : start ∈ domain := by
  cases leads with
  | here inside => exact inside
  | step inside _ _ => exact inside

theorem Leads.mono {next : Nat → List Nat} {small large : List Nat} {start goal : Nat}
    (subset : ∀ place ∈ small, place ∈ large) (leads : Leads next small start goal) :
    Leads next large start goal := by
  induction leads with
  | here inside => exact .here (subset _ inside)
  | step inside edge _ ih => exact .step (subset _ inside) edge ih

/-- A row of steps either avoids a place, or its part behind the last visit of that place does. -/
theorem Leads.avoid {next : Nat → List Nat} {domain : List Nat} {start goal : Nat} (place : Nat)
    (leads : Leads next domain start goal) :
    Leads next (domain.erase place) start goal ∨ goal = place ∨
      ∃ after ∈ next place, Leads next (domain.erase place) after goal := by
  induction leads with
  | @here goal inside =>
    by_cases same : goal = place
    · exact .inr (.inl same)
    · exact .inl (.here ((List.mem_erase_of_ne same).mpr inside))
  | @step start middle goal inside edge _ ih =>
    rcases ih with avoiding | visited
    · by_cases same : start = place
      · subst same
        exact .inr (.inr ⟨middle, edge, avoiding⟩)
      · exact .inl (.step ((List.mem_erase_of_ne same).mpr inside) edge avoiding)
    · exact .inr visited

/-- Exploring finds exactly what can be reached. -/
theorem mem_explore_iff {next : Nat → List Nat} {fresh pending : List Nat} {goal : Nat} :
    goal ∈ explore next fresh pending ↔ ∃ start ∈ pending, Leads next fresh start goal := by
  fun_induction explore next fresh pending with
  | case1 => simp
  | case2 fresh place pending inside ih =>
    rw [List.mem_cons, ih]
    constructor
    · rintro (rfl | ⟨start, member, leads⟩)
      · exact ⟨goal, List.mem_cons_self, .here inside⟩
      · have wider := leads.mono fun _ => List.mem_of_mem_erase
        rcases List.mem_append.mp member with after | later
        · exact ⟨place, List.mem_cons_self, .step inside after wider⟩
        · exact ⟨start, List.mem_cons_of_mem _ later, wider⟩
    · rintro ⟨start, member, leads⟩
      rcases leads.avoid place with avoiding | rfl | ⟨after, edge, avoiding⟩
      · rcases List.mem_cons.mp member with rfl | later
        · cases avoiding with
          | here gone => exact .inl rfl
          | step gone edge rest => exact .inr ⟨_, List.mem_append_left _ edge, rest⟩
        · exact .inr ⟨start, List.mem_append_right _ later, avoiding⟩
      · exact .inl rfl
      · exact .inr ⟨after, List.mem_append_left _ edge, avoiding⟩
  | case3 fresh place pending outside ih =>
    rw [ih]
    constructor
    · rintro ⟨start, member, leads⟩
      exact ⟨start, List.mem_cons_of_mem _ member, leads⟩
    · rintro ⟨start, member, leads⟩
      rcases List.mem_cons.mp member with rfl | later
      · exact absurd leads.start_mem outside
      · exact ⟨start, later, leads⟩

section Checks

variable (checks : List Check)

/-- The places of the composite checks. -/
def composites : List Nat :=
  checks.zipIdx.filterMap fun (check, place) => if check.isComposite then some place else none

/-- The composite checks that the check at a place refers to. -/
def successors (place : Nat) : List Nat :=
  match checks[place]? with
  | some check =>
    (check.references.map CheckId.index).filter fun sub => (checks[sub]?).any Check.isComposite
  | none => []

/-- The composite checks that the check at a place leads to in one step or more. -/
def reachable (place : Nat) : List Nat :=
  explore (successors checks) (composites checks) (successors checks place)

/-- The composite checks that lead to themselves, each with all that it leads to. -/
def cyclic : List (Nat × List Nat) :=
  ((composites checks).map fun place => (place, reachable checks place)).filter
    fun (place, reached) => reached.contains place

/-- The classes of composite checks that lead to each other. A class is listed in ascending order,
and the classes are in the order of their least members. -/
def cycles : List (List CheckId) :=
  let members := cyclic checks
  let classOf := fun ((place, reached) : Nat × List Nat) =>
    (members.filter fun (other, back) => reached.contains other && back.contains place).map
      fun (other, _) => CheckId.mk other
  distinct (members.map classOf)

/-- The checks with the members of circles made unknown. -/
def breakCycles (circles : List (List CheckId)) : List Check :=
  checks.zipIdx.map fun (check, place) =>
    if circles.any (·.contains ⟨place⟩) then .unknown .cyclicReference else check

end Checks

end DocMarkers
