import DocMarkers.Notice
import DocMarkers.Outcome
import DocMarkers.Resolution.Resolve

/-! # Evaluating checks

A link is looked up by a probe that the caller gives. Every check is evaluated once, and what came
out is remembered for all checks that refer to it. A reference to a check whose evaluation is under
way cannot be decided; a resolved project has none, but the evaluation ends on every list of checks.
-/

namespace DocMarkers

/-- Tells whether a link target can be reached. -/
abbrev Probe := LinkTarget → Outcome

/-- What an evaluation has found so far. -/
structure Progress where
  /-- The outcomes that are known, in the order in which they became known. -/
  known : List (CheckId × Outcome)
  /-- The checks whose link was looked up, in the order of the look-ups. -/
  probed : List CheckId
  /-- The checks that were asked for while their own evaluation was under way. -/
  reentered : List CheckId

namespace Progress

/-- Nothing is known yet. -/
def start : Progress :=
  ⟨[], [], []⟩

/-- The outcome of a check, once it is known. -/
def outcome? (progress : Progress) (id : CheckId) : Option Outcome :=
  progress.known.lookup id

/-- Remembers an outcome. -/
def learn (progress : Progress) (id : CheckId) (outcome : Outcome) : Progress :=
  { progress with known := progress.known ++ [(id, outcome)] }

/-- Writes down that a link is looked up. -/
def look (progress : Progress) (id : CheckId) : Progress :=
  { progress with probed := progress.probed ++ [id] }

/-- Writes down that a check is asked for while its evaluation is under way. -/
def reenter (progress : Progress) (id : CheckId) : Progress :=
  { progress with reentered := progress.reentered ++ [id] }

end Progress

section Visit

variable (checks : List Check) (root : Path) (probe : Probe)

mutual

/-- The outcome of one check; `idle` are the checks whose evaluation is not under way. -/
def visit (idle : List CheckId) (progress : Progress) (id : CheckId) : Outcome × Progress :=
  match progress.outcome? id with
  | some outcome => (outcome, progress)
  | none =>
    if id ∈ idle then
      match checks[id.index]? with
      | some (.url check) =>
        let outcome := probe (check.target root)
        (outcome, (progress.look id).learn id outcome)
      | some (.composite parts) =>
        let (outcomes, later) := visitAll (idle.erase id) progress parts
        let outcome := Outcome.combine outcomes
        (outcome, later.learn id outcome)
      | some (.unknown reason) =>
        let outcome := Outcome.indeterminate reason.message
        (outcome, progress.learn id outcome)
      | none => (.indeterminate UnknownReason.cyclicReference.message, progress)
    else (.indeterminate UnknownReason.cyclicReference.message, progress.reenter id)
termination_by (idle.length, 0)
decreasing_by
  have := List.length_erase_of_mem ‹id ∈ idle›
  have := List.length_pos_of_mem ‹id ∈ idle›
  exact Prod.Lex.left _ _ (by omega)

/-- The outcomes of some checks, each evaluated with what is known from those before it. -/
def visitAll (idle : List CheckId) (progress : Progress) :
    List CheckId → List Outcome × Progress
  | [] => ([], progress)
  | id :: rest =>
    let (outcome, later) := visit idle progress id
    let (outcomes, last) := visitAll idle later rest
    (outcome :: outcomes, last)
termination_by ids => (idle.length, ids.length + 1)
decreasing_by
  · exact Prod.Lex.right _ (by simp)
  · exact Prod.Lex.right _ (by simp)

end

end Visit

/-- The outcomes of all checks of a project. -/
structure Evaluation where
  /-- The outcome of each check, in the order of the checks. -/
  outcomes : List Outcome
  /-- The checks whose link was looked up, in the order of the look-ups. -/
  probed : List CheckId

namespace Evaluation

/-- The ids of a list of checks. -/
def ids (checks : List Check) : List CheckId :=
  (List.range checks.length).map CheckId.mk

/-- Evaluates the checks one after the other. -/
def run (checks : List Check) (root : Path) (probe : Probe) : Progress :=
  (ids checks).foldl (fun progress id => (visit checks root probe (ids checks) progress id).2)
    .start

/-- Evaluates every check of a project with documentation at `root`. -/
def ofResolution (resolution : Resolution) (root : Path) (probe : Probe) : Evaluation :=
  let progress := run resolution.checks root probe
  { outcomes := (ids resolution.checks).map fun id =>
      (progress.outcome? id).getD (.indeterminate "not evaluated")
    probed := progress.probed }

/-- The outcome of a check. -/
def outcome (evaluation : Evaluation) (id : CheckId) : Outcome :=
  (evaluation.outcomes[id.index]?).getD (.indeterminate "not evaluated")

/-- The outcomes of the occurrences of a project, in order. -/
def rows (evaluation : Evaluation) (resolution : Resolution) : List Outcome :=
  resolution.bound.map fun (_, id) => evaluation.outcome id

/-- Counts the outcomes of the occurrences. -/
def summary (evaluation : Evaluation) (resolution : Resolution) : Summary :=
  .ofOutcomes (evaluation.rows resolution)

/-- The targets that were looked up, each with the file of its link, in order. -/
def lookups (evaluation : Evaluation) (resolution : Resolution) (root : Path) :
    List (LinkTarget × Path) :=
  evaluation.probed.filterMap fun id =>
    match resolution.check id with
    | .url check => some (check.target root, check.file)
    | _ => none

/-- What is noticed during an evaluation. -/
def notices (evaluation : Evaluation) (resolution : Resolution) (root : Path) : List Notice :=
  (evaluation.lookups resolution root).map fun (target, file) => .probing target file

end Evaluation

end DocMarkers
