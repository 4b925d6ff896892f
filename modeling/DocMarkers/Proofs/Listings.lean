import DocMarkers.Proofs.CheckReports
import DocMarkers.Proofs.Isolation

/-! # Listings

A run that lists a project prints its listing (`Command.run_list`), and nothing when the project
cannot be opened.

What is listed are the occurrences of markers, so a document without placeholders changes nothing
(`Scan.resolution_insert`). It is only reported when it cannot be read
(`Scan.failures_insert_of_error`).
-/

namespace DocMarkers

section Documents

variable {tree other : Tree} {documents first rest : List Path} {document : Path}

theorem Sources.read_congr
    (same : ∀ document ∈ documents, other.readText document = tree.readText document) :
    Sources.read other documents = Sources.read tree documents := by
  unfold Sources.read
  congr 1
  · apply congrArg Path.Map.ofList
    apply List.filterMap_congr
    intro document member
    rw [same document member]
  · apply List.filterMap_congr
    intro document member
    rw [same document member]

theorem ascending_of_insert
    (ascending : (first ++ document :: rest).Pairwise fun left right => left < right) :
    (first ++ rest).Pairwise fun left right => left < right :=
  ascending.sublist ((List.sublist_cons_self document rest).append_left first)

namespace Scan

/-- A document without placeholders changes nothing of what is resolved. -/
theorem resolution_insert
    (ascending : (first ++ document :: rest).Pairwise fun left right => left < right)
    (idle : ∀ text, tree.readText document = .ok text → Marker.readAll text = .ok []) :
    (ofSources (.read tree (first ++ document :: rest))).resolution =
      (ofSources (.read tree (first ++ rest))).resolution := by
  have sparse := ascending_of_insert ascending
  have occurrences :
      Occurrence.ofFiles (ofSources (.read tree (first ++ document :: rest))).markers =
        Occurrence.ofFiles (ofSources (.read tree (first ++ rest))).markers := by
    unfold Occurrence.ofFiles
    rw [entries_markers_read ascending, entries_markers_read sparse, List.filterMap_append,
      List.filterMap_append]
    cases clean : tree.clean? document with
    | none => rw [List.filterMap_cons_none clean]
    | some entry =>
        obtain ⟨path, markers⟩ := entry
        obtain ⟨-, text, isText, isRead⟩ := Tree.clean?_eq_some_iff.mp clean
        obtain rfl : markers = [] := Except.ok.inj (isRead.symm.trans (idle text isText))
        rw [List.filterMap_cons_some clean, List.flatMap_append, List.flatMap_append,
          List.flatMap_cons]
        rfl
  exact congrArg Resolution.ofOccurrences occurrences

theorem failures_insert_of_text {text : String}
    (ascending : (first ++ document :: rest).Pairwise fun left right => left < right)
    (isText : tree.readText document = .ok text) (idle : Marker.readAll text = .ok []) :
    (ofSources (.read tree (first ++ document :: rest))).failures =
      (ofSources (.read tree (first ++ rest))).failures := by
  have sparse := ascending_of_insert ascending
  have isFile : SourceError.ofFile? tree document = none := by
    unfold SourceError.ofFile?
    rw [isText]
  have isRead : SourceError.ofText? tree document = none := by
    unfold SourceError.ofText?
    rw [isText]
    dsimp only
    rw [idle]
  rw [failures_read ascending, failures_read sparse]
  simp only [List.filterMap_append, List.filterMap_cons_none isFile,
    List.filterMap_cons_none isRead]

/-- A document that cannot be read adds its report to the others. -/
theorem failures_insert_of_error {error : FileError}
    (ascending : (first ++ document :: rest).Pairwise fun left right => left < right)
    (fails : tree.readText document = .error error) :
    ∃ before after,
      (ofSources (.read tree (first ++ rest))).failures = before ++ after ∧
        (ofSources (.read tree (first ++ document :: rest))).failures =
          before ++ .unreadable document error :: after := by
  have sparse := ascending_of_insert ascending
  have isFile : SourceError.ofFile? tree document = some (.unreadable document error) := by
    unfold SourceError.ofFile?
    rw [fails]
  have isRead : SourceError.ofText? tree document = none := by
    unfold SourceError.ofText?
    rw [fails]
  rw [failures_read ascending, failures_read sparse]
  refine ⟨first.filterMap (SourceError.ofFile? tree),
    rest.filterMap (SourceError.ofFile? tree) ++
      (first ++ rest).filterMap (SourceError.ofText? tree), ?_, ?_⟩
  · simp only [List.filterMap_append, List.append_assoc]
  · simp only [List.filterMap_append, List.filterMap_cons_some isFile,
      List.filterMap_cons_none isRead, List.append_assoc, List.cons_append]

end Scan

end Documents

/-- How listing a scanned project ends. -/
def Listing.result (scan : Scan) : OutputFormat → Except Failure Unit
  | .json => expectJson scan.resolution
  | .text => .ok ()

/-- What it shows; a list that has no form as JSON is not shown as such. -/
def Listing.shown (root : Path) (scan : Scan) : OutputFormat → List Event
  | .json =>
    match expectJson scan.resolution with
    | .ok () => [.printed (json root scan).alphabetical.text]
    | .error _ => []
  | .text => (lines root scan.resolution).map .printed ++
      (scan.failures.map SourceError.message).map fun message => .complained ("Error: " ++ message)

/-- What it prints. -/
def Listing.output (root : Path) (scan : Scan) : OutputFormat → String
  | .json =>
    match expectJson scan.resolution with
    | .ok () => unlines [(json root scan).alphabetical.text]
    | .error _ => ""
  | .text => unlines (lines root scan.resolution)

theorem Listing.join_output_shown (root : Path) (scan : Scan) (format : OutputFormat) :
    String.join ((shown root scan format).map Event.output) = output root scan format := by
  unfold shown output
  cases format with
  | json =>
      cases expectJson scan.resolution with
      | ok => exact join_output_printed [(json root scan).alphabetical.text]
      | error failure => rfl
  | text =>
      dsimp only
      rw [List.map_append, String.join_append, join_output_printed, join_output_complained,
        String.append_empty]

namespace Listing

/-- Beside the reports, a listing shows what has been resolved. -/
theorem exists_json (root : Path) (resolution : Resolution) :
    ∃ occurrences circles : Json, ∀ scan : Scan, scan.resolution = resolution →
      json root scan = .object [("occurrences", occurrences), ("cycles", circles),
        ("failures", .array (scan.failures.map (SourceError.json root)))] := by
  refine ⟨?_, ?_, ?shape⟩
  case shape =>
    intro scan same
    unfold json
    rw [same]

/-- The reports of a scan stand in one place of the listing. -/
theorem exists_output_json (root : Path) {resolution : Resolution}
    (hasForm : expectJson resolution = .ok ()) :
    ∃ front back, ∀ scan : Scan, scan.resolution = resolution →
      output root scan .json =
        front ++ (Json.array (scan.failures.map (SourceError.json root))).alphabetical.text ++
          back := by
  obtain ⟨occurrences, circles, shows⟩ := exists_json root resolution
  refine ⟨"\x7b" ++ (Json.quote "cycles" ++ ":" ++ circles.alphabetical.text) ++ "," ++
      Json.quote "failures" ++ ":",
    "," ++ (Json.quote "occurrences" ++ ":" ++ occurrences.alphabetical.text) ++ "\x7d" ++ "\n",
    ?_⟩
  intro scan same
  have fields : (json root scan).alphabetical = .object [("cycles", circles.alphabetical),
      ("failures", (Json.array (scan.failures.map (SourceError.json root))).alphabetical),
        ("occurrences", occurrences.alphabetical)] := by
    have first : ¬ "failures" < "cycles" := by decide +kernel
    have second : "cycles" < "occurrences" := by decide +kernel
    have third : "failures" < "occurrences" := by decide +kernel
    rw [shows scan same]
    simp only [Json.alphabetical, Json.alphabeticalFields, Json.insertField, if_neg first,
      if_pos second, if_pos third]
  have joined (one two three : String) :
      ",".intercalate [one, two, three] = one ++ "," ++ two ++ "," ++ three := rfl
  unfold output
  dsimp only
  rw [same, hasForm, fields]
  simp only [unlines, List.map_cons, List.map_nil, String.join_cons, String.join_nil, Json.text,
    Json.fieldTexts, joined, String.append_assoc, String.append_empty]

/-- A listing without reports is no listing with one. -/
theorem output_json_ne {root : Path} {scan other : Scan} {failure : SourceError}
    (same : other.resolution = scan.resolution)
    (hasForm : expectJson scan.resolution = .ok ()) (none : scan.failures = [])
    (one : other.failures = [failure]) : output root other .json ≠ output root scan .json := by
  obtain ⟨front, back, shows⟩ := exists_output_json root hasForm
  rw [shows other same, shows scan rfl, none, one]
  intro equal
  have lengths := congrArg String.length equal
  simp only [List.map_cons, List.map_nil, Json.alphabetical, Json.alphabeticalItems, Json.text,
    Json.itemTexts, String.length_append] at lengths
  have item : 0 < (SourceError.json root failure).alphabetical.text.length := by
    unfold SourceError.json
    simp only [Json.alphabetical, Json.text, String.length_append]
    exact Nat.add_pos_left (Nat.add_pos_left (by decide) _) _
  have joined (one : String) : ",".intercalate [one] = one := rfl
  have empty : ",".intercalate [] = "" := rfl
  rw [joined, empty] at lengths
  have zero : "".length = 0 := rfl
  omega

end Listing

namespace Command

open Session

section List

variable {world : World} {root : Path} {project : Project} {arguments : List Bytes}
  {wanted : Option OutputFormat} {verbose : Bool} {format : OutputFormat} {failure : Failure}

theorem list_tells {found : Scan} {notices : List Notice} (format : OutputFormat)
    (opens : Project.openAt world.tree world.preferences root = .ok project)
    (scanned : project.scan world.tree = .ok (found, notices)) :
    ∃ noticed : List Notice, (list world format root).Tells world.tree
      (noticed.map .noticed ++ Listing.shown root found format) (Listing.result found format) := by
  let opening := Project.openNotices world.tree world.preferences root
  let listing : List Notice := [.listing found.resolution.bound.length]
  refine ⟨opening ++ notices ++ listing, ?_⟩
  have whole : (list world format root).Tells world.tree
      (opening.map .noticed ++ (notices.map .noticed ++ (listing.map .noticed ++
        Listing.shown root found format))) (Listing.result found format) := by
    refine (openProject_tells opens).bind ((scan_tells scanned).bind ((tells_notice _).bind ?_))
    unfold Listing.shown Listing.result
    cases format with
    | json =>
        have expected : (expect (Listing.expectJson found.resolution)).Tells world.tree []
            (Listing.expectJson found.resolution) :=
          tells_expect _
        dsimp only
        cases hasForm : Listing.expectJson found.resolution with
        | ok =>
            rw [hasForm] at expected
            exact expected.bind_of_silent (tells_tell _)
        | error failure =>
            rw [hasForm] at expected
            exact expected.bind_error
    | text => exact (tells_tell _).bind (tells_tell _)
  simpa only [List.map_append, List.append_assoc] using whole

/-- A run that lists a project prints its list. -/
theorem run_list {found : Scan} {notices : List Notice}
    (asked : CommandLine.read (world.environment "DACDOC_OFFLINE") arguments =
      .ok ⟨wanted, verbose, .list root⟩)
    (chosen : formatOf world ⟨wanted, verbose, .list root⟩ = .ok format)
    (opens : Project.openAt world.tree world.preferences root = .ok project)
    (scanned : project.scan world.tree = .ok (found, notices)) :
    (run world arguments).code = exitCode (Listing.result found format) ∧
      (run world arguments).stdout = Listing.output root found format := by
  obtain ⟨noticed, lists⟩ := list_tells format opens scanned
  have performs := perform_changes chosen lists
  refine ⟨code_run asked performs, ?_⟩
  rw [stdout_run asked performs]
  simp only [List.map_cons, List.map_append, String.join_cons, String.join_append,
    join_output_noticed, Listing.join_output_shown, join_output_closing, Event.output,
    String.empty_append, String.append_empty]

/-- Without a format, a run prints nothing and fails. -/
theorem run_of_formatOf_error {command : CommandLine.Command}
    (asked : CommandLine.read (world.environment "DACDOC_OFFLINE") arguments =
      .ok ⟨wanted, verbose, command⟩)
    (fails : formatOf world ⟨wanted, verbose, command⟩ = .error failure) :
    (run world arguments).code = failure.code ∧ (run world arguments).stdout = "" :=
  ⟨code_run asked (perform_fails fails), stdout_run asked (perform_fails fails)⟩

/-- So does a run that lists a project that cannot be opened. -/
theorem run_list_of_openAt_error
    (asked : CommandLine.read (world.environment "DACDOC_OFFLINE") arguments =
      .ok ⟨wanted, verbose, .list root⟩)
    (chosen : formatOf world ⟨wanted, verbose, .list root⟩ = .ok format)
    (fails : Project.openAt world.tree world.preferences root = .error failure) :
    (run world arguments).code = failure.code ∧ (run world arguments).stdout = "" := by
  have lists : (list world format root).Tells world.tree
      ((Project.openNotices world.tree world.preferences root).map .noticed) (.error failure) :=
    (openProject_fails fails).bind_error
  have performs := perform_changes chosen lists
  refine ⟨code_run asked performs, ?_⟩
  rw [stdout_run asked performs]
  simp only [List.map_cons, List.map_append, String.join_cons, String.join_append,
    join_output_noticed, join_output_closing, Event.output, String.append_empty]

end List

end Command

end DocMarkers
