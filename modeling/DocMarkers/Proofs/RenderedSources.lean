import DocMarkers.Proofs.Landings
import DocMarkers.Proofs.RenderRuns
import DocMarkers.Proofs.RenderedVerdicts

/-! # What rendering does to the sources

A run that renders documents writes to no other place than those where its documents land. A source
that lies elsewhere keeps its content, and in particular every source outside the output directory
when no link leads out of it (`Writing.IsPlan.not_landsAt_of_outside`). But nothing keeps a document
from landing on a source: a run that renders into the root itself is one that renders in place
(`Command.run_directory_root`), and overwrites the sources.
-/

namespace DocMarkers

namespace Writing

variable {project : Project} {scan : Scan} {evaluation : Evaluation} {target other : RenderTarget}
  {before tree : Tree} {documents plan earlier : List (Path × String)}

/-- Writing documents one after the other puts the first ones where they land, up to one that
fails. -/
theorem exists_received_of_writeEach
    (planned : List.Forall₂ (Plans project scan evaluation target) documents plan)
    (received : before.HasReceived tree earlier) :
    let writing := writeEach project scan evaluation target tree documents
    ∃ done rest, plan = done ++ rest ∧ before.HasReceived writing.tree (earlier ++ done) ∧
      (writing.failure? = none ↔ rest = []) := by
  induction planned generalizing tree earlier with
  | nil =>
      rw [writeEach]
      exact ⟨[], [], rfl, by simpa using received, by simp⟩
  | @cons entry write documents plan plans later ih =>
      rcases writeEach_cons_cases plans tree documents with
        ⟨failure, left, notices, fails, work⟩ | ⟨written, notices, succeeds, work⟩
      · rw [work]
        have grown := received.grow (Tree.extends_of_writeDocument fails).1
        exact ⟨[], write :: plan, rfl, by simpa using grown, by simp⟩
      · obtain ⟨done, rest, split, others, ends⟩ := ih (received.writeDocument succeeds)
        rw [work]
        refine ⟨write :: done, rest, ?_, ?_, ends⟩
        · rw [split, List.cons_append]
        · simpa using others

/-- What is written depends on a target only through the destinations of the documents. -/
theorem writeEach_congr
    (same : ∀ entry ∈ documents,
      target.destination? project.root entry.1 = other.destination? project.root entry.1)
    (tree : Tree) :
    writeEach project scan evaluation target tree documents =
      writeEach project scan evaluation other tree documents := by
  induction documents generalizing tree with
  | nil => rfl
  | cons entry rest ih =>
      obtain ⟨own, others⟩ := List.forall_mem_cons.mp same
      have one : writeOne project scan evaluation target tree entry.1 entry.2 =
          writeOne project scan evaluation other tree entry.1 entry.2 := by
        unfold writeOne
        rw [own]
      rw [writeEach, writeEach, one]
      simp only [ih others]

end Writing

/-- The sources themselves are the destinations below the root. -/
theorem Project.write_directory_root {project : Project} {tree : Tree} {discovery : Discovery}
    {root : Path} (found : Discovery.ofTree tree project.settings project.root = .ok discovery)
    (own : project.root = root) (evaluation : Evaluation) (after : Tree) :
    project.write (.ofSources (.read tree discovery.documents)) evaluation (.directory root) after =
      project.write (.ofSources (.read tree discovery.documents)) evaluation .inPlace after := by
  subst own
  apply Writing.writeEach_congr
  intro entry member
  rw [Writing.documents_ofSources (Discovery.ascending_documents found)] at member
  obtain ⟨document, chosen, isSource⟩ := List.mem_filterMap.mp member
  obtain ⟨text, -, rfl⟩ := Option.map_eq_some_iff.mp isSource
  obtain ⟨above, names, bytes, -, filled, path, -⟩ :=
    Discovery.exists_names_of_mem found (List.mem_filter.mp chosen).1
  rw [path, RenderTarget.destination?_pathBelow _ _ filled,
    RenderTarget.destination?_pathBelow _ _ filled]
  rfl

namespace Command

open Session

variable {world : World} {root : Path} {offline : Bool}

theorem render_directory_root (format : OutputFormat) :
    SameFrom world.tree (render world format root (.directory root) offline)
      (render world format root .inPlace offline) := by
  cases opens : Project.openAt world.tree world.preferences root with
  | error failure =>
      have fails := openForLookups_fails offline opens
      exact fails.bind_error.sameFrom fails.bind_error
  | ok project =>
      refine (openForLookups_tells offline opens).sameFrom_bind ?_
      cases listed : (project.forLookups offline).discover world.tree with
      | error failure =>
          have fails := scan_fails listed
          exact fails.bind_error.sameFrom fails.bind_error
      | ok discovery =>
          obtain ⟨notices, scanned⟩ := Project.scan_of_discover listed
          refine (scan_tells scanned).sameFrom_bind ?_
          by_cases usable : (project.forLookups offline).settings.probe.isUsable = true
          · have own : (project.forLookups offline).root = root := by
              obtain ⟨-, settings, -, -, rfl⟩ := Project.exists_of_openAt opens
              rfl
            refine (evaluate_tells usable).sameFrom_bind (tells_tree.sameFrom_bind ?_)
            dsimp only
            rw [Project.write_directory_root (Project.ofTree_of_discover listed) own]
            exact fun _ => rfl
          · have fails : (evaluate world (project.forLookups offline)
                (.ofSources (.read world.tree discovery.documents))).Tells world.tree []
                  (.error .noClient) := evaluate_fails (Bool.not_eq_true _ ▸ usable)
            exact fails.bind_error.sameFrom fails.bind_error

/-- A command that renders into the root does what it does in place. -/
theorem perform_directory_root {format : Option OutputFormat} {verbose : Bool} :
    SameFrom world.tree (perform world ⟨format, verbose, .render root (.directory root) offline⟩)
      (perform world ⟨format, verbose, .render root .inPlace offline⟩) := by
  have works (chosen : OutputFormat) : SameFrom world.tree
      (session world chosen (.render root (.directory root) offline) >>= fun _ =>
        Session.notice [.completed])
      (session world chosen (.render root .inPlace offline) >>= fun _ =>
        Session.notice [.completed]) :=
    (render_directory_root chosen).bind _
  cases format with
  | some chosen =>
      refine (tells_pure chosen).sameFrom_bind ((tells_notice [.starting]).sameFrom_bind ?_)
      exact works chosen
  | none =>
      cases preferred : Preferences.ofFile? world.preferences with
      | error error =>
          have unknown (target : RenderTarget) :
              formatOf world ⟨none, verbose, .render root target offline⟩ =
                .error (.config error) := by
            unfold formatOf
            rw [preferred]
            rfl
          exact (perform_fails (unknown _)).sameFrom (perform_fails (unknown _))
      | ok preferences =>
          unfold perform
          rw [preferred]
          refine (tells_expect (.ok preferences)).sameFrom_bind ?_
          refine (tells_pure preferences.format).sameFrom_bind ?_
          refine (tells_notice [.starting]).sameFrom_bind ?_
          exact works preferences.format

/-- A run that renders into the root replies as one that renders in place. -/
theorem run_directory_root {arguments others : List Bytes} {format : Option OutputFormat}
    {verbose : Bool}
    (asked : CommandLine.read (world.environment "DACDOC_OFFLINE") arguments =
      .ok ⟨format, verbose, .render root (.directory root) offline⟩)
    (askedInPlace : CommandLine.read (world.environment "DACDOC_OFFLINE") others =
      .ok ⟨format, verbose, .render root .inPlace offline⟩) :
    run world arguments = run world others := by
  unfold run
  rw [asked, askedInPlace]
  dsimp only
  rw [perform_directory_root []]

/-- What a run that renders a project leaves behind, whatever links lie on the destinations. -/
theorem exists_received_run {arguments : List Bytes} {format : Option OutputFormat}
    {verbose : Bool} {target : RenderTarget} {project : Project} {discovery : Discovery}
    (asked : CommandLine.read (world.environment "DACDOC_OFFLINE") arguments =
      .ok ⟨format, verbose, .render root target offline⟩)
    (opens : Project.openAt world.tree world.preferences root = .ok project)
    (listed : project.discover world.tree = .ok discovery) :
    let reply := run world arguments
    let scan := Scan.ofSources (.read world.tree discovery.documents)
    let evaluation := evaluationIn world (project.forLookups offline) scan
    ∃ plan,
      Writing.IsPlan world.tree discovery.documents root target scan.resolution evaluation
        project.settings.badges plan ∧
      ∃ done rest, plan = done ++ rest ∧ world.tree.HasReceived reply.tree done ∧
        (reply.code = 0 → rest = []) := by
  intro reply scan evaluation
  have found : Discovery.ofTree world.tree (project.forLookups offline).settings
      (project.forLookups offline).root = .ok discovery :=
    Project.ofTree_of_discover ((Project.discover_forLookups project offline _).trans listed)
  obtain ⟨-, settings, -, -, rfl⟩ := Project.exists_of_openAt opens
  obtain ⟨plan, planned, isPlan⟩ := Writing.exists_plan
    ((Project.forLookups ⟨root, settings⟩ offline).settings.probe.probe world.tree world.fetch)
    target found
  refine ⟨plan, isPlan, ?_⟩
  by_cases usable : (Project.forLookups ⟨root, settings⟩ offline).settings.probe.isUsable = true
  · obtain ⟨done, rest, split, received, ends⟩ :=
      Writing.exists_received_of_writeEach planned (Tree.HasReceived.refl world.tree)
    obtain ⟨chosen, events, -, renders, -⟩ := perform_render_of_setsUp ⟨opens, listed, usable⟩
    refine ⟨done, rest, split, ?_, ?_⟩
    · rw [tree_run asked renders]
      exact received
    · intro succeeds
      by_contra incomplete
      have code := (code_run asked renders).trans (Writing.exitCode_result fun failure fails =>
        Writing.endsRendering_of_failure? planned fails)
      have fails := code.trans (if_neg fun finished => incomplete (ends.mp finished))
      cases succeeds.symm.trans fails
  · -- Without a client the run fails before anything is written.
    have stuck : ∀ project discovery, ¬ SetsUp world root offline project discovery := by
      intro other _ setsUp
      obtain rfl := Except.ok.inj (opens.symm.trans setsUp.opens)
      exact usable setsUp.usable
    obtain ⟨failure, events, fatal, fails⟩ := perform_render_of_stuck stuck
    refine ⟨[], plan, rfl, ?_, ?_⟩
    · rw [tree_run asked fails]
      exact .refl world.tree
    · intro succeeds
      cases succeeds.symm.trans ((code_run asked fails).trans fatal.code_eq)

end Command

/-- A document whose destination has no link on it does not land outside the output directory. -/
theorem Writing.IsPlan.not_landsAt_of_outside {tree : Tree} {settings : Settings}
    {discovery : Discovery} {root out : Path} {resolution : Resolution} {evaluation : Evaluation}
    {badges : Badges} {plan : List (Path × String)} {write : Path × String} {location : Location}
    (isPlan : IsPlan tree discovery.documents root (.directory out) resolution evaluation badges
      plan)
    (found : Discovery.ofTree tree settings root = .ok discovery) (member : write ∈ plan)
    (plain : tree.HasPlainPath write.1)
    (outside : Tree.isWithin (tree.placeOf out) location = false) :
    ¬ tree.LandsAt write.1 location := by
  intro lands
  obtain ⟨document, chosen, ⟨relative, isRelative, joined, destination⟩, -⟩ :=
    exists_mem_of_forall₂ isPlan.planned member
  obtain ⟨above, names, bytes, -, filled, path, -⟩ :=
    Discovery.exists_names_of_mem found (List.mem_filter.mp chosen).1
  have own : relative = .ofNames names := by
    apply Path.join_injective isRelative (Path.isAbsolute_ofNames names)
    rw [joined, path, Discovery.join_ofNames root filled]
  have place : location = names.reverse ++ tree.placeOf out := by
    rw [lands.eq_placeOf plain, destination, own, Discovery.join_ofNames out filled,
      tree.placeOf_pathBelow]
  have inside : Tree.isWithin (tree.placeOf out) location = true := by
    rw [place]
    exact List.isSuffixOf_iff_suffix.mpr (List.suffix_append _ _)
  cases inside.symm.trans outside

/-- **Sources under a run that renders into a directory.** A document keeps its content unless the
rendered form of one lands on it. If the run succeeds, a rendered form stands wherever one lands;
and what lies outside the output directory is safe when no link lies on a destination. But when the
output directory is the root, the run is one that renders in place. -/
theorem sources_kept_where_nothing_lands {world : World} {arguments : List Bytes}
    {format : Option OutputFormat} {verbose offline : Bool} {root out : Path}
    {project : Project} {discovery : Discovery}
    (asked : CommandLine.read (world.environment "DACDOC_OFFLINE") arguments =
      .ok ⟨format, verbose, .render root (.directory out) offline⟩)
    (opens : Project.openAt world.tree world.preferences root = .ok project)
    (listed : project.discover world.tree = .ok discovery) :
    let reply := Command.run world arguments
    let scan := Scan.ofSources (.read world.tree discovery.documents)
    let evaluation := Command.evaluationIn world (project.forLookups offline) scan
    (∃ plan,
      Writing.IsPlan world.tree discovery.documents root (.directory out) scan.resolution evaluation
        project.settings.badges plan ∧
      ∀ document ∈ discovery.documents, ∀ location bytes,
        world.tree.locate document = .ok (location, .file bytes) →
        (reply.tree.find? location = some (.file bytes) ∨
          world.tree.HoldsLanded reply.tree plan location) ∧
        (reply.code = 0 → ∀ write ∈ plan, world.tree.LandsAt write.1 location →
          world.tree.HoldsLanded reply.tree plan location) ∧
        ((∀ write ∈ plan, world.tree.HasPlainPath write.1) →
          Tree.isWithin (world.tree.placeOf out) location = false →
          reply.tree.find? location = some (.file bytes))) ∧
    (out = root → ∀ others,
      CommandLine.read (world.environment "DACDOC_OFFLINE") others =
        .ok ⟨format, verbose, .render root .inPlace offline⟩ →
      reply = Command.run world others) := by
  intro reply scan evaluation
  obtain ⟨plan, isPlan, done, rest, split, received, complete⟩ :=
    Command.exists_received_run asked opens listed
  have early {write : Path × String} (member : write ∈ done) : write ∈ plan := by
    rw [split]
    exact List.mem_append_left _ member
  have found : Discovery.ofTree world.tree project.settings root = .ok discovery := by
    obtain ⟨-, settings, -, -, rfl⟩ := Project.exists_of_openAt opens
    exact Project.ofTree_of_discover listed
  refine ⟨⟨plan, isPlan, ?_⟩, ?_⟩
  · intro document member location bytes located
    have isThere := Tree.find?_of_locate located
    refine ⟨?_, ?_, ?_⟩
    · rcases received.entries location with same | ⟨free, -⟩ | ⟨-, holds⟩
      · exact .inl (same.trans isThere)
      · -- A directory is only made where nothing was.
        cases free.symm.trans isThere
      · obtain ⟨write, written, lands, isFile⟩ := holds
        exact .inr ⟨write, early written, lands, isFile⟩
    · intro succeeds write planned lands
      have all : plan = done := by
        rw [split, complete succeeds, List.append_nil]
      exact all ▸ received.holds_of_landsAt (all ▸ planned) lands
    · intro plain outside
      refine received.find?_of_not_landsAt ?_ isThere
      intro write written
      have planned := early written
      exact isPlan.not_landsAt_of_outside found planned (plain write planned) outside
  · intro same others askedInPlace
    subst same
    exact Command.run_directory_root asked askedInPlace

theorem find?_ne_link_selfLinking (location : Location) (target : Bytes) :
    selfLinking.tree.find? location ≠ some (.link target) := by
  intro isLink
  cases location with
  | nil => cases isLink
  | cons name parent =>
      obtain ⟨before, after, rows, -⟩ := List.lookup_eq_some_iff.mp
        (show selfLinking.tree.rows.lookup (name :: parent) = some (.link target) from isLink)
      have member : (name :: parent, Entry.link target) ∈ selfLinking.tree.rows := by
        rw [rows]
        simp
      cases List.mem_singleton.mp member

/-- The document of `selfLinking` stays as it is when another directory is rendered into. -/
theorem sources_kept_where_nothing_lands_in_selfLinking :
    CommandLine.read (selfLinking.environment "DACDOC_OFFLINE") ["render", "--out", "out"] =
        .ok ⟨none, false, .render ⟨"."⟩ (.directory ⟨"out"⟩) false⟩ ∧
      Project.openAt selfLinking.tree selfLinking.preferences ⟨"."⟩ = .ok ⟨⟨"."⟩, {}⟩ ∧
      Project.discover ⟨⟨"."⟩, {}⟩ selfLinking.tree = .ok ⟨[⟨"./a.md"⟩], []⟩ ∧
      (Command.run selfLinking ["render", "--out", "out"]).tree.find? [selfLinkingName] =
        some (.file selfLinkingText.toUTF8) := by
  have asked : CommandLine.read (selfLinking.environment "DACDOC_OFFLINE")
      ["render", "--out", "out"] =
        .ok ⟨none, false, .render ⟨"."⟩ (.directory ⟨"out"⟩) false⟩ := by
    decide +kernel
  obtain ⟨⟨plan, -, each⟩, -⟩ :=
    sources_kept_where_nothing_lands asked openAt_selfLinking discover_selfLinking
  obtain ⟨-, -, kept⟩ := each _ (List.mem_singleton_self _) _ _ locate_selfLinking
  refine ⟨asked, openAt_selfLinking, discover_selfLinking, kept ?_ (by decide +kernel)⟩
  intro write _ front _ target
  exact find?_ne_link_selfLinking _ target

/-- What is written for the document shows its first placeholder without the frame. -/
theorem ne_selfLinkingText_of_isPlanned {root : Path} {target : RenderTarget}
    {resolution : Resolution} {evaluation : Evaluation} {badges : Badges} {write : Path × String}
    (isPlanned : Writing.IsPlanned selfLinking.tree root target resolution evaluation badges
      ⟨"./a.md"⟩ write) :
    write.2 ≠ selfLinkingText := by
  have cut : Layout.ofText selfLinkingText.toList =
      ⟨[("See ".toList, " a.md".toList), (" and ".toList, " ids=gone".toList)], ".".toList⟩ := by
    decide +kernel
  have raw : String.ofList (Placeholder.ofBody " a.md".toList) = "!DACDOC a.md!" := by
    decide +kernel
  have ownRead : (Marker.read "!DACDOC a.md!").toOption.bind Marker.argument? = some "a.md" := by
    decide +kernel
  obtain ⟨text, layout, shown, isText, cuts, rendered, shows⟩ := isPlanned.text
  obtain rfl := Except.ok.inj (isText.symm.trans (Tree.readText_of_locate locate_selfLinking))
  rw [← cuts.eq_ofText, cut] at rendered shows
  have member : "!DACDOC a.md!" ∈ Layout.placeholders
      ⟨[("See ".toList, " a.md".toList), (" and ".toList, " ids=gone".toList)], ".".toList⟩ :=
    raw ▸ List.mem_cons_self
  obtain ⟨badge, starts⟩ := (shows _ member).exists_of_argument ownRead
  have begins : "See a".toList <+: write.2.toList := by
    rw [rendered]
    unfold Layout.replace
    simp only [List.flatMap_cons, raw, starts, String.toList_append, String.toList_ofList,
      List.append_assoc]
    exact ⟨_, rfl⟩
  intro same
  rw [same] at begins
  revert begins
  decide +kernel

/-- The same document is overwritten when its own directory is rendered into. -/
theorem source_overwritten_in_selfLinking :
    CommandLine.read (selfLinking.environment "DACDOC_OFFLINE") ["render", "--out", "."] =
        .ok ⟨none, false, .render ⟨"."⟩ (.directory ⟨"."⟩) false⟩ ∧
      Project.discover ⟨⟨"."⟩, {}⟩ selfLinking.tree = .ok ⟨[⟨"./a.md"⟩], []⟩ ∧
      selfLinking.tree.locate ⟨"./a.md"⟩ = .ok ([selfLinkingName], .file selfLinkingText.toUTF8) ∧
      (Command.run selfLinking ["render", "--out", "."]).tree.find? [selfLinkingName] ≠
        some (.file selfLinkingText.toUTF8) := by
  have asked : CommandLine.read (selfLinking.environment "DACDOC_OFFLINE")
      ["render", "--out", "."] =
        .ok ⟨none, false, .render ⟨"."⟩ (.directory ⟨"."⟩) false⟩ := by
    decide +kernel
  have askedInPlace : CommandLine.read (selfLinking.environment "DACDOC_OFFLINE")
      ["render", "--in-place"] = .ok ⟨none, false, .render ⟨"."⟩ .inPlace false⟩ := by
    decide +kernel
  refine ⟨asked, discover_selfLinking, locate_selfLinking, ?_⟩
  rw [Command.run_directory_root asked askedInPlace]
  obtain ⟨plan, isPlan, done, rest, split, received, complete⟩ :=
    Command.exists_received_run askedInPlace openAt_selfLinking discover_selfLinking
  obtain ⟨rendered, same, isPlanned⟩ := exists_write_selfLinking isPlan
  rw [complete (code_run_render_selfLinking askedInPlace), List.append_nil, same] at split
  rw [← split] at received
  obtain ⟨location, lands, write, member, -, isFile⟩ :=
    received.landed _ (List.mem_singleton_self _)
  obtain rfl := List.mem_singleton.mp member
  have place : location = [selfLinkingName] := by
    rw [lands.eq_placeOf hasPlainPath_selfLinking]
    decide +kernel
  rw [← place, isFile]
  intro equal
  apply ne_selfLinkingText_of_isPlanned isPlanned
  exact String.toByteArray_inj.mp (Entry.file.inj (Option.some.inj equal))

end DocMarkers
