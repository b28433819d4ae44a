import ResourceEmbedding.Proofs.CommandLine.Run
import ResourceEmbedding.Proofs.Files.Search
import ResourceEmbedding.Proofs.Generation.Request
import ResourceEmbedding.Proofs.Generator.Emission

namespace ResourceEmbedding

theorem Resource.readAll_ofBytes (path : String) (content : List UInt8) :
    (ofBytes path content).readAll = .ok content :=
  Source.readAll_eq_ok_iff.mpr ⟨Source.failure?_ofBytes content, Source.delivered_ofBytes content⟩

def NoBackslash (names : List String) : Prop :=
  ∀ name ∈ names, '\\' ∉ name.toList

theorem not_mem_join {names : List String} (h : NoBackslash names) :
    '\\' ∉ (Level.join names).toList := by
  induction names
  case nil => simp [Level.join]
  case cons name names hi =>
    obtain ⟨hn, h⟩ := List.forall_mem_cons.mp h
    have hi := hi h
    rw [Level.join] at hi ⊢
    by_cases hr : names = []
    case pos => simpa [hr] using hn
    case neg =>
      rw [String.intercalate_cons_of_ne_nil hr, String.toList_append, String.toList_append,
        List.mem_append, List.mem_append]
      simp only [not_or]
      exact ⟨⟨hn, by decide⟩, hi⟩

theorem slashed_join {names : List String} (h : NoBackslash names) :
    slashed (Level.join names) = Level.join names := by
  have hm : ∀ c ∈ (Level.join names).toList, (if c == '\\' then '/' else c) = c := by
    intro c hc
    have hn : c ≠ '\\' := fun he => not_mem_join h (he ▸ hc)
    simp [hn]
  rw [slashed, List.map_congr_left hm, List.map_id', String.ofList_toList]

namespace CommandLine

open FileTree

variable {tree after : FileTree} {root below : List String} {arguments : GenerateArguments}
variable {entries : List (String × FileTree)} {found : List (List String)} {r : Resource}
variable {content : List UInt8} {path : String} {draft : Draft}

def resourceAt (tree : FileTree) (root path : String) : Resource :=
  ⟨slashed path, tree.openFile (joinPath root (slashed path))⟩

def resourcesFor (tree : FileTree) (root : String) (found : List (List String)) : List Resource :=
  found.map fun below => resourceAt tree root (Level.join below)

theorem run_mapM_openResource (tree : FileTree) (root : String) (paths : List String) :
    (paths.mapM (openResource FileTree.fileSystem root)).run tree =
      (paths.map (resourceAt tree root), tree) := by
  induction paths
  case nil => rfl
  case cons path paths hi =>
    have ho : (openResource FileTree.fileSystem root path).run tree =
      (resourceAt tree root path, tree) := rfl
    rw [List.mapM_cons, StateT.run_bind, ho]
    change ((paths.mapM (openResource FileTree.fileSystem root)) >>= fun rest =>
      pure (resourceAt tree root path :: rest)).run tree = _
    rw [StateT.run_bind, hi]
    rfl

theorem run_loadSettings {settings : Except Problem (List Setting)} {source : Option String}
    (h : (loadSettings FileTree.fileSystem source).run tree = (settings, after)) :
    after = tree := by
  cases source <;> cases h <;> rfl

-- The resource that is made for a file. It has the path of the file with slashes for backslashes,
-- and what is there is opened; without backslashes that is the file.
structure MadeFor (tree : FileTree) (rootPath : String) (root below : List String) (r : Resource) :
    Prop where
  path    : r.path = slashed (Level.join below)
  opening : r.opening = tree.openFile (joinPath rootPath r.path)
  same    : NoBackslash below →
    ∃ content, tree.Sees root below content ∧ r = .ofBytes (Level.join below) content

section Found

variable (hw : tree.WellFormed) (hr : tree.resolve path = .ok root)
variable (hd : tree.get? root = some (.directory entries))
variable (hf : ∀ below ∈ found, ∃ content, tree.Sees root below content)
include hw hd hf

theorem nodup_join (hn : found.Nodup) : (found.map Level.join).Nodup := by
  have hp : ∀ below ∈ found, partsOf (Level.join below) = below := by
    intro below hb
    have ⟨_, hs⟩ := hf below hb
    exact partsOf_join (hs.ne_nil hd) (hs.isFileName hw)
  refine hn.map_on fun below hb other ho he => ?_
  rw [← hp below hb, ← hp other ho, he]

include hr

theorem madeFor_resourceAt :
    ∀ below ∈ found, MadeFor tree path root below (resourceAt tree path (Level.join below)) := by
  intro below hb
  have ⟨content, hs⟩ := hf below hb
  refine ⟨rfl, rfl, fun hp => ⟨content, hs, ?_⟩⟩
  have ho : tree.openFile (joinPath path (Level.join below)) = .ok (.ofBytes content) :=
    openFile_joinPath hr (hs.ne_nil hd) (hs.isFileName hw) hs.file
  simp only [resourceAt, slashed_join hp, ho, Resource.ofBytes]

theorem forall₂_madeFor :
    List.Forall₂ (MadeFor tree path root) found (resourcesFor tree path found) :=
  List.forall₂_map_right_iff.mpr (List.forall₂_same.mpr (madeFor_resourceAt hw hr hd hf))

variable (hp : ∀ below ∈ found, NoBackslash below)
include hp

theorem exists_readAll :
    ∀ r ∈ resourcesFor tree path found, ∃ content, r.readAll = .ok content := by
  intro r hm
  obtain ⟨below, hb, rfl⟩ := List.mem_map.mp hm
  have ⟨content, _, he⟩ := (madeFor_resourceAt hw hr hd hf below hb).same (hp below hb)
  rw [he]
  exact ⟨content, Resource.readAll_ofBytes ..⟩

theorem nodup_paths (hn : found.Nodup) : ((resourcesFor tree path found).map (·.path)).Nodup := by
  have he : (resourcesFor tree path found).map (·.path) = found.map Level.join := by
    rw [resourcesFor, List.map_map]
    refine List.map_congr_left fun below hb => ?_
    exact (madeFor_resourceAt hw hr hd hf below hb).path.trans (slashed_join (hp below hb))
  rw [he]
  exact nodup_join hw hd hf hn

end Found

theorem resources_of_drafts (hr : tree.resolve arguments.root = .ok root)
    (hd : tree.get? root = some (.directory entries)) (hi : arguments.includes = [])
    (hs : Survey.select ⟨tree.levelsAbove root, (FileTree.directory entries).listing⟩ [] =
      found.map Level.join)
    (h : Drafts FileTree.fileSystem arguments tree draft after) :
    draft.resources = resourcesFor tree arguments.root found := by
  obtain ⟨ofFile, u, settings, globs, survey, v, resources, hl, _, hg, hv, ho, rfl⟩ := h
  cases run_loadSettings hl
  have hg : globs = [] := by
    rw [hi] at hg
    cases hg
    rfl
  have hv : (tree.survey arguments.root, tree) = (some survey, v) := hv
  rw [survey_eq hr hd] at hv
  cases hv
  rw [hg, hs, run_mapM_openResource, List.map_map] at ho
  cases ho
  rfl

-- A search finds each file that is seen once, and makes one resource for each. As long as no name
-- holds a backslash these are the files under their own paths, and a run neither misses one of them
-- nor refuses them for their paths.
theorem files_found_and_read (hw : tree.WellFormed)
    (hr : tree.resolve arguments.root = .ok root)
    (hd : tree.get? root = some (.directory entries)) (hi : arguments.includes = []) :
    ∃ survey found resources,
      tree.survey arguments.root = some survey ∧
      ((survey.select []).mapM (openResource FileTree.fileSystem arguments.root)).run tree =
        (resources, tree) ∧
      found.Nodup ∧ (∀ below, below ∈ found ↔ ∃ content, tree.Sees root below content) ∧
      List.Forall₂ (MadeFor tree arguments.root root) found resources ∧
      ((∀ below ∈ found, NoBackslash below) →
        (resources.map (·.path)).Nodup ∧ (∀ r ∈ resources, ∃ content, r.readAll = .ok content) ∧
        (∀ e after,
          ¬Yields (generate FileTree.fileSystem arguments) tree (.error (.request e)) after) ∧
        ∀ report after,
          Yields (CommandLine.report FileTree.fileSystem arguments) tree (.ok report) after →
          ∀ d ∈ report.diagnostics, ¬SaysMissing d.message) := by
  have ⟨found, hf, hs⟩ := exists_finds hw hd
  have hm (below : List String) : below ∈ found ↔ ∃ content, tree.Sees root below content := by
    simp [hf.mem_iff]
  have hsees (below : List String) := (hm below).mp
  refine ⟨_, found, resourcesFor tree arguments.root found, survey_eq hr hd, ?_, hf.nodup, hm,
    forall₂_madeFor hw hr hd hsees, fun hp => ?_⟩
  · rw [hs, run_mapM_openResource, List.map_map]
    rfl
  have hn := nodup_paths hw hr hd hsees hp hf.nodup
  have hread := exists_readAll hw hr hd hsees hp
  refine ⟨hn, hread, fun e after h => ?_, fun report after h d hm => ?_⟩
  · have h := yields_report_error.mp (yields_report_of_generate h)
    have ⟨draft, hdraft, hb⟩ := build_of_yields_assemble h
    rw [← resources_of_drafts hr hd hi hs hdraft] at hn
    cases hb.symm.trans (Draft.build_of_nodup hn)
  · obtain ⟨request, ha, rfl⟩ := yields_report_ok.mp h
    have ⟨draft, hdraft, hb⟩ := yields_assemble_ok.mp ha
    rw [← resources_of_drafts hr hd hi hs hdraft] at hread
    refine (Catalog.emission_of_run hm).not_saysMissing fun r hr => hread r ?_
    exact (Draft.perm_of_build hb).mem_iff.mp hr

-- Files in two directories, of which a rule leaves one out.
theorem files_found_and_read_nested :
    let tree : FileTree := .directory [
      (".ignore", .file (Utf8.encode "*.bak\n")), ("a.bak", .file [0x61]),
      ("naïve～.txt", .file [0x62]), ("img", .directory [("logo 1", .file [0x63])])]
    let arguments : GenerateArguments := {
      handler := "embed"
      package := ""
      site := "embedgen"
      root := "./" }
    tree.WellFormed ∧ tree.resolve "./" = .ok [] ∧ ∃ survey found resources,
      tree.survey "./" = some survey ∧
      ((survey.select []).mapM (openResource FileTree.fileSystem "./")).run tree =
        (resources, tree) ∧
      found.Nodup ∧ ["naïve～.txt"] ∈ found ∧ ["img", "logo 1"] ∈ found ∧ ["a.bak"] ∉ found ∧
      List.Forall₂ (MadeFor tree "./" []) found resources ∧
      (resources.map (·.path)).Nodup ∧ (∀ r ∈ resources, ∃ content, r.readAll = .ok content) ∧
      ∀ report after,
        Yields (CommandLine.report FileTree.fileSystem arguments) tree (.ok report) after →
        ∀ d ∈ report.diagnostics, ¬SaysMissing d.message := by
  intro tree arguments
  have hw : tree.WellFormed := by
    refine directories_directory ⟨by decide, by decide⟩ ?_
    simp only [List.forall_mem_cons, directories_file, true_and]
    refine ⟨directories_directory ⟨by decide, by decide⟩ ?_, nofun⟩
    simp [directories_file]
  have hp : tree.Directories fun entries => ∀ e ∈ entries, '\\' ∉ e.1.toList := by
    refine directories_directory (by decide) ?_
    simp only [List.forall_mem_cons, directories_file, true_and]
    refine ⟨directories_directory (by decide) ?_, nofun⟩
    simp [directories_file]
  have hr : tree.resolve "./" = .ok [] := by decide +kernel
  have ⟨survey, found, resources, hs, ho, hn, hf, hm, h⟩ :=
    @files_found_and_read tree [] arguments _ hw hr rfl rfl
  have hplain : ∀ below ∈ found, NoBackslash below := by
    intro below hb name hn
    have ⟨_, hs⟩ := (hf below).mp hb
    have ⟨_, _, he, hm⟩ := hp.of_get? hs.file name hn
    exact he _ hm
  have ⟨hpaths, hread, _, hreport⟩ := h hplain
  refine ⟨hw, hr, survey, found, resources, hs, ho, hn, (hf _).mpr ⟨[0x62], ?_⟩,
    (hf _).mpr ⟨[0x63], ?_⟩, fun hb => ?_, hm, hpaths, hread, hreport⟩
  · exact sees_cons.mpr ⟨by decide +kernel, sees_nil.mpr rfl⟩
  · exact sees_cons.mpr ⟨by decide +kernel, sees_cons.mpr ⟨by decide +kernel, sees_nil.mpr rfl⟩⟩
  · have ⟨_, hs⟩ := (hf _).mp hb
    exact (sees_cons.mp hs).1 (by decide +kernel)

-- A file with a backslash in its name is looked for in a directory, and missed.
theorem backslash_read_as_slash :
    let tree : FileTree := .directory [("a\\b.txt", .file [0x78])]
    let arguments : GenerateArguments := {
      handler := "embed"
      package := ""
      site := "embedgen"
      root := "." }
    tree.WellFormed ∧ tree.Sees [] ["a\\b.txt"] [0x78] ∧
    (tree.survey ".").map (·.select []) = some ["a\\b.txt"] ∧
    (resourceAt tree "." "a\\b.txt").path = "a/b.txt" ∧
    (resourceAt tree "." "a\\b.txt").readAll = .error .noSuchFile ∧
    ∃ report after,
      Yields (CommandLine.report FileTree.fileSystem arguments) tree (.ok report) after ∧
      report.diagnostics =
        [⟨.error, "Resource \x60a/b.txt\x60 is missing", some ⟨"embedgen", none⟩⟩] := by
  intro tree arguments
  have hw : tree.WellFormed := by
    refine directories_directory ⟨by decide, by decide⟩ ?_
    simp [directories_file]
  exact ⟨hw, sees_cons.mpr ⟨by decide +kernel, sees_nil.mpr rfl⟩, by decide +kernel,
    by decide +kernel, by decide +kernel, exists_yields_of_map (by decide +kernel)⟩

end CommandLine

end ResourceEmbedding
