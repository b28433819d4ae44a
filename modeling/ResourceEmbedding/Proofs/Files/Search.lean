import ResourceEmbedding.Proofs.Files.Path
import ResourceEmbedding.Proofs.KeyMap

namespace ResourceEmbedding.FileTree

variable {tree node : FileTree} {names below root path : List String} {name : String}
variable {entries : List (String × FileTree)} {content : List UInt8} {found : List (List String)}

section Directories

variable {P : List (String × FileTree) → Prop}

-- The entries of each directory in a tree have a property.
def Directories (P : List (String × FileTree) → Prop) (tree : FileTree) : Prop :=
  ∀ names entries, tree.get? names = some (directory entries) → P entries

theorem directories_file (content : List UInt8) : (file content).Directories P := by
  rintro (_ | _) _ ⟨⟩

theorem directories_directory (hp : P entries) (h : ∀ e ∈ entries, e.2.Directories P) :
    (directory entries).Directories P := by
  intro names found hg
  cases names
  case nil =>
    cases hg
    exact hp
  case cons name names =>
    have ⟨node, hl, hg⟩ := Option.bind_eq_some_iff.mp hg
    exact h _ (mem_of_lookup_eq_some hl) names found hg

-- What stands on the way to a node is an entry of a directory.
theorem Directories.of_get? (h : tree.Directories P) {names below : List String}
    (hg : tree.get? (names ++ below) = some node) :
    ∀ name ∈ below, ∃ entries node, P entries ∧ (name, node) ∈ entries := by
  induction below generalizing names
  case nil => nofun
  case cons name below hi =>
    refine List.forall_mem_cons.mpr ⟨?_, @hi (names ++ [name]) (by simpa using hg)⟩
    rw [get?_append] at hg
    obtain ⟨parent, hp, hg⟩ := Option.bind_eq_some_iff.mp hg
    cases parent
    case file => cases hg
    case directory entries =>
      have ⟨node, hl, _⟩ := Option.bind_eq_some_iff.mp hg
      exact ⟨entries, node, h _ _ hp, mem_of_lookup_eq_some hl⟩

end Directories

-- A directory holds names of files, each once.
structure LegalEntries (entries : List (String × FileTree)) : Prop where
  names : ∀ e ∈ entries, IsFileName e.1
  nodup : (entries.map (·.1)).Nodup

abbrev WellFormed (tree : FileTree) : Prop :=
  tree.Directories LegalEntries

-- The directories above what is at a path, nearest first, with the rules that they bring.
def levelsAbove (tree : FileTree) (names : List String) : List Level :=
  (List.range names.length).reverse.map fun count =>
    ⟨tree.rulesAt (names.take count), names.drop count⟩

-- Whether what is at a path is passed over, by a rule or for the dot in front of its name.
def isHidden (tree : FileTree) (names : List String) : Bool :=
  Level.isSkipped (tree.levelsAbove names) ((tree.get? names).any (·.listing.isDirectory))
    (names.getLast?.getD "")

-- A file that is seen from a directory: nothing on the way from there is hidden.
structure Sees (tree : FileTree) (names below : List String) (content : List UInt8) : Prop where
  file    : tree.get? (names ++ below) = some (.file content)
  visible : ∀ step, step <+: below → step ≠ [] → ¬tree.isHidden (names ++ step)

theorem levelsAbove_append_singleton (tree : FileTree) (names : List String) (name : String) :
    tree.levelsAbove (names ++ [name]) =
      (⟨tree.rulesAt names, []⟩ :: tree.levelsAbove names).map (.down name) := by
  simp only [levelsAbove, List.length_append, List.length_singleton, List.range_succ,
    List.reverse_append, List.reverse_singleton, List.singleton_append, List.map_cons, List.map_map]
  congr 1
  · simp [Level.down]
  · refine List.map_congr_left fun count hc => ?_
    have hl : count ≤ names.length := by
      simp only [List.mem_reverse, List.mem_range] at hc
      omega
    simp [Level.down, List.take_append_of_le_length hl, List.drop_append_of_le_length hl]

theorem sees_nil : tree.Sees names [] content ↔ tree.get? names = some (file content) := by
  constructor
  case mp => exact fun h => by simpa using h.file
  case mpr =>
    intro h
    refine ⟨by simpa using h, fun step hs hn => ?_⟩
    exact absurd (List.prefix_nil.mp hs) hn

theorem sees_cons :
    tree.Sees names (name :: below) content ↔
      ¬tree.isHidden (names ++ [name]) ∧ tree.Sees (names ++ [name]) below content := by
  have happ (step : List String) : names ++ [name] ++ step = names ++ name :: step := by simp
  constructor
  case mp =>
    intro h
    refine ⟨h.visible [name] (by simp) (by simp), by rw [happ, h.file], fun step hs _ => ?_⟩
    rw [happ]
    exact h.visible (name :: step) (by simpa using hs) (by simp)
  case mpr =>
    rintro ⟨hv, h⟩
    refine ⟨by rw [← happ, h.file], fun step hs hn => ?_⟩
    cases step
    case nil => contradiction
    case cons first step =>
      obtain ⟨rfl, hp⟩ := List.cons_prefix_cons.mp hs
      rw [← happ]
      by_cases he : step = []
      case pos => simpa [he] using hv
      case neg => exact h.visible step hp he

-- These are the files that are seen, each once.
structure Finds (tree : FileTree) (names path : List String) (found : List (List String)) :
    Prop where
  nodup   : found.Nodup
  mem_iff : ∀ p, p ∈ found ↔ ∃ below content, p = path ++ below ∧ tree.Sees names below content

structure FindsIn (tree : FileTree) (names path : List String) (entries : List (String × FileTree))
    (found : List (List String)) : Prop where
  nodup   : found.Nodup
  mem_iff : ∀ p, p ∈ found ↔ ∃ e ∈ entries, ∃ below content,
    p = path ++ e.1 :: below ∧ tree.Sees names (e.1 :: below) content

theorem get?_of_mem (hw : tree.WellFormed) (hg : tree.get? names = some (directory entries))
    (he : (name, node) ∈ entries) : tree.get? (names ++ [name]) = some node := by
  rw [get?_append, hg, Option.bind_some, get?, (lookup_eq_some_iff_mem (hw _ _ hg).nodup).mpr he]
  rfl

theorem FindsIn.cons (hn : name ∉ entries.map (·.1))
    (h : tree.Finds (names ++ [name]) (path ++ [name]) found) {rest : List (List String)}
    (hr : tree.FindsIn names path entries rest) :
    tree.FindsIn names path ((name, node) :: entries)
      ((if tree.isHidden (names ++ [name]) then [] else found) ++ rest) := by
  have hm : ∀ p, p ∈ (if tree.isHidden (names ++ [name]) then [] else found) ↔
      ∃ below content, p = path ++ name :: below ∧ tree.Sees names (name :: below) content := by
    intro p
    simp only [sees_cons]
    split
    case isTrue hh => simp [hh]
    case isFalse hh => simp [hh, h.mem_iff]
  constructor
  case mem_iff =>
    intro p
    simp only [List.mem_append, hm, hr.mem_iff, List.exists_mem_cons_iff]
  case nodup =>
    refine List.Nodup.append ?_ hr.nodup ?_
    · split
      · exact .nil
      · exact h.nodup
    · intro p hp hq
      obtain ⟨below, content, rfl, _⟩ := (hm p).mp hp
      obtain ⟨e, he, _, _, hp, _⟩ := (hr.mem_iff _).mp hq
      have hp := List.append_cancel_left hp
      cases hp
      exact hn (List.mem_map_of_mem he)

theorem finds_file (hg : tree.get? names = some (file content)) :
    tree.Finds names path [path] := by
  refine ⟨List.nodup_singleton path, fun p => ?_⟩
  rw [List.mem_singleton]
  constructor
  case mp => exact fun hp => ⟨[], content, by simp [hp], sees_nil.mpr hg⟩
  case mpr =>
    rintro ⟨below, content₂, rfl, hs⟩
    cases below
    case nil => simp
    case cons name below =>
      have hf := hs.file
      rw [get?_append, hg, Option.bind_some, get?] at hf
      cases hf

theorem isHidden_append_singleton (hg : tree.get? (names ++ [name]) = some node) :
    tree.isHidden (names ++ [name]) =
      Level.isSkipped (tree.levelsAbove (names ++ [name])) node.listing.isDirectory name := by
  simp [isHidden, hg]

theorem FindsIn.finds (hg : tree.get? names = some (directory entries))
    (h : tree.FindsIn names path entries found) : tree.Finds names path found where
  nodup := h.nodup
  mem_iff := by
    intro p
    rw [h.mem_iff]
    constructor
    case mp =>
      rintro ⟨e, _, below, content, hp, hs⟩
      exact ⟨_, content, hp, hs⟩
    case mpr =>
      rintro ⟨below, content, hp, hs⟩
      cases below
      case nil => cases hg.symm.trans (sees_nil.mp hs)
      case cons name below =>
        have hf := hs.file
        rw [get?_append, hg, Option.bind_some, get?] at hf
        obtain ⟨node, hl, _⟩ := Option.bind_eq_some_iff.mp hf
        exact ⟨_, mem_of_lookup_eq_some hl, below, content, hp, hs⟩

mutual

theorem finds_files (hw : tree.WellFormed) (node : FileTree) (names path : List String)
    (hg : tree.get? names = some node) :
    tree.Finds names path (node.listing.files (tree.levelsAbove names) path) := by
  match node with
  | file content =>
    rw [listing, Listing.files]
    exact finds_file hg
  | directory entries =>
    have hr : rulesOf entries = tree.rulesAt names := by rw [rulesAt, hg]
    rw [listing, Listing.files, hr]
    have he : ∀ e ∈ entries, tree.get? (names ++ [e.1]) = some e.2 := fun _ => get?_of_mem hw hg
    exact (finds_filesOfEntries hw entries names path he (hw _ _ hg).nodup).finds hg

theorem finds_filesOfEntries (hw : tree.WellFormed) (entries : List (String × FileTree))
    (names path : List String) (hg : ∀ e ∈ entries, tree.get? (names ++ [e.1]) = some e.2)
    (hn : (entries.map (·.1)).Nodup) :
    tree.FindsIn names path entries (Listing.filesOfEntries
      (⟨tree.rulesAt names, []⟩ :: tree.levelsAbove names) path (listingOfEntries entries)) := by
  match entries with
  | [] => exact ⟨.nil, by simp [listingOfEntries, Listing.filesOfEntries]⟩
  | (name, node) :: entries =>
    have ⟨hd, hg⟩ := List.forall_mem_cons.mp hg
    have ⟨hm, hn⟩ := List.nodup_cons.mp hn
    have hf := finds_files hw node (names ++ [name]) (path ++ [name]) hd
    have hr := finds_filesOfEntries hw entries names path hg hn
    rw [listingOfEntries, Listing.filesOfEntries, ← levelsAbove_append_singleton,
      ← isHidden_append_singleton hd]
    exact hr.cons hm hf

end

theorem Sees.isFileName (hw : tree.WellFormed) (h : tree.Sees names below content) :
    ∀ name ∈ below, IsFileName name := by
  intro name hn
  have ⟨_, _, he, hm⟩ := hw.of_get? h.file name hn
  exact he.names _ hm

theorem Sees.ne_nil (hd : tree.get? names = some (directory entries))
    (h : tree.Sees names below content) : below ≠ [] := by
  rintro rfl
  cases hd.symm.trans (sees_nil.mp h)

theorem survey_eq {path : String} (hr : tree.resolve path = .ok root)
    (hd : tree.get? root = some (directory entries)) :
    tree.survey path = some ⟨tree.levelsAbove root, (directory entries).listing⟩ := by
  simp only [survey, hr, hd, Except.toOption, Option.bind_eq_bind, Option.bind_some]
  rfl

-- Without globs a search selects all that it finds.
theorem exists_finds (hw : tree.WellFormed) (hd : tree.get? root = some (directory entries)) :
    ∃ found, tree.Finds root [] found ∧
      Survey.select ⟨tree.levelsAbove root, (directory entries).listing⟩ [] =
        found.map Level.join := by
  let files := (directory entries).listing.files (tree.levelsAbove root) []
  let byPath (p q : List String) : Bool := decide (Level.join p ≤ Level.join q)
  have hp : (files.mergeSort byPath).Perm files := List.mergeSort_perm ..
  have hf := finds_files hw _ root [] hd
  refine ⟨files.mergeSort byPath, ⟨hp.nodup_iff.mpr hf.nodup, fun p => ?_⟩, ?_⟩
  · rw [hp.mem_iff, hf.mem_iff]
  · have ht (paths : List String) : paths.filter (fun _ => true) = paths := by simp
    rw [List.map_mergeSort (s := fun p q => decide (p ≤ q)) fun _ _ _ _ => rfl]
    simp only [Survey.select, List.isEmpty_nil, Bool.true_or, ht]
    rfl

end ResourceEmbedding.FileTree
