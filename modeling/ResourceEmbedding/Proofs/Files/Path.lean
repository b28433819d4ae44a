import ResourceEmbedding.Files.Tree
import ResourceEmbedding.Proofs.Bundle.Locale
import ResourceEmbedding.Proofs.Staged

namespace ResourceEmbedding

namespace Text

variable {p : α → Bool} {a : α} {as bs : List α}

theorem splitAt_of_forall_not (h : ∀ a ∈ as, ¬p a) : splitAt p as = [as] := by
  induction as
  case nil => rfl
  case cons a as hi =>
    have ⟨ha, h⟩ := List.forall_mem_cons.mp h
    simp [splitAt, ha, hi h]

theorem splitAt_append_cons (h : p a) :
    splitAt p (as ++ a :: bs) = splitAt p as ++ splitAt p bs := by
  induction as
  case nil => simp [splitAt, h]
  case cons b as hi =>
    rw [List.cons_append, splitAt, splitAt, hi]
    split
    case isTrue  => rfl
    case isFalse =>
      cases hs : splitAt p as
      case nil  => exact absurd hs (splitAt_ne_nil p as)
      case cons => rfl

end Text

structure IsFileName (name : String) : Prop where
  ne_empty : name ≠ ""
  ne_dot   : name ≠ "."
  ne_dots  : name ≠ ".."
  no_slash : '/' ∉ name.toList

instance : DecidablePred IsFileName := fun name =>
  decidable_of_iff (name ≠ "" ∧ name ≠ "." ∧ name ≠ ".." ∧ '/' ∉ name.toList)
    ⟨fun ⟨he, hd, hs, hn⟩ => ⟨he, hd, hs, hn⟩, fun ⟨he, hd, hs, hn⟩ => ⟨he, hd, hs, hn⟩⟩

namespace FileTree

variable {tree : FileTree} {names below root done : List String} {name path : String}
variable {content : List UInt8}

theorem partsOf_of_isFileName (h : IsFileName name) : partsOf name = [name] := by
  have hn : ∀ c ∈ name.toList, ¬(c == '/') := by
    rintro c hc he
    exact h.no_slash (eq_of_beq he ▸ hc)
  rw [partsOf, Text.splitAt_of_forall_not hn]
  simp

theorem partsOf_append_slash (s t : String) : partsOf (s ++ "/" ++ t) = partsOf s ++ partsOf t := by
  have hs : (s ++ "/" ++ t).toList = s.toList ++ '/' :: t.toList := by simp
  rw [partsOf, hs, Text.splitAt_append_cons (by simp), List.map_append]
  rfl

-- Joining names loses nothing.
theorem partsOf_join (hn : names ≠ []) (h : ∀ name ∈ names, IsFileName name) :
    partsOf (Level.join names) = names := by
  induction names
  case nil => exact absurd rfl hn
  case cons name names hi =>
    have ⟨hf, h⟩ := List.forall_mem_cons.mp h
    by_cases hr : names = []
    case pos => simpa [Level.join, hr] using partsOf_of_isFileName hf
    case neg =>
      have hi := hi hr h
      rw [Level.join] at hi ⊢
      rw [String.intercalate_cons_of_ne_nil hr, partsOf_append_slash, hi,
        partsOf_of_isFileName hf]
      rfl

theorem get?_append (tree : FileTree) (names below : List String) :
    tree.get? (names ++ below) = (tree.get? names).bind (·.get? below) := by
  induction names generalizing tree
  case nil => rfl
  case cons name names hi =>
    cases tree
    case file => rfl
    case directory entries =>
      simp only [List.cons_append, get?]
      cases entries.lookup name
      case none => rfl
      case some t => exact hi t

theorem follow_append (tree : FileTree) (done parts more : List String) :
    tree.follow done (parts ++ more) =
      (tree.follow done parts).bind fun names => tree.follow names.reverse more := by
  fun_induction follow tree done parts
  all_goals simp_all [follow, Except.bind]

theorem follow_names (hf : ∀ name ∈ below, IsFileName name)
    (hg : (tree.get? (done.reverse ++ below)).isSome) :
    tree.follow done below = .ok (done.reverse ++ below) := by
  induction below generalizing done
  case nil => simp [follow]
  case cons name below hi =>
    have ⟨hn, hf⟩ := List.forall_mem_cons.mp hf
    have hs : done.reverse ++ name :: below = (name :: done).reverse ++ below := by simp
    have hi := @hi (name :: done) hf (hs ▸ hg)
    rw [get?_append] at hg
    cases ht : tree.get? done.reverse
    case none => simp [ht] at hg
    case some t =>
      rw [ht, Option.bind_some] at hg
      cases t
      case file => cases hg
      case directory entries =>
        have hl : (entries.lookup name).isSome := by
          rw [get?] at hg
          cases hl : entries.lookup name
          case none   => simp [hl] at hg
          case some t => rfl
        simp only [follow, ht, hn.ne_empty, hn.ne_dot, hn.ne_dots, hl, or_self, if_false, if_true,
          hi, hs]

theorem startsWith_slash_iff {s : String} : s.startsWith "/" ↔ s.toList.head? = some '/' := by
  rw [String.startsWith_string_iff]
  cases s.toList <;> simp [eq_comm]

theorem endsWith_slash_iff {s : String} : s.endsWith "/" ↔ ∃ front, s = front ++ "/" := by
  have h : s.endsWith "/" ↔ "/".toList <:+ s.toSlice.copy.toList := String.Slice.endsWith_string_iff
  rw [h, String.copy_toSlice]
  constructor
  case mp =>
    rintro ⟨front, hf⟩
    exact ⟨.ofList front, String.toList_inj.mp (by simpa using hf.symm)⟩
  case mpr =>
    rintro ⟨front, rfl⟩
    exact ⟨front.toList, by simp⟩

theorem startsWith_append (h : path ≠ "") (t : String) :
    (path ++ t).startsWith "/" = path.startsWith "/" := by
  rw [Bool.eq_iff_iff, startsWith_slash_iff, startsWith_slash_iff, String.toList_append,
    List.head?_append_of_ne_nil _ (by simpa using h)]

theorem not_startsWith_of_isFileName (h : IsFileName name) : ¬name.startsWith "/" := by
  rw [startsWith_slash_iff]
  exact fun hs => h.no_slash (List.mem_of_head? hs)

theorem not_startsWith_join (hn : names ≠ []) (h : ∀ name ∈ names, IsFileName name) :
    ¬(Level.join names).startsWith "/" := by
  cases names
  case nil => contradiction
  case cons name names =>
    have hf := h name List.mem_cons_self
    by_cases hr : names = []
    case pos => simpa only [Level.join, hr, String.intercalate_singleton] using
        not_startsWith_of_isFileName hf
    case neg =>
      rw [Level.join, String.intercalate_cons_of_ne_nil hr, String.append_assoc,
        startsWith_append hf.ne_empty]
      exact not_startsWith_of_isFileName hf

theorem resolve_eq_ok_iff :
    tree.resolve path = .ok names ↔ path ≠ "" ∧ tree.follow [] (partsOf path) = .ok names := by
  rw [resolve]
  simp only [String.isEmpty_iff]
  split
  case isTrue h  => exact iff_of_false nofun fun ⟨he, _⟩ => he h
  case isFalse h => simp [h]

-- A slash at the end of a path to a directory may be left out.
theorem follow_of_follow_slash (h : tree.follow [] (partsOf (path ++ "/")) = .ok root) :
    tree.follow [] (partsOf path) = .ok root := by
  have hp : partsOf (path ++ "/") = partsOf path ++ [""] := by
    rw [← String.append_empty (s := path ++ "/"), partsOf_append_slash]
    rfl
  rw [hp, follow_append] at h
  cases hf : tree.follow [] (partsOf path)
  case error => simp [hf, Except.bind] at h
  case ok names =>
    simp only [hf, Except.bind, follow, List.reverse_reverse] at h
    split at h
    case h_1 => simpa using h
    all_goals cases h

theorem joinPath_eq (hn : path ≠ "") (hs : ¬name.startsWith "/") :
    (∃ front, path = front ++ "/" ∧ joinPath path name = front ++ "/" ++ name) ∨
      joinPath path name = path ++ "/" ++ name := by
  rw [joinPath, if_neg hs]
  by_cases he : path.endsWith "/"
  case pos =>
    obtain ⟨front, rfl⟩ := endsWith_slash_iff.mp he
    exact .inl ⟨front, rfl, by simp only [he, Bool.or_true, if_true]⟩
  case neg =>
    have hn : ¬path.isEmpty := by simpa using hn
    exact .inr (by simp only [he, hn, Bool.or_false]; rfl)

-- Names that are joined to a path lead on from where the path leads.
theorem resolve_joinPath (hr : tree.resolve path = .ok root) (hn : below ≠ [])
    (hf : ∀ name ∈ below, IsFileName name) (hg : (tree.get? (root ++ below)).isSome) :
    tree.resolve (joinPath path (Level.join below)) = .ok (root ++ below) := by
  have ⟨he, hr⟩ := resolve_eq_ok_iff.mp hr
  have hg : tree.follow root.reverse below = .ok (root ++ below) := by
    simpa using @follow_names _ _ root.reverse hf (by simpa using hg)
  have hp : ∀ front, tree.follow [] (partsOf front) = .ok root →
      tree.follow [] (partsOf (front ++ "/" ++ Level.join below)) = .ok (root ++ below) := by
    intro front hr
    rw [partsOf_append_slash, partsOf_join hn hf, follow_append, hr]
    exact hg
  rw [resolve_eq_ok_iff]
  rcases joinPath_eq he (not_startsWith_join hn hf) with ⟨front, rfl, hj⟩ | hj
  · rw [hj]
    exact ⟨by simp, hp front (follow_of_follow_slash hr)⟩
  · rw [hj]
    exact ⟨by simp, hp path hr⟩

theorem openFile_joinPath (hr : tree.resolve path = .ok root) (hn : below ≠ [])
    (hf : ∀ name ∈ below, IsFileName name)
    (hg : tree.get? (root ++ below) = some (file content)) :
    tree.openFile (joinPath path (Level.join below)) = .ok (.ofBytes content) := by
  have hr := resolve_joinPath hr hn hf (by rw [hg]; rfl)
  simp only [openFile, hr, bind, Except.bind, hg]
  rfl

end FileTree

end ResourceEmbedding
