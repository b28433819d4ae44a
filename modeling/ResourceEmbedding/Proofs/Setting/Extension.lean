import ResourceEmbedding.Proofs.Setting.Violations

namespace ResourceEmbedding

namespace Schema

variable {schema a b c : Schema} {d : Declaration} {declarations : List Declaration}
variable {handler key : String} {taken keys : List String} {s : Setting} {e : SettingError}

def keysOf (declarations : List Declaration) : List String :=
  declarations.map (·.key)

-- The schemas that declarations and other schemas are made into.
inductive Built : Schema → Prop
  | declared {handler : String} {declarations : List Declaration} {schema : Schema} :
    ofDeclarations handler declarations = .ok schema → Built schema
  | unchecked (handler : String) : Built (unchecked handler)
  | extended {a b c : Schema} : Built a → Built b → a.extend b = .ok c → Built c

-- The first of `keys` that is taken, or that repeats an earlier one.
def FirstRepeat (taken keys : List String) (key : String) : Prop :=
  ∃ before after, keys = before ++ key :: after ∧ (taken ++ before).Nodup ∧ key ∈ taken ++ before

theorem FirstRepeat.not_nodup (h : FirstRepeat taken keys key) : ¬(taken ++ keys).Nodup := by
  obtain ⟨before, after, rfl, _, hk⟩ := h
  intro hn
  rw [← List.append_assoc, List.nodup_append] at hn
  exact hn.2.2 key hk key List.mem_cons_self rfl

-- Among keys that come once each, the first that is taken is the first that is not new.
theorem FirstRepeat.find?_eq_some (h : FirstRepeat taken keys key) (hn : keys.Nodup) :
    keys.find? (· ∈ taken) = some key := by
  obtain ⟨before, after, rfl, hb, hk⟩ := h
  rw [List.nodup_append] at hn hb
  have hd : key ∉ before := fun hm => hn.2.2 key hm key List.mem_cons_self rfl
  refine List.find?_eq_some_iff_append.mpr ⟨?taken, before, after, rfl, ?first⟩
  case taken => simpa using (List.mem_append.mp hk).resolve_right hd
  case first =>
    intro k hm
    simpa using fun ht => hb.2.2 k ht k hm rfl

theorem isSome_find?_iff : (schema.find? key).isSome ↔ key ∈ keysOf schema.declarations := by
  simp [find?, keysOf]

theorem declare_of_mem (h : d.key ∈ keysOf schema.declarations) :
    schema.declare d = .error (.duplicateDeclaration schema.handler d.key) := by
  rw [declare, if_pos (isSome_find?_iff.mpr h)]

theorem declare_of_notMem (h : d.key ∉ keysOf schema.declarations) :
    schema.declare d = .ok { schema with declarations := schema.declarations ++ [d] } := by
  rw [declare, if_neg (mt isSome_find?_iff.mp h)]

-- One declaration after the other is added, up to the first whose key is there already.
theorem foldlM_declare_cases (hn : (keysOf schema.declarations).Nodup)
    (declarations : List Declaration) :
    (∃ c, declarations.foldlM declare schema = .ok c ∧
        (keysOf schema.declarations ++ keysOf declarations).Nodup) ∨
      ∃ key, FirstRepeat (keysOf schema.declarations) (keysOf declarations) key ∧
        declarations.foldlM declare schema = .error (.duplicateDeclaration schema.handler key) := by
  induction declarations generalizing schema
  case nil => exact .inl ⟨schema, rfl, by simpa [keysOf] using hn⟩
  case cons d declarations hi =>
    rw [List.foldlM_cons]
    by_cases hd : d.key ∈ keysOf schema.declarations
    case pos =>
      refine .inr ⟨d.key, ⟨[], keysOf declarations, rfl, ?_, ?_⟩, ?_⟩
      · simpa using hn
      · simpa using hd
      · rw [declare_of_mem hd]
        rfl
    case neg =>
      rw [declare_of_notMem hd]
      let grown : Schema := { schema with declarations := schema.declarations ++ [d] }
      have hk : keysOf grown.declarations = keysOf schema.declarations ++ [d.key] := by
        simp [grown, keysOf]
      have hg : (keysOf grown.declarations).Nodup := by
        rw [hk, ← List.concat_eq_append]
        exact hn.concat hd
      rcases hi hg with ⟨c, hc, hn⟩ | ⟨key, ⟨before, after, hs, hb, hm⟩, he⟩
      · rw [hk, List.append_assoc] at hn
        exact .inl ⟨c, hc, hn⟩
      · rw [hk, List.append_assoc] at hb hm
        refine .inr ⟨key, ⟨d.key :: before, after, ?_, hb, hm⟩, he⟩
        rw [keysOf, List.map_cons, ← keysOf, hs, List.cons_append]

theorem ofDeclarations_cases (handler : String) (declarations : List Declaration) :
    (ofDeclarations handler declarations = .ok ⟨handler, declarations, true⟩ ∧
        (keysOf declarations).Nodup) ∨
      ∃ key, FirstRepeat [] (keysOf declarations) key ∧
        ofDeclarations handler declarations = .error (.duplicateDeclaration handler key) := by
  rcases @foldlM_declare_cases ⟨handler, [], true⟩ .nil declarations with ⟨c, hc, hn⟩ | h
  · have hc : ofDeclarations handler declarations = .ok c := hc
    exact .inl ⟨ofDeclarations_eq_ok hc ▸ hc, hn⟩
  · exact .inr h

theorem extend_cases (ha : (keysOf a.declarations).Nodup) (b : Schema) :
    (a.extend b = .ok { a with declarations := a.declarations ++ b.declarations } ∧
        (keysOf a.declarations ++ keysOf b.declarations).Nodup) ∨
      ∃ key, FirstRepeat (keysOf a.declarations) (keysOf b.declarations) key ∧
        a.extend b = .error (.duplicateDeclaration a.handler key) := by
  rcases foldlM_declare_cases ha b.declarations with ⟨c, hc, hn⟩ | h
  · have hc : a.extend b = .ok c := hc
    exact .inl ⟨extend_eq_ok hc ▸ hc, hn⟩
  · exact .inr h

theorem Built.nodup (h : Built schema) : (keysOf schema.declarations).Nodup := by
  induction h
  case declared handler declarations schema hs =>
    rcases ofDeclarations_cases handler declarations with ⟨h, hn⟩ | ⟨_, _, h⟩
    · cases hs.symm.trans h
      exact hn
    · cases hs.symm.trans h
  case unchecked => exact .nil
  case extended a b c _ _ hs ha _ =>
    rcases extend_cases ha b with ⟨h, hn⟩ | ⟨_, _, h⟩
    · cases hs.symm.trans h
      simpa [keysOf] using hn
    · cases hs.symm.trans h

-- A schema without a common key leaves what is declared as it is.
theorem admits_append (hn : (keysOf a.declarations ++ keysOf b.declarations).Nodup) :
    Admits { a with declarations := a.declarations ++ b.declarations } s ↔
      a.Admits s ∨ b.Admits s := by
  have hf : find? { a with declarations := a.declarations ++ b.declarations } s.key =
      (a.find? s.key).or (b.find? s.key) := List.find?_append
  simp only [Admits, hf]
  cases ha : a.find? s.key
  case none => simp
  case some d =>
    have hb : b.find? s.key = none := by
      rw [← Option.not_isSome_iff_eq_none, isSome_find?_iff]
      have hm := isSome_find?_iff.mp (Option.isSome_of_eq_some ha)
      exact fun hb => (List.nodup_append.mp hn).2.2 _ hm _ hb rfl
    simp [hb]

-- What is accepted of joined declarations is accepted by those that were added, as far as it is for
-- them.
theorem check_filter_of_extend {settings : List Setting} (ha : (keysOf a.declarations).Nodup)
    (he : a.extend b = .ok c) (hb : b.checked) (hc : c.checked)
    (hs : c.check settings = .ok ()) :
    b.check (settings.filter fun s => (b.find? s.key).isSome) = .ok () := by
  rcases extend_cases ha b with ⟨h, hn⟩ | ⟨_, _, h⟩
  case inr => cases he.symm.trans h
  cases he.symm.trans h
  have ⟨hs, hk⟩ := (check_eq_ok_iff hc).mp hs
  refine (check_eq_ok_iff hb).mpr ⟨fun s hm => ?_, hk.sublist (List.filter_sublist.map _)⟩
  have ⟨hm, hd⟩ := List.mem_filter.mp hm
  rcases (admits_append hn).mp (hs s hm) with ⟨d, hf, _⟩ | h
  · have hm := isSome_find?_iff.mp (Option.isSome_of_eq_some hf)
    exact absurd rfl ((List.nodup_append.mp hn).2.2 _ hm _ (isSome_find?_iff.mp hd))
  · exact h

-- A built schema declares each key once. It can be extended by another one if they share no key,
-- and then declares what both declare and admits what one of them admits; otherwise the first key
-- is told that comes twice, as it is where declarations are made into a schema.
theorem extends_iff_no_common_key :
    (∀ schema, Built schema → (keysOf schema.declarations).Nodup) ∧
    (∀ a b, Built a → Built b →
      ((∃ c, a.extend b = .ok c) ↔ ∀ key ∈ keysOf b.declarations, key ∉ keysOf a.declarations) ∧
      (∀ c, a.extend b = .ok c →
        c.handler = a.handler ∧ c.checked = a.checked ∧
        c.declarations = a.declarations ++ b.declarations ∧
        (c.checked → ∀ settings, c.validate settings = .ok () ↔
          (settings.map (·.key)).Nodup ∧ ∀ s ∈ settings, a.Admits s ∨ b.Admits s)) ∧
      ∀ e, a.extend b = .error e → ∃ key,
        (keysOf b.declarations).find? (· ∈ keysOf a.declarations) = some key ∧
        e = .duplicateDeclaration a.handler key) ∧
    ∀ handler declarations,
      ((∃ e, ofDeclarations handler declarations = .error e) ↔ ¬(keysOf declarations).Nodup) ∧
      ∀ e, ofDeclarations handler declarations = .error e → ∃ key,
        FirstRepeat [] (keysOf declarations) key ∧ e = .duplicateDeclaration handler key := by
  refine ⟨fun _ => Built.nodup, ?extended, ?declared⟩
  case extended =>
    intro a b ha hb
    rcases extend_cases ha.nodup b with ⟨hc, hn⟩ | ⟨key, hk, he⟩
    · have hd := List.nodup_append.mp hn
      refine ⟨?_, ?_, ?_⟩
      · exact iff_of_true ⟨_, hc⟩ fun key hb ha => hd.2.2 key ha key hb rfl
      · intro c h
        cases hc.symm.trans h
        refine ⟨rfl, rfl, rfl, fun hc settings => ?_⟩
        rw [validate_eq_ok_iff hc, and_comm]
        simp only [admits_append hn]
      · intro e h
        cases hc.symm.trans h
    · have hf := hk.find?_eq_some hb.nodup
      refine ⟨?_, ?_, ?_⟩
      · refine iff_of_false (fun ⟨c, h⟩ => ?_) fun h => ?_
        · cases he.symm.trans h
        · exact h key (List.mem_of_find?_eq_some hf) (by simpa using List.find?_some hf)
      · intro c h
        cases he.symm.trans h
      · intro e h
        cases he.symm.trans h
        exact ⟨key, hf, rfl⟩
  case declared =>
    intro handler declarations
    rcases ofDeclarations_cases handler declarations with ⟨hc, hn⟩ | ⟨key, hk, he⟩
    · refine ⟨iff_of_false (fun ⟨e, h⟩ => ?_) (not_not.mpr hn), fun e h => ?_⟩
      all_goals cases hc.symm.trans h
    · refine ⟨iff_of_true ⟨_, he⟩ hk.not_nodup, fun e h => ?_⟩
      cases he.symm.trans h
      exact ⟨key, hk, rfl⟩

-- A schema that checks nothing takes declarations over and hands them on, but only once.
theorem extends_iff_no_common_key_unchecked :
    let own : Schema := ⟨"messages", [⟨"embed_source", "embed the bundles", .boolean⟩], true⟩
    let raw : Schema :=
      ⟨"raw", [⟨"binary", "raw bytes", .boolean⟩, ⟨"max_bytes", "budget", .sizeAtLeast 3⟩], false⟩
    let joined : Schema := ⟨"messages", own.declarations ++ raw.declarations, true⟩
    let settings : List Setting := [⟨"max_bytes", "6"⟩, ⟨"embed_source", "TRUE"⟩]
    Built own ∧ Built raw ∧ own.extend raw = .ok joined ∧ (keysOf joined.declarations).Nodup ∧
    (joined.validate settings = .ok () ↔
      (settings.map (·.key)).Nodup ∧ ∀ s ∈ settings, own.Admits s ∨ raw.Admits s) ∧
    (¬∃ twice, joined.extend raw = .ok twice) ∧
    ∀ e, joined.extend raw = .error e → ∃ key,
      (keysOf raw.declarations).find? (· ∈ keysOf joined.declarations) = some key ∧
      e = .duplicateDeclaration "messages" key := by
  intro own raw joined settings
  have ⟨hb, he, _⟩ := extends_iff_no_common_key
  have hd : ofDeclarations "messages" own.declarations = .ok own := rfl
  have hw : ofDeclarations "embed" raw.declarations = .ok ⟨"embed", raw.declarations, true⟩ := rfl
  have ho : Built own := .declared hd
  have hr : Built raw := .extended (.unchecked "raw") (.declared hw) rfl
  have hj : own.extend raw = .ok joined := rfl
  have hb₂ : Built joined := .extended ho hr hj
  have ⟨hi, _, hf⟩ := he joined raw hb₂ hr
  refine ⟨ho, hr, hj, hb joined hb₂, ((he own raw ho hr).2.1 joined hj).2.2.2 rfl settings, ?_, hf⟩
  rw [hi]
  exact fun h => h "binary" (by decide) (by decide)

end Schema

end ResourceEmbedding
