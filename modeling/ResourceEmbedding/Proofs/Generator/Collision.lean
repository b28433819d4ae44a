import ResourceEmbedding.Proofs.Generator.Resources
import ResourceEmbedding.Proofs.Occurrences

namespace ResourceEmbedding

-- The symbol with the namespace that it lives in.
def Definition.slot (d : Definition) : SymbolKind × String :=
  (d.symbolKind, d.symbol)

namespace Catalog

variable {catalog : Catalog} {request : Request} {name : String} {g : Generator}
variable {items before : List Definition} {seen : List ((SymbolKind × String) × String)}
variable {d first : Definition}

def IsFirst (o : List Definition × Definition) : Prop :=
  ∀ e ∈ o.1, e.slot ≠ o.2.slot

instance : DecidablePred IsFirst :=
  fun o => inferInstanceAs (Decidable (∀ e ∈ o.1, e.slot ≠ o.2.slot))

def firsts (items : List Definition) : List Definition :=
  ((occurrences items).filter (IsFirst ·)).map (·.2)

def laters (items : List Definition) : List Definition :=
  ((occurrences items).filter (¬IsFirst ·)).map (·.2)

def firstAt? (items : List Definition) (slot : SymbolKind × String) : Option Definition :=
  items.find? (·.slot = slot)

theorem isFirst_iff : IsFirst (before, d) ↔ firstAt? before d.slot = none := by
  simp [IsFirst, firstAt?]

theorem firstAt?_append_singleton (before : List Definition) (d : Definition)
    (slot : SymbolKind × String) :
    firstAt? (before ++ [d]) slot =
      (firstAt? before slot).or (if d.slot = slot then some d else none) := by
  simp [firstAt?, List.find?_append, List.find?_singleton]

-- What was kept of the definitions in `before` is the origin of the first with each symbol.
def Keeps (seen : List ((SymbolKind × String) × String)) (before : List Definition) : Prop :=
  ∀ slot, seen.lookup slot = (firstAt? before slot).map (·.origin)

theorem Keeps.nil : Keeps [] [] :=
  fun _ => rfl

theorem Keeps.keep (h : Keeps seen before) (hn : seen.lookup d.slot = none) :
    Keeps ((d.slot, d.origin) :: seen) (before ++ [d]) := by
  intro slot
  rw [lookup_cons_ite, firstAt?_append_singleton, h slot]
  by_cases hs : slot = d.slot
  case pos =>
    have hb : firstAt? before slot = none := by simpa [hs, hn] using (h d.slot).symm
    simp [hs, hs ▸ hb]
  case neg => simp [hs, Ne.symm hs]

theorem Keeps.drop {origin : String} (h : Keeps seen before)
    (hs : seen.lookup d.slot = some origin) : Keeps seen (before ++ [d]) := by
  intro slot
  rw [firstAt?_append_singleton, h slot]
  by_cases hd : d.slot = slot
  case pos =>
    subst hd
    rw [h] at hs
    have ⟨first, hf, _⟩ := Option.map_eq_some_iff.mp hs
    simp [hf]
  case neg => simp [hd]

def collision (request : Request) (o : List Definition × Definition) : Diagnostic :=
  let first := ((firstAt? o.1 o.2.slot).map (·.origin)).getD ""
  ⟨.error, (Failure.namingCollision o.2.symbol first o.2.origin).message, some request.site⟩

theorem dropCollisionsFrom_keep (hn : seen.lookup d.slot = none) :
    dropCollisionsFrom request seen (d :: items) =
      (d :: ·) <$> dropCollisionsFrom request ((d.slot, d.origin) :: seen) items := by
  have hn : seen.lookup (d.symbolKind, d.symbol) = none := hn
  simp only [dropCollisionsFrom, hn]
  rfl

theorem dropCollisionsFrom_drop {origin : String} (hs : seen.lookup d.slot = some origin) :
    dropCollisionsFrom request seen (d :: items) = (do
      request.error (Failure.namingCollision d.symbol origin d.origin).message
      dropCollisionsFrom request seen items) := by
  have hs : seen.lookup (d.symbolKind, d.symbol) = some origin := hs
  simp only [dropCollisionsFrom, hs]

-- The run goes on as if it had met the definitions in `before`.
theorem dropCollisionsFrom_eq (h : Keeps seen before) :
    dropCollisionsFrom request seen items =
      ⟨((occurrencesFrom before items).filter (IsFirst ·)).map (·.2),
        ((occurrencesFrom before items).filter (¬IsFirst ·)).map (collision request)⟩ := by
  induction items generalizing seen before
  case nil => rfl
  case cons d items hi =>
    have hd := h d.slot
    rw [occurrencesFrom]
    cases hs : seen.lookup d.slot
    case none =>
      have hf : IsFirst (before, d) := isFirst_iff.mpr (by simpa [hs] using hd.symm)
      rw [dropCollisionsFrom_keep hs, hi (h.keep hs)]
      simp [hf, Functor.map]
    case some origin =>
      rw [hs] at hd
      obtain ⟨first, hb, ho⟩ := Option.map_eq_some_iff.mp hd.symm
      have hf : ¬IsFirst (before, d) := by simp [isFirst_iff, hb]
      have hc : collision request (before, d) =
          ⟨.error, (Failure.namingCollision d.symbol origin d.origin).message,
            some request.site⟩ := by
        simp [collision, hb, ho]
      rw [dropCollisionsFrom_drop hs, hi (h.drop hs)]
      simp [hf, hc, bind, Request.error, Request.report, Logged.emit]

theorem dropCollisions_eq (request : Request) (items : List Definition) :
    dropCollisions request items =
      ⟨firsts items, ((occurrences items).filter (¬IsFirst ·)).map (collision request)⟩ :=
  dropCollisionsFrom_eq .nil

theorem mem_firsts_of_firstAt? {slot : SymbolKind × String} (hb : before <+: items)
    (hf : firstAt? before slot = some first) : first ∈ firsts items ∧ first.slot = slot := by
  have ⟨hs, front, back, he, hn⟩ := List.find?_eq_some_iff_append.mp hf
  simp only [decide_eq_true_eq] at hs
  have ⟨rest, hr⟩ := hb
  have ho : (front, first) ∈ occurrences items :=
    mem_occurrences.mpr ⟨back ++ rest, by simp [← hr, he]⟩
  have hi : IsFirst (front, first) := by
    intro e hm
    rw [hs]
    simpa using hn e hm
  exact ⟨List.mem_map.mpr ⟨_, List.mem_filter.mpr ⟨ho, by simpa using hi⟩, rfl⟩, hs⟩

theorem exists_mem_firsts (hd : d ∈ items) : ∃ first ∈ firsts items, first.slot = d.slot := by
  have hs : (firstAt? items d.slot).isSome := List.find?_isSome.mpr ⟨d, hd, by simp⟩
  have ⟨first, hf⟩ := Option.isSome_iff_exists.mp hs
  exact ⟨first, mem_firsts_of_firstAt? List.prefix_rfl hf⟩

theorem nodup_firsts (items : List Definition) : ((firsts items).map (·.slot)).Nodup := by
  refine List.pairwise_map.mpr (List.pairwise_map.mpr ?_)
  refine ((pairwise_occurrencesFrom [] items).filter _).imp_of_mem fun {o p} _ hp hm => ?_
  have hp : IsFirst p := by simpa using (List.mem_filter.mp hp).2
  exact hp o.2 hm

theorem firsts_append_laters (items : List Definition) :
    (firsts items ++ laters items).Perm items := by
  have hp := (List.filter_append_perm (IsFirst ·) (occurrences items)).map (·.2)
  simpa [firsts, laters, occurrences, map_snd_occurrencesFrom] using hp

-- The report on a definition that is dropped. It names the symbol, what the definition derives
-- from, and what the one that is kept in its place derives from.
def ReportsDropped (request : Request) (kept : List Definition) (d : Definition)
    (report : Diagnostic) : Prop :=
  ∃ first ∈ kept, first.slot = d.slot ∧
    report = ⟨.error, (Failure.namingCollision d.symbol first.origin d.origin).message,
      some request.site⟩ ∧
    ∀ text ∈ [d.symbol, first.origin, d.origin], Names report.message text

theorem message_namingCollision (symbol first second : String) :
    (Failure.namingCollision symbol first second).message =
      "Symbol \x60" ++ symbol ++ "\x60 is generated for both \x60" ++ first ++ "\x60 and \x60" ++
        second ++ "\x60; " ++ "give one of them a distinct name" :=
  rfl

theorem names_namingCollision (symbol first second : String) :
    ∀ text ∈ [symbol, first, second],
      Names (Failure.namingCollision symbol first second).message text := by
  -- The back quotes have to stand alone before the texts between them can be found.
  have start : "Symbol \x60" = "Symbol " ++ "\x60" := by simp
  have both :
      "\x60 is generated for both \x60" = "\x60" ++ " is generated for both " ++ "\x60" := by
    simp
  have and : "\x60 and \x60" = "\x60" ++ " and " ++ "\x60" := by simp
  have hint : "\x60; " = "\x60" ++ "; " := by simp
  rw [message_namingCollision, start, both, and, hint]
  simp only [List.forall_mem_cons, List.not_mem_nil, false_imp_iff, implies_true, and_true]
  refine ⟨⟨"Symbol ", " is generated for both " ++ "\x60" ++ first ++ "\x60" ++ " and " ++ "\x60" ++
      second ++ "\x60" ++ "; " ++ "give one of them a distinct name", ?_⟩,
    ⟨"Symbol " ++ "\x60" ++ symbol ++ "\x60" ++ " is generated for both ", " and " ++ "\x60" ++
      second ++ "\x60" ++ "; " ++ "give one of them a distinct name", ?_⟩,
    ⟨"Symbol " ++ "\x60" ++ symbol ++ "\x60" ++ " is generated for both " ++ "\x60" ++ first ++
      "\x60" ++ " and ", "; " ++ "give one of them a distinct name", ?_⟩⟩
  all_goals simp only [String.append_assoc]

theorem forall₂_reportsDropped (request : Request) (items : List Definition) :
    List.Forall₂ (ReportsDropped request (firsts items)) (laters items)
      (dropCollisions request items).diagnostics := by
  rw [dropCollisions_eq, laters, List.forall₂_map_left_iff, List.forall₂_map_right_iff,
    List.forall₂_same]
  rintro ⟨before, d⟩ hm
  have ⟨ho, hn⟩ := List.mem_filter.mp hm
  have hn : ¬IsFirst (before, d) := by simpa using hn
  have ⟨back, he⟩ := mem_occurrences.mp ho
  have ⟨first, hf⟩ := Option.ne_none_iff_exists'.mp (mt isFirst_iff.mpr hn)
  have ⟨hk, hs⟩ := mem_firsts_of_firstAt? ⟨d :: back, he.symm⟩ hf
  refine ⟨first, hk, hs, by simp [collision, hf], ?_⟩
  simpa [collision, hf] using names_namingCollision d.symbol first.origin d.origin

-- Of the definitions that a generator comes to, the first with each symbol of each kind is kept, in
-- their order. All others are reported, one by one and behind whatever the generator reports.
theorem first_of_each_symbol_kept (hc : catalog.choose request name = .ok g)
    (hg : (g.generate request).run.value = .ok items) :
    let run := catalog.run request name
    run.value.items = firsts items ∧
    (run.value.items.map (·.slot)).Nodup ∧
    (∀ d ∈ items, ∃ first ∈ run.value.items, first.slot = d.slot) ∧
    (run.value.items ++ laters items).Perm items ∧
    ∃ reports, run.diagnostics = (g.generate request).run.diagnostics ++ reports ∧
      List.Forall₂ (ReportsDropped request run.value.items) (laters items) reports := by
  intro run
  have hr : run.value.items = firsts items := by
    simp [run, run_of_choose_ok hc hg, dropCollisions_eq]
  rw [hr]
  refine ⟨rfl, nodup_firsts items, fun d => exists_mem_firsts, firsts_append_laters items,
    (dropCollisions request items).diagnostics, ?_, forall₂_reportsDropped request items⟩
  rw [show run = _ from run_of_choose_ok hc hg]

-- Three files of one name, each with an accessor and a constant of the same symbol.
theorem first_of_each_symbol_kept_thrice :
    let request : Request := ⟨{
      resources := [.ofBytes "a/x_path" [], .ofBytes "b/x_path" [], .ofBytes "c/x_path" []]
      settings := [⟨"path_constants", "true"⟩] }, by decide⟩
    let run := standard.run request "lazy"
    standard.choose request "lazy" = .ok Generator.lazy ∧
    run.value.items.map (·.origin) = ["a/x_path", "a/x_path"] ∧
    run.diagnostics.length = 4 ∧ ∃ items,
    (Generator.lazy.generate request).run.value = .ok items ∧
    run.value.items = firsts items ∧
    (run.value.items.map (·.slot)).Nodup ∧
    (∀ d ∈ items, ∃ first ∈ run.value.items, first.slot = d.slot) ∧
    (run.value.items ++ laters items).Perm items ∧
    ∃ reports, run.diagnostics = (Generator.lazy.generate request).run.diagnostics ++ reports ∧
      List.Forall₂ (ReportsDropped request run.value.items) (laters items) reports := by
  intro request run
  have ha : Generator.lazy.Accepts request := ⟨_, rfl, by decide +kernel⟩
  have hc : standard.choose request "lazy" = .ok Generator.lazy :=
    choose_eq_ok_iff.mpr ⟨get?_standard _, ha⟩
  have ⟨items, hg⟩ := Generator.lazy_total.items request ha
  exact ⟨hc, by decide +kernel, by decide +kernel, items, hg, first_of_each_symbol_kept hc hg⟩

end Catalog

end ResourceEmbedding
