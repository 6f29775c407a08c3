import ServiceCli.Generation
import ServiceCli.Proofs.Sequence

/-!
What runs that succeed have done: they made the commands of every service of every file that has
services, each on its own, gathered the flags of all methods in order, and wrote each file from the
commands and the flags of its services.
-/
namespace ServiceCli.Generation

/-- The table with the resource and the verb of a method, if it has them. -/
def registered (t : VerbTable) (m : Method) : Except Failure VerbTable := do
  match ← ResourceVerb.resolve m.name m.overrides.annotations with
  | none => return t
  | some rv => t.insert rv.resource rv.verb m.inputType

/-- The commands of a service, which do not depend on flags. -/
def commandsOf (layout : Layout) (s : Service) : Except Failure (List Command) := do
  let t ← s.methods.foldlM registered .empty
  CommandTree.assemble s.name t layout

/-- The commands of each of some services. -/
def Trees (layout : Layout) (ss : List Service) (trees : List (List Command)) : Prop :=
  List.Forall₂ (fun s cs => commandsOf layout s = .ok cs) ss trees

/-- The flags after those of methods are gathered, which do not depend on commands. -/
def gathered (c : Catalog) (flags : Flags) (ms : List Method) : Except Stop Flags :=
  ms.foldlM (fun flags m => (gather c flags m).outcome) flags

variable {c : Catalog} {settings : Settings} {layout : Layout}

theorem gathered_cons {flags flags' : Flags} {m : Method} {ms : List Method} :
    gathered c flags (m :: ms) = .ok flags' ↔
      ∃ flags₁, (gather c flags m).outcome = .ok flags₁ ∧ gathered c flags₁ ms = .ok flags' := by
  rw [gathered, List.foldlM_cons, bind_eq_ok]
  rfl

theorem gathered_append {flags flags' : Flags} {ms ms' : List Method} :
    gathered c flags (ms ++ ms') = .ok flags' ↔
      ∃ flags₁, gathered c flags ms = .ok flags₁ ∧ gathered c flags₁ ms' = .ok flags' := by
  rw [gathered, List.foldlM_append, bind_eq_ok]
  rfl

theorem gather_eq_ok {flags flags' : Flags} {m : Method} :
    (gather c flags m).outcome = .ok flags' ↔
      (flags.sets.contains m.inputType ∧ flags' = flags) ∨
        (¬flags.sets.contains m.inputType ∧ ∃ schema,
          (flags.flattener.flatten c m.inputType).result = .ok schema ∧
          ¬schema.flags.contains requestFlag ∧
          flags' = ⟨(flags.flattener.flatten c m.inputType).flattener,
            flags.sets.insert m.inputType schema⟩) := by
  rw [gather]
  by_cases hknown : flags.sets.contains m.inputType
  · rw [if_pos hknown, Logged.outcome_pure, Except.ok.injEq, eq_comm]
    simp [hknown]
  · rw [if_neg hknown]
    simp only [Logged.outcome_bind, bind_eq_ok, Logged.outcome_ofFailing, orStop_eq_ok]
    constructor
    · rintro ⟨_, -, schema, hschema, _, -, h⟩
      split at h
      · rw [Logged.outcome_bind, bind_eq_ok] at h
        obtain ⟨_, hreserved, -⟩ := h
        cases hreserved
      · rename_i hreserved
        cases h
        exact .inr ⟨hknown, schema, hschema, hreserved, rfl⟩
    · rintro (⟨hknown', -⟩ | ⟨-, schema, hschema, hreserved, rfl⟩)
      · exact absurd hknown' hknown
      · refine ⟨(), rfl, schema, hschema, (), rfl, ?_⟩
        rw [if_neg hreserved]
        rfl

/-- Gathering the flags of methods keeps what gathering those of one method keeps. -/
theorem gathered_keeps {I : Flags → Prop}
    (step : ∀ {flags flags' : Flags} {m : Method}, I flags →
      (gather c flags m).outcome = .ok flags' → I flags')
    {flags flags' : Flags} {ms : List Method} (h : I flags)
    (hgathered : gathered c flags ms = .ok flags') : I flags' :=
  foldlM_keeps (fun _ _ _ _ => step) h hgathered

theorem gather_sets {flags flags' : Flags} {m : Method}
    (h : (gather c flags m).outcome = .ok flags') (name : String) :
    flags'.sets.contains name ↔ name = m.inputType ∨ flags.sets.contains name := by
  obtain ⟨hknown, rfl⟩ | ⟨-, schema, -, -, rfl⟩ := gather_eq_ok.1 h
  · exact ⟨.inr, fun hname => hname.elim (fun heq => heq ▸ hknown) id⟩
  · exact NameMap.contains_insert ..

/-- Every request type of the methods has flags, and nothing else gets any. -/
theorem gathered_sets {flags flags' : Flags} {ms : List Method}
    (h : gathered c flags ms = .ok flags') (name : String) :
    flags'.sets.contains name ↔ name ∈ ms.map (·.inputType) ∨ flags.sets.contains name := by
  induction ms generalizing flags with
  | nil =>
    cases h
    simp
  | cons m ms ih =>
    obtain ⟨flags₁, hfirst, hrest⟩ := gathered_cons.1 h
    rw [ih hrest, gather_sets hfirst, List.map_cons, List.mem_cons]
    tauto

theorem register_outcome (t : VerbTable) (m : Method) :
    (register t m).outcome = orStop (registered t m) := by
  rw [register, registered, Logged.outcome_bind, Logged.outcome_ofFailing]
  cases ResourceVerb.resolve (ε := Failure) m.name m.overrides.annotations with
  | error e => rfl
  | ok rv? => cases rv? <;> rfl

theorem methods_eq_ok {ms : List Method} {t t' : VerbTable} {flags flags' : Flags} :
    (methods c ms (t, flags)).outcome = .ok (t', flags') ↔
      ms.foldlM registered t = .ok t' ∧ gathered c flags ms = .ok flags' := by
  induction ms generalizing t flags with
  | nil =>
    show (Except.ok (t, flags) : Except Stop _) = .ok (t', flags') ↔
      (Except.ok t : Except Failure _) = .ok t' ∧ (Except.ok flags : Except Stop _) = .ok flags'
    simp only [Except.ok.injEq, Prod.mk.injEq]
  | cons m ms ih =>
    rw [methods, Logged.outcome_bind, register_outcome, bind_eq_ok, List.foldlM_cons, bind_eq_ok,
      gathered, List.foldlM_cons, bind_eq_ok]
    simp only [Logged.outcome_bind, bind_eq_ok, ih, orStop_eq_ok]
    constructor
    · rintro ⟨t₁, ht₁, flags₁, hflags₁, ht, hflags⟩
      exact ⟨⟨t₁, ht₁, ht⟩, flags₁, hflags₁, hflags⟩
    · rintro ⟨⟨t₁, ht₁, ht⟩, flags₁, hflags₁, hflags⟩
      exact ⟨t₁, ht₁, flags₁, hflags₁, ht, hflags⟩

theorem service_outcome (s : Service) (flags : Flags) :
    (service c layout s flags).outcome = (methods c s.methods (.empty, flags)).outcome >>= fun r =>
      orStop (CommandTree.assemble s.name r.1 layout) >>= fun cs => .ok (cs, r.2) := by
  rw [service, Logged.outcome_during, Logged.outcome_bind]
  congr 1
  funext r
  dsimp only
  split <;> simp only [Logged.outcome_bind, Logged.outcome_ofFailing, Logged.outcome_log] <;> rfl

theorem service_eq_ok {s : Service} {flags flags' : Flags} {cs : List Command} :
    (service c layout s flags).outcome = .ok (cs, flags') ↔
      commandsOf layout s = .ok cs ∧ gathered c flags s.methods = .ok flags' := by
  rw [service_outcome, bind_eq_ok, commandsOf, bind_eq_ok]
  constructor
  · rintro ⟨⟨t, flags₁⟩, hmethods, h⟩
    obtain ⟨ht, hflags⟩ := methods_eq_ok.1 hmethods
    obtain ⟨cs, hcs, h⟩ := bind_eq_ok.1 h
    cases h
    exact ⟨⟨t, ht, orStop_eq_ok.1 hcs⟩, hflags⟩
  · rintro ⟨⟨t, ht, hcs⟩, hflags⟩
    exact ⟨(t, flags'), methods_eq_ok.2 ⟨ht, hflags⟩, bind_eq_ok.2 ⟨cs, orStop_eq_ok.2 hcs, rfl⟩⟩

theorem services_eq_ok {ss : List Service} {flags flags' : Flags} {cs : List Command} :
    (services c layout ss flags).outcome = .ok (cs, flags') ↔
      (∃ trees, Trees layout ss trees ∧ cs = trees.flatten) ∧
        gathered c flags (ss.flatMap (·.methods)) = .ok flags' := by
  induction ss generalizing flags cs with
  | nil =>
    constructor
    · intro h
      cases h
      exact ⟨⟨[], .nil, rfl⟩, rfl⟩
    · rintro ⟨⟨trees, htrees, rfl⟩, h⟩
      cases htrees
      cases h
      rfl
  | cons s ss ih =>
    rw [services, Logged.outcome_bind, bind_eq_ok, List.flatMap_cons, gathered_append]
    simp only [Logged.outcome_bind, bind_eq_ok]
    constructor
    · rintro ⟨⟨first, flags₁⟩, hfirst, ⟨rest, flags₂⟩, hrest, h⟩
      cases h
      obtain ⟨hcs, hflags₁⟩ := service_eq_ok.1 hfirst
      obtain ⟨⟨trees, htrees, rfl⟩, hflags⟩ := ih.1 hrest
      exact ⟨⟨first :: trees, .cons hcs htrees, rfl⟩, flags₁, hflags₁, hflags⟩
    · rintro ⟨⟨trees, htrees, rfl⟩, flags₁, hflags₁, hflags⟩
      cases htrees with
      | @cons _ first _ trees hcs htrees =>
        exact ⟨(first, flags₁), service_eq_ok.2 ⟨hcs, hflags₁⟩, (trees.flatten, flags'),
          ih.2 ⟨⟨trees, htrees, rfl⟩, hflags⟩, rfl⟩

/-- The plan of a file has the commands of its services and the flags of all its methods. -/
theorem plan_eq_ok {f : ServiceFile} {flattener flattener' : Flattener} {p : FilePlan} :
    (plan c settings f flattener).outcome = .ok (p, flattener') ↔
      ∃ trees sets, Trees settings.layout f.services trees ∧
        gathered c ⟨flattener, .empty⟩ (f.services.flatMap (·.methods)) = .ok ⟨flattener', sets⟩ ∧
        p = ⟨f.name, trees.flatten, sets, settings.requestShort⟩ := by
  rw [plan, Logged.outcome_bind, bind_eq_ok]
  constructor
  · rintro ⟨⟨cs, flags⟩, hcs, h⟩
    cases h
    obtain ⟨⟨trees, htrees, rfl⟩, hflags⟩ := services_eq_ok.1 hcs
    exact ⟨trees, flags.sets, htrees, hflags, rfl⟩
  · rintro ⟨trees, sets, htrees, hflags, rfl⟩
    have hservices := services_eq_ok.2 ⟨⟨trees, htrees, rfl⟩, hflags⟩
    exact ⟨(trees.flatten, ⟨flattener', sets⟩), hservices, rfl⟩

section

variable {α : Type} {nameOf : String → String} {write : FilePlan → Except Stop α}

theorem files_cons_eq_ok {f : ServiceFile} {fs : List ServiceFile}
    {flattener flattener' : Flattener} {as : List α} (hf : ¬f.services.isEmpty) :
    (files c settings nameOf write (f :: fs) flattener).outcome = .ok (as, flattener') ↔
      ∃ p flattener₁ a rest, (plan c settings f flattener).outcome = .ok (p, flattener₁) ∧
        write p = .ok a ∧
        (files c settings nameOf write fs flattener₁).outcome = .ok (rest, flattener') ∧
        as = a :: rest := by
  rw [files, if_neg hf]
  simp only [Logged.outcome_bind, Logged.outcome_ofExcept, bind_eq_ok]
  constructor
  · rintro ⟨⟨p, flattener₁⟩, hp, a, ha, _, -, ⟨rest, flattener₂⟩, hrest, h⟩
    cases h
    exact ⟨p, flattener₁, a, rest, hp, ha, hrest, rfl⟩
  · rintro ⟨p, flattener₁, a, rest, hp, ha, hrest, rfl⟩
    exact ⟨(p, flattener₁), hp, a, ha, (), rfl, (rest, flattener'), hrest, rfl⟩

/-- Each file with services is written, in order, from the commands of its services and the flags
of all their methods. -/
theorem files_ok {fs : List ServiceFile} {flattener flattener' : Flattener} {as : List α}
    (h : (files c settings nameOf write fs flattener).outcome = .ok (as, flattener')) :
    List.Forall₂ (fun f a => ∃ trees sets, Trees settings.layout f.services trees ∧
        (∃ before after, gathered c ⟨before, .empty⟩ (f.services.flatMap (·.methods)) =
          .ok ⟨after, sets⟩) ∧
        write ⟨f.name, trees.flatten, sets, settings.requestShort⟩ = .ok a)
      (fs.filter (!·.services.isEmpty)) as := by
  induction fs generalizing flattener flattener' as with
  | nil =>
    cases h
    exact .nil
  | cons f fs ih =>
    by_cases hempty : f.services.isEmpty
    · rw [files, if_pos hempty] at h
      rw [List.filter_cons_of_neg (by simp [hempty])]
      exact ih h
    · obtain ⟨p, flattener₁, a, rest, hp, ha, hrest, rfl⟩ := (files_cons_eq_ok hempty).1 h
      obtain ⟨trees, sets, htrees, hsets, rfl⟩ := plan_eq_ok.1 hp
      rw [List.filter_cons_of_pos (by simp [hempty])]
      exact .cons ⟨trees, sets, htrees, ⟨_, _, hsets⟩, ha⟩ (ih hrest)

theorem run_eq_ok {results : List α} : (run nameOf write c settings).outcome = .ok results ↔
    ∃ flattener, (files c settings nameOf write c.files {}).outcome = .ok (results, flattener) := by
  rw [run]
  simp only [Logged.outcome_bind, bind_eq_ok]
  constructor
  · rintro ⟨⟨results, flattener⟩, hfiles, _, -, h⟩
    cases h
    exact ⟨flattener, hfiles⟩
  · rintro ⟨flattener, hfiles⟩
    exact ⟨(results, flattener), hfiles, (), rfl, rfl⟩

end

end ServiceCli.Generation
