import ServiceCli.Proofs.Flag.Coverage
import ServiceCli.Proofs.Generation.Functions
import ServiceCli.Proofs.Generation.Stops
import ServiceCli.Proofs.Source.Identifiers

/-!
When a run crashes. Planning a file can fail but not crash, so a run crashes in writing the first
file that cannot be written and does not fail, and then every file before it has been written.
-/
namespace ServiceCli.Generation

variable {c : Catalog} {settings : Settings} {layout : Layout}

/-- A computation that may fail but does not crash. -/
def Orderly {α : Type} (x : Except Stop α) : Prop := ∀ k, x ≠ .error (.crash k)

section Orderly

variable {α β : Type} {x : Except Stop α} {f : α → Except Stop β}

theorem orderly_ok (a : α) : Orderly (.ok a) := nofun

theorem orderly_orStop (x : Except Failure α) : Orderly (orStop x) := by
  intro k
  cases x <;> simp [orStop]

theorem Orderly.bind (hx : Orderly x) (hf : ∀ a, Orderly (f a)) : Orderly (x >>= f) := by
  intro k h
  obtain h | ⟨a, -, h⟩ := bind_eq_error.1 h
  · exact hx k h
  · exact hf a k h

end Orderly

theorem orderly_gather (flags : Flags) (m : Method) : Orderly (gather c flags m).outcome := by
  rw [gather]
  split
  · exact orderly_ok flags
  · simp only [Logged.outcome_bind, Logged.outcome_ofFailing]
    refine (orderly_ok ()).bind fun _ => (orderly_orStop _).bind fun schema =>
      (orderly_ok ()).bind fun _ => ?_
    split
    · rw [Logged.outcome_bind, Logged.outcome_ofFailing]
      exact (orderly_orStop _).bind fun _ => orderly_ok _
    · exact orderly_ok _

theorem orderly_methods (ms : List Method) (state : VerbTable × Flags) :
    Orderly (methods c ms state).outcome := by
  induction ms generalizing state with
  | nil => exact orderly_ok state
  | cons m ms ih =>
    obtain ⟨t, flags⟩ := state
    rw [methods, Logged.outcome_bind, register_outcome]
    refine (orderly_orStop _).bind fun t => ?_
    rw [Logged.outcome_bind]
    exact (orderly_gather flags m).bind fun flags => ih (t, flags)

theorem orderly_services (ss : List Service) (flags : Flags) :
    Orderly (services c layout ss flags).outcome := by
  induction ss generalizing flags with
  | nil => exact orderly_ok ([], flags)
  | cons s ss ih =>
    rw [services, Logged.outcome_bind, service_outcome]
    refine ((orderly_methods s.methods _).bind fun r => (orderly_orStop _).bind fun cs =>
      orderly_ok _).bind fun r => ?_
    rw [Logged.outcome_bind]
    exact (ih r.2).bind fun _ => orderly_ok _

theorem orderly_plan (f : ServiceFile) (flattener : Flattener) :
    Orderly (plan c settings f flattener).outcome := by
  rw [plan, Logged.outcome_bind]
  exact (orderly_services f.services _).bind fun _ => orderly_ok _

section

variable {α : Type} {nameOf : String → String} {write : FilePlan → Except Stop α} {k : Crash}

/-- Going through files comes to the plan of a file with services, all files before it written. -/
def Comes (c : Catalog) (settings : Settings) (nameOf : String → String)
    (write : FilePlan → Except Stop α) (fs : List ServiceFile) (flattener : Flattener)
    (f : ServiceFile) (p : FilePlan) : Prop :=
  ¬f.services.isEmpty ∧ ∃ before after as flattener₁ flattener₂, fs = before ++ f :: after ∧
    (files c settings nameOf write before flattener).outcome = .ok (as, flattener₁) ∧
    (plan c settings f flattener₁).outcome = .ok (p, flattener₂)

theorem comes_iff {fs : List ServiceFile} {flattener : Flattener} {f : ServiceFile} {p : FilePlan} :
    Comes c settings nameOf write fs flattener f p ↔ ∃ flattener₁,
      AtFile c settings nameOf write fs flattener f flattener₁ ∧
        ∃ flattener₂, (plan c settings f flattener₁).outcome = .ok (p, flattener₂) := by
  constructor
  · rintro ⟨hf, before, after, as, flattener₁, flattener₂, hfs, hbefore, hplan⟩
    exact ⟨flattener₁, ⟨hf, before, after, as, hfs, hbefore⟩, flattener₂, hplan⟩
  · rintro ⟨flattener₁, ⟨hf, before, after, as, hfs, hbefore⟩, flattener₂, hplan⟩
    exact ⟨hf, before, after, as, flattener₁, flattener₂, hfs, hbefore, hplan⟩

/-- A file only crashes the run in being written, once all files before it are written. -/
theorem files_eq_crash {fs : List ServiceFile} {flattener : Flattener} :
    (files c settings nameOf write fs flattener).outcome = .error (.crash k) ↔
      ∃ f p, Comes c settings nameOf write fs flattener f p ∧ write p = .error (.crash k) := by
  simp only [files_eq_error, comes_iff]
  constructor
  · rintro ⟨f, flattener₁, hf, hplan | ⟨p, flattener₂, hplan, hcrash⟩⟩
    · exact absurd hplan (orderly_plan f flattener₁ k)
    · exact ⟨f, p, ⟨flattener₁, hf, flattener₂, hplan⟩, hcrash⟩
  · rintro ⟨f, p, ⟨flattener₁, hf, flattener₂, hplan⟩, hcrash⟩
    exact ⟨f, flattener₁, hf, .inr ⟨p, flattener₂, hplan, hcrash⟩⟩

end

/-- A run comes to the plan of the file. -/
def Reached (c : Catalog) (settings : Settings) (f : ServiceFile) (p : FilePlan) : Prop :=
  Comes c settings Source.fileName generatedFile c.files {} f p

theorem generate_eq_error {stop : Stop} : (generate c settings).outcome = .error stop ↔
    (files c settings Source.fileName generatedFile c.files {}).outcome = .error stop := by
  rw [generate, Logged.outcome_bind, bind_eq_error, run_eq_error]
  refine or_iff_left ?_
  rintro ⟨_, -, h⟩
  cases h

theorem generate_eq_crash {k : Crash} : (generate c settings).outcome = .error (.crash k) ↔
    ∃ f p, Reached c settings f p ∧ generatedFile p = .error (.crash k) := by
  rw [generate_eq_error, files_eq_crash]
  rfl

theorem exists_reached {r : Response} {f : ServiceFile} (h : (generate c settings).outcome = .ok r)
    (hf : f ∈ c.files) (hservices : ¬f.services.isEmpty) : ∃ p, Reached c settings f p := by
  obtain ⟨results, hrun, -⟩ := generate_eq_ok.1 h
  obtain ⟨flattener, hfiles⟩ := run_eq_ok.1 hrun
  obtain ⟨flattener₁, hat, p, flattener₂, hplan⟩ := atFile_of_ok hfiles hf hservices
  exact ⟨p, comes_iff.2 ⟨flattener₁, hat, flattener₂, hplan⟩⟩

theorem render_eq_error {p : FilePlan} {stop : Stop} :
    Source.render p = .error stop ↔ Source.items p = .error stop := by
  have hok : ∀ s : String, (pure s : Except Stop String) ≠ .error stop := nofun
  rw [Source.render]
  simp only [bind_eq_error, hok, and_false, exists_false, or_false]

theorem generatedFile_eq_error {p : FilePlan} {stop : Stop} :
    generatedFile p = .error stop ↔ Source.items p = .error stop := by
  have hok : ∀ a : GeneratedFile, (pure a : Except Stop GeneratedFile) ≠ .error stop := nofun
  rw [generatedFile]
  simp only [bind_eq_error, render_eq_error, hok, and_false, exists_false, or_false]

open Flattener (Served)

/-- Sets of flags have the names of the request types that they belong to. -/
structure Flags.Titled (c : Catalog) (flags : Flags) : Prop where
  served : Served c flags.flattener
  titled : Flattener.Titled c flags.sets

theorem Flags.Titled.gather {flags flags' : Flags} {m : Method} (h : flags.Titled c)
    (hgather : (gather c flags m).outcome = .ok flags') : flags'.Titled c := by
  obtain ⟨-, rfl⟩ | ⟨-, schema, hschema, -, rfl⟩ := gather_eq_ok.1 hgather
  · exact h
  · have hserved := h.served.call hschema
    refine ⟨hserved, fun name s hs => ?_⟩
    rw [NameMap.get?_insert] at hs
    split at hs
    · rename_i hname
      obtain rfl := Option.some.inj hs
      subst hname
      exact hserved.titled _ _ (Flattener.get?_of_ok hschema)
    · exact h.titled name s hs

theorem Flags.Titled.gathered {flags flags' : Flags} {ms : List Method} (h : flags.Titled c)
    (hgathered : gathered c flags ms = .ok flags') : flags'.Titled c :=
  gathered_keeps Flags.Titled.gather h hgathered

theorem Flags.Titled.plan {f : ServiceFile} {flattener flattener' : Flattener} {p : FilePlan}
    (h : Served c flattener) (hplan : (plan c settings f flattener).outcome = .ok (p, flattener')) :
    Flags.Titled c ⟨flattener', p.flagsets⟩ := by
  obtain ⟨trees, sets, -, hsets, rfl⟩ := plan_eq_ok.1 hplan
  have hempty : Flattener.Titled c .empty := fun n s hs => by simp at hs
  exact Flags.Titled.gathered ⟨h, hempty⟩ hsets

theorem served_files {α : Type} {nameOf : String → String} {write : FilePlan → Except Stop α}
    {fs : List ServiceFile} {flattener flattener' : Flattener} {as : List α}
    (h : Served c flattener)
    (hfiles : (files c settings nameOf write fs flattener).outcome = .ok (as, flattener')) :
    Served c flattener' := by
  induction fs generalizing flattener as with
  | nil =>
    cases hfiles
    exact h
  | cons f fs ih =>
    by_cases hempty : f.services.isEmpty
    · rw [files, if_pos hempty] at hfiles
      exact ih h hfiles
    · obtain ⟨p, flattener₁, a, rest, hp, -, hrest, -⟩ := (files_cons_eq_ok hempty).1 hfiles
      exact ih (Flags.Titled.plan h hp).served hrest

variable {f : ServiceFile} {p : FilePlan}

theorem Reached.mem_files (h : Reached c settings f p) : f ∈ c.files := by
  obtain ⟨-, before, after, -, -, -, heq, -⟩ := h
  simp [heq]

section

variable {α : Type} {nameOf : String → String} {write : FilePlan → Except Stop α}
  {fs : List ServiceFile} {flattener : Flattener}

theorem Comes.titled (h : Comes c settings nameOf write fs flattener f p)
    (hserved : Served c flattener) : Flattener.Titled c p.flagsets := by
  obtain ⟨-, before, after, written, flattener₁, flattener₂, -, hbefore, hplan⟩ := h
  exact (Flags.Titled.plan (served_files hserved hbefore) hplan).titled

theorem Comes.commands (h : Comes c settings nameOf write fs flattener f p) :
    ∃ trees, Trees settings.layout f.services trees ∧ p.commands = trees.flatten := by
  obtain ⟨-, before, after, written, flattener₁, flattener₂, -, -, hplan⟩ := h
  obtain ⟨trees, sets, htrees, -, rfl⟩ := plan_eq_ok.1 hplan
  exact ⟨trees, htrees, rfl⟩

theorem Comes.contains_iff (h : Comes c settings nameOf write fs flattener f p) (t : String) :
    p.flagsets.contains t ↔ ∃ s ∈ f.services, ∃ m ∈ s.methods, m.inputType = t := by
  obtain ⟨-, before, after, written, flattener₁, flattener₂, -, -, hplan⟩ := h
  obtain ⟨trees, sets, -, hsets, rfl⟩ := plan_eq_ok.1 hplan
  rw [gathered_sets hsets, List.map_flatMap]
  simp [NameMap.contains, NameMap.get?_empty]

end

theorem Reached.titled (h : Reached c settings f p) : Flattener.Titled c p.flagsets :=
  Comes.titled h .fresh

theorem Reached.commands (h : Reached c settings f p) :
    ∃ trees, Trees settings.layout f.services trees ∧ p.commands = trees.flatten :=
  Comes.commands h

theorem Reached.contains_iff (h : Reached c settings f p) (t : String) :
    p.flagsets.contains t ↔ ∃ s ∈ f.services, ∃ m ∈ s.methods, m.inputType = t :=
  Comes.contains_iff h t

end ServiceCli.Generation
