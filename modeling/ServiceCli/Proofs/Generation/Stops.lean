import ServiceCli.Proofs.Generation.Outcome

/-!
Where runs stop. A run goes through files, their services and the methods of these in order, so it
stops at the first that cannot be done, once all before it are done.
-/
namespace ServiceCli.Generation

variable {c : Catalog} {settings : Settings} {layout : Layout} {stop : Stop}

/-- Going through methods comes to `m` with this table and these flags, all before it done. -/
def AtMethod (c : Catalog) (ms : List Method) (state : VerbTable × Flags) (m : Method)
    (t : VerbTable) (flags : Flags) : Prop :=
  ∃ before after, ms = before ++ m :: after ∧ (methods c before state).outcome = .ok (t, flags)

theorem methods_outcome (ms : List Method) (state : VerbTable × Flags) :
    (methods c ms state).outcome = ms.foldlM (fun state m => do
      let t ← orStop (registered state.1 m)
      let flags ← (gather c state.2 m).outcome
      return (t, flags)) state := by
  induction ms generalizing state with
  | nil => rfl
  | cons m ms ih =>
    rw [methods, List.foldlM_cons, Logged.outcome_bind, register_outcome, bind_assoc]
    congr 1
    funext t
    rw [Logged.outcome_bind, bind_assoc]
    congr 1
    funext flags
    exact ih (t, flags)

/-- A method is registered before its flags are gathered. -/
theorem methods_eq_error {ms : List Method} {state : VerbTable × Flags} :
    (methods c ms state).outcome = .error stop ↔ ∃ m t flags, AtMethod c ms state m t flags ∧
      (orStop (registered t m) = .error stop ∨
        (∃ t', registered t m = .ok t') ∧ (gather c flags m).outcome = .error stop) := by
  have hpure : ∀ state, (pure state : Except Stop (VerbTable × Flags)) ≠ .error stop := nofun
  rw [methods_outcome, foldlM_eq_error]
  simp only [← methods_outcome, bind_eq_error, hpure, and_false, exists_false, or_false,
    orStop_eq_ok]
  constructor
  · rintro ⟨before, m, after, ⟨t, flags⟩, hms, hbefore, hm⟩
    refine ⟨m, t, flags, ⟨before, after, hms, hbefore⟩, hm.imp id ?_⟩
    exact fun ⟨t', ht', hgather⟩ => ⟨⟨t', ht'⟩, hgather⟩
  · rintro ⟨m, t, flags, ⟨before, after, hms, hbefore⟩, hm⟩
    refine ⟨before, m, after, (t, flags), hms, hbefore, hm.imp id ?_⟩
    exact fun ⟨⟨t', ht'⟩, hgather⟩ => ⟨t', ht', hgather⟩

/-- The flags of a method stop a run if they cannot be found, or if one of them is reserved. -/
theorem gather_eq_error {flags : Flags} {m : Method} :
    (gather c flags m).outcome = .error stop ↔ ¬flags.sets.contains m.inputType ∧
      ((∃ e, (flags.flattener.flatten c m.inputType).result = .error e ∧ stop = .failure e) ∨
        ∃ x, (flags.flattener.flatten c m.inputType).result = .ok x ∧
          x.flags.contains requestFlag ∧ stop = .failure (.reservedFlag x.fullName)) := by
  have hcheck : ∀ (x : FlagSchema) (flags : Flags), (if x.flags.contains requestFlag then (do
      Logged.ofFailing (.error (.reservedFlag x.fullName)); return flags) else
      (return flags : Logged Flags)).outcome = .error stop ↔
        x.flags.contains requestFlag ∧ stop = .failure (.reservedFlag x.fullName) := by
    intro x flags
    split
    · rename_i hreserved
      rw [Logged.outcome_bind, bind_eq_error]
      simp [orStop, hreserved, eq_comm]
    · rename_i hreserved
      simp [hreserved]
  rw [gather]
  by_cases hknown : flags.sets.contains m.inputType
  · simp [hknown]
  · rw [if_neg hknown]
    simp only [Logged.outcome_bind, bind_eq_error, Logged.outcome_log, Logged.outcome_ofFailing,
      orStop_eq_error, reduceCtorEq, orStop_eq_ok, false_or, hknown, hcheck]
    simp

/-- Going through services comes to `s` with these flags, all before it done. -/
def AtService (c : Catalog) (layout : Layout) (ss : List Service) (flags : Flags) (s : Service)
    (flags' : Flags) : Prop :=
  ∃ before after cs, ss = before ++ s :: after ∧
    (services c layout before flags).outcome = .ok (cs, flags')

/-- The commands of a service are made after all its methods are done. -/
theorem service_eq_error {s : Service} {flags : Flags} :
    (service c layout s flags).outcome = .error stop ↔
      (methods c s.methods (.empty, flags)).outcome = .error stop ∨
        ∃ t flags', (methods c s.methods (.empty, flags)).outcome = .ok (t, flags') ∧
          orStop (CommandTree.assemble s.name t layout) = .error stop := by
  have hok : ∀ r : List Command × Flags, (Except.ok r : Except Stop _) ≠ .error stop := nofun
  rw [service_outcome, bind_eq_error]
  simp only [bind_eq_error, hok, and_false, exists_false, or_false, Prod.exists]

theorem services_outcome (ss : List Service) (flags : Flags) :
    (services c layout ss flags).outcome.map (·.2) =
      ss.foldlM (fun flags s => (service c layout s flags).outcome.map (·.2)) flags := by
  induction ss generalizing flags with
  | nil => rfl
  | cons s ss ih =>
    rw [services, List.foldlM_cons, Logged.outcome_bind]
    cases (service c layout s flags).outcome with
    | error e => rfl
    | ok r =>
      refine Eq.trans ?_ (ih r.2)
      show ((services c layout ss r.2 >>= fun r' => return (r.1 ++ r'.1, r'.2)).outcome.map _) = _
      rw [Logged.outcome_bind]
      cases (services c layout ss r.2).outcome <;> rfl

theorem services_eq_error {ss : List Service} {flags : Flags} :
    (services c layout ss flags).outcome = .error stop ↔ ∃ s flags',
      AtService c layout ss flags s flags' ∧ (service c layout s flags').outcome = .error stop := by
  rw [← map_eq_error (f := (·.2)), services_outcome, foldlM_eq_error]
  simp only [← services_outcome, map_eq_error, map_eq_ok]
  constructor
  · rintro ⟨before, s, after, _, hss, ⟨⟨cs, flags'⟩, hbefore, rfl⟩, hs⟩
    exact ⟨s, flags', ⟨before, after, cs, hss, hbefore⟩, hs⟩
  · rintro ⟨s, flags', ⟨before, after, cs, hss, hbefore⟩, hs⟩
    exact ⟨before, s, after, flags', hss, ⟨(cs, flags'), hbefore, rfl⟩, hs⟩

theorem plan_eq_error {f : ServiceFile} {flattener : Flattener} :
    (plan c settings f flattener).outcome = .error stop ↔
      (services c settings.layout f.services ⟨flattener, .empty⟩).outcome = .error stop := by
  have hok : ∀ r : FilePlan × Flattener, (Except.ok r : Except Stop _) ≠ .error stop := nofun
  rw [plan, Logged.outcome_bind, bind_eq_error]
  simp only [Logged.outcome_pure, hok, and_false, exists_false, or_false]

section Files

variable {α : Type} {nameOf : String → String} {write : FilePlan → Except Stop α}
  {fs : List ServiceFile} {flattener : Flattener}

/-- Going through files comes to `f`, which has services, with `flattener'`, all before it
written. -/
def AtFile (c : Catalog) (settings : Settings) (nameOf : String → String)
    (write : FilePlan → Except Stop α) (fs : List ServiceFile) (flattener : Flattener)
    (f : ServiceFile) (flattener' : Flattener) : Prop :=
  ¬f.services.isEmpty ∧ ∃ before after as, fs = before ++ f :: after ∧
    (files c settings nameOf write before flattener).outcome = .ok (as, flattener')

/-- What is kept of a file that has been written is what has been flattened. -/
def fileStep (c : Catalog) (settings : Settings) (write : FilePlan → Except Stop α)
    (flattener : Flattener) (f : ServiceFile) : Except Stop Flattener :=
  if f.services.isEmpty then .ok flattener
  else do
    let r ← (plan c settings f flattener).outcome
    let _ ← write r.1
    return r.2

theorem files_outcome (nameOf : String → String) (fs : List ServiceFile) (flattener : Flattener) :
    (files c settings nameOf write fs flattener).outcome.map (·.2) =
      fs.foldlM (fileStep c settings write) flattener := by
  induction fs generalizing flattener with
  | nil => rfl
  | cons f fs ih =>
    rw [List.foldlM_cons, fileStep]
    by_cases hf : f.services.isEmpty
    · rw [files, if_pos hf, if_pos hf]
      exact ih flattener
    · rw [files, if_neg hf, if_neg hf]
      simp only [Logged.outcome_bind, Logged.outcome_ofExcept, Logged.outcome_log]
      cases (plan c settings f flattener).outcome with
      | error e => rfl
      | ok r =>
        cases hwrite : write r.1 with
        | error e => simp only [bind, Except.bind, hwrite, Except.map]
        | ok a =>
          simp only [bind, Except.bind, hwrite, pure, Except.pure]
          rw [← ih r.2]
          cases (files c settings nameOf write fs r.2).outcome <;> rfl

theorem fileStep_eq_error {f : ServiceFile} : fileStep c settings write flattener f = .error stop ↔
    ¬f.services.isEmpty ∧ ((plan c settings f flattener).outcome = .error stop ∨
      ∃ p flattener', (plan c settings f flattener).outcome = .ok (p, flattener') ∧
        write p = .error stop) := by
  have hok : ∀ flattener, (pure flattener : Except Stop Flattener) ≠ .error stop := nofun
  rw [fileStep]
  by_cases hf : f.services.isEmpty
  · simp [hf]
  · rw [if_neg hf]
    simp only [bind_eq_error, hok, hf, and_false, exists_false, or_false, Prod.exists,
      Bool.false_eq_true, not_false_eq_true, true_and]

/-- A run stops at a file in planning it or in writing it. -/
theorem files_eq_error :
    (files c settings nameOf write fs flattener).outcome = .error stop ↔ ∃ f flattener₁,
      AtFile c settings nameOf write fs flattener f flattener₁ ∧
        ((plan c settings f flattener₁).outcome = .error stop ∨ ∃ p flattener₂,
          (plan c settings f flattener₁).outcome = .ok (p, flattener₂) ∧
            write p = .error stop) := by
  rw [← map_eq_error (f := (·.2)), files_outcome, foldlM_eq_error]
  simp only [← files_outcome nameOf, map_eq_ok, fileStep_eq_error]
  constructor
  · rintro ⟨before, f, after, _, hfs, ⟨⟨as, flattener₁⟩, hbefore, rfl⟩, hf, hstop⟩
    exact ⟨f, flattener₁, ⟨hf, before, after, as, hfs, hbefore⟩, hstop⟩
  · rintro ⟨f, flattener₁, ⟨hf, before, after, as, hfs, hbefore⟩, hstop⟩
    exact ⟨before, f, after, flattener₁, hfs, ⟨(as, flattener₁), hbefore, rfl⟩, hf, hstop⟩

/-- A run that succeeds comes to every file that has services. -/
theorem atFile_of_ok {as : List α} {flattener' : Flattener} {f : ServiceFile}
    (h : (files c settings nameOf write fs flattener).outcome = .ok (as, flattener'))
    (hf : f ∈ fs) (hservices : ¬f.services.isEmpty) : ∃ flattener₁,
      AtFile c settings nameOf write fs flattener f flattener₁ ∧
        ∃ p flattener₂, (plan c settings f flattener₁).outcome = .ok (p, flattener₂) := by
  have hall : fs.foldlM (fileStep c settings write) flattener = .ok flattener' := by
    rw [← files_outcome nameOf, h]
    rfl
  obtain ⟨before, after, flattener₁, _, hfs, hbefore, hstep⟩ := foldlM_eq_ok_at hall hf
  rw [← files_outcome nameOf, map_eq_ok] at hbefore
  obtain ⟨⟨written, _⟩, hbefore, rfl⟩ := hbefore
  rw [fileStep, if_neg hservices] at hstep
  obtain ⟨⟨p, flattener₂⟩, hplan, -⟩ := bind_eq_ok.1 hstep
  exact ⟨_, ⟨hservices, before, after, written, hfs, hbefore⟩, p, flattener₂, hplan⟩

theorem run_eq_error : (run nameOf write c settings).outcome = .error stop ↔
    (files c settings nameOf write c.files {}).outcome = .error stop := by
  rw [run, Logged.outcome_bind, bind_eq_error]
  refine or_iff_left ?_
  rintro ⟨_, -, h⟩
  cases h

end Files

end ServiceCli.Generation
