import Mathlib.Data.List.Induction
import ServiceCli.Proofs.Command.Uniqueness
import ServiceCli.Proofs.Sequence

/-!
Which trees of commands are accepted. A tree is visited from the top, a group before what is below
it, and the first command that repeats a name is reported: the name of a function of any command
before it, or a name that a sibling before it is invoked by.
-/
namespace ServiceCli.CommandTree

/-- A command on the way through a tree, with its siblings before it. -/
structure Visit where
  command : Command
  siblings : List Command

mutual

/-- A command and then all commands below it, from the top. -/
def visits (siblings : List Command) : Command → List Visit
  | ⟨name, alias?, children, requestType, hasRequest, runnable⟩ =>
    ⟨⟨name, alias?, children, requestType, hasRequest, runnable⟩, siblings⟩ ::
      visitsOf [] children

/-- Commands that come after the given siblings, each followed by all commands below it. -/
def visitsOf (siblings : List Command) : List Command → List Visit
  | [] => []
  | c :: cs => visits siblings c ++ visitsOf (siblings ++ [c]) cs

end

theorem visits_eq (siblings : List Command) (c : Command) :
    visits siblings c = ⟨c, siblings⟩ :: visitsOf [] c.children := by
  cases c
  rfl

/-- The names that commands are invoked by: of each its own name and then its alias. -/
def invocationsOf (cs : List Command) : List String := cs.flatMap Command.invocations

namespace Visit

/-- A name that invokes the command invokes a sibling before it, or its alias is its own name. -/
def IsAmbiguous (v : Visit) : Prop :=
  v.command.useName ∈ invocationsOf v.siblings ∨
    ∃ name, v.command.alias? = some name ∧
      name ∈ invocationsOf v.siblings ++ [v.command.useName]

/-- The command has the stem of one before it in the tree, or is ambiguous. -/
def Repeats (before : List Visit) (v : Visit) : Prop :=
  v.command.stem ∈ before.map (·.command.stem) ∨ v.IsAmbiguous

instance (v : Visit) : Decidable v.IsAmbiguous :=
  decidable_of_iff (v.command.useName ∈ invocationsOf v.siblings ∨
      ∃ name ∈ v.command.alias?, name ∈ invocationsOf v.siblings ++ [v.command.useName]) Iff.rfl

instance (before : List Visit) (v : Visit) : Decidable (v.Repeats before) :=
  inferInstanceAs (Decidable (_ ∨ _))

end Visit

/-- Adds a command to those visited, unless it repeats a name. -/
def visit (before : List Visit) (v : Visit) : Except Failure (List Visit) :=
  if v.Repeats before then .error (.duplicateCommand v.command.name) else .ok (before ++ [v])

/-- The stems of the commands visited, the last one first. -/
def stemsAfter (before : List Visit) : List String := (before.map (·.command.stem)).reverse

/-- The names that siblings are invoked by, the last one first. -/
def invokedAfter (siblings : List Command) : List String := (invocationsOf siblings).reverse

theorem invokedAfter_concat (siblings : List Command) (c : Command) :
    invokedAfter (siblings ++ [c]) = c.invocations.reverse ++ invokedAfter siblings := by
  simp [invokedAfter, invocationsOf]

theorem addInvocations_eq (siblings : List Command) (c : Command) :
    addInvocations (invokedAfter siblings) c.name c.invocations =
      if (Visit.mk c siblings).IsAmbiguous then .error (.duplicateCommand c.name)
      else .ok (invokedAfter (siblings ++ [c])) := by
  obtain ⟨name, alias?, children, requestType, hasRequest, runnable⟩ := c
  have hmem (name : String) : name ∈ invokedAfter siblings ↔ name ∈ invocationsOf siblings :=
    List.mem_reverse
  cases alias? with
  | none =>
    simp [Visit.IsAmbiguous, Command.invocations, addInvocations, hmem, invokedAfter_concat]
  | some other =>
    simp only [Visit.IsAmbiguous, Command.invocations, addInvocations, hmem, invokedAfter_concat,
      Option.toList_some, List.mem_cons, List.mem_append, Option.some.injEq, exists_eq_left']
    split_ifs <;> simp_all

mutual

theorem checkCommand_eq_foldlM (before : List Visit) (siblings : List Command) (c : Command) :
    checkCommand (stemsAfter before) (invokedAfter siblings) c =
      ((visits siblings c).foldlM visit before).map fun after =>
        (stemsAfter after, invokedAfter (siblings ++ [c])) := by
  match c with
  | ⟨name, alias?, children, requestType, hasRequest, runnable⟩ =>
    have hchildren := fun before => checkCommands_eq_foldlM before [] children
    have hstem : ∀ c : Command, c.stem ∈ stemsAfter before ↔
        c.stem ∈ before.map (·.command.stem) := fun c => List.mem_reverse
    rw [checkCommand, visits_eq, List.foldlM_cons]
    generalize hc : Command.mk name alias? children requestType hasRequest runnable = c
    obtain rfl : c.name = name := by rw [← hc]
    obtain rfl : c.children = children := by rw [← hc]
    simp only [hstem, addInvocations_eq, visit, Visit.Repeats]
    by_cases hrepeated : c.stem ∈ before.map (·.command.stem)
    · simp only [hrepeated, if_true, true_or]
      rfl
    · by_cases hambiguous : (Visit.mk c siblings).IsAmbiguous
      · simp only [hrepeated, hambiguous, if_true, if_false, or_true]
        rfl
      · have hstems : c.stem :: stemsAfter before = stemsAfter (before ++ [⟨c, siblings⟩]) := by
          simp [stemsAfter]
        simp only [hrepeated, hambiguous, if_false, or_false, bind, Except.bind, hstems]
        rw [show ([] : List String) = invokedAfter [] from rfl, hchildren]
        cases (visitsOf [] c.children).foldlM visit (before ++ [⟨c, siblings⟩]) <;> rfl

/-- Checking commands is visiting them one after the other. -/
theorem checkCommands_eq_foldlM (before : List Visit) (siblings cs : List Command) :
    checkCommands (stemsAfter before) (invokedAfter siblings) cs =
      ((visitsOf siblings cs).foldlM visit before).map stemsAfter := by
  match cs with
  | [] => rfl
  | c :: cs =>
    rw [checkCommands, visitsOf, List.foldlM_append, checkCommand_eq_foldlM]
    cases (visits siblings c).foldlM visit before with
    | error e => rfl
    | ok after => exact checkCommands_eq_foldlM after (siblings ++ [c]) cs

end

/-- No command repeats a name. -/
def Clean (vs : List Visit) : Prop :=
  ∀ before v after, vs = before ++ v :: after → ¬v.Repeats before

theorem clean_concat {vs : List Visit} {v : Visit} :
    Clean (vs ++ [v]) ↔ Clean vs ∧ ¬v.Repeats vs := by
  constructor
  · intro h
    refine ⟨fun before u after heq => h before u (after ++ [v]) ?_, h vs v [] rfl⟩
    rw [heq, List.append_assoc, List.cons_append]
  · rintro ⟨hvs, hv⟩ before u after heq
    rcases List.eq_nil_or_concat after with rfl | ⟨after, w, rfl⟩
    · obtain ⟨rfl, hlast⟩ := List.append_inj' heq rfl
      obtain rfl := List.head_eq_of_cons_eq hlast
      exact hv
    · have heq : vs ++ [v] = (before ++ u :: after) ++ [w] := by simpa using heq
      exact hvs before u after (List.append_inj' heq rfl).1

/-- A visit succeeds when no command repeats a name. -/
theorem foldlM_visit_eq_ok {vs after : List Visit} :
    vs.foldlM visit [] = .ok after ↔ Clean vs ∧ after = vs := by
  induction vs using List.reverseRecOn generalizing after with
  | nil =>
    constructor
    · intro h
      cases h
      exact ⟨fun before v after heq => by simp at heq, rfl⟩
    · rintro ⟨-, rfl⟩
      rfl
  | append_singleton vs v ih =>
    have hone (before : List Visit) : [v].foldlM visit before = visit before v := by
      rw [List.foldlM_cons]
      cases visit before v <;> rfl
    rw [List.foldlM_append, bind_eq_ok, clean_concat]
    simp only [ih, hone, and_assoc, visit]
    constructor
    · rintro ⟨_, hclean, rfl, h⟩
      split at h
      · cases h
      · rename_i hv
        exact ⟨hclean, hv, (Except.ok.inj h).symm⟩
    · rintro ⟨hclean, hv, rfl⟩
      exact ⟨vs, hclean, rfl, if_neg hv⟩

/-- Otherwise the first command that does is reported. -/
theorem foldlM_visit_eq_error {vs : List Visit} {e : Failure} :
    vs.foldlM visit [] = .error e ↔ ∃ before v after, vs = before ++ v :: after ∧
      Clean before ∧ v.Repeats before ∧ e = .duplicateCommand v.command.name := by
  have hstop (before : List Visit) (v : Visit) : visit before v = .error e ↔
      v.Repeats before ∧ e = .duplicateCommand v.command.name := by
    rw [visit]
    split
    · rename_i hv
      simp [hv, eq_comm]
    · rename_i hv
      simp [hv]
  simp only [foldlM_eq_error, foldlM_visit_eq_ok, hstop]
  constructor
  · rintro ⟨before, v, after, visited, hvs, ⟨hclean, heq⟩, hv⟩
    exact ⟨before, v, after, hvs, hclean, heq ▸ hv⟩
  · rintro ⟨before, v, after, hvs, hclean, hv⟩
    exact ⟨before, v, after, before, hvs, ⟨hclean, rfl⟩, hv⟩

theorem clean_iff {vs : List Visit} :
    Clean vs ↔ (vs.map (·.command.stem)).Nodup ∧ ∀ v ∈ vs, ¬v.IsAmbiguous := by
  induction vs using List.reverseRecOn with
  | nil => simp [Clean]
  | append_singleton vs v ih =>
    rw [clean_concat, ih, List.map_append, List.map_singleton, List.nodup_append_comm,
      List.singleton_append, List.nodup_cons, List.forall_mem_append, List.forall_mem_singleton,
      Visit.Repeats, not_or]
    tauto

theorem not_isAmbiguous_iff {siblings : List Command} {c : Command}
    (h : (invocationsOf siblings).Nodup) : ¬(Visit.mk c siblings).IsAmbiguous ↔
      (invocationsOf (siblings ++ [c])).Nodup := by
  have hconcat : invocationsOf (siblings ++ [c]) = invocationsOf siblings ++ c.invocations := by
    simp [invocationsOf]
  rw [hconcat, List.nodup_append_comm, Command.invocations, Visit.IsAmbiguous]
  cases c.alias? with
  | none => simp [h]
  | some name =>
    simp only [Option.some.injEq, exists_eq_left, Option.toList_some, List.cons_append,
      List.nil_append, List.nodup_cons, List.mem_cons, List.mem_append, List.not_mem_nil, or_false,
      h, and_true, @eq_comm _ name]
    tauto

mutual

theorem visits_not_isAmbiguous_iff {siblings : List Command} {c : Command}
    (h : (invocationsOf siblings).Nodup) : (∀ v ∈ visits siblings c, ¬v.IsAmbiguous) ↔
      (invocationsOf (siblings ++ [c])).Nodup ∧
        ∀ v ∈ visits siblings c, (invocationsOf v.command.children).Nodup := by
  match c with
  | ⟨name, alias?, children, requestType, hasRequest, runnable⟩ =>
    rw [visits_eq, List.forall_mem_cons, List.forall_mem_cons, not_isAmbiguous_iff h,
      @visitsOf_not_isAmbiguous_iff [] _ List.nodup_nil]
    rfl

/-- No command is ambiguous exactly when nowhere a name invokes two siblings. -/
theorem visitsOf_not_isAmbiguous_iff {siblings cs : List Command}
    (h : (invocationsOf siblings).Nodup) : (∀ v ∈ visitsOf siblings cs, ¬v.IsAmbiguous) ↔
      (invocationsOf (siblings ++ cs)).Nodup ∧
        ∀ v ∈ visitsOf siblings cs, (invocationsOf v.command.children).Nodup := by
  match cs with
  | [] => simp [visitsOf, h]
  | c :: cs =>
    have hsplit : siblings ++ c :: cs = siblings ++ [c] ++ cs := by simp
    rw [visitsOf, List.forall_mem_append, List.forall_mem_append, hsplit,
      visits_not_isAmbiguous_iff h]
    constructor
    · rintro ⟨⟨hc, hbelow⟩, hcs⟩
      obtain ⟨hall, hcs⟩ := (visitsOf_not_isAmbiguous_iff hc).1 hcs
      exact ⟨hall, hbelow, hcs⟩
    · rintro ⟨hall, hbelow, hcs⟩
      have hc : (invocationsOf (siblings ++ [c])).Nodup := by
        rw [invocationsOf, List.flatMap_append] at hall
        exact (List.nodup_append.1 hall).1
      exact ⟨⟨hc, hbelow⟩, (visitsOf_not_isAmbiguous_iff hc).2 ⟨hall, hcs⟩⟩

end

variable {service : String} {t : VerbTable} {layout : Layout}

/-- The check that comes with assembling is a visit of the whole tree. -/
theorem assemble_eq_foldlM : assemble service t layout =
    ((visitsOf [] (commands service t layout)).foldlM visit []).map fun _ =>
      commands service t layout := by
  have hcheck : checkCommands [] [] (commands service t layout) = _ :=
    checkCommands_eq_foldlM [] [] (commands service t layout)
  unfold assemble
  simp only [hcheck]
  cases (visitsOf [] (commands service t layout)).foldlM visit [] <;> rfl

/-- A service gets its commands exactly when the stems of all of them differ and nowhere a name
invokes two siblings. Otherwise the first command from the top is reported, a group before what is
below it, that has the stem of a command before it or is invoked by a name that a sibling before it,
or it itself, is invoked by already. -/
theorem assemble_duplicates (service : String) (t : VerbTable) (layout : Layout) :
    ((∃ cs, assemble service t layout = .ok cs) ↔
      ((visitsOf [] (commands service t layout)).map (·.command.stem)).Nodup ∧
      (invocationsOf (commands service t layout)).Nodup ∧
      ∀ v ∈ visitsOf [] (commands service t layout),
        (invocationsOf v.command.children).Nodup) ∧
    (∀ cs, assemble service t layout = .ok cs → cs = commands service t layout) ∧
    ∀ e, assemble service t layout = .error e ↔
      ∃ before v after, visitsOf [] (commands service t layout) = before ++ v :: after ∧
        Clean before ∧ v.Repeats before ∧ e = .duplicateCommand v.command.name := by
  refine ⟨?_, fun cs h => (assemble_eq_ok.1 h).1, fun e => ?_⟩
  · have hsiblings :=
      @visitsOf_not_isAmbiguous_iff [] (commands service t layout) List.nodup_nil
    rw [List.nil_append] at hsiblings
    rw [← hsiblings, ← clean_iff, assemble_eq_foldlM]
    simp only [map_eq_ok, foldlM_visit_eq_ok]
    constructor
    · rintro ⟨_, _, ⟨hclean, -⟩, -⟩
      exact hclean
    · exact fun hclean => ⟨_, _, ⟨hclean, rfl⟩, rfl⟩
  · rw [assemble_eq_foldlM, map_eq_error, foldlM_visit_eq_error]

end ServiceCli.CommandTree
