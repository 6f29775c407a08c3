import Mathlib.Data.List.Nodup
import ServiceCli.CommandTree

/-!
The stems of the functions of commands. In a tree that is accepted they all differ, whatever the
depth of the commands.
-/
namespace ServiceCli.CommandTree

mutual

/-- The stems of a command and of all commands below it, from the top. -/
def stems : Command → List String
  | ⟨name, _, children, _, _, _⟩ => Text.snake name :: stemsOf children

def stemsOf : List Command → List String
  | [] => []
  | c :: cs => stems c ++ stemsOf cs

end

theorem stems_eq (c : Command) : stems c = c.stem :: stemsOf c.children := by
  cases c
  rfl

theorem stemsOf_append (cs ds : List Command) : stemsOf (cs ++ ds) = stemsOf cs ++ stemsOf ds := by
  induction cs with
  | nil => rfl
  | cons c cs ih => rw [List.cons_append, stemsOf, stemsOf, ih, List.append_assoc]

theorem map_stem_sublist (cs : List Command) : (cs.map Command.stem).Sublist (stemsOf cs) := by
  induction cs with
  | nil => exact List.Sublist.refl _
  | cons c cs ih =>
    rw [List.map_cons, stemsOf, stems_eq, List.cons_append]
    exact (ih.trans (List.sublist_append_right _ _)).cons_cons _

theorem stemsOf_children_sublist {cs : List Command} {c : Command} (hc : c ∈ cs) :
    (stemsOf c.children).Sublist (stemsOf cs) := by
  induction cs with
  | nil => simp at hc
  | cons d cs ih =>
    rw [stemsOf, stems_eq]
    obtain rfl | hc := List.mem_cons.1 hc
    · exact (List.sublist_append_left _ _).cons _
    · exact (ih hc).trans (List.sublist_append_right _ _)

theorem checkCommand_ok {before invoked : List String} {c : Command}
    {after : List String × List String} (h : checkCommand before invoked c = .ok after) :
    c.stem ∉ before ∧ addInvocations invoked c.name c.invocations = .ok after.2 ∧
      checkCommands (c.stem :: before) [] c.children = .ok after.1 := by
  obtain ⟨name, alias?, children, requestType, hasRequest, runnable⟩ := c
  rw [checkCommand] at h
  split at h
  · obtain ⟨_, hthrow, -⟩ := bind_eq_ok.1 h
    cases hthrow
  · rename_i hstem
    obtain ⟨invoked', hinvoked, h⟩ := bind_eq_ok.1 h
    obtain ⟨out, hchildren, h⟩ := bind_eq_ok.1 h
    cases h
    exact ⟨hstem, hinvoked, hchildren⟩

mutual

theorem checkCommand_stems {before invoked : List String} {c : Command}
    {after : List String × List String} (h : checkCommand before invoked c = .ok after)
    (hb : before.Nodup) : after.1.Nodup ∧ after.1 = (stems c).reverse ++ before := by
  match c with
  | ⟨name, alias?, children, requestType, hasRequest, runnable⟩ =>
    obtain ⟨hstem, -, hchildren⟩ := checkCommand_ok h
    obtain ⟨hnodup, heq⟩ := checkCommands_stems hchildren (hb.cons hstem)
    refine ⟨hnodup, ?_⟩
    rw [heq, stems_eq, List.reverse_cons, List.append_assoc]
    rfl

/-- The stems of accepted commands are new and differ from one another. -/
theorem checkCommands_stems {before invoked : List String} {cs : List Command} {after : List String}
    (h : checkCommands before invoked cs = .ok after) (hb : before.Nodup) :
    after.Nodup ∧ after = (stemsOf cs).reverse ++ before := by
  match cs with
  | [] =>
    cases h
    exact ⟨hb, rfl⟩
  | c :: cs =>
    rw [checkCommands, bind_eq_ok] at h
    obtain ⟨middle, hc, hcs⟩ := h
    obtain ⟨hmiddle, heq⟩ := checkCommand_stems hc hb
    obtain ⟨hnodup, hafter⟩ := checkCommands_stems hcs hmiddle
    refine ⟨hnodup, ?_⟩
    rw [hafter, heq, stemsOf, List.reverse_append, List.append_assoc]

end

theorem addInvocations_error {invoked names : List String} {command : String} {e : Failure}
    (h : addInvocations invoked command names = .error e) : e = .duplicateCommand command := by
  induction names generalizing invoked with
  | nil => cases h
  | cons name names ih =>
    rw [addInvocations] at h
    split at h
    · exact (Except.error.inj h).symm
    · exact ih h

mutual

theorem checkCommand_error {before invoked : List String} {c : Command} {e : Failure}
    (h : checkCommand before invoked c = .error e) : ∃ name, e = .duplicateCommand name := by
  match c with
  | ⟨name, alias?, children, requestType, hasRequest, runnable⟩ =>
    rw [checkCommand] at h
    split at h
    · obtain h | ⟨_, h, -⟩ := bind_eq_error.1 h
      · exact ⟨name, (Except.error.inj h).symm⟩
      · cases h
    · obtain h | ⟨_, -, h⟩ := bind_eq_error.1 h
      · exact ⟨name, addInvocations_error h⟩
      · obtain h | ⟨_, -, h⟩ := bind_eq_error.1 h
        · exact checkCommands_error h
        · cases h

/-- Commands are only rejected as duplicates. -/
theorem checkCommands_error {before invoked : List String} {cs : List Command} {e : Failure}
    (h : checkCommands before invoked cs = .error e) : ∃ name, e = .duplicateCommand name := by
  match cs with
  | [] => cases h
  | c :: cs =>
    rw [checkCommands] at h
    obtain h | ⟨_, -, h⟩ := bind_eq_error.1 h
    · exact checkCommand_error h
    · exact checkCommands_error h

end

theorem assemble_eq_error {service : String} {t : VerbTable} {layout : Layout} {e : Failure}
    (h : assemble service t layout = .error e) : ∃ name, e = .duplicateCommand name := by
  rw [assemble] at h
  obtain h | ⟨_, -, h⟩ := bind_eq_error.1 h
  · exact checkCommands_error h
  · cases h

theorem assemble_eq_ok {service : String} {t : VerbTable} {layout : Layout} {cs : List Command} :
    assemble service t layout = .ok cs ↔
      cs = commands service t layout ∧ ∃ after, checkCommands [] [] cs = .ok after := by
  rw [assemble, bind_eq_ok]
  constructor
  · rintro ⟨after, hcheck, h⟩
    cases h
    exact ⟨rfl, after, hcheck⟩
  · rintro ⟨rfl, after, hcheck⟩
    exact ⟨after, hcheck, rfl⟩

/-- No two commands of a service have functions of one name. -/
theorem assemble_stems {service : String} {t : VerbTable} {layout : Layout} {cs : List Command}
    (h : assemble service t layout = .ok cs) : (stemsOf cs).Nodup := by
  obtain ⟨-, after, hcheck⟩ := assemble_eq_ok.1 h
  obtain ⟨hnodup, rfl⟩ := checkCommands_stems hcheck List.nodup_nil
  simpa using hnodup

end ServiceCli.CommandTree
