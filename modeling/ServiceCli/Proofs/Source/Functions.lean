import ServiceCli.Proofs.Command.Uniqueness
import ServiceCli.Source.File

/-!
The functions of a generated file: one for each command, the parsers that flags need, and one for
each set of flags. Only functions of commands can have the name of another function of the file.
-/
namespace ServiceCli.Source

open CommandTree (stems stemsOf stems_eq)

theorem commandItems_ok {functions : List (String × String)} {short : Option Char} {c : Command}
    {is : List Item} (h : commandItems functions short c = .ok is) :
    ∃ below flags, commandsItems functions short c.children = .ok below ∧
      is = below ++ [.function (commandItem short c flags)] := by
  obtain ⟨name, alias?, children, requestType, hasRequest, runnable⟩ := c
  rw [commandItems] at h
  obtain ⟨below, hbelow, h⟩ := bind_eq_ok.1 h
  obtain ⟨_, -, h⟩ := bind_eq_ok.1 h
  obtain ⟨flags, -, h⟩ := bind_eq_ok.1 h
  cases h
  exact ⟨below, flags, hbelow, rfl⟩

mutual

theorem commandItems_names {functions : List (String × String)} {short : Option Char} {c : Command}
    {is : List Item} (h : commandItems functions short c = .ok is) :
    (is.map Item.name).Perm ((stems c).map (· ++ "_command")) := by
  obtain ⟨below, flags, hbelow, rfl⟩ := commandItems_ok h
  match c with
  | ⟨name, alias?, children, requestType, hasRequest, runnable⟩ =>
    have hchildren := commandsItems_names hbelow
    rw [List.map_append, stems_eq, List.map_cons]
    exact (hchildren.append_right _).trans List.perm_append_comm

/-- Commands have one function each, whatever their depth. -/
theorem commandsItems_names {functions : List (String × String)} {short : Option Char}
    {cs : List Command} {is : List Item} (h : commandsItems functions short cs = .ok is) :
    (is.map Item.name).Perm ((stemsOf cs).map (· ++ "_command")) := by
  match cs with
  | [] =>
    cases h
    exact List.Perm.refl _
  | c :: cs =>
    rw [commandsItems] at h
    obtain ⟨first, hfirst, h⟩ := bind_eq_ok.1 h
    obtain ⟨rest, hrest, h⟩ := bind_eq_ok.1 h
    cases h
    rw [List.map_append, stemsOf, List.map_append]
    exact (commandItems_names hfirst).append (commandsItems_names hrest)

end

theorem checkDistinct_ok {before rest : List (String × String)}
    (h : checkDistinct before rest = .ok ()) :
    (rest.map (·.2)).Nodup ∧ ∀ f ∈ rest.map (·.2), f ∉ before.map (·.2) := by
  induction rest generalizing before with
  | nil => simp
  | cons entry rest ih =>
    obtain ⟨fullName, function⟩ := entry
    rw [checkDistinct] at h
    cases hfind : before.find? (·.2 == function) with
    | some other =>
      rw [hfind] at h
      cases h
    | none =>
      rw [hfind] at h
      obtain ⟨hnodup, hnew⟩ := ih h
      have hfirst : function ∉ before.map (·.2) := by
        rintro hmem
        obtain ⟨other, hother, heq⟩ := List.mem_map.1 hmem
        simpa [heq] using List.find?_eq_none.1 hfind other hother
      constructor
      · rw [List.map_cons, List.nodup_cons]
        exact ⟨fun hmem => hnew function hmem (by simp), hnodup⟩
      · intro f hf
        obtain rfl | hf := List.mem_cons.1 hf
        · exact hfirst
        · exact fun hmem => hnew f hf (List.mem_cons_of_mem _ hmem)

theorem flagsItems_names {sets : List (FlagSchema × String)} {is : List Item}
    (h : flagsItems sets = .ok is) : is.map Item.name = sets.map (·.2) := by
  induction sets generalizing is with
  | nil =>
    cases h
    rfl
  | cons entry sets ih =>
    obtain ⟨s, function⟩ := entry
    rw [flagsItems] at h
    obtain ⟨f, hf, h⟩ := bind_eq_ok.1 h
    obtain ⟨rest, hrest, h⟩ := bind_eq_ok.1 h
    cases h
    have hname : f = function := by
      rw [identifier] at hf
      split at hf <;> cases hf
      rfl
    rw [List.map_cons, ih hrest, List.map_cons, hname]
    rfl

/-- The names of the parsers that sets of flags need. -/
def parserNames (sets : NameMap FlagSchema) : List String :=
  (if usesKind sets .stringMap then [keyValueParserName] else []) ++
    if usesKind sets .bytes then [base64ParserName] else []

/-- The names of the functions of sets of flags. -/
def flagsNames (sets : NameMap FlagSchema) : List String := (flagsFunctionNames sets).map (·.2)

theorem map_snd_zip_flagsNames (sets : NameMap FlagSchema) :
    (sets.values.zip (flagsNames sets)).map (·.2) = flagsNames sets :=
  List.map_snd_zip (Nat.le_of_eq (by simp [flagsNames, flagsFunctionNames, NameMap.values]))

theorem flagsFunctions_ok {sets : NameMap FlagSchema} {functions : List (String × String)}
    (h : flagsFunctions sets = .ok functions) :
    functions = flagsFunctionNames sets ∧ (functions.map (·.2)).Nodup := by
  obtain ⟨⟨⟩, hcheck, h⟩ := bind_eq_ok.1 h
  cases h
  exact ⟨rfl, (checkDistinct_ok hcheck).1⟩

/-- A file has the functions of its commands, the parsers that its flags need and the functions of
its sets of flags, and the last are all different. -/
theorem items_names {plan : FilePlan} {is : List Item} (h : items plan = .ok is) :
    (is.map Item.name).Perm ((stemsOf plan.commands).map (· ++ "_command") ++
      (parserNames plan.flagsets ++ flagsNames plan.flagsets)) ∧
      (flagsNames plan.flagsets).Nodup := by
  rw [items] at h
  cases hfunctions : flagsFunctions plan.flagsets with
  | error e =>
    rw [hfunctions] at h
    cases h
  | ok functions =>
    obtain ⟨rfl, hnodup⟩ := flagsFunctions_ok hfunctions
    rw [hfunctions] at h
    obtain ⟨commands, hcommands, h⟩ := bind_eq_ok.1 h
    obtain ⟨flags, hflags, h⟩ := bind_eq_ok.1 h
    cases h
    have hsets : flags.map Item.name = flagsNames plan.flagsets := by
      rw [flagsItems_names hflags]
      exact map_snd_zip_flagsNames plan.flagsets
    have hparsers : ((if usesKind plan.flagsets .stringMap then [Item.keyValueParser] else []) ++
        if usesKind plan.flagsets .bytes then [Item.base64Parser] else []).map Item.name =
        parserNames plan.flagsets := by
      rw [List.map_append, parserNames]
      split <;> split <;> rfl
    refine ⟨?_, hnodup⟩
    rw [List.append_assoc, List.append_assoc, List.map_append, ← List.append_assoc _ _ flags,
      List.map_append, hparsers, hsets]
    exact (commandsItems_names hcommands).append_right _

/-- The last character of a name tells whose function it is. -/
def lastChar (name : String) : Option Char := name.toList.getLast?

theorem lastChar_append (stem : String) {suffix : String} (h : suffix.toList ≠ []) :
    lastChar (stem ++ suffix) = lastChar suffix := by
  rw [lastChar, String.toList_append, List.getLast?_append_of_ne_nil _ h]
  rfl

theorem lastChar_commandName {stems : List String} {name : String}
    (h : name ∈ stems.map (· ++ "_command")) : lastChar name = some 'd' := by
  obtain ⟨stem, -, rfl⟩ := List.mem_map.1 h
  rw [lastChar_append stem (by decide)]
  decide

theorem lastChar_flagsName {sets : NameMap FlagSchema} {name : String}
    (h : name ∈ flagsNames sets) : lastChar name = some 's' := by
  simp only [flagsNames, flagsFunctionNames, List.map_map, List.mem_map, Function.comp_apply] at h
  obtain ⟨entry, -, rfl⟩ := h
  rw [lastChar_append _ (by decide)]
  decide

theorem eq_of_mem_parserNames {sets : NameMap FlagSchema} {name : String}
    (h : name ∈ parserNames sets) : name = keyValueParserName ∨ name = base64ParserName := by
  rw [parserNames, List.mem_append] at h
  obtain h | h := h <;> split at h <;> simp_all

theorem lastChar_parserName {sets : NameMap FlagSchema} {name : String}
    (h : name ∈ parserNames sets) : lastChar name = some 'e' ∨ lastChar name = some '4' := by
  obtain rfl | rfl := eq_of_mem_parserNames h <;> decide

theorem parserNames_nodup (sets : NameMap FlagSchema) : (parserNames sets).Nodup := by
  rw [parserNames]
  split <;> split <;> decide

/-- The functions of a file have different names exactly when its commands have different stems. -/
theorem items_nodup_iff {plan : FilePlan} {is : List Item} (h : items plan = .ok is) :
    (is.map Item.name).Nodup ↔ (stemsOf plan.commands).Nodup := by
  obtain ⟨hperm, hflags⟩ := items_names h
  have hfixed : (parserNames plan.flagsets ++ flagsNames plan.flagsets).Nodup := by
    refine List.nodup_append.2 ⟨parserNames_nodup plan.flagsets, hflags, ?_⟩
    rintro name hparser _ hflag rfl
    have hlast := lastChar_parserName hparser
    rw [lastChar_flagsName hflag] at hlast
    simp at hlast
  have hapart : ∀ name ∈ (stemsOf plan.commands).map (· ++ "_command"),
      ∀ other ∈ parserNames plan.flagsets ++ flagsNames plan.flagsets, name ≠ other := by
    rintro name hcommand _ hother rfl
    have hlast := lastChar_commandName hcommand
    obtain hparser | hflag := List.mem_append.1 hother
    · have hlast' := lastChar_parserName hparser
      rw [hlast] at hlast'
      simp at hlast'
    · rw [lastChar_flagsName hflag] at hlast
      simp at hlast
  rw [hperm.nodup_iff, List.nodup_append]
  constructor
  · exact fun hall => hall.1.of_map _
  · exact fun hstems => ⟨hstems.map fun _ _ => (String.append_left_inj _).1, hfixed, hapart⟩

end ServiceCli.Source
