import ServiceCli.Proofs.Source.Functions
import ServiceCli.Proofs.Text.Spelling

/-!
Which names of functions a file can be written with. Names that are shared by sets of flags are a
failure, but a name that is no identifier ends the run at once.
-/
namespace ServiceCli.Source

open CommandTree (stems stemsOf stems_eq)
open Text (isIdentifier)

/-- What is written if all these names are identifiers, and ends the run if one is not. -/
def Guarded {α : Type} (names : List String) (x : Except Stop α) : Prop :=
  (∃ a, x = .ok a ∧ ∀ n ∈ names, isIdentifier n = true) ∨
    ∃ n ∈ names, isIdentifier n = false ∧ x = .error (.crash (.badIdentifier n))

section Guarded

variable {α β : Type} {names names' : List String} {x : Except Stop α} {f : α → Except Stop β}

theorem guarded_ok (a : α) : Guarded [] (.ok a) := .inl ⟨a, rfl, by simp⟩

theorem guarded_identifier (name : String) : Guarded [name] (identifier name) := by
  unfold identifier
  cases hname : isIdentifier name with
  | true => exact .inl ⟨name, rfl, by simpa using hname⟩
  | false => exact .inr ⟨name, by simp, hname, rfl⟩

theorem Guarded.bind (hx : Guarded names x) (hf : ∀ a, x = .ok a → Guarded names' (f a)) :
    Guarded (names ++ names') (x >>= f) := by
  rcases hx with ⟨a, rfl, hnames⟩ | ⟨n, hn, hbad, rfl⟩
  · rcases hf a rfl with ⟨b, hb, hnames'⟩ | ⟨n, hn, hbad, hstop⟩
    · refine .inl ⟨b, hb, fun n hn => ?_⟩
      exact (List.mem_append.1 hn).elim (hnames n) (hnames' n)
    · exact .inr ⟨n, List.mem_append_right _ hn, hbad, hstop⟩
  · exact .inr ⟨n, List.mem_append_left _ hn, hbad, rfl⟩

theorem Guarded.congr (hx : Guarded names x) (h : ∀ n, n ∈ names ↔ n ∈ names') :
    Guarded names' x := by
  rcases hx with ⟨a, hok, hnames⟩ | ⟨n, hn, hbad, hstop⟩
  · exact .inl ⟨a, hok, fun n hn => hnames n ((h n).2 hn)⟩
  · exact .inr ⟨n, (h n).1 hn, hbad, hstop⟩

theorem Guarded.crash_iff (hx : Guarded names x) :
    (∃ k, x = .error (.crash k)) ↔ ∃ n ∈ names, isIdentifier n = false := by
  rcases hx with ⟨a, rfl, hnames⟩ | ⟨n, hn, hbad, rfl⟩
  · refine ⟨by simp, ?_⟩
    rintro ⟨n, hn, hbad⟩
    rw [hnames n hn] at hbad
    cases hbad
  · exact ⟨fun _ => ⟨n, hn, hbad⟩, fun _ => ⟨_, rfl⟩⟩

theorem Guarded.of_crash (hx : Guarded names x) {k : Crash} (h : x = .error (.crash k)) :
    ∃ n ∈ names, isIdentifier n = false ∧ k = .badIdentifier n := by
  rcases hx with ⟨a, rfl, -⟩ | ⟨n, hn, hbad, rfl⟩
  · cases h
  · cases h
    exact ⟨n, hn, hbad, rfl⟩

theorem Guarded.of_ok (hx : Guarded names x) {a : α} (h : x = .ok a) :
    ∀ n ∈ names, isIdentifier n = true := by
  rcases hx with ⟨_, -, hnames⟩ | ⟨n, -, -, rfl⟩
  · exact hnames
  · cases h

end Guarded

mutual

/-- The request types of a command and of all commands below it. -/
def requests : Command → List String
  | ⟨_, _, children, requestType, _, _⟩ => requestsOf children ++ requestType.toList

def requestsOf : List Command → List String
  | [] => []
  | c :: cs => requests c ++ requestsOf cs

end

variable {functions : List (String × String)} {short : Option Char}

theorem commandFlags_guarded {c : Command}
    (h : ∀ t ∈ c.requestType, (functions.lookup t).isSome = true) :
    Guarded (c.requestType.toList.filterMap (functions.lookup ·)) (commandFlags functions c) := by
  unfold commandFlags
  cases hrequest : c.requestType with
  | none => exact guarded_ok none
  | some t =>
    obtain ⟨f, hf⟩ := Option.isSome_iff_exists.1 (h t hrequest)
    have hnames : [f] ++ [] = (some t).toList.filterMap (functions.lookup ·) := by simp [hf]
    simp only [hf]
    exact hnames ▸ (guarded_identifier f).bind fun f _ => guarded_ok (some f)

/-- The names that the functions of commands have and refer to. -/
def commandNames (functions : List (String × String)) (cs : List Command) : List String :=
  (stemsOf cs).map (· ++ "_command") ++ (requestsOf cs).filterMap (functions.lookup ·)

theorem mem_commandNames {cs : List Command} {n : String} : n ∈ commandNames functions cs ↔
    (∃ stem ∈ stemsOf cs, stem ++ "_command" = n) ∨
      ∃ t ∈ requestsOf cs, functions.lookup t = some n := by
  simp only [commandNames, List.mem_append, List.mem_map, List.mem_filterMap]

theorem mem_commandNames_cons {c : Command} {cs : List Command} {n : String} :
    n ∈ commandNames functions (c :: cs) ↔ n ∈ commandNames functions c.children ∨
      (n = commandFunction c ∨ n ∈ c.requestType.toList.filterMap (functions.lookup ·)) ∨
      n ∈ commandNames functions cs := by
  have hrequests : requests c = requestsOf c.children ++ c.requestType.toList := by
    cases c
    rfl
  simp only [mem_commandNames, stemsOf, stems_eq, requestsOf, hrequests, List.mem_append,
    List.mem_cons, or_and_right, exists_or, exists_eq_left, List.mem_filterMap, commandFunction]
  constructor <;> (intro h; grind)

mutual

theorem commandItems_guarded (short : Option Char) (c : Command)
    (h : ∀ t ∈ requests c, (functions.lookup t).isSome = true) :
    Guarded (commandNames functions [c]) (commandItems functions short c) := by
  match c with
  | ⟨name, alias?, children, requestType, hasRequest, runnable⟩ =>
    have hbelow := commandsItems_guarded short children fun t ht =>
      h t (List.mem_append_left _ ht)
    have hflags : Guarded (requestType.toList.filterMap (functions.lookup ·))
        (commandFlags functions ⟨name, alias?, children, requestType, hasRequest, runnable⟩) :=
      commandFlags_guarded fun t ht => h t (List.mem_append_right _ (by simpa using ht))
    rw [commandItems]
    refine (hbelow.bind fun below _ => (guarded_identifier _).bind fun _ _ =>
      hflags.bind fun flags _ => guarded_ok _).congr fun n => ?_
    have hnil : n ∉ commandNames functions [] := List.not_mem_nil
    simp only [mem_commandNames_cons, List.mem_append, List.mem_singleton, List.not_mem_nil, hnil,
      or_false]

theorem commandsItems_guarded (short : Option Char) (cs : List Command)
    (h : ∀ t ∈ requestsOf cs, (functions.lookup t).isSome = true) :
    Guarded (commandNames functions cs) (commandsItems functions short cs) := by
  match cs with
  | [] => exact guarded_ok []
  | c :: cs =>
    have hfirst := commandItems_guarded short c fun t ht => h t (List.mem_append_left _ ht)
    have hrest := commandsItems_guarded short cs fun t ht => h t (List.mem_append_right _ ht)
    rw [commandsItems]
    refine (hfirst.bind fun first _ => hrest.bind fun rest _ => guarded_ok _).congr fun n => ?_
    have hnil : n ∉ commandNames functions [] := List.not_mem_nil
    rw [List.append_nil, List.mem_append, mem_commandNames_cons, mem_commandNames_cons]
    simp only [hnil, or_false, or_assoc]

end

theorem flagsItems_guarded (sets : List (FlagSchema × String)) :
    Guarded (sets.map (·.2)) (flagsItems sets) := by
  induction sets with
  | nil => exact guarded_ok []
  | cons entry sets ih =>
    obtain ⟨s, function⟩ := entry
    have hnames : [function] ++ (sets.map (·.2) ++ []) = ((s, function) :: sets).map (·.2) := by
      simp
    rw [← hnames, flagsItems]
    exact (guarded_identifier function).bind fun _ _ => ih.bind fun _ _ => guarded_ok _

theorem checkDistinct_of_nodup {before rest : List (String × String)}
    (h : (rest.map (·.2)).Nodup) (hb : ∀ f ∈ rest.map (·.2), f ∉ before.map (·.2)) :
    checkDistinct before rest = .ok () := by
  induction rest generalizing before with
  | nil => rfl
  | cons entry rest ih =>
    obtain ⟨fullName, function⟩ := entry
    obtain ⟨hfirst, hrest⟩ := List.nodup_cons.1 h
    obtain ⟨hnew, hothers⟩ := List.forall_mem_cons.1 hb
    have hfind : before.find? (·.2 == function) = none := by
      refine List.find?_eq_none.2 fun other hother heq => hnew ?_
      exact List.mem_map.2 ⟨other, hother, by simpa using heq⟩
    rw [checkDistinct, hfind]
    refine ih hrest fun f hf hmem => ?_
    rcases List.mem_cons.1 hmem with rfl | hmem
    · exact hfirst hf
    · exact hothers f hf hmem

theorem flagsFunctions_of_nodup {sets : NameMap FlagSchema} (h : (flagsNames sets).Nodup) :
    flagsFunctions sets = .ok (flagsFunctionNames sets) := by
  rw [flagsFunctions, checkDistinct_of_nodup h (by simp)]
  rfl

theorem isSome_lookup_flags {sets : NameMap FlagSchema} {t : String}
    (h : sets.contains t = true) : ((flagsFunctionNames sets).lookup t).isSome = true := by
  obtain ⟨s, hs⟩ := NameMap.contains_iff.1 h
  rw [List.lookup_isSome_iff]
  refine ⟨_, List.mem_map_of_mem (NameMap.get?_eq_some_iff.1 hs), by simp⟩

theorem mem_flagsNames_of_lookup {sets : NameMap FlagSchema} {t n : String}
    (h : (flagsFunctionNames sets).lookup t = some n) : n ∈ flagsNames sets := by
  obtain ⟨before, after, heq, -⟩ := List.lookup_eq_some_iff.1 h
  exact List.mem_map.2 ⟨(t, n), by simp [heq], rfl⟩

/-- Another set of flags has the same short name. -/
def Shared (sets : NameMap FlagSchema) (fullName : String) (s : FlagSchema) : Prop :=
  ∃ other x, other ≠ fullName ∧ sets.get? other = some x ∧ shortStem x = shortStem s

theorem one_lt_length_iff_ne_singleton {α : Type} {l : List α} {a : α} (h : a ∈ l) :
    1 < l.length ↔ l ≠ [a] := by
  match l with
  | [] => cases h
  | [b] => simpa using (List.mem_singleton.1 h).symm
  | _ :: _ :: _ => simp

theorem one_lt_length_filter_iff {sets : NameMap FlagSchema} {fullName : String} {s : FlagSchema}
    (h : sets.get? fullName = some s) :
    1 < (sets.values.filter fun x => shortStem x = shortStem s).length ↔
      Shared sets fullName s := by
  have hentries : sets.entries.Nodup := by
    refine sets.ascending.imp ?_
    rintro e _ hlt rfl
    exact String.lt_irrefl e.1 hlt
  have hnodup := hentries.filter fun e => shortStem e.2 = shortStem s
  have hmem : (fullName, s) ∈ sets.entries.filter fun e => shortStem e.2 = shortStem s :=
    List.mem_filter.2 ⟨NameMap.get?_eq_some_iff.1 h, by simp⟩
  have hlength : (sets.values.filter fun x => shortStem x = shortStem s).length =
      (sets.entries.filter fun e => shortStem e.2 = shortStem s).length := by
    rw [NameMap.values, List.filter_map, List.length_map, Function.comp_def]
  rw [hlength, one_lt_length_iff_ne_singleton hmem, hnodup.ne_singleton_iff,
    or_iff_right (List.ne_nil_of_mem hmem)]
  constructor
  · rintro ⟨⟨other, x⟩, hx, hne⟩
    obtain ⟨hx, hstem⟩ := List.mem_filter.1 hx
    have hx := NameMap.get?_eq_some_iff.2 hx
    refine ⟨other, x, ?_, hx, by simpa using hstem⟩
    rintro rfl
    exact hne (by rw [Option.some.inj (hx.symm.trans h)])
  · rintro ⟨other, x, hne, hx, hstem⟩
    exact ⟨(other, x), List.mem_filter.2 ⟨NameMap.get?_eq_some_iff.1 hx, by simpa using hstem⟩,
      by simp [hne]⟩

theorem flagsStem_eq_iff {sets : NameMap FlagSchema} {fullName n : String} {s : FlagSchema}
    (h : sets.get? fullName = some s) : flagsStem sets.values fullName s ++ "_flags" = n ↔
      (¬Shared sets fullName s ∧ n = Text.snake s.name ++ "_flags") ∨
        (Shared sets fullName s ∧ n = Text.snake fullName ++ "_flags") := by
  by_cases hshared : Shared sets fullName s
  · rw [flagsStem, if_pos ((one_lt_length_filter_iff h).2 hshared)]
    simp [hshared, eq_comm]
  · rw [flagsStem, if_neg (mt (one_lt_length_filter_iff h).1 hshared)]
    simp [hshared, shortStem, eq_comm]

theorem mem_flagsNames {sets : NameMap FlagSchema} {n : String} :
    n ∈ flagsNames sets ↔ ∃ fullName s, sets.get? fullName = some s ∧
      ((¬Shared sets fullName s ∧ n = Text.snake s.name ++ "_flags") ∨
        (Shared sets fullName s ∧ n = Text.snake fullName ++ "_flags")) := by
  simp only [flagsNames, flagsFunctionNames, List.map_map, List.mem_map, Prod.exists,
    Function.comp_apply, ← NameMap.get?_eq_some_iff]
  exact exists₂_congr fun fullName s => and_congr_right flagsStem_eq_iff

/-- All functions that a file would define. -/
def functionNames (plan : FilePlan) : List String :=
  (stemsOf plan.commands).map (· ++ "_command") ++ flagsNames plan.flagsets

variable {plan : FilePlan}

/-- Where sets of flags do not share a function, names decide whether a file is written. -/
theorem items_guarded (hknown : ∀ t ∈ requestsOf plan.commands, plan.flagsets.contains t = true)
    (hnodup : (flagsNames plan.flagsets).Nodup) : Guarded (functionNames plan) (items plan) := by
  have hcommands := commandsItems_guarded plan.requestShort plan.commands fun t ht =>
    isSome_lookup_flags (hknown t ht)
  have hflags := flagsItems_guarded (plan.flagsets.values.zip (flagsNames plan.flagsets))
  rw [items, flagsFunctions_of_nodup hnodup]
  refine (hcommands.bind fun _ _ => hflags.bind fun _ _ => guarded_ok _).congr fun n => ?_
  rw [map_snd_zip_flagsNames, List.append_nil, List.mem_append, mem_commandNames, functionNames,
    List.mem_append, List.mem_map, or_assoc]
  -- Commands only refer to functions of flags, which are checked anyway.
  refine or_congr_right ⟨?_, .inr⟩
  rintro (⟨t, -, hlookup⟩ | hn)
  · exact mem_flagsNames_of_lookup hlookup
  · exact hn

/-- Sets of flags that share a function are found out before any name is written. -/
theorem nodup_of_items_crash {k : Crash} (h : items plan = .error (.crash k)) :
    (flagsNames plan.flagsets).Nodup := by
  rw [items] at h
  cases hfunctions : flagsFunctions plan.flagsets with
  | error e =>
    rw [hfunctions] at h
    cases h
  | ok functions =>
    obtain ⟨rfl, hnodup⟩ := flagsFunctions_ok hfunctions
    exact hnodup

theorem checkDistinct_error {before rest : List (String × String)} {e : SourceFault}
    (h : checkDistinct before rest = .error e) :
    ∃ first second function, e = .sharedFunction first second function := by
  induction rest generalizing before with
  | nil => cases h
  | cons entry rest ih =>
    obtain ⟨fullName, function⟩ := entry
    rw [checkDistinct] at h
    split at h
    · exact ⟨_, _, _, (Except.error.inj h).symm⟩
    · exact ih h

/-- A file whose commands all have flags is only kept from being written by the names of functions,
which may be no identifiers or shared by sets of flags. -/
theorem items_stop {stop : Stop}
    (hknown : ∀ t ∈ requestsOf plan.commands, plan.flagsets.contains t = true)
    (h : items plan = .error stop) : (∃ n, stop = .crash (.badIdentifier n)) ∨
      ∃ first second function,
        stop = .failure (.codeGeneration (.sharedFunction first second function)) := by
  cases hfunctions : flagsFunctions plan.flagsets with
  | error e =>
    rw [items, hfunctions] at h
    cases h
    obtain hcheck | ⟨_, -, hpure⟩ := bind_eq_error.1 hfunctions
    · obtain ⟨first, second, function, rfl⟩ := checkDistinct_error hcheck
      exact .inr ⟨first, second, function, rfl⟩
    · cases hpure
  | ok functions =>
    obtain ⟨rfl, hnodup⟩ := flagsFunctions_ok hfunctions
    rcases items_guarded hknown hnodup with ⟨is, his, -⟩ | ⟨n, -, -, hcrash⟩
    · rw [his] at h
      cases h
    · rw [hcrash] at h
      exact .inl ⟨n, (Except.error.inj h).symm⟩

end ServiceCli.Source
