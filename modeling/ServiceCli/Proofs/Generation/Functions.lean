import ServiceCli.Proofs.Flag.Traversal
import ServiceCli.Proofs.Generation.Outcome
import ServiceCli.Proofs.Source.Functions
import ServiceCli.Response

/-!
The functions of the generated files. The commands of one service never share a function, but each
service is checked on its own: two services of a file can make the same function.
-/
namespace ServiceCli.Generation

open CommandTree (stemsOf)

theorem Trees.stems_nodup {layout : Layout} {ss : List Service} {trees : List (List Command)}
    (h : Trees layout ss trees) : ∀ cs ∈ trees, (stemsOf cs).Nodup := by
  induction h with
  | nil => simp
  | cons hcs _ ih =>
    obtain ⟨t, -, hassemble⟩ := bind_eq_ok.1 hcs
    exact List.forall_mem_cons.2 ⟨CommandTree.assemble_stems hassemble, ih⟩

theorem stemsOf_flatten (trees : List (List Command)) :
    stemsOf trees.flatten = (trees.map stemsOf).flatten := by
  induction trees with
  | nil => rfl
  | cons cs trees ih =>
    rw [List.flatten_cons, CommandTree.stemsOf_append, ih, List.map_cons, List.flatten_cons]

theorem Trees.nodup_flatten_iff {layout : Layout} {ss : List Service} {trees : List (List Command)}
    (h : Trees layout ss trees) : (stemsOf trees.flatten).Nodup ↔
      trees.Pairwise fun cs ds => (stemsOf cs).Disjoint (stemsOf ds) := by
  rw [stemsOf_flatten, List.nodup_flatten, List.pairwise_map]
  refine and_iff_right fun l hl => ?_
  obtain ⟨cs, hcs, rfl⟩ := List.mem_map.1 hl
  exact h.stems_nodup cs hcs

/-- How a generated file comes about: from the commands of each service of a file and the flags of
the request types of their methods. -/
structure Written (settings : Settings) (f : ServiceFile) (g : GeneratedFile)
    (trees : List (List Command)) (sets : NameMap FlagSchema) (is : List Source.Item) : Prop where
  commands : Trees settings.layout f.services trees
  flags : ∀ name, sets.contains name ↔ name ∈ (f.services.flatMap (·.methods)).map (·.inputType)
  items : Source.items ⟨f.name, trees.flatten, sets, settings.requestShort⟩ = .ok is
  file : g = ⟨Source.fileName f.name,
    Source.header f.name ++ String.join (is.map Source.Item.text)⟩

theorem generatedFile_eq_ok {p : FilePlan} {g : GeneratedFile} : generatedFile p = .ok g ↔
    ∃ is, Source.items p = .ok is ∧ g = ⟨Source.fileName p.source,
      Source.header p.source ++ String.join (is.map Source.Item.text)⟩ := by
  rw [generatedFile, Source.render]
  simp only [bind_eq_ok]
  constructor
  · rintro ⟨_, ⟨is, his, hrender⟩, h⟩
    cases hrender
    cases h
    exact ⟨is, his, rfl⟩
  · rintro ⟨is, his, rfl⟩
    exact ⟨_, ⟨is, his, rfl⟩, rfl⟩

theorem generate_eq_ok {c : Catalog} {settings : Settings} {r : Response} :
    (generate c settings).outcome = .ok r ↔
      ∃ results, (run Source.fileName generatedFile c settings).outcome = .ok results ∧
        r = { files := results } := by
  rw [generate, Logged.outcome_bind, bind_eq_ok]
  constructor
  · rintro ⟨results, hrun, h⟩
    cases h
    exact ⟨results, hrun, rfl⟩
  · rintro ⟨results, hrun, rfl⟩
    exact ⟨results, hrun, rfl⟩

/-- Every file with services is written, and nothing else is. -/
theorem generate_written {c : Catalog} {settings : Settings} {r : Response}
    (h : (generate c settings).outcome = .ok r) :
    List.Forall₂ (fun f g => ∃ trees sets is, Written settings f g trees sets is)
      (c.files.filter (!·.services.isEmpty)) r.files := by
  obtain ⟨results, hrun, rfl⟩ := generate_eq_ok.1 h
  obtain ⟨flattener, hfiles⟩ := run_eq_ok.1 hrun
  refine (files_ok hfiles).imp fun f g hwritten => ?_
  obtain ⟨trees, sets, htrees, ⟨before, after, hsets⟩, hg⟩ := hwritten
  obtain ⟨is, his, rfl⟩ := generatedFile_eq_ok.1 hg
  refine ⟨trees, sets, is, htrees, fun name => ?_, his, rfl⟩
  rw [gathered_sets hsets]
  simp [NameMap.contains, NameMap.get?_empty]

theorem assemble_error {service : String} {t : VerbTable} {layout : Layout}
    (h : ¬(stemsOf (CommandTree.commands service t layout)).Nodup) :
    ∀ cs, CommandTree.assemble service t layout ≠ .ok cs := by
  intro cs hcs
  have hstems := CommandTree.assemble_stems hcs
  rw [(CommandTree.assemble_eq_ok.1 hcs).1] at hstems
  exact h hstems

theorem generate_commandsOf {c : Catalog} {settings : Settings} {r : Response}
    (h : (generate c settings).outcome = .ok r) {f : ServiceFile} (hf : f ∈ c.files) {s : Service}
    (hs : s ∈ f.services) : ∃ cs, commandsOf settings.layout s = .ok cs := by
  have hwritten := generate_written h
  have hmem : f ∈ c.files.filter (!·.services.isEmpty) := by
    refine List.mem_filter.2 ⟨hf, ?_⟩
    simp [List.ne_nil_of_mem hs]
  obtain ⟨g, -, trees, sets, is, hg⟩ := exists_of_forall₂ hwritten hmem
  obtain ⟨cs, -, hcs⟩ := exists_of_forall₂ hg.commands hs
  exact ⟨cs, hcs⟩

/-- The functions of each generated file are one for each command of each service, the parsers that
flags need and one for each set of flags. They have different names exactly where the commands of
different services have different stems. Nothing is generated where those of one service do not. -/
theorem generate_functions (c : Catalog) (settings : Settings) :
    (∀ r, (generate c settings).outcome = .ok r →
      List.Forall₂ (fun f g => ∃ trees sets is, Written settings f g trees sets is ∧
          (is.map Source.Item.name).Perm ((stemsOf trees.flatten).map (· ++ "_command") ++
            (Source.parserNames sets ++ Source.flagsNames sets)) ∧
          ((is.map Source.Item.name).Nodup ↔
            trees.Pairwise fun cs ds => (stemsOf cs).Disjoint (stemsOf ds)))
        (c.files.filter (!·.services.isEmpty)) r.files) ∧
      ∀ f ∈ c.files, ∀ s ∈ f.services, ∀ t, s.methods.foldlM registered .empty = .ok t →
        ¬(stemsOf (CommandTree.commands s.name t settings.layout)).Nodup →
        ∃ stop, (generate c settings).outcome = .error stop := by
  constructor
  · intro r h
    refine (generate_written h).imp fun f g hwritten => ?_
    obtain ⟨trees, sets, is, hwritten⟩ := hwritten
    refine ⟨trees, sets, is, hwritten, (Source.items_names hwritten.items).1, ?_⟩
    exact (Source.items_nodup_iff hwritten.items).trans hwritten.commands.nodup_flatten_iff
  · intro f hf s hs t ht hstems
    cases hgenerate : (generate c settings).outcome with
    | error stop => exact ⟨stop, rfl⟩
    | ok r =>
      obtain ⟨cs, hcs⟩ := generate_commandsOf hgenerate hf hs
      obtain ⟨t', ht', hassemble⟩ := bind_eq_ok.1 hcs
      obtain rfl : t' = t := Except.ok.inj (ht'.symm.trans ht)
      exact absurd hassemble (assemble_error hstems cs)

def twin (name : String) : Service :=
  ⟨name, "acme." ++ name, [⟨"GetB", "acme." ++ name ++ ".GetB", "acme.Q", {}⟩]⟩

/-- Two services whose names differ by case only. -/
def twinFile : ServiceFile := ⟨"acme.proto", [twin "A", twin "a"]⟩

def twins : Catalog where
  files := [twinFile]
  messages.entries := [("acme.Q", ⟨"Q", "acme.Q", []⟩)]
  messages.ascending := by decide

def twinSets : NameMap FlagSchema := NameMap.empty.insert "acme.Q" ⟨"Q", "acme.Q", .empty⟩

def twinTree (name : String) : List Command := (commandsOf .verb (twin name)).toOption.getD []

theorem commandsOf_twin {name : String} {stems : List String}
    (h : (commandsOf .verb (twin name)).map stemsOf = .ok stems) :
    commandsOf .verb (twin name) = .ok (twinTree name) := by
  obtain ⟨cs, hcs, -⟩ := map_eq_ok.1 h
  rw [twinTree, hcs]
  rfl

theorem stems_twins : (commandsOf .verb (twin "A")).map stemsOf = .ok ["a_get", "a_get_b"] ∧
    (commandsOf .verb (twin "a")).map stemsOf = .ok ["a_get", "a_get_b"] := by
  decide +kernel

theorem trees_twins : Trees .verb twinFile.services [twinTree "A", twinTree "a"] :=
  .cons (commandsOf_twin stems_twins.1) (.cons (commandsOf_twin stems_twins.2) .nil)

theorem flatten_twins : (({} : Flattener).flatten twins "acme.Q").result =
    .ok ⟨"Q", "acme.Q", .empty⟩ :=
  Flattener.flatten_of_fieldless (m := ⟨"Q", "acme.Q", []⟩) rfl (by decide) rfl

theorem gathered_twins : gathered twins ⟨{}, .empty⟩ (twinFile.services.flatMap (·.methods)) =
    .ok ⟨(({} : Flattener).flatten twins "acme.Q").flattener, twinSets⟩ := by
  show gathered twins ⟨{}, .empty⟩ ((twin "A").methods ++ (twin "a").methods) = _
  rw [gathered, twin, twin, List.cons_append, List.nil_append, List.foldlM_cons, bind_eq_ok]
  refine ⟨_, gather_eq_ok.2 (.inr ⟨by decide, _, flatten_twins, by decide, rfl⟩), ?_⟩
  rw [List.foldlM_cons, bind_eq_ok]
  exact ⟨_, gather_eq_ok.2 (.inl ⟨by decide, rfl⟩), rfl⟩

def twinPlan : FilePlan where
  source := "acme.proto"
  commands := [twinTree "A", twinTree "a"].flatten
  flagsets := twinSets
  requestShort := some 'd'

theorem plan_twins : (plan twins {} twinFile {}).outcome =
    .ok (twinPlan, (({} : Flattener).flatten twins "acme.Q").flattener) :=
  plan_eq_ok.2 ⟨_, _, trees_twins, gathered_twins, rfl⟩

theorem items_twins : ∃ is, Source.items twinPlan = .ok is ∧ is.map Source.Item.name =
    ["a_get_b_command", "a_get_command", "a_get_b_command", "a_get_command", "q_flags"] := by
  have hnames : (Source.items twinPlan).map (fun is => is.map Source.Item.name) =
      .ok ["a_get_b_command", "a_get_command", "a_get_b_command", "a_get_command", "q_flags"] := by
    decide +kernel
  exact map_eq_ok.1 hnames

theorem generate_twins : ∃ (r : Response) (is : List Source.Item),
    (generate twins {}).outcome = .ok r ∧
    r.files = [⟨Source.fileName "acme.proto",
      Source.header "acme.proto" ++ String.join (is.map Source.Item.text)⟩] ∧
    is.map Source.Item.name =
      ["a_get_b_command", "a_get_command", "a_get_b_command", "a_get_command", "q_flags"] := by
  obtain ⟨is, his, hnames⟩ := items_twins
  have hfile := generatedFile_eq_ok.2 ⟨is, his, rfl⟩
  have hlast : (files twins {} Source.fileName generatedFile []
      (({} : Flattener).flatten twins "acme.Q").flattener).outcome = .ok ([], _) := rfl
  have hfiles := (files_cons_eq_ok (by decide)).2 ⟨_, _, _, _, plan_twins, hfile, hlast, rfl⟩
  exact ⟨_, is, generate_eq_ok.2 ⟨_, run_eq_ok.2 ⟨_, hfiles⟩, rfl⟩, rfl, hnames⟩

/-- A file is generated that defines two functions twice. -/
theorem generate_twins_not_distinct : ∃ (r : Response) (is : List Source.Item),
    (generate twins {}).outcome = .ok r ∧
    r.files = [⟨Source.fileName "acme.proto",
      Source.header "acme.proto" ++ String.join (is.map Source.Item.text)⟩] ∧
    ¬(is.map Source.Item.name).Nodup := by
  obtain ⟨r, is, hr, hfiles, hnames⟩ := generate_twins
  refine ⟨r, is, hr, hfiles, ?_⟩
  rw [hnames]
  decide

/-- A service whose methods name one resource in two ways. -/
def rival : Service where
  name := "A"
  fullName := "acme.A"
  methods := [⟨"GetB", "acme.A.GetB", "acme.Q", {}⟩,
    ⟨"Get", "acme.A.Get", "acme.Q", { resource := some "B", verb := some "get" }⟩]

def rivals : Catalog := { twins with files := [⟨"acme.proto", [rival]⟩] }

def rivalTable : VerbTable where
  resources := [⟨"b", [⟨"get", "acme.Q"⟩]⟩, ⟨"B", [⟨"get", "acme.Q"⟩]⟩]

theorem registered_rival : rival.methods.foldlM registered .empty = .ok rivalTable := by
  decide +kernel

/-- Two services can make functions of one name, but one service cannot. -/
theorem generate_twins_functions :
    (∃ r, (generate twins {}).outcome = .ok r ∧
      List.Forall₂ (fun f g => ∃ trees sets is, Written {} f g trees sets is ∧
          (is.map Source.Item.name).Perm ((stemsOf trees.flatten).map (· ++ "_command") ++
            (Source.parserNames sets ++ Source.flagsNames sets)) ∧
          ((is.map Source.Item.name).Nodup ↔
            trees.Pairwise fun cs ds => (stemsOf cs).Disjoint (stemsOf ds)))
        [twinFile] r.files) ∧
      ∃ stop, (generate rivals {}).outcome = .error stop := by
  obtain ⟨r, is, hr, -, -⟩ := generate_twins
  refine ⟨⟨r, hr, (generate_functions twins {}).1 r hr⟩, ?_⟩
  have hstems : ¬(stemsOf (CommandTree.commands rival.name rivalTable .verb)).Nodup := by
    decide +kernel
  exact (generate_functions rivals {}).2 _ List.mem_cons_self rival List.mem_cons_self rivalTable
    registered_rival hstems

end ServiceCli.Generation
