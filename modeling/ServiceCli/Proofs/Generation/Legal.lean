import ServiceCli.Proofs.Generation.Naming

/-!
Runs on schemas with legal names. Such a name may have a digit for its first letter or digit, as `_1`
has, and then crash the run; and overrides may be any text. With letters first and overrides in ASCII
no run crashes.
-/
namespace ServiceCli

open Text (Ascii LeadsWithLetter isIdentifier spellable)

namespace Text

/-- Whether a name is a letter or an underscore, and then letters, digits and underscores. -/
def isLegal (name : String) : Bool :=
  match name.toList with
  | [] => false
  | c :: cs => (c.isAlpha || c == '_') && cs.all fun d => d.isAlphanum || d == '_'

/-- Whether a name is legal names with dots between them. -/
def isLegalPath (name : String) : Bool :=
  (pieces (· == '.') name.toList).all fun piece => isLegal (String.ofList piece)

theorem ascii_of_isLegal {name : String} (h : isLegal name = true) : Ascii name.toList := by
  unfold isLegal at h
  split at h
  · cases h
  · rename_i c cs hname
    rw [hname]
    have hall : ∀ d ∈ c :: cs, d.isAlphanum = true ∨ d = '_' := by
      simp only [Bool.and_eq_true, Bool.or_eq_true, List.all_eq_true, beq_iff_eq] at h
      refine List.forall_mem_cons.2 ⟨h.1.imp_left fun hc => ?_, h.2⟩
      simp [Char.isAlphanum, hc]
    intro d hd
    rcases hall d hd with hd | rfl
    · exact lt_of_isAlphanum hd
    · decide

theorem ascii_of_isLegalPath {name : String} (h : isLegalPath name = true) :
    Ascii name.toList := by
  intro c hc
  by_cases hdot : c = '.'
  · subst hdot
    decide
  · have hmem : c ∈ (pieces (· == '.') name.toList).flatten := by
      rw [flatten_pieces]
      exact List.mem_filter.2 ⟨hc, by simpa using hdot⟩
    obtain ⟨piece, hpiece, hc⟩ := List.mem_flatten.1 hmem
    have hlegal := ascii_of_isLegal (List.all_eq_true.1 h piece hpiece)
    rw [String.toList_ofList] at hlegal
    exact hlegal c hc

end Text

open Text (isLegal isLegalPath)

namespace Catalog

/-- All names of services, methods and message types are legal. -/
structure Legal (c : Catalog) : Prop where
  services : ∀ f ∈ c.files, ∀ s ∈ f.services, isLegal s.name ∧ isLegalPath s.fullName
  methods : ∀ f ∈ c.files, ∀ s ∈ f.services, ∀ m ∈ s.methods,
    isLegal m.name ∧ isLegalPath m.fullName ∧ isLegalPath m.inputType
  messages : ∀ e ∈ c.messages.entries,
    isLegal e.2.name ∧ isLegalPath e.2.fullName ∧ e.1 = e.2.fullName

/-- Services and request types have a letter for their first letter or digit, and overrides are in
ASCII. -/
structure Lettered (c : Catalog) : Prop where
  services : ∀ f ∈ c.files, ∀ s ∈ f.services, LeadsWithLetter s.name
  overrides : ∀ f ∈ c.files, ∀ s ∈ f.services, ∀ m ∈ s.methods,
    (∀ r ∈ m.overrides.resource, Ascii r.toList) ∧ ∀ v ∈ m.overrides.verb, Ascii v.toList
  requests : ∀ f ∈ c.files, ∀ s ∈ f.services, ∀ m ∈ s.methods, LeadsWithLetter m.inputType ∧
    ∀ type ∈ c.message? m.inputType, LeadsWithLetter type.name

end Catalog

namespace Generation

variable {c : Catalog} {settings : Settings} {layout : Layout} {f : ServiceFile}
  {n name : String}

theorem ascii_of_entry? {m : Method} {e : CommandTree.Entry} (hname : Ascii m.name.toList)
    (hresource : ∀ r ∈ m.overrides.resource, Ascii r.toList)
    (hverb : ∀ v ∈ m.overrides.verb, Ascii v.toList) (h : m.entry? = some e) :
    Ascii (e.groupKey layout).toList ∧ Ascii (e.leafKey layout).toList := by
  obtain ⟨hresolves, -⟩ := Method.entry?_eq_some.1 h
  obtain ⟨hr, hv⟩ := ResourceVerb.ascii_resolve hname hresource hverb hresolves
  cases layout with
  | verb => exact ⟨hv, hr⟩
  | resource => exact ⟨hr, hv⟩

theorem spellable_pascalCase {first : String} {rest : List String} (hfirst : Ascii first.toList)
    (hletter : LeadsWithLetter first) (hrest : ∀ part ∈ rest, Ascii part.toList) :
    spellable (CommandTree.pascalCase (first :: rest)) = true :=
  Text.spellable_of_leadsWithLetter
    (CommandTree.ascii_pascalCase (List.forall_mem_cons.2 ⟨hfirst, hrest⟩))
    (CommandTree.leads_pascalCase rest hfirst hletter)

/-- With letters first, legal names make identifiers. -/
theorem NamedAfter.spellable (hc : c.Legal) (hletters : c.Lettered) (hf : f ∈ c.files)
    (h : NamedAfter c layout f n name) : Text.spellable name = true := by
  have hservice : ∀ s ∈ f.services, Ascii s.name.toList ∧ LeadsWithLetter s.name := fun s hs =>
    ⟨Text.ascii_of_isLegal (hc.services f hf s hs).1, hletters.services f hf s hs⟩
  have hkeys : ∀ s ∈ f.services, ∀ m ∈ s.methods, ∀ e, m.entry? = some e →
      Ascii (e.groupKey layout).toList ∧ Ascii (e.leafKey layout).toList := fun s hs m hm e he =>
    ascii_of_entry? (Text.ascii_of_isLegal (hc.methods f hf s hs m hm).1)
      (hletters.overrides f hf s hs m hm).1 (hletters.overrides f hf s hs m hm).2 he
  cases h with
  | group hs hm he =>
    obtain ⟨hascii, hletter⟩ := hservice _ hs
    exact spellable_pascalCase hascii hletter (by simpa using (hkeys _ hs _ hm _ he).1)
  | leaf hs hm he =>
    obtain ⟨hascii, hletter⟩ := hservice _ hs
    exact spellable_pascalCase hascii hletter (by simpa using hkeys _ hs _ hm _ he)
  | @flags s m type hs hm htype =>
    have hentry := hc.messages _ (NameMap.get?_eq_some_iff.1 htype)
    exact Text.spellable_of_leadsWithLetter (Text.ascii_of_isLegal hentry.1)
      ((hletters.requests f hf s hs m hm).2 type htype)
  | @fullFlags s m type hs hm =>
    exact Text.spellable_of_leadsWithLetter
      (Text.ascii_of_isLegalPath (hc.methods f hf s hs m hm).2.2)
      (hletters.requests f hf s hs m hm).1

/-- A run crashes exactly where some file is reached with something in it that makes no identifier,
and its sets of flags do not share functions, which is a failure. Whatever is written has identifiers
for the names of its functions. -/
theorem generate_crashes (c : Catalog) (settings : Settings) :
    ((∃ k, (generate c settings).outcome = .error (.crash k)) ↔
      ∃ f p, Reached c settings f p ∧ (Source.flagsNames p.flagsets).Nodup ∧
        ∃ function name, NamedAfter c settings.layout f function name ∧
          Text.spellable name = false) ∧
    (∀ k, (generate c settings).outcome = .error (.crash k) →
      ∃ f p function name, Reached c settings f p ∧
        NamedAfter c settings.layout f function name ∧ isIdentifier function = false ∧
        k = .badIdentifier function) ∧
    (∀ r, (generate c settings).outcome = .ok r →
      List.Forall₂ (fun f g => ∃ trees sets is, Written settings f g trees sets is ∧
        ∀ i ∈ is, isIdentifier i.name = true) (c.files.filter (!·.services.isEmpty)) r.files) ∧
    (c.Legal → c.Lettered → ∀ k, (generate c settings).outcome ≠ .error (.crash k)) := by
  have hcrash : (∃ k, (generate c settings).outcome = .error (.crash k)) ↔
      ∃ f p, Reached c settings f p ∧ (Source.flagsNames p.flagsets).Nodup ∧
        ∃ function name, NamedAfter c settings.layout f function name ∧
          Text.spellable name = false := by
    simp only [generate_eq_crash]
    constructor
    · rintro ⟨k, f, p, hp, hk⟩
      exact ⟨f, p, hp, hp.crash_iff.1 ⟨k, hk⟩⟩
    · rintro ⟨f, p, hp, hnames⟩
      obtain ⟨k, hk⟩ := hp.crash_iff.2 hnames
      exact ⟨k, f, p, hp, hk⟩
  refine ⟨hcrash, fun k hk => ?_, fun r hr => ?_, fun hlegal hletters k hk => ?_⟩
  · obtain ⟨f, p, hp, hfile⟩ := generate_eq_crash.1 hk
    obtain ⟨function, name, hname, hbad, hk⟩ := hp.of_crash hfile
    exact ⟨f, p, function, name, hp, hname, hname.isIdentifier_eq.trans hbad, hk⟩
  · refine (generate_written hr).imp fun f g hwritten => ?_
    obtain ⟨trees, sets, is, hwritten⟩ := hwritten
    exact ⟨trees, sets, is, hwritten, hwritten.identifiers⟩
  · obtain ⟨f, p, hp, -, function, name, hname, hbad⟩ := hcrash.1 ⟨k, hk⟩
    rw [hname.spellable hlegal hletters hp.mem_files] at hbad
    cases hbad

/-- A catalog whose service has a legal name without a letter. -/
def numbered : Catalog := { twins with files := [⟨"acme.proto", [twin "_1"]⟩] }

theorem numbered_legal : numbered.Legal := ⟨by decide, by decide, by decide⟩

theorem twins_legal : twins.Legal := ⟨by decide, by decide, by decide⟩

theorem twins_lettered : twins.Lettered := ⟨by decide, by decide, by decide⟩

def numberedPlan : FilePlan where
  source := "acme.proto"
  commands := [twinTree "_1"].flatten
  flagsets := twinSets
  requestShort := some 'd'

theorem flatten_numbered : (({} : Flattener).flatten numbered "acme.Q").result =
    .ok ⟨"Q", "acme.Q", .empty⟩ :=
  Flattener.flatten_of_fieldless (m := ⟨"Q", "acme.Q", []⟩) rfl (by decide) rfl

theorem gathered_numbered : gathered numbered ⟨{}, .empty⟩ (twin "_1").methods =
    .ok ⟨(({} : Flattener).flatten numbered "acme.Q").flattener, twinSets⟩ := by
  rw [gathered, twin, List.foldlM_cons, bind_eq_ok]
  exact ⟨_, gather_eq_ok.2 (.inr ⟨by decide, _, flatten_numbered, by decide, rfl⟩), rfl⟩

theorem plan_numbered : (plan numbered {} ⟨"acme.proto", [twin "_1"]⟩ {}).outcome =
    .ok (numberedPlan, (({} : Flattener).flatten numbered "acme.Q").flattener) := by
  have hstems : (commandsOf .verb (twin "_1")).map CommandTree.stemsOf = .ok ["1get", "1get_b"] := by
    decide +kernel
  have htrees : Trees .verb [twin "_1"] [twinTree "_1"] := .cons (commandsOf_twin hstems) .nil
  exact plan_eq_ok.2 ⟨_, _, htrees, gathered_numbered, rfl⟩

theorem numbered_reached : Reached numbered {} ⟨"acme.proto", [twin "_1"]⟩ numberedPlan :=
  ⟨by decide, [], [], [], {}, _, rfl, rfl, plan_numbered⟩

theorem generate_numbered : (generate numbered {}).outcome =
    .error (.crash (.badIdentifier "1get_b_command")) := by
  have hitems : Source.items numberedPlan = .error (.crash (.badIdentifier "1get_b_command")) := rfl
  exact generate_eq_crash.2 ⟨_, _, numbered_reached, generatedFile_eq_error.2 hitems⟩

/-- All names are legal, and yet the run crashes. -/
theorem generate_numbered_crashes : numbered.Legal ∧
    (generate numbered {}).outcome = .error (.crash (.badIdentifier "1get_b_command")) :=
  ⟨numbered_legal, generate_numbered⟩

/-- One service crashes the run by a function that is no identifier. Two services with letters first
do not. -/
theorem generate_crashes_numbered :
    (∃ f p function name, Reached numbered {} f p ∧ NamedAfter numbered .verb f function name ∧
      isIdentifier function = false ∧ function = "1get_b_command") ∧
    (∃ r, (generate twins {}).outcome = .ok r ∧
      List.Forall₂ (fun f g => ∃ trees sets is, Written {} f g trees sets is ∧
        ∀ i ∈ is, isIdentifier i.name = true) [twinFile] r.files) ∧
    (twins.Legal ∧ twins.Lettered ∧ ∀ k, (generate twins {}).outcome ≠ .error (.crash k)) := by
  obtain ⟨-, hcrash, -⟩ := generate_crashes numbered {}
  obtain ⟨-, -, hwritten, hsafe⟩ := generate_crashes twins {}
  obtain ⟨f, p, function, name, hp, hname, hbad, hk⟩ := hcrash _ generate_numbered
  obtain ⟨r, -, hr, -, -⟩ := generate_twins
  exact ⟨⟨f, p, function, name, hp, hname, hbad, (Crash.badIdentifier.inj hk).symm⟩,
    ⟨r, hr, hwritten r hr⟩, twins_legal, twins_lettered, hsafe twins_legal twins_lettered⟩

end Generation

end ServiceCli
