import ServiceCli.Proofs.Generation.Crash
import ServiceCli.Proofs.Generation.Leaves
import ServiceCli.Proofs.Text.Ascii

/-!
What the functions of a file are named after, and whether a run gets by with these names. A name that
makes no identifier crashes the run, and nothing else does.
-/
namespace ServiceCli

open Source (flagsNames functionNames requests requestsOf)
open Text (isIdentifier snake spellable)

variable {c : Catalog} {settings : Settings} {layout : Layout} {f : ServiceFile} {p : FilePlan}
  {n name : String}

namespace CommandTree

theorem mem_stemsOf {cs : List Command} : n ∈ stemsOf cs ↔ ∃ c ∈ cs, n ∈ stems c := by
  induction cs with
  | nil => simp [stemsOf]
  | cons c cs ih => simp [stemsOf, ih]

theorem mem_requestsOf {cs : List Command} : n ∈ requestsOf cs ↔ ∃ c ∈ cs, n ∈ requests c := by
  induction cs with
  | nil => simp [requestsOf]
  | cons c cs ih => simp [requestsOf, ih]

theorem mem_stems_group {key : String} {children : List Command} :
    n ∈ stems (.group name key children) ↔ n = snake name ∨ ∃ c ∈ children, n ∈ stems c := by
  rw [stems_eq, List.mem_cons, ← mem_stemsOf]
  rfl

theorem mem_stems_leaf {service : String} {e : Entry} :
    n ∈ stems (e.leaf service layout) ↔
      n = snake (pascalCase [service, e.groupKey layout, e.leafKey layout]) := by
  rw [stems_eq, List.mem_cons]
  exact or_iff_left List.not_mem_nil

theorem mem_requests_group {key : String} {children : List Command} :
    n ∈ requests (.group name key children) ↔ ∃ c ∈ children, n ∈ requests c := by
  rw [← mem_requestsOf, Command.group, requests]
  simp

theorem mem_requests_leaf {service : String} {e : Entry} :
    n ∈ requests (e.leaf service layout) ↔ n = e.requestType := by
  simp [Entry.leaf, Command.leaf, requests, requestsOf]

variable {s : Service} {groups : List (String × List Entry)} {cs : List Command}

theorem Arranged.mem_entries (h : Arranged layout s groups cs) {e : Entry} :
    (∃ g ∈ groups, e ∈ g.2) ↔ ∃ m ∈ s.methods, m.entry? = some e := by
  simp only [Method.entry?_eq_some]
  rw [← h.resolved e, List.mem_flatMap]

/-- The commands of a service have two stems for each method with a resource and a verb. -/
theorem Arranged.stems_iff (h : Arranged layout s groups cs) : n ∈ stemsOf cs ↔
    ∃ m ∈ s.methods, ∃ e, m.entry? = some e ∧
      (n = snake (pascalCase [s.name, e.groupKey layout]) ∨
        n = snake (pascalCase [s.name, e.groupKey layout, e.leafKey layout])) := by
  rw [mem_stemsOf, h.commands_eq]
  simp only [List.mem_map, exists_exists_and_eq_and, mem_stems_group, mem_stems_leaf]
  constructor
  · rintro ⟨g, hg, rfl | ⟨e, he, rfl⟩⟩
    -- A group comes from any of its leaves.
    · obtain ⟨e, he⟩ := List.exists_mem_of_ne_nil _ (h.inhabited g hg)
      obtain ⟨m, hm, hentry⟩ := h.mem_entries.1 ⟨g, hg, he⟩
      exact ⟨m, hm, e, hentry, .inl (by rw [h.keyed hg he])⟩
    · obtain ⟨m, hm, hentry⟩ := h.mem_entries.1 ⟨g, hg, he⟩
      exact ⟨m, hm, e, hentry, .inr rfl⟩
  · rintro ⟨m, hm, e, hentry, hn⟩
    obtain ⟨g, hg, he⟩ := h.mem_entries.2 ⟨m, hm, hentry⟩
    refine ⟨g, hg, hn.imp (fun hn => ?_) fun hn => ⟨e, he, hn⟩⟩
    rw [hn, h.keyed hg he]

theorem Arranged.exists_method (h : Arranged layout s groups cs) (hn : n ∈ requestsOf cs) :
    ∃ m ∈ s.methods, m.inputType = n := by
  rw [mem_requestsOf, h.commands_eq] at hn
  simp only [List.mem_map, exists_exists_and_eq_and, mem_requests_group, mem_requests_leaf] at hn
  obtain ⟨g, hg, e, he, rfl⟩ := hn
  obtain ⟨m, hm, hentry⟩ := h.mem_entries.1 ⟨g, hg, he⟩
  exact ⟨m, hm, (Method.entry?_eq_some.1 hentry).2⟩

end CommandTree

namespace Generation

open CommandTree (Arranged pascalCase stemsOf)

/-- Another request type of the file has the same name in snake case. -/
def SharesName (c : Catalog) (f : ServiceFile) (t : String) (type : MessageType) : Prop :=
  ∃ s ∈ f.services, ∃ m ∈ s.methods, m.inputType ≠ t ∧
    ∃ other, c.message? m.inputType = some other ∧ snake other.name = snake type.name

/-- `NamedAfter c layout f function name`: in the file, `function` is for something called `name`. -/
inductive NamedAfter (c : Catalog) (layout : Layout) (f : ServiceFile) : String → String → Prop where
  | group {s : Service} {m : Method} {e : CommandTree.Entry} : s ∈ f.services → m ∈ s.methods →
      m.entry? = some e → NamedAfter c layout f
        (snake (pascalCase [s.name, e.groupKey layout]) ++ "_command")
        (pascalCase [s.name, e.groupKey layout])
  | leaf {s : Service} {m : Method} {e : CommandTree.Entry} : s ∈ f.services → m ∈ s.methods →
      m.entry? = some e → NamedAfter c layout f
        (snake (pascalCase [s.name, e.groupKey layout, e.leafKey layout]) ++ "_command")
        (pascalCase [s.name, e.groupKey layout, e.leafKey layout])
  | flags {s : Service} {m : Method} {type : MessageType} : s ∈ f.services → m ∈ s.methods →
      c.message? m.inputType = some type → ¬SharesName c f m.inputType type →
      NamedAfter c layout f (snake type.name ++ "_flags") type.name
  | fullFlags {s : Service} {m : Method} {type : MessageType} : s ∈ f.services → m ∈ s.methods →
      c.message? m.inputType = some type → SharesName c f m.inputType type →
      NamedAfter c layout f (snake m.inputType ++ "_flags") m.inputType

/-- A function can be written if and only if what it is named after makes an identifier. -/
theorem NamedAfter.isIdentifier_eq (h : NamedAfter c layout f n name) :
    isIdentifier n = spellable name := by
  cases h with
  | group | leaf => exact Text.isIdentifier_snake_append _ (by decide +kernel) (by decide +kernel)
  | flags | fullFlags =>
    exact Text.isIdentifier_snake_append _ (by decide +kernel) (by decide +kernel)

/-- Every command of services whose request types have flags has a request type with flags. -/
theorem known_of_trees {ss : List Service} {trees : List (List Command)} {sets : NameMap FlagSchema}
    (htrees : Trees layout ss trees)
    (hsets : ∀ s ∈ ss, ∀ m ∈ s.methods, sets.contains m.inputType = true) :
    ∀ t ∈ requestsOf trees.flatten, sets.contains t = true := by
  intro t ht
  obtain ⟨command, hcommand, ht⟩ := CommandTree.mem_requestsOf.1 ht
  obtain ⟨cs, hcs, hcommand⟩ := List.mem_flatten.1 hcommand
  obtain ⟨s, hs, hcommands⟩ := exists_of_forall₂ htrees.flip hcs
  obtain ⟨groups, hgroups⟩ := commandsOf_arranged hcommands
  obtain ⟨m, hm, rfl⟩ := hgroups.exists_method (CommandTree.mem_requestsOf.2 ⟨command, hcommand, ht⟩)
  exact hsets s hs m hm

theorem Comes.known {α : Type} {nameOf : String → String} {write : FilePlan → Except Stop α}
    {fs : List ServiceFile} {flattener : Flattener}
    (h : Comes c settings nameOf write fs flattener f p) :
    ∀ t ∈ requestsOf p.commands, p.flagsets.contains t = true := by
  obtain ⟨trees, htrees, hcommands⟩ := h.commands
  rw [hcommands]
  exact known_of_trees htrees fun s hs m hm => (h.contains_iff _).2 ⟨s, hs, m, hm, rfl⟩

theorem Reached.guarded (h : Reached c settings f p) (hnodup : (flagsNames p.flagsets).Nodup) :
    Source.Guarded (functionNames p) (Source.items p) :=
  Source.items_guarded (Comes.known h) hnodup

/-- All functions of a file that is written have identifiers for names. -/
theorem Written.identifiers {g : GeneratedFile} {trees : List (List Command)}
    {sets : NameMap FlagSchema} {is : List Source.Item} (h : Written settings f g trees sets is) :
    ∀ i ∈ is, isIdentifier i.name = true := by
  let plan : FilePlan := ⟨f.name, trees.flatten, sets, settings.requestShort⟩
  have hknown : ∀ t ∈ requestsOf plan.commands, plan.flagsets.contains t = true :=
    known_of_trees h.commands fun s hs m hm =>
      (h.flags _).2 (List.mem_map_of_mem (List.mem_flatMap.2 ⟨s, hs, hm⟩))
  obtain ⟨hnames, hnodup⟩ := Source.items_names h.items
  have hwritten := (Source.items_guarded hknown hnodup).of_ok h.items
  intro i hi
  have hname := hnames.mem_iff.1 (List.mem_map_of_mem hi)
  rw [List.mem_append, List.mem_append] at hname
  rcases hname with hcommand | hparser | hflags
  -- Commands and flags are checked one by one, but parsers have the same names in every file.
  · exact hwritten _ (List.mem_append_left _ hcommand)
  · obtain hname | hname := Source.eq_of_mem_parserNames hparser <;> rw [hname] <;> decide +kernel
  · exact hwritten _ (List.mem_append_right _ hflags)

theorem Reached.arranged (h : Reached c settings f p) : ∃ trees, p.commands = trees.flatten ∧
    List.Forall₂ (fun s cs => ∃ groups, Arranged settings.layout s groups cs) f.services trees := by
  obtain ⟨trees, htrees, hcommands⟩ := h.commands
  exact ⟨trees, hcommands, htrees.imp fun _ _ => commandsOf_arranged⟩

theorem Reached.mem_stemsOf (h : Reached c settings f p) : n ∈ stemsOf p.commands ↔
    ∃ s ∈ f.services, ∃ m ∈ s.methods, ∃ e, m.entry? = some e ∧
      (n = snake (pascalCase [s.name, e.groupKey settings.layout]) ∨
        n = snake (pascalCase [s.name, e.groupKey settings.layout, e.leafKey settings.layout])) := by
  obtain ⟨trees, hcommands, htrees⟩ := h.arranged
  rw [hcommands, stemsOf_flatten, List.mem_flatten]
  simp only [List.mem_map, exists_exists_and_eq_and]
  constructor
  · rintro ⟨cs, hcs, hn⟩
    obtain ⟨s, hs, groups, hgroups⟩ := exists_of_forall₂ htrees.flip hcs
    exact ⟨s, hs, hgroups.stems_iff.1 hn⟩
  · rintro ⟨s, hs, hn⟩
    obtain ⟨cs, hcs, groups, hgroups⟩ := exists_of_forall₂ htrees hs
    exact ⟨cs, hcs, hgroups.stems_iff.2 hn⟩

/-- The sets of flags are those of the request types, and are called like them. -/
theorem Reached.sets_iff (h : Reached c settings f p) {t : String} {P : String → Prop} :
    (∃ x, p.flagsets.get? t = some x ∧ P x.name) ↔
      ∃ s ∈ f.services, ∃ m ∈ s.methods, m.inputType = t ∧
        ∃ type, c.message? t = some type ∧ P type.name := by
  constructor
  · rintro ⟨x, hx, hP⟩
    obtain ⟨s, hs, m, hm, ht⟩ := (h.contains_iff t).1 (NameMap.contains_iff.2 ⟨x, hx⟩)
    obtain ⟨type, htype, hname, -⟩ := h.titled t x hx
    exact ⟨s, hs, m, hm, ht, type, htype, hname ▸ hP⟩
  · rintro ⟨s, hs, m, hm, ht, type, htype, hP⟩
    obtain ⟨x, hx⟩ := NameMap.contains_iff.1 ((h.contains_iff t).2 ⟨s, hs, m, hm, ht⟩)
    obtain ⟨type', htype', hname, -⟩ := h.titled t x hx
    obtain rfl := Option.some.inj (htype.symm.trans htype')
    exact ⟨x, hx, hname ▸ hP⟩

theorem Reached.shared_iff (h : Reached c settings f p) {t : String} {x : FlagSchema}
    {type : MessageType} (hname : x.name = type.name) :
    Source.Shared p.flagsets t x ↔ SharesName c f t type := by
  have hsame : ∀ other, (∃ y, p.flagsets.get? other = some y ∧ snake y.name = snake type.name) ↔
      ∃ s ∈ f.services, ∃ m ∈ s.methods, m.inputType = other ∧
        ∃ type', c.message? other = some type' ∧ snake type'.name = snake type.name :=
    fun other => h.sets_iff (P := fun name => snake name = snake type.name)
  constructor
  · rintro ⟨other, y, hne, hy, hstem⟩
    obtain ⟨s, hs, m, hm, rfl, hother⟩ := (hsame other).1 ⟨y, hy, hname ▸ hstem⟩
    exact ⟨s, hs, m, hm, hne, hother⟩
  · rintro ⟨s, hs, m, hm, hne, hother⟩
    obtain ⟨y, hy, hstem⟩ := (hsame m.inputType).2 ⟨s, hs, m, hm, rfl, hother⟩
    exact ⟨m.inputType, y, hne, hy, by rwa [Source.shortStem, Source.shortStem, hname]⟩

/-- The functions of a file that is reached are those that are named after something in it. -/
theorem Reached.functionNames_iff (h : Reached c settings f p) :
    n ∈ functionNames p ↔ ∃ name, NamedAfter c settings.layout f n name := by
  rw [functionNames, List.mem_append, List.mem_map, Source.mem_flagsNames]
  simp only [h.mem_stemsOf]
  constructor
  · rintro (⟨_, ⟨s, hs, m, hm, e, he, rfl | rfl⟩, rfl⟩ | ⟨t, x, hx, hn⟩)
    · exact ⟨_, .group hs hm he⟩
    · exact ⟨_, .leaf hs hm he⟩
    · obtain ⟨type, htype, hname, -⟩ := h.titled t x hx
      obtain ⟨s, hs, m, hm, rfl⟩ := (h.contains_iff t).1 (NameMap.contains_iff.2 ⟨x, hx⟩)
      rcases hn with ⟨hshared, rfl⟩ | ⟨hshared, rfl⟩
      · rw [hname]
        exact ⟨type.name, .flags hs hm htype (mt (h.shared_iff hname).2 hshared)⟩
      · exact ⟨m.inputType, .fullFlags hs hm htype ((h.shared_iff hname).1 hshared)⟩
  · rintro ⟨name, hn⟩
    cases hn with
    | group hs hm he => exact .inl ⟨_, ⟨_, hs, _, hm, _, he, .inl rfl⟩, rfl⟩
    | leaf hs hm he => exact .inl ⟨_, ⟨_, hs, _, hm, _, he, .inr rfl⟩, rfl⟩
    | @flags s m type hs hm htype hshared =>
      obtain ⟨x, hx, hname⟩ := (h.sets_iff (P := (· = type.name))).2 ⟨s, hs, m, hm, rfl, type,
        htype, rfl⟩
      exact .inr ⟨m.inputType, x, hx, .inl ⟨mt (h.shared_iff hname).1 hshared, by rw [hname]⟩⟩
    | @fullFlags s m type hs hm htype hshared =>
      obtain ⟨x, hx, hname⟩ := (h.sets_iff (P := (· = type.name))).2 ⟨s, hs, m, hm, rfl, type,
        htype, rfl⟩
      exact .inr ⟨m.inputType, x, hx, .inr ⟨(h.shared_iff hname).2 hshared, rfl⟩⟩

/-- A file that is reached crashes the run if something in it makes no identifier, unless sets of
flags share a function, which is a failure. -/
theorem Reached.crash_iff (h : Reached c settings f p) :
    (∃ k, generatedFile p = .error (.crash k)) ↔ (flagsNames p.flagsets).Nodup ∧
      ∃ function name, NamedAfter c settings.layout f function name ∧ spellable name = false := by
  have hnames : (∃ n ∈ functionNames p, isIdentifier n = false) ↔
      ∃ function name, NamedAfter c settings.layout f function name ∧ spellable name = false := by
    simp only [h.functionNames_iff]
    constructor
    · rintro ⟨n, ⟨name, hn⟩, hbad⟩
      exact ⟨n, name, hn, hn.isIdentifier_eq ▸ hbad⟩
    · rintro ⟨n, name, hn, hbad⟩
      exact ⟨n, ⟨name, hn⟩, hn.isIdentifier_eq ▸ hbad⟩
  simp only [generatedFile_eq_error, ← hnames]
  constructor
  · rintro ⟨k, hk⟩
    have hnodup := Source.nodup_of_items_crash hk
    exact ⟨hnodup, (h.guarded hnodup).crash_iff.1 ⟨k, hk⟩⟩
  · rintro ⟨hnodup, hbad⟩
    exact (h.guarded hnodup).crash_iff.2 hbad

theorem Reached.of_crash (h : Reached c settings f p) {k : Crash}
    (hk : generatedFile p = .error (.crash k)) : ∃ function name,
      NamedAfter c settings.layout f function name ∧ spellable name = false ∧
        k = .badIdentifier function := by
  rw [generatedFile_eq_error] at hk
  obtain ⟨n, hn, hbad, rfl⟩ := (h.guarded (Source.nodup_of_items_crash hk)).of_crash hk
  obtain ⟨name, hname⟩ := h.functionNames_iff.1 hn
  exact ⟨n, name, hname, hname.isIdentifier_eq ▸ hbad, rfl⟩

end Generation

end ServiceCli
