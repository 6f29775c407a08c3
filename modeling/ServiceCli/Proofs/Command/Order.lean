import ServiceCli.Proofs.Command.Grouping
import ServiceCli.Proofs.Command.Uniqueness

/-!
The order of commands. Groups by resource come in the order in which methods are declared; groups by
verb come in that order only if the methods do not go back to an earlier resource.
-/
namespace ServiceCli.CommandTree

/-- The commands of entries, with groups and leaves in the order in which their keys and the entries
first come. -/
def declared (service : String) (layout : Layout) (es : List Entry) : List Command :=
  (es.map (·.groupKey layout)).eraseDups.map fun key =>
    .group (pascalCase [service, key]) key
      ((es.eraseDups.filter (·.groupKey layout = key)).map (Entry.leaf service layout))

theorem nodup_resourcewise (es : List Entry) : (resourcewise es).Nodup :=
  nodup_regroup (nodup_resourcesOf es) (nodup_eraseDups es)

theorem mem_resourcewise {es : List Entry} {e : Entry} : e ∈ resourcewise es ↔ e ∈ es := by
  rw [resourcewise, mem_regroup, List.mem_eraseDups]
  exact ⟨And.left, fun he => ⟨he, mem_resourcesOf he⟩⟩

theorem commands_of_ofEntries {es : List Entry} {t : VerbTable}
    (ht : VerbTable.ofEntries es = .ok t) (service : String) (layout : Layout) :
    commands service t layout = declared service layout (resourcewise es) := by
  rw [commands, groups_eq_grouped ht, grouped_eq, List.map_map, entries_of_ofEntries ht, declared,
    eraseDups_of_nodup (nodup_resourcewise es)]
  rfl

/-- Going resource by resource does not change the order of groups by resource. -/
theorem declared_resourcewise (service : String) (es : List Entry) :
    declared service .resource (resourcewise es) = declared service .resource es := by
  have hkeys : ((resourcewise es).map (·.resource)).eraseDups = resourcesOf es := by
    refine eraseDups_map_regroup (nodup_resourcesOf es) fun r hr => ?_
    obtain ⟨e, he, rfl⟩ := List.mem_map.1 (List.mem_eraseDups.1 hr)
    exact ⟨e, List.mem_eraseDups.2 he, rfl⟩
  rw [declared, declared, eraseDups_of_nodup (nodup_resourcewise es)]
  show ((resourcewise es).map (·.resource)).eraseDups.map _ = (resourcesOf es).map _
  rw [hkeys]
  refine List.map_congr_left fun r hr => ?_
  have hrow : (resourcewise es).filter (·.resource = r) = es.eraseDups.filter (·.resource = r) :=
    filter_regroup_key (nodup_resourcesOf es) hr es.eraseDups
  exact congrArg (fun rows => Command.group (pascalCase [service, r]) r
    (rows.map (Entry.leaf service .resource))) hrow

/-- The place of the resource of an entry among the resources. -/
def resourceRank (es : List Entry) (e : Entry) : Nat := (resourcesOf es).idxOf e.resource

/-- The first entries of the verbs. -/
def firstOfVerbs (es : List Entry) : List Entry :=
  es.eraseDups.filter fun e => es.find? (·.verb = e.verb) = some e

theorem mem_of_mem_firstOfVerbs {es : List Entry} {e : Entry} (he : e ∈ firstOfVerbs es) : e ∈ es :=
  List.mem_eraseDups.1 (List.mem_filter.1 he).1

/-- Whether the resources of entries come in the order in which resources first come, as far as it
shows in groups by verb: among the entries of one verb and among the first entries of the verbs. -/
def InResourceOrder (es : List Entry) : Prop :=
  (es.eraseDups.Pairwise fun a b => a.verb = b.verb → resourceRank es a ≤ resourceRank es b) ∧
    (firstOfVerbs es).Pairwise fun a b => resourceRank es a ≤ resourceRank es b

instance (es : List Entry) : Decidable (InResourceOrder es) :=
  inferInstanceAs (Decidable (_ ∧ _))

theorem regroup_resources_eq_iff {es l : List Entry} (hl : ∀ e ∈ l, e ∈ es) :
    regroup (resourcesOf es) (·.resource) l = l ↔
      l.Pairwise fun a b => resourceRank es a ≤ resourceRank es b :=
  regroup_eq_iff (nodup_resourcesOf es) fun e he => mem_resourcesOf (hl e he)

theorem filter_verb_agree_iff (es : List Entry) :
    (∀ v, (resourcewise es).filter (·.verb = v) = es.eraseDups.filter (·.verb = v)) ↔
      es.eraseDups.Pairwise fun a b => a.verb = b.verb → resourceRank es a ≤ resourceRank es b := by
  have hverb : ∀ v, (resourcewise es).filter (·.verb = v) = es.eraseDups.filter (·.verb = v) ↔
      es.eraseDups.Pairwise fun a b =>
        a.verb = v → b.verb = v → resourceRank es a ≤ resourceRank es b := by
    intro v
    rw [resourcewise, filter_regroup, regroup_resources_eq_iff fun e he =>
      List.mem_eraseDups.1 (List.mem_filter.1 he).1, List.pairwise_filter]
    simp only [decide_eq_true_eq]
  simp only [hverb, List.pairwise_iff_forall_sublist]
  constructor
  · exact fun h a b hab heq => h b.verb hab heq rfl
  · exact fun h v a b hab ha hb => h hab (ha.trans hb.symm)

/-- Where the entries of each verb come in order, so do the verbs if their first entries do. -/
theorem verbs_agree_iff {es : List Entry}
    (hrows : ∀ v, (resourcewise es).filter (·.verb = v) = es.eraseDups.filter (·.verb = v)) :
    ((resourcewise es).map (·.verb)).eraseDups = (es.map (·.verb)).eraseDups ↔
      (firstOfVerbs es).Pairwise fun a b => resourceRank es a ≤ resourceRank es b := by
  have hfind : ∀ v, (resourcewise es).find? (·.verb = v) = es.find? (·.verb = v) := by
    intro v
    rw [← List.head?_filter, hrows, List.head?_filter, find?_eraseDups]
  have hfirst : (firstOfVerbs es).map (·.verb) = (es.map (·.verb)).eraseDups := by
    rw [← eraseDups_map_eraseDups, ← map_filter_first (·.verb) (nodup_eraseDups es), firstOfVerbs]
    simp only [find?_eraseDups]
  have hregrouped : (regroup (resourcesOf es) (·.resource) (firstOfVerbs es)).map (·.verb) =
      ((resourcewise es).map (·.verb)).eraseDups := by
    rw [← map_filter_first (·.verb) (nodup_resourcewise es)]
    simp only [hfind]
    rw [resourcewise, filter_regroup, firstOfVerbs]
  have hnodup : ((firstOfVerbs es).map (·.verb)).Nodup := hfirst ▸ nodup_eraseDups _
  rw [← hregrouped, ← hfirst, ← regroup_resources_eq_iff fun e he => mem_of_mem_firstOfVerbs he]
  constructor
  · exact fun h => (eq_of_map_eq hnodup h.symm fun e he => (mem_regroup.1 he).1).symm
  · exact fun h => congrArg _ h

theorem filter_key_eq_nil {layout : Layout} {es : List Entry} {key : String}
    (hkey : key ∉ (es.map (·.groupKey layout)).eraseDups) :
    es.eraseDups.filter (·.groupKey layout = key) = [] := by
  simp only [List.filter_eq_nil_iff, decide_eq_true_eq, List.mem_eraseDups] at hkey ⊢
  exact fun e he heq => hkey (List.mem_map.2 ⟨e, he, heq⟩)

/-- Where no two commands have functions of one name, the commands tell the order of the keys and of
the entries with each key. -/
theorem declared_eq_iff {service : String} {layout : Layout} {es es' : List Entry}
    (hstems : (stemsOf (declared service layout es')).Nodup) (hsame : ∀ e, e ∈ es' ↔ e ∈ es) :
    declared service layout es' = declared service layout es ↔
      (es'.map (·.groupKey layout)).eraseDups = (es.map (·.groupKey layout)).eraseDups ∧
        ∀ key, es'.eraseDups.filter (·.groupKey layout = key) =
          es.eraseDups.filter (·.groupKey layout = key) := by
  constructor
  · intro h
    have hnames : ((es'.map (·.groupKey layout)).eraseDups.map fun key =>
        pascalCase [service, key]).Nodup := by
      have hgroups := hstems.sublist (map_stem_sublist _)
      rw [declared, List.map_map] at hgroups
      exact List.Nodup.of_map Text.snake (by rw [List.map_map]; exact hgroups)
    have hkeys : (es'.map (·.groupKey layout)).eraseDups =
        (es.map (·.groupKey layout)).eraseDups := by
      refine eq_of_map_eq hnames ?_ fun key hkey => ?_
      · have hmap := congrArg (List.map Command.name) h
        rw [declared, declared, List.map_map, List.map_map] at hmap
        exact hmap
      · obtain ⟨e, he, rfl⟩ := List.mem_map.1 (List.mem_eraseDups.1 hkey)
        exact List.mem_eraseDups.2 (List.mem_map_of_mem ((hsame e).2 he))
    refine ⟨hkeys, fun key => ?_⟩
    by_cases hkey : key ∈ (es'.map (·.groupKey layout)).eraseDups
    · have hgroup : Command.group (pascalCase [service, key]) key
          ((es'.eraseDups.filter (·.groupKey layout = key)).map (Entry.leaf service layout)) =
          .group (pascalCase [service, key]) key
          ((es.eraseDups.filter (·.groupKey layout = key)).map (Entry.leaf service layout)) := by
        rw [declared, declared, ← hkeys] at h
        exact List.map_inj_left.1 h key hkey
      have hchildren := hstems.sublist (stemsOf_children_sublist (List.mem_map_of_mem hkey))
      have hleaves := hchildren.sublist (map_stem_sublist _)
      exact eq_of_map_eq (List.Nodup.of_map Command.stem hleaves) (congrArg Command.children hgroup)
        fun e he => by simpa [hsame] using he
    · rw [filter_key_eq_nil hkey, filter_key_eq_nil (hkeys ▸ hkey)]
  · rintro ⟨hkeys, hrows⟩
    simp only [declared, hkeys, hrows]

/-- Going resource by resource keeps the order of groups by verb exactly where the entries come in
the order of their resources. -/
theorem declared_resourcewise_iff {service : String} {es : List Entry}
    (hstems : (stemsOf (declared service .verb (resourcewise es))).Nodup) :
    declared service .verb (resourcewise es) = declared service .verb es ↔ InResourceOrder es := by
  rw [declared_eq_iff hstems fun e => mem_resourcewise, eraseDups_of_nodup (nodup_resourcewise es)]
  simp only [Entry.groupKey]
  constructor
  · rintro ⟨hkeys, hrows⟩
    exact ⟨(filter_verb_agree_iff es).1 hrows, (verbs_agree_iff hrows).1 hkeys⟩
  · rintro ⟨hrows, hkeys⟩
    have hrows' := (filter_verb_agree_iff es).2 hrows
    exact ⟨(verbs_agree_iff hrows').2 hkeys, hrows'⟩

/-- Groups by resource are in the order of declaration. Groups by verb are in that order exactly
where the entries come in the order of their resources; otherwise the resource counts first. -/
theorem assemble_declared {service : String} {layout : Layout} {es : List Entry} {t : VerbTable}
    {cs : List Command} (ht : VerbTable.ofEntries es = .ok t)
    (h : assemble service t layout = .ok cs) :
    cs = declared service layout (resourcewise es) ∧
      (layout = .resource → cs = declared service layout es) ∧
      (layout = .verb → (cs = declared service layout es ↔ InResourceOrder es)) := by
  have hstems := assemble_stems h
  obtain ⟨hcs, -⟩ := assemble_eq_ok.1 h
  rw [commands_of_ofEntries ht] at hcs
  subst hcs
  refine ⟨rfl, ?_, ?_⟩
  · rintro rfl
    exact declared_resourcewise service es
  · rintro rfl
    exact declared_resourcewise_iff hstems

/-- Methods that go back to the resource of the first one. -/
def chores : List Entry :=
  [⟨"cow", "buy", "acme.A"⟩, ⟨"hen", "pet", "acme.B"⟩, ⟨"cow", "pet", "acme.C"⟩]

def choresTable : VerbTable where
  resources := [⟨"cow", [⟨"buy", "acme.A"⟩, ⟨"pet", "acme.C"⟩]⟩, ⟨"hen", [⟨"pet", "acme.B"⟩]⟩]

/-- The names of groups, each with the names of its leaves. -/
def outline (cs : List Command) : List (String × List String) :=
  cs.map fun g => (g.name, g.children.map (·.name))

theorem choresTable_ofEntries : VerbTable.ofEntries chores = .ok choresTable := by decide

theorem outline_chores : ∃ cs, assemble "Farm" choresTable .verb = .ok cs ∧
    outline cs = [("FarmBuy", ["FarmBuyCow"]), ("FarmPet", ["FarmPetCow", "FarmPetHen"])] := by
  have houtline : (assemble "Farm" choresTable .verb).map outline =
      .ok [("FarmBuy", ["FarmBuyCow"]), ("FarmPet", ["FarmPetCow", "FarmPetHen"])] := by
    decide +kernel
  exact map_eq_ok.1 houtline

theorem outline_declared_chores : outline (declared "Farm" .verb chores) =
    [("FarmBuy", ["FarmBuyCow"]), ("FarmPet", ["FarmPetHen", "FarmPetCow"])] := by
  decide +kernel

theorem assemble_chores_not_declared : ∃ t cs, VerbTable.ofEntries chores = .ok t ∧
    assemble "Farm" t .verb = .ok cs ∧
    outline cs = [("FarmBuy", ["FarmBuyCow"]), ("FarmPet", ["FarmPetCow", "FarmPetHen"])] ∧
    outline (declared "Farm" .verb chores) =
      [("FarmBuy", ["FarmBuyCow"]), ("FarmPet", ["FarmPetHen", "FarmPetCow"])] := by
  obtain ⟨cs, h, houtline⟩ := outline_chores
  exact ⟨choresTable, cs, choresTable_ofEntries, h, houtline, outline_declared_chores⟩

/-- The commands of the chores are in the order of the animals, which is not that of declaration. -/
theorem assemble_chores : ∃ cs, assemble "Farm" choresTable .verb = .ok cs ∧
    cs = declared "Farm" .verb (resourcewise chores) ∧ cs ≠ declared "Farm" .verb chores := by
  obtain ⟨cs, h, -⟩ := outline_chores
  obtain ⟨hcs, -, hiff⟩ := assemble_declared choresTable_ofEntries h
  have hnot : ¬InResourceOrder chores := by decide
  exact ⟨cs, h, hcs, fun heq => hnot ((hiff rfl).1 heq)⟩

end ServiceCli.CommandTree
