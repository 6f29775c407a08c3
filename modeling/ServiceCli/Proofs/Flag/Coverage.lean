import ServiceCli.Proofs.Flag.Embedding
import ServiceCli.Proofs.Flag.Traversal

/-!
After a successful flattening, every message type that can be reached from it is remembered, and its
own flags include those that are remembered of what it embeds.
-/
namespace ServiceCli.Flattener

variable {c : Catalog} {active : List String} {memo more : NameMap FlagSchema} {name : String}
  {p q : Progress}

/-- What a remembered message type embeds is remembered too, or still active. -/
def Closed (c : Catalog) (active : List String) (memo : NameMap FlagSchema) : Prop :=
  ∀ a b, memo.contains a = true → c.Embeds a b → memo.contains b = true ∨ b ∈ active

/-- What `memo` remembers is remembered by `more` as it is. -/
def Grows (memo more : NameMap FlagSchema) : Prop :=
  ∀ name s, memo.get? name = some s → more.get? name = some s

/-- A message type that was not remembered changes no other when it is. -/
theorem Grows.insert {schema : FlagSchema} (h : Grows memo more) (hnone : memo.get? name = none) :
    Grows memo (more.insert name schema) := by
  intro n s hn
  have hne : n ≠ name := by
    rintro rfl
    rw [hnone] at hn
    cases hn
  rw [NameMap.get?_insert_of_ne more _ hne]
  exact h n s hn

theorem Grows.contains (h : Grows memo more) {a : String} (ha : memo.contains a = true) :
    more.contains a = true := by
  obtain ⟨s, hs⟩ := NameMap.contains_iff.1 ha
  exact NameMap.contains_iff.2 ⟨s, h a s hs⟩

theorem Closed.weaken (h : Closed c active memo) (name : String) :
    Closed c (name :: active) memo :=
  fun a b ha hab => (h a b ha hab).imp id (List.mem_cons_of_mem _)

/-- A message type may be remembered once everything that it embeds is remembered or active. -/
theorem Closed.insert {m : MessageType} {schema : FlagSchema}
    (h : Closed c (name :: active) memo) (hm : c.message? name = some m)
    (hfields : ∀ f ∈ m.fields, ∀ b, f.contribution = .embedded b →
      memo.contains b = true ∨ b ∈ name :: active) :
    Closed c active (memo.insert name schema) := by
  intro a b ha hab
  have hcovered : memo.contains b = true ∨ b ∈ name :: active := by
    rcases (NameMap.contains_insert memo name a schema).1 ha with rfl | ha
    · obtain ⟨m', hm', f, hf, hb⟩ := hab
      obtain rfl : m' = m := Option.some.inj (hm'.symm.trans hm)
      exact hfields f hf b (Field.contribution_eq_embedded_iff.2 hb)
    · exact h a b ha hab
  rw [NameMap.contains_insert]
  rcases hcovered with hb | hb
  · exact .inl (.inr hb)
  · exact (List.mem_cons.1 hb).imp .inl id

/-- With nothing active, what is remembered includes all that can be reached from it. -/
theorem Closed.reaches {a b : String} (h : Closed c [] memo) (ha : memo.contains a = true)
    (hab : c.Reaches a b) : memo.contains b = true := by
  induction hab with
  | refl => exact ha
  | tail _ hstep ih => exact (h _ _ ih hstep).resolve_right List.not_mem_nil

/-- Going through fields has remembered whatever they embed and is not active, and has taken its
flags over into `paths`. -/
structure Covers (c : Catalog) (active : List String) (fs : List Field)
    (memo more : NameMap FlagSchema) (paths : String → Prop) : Prop where
  closed : Closed c active more
  grows : Grows memo more
  own : ∀ f ∈ fs, ∀ type, f.contribution = .flag type → paths (Text.lower f.name)
  embedded : ∀ f ∈ fs, ∀ b, f.contribution = .embedded b → b ∉ active →
    ∃ s, more.get? b = some s ∧ ∀ path ∈ (nest f.name s.flags).map (·.1), paths path

theorem Covers.contains {fs : List Field} {paths : String → Prop}
    (h : Covers c active fs memo more paths) : ∀ f ∈ fs, ∀ b, f.contribution = .embedded b →
      more.contains b = true ∨ b ∈ active := by
  intro f hf b hb
  by_cases hactive : b ∈ active
  · exact .inr hactive
  · obtain ⟨s, hs, -⟩ := h.embedded f hf b hb hactive
    exact .inl (NameMap.contains_iff.2 ⟨s, hs⟩)

/-- A field that embeds nothing is covered by the flag that it gives, if it gives one. -/
theorem Covers.of_field {f : Field} {paths : String → Prop} (h : Closed c active memo)
    (hown : ∀ type, f.contribution = .flag type → paths (Text.lower f.name))
    (hembed : ∀ b, f.contribution = .embedded b → b ∈ active) :
    Covers c active [f] memo memo paths where
  closed := h
  grows _ _ := id
  own := by simpa using hown
  embedded := by
    intro g hg b hb hactive
    obtain rfl := List.mem_singleton.1 hg
    exact absurd (hembed b hb) hactive

theorem covers_traversal :
    (∀ active message f p, Closed c active p.compiled → ∀ new,
      (fieldFlags c active message f p).1 = .ok new →
      Covers c active [f] p.compiled (fieldFlags c active message f p).2.compiled
        (· ∈ new.map (·.1))) ∧
    ∀ active message fs flags p, Closed c active p.compiled → ∀ all,
      (flattenFields c active message fs flags p).1 = .ok all →
      (∀ path, flags.contains path → all.contains path) ∧
      Covers c active fs p.compiled (flattenFields c active message fs flags p).2.compiled
        (all.contains · = true) := by
  apply traversal
    (P := fun active _ f p out => Closed c active p.compiled → ∀ new, out.1 = .ok new →
      Covers c active [f] p.compiled out.2.compiled (· ∈ new.map (·.1)))
    (Q := fun active _ fs flags p out => Closed c active p.compiled → ∀ all, out.1 = .ok all →
      (∀ path, flags.contains path → all.contains path) ∧
      Covers c active fs p.compiled out.2.compiled (all.contains · = true))
  case flag =>
    intro active message f p type h hp new hnew
    obtain rfl : [(Text.lower f.name, type)] = new := Except.ok.inj hnew
    exact .of_field hp (fun _ _ => by simp) fun b hb => by simp [h] at hb
  case silent =>
    intro active message f p q h hq _ _ hp new _
    rw [hq]
    refine .of_field hp (fun t ht => ?_) fun b hb => ?_
    · rcases h with h | h <;> simp [h] at ht
    · rcases h with h | h <;> simp [h] at hb
  case unsupported | unknown | interrupted | failed | collision =>
    intros
    simp_all
  case cut =>
    intro active message f p q name h hname hq _ _ hp new _
    rw [hq]
    refine .of_field hp (fun t ht => by simp [h] at ht) fun b hb => ?_
    rwa [← Contribution.embedded.inj (h.symm.trans hb)]
  case known =>
    intro active message f p name s h _ hs hp new hnew
    obtain rfl : nest f.name s.flags = new := Except.ok.inj hnew
    refine ⟨hp, fun _ _ => id, fun g hg t ht => ?_, fun g hg b hb _ => ?_⟩
    · simp [List.mem_singleton.1 hg, h] at ht
    · obtain rfl := List.mem_singleton.1 hg
      obtain rfl := Contribution.embedded.inj (h.symm.trans hb)
      exact ⟨s, hs, fun _ => id⟩
  case walked =>
    intro active message f p name m flags q h _ hnone hm _ ih hp new hnew
    obtain rfl : nest f.name flags = new := Except.ok.inj hnew
    obtain ⟨-, hwalk⟩ := ih (hp.weaken name) flags rfl
    refine ⟨hwalk.closed.insert hm hwalk.contains, hwalk.grows.insert hnone, fun g hg t ht => ?_,
      fun g hg b hb _ => ?_⟩
    · simp [List.mem_singleton.1 hg, h] at ht
    · obtain rfl := List.mem_singleton.1 hg
      obtain rfl := Contribution.embedded.inj (h.symm.trans hb)
      exact ⟨_, NameMap.get?_insert_self .., fun _ => id⟩
  case nil =>
    intro active message flags p hp all hall
    obtain rfl : flags = all := Except.ok.inj hall
    exact ⟨fun _ => id, hp, fun _ _ => id, fun f hf => absurd hf List.not_mem_nil,
      fun f hf => absurd hf List.not_mem_nil⟩
  case cons =>
    intro active message f fs flags p new q more out _ ih hadd _ ihs hp all hall
    have hfield := ih hp new rfl
    obtain ⟨hkeep, hfields⟩ := ihs hfield.closed all hall
    have hnew : ∀ path ∈ new.map (·.1), all.contains path = true :=
      fun path hpath => hkeep path ((contains_addFlags hadd).2 (.inr hpath))
    refine ⟨fun path hpath => hkeep path ((contains_addFlags hadd).2 (.inl hpath)), hfields.closed,
      fun n s hn => hfields.grows n s (hfield.grows n s hn), fun g hg t ht => ?_,
      fun g hg b hb hactive => ?_⟩
    · rcases List.mem_cons.1 hg with rfl | hg
      · exact hnew _ (hfield.own g List.mem_cons_self t ht)
      · exact hfields.own g hg t ht
    · rcases List.mem_cons.1 hg with rfl | hg
      · obtain ⟨s, hs, hpaths⟩ := hfield.embedded g List.mem_cons_self b hb hactive
        exact ⟨s, hfields.grows b s hs, fun path hpath => hnew path (hpaths path hpath)⟩
      · exact hfields.embedded g hg b hb hactive

/-- Going on only adds to what is remembered, and nothing that is marked. -/
structure Extends (active : List String) (p q : Progress) : Prop where
  grows : Grows p.compiled q.compiled
  spares : ∀ a ∈ active, p.compiled.get? a = none → q.compiled.get? a = none

theorem Extends.of_eq (h : q.compiled = p.compiled) : Extends active p q :=
  ⟨fun _ _ => h ▸ id, fun _ _ => h ▸ id⟩

theorem Extends.trans {r : Progress} (h : Extends active p q) (h' : Extends active q r) :
    Extends active p r :=
  ⟨fun a s ha => h'.grows a s (h.grows a s ha), fun a ha hp => h'.spares a ha (h.spares a ha hp)⟩

theorem extends_traversal :
    (∀ active message f p, Extends active p (fieldFlags c active message f p).2) ∧
    ∀ active message fs flags p,
      Extends active p (flattenFields c active message fs flags p).2 := by
  apply traversal
    (P := fun active _ _ p out => Extends active p out.2)
    (Q := fun active _ _ _ p out => Extends active p out.2)
  case flag | unsupported | known | unknown | nil =>
    intros
    exact .of_eq rfl
  case silent =>
    intro active message f p q _ hq _ _
    exact .of_eq hq
  case cut =>
    intro active message f p q name _ _ hq _ _
    exact .of_eq hq
  case interrupted =>
    intro active message f p name m e q _ _ _ _ _ ih
    exact ⟨ih.grows, fun a ha => ih.spares a (List.mem_cons_of_mem _ ha)⟩
  case walked =>
    intro active message f p name m flags q _ hactive hnone _ _ ih
    refine ⟨Grows.insert ih.grows hnone, fun a ha hp => ?_⟩
    have hne : a ≠ name := fun heq => hactive (heq ▸ ha)
    rw [Progress.completed_compiled, NameMap.get?_insert_of_ne _ _ hne]
    exact ih.spares a (List.mem_cons_of_mem _ ha) hp
  case failed =>
    intro active message f fs flags p e q ih
    exact ih
  case collision =>
    intro active message f fs flags p new q path ih _
    exact ih
  case cons =>
    intro active message f fs flags p new q more out _ ih _ _ ihs
    exact ih.trans ihs

/-- Nothing that is remembered is forgotten or changed, even if the flattening fails. -/
theorem grows_flatten (s : Flattener) (name : String) :
    Grows s.compiled (s.flatten c name).flattener.compiled := by
  cases hmemo : s.compiled.get? name with
  | some schema =>
    rw [flatten_of_known hmemo]
    exact fun _ _ => id
  | none =>
    cases hm : c.message? name with
    | none =>
      rw [flatten_of_unknown hmemo hm]
      exact fun _ _ => id
    | some m =>
      have hgrows := (extends_traversal (c := c).2 (s.marks name) name m.fields .empty
        (s.begun name)).grows
      obtain ⟨i, q, hrun, hflatten⟩ | ⟨flags, q, hrun, hflatten⟩ := flatten_of_new hmemo hm
      · rw [hrun] at hgrows
        rwa [hflatten]
      · rw [hrun] at hgrows
        rw [hflatten]
        exact Grows.insert hgrows hmemo

/-- What successful flattenings remember is closed under embedding. -/
theorem Served.closed {s : Flattener} (hs : Served c s) : Closed c [] s.compiled := by
  apply hs.remembered
  case fresh =>
    intro a b ha
    simp [NameMap.contains] at ha
  case walked =>
    intro s name m flags q _ hmemo _ hm hrun
    obtain ⟨-, hwalk⟩ := covers_traversal.2 [name] name m.fields .empty (s.begun name)
      (hmemo.weaken name) flags (by rw [hrun])
    rw [hrun] at hwalk
    exact hwalk.closed.insert hm hwalk.contains

/-- What is remembered under a name is called what the message type of that name is called. -/
def Titled (c : Catalog) (memo : NameMap FlagSchema) : Prop :=
  ∀ name s, memo.get? name = some s →
    ∃ m, c.message? name = some m ∧ s.name = m.name ∧ s.fullName = m.fullName

theorem Titled.insert {m : MessageType} (h : Titled c memo) (hm : c.message? name = some m)
    (flags : NameMap FlagType) : Titled c (memo.insert name ⟨m.name, m.fullName, flags⟩) := by
  intro n s hs
  rw [NameMap.get?_insert] at hs
  split at hs
  · rename_i hn
    exact ⟨m, hn ▸ hm, by simp [← Option.some.inj hs]⟩
  · exact h n s hs

theorem Served.titled {s : Flattener} (hs : Served c s) : Titled c s.compiled := by
  induction hs with
  | fresh =>
    intro n s hs
    simp at hs
  | call _ _ ih => exact memo_flatten (fun hm _ _ _ hmemo => hmemo.insert hm _) ih

end ServiceCli.Flattener
