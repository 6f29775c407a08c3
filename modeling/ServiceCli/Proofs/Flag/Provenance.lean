import ServiceCli.Proofs.Flag.Origin
import ServiceCli.Proofs.Flag.Traversal

/-!
Every flag comes from a field that gives it. What is flattened while some message types are active
has no flags that come by way of these.
-/
namespace ServiceCli.Flattener

variable {c : Catalog} {V : String → Prop} {name path : String}

/-- Some way from `name` to a flag of this path avoids the message types in `V`. -/
def Offered (c : Catalog) (V : String → Prop) (name path : String) : Prop :=
  ∃ route, c.Offers name path route ∧ ∀ a ∈ route, ¬V a

/-- All flags that are remembered can be had without the message types in `V`. -/
def Sourced (c : Catalog) (V : String → Prop) (memo : NameMap FlagSchema) : Prop :=
  ∀ name s, memo.get? name = some s → ∀ path, s.flags.contains path → Offered c V name path

theorem Sourced.empty (c : Catalog) (V : String → Prop) : Sourced c V .empty := by
  intro name s hget
  simp at hget

theorem Sourced.insert {memo : NameMap FlagSchema} {schema : FlagSchema} (h : Sourced c V memo)
    (hs : ∀ path, schema.flags.contains path → Offered c V name path) :
    Sourced c V (memo.insert name schema) := by
  intro other s hget
  rw [NameMap.get?_insert] at hget
  split at hget
  · rename_i heq
    rwa [heq, ← Option.some.inj hget]
  · exact h other s hget

theorem offered_nest {f : Field} {b : String} {flags : NameMap FlagType}
    (hf : FieldsOf c name [f]) (hembed : f.contribution = .embedded b) (hname : ¬V name)
    (hflags : ∀ path, flags.contains path → Offered c V b path)
    (hpath : path ∈ (nest f.name flags).map (·.1)) : Offered c V name path := by
  obtain ⟨m, hm, hfs⟩ := hf
  obtain ⟨sub, hsub, rfl⟩ := mem_paths_nest.1 hpath
  obtain ⟨route, hroute, havoids⟩ := hflags sub hsub
  exact ⟨name :: route, .under hm (hfs f List.mem_cons_self) hembed hroute,
    List.forall_mem_cons.2 ⟨hname, havoids⟩⟩

/-- While the message types in `V` are active, no step remembers a flag that comes by way of them,
and their fields alone add such flags. -/
theorem sourced_traversal :
    (∀ active message f p, (∀ a, V a → a ∈ active) →
      FieldsOf c message [f] → Sourced c V p.compiled →
      Sourced c V (fieldFlags c active message f p).2.compiled ∧ (¬V message → ∀ new,
        (fieldFlags c active message f p).1 = .ok new →
        ∀ path ∈ new.map (·.1), Offered c V message path)) ∧
    ∀ active message fs flags p, (∀ a, V a → a ∈ active) →
      FieldsOf c message fs → Sourced c V p.compiled →
      Sourced c V (flattenFields c active message fs flags p).2.compiled ∧ (¬V message →
        (∀ path, flags.contains path → Offered c V message path) → ∀ all,
        (flattenFields c active message fs flags p).1 = .ok all →
        ∀ path, all.contains path → Offered c V message path) := by
  apply traversal
    (P := fun active message f p out => (∀ a, V a → a ∈ active) →
      FieldsOf c message [f] → Sourced c V p.compiled →
      Sourced c V out.2.compiled ∧ (¬V message → ∀ new, out.1 = .ok new →
        ∀ path ∈ new.map (·.1), Offered c V message path))
    (Q := fun active message fs flags p out => (∀ a, V a → a ∈ active) →
      FieldsOf c message fs → Sourced c V p.compiled →
      Sourced c V out.2.compiled ∧ (¬V message →
        (∀ path, flags.contains path → Offered c V message path) → ∀ all, out.1 = .ok all →
        ∀ path, all.contains path → Offered c V message path))
  case flag =>
    rintro active message f p type h _ ⟨m, hm, hfs⟩ hp
    refine ⟨hp, fun hmessage new hnew path hpath => ?_⟩
    obtain rfl : [(Text.lower f.name, type)] = new := Except.ok.inj hnew
    obtain rfl : path = Text.lower f.name := by simpa using hpath
    exact ⟨[message], .own hm (hfs f List.mem_cons_self) h, by simpa using hmessage⟩
  case silent =>
    intro active message f p q _ hq _ _ _ _ hp
    refine ⟨hq ▸ hp, fun _ new hnew => ?_⟩
    obtain rfl : [] = new := Except.ok.inj hnew
    simp
  case unsupported | unknown =>
    intros
    simp_all
  case cut =>
    intro active message f p q name _ _ hq _ _ _ _ hp
    refine ⟨hq ▸ hp, fun _ new hnew => ?_⟩
    obtain rfl : [] = new := Except.ok.inj hnew
    simp
  case known =>
    intro active message f p name s h _ hs _ hf hp
    refine ⟨hp, fun hmessage new hnew path hpath => ?_⟩
    obtain rfl : nest f.name s.flags = new := Except.ok.inj hnew
    exact offered_nest hf h hmessage (hp name s hs) hpath
  case interrupted =>
    intro active message f p name m e q h _ _ hm _ ih hactive _ hp
    have hwalk := ih (fun a ha => List.mem_cons_of_mem _ (hactive a ha)) (.of_message hm) hp
    exact ⟨hwalk.1, fun _ new hnew => by simp at hnew⟩
  case walked =>
    intro active message f p name m flags q h hname _ hm _ ih hactive hf hp
    obtain ⟨hq, hwalk⟩ :=
      ih (fun a ha => List.mem_cons_of_mem _ (hactive a ha)) (.of_message hm) hp
    have hflags := hwalk (fun hV => hname (hactive name hV)) (by simp [NameMap.contains]) flags rfl
    refine ⟨hq.insert hflags, fun hmessage new hnew path hpath => ?_⟩
    obtain rfl : nest f.name flags = new := Except.ok.inj hnew
    exact offered_nest hf h hmessage hflags hpath
  case nil =>
    intro active message flags p _ _ hp
    exact ⟨hp, fun _ hflags all hall => Except.ok.inj hall ▸ hflags⟩
  case failed =>
    intro active message f fs flags p e q ih hactive hfs hp
    exact ⟨(ih hactive hfs.head hp).1, fun _ _ all hall => by simp at hall⟩
  case collision =>
    intro active message f fs flags p new q path ih _ hactive hfs hp
    exact ⟨(ih hactive hfs.head hp).1, fun _ _ all hall => by simp at hall⟩
  case cons =>
    intro active message f fs flags p new q more out _ ih hadd _ ihs hactive hfs hp
    obtain ⟨hq, hnew⟩ := ih hactive hfs.head hp
    obtain ⟨hout, hall⟩ := ihs hactive hfs.tail hq
    refine ⟨hout, fun hmessage hflags => hall hmessage fun path hpath => ?_⟩
    obtain hpath | hpath := (contains_addFlags hadd).1 hpath
    · exact hflags path hpath
    · exact hnew hmessage new rfl path hpath

theorem nest_eq_nil {field : String} {flags : NameMap FlagType}
    (hflags : ∀ path, flags.contains path → Offered c V name path) (hname : ¬c.Flagged name) :
    nest field flags = [] := by
  by_contra hne
  obtain ⟨entry, hentry⟩ := List.exists_mem_of_ne_nil _ hne
  obtain ⟨sub, hsub, -⟩ := mem_paths_nest.1 (List.mem_map_of_mem hentry)
  obtain ⟨route, hroute, -⟩ := hflags sub hsub
  exact hname hroute.flagged

theorem Served.sourced {s : Flattener} (hs : Served c s) :
    Sourced c (fun _ => False) s.compiled := by
  apply hs.remembered
  case fresh => exact .empty c _
  case walked =>
    intro s name m flags q _ hmemo _ hm hrun
    obtain ⟨hq, hwalk⟩ := sourced_traversal.2 [name] name m.fields .empty (s.begun name)
      (fun _ => False.elim) (.of_message hm) hmemo
    rw [hrun] at hq hwalk
    exact hq.insert (hwalk id (by simp [NameMap.contains]) flags rfl)

end ServiceCli.Flattener
