import ServiceCli.Proofs.Flag.Coverage
import ServiceCli.Proofs.Flag.Route

/-!
What a flattening writes in its journal when it leaves out a field: the message type of the field is
being flattened already. The journal tells at any time which flags the message types that are
remembered have: those that can be found without what was left out.
-/
namespace ServiceCli.Flattener

variable {c : Catalog} {active : List String} {message name : String} {p q : Progress}

/-- The fields of `a` that embed `b` were left out. -/
def Cut (events : List Event) (a b : String) : Prop := ∃ f, Event.recursionSkipped a f b ∈ events

@[simp] theorem cut_concat {events : List Event} {e : Event} {a b : String} :
    Cut (events ++ [e]) a b ↔ Cut events a b ∨ ∃ f, e = .recursionSkipped a f b := by
  simp only [Cut, List.mem_append, List.mem_singleton, exists_or, eq_comm]

@[simp] theorem Progress.started_events (p : Progress) (name : String) :
    (p.started name).events = p.events ++ [.flattening name] := rfl

@[simp] theorem Progress.completed_events (p : Progress) (name : String) (s : FlagSchema) :
    (p.completed name s).events = p.events := rfl

/-- The active message types, the last one first, are a way to the one whose fields are gone
through, so that what is left out leads back to them. -/
theorem back_traversal (start : String) :
    (∀ active message f p, FieldsOf c message [f] → c.Way start message active.reverse → ∀ a b,
      Cut (fieldFlags c active message f p).2.events a b →
        Cut p.events a b ∨ c.Back start a b) ∧
    ∀ active message fs flags p, FieldsOf c message fs → c.Way start message active.reverse →
      ∀ a b, Cut (flattenFields c active message fs flags p).2.events a b →
        Cut p.events a b ∨ c.Back start a b := by
  apply traversal
    (P := fun active message f p out => FieldsOf c message [f] →
      c.Way start message active.reverse → ∀ a b, Cut out.2.events a b →
        Cut p.events a b ∨ c.Back start a b)
    (Q := fun active message fs _ p out => FieldsOf c message fs →
      c.Way start message active.reverse → ∀ a b, Cut out.2.events a b →
        Cut p.events a b ∨ c.Back start a b)
  case flag | unsupported | known | unknown | nil =>
    intros
    exact .inl ‹_›
  case silent =>
    intro active message f p q _ _ _ hevents _ _ a b hcut
    rcases hevents with hevents | hevents
    · exact .inl (hevents ▸ hcut)
    · exact .inl (by simpa [hevents] using hcut)
  case cut =>
    intro active message f p q name h hname _ _ hevents hf hway a b hcut
    rw [hevents, cut_concat] at hcut
    refine hcut.imp_right ?_
    rintro ⟨_, heq⟩
    obtain ⟨rfl, -, rfl⟩ := Event.recursionSkipped.inj heq
    exact ⟨hf.embeds h, _, hway, List.mem_reverse.2 hname⟩
  case interrupted | walked =>
    intro active message f p name m _ q h hname _ hm _ ih hf hway a b hcut
    have hpush := hway.push (hf.embeds h) (by simpa using hname)
    simpa using ih (.of_message hm) (by simpa using hpush) a b hcut
  case failed =>
    intro active message f fs flags p e q ih hfs
    exact ih hfs.head
  case collision =>
    intro active message f fs flags p new q path ih _ hfs
    exact ih hfs.head
  case cons =>
    intro active message f fs flags p new q more out _ ih _ _ ihs hfs hway a b hcut
    rcases ihs hfs.tail hway a b hcut with hcut | hback
    · exact ih hfs.head hway a b hcut
    · exact .inr hback

/-- The message types that are remembered have the flags that can be found without what was left
out, and none of the active message types is remembered. -/
structure Ledger (c : Catalog) (active : List String) (p : Progress) : Prop where
  unknown : ∀ a ∈ active, p.compiled.get? a = none
  cutter : ∀ a b, Cut p.events a b → a ∈ active ∨ p.compiled.contains a = true
  settled : ∀ a b, p.compiled.contains a = true → c.Embeds a b → ¬Cut p.events a b →
    p.compiled.contains b = true
  exact : ∀ a s, p.compiled.get? a = some s → ∀ path type, s.flags.get? path = some type ↔
    ∃ route, c.Follows (Cut p.events) a route path type
  distinct : ∀ a route path type, p.compiled.contains a = true →
    c.Follows (Cut p.events) a route path type → route.Nodup

theorem Ledger.not_contains {a : String} (h : Ledger c active p) (ha : a ∈ active) :
    p.compiled.contains a = false := by
  simp [NameMap.contains, h.unknown a ha]

theorem Ledger.contains_of_mem {a b path : String} {route : List String} {type : FlagType}
    (h : Ledger c active p) (ha : p.compiled.contains a = true)
    (hroute : c.Follows (Cut p.events) a route path type) (hb : b ∈ route) :
    p.compiled.contains b = true := by
  induction hroute with
  | own => exact List.mem_singleton.1 hb ▸ ha
  | under hm hf hembed hcut _ ih =>
    rcases List.mem_cons.1 hb with rfl | hb
    · exact ha
    · exact ih (h.settled _ _ ha (.of_field hm hf hembed) hcut) hb

/-- What is left out of active message types changes no remembered one. -/
theorem Ledger.note (h : Ledger c active p) (hq : q.compiled = p.compiled)
    (hold : ∀ a b, Cut p.events a b → Cut q.events a b)
    (hnew : ∀ a b, Cut q.events a b → Cut p.events a b ∨ a ∈ active) : Ledger c active q := by
  have hknown : ∀ {a b}, p.compiled.contains a = true → (Cut q.events a b ↔ Cut p.events a b) := by
    intro a b ha
    refine ⟨fun hcut => (hnew a b hcut).resolve_right fun hactive => ?_, hold a b⟩
    rw [h.not_contains hactive] at ha
    cases ha
  have hsame : ∀ {a route path type}, p.compiled.contains a = true →
      (c.Follows (Cut q.events) a route path type ↔ c.Follows (Cut p.events) a route path type) := by
    intro a route path type ha
    refine ⟨fun hroute => hroute.reroute (hroute.linked.imp fun x y hxy hcut =>
      hxy.2 (hold x y hcut)), fun hroute => hroute.reroute ?_⟩
    refine hroute.linked.imp_of_mem_imp fun x y hx _ hxy hcut => hxy.2 ?_
    exact (hknown (h.contains_of_mem ha hroute hx)).1 hcut
  constructor
  case unknown => exact hq ▸ h.unknown
  case cutter =>
    intro a b hcut
    rw [hq]
    exact (hnew a b hcut).elim (h.cutter a b) .inl
  case settled =>
    rw [hq]
    exact fun a b ha he hcut => h.settled a b ha he fun hold' => hcut ((hknown ha).2 hold')
  case exact =>
    rw [hq]
    intro a s hs path type
    simp only [hsame (NameMap.contains_iff.2 ⟨s, hs⟩), h.exact a s hs]
  case distinct =>
    rw [hq]
    exact fun a route path type ha hroute => h.distinct a route path type ha ((hsame ha).1 hroute)

theorem Ledger.started (h : Ledger c active p) (hnone : p.compiled.get? name = none) :
    Ledger c (name :: active) (p.started name) := by
  have hwider : Ledger c (name :: active) p :=
    ⟨List.forall_mem_cons.2 ⟨hnone, h.unknown⟩,
      fun a b hcut => (h.cutter a b hcut).imp_left (List.mem_cons_of_mem _), h.settled, h.exact,
      h.distinct⟩
  refine hwider.note rfl (fun a b hcut => ?_) fun a b hcut => .inl ?_
  · simp [hcut]
  · simpa using hcut

/-- A flag that a field adds, given what is remembered. -/
inductive Adds (active : List String) (memo : NameMap FlagSchema) (f : Field) :
    String → FlagType → Prop where
  | own {type : FlagType} : f.contribution = .flag type →
      Adds active memo f (Text.lower f.name) type
  | under {b sub : String} {s : FlagSchema} {type : FlagType} : f.contribution = .embedded b →
      b ∉ active → memo.get? b = some s → s.flags.get? sub = some type →
      Adds active memo f (Text.lower (Text.lower f.name ++ "." ++ sub)) type

/-- How going through fields of `message` takes the ledger from `p` to `q`. -/
structure Enters (c : Catalog) (active : List String) (message : String) (fs : List Field)
    (p q : Progress) : Prop where
  ledger : Ledger c active q
  keeps : ∀ a b, Cut p.events a b → Cut q.events a b
  cuts : ∀ a b, Cut q.events a b → Cut p.events a b ∨ (a = message ∧ b ∈ active) ∨
    (a ∉ active ∧ p.compiled.get? a = none)
  skipped : ∀ f ∈ fs, ∀ b, f.contribution = .embedded b → b ∈ active → Cut q.events message b
  known : ∀ f ∈ fs, ∀ b, f.contribution = .embedded b → b ∉ active →
    ∃ s, q.compiled.get? b = some s

/-- Fields that embed nothing new and write nothing new down. -/
theorem Enters.of_same {fs : List Field} (h : Ledger c active p)
    (hq : q.compiled = p.compiled) (hevents : ∀ a b, Cut q.events a b ↔ Cut p.events a b)
    (hembed : ∀ f ∈ fs, ∀ b, f.contribution = .embedded b →
      b ∉ active ∧ ∃ s, p.compiled.get? b = some s) : Enters c active message fs p q where
  ledger := h.note hq (fun a b => (hevents a b).2) fun a b hcut => .inl ((hevents a b).1 hcut)
  keeps a b := (hevents a b).2
  cuts a b hcut := .inl ((hevents a b).1 hcut)
  skipped f hf b hb hactive := absurd hactive (hembed f hf b hb).1
  known f hf b hb _ := hq ▸ (hembed f hf b hb).2

section Walked

variable {m : MessageType} {flags : NameMap FlagType}

/-- The flags of a message type whose fields were gone through are those that can be found without
what was left out. -/
theorem Enters.exact (h : Enters c (name :: active) name m.fields p q)
    (hm : c.message? name = some m) (hcut : ∀ b, ¬Cut p.events name b)
    (hflags : ∀ path type, flags.get? path = some type ↔
      ∃ f ∈ m.fields, Adds (name :: active) q.compiled f path type) (path : String)
    (type : FlagType) :
    flags.get? path = some type ↔ ∃ route, c.Follows (Cut q.events) name route path type := by
  rw [hflags]
  constructor
  · rintro ⟨f, hf, hadds⟩
    cases hadds with
    | own hgive => exact ⟨_, .own hm hf hgive⟩
    | under hembed hb hs hsub =>
      obtain ⟨route, hroute⟩ := (h.ledger.exact _ _ hs _ _).1 hsub
      refine ⟨_, .under hm hf hembed (fun hnew => ?_) hroute⟩
      rcases h.cuts _ _ hnew with hold | ⟨-, hmem⟩ | ⟨hname, -⟩
      · exact hcut _ hold
      · exact hb hmem
      · exact hname List.mem_cons_self
  · rintro ⟨route, hroute⟩
    cases hroute with
    | own hm' hf hgive =>
      obtain rfl := Option.some.inj (hm'.symm.trans hm)
      exact ⟨_, hf, .own hgive⟩
    | under hm' hf hembed hskip hsub =>
      obtain rfl := Option.some.inj (hm'.symm.trans hm)
      have hb := mt (h.skipped _ hf _ hembed) hskip
      obtain ⟨s, hs⟩ := h.known _ hf _ hembed hb
      exact ⟨_, hf, .under hembed hb hs ((h.ledger.exact _ _ hs _ _).2 ⟨_, hsub⟩)⟩

theorem Enters.distinct {path : String} {route : List String} {type : FlagType}
    (h : Enters c (name :: active) name m.fields p q) (hm : c.message? name = some m)
    (hroute : c.Follows (Cut q.events) name route path type) : route.Nodup := by
  cases hroute with
  | own => exact List.nodup_singleton name
  | under hm' hf hembed hskip hsub =>
    obtain rfl := Option.some.inj (hm'.symm.trans hm)
    have hb := NameMap.contains_iff.2 (h.known _ hf _ hembed (mt (h.skipped _ hf _ hembed) hskip))
    refine List.nodup_cons.2 ⟨fun hname => ?_, h.ledger.distinct _ _ _ _ hb hsub⟩
    -- What is found by way of what is remembered is remembered, but `name` itself is still active.
    have hcontains := h.ledger.contains_of_mem hb hsub hname
    rw [h.ledger.not_contains List.mem_cons_self] at hcontains
    cases hcontains

/-- A message type whose fields were gone through may be remembered. -/
theorem Enters.completed (h : Enters c (name :: active) name m.fields p q)
    (hm : c.message? name = some m) (hname : name ∉ active) (hcut : ∀ b, ¬Cut p.events name b)
    (hflags : ∀ path type, flags.get? path = some type ↔
      ∃ f ∈ m.fields, Adds (name :: active) q.compiled f path type) :
    Ledger c active (q.completed name ⟨m.name, m.fullName, flags⟩) := by
  have hrest : ∀ {a}, (q.completed name ⟨m.name, m.fullName, flags⟩).compiled.contains a = true ↔
      a = name ∨ q.compiled.contains a = true := NameMap.contains_insert ..
  constructor
  case unknown =>
    intro a ha
    have hne : a ≠ name := fun heq => hname (heq ▸ ha)
    rw [Progress.completed_compiled, NameMap.get?_insert_of_ne _ _ hne]
    exact h.ledger.unknown a (List.mem_cons_of_mem _ ha)
  case cutter =>
    intro a b hab
    rw [hrest]
    rcases h.ledger.cutter a b hab with ha | ha
    · exact (List.mem_cons.1 ha).elim (fun ha => .inr (.inl ha)) .inl
    · exact .inr (.inr ha)
  case settled =>
    intro a b ha he hab
    rw [hrest] at ha ⊢
    rcases ha with rfl | ha
    · obtain ⟨m', hm', f, hf, hb⟩ := he
      obtain rfl := Option.some.inj (hm'.symm.trans hm)
      have hembed := Field.contribution_eq_embedded_iff.2 hb
      exact .inr (NameMap.contains_iff.2 (h.known f hf b hembed (mt (h.skipped f hf b hembed) hab)))
    · exact .inr (h.ledger.settled a b ha he hab)
  case exact =>
    intro a s hs
    rw [Progress.completed_compiled, NameMap.get?_insert] at hs
    split at hs
    · rename_i heq
      obtain rfl := Option.some.inj hs
      exact heq ▸ h.exact hm hcut hflags
    · exact h.ledger.exact a s hs
  case distinct =>
    intro a route path type ha hroute
    rcases hrest.1 ha with rfl | ha
    · exact h.distinct hm hroute
    · exact h.ledger.distinct a route path type ha hroute

end Walked

/-- What a field added stays what it adds when more is remembered. -/
theorem adds_iff_of_grows {f : Field} {memo more : NameMap FlagSchema} {path : String}
    {type : FlagType} (h : Grows memo more)
    (hknown : ∀ b, f.contribution = .embedded b → b ∉ active → ∃ s, memo.get? b = some s) :
    Adds active more f path type ↔ Adds active memo f path type := by
  constructor
  · rintro (hgive | ⟨hembed, hb, hs, hsub⟩)
    · exact .own hgive
    · obtain ⟨s, hold⟩ := hknown _ hembed hb
      obtain rfl := Option.some.inj ((h _ s hold).symm.trans hs)
      exact .under hembed hb hold hsub
  · rintro (hgive | ⟨hembed, hb, hs, hsub⟩)
    · exact .own hgive
    · exact .under hembed hb (h _ _ hs) hsub

theorem mem_nest_iff_adds {f : Field} {memo : NameMap FlagSchema} {s : FlagSchema} {path : String}
    {type : FlagType} (h : f.contribution = .embedded name) (hname : name ∉ active)
    (hs : memo.get? name = some s) :
    (path, type) ∈ nest f.name s.flags ↔ Adds active memo f path type := by
  rw [mem_nest]
  constructor
  · rintro ⟨sub, hsub, rfl⟩
    exact .under h hname hs hsub
  · rintro (hgive | ⟨hembed, -, hs', hsub⟩)
    · simp [h] at hgive
    · obtain rfl := Contribution.embedded.inj (h.symm.trans hembed)
      obtain rfl := Option.some.inj (hs.symm.trans hs')
      exact ⟨_, hsub, rfl⟩

/-- What fields add to one another stays: together they enter the ledger what each of them does. -/
theorem Enters.cons {f : Field} {fs : List Field} {r : Progress}
    (hfirst : Enters c active message [f] p q) (hrest : Enters c active message fs q r)
    (hgrows : Grows p.compiled q.compiled) (hmore : Grows q.compiled r.compiled) :
    Enters c active message (f :: fs) p r := by
  constructor
  case ledger => exact hrest.ledger
  case keeps => exact fun a b hcut => hrest.keeps a b (hfirst.keeps a b hcut)
  case cuts =>
    intro a b hcut
    rcases hrest.cuts a b hcut with hcut | hown | ⟨hactive, hnone⟩
    · exact hfirst.cuts a b hcut
    · exact .inr (.inl hown)
    · refine .inr (.inr ⟨hactive, Option.eq_none_iff_forall_ne_some.2 fun s hs => ?_⟩)
      rw [hgrows a s hs] at hnone
      cases hnone
  case skipped =>
    refine List.forall_mem_cons.2 ⟨fun b hb hactive => ?_, hrest.skipped⟩
    exact hrest.keeps message b (hfirst.skipped f List.mem_cons_self b hb hactive)
  case known =>
    refine List.forall_mem_cons.2 ⟨fun b hb hactive => ?_, hrest.known⟩
    obtain ⟨s, hs⟩ := hfirst.known f List.mem_cons_self b hb hactive
    exact ⟨s, hmore b s hs⟩

/-- The flags that fields give are those that they add, given all that is remembered afterwards. -/
theorem adds_traversal :
    (∀ active message f p new, (fieldFlags c active message f p).1 = .ok new →
      (∀ path type, (path, type) ∈ new ↔
        Adds active (fieldFlags c active message f p).2.compiled f path type) ∧
      ∀ b, f.contribution = .embedded b → b ∉ active →
        ∃ s, (fieldFlags c active message f p).2.compiled.get? b = some s) ∧
    ∀ active message fs flags p all, (flattenFields c active message fs flags p).1 = .ok all →
      (∀ path type, all.get? path = some type ↔ flags.get? path = some type ∨ ∃ f ∈ fs,
        Adds active (flattenFields c active message fs flags p).2.compiled f path type) ∧
      ∀ f ∈ fs, ∀ b, f.contribution = .embedded b → b ∉ active →
        ∃ s, (flattenFields c active message fs flags p).2.compiled.get? b = some s := by
  apply traversal
    (P := fun active _ f _ out => ∀ new, out.1 = .ok new →
      (∀ path type, (path, type) ∈ new ↔ Adds active out.2.compiled f path type) ∧
      ∀ b, f.contribution = .embedded b → b ∉ active → ∃ s, out.2.compiled.get? b = some s)
    (Q := fun active _ fs flags _ out => ∀ all, out.1 = .ok all →
      (∀ path type, all.get? path = some type ↔ flags.get? path = some type ∨ ∃ f ∈ fs,
        Adds active out.2.compiled f path type) ∧
      ∀ f ∈ fs, ∀ b, f.contribution = .embedded b → b ∉ active →
        ∃ s, out.2.compiled.get? b = some s)
  case unsupported | unknown | interrupted | failed | collision =>
    intros
    simp_all
  case flag =>
    intro active message f p type h new hnew
    obtain rfl := Except.ok.inj hnew
    refine ⟨fun path given => ⟨fun hmem => ?_, ?_⟩, fun b hb => by simp [h] at hb⟩
    · obtain ⟨rfl, rfl⟩ := Prod.mk.inj (List.mem_singleton.1 hmem)
      exact .own h
    · rintro (hgive | ⟨hembed, -, -, -⟩)
      · simp [Contribution.flag.inj (h.symm.trans hgive)]
      · simp [h] at hembed
  case silent =>
    intro active message f p q h _ _ _ new hnew
    obtain rfl := Except.ok.inj hnew
    refine ⟨fun path given => ⟨fun hmem => absurd hmem List.not_mem_nil, ?_⟩, fun b hb => ?_⟩
    · rintro (hgive | ⟨hembed, -, -, -⟩)
      · rcases h with h | h <;> simp [h] at hgive
      · rcases h with h | h <;> simp [h] at hembed
    · rcases h with h | h <;> simp [h] at hb
  case cut =>
    intro active message f p q name h hname _ _ _ new hnew
    obtain rfl := Except.ok.inj hnew
    refine ⟨fun path given => ⟨fun hmem => absurd hmem List.not_mem_nil, ?_⟩, fun b hb hnot => ?_⟩
    · rintro (hgive | ⟨hembed, hnot, -, -⟩)
      · simp [h] at hgive
      · obtain rfl := Contribution.embedded.inj (h.symm.trans hembed)
        exact absurd hname hnot
    · obtain rfl := Contribution.embedded.inj (h.symm.trans hb)
      exact absurd hname hnot
  case known =>
    intro active message f p name s h hname hs new hnew
    obtain rfl := Except.ok.inj hnew
    refine ⟨fun path given => mem_nest_iff_adds h hname hs, fun b hb _ => ?_⟩
    obtain rfl := Contribution.embedded.inj (h.symm.trans hb)
    exact ⟨s, hs⟩
  case walked =>
    intro active message f p name m flags q h hname _ _ _ _ new hnew
    obtain rfl := Except.ok.inj hnew
    have hself : (q.completed name ⟨m.name, m.fullName, flags⟩).compiled.get? name =
        some ⟨m.name, m.fullName, flags⟩ := NameMap.get?_insert_self ..
    refine ⟨fun path type => mem_nest_iff_adds h hname hself, fun b hb _ => ?_⟩
    obtain rfl := Contribution.embedded.inj (h.symm.trans hb)
    exact ⟨_, hself⟩
  case nil =>
    intro active message flags p all hall
    obtain rfl := Except.ok.inj hall
    simp
  case cons =>
    intro active message f fs flags p new q more out _ ih hadd hrest ihs all hall
    obtain ⟨hnew, hfirst⟩ := ih new rfl
    obtain ⟨hflags, hothers⟩ := ihs all hall
    have hmore := ((extends_traversal (c := c)).2 active message fs more q).grows
    rw [hrest] at hmore
    refine ⟨fun path type => ?_, List.forall_mem_cons.2 ⟨fun b hb hactive => ?_, hothers⟩⟩
    · rw [hflags, get?_addFlags hadd, hnew, ← adds_iff_of_grows hmore hfirst, or_assoc]
      simp
    · obtain ⟨s, hs⟩ := hfirst b hb hactive
      exact ⟨s, hmore b s hs⟩

/-- Going through fields takes the ledger on. -/
theorem ledger_traversal :
    (∀ active message f p, message ∈ active → Ledger c active p → ∀ new,
      (fieldFlags c active message f p).1 = .ok new →
      Enters c active message [f] p (fieldFlags c active message f p).2) ∧
    ∀ active message fs flags p, message ∈ active → Ledger c active p → ∀ all,
      (flattenFields c active message fs flags p).1 = .ok all →
      Enters c active message fs p (flattenFields c active message fs flags p).2 := by
  apply traversal
    (P := fun active message f p out => message ∈ active → Ledger c active p → ∀ new,
      out.1 = .ok new → Enters c active message [f] p out.2)
    (Q := fun active message fs _ p out => message ∈ active → Ledger c active p → ∀ all,
      out.1 = .ok all → Enters c active message fs p out.2)
  case unsupported | unknown | interrupted | failed | collision =>
    intros
    simp_all
  case flag =>
    intro active message f p type h _ hp new _
    exact .of_same hp rfl (fun _ _ => .rfl) (by simp [h])
  case silent =>
    intro active message f p q h hq _ hevents _ hp new _
    have hcuts : ∀ a b, Cut q.events a b ↔ Cut p.events a b := by
      intro a b
      rcases hevents with hevents | hevents <;> simp [hevents]
    exact .of_same hp hq hcuts (by rcases h with h | h <;> simp [h])
  case cut =>
    intro active message f p q name h hname hq _ hevents hmessage hp new _
    have hcuts : ∀ a b, Cut q.events a b ↔ Cut p.events a b ∨ (message = a ∧ name = b) := by
      simp [hevents]
    constructor
    case ledger =>
      refine hp.note hq (fun a b hcut => (hcuts a b).2 (.inl hcut)) fun a b hcut => ?_
      rcases (hcuts a b).1 hcut with hold | ⟨rfl, -⟩
      · exact .inl hold
      · exact .inr hmessage
    case keeps => exact fun a b hcut => (hcuts a b).2 (.inl hcut)
    case cuts =>
      intro a b hcut
      rcases (hcuts a b).1 hcut with hold | ⟨rfl, rfl⟩
      · exact .inl hold
      · exact .inr (.inl ⟨rfl, hname⟩)
    case skipped =>
      intro g hg b hb _
      obtain rfl := List.mem_singleton.1 hg
      exact (hcuts message b).2 (.inr ⟨rfl, Contribution.embedded.inj (h.symm.trans hb)⟩)
    case known =>
      intro g hg b hb hnot
      obtain rfl := List.mem_singleton.1 hg
      obtain rfl := Contribution.embedded.inj (h.symm.trans hb)
      exact absurd hname hnot
  case known =>
    intro active message f p name s h hname hs _ hp new _
    refine .of_same hp rfl (fun _ _ => .rfl) fun g hg b hb => ?_
    obtain rfl := List.mem_singleton.1 hg
    obtain rfl := Contribution.embedded.inj (h.symm.trans hb)
    exact ⟨hname, s, hs⟩
  case walked =>
    intro active message f p name m flags q h hname hnone hm hrun ih hmessage hp new _
    have henters := ih List.mem_cons_self (hp.started hnone) flags rfl
    obtain ⟨hflags, -⟩ := adds_traversal.2 (name :: active) name m.fields .empty (p.started name)
      flags (by rw [hrun])
    rw [hrun] at hflags
    have hcut : ∀ b, ¬Cut (p.started name).events name b := by
      intro b hcut
      rcases hp.cutter name b (by simpa using hcut) with hactive | hknown
      · exact hname hactive
      · simp [NameMap.contains, hnone] at hknown
    constructor
    case ledger => exact henters.completed hm hname hcut (by simpa using hflags)
    case keeps => exact fun a b hold => henters.keeps a b (by simpa using hold)
    case cuts =>
      intro a b hab
      rcases henters.cuts a b hab with hold | ⟨rfl, -⟩ | ⟨ha, hunknown⟩
      · exact .inl (by simpa using hold)
      · exact .inr (.inr ⟨hname, hnone⟩)
      · exact .inr (.inr ⟨fun hactive => ha (List.mem_cons_of_mem _ hactive), hunknown⟩)
    case skipped =>
      intro g hg b hb hactive
      obtain rfl := List.mem_singleton.1 hg
      obtain rfl := Contribution.embedded.inj (h.symm.trans hb)
      exact absurd hactive hname
    case known =>
      intro g hg b hb _
      obtain rfl := List.mem_singleton.1 hg
      obtain rfl := Contribution.embedded.inj (h.symm.trans hb)
      exact ⟨_, NameMap.get?_insert_self ..⟩
  case nil =>
    intro active message flags p _ hp all _
    exact .of_same hp rfl (fun _ _ => .rfl) (by simp)
  case cons =>
    intro active message f fs flags p new q more out hfield ih _ hrest ihs hmessage hp all hall
    have hfirst := ih hmessage hp new rfl
    have hgrows := ((extends_traversal (c := c)).1 active message f p).grows
    have hmore := ((extends_traversal (c := c)).2 active message fs more q).grows
    rw [hfield] at hgrows
    rw [hrest] at hmore
    exact hfirst.cons (ihs hmessage hfirst.ledger all hall) hgrows hmore

end ServiceCli.Flattener
