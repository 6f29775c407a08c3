import Mathlib
import ServiceCli.Proofs.Flag.Ledger

/-!
Flags come from fields, whatever was flattened before and whether or not that failed. Every flag is
found along a route through distinct message types, and a message type has the flags of all its own
fields that give one.
-/
namespace ServiceCli

/-- The fields that give a flag by themselves, with its type. -/
inductive Field.Bears : Field → FlagType → Prop where
  | scalar {name : String} {s : Scalar} : Bears ⟨name, .scalar s, false⟩ ⟨.ofScalar s, false⟩
  | enumeration {name e : String} : Bears ⟨name, .enumeration e, false⟩ ⟨.string, false⟩
  | scalars {name : String} {s : Scalar} : Bears ⟨name, .scalar s, true⟩ ⟨.ofScalar s, true⟩
  | enumerations {name e : String} : Bears ⟨name, .enumeration e, true⟩ ⟨.string, true⟩
  | map {name : String} {value : FieldKind} : value.isMessage = false →
      Bears ⟨name, .map (.scalar .string) value, false⟩ ⟨.stringMap, false⟩

theorem Field.contribution_eq_flag_iff {f : Field} {type : FlagType} :
    f.contribution = .flag type ↔ f.Bears type := by
  constructor
  · obtain ⟨name, kind, repeated⟩ := f
    intro h
    cases repeated <;> cases kind <;> simp only [contribution, Bool.false_eq_true, if_false,
      if_true, reduceCtorEq, Contribution.flag.injEq] at h
    case false.scalar => exact h ▸ .scalar
    case false.enumeration => exact h ▸ .enumeration
    case true.scalar => exact h ▸ .scalars
    case true.enumeration => exact h ▸ .enumerations
    case false.map key value =>
      split at h
      · rename_i hmap
        obtain ⟨rfl, hvalue⟩ := hmap
        obtain rfl := Contribution.flag.inj h
        exact .map (by simpa using hvalue)
      · cases h
  · rintro (_ | _ | _ | _ | hvalue)
    case map => simp [contribution, hvalue]
    all_goals rfl

namespace Flattener

variable {c : Catalog} {active : List String} {memo more : NameMap FlagSchema} {name : String}
  {flags : NameMap FlagType} {s : Flattener}

/-- The states that any number of flattenings lead to, whether or not some of them failed. -/
inductive Called (c : Catalog) : Flattener → Prop where
  | fresh : Called c {}
  | call {s : Flattener} (name : String) : Called c s → Called c (s.flatten c name).flattener

/-- A flag is found along a route through distinct message types. All of them are remembered,
except that the first one need not be. -/
def Traced (c : Catalog) (memo : NameMap FlagSchema) (name path : String) (type : FlagType) : Prop :=
  ∃ rest, c.Follows (fun _ _ => False) name (name :: rest) path type ∧ (name :: rest).Nodup ∧
    ∀ a ∈ rest, memo.contains a = true

/-- The flags of a message type are found along routes, and those of its own fields are all
there. -/
structure Rooted (c : Catalog) (memo : NameMap FlagSchema) (name : String)
    (flags : NameMap FlagType) : Prop where
  traced : ∀ path type, flags.get? path = some type → Traced c memo name path type
  own : ∃ m, c.message? name = some m ∧ ∀ f ∈ m.fields, ∀ type, f.contribution = .flag type →
    flags.get? (Text.lower f.name) = some type

/-- All that is remembered is rooted in what is remembered. -/
def Grounded (c : Catalog) (memo : NameMap FlagSchema) : Prop :=
  ∀ name s, memo.get? name = some s → Rooted c memo name s.flags

theorem Rooted.grow (h : Rooted c memo name flags) (hmore : Grows memo more) :
    Rooted c more name flags := by
  refine ⟨fun path type hget => ?_, h.own⟩
  obtain ⟨rest, hroute, hdistinct, hknown⟩ := h.traced path type hget
  exact ⟨rest, hroute, hdistinct, fun a ha => hmore.contains (hknown a ha)⟩

theorem Grounded.insert {schema : FlagSchema} (h : Grounded c memo)
    (hnone : memo.get? name = none) (hschema : Rooted c memo name schema.flags) :
    Grounded c (memo.insert name schema) := by
  have hmore : Grows memo (memo.insert name schema) := Grows.insert (fun _ _ => id) hnone
  intro other s hs
  rw [NameMap.get?_insert] at hs
  split at hs
  · rename_i hother
    rw [← Option.some.inj hs, hother]
    exact hschema.grow hmore
  · exact (h other s hs).grow hmore

/-- What is remembered of embedded message types does not lead back to a message type that is not
remembered itself. -/
theorem Rooted.of_adds {m : MessageType} (hmemo : Grounded c memo) (hm : c.message? name = some m)
    (hnone : memo.get? name = none)
    (hflags : ∀ path type, flags.get? path = some type ↔
      ∃ f ∈ m.fields, Adds active memo f path type) : Rooted c memo name flags := by
  refine ⟨fun path type hget => ?_, m, hm, fun f hf type hgive => ?_⟩
  · obtain ⟨f, hf, hadds⟩ := (hflags path type).1 hget
    cases hadds with
    | own hgive => exact ⟨[], .own hm hf hgive, List.nodup_singleton name, by simp⟩
    | @under b sub s _ hembed _ hs hsub =>
      obtain ⟨rest, hroute, hdistinct, hknown⟩ := (hmemo b s hs).traced sub type hsub
      have hall : ∀ a ∈ b :: rest, memo.contains a = true :=
        List.forall_mem_cons.2 ⟨NameMap.contains_iff.2 ⟨s, hs⟩, hknown⟩
      have hname : name ∉ b :: rest := by
        intro hmem
        have hcontains := hall name hmem
        simp [NameMap.contains, hnone] at hcontains
      exact ⟨b :: rest, .under hm hf hembed id hroute, hdistinct.cons hname, hall⟩
  · exact (hflags _ type).2 ⟨f, hf, .own hgive⟩

/-- The fields of a message type that is active and not remembered give it rooted flags. -/
theorem Grounded.walked {m : MessageType} {p q : Progress} (hm : c.message? name = some m)
    (hnone : p.compiled.get? name = none) (hname : name ∈ active)
    (hrun : flattenFields c active name m.fields .empty p = (.ok flags, q))
    (hmemo : Grounded c q.compiled) :
    Grounded c (q.compiled.insert name ⟨m.name, m.fullName, flags⟩) := by
  have hext := extends_traversal (c := c).2 active name m.fields .empty p
  obtain ⟨hflags, -⟩ := adds_traversal.2 active name m.fields .empty p flags (by rw [hrun])
  rw [hrun] at hext hflags
  have hunknown : q.compiled.get? name = none := hext.spares name hname hnone
  exact hmemo.insert hunknown (.of_adds hmemo hm hunknown (by simpa using hflags))

theorem Called.grounded (hs : Called c s) : Grounded c s.compiled := by
  induction hs with
  | fresh =>
    intro name s hs
    simp at hs
  | call name _ ih => exact memo_flatten Grounded.walked ih

theorem dot_mem_lower {text : String} (h : '.' ∈ text.toList) :
    '.' ∈ (Text.lower text).toList := by
  have hfrom : ∀ before after, '.' ∈ after → '.' ∈ Text.lowerFrom before after := by
    intro before after hafter
    induction after generalizing before with
    | nil => exact hafter
    | cons ch after ih =>
      rw [Text.lowerFrom, List.mem_append]
      rcases List.mem_cons.1 hafter with rfl | hafter
      · rw [if_neg (by decide), Catalog.lowerChar_of_plain (.inr rfl)]
        exact .inl (List.mem_singleton.2 rfl)
      · exact .inr (ih _ hafter)
  rw [Text.lower, String.toList_ofList]
  exact hfrom [] text.toList h

/-- A path without a dot is that of a field of the message type itself. -/
theorem Rooted.undotted {path : String} {type : FlagType} (h : Rooted c memo name flags)
    (hdot : '.' ∉ path.toList) : flags.get? path = some type ↔ ∃ m, c.message? name = some m ∧
      ∃ f ∈ m.fields, f.Bears type ∧ Text.lower f.name = path := by
  constructor
  · intro hget
    obtain ⟨rest, hroute, -⟩ := h.traced path type hget
    cases hroute with
    | own hm hf hgive => exact ⟨_, hm, _, hf, Field.contribution_eq_flag_iff.1 hgive, rfl⟩
    | under => exact absurd (dot_mem_lower (by simp)) hdot
  · rintro ⟨m, hm, f, hf, hbears, rfl⟩
    obtain ⟨m', hm', hown⟩ := h.own
    obtain rfl := Option.some.inj (hm'.symm.trans hm)
    exact hown f hf type (Field.contribution_eq_flag_iff.2 hbears)

/-- After any calls, each flag of an answer is found along a route of embeddings through distinct
message types to a field that gives it, and every field of the message type itself that gives a flag
has it there. -/
theorem flatten_sound (c : Catalog) (s : Flattener) (hs : Called c s) (name : String)
    (x : FlagSchema) (hok : (s.flatten c name).result = .ok x) :
    (∀ path type, x.flags.get? path = some type →
      ∃ route, c.Follows (fun _ _ => False) name route path type ∧ route.Nodup) ∧
    ∃ m, c.message? name = some m ∧ ∀ f ∈ m.fields, ∀ type, f.Bears type →
      x.flags.get? (Text.lower f.name) = some type := by
  have hrooted := (hs.call name).grounded name x (get?_of_ok hok)
  refine ⟨fun path type hget => ?_, ?_⟩
  · obtain ⟨rest, hroute, hdistinct, -⟩ := hrooted.traced path type hget
    exact ⟨name :: rest, hroute, hdistinct⟩
  · obtain ⟨m, hm, hown⟩ := hrooted.own
    exact ⟨m, hm, fun f hf type hbears => hown f hf type (Field.contribution_eq_flag_iff.2 hbears)⟩

/-- Two message types that embed a third. One of them has a field of an unsupported kind, and the
third embeds it in turn. -/
def yard : Catalog where
  messages.entries :=
    [("acme.Bike", ⟨"Bike", "acme.Bike",
      [⟨"wheel", .message "acme.Wheel", false⟩, ⟨"tags", .scalar .string, true⟩]⟩),
     ("acme.Cart", ⟨"Cart", "acme.Cart",
      [⟨"wheel", .message "acme.Wheel", false⟩, ⟨"load", .group "acme.Load", false⟩]⟩),
     ("acme.Wheel", ⟨"Wheel", "acme.Wheel",
      [⟨"on", .scalar .bool, false⟩, ⟨"cart", .message "acme.Cart", false⟩]⟩)]
  messages.ascending := by decide

theorem yard_cart : ({} : Flattener).flatten yard "acme.Cart" =
    ⟨.error (.unsupportedFieldKind "acme.Cart" "load" (.group "acme.Load")),
      ⟨.ofList [("acme.Wheel", ⟨"Wheel", "acme.Wheel", .ofList [("on", ⟨.bool, false⟩)]⟩)],
        ["acme.Cart"], 2⟩,
      [.flattening "acme.Cart", .flattening "acme.Wheel",
        .recursionSkipped "acme.Wheel" "cart" "acme.Cart"]⟩ := by cbv

theorem yard_bike :
    ((({} : Flattener).flatten yard "acme.Cart").flattener.flatten yard "acme.Bike").result =
      .ok ⟨"Bike", "acme.Bike", .ofList [("tags", ⟨.string, true⟩),
        ("wheel.on", ⟨.bool, false⟩)]⟩ := by
  rw [yard_cart]
  cbv

/-- A bike has its wheel's flags from the call in which the cart failed. -/
theorem yard_sound : Called yard (({} : Flattener).flatten yard "acme.Cart").flattener ∧
    ∃ x, ((({} : Flattener).flatten yard "acme.Cart").flattener.flatten yard
        "acme.Bike").result = .ok x ∧
      (∃ route, yard.Follows (fun _ _ => False) "acme.Bike" route "wheel.on" ⟨.bool, false⟩ ∧
        route.Nodup) ∧
      x.flags.get? (Text.lower "tags") = some ⟨.string, true⟩ := by
  have hcalled := Called.fresh.call (c := yard) "acme.Cart"
  obtain ⟨hroutes, m, hm, hown⟩ := flatten_sound yard _ hcalled "acme.Bike" _ yard_bike
  obtain rfl := Option.some.inj hm
  refine ⟨hcalled, _, yard_bike, hroutes "wheel.on" _ (by decide), ?_⟩
  exact hown ⟨"tags", .scalar .string, true⟩ (by simp) _ .scalars

end Flattener

end ServiceCli
