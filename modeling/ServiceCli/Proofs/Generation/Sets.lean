import ServiceCli.Proofs.Flag.Soundness
import ServiceCli.Proofs.Generation.Naming

/-!
The sets of flags of a file. They are those that are remembered of the request types, and none has
the flag that takes the whole request.
-/
namespace ServiceCli

/-- Every message type is registered under its own full name. -/
def Catalog.Keyed (c : Catalog) : Prop := ∀ name m, c.message? name = some m → m.fullName = name

/-- A field gives a flag named like the one that takes the whole request. -/
def MessageType.Reserves (m : MessageType) : Prop :=
  ∃ f ∈ m.fields, ∃ type, f.Bears type ∧ Text.lower f.name = requestFlag

namespace Generation

open Flattener (Served)

variable {c : Catalog} {settings : Settings} {f : ServiceFile} {s : Service} {m : Method}
  {flags flags' : Flags}

/-- Every set of flags is remembered, and none has the reserved flag. -/
structure Flags.Kept (c : Catalog) (flags : Flags) : Prop where
  served : Served c flags.flattener
  known : Flattener.Grows flags.sets flags.flattener.compiled
  free : ∀ name x, flags.sets.get? name = some x → ¬x.flags.contains requestFlag

theorem Flags.Kept.empty {flattener : Flattener} (h : Served c flattener) :
    Flags.Kept c ⟨flattener, .empty⟩ where
  served := h
  known name x hx := by simp at hx
  free name x hx := by simp at hx

theorem Flags.Kept.gather (h : flags.Kept c) (hgather : (gather c flags m).outcome = .ok flags') :
    flags'.Kept c := by
  obtain ⟨-, rfl⟩ | ⟨-, schema, hschema, hfree, rfl⟩ := gather_eq_ok.1 hgather
  · exact h
  · refine ⟨h.served.call hschema, fun name x hx => ?_, fun name x hx => ?_⟩
    · rw [NameMap.get?_insert] at hx
      split at hx
      · rename_i hname
        rw [hname, ← Option.some.inj hx]
        exact Flattener.get?_of_ok hschema
      · exact Flattener.grows_flatten _ _ name x (h.known name x hx)
    · rw [NameMap.get?_insert] at hx
      split at hx
      · rwa [← Option.some.inj hx]
      · exact h.free name x hx

theorem Flags.Kept.gathered {ms : List Method} (h : flags.Kept c)
    (hgathered : gathered c flags ms = .ok flags') : flags'.Kept c :=
  gathered_keeps Flags.Kept.gather h hgathered

theorem AtFile.served {α : Type} {nameOf : String → String} {write : FilePlan → Except Stop α}
    {fs : List ServiceFile} {flattener flattener' : Flattener}
    (h : AtFile c settings nameOf write fs flattener f flattener') (hserved : Served c flattener) :
    Served c flattener' := by
  obtain ⟨-, before, after, as, -, hbefore⟩ := h
  exact served_files hserved hbefore

theorem AtService.kept {layout : Layout} {ss : List Service}
    (h : AtService c layout ss flags s flags') (hkept : flags.Kept c) : flags'.Kept c := by
  obtain ⟨before, after, cs, -, hbefore⟩ := h
  exact hkept.gathered (services_eq_ok.1 hbefore).2

theorem AtMethod.kept {ms : List Method} {t t' : VerbTable}
    (h : AtMethod c ms (t, flags) m t' flags') (hkept : flags.Kept c) : flags'.Kept c := by
  obtain ⟨before, after, -, hbefore⟩ := h
  exact hkept.gathered (methods_eq_ok.1 hbefore).2

theorem Comes.kept {α : Type} {nameOf : String → String} {write : FilePlan → Except Stop α}
    {fs : List ServiceFile} {flattener : Flattener} {p : FilePlan}
    (h : Comes c settings nameOf write fs flattener f p) (hserved : Served c flattener) :
    ∃ flattener', Flags.Kept c ⟨flattener', p.flagsets⟩ := by
  obtain ⟨flattener₁, hf, flattener₂, hplan⟩ := comes_iff.1 h
  obtain ⟨trees, sets, -, hsets, rfl⟩ := plan_eq_ok.1 hplan
  exact ⟨flattener₂, (Flags.Kept.empty (hf.served hserved)).gathered hsets⟩

/-- The set of flags of a request type is what flattening it again gives. -/
theorem Flags.Kept.not_contains {x : FlagSchema} (h : flags.Kept c)
    (hok : (flags.flattener.flatten c m.inputType).result = .ok x)
    (hreserved : x.flags.contains requestFlag) : ¬flags.sets.contains m.inputType := by
  intro hknown
  obtain ⟨y, hy⟩ := NameMap.contains_iff.1 hknown
  rw [Flattener.flatten_of_known (h.known _ y hy)] at hok
  exact h.free _ y hy (Except.ok.inj hok ▸ hreserved)

end Generation

theorem Flattener.Called.of_served {c : Catalog} {s : Flattener} (h : Flattener.Served c s) :
    Flattener.Called c s := by
  induction h with
  | fresh => exact .fresh
  | call _ _ ih => exact ih.call _

/-- Only a field of the message type itself can have the reserved flag, since the paths of embedded
message types have a dot. -/
theorem Flattener.contains_requestFlag_iff {c : Catalog} {s : Flattener} {name : String}
    {x : FlagSchema} (hs : Flattener.Called c s) (hok : (s.flatten c name).result = .ok x) :
    x.flags.contains requestFlag ↔ ∃ m, c.message? name = some m ∧ m.Reserves := by
  have hrooted := (hs.call name).grounded name x (Flattener.get?_of_ok hok)
  have hdot : '.' ∉ requestFlag.toList := by decide
  rw [NameMap.contains_iff]
  simp only [hrooted.undotted hdot, MessageType.Reserves]
  constructor
  · rintro ⟨type, m, hm, f, hf, hbears, hname⟩
    exact ⟨m, hm, f, hf, type, hbears, hname⟩
  · rintro ⟨m, hm, f, hf, type, hbears, hname⟩
    exact ⟨type, m, hm, f, hf, hbears, hname⟩

namespace Generation

open Flattener (Served Called)

/-- No method of a file that a run comes to has a request type with a field named like the reserved
flag. -/
theorem Comes.not_reserves {c : Catalog} {settings : Settings} {α : Type} {nameOf : String → String}
    {write : FilePlan → Except Stop α} {fs : List ServiceFile} {flattener : Flattener}
    {f : ServiceFile} {p : FilePlan} (h : Comes c settings nameOf write fs flattener f p)
    (hserved : Served c flattener) {s : Service} (hs : s ∈ f.services) {m : Method}
    (hm : m ∈ s.methods) {type : MessageType} (htype : c.message? m.inputType = some type) :
    ¬type.Reserves := by
  intro hreserves
  obtain ⟨flattener', hkept⟩ := h.kept hserved
  obtain ⟨x, hx⟩ := NameMap.contains_iff.1 ((h.contains_iff _).2 ⟨s, hs, m, hm, rfl⟩)
  have hok : (flattener'.flatten c m.inputType).result = .ok x := by
    rw [Flattener.flatten_of_known (hkept.known _ x hx)]
  exact hkept.free _ x hx
    ((Flattener.contains_requestFlag_iff (.of_served hkept.served) hok).2 ⟨type, htype, hreserves⟩)

end Generation

end ServiceCli
