import Mathlib.Logic.Relation
import ServiceCli.Flag.Contribution

/-!
Which message types embed which. Only a field that holds a single message takes the flags of a
message over, so these fields are the edges along which flattening goes.
-/
namespace ServiceCli

theorem Field.contribution_eq_embedded_iff {f : Field} {name : String} :
    f.contribution = .embedded name ↔ f.repeated = false ∧ f.kind = .message name := by
  unfold Field.contribution
  by_cases hr : f.repeated = true
  · rw [if_pos hr]
    cases f.kind <;> simp [hr]
  · rw [if_neg hr]
    cases f.kind with
    | map key value =>
      dsimp only
      split <;> simp
    | _ => simp [hr]

namespace Catalog

/-- A field of the message type `a` holds one message of the type `b`. -/
def Embeds (c : Catalog) (a b : String) : Prop :=
  ∃ m, c.message? a = some m ∧ ∃ f ∈ m.fields, f.repeated = false ∧ f.kind = .message b

/-- Zero or more embeddings lead from one message type to another. -/
abbrev Reaches (c : Catalog) : String → String → Prop := Relation.ReflTransGen c.Embeds

/-- No message type that can be reached reaches itself. -/
def Nonrecursive (c : Catalog) (name : String) : Prop :=
  ∀ a, c.Reaches name a → ¬ Relation.TransGen c.Embeds a a

/-- A field of the message type gives a flag. -/
def Gives (c : Catalog) (a : String) : Prop :=
  ∃ m, c.message? a = some m ∧ ∃ f ∈ m.fields, ∃ type, f.contribution = .flag type

/-- Embeddings lead from the message type to a flag. -/
def Flagged (c : Catalog) (a : String) : Prop := ∃ b, c.Reaches a b ∧ c.Gives b

/-- No two message types that can be reached reach each other, unless they lead to no flag. A
message type may still embed itself. -/
def Untangled (c : Catalog) (name : String) : Prop :=
  ∀ a b, c.Reaches name a → c.Flagged a → c.Reaches a b → c.Reaches b a → a = b

variable {c : Catalog} {a b name : String}

theorem Embeds.of_field {m : MessageType} {f : Field} (hm : c.message? a = some m)
    (hf : f ∈ m.fields) (h : f.contribution = .embedded b) : c.Embeds a b :=
  ⟨m, hm, f, hf, Field.contribution_eq_embedded_iff.1 h⟩

theorem Nonrecursive.of_embeds (h : c.Nonrecursive a) (hab : c.Embeds a b) : c.Nonrecursive b :=
  fun x hx => h x (.head hab hx)

theorem Flagged.of_reaches (h : c.Flagged b) (hab : c.Reaches a b) : c.Flagged a := by
  obtain ⟨d, hbd, hgives⟩ := h
  exact ⟨d, hab.trans hbd, hgives⟩

theorem Untangled.of_embeds (h : c.Untangled a) (hab : c.Embeds a b) : c.Untangled b :=
  fun x y hx => h x y (.head hab hx)

/-- What `skip` leaves out of the message types in `U` includes what leads back to the containing
type. Apart from types without flags, it is the containing type alone. -/
structure Breaks (c : Catalog) (skip : String → String → Bool) (U : String → Prop) : Prop where
  closed : ∀ {a b}, U a → c.Embeds a b → U b
  loop : ∀ {a b}, U a → c.Embeds a b → skip a b = true → b = a ∨ ¬c.Flagged b
  back : ∀ {a b}, U a → c.Embeds a b → c.Reaches b a → skip a b = true

theorem breaks_nonrecursive (c : Catalog) : c.Breaks (fun _ _ => false) c.Nonrecursive where
  closed := Nonrecursive.of_embeds
  loop _ _ h := by simp at h
  back hU hab hba := absurd (Relation.TransGen.head' hab hba) (hU _ .refl)

open Classical in
/-- Leaves out fields of a type's own type and of types without flags. -/
noncomputable def passesOver (c : Catalog) (a b : String) : Bool := decide (b = a ∨ ¬c.Flagged b)

theorem passesOver_iff : c.passesOver a b = true ↔ b = a ∨ ¬c.Flagged b := by
  simp only [passesOver, decide_eq_true_eq]

theorem breaks_untangled (c : Catalog) : c.Breaks c.passesOver c.Untangled where
  closed := Untangled.of_embeds
  loop _ _ h := passesOver_iff.1 h
  back {a b} hU hab hba := by
    rw [passesOver_iff]
    by_cases hb : c.Flagged b
    · exact .inl (hU a b .refl (hb.of_reaches (.single hab)) (.single hab) hba).symm
    · exact .inr hb

end Catalog

end ServiceCli
