import ServiceCli.Proofs.Flag.Interruption

/-!
What in a catalog makes a flattening fail: a field that no flag can express, a message type that is
embedded and not there, or one whose fields come out as the same flag.
-/
namespace ServiceCli

/-- What a failure of a flattening says of the catalog. -/
def Catalog.Causes (c : Catalog) : Failure → Prop
  | .unsupportedFieldKind message field kind => ∃ m, c.message? message = some m ∧
      ∃ f ∈ m.fields, f.name = field ∧ f.contribution = .unsupported kind
  | .unknownMessage name => c.message? name = none ∧ ∃ a, c.Embeds a name
  | .flagCollision message _ => ∃ m, c.message? message = some m
  | _ => False

namespace Flattener

variable {c : Catalog} {s : Flattener} {name : String} {e : Failure}

theorem causes_traversal :
    (∀ active message f p, FieldsOf c message [f] → ∀ e,
      (fieldFlags c active message f p).1 = .error e → c.Causes e.failure) ∧
    ∀ active message fs flags p, FieldsOf c message fs → ∀ e,
      (flattenFields c active message fs flags p).1 = .error e → c.Causes e.failure := by
  apply traversal
    (P := fun _ message f _ out => FieldsOf c message [f] → ∀ e, out.1 = .error e →
      c.Causes e.failure)
    (Q := fun _ message fs _ _ out => FieldsOf c message fs → ∀ e, out.1 = .error e →
      c.Causes e.failure)
  case flag | silent | cut | known | walked | nil =>
    intros
    simp_all
  case unsupported =>
    rintro active message f p kind h ⟨m, hm, hf⟩ e he
    obtain rfl := Except.error.inj he
    exact ⟨m, hm, f, hf f List.mem_cons_self, rfl, h⟩
  case unknown =>
    intro active message f p name h _ _ hm hf e he
    obtain rfl := Except.error.inj he
    exact ⟨hm, message, hf.embeds h⟩
  case interrupted =>
    intro active message f p name m e q _ _ _ hm _ ih _ e' he
    obtain rfl := Except.error.inj he
    exact ih (.of_message hm) e rfl
  case failed =>
    intro active message f fs flags p e q ih hfs e' he
    obtain rfl := Except.error.inj he
    exact ih hfs.head e rfl
  case collision =>
    rintro active message f fs flags p new q path _ _ ⟨m, hm, -⟩ e he
    obtain rfl := Except.error.inj he
    exact ⟨m, hm⟩
  case cons =>
    intro active message f fs flags p new q more out _ _ _ _ ihs hfs
    exact ihs hfs.tail

theorem causes_of_error (h : (s.flatten c name).result = .error e) :
    (e = .unknownMessage name ∧ c.message? name = none) ∨ c.Causes e := by
  cases hmemo : s.compiled.get? name with
  | some schema =>
    rw [flatten_of_known hmemo] at h
    cases h
  | none =>
    cases hm : c.message? name with
    | none =>
      rw [flatten_of_unknown hmemo hm] at h
      exact .inl ⟨(Except.error.inj h).symm, rfl⟩
    | some m =>
      obtain ⟨marked, q, hrun, -⟩ := flatten_of_error hmemo hm h
      exact .inr (causes_traversal.2 (s.marks name) name m.fields .empty (s.begun name)
        (.of_message hm) _ (by rw [hrun]))

end Flattener

end ServiceCli
