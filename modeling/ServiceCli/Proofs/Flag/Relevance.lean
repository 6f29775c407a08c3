import ServiceCli.Proofs.Flag.Traversal

/-!
What flattening looks at. Of a catalog it reads the message types that embeddings lead to, and no
others, so it does not tell apart two catalogs that agree on these.
-/
namespace ServiceCli

namespace Catalog

variable {c d : Catalog} {a b : String}

/-- Two catalogs have the same message types, and lack the same, wherever embeddings lead from a
message type. -/
def AgreeFrom (c d : Catalog) (name : String) : Prop :=
  ∀ a, c.Reaches name a → c.message? a = d.message? a

theorem AgreeFrom.of_embeds (h : c.AgreeFrom d a) (hab : c.Embeds a b) : c.AgreeFrom d b :=
  fun x hx => h x (.head hab hx)

end Catalog

namespace Flattener

variable {c d : Catalog} {name : String}

/-- Every step is the same in both catalogs. What an embedded message type reaches is reached from
the one that embeds it, so the steps inside it are the same too. -/
theorem agree_traversal :
    (∀ active message f p, c.AgreeFrom d message → FieldsOf c message [f] →
      fieldFlags d active message f p = fieldFlags c active message f p) ∧
    ∀ active message fs flags p, c.AgreeFrom d message → FieldsOf c message fs →
      flattenFields d active message fs flags p = flattenFields c active message fs flags p := by
  apply fieldFlags.mutual_induct c
  case case1 | case2 | case3 | case4 =>
    intros
    simp_all only [fieldFlags]
  case case5 =>
    intro active message f p name h hactive _ _
    rw [fieldFlags_of_active h hactive, fieldFlags_of_active h hactive]
  case case6 =>
    intro active message f p name h hactive s hs _ _
    rw [fieldFlags_of_known h hactive hs, fieldFlags_of_known h hactive hs]
  case case7 =>
    intro active message f p name h hactive hnone hm hagree hf
    have hm' : d.message? name = none := (hagree name (.single (hf.embeds h))).symm.trans hm
    rw [fieldFlags_of_unknown h hactive hnone hm', fieldFlags_of_unknown h hactive hnone hm]
  case case8 =>
    intro active message f p name h hactive hnone m hm e q _ ih hagree hf
    have hm' : d.message? name = some m := (hagree name (.single (hf.embeds h))).symm.trans hm
    rw [fieldFlags_of_new h hactive hnone hm', fieldFlags_of_new h hactive hnone hm,
      ih (hagree.of_embeds (hf.embeds h)) (.of_message hm)]
  case case9 =>
    intro active message f p name h hactive hnone m hm flags q _ ih hagree hf
    have hm' : d.message? name = some m := (hagree name (.single (hf.embeds h))).symm.trans hm
    rw [fieldFlags_of_new h hactive hnone hm', fieldFlags_of_new h hactive hnone hm,
      ih (hagree.of_embeds (hf.embeds h)) (.of_message hm)]
  case case10 =>
    intro active message flags p _ _
    simp only [flattenFields]
  case case11 =>
    intro active message flags p f fs e q hrun ih hagree hfs
    rw [flattenFields, flattenFields, ih hagree hfs.head, hrun]
  case case12 =>
    intro active message flags p f fs new q hrun path hadd ih hagree hfs
    rw [flattenFields, flattenFields, ih hagree hfs.head, hrun]
    simp only [hadd]
  case case13 =>
    intro active message flags p f fs new q hrun more hadd ih ihs hagree hfs
    rw [flattenFields, flattenFields, ih hagree hfs.head, hrun]
    simp only [hadd, ihs hagree hfs.tail]

/-- A flattening answers the same in both catalogs, leaves the same behind and does the same. -/
theorem flatten_eq_of_agree (h : c.AgreeFrom d name) (s : Flattener) :
    s.flatten d name = s.flatten c name := by
  have hname : d.message? name = c.message? name := (h name .refl).symm
  cases hmemo : s.compiled.get? name with
  | some schema => rw [flatten_of_known hmemo, flatten_of_known hmemo]
  | none =>
    cases hm : c.message? name with
    | none => rw [flatten_of_unknown hmemo (hname.trans hm), flatten_of_unknown hmemo hm]
    | some m =>
      have hrun := agree_traversal.2 (s.marks name) name m.fields .empty (s.begun name) h
        (.of_message hm)
      simp only [marks, begun] at hrun
      simp only [flatten, hmemo, hname, hm, hrun]

end Flattener

end ServiceCli
