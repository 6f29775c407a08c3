import Mathlib.Data.List.Nodup
import ServiceCli.Proofs.Flag.Embedding
import ServiceCli.Text.CaseMapping
import ServiceCli.Text.Pieces

/-!
Where flags come from. The path of a flag is made of the names of fields: those of the fields that
embed one message in another, and that of the field that gives the flag. Where field names are
plain, a path leads to one message type only.
-/
namespace ServiceCli.Catalog

variable {c : Catalog}

/-- `Offers c name path route` says that embeddings lead from `name` along `route` to a field which
gives a flag, and that `path` is the path of the flag among those of `name`. -/
inductive Offers (c : Catalog) : String → String → List String → Prop where
  | own {name : String} {m : MessageType} {f : Field} {type : FlagType} :
      c.message? name = some m → f ∈ m.fields → f.contribution = .flag type →
      Offers c name (Text.lower f.name) [name]
  | under {name path b : String} {route : List String} {m : MessageType} {f : Field} :
      c.message? name = some m → f ∈ m.fields → f.contribution = .embedded b →
      Offers c b path route →
      Offers c name (Text.lower (Text.lower f.name ++ "." ++ path)) (name :: route)

/-- A path tells which message types lead to the field that gives the flag. -/
def Legible (c : Catalog) : Prop :=
  ∀ name path route route', c.Offers name path route → c.Offers name path route' → route = route'

theorem Offers.mem_route {name path : String} {route : List String}
    (h : c.Offers name path route) : name ∈ route := by
  cases h <;> exact List.mem_cons_self

theorem Offers.flagged {name path : String} {route : List String}
    (h : c.Offers name path route) : c.Flagged name := by
  induction h with
  | own hm hf hgive => exact ⟨_, .refl, _, hm, _, hf, _, hgive⟩
  | under hm hf hembed _ ih => exact ih.of_reaches (.single (.of_field hm hf hembed))

/-- The characters of a field's name in lower case, as a compiler accepts it. -/
def isPlain (ch : Char) : Bool := ch.isLower || ch.isDigit || ch == '_'

/-- Whether all field names are plain and those of each message differ, case aside. -/
def Plain (c : Catalog) : Prop :=
  ∀ name m, c.message? name = some m →
    (∀ f ∈ m.fields, ∀ ch ∈ (Text.lower f.name).toList, isPlain ch = true) ∧
    (m.fields.map fun f => Text.lower f.name).Nodup

theorem lowerChar_of_plain {ch : Char} (h : isPlain ch = true ∨ ch = '.') :
    Text.lowerChar ch = [ch] := by
  have hascii : ∀ n < 128, isPlain (Char.ofNat n) = true ∨ Char.ofNat n = '.' →
      Text.lowerChar (Char.ofNat n) = [Char.ofNat n] := by decide +kernel
  have hsmall : ch.toNat < 128 := by
    obtain h | rfl := h
    · simp only [isPlain, Bool.or_eq_true, beq_iff_eq] at h
      obtain (h | h) | rfl := h
      · have hle : ch.val ≤ 'z'.val := of_decide_eq_true (Bool.and_eq_true_iff.1 h).2
        exact Nat.lt_of_le_of_lt (UInt32.le_iff_toNat_le.1 hle) (by decide)
      · have hle : ch.val ≤ '9'.val := of_decide_eq_true (Bool.and_eq_true_iff.1 h).2
        exact Nat.lt_of_le_of_lt (UInt32.le_iff_toNat_le.1 hle) (by decide)
      · decide
    · decide
  have hchar := hascii ch.toNat hsmall
  rw [Char.ofNat_toNat] at hchar
  exact hchar h

theorem lower_of_plain {s : String} (h : ∀ ch ∈ s.toList, isPlain ch = true ∨ ch = '.') :
    Text.lower s = s := by
  have hfrom : ∀ before after, (∀ ch ∈ after, isPlain ch = true ∨ ch = '.') →
      Text.lowerFrom before after = after := by
    intro before after hafter
    induction after generalizing before with
    | nil => rfl
    | cons ch after ih =>
      obtain ⟨hch, hafter⟩ := List.forall_mem_cons.1 hafter
      have hsigma : ch ≠ 'Σ' := by
        rintro rfl
        revert hch
        decide
      rw [Text.lowerFrom, if_neg hsigma, lowerChar_of_plain hch, ih _ hafter]
      rfl
  rw [Text.lower, hfrom _ _ h, String.ofList_toList]

theorem joined_plain {first rest : String} (hfirst : ∀ ch ∈ first.toList, isPlain ch = true)
    (hrest : ∀ ch ∈ rest.toList, isPlain ch = true ∨ ch = '.') :
    ∀ ch ∈ (first ++ "." ++ rest).toList, isPlain ch = true ∨ ch = '.' := by
  intro ch hch
  simp only [String.toList_append, List.mem_append] at hch
  obtain (hch | hch) | hch := hch
  · exact .inl (hfirst ch hch)
  · exact .inr (by simpa using hch)
  · exact hrest ch hch

theorem Offers.plain {name path : String} {route : List String} (hplain : c.Plain)
    (h : c.Offers name path route) :
    ∀ ch ∈ path.toList, isPlain ch = true ∨ ch = '.' := by
  induction h with
  | own hm hf _ => exact fun ch hch => .inl ((hplain _ _ hm).1 _ hf ch hch)
  | under hm hf _ _ ih =>
    have hjoined := joined_plain ((hplain _ _ hm).1 _ hf) ih
    rwa [lower_of_plain hjoined]

/-- In front of its first dot, a path has the name of the field that it begins with. -/
theorem joined_inj {first first' rest rest' : String}
    (hfirst : ∀ ch ∈ first.toList, isPlain ch = true)
    (hfirst' : ∀ ch ∈ first'.toList, isPlain ch = true)
    (h : first ++ "." ++ rest = first' ++ "." ++ rest') :
    first = first' ∧ rest = rest' := by
  have hcut : ∀ {s t : String}, (∀ ch ∈ s.toList, isPlain ch = true) →
      Text.cutAt (· == '.') (s ++ "." ++ t).toList = some (s.toList, t.toList) := by
    intro s t hs
    have hnone : ∀ ch ∈ s.toList, (ch == '.') = false := by
      intro ch hch
      rw [beq_eq_false_iff_ne]
      rintro rfl
      exact absurd (hs '.' hch) (by decide)
    have happend : (s ++ "." ++ t).toList = s.toList ++ '.' :: t.toList := by simp
    rw [happend, Text.cutAt_append_separator hnone _ rfl]
  have hleft := hcut (t := rest) hfirst
  have hright := hcut (t := rest') hfirst'
  rw [h] at hleft
  have hboth := hleft.symm.trans hright
  simpa [String.toList_inj] using hboth

theorem Plain.field_eq {name : String} {m : MessageType} {f g : Field} (hplain : c.Plain)
    (hm : c.message? name = some m) (hf : f ∈ m.fields) (hg : g ∈ m.fields)
    (h : Text.lower f.name = Text.lower g.name) : f = g :=
  List.inj_on_of_nodup_map (hplain name m hm).2 hf hg h

theorem Offers.under_path {name path b : String} {route : List String} {m : MessageType} {f : Field}
    (hplain : c.Plain) (hm : c.message? name = some m) (hf : f ∈ m.fields)
    (h : c.Offers b path route) :
    Text.lower (Text.lower f.name ++ "." ++ path) = Text.lower f.name ++ "." ++ path :=
  lower_of_plain (joined_plain ((hplain _ _ hm).1 _ hf) (h.plain hplain))

/-- The path of a flag of the message type itself has no dot, and other paths have one. -/
theorem Offers.own_ne_under {name path b : String} {route : List String} {m : MessageType}
    {f g : Field} (hplain : c.Plain) (hm : c.message? name = some m) (hf : f ∈ m.fields)
    (hg : g ∈ m.fields) (h : c.Offers b path route) :
    Text.lower f.name ≠ Text.lower (Text.lower g.name ++ "." ++ path) := by
  intro heq
  rw [h.under_path hplain hm hg] at heq
  have hdot : '.' ∈ (Text.lower f.name).toList := by simp [heq]
  exact absurd ((hplain name m hm).1 f hf '.' hdot) (by decide)

/-- Where field names are plain, paths are legible. -/
theorem Plain.legible (hplain : c.Plain) : c.Legible := by
  intro name path route route' h
  induction h generalizing route' with
  | @own name m f type hm hf hgive =>
    intro h'
    generalize hpath : Text.lower f.name = path at h'
    cases h' with
    | own => rfl
    | under hm' hg _ h' =>
      obtain rfl := Option.some.inj (hm'.symm.trans hm)
      exact absurd hpath (h'.own_ne_under hplain hm hf hg)
  | @under name path b route m f hm hf hembed h ih =>
    intro h'
    generalize hpath : Text.lower (Text.lower f.name ++ "." ++ path) = whole at h'
    cases h' with
    | own hm' hg _ =>
      obtain rfl := Option.some.inj (hm'.symm.trans hm)
      exact absurd hpath.symm (h.own_ne_under hplain hm hg hf)
    | @under _ path' b' route' m' g hm' hg hembed' h' =>
      obtain rfl := Option.some.inj (hm'.symm.trans hm)
      rw [h.under_path hplain hm hf, h'.under_path hplain hm hg] at hpath
      obtain ⟨hfirst, rfl⟩ :=
        joined_inj ((hplain name m' hm).1 f hf) ((hplain name m' hm).1 g hg) hpath
      obtain rfl := hplain.field_eq hm hf hg hfirst
      obtain rfl := Contribution.embedded.inj (hembed.symm.trans hembed')
      rw [ih route' h']

end ServiceCli.Catalog
