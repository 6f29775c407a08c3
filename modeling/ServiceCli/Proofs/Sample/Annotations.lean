import ServiceCli.Proofs.Sample.Accounts

/-!
Annotations of methods survive decoding. A resource and a verb come back exactly as they were
written, each on its own and the empty text included, and a verb that is a number is reported with
that number.
-/
namespace ServiceCli.Sample

open Descriptor
open Wire (Bytes writeField_ofInt writeField_ofText)
open Wire.Field (ofText ofInt)

/-- The message of the options of methods. -/
def methodOptions : MessageEntry := ⟨"MethodOptions", "google.protobuf.MethodOptions", [], false⟩

theorem optionsMessage_accountsTypes {s : Scalar} :
    optionsMessage (accountsTypes s) .method = (accountsTypes s, methodOptions) := rfl

section Scalars

variable {s : Scalar} {options : OptionsRecord} {sets : List (FieldEntry × Atom)}

theorem methodOption_ne_repeated {name : String} {number : Nat} :
    (methodOption name number s).label ≠ .repeated := nofun

/-- The options for resource and verb are none of those that are checked on reading. -/
theorem plain_of_number (hfits : ∀ f ∈ options.fields, f.Fits)
    (hcomplete : options.uninterpreted = [])
    (hnumber : ∀ f ∈ options.fields, f.number = resourceOption ∨ f.number = verbOption) :
    options.Plain .method where
  fits := hfits
  interpreted f hf := by
    rcases hnumber f hf with h | h <;> rw [h] <;> decide
  checked f hf := if_neg (by rcases hnumber f hf with h | h <;> rw [h] <;> decide)
  complete := hcomplete

theorem writtenFields_of_number
    (hnumber : ∀ f ∈ options.fields, f.number = resourceOption ∨ f.number = verbOption)
    (entries : OptionEntries) : (Standard.checkedNumbers .method).flatMap
      (writtenFields (accountsTypes s) methodOptions options entries) = [] := by
  have hnone (number : Nat) (h : number ≠ resourceOption ∧ number ≠ verbOption) :
      options.fields.filter (·.number == number) = [] := by
    refine List.filter_eq_nil_iff.2 fun f hf heq => ?_
    have := beq_iff_eq.1 heq
    rcases hnumber f hf with h' | h' <;> omega
  have hdeprecated : writtenFields (accountsTypes s) methodOptions options entries 33 = [] :=
    hnone 33 (by decide)
  have hlevel : writtenFields (accountsTypes s) methodOptions options entries 34 = [] :=
    hnone 34 (by decide)
  simp only [Standard.checkedNumbers, List.flatMap_cons, List.flatMap_nil, hdeprecated, hlevel,
    List.append_nil]

/-- The catalog has what the options set, one after the other. -/
theorem ofBytes_of_holdsScalar (hlen : options.write.length < Number.rangeSize 63)
    (hcomplete : options.uninterpreted = [])
    (hnumber : ∀ f ∈ options.fields, f.number = resourceOption ∨ f.number = verbOption)
    (hholds : List.Forall₂ (HoldsScalar (accountsTypes s) methodOptions) options.fields sets)
    (habsent : ∀ set ∈ sets, set.1.absentAs = none) :
    (Request.ofBytes (annotatedRequest (.scalar s) options.write)).map (·.catalog.files) =
      (orStop (Catalog.methodOf (accountsTypes s)
        (accountsMethodEntry ⟨setAll methodOptions sets [], []⟩))).map accountsCatalogFiles := by
  have hfits : ∀ f ∈ options.fields, f.Fits := by
    intro f hf
    obtain ⟨_, _, hf'⟩ := exists_of_forall₂ hholds hf
    exact hf'.fits
  have hplain := plain_of_number hfits hcomplete hnumber
  have hinterpret : interpretOptions (accountsFiles s options) (accountsTypes s)
      (methodDeclaration options) .method options = _ :=
    interpretOptions_scalars optionsMessage_accountsTypes hplain hholds habsent
  rw [writtenFields_of_number hnumber] at hinterpret
  exact ofBytes_annotatedRequest hplain hlen hinterpret rfl

end Scalars

section Texts

variable {resource verb : Option String}

/-- The options that name a resource and a verb. -/
def annotations (resource verb : Option String) : OptionsRecord where
  fields := (resource.map (ofText resourceOption)).toList ++ (verb.map (ofText verbOption)).toList

/-- What they set to which value. -/
def annotationSets (resource verb : Option String) : List (FieldEntry × Atom) :=
  (resource.map fun t => (methodOption "resource" resourceOption .string, Atom.text t)).toList ++
    (verb.map fun t => (methodOption "verb" verbOption .string, Atom.text t)).toList

theorem cliOptions_eq : cliOptions resource verb = (annotations resource verb).write := by
  cases resource <;> cases verb <;>
    simp [cliOptions, annotations, OptionsRecord.write, Wire.writeOptional, writeField_ofText]

/-- A text is read by each of the two options as itself. -/
theorem holdsScalar_ofText (name : String) {number : Nat} {t : String}
    (h : (ofText number t).Fits)
    (hknown : (accountsTypes .string).fieldNumbered? methodOptions number =
      some (methodOption name number .string)) :
    HoldsScalar (accountsTypes .string) methodOptions (ofText number t)
      (methodOption name number .string, .text t) where
  fits := h
  known := hknown
  single := methodOption_ne_repeated
  value := ⟨.string, rfl, by
    simp only [Atom.ofPayload, ofText, Wire.Field.ofBytes, Wire.Payload.text_textBytes, bind,
      Except.bind, pure, Except.pure]⟩

theorem holdsScalar_annotations (h : ∀ f ∈ (annotations resource verb).fields, f.Fits) :
    List.Forall₂ (HoldsScalar (accountsTypes .string) methodOptions)
      (annotations resource verb).fields (annotationSets resource verb) := by
  have hresource (t : String) (h : (ofText resourceOption t).Fits) :=
    holdsScalar_ofText "resource" h rfl
  have hverb (t : String) (h : (ofText verbOption t).Fits) :=
    holdsScalar_ofText "verb" h rfl
  cases resource <;> cases verb <;> simp_all [annotations, annotationSets]

/-- Each annotation is there as it was written, and there is no other. -/
theorem methodOf_annotations (resource verb : Option String) :
    Catalog.methodOf (accountsTypes .string)
        (accountsMethodEntry ⟨setAll methodOptions (annotationSets resource verb) [], []⟩) =
      .ok ⟨"GetAccounts", "acme.Accounts.GetAccounts", "acme.GetAccountsRequest",
        ⟨resource, verb⟩⟩ := by
  cases resource <;> cases verb <;> rfl

theorem ofBytes_annotations (hlen : (cliOptions resource verb).length < Number.rangeSize 63) :
    (Request.ofBytes (annotatedRequest (.scalar .string) (cliOptions resource verb))).map
        (·.catalog.files) =
      .ok (accountsCatalogFiles ⟨"GetAccounts", "acme.Accounts.GetAccounts",
        "acme.GetAccountsRequest", ⟨resource, verb⟩⟩) := by
  rw [cliOptions_eq] at hlen ⊢
  have hformed : ∀ f ∈ (annotations resource verb).fields, f.Formed := by
    cases resource <;> cases verb <;> simp [annotations, resourceOption, verbOption]
  have hnumber : ∀ f ∈ (annotations resource verb).fields,
      f.number = resourceOption ∨ f.number = verbOption := by
    cases resource <;> cases verb <;> simp [annotations, ofText, Wire.Field.ofBytes]
  have hfits := Wire.fits_of_length (Nat.lt_trans hlen (by decide)) hformed
  have habsent : ∀ set ∈ annotationSets resource verb, set.1.absentAs = none := by
    cases resource <;> cases verb <;> simp [annotationSets, methodOption]
  rw [ofBytes_of_holdsScalar hlen rfl hnumber (holdsScalar_annotations hfits) habsent,
    methodOf_annotations]
  rfl

end Texts

/-- The option for a verb that is a number. -/
def numberedVerb (n : Int) : OptionsRecord where
  fields := [ofInt verbOption n]

theorem int32VerbOption_eq (n : Int) : int32VerbOption n = (numberedVerb n).write := by
  simp [int32VerbOption, numberedVerb, OptionsRecord.write, writeField_ofInt]

theorem ofBytes_numberedVerb {n : Int} (hn : Number.isSigned 32 n) :
    Request.ofBytes (annotatedRequest (.scalar .int32) (int32VerbOption n)) =
      .error (.failure (.malformedOption "acme.Accounts.GetAccounts" "cli.verb"
        s!"int32 {n}")) := by
  have hlen : (int32VerbOption n).length ≤ 20 := by
    rw [int32VerbOption, Wire.writeInt, Wire.writeNatural, Wire.writeKey, List.length_append]
    exact Nat.add_le_add (Wire.length_varint_le _) (Wire.length_varint_le _)
  have hlen : (int32VerbOption n).length < Number.rangeSize 63 :=
    Nat.lt_of_le_of_lt hlen (by decide)
  rw [int32VerbOption_eq] at hlen ⊢
  have hfits := Wire.fits_of_length (Nat.lt_trans hlen (by decide))
    (show ∀ f ∈ (numberedVerb n).fields, f.Formed by simp [numberedVerb, verbOption])
  have hholds : List.Forall₂ (HoldsScalar (accountsTypes .int32) methodOptions)
      (numberedVerb n).fields [(methodOption "verb" verbOption .int32, Atom.int32 n)] := by
    refine .cons ⟨hfits _ List.mem_cons_self, rfl, methodOption_ne_repeated, .int32, rfl, ?_⟩ .nil
    simp only [Atom.ofPayload, ofInt, Wire.Payload.int32_bits hn, bind, Except.bind, pure,
      Except.pure]
  have hfiles := ofBytes_of_holdsScalar hlen rfl
    (by simp [numberedVerb, ofInt]) hholds (by simp [methodOption])
  exact map_eq_error.1 hfiles

/-- Annotations are read as they were written, whatever they are: a resource and a verb that are
texts of any length, present or not, are the overrides of the only method, and a verb that is a
number of 32 bits is reported with it. A buffer of bytes has less than `2 ^ 63` of them. -/
theorem annotations_survive :
    (∀ resource verb : Option String, (cliOptions resource verb).length < Number.rangeSize 63 →
      (Request.ofBytes (annotatedRequest (.scalar .string) (cliOptions resource verb))).map
          (·.catalog.files) =
        .ok [⟨"acme/accounts.proto", [⟨"Accounts", "acme.Accounts",
          [⟨"GetAccounts", "acme.Accounts.GetAccounts", "acme.GetAccountsRequest",
            ⟨resource, verb⟩⟩]⟩]⟩]) ∧
    ∀ n : Int32,
      Request.ofBytes (annotatedRequest (.scalar .int32) (int32VerbOption n.toInt)) =
        .error (.failure (.malformedOption "acme.Accounts.GetAccounts" "cli.verb"
          s!"int32 {n.toInt}")) := by
  constructor
  · exact fun resource verb hlen => ofBytes_annotations hlen
  · intro n
    have hn : Number.isSigned 32 n.toInt := by
      simp only [Number.isSigned, Bool.and_eq_true, decide_eq_true_eq]
      exact ⟨n.le_toInt, n.toInt_lt⟩
    exact ofBytes_numberedVerb hn

theorem annotations_survive_archive :
    (cliOptions (some "") (some "archive")).length < Number.rangeSize 63 ∧
    (Request.ofBytes (annotatedRequest (.scalar .string)
        (cliOptions (some "") (some "archive")))).map (·.catalog.files) =
      .ok [⟨"acme/accounts.proto", [⟨"Accounts", "acme.Accounts",
        [⟨"GetAccounts", "acme.Accounts.GetAccounts", "acme.GetAccountsRequest",
          ⟨some "", some "archive"⟩⟩]⟩]⟩] :=
  have hlen : (cliOptions (some "") (some "archive")).length < Number.rangeSize 63 := by
    decide +kernel
  ⟨hlen, annotations_survive.1 (some "") (some "archive") hlen⟩

end ServiceCli.Sample
