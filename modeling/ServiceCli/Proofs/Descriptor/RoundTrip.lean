import ServiceCli.Descriptor.Options
import ServiceCli.Descriptor.Reading
import ServiceCli.Proofs.Sequence
import ServiceCli.Proofs.Wire.RoundTrip

/-!
Records and options read back from what was written. Options are read twice: first as fields, along
with the file that they are in, and then by the message that describes them.
-/
namespace ServiceCli.Descriptor

open Wire (Bytes Payload)

variable {depth : Nat} {fs : List Wire.Field} {kind : OptionsKind} {r : OptionsRecord}

theorem readRecord_writeField {α : Type} {start : α}
    {step : Nat → α → Wire.Field → Except Wire.Fault α} (h : ∀ f ∈ fs, f.Fits) :
    readRecord start step (depth + 1) (.delimited (fs.flatMap writeField)) =
      fs.foldlM (step depth) start := by
  simp only [readRecord, Payload.bytes, bind, Except.bind, Wire.fields_writeField h]

/-- More fields are read into what the first of them make. -/
theorem readRecord_append {α : Type} {start a : α}
    {step : Nat → α → Wire.Field → Except Wire.Fault α} {gs : List Wire.Field}
    (h : ∀ f ∈ fs ++ gs, f.Fits)
    (hread : readRecord start step (depth + 1) (.delimited (fs.flatMap writeField)) = .ok a) :
    readRecord start step (depth + 1) (.delimited ((fs ++ gs).flatMap writeField)) =
      gs.foldlM (step depth) a := by
  rw [readRecord_writeField fun f hf => h f (List.mem_append_left _ hf)] at hread
  rw [readRecord_writeField h, List.foldlM_append, hread]
  rfl

/-- Options that a file may carry as they are: all of them are interpreted, and those that are
checked on reading have their form. -/
structure OptionsRecord.Plain (kind : OptionsKind) (r : OptionsRecord) : Prop where
  fits : ∀ f ∈ r.fields, f.Fits
  interpreted : ∀ f ∈ r.fields, f.number ≠ uninterpretedNumber
  checked : ∀ f ∈ r.fields, Standard.check kind f = .ok ()
  complete : r.uninterpreted = []

/-- Plain options are read as they were written. -/
theorem OptionsRecord.Plain.read_write (h : r.Plain kind) :
    OptionsRecord.read kind none (depth + 2) (.delimited r.write) = .ok r := by
  obtain ⟨fields, uninterpreted⟩ := r
  obtain ⟨hfits, hinterpreted, hchecked, rfl⟩ := h
  rw [OptionsRecord.read, OptionsRecord.write, readRecord_writeField hfits,
    foldlM_eq_add (g := fun r fs => { r with fields := r.fields ++ fs })]
  · rfl
  · simp
  · simp
  · intro r f hf
    simp only [Wire.passOver, Nat.add_one_ne_zero, if_false, if_neg (hinterpreted f hf),
      hchecked f hf, bind, Except.bind, pure, Except.pure]

variable {t : TypeTable} {m : MessageEntry}

theorem TypeTable.number_of_fieldNumbered? {number : Int} {f : FieldEntry}
    (h : t.fieldNumbered? m number = some f) : f.number = number := by
  rw [fieldNumbered?] at h
  split at h
  · rename_i hown
    cases h
    simpa only [beq_iff_eq] using List.find?_some hown
  · obtain ⟨e, hfound, rfl⟩ := Option.map_eq_some_iff.1 h
    have hboth := List.find?_some hfound
    simp only [Bool.and_eq_true, beq_iff_eq] at hboth
    exact hboth.2

/-- A field of a message that holds one value of a primitive type, with what it sets to which
value. -/
structure HoldsScalar (t : TypeTable) (m : MessageEntry) (f : Wire.Field)
    (set : FieldEntry × Atom) : Prop where
  fits : f.Fits
  known : t.fieldNumbered? m f.number = some set.1
  single : set.1.label ≠ .repeated
  value : ∃ s, set.1.type = .scalar s ∧ Atom.ofPayload s f.payload = .ok set.2

/-- The entries after some fields have been set one after the other. -/
def setAll (m : MessageEntry) (sets : List (FieldEntry × Atom)) (entries : OptionEntries) :
    OptionEntries :=
  sets.foldl (fun entries s => entries.set (m.isRival s.1) s.1 (.atom s.2)) entries

variable {f : Wire.Field} {set : FieldEntry × Atom} {sets : List (FieldEntry × Atom)}
  {entries : OptionEntries}

theorem readMessage_writeField (h : HoldsScalar t m f set) (fuel depth : Nat) (rest : Bytes) :
    readMessage t (fuel + 1) depth none (.message m) entries (writeField f ++ rest) =
      readMessage t fuel depth none (.message m)
        (entries.set (m.isRival set.1) set.1 (.atom set.2)) rest := by
  obtain ⟨hfits, hknown, hsingle, s, htype, hvalue⟩ := h
  have hkey := Wire.readKey_writeField hfits rest
  have hend : f.payload.wireType ≠ .groupEnd := by cases f.payload <;> exact nofun
  have hmap : t.mapEntry? set.1 = none := if_neg hsingle
  cases hbytes : writeField f ++ rest with
  | nil => exact absurd (List.append_eq_nil_iff.1 hbytes).1 (Wire.writeField_ne_nil hfits)
  | cons b bs =>
    rw [hbytes] at hkey
    simp only [readMessage, hkey, bind, Except.bind, if_neg hend, Shape.field?, hknown, readValue,
      hmap, htype, Wire.readPayload_write hfits.payload, hvalue, if_neg hsingle, pure, Except.pure]
    rfl

theorem readMessage_flatMap (h : List.Forall₂ (HoldsScalar t m) fs sets) {fuel : Nat}
    (hfuel : fs.length ≤ fuel) (depth : Nat) (entries : OptionEntries) :
    readMessage t fuel depth none (.message m) entries (fs.flatMap writeField) =
      .ok (setAll m sets entries, []) := by
  induction h generalizing fuel entries with
  | nil => cases fuel <;> rfl
  | cons hfield _ ih =>
    obtain ⟨fuel, rfl⟩ := Nat.exists_eq_add_one.2 (Nat.lt_of_lt_of_le (Nat.zero_lt_succ _) hfuel)
    rw [List.flatMap_cons, readMessage_writeField hfield,
      ih (Nat.le_of_succ_le_succ hfuel), setAll, setAll, List.foldl_cons]

/-- Options of primitive types are set one after the other. -/
theorem readEntries_write (h : List.Forall₂ (HoldsScalar t m) r.fields sets) :
    readEntries t m r.write = .ok (setAll m sets []) := by
  have hfits : ∀ f ∈ r.fields, f.Fits := by
    intro f hf
    obtain ⟨_, _, hholds⟩ := exists_of_forall₂ h hf
    exact hholds.fits
  rw [readEntries, OptionsRecord.write,
    readMessage_flatMap h (Wire.length_le_flatMap_writeField hfits)]
  rfl

/-- An entry was there or has been set. -/
theorem mem_setAll {e : Int × OptionValue} (h : e ∈ setAll m sets entries) :
    e ∈ entries ∨ ∃ s ∈ sets, e = (s.1.number, .atom s.2) := by
  induction sets generalizing entries with
  | nil => exact .inl h
  | cons s sets ih =>
    rcases ih (h : e ∈ setAll m sets (entries.set (m.isRival s.1) s.1 (.atom s.2))) with he | he
    · rcases List.mem_append.1 he with he | he
      · exact .inl (List.mem_filter.1 he).1
      · exact .inr ⟨s, List.mem_cons_self, List.mem_singleton.1 he⟩
    · obtain ⟨s', hs', rfl⟩ := he
      exact .inr ⟨s', List.mem_cons_of_mem s hs', rfl⟩

/-- Options that tell absence from every value keep each value that is written for them. -/
theorem interpretOptions_scalars {fs : NamedFiles} {own : TypeTable} {d : Declaration}
    (hmessage : optionsMessage own kind = (t, m)) (hplain : r.Plain kind)
    (h : List.Forall₂ (HoldsScalar t m) r.fields sets) (habsent : ∀ s ∈ sets, s.1.absentAs = none) :
    interpretOptions fs own d kind r = .ok ⟨setAll m sets [],
      (Standard.checkedNumbers kind).flatMap (writtenFields t m r (setAll m sets []))⟩ := by
  have hset : ∀ e ∈ setAll m sets [], e.1 ≠ (uninterpretedNumber : Int) ∧
      (t.fieldNumbered? m e.1).any (·.isSetTo e.2) = true := by
    intro e he
    obtain he | ⟨s, hs, rfl⟩ := mem_setAll he
    · cases he
    obtain ⟨f, hf, hholds⟩ := exists_of_forall₂ h.flip hs
    have hnumber := TypeTable.number_of_fieldNumbered? hholds.known
    refine ⟨fun heq => hplain.interpreted f hf (Int.ofNat.inj (hnumber.symm.trans heq)), ?_⟩
    simp only [hnumber, hholds.known, FieldEntry.isSetTo, habsent s hs, Option.any_some,
      Option.any_none, Bool.not_false]
  have hkept : (setAll m sets []).filter (fun e => e.1 ≠ (uninterpretedNumber : Int)) =
      setAll m sets [] :=
    List.filter_eq_self.2 fun e he => decide_eq_true (hset e he).1
  have hcounted : (setAll m sets []).filter
      (fun e => (t.fieldNumbered? m e.1).any (·.isSetTo e.2)) = setAll m sets [] :=
    List.filter_eq_self.2 fun e he => (hset e he).2
  simp only [interpretOptions, hmessage, readEntries_write h, hkept, hplain.complete,
    List.foldlM_nil, bind, Except.bind, pure, Except.pure, hcounted]

end ServiceCli.Descriptor
