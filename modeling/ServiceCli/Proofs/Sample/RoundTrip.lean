import ServiceCli.Proofs.Decoding
import ServiceCli.Proofs.Descriptor.RoundTrip
import ServiceCli.Sample

/-!
The samples read back. What is written as a request, a method, a service, a field or a message is
read as the same, and options keep the fields that they were written from.
-/
namespace ServiceCli.Sample

open Descriptor
open Wire (Bytes textBytes fits_of_length writeField_ofBytes writeField_ofInt writeField_ofText)
open Wire.Field (ofBytes ofText ofInt)

variable {depth : Nat}

theorem rawRequest_eq (targets : List String) (parameter : String) (files : List Bytes) :
    rawRequest targets parameter files =
      (targets.map (ofText 1) ++ ofText 2 parameter :: files.map (ofBytes 15)).flatMap
        writeField := by
  simp [rawRequest, Wire.writeAll, List.flatMap_map, writeField_ofText, writeField_ofBytes]

theorem add_target (r : RawRequest) (s : String) :
    r.add (ofText 1 s) = .ok { r with targets := r.targets ++ [s] } := by
  simp [RawRequest.add, RawRequest.read, ofText, ofBytes, bind, Except.bind, pure, Except.pure,
    Except.mapError]

theorem add_parameter (r : RawRequest) (s : String) :
    r.add (ofText 2 s) = .ok { r with parameter := some s } := by
  simp [RawRequest.add, RawRequest.read, ofText, ofBytes, bind, Except.bind, pure, Except.pure,
    Except.mapError]

theorem add_file (r : RawRequest) (b : Bytes) :
    r.add (ofBytes 15 b) = .ok { r with files := r.files ++ [b] } := rfl

/-- A request gives back what it was made of, whatever is in the files. -/
theorem ofBytes_rawRequest {targets : List String} {parameter : String} {files : List Bytes}
    (hlen : (rawRequest targets parameter files).length < Number.rangeSize 64) :
    RawRequest.ofBytes (rawRequest targets parameter files) =
      .ok ⟨targets, some parameter, files⟩ := by
  have htargets (r : RawRequest) : targets.foldlM (fun r s => r.add (ofText 1 s)) r =
      .ok { r with targets := r.targets ++ targets } :=
    foldlM_eq_add (g := fun (r : RawRequest) ts => { r with targets := r.targets ++ ts })
      (by simp) (by simp) (fun r s _ => add_target r s) r
  have hfiles (r : RawRequest) : files.foldlM (fun r b => r.add (ofBytes 15 b)) r =
      .ok { r with files := r.files ++ files } :=
    foldlM_eq_add (g := fun (r : RawRequest) bs => { r with files := r.files ++ bs })
      (by simp) (by simp) (fun r b _ => add_file r b) r
  rw [rawRequest_eq] at hlen ⊢
  rw [RawRequest.ofBytes_writeField (fits_of_length hlen (by simp [or_imp, forall_and])),
    List.foldlM_append, List.foldlM_map, htargets]
  simp only [bind, Except.bind, List.foldlM_cons, add_parameter, List.foldlM_map, hfiles,
    List.nil_append]

/-- The record of a method whose options are those given. -/
def RawMethod.record (m : RawMethod) (options : OptionsRecord) : MethodRecord where
  name := some m.name
  input := some m.input
  output := some m.input
  options := some options

theorem RawMethod.write_eq (m : RawMethod) : m.write =
    [ofText 1 m.name, ofText 2 m.input, ofText 3 m.input, ofBytes 4 m.options].flatMap
      writeField := by
  simp [RawMethod.write, writeField_ofText, writeField_ofBytes]

theorem RawMethod.read_write {m : RawMethod} {options : OptionsRecord}
    (hlen : m.write.length < Number.rangeSize 64) (hoptions : m.options = options.write)
    (hplain : options.Plain .method) :
    MethodRecord.read (depth + 3) (.delimited m.write) = .ok (m.record options) := by
  rw [write_eq] at hlen ⊢
  rw [MethodRecord.read, readRecord_writeField (fits_of_length hlen (by simp))]
  simp only [List.foldlM_cons, List.foldlM_nil, ofText, ofBytes, Wire.Payload.text_textBytes,
    bind, Except.bind, pure, Except.pure, hoptions, hplain.read_write]
  rfl

theorem RawService.write_eq (s : RawService) : s.write =
    (ofText 1 s.name :: s.methods.map fun m => ofBytes 2 m.write).flatMap writeField := by
  simp only [RawService.write, Wire.writeAll, List.flatMap_cons, List.flatMap_map,
    writeField_ofText, writeField_ofBytes]
  rfl

theorem RawService.read_write {s : RawService} {methods : List MethodRecord}
    (hlen : s.write.length < Number.rangeSize 64)
    (hmethods : s.methods.mapM (fun m => MethodRecord.read depth (.delimited m.write)) =
      .ok methods) :
    ServiceRecord.read (depth + 1) (.delimited s.write) =
      .ok { name := some s.name, methods } := by
  rw [write_eq] at hlen ⊢
  rw [ServiceRecord.read, readRecord_writeField (fits_of_length hlen (by simp))]
  simp only [List.foldlM_cons, List.foldlM_map, ofText, ofBytes, Wire.Payload.text_textBytes, bind,
    Except.bind, pure, Except.pure]
  refine (foldlM_eq_mapM (f := fun m : RawMethod => MethodRecord.read depth (.delimited m.write))
    (g := fun (r : ServiceRecord) ms => { r with methods := r.methods ++ ms })
    (by simp) (by simp) (fun r m _ => ?_) _).trans ?_
  · cases MethodRecord.read depth (.delimited m.write) <;> rfl
  · rw [hmethods]
    rfl

theorem field_write_eq (name : String) (number : Int) (type : FieldType)
    (typeName extendee : Option String) :
    FieldRecord.write { field name number type typeName with extendee } =
      (ofText 1 name :: ((extendee.map (ofText 2)).toList ++
        ofInt 3 number :: ofInt 4 1 :: ofInt 5 type.number ::
          ((typeName.map (ofText 6)).toList ++ [ofText 10 (Text.lowerCamel name)]))).flatMap
        writeField := by
  cases typeName <;> cases extendee <;>
    simp [FieldRecord.write, field, Wire.writeOptional, writeField_ofText, writeField_ofInt]

/-- A field, which may be an extension, is read as it was written. -/
theorem read_field {name : String} {number : Int} {type : FieldType}
    {typeName extendee : Option String} {f : FieldRecord}
    (hf : f = { field name number type typeName with extendee })
    (hnumber : Number.isSigned 32 number) (hlen : f.write.length < Number.rangeSize 64) :
    FieldRecord.read (depth + 1) (.delimited f.write) = .ok f := by
  have hlabel := Wire.Payload.int32_bits (i := 1) (by decide)
  have htype := Wire.Payload.int32_bits (i := type.number) (by
    rcases type with s | _ | _ | _
    · cases s <;> decide
    all_goals decide)
  have hnumber := Wire.Payload.int32_bits hnumber
  rw [hf, field_write_eq] at hlen ⊢
  rw [FieldRecord.read, readRecord_writeField (fits_of_length hlen (by simp [or_imp, forall_and]))]
  cases typeName <;> cases extendee <;>
    simp [ofText, ofBytes, ofInt, hlabel, htype, hnumber, bind, Except.bind, pure, Except.pure,
      field]

theorem message_write_eq (name : String) (fields : List FieldRecord) (ranges : List RangeRecord) :
    MessageRecord.write { message name fields with extensionRanges := ranges } =
      (ofText 1 name :: (fields.map (fun f => ofBytes 2 f.write) ++
        ranges.map fun r => ofBytes 5 r.write)).flatMap writeField := by
  simp only [message, MessageRecord.write, MessageRecord.writeNested, Wire.writeOptional,
    Wire.writeAll, List.flatMap_cons, List.flatMap_append, List.flatMap_map, writeField_ofText,
    writeField_ofBytes, List.flatMap_nil, List.append_nil, List.append_assoc]
  rfl

/-- A message, which may leave numbers to extensions, is read as it was written. -/
theorem read_message {name : String} {fields : List FieldRecord} {ranges : List RangeRecord}
    {m : MessageRecord} (hm : m = { message name fields with extensionRanges := ranges })
    (hlen : m.write.length < Number.rangeSize 64)
    (hfields : ∀ f ∈ fields, FieldRecord.read depth (.delimited f.write) = .ok f)
    (hranges : ∀ r ∈ ranges, RangeRecord.readExtensible depth (.delimited r.write) = .ok r) :
    MessageRecord.read (depth + 1) (.delimited m.write) = .ok m := by
  rw [hm, message_write_eq] at hlen ⊢
  have hread : Wire.fields depth _ = .ok _ :=
    Wire.fields_writeField (fits_of_length hlen (by simp [or_imp, forall_and]))
  simp only [MessageRecord.read, Wire.Payload.bytes, hread, bind, Except.bind]
  simp only [List.foldlM_cons, List.foldlM_append, List.foldlM_map, ofText, ofBytes,
    Wire.Payload.text_textBytes, bind, Except.bind, pure, Except.pure]
  rw [foldlM_eq_add (g := fun (r : MessageRecord) fs => { r with fields := r.fields ++ fs })
    (fun r => by cases r; simp) (by simp) (fun r f hf => by rw [hfields f hf])]
  refine (foldlM_eq_add
    (g := fun (r : MessageRecord) rs => { r with extensionRanges := r.extensionRanges ++ rs })
    (fun r => by cases r; simp) (by simp) (fun r a ha => by rw [hranges a ha]) _).trans ?_
  rfl

/-- A file without enumerations and services. -/
def plainFile (name package : String) (imports : List String) (messages : List MessageRecord)
    (extensions : List FieldRecord) (dialect : String) : FileRecord where
  name := some name
  package := some package
  dependencies := imports
  messages := messages
  extensions := extensions
  dialect := some dialect

/-- The fields that it is written in. -/
def fileFields (name package : String) (imports : List String) (messages : List MessageRecord)
    (extensions : List FieldRecord) (dialect : String) : List Wire.Field :=
  ofText 1 name :: ofText 2 package :: (imports.map (ofText 3) ++
    (messages.map (fun m => ofBytes 4 m.write) ++ (extensions.map (fun e => ofBytes 7 e.write) ++
      [ofText 12 dialect])))

section File

variable {name package dialect : String} {imports : List String} {messages : List MessageRecord}
  {extensions : List FieldRecord} {f : FileRecord}

theorem formed_fileFields :
    ∀ g ∈ fileFields name package imports messages extensions dialect, g.Formed := by
  simp [fileFields, or_imp, forall_and]

theorem plainFile_write_eq (hf : f = plainFile name package imports messages extensions dialect) :
    f.write = (fileFields name package imports messages extensions dialect).flatMap
      writeField := by
  simp only [hf, plainFile, FileRecord.write, Wire.writeOptional, Wire.writeAll, fileFields,
    List.flatMap_cons, List.flatMap_append, List.flatMap_map, writeField_ofText,
    writeField_ofBytes, List.flatMap_nil, List.append_nil, List.append_assoc]
  rfl

theorem length_le_of_extension {e : FieldRecord} (he : e ∈ extensions) : e.write.length ≤
    ((fileFields name package imports messages extensions dialect).flatMap writeField).length := by
  have hmem : ofBytes 7 e.write ∈
      fileFields name package imports messages extensions dialect := by
    simp only [fileFields, List.mem_cons, List.mem_append, List.mem_map]
    exact .inr (.inr (.inr (.inr (.inl ⟨e, he, rfl⟩))))
  exact Wire.length_le_of_mem hmem

theorem read_plainFile (hf : f = plainFile name package imports messages extensions dialect)
    (hlen : f.write.length < Number.rangeSize 64)
    (hmessages : ∀ m ∈ messages, MessageRecord.read 99 (.delimited m.write) = .ok m)
    (hextensions : ∀ e ∈ extensions, FieldRecord.read 99 (.delimited e.write) = .ok e) :
    FileRecord.ofBytes f.write = .ok f := by
  rw [plainFile_write_eq hf] at hlen ⊢
  rw [FileRecord.ofBytes, FileRecord.read, Wire.depthLimit,
    readRecord_writeField (fits_of_length hlen formed_fileFields)]
  simp only [fileFields, List.foldlM_cons, List.foldlM_append, List.foldlM_map, List.foldlM_nil,
    ofText, ofBytes, Wire.Payload.text_textBytes, bind, Except.bind, pure, Except.pure]
  rw [foldlM_eq_add
    (g := fun (r : FileRecord) ds => { r with dependencies := r.dependencies ++ ds })
    (fun r => by cases r; simp) (by simp) (fun r f hf => rfl)]
  dsimp only
  rw [foldlM_eq_add (g := fun (r : FileRecord) ms => { r with messages := r.messages ++ ms })
    (fun r => by cases r; simp) (by simp) (fun r m hm => by rw [hmessages m hm])]
  dsimp only
  rw [foldlM_eq_add (g := fun (r : FileRecord) es => { r with extensions := r.extensions ++ es })
    (fun r => by cases r; simp) (by simp) (fun r e he => by rw [hextensions e he]), hf]
  rfl

end File

theorem withRawServices_eq {f : FileRecord} {fs : List Wire.Field}
    (h : f.write = fs.flatMap writeField) (services : List RawService) :
    withRawServices f services =
      (fs ++ services.map fun s => ofBytes 6 s.write).flatMap writeField := by
  simp only [withRawServices, h, Wire.writeAll, List.flatMap_append, List.flatMap_map,
    writeField_ofBytes]
  rfl

/-- Services that follow a file are added to it. -/
theorem read_withRawServices {f : FileRecord} {fs : List Wire.Field} {services : List RawService}
    {records : List ServiceRecord} (hwrite : f.write = fs.flatMap writeField)
    (hformed : ∀ g ∈ fs, g.Formed) (hread : FileRecord.ofBytes f.write = .ok f)
    (hlen : (withRawServices f services).length < Number.rangeSize 64)
    (hservices : services.mapM (fun s => ServiceRecord.read 99 (.delimited s.write)) =
      .ok records) :
    FileRecord.ofBytes (withRawServices f services) =
      .ok { f with services := f.services ++ records } := by
  rw [withRawServices_eq hwrite] at hlen ⊢
  have hfits := fits_of_length hlen (by simpa [or_imp, forall_and] using hformed)
  rw [hwrite, FileRecord.ofBytes, FileRecord.read, Wire.depthLimit] at hread
  rw [FileRecord.ofBytes, FileRecord.read, Wire.depthLimit, readRecord_append hfits hread,
    List.foldlM_map]
  refine (foldlM_eq_mapM (f := fun s : RawService => ServiceRecord.read 99 (.delimited s.write))
    (g := fun (r : FileRecord) ss => { r with services := r.services ++ ss })
    (by simp) (by simp) (fun r s _ => ?_) _).trans ?_
  · cases h : ServiceRecord.read 99 (.delimited s.write) <;> simp only [ofBytes, h] <;> rfl
  · rw [hservices]
    rfl

end ServiceCli.Sample
