import ServiceCli.Proofs.Descriptor.RoundTrip
import ServiceCli.Response

/-!
Responses read back. What is written as a response is read as the same error, the same features and
the same files, however long their names and contents are.
-/
namespace ServiceCli

open Descriptor (readRecord readRecord_writeField writeField)
open Wire (Bytes Field Payload fits_of_length)
open Wire.Field (ofInt ofText)

/-- A file as it is found in a response. Fields without a meaning here are kept as they are. -/
structure ReceivedFile where
  name : Option String := none
  content : Option String := none
  others : List Wire.Field := []
deriving Repr, DecidableEq

def ReceivedFile.read : Nat → Payload → Except Wire.Fault ReceivedFile :=
  readRecord {} fun _ r f =>
    match f.number with
    | 1 => return { r with name := some (← f.payload.text) }
    | 15 => return { r with content := some (← f.payload.text) }
    | _ => return { r with others := r.others ++ [f] }

/-- A response as it is found in bytes. -/
structure Received where
  error : Option String := none
  features : Option Nat := none
  files : List ReceivedFile := []
  others : List Wire.Field := []
deriving Repr, DecidableEq

namespace Received

/-- A response after one more field. -/
def add (depth : Nat) (r : Received) (f : Wire.Field) : Except Wire.Fault Received := do
  match f.number with
  | 1 => return { r with error := some (← f.payload.text) }
  | 2 => return { r with features := some (← f.payload.natural) }
  | 15 => return { r with files := r.files ++ [← ReceivedFile.read depth f.payload] }
  | _ => return { r with others := r.others ++ [f] }

def ofBytes (bytes : Bytes) : Except Wire.Fault Received :=
  readRecord {} add Wire.depthLimit (.delimited bytes)

variable {depth : Nat} {r : Received}

theorem add_error (s : String) : r.add depth (ofText 1 s) = .ok { r with error := some s } := by
  simp only [add, ofText, Field.ofBytes, Payload.text_textBytes, bind, Except.bind, pure,
    Except.pure]

theorem add_file {b : Bytes} {f : ReceivedFile}
    (h : ReceivedFile.read depth (.delimited b) = .ok f) :
    r.add depth (Field.ofBytes 15 b) = .ok { r with files := r.files ++ [f] } := by
  simp only [add, Field.ofBytes, h, bind, Except.bind, pure, Except.pure]

end Received

namespace GeneratedFile

/-- A file with its name and its content and nothing else. -/
def received (f : GeneratedFile) : ReceivedFile where
  name := some f.name
  content := some f.content

/-- The fields that it is written in. -/
def fields (f : GeneratedFile) : List Wire.Field := [ofText 1 f.name, ofText 15 f.content]

variable {f : GeneratedFile} {depth : Nat}

theorem writeFile_eq (number : Nat) (f : GeneratedFile) :
    Response.writeFile number f =
      writeField (Field.ofBytes number (f.fields.flatMap writeField)) := by
  rw [Response.writeFile, fields, List.flatMap_cons, List.flatMap_singleton,
    Wire.writeField_ofBytes, Wire.writeField_ofText, Wire.writeField_ofText]

theorem read_fields (hlen : (f.fields.flatMap writeField).length < Number.rangeSize 64) :
    ReceivedFile.read (depth + 1) (.delimited (f.fields.flatMap writeField)) =
      .ok f.received := by
  rw [ReceivedFile.read, readRecord_writeField (fits_of_length hlen (by simp [fields]))]
  simp only [fields, List.foldlM_cons, List.foldlM_nil, ofText, Field.ofBytes,
    Payload.text_textBytes, bind, Except.bind, pure, Except.pure, received]

end GeneratedFile

namespace Response

/-- What is to be found in a response: its error, the features and its files, in order. -/
def received (r : Response) : Received where
  error := r.error
  features := some supportedFeatures
  files := r.files.map (·.received)

/-- The fields that it is written in. -/
def fields (r : Response) : List Wire.Field :=
  (r.error.map (ofText 1)).toList ++
    ofInt 2 supportedFeatures :: r.files.map fun f => Field.ofBytes 15 (f.fields.flatMap writeField)

theorem write_eq (r : Response) : r.write = r.fields.flatMap writeField := by
  have herror : Wire.writeOptional Wire.writeText 1 r.error =
      (r.error.map (ofText 1)).toList.flatMap writeField := by
    cases r.error with
    | none => rfl
    | some e => exact (List.append_nil _).symm
  have hfiles : Wire.writeAll writeFile 15 r.files =
      (r.files.map fun f => Field.ofBytes 15 (f.fields.flatMap writeField)).flatMap writeField := by
    rw [Wire.writeAll, List.flatMap_map, funext (GeneratedFile.writeFile_eq 15)]
  rw [write, fields, herror, hfiles, List.flatMap_append, List.flatMap_cons, List.append_assoc]
  rfl

/-- No file is too long if the response is not. -/
theorem length_le_of_mem {r : Response} {f : GeneratedFile} (hf : f ∈ r.files) :
    (f.fields.flatMap writeField).length ≤ r.write.length := by
  have hmem : Field.ofBytes 15 (f.fields.flatMap writeField) ∈ r.fields :=
    List.mem_append_right _ (List.mem_cons_of_mem _ (List.mem_map_of_mem hf))
  rw [write_eq]
  exact Wire.length_le_of_mem hmem

/-- A response is read as it was written, however much is in it. -/
theorem ofBytes_write {r : Response} (hlen : r.write.length < Number.rangeSize 64) :
    Received.ofBytes r.write = .ok r.received := by
  have hfile : ∀ f ∈ r.files, ReceivedFile.read 99 (.delimited (f.fields.flatMap writeField)) =
      .ok f.received :=
    fun f hf => GeneratedFile.read_fields (Nat.lt_of_le_of_lt (length_le_of_mem hf) hlen)
  rw [write_eq] at hlen ⊢
  have hformed : ∀ f ∈ r.fields, f.Formed := by
    cases herror : r.error <;> simp [fields, herror, or_imp, forall_and]
  have hfeatures (x : Received) : x.add 99 (ofInt 2 supportedFeatures) =
      .ok { x with features := some supportedFeatures } := rfl
  have hfiles (x : Received) : r.files.foldlM
      (fun x f => x.add 99 (Field.ofBytes 15 (f.fields.flatMap writeField))) x =
      .ok { x with files := x.files ++ r.files.map (·.received) } :=
    foldlM_eq_add
      (g := fun (x : Received) fs => { x with files := x.files ++ fs.map (·.received) })
      (by simp) (by simp) (fun x f hf => Received.add_file (hfile f hf)) x
  rw [Received.ofBytes, Wire.depthLimit, readRecord_writeField (fits_of_length hlen hformed),
    fields, List.foldlM_append]
  cases herror : r.error <;>
    simp only [Option.map, Option.toList, List.foldlM_cons, List.foldlM_nil, List.foldlM_map,
      Received.add_error, hfeatures, hfiles, bind, Except.bind, pure, Except.pure, received, herror,
      List.nil_append]

end Response

end ServiceCli
