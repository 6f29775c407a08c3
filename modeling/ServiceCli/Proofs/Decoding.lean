import ServiceCli.Proofs.Descriptor.References
import ServiceCli.Proofs.Wire.RoundTrip
import ServiceCli.Request

/-!
The stages of decoding. A request is read without its files, these are read and made into a pool,
and the catalog is made of the pool.
-/
namespace ServiceCli

open Descriptor (Pool FileRecord writeField)
open Wire (Bytes)

namespace RawRequest

/-- What a field says, if it is one of a request's. -/
def read (r : RawRequest) (f : Wire.Field) : Except Wire.Fault RawRequest := do
  match f.number with
  | 1 => return { r with targets := r.targets ++ [← f.payload.text] }
  | 2 => return { r with parameter := some (← f.payload.text) }
  | 15 => return { r with files := r.files ++ [← f.payload.bytes] }
  | _ => return r

/-- A request after one more field. -/
def add (r : RawRequest) (f : Wire.Field) : Except RequestFault RawRequest :=
  (r.read f).mapError (.wire (fieldName? f.number))

variable {r : RawRequest} {f : Wire.Field} {fs : List Wire.Field}

theorem readBytes_write (h : f.Fits) (rest : Bytes) :
    readBytes ⟨f.number, f.payload.wireType⟩ (f.payload.write ++ rest) =
      f.payload.bytes.map fun b => (b, rest) := by
  obtain ⟨number, payload⟩ := f
  cases payload with
  | delimited b => exact Wire.readDelimited_varint h.payload rest
  | varint n => rfl
  | fixed64 n => rfl
  | group b => rfl
  | fixed32 n => rfl

theorem readText_write (h : f.Fits) (rest : Bytes) :
    readText ⟨f.number, f.payload.wireType⟩ (f.payload.write ++ rest) =
      f.payload.text.map fun s => (s, rest) := by
  rw [readText, readBytes_write h, Wire.Payload.text]
  cases f.payload.bytes with
  | error e => rfl
  | ok b =>
    simp only [Except.map, bind, Except.bind]
    cases Wire.text? b <;> rfl

theorem readField_write (h : f.Fits) (rest : Bytes) :
    readField r ⟨f.number, f.payload.wireType⟩ (f.payload.write ++ rest) =
      (r.read f).map fun r => (r, rest) := by
  simp only [readField, read, readText_write h, readBytes_write h, Wire.readPayload_write h.payload]
  generalize f.payload.text = text
  generalize f.payload.bytes = bytes
  by_cases h1 : f.number = 1
  · simp only [h1]
    cases text <;> rfl
  by_cases h2 : f.number = 2
  · simp only [h2]
    cases text <;> rfl
  by_cases h15 : f.number = 15
  · simp only [h15]
    cases bytes <;> rfl
  simp only
  rfl

theorem readWithin_flatMap (h : ∀ f ∈ fs, f.Fits) {fuel : Nat} (hfuel : fs.length ≤ fuel) :
    readWithin fuel r (fs.flatMap writeField) = fs.foldlM add r := by
  induction fs generalizing fuel r with
  | nil => cases fuel <;> rfl
  | cons f fs ih =>
    obtain ⟨fuel, rfl⟩ := Nat.exists_eq_add_one.2 (Nat.lt_of_lt_of_le (Nat.zero_lt_succ _) hfuel)
    have hf : f.Fits := h f (by simp)
    have hkey := Wire.readKey_writeField hf (fs.flatMap writeField)
    have hothers := fun r => ih (r := r) (fun g hg => h g (List.mem_cons_of_mem _ hg))
      (Nat.le_of_succ_le_succ hfuel)
    rw [List.flatMap_cons, List.foldlM_cons]
    cases hbytes : writeField f ++ fs.flatMap writeField with
    | nil => exact absurd (List.append_eq_nil_iff.1 hbytes).1 (Wire.writeField_ne_nil hf)
    | cons b bs =>
      rw [hbytes] at hkey
      simp only [readWithin, hkey, readField_write hf, add]
      cases r.read f with
      | error e => rfl
      | ok r' => exact hothers r'

/-- A request is read field by field. -/
theorem ofBytes_writeField (h : ∀ f ∈ fs, f.Fits) :
    ofBytes (fs.flatMap writeField) = fs.foldlM add {} :=
  readWithin_flatMap h (Wire.length_le_flatMap_writeField h)

end RawRequest

namespace Request

variable {files : List Bytes} {pool : Pool} {bytes : Bytes}

theorem poolOf_eq_ok : poolOf files = .ok pool ↔ ∃ records,
    files.mapM FileRecord.ofBytes = .ok records ∧ records.all (·.hasKnownDialect) = true ∧
      Pool.ofFiles records = .ok pool ∧ pool.keepsForms = true := by
  rw [poolOf]
  split
  · rename_i hread
    simp only [hread, reduceCtorEq, false_and, exists_false]
  · rename_i records hread
    simp only [hread, Except.ok.injEq, exists_eq_left']
    cases hdialect : records.all (·.hasKnownDialect)
    · simp only [Bool.false_eq_true, false_and, iff_false]
      exact nofun
    · cases hpool : Pool.ofFiles records with
      | error e =>
        simp only [reduceCtorEq, false_and, and_false, iff_false]
        exact nofun
      | ok pool' =>
        simp only [Bool.not_true, Bool.false_eq_true, if_false, true_and, Except.ok.injEq]
        split
        · rename_i hforms
          constructor
          · exact nofun
          · rintro ⟨rfl, hkept⟩
            simp [hkept] at hforms
        · rename_i hforms
          constructor
          · intro h
            cases h
            exact ⟨rfl, by simpa using hforms⟩
          · rintro ⟨rfl, -⟩
            rfl

/-- The catalog of the files of a request. -/
def catalogOf (targets : List String) (files : List Bytes) : Except Stop Catalog := do
  Catalog.ofPool (← poolOf files) targets

variable {raw : RawRequest}

/-- The parameter is handed on beside the catalog, and neither has a part in the other. -/
theorem ofBytes_of_raw (hraw : RawRequest.ofBytes bytes = .ok raw) : ofBytes bytes =
    (catalogOf raw.targets raw.files).map fun c => ⟨raw.parameter.getD "", c⟩ := by
  rw [ofBytes, hraw, catalogOf]
  dsimp only
  cases poolOf raw.files with
  | error e => rfl
  | ok pool => cases h : Catalog.ofPool pool raw.targets <;> simp only [h, bind, Except.bind] <;> rfl

/-- The catalog is made last. -/
theorem ofBytes_of_poolOf (hraw : RawRequest.ofBytes bytes = .ok raw)
    (hpool : poolOf raw.files = .ok pool) : ofBytes bytes =
      (Catalog.ofPool pool raw.targets).map fun c => ⟨raw.parameter.getD "", c⟩ := by
  rw [ofBytes_of_raw hraw, catalogOf, hpool]
  rfl

/-- A request that can be read in full can be read without its files, with the same parameter. -/
theorem peekParameter_of_ofBytes {r : Request} (h : ofBytes bytes = .ok r) :
    peekParameter bytes = .ok r.parameter := by
  rw [peekParameter]
  cases hraw : RawRequest.ofBytes bytes with
  | error e =>
    rw [ofBytes, hraw] at h
    cases h
  | ok raw =>
    rw [ofBytes_of_raw hraw, map_eq_ok] at h
    obtain ⟨c, -, rfl⟩ := h
    rfl

/-- In the pool of a request nothing refers to a message that is not there. -/
theorem resolves_poolOf (h : poolOf files = .ok pool) : pool.Resolves := by
  obtain ⟨records, -, -, hpool, -⟩ := poolOf_eq_ok.1 h
  exact Pool.resolves_ofFiles hpool

end Request

end ServiceCli
