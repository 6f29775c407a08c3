import Mathlib.Algebra.Group.Nat.Defs
import ServiceCli.Descriptor.Writing
import ServiceCli.Wire.Field

/-!
Reading back what was written. Every writer makes the bytes of a list of fields, and reading a
message gives the list back, whatever the fields are and however long.
-/
namespace ServiceCli.Wire

open Descriptor (writeField)

variable {n number depth : Nat} {bytes rest : Bytes} {f : Field} {fs : List Field}

/-- With `groups + 1` bytes there is room for `7 * groups + 1` bits. -/
theorem readVarintGroups_varintGroups (groups : Nat) (rest : Bytes) {n : Nat}
    (h : n < 2 ^ (7 * groups + 1)) :
    readVarintGroups (groups + 1) (varintGroups (groups + 1) n ++ rest) = some (n, rest) := by
  induction groups generalizing n with
  | zero =>
    have hn : n < 2 := by simpa using h
    obtain rfl | rfl : n = 0 ∨ n = 1 := by omega
    all_goals simp [varintGroups, readVarintGroups]
  | succ groups ih =>
    rw [varintGroups]
    split
    · rename_i hlast
      have hb : n.toUInt8.toNat = n := by
        rw [Nat.toUInt8_eq, UInt8.toNat_ofNat']
        omega
      have hlt : n.toUInt8 < 128 := by
        rw [UInt8.lt_iff_toNat_lt, hb]
        exact hlast
      simp [readVarintGroups, hlt, hb]
    · rename_i hmore
      have hb : (n % 128 + 128).toUInt8.toNat = n % 128 + 128 := by
        rw [Nat.toUInt8_eq, UInt8.toNat_ofNat']
        omega
      have hge : ¬(n % 128 + 128).toUInt8 < 128 := by
        rw [UInt8.lt_iff_toNat_lt, hb]
        exact Nat.not_lt.2 (Nat.le_add_left ..)
      have hn : n / 128 < 2 ^ (7 * groups + 1) := by
        rw [Nat.div_lt_iff_lt_mul (by decide)]
        have : 2 ^ (7 * (groups + 1) + 1) = 2 ^ (7 * groups + 1) * 128 := by
          rw [show 7 * (groups + 1) + 1 = (7 * groups + 1) + 7 by omega, Nat.pow_add]
        omega
      rw [List.cons_append, readVarintGroups, if_neg hge, ih hn, Option.map_some, hb,
        Nat.add_sub_cancel]
      exact congrArg (fun n => some (n, rest)) (Nat.mod_add_div n 128)

theorem readNumber_varint (h : n < Number.rangeSize 64) (rest : Bytes) :
    readNumber (varint n ++ rest) = .ok (n, rest) := by
  rw [readNumber, readVarint, varint, readVarintGroups_varintGroups 9 rest h]

theorem length_varintGroups_le (groups n : Nat) : (varintGroups groups n).length ≤ groups := by
  induction groups generalizing n with
  | zero => exact Nat.le_refl _
  | succ groups ih =>
    rw [varintGroups]
    split
    · exact Nat.le_add_left ..
    · exact Nat.succ_le_succ (ih _)

theorem length_varint_le (n : Nat) : (varint n).length ≤ 10 := length_varintGroups_le 10 n

/-- A key and a length take ten bytes at most. -/
theorem length_writeBytes_le (number : Nat) (b : Bytes) :
    (writeBytes number b).length ≤ b.length + 20 := by
  have hkey := length_varint_le (number * 8 + WireType.delimited.code)
  have hlength := length_varint_le b.length
  simp only [writeBytes, writeKey, List.length_append]
  omega

theorem readDelimited_varint (h : bytes.length < Number.rangeSize 64) (rest : Bytes) :
    readDelimited (varint bytes.length ++ bytes ++ rest) = .ok (bytes, rest) := by
  rw [readDelimited, List.append_assoc, readNumber_varint h]
  simp [bind, Except.bind, readBytes]

theorem littleEndian_fixedBytes (size : Nat) {n : Nat} (h : n < 256 ^ size) :
    littleEndian (fixedBytes size n) = n := by
  induction size generalizing n with
  | zero =>
    have hn : n = 0 := by simpa using h
    rw [fixedBytes, littleEndian, hn]
  | succ size ih =>
    have hn : n / 256 < 256 ^ size := by
      rw [Nat.div_lt_iff_lt_mul (by decide), ← Nat.pow_succ]
      exact h
    have hb : (n % 256).toUInt8.toNat = n % 256 := by
      rw [Nat.toUInt8_eq, UInt8.toNat_ofNat', Nat.mod_mod]
    rw [fixedBytes, littleEndian, ih hn, hb, Nat.mod_add_div]

theorem length_fixedBytes (size n : Nat) : (fixedBytes size n).length = size := by
  induction size generalizing n with
  | zero => rfl
  | succ size ih => rw [fixedBytes, List.length_cons, ih]

theorem readFixed_fixedBytes (size : Nat) {n : Nat} (h : n < 256 ^ size) (rest : Bytes) :
    readFixed size (fixedBytes size n ++ rest) = .ok (n, rest) := by
  have hlen := length_fixedBytes size n
  have hread : readBytes size (fixedBytes size n ++ rest) = .ok (fixedBytes size n, rest) := by
    rw [readBytes, if_neg (by simp [hlen]), List.take_left' hlen, List.drop_left' hlen]
  simp only [readFixed, hread, bind, Except.bind, littleEndian_fixedBytes size h, pure, Except.pure]

/-- Bits above the lowest 32 only repeat the sign of a number that 32 bits are enough for. -/
theorem Payload.int32_bits {i : Int} (h : Number.isSigned 32 i = true) :
    (Payload.varint (i % Number.rangeSize 64).toNat).int32 = .ok i := by
  have hbits : (((i % Number.rangeSize 64).toNat : Nat) : Int) = i % Number.rangeSize 64 :=
    Int.toNat_of_nonneg (Int.emod_nonneg i (by decide))
  have hlow : i % (Number.rangeSize 64 : Int) % (Number.rangeSize 32 : Int) =
      i % (Number.rangeSize 32 : Int) :=
    Int.emod_emod_of_dvd i (by decide)
  have hwrap : Number.wrapSigned 32 (i % Number.rangeSize 64) = i := by
    rw [Number.wrapSigned, Int.bmod_def, hlow, ← Int.bmod_def]
    have hrange : (Number.rangeSize 32 : Int) = 2 * Number.rangeSize (32 - 1) := by decide
    simp only [Number.isSigned, Bool.and_eq_true, decide_eq_true_eq] at h
    apply Int.bmod_eq_of_le <;> omega
  simp only [Payload.int32, Payload.natural, bind, Except.bind, pure, Except.pure, hbits, hwrap]

theorem text?_textBytes (s : String) : text? (textBytes s) = some s := by
  have hbytes : (⟨(textBytes s).toArray⟩ : ByteArray) = s.toUTF8 := by
    rw [textBytes, Array.toArray_toList]
  rw [text?, hbytes, String.fromUTF8?, dif_pos (show s.toUTF8.IsValidUTF8 from s.isValidUTF8)]
  rfl

@[simp] theorem Payload.text_textBytes (s : String) :
    (Payload.delimited (textBytes s)).text = .ok s := by
  simp only [Payload.text, Payload.bytes, bind, Except.bind, text?_textBytes, pure, Except.pure]

/-- Whether a payload can be written: numbers and lengths have as many bits as there are for them.
Groups are left out, since only what is inside one tells where it ends. -/
def Payload.Fits : Payload → Prop
  | .varint n | .fixed64 n => n < Number.rangeSize 64
  | .fixed32 n => n < Number.rangeSize 32
  | .delimited b => b.length < Number.rangeSize 64
  | .group _ => False

/-- Whether a field can be written. -/
structure Field.Fits (f : Field) : Prop where
  pos : 0 < f.number
  bound : f.number < Number.rangeSize 29
  payload : f.payload.Fits

theorem readKey_writeKey (hpos : 0 < number) (hbound : number < Number.rangeSize 29)
    (w : WireType) (rest : Bytes) :
    readKey (writeKey number w ++ rest) = .ok (⟨number, w⟩, rest) := by
  have hcode : w.code < 8 := by cases w <;> decide
  have hkey : number * 8 + w.code < Number.rangeSize 32 := by
    simp only [Number.rangeSize, Nat.pow_eq] at *
    omega
  have hkey64 : number * 8 + w.code < Number.rangeSize 64 := Nat.lt_trans hkey (by decide)
  have hdiv : (number * 8 + w.code) / 8 = number := by omega
  have hmod : (number * 8 + w.code) % 8 = w.code := by omega
  rw [readKey, writeKey, readNumber_varint hkey64]
  simp [bind, Except.bind, Nat.not_le.2 hkey, hdiv, hmod, WireType.ofCode?_code,
    Nat.ne_of_gt hpos, pure, Except.pure]

/-- The bytes of a payload. -/
def Payload.write : Payload → Bytes
  | .varint n => Wire.varint n
  | .fixed64 n => fixedBytes 8 n
  | .delimited b => Wire.varint b.length ++ b
  | .group b => b
  | .fixed32 n => fixedBytes 4 n

theorem readPayload_write {p : Payload} (h : p.Fits) (rest : Bytes) :
    readPayload depth ⟨number, p.wireType⟩ (p.write ++ rest) = .ok (p, rest) := by
  cases p with
  | varint n => simp only [readPayload, Payload.wireType, Payload.write, readNumber_varint h]; rfl
  | fixed64 n =>
    simp only [readPayload, Payload.wireType, Payload.write, readFixed_fixedBytes 8 h]; rfl
  | delimited b =>
    simp only [readPayload, Payload.wireType, Payload.write, readDelimited_varint h]; rfl
  | fixed32 n =>
    simp only [readPayload, Payload.wireType, Payload.write, readFixed_fixedBytes 4 h]; rfl
  | group b => exact h.elim

theorem writeField_eq (h : f.Fits) :
    writeField f = writeKey f.number f.payload.wireType ++ f.payload.write := by
  obtain ⟨number, payload⟩ := f
  cases payload with
  | varint n => rfl
  | fixed64 n => rfl
  | delimited b => exact List.append_assoc ..
  | fixed32 n => rfl
  | group b => exact h.payload.elim

theorem readKey_writeField (h : f.Fits) (rest : Bytes) : readKey (writeField f ++ rest) =
    .ok (⟨f.number, f.payload.wireType⟩, f.payload.write ++ rest) := by
  rw [writeField_eq h, List.append_assoc, readKey_writeKey h.pos h.bound]

/-- A key is never empty. -/
theorem writeField_ne_nil (h : f.Fits) : writeField f ≠ [] := by
  intro hnil
  have := readKey_writeField h []
  rw [hnil] at this
  cases this

/-- Every field takes a byte at least. -/
theorem length_le_flatMap_writeField (h : ∀ f ∈ fs, f.Fits) :
    fs.length ≤ (fs.flatMap writeField).length := by
  induction fs with
  | nil => exact Nat.le_refl _
  | cons f fs ih =>
    have hpos := List.length_pos_iff.2 (writeField_ne_nil (h f (by simp)))
    have := ih fun g hg => h g (List.mem_cons_of_mem _ hg)
    simp only [List.flatMap_cons, List.length_cons, List.length_append]
    omega

theorem fieldsWithin_writeField {fuel : Nat} (h : ∀ f ∈ fs, f.Fits) (hfuel : fs.length ≤ fuel) :
    fieldsWithin depth fuel (fs.flatMap writeField) = .ok fs := by
  induction fs generalizing fuel with
  | nil => cases fuel <;> rfl
  | cons f fs ih =>
    obtain ⟨fuel, rfl⟩ := Nat.exists_eq_add_one.2 (Nat.lt_of_lt_of_le (Nat.zero_lt_succ _) hfuel)
    have hf : f.Fits := h f (by simp)
    have hkey := readKey_writeField hf (fs.flatMap writeField)
    have hothers := ih (fun g hg => h g (List.mem_cons_of_mem _ hg)) (Nat.le_of_succ_le_succ hfuel)
    rw [List.flatMap_cons]
    cases hbytes : writeField f ++ fs.flatMap writeField with
    | nil => exact absurd (List.append_eq_nil_iff.1 hbytes).1 (writeField_ne_nil hf)
    | cons b bs =>
      rw [hbytes] at hkey
      simp only [fieldsWithin, hkey, bind, Except.bind, readPayload_write hf.payload, hothers, pure,
        Except.pure]

/-- A message is read as the fields that it was written from. -/
theorem fields_writeField (h : ∀ f ∈ fs, f.Fits) :
    fields depth (fs.flatMap writeField) = .ok fs :=
  fieldsWithin_writeField h (length_le_flatMap_writeField h)

namespace Field

def ofBytes (number : Nat) (b : Bytes) : Field := ⟨number, .delimited b⟩

def ofText (number : Nat) (s : String) : Field := ofBytes number (textBytes s)

def ofInt (number : Nat) (i : Int) : Field := ⟨number, .varint (i % Number.rangeSize 64).toNat⟩

/-- Whether a field can be written unless it is too long. -/
structure Formed (f : Field) : Prop where
  pos : 0 < f.number
  bound : f.number < Number.rangeSize 29
  payload : (∃ b, f.payload = .delimited b) ∨ f.payload.Fits

@[simp] theorem formed_ofBytes {b : Bytes} :
    (ofBytes number b).Formed ↔ 0 < number ∧ number < 2 ^ 29 :=
  ⟨fun h => ⟨h.pos, h.bound⟩, fun h => ⟨h.1, h.2, .inl ⟨b, rfl⟩⟩⟩

@[simp] theorem formed_ofText {s : String} :
    (ofText number s).Formed ↔ 0 < number ∧ number < 2 ^ 29 :=
  formed_ofBytes

@[simp] theorem formed_ofInt {i : Int} :
    (ofInt number i).Formed ↔ 0 < number ∧ number < 2 ^ 29 := by
  refine ⟨fun h => ⟨h.pos, h.bound⟩, fun h => ⟨h.1, h.2, .inr ?_⟩⟩
  have hlt : i % (Number.rangeSize 64 : Int) < Number.rangeSize 64 :=
    Int.emod_lt_of_pos i (by decide)
  exact (Int.toNat_lt' (by decide)).2 hlt

end Field

theorem writeField_ofBytes (number : Nat) (b : Bytes) :
    writeField (Field.ofBytes number b) = writeBytes number b := rfl

theorem writeField_ofText (number : Nat) (s : String) :
    writeField (Field.ofText number s) = writeText number s := rfl

theorem writeField_ofInt (number : Nat) (i : Int) :
    writeField (Field.ofInt number i) = writeInt number i := rfl

/-- A message is at least as long as what is inside it. -/
theorem length_le_of_mem {b : Bytes} (h : Field.ofBytes number b ∈ fs) :
    b.length ≤ (fs.flatMap writeField).length := by
  have hinside : b.length ≤ (writeField (Field.ofBytes number b)).length := by
    simp only [Field.ofBytes, writeField, writeBytes, List.length_append]
    exact Nat.le_add_left ..
  have hpart : (writeField (Field.ofBytes number b)).Sublist (fs.flatMap writeField) :=
    List.sublist_flatten_of_mem (List.mem_map_of_mem h)
  exact Nat.le_trans hinside hpart.length_le

/-- No field is too long if all of them together are not. -/
theorem fits_of_length (hlen : (fs.flatMap writeField).length < Number.rangeSize 64)
    (h : ∀ f ∈ fs, f.Formed) : ∀ f ∈ fs, f.Fits := by
  rintro ⟨number, payload⟩ hf
  obtain ⟨hpos, hbound, ⟨b, rfl⟩ | hfits⟩ := h _ hf
  · exact ⟨hpos, hbound, Nat.lt_of_le_of_lt (length_le_of_mem hf) hlen⟩
  · exact ⟨hpos, hbound, hfits⟩

end ServiceCli.Wire
