import ServiceCli.Wire.Varint

/-!
Bytes written as text with backslash escapes, and read back.
-/
namespace ServiceCli.Text

open Wire (Bytes)

def octalValue? (b : UInt8) : Option Nat :=
  if 0x30 ≤ b ∧ b ≤ 0x37 then some (b.toNat - 0x30) else none

def hexValue? (b : UInt8) : Option Nat :=
  if 0x30 ≤ b ∧ b ≤ 0x39 then some (b.toNat - 0x30)
  else if 0x61 ≤ b ∧ b ≤ 0x66 then some (b.toNat - 0x57)
  else if 0x41 ≤ b ∧ b ≤ 0x46 then some (b.toNat - 0x37)
  else none

/-- Two hexadecimal digits, of which the first may be a plus sign. -/
def hexPair? (a b : UInt8) : Option UInt8 :=
  match (if a = 0x2B then some 0 else hexValue? a), hexValue? b with
  | some m, some n => some (16 * m + n).toUInt8
  | _, _ => none

/-- The byte that a letter after a backslash stands for. -/
def letterEscape? (b : UInt8) : Option UInt8 :=
  [(0x61, 0x07), (0x62, 0x08), (0x66, 0x0C), (0x6E, 0x0A), (0x72, 0x0D), (0x74, 0x09), (0x76, 0x0B),
   (0x5C, 0x5C), (0x3F, 0x3F), (0x27, 0x27), (0x22, 0x22)].lookup b

/-- Up to `limit` further octal digits, added to a number. -/
def octalRun : (limit : Nat) → Nat → Bytes → Nat × Bytes
  | 0, n, bs => (n, bs)
  | _ + 1, n, [] => (n, [])
  | limit + 1, n, b :: bs =>
    match octalValue? b with
    | some d => octalRun limit (8 * n + d) bs
    | none => (n, b :: bs)

/-- The bytes of at most `fuel` units; none if an escape is unknown or incomplete. -/
def unescapeWithin : (fuel : Nat) → Bytes → Option Bytes
  | _, [] => some []
  | 0, _ :: _ => none
  | fuel + 1, b :: bs =>
    if b ≠ 0x5C then (unescapeWithin fuel bs).map (b :: ·)
    else match bs with
      | [] => none
      | e :: rest =>
        if e = 0x78 ∨ e = 0x58 then
          match rest with
          | x :: y :: rest => (hexPair? x y).bind fun h => (unescapeWithin fuel rest).map (h :: ·)
          | _ => none
        else match octalValue? e with
          | some d =>
            let (n, rest) := octalRun 2 d rest
            (unescapeWithin fuel rest).map (n.toUInt8 :: ·)
          | none => (letterEscape? e).bind fun c => (unescapeWithin fuel rest).map (c :: ·)

def unescape? (bs : Bytes) : Option Bytes := unescapeWithin bs.length bs

/-- A byte as it stands between quote marks: printable ASCII as itself, others by name or by three
octal digits. -/
def escapeByte (b : UInt8) : List Char :=
  match b with
  | 0x09 => ['\\', 't']
  | 0x0D => ['\\', 'r']
  | 0x0A => ['\\', 'n']
  | 0x5C => ['\\', '\\']
  | 0x27 => ['\\', '\'']
  | 0x22 => ['\\', '"']
  | b =>
    if 0x20 ≤ b ∧ b ≤ 0x7E then [Char.ofNat b.toNat]
    else
      ['\\', Nat.digitChar (b.toNat / 64), Nat.digitChar (b.toNat / 8 % 8),
        Nat.digitChar (b.toNat % 8)]

def quotedBytes (bs : Bytes) : String := String.ofList ('"' :: bs.flatMap escapeByte ++ ['"'])

end ServiceCli.Text
