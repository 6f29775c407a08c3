/-!
Cutting a text at separators. Between two separators stands one piece, possibly empty, so a text
with `n` separators has `n + 1` pieces.
-/
namespace ServiceCli.Text

/-- Adds a character in front of the first piece. -/
def extendFirst (c : Char) : List (List Char) → List (List Char)
  | [] => [[c]]
  | p :: ps => (c :: p) :: ps

def pieces (isSeparator : Char → Bool) : List Char → List (List Char)
  | [] => [[]]
  | c :: cs =>
    if isSeparator c then [] :: pieces isSeparator cs
    else extendFirst c (pieces isSeparator cs)

/-- The text before and after the first separator, if there is one. -/
def cutAt (isSeparator : Char → Bool) (cs : List Char) : Option (List Char × List Char) :=
  match cs.dropWhile (!isSeparator ·) with
  | [] => none
  | _ :: after => some (cs.takeWhile (!isSeparator ·), after)

/-- The last piece of a dotted name. -/
def lastPart (name : String) : String :=
  String.ofList ((pieces (· == '.') name.toList).getLast?.getD [])

theorem pieces_ne_nil (p : Char → Bool) (cs : List Char) : pieces p cs ≠ [] := by
  induction cs with
  | nil => simp [pieces]
  | cons c cs ih =>
    unfold pieces
    split
    · simp
    · cases h : pieces p cs <;> simp [extendFirst]

/-- Without a separator there is one piece, the text itself. -/
theorem pieces_of_none {p : Char → Bool} {cs : List Char} (h : ∀ c ∈ cs, p c = false) :
    pieces p cs = [cs] := by
  induction cs with
  | nil => rfl
  | cons c cs ih =>
    simp [pieces, h c, ih (fun d hd => h d (by simp [hd])), extendFirst]

/-- The pieces of two texts joined by a separator are the pieces of both. -/
theorem pieces_append_separator (p : Char → Bool) (cs ds : List Char) {s : Char} (hs : p s = true) :
    pieces p (cs ++ s :: ds) = pieces p cs ++ pieces p ds := by
  induction cs with
  | nil => simp [pieces, hs]
  | cons c cs ih =>
    simp only [List.cons_append, pieces]
    split
    · simp [ih]
    · rw [ih]
      cases h : pieces p cs with
      | nil => exact absurd h (pieces_ne_nil p cs)
      | cons q qs => simp [extendFirst]

theorem cutAt_of_none {p : Char → Bool} {cs : List Char} (h : ∀ c ∈ cs, p c = false) :
    cutAt p cs = none := by
  have hdrop : cs.dropWhile (!p ·) = [] := by
    rw [← List.append_nil cs, List.dropWhile_append_of_pos fun c hc => by simp [h c hc]]
    rfl
  rw [cutAt, hdrop]

/-- A text is cut at a separator that no other one precedes. -/
theorem cutAt_append_separator {p : Char → Bool} {cs : List Char} (h : ∀ c ∈ cs, p c = false)
    (ds : List Char) {s : Char} (hs : p s = true) : cutAt p (cs ++ s :: ds) = some (cs, ds) := by
  have hkeep : ∀ c ∈ cs, (!p c) = true := fun c hc => by simp [h c hc]
  rw [cutAt, List.dropWhile_append_of_pos hkeep, List.takeWhile_append_of_pos hkeep]
  simp [hs]

end ServiceCli.Text
