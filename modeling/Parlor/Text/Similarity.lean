namespace Parlor.Text

abbrev Marked := List (Char × Bool)

def Marked.paired (text : Marked) : List Char := (text.filter Prod.snd).map Prod.fst

def Marked.pair? (c : Char) (first last : Nat) : Nat → Marked → Option Marked
  | _, [] => none
  | place, (d, taken) :: rest =>
    if first ≤ place && place ≤ last && c = d && !taken then some ((d, true) :: rest)
    else (pair? c first last (place + 1) rest).map ((d, taken) :: ·)

/-- Pairs the characters of a text that begins at a place with those of another one that stand at
most some places away: the characters that are paired, and the other text. -/
def pairFrom (reach place : Nat) (other : Marked) : List Char → List Char × Marked
  | [] => ([], other)
  | c :: rest =>
    match other.pair? c (place - reach) (place + reach) 0 with
    | some other =>
      let (paired, other) := pairFrom reach (place + 1) other rest
      (c :: paired, other)
    | none => pairFrom reach (place + 1) other rest

def reach (s t : List Char) : Nat := max s.length t.length / 2 - 1

def shared (s t : List Char) : List Char × List Char :=
  let (paired, other) := pairFrom (reach s t) 0 (t.map (·, false)) s
  (paired, other.paired)

def differences : List Char → List Char → Nat
  | c :: s, d :: t => (if c = d then 0 else 1) + differences s t
  | _, _ => 0

/-- The similarity of two texts: the mean of the part of the first text that is shared, the part of
the second, and the part of the shared characters that stand in the same order. Of those out of
order, every second one counts. -/
def similarity (s t : List Char) : Float :=
  let (ofFirst, ofSecond) := shared s t
  let count := ofFirst.length
  if count = 0 then 0
  else
    let ordered := count - differences ofFirst ofSecond / 2
    (count.toFloat / s.length.toFloat + count.toFloat / t.length.toFloat +
      ordered.toFloat / count.toFloat) / 3

def mostSimilar (text : String) : List String → Option (String × Float)
  | [] => none
  | candidate :: rest =>
    let value := similarity text.toList candidate.toList
    match mostSimilar text rest with
    | some (best, most) => if value ≤ most then some (best, most) else some (candidate, value)
    | none => some (candidate, value)

end Parlor.Text
