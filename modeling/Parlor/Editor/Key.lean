import Parlor.Text.Encoding

namespace Parlor.Editor

inductive Key where
  | character (c : Char)
  | submit
  | cancel
  | endOrDelete
  | complete
  | backspace
  | deleteToStart
  | deleteToEnd
  | deleteWord
  | toStart
  | toEnd
  | previous
  | next
  | nothing
deriving DecidableEq, Repr

def Key.ofChar : Char → Key
  | '\r' => submit
  | '\n' => submit
  | '\x03' => cancel
  | '\x04' => endOrDelete
  | '\t' => complete
  | '\x7f' => backspace
  | '\x15' => deleteToStart
  | '\x0b' => deleteToEnd
  | '\x17' => deleteWord
  | '\x01' => toStart
  | '\x05' => toEnd
  | '\x10' => previous
  | '\x0e' => next
  | c => if '\u0080' ≤ c && c ≤ '\u009f' then nothing else character c

def charSize (first : UInt8) : Nat :=
  if first < 0x80 then 1 else if first < 0xe0 then 2 else if first < 0xf0 then 3 else 4

def readKey? (bytes : List UInt8) : Option (Key × List UInt8) :=
  match bytes with
  | [] => none
  | first :: _ =>
    match Text.decode? (bytes.take (charSize first)) with
    | none => none
    | some text =>
      match text.toList with
      | c :: _ => some (.ofChar c, bytes.drop (charSize first))
      | [] => none

theorem length_of_readKey? {bytes rest : List UInt8} {key : Key}
    (h : readKey? bytes = some (key, rest)) : rest.length < bytes.length := by
  unfold readKey? at h
  split at h
  · cases h
  · rename_i first tail
    split at h
    · cases h
    · split at h
      · simp only [Option.some.injEq, Prod.mk.injEq] at h
        rw [← h.2, List.length_drop]
        have : 0 < charSize first := by
          unfold charSize
          split
          · decide
          · split
            · decide
            · split <;> decide
        simp only [List.length_cons]
        omega
      · cases h

end Parlor.Editor
