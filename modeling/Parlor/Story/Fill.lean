import Parlor.Story.Answers
import Parlor.Story.Template

namespace Parlor.Story

def fillPieces (answers : Answers) (unnumbered : Nat) : List Piece → List Char
  | [] => []
  | .literal c :: rest => c :: fillPieces answers unnumbered rest
  | .blank occurrence :: rest =>
    (match answers.get? (occurrence.blank.key unnumbered) with
      | some answer => answer.toList
      | none => occurrence.written) ++
    fillPieces answers (occurrence.blank.advance unnumbered) rest

def fill (template : String) (answers : Answers) : String :=
  String.ofList (fillPieces answers 0 (pieces template.toList))

end Parlor.Story
