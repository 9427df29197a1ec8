import Parlor.Layout.Style

namespace Parlor.Layout

/-- What is shown of a text within a colour. Behind every sign in the text that ends all colours
the colour begins again. -/
inductive Keeps (colour : List Char) : List Char → List Char → Prop where
  | done : Keeps colour [] []
  | again {text shown : List Char} (later : Keeps colour text shown) :
      Keeps colour ("\u001b[0m".toList ++ text) ("\u001b[0m".toList ++ (colour ++ shown))
  | same {c : Char} {text shown : List Char} (other : ¬ "\u001b[0m".toList <+: c :: text)
      (later : Keeps colour text shown) : Keeps colour (c :: text) (c :: shown)

def Paints (coloured : Bool) (colour text shown : String) : Prop :=
  if coloured then
    ∃ kept, Keeps colour.toList text.toList kept ∧
      shown = colour ++ String.ofList kept ++ "\u001b[0m"
  else shown = text

theorem keeps_reopen (colour text : List Char) : Keeps colour text (Style.reopen colour 0 text) := by
  match text with
  | [] => exact .done
  | c :: text =>
    rw [Style.reopen]
    split
    · rename_i ends
      obtain ⟨rest, split⟩ := List.isPrefixOf_iff_prefix.1 ends
      obtain ⟨rfl, rfl⟩ := List.cons.inj split
      exact .again (keeps_reopen colour rest)
    · rename_i goesOn
      refine .same ?_ (keeps_reopen colour text)
      intro ends
      exact goesOn (List.isPrefixOf_iff_prefix.2 ends)
termination_by text.length

theorem paints_apply (style : Style) (coloured : Bool) (colour text : String)
    (opens : style.opening = colour.toList) :
    Paints coloured colour text (style.apply coloured text) := by
  cases coloured with
  | false => exact rfl
  | true =>
    refine ⟨_, keeps_reopen colour.toList text.toList, ?_⟩
    rw [Style.apply, opens]
    apply String.toList_injective
    simp [Style.reset]

end Parlor.Layout
