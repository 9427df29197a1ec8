import Parlor.Layout.Paragraph
import Mathlib.Data.List.TakeWhile

namespace Parlor.Layout

def Fragment.written (fragment : Fragment) : List Char := fragment.text ++ blanks fragment.spaces

theorem reverse_takeWhile_blank (text : List Char) :
    (text.takeWhile (· = ' ')).reverse = blanks (text.takeWhile (· = ' ')).length := by
  rw [blanks, List.eq_replicate_iff]
  refine ⟨List.length_reverse, ?_⟩
  intro c member
  simpa using List.mem_takeWhile_imp (List.mem_reverse.1 member)

theorem written_fragmentOf (part : List Char) : (fragmentOf part).written = part.reverse := by
  rw [fragmentOf, Fragment.written, ← reverse_takeWhile_blank, ← List.reverse_append,
    List.takeWhile_append_dropWhile]

theorem map_char_glyphsFrom (state : EscapeState) (text : List Char) :
    (glyphsFrom state text).map Glyph.char = text := by
  induction text generalizing state with
  | nil => rfl
  | cons c rest ih => exact congrArg (List.cons c) (ih _)

theorem flatMap_written_cutAfter (part hidden : List Char) (state : BreakState)
    (glyphs : List Glyph) :
    (cutAfter part hidden state glyphs).flatMap Fragment.written =
      part.reverse ++ hidden.reverse ++ glyphs.map Glyph.char := by
  induction glyphs generalizing part hidden state with
  | nil =>
    rw [cutAfter]
    split
    · rename_i empty
      simp_all
    · simp [written_fragmentOf]
  | cons glyph rest ih =>
    rw [cutAfter]
    split
    · simp [ih]
    · split
      · simp [ih, written_fragmentOf]
      · simp [ih]

theorem Fragment.written_append (first second : Fragment) :
    (first.append second).written = first.written ++ second.written := by
  simp [Fragment.append, Fragment.written]

theorem flatMap_written_joinLast (fragments : List Fragment) :
    (joinLast fragments).flatMap Fragment.written = fragments.flatMap Fragment.written := by
  induction fragments using joinLast.induct with
  | case1 => rfl
  | case2 => rfl
  | case3 first second => simp [joinLast, Fragment.written_append]
  | case4 fragment rest _ _ ih => simp [joinLast, ih]

theorem flatMap_written_cutLine (line : List Char) :
    (cutLine line).flatMap Fragment.written = line := by
  have cut : (cutAfter [] [] .start (glyphs line)).flatMap Fragment.written = line := by
    rw [flatMap_written_cutAfter, glyphs, map_char_glyphsFrom]
    rfl
  rw [cutLine]
  split
  · rw [flatMap_written_joinLast, cut]
  · exact cut

theorem flatten_cutAtHyphens (part text : List Char) :
    (cutAtHyphens part text).flatten = part.reverse ++ text := by
  induction text generalizing part with
  | nil => simp [cutAtHyphens]
  | cons c rest ih =>
    rw [cutAtHyphens]
    split
    · simp [ih]
    · simp [ih]

theorem cutAtHyphens_ne_nil (part text : List Char) : cutAtHyphens part text ≠ [] := by
  induction text generalizing part with
  | nil => simp [cutAtHyphens]
  | cons c rest ih =>
    rw [cutAtHyphens]
    split
    · simp
    · exact ih _

theorem flatten_cutEvery (width : Nat) (piece : List Char) (used : Nat) (glyphs : List Glyph) :
    (cutEvery width piece used glyphs).flatten = piece.reverse ++ glyphs.map Glyph.char := by
  induction glyphs generalizing piece used with
  | nil => simp [cutEvery]
  | cons glyph rest ih =>
    rw [cutEvery]
    split
    · simp [ih]
    · simp [ih]

theorem cutEvery_ne_nil (width : Nat) (piece : List Char) (used : Nat) (glyphs : List Glyph) :
    cutEvery width piece used glyphs ≠ [] := by
  induction glyphs generalizing piece used with
  | nil => simp [cutEvery]
  | cons glyph rest ih =>
    rw [cutEvery]
    split
    · simp
    · exact ih _ _

theorem flatMap_written_fragmentsOf {spaces : Nat} {texts : List (List Char)} (some : texts ≠ []) :
    (fragmentsOf spaces texts).flatMap Fragment.written = texts.flatten ++ blanks spaces := by
  induction texts using fragmentsOf.induct with
  | case1 => exact absurd rfl some
  | case2 text => simp [fragmentsOf, Fragment.written]
  | case3 text rest more ih =>
    have nonempty : rest ≠ [] := more
    simp [fragmentsOf, Fragment.written, ih nonempty, blanks]

theorem flatMap_written_fragments (width : Nat) (line : List Char) :
    (fragments width line).flatMap Fragment.written = line := by
  have each (fragment : Fragment) : (fragmentsOf fragment.spaces
      ((cutAtHyphens [] fragment.text).flatMap fun text =>
        cutEvery width [] 0 (glyphs text))).flatMap Fragment.written = fragment.written := by
    have some : (cutAtHyphens [] fragment.text).flatMap
        (fun text => cutEvery width [] 0 (glyphs text)) ≠ [] := by
      obtain ⟨text, rest, cut⟩ := List.exists_cons_of_ne_nil (cutAtHyphens_ne_nil [] fragment.text)
      simp [cut, cutEvery_ne_nil]
    have whole (text : List Char) : (cutEvery width [] 0 (glyphs text)).flatten = text := by
      rw [flatten_cutEvery, glyphs, map_char_glyphsFrom]
      rfl
    rw [flatMap_written_fragmentsOf some, ← List.flatMap_id, List.flatMap_assoc]
    simp only [List.flatMap_id, whole]
    rw [List.flatMap_id', flatten_cutAtHyphens]
    rfl
  rw [fragments, List.flatMap_assoc]
  simp only [each]
  exact flatMap_written_cutLine line

theorem columns_le (c : Char) : columns c ≤ mostColumns := by
  simp only [columns, mostColumns]
  split_ifs <;> decide

theorem glyphsFrom_append (state : EscapeState) (text rest : List Char) :
    glyphsFrom state (text ++ rest) =
      glyphsFrom state text ++ glyphsFrom (text.foldl EscapeState.after state) rest := by
  induction text generalizing state with
  | nil => rfl
  | cons c text ih => exact congrArg (List.cons _) (ih _)

theorem glyphsWidth_append (glyphs rest : List Glyph) :
    glyphsWidth (glyphs ++ rest) = glyphsWidth glyphs + glyphsWidth rest := by
  induction glyphs with
  | nil => exact (Nat.zero_add _).symm
  | cons glyph glyphs ih => rw [List.cons_append, glyphsWidth, ih, glyphsWidth, Nat.add_assoc]

theorem textWidth_snoc (text : List Char) (c : Char) :
    textWidth (text ++ [c]) =
      textWidth text + Glyph.width ⟨c, (text.foldl EscapeState.after .outside).hides c⟩ := by
  rw [textWidth, glyphs, glyphsFrom_append, glyphsWidth_append]
  rfl

theorem Glyph.width_le (glyph : Glyph) : glyph.width ≤ mostColumns := by
  rw [Glyph.width]
  split
  · exact Nat.zero_le _
  · exact columns_le _

/-- A piece grows until the next character would not fit, so that none takes more columns than the
width, unless it is a single character that does. -/
theorem textWidth_le_of_mem_cutEvery {width : Nat} {rest text : List Char} (piece : List Char)
    (fits : textWidth piece.reverse ≤ max width mostColumns)
    (member : text ∈ cutEvery width piece (textWidth piece.reverse)
      (glyphsFrom (piece.reverse.foldl EscapeState.after .outside) rest)) :
    textWidth text ≤ max width mostColumns := by
  induction rest generalizing piece with
  | nil =>
    rw [glyphsFrom, cutEvery, List.mem_singleton] at member
    exact member ▸ fits
  | cons c rest ih =>
    let state := piece.reverse.foldl EscapeState.after .outside
    let glyph : Glyph := ⟨c, state.hides c⟩
    have narrow := glyph.width_le
    have longer : textWidth (c :: piece).reverse = textWidth piece.reverse + glyph.width := by
      rw [List.reverse_cons, textWidth_snoc]
    have after : (c :: piece).reverse.foldl EscapeState.after .outside = state.after c := by
      rw [List.reverse_cons, List.foldl_append]
      rfl
    rw [glyphsFrom, cutEvery] at member
    split at member
    · rename_i full
      have shown : state.hides c = false := by
        simp only [Bool.and_eq_true, Bool.not_eq_true'] at full
        exact full.1.1
      -- Only what is shown is cut off, so the next piece begins outside escape sequences.
      obtain ⟨outside, -⟩ : state = .outside ∧ c ≠ '\x1b' := by
        simpa [EscapeState.hides] using shown
      have alone : textWidth [c].reverse = glyph.width := by
        rw [List.reverse_singleton, show glyph = ⟨c, EscapeState.outside.hides c⟩ by rw [← outside]]
        rfl
      rcases List.mem_cons.1 member with rfl | member
      · exact fits
      · refine ih [c] (alone ▸ Nat.le_trans narrow (Nat.le_max_right _ _)) ?_
        rw [alone, List.reverse_singleton, List.foldl_cons, List.foldl_nil, ← outside]
        exact member
    · rename_i goesOn
      refine ih (c :: piece) ?_ ?_
      · rw [longer]
        simp only [Bool.and_eq_true, decide_eq_true_eq, not_and, Bool.not_eq_true'] at goesOn
        by_cases shown : glyph.hidden = false
        · by_cases empty : 0 < textWidth piece.reverse
          · have bound : textWidth piece.reverse + glyph.width ≤ width :=
              Nat.le_of_not_lt (goesOn ⟨shown, empty⟩)
            omega
          · omega
        · have : glyph.width = 0 := if_pos (by simpa using shown)
          omega
      · rw [longer, after]
        exact member

theorem mem_fragmentsOf {spaces : Nat} {texts : List (List Char)} {fragment : Fragment}
    (member : fragment ∈ fragmentsOf spaces texts) : fragment.text ∈ texts := by
  induction texts using fragmentsOf.induct with
  | case1 => simp [fragmentsOf] at member
  | case2 text => simp_all [fragmentsOf]
  | case3 text rest more ih =>
    rw [fragmentsOf] at member
    · rcases List.mem_cons.1 member with rfl | member
      · exact List.mem_cons_self
      · exact List.mem_cons_of_mem _ (ih member)
    · exact more

theorem width_le_of_mem_fragments {width : Nat} {line : List Char} {fragment : Fragment}
    (member : fragment ∈ fragments width line) : fragment.width ≤ max width mostColumns := by
  obtain ⟨part, -, member⟩ := List.mem_flatMap.1 member
  obtain ⟨text, -, member⟩ := List.mem_flatMap.1 (mem_fragmentsOf member)
  exact textWidth_le_of_mem_cutEvery [] (Nat.zero_le _) member

end Parlor.Layout
