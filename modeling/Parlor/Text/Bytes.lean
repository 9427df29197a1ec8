namespace Parlor.Text

def byteLength : List Char → Nat
  | [] => 0
  | c :: text => c.utf8Size + byteLength text

def takeBytes : Nat → List Char → List Char
  | _, [] => []
  | bytes, c :: text =>
    if c.utf8Size ≤ bytes then c :: takeBytes (bytes - c.utf8Size) text else []

@[simp] theorem byteLength_nil : byteLength [] = 0 := rfl

@[simp] theorem byteLength_cons (c : Char) (text : List Char) :
    byteLength (c :: text) = c.utf8Size + byteLength text := rfl

@[simp] theorem byteLength_append (text rest : List Char) :
    byteLength (text ++ rest) = byteLength text + byteLength rest := by
  induction text with
  | nil => simp
  | cons c text ih => simp [ih, Nat.add_assoc]

theorem byteLength_eq_zero {text : List Char} (h : byteLength text = 0) : text = [] := by
  cases text with
  | nil => rfl
  | cons c text =>
    have positive : 0 < c.utf8Size := Char.utf8Size_pos c
    rw [byteLength_cons] at h
    omega

theorem byteLength_pos {text : List Char} (h : text ≠ []) : 0 < byteLength text :=
  Nat.pos_of_ne_zero fun zero => h (byteLength_eq_zero zero)

theorem append_of_byteLength_le {front rest before after : List Char}
    (same : front ++ rest = before ++ after) (le : byteLength front ≤ byteLength before) :
    ∃ between, before = front ++ between ∧ rest = between ++ after := by
  rcases List.append_eq_append_iff.1 same with ⟨between, h, h'⟩ | ⟨between, h, h'⟩
  · exact ⟨between, h, h'⟩
  · rw [h, byteLength_append] at le
    obtain rfl := byteLength_eq_zero (show byteLength between = 0 by omega)
    exact ⟨[], by simpa using h.symm, by simpa using h'.symm⟩

theorem takeBytes_byteLength (text rest : List Char) :
    takeBytes (byteLength text) (text ++ rest) = text := by
  induction text with
  | nil =>
    cases rest with
    | nil => rfl
    | cons c rest =>
      have : 0 < c.utf8Size := Char.utf8Size_pos c
      simp [takeBytes, Nat.not_le.2 this]
  | cons c text ih => simp [takeBytes, ih]

end Parlor.Text
