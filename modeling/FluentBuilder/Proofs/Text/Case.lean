import FluentBuilder.Text.Case

/-!
# Case and separators

Changing the case of a text adds no separator of names or paths to it. Beyond ASCII every image of a
character is a character that comes behind the digit nought (`toLowerTable_images`,
`toUpperTable_images`), where neither a point nor a slash stands; the tables are checked line by line.
-/

namespace FluentBuilder.Text

/-! ### Images in tables -/

/-- Are all images in a row characters that come behind the separators? The last image of a row is as
far from the first one as the ends of its range. -/
def hasHighImages (row : MapRow) : Bool :=
  row.target.all fun image =>
    let last := image + (row.range.2 - row.range.1)
    0x30 ≤ image && (last < 0xd800 || 0xdfff < image && last < 0x110000)

/-- Do all images in a line of rows? -/
def lineHasHighImages (line : String) : Bool :=
  (splitAt ' ' line.toList).all fun word => hasHighImages (MapRow.ofText word)

/-- What holds of all lines holds of all rows. -/
theorem hasHighImages_of_ofLines {lines : List String}
    (h : ∀ line ∈ lines, lineHasHighImages line = true) :
    ∀ row ∈ (MapTable.ofLines lines).rows, hasHighImages row = true := by
  intro row hrow
  rw [MapTable.ofLines, List.mem_toArray, List.mem_map] at hrow
  obtain ⟨word, hword, rfl⟩ := hrow
  obtain ⟨line, hline, hword⟩ := List.mem_flatMap.mp hword
  exact List.all_eq_true.mp (h line hline) word hword

/-- The images in lower case come behind the separators. -/
theorem toLowerTable_images : ∀ row ∈ toLowerTable.rows, hasHighImages row = true := by
  refine hasHighImages_of_ofLines ?_
  repeat' first
    | exact List.forall_mem_nil _
    | refine List.forall_mem_cons.mpr ⟨?_, ?_⟩
    | (rw [lineHasHighImages, String.toList_ofList]; decide +kernel)

/-- The images in upper case come behind the separators. -/
theorem toUpperTable_images : ∀ row ∈ toUpperTable.rows, hasHighImages row = true := by
  refine hasHighImages_of_ofLines ?_
  repeat' first
    | exact List.forall_mem_nil _
    | refine List.forall_mem_cons.mpr ⟨?_, ?_⟩
    | (rw [lineHasHighImages, String.toList_ofList]; decide +kernel)

/-- A row that is found has the code point in its range. -/
theorem exists_of_bisect {rowOf : Nat → Option (Nat × Nat)} {c fuel low high i : Nat}
    (h : bisect rowOf c fuel low high = some i) :
    ∃ first last, rowOf i = some (first, last) ∧ first ≤ c ∧ c ≤ last := by
  induction fuel generalizing low high with
  | zero => cases h
  | succ fuel ih =>
    rw [bisect] at h
    split at h
    · simp only at h
      split at h
      · next first last hrow =>
        split at h
        · exact ih h
        · split at h
          · exact ih h
          · obtain rfl := Option.some.inj h
            exact ⟨first, last, hrow, by omega, by omega⟩
      · cases h
    · cases h

/-- An image behind the separators: its number is that of a character. -/
def IsHigh (n : Nat) : Prop := 0x30 ≤ n ∧ n.isValidChar

/-- Images that are found come behind the separators. -/
theorem isHigh_of_find? {table : MapTable} (h : ∀ row ∈ table.rows, hasHighImages row = true)
    {c : Nat} {images : List Nat} (hfound : table.find? c = some images) :
    ∀ image ∈ images, IsHigh image := by
  simp only [MapTable.find?, bind, Option.bind_eq_some_iff] at hfound
  obtain ⟨i, hi, row, hrow, htarget⟩ := hfound
  obtain ⟨first, last, hrange, -, hlast⟩ := exists_of_bisect hi
  have hend : c ≤ row.range.2 := by
    rw [hrow, Option.map_some, Option.some.injEq] at hrange
    rw [hrange]
    exact hlast
  have hhigh := h row (Array.mem_of_getElem? hrow)
  simp only [hasHighImages, List.all_eq_true, Bool.and_eq_true, Bool.or_eq_true,
    decide_eq_true_eq] at hhigh
  unfold IsHigh Nat.isValidChar
  split at htarget
  · next image htarget' =>
    obtain rfl := Option.some.inj htarget
    have hle := hhigh image (by rw [htarget']; exact List.mem_cons_self)
    intro image' himage
    rw [List.mem_singleton.mp himage]
    omega
  · obtain rfl := Option.some.inj htarget
    intro image himage
    have hle := hhigh image himage
    omega

/-! ### Separators -/

/-- A character that may stand between the parts of a name or a path. -/
def IsSeparator (c : Char) : Prop := c.toNat < 0x30

instance (c : Char) : Decidable (IsSeparator c) :=
  inferInstanceAs (Decidable (c.toNat < 0x30))

/-- A character from behind the separators is none. -/
theorem not_isSeparator_ofNat {n : Nat} (h : IsHigh n) : ¬ IsSeparator (Char.ofNat n) := by
  obtain ⟨hle, hvalid⟩ := h
  have hn : (Char.ofNat n).toNat = n := by
    rw [Char.ofNat, dif_pos hvalid]
    rfl
  rw [IsSeparator, hn]
  omega

/-- A separator is an image of itself alone. -/
theorem eq_of_mem_apply {table : MapTable} (h : ∀ row ∈ table.rows, hasHighImages row = true)
    {c separator : Char} (hseparator : IsSeparator separator) (hmem : separator ∈ table.apply c) :
    separator = c := by
  rw [MapTable.apply] at hmem
  split at hmem
  · next images hfound =>
    obtain ⟨image, himage, rfl⟩ := List.mem_map.mp hmem
    exact absurd hseparator (not_isSeparator_ofNat (isHigh_of_find? h hfound image himage))
  · exact List.mem_singleton.mp hmem

/-- An ASCII character in lower case is a separator only if it was one. -/
theorem toLower_eq_of_isSeparator {c : Char} (h : IsSeparator c.toLower) : c.toLower = c := by
  have hlt : _ < 0x30 := h
  unfold Char.toLower at hlt ⊢
  split at hlt
  · next hcapital =>
    obtain ⟨hle, hge⟩ := hcapital
    simp only [Char.toNat, UInt32.toNat_add, ge_iff_le, UInt32.le_iff_toNat_le] at hlt hle hge
    simp at hlt hle hge
    omega
  · next hcapital => rw [dif_neg hcapital]

/-- An ASCII character in upper case is a separator only if it was one. -/
theorem toUpper_eq_of_isSeparator {c : Char} (h : IsSeparator c.toUpper) : c.toUpper = c := by
  have hlt : _ < 0x30 := h
  unfold Char.toUpper at hlt ⊢
  split at hlt
  · next hsmall =>
    obtain ⟨hle, hge⟩ := hsmall
    simp only [Char.toNat, UInt32.toNat_add, UInt32.le_iff_toNat_le] at hlt hle hge
    simp at hlt hle hge
    omega
  · next hsmall => rw [dif_neg hsmall]

/-- Only a separator has itself in its lower-case form. -/
theorem eq_of_mem_lower {c separator : Char} (hseparator : IsSeparator separator)
    (hmem : separator ∈ lower c) : separator = c := by
  unfold lower at hmem
  split at hmem
  · obtain rfl := List.mem_singleton.mp hmem
    exact toLower_eq_of_isSeparator hseparator
  · exact eq_of_mem_apply toLowerTable_images hseparator hmem

/-- Only a separator has itself in its upper-case form. -/
theorem eq_of_mem_upper {c separator : Char} (hseparator : IsSeparator separator)
    (hmem : separator ∈ upper c) : separator = c := by
  unfold upper at hmem
  split at hmem
  · obtain rfl := List.mem_singleton.mp hmem
    exact toUpper_eq_of_isSeparator hseparator
  · exact eq_of_mem_apply toUpperTable_images hseparator hmem

/-- Separators in the lower-case form of characters are among them. -/
theorem mem_of_mem_lowerFrom {separator : Char} (hseparator : IsSeparator separator)
    {before cs : List Char} (hmem : separator ∈ lowerFrom before cs) : separator ∈ cs := by
  induction cs generalizing before with
  | nil => exact hmem
  | cons c rest ih =>
    rw [lowerFrom, List.mem_append] at hmem
    rcases hmem with himage | hrest
    · -- Both forms of the sigma come behind the separators.
      split at himage
      · have hsigma : ∀ n : Nat, IsHigh n → separator ∉ [Char.ofNat n] := fun n hn hmem =>
          not_isSeparator_ofNat hn (List.mem_singleton.mp hmem ▸ hseparator)
        split at himage
        · exact absurd himage (hsigma _ ⟨by decide, by decide⟩)
        · exact absurd himage (hsigma _ ⟨by decide, by decide⟩)
      · rw [eq_of_mem_lower hseparator himage]
        exact List.mem_cons_self
    · exact List.mem_cons_of_mem c (ih hrest)

/-- **Lower case adds no separator.** -/
theorem mem_of_mem_lowerText {separator : Char} (hseparator : IsSeparator separator) {s : String}
    (hmem : separator ∈ (lowerText s).toList) : separator ∈ s.toList := by
  rw [lowerText, String.toList_ofList] at hmem
  exact mem_of_mem_lowerFrom hseparator hmem

end FluentBuilder.Text
