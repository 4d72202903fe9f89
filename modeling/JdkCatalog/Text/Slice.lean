/-!
# Slices of a text

A text is cut at offsets that count bytes.  There is a slice between two offsets only
if they are in order and neither is inside a character.
-/

namespace JdkCatalog.Text

/-- The text between two offsets. -/
def slice? (s : String) (start stop : Nat) : Option String :=
  if h : (⟨start⟩ : String.Pos.Raw).IsValid s ∧ (⟨stop⟩ : String.Pos.Raw).IsValid s ∧
      start ≤ stop then
    some (s.extract ⟨⟨start⟩, h.1⟩ ⟨⟨stop⟩, h.2.1⟩)
  else
    none

theorem slice?_isSome_iff {s : String} {start stop : Nat} :
    (slice? s start stop).isSome = true ↔ (⟨start⟩ : String.Pos.Raw).IsValid s ∧
      (⟨stop⟩ : String.Pos.Raw).IsValid s ∧ start ≤ stop := by
  rw [slice?]
  split <;> simp [*]

theorem slice?_append (front middle back : String) :
    slice? (front ++ middle ++ back) front.utf8ByteSize (front ++ middle).utf8ByteSize =
      some middle := by
  have hstart : (⟨front.utf8ByteSize⟩ : String.Pos.Raw).IsValid (front ++ middle ++ back) :=
    String.Pos.Raw.isValid_iff_exists_append.mpr
      ⟨front, middle ++ back, String.append_assoc .., rfl⟩
  have hstop : (⟨(front ++ middle).utf8ByteSize⟩ : String.Pos.Raw).IsValid
      (front ++ middle ++ back) :=
    String.Pos.Raw.isValid_iff_exists_append.mpr ⟨front ++ middle, back, rfl, rfl⟩
  have hle : front.utf8ByteSize ≤ (front ++ middle).utf8ByteSize := by simp
  rw [slice?, dif_pos ⟨hstart, hstop, hle⟩]
  congr 1
  apply String.toByteArray_inj.mp
  rw [String.toByteArray_extract]
  simp only [String.utf8ByteSize_append, String.append_assoc, String.toByteArray_append]
  exact (ByteArray.extract_append_size_add (i := 0)).trans (ByteArray.extract_append_eq_left rfl)

end JdkCatalog.Text
