import SlotQuery.Proofs.Text.Utf8

/-!
# Bytes of whole characters

Bytes are `Whole` if they are the bytes of a text.  Such bytes can be told apart from others at any
place: the first byte of a character is never inside another one.  So whole bytes that are cut in
front of the first byte of a character are whole on both sides (`Whole.split`), and so are whole
bytes around whole bytes (`Whole.around`), for instance around an ASCII byte (`Whole.around_ascii`).
-/

namespace SlotQuery.Text

/-- The bytes are those of some characters. -/
def Whole (bs : List UInt8) : Prop :=
  ∃ cs, bs = encode cs

theorem whole_bytes (s : String) : Whole (bytes s) :=
  ⟨s.toList, rfl⟩

/-- Whole bytes are read as the text that they spell. -/
theorem Whole.bytes_decode {bs : List UInt8} (h : Whole bs) : bytes (decode bs) = bs := by
  obtain ⟨cs, rfl⟩ := h
  rw [decode_encode, bytes, String.toList_ofList]

namespace Whole

variable {xs ys zs : List UInt8}

theorem nil : Whole [] :=
  ⟨[], rfl⟩

/-- Whole characters in a row are whole. -/
theorem append (hxs : Whole xs) (hys : Whole ys) : Whole (xs ++ ys) := by
  obtain ⟨cs, rfl⟩ := hxs
  obtain ⟨ds, rfl⟩ := hys
  exact ⟨cs ++ ds, (encode_append cs ds).symm⟩

/-- An ASCII byte is a whole character. -/
theorem ascii {b : UInt8} (hb : b.toNat < 128) : Whole [b] := by
  have hascii : ∀ n < 128, (Char.ofNat n).toNat = n := by decide
  have hchar := hascii b.toNat hb
  have hlow : (Char.ofNat b.toNat).toNat < 128 := by
    rw [hchar]
    exact hb
  refine ⟨[Char.ofNat b.toNat], ?_⟩
  rw [encode_cons, utf8EncodeChar_of_ascii hlow, hchar, UInt8.ofNat_toNat]
  rfl

/-- Whole bytes begin with the first byte of a character. -/
theorem head (h : Whole xs) : ∀ b ∈ xs.head?, b.IsUTF8FirstByte := by
  obtain ⟨cs, rfl⟩ := h
  cases cs with
  | nil => simp
  | cons c cs =>
      intro b hb
      rw [encode_cons, List.head?_append_of_ne_nil _ String.utf8EncodeChar_ne_nil] at hb
      obtain ⟨hpos, rfl⟩ := List.getElem?_eq_some_iff.mp (List.head?_eq_getElem? ▸ hb)
      exact UInt8.isUTF8FirstByte_getElem_utf8EncodeChar.mpr rfl

end Whole

/-- Only the first byte of a character is one. -/
theorem not_first_of_mem_utf8EncodeChar {c : Char} {front back : List UInt8} {b : UInt8}
    (h : String.utf8EncodeChar c = front ++ b :: back) (hfront : front ≠ []) :
    ¬ b.IsUTF8FirstByte := by
  have hlt : front.length < (String.utf8EncodeChar c).length := by
    rw [h, List.length_append, List.length_cons]
    omega
  have hb : (String.utf8EncodeChar c)[front.length] = b := by simp [h]
  intro hfirst
  rw [← hb, UInt8.isUTF8FirstByte_getElem_utf8EncodeChar] at hfirst
  exact hfront (List.length_eq_zero_iff.mp hfirst)

/-- Characters are read from their bytes in one way only. -/
theorem utf8EncodeChar_append_inj {c d : Char} {xs ys : List UInt8}
    (h : String.utf8EncodeChar c ++ xs = String.utf8EncodeChar d ++ ys) : c = d ∧ xs = ys := by
  have hread : ∀ (e : Char) (zs : List UInt8),
      ByteArray.utf8DecodeChar? (String.utf8EncodeChar e ++ zs).toByteArray 0 = some e := by
    intro e zs
    rw [List.toByteArray_append]
    exact ByteArray.utf8DecodeChar?_utf8EncodeChar_append
  have hcd : c = d := Option.some.inj ((hread c xs).symm.trans (h ▸ hread d ys))
  subst hcd
  exact ⟨rfl, List.append_cancel_left h⟩

namespace Whole

variable {xs ys zs : List UInt8}

/-- What follows whole bytes in whole bytes is whole. -/
theorem of_append (h : Whole (xs ++ ys)) (hxs : Whole xs) : Whole ys := by
  obtain ⟨cs, rfl⟩ := hxs
  obtain ⟨ds, hds⟩ := h
  induction cs generalizing ds with
  | nil => exact ⟨ds, hds⟩
  | cons c cs ih =>
      rw [encode_cons, List.append_assoc] at hds
      cases ds with
      | nil => exact absurd (List.append_eq_nil_iff.mp hds).1 String.utf8EncodeChar_ne_nil
      | cons d ds =>
          rw [encode_cons] at hds
          exact ih ds (utf8EncodeChar_append_inj hds).2

/-- Whole bytes can be cut in front of the first byte of a character. -/
theorem split (h : Whole (xs ++ ys)) (hys : ∀ b ∈ ys.head?, b.IsUTF8FirstByte) :
    Whole xs ∧ Whole ys := by
  obtain ⟨cs, hcs⟩ := h
  induction cs generalizing xs with
  | nil =>
      obtain ⟨rfl, rfl⟩ := List.append_eq_nil_iff.mp hcs
      exact ⟨nil, nil⟩
  | cons c cs ih =>
      rw [encode_cons] at hcs
      rcases List.append_eq_append_iff.mp hcs with ⟨more, hchar, rfl⟩ | ⟨more, rfl, hrest⟩
      · cases more with
        | nil =>
            rw [List.append_nil] at hchar
            exact ⟨⟨[c], by simp [encode, hchar]⟩, ⟨cs, rfl⟩⟩
        | cons b more =>
            -- The cut would be inside of the character, unless it is in front of it.
            have hfirst : b.IsUTF8FirstByte := hys b rfl
            by_cases hxs : xs = []
            · subst hxs
              exact ⟨nil, ⟨c :: cs, by rw [encode_cons, hchar]; rfl⟩⟩
            · exact absurd hfirst (not_first_of_mem_utf8EncodeChar hchar hxs)
      · obtain ⟨hmore, hwhole⟩ := ih hrest.symm
        exact ⟨append ⟨[c], by simp [encode]⟩ hmore, hwhole⟩

/-- What stands around whole bytes in whole bytes is whole. -/
theorem around (h : Whole (xs ++ (ys ++ zs))) (hys : Whole ys) (hne : ys ≠ []) :
    Whole xs ∧ Whole zs := by
  have hhead : ∀ b ∈ (ys ++ zs).head?, b.IsUTF8FirstByte := by
    rw [List.head?_append_of_ne_nil _ hne]
    exact hys.head
  obtain ⟨hxs, hrest⟩ := h.split hhead
  exact ⟨hxs, hrest.of_append hys⟩

theorem around_ascii {b : UInt8} (h : Whole (xs ++ b :: zs)) (hb : b.toNat < 128) :
    Whole xs ∧ Whole zs :=
  around h (ascii hb) (List.cons_ne_nil b [])

end Whole

end SlotQuery.Text
