import SlotQuery.Proofs.Text.Search
import SlotQuery.Text.Utf8

/-!
# Characters and their bytes

Statements are cut byte by byte, literals are lifted character by character.  The two agree
because an ASCII character is one byte and no other character has an ASCII byte in it
(`utf8EncodeChar_of_ascii`, `le_of_mem_utf8EncodeChar`).  So an ASCII byte stands in the bytes of
a text where its character stands in the text (`byte_mem_encode`), and the same is true of two of
them in a row (`pair_infix_encode`).

Reading back what was written gives the text again (`decode_bytes`), ASCII characters at the
front are read back even where the bytes spell no text (`prefix_decode`), and a text can be cut
at the width of its front (`splitAt?_width_append`).
-/

namespace SlotQuery.Text

theorem encode_cons (c : Char) (cs : List Char) :
    encode (c :: cs) = String.utf8EncodeChar c ++ encode cs :=
  List.flatMap_cons

theorem bytes_append (s t : String) : bytes (s ++ t) = bytes s ++ bytes t := by
  rw [bytes, String.toList_append, encode_append, bytes, bytes]

/-- A map that takes each element to a list goes through a separated list part by part. -/
theorem flatMap_intercalate {α β : Type} (f : α → List β) (sep : List α) (xs : List (List α)) :
    (sep.intercalate xs).flatMap f = (sep.flatMap f).intercalate (xs.map (List.flatMap f)) := by
  induction xs with
  | nil => rfl
  | cons x xs ih =>
      cases xs with
      | nil => simp
      | cons y ys =>
          rw [List.map_cons, List.map_cons, List.intercalate_cons_cons, List.intercalate_cons_cons,
            List.flatMap_append, List.flatMap_append, ih, List.map_cons]

theorem encode_intercalate (sep : List Char) (xs : List (List Char)) :
    encode (sep.intercalate xs) = (encode sep).intercalate (xs.map encode) :=
  flatMap_intercalate String.utf8EncodeChar sep xs

/-- The bytes of separated texts are their bytes, separated by those of the separator. -/
theorem bytes_intercalate (sep : String) (texts : List String) :
    bytes (sep.intercalate texts) = (bytes sep).intercalate (texts.map bytes) := by
  rw [bytes, String.toList_intercalate, encode_intercalate, List.map_map]
  rfl

/-- An ASCII character is one byte. -/
theorem utf8EncodeChar_of_ascii {c : Char} (h : c.toNat < 128) :
    String.utf8EncodeChar c = [UInt8.ofNat c.toNat] := by
  have hle : c.val.toNat ≤ 127 := Nat.le_of_lt_succ h
  unfold String.utf8EncodeChar
  simp only [hle, if_true]
  rfl

/-- Every other character has bytes above ASCII only. -/
theorem le_of_mem_utf8EncodeChar {c : Char} (h : 128 ≤ c.toNat) {b : UInt8}
    (hb : b ∈ String.utf8EncodeChar c) : 128 ≤ b.toNat := by
  have hlt : ¬ c.val.toNat ≤ 127 := Nat.not_le.mpr h
  have hbyte : ∀ n m : Nat, n < 64 → 128 ≤ m → m + n < 256 → 128 ≤ (UInt8.ofNat (n + m)).toNat := by
    intro n m hn hm hsum
    rw [UInt8.toNat_ofNat', Nat.mod_eq_of_lt (by omega)]
    omega
  unfold String.utf8EncodeChar at hb
  simp only [hlt, if_false] at hb
  split at hb
  · simp only [List.mem_cons, List.not_mem_nil, or_false] at hb
    rcases hb with rfl | rfl
    · exact hbyte _ _ (by omega) (by omega) (by omega)
    · exact hbyte _ _ (by omega) (by omega) (by omega)
  · split at hb
    · simp only [List.mem_cons, List.not_mem_nil, or_false] at hb
      rcases hb with rfl | rfl | rfl
      · exact hbyte _ _ (by omega) (by omega) (by omega)
      · exact hbyte _ _ (by omega) (by omega) (by omega)
      · exact hbyte _ _ (by omega) (by omega) (by omega)
    · simp only [List.mem_cons, List.not_mem_nil, or_false] at hb
      rcases hb with rfl | rfl | rfl | rfl
      · exact hbyte _ _ (by omega) (by omega) (by omega)
      · exact hbyte _ _ (by omega) (by omega) (by omega)
      · exact hbyte _ _ (by omega) (by omega) (by omega)
      · exact hbyte _ _ (by omega) (by omega) (by omega)

/-- The bytes of a text read back as that text. -/
theorem decode?_bytes (s : String) : decode? (bytes s) = some s := by
  have hbytes : (bytes s).toByteArray = s.toByteArray := by
    rw [bytes, encode, ← List.utf8Encode, String.utf8Encode_toList]
  rw [decode?, hbytes, String.fromUTF8?, dif_pos s.isValidUTF8]
  rfl

theorem decode_bytes (s : String) : decode (bytes s) = s := by
  rw [decode, decode?_bytes]

theorem decode_encode (cs : List Char) : decode (encode cs) = String.ofList cs := by
  have h := decode_bytes (String.ofList cs)
  rwa [bytes, String.toList_ofList] at h

/-- Texts with the same bytes are the same. -/
theorem bytes_inj {s t : String} (h : bytes s = bytes t) : s = t := by
  rw [← decode_bytes s, h, decode_bytes]

@[inherit_doc bytes_inj]
theorem encode_inj {cs ds : List Char} (h : encode cs = encode ds) : cs = ds := by
  have hread := congrArg decode h
  rwa [decode_encode, decode_encode, String.ofList_inj] at hread

/-- Bytes that read as a text are the bytes of that text. -/
theorem eq_bytes_of_decode? {bs : List UInt8} {s : String} (h : decode? bs = some s) :
    bs = bytes s := by
  unfold decode? String.fromUTF8? at h
  split at h
  · have hs := congrArg String.toByteArray (Option.some.inj h)
    rw [← List.toByteArray_inj, bytes, encode, ← List.utf8Encode, String.utf8Encode_toList]
    exact hs
  · cases h

/-- ASCII characters are told apart by their bytes. -/
theorem ofNat_toNat_inj {a b : Char} (ha : a.toNat < 128) (hb : b.toNat < 128) :
    UInt8.ofNat a.toNat = UInt8.ofNat b.toNat ↔ a = b := by
  constructor
  · intro h
    have hnat := congrArg UInt8.toNat h
    rw [UInt8.toNat_ofNat', UInt8.toNat_ofNat', Nat.mod_eq_of_lt (by omega),
      Nat.mod_eq_of_lt (by omega)] at hnat
    exact Char.toNat_inj.mp hnat
  · rintro rfl
    rfl

/-- An ASCII byte is not among the bytes of another character. -/
theorem byte_mem_utf8EncodeChar {a c : Char} (ha : a.toNat < 128) :
    UInt8.ofNat a.toNat ∈ String.utf8EncodeChar c ↔ a = c := by
  by_cases hc : c.toNat < 128
  · rw [utf8EncodeChar_of_ascii hc, List.mem_singleton, ofNat_toNat_inj ha hc]
  · constructor
    · intro h
      have hhigh := le_of_mem_utf8EncodeChar (Nat.not_lt.mp hc) h
      rw [UInt8.toNat_ofNat', Nat.mod_eq_of_lt (by omega)] at hhigh
      omega
    · rintro rfl
      exact absurd ha hc

/-- An ASCII byte is there exactly if its character is. -/
theorem byte_mem_encode {a : Char} (ha : a.toNat < 128) {cs : List Char} :
    UInt8.ofNat a.toNat ∈ encode cs ↔ a ∈ cs := by
  induction cs with
  | nil => simp
  | cons c cs ih => rw [encode_cons, List.mem_append, byte_mem_utf8EncodeChar ha, ih, List.mem_cons]

/-- Writing an ASCII character twice is writing its byte twice. -/
theorem encode_double {a : Char} (ha : a.toNat < 128) (cs : List Char) :
    encode (replaceAll a [a, a] cs) =
      replaceAll (UInt8.ofNat a.toNat) [UInt8.ofNat a.toNat, UInt8.ofNat a.toNat] (encode cs) := by
  induction cs with
  | nil => rfl
  | cons c cs ih =>
      rw [replaceAll_cons, encode_append, ih, encode_cons, replaceAll_append]
      by_cases hc : c = a
      · rw [if_pos hc, hc, encode_cons, encode_cons, utf8EncodeChar_of_ascii ha, replaceAll_cons,
          if_pos rfl]
        rfl
      · have hnone : UInt8.ofNat a.toNat ∉ String.utf8EncodeChar c := fun hmem =>
          hc ((byte_mem_utf8EncodeChar ha).mp hmem).symm
        rw [if_neg hc, replaceAll_of_not_mem hnone]
        simp [encode]

/-- An ASCII byte begins the bytes of its own character only. -/
theorem head?_utf8EncodeChar {a c : Char} (ha : a.toNat < 128) :
    (String.utf8EncodeChar c).head? = some (UInt8.ofNat a.toNat) ↔ c = a := by
  constructor
  · intro h
    exact ((byte_mem_utf8EncodeChar ha).mp (List.mem_of_head? h)).symm
  · rintro rfl
    rw [utf8EncodeChar_of_ascii ha]
    rfl

/-- An ASCII byte ends the bytes of its own character only. -/
theorem getLast?_utf8EncodeChar {a c : Char} (ha : a.toNat < 128) :
    (String.utf8EncodeChar c).getLast? = some (UInt8.ofNat a.toNat) ↔ c = a := by
  constructor
  · intro h
    exact ((byte_mem_utf8EncodeChar ha).mp (List.mem_of_getLast? h)).symm
  · rintro rfl
    rw [utf8EncodeChar_of_ascii ha]
    rfl

/-- A text begins with an ASCII byte if it begins with that character. -/
theorem head?_encode {a : Char} (ha : a.toNat < 128) {cs : List Char} :
    (encode cs).head? = some (UInt8.ofNat a.toNat) ↔ cs.head? = some a := by
  cases cs with
  | nil => simp
  | cons c cs =>
      rw [encode_cons, List.head?_append_of_ne_nil _ String.utf8EncodeChar_ne_nil,
        head?_utf8EncodeChar ha, List.head?_cons, Option.some.injEq]

/-- ASCII characters stand at the front of a text where their bytes do. -/
theorem prefix_of_prefix_encode {cs ds : List Char} (hascii : ∀ c ∈ cs, c.toNat < 128)
    (h : encode cs <+: encode ds) : cs <+: ds := by
  induction cs generalizing ds with
  | nil => exact List.nil_prefix
  | cons c cs ih =>
      obtain ⟨hc, hcs⟩ := List.forall_mem_cons.mp hascii
      rw [encode_cons, utf8EncodeChar_of_ascii hc, List.singleton_append] at h
      have hhead : (encode ds).head? = some (UInt8.ofNat c.toNat) := by
        obtain ⟨rest, hrest⟩ := h
        rw [← hrest]
        rfl
      obtain ⟨ds', rfl⟩ := List.head?_eq_some_iff.mp ((head?_encode hc).mp hhead)
      rw [encode_cons, utf8EncodeChar_of_ascii hc, List.singleton_append] at h
      exact List.cons_prefix_cons.mpr ⟨rfl, ih hcs (List.cons_prefix_cons.mp h).2⟩

/-- Reading byte by byte gives ASCII characters back. -/
theorem map_encode_of_ascii {cs : List Char} (hascii : ∀ c ∈ cs, c.toNat < 128) :
    (encode cs).map (fun b => if b < 128 then Char.ofNat b.toNat else replacement) = cs := by
  induction cs with
  | nil => rfl
  | cons c cs ih =>
      obtain ⟨hc, hcs⟩ := List.forall_mem_cons.mp hascii
      have hbyte : (UInt8.ofNat c.toNat).toNat = c.toNat := by
        rw [UInt8.toNat_ofNat', Nat.mod_eq_of_lt (by omega)]
      have hlow : UInt8.ofNat c.toNat < 128 := by
        rw [UInt8.lt_iff_toNat_lt, hbyte]
        exact hc
      rw [encode_cons, utf8EncodeChar_of_ascii hc, List.singleton_append, List.map_cons,
        if_pos hlow, hbyte, Char.ofNat_toNat, ih hcs]

/-- ASCII characters at the front of some bytes are read as such, whatever the bytes spell. -/
theorem prefix_decode {cs : List Char} (hascii : ∀ c ∈ cs, c.toNat < 128) {bs : List UInt8}
    (h : encode cs <+: bs) : cs <+: (decode bs).toList := by
  unfold decode
  cases hdecode : decode? bs with
  | some s =>
      rw [eq_bytes_of_decode? hdecode] at h
      exact prefix_of_prefix_encode hascii h
  | none =>
      obtain ⟨rest, rfl⟩ := h
      dsimp only
      rw [String.toList_ofList, List.map_append, map_encode_of_ascii hascii]
      exact List.prefix_append _ _

/-- Two ASCII bytes stand in a row where their characters do. -/
theorem pair_infix_encode {a b : Char} (ha : a.toNat < 128) (hb : b.toNat < 128)
    {cs : List Char} :
    [UInt8.ofNat a.toNat, UInt8.ofNat b.toNat] <:+: encode cs ↔ [a, b] <:+: cs := by
  induction cs with
  | nil => simp
  | cons c cs ih =>
      have hbytes : ¬ [UInt8.ofNat a.toNat, UInt8.ofNat b.toNat] <:+: String.utf8EncodeChar c := by
        intro h
        have hac := (byte_mem_utf8EncodeChar ha).mp (h.subset (by simp))
        rw [← hac, utf8EncodeChar_of_ascii ha] at h
        exact absurd h.length_le (by simp)
      have hletter : ¬ [a, b] <:+: [c] := fun h => absurd h.length_le (by simp)
      have hcons : c :: cs = [c] ++ cs := rfl
      rw [encode_cons, pair_infix_append, ih, getLast?_utf8EncodeChar ha, head?_encode hb, hcons,
        pair_infix_append, List.getLast?_singleton, Option.some.injEq]
      simp only [hbytes, hletter, false_or]

/-- A text can be cut where its front ends. -/
theorem splitAt?_width_append (cs ds : List Char) :
    splitAt? (width cs) (cs ++ ds) = some (cs, ds) := by
  induction cs with
  | nil => rw [width_nil, List.nil_append, splitAt?]
  | cons c cs ih =>
      have hpos : 0 < c.utf8Size := c.utf8Size_pos
      obtain ⟨n, hn⟩ := Nat.exists_eq_succ_of_ne_zero (n := c.utf8Size + width cs) (by omega)
      have hle : c.utf8Size ≤ n + 1 := by omega
      have hrest : n + 1 - c.utf8Size = width cs := by omega
      rw [width_cons, hn, List.cons_append, Nat.succ_eq_add_one, splitAt?, if_pos hle, hrest, ih]
      rfl

/-- The parts of a text that was cut are that text, and the first is as wide as was asked for. -/
theorem eq_append_of_splitAt? {n : Nat} {cs before after : List Char}
    (h : splitAt? n cs = some (before, after)) : cs = before ++ after ∧ n = width before := by
  fun_induction splitAt? n cs generalizing before after with
  | case1 cs =>
      cases h
      exact ⟨rfl, rfl⟩
  | case2 n => cases h
  | case3 n c cs hle ih =>
      obtain ⟨⟨front, rest⟩, hcut, heq⟩ := Option.map_eq_some_iff.mp h
      cases heq
      obtain ⟨htext, hwidth⟩ := ih hcut
      refine ⟨by rw [htext, List.cons_append], ?_⟩
      rw [width_cons]
      omega
  | case4 n c cs hle => cases h

end SlotQuery.Text
