import SlotQuery.Proofs.Batch.Keyword
import SlotQuery.Proofs.Engine.Reading
import SlotQuery.Proofs.Text.Letters

/-!
# Texts that are taken for inserts

A connection knows an insert by the first word of its text (`Batch.isInsert`), the engine by the
first lexeme.  They disagree about what a blank is, where a word ends and whether a comment may come
first, so a text may read as an insert without being taken for one.  The other way round there is no
mistake: what is taken for an insert and reads as a statement is an insert
(`Engine.Statement.isInsert_of_read`).
-/

namespace SlotQuery

open Text (isBlank)

namespace Engine

namespace Lexeme

/-- What counts as blank around statements is ASCII where it separates words. -/
theorem isSpace_of_isBlank {c : Char} (h : isBlank c = true) :
    isSpace c = true ∨ 128 ≤ c.toNat ∧ c ≠ '\uFEFF' := by
  have hmark : c ≠ '\uFEFF' := by
    rintro rfl
    revert h
    decide
  by_cases hascii : 128 ≤ c.toNat
  · exact .inr ⟨hascii, hmark⟩
  · left
    have hspace : isSpace (Char.ofNat c.toNat) = true := by
      have hall : ∀ n < 128, isBlank (Char.ofNat n) = true → isSpace (Char.ofNat n) = true := by
        decide
      exact hall c.toNat (by omega) (by rwa [Char.ofNat_toNat])
    rwa [Char.ofNat_toNat] at hspace

/-- Among the characters that continue a stretch of blanks, one cannot start it. -/
theorem eq_of_isSpace {c : Char} (h : isSpace c = true) (hstarts : startsSpace c = false) :
    c = '\x0b' := by
  have hsmall : c.toNat < 128 := by
    by_contra hlarge
    rw [isSpace, Bool.or_eq_true, Bool.and_eq_true, decide_eq_true_eq, decide_eq_true_eq,
      decide_eq_true_eq] at h
    rcases h with rfl | ⟨-, hle⟩
    · exact hlarge (by decide)
    · have hreturn : c.val.toNat ≤ 13 := UInt32.le_iff_toNat_le.mp hle
      have hcode : c.val.toNat = c.toNat := rfl
      omega
  have hall : ∀ n < 128, isSpace (Char.ofNat n) = true → startsSpace (Char.ofNat n) = false →
      Char.ofNat n = '\x0b' := by decide
  have heq := hall c.toNat hsmall
  rw [Char.ofNat_toNat] at heq
  exact heq h hstarts

end Lexeme

namespace Statement

open Lexeme (startsSpace isSpace startsName continuesName)

/-- The statement is an insert. -/
def IsInsert : Statement → Prop
  | insert .. => True
  | _ => False

/-- An insert is a statement that changes rows. -/
theorem IsInsert.changesRows {s : Statement} (h : s.IsInsert) : s.changesRows = true := by
  cases s with
  | insert => rfl
  | _ => exact h.elim

/-- The words that all other statements begin with. -/
def otherWords : List String :=
  ["create", "update", "delete", "select", "begin", "commit", "savepoint", "rollback"]

/-- Whatever is no insert begins with one of the other words. -/
theorem firstWord_of_not_insert {s : Statement} (h : ¬ s.IsInsert) : s.firstWord ∈ otherWords := by
  cases s with
  | insert => exact absurd trivial h
  | _ => exact of_decide_eq_true rfl

/-- The word is in small letters and begins neither with an `i` nor with an `r` and an `e`. -/
structure Other (k : String) : Prop where
  lower : k.toList.map Char.toLower = k.toList
  ascii : (k.toList.all fun d => d.toNat < 128) = true
  first : k.toList.head? ≠ some 'i'
  second : k.toList.head? = some 'r' → k.toList[1]? ≠ some 'e'

/-- None of the other words is one that an insert begins with. -/
theorem other_of_mem {k : String} (h : k ∈ otherWords) : Other k := by
  simp only [otherWords, List.mem_cons, List.not_mem_nil, or_false] at h
  rcases h with rfl | rfl | rfl | rfl | rfl | rfl | rfl | rfl <;>
    exact ⟨by decide, by decide, by decide, by decide⟩

/-- A text that begins so is a word, and none of the other words. -/
def Odd (c : Char) (rest : List Char) : Prop :=
  128 ≤ c.toNat ∧ c ≠ '\uFEFF' ∨ c.toLower = 'i' ∨
    c.toLower = 'r' ∧ ∃ e more, rest = e :: more ∧ e.toLower = 'e'

variable {c : Char} {rest : List Char}

/-- The character is one of a few letters or no ASCII. -/
theorem Odd.cases (h : Odd c rest) :
    128 ≤ c.toNat ∧ c ≠ '\uFEFF' ∨ c ∈ ['i', 'I', 'r', 'R'] := by
  rcases h with hlarge | hi | ⟨hr, -⟩
  · exact .inl hlarge
  · rcases Text.eq_of_toLower_eq 'I' rfl hi with rfl | rfl
    · exact .inr (by decide)
    · exact .inr (by decide)
  · rcases Text.eq_of_toLower_eq 'R' rfl hr with rfl | rfl
    · exact .inr (by decide)
    · exact .inr (by decide)

/-- A word that is out of place starts a name, and is no blank, no NUL and no X. -/
theorem Odd.starts (h : Odd c rest) :
    startsName c = true ∧ startsSpace c = false ∧ isSpace c = false ∧ c ≠ '\x00' ∧
      c ≠ 'x' ∧ c ≠ 'X' := by
  rcases h.cases with ⟨hlarge, hmark⟩ | hletter
  · have hne : ∀ d : Char, d.toNat < 128 → c ≠ d := by
      rintro d hd rfl
      omega
    refine ⟨by simp [startsName, hlarge], ?_, ?_, hne _ (by decide), hne _ (by decide),
      hne _ (by decide)⟩
    · simp (disch := decide) [startsSpace, hne, hmark]
    · have hreturn : ¬ c ≤ '\r' := by
        intro hle
        have hcode : c.val.toNat ≤ 13 := UInt32.le_iff_toNat_le.mp hle
        have hsame : c.val.toNat = c.toNat := rfl
        omega
      simp (disch := decide) [isSpace, hne, hreturn]
  · simp only [List.mem_cons, List.not_mem_nil, or_false] at hletter
    rcases hletter with rfl | rfl | rfl | rfl <;> decide

/-- The word is none of the other words. -/
theorem Odd.not_keyword (h : Odd c rest) {k : String} (hk : Other k) (spelling : List Char)
    (offset : Nat) :
    isKeyword k (some ⟨.word (String.ofList
      (c :: (rest.takeWhile (· ≠ '\x00')).takeWhile continuesName)), spelling, offset⟩) =
        false := by
  refine decide_eq_false fun hsame => ?_
  rw [String.toList_ofList, hk.lower] at hsame
  have hfirst : k.toList.head? = some c.toLower := by
    rw [← hsame]
    rfl
  rcases h with ⟨hlarge, -⟩ | hi | ⟨hr, e, more, rfl, he⟩
  · have hsmall := of_decide_eq_true (List.all_eq_true.mp hk.ascii _ (List.mem_of_head? hfirst))
    rw [Text.toLower_of_le hlarge] at hsmall
    omega
  · rw [hi] at hfirst
    exact hk.first hfirst
  · -- Only "rollback" begins with this letter, too, and its second letter is another.
    rw [hr] at hfirst
    refine hk.second hfirst ?_
    have hkept : e ≠ '\x00' ∧ continuesName e = true := by
      rcases Text.eq_of_toLower_eq 'E' rfl he with rfl | rfl <;> decide
    rw [← hsame, List.takeWhile_cons, if_pos (decide_eq_true hkept.1), List.takeWhile_cons,
      if_pos hkept.2]
    show some e.toLower = some 'e'
    rw [he]

/-- Behind blanks of any kind there is such a word, unless one of the blanks makes one. -/
theorem Odd.exists_of_blanks (h : Odd c rest) {blanks : List Char}
    (hblanks : ∀ b ∈ blanks, isBlank b = true) :
    ∃ spaces d more, blanks ++ c :: rest = spaces ++ d :: more ∧
      (∀ s ∈ spaces, isSpace s = true) ∧ Odd d more := by
  induction blanks with
  | nil => exact ⟨[], c, rest, rfl, nofun, h⟩
  | cons b blanks ih =>
      obtain ⟨hb, hmore⟩ := List.forall_mem_cons.mp hblanks
      rcases Lexeme.isSpace_of_isBlank hb with hspace | hlarge
      · obtain ⟨spaces, d, more, hsplit, hspaces, hd⟩ := ih hmore
        refine ⟨b :: spaces, d, more, ?_, List.forall_mem_cons.mpr ⟨hspace, hspaces⟩, hd⟩
        rw [List.cons_append, List.cons_append, hsplit]
      · exact ⟨[], b, blanks ++ c :: rest, rfl, nofun, .inl hlarge⟩

/-- What is taken for an insert starts with none of the other words. -/
theorem not_keyword_of_isInsert {sql : String} (h : Batch.isInsert sql = true) {k : String}
    (hk : Other k) : isKeyword k (leading? sql.toList) = false := by
  obtain ⟨blanks, c, rest, hsql, hblanks, hc⟩ := Batch.exists_of_isInsert h
  have hodd : Odd c rest := .inr hc
  obtain ⟨spaces, d, more, hsplit, hspaces, hd⟩ := hodd.exists_of_blanks hblanks
  obtain ⟨hname, hstart, hspace, hnul, hblob⟩ := hd.starts
  have hnext := Lexeme.next_of_startsName hname hblob (more.takeWhile (· ≠ '\x00'))
  rw [hsql, hsplit]
  cases spaces with
  | nil =>
      rw [List.nil_append, leading?_cons hnul hstart hnext nofun]
      exact hd.not_keyword hk _ _
  | cons b spaces =>
      obtain ⟨hb, hspaces⟩ := List.forall_mem_cons.mp hspaces
      cases hstarts : startsSpace b with
      | true =>
          obtain ⟨offset, hleading⟩ :=
            leading?_spaced hstarts hspaces hnul hstart hspace hnext nofun
          rw [hleading]
          exact hd.not_keyword hk _ _
      | false =>
          obtain rfl := Lexeme.eq_of_isSpace hb hstarts
          rw [List.cons_append, leading?_cons (by decide) (by decide) rfl (by decide)]
          rfl

/-- What is taken for an insert and reads as a statement is an insert. -/
theorem isInsert_of_read {sql : String} (h : Batch.isInsert sql = true) {s : Statement}
    {params : Nat} {rest : List Char} (hread : read sql.toList = .ok (some (s, params), rest)) :
    s.IsInsert := by
  by_contra hother
  have hleads := leading?_of_read hread
  rw [not_keyword_of_isInsert h (other_of_mem (firstWord_of_not_insert hother))] at hleads
  cases hleads

end Statement

end Engine

end SlotQuery
