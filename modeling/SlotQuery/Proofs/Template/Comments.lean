import SlotQuery.Proofs.Template.Cutting
import SlotQuery.Template.Prepared

/-!
# Comments are blanks

A comment is cut off as a gap, and so is a single space.  If the text before it is cut into pieces
that end where the comment starts, then it is cut into the same pieces in front of the space
(`ofBytes_swap`), although the pieces are found by looking ahead.  So the comment and the space make
the same statement with the same parameters, whatever the comment holds: markers, quotes or other
comments (`prepare_comment`).
-/

namespace SlotQuery.Template

open Text

/-- What follows the mark that opens a block comment ends the comment with its last byte, and not
before.  The comment is open `depth` times more. -/
def endsBlock : Nat → List UInt8 → Bool
  | depth, 47 :: 42 :: bs => endsBlock (depth + 1) bs
  | 0, 42 :: 47 :: bs => bs.isEmpty
  | depth + 1, 42 :: 47 :: bs => endsBlock depth bs
  | depth, _ :: bs => endsBlock depth bs
  | _, [] => false

/-- The bytes are a comment, no more and no less. -/
inductive IsComment : List UInt8 → Prop
  /-- From a number sign to the end of the line. -/
  | hash {body : List UInt8} (h : (10 : UInt8) ∉ body) : IsComment (35 :: (body ++ [10]))
  /-- From two dashes to the end of the line. -/
  | dashes {body : List UInt8} (h : (10 : UInt8) ∉ body) : IsComment (45 :: 45 :: (body ++ [10]))
  /-- From a slash and a star to the mark that closes them. -/
  | block {body : List UInt8} (h : endsBlock 0 body = true) : IsComment (47 :: 42 :: body)

/-- What is left of a text without its first pieces. -/
def dropPieces (opening closing : List UInt8) : Nat → List UInt8 → List UInt8
  | 0, bs => bs
  | _ + 1, [] => []
  | n + 1, b :: rest => dropPieces opening closing n (Piece.first opening closing b rest).2

/-- As pieces are cut off the text, `rest` is what is left at some point. -/
def Reaches (opening closing bs rest : List UInt8) : Prop :=
  ∃ n, dropPieces opening closing n bs = rest

variable {opening closing front comment back back' : List UInt8}

/-- Dropping pieces makes no text longer. -/
theorem length_dropPieces_le (opening closing : List UInt8) (n : Nat) (bs : List UInt8) :
    (dropPieces opening closing n bs).length ≤ bs.length := by
  fun_induction dropPieces opening closing n bs with
  | case1 bs => exact Nat.le_refl _
  | case2 n => exact Nat.le_refl _
  | case3 n b rest ih =>
      exact ih.trans (Nat.le_of_lt (Piece.length_first_lt opening closing b rest))

/-- A text that is cut where `back` starts is cut into the same pieces in front of whatever starts
with a blank, or of nothing, if no opening marker comes up there. -/
theorem ofBytes_swap (hne : back ≠ []) (hreach : Reaches opening closing (front ++ back) back)
    (hblank : ∀ b ∈ back'.head?, isAsciiBlank b = true)
    (hmarks : ∀ bs, ¬ Marked opening (bs ++ back) → ¬ Marked opening (bs ++ back')) :
    ∃ ps, Piece.ofBytes opening closing (front ++ back) =
        ps ++ Piece.ofBytes opening closing back ∧
      Piece.ofBytes opening closing (front ++ back') =
        ps ++ Piece.ofBytes opening closing back' := by
  obtain ⟨n, hn⟩ := hreach
  induction n generalizing front with
  | zero =>
      obtain rfl : front = [] := List.append_left_eq_self.mp hn
      exact ⟨[], rfl, rfl⟩
  | succ n ih =>
      cases front with
      | nil => exact ⟨[], rfl, rfl⟩
      | cons b front =>
          have hcut := cut_first opening closing b (front ++ back)
          rw [List.cons_append, dropPieces] at hn
          generalize Piece.first opening closing b (front ++ back) = r at hcut hn
          obtain ⟨p, after⟩ := r
          have hlen : back.length ≤ after.length :=
            hn ▸ length_dropPieces_le opening closing n after
          obtain ⟨taken, hrest, -⟩ := hcut.exists_taken
          -- The piece ends before `back`, since `back` is still to come.
          obtain ⟨between, rfl⟩ : taken <+: front := by
            refine List.prefix_of_prefix_length_le (hrest ▸ List.prefix_append taken after)
              (List.prefix_append front back) ?_
            have := congrArg List.length hrest
            simp only [List.length_append] at this
            omega
          rw [List.append_assoc] at hrest hcut
          obtain rfl := List.append_cancel_left hrest
          have htracks : Tracks (between ++ back) (between ++ back') :=
            ⟨between, back, back', rfl, rfl, hblank, fun h => absurd h hne⟩
          have hcut' := hcut.swap rfl (fun _ => by simp [hne]) htracks fun bs hm => by
            rw [← List.append_assoc] at hm ⊢
            exact hmarks _ hm
          obtain ⟨ps, hps, hps'⟩ := ih hn
          refine ⟨p :: ps, ?_, ?_⟩
          · rw [List.cons_append, List.append_assoc, ofBytes_of_cut hcut, hps, List.cons_append]
          · rw [List.cons_append, List.append_assoc, ofBytes_of_cut hcut', hps', List.cons_append]

/-- A line comment ends with the first line feed. -/
theorem afterLine_append {body : List UInt8} (h : (10 : UInt8) ∉ body) (rest : List UInt8) :
    afterLine (body ++ [10] ++ rest) = rest := by
  induction body with
  | nil => simp [afterLine]
  | cons b body ih =>
      rw [List.mem_cons, not_or] at h
      rw [List.cons_append, List.cons_append, afterLine, if_neg (Ne.symm h.1), ih h.2]

/-- A block comment ends where its depth comes to nothing. -/
theorem afterBlock_append {depth : Nat} {body : List UInt8} (h : endsBlock depth body = true)
    (rest : List UInt8) : afterBlock depth (body ++ rest) = rest := by
  fun_induction endsBlock depth body with
  | case1 depth bs ih => rw [List.cons_append, List.cons_append, afterBlock, ih h]
  | case2 bs =>
      obtain rfl := List.isEmpty_iff.mp h
      simp [afterBlock]
  | case3 depth bs ih => rw [List.cons_append, List.cons_append, afterBlock, ih h]
  | case4 depth b bs hopens hcloses hcloses' ih =>
      cases bs with
      | nil => cases depth <;> cases h
      | cons c bs =>
          have hno : ¬ OpensBlock b (c :: bs ++ rest) := by
            rintro ⟨rfl, hnext⟩
            obtain rfl : c = 42 := Option.some.inj hnext
            exact hopens bs rfl rfl
          have hno' : ¬ (b = 42 ∧ (c :: bs ++ rest).head? = some 47) := by
            rintro ⟨rfl, hnext⟩
            obtain rfl : c = 47 := Option.some.inj hnext
            cases depth with
            | zero => exact hcloses bs rfl rfl rfl
            | succ depth => exact hcloses' depth bs rfl rfl rfl
          rw [List.cons_append, afterBlock_cons hno hno', ih h]
  | case5 => cases h

/-- A comment has bytes. -/
theorem IsComment.ne_nil (h : IsComment comment) : comment ≠ [] := by
  cases h with
  | hash h => exact List.cons_ne_nil _ _
  | dashes h => exact List.cons_ne_nil _ _
  | block h => exact List.cons_ne_nil _ _

/-- A comment is one gap. -/
theorem IsComment.ofBytes_append (h : IsComment comment) (hm : ¬ Marked opening (comment ++ back)) :
    Piece.ofBytes opening closing (comment ++ back) =
      .gap :: Piece.ofBytes opening closing back := by
  cases h with
  | @hash body h =>
      have hcut : Cut opening closing 35 (body ++ [10] ++ back) _ := .line hm (.inl rfl)
      rw [afterLine_append h] at hcut
      exact ofBytes_of_cut hcut
  | @dashes body h =>
      have hcut : Cut opening closing 45 (45 :: body ++ [10] ++ back) _ :=
        .line hm (.inr ⟨rfl, rfl⟩)
      rw [afterLine_append (by simpa using h)] at hcut
      exact ofBytes_of_cut hcut
  | @block body h =>
      have hcut : Cut opening closing 47 (42 :: (body ++ back)) _ := .block hm rfl rfl
      rw [afterBlock_append h] at hcut
      exact ofBytes_of_cut hcut

theorem ofBytes_space (hopening : Blankless opening) :
    Piece.ofBytes opening closing (32 :: back) = .gap :: Piece.ofBytes opening closing back :=
  ofBytes_of_cut (.blank (not_marked_of_blank hopening rfl) rfl)

/-- A comment that the scanner reaches is condensed like a space. -/
theorem condense_comment {m : Markers} (hopening : Blankless (bytes m.opening))
    {front comment back : String} (hcomment : IsComment (bytes comment))
    (hreach : Reaches (bytes m.opening) (bytes m.closing) (bytes (front ++ comment ++ back))
      (bytes (comment ++ back)))
    (hm : ¬ Marked (bytes m.opening) (bytes (comment ++ back))) :
    condense m (front ++ comment ++ back) = condense m (front ++ " " ++ back) := by
  have hspace : bytes (front ++ " " ++ back) = bytes front ++ 32 :: bytes back := by
    rw [bytes_append, bytes_append, List.append_assoc]
    rfl
  have hfront : bytes (front ++ comment ++ back) = bytes front ++ bytes (comment ++ back) := by
    rw [String.append_assoc, bytes_append]
  have hne : bytes (comment ++ back) ≠ [] := by
    rw [bytes_append]
    exact List.append_ne_nil_of_left_ne_nil hcomment.ne_nil _
  rw [hfront] at hreach
  have hblank : ∀ b ∈ (32 :: bytes back).head?, isAsciiBlank b = true :=
    fun b hb => Option.some.inj hb ▸ rfl
  have htracks : Tracks (bytes (comment ++ back)) (32 :: bytes back) :=
    ⟨[], _, _, rfl, rfl, hblank, fun h => absurd h hne⟩
  obtain ⟨ps, hps, hps'⟩ := ofBytes_swap hne hreach hblank (htracks.not_marked hopening)
  have hpieces : Piece.ofBytes (bytes m.opening) (bytes m.closing)
        (bytes (front ++ comment ++ back)) =
      Piece.ofBytes (bytes m.opening) (bytes m.closing) (bytes (front ++ " " ++ back)) := by
    rw [bytes_append] at hm
    rw [hfront, hspace, hps, hps', bytes_append, hcomment.ofBytes_append hm,
      ofBytes_space hopening]
  rw [condense, condenseBytes, hpieces, condense, condenseBytes]

/-- Whatever a comment holds, one space does the same.  The text before it must be cut into pieces
where it starts, and no opening marker may start there. -/
theorem prepare_comment (s : Settings) (hopening : Blankless (bytes s.delimiters.opening))
    {front comment back : String} (hcomment : IsComment (bytes comment))
    (hreach : Reaches (bytes s.delimiters.opening) (bytes s.delimiters.closing)
      (bytes (front ++ comment ++ back)) (bytes (comment ++ back)))
    (hm : ¬ Marked (bytes s.delimiters.opening) (bytes (comment ++ back))) :
    prepare s (front ++ comment ++ back) = prepare s (front ++ " " ++ back) := by
  rw [prepare, prepare, condense_comment hopening hcomment hreach hm]

/-- A block comment with a marker, a placeholder and a quote in it. -/
theorem prepare_comment_of_marks_and_quotes :
    let s := Settings.builtin
    let front := "SELECT '--' - <%1 /*%>"
    let comment := "/*<%2%> it's <% /* \" */ ` ?*/"
    let back := "-<%3%>"
    IsComment (bytes comment) ∧
      prepare s (front ++ comment ++ back) = prepare s (front ++ " " ++ back) := by
  intro s front comment back
  have hmarks : bytes comment = 47 :: 42 :: (bytes comment).drop 2 := by decide +kernel
  have hcomment : IsComment (bytes comment) := by
    rw [hmarks]
    exact .block (by decide +kernel)
  have hreach : Reaches (bytes s.delimiters.opening) (bytes s.delimiters.closing)
      (bytes (front ++ comment ++ back)) (bytes (comment ++ back)) := ⟨12, by decide +kernel⟩
  exact ⟨hcomment, prepare_comment s (by decide) hcomment hreach (by decide +kernel)⟩

end SlotQuery.Template
