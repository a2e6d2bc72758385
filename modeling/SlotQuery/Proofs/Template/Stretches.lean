import Mathlib.Data.List.Chain
import SlotQuery.Proofs.Template.Undamaged

/-!
# A statement and its condensed form, stretch by stretch

A stretch is a piece together with the bytes that it was cut from, so that the stretches of a text
are the text, blanks and comments included (`flatMap_text_stretches`).  Condensing squeezes them:
of each row of gaps one space is left, and none at the ends (`squeeze`).

What brings bytes together could bring up new marks: an opening marker across two pieces, a comment
mark, a quote behind a quoted run.  None of that happens as long as no blank stands in the opening
marker.  The squeezed text is cut again into the squeezed stretches (`stretches_write`), and from
that everything follows:

* `condense_condense`: condensing a condensed statement changes nothing.
* `condense_keeps`: the quoted runs and the template spans of a statement are those of its
  condensed form, byte for byte, and around them there are the other bytes in their order, with
  single spaces where there were blanks and comments.
-/

namespace SlotQuery.Template

open Text

/-- A piece and the bytes that it was cut from. -/
structure Stretch where
  piece : Piece
  text : List UInt8
deriving DecidableEq

namespace Stretch

/-- The stretch is a blank or a comment. -/
def isGap (s : Stretch) : Bool :=
  s.piece.isGap

/-- One space. -/
def space : Stretch :=
  ⟨.gap, [32]⟩

end Stretch

/-- The stretches of a text. -/
def stretches (opening closing : List UInt8) : List UInt8 → List Stretch
  | [] => []
  | b :: rest =>
    ⟨(Piece.first opening closing b rest).1,
      (b :: rest).take (rest.length + 1 - (Piece.first opening closing b rest).2.length)⟩ ::
      stretches opening closing (Piece.first opening closing b rest).2
termination_by bs => bs.length
decreasing_by exact Piece.length_first_lt opening closing b rest

/-- Stretches with one space for the gaps between two of them; `owed` says that a gap came
before. -/
def squeeze : Bool → List Stretch → List Stretch
  | _, [] => []
  | owed, s :: ss =>
    if s.isGap then squeeze true ss
    else (if owed then [.space] else []) ++ s :: squeeze false ss

/-- What is neither a template span nor a quoted run is a single space between two other stretches,
or a single byte that is no blank.  There is no comment. -/
structure Settled (ss : List Stretch) : Prop where
  kinds : ∀ s ∈ ss, (s.piece.isOpaque = true ∧ s.text = s.piece.bytes) ∨ s = .space ∨
    ∃ b, isAsciiBlank b = false ∧ s = ⟨.plain b, [b]⟩
  isolated : ss.IsChain fun s t => ¬ (s.isGap = true ∧ t.isGap = true)
  starts : ∀ s ∈ ss.head?, s.isGap = false
  ends : ∀ s ∈ ss.getLast?, s.isGap = false

variable {opening closing rest after : List UInt8} {b : UInt8} {p : Piece}

theorem stretches_nil (opening closing : List UInt8) : stretches opening closing [] = [] := by
  rw [stretches]

/-- A text is its first stretch and the stretches of the rest. -/
theorem stretches_of_cut {taken : List UInt8}
    (hcut : Cut opening closing b (taken ++ after) (p, after)) :
    stretches opening closing (b :: (taken ++ after)) =
      ⟨p, b :: taken⟩ :: stretches opening closing after := by
  have htake : (b :: (taken ++ after)).take ((taken ++ after).length + 1 - after.length) =
      b :: taken := by
    rw [← List.cons_append]
    refine List.take_left' ?_
    rw [List.length_append, List.length_cons]
    omega
  rw [stretches, first_of_cut hcut, htake]

/-- A text is nothing but its stretches. -/
theorem flatMap_text_stretches (opening closing bs : List UInt8) :
    (stretches opening closing bs).flatMap Stretch.text = bs := by
  induction bs using cut_induction opening closing with
  | nil => rw [stretches_nil, List.flatMap_nil]
  | cut hcut hbytes ih =>
      rw [stretches_of_cut hcut, List.flatMap_cons, ih]
      rfl

/-- The pieces of a text are those of its stretches. -/
theorem map_piece_stretches (opening closing bs : List UInt8) :
    (stretches opening closing bs).map Stretch.piece = Piece.ofBytes opening closing bs := by
  induction bs using cut_induction opening closing with
  | nil => rw [stretches_nil, Piece.ofBytes, List.map_nil]
  | cut hcut hbytes ih => rw [stretches_of_cut hcut, List.map_cons, ih, ofBytes_of_cut hcut]

/-- What is no gap is a span or a quoted run, or it is a single byte, and no blank. -/
theorem kind_of_mem_stretches {bs : List UInt8} {s : Stretch}
    (hs : s ∈ stretches opening closing bs) (hgap : s.isGap = false) :
    (s.piece.isOpaque = true ∧ s.text = s.piece.bytes) ∨
      ∃ b, isAsciiBlank b = false ∧ s = ⟨.plain b, [b]⟩ := by
  induction bs using cut_induction opening closing with
  | nil =>
      rw [stretches_nil] at hs
      cases hs
  | @cut b taken after p hcut hbytes ih =>
      rw [stretches_of_cut hcut] at hs
      rcases List.mem_cons.mp hs with rfl | hs
      · have htext := hbytes hgap
        generalize hrest : taken ++ after = rest at hcut
        cases hcut with
        | span hne hmark => exact .inl ⟨rfl, htext.symm⟩
        | quoted hm hb => exact .inl ⟨rfl, htext.symm⟩
        | line hm hb => cases hgap
        | block hm hb hstar => cases hgap
        | blank hm hb => cases hgap
        | plain hm hquote hline hblock hblank => exact .inr ⟨b, hblank, by rw [← htext]; rfl⟩
      · exact ih hs

/-- The text of a stretch is what its piece contributes, gaps apart. -/
theorem text_of_mem_stretches {bs : List UInt8} {s : Stretch}
    (hs : s ∈ stretches opening closing bs) (hgap : s.isGap = false) : s.text = s.piece.bytes := by
  rcases kind_of_mem_stretches hs hgap with ⟨-, htext⟩ | ⟨b, -, rfl⟩
  · exact htext
  · rfl

theorem squeeze_gap {s : Stretch} (hs : s.isGap = true) (owed : Bool) (ss : List Stretch) :
    squeeze owed (s :: ss) = squeeze true ss := by
  rw [squeeze, if_pos hs]

theorem squeeze_shown {s : Stretch} (hs : s.isGap = false) (owed : Bool) (ss : List Stretch) :
    squeeze owed (s :: ss) = (if owed then [.space] else []) ++ s :: squeeze false ss := by
  rw [squeeze, hs, if_neg Bool.false_ne_true]

/-- Squeezed stretches are what is written. -/
theorem flatMap_text_squeeze {ss : List Stretch}
    (hss : ∀ s ∈ ss, s.isGap = false → s.text = s.piece.bytes) (owed : Bool) :
    (squeeze owed ss).flatMap Stretch.text = Piece.write owed (ss.map Stretch.piece) := by
  induction ss generalizing owed with
  | nil => rfl
  | cons s ss ih =>
      obtain ⟨hs, hss⟩ := List.forall_mem_cons.mp hss
      rw [List.map_cons]
      cases hgap : s.isGap with
      | true =>
          rw [squeeze_gap hgap, ih hss, isGap_iff.mp hgap]
          rfl
      | false =>
          rw [squeeze_shown hgap, write_piece hgap, ← hs hgap, ← ih hss, List.flatMap_append,
            List.flatMap_cons, List.append_assoc]
          cases owed <;> rfl

/-- After a gap there is a space and then no gap, or nothing. -/
theorem squeeze_owed (ss : List Stretch) :
    squeeze true ss = [] ∨ ∃ s rest, s.isGap = false ∧ squeeze true ss = .space :: s :: rest := by
  induction ss with
  | nil => exact .inl rfl
  | cons s ss ih =>
      cases hs : s.isGap with
      | true =>
          rw [squeeze_gap hs]
          exact ih
      | false =>
          rw [squeeze_shown hs]
          exact .inr ⟨s, _, hs, rfl⟩

/-- Squeezing twice gives what squeezing once gives. -/
theorem squeeze_squeeze (owed : Bool) (ss : List Stretch) :
    squeeze false (squeeze owed ss) = squeeze owed ss := by
  induction ss generalizing owed with
  | nil => rfl
  | cons s ss ih =>
      cases hs : s.isGap with
      | true => rw [squeeze_gap hs, ih]
      | false =>
          rw [squeeze_shown hs]
          cases owed with
          | false =>
              show squeeze false (s :: squeeze false ss) = s :: squeeze false ss
              rw [squeeze_shown hs, ih]
              rfl
          | true =>
              show squeeze false (.space :: s :: squeeze false ss) = .space :: s :: squeeze false ss
              rw [squeeze_gap rfl, squeeze_shown hs, ih]
              rfl

/-- Squeezing keeps what is no gap. -/
theorem filter_squeeze (owed : Bool) (ss : List Stretch) :
    (squeeze owed ss).filter (fun s => !s.isGap) = ss.filter (fun s => !s.isGap) := by
  induction ss generalizing owed with
  | nil => rfl
  | cons s ss ih =>
      cases hs : s.isGap with
      | true => rw [squeeze_gap hs, ih, List.filter_cons_of_neg (by rw [hs]; decide)]
      | false =>
          have hkept : ∀ ts : List Stretch, (s :: ts).filter (fun s => !s.isGap) =
              s :: ts.filter (fun s => !s.isGap) := by simp [hs]
          rw [squeeze_shown hs, List.filter_append, hkept, hkept, ih]
          cases owed <;> rfl

/-- The only gap that is left is a single space. -/
theorem eq_space_of_mem_squeeze {s : Stretch} {owed : Bool} {ss : List Stretch}
    (hs : s ∈ squeeze owed ss) (hgap : s.isGap = true) : s = .space := by
  induction ss generalizing owed with
  | nil => cases hs
  | cons t ss ih =>
      cases ht : t.isGap with
      | true =>
          rw [squeeze_gap ht] at hs
          exact ih hs
      | false =>
          rw [squeeze_shown ht] at hs
          rcases List.mem_append.mp hs with hs | hs
          · cases owed with
            | false => cases hs
            | true => exact List.mem_singleton.mp hs
          · rcases List.mem_cons.mp hs with rfl | hs
            · rw [ht] at hgap
              cases hgap
            · exact ih hs

/-- No two gaps are left side by side. -/
theorem isolated_squeeze (owed : Bool) (ss : List Stretch) :
    (squeeze owed ss).IsChain fun s t => ¬ (s.isGap = true ∧ t.isGap = true) := by
  induction ss generalizing owed with
  | nil => exact .nil
  | cons s ss ih =>
      cases hs : s.isGap with
      | true =>
          rw [squeeze_gap hs]
          exact ih true
      | false =>
          have hno : ¬ s.isGap = true := Bool.eq_false_iff.mp hs
          have hshown := (ih false).cons (x := s) fun t _ hboth => hno hboth.1
          rw [squeeze_shown hs]
          cases owed with
          | false => exact hshown
          | true =>
              refine hshown.cons fun t ht hboth => hno ?_
              rw [List.head?_cons, Option.mem_some_iff] at ht
              exact ht ▸ hboth.2

/-- No gap is left at the end. -/
theorem ends_squeeze (owed : Bool) (ss : List Stretch) :
    ∀ s ∈ (squeeze owed ss).getLast?, s.isGap = false := by
  induction ss generalizing owed with
  | nil => nofun
  | cons s ss ih =>
      cases hs : s.isGap with
      | true =>
          rw [squeeze_gap hs]
          exact ih true
      | false =>
          have hshown : ∀ t ∈ (s :: squeeze false ss).getLast?, t.isGap = false := by
            have hrest := ih false
            cases hss : squeeze false ss with
            | nil =>
                intro t ht
                rw [List.getLast?_singleton, Option.mem_some_iff] at ht
                exact ht ▸ hs
            | cons t ts =>
                rw [hss] at hrest
                rw [List.getLast?_cons_cons]
                exact hrest
          rw [squeeze_shown hs]
          cases owed with
          | false => exact hshown
          | true =>
              rw [if_pos rfl, List.singleton_append, List.getLast?_cons_cons]
              exact hshown

/-- Squeezed stretches are settled, but for the space in front. -/
theorem settled_tail_squeeze {ss : List Stretch}
    (hss : ∀ s ∈ (squeeze true ss).tail, s.isGap = false →
      (s.piece.isOpaque = true ∧ s.text = s.piece.bytes) ∨
        ∃ b, isAsciiBlank b = false ∧ s = ⟨.plain b, [b]⟩) : Settled (squeeze true ss).tail where
  kinds := by
    intro s hs
    cases hgap : s.isGap with
    | true => exact .inr (.inl (eq_space_of_mem_squeeze (List.mem_of_mem_tail hs) hgap))
    | false => exact (hss s hs hgap).imp_right .inr
  isolated := (isolated_squeeze true ss).tail
  starts := by
    rcases squeeze_owed ss with h | ⟨s, rest, hs, h⟩
    · rw [h]
      nofun
    · rw [h]
      intro t ht
      rw [List.tail_cons, List.head?_cons, Option.mem_some_iff] at ht
      exact ht ▸ hs
  ends := by
    have hends := ends_squeeze true ss
    rcases squeeze_owed ss with h | ⟨s, rest, hs, h⟩
    · rw [h]
      nofun
    · rw [h, List.getLast?_cons_cons] at hends
      rw [h]
      exact hends

/-- A space is a stretch of its own. -/
theorem stretches_space (hopening : Blankless opening) (closing bs : List UInt8) :
    stretches opening closing (32 :: bs) = .space :: stretches opening closing bs := by
  have hcut : Cut opening closing 32 ([] ++ bs) (.gap, bs) :=
    .blank (not_marked_of_blank hopening rfl) rfl
  exact stretches_of_cut hcut

/-- What is written for a text is the text up to a blank. -/
theorem tracks_write (opening closing bs : List UInt8) :
    Tracks bs (Piece.write false (Piece.ofBytes opening closing bs)) := by
  induction bs using cut_induction opening closing with
  | nil =>
      rw [Piece.ofBytes, Piece.write]
      exact ⟨[], [], [], rfl, rfl, by simp, id⟩
  | @cut b taken after p hcut hbytes ih =>
      rw [ofBytes_of_cut hcut]
      cases hp : p.isGap with
      | true =>
          refine ⟨[], b :: (taken ++ after), _, rfl, rfl, ?_, fun h => absurd h (by simp)⟩
          rw [isGap_iff.mp hp]
          intro c hc
          rcases write_owed (Piece.ofBytes opening closing after) with h | ⟨bs, h⟩
          · rw [Piece.write, h] at hc
            cases hc
          · rw [Piece.write, h, List.head?_cons, Option.mem_some_iff] at hc
            rw [← hc]
            rfl
      | false =>
          rw [write_piece hp, gapBefore_false, List.nil_append, hbytes hp]
          exact ih.append (b :: taken)

/-- What is written is cut into the squeezed stretches. -/
theorem stretches_write (hopening : Blankless opening) (owed : Bool) (bs : List UInt8) :
    stretches opening closing (Piece.write owed (Piece.ofBytes opening closing bs)) =
      squeeze owed (stretches opening closing bs) := by
  induction bs using cut_induction opening closing generalizing owed with
  | nil =>
      rw [Piece.ofBytes, Piece.write, stretches_nil]
      rfl
  | @cut b taken after p hcut hbytes ih =>
      rw [ofBytes_of_cut hcut, stretches_of_cut hcut]
      cases hp : p.isGap with
      | true =>
          have hgap : Stretch.isGap ⟨p, b :: taken⟩ = true := hp
          rw [squeeze_gap hgap, ← ih, isGap_iff.mp hp]
          rfl
      | false =>
          have hshown : Stretch.isGap ⟨p, b :: taken⟩ = false := hp
          -- The same piece is cut off in front of what is written for the rest.
          have htracks := tracks_write opening closing after
          have hsame := hcut.swap rfl (fun h => absurd h (Bool.eq_false_iff.mp hp)) htracks
            (htracks.not_marked hopening)
          have hrest := stretches_of_cut hsame
          rw [ih] at hrest
          rw [write_piece hp, squeeze_shown hshown, hbytes hp, List.append_assoc, List.cons_append]
          cases owed with
          | false => exact hrest
          | true =>
              exact (stretches_space hopening closing _).trans (congrArg (.space :: ·) hrest)

/-- Condensing writes the squeezed stretches, without the space in front. -/
theorem condenseBytes_eq (opening closing bs : List UInt8) :
    condenseBytes opening closing bs =
      ((squeeze true (stretches opening closing bs)).flatMap Stretch.text).tail := by
  rw [flatMap_text_squeeze (fun s hs => text_of_mem_stretches hs), map_piece_stretches]
  exact write_dropWhile _

/-- The stretches of a condensed text. -/
theorem stretches_condenseBytes (hopening : Blankless opening) (closing bs : List UInt8) :
    stretches opening closing (condenseBytes opening closing bs) =
      (squeeze true (stretches opening closing bs)).tail := by
  have hwritten : stretches opening closing (Piece.write true _) = _ :=
    stretches_write hopening true bs
  rw [condenseBytes, write_dropWhile]
  rcases write_owed (Piece.ofBytes opening closing bs) with h | ⟨tail, h⟩
  · rw [h, stretches_nil] at hwritten
    rw [h, ← hwritten]
    exact stretches_nil opening closing
  · rw [h, stretches_space hopening] at hwritten
    rw [h, ← hwritten]
    rfl

/-- Squeezed once more without its front, a text comes out the same. -/
theorem squeeze_tail (ss : List Stretch) :
    squeeze true (squeeze true ss).tail = squeeze true ss := by
  have hsame := squeeze_squeeze true ss
  rcases squeeze_owed ss with h | ⟨s, rest, hs, h⟩
  · rw [h]
    rfl
  · rw [h, squeeze_gap rfl] at hsame
    rw [h]
    exact hsame

/-- The front that is dropped is a gap. -/
theorem filter_tail (ss : List Stretch) :
    (squeeze true ss).tail.filter (fun s => !s.isGap) = ss.filter (fun s => !s.isGap) := by
  rw [← filter_squeeze true ss]
  rcases squeeze_owed ss with h | ⟨s, rest, hs, h⟩
  · rw [h]
    rfl
  · rw [h]
    rfl

/-- The pieces of a statement between markers. -/
def pieces (m : Markers) (sql : String) : List Piece :=
  Piece.ofBytes (bytes m.opening) (bytes m.closing) (bytes sql)

/-- The pieces that are no gaps stay as they are, in their order. -/
theorem filter_pieces_condense {m : Markers} (hopening : Blankless (bytes m.opening))
    (sql : String) :
    (pieces m (condense m sql)).filter (fun p => !p.isGap) =
      (pieces m sql).filter (fun p => !p.isGap) := by
  have hmap : ∀ ss : List Stretch, (ss.map Stretch.piece).filter (fun p => !p.isGap) =
      (ss.filter (fun s => !s.isGap)).map Stretch.piece := fun ss => List.filter_map
  rw [pieces, pieces, bytes_condense, ← map_piece_stretches, ← map_piece_stretches, hmap, hmap,
    stretches_condenseBytes hopening, filter_tail]

/-- Condensing a condensed statement changes nothing, whatever the markers are made of, if there is
no blank in the opening one. -/
theorem condense_condense {m : Markers} (hopening : Blankless (bytes m.opening)) (sql : String) :
    condense m (condense m sql) = condense m sql := by
  have hbytes : condenseBytes (bytes m.opening) (bytes m.closing) (bytes (condense m sql)) =
      condenseBytes (bytes m.opening) (bytes m.closing) (bytes sql) := by
    rw [bytes_condense, condenseBytes_eq, stretches_condenseBytes hopening, squeeze_tail,
      ← condenseBytes_eq]
  rw [condense, hbytes]
  rfl

/-- Markers that open with a comment mark, over text with comments and quotes. -/
theorem condense_condense_of_comment_mark :
    Blankless (bytes "--") ∧
      condense ⟨"--", "\n"⟩ (condense ⟨"--", "\n"⟩ "a- -- b\n /* -- ' */ 'c  d''#' # e") =
        condense ⟨"--", "\n"⟩ "a- -- b\n /* -- ' */ 'c  d''#' # e" :=
  ⟨by decide, condense_condense (m := ⟨"--", "\n"⟩) (by decide) _⟩

/-- The quoted runs and the template spans of a statement are those of its condensed form, byte for
byte and in their order.  So are the other bytes that are neither blanks nor in comments, and what
else there is in the condensed form is single spaces, none of them at an end. -/
theorem condense_keeps {m : Markers} (hopening : Blankless (bytes m.opening)) (sql : String) :
    (pieces m (condense m sql)).filter Piece.isOpaque = (pieces m sql).filter Piece.isOpaque ∧
      (pieces m (condense m sql)).filter (fun p => !p.isGap) =
        (pieces m sql).filter (fun p => !p.isGap) ∧
      Settled (stretches (bytes m.opening) (bytes m.closing) (bytes (condense m sql))) := by
  have hshown := filter_pieces_condense hopening sql
  have hopaque : ∀ ps : List Piece, (ps.filter (fun p => !p.isGap)).filter Piece.isOpaque =
      ps.filter Piece.isOpaque := by
    intro ps
    rw [List.filter_filter]
    refine List.filter_congr fun p _ => ?_
    cases p <;> rfl
  refine ⟨?_, hshown, ?_⟩
  · rw [← hopaque, hshown, hopaque]
  · rw [bytes_condense, stretches_condenseBytes hopening]
    refine settled_tail_squeeze fun s hs => ?_
    rw [← stretches_condenseBytes hopening] at hs
    exact kind_of_mem_stretches hs

/-- A quoted run that does not end. -/
theorem condense_keeps_of_unfinished_run :
    let m : Markers := ⟨"<%", "%>"⟩
    let sql := " a/* ' */b <% c  -- %>\t'd  #''\\' `e"
    Blankless (bytes m.opening) ∧
      (pieces m (condense m sql)).filter Piece.isOpaque = (pieces m sql).filter Piece.isOpaque ∧
      (pieces m (condense m sql)).filter (fun p => !p.isGap) =
        (pieces m sql).filter (fun p => !p.isGap) ∧
      Settled (stretches (bytes m.opening) (bytes m.closing) (bytes (condense m sql))) := by
  intro m sql
  have hopening : Blankless (bytes m.opening) := by decide
  exact ⟨hopening, condense_keeps hopening sql⟩

end SlotQuery.Template
