import Mathlib.Data.List.Basic
import SlotQuery.Proofs.Engine.Laws
import SlotQuery.Proofs.Text.Letters
import SlotQuery.Session.Transaction

/-!
# The names of savepoints

The savepoint of a unit of work is named for the time and for how deep the unit lies among the
running ones.  Times may repeat, so two units may share a name, but only at the same depth
(`depth_eq_of_sameName`), even for the engine, which does not tell capital letters from small
ones.
-/

namespace SlotQuery.Session

open Engine (sameName Holdable)
open Text (toLower_of_isDigit)

/-- The text is written with digits. -/
def IsDigits (cs : List Char) : Prop :=
  ∀ c ∈ cs, c.isDigit = true

/-- A number is written in digits. -/
theorem isDigits_toString (n : Nat) : IsDigits (toString n).toList := by
  intro c hc
  rw [Nat.toString_eq_ofList_toDigits, String.toList_ofList] at hc
  exact Nat.isDigit_of_mem_toDigits (by decide) (by decide) hc

theorem isDigits_stamp (n : Nat) : IsDigits (stamp n).toList := by
  intro c hc
  rw [stamp, String.toList_append, String.toList_ofList] at hc
  rcases List.mem_append.mp hc with hc | hc
  · rw [List.eq_of_mem_replicate hc]
    rfl
  · exact isDigits_toString n c hc

/-- What is no digit does not stand among digits. -/
theorem IsDigits.not_mem {cs : List Char} (h : IsDigits cs) {c : Char} (hc : c.isDigit = false) :
    c ∉ cs := by
  intro hmem
  rw [h c hmem] at hc
  cases hc

/-- A savepoint's name has the stamp of its clock and its depth. -/
theorem toList_savepointName (clock depth : Nat) :
    (savepointName clock depth).toList =
      "sp_".toList ++ ((stamp clock).toList ++ '_' :: (toString depth).toList) := by
  rw [savepointName, String.toList_append, String.toList_append, String.toList_append,
    List.append_assoc, List.append_assoc]
  rfl

/-- A generated name is made of three characters and digits. -/
theorem forall_mem_savepointName {P : Char → Prop} (hdigit : ∀ c, c.isDigit = true → P c)
    (hs : P 's') (hp : P 'p') (hline : P '_') (clock depth : Nat) :
    ∀ c ∈ (savepointName clock depth).toList, P c := by
  intro c hc
  rw [toList_savepointName, List.mem_append, List.mem_append, List.mem_cons] at hc
  rcases hc with hc | hc | rfl | hc
  · rcases hc with _ | ⟨_, _ | ⟨_, _ | ⟨_, hc⟩⟩⟩
    · exact hs
    · exact hp
    · exact hline
    · cases hc
  · exact hdigit c (isDigits_stamp clock c hc)
  · exact hline
  · exact hdigit c (isDigits_toString depth c hc)

/-- A savepoint's name can be held by an engine. -/
theorem holdable_savepointName (clock depth : Nat) : Holdable (savepointName clock depth) := by
  have hne := forall_mem_savepointName (P := fun c => c ≠ '\x00')
    (fun c hc => by rintro rfl; cases hc) (by decide) (by decide) (by decide) clock depth
  exact fun hmem => hne _ hmem rfl

theorem lower_savepointName (clock depth : Nat) :
    (savepointName clock depth).toList.map Char.toLower = (savepointName clock depth).toList := by
  have hlower := forall_mem_savepointName (P := fun c => c.toLower = c)
    (fun _ hc => toLower_of_isDigit hc) rfl rfl rfl clock depth
  rw [List.map_congr_left hlower, List.map_id']

/-- Names that the engine takes for the same belong to the same depth. -/
theorem depth_eq_of_sameName {clock depth clock' depth' : Nat}
    (h : sameName (savepointName clock depth) (savepointName clock' depth') = true) :
    depth = depth' := by
  have hlower := of_decide_eq_true h
  rw [lower_savepointName, lower_savepointName, toList_savepointName, toList_savepointName,
    List.append_cancel_left_eq] at hlower
  -- The last line stands before the depth, since times and depths are digits.
  have hstamp := (isDigits_stamp clock).not_mem (c := '_') rfl
  have hdepth := (isDigits_toString depth).not_mem (c := '_') rfl
  obtain ⟨-, -, hdigits⟩ := (List.append_cons_inj_of_notMem hstamp hdepth).mp hlower
  have hnumber := congrArg (fun digits => Nat.ofDigitChars 10 digits 0) hdigits
  simpa [Nat.toString_eq_ofList_toDigits] using hnumber

end SlotQuery.Session
