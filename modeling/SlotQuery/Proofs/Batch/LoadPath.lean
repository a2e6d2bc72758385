import SlotQuery.Proofs.Template.Content
import SlotQuery.Batch.Staged

/-!
# The path in a load statement

A load statement holds the path of its file between single quotes, with the quotes in it doubled and
nothing else changed.  The statement is read by rules under which a backslash makes an ordinary
character of the next one; it relies on them itself, for the terminators behind the path.  A
backslash in the path is therefore lost on the way, and one in front of a quote or at the end takes
that quote with it.

`Load.carries_path_iff` says exactly which paths come through: those without a backslash are read
back as they were, every other path is read as something else, and `sparesQuotes` tells where the
quoted path ends too early or too late.  The statements of two paths differ all the same.
-/

namespace SlotQuery.Batch

open Template Text

/-- What a load statement says in front of its path, the opening quote included. -/
def Load.lead : String := "LOAD DATA LOCAL INFILE '"

/-- What follows the closing quote of the path. -/
def Load.tail (l : Load) : String :=
  " INTO TABLE " ++ quoteName l.table ++ " FIELDS TERMINATED BY '"
    ++ String.ofList (spelledTerminator l.terminator)
    ++ "' ESCAPED BY '\\\\' LINES TERMINATED BY '\\n' (" ++ quoteNames l.columns ++ ")"

/-- The quoted run that begins at the opening quote of the path, without that quote, and what is
left behind it. -/
def Load.pathRun (l : Load) : List UInt8 × List UInt8 :=
  splitQuoted 39 ((bytes l.statement).drop (bytes Load.lead).length)

/-- The statement for a load has the path in quotes, with the rest behind it. -/
theorem Load.statement_eq (l : Load) :
    l.statement = "LOAD DATA LOCAL INFILE " ++ quoteText l.path ++ l.tail := by
  have hpath : quotePath l.path = quoteText l.path := by
    rw [← String.toList_inj, quotePath, quoteText, String.toList_append, String.toList_append,
      String.toList_ofList, String.toList_ofList]
    simp
  rw [← String.toList_inj]
  unfold Load.statement Load.tail
  simp only [hpath, String.toList_append, List.append_assoc]

/-- In bytes, the path is doubled and ended by a quote. -/
theorem Load.bytes_statement (l : Load) :
    bytes l.statement = bytes Load.lead ++ (doubled (bytes l.path) ++ 39 :: bytes l.tail) := by
  have hlead : bytes Load.lead = bytes "LOAD DATA LOCAL INFILE " ++ [39] :=
    bytes_append "LOAD DATA LOCAL INFILE " "'"
  rw [Load.statement_eq, bytes_append, bytes_append, bytes_quoteText, hlead]
  simp only [List.append_assoc, List.cons_append, List.nil_append]

theorem Load.pathRun_eq (l : Load) :
    l.pathRun = splitQuoted 39 (doubled (bytes l.path) ++ 39 :: bytes l.tail) := by
  rw [Load.pathRun, Load.bytes_statement, List.drop_left]

/-- Behind the path there is a blank. -/
theorem Load.head?_bytes_tail (l : Load) : (bytes l.tail).head? = some 32 := by
  refine (head?_encode (a := ' ') (by decide)).mpr ?_
  unfold Load.tail
  simp only [String.toList_append, List.append_assoc]
  rfl

/-- The path of a load statement is one complete quoted run that says the path, right in front of
the table, exactly if there is no backslash in it.  The run ends there exactly if no backslash of
the path takes a quote or the end.  Statements of different paths are different, whatever else they
say. -/
theorem Load.carries_path_iff (l : Load) :
    (l.pathRun.2 = bytes l.tail ∧ contentOf? 39 l.pathRun.1 = some (bytes l.path) ↔
        '\\' ∉ l.path.toList) ∧
      (l.pathRun.2 = bytes l.tail ↔ sparesQuotes (bytes l.path) = true) ∧
      ∀ l' : Load, l'.statement = l.statement → l'.path = l.path := by
  have hhead := l.head?_bytes_tail
  have hquote : (bytes l.tail).head? ≠ some 39 := by
    rw [hhead]
    decide
  have hne : bytes l.tail ≠ [] := by
    intro h
    rw [h] at hhead
    cases hhead
  refine ⟨?_, ?_, ?_⟩
  · have hbackslash : (92 : UInt8) ∉ bytes l.path ↔ '\\' ∉ l.path.toList :=
      not_congr (byte_mem_encode (a := '\\') (by decide))
    rw [Load.pathRun_eq, ← hbackslash]
    constructor
    · intro h
      obtain ⟨hend, hcontent⟩ := h
      -- A run that ends where it should is the doubled path with its closing quote.
      have hrun := splitQuoted_append 39 (doubled (bytes l.path) ++ 39 :: bytes l.tail)
      rw [hend, ← List.singleton_append, ← List.append_assoc] at hrun
      rw [← List.singleton_append, ← List.append_assoc, List.append_cancel_right hrun] at hcontent
      exact contentOf?_doubled_iff.mp hcontent
    · intro h
      have hcontent := contentOf?_doubled_iff.mpr h
      have hsplit := splitQuoted_of_content (by decide) hcontent hquote
      rw [List.append_assoc, List.singleton_append] at hsplit
      rw [hsplit]
      dsimp only
      exact ⟨Eq.refl _, hcontent⟩
  · rw [Load.pathRun_eq]
    exact splitQuoted_doubled_iff hne hquote
  · intro l' hsame
    have hbytes := congrArg bytes hsame
    rw [Load.bytes_statement, Load.bytes_statement] at hbytes
    have hquote' : (bytes l'.tail).head? ≠ some 39 := by
      rw [l'.head?_bytes_tail]
      decide
    exact bytes_inj (doubled_append_inj hquote' hquote (List.append_cancel_left hbytes))

/-- A backslash at the end of a path takes the closing quote, and the path goes on into the
names. -/
example : (Load.mk "/tmp/a\\" "t" [] '\t' nullMarker "").pathRun.1 =
    bytes "/tmp/a\\' INTO TABLE \x60t\x60 FIELDS TERMINATED BY '" := by
  decide +kernel

end SlotQuery.Batch
