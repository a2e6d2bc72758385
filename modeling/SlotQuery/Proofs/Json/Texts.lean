import SlotQuery.Proofs.Json.Numerals
import SlotQuery.Proofs.Json.Strings
import SlotQuery.Proofs.Outcome

/-!
# JSON texts read back

A text is read from the front, and every reader says what it leaves.  `Reads` is what is shown of a
value: in front of anything that does not go on with its text, the text is taken as a whole and the
rest is left.  What follows a value inside an array or an object is a comma or what closes it, so
items and members are entries of a list with commas (`Listed`), and those are read one after the
other (`Listed.commas`).

`Readable` are the values for which this is shown, by induction on how they are made
(`Readable.reads`).  Nothing is asked of strings, of keys or of how deep a value goes; two steps of
the reader for each character are as many as it takes.
-/

namespace SlotQuery.Json

open Number (Binary64)
open Numeral (Ends Ends.nil ReadsBack)

variable {c : Char} {cs rest behind : List Char} {fuel : Nat}

/-- One of the blanks that JSON allows between tokens. -/
def Blank (c : Char) : Prop :=
  c = ' ' ∨ c = '\t' ∨ c = '\n' ∨ c = '\r'

instance (c : Char) : Decidable (Blank c) :=
  inferInstanceAs (Decidable (_ ∨ _))

/-- A value can start with the character: it is no blank, and closes nothing. -/
def Starts (c : Char) : Prop :=
  ¬ Blank c ∧ c ≠ ']' ∧ c ≠ '\x7d'

instance (c : Char) : Decidable (Starts c) :=
  inferInstanceAs (Decidable (_ ∧ _))

/-- In front of anything else there are no blanks to skip. -/
theorem skipBlanks_cons (h : ¬ Blank c) : skipBlanks (c :: cs) = c :: cs := by
  refine List.dropWhile_cons_of_neg fun hblank => h ?_
  rw [Blank]
  simpa only [Bool.or_eq_true, decide_eq_true_eq, or_assoc] using hblank

/-- A word of the grammar is read, whatever follows. -/
theorem word?_append (word : String) (v : Json) (behind : List Char) :
    word? word v (word.toList ++ behind) = some (v, behind) := by
  have hprefix : word.toList.isPrefixOf (word.toList ++ behind) = true :=
    List.isPrefixOf_iff_prefix.mpr (List.prefix_append _ _)
  rw [word?, if_pos hprefix, ← String.length_toList, List.drop_left]

theorem value?_null : value? (fuel + 1) ("null".toList ++ behind) = some (.null, behind) :=
  word?_append "null" .null behind

theorem value?_true : value? (fuel + 1) ("true".toList ++ behind) = some (.bool true, behind) :=
  word?_append "true" (.bool true) behind

theorem value?_false :
    value? (fuel + 1) ("false".toList ++ behind) = some (.bool false, behind) :=
  word?_append "false" (.bool false) behind

/-- A text is read as itself, whatever follows. -/
theorem value?_str (s : String) :
    value? (fuel + 1) ((renderString s).toList ++ behind) = some (.str s, behind) := by
  have hstring := string?_renderString s behind
  rw [toList_renderString, List.cons_append] at hstring ⊢
  exact Option.map_eq_some_iff.mpr ⟨_, hstring, rfl⟩

/-- A number is read up to where its numeral ends. -/
theorem value?_numeral {n : Numeral} (h : Numeral.read? cs = some (n, [])) (hends : Ends behind) :
    value? (fuel + 1) (cs ++ behind) = some (n.value, behind) := by
  have hread := Numeral.read?_append h hends
  obtain ⟨c, more, rfl, hc⟩ := Numeral.eq_cons_of_read? h
  have hblank : ¬ Blank c := by
    rintro (rfl | rfl | rfl | rfl) <;> exact absurd hc (by decide)
  rw [List.cons_append] at hread ⊢
  rw [value?, skipBlanks_cons hblank]
  split
  iterate 6 next hcons => exact absurd ((List.cons.inj hcons).1 ▸ hc) (by decide)
  exact Option.map_eq_some_iff.mpr ⟨_, hread, rfl⟩

/-- Behind a bracket there are items, or the bracket that closes the list. -/
theorem value?_bracket : value? (fuel + 1) ('[' :: cs) =
    match skipBlanks cs with
    | ']' :: rest => some (.arr [], rest)
    | rest => (items? fuel rest).map fun (vs, rest) => (.arr vs, rest) :=
  rfl

/-- Behind a brace there are members, or the brace that closes the object. -/
theorem value?_brace : value? (fuel + 1) ('\x7b' :: cs) =
    match skipBlanks cs with
    | '\x7d' :: rest => some (.obj [], rest)
    | rest => (members? fuel rest).map fun (ms, rest) => (ofMembers ms, rest) :=
  rfl

/-- A value can start the text. -/
def Opens (cs : List Char) : Prop :=
  ∃ c more, cs = c :: more ∧ Starts c

theorem Opens.append (h : Opens cs) (more : List Char) : Opens (cs ++ more) := by
  obtain ⟨c, cs, rfl, hc⟩ := h
  exact ⟨c, cs ++ more, rfl, hc⟩

/-- Where something stands in the brackets, it is read as the items. -/
theorem value?_arr {items : List Json} (hopens : Opens cs)
    (h : items? fuel cs = some (items, rest)) :
    value? (fuel + 1) ('[' :: cs) = some (.arr items, rest) := by
  obtain ⟨c, more, rfl, hc⟩ := hopens
  rw [value?_bracket, skipBlanks_cons hc.1]
  split
  · next hcons => exact absurd (List.cons.inj hcons).1 hc.2.1
  · exact Option.map_eq_some_iff.mpr ⟨_, h, rfl⟩

/-- Members that have names make an object of them, in their order. -/
theorem ofMembers_named (members : List (String × Json)) :
    ofMembers (members.map fun m => (some m.1, m.2)) = .obj members := by
  have hkeys := mapM_map_eq_some (f := fun m : Option String × Json => m.1.map fun k => (k, m.2))
    (g := fun m : String × Json => (some m.1, m.2)) (fun m => rfl) members
  rw [ofMembers, hkeys]
  rfl

/-- Where something stands in the braces, it is read as the members. -/
theorem value?_obj {members : List (String × Json)} (hopens : Opens cs)
    (h : members? fuel cs = some (members.map fun m => (some m.1, m.2), rest)) :
    value? (fuel + 1) ('\x7b' :: cs) = some (.obj members, rest) := by
  obtain ⟨c, more, rfl, hc⟩ := hopens
  rw [value?_brace, skipBlanks_cons hc.1]
  split
  · next hcons => exact absurd (List.cons.inj hcons).1 hc.2.2
  · exact Option.map_eq_some_iff.mpr ⟨_, h, congrArg (·, rest) (ofMembers_named members)⟩

/-- An item is read, and what follows it decides whether there are more. -/
theorem items?_succ : items? (fuel + 1) cs =
    (value? fuel cs).bind fun (v, rest) =>
      match skipBlanks rest with
      | ',' :: rest => (items? fuel rest).map fun (vs, rest) => (v :: vs, rest)
      | ']' :: rest => some ([v], rest)
      | _ => none :=
  rfl

/-- The text of a member. -/
def memberText (m : String × Json) : List Char :=
  (renderString m.1).toList ++ ':' :: m.2.render.toList

theorem opens_memberText (m : String × Json) : Opens (memberText m) := by
  rw [memberText, toList_renderString]
  exact ⟨'"', _, rfl, by decide⟩

/-- The key of a member is read, then its value, and what follows decides whether there are more. -/
theorem members?_memberText (m : String × Json) (rest : List Char) :
    members? (fuel + 1) (memberText m ++ rest) =
      (value? fuel (m.2.render.toList ++ rest)).bind fun (v, rest) =>
        match skipBlanks rest with
        | ',' :: rest => (members? fuel rest).map fun (ms, rest) => ((some m.1, v) :: ms, rest)
        | '\x7d' :: rest => some ([(some m.1, v)], rest)
        | _ => none := by
  have hkey := string?_renderString m.1 (':' :: m.2.render.toList ++ rest)
  have hquote : skipBlanks (memberText m ++ rest) = memberText m ++ rest := by
    obtain ⟨c, more, hm, hc⟩ := (opens_memberText m).append rest
    rw [hm, skipBlanks_cons hc.1]
  rw [members?, hquote, memberText, List.append_assoc, hkey]
  rfl

/-- A value whose text is read as that value, in front of anything that does not go on with it.
Two steps of the reader for each character are enough. -/
def Reads (v : Json) : Prop :=
  ∀ (fuel : Nat) (behind : List Char), Ends behind → 2 * v.render.toList.length ≤ fuel →
    value? fuel (v.render.toList ++ behind) = some (v, behind)

/-- What follows a value between brackets or braces does not go on with it. -/
theorem ends_cons (h : c = ',' ∨ c = ']' ∨ c = '\x7d') : Ends (c :: rest) := by
  rintro _ ⟨⟩
  rcases h with rfl | rfl | rfl <;> decide

/-- Texts with commas between them, as characters. -/
def commas (texts : List (List Char)) : List Char :=
  [','].intercalate texts

theorem commas_singleton (text : List Char) : commas [text] = text :=
  List.intercalate_singleton

/-- Between two texts stands a comma. -/
theorem commas_cons_cons (text next : List Char) (texts : List (List Char)) :
    commas (text :: next :: texts) = text ++ ',' :: commas (next :: texts) := by
  rw [commas, List.intercalate_cons_cons, List.append_assoc]
  rfl

/-- Texts with commas between them open like the first of them. -/
theorem Opens.commas (h : Opens cs) (texts : List (List Char)) : Opens (commas (cs :: texts)) := by
  cases texts with
  | nil => rwa [commas_singleton]
  | cons next texts =>
      rw [commas_cons_cons]
      exact h.append _

section

variable {α β : Type} {reader : Nat → List Char → Option (List β × List Char)}
  {text : α → List Char} {item : α → β} {close : Char}

/-- The reader takes the text of an entry for the entry, and ends at what closes the list or goes
on behind a comma. -/
structure Listed (reader : Nat → List Char → Option (List β × List Char)) (text : α → List Char)
    (item : α → β) (close : Char) (a : α) : Prop where
  last : ∀ fuel rest, 2 * (text a).length ≤ fuel →
    reader (fuel + 1) (text a ++ close :: rest) = some ([item a], rest)
  cons : ∀ fuel more bs rest, 2 * (text a).length ≤ fuel → reader fuel more = some (bs, rest) →
    reader (fuel + 1) (text a ++ ',' :: more) = some (item a :: bs, rest)

/-- Entries with commas between them are read one after the other. -/
theorem Listed.commas {a : α} {as : List α}
    (hlisted : ∀ b ∈ a :: as, Listed reader text item close b)
    (hfuel : 2 * (commas ((a :: as).map text)).length < fuel) (rest : List Char) :
    reader fuel (Json.commas ((a :: as).map text) ++ close :: rest) =
      some ((a :: as).map item, rest) := by
  induction as generalizing a fuel with
  | nil =>
      obtain ⟨fuel, rfl⟩ := Nat.exists_eq_succ_of_ne_zero (Nat.ne_zero_of_lt hfuel)
      rw [List.map_singleton, commas_singleton] at hfuel ⊢
      exact (hlisted a List.mem_cons_self).last fuel rest (by omega)
  | cons b as ih =>
      obtain ⟨fuel, rfl⟩ := Nat.exists_eq_succ_of_ne_zero (Nat.ne_zero_of_lt hfuel)
      rw [List.map_cons, List.map_cons, commas_cons_cons] at hfuel ⊢
      rw [List.length_append, List.length_cons] at hfuel
      rw [List.append_assoc, List.cons_append]
      refine (hlisted a List.mem_cons_self).cons fuel _ _ rest (by omega) ?_
      exact ih (fun c hc => hlisted c (List.mem_cons_of_mem a hc)) (by rw [List.map_cons]; omega)

end

/-- The items of a list are read one after the other, up to the bracket that closes it. -/
theorem items?_commas {v : Json} {vs : List Json} (hreads : ∀ w ∈ v :: vs, Reads w)
    (hfuel : 2 * (commas ((v :: vs).map fun w => w.render.toList)).length < fuel) :
    items? fuel (commas ((v :: vs).map fun w => w.render.toList) ++ ']' :: rest) =
      some (v :: vs, rest) := by
  have hlisted : ∀ w ∈ v :: vs, Listed items? (fun w => w.render.toList) id ']' w := by
    intro w hw
    constructor
    · intro fuel rest hfuel
      rw [items?_succ, hreads w hw fuel _ (ends_cons (.inr (.inl rfl))) hfuel]
      rfl
    · intro fuel more ws rest hfuel hws
      rw [items?_succ, hreads w hw fuel _ (ends_cons (.inl rfl)) hfuel]
      exact Option.map_eq_some_iff.mpr ⟨_, hws, rfl⟩
  rw [Listed.commas hlisted hfuel rest, List.map_id]

/-- The members of an object are read one after the other, up to the brace that closes it. -/
theorem members?_commas {m : String × Json} {ms : List (String × Json)}
    (hreads : ∀ w ∈ m :: ms, Reads w.2)
    (hfuel : 2 * (commas ((m :: ms).map memberText)).length < fuel) :
    members? fuel (commas ((m :: ms).map memberText) ++ '\x7d' :: rest) =
      some ((m :: ms).map fun w => (some w.1, w.2), rest) := by
  refine Listed.commas (fun w hw => ?_) hfuel rest
  have hlength : w.2.render.toList.length ≤ (memberText w).length := by
    rw [memberText, List.length_append, List.length_cons]
    omega
  constructor
  · intro fuel rest hfuel
    rw [members?_memberText, hreads w hw fuel _ (ends_cons (.inr (.inr rfl))) (by omega)]
    rfl
  · intro fuel more ws rest hfuel hws
    rw [members?_memberText, hreads w hw fuel _ (ends_cons (.inl rfl)) (by omega)]
    exact Option.map_eq_some_iff.mpr ⟨_, hws, rfl⟩

/-- A list is written between brackets, with commas between its items. -/
theorem toList_render_arr (items : List Json) :
    (arr items).render.toList = '[' :: (commas (items.map fun v => v.render.toList) ++ [']']) := by
  have hitems : renderItems items = items.map render := by
    induction items with
    | nil => rfl
    | cons v items ih => rw [renderItems, ih, List.map_cons]
  rw [render, hitems, commaSeparated, String.toList_append, String.toList_append,
    String.toList_intercalate, List.map_map]
  rfl

/-- An object is written between braces, with commas between its members. -/
theorem toList_render_obj (members : List (String × Json)) :
    (obj members).render.toList = '\x7b' :: (commas (members.map memberText) ++ ['\x7d']) := by
  have hmembers : renderMembers members =
      members.map fun m => renderString m.1 ++ ":" ++ m.2.render := by
    induction members with
    | nil => rfl
    | cons m members ih => rw [renderMembers, ih, List.map_cons]
  have htext : (String.toList ∘ fun m : String × Json => renderString m.1 ++ ":" ++ m.2.render) =
      memberText := by
    funext m
    rw [Function.comp_apply, String.toList_append, String.toList_append, List.append_assoc]
    rfl
  rw [render, hmembers, commaSeparated, String.toList_append, String.toList_append,
    String.toList_intercalate, List.map_map, htext]
  rfl

/-- The values that are read back: integers that 64 bits hold, signed or unsigned, finite doubles
that the arithmetic of the reader gives back, and what is made of such values. -/
inductive Readable : Json → Prop
  | null : Readable .null
  | bool (b : Bool) : Readable (.bool b)
  | int {i : Int} (hlow : -(Nat.pow 2 63 : Int) ≤ i) (hhigh : i < (Nat.pow 2 64 : Int)) :
      Readable (.int i)
  | float {x : Binary64} (hfinite : x.isFinite = true) (h : ReadsBack x) : Readable (.float x)
  | str (s : String) : Readable (.str s)
  | arr {items : List Json} (h : ∀ v ∈ items, Readable v) : Readable (.arr items)
  | obj {members : List (String × Json)} (h : ∀ m ∈ members, Readable m.2) :
      Readable (.obj members)

/-- A text that is read as a numeral opens like a value. -/
theorem opens_of_read? {n : Numeral} (h : Numeral.read? cs = some (n, rest)) : Opens cs := by
  obtain ⟨c, more, rfl, hc⟩ := Numeral.eq_cons_of_read? h
  refine ⟨c, more, rfl, ?_, ?_, ?_⟩
  · rintro (rfl | rfl | rfl | rfl) <;> exact absurd hc (by decide)
  · rintro rfl
    exact absurd hc (by decide)
  · rintro rfl
    exact absurd hc (by decide)

/-- A value that can be read back opens like one. -/
theorem Readable.opens {v : Json} (h : Readable v) : Opens v.render.toList := by
  cases h with
  | null => exact ⟨'n', _, rfl, by decide⟩
  | bool b =>
      cases b with
      | false => exact ⟨'f', _, rfl, by decide⟩
      | true => exact ⟨'t', _, rfl, by decide⟩
  | int hlow hhigh =>
      obtain ⟨n, hread, -⟩ := Numeral.exists_of_toString hlow hhigh
      exact opens_of_read? hread
  | float hfinite h =>
      obtain ⟨n, hread, -⟩ := h
      exact opens_of_read? hread
  | str s => exact ⟨'"', _, toList_renderString s, by decide⟩
  | @arr items h => exact ⟨'[', _, toList_render_arr items, by decide⟩
  | @obj members h => exact ⟨'\x7b', _, toList_render_obj members, by decide⟩

/-- Something is written for the value, so the reader may take a step. -/
theorem Reads.of_step {v : Json} (hv : Readable v)
    (h : ∀ fuel behind, Ends behind → 2 * v.render.toList.length ≤ fuel + 1 →
      value? (fuel + 1) (v.render.toList ++ behind) = some (v, behind)) : Reads v := by
  intro fuel behind hends hfuel
  obtain ⟨c, cs, hcs, -⟩ := hv.opens
  have hpos : fuel ≠ 0 := by
    rw [hcs, List.length_cons] at hfuel
    omega
  obtain ⟨fuel, rfl⟩ := Nat.exists_eq_succ_of_ne_zero hpos
  exact h fuel behind hends hfuel

/-- The text of a readable value is read as that value, whatever follows it. -/
theorem Readable.reads {v : Json} (h : Readable v) : Reads v := by
  induction h with
  | null => exact .of_step .null fun _ _ _ _ => value?_null
  | bool b =>
      refine .of_step (.bool b) fun _ _ _ _ => ?_
      cases b with
      | false => exact value?_false
      | true => exact value?_true
  | int hlow hhigh =>
      refine .of_step (.int hlow hhigh) fun _ _ hends _ => ?_
      obtain ⟨n, hread, hvalue⟩ := Numeral.exists_of_toString hlow hhigh
      rw [render, ← hvalue]
      exact value?_numeral hread hends
  | float hfinite h =>
      refine .of_step (.float hfinite h) fun _ _ hends _ => ?_
      obtain ⟨n, hread, hvalue⟩ := h.exists hfinite
      rw [render, ← hvalue]
      exact value?_numeral hread hends
  | str s => exact .of_step (.str s) fun _ _ _ _ => value?_str s
  | @arr items h ih =>
      refine .of_step (.arr h) fun fuel behind _ hfuel => ?_
      rw [toList_render_arr, List.length_cons, List.length_append] at hfuel
      rw [toList_render_arr, List.cons_append, List.append_assoc]
      cases items with
      | nil => exact value?_bracket
      | cons v items =>
          have hopens := (h v List.mem_cons_self).opens.commas (items.map fun w => w.render.toList)
          exact value?_arr (hopens.append _) (items?_commas ih (by omega))
  | @obj members h ih =>
      refine .of_step (.obj h) fun fuel behind _ hfuel => ?_
      rw [toList_render_obj, List.length_cons, List.length_append] at hfuel
      rw [toList_render_obj, List.cons_append, List.append_assoc]
      cases members with
      | nil => exact value?_brace
      | cons m members =>
          have hopens := (opens_memberText m).commas (members.map memberText)
          exact value?_obj (hopens.append _) (members?_commas ih (by omega))

/-- The text of a readable value is read as that value. -/
theorem Readable.read?_render {v : Json} (h : Readable v) : read? v.render = some v := by
  have hread := h.reads (2 * v.render.toList.length + 1) [] Ends.nil (Nat.le_succ _)
  rw [List.append_nil] at hread
  rw [read?]
  dsimp only
  rw [hread]
  rfl

end SlotQuery.Json
