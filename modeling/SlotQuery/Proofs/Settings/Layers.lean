import SlotQuery.Proofs.Outcome
import SlotQuery.Proofs.Text.ByteOrder
import SlotQuery.Session.Configuration

/-!
# Settings in layers

Overrides are entries with loosely spelled names, and several spellings of one name can stand in
one layer.  Each entry does one of three things (`applyEntry_cases`): it names no setting and does
nothing, it gives a setting a new value, or its value has the wrong shape and fails the layer.

From this follows what a layer does: a setting takes the value of the last entry that names it
(`get_of_entries`), and a layer fails at the first entry that does not fit (`entries_eq_error_iff`).
The entries of a layer stand in the byte order of their spellings, whatever they were built from
(`Overrides.ordered_ofList`), so first and last are a matter of spelling and not of the order in
which somebody wrote them down.

`effective_of_layers` says what the three layers of process, session and call come to, and
`Reached.wellFormed` what is true of all settings that layers lead to.
-/

namespace SlotQuery

open Text

namespace Settings

/-- What a setting holds. -/
def Key.Value : Key → Type
  | .charset => String
  | .maxInsertRows => Int64
  | .noRowsAsArray | .omitSingleKey | .rowsIndexed | .throwErrors => Bool
  | .delimiters | .rawFragment => Markers

/-- What a JSON value means to a setting, if it has the right shape for it. -/
def Key.read? : (k : Key) → Json → Option k.Value
  | .charset => charsetOf?
  | .maxInsertRows => integerOf?
  | .noRowsAsArray | .omitSingleKey | .rowsIndexed | .throwErrors => flagOf?
  | .delimiters | .rawFragment => markersOf?

/-- What one of the settings holds. -/
def get (s : Settings) : (k : Key) → k.Value
  | .charset => s.charset
  | .maxInsertRows => s.maxInsertRows
  | .noRowsAsArray => s.noRowsAsArray
  | .omitSingleKey => s.omitSingleKey
  | .rowsIndexed => s.rowsIndexed
  | .delimiters => s.delimiters
  | .rawFragment => s.rawFragment
  | .throwErrors => s.throwErrors

/-- The settings with another value for one of them. -/
def put (s : Settings) : (k : Key) → k.Value → Settings
  | .charset, x => { s with charset := x }
  | .maxInsertRows, x => { s with maxInsertRows := x }
  | .noRowsAsArray, x => { s with noRowsAsArray := x }
  | .omitSingleKey, x => { s with omitSingleKey := x }
  | .rowsIndexed, x => { s with rowsIndexed := x }
  | .delimiters, x => { s with delimiters := x }
  | .rawFragment, x => { s with rawFragment := x }
  | .throwErrors, x => { s with throwErrors := x }

@[simp] theorem get_put (s : Settings) (k : Key) (x : k.Value) : (s.put k x).get k = x := by
  cases k <;> rfl

theorem get_put_of_ne (s : Settings) {k other : Key} (h : other ≠ k) (x : k.Value) :
    (s.put k x).get other = s.get other := by
  cases k <;> cases other <;> first | rfl | exact absurd rfl h

/-- All settings are changed in the same way. -/
theorem set?_eq (s : Settings) (k : Key) (v : Json) : s.set? k v = (k.read? v).map (s.put k) := by
  cases k <;> rfl

/-- The entry names the setting, and its value does not fit. -/
def Misfit (k : Key) (entry : String × Json) : Prop :=
  Key.ofSpelling? entry.1 = some k ∧ k.read? entry.2 = none

/-- The failure of a layer over an entry. -/
def misfitError (k : Key) (entry : String × Json) : Error :=
  .config (.wrongShape k entry.2.render)

theorem applyEntry_of_misfit {k : Key} {entry : String × Json} (h : Misfit k entry)
    (s : Settings) : applyEntry s entry = .error (misfitError k entry) := by
  simp only [applyEntry, h.1, set, set?_eq, h.2, Option.map_none, misfitError]

/-- What an entry does, it does to all settings alike. -/
theorem applyEntry_cases (entry : String × Json) :
    (Key.ofSpelling? entry.1 = none ∧ ∀ s, applyEntry s entry = .ok s) ∨
      (∃ k x, Key.ofSpelling? entry.1 = some k ∧ k.read? entry.2 = some x ∧
        ∀ s, applyEntry s entry = .ok (s.put k x)) ∨
      ∃ k, Misfit k entry ∧ ∀ s, applyEntry s entry = .error (misfitError k entry) := by
  cases hname : Key.ofSpelling? entry.1 with
  | none => exact .inl ⟨rfl, fun s => by rw [applyEntry, hname]⟩
  | some k =>
      cases hread : k.read? entry.2 with
      | some x =>
          refine .inr (.inl ⟨k, x, rfl, hread, fun s => ?_⟩)
          simp only [applyEntry, hname, set, set?_eq, hread, Option.map_some]
      | none =>
          have hmisfit : Misfit k entry := ⟨hname, hread⟩
          exact .inr (.inr ⟨k, hmisfit, applyEntry_of_misfit hmisfit⟩)

/-- An entry that fits somewhere, or nowhere at all, does not fail. -/
theorem exists_applyEntry {entry : String × Json} (h : ∀ k, ¬ Misfit k entry) (s : Settings) :
    ∃ s', applyEntry s entry = .ok s' := by
  rcases applyEntry_cases entry with ⟨-, happly⟩ | ⟨k, x, -, -, happly⟩ | ⟨k, hk, -⟩
  · exact ⟨s, happly s⟩
  · exact ⟨s.put k x, happly s⟩
  · exact absurd hk (h k)

/-- A setting has the value of the last entry that names it, or the value that it had before. -/
theorem get_of_entries {entries : List (String × Json)} {s s' : Settings}
    (h : entries.foldlM applyEntry s = .ok s') (k : Key) :
    ((∀ entry ∈ entries, Key.ofSpelling? entry.1 ≠ some k) ∧ s'.get k = s.get k) ∨
      ∃ front entry back, entries = front ++ entry :: back ∧
        Key.ofSpelling? entry.1 = some k ∧
        (∀ other ∈ back, Key.ofSpelling? other.1 ≠ some k) ∧
        k.read? entry.2 = some (s'.get k) := by
  induction entries generalizing s with
  | nil =>
      refine .inl ⟨fun entry hentry => absurd hentry List.not_mem_nil, ?_⟩
      rw [← Except.ok.inj h]
  | cons entry rest ih =>
      rw [List.foldlM_cons] at h
      obtain ⟨mid, hfirst, hrest⟩ := exists_of_bind_eq_ok h
      rcases ih hrest with ⟨hsilent, hkept⟩ | ⟨front, last, back, rfl, hlast⟩
      · rcases applyEntry_cases entry with ⟨hname, happly⟩ | ⟨k', x, hname, hread, happly⟩ |
          ⟨k', -, happly⟩
        · rw [happly] at hfirst
          rw [← Except.ok.inj hfirst] at hkept
          refine .inl ⟨List.forall_mem_cons.mpr ⟨?_, hsilent⟩, hkept⟩
          rw [hname]
          exact Option.some_ne_none k |>.symm
        · rw [happly] at hfirst
          rw [← Except.ok.inj hfirst] at hkept
          by_cases hk : k' = k
          · subst hk
            rw [get_put] at hkept
            exact .inr ⟨[], entry, rest, rfl, hname, hsilent, by rw [hread, hkept]⟩
          · rw [get_put_of_ne s (Ne.symm hk)] at hkept
            refine .inl ⟨List.forall_mem_cons.mpr ⟨?_, hsilent⟩, hkept⟩
            rw [hname]
            exact fun heq => hk (Option.some.inj heq)
        · rw [happly] at hfirst
          cases hfirst
      · exact .inr ⟨entry :: front, last, back, rfl, hlast⟩

/-- Entries that all fit do not fail. -/
theorem exists_entries {entries : List (String × Json)}
    (h : ∀ entry ∈ entries, ∀ k, ¬ Misfit k entry) (s : Settings) :
    ∃ s', entries.foldlM applyEntry s = .ok s' := by
  induction entries generalizing s with
  | nil => exact ⟨s, rfl⟩
  | cons entry rest ih =>
      obtain ⟨hentry, hrest⟩ := List.forall_mem_cons.mp h
      obtain ⟨mid, hmid⟩ := exists_applyEntry hentry s
      obtain ⟨s', hs'⟩ := ih hrest mid
      exact ⟨s', by rw [List.foldlM_cons, hmid]; exact hs'⟩

/-- One entry that does not fit fails the layer. -/
theorem exists_entries_error {entries : List (String × Json)} {entry : String × Json}
    (hentry : entry ∈ entries) {k : Key} (hk : Misfit k entry) (s : Settings) :
    ∃ error, entries.foldlM applyEntry s = .error error := by
  induction entries generalizing s with
  | nil => exact absurd hentry List.not_mem_nil
  | cons first rest ih =>
      rw [List.foldlM_cons]
      by_cases hfits : ∀ k, ¬ Misfit k first
      · rcases List.mem_cons.mp hentry with rfl | hrest
        · exact absurd hk (hfits k)
        · obtain ⟨mid, hmid⟩ := exists_applyEntry hfits s
          rw [hmid]
          exact ih hrest mid
      · obtain ⟨k', hk'⟩ := not_forall_not.mp hfits
        exact ⟨misfitError k' first, by rw [applyEntry_of_misfit hk']; rfl⟩

/-- A layer fails over the first entry that does not fit, whatever the settings and whatever comes
after it. -/
theorem entries_eq_error_iff {entries : List (String × Json)} {s : Settings} {error : Error} :
    entries.foldlM applyEntry s = .error error ↔
      ∃ front entry back k, entries = front ++ entry :: back ∧
        (∀ other ∈ front, ∀ k', ¬ Misfit k' other) ∧ Misfit k entry ∧
        error = misfitError k entry := by
  constructor
  · intro h
    induction entries generalizing s with
    | nil => cases h
    | cons entry rest ih =>
        rw [List.foldlM_cons] at h
        by_cases hfits : ∀ k, ¬ Misfit k entry
        · obtain ⟨mid, hmid⟩ := exists_applyEntry hfits s
          rw [hmid] at h
          obtain ⟨front, other, back, k, rfl, hfront, hother⟩ := ih h
          exact ⟨entry :: front, other, back, k, rfl,
            List.forall_mem_cons.mpr ⟨hfits, hfront⟩, hother⟩
        · obtain ⟨k, hk⟩ := not_forall_not.mp hfits
          rw [applyEntry_of_misfit hk] at h
          exact ⟨[], entry, rest, k, rfl, fun other hother => absurd hother List.not_mem_nil, hk,
            (Except.error.inj h).symm⟩
  · rintro ⟨front, entry, back, k, rfl, hfront, hk, rfl⟩
    obtain ⟨mid, hmid⟩ := exists_entries hfront s
    rw [List.foldlM_append, hmid]
    simp only [bind, Except.bind, List.foldlM_cons, applyEntry_of_misfit hk]

/-- Overrides fail for what is wrong with them. -/
theorem exists_fault_of_override {s : Settings} {o : Overrides} {e : Error}
    (h : s.override o = .error e) : ∃ fault, e = .config fault := by
  obtain ⟨front, entry, back, k, -, -, -, rfl⟩ := entries_eq_error_iff.mp h
  exact ⟨_, rfl⟩

/-- Entries that name no setting might as well not be there. -/
theorem entries_recognized (entries : List (String × Json)) (s : Settings) :
    (entries.filter fun entry => (Key.ofSpelling? entry.1).isSome).foldlM applyEntry s =
      entries.foldlM applyEntry s := by
  induction entries generalizing s with
  | nil => rfl
  | cons entry rest ih =>
      rw [List.filter_cons, List.foldlM_cons]
      cases hname : Key.ofSpelling? entry.1 with
      | none =>
          have hsame : applyEntry s entry = .ok s := by rw [applyEntry, hname]
          rw [hsame]
          exact ih s
      | some k =>
          rw [Option.isSome_some, if_pos rfl, List.foldlM_cons]
          exact bind_congr ih

/-- A character set is named, and both pairs of markers can be scanned for. -/
structure WellFormed (s : Settings) : Prop where
  charset : s.charset ≠ ""
  delimiters : s.delimiters.Usable
  rawFragment : s.rawFragment.Usable

/-- The settings that nobody has changed are well-formed. -/
theorem wellFormed_builtin : WellFormed .builtin where
  charset := by decide
  delimiters := by decide
  rawFragment := by decide

/-- A charset that is read has a name. -/
theorem charset_ne_of_read {v : Json} {x : String} (h : charsetOf? v = some x) : x ≠ "" := by
  unfold charsetOf? at h
  split at h
  · split_ifs at h with hne
    rw [← Option.some.inj h]
    exact hne
  · cases h

/-- Markers that are read can be used. -/
theorem usable_of_read {v : Json} {m : Markers} (h : markersOf? v = some m) : m.Usable := by
  unfold markersOf? at h
  split at h
  · split_ifs at h with husable
    rw [← Option.some.inj h]
    exact husable
  · cases h

/-- A value that was read keeps settings well-formed. -/
theorem WellFormed.put {s : Settings} (hs : s.WellFormed) {k : Key} {v : Json} {x : k.Value}
    (hx : k.read? v = some x) : (s.put k x).WellFormed := by
  cases k with
  | charset => exact { hs with charset := charset_ne_of_read hx }
  | delimiters => exact { hs with delimiters := usable_of_read hx }
  | rawFragment => exact { hs with rawFragment := usable_of_read hx }
  | maxInsertRows | noRowsAsArray | omitSingleKey | rowsIndexed | throwErrors => exact { hs with }

/-- A layer keeps settings well-formed. -/
theorem WellFormed.override {s s' : Settings} (hs : s.WellFormed) {changes : Overrides}
    (h : s.override changes = .ok s') : s'.WellFormed := by
  refine foldlM_preserves (fun {mid entry mid'} hmid hstep => ?_) hs h
  rcases applyEntry_cases entry with ⟨-, happly⟩ | ⟨k, x, -, hread, happly⟩ | ⟨k, -, happly⟩
  · rw [happly] at hstep
    rw [← Except.ok.inj hstep]
    exact hmid
  · rw [happly] at hstep
    rw [← Except.ok.inj hstep]
    exact hmid.put hread
  · rw [happly] at hstep
    cases hstep

/-- The built-in settings, and all that overrides make of them. -/
inductive Reached : Settings → Prop
  | builtin : Reached .builtin
  | override {s s' : Settings} {changes : Overrides} (h : Reached s)
      (hs : s.override changes = .ok s') : Reached s'

/-- Whatever layers lead to is well-formed. -/
theorem Reached.wellFormed {s : Settings} (h : s.Reached) : s.WellFormed := by
  induction h with
  | builtin => exact wellFormed_builtin
  | override h hs ih => exact ih.override hs

end Settings

namespace Overrides

open Settings (Key Misfit misfitError)

/-- The entries stand in the byte order of their spellings, one for each spelling. -/
def Ordered (o : Overrides) : Prop :=
  o.entries.Pairwise fun a b => bytes a.1 < bytes b.1

instance (o : Overrides) : Decidable o.Ordered :=
  inferInstanceAs (Decidable (List.Pairwise _ _))

/-- Of the entries that name the setting, this is the last one in byte order. -/
structure Decides (o : Overrides) (k : Key) (entry : String × Json) : Prop where
  mem : entry ∈ o.entries
  names : Key.ofSpelling? entry.1 = some k
  last : ∀ other ∈ o.entries, Key.ofSpelling? other.1 = some k → bytes other.1 ≤ bytes entry.1

/-- No entry names the setting. -/
def Silent (o : Overrides) (k : Key) : Prop :=
  ∀ entry ∈ o.entries, Key.ofSpelling? entry.1 ≠ some k

/-- Of the entries that do not fit their setting, this is the first one in byte order. -/
structure Fails (o : Overrides) (k : Key) (entry : String × Json) : Prop where
  mem : entry ∈ o.entries
  misfit : Misfit k entry
  first : ∀ other ∈ o.entries, ∀ k', Misfit k' other → bytes entry.1 ≤ bytes other.1

/-- The entries that name a setting. -/
def recognized (o : Overrides) : Overrides :=
  ⟨o.entries.filter fun entry => (Key.ofSpelling? entry.1).isSome⟩

theorem override_recognized (s : Settings) (o : Overrides) :
    s.override o.recognized = s.override o :=
  Settings.entries_recognized o.entries s

/-- In a sorted layer the entries in front have the smaller spellings and those behind the larger
ones. -/
theorem Ordered.before {o : Overrides} (h : o.Ordered) {front back : List (String × Json)}
    {entry : String × Json} (hentries : o.entries = front ++ entry :: back) :
    (∀ other ∈ front, bytes other.1 < bytes entry.1) ∧
      ∀ other ∈ back, bytes entry.1 < bytes other.1 := by
  rw [Ordered, hentries, List.pairwise_append, List.pairwise_cons] at h
  exact ⟨fun other hother => h.2.2 other hother entry List.mem_cons_self, h.2.1.1⟩

/-- In a layer that goes through, a setting that is named takes the value of the entry that decides
it, and every other setting stays. -/
theorem get_of_override {o : Overrides} (ho : o.Ordered) {s s' : Settings}
    (h : s.override o = .ok s') (k : Key) :
    (o.Silent k ∧ s'.get k = s.get k) ∨
      ∃ entry, o.Decides k entry ∧ k.read? entry.2 = some (s'.get k) := by
  rcases Settings.get_of_entries h k with
    hsilent | ⟨front, entry, back, hentries, hname, hback, hread⟩
  · exact .inl hsilent
  · have hmem : entry ∈ o.entries := by
      rw [hentries]
      exact List.mem_append_right _ List.mem_cons_self
    refine .inr ⟨entry, ⟨hmem, hname, fun other hother hother' => ?_⟩, hread⟩
    rw [hentries, List.mem_append, List.mem_cons] at hother
    rcases hother with hfront | rfl | hrest
    · exact List.le_of_lt ((ho.before hentries).1 other hfront)
    · exact List.le_refl _
    · exact absurd hother' (hback other hrest)

/-- A layer fails over the first of its entries that does not fit, and over nothing else. -/
theorem override_eq_error_iff {o : Overrides} (ho : o.Ordered) {s : Settings} {error : Error} :
    s.override o = .error error ↔ ∃ k entry, o.Fails k entry ∧ error = misfitError k entry := by
  rw [Settings.override, Settings.entries_eq_error_iff]
  constructor
  · rintro ⟨front, entry, back, k, hentries, hfront, hmisfit, rfl⟩
    have hmem : entry ∈ o.entries := by
      rw [hentries]
      exact List.mem_append_right _ List.mem_cons_self
    refine ⟨k, entry, ⟨hmem, hmisfit, fun other hother k' hother' => ?_⟩, rfl⟩
    rw [hentries, List.mem_append, List.mem_cons] at hother
    rcases hother with hbefore | rfl | hrest
    · exact absurd hother' (hfront other hbefore k')
    · exact List.le_refl _
    · exact List.le_of_lt ((ho.before hentries).2 other hrest)
  · rintro ⟨k, entry, hfails, rfl⟩
    obtain ⟨front, back, hentries⟩ := List.append_of_mem hfails.mem
    refine ⟨front, entry, back, k, hentries, fun other hother k' hother' => ?_, hfails.misfit, rfl⟩
    have hmem : other ∈ o.entries := by
      rw [hentries]
      exact List.mem_append_left _ hother
    exact hfails.first other hmem k' hother' ((ho.before hentries).1 other hother)

/-- One entry that does not fit is enough, even if a later one of the same name does. -/
theorem override_fails_iff {o : Overrides} {s : Settings} :
    (∃ error, s.override o = .error error) ↔ ∃ entry ∈ o.entries, ∃ k, Misfit k entry := by
  constructor
  · rintro ⟨error, h⟩
    obtain ⟨front, entry, back, k, hentries, -, hmisfit, -⟩ := Settings.entries_eq_error_iff.mp h
    exact ⟨entry, by rw [hentries]; exact List.mem_append_right _ List.mem_cons_self, k, hmisfit⟩
  · rintro ⟨entry, hentry, k, hmisfit⟩
    exact Settings.exists_entries_error hentry hmisfit s

/-- The members of an object are those that it had and the new one. -/
theorem mem_insertMember {β : Type} {key : String} {value : β} {members : List (String × β)}
    {x : String × β} (h : x ∈ Json.insertMember key value members) :
    x = (key, value) ∨ x ∈ members := by
  induction members with
  | nil => exact .inl (List.mem_singleton.mp h)
  | cons m rest ih =>
      rw [Json.insertMember] at h
      split_ifs at h
      · exact List.mem_cons.mp h
      · exact (List.mem_cons.mp h).imp_right (List.mem_cons_of_mem _)
      · rcases List.mem_cons.mp h with rfl | hrest
        · exact .inr List.mem_cons_self
        · exact (ih hrest).imp_right (List.mem_cons_of_mem _)

/-- A new member goes to its place. -/
theorem pairwise_insertMember {β : Type} {members : List (String × β)}
    (h : members.Pairwise fun a b => a.1 < b.1) (key : String) (value : β) :
    (Json.insertMember key value members).Pairwise fun a b => a.1 < b.1 := by
  induction members with
  | nil => exact List.pairwise_singleton _ _
  | cons m rest ih =>
      obtain ⟨hm, hrest⟩ := List.pairwise_cons.mp h
      rw [Json.insertMember]
      split_ifs with hlt heq
      · refine List.pairwise_cons.mpr ⟨List.forall_mem_cons.mpr ⟨hlt, fun x hx => ?_⟩, h⟩
        exact String.lt_trans hlt (hm x hx)
      · subst heq
        exact List.pairwise_cons.mpr ⟨hm, hrest⟩
      · refine List.pairwise_cons.mpr ⟨fun x hx => ?_, ih hrest⟩
        rcases mem_insertMember hx with rfl | hx
        · rcases Std.lt_trichotomy key m.1 with h' | h' | h'
          · exact absurd h' hlt
          · exact absurd h' heq
          · exact h'
        · exact hm x hx

/-- Members are sorted by the bytes of their keys. -/
theorem ordered_sortMembers (members : List (String × Json)) :
    Ordered ⟨Json.sortMembers members⟩ := by
  have hfold : ∀ sorted : List (String × Json), sorted.Pairwise (fun a b => a.1 < b.1) →
      (members.foldl (fun sorted m => Json.insertMember m.1 m.2 sorted) sorted).Pairwise
        fun a b => a.1 < b.1 := by
    induction members with
    | nil => exact fun sorted h => h
    | cons m rest ih => exact fun sorted h => ih _ (pairwise_insertMember h m.1 m.2)
  exact (hfold [] .nil).imp fun h => bytes_lt_bytes_iff.mpr h

theorem ordered_ofList (entries : List (String × Json)) : (ofList entries).Ordered :=
  ordered_sortMembers entries

/-- One entry of a layer decides a setting. -/
theorem Decides.unique {o : Overrides} (ho : o.Ordered) {k : Key} {entry other : String × Json}
    (h : o.Decides k entry) (h' : o.Decides k other) : other = entry := by
  obtain ⟨front, back, hentries⟩ := List.append_of_mem h.mem
  have hmem := h'.mem
  rw [hentries, List.mem_append, List.mem_cons] at hmem
  rcases hmem with hfront | rfl | hback
  · exact absurd ((ho.before hentries).1 other hfront) (h'.last entry h.mem h.names)
  · rfl
  · exact absurd ((ho.before hentries).2 other hback) (h.last other h'.mem h'.names)

/-- Layers are listed from the innermost.  A setting is governed by the entry that decides it in
the first layer that names it, or by none. -/
inductive Governs (k : Key) : List Overrides → Option (String × Json) → Prop
  | unnamed : Governs k [] .none
  | here {layer : Overrides} {outer : List Overrides} {entry : String × Json}
      (h : layer.Decides k entry) : Governs k (layer :: outer) (some entry)
  | further {layer : Overrides} {outer : List Overrides} {found : Option (String × Json)}
      (h : layer.Silent k) (rest : Governs k outer found) : Governs k (layer :: outer) found

/-- One entry governs a setting, or none. -/
theorem Governs.unique {k : Key} {layers : List Overrides} (hlayers : ∀ o ∈ layers, o.Ordered)
    {found other : Option (String × Json)} (h : Governs k layers found)
    (h' : Governs k layers other) : other = found := by
  induction h with
  | unnamed =>
      cases h'
      rfl
  | here hentry =>
      cases h' with
      | here hother => rw [hentry.unique (hlayers _ List.mem_cons_self) hother]
      | further hsilent => exact absurd hentry.names (hsilent _ hentry.mem)
  | further hsilent rest ih =>
      cases h' with
      | here hother => exact absurd hother.names (hsilent _ hother.mem)
      | further hsilent' rest' =>
          exact ih (fun o ho => hlayers o (List.mem_cons_of_mem _ ho)) rest'

/-- The setting has the value of the entry, or its value in the base settings. -/
def Gives (base : Settings) (k : Key) (s : Settings) : Option (String × Json) → Prop
  | some entry => k.read? entry.2 = some (s.get k)
  | .none => s.get k = base.get k

/-- One more layer over settings that are governed by those outside of it. -/
theorem Governs.override {base s s' : Settings} {k : Key} {outer : List Overrides}
    {found : Option (String × Json)} (h : Governs k outer found) (hs : Gives base k s found)
    {layer : Overrides} (hlayer : layer.Ordered) (hs' : s.override layer = .ok s') :
    ∃ found', Governs k (layer :: outer) found' ∧ Gives base k s' found' := by
  rcases get_of_override hlayer hs' k with ⟨hsilent, hkept⟩ | ⟨entry, hentry, hread⟩
  · refine ⟨found, .further hsilent h, ?_⟩
    cases found with
    | none => exact hkept.trans hs
    | some entry => exact hs.trans (congrArg some hkept.symm)
  · exact ⟨some entry, .here hentry, hread⟩

end Overrides

namespace Session

variable {World : Type}

/-- The defaults of the process become what the overrides make of them, or stay as they are. -/
theorem run_configureDefaults (changes : Overrides) (st : State World) :
    Act.run (configureDefaults changes) st =
      match st.defaults.override changes with
      | .ok updated => (.ok updated, { st with defaults := updated })
      | .error e => (.error e, st) := by
  unfold configureDefaults
  rw [Act.run_get_bind, Act.run_bind, Act.run_orThrow]
  cases st.defaults.override changes with
  | ok updated => rfl
  | error e => rfl

/-- A session keeps what the overrides make of the settings in force, or stays as it is. -/
theorem run_configure (changes : Overrides) (st : State World) :
    Act.run (configure changes) st =
      match (st.session.currentSettings st.defaults).override changes with
      | .ok updated =>
        (.ok updated, { st with session := { st.session with settings := some updated } })
      | .error e => (.error e, st) := by
  unfold configure
  rw [Act.run_bind, run_effective]
  cases (st.session.currentSettings st.defaults).override changes with
  | ok updated => rfl
  | error e => rfl

/-- A process that is configured, a session that is configured on top of it, and a call. -/
def layered (process session call : Overrides) : Act World Settings := do
  let _ ← configureDefaults process
  let _ ← configure session
  effective call

/-- A session without settings of its own goes through the layers one on top of the other. -/
theorem run_layered {st : State World} (hst : st.session.settings = none)
    (process session call : Overrides) :
    (Act.run (layered process session call) st).1 =
      (do
        let a ← st.defaults.override process
        let b ← a.override session
        b.override call) := by
  rw [layered, Act.run_bind, run_configureDefaults]
  cases st.defaults.override process with
  | error e => rfl
  | ok a =>
      dsimp only
      rw [Act.run_bind, run_configure]
      simp only [Session.currentSettings, hst, Option.getD_none]
      show _ = a.override session >>= fun b => b.override call
      cases a.override session with
      | error e => rfl
      | ok b =>
          dsimp only
          rw [run_effective]
          rfl

end Session

section

open Settings (Key Misfit misfitError)
open Overrides (Governs Gives)

/-- The three layers of a process, a session and a call, one on top of the other.

If they go through, each setting is governed by one entry at most: the last one in byte order that
names it, in the call if the call names it at all, else in the session, else in the process.  The
setting has the value of that entry, or without one its value in the base settings.  A layer that
does not go through has an entry that does not fit, and fails over the first of these in byte order;
entries that name no setting make no difference.  These are the layers that a session goes
through which is not configured yet. -/
theorem effective_of_layers {base : Settings} {process session call : Overrides}
    (hprocess : process.Ordered) (hsession : session.Ordered) (hcall : call.Ordered) :
    (∀ a b effective, base.override process = .ok a → a.override session = .ok b →
      b.override call = .ok effective → ∀ k, ∃ found,
        (∀ entry?, Governs k [call, session, process] entry? ↔ entry? = found) ∧
          Gives base k effective found) ∧
      (∀ layer ∈ [process, session, call], ∀ s : Settings,
        s.override layer.recognized = s.override layer ∧
          ((∃ error, s.override layer = .error error) ↔
            ∃ entry ∈ layer.entries, ∃ k, Misfit k entry) ∧
          ∀ error, s.override layer = .error error ↔
            ∃ k entry, layer.Fails k entry ∧ error = misfitError k entry) ∧
      ∀ {World : Type} (st : State World), st.defaults = base → st.session.settings = none →
        (Act.run (Session.layered process session call) st).1 =
          (do
            let a ← base.override process
            let b ← a.override session
            b.override call) := by
  have hordered : ∀ o ∈ [call, session, process], o.Ordered :=
    List.forall_mem_cons.mpr ⟨hcall, List.forall_mem_cons.mpr ⟨hsession,
      List.forall_mem_singleton.mpr hprocess⟩⟩
  refine ⟨fun a b effective ha hb heffective k => ?_, fun layer hlayer s => ?_,
    fun st hbase hst => ?_⟩
  · have hnone : Gives base k base none := rfl
    obtain ⟨found₁, hfound₁, hgives₁⟩ := Governs.unnamed.override hnone hprocess ha
    obtain ⟨found₂, hfound₂, hgives₂⟩ := hfound₁.override hgives₁ hsession hb
    obtain ⟨found, hfound, hgives⟩ := hfound₂.override hgives₂ hcall heffective
    refine ⟨found, fun entry? => ⟨hfound.unique hordered, ?_⟩, hgives⟩
    rintro rfl
    exact hfound
  · have hlayer' : layer.Ordered := hordered layer (by
      rw [← List.mem_reverse]
      exact hlayer)
    exact ⟨Overrides.override_recognized s layer, Overrides.override_fails_iff,
      fun error => Overrides.override_eq_error_iff hlayer'⟩
  · rw [← hbase]
    exact Session.run_layered hst process session call

/-- Two spellings of one name in the session, the later of which is `rows_indexed`. -/
theorem effective_of_layers_of_two_spellings :
    let process := Overrides.ofList [("ROWS-INDEXED", .bool false), ("charset", .str "latin1")]
    let session := Overrides.ofList [("rows_indexed", .int 1), ("rowsIndexed", .bool false)]
    let call := Overrides.ofList [("CHARSET", .str "utf16"), ("favouriteColour", .str "teal")]
    let effective := { Settings.builtin with charset := "utf16", rowsIndexed := true }
    (∃ a b, Settings.builtin.override process = .ok a ∧ a.override session = .ok b ∧
      b.override call = .ok effective) ∧
      Gives .builtin .rowsIndexed effective (some ("rows_indexed", .int 1)) := by
  intro process session call effective
  have ha : Settings.builtin.override process =
      .ok { Settings.builtin with charset := "latin1" } := by decide
  have hb : ({ Settings.builtin with charset := "latin1" } : Settings).override session =
      .ok { Settings.builtin with charset := "latin1", rowsIndexed := true } := by decide
  have hc : ({ Settings.builtin with charset := "latin1", rowsIndexed := true } : Settings).override
      call = .ok effective := by decide
  obtain ⟨found, hgoverns, hgives⟩ := (effective_of_layers (Overrides.ordered_ofList _)
    (Overrides.ordered_ofList _) (Overrides.ordered_ofList _)).1 _ _ _ ha hb hc .rowsIndexed
  have hentry : Governs .rowsIndexed [call, session, process] (some ("rows_indexed", .int 1)) := by
    refine .further (by unfold Overrides.Silent; decide) (.here ⟨?_, by decide, by decide⟩)
    exact List.mem_cons_of_mem _ List.mem_cons_self
  rw [(hgoverns _).mp hentry]
  exact ⟨⟨_, _, ha, hb, hc⟩, hgives⟩

end

end SlotQuery
