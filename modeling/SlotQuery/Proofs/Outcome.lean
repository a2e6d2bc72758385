import Mathlib.Data.List.Forall2

/-!
# Results of several steps

Much of what is computed here can fail at every step, and succeeds only if each of its steps has.
For two steps in a row this is `exists_of_bind_eq_ok`, and for a step at each element of a list
`forall₂_of_mapM`, which `eq_map_of_mapM` and `exists_of_mapM` read in two ways.  Steps that give no
reason when they fail have `mapM_eq_some_iff` for this.
-/

namespace SlotQuery

variable {ε α β : Type} {b : β}

/-- What two steps in a row come to, each of them has come to its part of. -/
theorem exists_of_bind_eq_ok {r : Except ε α} {f : α → Except ε β} (h : r >>= f = .ok b) :
    ∃ a, r = .ok a ∧ f a = .ok b := by
  cases r with
  | error e => cases h
  | ok a => exact ⟨a, rfl, h⟩

/-- What `map` makes a success of was one before. -/
theorem exists_of_map_eq_ok {r : Except ε α} {f : α → β} (h : r.map f = .ok b) :
    ∃ a, r = .ok a ∧ f a = b := by
  cases r with
  | error e => cases h
  | ok a => exact ⟨a, rfl, Except.ok.inj h⟩

/-- What `map` leaves as a failure was the same failure before. -/
theorem eq_error_of_map {r : Except ε α} {f : α → β} {e : ε} (h : r.map f = .error e) :
    r = .error e := by
  cases r with
  | error e' =>
      rw [Except.error.inj h]
  | ok a => cases h

/-- What every step keeps, a row of steps that goes through keeps. -/
theorem foldlM_preserves {P : β → Prop} {f : β → α → Except ε β}
    (hstep : ∀ {b x b'}, P b → f b x = .ok b' → P b') {xs : List α} {b' : β} (hb : P b)
    (h : xs.foldlM f b = .ok b') : P b' := by
  induction xs generalizing b with
  | nil =>
      rw [← Except.ok.inj h]
      exact hb
  | cons x xs ih =>
      rw [List.foldlM_cons] at h
      obtain ⟨mid, hfirst, hrest⟩ := exists_of_bind_eq_ok h
      exact ih (hstep hb hfirst) hrest

/-- A row of steps that goes through has counted what each of its steps counts. -/
theorem countP_of_foldlM {p : α → Bool} {f : β × Nat → α → Except ε (β × Nat)}
    (hstep : ∀ {b x b'}, f b x = .ok b' → b'.2 = b.2 + if p x then 1 else 0) {xs : List α}
    {b b' : β × Nat} (h : xs.foldlM f b = .ok b') : b'.2 = b.2 + xs.countP p := by
  induction xs generalizing b with
  | nil =>
      cases h
      rfl
  | cons x xs ih =>
      rw [List.foldlM_cons] at h
      obtain ⟨mid, hfirst, hrest⟩ := exists_of_bind_eq_ok h
      rw [ih hrest, hstep hfirst, List.countP_cons]
      omega

section

variable {f : α → Except ε β} {g : α → β} {xs : List α} {ys : List β}

/-- A function that succeeds on every element goes through the list as a plain map. -/
theorem mapM_eq_ok (h : ∀ x ∈ xs, f x = .ok (g x)) : xs.mapM f = .ok (xs.map g) := by
  induction xs with
  | nil => rfl
  | cons x xs ih =>
      obtain ⟨hx, hrest⟩ := List.forall_mem_cons.mp h
      rw [List.mapM_cons, hx, ih hrest]
      rfl

/-- A traversal that succeeds has succeeded at each element. -/
theorem forall₂_of_mapM (h : xs.mapM f = .ok ys) :
    List.Forall₂ (fun x y => f x = .ok y) xs ys := by
  induction xs generalizing ys with
  | nil =>
      rw [← Except.ok.inj h]
      exact .nil
  | cons x xs ih =>
      rw [List.mapM_cons] at h
      obtain ⟨y, hx, htail⟩ := exists_of_bind_eq_ok h
      obtain ⟨rest, hrest, hpure⟩ := exists_of_bind_eq_ok htail
      rw [← Except.ok.inj hpure]
      exact .cons hx (ih hrest)

/-- Where every success is a value known beforehand, going through the list is a plain map. -/
theorem eq_map_of_mapM (hf : ∀ {x y}, f x = .ok y → y = g x) (h : xs.mapM f = .ok ys) :
    ys = xs.map g := by
  have hall := (forall₂_of_mapM h).imp fun _ _ => hf
  clear h
  induction hall with
  | nil => rfl
  | cons hx _ ih => rw [hx, ih, List.map_cons]

/-- Whoever gets through the list has succeeded on each element of it. -/
theorem exists_of_mapM (h : xs.mapM f = .ok ys) {x : α} (hx : x ∈ xs) : ∃ y, f x = .ok y := by
  have hboth := (forall₂_of_mapM h).imp fun x y hy =>
    (⟨⟨y, hy⟩, hy⟩ : (∃ y, f x = .ok y) ∧ f x = .ok y)
  exact ((List.forall₂_and_left _ _).mp hboth).1 x hx

/-- A traversal that fails has failed at one of the elements. -/
theorem exists_of_mapM_eq_error {e : ε} (h : xs.mapM f = .error e) : ∃ x ∈ xs, f x = .error e := by
  induction xs with
  | nil => cases h
  | cons x xs ih =>
      rw [List.mapM_cons] at h
      cases hx : f x with
      | error e' =>
          rw [hx] at h
          obtain rfl := Except.error.inj h
          exact ⟨x, List.mem_cons_self, hx⟩
      | ok y =>
          rw [hx] at h
          cases hrest : xs.mapM f with
          | error e' =>
              rw [hrest] at h
              obtain rfl := Except.error.inj h
              obtain ⟨x', hx', herror⟩ := ih hrest
              exact ⟨x', List.mem_cons_of_mem x hx', herror⟩
          | ok ys =>
              rw [hrest] at h
              cases h

/-- A traversal gives what each of its steps gives. -/
theorem mapM_eq_some_iff {f : α → Option β} :
    xs.mapM f = some ys ↔ List.Forall₂ (fun x y => f x = some y) xs ys := by
  induction xs generalizing ys with
  | nil => simp [eq_comm]
  | cons x xs ih =>
      rw [List.mapM_cons, List.forall₂_cons_left_iff]
      simp only [Option.bind_eq_bind, Option.pure_def, Option.bind_eq_some_iff, Option.some.injEq,
        ih]
      constructor
      · rintro ⟨y, hy, tail, htail, rfl⟩
        exact ⟨y, tail, hy, htail, rfl⟩
      · rintro ⟨y, tail, hy, htail, rfl⟩
        exact ⟨y, hy, tail, htail, rfl⟩

/-- A traversal undoes a map if its step undoes the map's function. -/
theorem mapM_map_eq_some {f : α → Option β} {g : β → α} (h : ∀ y, f (g y) = some y)
    (ys : List β) : (ys.map g).mapM f = some ys :=
  mapM_eq_some_iff.mpr (List.forall₂_map_left_iff.mpr (List.forall₂_same.mpr fun y _ => h y))

end

end SlotQuery
