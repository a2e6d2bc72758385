import Mathlib.Data.List.Zip
import SlotQuery.Proofs.Json.Texts

/-!
# Values decode to what was encoded

For each type with a JSON form and a reader there are two facts: the reader takes the JSON form of a
value for that value (`ofJson?_toJson`), and the text of the form is read as the form
(`readable_toJson`).  Records share the first one through `Json.record?_zip`: fields with different
names each find their own value.

A cell has no mark of its kind.  The reader still cannot take one kind for another, since each kind
has JSON values of its own: integers, doubles, strings, truth values, `null`, and arrays.  The only
doubles without a JSON value of their own are those that are no numbers.

`encoded_values_decode` states all of this together.
-/

namespace SlotQuery

open Json (Readable)
open Json.Numeral (ReadsBack)
open Number (Binary64)

/-- Among members with different keys, a key finds its own member alone. -/
theorem filter_key_eq {β : Type} {members : List (String × β)}
    (hkeys : (members.map Prod.fst).Nodup)
    {key : String} {value : β} (h : (key, value) ∈ members) :
    members.filter (fun m => m.1 = key) = [(key, value)] := by
  induction members with
  | nil => cases h
  | cons m members ih =>
      rw [List.map_cons, List.nodup_cons] at hkeys
      obtain ⟨hfirst, hrest⟩ := hkeys
      rcases List.mem_cons.mp h with rfl | hmem
      · have hnone : members.filter (fun m => m.1 = key) = [] := by
          refine List.filter_eq_nil_iff.mpr fun m hm hkey => ?_
          rw [decide_eq_true_eq] at hkey
          exact hfirst (List.mem_map.mpr ⟨m, hm, hkey⟩)
        rw [List.filter_cons_of_pos (by simp), hnone]
      · have hother : m.1 ≠ key := fun hkey => hfirst (List.mem_map.mpr ⟨_, hmem, hkey.symm⟩)
        rw [List.filter_cons_of_neg (by simpa using hother), ih hrest hmem]

/-- A record is read back from an object with its fields. -/
theorem Json.record?_zip {names : List String} (hnames : names.Nodup) {values : List Json}
    (hlength : names.length = values.length) :
    Json.record? names (.obj (names.zip values)) = some values := by
  have hkeys : ((names.zip values).map Prod.fst).Nodup := by
    rwa [List.map_fst_zip hlength.le]
  refine mapM_eq_some_iff.mpr (List.forall₂_iff_zip.mpr ⟨hlength, fun {name value} hmem => ?_⟩)
  rw [filter_key_eq hkeys hmem]

theorem Json.readable_zip {names : List String} {values : List Json}
    (h : ∀ v ∈ values, Readable v) : Readable (.obj (names.zip values)) :=
  .obj fun _ hm => h _ (List.of_mem_zip hm).2

theorem Number.toInt64?_toInt (i : Int64) : Number.toInt64? i.toInt = some i := by
  rw [Number.toInt64?, if_pos (Number.fitsInt64_toInt i), Int64.ofInt_toInt]

/-- A byte survives the way through a JSON integer. -/
theorem Json.byte?_toNat (b : UInt8) : Json.byte? (.int b.toNat) = some b := by
  have hfits : (0 : Int) ≤ b.toNat ∧ (b.toNat : Int) < 256 := by
    have := b.toNat_lt
    omega
  rw [Json.byte?, if_pos hfits, Int.toNat_natCast, UInt8.ofNat_toNat]

theorem Json.int32?_toInt (i : Int32) : Json.int32? (.int i.toInt) = some i := by
  rw [Json.int32?, if_pos ⟨Int32.minValue_le_toInt i, Int32.toInt_le i⟩, Int32.ofInt_toInt]

/-- An integer can be read back if it fits into 64 bits. -/
theorem Json.readable_int {i : Int} (hlow : -9223372036854775808 ≤ i)
    (hhigh : i ≤ 9223372036854775807) : Readable (.int i) := by
  have hmax : (9223372036854775807 : Int) < (Nat.pow 2 64 : Int) := by decide
  exact .int hlow (by omega)

/-- A 64-bit integer can be read back. -/
theorem Json.readable_ofInt64 (i : Int64) : Readable (Json.ofInt64 i) := by
  have hlow := Int64.le_toInt i
  have hhigh := Int64.toInt_lt i
  exact readable_int (by omega) (by omega)

theorem Json.ofDouble_of_isFinite {x : Binary64} (h : x.isFinite = true) :
    Json.ofDouble x = .float x :=
  if_pos h

theorem Json.ofDouble_of_not_isFinite {x : Binary64} (h : x.isFinite = false) :
    Json.ofDouble x = .null :=
  if_neg (Bool.eq_false_iff.mp h)

/-- The JSON of a double can be read back if the reader's arithmetic gives finite ones back. -/
theorem Json.readable_ofDouble {x : Binary64} (h : x.isFinite = true → ReadsBack x) :
    Readable (Json.ofDouble x) := by
  cases hfinite : x.isFinite with
  | true =>
      rw [ofDouble_of_isFinite hfinite]
      exact .float hfinite (h hfinite)
  | false =>
      rw [ofDouble_of_not_isFinite hfinite]
      exact .null

/-- A cell is decoded from its JSON, if it holds no double that JSON has no number for. -/
theorem Cell.ofJson?_toJson {c : Cell} (h : ∀ x, c = .float x → x.isFinite = true) :
    Cell.ofJson? c.toJson = some c := by
  cases c with
  | text s => rfl
  | bool b => rfl
  | null => rfl
  | int i =>
      rw [toJson, Json.ofInt64, ofJson?, Number.toInt64?_toInt]
  | float x =>
      rw [toJson, Json.ofDouble_of_isFinite (h x rfl), ofJson?]
  | blob bytes =>
      rw [toJson, ofJson?, mapM_map_eq_some Json.byte?_toNat, Option.map_some]

/-- The JSON of a cell can be read back as JSON. -/
theorem Cell.readable_toJson {c : Cell} (h : ∀ x, c = .float x → x.isFinite = true → ReadsBack x) :
    Readable c.toJson := by
  cases c with
  | text s => exact .str s
  | bool b => exact .bool b
  | null => exact .null
  | int i => exact Json.readable_ofInt64 i
  | float x => exact Json.readable_ofDouble (h x rfl)
  | blob bytes =>
      refine .arr fun v hv => ?_
      obtain ⟨b, -, rfl⟩ := List.mem_map.mp hv
      have := b.toNat_lt
      exact Json.readable_int (by omega) (by omega)

/-- The value of a parameter, without its type. -/
def Param.valueJson : Param → Json
  | .integer i => Json.ofInt64 i
  | .double x => Json.ofDouble x
  | .string s => .str s

theorem Param.toJson_eq (p : Param) :
    p.toJson = .obj (["type", "value"].zip [.str p.type.name, p.valueJson]) := by
  cases p <;> rfl

/-- The value of a parameter is decoded under its type. -/
theorem Param.ofTyped?_valueJson {p : Param} (h : ∀ x, p = .double x → x.isFinite = true) :
    Param.ofTyped? p.type.name p.valueJson = some p := by
  cases p with
  | string s => rfl
  | integer i =>
      rw [valueJson, type, ParamType.name, ofTyped?, Json.ofInt64, Json.int64?,
        Number.toInt64?_toInt, Option.map_some]
  | double x =>
      rw [valueJson, Json.ofDouble_of_isFinite (h x rfl)]
      rfl

/-- A parameter is decoded from its JSON. -/
theorem Param.ofJson?_toJson {p : Param} (h : ∀ x, p = .double x → x.isFinite = true) :
    Param.ofJson? p.toJson = some p := by
  rw [toJson_eq, ofJson?, Json.record?_zip (by decide) rfl]
  exact ofTyped?_valueJson h

/-- The JSON of a parameter can be read back as JSON. -/
theorem Param.readable_toJson {p : Param}
    (h : ∀ x, p = .double x → x.isFinite = true → ReadsBack x) : Readable p.toJson := by
  have hvalue : Readable p.valueJson := by
    cases p with
    | integer i => exact Json.readable_ofInt64 i
    | double x => exact Json.readable_ofDouble (h x rfl)
    | string s => exact .str s
  rw [toJson_eq]
  refine Json.readable_zip ?_
  simp only [List.forall_mem_cons]
  exact ⟨.str _, hvalue, List.forall_mem_nil _⟩

theorem Markers.ofJson?_toJson (m : Markers) : Markers.ofJson? m.toJson = some m := rfl

/-- The JSON of markers can be read back as JSON. -/
theorem Markers.readable_toJson (m : Markers) : Readable m.toJson := by
  refine .arr ?_
  simp only [List.forall_mem_cons]
  exact ⟨.str _, .str _, List.forall_mem_nil _⟩

/-- Settings are decoded from their JSON. -/
theorem Settings.ofJson?_toJson (s : Settings) : Settings.ofJson? s.toJson = some s := by
  have hrows : Json.int64? (Json.ofInt64 s.maxInsertRows) = some s.maxInsertRows :=
    Number.toInt64?_toInt s.maxInsertRows
  rw [ofJson?, toJson, Json.record?_zip (by decide) rfl]
  simp only [hrows, Markers.ofJson?_toJson, Json.str?, Json.bool?, Option.bind_eq_bind,
    Option.bind_some, Option.pure_def]

/-- The JSON of settings can be read back as JSON. -/
theorem Settings.readable_toJson (s : Settings) : Readable s.toJson := by
  refine Json.readable_zip ?_
  simp only [List.forall_mem_cons]
  exact ⟨.str _, Json.readable_ofInt64 _, .bool _, .bool _, .bool _, s.delimiters.readable_toJson,
    s.rawFragment.readable_toJson, .bool _, List.forall_mem_nil _⟩

/-- A driver's report, as a record of its two fields. -/
theorem DriverError.toJson_eq (e : DriverError) :
    e.toJson = .obj (["code", "message"].zip [.int e.code.toInt, .str e.message]) := rfl

/-- An error of a driver is decoded from its JSON. -/
theorem DriverError.ofJson?_toJson (e : DriverError) :
    DriverError.ofJson? e.toJson = some e := by
  rw [ofJson?, toJson_eq, Json.record?_zip (by decide) rfl]
  simp only [Json.int32?_toInt, Json.str?, Option.bind_eq_bind, Option.bind_some, Option.pure_def]

/-- The JSON of an error can be read back as JSON. -/
theorem DriverError.readable_toJson (e : DriverError) : Readable e.toJson := by
  have hlow := Int32.le_toInt e.code
  have hhigh := Int32.toInt_lt e.code
  rw [toJson_eq]
  refine Json.readable_zip ?_
  simp only [List.forall_mem_cons]
  exact ⟨Json.readable_int (by omega) (by omega), .str _, List.forall_mem_nil _⟩

/-- Reads a text as a value of a type that is read from JSON values. -/
def Json.decode? {α : Type} (ofJson? : Json → Option α) (text : String) : Option α :=
  (Json.read? text).bind ofJson?

theorem Json.Readable.decode?_render {α : Type} {ofJson? : Json → Option α} {j : Json}
    (h : Readable j) : Json.decode? ofJson? j.render = ofJson? j := by
  rw [Json.decode?, h.read?_render, Option.bind_some]

/-- Encoding a value and decoding it again gives back the value, from its JSON form and from the
text of that form.  Of a cell and a parameter this holds if it is no infinity and no NaN, and from
the text, if the double in it is read back from its digits.  Nothing is asked of any other cell, so
no cell is decoded as one of another kind: not an integer as a double or the other way, not a text
that spells a number or a null, and not an empty blob.  An infinity or a NaN comes back as the
absent value. -/
theorem encoded_values_decode :
    (∀ c : Cell, (∀ x, c = .float x → x.isFinite = true) →
      Cell.ofJson? c.toJson = some c ∧
        ((∀ x, c = .float x → ReadsBack x) →
          Json.decode? Cell.ofJson? c.toJson.render = some c)) ∧
    (∀ x : Binary64, x.isFinite = false →
      Cell.ofJson? (Cell.float x).toJson = some .null ∧
        Json.decode? Cell.ofJson? (Cell.float x).toJson.render = some .null) ∧
    (∀ p : Param, (∀ x, p = .double x → x.isFinite = true) →
      Param.ofJson? p.toJson = some p ∧
        ((∀ x, p = .double x → ReadsBack x) →
          Json.decode? Param.ofJson? p.toJson.render = some p)) ∧
    (∀ m : Markers, Markers.ofJson? m.toJson = some m ∧
      Json.decode? Markers.ofJson? m.toJson.render = some m) ∧
    (∀ s : Settings, Settings.ofJson? s.toJson = some s ∧
      Json.decode? Settings.ofJson? s.toJson.render = some s) ∧
    ∀ e : DriverError, DriverError.ofJson? e.toJson = some e ∧
      Json.decode? DriverError.ofJson? e.toJson.render = some e := by
  refine ⟨fun c hc => ?_, fun x hx => ?_, fun p hp => ?_, fun m => ?_, fun s => ?_, fun e => ?_⟩
  · refine ⟨c.ofJson?_toJson hc, fun hreads => ?_⟩
    rw [(c.readable_toJson fun x hx _ => hreads x hx).decode?_render, c.ofJson?_toJson hc]
  · have hnull : (Cell.float x).toJson = .null := Json.ofDouble_of_not_isFinite hx
    rw [hnull, Json.Readable.null.decode?_render]
    exact ⟨rfl, rfl⟩
  · refine ⟨p.ofJson?_toJson hp, fun hreads => ?_⟩
    rw [(p.readable_toJson fun x hx _ => hreads x hx).decode?_render, p.ofJson?_toJson hp]
  · rw [m.readable_toJson.decode?_render]
    exact ⟨m.ofJson?_toJson, m.ofJson?_toJson⟩
  · rw [s.readable_toJson.decode?_render]
    exact ⟨s.ofJson?_toJson, s.ofJson?_toJson⟩
  · rw [e.readable_toJson.decode?_render]
    exact ⟨e.ofJson?_toJson, e.ofJson?_toJson⟩

/-- Zero with a sign comes back with it, and `1.0` comes back as a double. -/
theorem encoded_values_decode_of_whole_doubles :
    (Cell.float (.zero true)).toJson.render = "-0.0" ∧
      Json.decode? Cell.ofJson? "-0.0" = some (.float (.zero true)) ∧
      (Param.double ⟨0x3FF0000000000000⟩).toJson.render =
        "\x7b\"type\":\"double\",\"value\":1.0\x7d" ∧
      Json.decode? Param.ofJson? "\x7b\"type\":\"double\",\"value\":1.0\x7d" =
        some (.double ⟨0x3FF0000000000000⟩) := by
  have hzero : ReadsBack (Binary64.zero true) := ⟨⟨true, ['0'], some ['0'], none⟩, rfl, rfl⟩
  have hone : ReadsBack ⟨0x3FF0000000000000⟩ := ⟨⟨false, ['1'], some ['0'], none⟩, rfl, rfl⟩
  have hcell : (Cell.float (.zero true)).toJson.render = "-0.0" := by decide
  have hparam : (Param.double ⟨0x3FF0000000000000⟩).toJson.render =
      "\x7b\"type\":\"double\",\"value\":1.0\x7d" := by decide
  refine ⟨hcell, ?_, hparam, ?_⟩
  · rw [← hcell]
    refine (encoded_values_decode.1 (.float (.zero true)) ?_).2 ?_
    · rintro x ⟨⟩
      decide
    · rintro x ⟨⟩
      exact hzero
  · rw [← hparam]
    refine (encoded_values_decode.2.2.1 (.double ⟨0x3FF0000000000000⟩) ?_).2 ?_
    · rintro x ⟨⟩
      decide
    · rintro x ⟨⟩
      exact hone

end SlotQuery
