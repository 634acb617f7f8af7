import H9d.Core.Json
import H9d.Core.Utf8

/-! # JSON texts

A value that is written as a text and read again is the same, but for one thing: the text of an
integer does not say whether it was signed, and a reader takes one without a minus sign for an
unsigned one. That is so where all strings are UTF-8 and all numbers finite: a number that is not is
written as `null`, and of a string that is not UTF-8 the writer throws, or replaces its bytes. The
library that writes and reads texts is a parameter, with what it documents.
-/

namespace Nlohmann

namespace Json

mutual

/-- What a reader makes of the text of a value. -/
def reread : Json → Json
  | .null => .null
  | .boolean b => .boolean b
  | .string s => .string s
  | .numberInteger i => if i.msb then .numberInteger i else .numberUnsigned i
  | .numberUnsigned n => .numberUnsigned n
  | .numberFloat x => .numberFloat x
  | .array elems => .array (rereadElems elems)
  | .object members => .object (rereadMembers members)

def rereadElems : List Json → List Json
  | [] => []
  | elem :: elems => elem.reread :: rereadElems elems

def rereadMembers : List (String × Json) → List (String × Json)
  | [] => []
  | (key, value) :: members => (key, value.reread) :: rereadMembers members

end

theorem rereadElems_eq (elems : List Json) : rereadElems elems = elems.map reread := by
  induction elems with
  | nil => rfl
  | cons elem elems ih => simp only [rereadElems, ih, List.map_cons]

theorem lookup_rereadMembers (key : String) (members : List (String × Json)) :
    (rereadMembers members).lookup key = (members.lookup key).map reread := by
  induction members with
  | nil => rfl
  | cons member members ih =>
    obtain ⟨name, value⟩ := member
    rw [rereadMembers, List.lookup_cons, List.lookup_cons]
    cases key == name with
    | true => rfl
    | false => exact ih

/-- What does not tell a signed integer from an unsigned one does not see the text. -/
theorem apply_reread_numberInteger {α : Type*} (f : Json → α) (i : BitVec 64)
    (same : f (.numberUnsigned i) = f (.numberInteger i)) :
    f (numberInteger i).reread = f (.numberInteger i) := by
  rw [reread]
  cases i.msb with
  | true => rfl
  | false => exact same

@[simp] theorem typeName_reread (j : Json) : j.reread.typeName = j.typeName := by
  cases j with
  | numberInteger i => exact apply_reread_numberInteger typeName i rfl
  | _ => rfl

@[simp] theorem mustBe_reread (wanted : String) (j : Json) : j.reread.mustBe wanted = j.mustBe wanted := by
  simp only [mustBe, typeName_reread]

theorem members_reread (j : Json) : j.reread.members = rereadMembers j.members := by
  cases j with
  | numberInteger i => exact apply_reread_numberInteger members i rfl
  | _ => rfl

@[simp] theorem lookup_reread (j : Json) (key : String) :
    j.reread.members.lookup key = (j.members.lookup key).map reread := by
  rw [members_reread, lookup_rereadMembers]

@[simp] theorem getString_reread (j : Json) : j.reread.getString = j.getString := by
  cases j with
  | numberInteger i => exact apply_reread_numberInteger getString i rfl
  | _ => rfl

@[simp] theorem getNumber_reread (cast : FloatCast) (w : ℕ) (j : Json) :
    getNumber cast w j.reread = getNumber cast w j := by
  cases j with
  | numberInteger i => exact apply_reread_numberInteger (getNumber cast w) i rfl
  | _ => rfl

/-! ## What a text can hold -/

mutual

/-- The strings of a value, and the names of its members. -/
def strings : Json → List String
  | .string s => [s]
  | .array elems => stringsElems elems
  | .object members => stringsMembers members
  | .null | .boolean _ | .numberInteger _ | .numberUnsigned _ | .numberFloat _ => []

def stringsElems : List Json → List String
  | [] => []
  | elem :: elems => elem.strings ++ stringsElems elems

def stringsMembers : List (String × Json) → List String
  | [] => []
  | (key, value) :: members => key :: value.strings ++ stringsMembers members

end

/-- The value can be written by a writer that is strict about UTF-8. -/
def IsUtf8 (j : Json) : Prop := ∀ s ∈ j.strings, Utf8.Valid s

instance (j : Json) : Decidable j.IsUtf8 := inferInstanceAs (Decidable (∀ s ∈ j.strings, Utf8.Valid s))

section IsUtf8

@[simp] theorem isUtf8_null : null.IsUtf8 := nofun

@[simp] theorem isUtf8_boolean (b : Bool) : (boolean b).IsUtf8 := nofun

@[simp] theorem isUtf8_string (s : String) : (string s).IsUtf8 ↔ Utf8.Valid s := List.forall_mem_singleton

@[simp] theorem isUtf8_numberInteger (i : BitVec 64) : (numberInteger i).IsUtf8 := nofun

@[simp] theorem isUtf8_numberUnsigned (n : BitVec 64) : (numberUnsigned n).IsUtf8 := nofun

@[simp] theorem isUtf8_numberFloat (x : BitVec 64) : (numberFloat x).IsUtf8 := nofun

@[simp] theorem isUtf8_array (elems : List Json) : (array elems).IsUtf8 ↔ ∀ elem ∈ elems, elem.IsUtf8 := by
  change (∀ s ∈ stringsElems elems, Utf8.Valid s) ↔ _
  induction elems with
  | nil => exact iff_of_true nofun nofun
  | cons elem elems ih => rw [stringsElems, List.forall_mem_append, ih, List.forall_mem_cons, IsUtf8]

/-- The members of an object can be written. -/
def AreUtf8 (members : List (String × Json)) : Prop :=
  ∀ member ∈ members, Utf8.Valid member.1 ∧ member.2.IsUtf8

@[simp] theorem isUtf8_object (members : List (String × Json)) : (object members).IsUtf8 ↔ AreUtf8 members := by
  change (∀ s ∈ stringsMembers members, Utf8.Valid s) ↔ _
  induction members with
  | nil => exact iff_of_true nofun nofun
  | cons member members ih =>
    obtain ⟨key, value⟩ := member
    rw [stringsMembers, List.cons_append, List.forall_mem_cons, List.forall_mem_append, ih, AreUtf8, AreUtf8,
      List.forall_mem_cons, IsUtf8, and_assoc]

@[simp] theorem areUtf8_nil : AreUtf8 [] := nofun

@[simp] theorem areUtf8_cons (key : String) (value : Json) (members : List (String × Json)) :
    AreUtf8 ((key, value) :: members) ↔ (Utf8.Valid key ∧ value.IsUtf8) ∧ AreUtf8 members := List.forall_mem_cons

@[simp] theorem areUtf8_append (first second : List (String × Json)) :
    AreUtf8 (first ++ second) ↔ AreUtf8 first ∧ AreUtf8 second := List.forall_mem_append

end IsUtf8

/-- The exponent of an infinity or of what is no number has no zero bit. -/
def isFinite (x : BitVec 64) : Bool := (x >>> 52).setWidth 11 != 0x7ff

mutual

/-- The value with `null` for every number that is not finite, which is how the text says it. -/
def finite : Json → Json
  | .numberFloat x => if isFinite x then .numberFloat x else .null
  | .array elems => .array (finiteElems elems)
  | .object members => .object (finiteMembers members)
  | j => j

def finiteElems : List Json → List Json
  | [] => []
  | elem :: elems => elem.finite :: finiteElems elems

def finiteMembers : List (String × Json) → List (String × Json)
  | [] => []
  | (key, value) :: members => (key, value.finite) :: finiteMembers members

end

mutual

def floats : Json → List (BitVec 64)
  | .numberFloat x => [x]
  | .array elems => floatsElems elems
  | .object members => floatsMembers members
  | .null | .boolean _ | .string _ | .numberInteger _ | .numberUnsigned _ => []

def floatsElems : List Json → List (BitVec 64)
  | [] => []
  | elem :: elems => elem.floats ++ floatsElems elems

def floatsMembers : List (String × Json) → List (BitVec 64)
  | [] => []
  | (_, value) :: members => value.floats ++ floatsMembers members

end

mutual

theorem finite_eq_self : (j : Json) → (∀ x ∈ j.floats, isFinite x = true) → j.finite = j
  | .null, _ | .boolean _, _ | .string _, _ | .numberInteger _, _ | .numberUnsigned _, _ => rfl
  | .numberFloat x, all => by rw [finite, if_pos (all x (List.mem_singleton_self x))]
  | .array elems, all => by rw [finite, finiteElems_eq_self elems all]
  | .object members, all => by rw [finite, finiteMembers_eq_self members all]

theorem finiteElems_eq_self : (elems : List Json) → (∀ x ∈ floatsElems elems, isFinite x = true) →
    finiteElems elems = elems
  | [], _ => rfl
  | elem :: elems, all => by
    obtain ⟨first, later⟩ := List.forall_mem_append.mp all
    rw [finiteElems, finite_eq_self elem first, finiteElems_eq_self elems later]

theorem finiteMembers_eq_self : (members : List (String × Json)) →
    (∀ x ∈ floatsMembers members, isFinite x = true) → finiteMembers members = members
  | [], _ => rfl
  | (key, value) :: members, all => by
    obtain ⟨first, later⟩ := List.forall_mem_append.mp all
    rw [finiteMembers, finite_eq_self value first, finiteMembers_eq_self members later]

end

/-- The text says the value: all strings are UTF-8 and all numbers finite. -/
def IsText (j : Json) : Prop := j.IsUtf8 ∧ ∀ x ∈ j.floats, isFinite x = true

instance (j : Json) : Decidable j.IsText := inferInstanceAs (Decidable (_ ∧ _))

theorem forall_floats_array {P : BitVec 64 → Prop} {elems : List Json} :
    (∀ x ∈ (array elems).floats, P x) ↔ ∀ elem ∈ elems, ∀ x ∈ elem.floats, P x := by
  rw [floats]
  induction elems with
  | nil => exact iff_of_true nofun nofun
  | cons elem elems ih => rw [floatsElems, List.forall_mem_append, ih, List.forall_mem_cons]

theorem forall_floats_object {P : BitVec 64 → Prop} {members : List (String × Json)} :
    (∀ x ∈ (object members).floats, P x) ↔ ∀ member ∈ members, ∀ x ∈ member.2.floats, P x := by
  rw [floats]
  induction members with
  | nil => exact iff_of_true nofun nofun
  | cons member members ih => rw [floatsMembers, List.forall_mem_append, ih, List.forall_mem_cons]

theorem isText_array {elems : List Json} : (array elems).IsText ↔ ∀ elem ∈ elems, elem.IsText := by
  rw [IsText, isUtf8_array, forall_floats_array]
  exact forall₂_and.symm

/-- A value through its text, if its strings are UTF-8. -/
def throughText? (j : Json) : Option Json := if j.IsUtf8 then some j.finite.reread else none

theorem throughText?_of_isUtf8 {j : Json} (isUtf8 : j.IsUtf8) : j.throughText? = some j.finite.reread :=
  if_pos isUtf8

theorem throughText?_of_isText {j : Json} (isText : j.IsText) : j.throughText? = some j.reread := by
  rw [throughText?_of_isUtf8 isText.1, finite_eq_self j isText.2]

theorem throughText?_eq_some {j k : Json} : j.throughText? = some k ↔ j.IsUtf8 ∧ j.finite.reread = k := by
  rw [throughText?, Option.ite_none_right_eq_some, Option.some.injEq]

end Json

/-- A library that writes values as texts and reads texts. `Keeps` says which values a text can hold:
all strings are UTF-8 and all numbers are finite. -/
structure TextFormat where
  dump : Json → List (BitVec 8)
  parse : List (BitVec 8) → Option Json
  Keeps : Json → Prop

/-- What the library documents: control characters are escaped, and a text is read as what was written. -/
structure TextFormat.Documented (format : TextFormat) : Prop where
  parse_dump : ∀ j, format.Keeps j → format.parse (format.dump j) = some j.reread
  nonempty : ∀ j, format.dump j ≠ []
  plain : ∀ j, 0 ∉ format.dump j

/-- The texts of the three literals. -/
def TextFormat.literals : TextFormat where
  dump
    | .boolean true => [0x74, 0x72, 0x75, 0x65]
    | .boolean false => [0x66, 0x61, 0x6c, 0x73, 0x65]
    | _ => [0x6e, 0x75, 0x6c, 0x6c]
  parse text :=
    if text = [0x74, 0x72, 0x75, 0x65] then some (.boolean true)
    else if text = [0x66, 0x61, 0x6c, 0x73, 0x65] then some (.boolean false)
    else if text = [0x6e, 0x75, 0x6c, 0x6c] then some .null
    else none
  Keeps j := j = .null ∨ j = .boolean true ∨ j = .boolean false

theorem TextFormat.documented_literals : TextFormat.literals.Documented where
  parse_dump := by
    rintro j (rfl | rfl | rfl)
    · rfl
    · rfl
    · rfl
  nonempty j := by
    simp only [literals]
    split <;> exact List.cons_ne_nil _ _
  plain j := by
    simp only [literals]
    split <;> decide

end Nlohmann
