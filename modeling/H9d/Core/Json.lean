import Mathlib.Data.BitVec
import Mathlib.Data.List.Forall2

/-! # JSON values

The values of the JSON library and the accesses that can fail. A string is a `std::string`: its
characters are its bytes. The members of an object are kept in the order of their names. What a
conversion from or to a floating point number gives is left to the machine.
-/

namespace Nlohmann

inductive Json
  | null
  | boolean (b : Bool)
  | string (s : String)
  | numberInteger (i : BitVec 64)
  | numberUnsigned (n : BitVec 64)
  /-- the bits of a `double` -/
  | numberFloat (x : BitVec 64)
  | array (elems : List Json)
  | object (members : List (String × Json))
  deriving Inhabited

/-- The exceptions of an access: a value of another type, or a key that `std::map::at` misses. -/
inductive AccessError
  | typeError (what : String)
  | outOfRange (what : String)
  deriving DecidableEq, Repr

def AccessError.what : AccessError → String
  | typeError what | outOfRange what => what

theorem ok_bind {ε α β : Type} (a : α) (f : α → Except ε β) : Except.ok a >>= f = f a := rfl

theorem error_bind {ε α β : Type} (e : ε) (f : α → Except ε β) : Except.error e >>= f = .error e := rfl

theorem bind_eq_ok {ε α β : Type} {x : Except ε α} {f : α → Except ε β} {b : β} :
    x >>= f = .ok b ↔ ∃ a, x = .ok a ∧ f a = .ok b := by
  cases x with
  | ok a => simp [ok_bind]
  | error e => simp [error_bind]

/-- The machine's conversions of floating point numbers. -/
structure FloatCast where
  toInteger : BitVec 64 → (w : ℕ) → BitVec w
  narrow : BitVec 64 → BitVec 32
  widen : BitVec 32 → BitVec 64
  ofInteger : BitVec 64 → BitVec 32
  ofUnsigned : BitVec 64 → BitVec 32
  deriving Inhabited

/-- Lookup in a `std::map` with `at`. -/
def atKey {α : Type} (members : List (String × α)) (key : String) : Except AccessError α :=
  match members.lookup key with
  | some value => .ok value
  | none => .error (.outOfRange "map::at")

namespace Json

def typeName : Json → String
  | null => "null"
  | boolean _ => "boolean"
  | string _ => "string"
  | numberInteger _ | numberUnsigned _ | numberFloat _ => "number"
  | array _ => "array"
  | object _ => "object"

/-- The exception of a `get` that asks for another type. -/
def mustBe (wanted : String) (j : Json) : AccessError :=
  .typeError s!"[json.exception.type_error.302] type must be {wanted}, but is {j.typeName}"

def getString : Json → Except AccessError String
  | string s => .ok s
  | j => .error (j.mustBe "string")

def getBool : Json → Except AccessError Bool
  | boolean b => .ok b
  | j => .error (j.mustBe "boolean")

section Numbers

variable (cast : FloatCast)

/-- `get` for an integer type of `w` bits other than `int64_t` and `uint64_t`: a plain conversion. -/
def getNumber (w : ℕ) : Json → Except AccessError (BitVec w)
  | numberUnsigned n => .ok (n.setWidth w)
  | numberInteger i => .ok (i.setWidth w)
  | numberFloat x => .ok (cast.toInteger x w)
  | boolean b => .ok ((BitVec.ofBool b).setWidth w)
  | j => .error (j.mustBe "number")

/-- `get<std::int64_t>`, which a Boolean is no number for. -/
def getInteger : Json → Except AccessError (BitVec 64)
  | numberUnsigned n => .ok n
  | numberInteger i => .ok i
  | numberFloat x => .ok (cast.toInteger x 64)
  | j => .error (j.mustBe "number")

/-- `get<float>`, as the bits of the result. -/
def getFloat : Json → Except AccessError (BitVec 32)
  | numberUnsigned n => .ok (cast.ofUnsigned n)
  | numberInteger i => .ok (cast.ofInteger i)
  | numberFloat x => .ok (cast.narrow x)
  | boolean b => .ok (cast.ofUnsigned ((BitVec.ofBool b).setWidth 64))
  | j => .error (j.mustBe "number")

/-- `get<std::vector<std::uint8_t>>`: the elements are converted one after the other. -/
def getBytes : Json → Except AccessError (List (BitVec 8))
  | array elems => elems.mapM (getNumber cast 8)
  | j => .error (j.mustBe "array")

end Numbers

/-- The members; a value that is no object has none. -/
def members : Json → List (String × Json)
  | object members => members
  | _ => []

/-- `count` and `contains`. -/
def contains (j : Json) (key : String) : Bool := (j.members.lookup key).isSome

/-- An optional member: `if (j.count(key)) … j.at(key).get<…>()`. -/
def optional {α : Type} (j : Json) (key : String) (get : Json → Except AccessError α) :
    Except AccessError (Option α) :=
  match j.members.lookup key with
  | some value => some <$> get value
  | none => .ok none

def ofByte (b : BitVec 8) : Json := numberUnsigned (b.setWidth 64)
def ofUInt16 (n : BitVec 16) : Json := numberUnsigned (n.setWidth 64)
def ofBytes (bytes : List (BitVec 8)) : Json := array (bytes.map ofByte)
def ofStrings (strings : List String) : Json := array (strings.map string)

theorem ofUInt16_inj {m n : BitVec 16} (same : ofUInt16 m = ofUInt16 n) : m = n := by
  have numbers := congrArg BitVec.toNat (numberUnsigned.inj same)
  rw [BitVec.toNat_setWidth_of_le (by decide), BitVec.toNat_setWidth_of_le (by decide)] at numbers
  exact BitVec.eq_of_toNat_eq numbers

end Json

/-! ## Integers -/

namespace Json

/-- The integer that a value is. -/
def integer? : Json → Option ℤ
  | numberInteger i => some i.toInt
  | numberUnsigned n => some n.toNat
  | _ => none

/-- If the value is an integer, it is this number. -/
def Denotes {w : ℕ} (value : Json) (n : BitVec w) : Prop := ∀ i, value.integer? = some i → (n.toNat : ℤ) = i

/-- If the value is an integer, it is a natural number below the bound. -/
def Within (value : Json) (bound : ℕ) : Prop := ∀ i, value.integer? = some i → 0 ≤ i ∧ i < bound

variable (cast : FloatCast)

theorem setWidth_denotes {x : BitVec 64} {i : ℤ} (w : ℕ) (same : i = x.toNat ∨ i < 0) :
    ((x.setWidth w).toNat : ℤ) = i ↔ 0 ≤ i ∧ i < (2 ^ w : ℕ) := by
  have bound := (x.setWidth w).isLt
  constructor
  · intro exact
    omega
  · rintro ⟨natural, below⟩
    have fits : x.toNat < 2 ^ w := by omega
    rw [BitVec.toNat_setWidth, Nat.mod_eq_of_lt fits]
    omega

/-- The conversion keeps the integers that fit, and no others. -/
theorem denotes_iff_within {w : ℕ} {value : Json} {n : BitVec w} (read : getNumber cast w value = .ok n) :
    value.Denotes n ↔ value.Within (2 ^ w) := by
  cases value with
  | numberUnsigned x =>
    cases read
    simpa [Denotes, Within, integer?] using setWidth_denotes w (.inl rfl : (x.toNat : ℤ) = x.toNat ∨ _)
  | numberInteger x =>
    cases read
    have same : x.toInt = x.toNat ∨ x.toInt < 0 := by
      rw [BitVec.toInt_eq_toNat_cond]
      have bound := x.isLt
      split <;> omega
    simpa [Denotes, Within, integer?] using setWidth_denotes w same
  | null | boolean | string | numberFloat | array | object => exact iff_of_true nofun nofun

theorem Denotes.within {w : ℕ} {value : Json} {n : BitVec w} (denotes : value.Denotes n) :
    value.Within (2 ^ w) := by
  intro i integer
  have same := denotes i integer
  have bound := n.isLt
  omega

theorem within_of_denote {w : ℕ} {elems : List Json} {numbers : List (BitVec w)}
    (denote : List.Forall₂ Denotes elems numbers) : ∀ elem ∈ elems, elem.Within (2 ^ w) := by
  induction denote with
  | nil => exact nofun
  | cons first later ih => exact List.forall_mem_cons.mpr ⟨first.within, ih⟩

theorem Within.mono {value : Json} {bound bound' : ℕ} (within : value.Within bound) (le : bound ≤ bound') :
    value.Within bound' := by
  intro i integer
  have inside := within i integer
  omega

/-- The elements of an array are converted one by one. -/
theorem getBytes_numbers {elems : List Json} {bytes : List (BitVec 8)}
    (read : getBytes cast (.array elems) = .ok bytes) :
    List.Forall₂ (fun elem b => getNumber cast 8 elem = .ok b) elems bytes := by
  rw [getBytes] at read
  induction elems generalizing bytes with
  | nil =>
    cases read
    exact .nil
  | cons elem elems ih =>
    rw [List.mapM_cons] at read
    obtain ⟨b, first, rest⟩ := bind_eq_ok.mp read
    obtain ⟨bytes, later, ⟨⟩⟩ := bind_eq_ok.mp rest
    exact .cons first (ih later)

theorem getBytes_denote {elems : List Json} {bytes : List (BitVec 8)}
    (read : getBytes cast (.array elems) = .ok bytes) (within : ∀ elem ∈ elems, elem.Within (2 ^ 8)) :
    List.Forall₂ Denotes elems bytes := by
  have numbers := getBytes_numbers cast read
  clear read
  induction numbers with
  | nil => exact .nil
  | cons first later ih =>
    rw [List.forall_mem_cons] at within
    exact .cons ((denotes_iff_within cast first).mpr within.1) (ih within.2)

end Json

section Members

/-- An integer that is given under the key is this number. -/
def Exactly {w : ℕ} (members : List (String × Json)) (key : String) (n : BitVec w) : Prop :=
  ∀ value, members.lookup key = some value → value.Denotes n

/-- An integer that is given under the key is a natural number below the bound. -/
def Fits (members : List (String × Json)) (key : String) (bound : ℕ) : Prop :=
  ∀ value, members.lookup key = some value → value.Within bound

theorem exactly_iff_fits (cast : FloatCast) {w : ℕ} {members : List (String × Json)} {key : String}
    {n : BitVec w} (read : ∀ value, members.lookup key = some value → Json.getNumber cast w value = .ok n) :
    Exactly members key n ↔ Fits members key (2 ^ w) :=
  forall₂_congr fun value found => Json.denotes_iff_within cast (read value found)

end Members

end Nlohmann
